import Mathlib.Data.Finset.Card
import Mathlib.Data.List.Nodup

/-! # Tables with a unique key

A row is put into a table in the place of the row with its key, or behind all others; the rows
with a key are changed in place. Both keep the keys unique. What the rows of a kind amount to is
the set of their keys (`keysWhere`): as many as there are such rows, and a write puts a key into
it or takes one out.
-/

namespace Table

variable {ρ κ : Type} [DecidableEq κ] (key : ρ → κ) (p : ρ → Bool)

/-- No two rows have one key. -/
def Keyed (rows : List ρ) : Prop := (rows.map key).Nodup

def put (rows : List ρ) (row : ρ) : List ρ :=
  if rows.any (fun r => key r = key row) then
    rows.map fun r => if key r = key row then row else r
  else rows ++ [row]

def changeAt (rows : List ρ) (k : κ) (f : ρ → ρ) : List ρ :=
  rows.map fun r => if key r = k then f r else r

/-- The keys of the rows that satisfy `p`. -/
def keysWhere (rows : List ρ) : Finset κ := ((rows.filter p).map key).toFinset

variable {key p} {rows : List ρ} {row : ρ} {k : κ} {f : ρ → ρ}

theorem mem_keysWhere : k ∈ keysWhere key p rows ↔ ∃ r ∈ rows, p r = true ∧ key r = k := by
  unfold keysWhere
  rw [List.mem_toFinset, List.mem_map]
  constructor
  · grind
  · rintro ⟨r, hr, hp, hk⟩
    exact ⟨r, List.mem_filter.mpr ⟨hr, hp⟩, hk⟩

/-- There are as many such keys as rows. -/
theorem Keyed.card_keysWhere (h : Keyed key rows) :
    (keysWhere key p rows).card = (rows.filter p).length := by
  have hnodup : ((rows.filter p).map key).Nodup :=
    h.sublist (List.filter_sublist.map key)
  unfold keysWhere
  rw [List.toFinset_card_of_nodup hnodup, List.length_map]

omit [DecidableEq κ] in
theorem Keyed.eq_of_key (h : Keyed key rows) {r r' : ρ} (hr : r ∈ rows) (hr' : r' ∈ rows)
    (hkey : key r = key r') : r = r' :=
  List.inj_on_of_nodup_map h hr hr' hkey

/-! ## Changing rows in place -/

theorem map_key_changeAt (hf : ∀ r, key r = k → key (f r) = k) :
    (changeAt key rows k f).map key = rows.map key := by
  unfold changeAt
  rw [List.map_map]
  refine List.map_congr_left ?_
  intro r _
  by_cases hr : key r = k
  · exact (congrArg key (if_pos hr)).trans ((hf r hr).trans hr.symm)
  · exact congrArg key (if_neg hr)

theorem Keyed.changeAt (h : Keyed key rows) (hf : ∀ r, key r = k → key (f r) = k) :
    Keyed key (changeAt key rows k f) := by
  unfold Keyed
  rw [map_key_changeAt hf]
  exact h

theorem mem_changeAt {r' : ρ} : r' ∈ changeAt key rows k f ↔
    (∃ r ∈ rows, key r = k ∧ r' = f r) ∨ r' ∈ rows ∧ key r' ≠ k := by grind [changeAt]

/-- A change that makes the rows ones that do not. -/
theorem keysWhere_changeAt_of_neg (hf : ∀ r, key r = k → key (f r) = k ∧ p (f r) = false) :
    keysWhere key p (changeAt key rows k f) = (keysWhere key p rows).erase k := by
  ext k'
  rw [Finset.mem_erase, mem_keysWhere, mem_keysWhere]
  constructor
  all_goals grind [mem_changeAt]

/-! ## Putting a row -/

theorem put_of_mem (h : key row ∈ rows.map key) :
    put key rows row = changeAt key rows (key row) fun _ => row := by simp_all [put, changeAt]

theorem put_of_not_mem (h : key row ∉ rows.map key) : put key rows row = rows ++ [row] := by
  simp_all [put]

theorem Keyed.put (h : Keyed key rows) : Keyed key (put key rows row) := by
  by_cases hmem : key row ∈ rows.map key
  · rw [put_of_mem hmem]
    exact h.changeAt fun _ _ => rfl
  · grind [Keyed, put_of_not_mem]

theorem mem_put {r : ρ} : r ∈ put key rows row ↔ r = row ∨ r ∈ rows ∧ key r ≠ key row := by
  by_cases hmem : key row ∈ rows.map key
  · grind [mem_changeAt, put_of_mem]
  · grind [put_of_not_mem]

theorem keysWhere_put (hp : p row = true) :
    keysWhere key p (put key rows row) = insert (key row) (keysWhere key p rows) := by
  ext k
  rw [Finset.mem_insert, mem_keysWhere, mem_keysWhere]
  constructor
  · grind [mem_put]
  rintro (rfl | ⟨r, hr, hpr, rfl⟩)
  · exact ⟨row, mem_put.mpr (Or.inl rfl), hp, rfl⟩
  by_cases hkr : key r = key row
  · exact ⟨row, mem_put.mpr (Or.inl rfl), hp, hkr.symm⟩
  · exact ⟨r, mem_put.mpr (Or.inr ⟨hr, hkr⟩), hpr, rfl⟩

theorem keysWhere_put_of_neg (hp : p row = false)
    (hnone : ∀ r ∈ rows, key r = key row → p r = false) :
    keysWhere key p (put key rows row) = keysWhere key p rows := by
  ext k
  rw [mem_keysWhere, mem_keysWhere]
  constructor
  all_goals grind [mem_put]

theorem mem_keys_put : k ∈ (put key rows row).map key ↔ k = key row ∨ k ∈ rows.map key := by
  rw [List.mem_map, List.mem_map]
  constructor
  · grind [mem_put]
  rintro (rfl | ⟨r, hr, rfl⟩)
  · exact ⟨row, mem_put.mpr (Or.inl rfl), rfl⟩
  by_cases hkr : key r = key row
  · exact ⟨row, mem_put.mpr (Or.inl rfl), hkr.symm⟩
  · exact ⟨r, mem_put.mpr (Or.inr ⟨hr, hkr⟩), rfl⟩

/-! ## Putting several rows -/

def putAll (key : ρ → κ) (rows batch : List ρ) : List ρ := batch.foldl (put key) rows

variable {batch : List ρ}

theorem Keyed.putAll (h : Keyed key rows) : Keyed key (putAll key rows batch) := by
  induction batch generalizing rows with
  | nil => exact h
  | cons row batch ih => exact ih h.put

theorem mem_putAll (hnodup : (batch.map key).Nodup) {r : ρ} :
    r ∈ putAll key rows batch ↔ r ∈ batch ∨ r ∈ rows ∧ key r ∉ batch.map key := by
  induction batch generalizing rows with
  | nil => simp [putAll]
  | cons row batch ih =>
    rw [List.map_cons, List.nodup_cons] at hnodup
    refine (ih hnodup.2).trans ?_
    rw [mem_put]
    constructor
    · grind
    · grind

theorem keysWhere_putAll (hp : ∀ row ∈ batch, p row = true) :
    keysWhere key p (putAll key rows batch) = (batch.map key).toFinset ∪ keysWhere key p rows := by
  induction batch generalizing rows with
  | nil => simp [putAll]
  | cons row batch ih =>
    have hrest : ∀ row ∈ batch, p row = true := fun r hr => hp r (List.mem_cons_of_mem _ hr)
    refine (ih hrest).trans ?_
    rw [keysWhere_put (hp row List.mem_cons_self), List.map_cons, List.toFinset_cons,
      Finset.union_insert, Finset.insert_union]

theorem keysWhere_putAll_of_neg (hp : ∀ row ∈ batch, p row = false)
    (hnone : ∀ r ∈ rows, key r ∈ batch.map key → p r = false) :
    keysWhere key p (putAll key rows batch) = keysWhere key p rows := by
  induction batch generalizing rows with
  | nil => rfl
  | cons row batch ih =>
    have hrow : p row = false := hp row List.mem_cons_self
    have hrest : ∀ row ∈ batch, p row = false := fun r hr => hp r (List.mem_cons_of_mem _ hr)
    refine (ih hrest ?_).trans (keysWhere_put_of_neg hrow ?_)
    · grind [mem_put]
    · grind

theorem mem_keys_putAll :
    k ∈ (putAll key rows batch).map key ↔ k ∈ batch.map key ∨ k ∈ rows.map key := by
  induction batch generalizing rows with
  | nil => simp [putAll]
  | cons row batch ih =>
    refine ih.trans ?_
    rw [mem_keys_put, List.map_cons, List.mem_cons, ← or_assoc, or_comm (a := k ∈ batch.map key)]

/-! ## Changing several rows -/

def changeAll (key : ρ → κ) (rows : List ρ) (ks : List κ) (f : ρ → ρ) : List ρ :=
  ks.foldl (fun rows k => changeAt key rows k f) rows

variable {ks : List κ}

theorem map_key_changeAll (hf : ∀ r, key (f r) = key r) :
    (changeAll key rows ks f).map key = rows.map key := by
  induction ks generalizing rows with
  | nil => rfl
  | cons k ks ih =>
    refine ih.trans ?_
    exact map_key_changeAt fun r hr => (hf r).trans hr

theorem Keyed.changeAll (h : Keyed key rows) (hf : ∀ r, key (f r) = key r) :
    Keyed key (changeAll key rows ks f) := by
  unfold Keyed
  rw [map_key_changeAll hf]
  exact h

theorem keysWhere_changeAll (hf : ∀ r, key (f r) = key r ∧ p (f r) = false) :
    keysWhere key p (changeAll key rows ks f) = keysWhere key p rows \ ks.toFinset := by
  induction ks generalizing rows with
  | nil => simp [changeAll]
  | cons k ks ih =>
    refine ih.trans ?_
    rw [keysWhere_changeAt_of_neg fun r hr => ⟨(hf r).1.trans hr, (hf r).2⟩,
      List.toFinset_cons]
    ext k'
    simp only [Finset.mem_sdiff, Finset.mem_erase, Finset.mem_insert]
    tauto

/-- The rows of the other keys stay as they are. -/
theorem mem_changeAll_of_not_mem (hf : ∀ r, key (f r) = key r) {r : ρ} (hr : key r ∉ ks) :
    r ∈ changeAll key rows ks f ↔ r ∈ rows := by
  induction ks generalizing rows with
  | nil => exact Iff.rfl
  | cons k ks ih =>
    rw [List.mem_cons, not_or] at hr
    refine (ih hr.2).trans ?_
    rw [mem_changeAt]
    constructor
    · grind
    · intro hmem
      exact Or.inr ⟨hmem, hr.1⟩

end Table
