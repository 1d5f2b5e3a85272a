import Mathlib.Data.List.Nodup

/-! # Upserting rows by a key

An upsert changes the row that has the key of the new one, or appends the new row. After a
batch of upserts under distinct keys, a key that was absent before has the row of the batch
(`find?_upsertAll`).
-/

namespace Table

variable {ρ κ : Type} [DecidableEq κ] (key : ρ → κ) (update : ρ → ρ → ρ)

def upsert (rows : List ρ) (row : ρ) : List ρ :=
  if rows.any (fun r => key r = key row) then
    rows.map fun r => if key r = key row then update r row else r
  else
    rows ++ [row]

def upsertAll (rows batch : List ρ) : List ρ := batch.foldl (upsert key update) rows

variable {key update} {rows batch : List ρ} {row : ρ} {k : κ}

/-- A change of the rows under another key is not seen. -/
theorem find?_map_ne (hkey : ∀ r r', key (update r r') = key r) (h : key row ≠ k) :
    (rows.map fun r => if key r = key row then update r row else r).find? (fun r => key r = k) =
      rows.find? fun r => key r = k := by
  induction rows with
  | nil => rfl
  | cons r rows ih =>
    have hsame : key (if key r = key row then update r row else r) = key r := by
      split
      · exact hkey r row
      · rfl
    rw [List.map_cons, List.find?_cons, List.find?_cons, hsame, ih]
    by_cases hr : key r = k
    · have hne : key r ≠ key row := fun heq => h (heq.symm.trans hr)
      rw [if_neg (hr ▸ hne)]
    · simp only [hr, decide_false]

theorem find?_upsert_ne (hkey : ∀ r r', key (update r r') = key r) (h : key row ≠ k) :
    (upsert key update rows row).find? (fun r => key r = k) = rows.find? fun r => key r = k := by
  unfold upsert
  split
  · exact find?_map_ne hkey h
  · simp [h]

/-- The row of an absent key is inserted. -/
theorem find?_upsert_absent (h : rows.find? (fun r => key r = key row) = none) :
    (upsert key update rows row).find? (fun r => key r = key row) = some row := by
  have hnone : ¬ rows.any (fun r => key r = key row) = true := by
    intro hany
    obtain ⟨r, hr, hkey⟩ := List.any_eq_true.mp hany
    exact List.find?_eq_none.mp h r hr hkey
  rw [upsert, if_neg hnone, List.find?_append, h]
  simp

theorem find?_upsertAll_ne (hkey : ∀ r r', key (update r r') = key r) (h : ∀ r ∈ batch, key r ≠ k) :
    (upsertAll key update rows batch).find? (fun r => key r = k) =
      rows.find? fun r => key r = k := by
  induction batch generalizing rows with
  | nil => rfl
  | cons row batch ih =>
    have hrest : ∀ r ∈ batch, key r ≠ k := fun r hr => h r (List.mem_cons_of_mem _ hr)
    exact (ih hrest).trans (find?_upsert_ne hkey (h row List.mem_cons_self))

/-- A key of the batch that was absent has the row of the batch. -/
theorem find?_upsertAll (hkey : ∀ r r', key (update r r') = key r)
    (hnodup : (batch.map key).Nodup) (hmem : row ∈ batch)
    (habsent : rows.find? (fun r => key r = key row) = none) :
    (upsertAll key update rows batch).find? (fun r => key r = key row) = some row := by
  induction batch generalizing rows with
  | nil => cases hmem
  | cons first batch ih =>
    rw [List.map_cons, List.nodup_cons] at hnodup
    obtain ⟨hfirst, hnodup⟩ := hnodup
    show (upsertAll key update (upsert key update rows first) batch).find? _ = some row
    rcases List.mem_cons.mp hmem with rfl | hrest
    · -- the rows behind it have other keys
      have hne : ∀ r ∈ batch, key r ≠ key row := by
        intro r hr heq
        exact hfirst (heq ▸ List.mem_map_of_mem hr)
      rw [find?_upsertAll_ne hkey hne]
      exact find?_upsert_absent habsent
    have hne : key first ≠ key row := by
      intro heq
      exact hfirst (heq ▸ List.mem_map_of_mem hrest)
    refine ih hnodup hrest ?_
    rw [find?_upsert_ne hkey hne]
    exact habsent

end Table
