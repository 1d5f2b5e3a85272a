import QuizMind.Table.Keyset

/-! # Deleting in batches

The rows that match are deleted batch by batch: the first ones of them are selected and then
deleted by their keys, up to a batch that is not full. Every batch that is full leaves fewer rows
that match, so this ends, and by then it has deleted the rows that match and no others
(`drain_spec`).
-/

namespace Table

variable {α κ : Type*} [DecidableEq κ]

/-- The rows that stay when those of a batch are deleted by their keys. -/
def without (key : α → κ) (batch rows : List α) : List α :=
  rows.filter fun x => key x ∉ batch.map key

section

variable (r : α → α → Prop) [DecidableRel r] (p : α → Bool) (n : ℕ) (key : α → κ)

/-- The batches that are deleted, and the rows that are left; `none` if the fuel runs out. -/
def drain : ℕ → List α → Option (List (List α) × List α)
  | 0, _ => none
  | fuel + 1, rows =>
    let batch := select r p n rows
    if batch.length = 0 then some ([], rows)
    else if batch.length < n then some ([batch], without key batch rows)
    else (drain fuel (without key batch rows)).map fun (batches, rest) => (batch :: batches, rest)

end

section

variable {δ : Type*} [LinearOrder δ] {rank : α → δ} {r : α → α → Prop} [DecidableRel r]
  {p : α → Bool} {n : ℕ} {key : α → κ} {rows batch : List α}

/-- The rows that do not match stay. -/
theorem filter_not_without (hkeys : (rows.map key).Nodup)
    (hbatch : ∀ x ∈ batch, x ∈ rows ∧ p x = true) :
    (without key batch rows).filter (fun x => !p x) = rows.filter fun x => !p x := by
  unfold without
  rw [List.filter_filter]
  refine List.filter_congr fun x hx => ?_
  rcases hp : p x with _ | _
  · -- a row of the batch with this key would be this row
    have hnot : key x ∉ batch.map key := by
      intro hmem
      obtain ⟨y, hy, hkey⟩ := List.mem_map.mp hmem
      obtain ⟨hrows, hmatch⟩ := hbatch y hy
      have hsame : y = x := List.inj_on_of_nodup_map hkeys hrows hx hkey
      rw [hsame, hp] at hmatch
      exact absurd hmatch Bool.false_ne_true
    rw [decide_eq_true hnot]
    rfl
  · rfl

/-- When the first rows that match are deleted, the other ones are left, in their order. -/
theorem insertionSort_without (hr : ∀ a b, r a b ↔ rank a ≤ rank b)
    (hdist : rows.Pairwise fun a b => rank a ≠ rank b) (hkeys : (rows.map key).Nodup) :
    ((without key (select r p n rows) rows).filter p).insertionSort r =
      ((rows.filter p).insertionSort r).drop n := by
  have hsplit : (rows.filter p).insertionSort r =
      select r p n rows ++ ((rows.filter p).insertionSort r).drop n :=
    (List.take_append_drop n _).symm
  generalize hrest : ((rows.filter p).insertionSort r).drop n = rest at hsplit ⊢
  have hperm := List.perm_insertionSort r (rows.filter p)
  have hnodup : ((select r p n rows ++ rest).map key).Nodup := by grind
  -- the keys of the batch are not among those of the rest
  have hleft : ((rows.filter p).insertionSort r).filter
      (fun x => key x ∉ (select r p n rows).map key) = rest := by
    rw [List.map_append, List.nodup_append] at hnodup
    rw [hsplit, List.filter_append]
    have hgone : (select r p n rows).filter (fun x => key x ∉ (select r p n rows).map key) = [] := by
      refine List.filter_eq_nil_iff.mpr ?_
      intro x hx
      rw [decide_eq_true_eq, not_not]
      exact List.mem_map_of_mem hx
    have hstay : rest.filter (fun x => key x ∉ (select r p n rows).map key) = rest := by
      refine List.filter_eq_self.mpr ?_
      intro x hx
      rw [decide_eq_true_eq]
      intro hmem
      exact hnodup.2.2 _ hmem _ (List.mem_map_of_mem hx) rfl
    rw [hgone, hstay, List.nil_append]
  have hfilt : (without key (select r p n rows) rows).filter p =
      (rows.filter p).filter fun x => key x ∉ (select r p n rows).map key := by
    unfold without
    rw [List.filter_filter, List.filter_filter]
    exact List.filter_congr fun x _ => Bool.and_comm _ _
  have hpermRest : (((rows.filter p).filter fun x =>
      key x ∉ (select r p n rows).map key).insertionSort r).Perm rest := by
    have hfiltered := hperm.symm.filter fun x => decide (key x ∉ (select r p n rows).map key)
    rw [hleft] at hfiltered
    exact (List.perm_insertionSort r _).trans hfiltered
  have hsorted := pairwise_insertionSort hr
    ((hdist.filter p).filter fun x => decide (key x ∉ (select r p n rows).map key))
  have hascends : rest.Pairwise fun a b => rank a < rank b := by
    have hwhole := pairwise_insertionSort hr (hdist.filter p)
    rw [← hleft]
    exact hwhole.filter _
  rw [hfilt]
  refine hpermRest.eq_of_pairwise ?_ hsorted hascends
  intro a b _ _ hab hba
  exact absurd hab hba.asymm

/-- Deleting in batches deletes the rows that match, in their order, and no others. -/
theorem drain_spec (hr : ∀ a b, r a b ↔ rank a ≤ rank b) (hn : 0 < n) {fuel : ℕ}
    (hfuel : (rows.filter p).length < fuel)
    (hdist : rows.Pairwise fun a b => rank a ≠ rank b) (hkeys : (rows.map key).Nodup) :
    ∃ batches, drain r p n key fuel rows = some (batches, rows.filter fun x => !p x) ∧
      batches.flatten = (rows.filter p).insertionSort r := by
  induction fuel generalizing rows with
  | zero => exact absurd hfuel (Nat.not_lt_zero _)
  | succ fuel ih =>
    have hlen := List.length_insertionSort r (rows.filter p)
    have hrest := insertionSort_without (n := n) (p := p) hr hdist hkeys
    have hsel : (select r p n rows).length = min n (rows.filter p).length := by
      unfold select
      rw [List.length_take, hlen]
    have hothers := filter_not_without (p := p) hkeys
      fun x (hx : x ∈ select r p n rows) => mem_of_mem_select hx
    -- where nothing that matches is left, the rest are the rows that do not match
    have hnone : ((rows.filter p).insertionSort r).drop n = [] →
        without key (select r p n rows) rows = rows.filter fun x => !p x := by
      intro hnil
      rw [hnil] at hrest
      have hempty : (without key (select r p n rows) rows).filter p = [] := by
        rw [← List.length_eq_zero_iff, ← List.length_insertionSort r, hrest, List.length_nil]
      rw [← hothers]
      refine (List.filter_eq_self.mpr ?_).symm
      intro x hx
      have hp := List.filter_eq_nil_iff.mp hempty x hx
      simpa using hp
    unfold drain
    by_cases hzero : (select r p n rows).length = 0
    · have hmatch : rows.filter p = [] := by
        rw [← List.length_eq_zero_iff]
        omega
      have hsame : (rows.filter fun x => !p x) = rows := by
        refine List.filter_eq_self.mpr ?_
        intro x hx
        have hp := List.filter_eq_nil_iff.mp hmatch x hx
        simpa using hp
      rw [if_pos hzero, hsame, hmatch]
      exact ⟨[], rfl, rfl⟩
    rw [if_neg hzero]
    by_cases hlast : (select r p n rows).length < n
    · have hnil : ((rows.filter p).insertionSort r).drop n = [] :=
        List.drop_eq_nil_of_le (by omega)
      have hall : select r p n rows = (rows.filter p).insertionSort r :=
        List.take_of_length_le (by omega)
      rw [if_pos hlast, hnone hnil]
      refine ⟨[select r p n rows], rfl, ?_⟩
      rw [List.flatten_singleton, hall]
    rw [if_neg hlast]
    have hless : ((without key (select r p n rows) rows).filter p).length < fuel := by
      have hdrop : ((without key (select r p n rows) rows).filter p).length =
          (rows.filter p).length - n := by
        rw [← List.length_insertionSort r, hrest, List.length_drop, hlen]
      omega
    obtain ⟨batches, hbatches, hflatten⟩ := ih hless (hdist.filter _)
      (hkeys.sublist (List.filter_sublist.map key))
    refine ⟨select r p n rows :: batches, ?_, ?_⟩
    · rw [hbatches, hothers]
      rfl
    · rw [List.flatten_cons, hflatten, hrest]
      exact List.take_append_drop n _

end

end Table
