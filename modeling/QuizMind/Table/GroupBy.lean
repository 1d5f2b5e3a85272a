import Mathlib.Data.Rat.Floor
import Mathlib.Algebra.BigOperators.Group.List.Basic
import Mathlib.Data.List.Nodup
import Mathlib.Data.List.Perm.Basic
import Mathlib.Algebra.Order.BigOperators.Group.List
import Mathlib.Tactic.Abel

/-! # Totals by key

A table of totals summarises a list of entries: it has one row for each key, every
entry's key has a row, and a row holds the sum of the entries under its key
(`Exact`). Adding an entry and removing one keep the totals exact when the row is
changed by the same value, and sums over rows are sums over entries (`Exact.sum`).
-/

namespace GroupBy

open Prod (fst snd)

variable {κ M : Type} [DecidableEq κ] [AddCommGroup M]

/-- The sum of the values under a key. -/
def total (entries : List (κ × M)) (key : κ) : M :=
  ((entries.filter fun e => e.1 = key).map snd).sum

/-- The rows hold the totals of the entries. -/
structure Exact (rows entries : List (κ × M)) : Prop where
  nodup : (rows.map fst).Nodup
  total : ∀ r ∈ rows, r.2 = GroupBy.total entries r.1
  covered : ∀ e ∈ entries, e.1 ∈ rows.map fst

/-- Change the row of a key. -/
def change (rows : List (κ × M)) (key : κ) (f : M → M) : List (κ × M) :=
  rows.map fun r => if r.1 = key then (r.1, f r.2) else r

@[simp] theorem total_nil (key : κ) : total ([] : List (κ × M)) key = 0 := rfl

theorem total_cons (e : κ × M) (entries : List (κ × M)) (key : κ) :
    total (e :: entries) key = (if e.1 = key then e.2 else 0) + total entries key := by
  unfold total
  by_cases h : e.1 = key
  · simp [h]
  · simp [h]

variable {entries : List (κ × M)}

theorem total_perm {entries' : List (κ × M)} (h : entries.Perm entries') (key : κ) :
    total entries key = total entries' key :=
  ((h.filter _).map _).sum_eq

/-- A key without entries has the total 0. -/
theorem total_eq_zero {key : κ} (h : ∀ e ∈ entries, e.1 ≠ key) :
    total entries key = 0 := by grind [total, List.filter_eq_nil_iff]

omit [AddCommGroup M] in
@[simp] theorem keys_change (rows : List (κ × M)) (key : κ) (f : M → M) :
    (change rows key f).map fst = rows.map fst := by
  unfold change
  rw [List.map_map]
  refine List.map_congr_left ?_
  intro r _
  simp only [Function.comp_apply]
  split <;> rfl

/-- Totals of non-negative values are not negative. -/
theorem total_nonneg [PartialOrder M] [IsOrderedAddMonoid M]
    (h : ∀ e ∈ entries, 0 ≤ e.2) (key : κ) : 0 ≤ total entries key := by
  refine List.sum_nonneg ?_
  intro m hm
  rcases List.mem_map.mp hm with ⟨e, he, rfl⟩
  exact h e (List.mem_filter.mp he).1

omit [AddCommGroup M] in
theorem change_congr {rows : List (κ × M)} {key : κ} {f g : M → M}
    (h : ∀ r ∈ rows, r.1 = key → f r.2 = g r.2) : change rows key f = change rows key g := by
  refine List.map_congr_left ?_
  intro r hr
  by_cases hkey : r.1 = key
  · rw [if_pos hkey, if_pos hkey, h r hr hkey]
  · rw [if_neg hkey, if_neg hkey]

/-- The totals of the keys that satisfy `p` sum up to the entries: each entry is
counted under its one key. -/
theorem sum_total {keys : List κ} (hnodup : keys.Nodup)
    (hcovered : ∀ e ∈ entries, e.1 ∈ keys) (p : κ → Bool) :
    ((keys.filter p).map (total entries)).sum = ((entries.filter fun e => p e.1).map snd).sum := by
  induction entries with
  | nil =>
    refine List.sum_eq_zero ?_
    intro m hm
    rcases List.mem_map.mp hm with ⟨key, -, rfl⟩
    rfl
  | cons e entries ih =>
    have hrest := ih fun e' he' => hcovered e' (List.mem_cons_of_mem _ he')
    have hone : ((keys.filter p).map fun key => if key = e.1 then e.2 else 0).sum =
        if p e.1 then e.2 else 0 := by
      rw [List.sum_map_ite_eq]
      by_cases hp : p e.1 = true
      · simp_all [one_nsmul]
      · have hnone : (keys.filter p).count e.1 = 0 := by grind [List.count_eq_zero]
        simp [hp, hnone]
    have hsplit : (keys.filter p).map (total (e :: entries)) =
        (keys.filter p).map fun key => (if key = e.1 then e.2 else 0) + total entries key := by
      refine List.map_congr_left ?_
      intro key _
      rw [total_cons]
      by_cases heq : e.1 = key
      · rw [if_pos heq, if_pos heq.symm]
      · grind
    rw [hsplit, List.sum_map_add, hone, hrest]
    by_cases hp : p e.1 = true
    all_goals simp [hp]

namespace Exact

variable {rows entries entries' : List (κ × M)}

theorem perm (h : Exact rows entries) (hperm : entries.Perm entries') : Exact rows entries' where
  nodup := h.nodup
  total := by
    intro r hr
    rw [h.total r hr, total_perm hperm]
  covered := by
    intro e he
    exact h.covered e (hperm.mem_iff.mpr he)

/-- No rows for no entries. -/
theorem empty : Exact ([] : List (κ × M)) [] where
  nodup := List.nodup_nil
  total := by simp
  covered := by simp

variable {key : κ}

/-- One entry more, added to the row of its key. -/
theorem add (h : Exact rows entries) (hkey : key ∈ rows.map fst) (m : M) :
    Exact (change rows key fun t => t + m) ((key, m) :: entries) where
  nodup := by
    rw [keys_change]
    exact h.nodup
  total := by
    intro r hr
    rcases List.mem_map.mp hr with ⟨r', hr', rfl⟩
    rw [total_cons]
    have htotal := h.total r' hr'
    by_cases hr'' : r'.1 = key
    · simp only [htotal, hr'', if_true]
      abel
    · grind
  covered := by
    intro e he
    rw [keys_change]
    rcases List.mem_cons.mp he with rfl | he
    · exact hkey
    · exact h.covered e he

/-- One entry more under a new key. -/
theorem insert (h : Exact rows entries) (hkey : key ∉ rows.map fst) (m : M) :
    Exact (rows ++ [(key, m)]) ((key, m) :: entries) where
  nodup := by
    rw [List.map_append]
    refine List.Nodup.append h.nodup (List.nodup_singleton _) ?_
    rw [List.map_singleton, List.disjoint_singleton]
    exact hkey
  total := by
    intro r hr
    rw [total_cons]
    rcases List.mem_append.mp hr with hr | hr
    · have hne : key ≠ r.1 := by grind
      simp only [if_neg hne, h.total r hr, zero_add]
    rw [List.mem_singleton] at hr
    subst hr
    have hzero : GroupBy.total entries key = 0 := by
      refine total_eq_zero ?_
      rintro e he rfl
      exact hkey (h.covered e he)
    simp only [if_true, hzero, add_zero]
  covered := by
    intro e he
    rw [List.map_append]
    rcases List.mem_cons.mp he with rfl | he
    · exact List.mem_append_right _ (by simp)
    · exact List.mem_append_left _ (h.covered e he)

/-- One entry less, taken from the row of its key. -/
theorem subtract {m : M} (h : Exact rows ((key, m) :: entries)) :
    Exact (change rows key fun t => t - m) entries where
  nodup := by
    rw [keys_change]
    exact h.nodup
  total := by
    intro r hr
    rcases List.mem_map.mp hr with ⟨r', hr', rfl⟩
    have htotal := h.total r' hr'
    rw [total_cons] at htotal
    by_cases hr'' : r'.1 = key
    · simp only [htotal, hr'', if_true]
      abel
    · grind
  covered := by
    intro e he
    rw [keys_change]
    exact h.covered e (List.mem_cons_of_mem _ he)

/-- The totals determine the value of an entry. -/
theorem value_unique {m m' : M} (h : Exact rows ((key, m) :: entries))
    (h' : Exact rows ((key, m') :: entries)) : m = m' := by
  have hkey := h.covered (key, m) List.mem_cons_self
  rcases List.mem_map.mp hkey with ⟨r, hr, hrkey⟩
  have htotal := h.total r hr
  rw [h'.total r hr, total_cons, total_cons, hrkey] at htotal
  simp only [add_left_inj] at htotal
  exact htotal.symm

/-- Over the keys that satisfy `p`, the rows sum up to the entries. -/
theorem sum (h : Exact rows entries) (p : κ → Bool) : ((rows.filter fun r => p r.1).map snd).sum =
      ((entries.filter fun e => p e.1).map snd).sum := by
  have hrows : (rows.filter fun r => p r.1).map snd =
      ((rows.map fst).filter p).map (GroupBy.total entries) := by
    rw [List.filter_map, List.map_map]
    refine List.map_congr_left ?_
    intro r hr
    exact h.total r (List.mem_filter.mp hr).1
  rw [hrows]
  exact sum_total h.nodup h.covered p

end Exact

end GroupBy
