import Mathlib.Order.Lattice
import Mathlib.Data.Int.Order.Basic
import Mathlib.Data.List.GetD
import Mathlib.Tactic.Common

/-! # Comparing sequences of numbers

Two sequences are compared at the first index where one entry is below the other. An entry
can be undefined (`none`), and then it is neither below nor above anything. Without such
entries the comparison is a total preorder (`compareOn_trans`); one of them makes it equal to
whatever stands at the same index.
-/

namespace Number

variable {K : Type} [LinearOrder K]

/-- `x < y`, which is false where one of them is undefined. -/
def Below : Option K → Option K → Prop
  | some a, some b => a < b
  | _, _ => False

instance : (x y : Option K) → Decidable (Below x y)
  | some a, some b => inferInstanceAs (Decidable (a < b))
  | none, _ => inferInstanceAs (Decidable False)
  | some _, none => inferInstanceAs (Decidable False)

/-- Positive where the left sequence is greater, on the indices in their order. -/
def compareOn (left right : ℕ → Option K) : List ℕ → ℤ
  | [] => 0
  | index :: indices =>
    if Below (right index) (left index) then 1
    else if Below (left index) (right index) then -1
    else compareOn left right indices

theorem not_below_none_left (x : Option K) : ¬ Below none x := id

theorem not_below_none_right (x : Option K) : ¬ Below x none := by
  cases x with
  | none | some a => exact id

theorem not_below_self (x : Option K) : ¬ Below x x := by
  cases x with
  | none => exact id
  | some a => exact lt_irrefl a

theorem below_asymm {x y : Option K} (h : Below x y) : ¬ Below y x := by
  cases x with
  | none => exact absurd h (not_below_none_left y)
  | some a =>
    cases y with
    | none => exact absurd h (not_below_none_right _)
    | some b =>
      have hlt : a < b := h
      exact hlt.not_gt

section Indices

variable {left right third : ℕ → Option K} {indices : List ℕ}

/-- Exchanging the sequences changes the sign. -/
theorem compareOn_swap : compareOn right left indices = -compareOn left right indices := by
  induction indices with
  | nil => rfl
  | cons index indices ih =>
    simp only [compareOn]
    by_cases hleft : Below (left index) (right index)
    · grind [below_asymm]
    · grind

/-- Indices at which neither entry is below the other decide nothing. -/
theorem compareOn_append_same {more : List ℕ} (hsame : ∀ index ∈ more, left index = right index) :
    compareOn left right (indices ++ more) = compareOn left right indices := by
  induction indices with
  | nil =>
    induction more with
    | nil => rfl
    | cons index more ih =>
      have hrest := ih fun i hi => hsame i (List.mem_cons_of_mem _ hi)
      have hindex := hsame index List.mem_cons_self
      rw [List.nil_append] at hrest ⊢
      simp only [compareOn, hindex, if_neg (not_below_self (right index))]
      exact hrest
  | cons index indices ih => simp only [List.cons_append, compareOn, ih]

/-- Where no entry is undefined, the comparison is transitive. -/
theorem compareOn_trans (hleft : ∀ index ∈ indices, left index ≠ none)
    (hright : ∀ index ∈ indices, right index ≠ none)
    (hthird : ∀ index ∈ indices, third index ≠ none)
    (h₁ : compareOn left right indices ≤ 0) (h₂ : compareOn right third indices ≤ 0) :
    compareOn left third indices ≤ 0 := by
  induction indices with
  | nil => exact le_rfl
  | cons index indices ih =>
    obtain ⟨a, ha⟩ := Option.ne_none_iff_exists'.mp (hleft index List.mem_cons_self)
    obtain ⟨b, hb⟩ := Option.ne_none_iff_exists'.mp (hright index List.mem_cons_self)
    obtain ⟨c, hc⟩ := Option.ne_none_iff_exists'.mp (hthird index List.mem_cons_self)
    simp only [compareOn, ha, hb, hc] at h₁ h₂ ⊢
    have hab : ¬ b < a := by grind [Below]
    have hbc : ¬ c < b := by grind [Below]
    have hac : ¬ c < a := not_lt.mpr ((not_lt.mp hab).trans (not_lt.mp hbc))
    rw [if_neg (show ¬ Below (some c) (some a) from hac)]
    by_cases hlt : a < c
    · grind [Below]
    -- the three entries are equal, and the rest decides
    rw [if_neg (show ¬ Below (some a) (some c) from hlt)]
    obtain rfl : a = c := le_antisymm (not_lt.mp hac) (not_lt.mp hlt)
    obtain rfl : b = a := le_antisymm (not_lt.mp hbc) (not_lt.mp hab)
    rw [if_neg (show ¬ Below (some b) (some b) from lt_irrefl b),
      if_neg (show ¬ Below (some b) (some b) from lt_irrefl b)] at h₁ h₂
    exact ih (fun i hi => hleft i (List.mem_cons_of_mem _ hi))
      (fun i hi => hright i (List.mem_cons_of_mem _ hi))
      (fun i hi => hthird i (List.mem_cons_of_mem _ hi)) h₁ h₂

/-- Where the left entry is nowhere below the right one, the left sequence is not smaller. -/
theorem compareOn_nonneg (h : ∀ index ∈ indices, ¬ Below (left index) (right index)) :
    0 ≤ compareOn left right indices := by
  induction indices with
  | nil => exact le_rfl
  | cons index indices ih =>
    have hrest := ih fun i hi => h i (List.mem_cons_of_mem _ hi)
    simp only [compareOn, if_neg (h index List.mem_cons_self)]
    split
    · decide
    · exact hrest

end Indices

/-! ## Finite sequences -/

/-- The entry at an index; beyond the end it is `fill`. -/
def padded (fill : K) (entries : List (Option K)) (index : ℕ) : Option K :=
  entries.getD index (some fill)

/-- The comparison of two finite sequences, the shorter one filled up. -/
def compareLists (fill : K) (left right : List (Option K)) : ℤ :=
  compareOn (padded fill left) (padded fill right) (List.range (max left.length right.length))

section Lists

variable {fill : K} {left right third : List (Option K)}

omit [LinearOrder K] in
theorem padded_of_length_le {entries : List (Option K)} {index : ℕ}
    (h : entries.length ≤ index) : padded fill entries index = some fill :=
  List.getD_eq_default _ _ h

omit [LinearOrder K] in
theorem padded_ne_none {entries : List (Option K)} (h : none ∉ entries) (index : ℕ) :
    padded fill entries index ≠ none := by
  intro hnone
  by_cases hlt : index < entries.length
  · have hget : padded fill entries index = entries[index] := List.getD_eq_getElem _ _ hlt
    rw [hget] at hnone
    exact h (hnone ▸ List.getElem_mem hlt)
  · grind [padded_of_length_le]

theorem compareLists_swap : compareLists fill right left = -compareLists fill left right := by
  unfold compareLists
  rw [max_comm]
  exact compareOn_swap

/-- The comparison may look at more indices than there are entries. -/
theorem compareLists_eq {n : ℕ} (hleft : left.length ≤ n) (hright : right.length ≤ n) :
    compareLists fill left right =
      compareOn (padded fill left) (padded fill right) (List.range n) := by
  have hmax : max left.length right.length ≤ n := max_le hleft hright
  obtain ⟨more, rfl⟩ := Nat.exists_eq_add_of_le hmax
  rw [List.range_add]
  refine (compareOn_append_same ?_).symm
  intro index hindex
  obtain ⟨offset, _, rfl⟩ := List.mem_map.mp hindex
  rw [padded_of_length_le (le_max_left _ _ |>.trans (Nat.le_add_right _ _)),
    padded_of_length_le (le_max_right _ _ |>.trans (Nat.le_add_right _ _))]

theorem compareLists_trans (hleft : none ∉ left) (hright : none ∉ right) (hthird : none ∉ third)
    (h₁ : compareLists fill left right ≤ 0) (h₂ : compareLists fill right third ≤ 0) :
    compareLists fill left third ≤ 0 := by
  -- one range of indices for the three comparisons
  have hl : left.length ≤ left.length + right.length + third.length := by omega
  have hr : right.length ≤ left.length + right.length + third.length := by omega
  have ht : third.length ≤ left.length + right.length + third.length := by omega
  rw [compareLists_eq hl hr] at h₁
  rw [compareLists_eq hr ht] at h₂
  rw [compareLists_eq hl ht]
  exact compareOn_trans (fun index _ => padded_ne_none hleft index)
    (fun index _ => padded_ne_none hright index) (fun index _ => padded_ne_none hthird index)
    h₁ h₂

end Lists

end Number
