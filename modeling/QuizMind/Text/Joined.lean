import Mathlib.Data.Rat.Floor
import Mathlib.Data.List.Basic
import Mathlib.Algebra.Order.BigOperators.Group.List
import Mathlib.Algebra.Order.Group.Nat

/-! # Keys joined from components

A key built by joining components with a separator determines its components
when none of them contains the separator (`joined_inj_of_not_mem`), and does not
when one of them does (`exists_recut`): the same key can then be cut at another
place, with other numbers of separators inside the components (`joined_inj`).
-/

namespace Text

open List (count)

variable {α : Type}

/-- The components with the separator between them. -/
def joined (sep : α) : List (List α) → List α
  | [] => []
  | [x] => x
  | x :: y :: rest => x ++ sep :: joined sep (y :: rest)

@[simp] theorem joined_singleton (sep : α) (x : List α) : joined sep [x] = x := rfl

@[simp] theorem joined_cons_cons (sep : α) (x y : List α) (rest : List (List α)) :
    joined sep (x :: y :: rest) = x ++ sep :: joined sep (y :: rest) := rfl

/-- What stands before the first component stands before the key. -/
theorem joined_append_cons (sep : α) (u v : List α) (rest : List (List α)) :
    joined sep ((u ++ v) :: rest) = u ++ joined sep (v :: rest) := by
  cases rest with
  | nil => rfl
  | cons y rest => simp

section Count

variable [DecidableEq α]

/-- Two texts cut at a separator are the same when as many separators stand before
the cut. -/
theorem append_sep_inj {sep : α} {x y u v : List α} (hcount : x.count sep = y.count sep)
    (h : x ++ sep :: u = y ++ sep :: v) : x = y ∧ u = v := by
  rcases List.append_eq_append_iff.mp h with ⟨c, rfl, hc⟩ | ⟨c, rfl, hc⟩
  · cases c with
    | nil =>
      rw [List.append_nil]
      exact ⟨rfl, (List.cons.inj hc).2⟩
    | cons d c =>
      -- one more separator would stand inside `y`
      obtain rfl : sep = d := (List.cons.inj hc).1
      rw [List.count_append, List.count_cons_self] at hcount
      omega
  cases c with
  | nil =>
    rw [List.append_nil]
    exact ⟨rfl, (List.cons.inj hc).2.symm⟩
  | cons d c => grind

/-- The separators of a key are those between the components and those inside
them. -/
theorem count_joined (sep : α) (x : List α) (rest : List (List α)) :
    (joined sep (x :: rest)).count sep = rest.length + ((x :: rest).map (count sep)).sum := by
  induction rest generalizing x with
  | nil => simp
  | cons y rest ih =>
    have htail := ih y
    simp only [joined_cons_cons, List.count_append, List.count_cons_self, htail,
      List.map_cons, List.sum_cons, List.length_cons]
    omega

/-- Two cuts of one key with the same number of separators inside each component
are the same. -/
theorem joined_inj {sep : α} {xs ys : List (List α)}
    (hcounts : xs.map (count sep) = ys.map (count sep))
    (h : joined sep xs = joined sep ys) : xs = ys := by
  induction xs generalizing ys with
  | nil =>
    cases ys with
    | nil => rfl
    | cons y ys => cases hcounts
  | cons x xs ih =>
    cases ys with
    | nil => cases hcounts
    | cons y ys =>
      simp only [List.map_cons, List.cons.injEq] at hcounts
      rcases hcounts with ⟨hcount, hcounts⟩
      have hlen := congrArg List.length hcounts
      cases xs with
      | nil =>
        cases ys with
        | nil => exact congrArg (fun z => [z]) h
        | cons y' ys => cases hlen
      | cons x' xs =>
        cases ys with
        | nil => cases hlen
        | cons y' ys =>
          rcases append_sep_inj hcount h with ⟨rfl, hrest⟩
          have htail := ih hcounts hrest
          rw [htail]

/-- A key whose components contain no separator can be cut in one way only. -/
theorem joined_inj_of_not_mem {sep : α} {xs ys : List (List α)}
    (hlength : xs.length = ys.length) (hxs : ∀ x ∈ xs, sep ∉ x)
    (h : joined sep xs = joined sep ys) : xs = ys := by
  cases xs with
  | nil =>
    cases ys with
    | nil => rfl
    | cons y ys => cases hlength
  | cons x xs =>
    cases ys with
    | nil => cases hlength
    | cons y ys =>
      -- by counting, no component of the other cut contains a separator either
      have hcount := congrArg (count sep) h
      rw [count_joined, count_joined] at hcount
      have hzero : ((x :: xs).map (count sep)) = (x :: xs).map (fun _ => 0) :=
        List.map_congr_left fun z hz => List.count_eq_zero.mpr (hxs z hz)
      have hlen : xs.length = ys.length := Nat.succ.inj hlength
      have hsum : ((y :: ys).map (count sep)).sum = 0 := by
        rw [hzero] at hcount
        simp only [List.map_const', List.sum_replicate_nat] at hcount
        omega
      have hzero' : ((y :: ys).map (count sep)) = (y :: ys).map (fun _ => 0) := by
        refine List.map_congr_left ?_
        intro z hz
        have hle : z.count sep ≤ ((y :: ys).map (count sep)).sum :=
          List.single_le_sum (fun _ _ => Nat.zero_le _) _ (List.mem_map.mpr ⟨z, hz, rfl⟩)
        omega
      refine joined_inj ?_ h
      rw [hzero, hzero', List.map_const', List.map_const', hlength]

/-- A key with a component that contains the separator can be cut at another
place. -/
theorem exists_recut {sep : α} {xs : List (List α)} (hlength : 2 ≤ xs.length) {x : List α}
    (hx : x ∈ xs) (hsep : sep ∈ x) :
    ∃ ys, ys.length = xs.length ∧ ys ≠ xs ∧ joined sep ys = joined sep xs := by
  induction xs with
  | nil => cases hx
  | cons a xs ih =>
    cases xs with
    | nil =>
      simp only [List.length_singleton] at hlength
      omega
    | cons b rest =>
      by_cases ha : sep ∈ a
      · -- the cut moves to the left
        rcases List.append_of_mem ha with ⟨p, q, rfl⟩
        refine ⟨p :: (q ++ sep :: b) :: rest, rfl, ?_, ?_⟩
        · simp
        have hq := joined_append_cons sep (q ++ [sep]) b rest
        simp only [List.append_assoc, List.singleton_append] at hq
        simp only [joined_cons_cons, hq, List.append_assoc, List.cons_append]
      by_cases hb : sep ∈ b
      · -- the cut moves to the right
        rcases List.append_of_mem hb with ⟨p, q, rfl⟩
        refine ⟨(a ++ sep :: p) :: q :: rest, rfl, ?_, ?_⟩
        · simp
        have hq := joined_append_cons sep (p ++ [sep]) q rest
        simp only [List.append_assoc, List.singleton_append] at hq
        simp only [joined_cons_cons, hq, List.append_assoc, List.cons_append]
      · have hmem : x ∈ b :: rest := by grind
        have hlen : 2 ≤ (b :: rest).length := by grind
        rcases ih hlen hmem with ⟨ys, hlength', hne, hjoined⟩
        cases ys with
        | nil => cases hlength'
        | cons y ys =>
          refine ⟨a :: y :: ys, by simp [hlength'], ?_, ?_⟩
          · grind
          · simp only [joined_cons_cons, hjoined]

end Count

end Text
