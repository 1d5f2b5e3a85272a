import Mathlib.Data.List.Basic
import Mathlib.Data.List.Perm.Basic
import Mathlib.Data.List.Perm.Subperm
import Mathlib.Data.List.Sort
import Mathlib.Data.Nat.Notation
import Mathlib.Order.Basic
import Mathlib.Tactic.Common

/-! # Pages by offset

A table is listed page by page: each query puts the rows in order and takes those from an offset
on. Rows of one rank may stand in another order in every query. So a row is sure to be on a page
exactly where no page ends between rows of its rank (`mem_pages_iff`), and the pages list every
row once exactly where this holds of all rows (`pages_perm_iff`).
-/

namespace OffsetPages

open List (countP_append range)

variable {α κ : Type} [LinearOrder κ]

/-- An order that a query can give to the rows. -/
structure Arranged (rank : α → κ) (rows list : List α) : Prop where
  perm : list.Perm rows
  sorted : list.Pairwise fun a b => rank a ≤ rank b

variable {rank : α → κ} {rows : List α}

def sortRows (rank : α → κ) (rows : List α) : List α :=
  rows.insertionSort fun a b => rank a ≤ rank b

theorem arranged_insertionSort (rank : α → κ) (rows : List α) :
    Arranged rank rows (sortRows rank rows) where
  perm := List.perm_insertionSort _ rows
  sorted := by
    exact List.pairwise_insertionSort _ rows

/-- The first `m` rows end among rows of the rank of `row`. -/
def CutsTie (rank : α → κ) (rows : List α) (m : ℕ) (row : α) : Prop :=
  rows.countP (fun a => rank a < rank row) < m ∧ m < rows.countP fun a => rank a ≤ rank row

/-- No rows of one rank stand on both sides of the cut. -/
def Untied (rank : α → κ) (rows : List α) (m : ℕ) : Prop :=
  ∀ row ∈ rows, ¬ CutsTie rank rows m row

/-! ## The place of a row -/

section Place

variable {list : List α} (h : Arranged rank rows list)
include h

theorem countP_arranged (p : α → Bool) : list.countP p = rows.countP p := h.perm.countP_eq p

/-- Before a row stand at least the rows of a smaller rank. -/
theorem countP_lt_le {xs ys : List α} {row : α} (hsplit : list = xs ++ row :: ys) :
    rows.countP (fun a => rank a < rank row) ≤ xs.length := by
  have hsorted := h.sorted
  rw [hsplit, List.pairwise_append] at hsorted
  have hrest : (row :: ys).countP (fun a => decide (rank a < rank row)) = 0 := by simp_all
  rw [← countP_arranged h, hsplit, countP_append, hrest]
  exact List.countP_le_length

/-- Up to a row stand at most the rows of its rank and the smaller ones. -/
theorem lt_countP_le {xs ys : List α} {row : α} (hsplit : list = xs ++ row :: ys) :
    xs.length < rows.countP fun a => rank a ≤ rank row := by
  have hsorted := h.sorted
  rw [hsplit, List.pairwise_append] at hsorted
  have hfirst : xs.countP (fun a => decide (rank a ≤ rank row)) = xs.length := by simp_all
  have hrow : 0 < (row :: ys).countP fun a => decide (rank a ≤ rank row) :=
    List.countP_pos_iff.mpr ⟨row, List.mem_cons_self, decide_eq_true le_rfl⟩
  rw [← countP_arranged h, hsplit, countP_append]
  omega

end Place

/-! ## The pages -/

/-- The page with the number `k`. -/
def page (limit k : ℕ) (list : List α) : List α := (list.drop (k * limit)).take limit

theorem flatMap_page (limit a b : ℕ) (list : List α) :
    ((List.range' a b).flatMap fun k => page limit k list) =
      (list.drop (a * limit)).take (b * limit) := by
  induction b generalizing a with
  | zero => rw [Nat.zero_mul, List.take_zero, List.range'_zero, List.flatMap_nil]
  | succ b ih =>
    rw [List.range'_succ, List.flatMap_cons, ih, Nat.succ_mul b, Nat.add_comm (b * limit),
      List.take_add, List.drop_drop, Nat.succ_mul a]
    rfl

variable {limit m count : ℕ}

variable {row : α}

/-- A row without a cut in its rank is on one page in every order. -/
theorem mem_page {list : List α} (h : Arranged rank rows list) (hpos : 0 < limit)
    (hrow : row ∈ rows) (huncut : ∀ k, ¬ CutsTie rank rows (k * limit) row) :
    row ∈ page limit (rows.countP (fun a => rank a < rank row) / limit) list := by
  generalize hk : rows.countP (fun a => rank a < rank row) / limit = k
  obtain ⟨xs, ys, hsplit⟩ := List.append_of_mem (h.perm.mem_iff.mpr hrow)
  have hlow : rows.countP (fun a => rank a < rank row) ≤ xs.length := countP_lt_le h hsplit
  have hhigh := lt_countP_le h hsplit
  have hstart : k * limit ≤ rows.countP fun a => rank a < rank row := by
    rw [← hk]
    exact Nat.div_mul_le_self _ limit
  have hnext : rows.countP (fun a => rank a < rank row) < (k + 1) * limit := by
    rw [← hk, Nat.succ_mul]
    exact Nat.lt_div_mul_add hpos
  have hend : xs.length < (k + 1) * limit := by
    by_contra hlong
    exact huncut (k + 1) ⟨hnext, by omega⟩
  rw [Nat.succ_mul] at hend
  have hdrop : list.drop (k * limit) = xs.drop (k * limit) ++ row :: ys := by
    rw [hsplit, List.drop_append_of_le_length (by omega)]
  have hshort : (xs.drop (k * limit)).length < limit := by
    rw [List.length_drop]
    omega
  obtain ⟨n, hn⟩ : ∃ n, limit - (xs.drop (k * limit)).length = n + 1 :=
    ⟨limit - (xs.drop (k * limit)).length - 1, by omega⟩
  unfold page
  rw [hdrop, List.take_append, hn]
  exact List.mem_append_right _ List.mem_cons_self

/-! ## A row that changes its place -/

/-- A row can stand between the rows that may come before it and the others. -/
theorem Arranged.insert {xs ys : List α} (h : Arranged rank rows (xs ++ row :: ys))
    (before : α → Bool) (hbefore : ∀ a, before a = true → rank a ≤ rank row)
    (hafter : ∀ a, before a = false → rank row ≤ rank a) :
    Arranged rank rows
      ((xs ++ ys).filter before ++ row :: (xs ++ ys).filter fun a => !before a) where
  perm := by
    have hothers : ((xs ++ ys).filter before ++ (xs ++ ys).filter fun a => !before a).Perm
        (xs ++ ys) := List.filter_append_perm before _
    exact (List.perm_middle.trans (hothers.cons row)).trans (List.perm_middle.symm.trans h.perm)
  sorted := by
    have hsub : (xs ++ ys).Sublist (xs ++ row :: ys) :=
      List.Sublist.append_left (List.sublist_cons_self row ys) xs
    have hothers : (xs ++ ys).Pairwise fun a b => rank a ≤ rank b := h.sorted.sublist hsub
    have hlow : ∀ a ∈ (xs ++ ys).filter before, rank a ≤ rank row := by grind
    have hhigh : ∀ b ∈ (xs ++ ys).filter (fun a => !before a), rank row ≤ rank b := by grind
    rw [List.pairwise_append, List.pairwise_cons]
    refine ⟨hothers.filter _, ⟨hhigh, hothers.filter _⟩, ?_⟩
    intro a ha b hb
    rcases List.mem_cons.mp hb with rfl | hb
    · exact hlow a ha
    · exact (hlow a ha).trans (hhigh b hb)

section Nodup

variable {xs ys : List α} {row : α} (hnodup : (xs ++ row :: ys).Nodup)
include hnodup

theorem not_mem_drop {m : ℕ} (hm : xs.length < m) : row ∉ (xs ++ row :: ys).drop m := by
  obtain ⟨n, rfl⟩ : ∃ n, m = xs.length + (n + 1) := ⟨m - xs.length - 1, by omega⟩
  rw [List.drop_append, List.drop_eq_nil_of_le (by omega), Nat.add_sub_cancel_left]
  intro hmem
  have hnot := (List.nodup_cons.mp (List.nodup_append.mp hnodup).2.1).1
  exact hnot (List.mem_of_mem_drop hmem)

theorem not_mem_take {m : ℕ} (hm : m ≤ xs.length) : row ∉ (xs ++ row :: ys).take m := by grind

end Nodup

/-- Around a cut in its rank, a row can stand before the cut in one order and after it in
another. -/
theorem exists_around_cut (hnodup : rows.Nodup) (hrow : row ∈ rows)
    (hcut : CutsTie rank rows m row) :
    ∃ early late, Arranged rank rows early ∧ Arranged rank rows late ∧
      row ∉ early.drop m ∧ row ∉ late.take m := by
  obtain ⟨hlow, hhigh⟩ := hcut
  have h := arranged_insertionSort rank rows
  obtain ⟨xs, ys, hsplit⟩ := List.append_of_mem (h.perm.mem_iff.mpr hrow)
  rw [hsplit] at h
  have hearly := h.insert (fun a => rank a < rank row)
    (fun a ha => (of_decide_eq_true ha).le) (fun a ha => not_lt.mp (of_decide_eq_false ha))
  have hlate := h.insert (fun a => rank a ≤ rank row)
    (fun a ha => of_decide_eq_true ha) (fun a ha => (not_le.mp (of_decide_eq_false ha)).le)
  refine ⟨_, _, hearly, hlate, ?_, ?_⟩
  · refine not_mem_drop (hearly.perm.nodup_iff.mpr hnodup) ?_
    rw [← countP_arranged h, countP_append, List.countP_cons_of_neg (by simp)] at hlow
    rw [← List.countP_eq_length_filter, countP_append]
    exact hlow
  refine not_mem_take (hlate.perm.nodup_iff.mpr hnodup) ?_
  rw [← countP_arranged h, countP_append, List.countP_cons_of_pos (by simp)] at hhigh
  rw [← List.countP_eq_length_filter, countP_append]
  omega

/-! ## What the pages list -/

theorem page_subset_drop {k : ℕ} (hm : m ≤ k * limit) (list : List α) :
    page limit k list ⊆ list.drop m := by
  intro row hrow
  have hlater : list.drop (k * limit) = (list.drop m).drop (k * limit - m) := by
    rw [List.drop_drop, Nat.add_sub_cancel' hm]
  unfold page at hrow
  rw [hlater] at hrow
  exact List.mem_of_mem_drop (List.mem_of_mem_take hrow)

theorem page_subset_take {k : ℕ} (hm : (k + 1) * limit ≤ m) (list : List α) :
    page limit k list ⊆ list.take m := by
  intro row hrow
  unfold page at hrow
  rw [List.take_drop, ← Nat.succ_mul] at hrow
  exact List.take_subset_take_left list hm (List.mem_of_mem_drop hrow)

/-- A row is on the pages of any orders, exactly where no page ends inside its rank. -/
theorem mem_pages_iff (hnodup : rows.Nodup) (hcount : rows.length ≤ count * limit)
    (hrow : row ∈ rows) :
    (∀ lists : ℕ → List α, (∀ k, Arranged rank rows (lists k)) →
      row ∈ (range count).flatMap fun k => page limit k (lists k)) ↔
      ∀ k, ¬ CutsTie rank rows (k * limit) row := by
  constructor
  · intro hall k hcut
    obtain ⟨early, late, hearly, hlate, hdrop, htake⟩ := exists_around_cut hnodup hrow hcut
    -- the row moves to the front when the pages have passed the cut
    have hmem := hall (fun j => if j < k then late else early) (fun j => by split <;> assumption)
    obtain ⟨j, -, hj⟩ := List.mem_flatMap.mp hmem
    rcases Nat.lt_or_ge j k with hlt | hge
    · rw [if_pos hlt] at hj
      exact htake (page_subset_take (Nat.mul_le_mul_right limit hlt) late hj)
    · rw [if_neg (Nat.not_lt.mpr hge)] at hj
      exact hdrop (page_subset_drop (Nat.mul_le_mul_right limit hge) early hj)
  intro huncut lists h
  have hpos : 0 < limit := by grind
  have hlt : rows.countP (fun a => rank a < rank row) < rows.length := by
    refine lt_of_le_of_ne List.countP_le_length ?_
    intro hall
    have hself := List.countP_eq_length.mp hall row hrow
    exact lt_irrefl _ (of_decide_eq_true hself)
  refine List.mem_flatMap.mpr ⟨_, ?_, mem_page (h _) hpos hrow huncut⟩
  rw [List.mem_range, Nat.div_lt_iff_lt_mul hpos]
  omega

theorem length_page (limit k : ℕ) {list : List α} (h : Arranged rank rows list) :
    (page limit k list).length = min limit (rows.length - k * limit) := by
  rw [page, List.length_take, List.length_drop, h.perm.length_eq]

variable {lists : ℕ → List α}

/-- The pages have as many rows as the table, whatever the orders. -/
theorem length_pages (hcount : rows.length ≤ count * limit)
    (h : ∀ k, Arranged rank rows (lists k)) :
    ((range count).flatMap fun k => page limit k (lists k)).length = rows.length := by
  have hsame : ((range count).flatMap fun k => page limit k (lists k)).length =
      ((range count).flatMap fun k => page limit k (lists 0)).length := by
    rw [List.length_flatMap, List.length_flatMap]
    congr 1
    refine List.map_congr_left ?_
    intro k _
    rw [length_page limit k (h k), length_page limit k (h 0)]
  rw [hsame, List.range_eq_range', flatMap_page, Nat.zero_mul, List.drop_zero,
    List.take_of_length_le (by rw [(h 0).perm.length_eq]; exact hcount)]
  exact (h 0).perm.length_eq

theorem pages_subset (h : ∀ k, Arranged rank rows (lists k)) :
    ((range count).flatMap fun k => page limit k (lists k)) ⊆ rows := by
  intro row hrow
  obtain ⟨k, -, hk⟩ := List.mem_flatMap.mp hrow
  exact (h k).perm.mem_iff.mp (List.mem_of_mem_drop (List.mem_of_mem_take hk))

/-- The pages of any orders list every row once, exactly where no page ends inside a tie. -/
theorem pages_perm_iff (hnodup : rows.Nodup) (hcount : rows.length ≤ count * limit) :
    (∀ lists : ℕ → List α, (∀ k, Arranged rank rows (lists k)) →
      ((range count).flatMap fun k => page limit k (lists k)).Perm rows) ↔
      ∀ k, Untied rank rows (k * limit) := by
  constructor
  · intro hall k row hrow
    refine (mem_pages_iff hnodup hcount hrow).mp ?_ k
    intro lists h
    exact (hall lists h).mem_iff.mpr hrow
  intro huntied lists h
  have hsub : rows ⊆ (range count).flatMap fun k => page limit k (lists k) := by
    intro row hrow
    exact (mem_pages_iff hnodup hcount hrow).mpr (fun k => huntied k row hrow) lists h
  refine ((List.subperm_of_subset hnodup hsub).perm_of_length_le ?_).symm
  exact (length_pages hcount h).le

end OffsetPages
