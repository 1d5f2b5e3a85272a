import QuizMind.Table.OffsetPages

/-! # The first rows

The first `n` of some rows, in an order that leaves open how rows of one rank stand. Where only
some of the rows are kept, the first `n` of these are the first of all exactly if of the rows up
to each rank enough are kept (`isFirst_take_iff`).
-/

namespace FirstRows

open OffsetPages (Arranged)

variable {α κ : Type} [LinearOrder κ] {rank : α → κ} {rows kept list : List α} {n : ℕ}

/-- `items` are the first `n` of the rows. -/
def IsFirst (rank : α → κ) (n : ℕ) (rows items : List α) : Prop :=
  ∃ list, Arranged rank rows list ∧ items = list.take n

/-- In a sorted list the rows up to a rank come first. -/
theorem countP_take (hsorted : list.Pairwise fun a b => rank a ≤ rank b) (n : ℕ) (k : κ) :
    (list.take n).countP (fun a => rank a ≤ k) = min n (list.countP fun a => rank a ≤ k) := by
  induction list generalizing n with
  | nil => simp
  | cons row list ih =>
    cases n with
    | zero => simp
    | succ n =>
      have hrest := ih (List.pairwise_cons.mp hsorted).2 n
      rw [List.take_succ_cons, List.countP_cons, List.countP_cons, hrest]
      by_cases hrow : rank row ≤ k
      · simp only [hrow, decide_true, if_true]
        omega
      -- behind a row of a larger rank there is none of a smaller one
      have hnone : list.countP (fun a => decide (rank a ≤ k)) = 0 := by
        refine List.countP_eq_zero.mpr ?_
        intro a ha
        have hle : rank row ≤ rank a := List.rel_of_pairwise_cons hsorted ha
        simpa using (not_le.mp hrow).trans_le hle
      simp only [hrow, hnone, decide_false, Bool.false_eq_true, if_false, Nat.add_zero,
        Nat.min_zero]

theorem exists_perm_append (h : kept.Subperm rows) : ∃ rest, (kept ++ rest).Perm rows := by
  obtain ⟨part, hpart, hsub⟩ := h
  obtain ⟨rest, hrest⟩ := hsub.exists_perm_append
  exact ⟨rest, (hpart.symm.append_right rest).trans hrest.symm⟩

theorem isFirst_take_iff (hsub : kept.Subperm rows)
    (hsorted : kept.Pairwise fun a b => rank a ≤ rank b) :
    IsFirst rank n rows (kept.take n) ↔
      ∀ row ∈ rows, min n (rows.countP fun a => rank a ≤ rank row) ≤
        kept.countP fun a => rank a ≤ rank row := by
  constructor
  · rintro ⟨list, harranged, htake⟩ row _
    have hlist := countP_take harranged.sorted n (rank row)
    have hkept := countP_take hsorted n (rank row)
    rw [htake, hlist, harranged.perm.countP_eq] at hkept
    omega
  intro hreach
  obtain ⟨rest, hrest⟩ := exists_perm_append hsub
  -- what is not among the first `n` kept rows
  have hperm : (kept.take n ++ (kept.drop n ++ rest)).Perm rows := by
    rw [← List.append_assoc, List.take_append_drop]
    exact hrest
  have hbehind : ∀ row ∈ kept.drop n ++ rest,
      n ≤ (kept.take n).countP fun a => rank a ≤ rank row := by
    intro row hrow
    have hmem : row ∈ rows := hperm.mem_iff.mp (List.mem_append_right _ hrow)
    have hcount := hperm.countP_eq fun a => decide (rank a ≤ rank row)
    have hself : 0 < (kept.drop n ++ rest).countP fun a => decide (rank a ≤ rank row) :=
      List.countP_pos_iff.mpr ⟨row, hrow, decide_eq_true le_rfl⟩
    have hle := hreach row hmem
    have htake := countP_take hsorted n (rank row)
    rw [List.countP_append] at hcount
    omega
  have hlong : kept.drop n ++ rest = [] ∨ (kept.take n).length = n := by
    rcases hempty : kept.drop n ++ rest with _ | ⟨row, behind⟩
    · exact Or.inl rfl
    have hle := hbehind row (hempty ▸ List.mem_cons_self)
    have hshort : (kept.take n).countP (fun a => decide (rank a ≤ rank row)) ≤
        (kept.take n).length := List.countP_le_length
    have htake : (kept.take n).length ≤ n := List.length_take_le n kept
    omega
  have hbefore : ∀ a ∈ kept.take n, ∀ row ∈ kept.drop n ++ rest, rank a ≤ rank row := by
    intro a ha row hrow
    have hle := hbehind row hrow
    have hall : (kept.take n).countP (fun a => decide (rank a ≤ rank row)) =
        (kept.take n).length := by
      have hshort : (kept.take n).countP (fun a => decide (rank a ≤ rank row)) ≤
          (kept.take n).length := List.countP_le_length
      have htake : (kept.take n).length ≤ n := List.length_take_le n kept
      omega
    exact of_decide_eq_true (List.countP_eq_length.mp hall a ha)
  have hrestArranged := OffsetPages.arranged_insertionSort rank (kept.drop n ++ rest)
  refine ⟨kept.take n ++ (kept.drop n ++ rest).insertionSort fun a b => rank a ≤ rank b,
    ⟨?_, ?_⟩, ?_⟩
  · exact (hrestArranged.perm.append_left _).trans hperm
  · rw [List.pairwise_append]
    refine ⟨hsorted.sublist (List.take_sublist n kept), hrestArranged.sorted, ?_⟩
    intro a ha row hrow
    exact hbefore a ha row (hrestArranged.perm.mem_iff.mp hrow)
  · rcases hlong with hnil | hfull
    · rw [hnil, List.insertionSort_nil, List.append_nil, List.take_take, min_self]
    · rw [List.take_append_of_le_length (le_of_eq hfull.symm), List.take_take, min_self]

end FirstRows
