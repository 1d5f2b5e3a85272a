import Mathlib.Data.List.TakeWhile
import Mathlib.Data.Nat.Notation
import Mathlib.Tactic.Common

/-! # Pages behind a cursor

A query takes the rows of a table in the order of its keys, from the row of a cursor on, keeps
those that meet a condition, skips the row of the cursor itself, and takes a page. Behind a
cursor whose row has gone there is no page (`page_missing`).

A sweep that asks for one page after another, and lets rows of the pages go, sees all rows
unless the last row of a full page goes (`SeesAll`).
-/

namespace CursorPages

open List (cons_append filter_cons_of_pos length_cons)

section Page

variable {α κ : Type} [DecidableEq κ] (key : α → κ)

/-- The page of the rows that meet the condition. -/
def page (rows : List α) (cursor : Option κ) (p : α → Bool) (size : ℕ) : List α :=
  match cursor with
  | none => (rows.filter p).take size
  | some c => (((rows.dropWhile fun row => key row ≠ c).filter p).drop 1).take size

variable {key} {rows pre rest : List α} {p : α → Bool} {size : ℕ}

theorem dropWhile_key {row : α} (hnew : key row ∉ pre.map key) :
    (pre ++ row :: rest).dropWhile (fun r => key r ≠ key row) = row :: rest := by
  induction pre with
  | nil =>
    have hstop : ¬ decide (key row ≠ key row) = true := by simp
    rw [List.nil_append, List.dropWhile_cons, if_neg hstop]
  | cons r pre ih =>
    rw [List.map_cons, List.mem_cons, not_or] at hnew
    have hskip : decide (key r ≠ key row) = true := by
      simpa using fun heq => hnew.1 heq.symm
    rw [cons_append, List.dropWhile_cons, if_pos hskip]
    exact ih hnew.2

/-- Behind the cursor of a row is what follows the row. -/
theorem page_cursor {row : α} (hnew : key row ∉ pre.map key) (hp : p row = true) :
    page key (pre ++ row :: rest) (some (key row)) p size = (rest.filter p).take size := by
  unfold page
  dsimp only
  rw [dropWhile_key hnew, filter_cons_of_pos hp, List.drop_succ_cons, List.drop_zero]

theorem page_missing {c : κ} (h : c ∉ rows.map key) : page key rows (some c) p size = [] := by
  have hnone : rows.dropWhile (fun row => key row ≠ c) = [] := by
    refine List.dropWhile_eq_nil_iff.mpr ?_
    intro row hrow
    have hne : key row ≠ c := by
      rintro rfl
      exact h (List.mem_map_of_mem hrow)
    simpa using hne
  unfold page
  dsimp only
  rw [hnone, List.filter_nil, List.drop_nil, List.take_nil]

end Page

/-! ## Full pages -/

section Full

variable {α : Type} {p : α → Bool}

/-- A full page ends with a row of the table, and holds the rows before it that meet the
condition. -/
theorem split_of_full {rows : List α} {n : ℕ} (h : n < (rows.filter p).length) :
    ∃ mid last rest, rows = mid ++ last :: rest ∧ p last = true ∧
      (mid.filter p).length = n ∧ (rows.filter p).take (n + 1) = mid.filter p ++ [last] := by
  induction rows generalizing n with
  | nil => exact absurd h (Nat.not_lt_zero n)
  | cons row rows ih =>
    by_cases hp : p row = true
    · rw [filter_cons_of_pos hp] at h ⊢
      cases n with
      | zero =>
        refine ⟨[], row, rows, rfl, hp, rfl, ?_⟩
        simp
      | succ n =>
        have hrest : n < (rows.filter p).length := by
          rw [length_cons] at h
          omega
        obtain ⟨mid, last, rest, hrows, hlast, hlen, htake⟩ := ih hrest
        refine ⟨row :: mid, last, rest, ?_, hlast, ?_, ?_⟩
        · rw [hrows, cons_append]
        · rw [filter_cons_of_pos hp, length_cons, hlen]
        · rw [List.take_succ_cons, htake, filter_cons_of_pos hp, cons_append]
    · rw [List.filter_cons_of_neg hp] at h ⊢
      obtain ⟨mid, last, rest, hrows, hlast, hlen, htake⟩ := ih h
      refine ⟨row :: mid, last, rest, ?_, hlast, ?_, ?_⟩
      · rw [hrows, cons_append]
      · rw [List.filter_cons_of_neg hp, hlen]
      · rw [htake, List.filter_cons_of_neg hp]

end Full

/-! ## Sweeps -/

section Sweep

variable {α : Type} (size : ℕ) (due : ℕ → α → Bool) (goes : α → Bool) (wanted : α → Prop)

/-- Nothing wanted is left behind the first full page whose last row goes. The rows are counted
that are due when page `k` is asked for, `count` of which have been seen. -/
def SeesAll : ℕ → ℕ → List α → Prop
  | _, _, [] => True
  | k, count, row :: rows =>
    if due k row then
      if count + 1 = size then
        if goes row then ∀ r ∈ rows, ¬ wanted r else SeesAll (k + 1) 0 rows
      else SeesAll k (count + 1) rows
    else SeesAll k count rows

variable {size due goes wanted}

/-- With too few rows for a full page all are seen. -/
theorem seesAll_of_few {k count : ℕ} {rows : List α}
    (h : (rows.filter (due k)).length + count < size) :
    SeesAll size due goes wanted k count rows := by
  induction rows generalizing count with
  | nil => trivial
  | cons row rows ih =>
    rw [SeesAll]
    by_cases hdue : due k row = true
    · rw [filter_cons_of_pos hdue, length_cons] at h
      have hnot : ¬ count + 1 = size := by omega
      rw [if_pos hdue, if_neg hnot]
      refine ih ?_
      omega
    rw [List.filter_cons_of_neg hdue] at h
    rw [if_neg hdue]
    exact ih h

/-- What follows a full page decides. -/
theorem seesAll_full {k count : ℕ} {mid rest : List α} {last : α} (hlast : due k last = true)
    (hsize : (mid.filter (due k)).length + count + 1 = size) :
    SeesAll size due goes wanted k count (mid ++ last :: rest) ↔
      if goes last then ∀ r ∈ rest, ¬ wanted r else SeesAll size due goes wanted (k + 1) 0 rest := by
  induction mid generalizing count with
  | nil =>
    have hfull : count + 1 = size := by
      rw [List.filter_nil, List.length_nil] at hsize
      omega
    rw [List.nil_append, SeesAll, if_pos hlast, if_pos hfull]
  | cons row mid ih =>
    rw [cons_append, SeesAll]
    by_cases hdue : due k row = true
    · rw [filter_cons_of_pos hdue, length_cons] at hsize
      have hnot : ¬ count + 1 = size := by omega
      rw [if_pos hdue, if_neg hnot]
      refine ih ?_
      omega
    rw [List.filter_cons_of_neg hdue] at hsize
    rw [if_neg hdue]
    exact ih hsize

end Sweep

end CursorPages
