import Mathlib.Data.Nat.Notation

/-! # One-time values in several places

A value is issued under a key, may be held in any number of places, and is taken at most
once. `held n k v` says that some place holds `v` under `k` before step `n`. When a step
only moves or removes values (`Traced`), what is held was issued. When taking a value
removes it everywhere and nothing else removes it without being counted as a drop
(`Custody`), a key is taken at most once and a value stays held until it is taken or
dropped.
-/

namespace OneTime

variable {κ V : Type}

/-- Each key is issued once, and what is held was held before or has just been issued. -/
structure Traced (held issued : ℕ → κ → V → Prop) : Prop where
  start : ∀ k v, ¬ held 0 k v
  once : ∀ {m n k v w}, issued m k v → issued n k w → m = n ∧ v = w
  origin : ∀ {n k v}, held (n + 1) k v → held n k v ∨ issued n k v

namespace Traced

variable {held issued : ℕ → κ → V → Prop} {m n : ℕ} {k : κ} {v w : V}

theorem issued_before (h : Traced held issued) (hheld : held n k v) :
    ∃ m, m < n ∧ issued m k v := by
  induction n with
  | zero => exact absurd hheld (h.start k v)
  | succ n ih =>
    rcases h.origin hheld with hbefore | hissued
    · rcases ih hbefore with ⟨m, hm, hissued⟩
      exact ⟨m, by omega, hissued⟩
    · exact ⟨n, by omega, hissued⟩

/-- All places hold the same value under a key. -/
theorem unique (h : Traced held issued) (hv : held n k v) (hw : held n k w) : v = w := by
  rcases h.issued_before hv with ⟨m, -, hissued⟩
  rcases h.issued_before hw with ⟨m', -, hissued'⟩
  exact (h.once hissued hissued').2

/-- What is not held comes back by being issued only. -/
theorem issued_since (h : Traced held issued) (hnone : ∀ v, ¬ held m k v) (hle : m ≤ n)
    (hheld : held n k v) : ∃ i, m ≤ i ∧ issued i k v := by
  induction n with
  | zero => exact absurd hheld (h.start k v)
  | succ n ih =>
    rcases Nat.lt_or_ge n m with hlt | hge
    · have heq : m = n + 1 := by omega
      rw [heq] at hnone
      exact absurd hheld (hnone v)
    rcases h.origin hheld with hbefore | hissued
    · exact ih hge hbefore
    · exact ⟨n, hge, hissued⟩

end Traced

/-- What is issued is held, and stays held until it is taken or dropped. What is taken
is held no more. -/
structure Custody (held issued : ℕ → κ → V → Prop) (taken dropped : ℕ → κ → Prop) : Prop
    extends Traced held issued where
  issue : ∀ {n k v}, issued n k v → ¬ dropped n k → held (n + 1) k v
  keep : ∀ {n k v}, held n k v → ¬ taken n k → ¬ dropped n k → held (n + 1) k v
  held_of_taken : ∀ {n k}, taken n k → ∃ v, held n k v
  take : ∀ {n k}, taken n k → ∀ v, ¬ held (n + 1) k v

namespace Custody

variable {held issued : ℕ → κ → V → Prop} {taken dropped : ℕ → κ → Prop} {m n : ℕ} {k : κ} {v : V}

section

variable (h : Custody held issued taken dropped)
include h

/-- No value is taken again: it was issued before it was taken, and it would have to be
issued afterwards. -/
theorem not_taken_again (hm : taken m k) (hn : taken n k) (hlt : m < n) : False := by
  rcases h.held_of_taken hm with ⟨v, hv⟩
  rcases h.issued_before hv with ⟨i, hi, hissued⟩
  rcases h.held_of_taken hn with ⟨w, hw⟩
  have hgone := h.take hm
  rcases h.issued_since hgone hlt hw with ⟨j, hj, hissued'⟩
  have heq := (h.once hissued hissued').1
  omega

theorem taken_once (hm : taken m k) (hn : taken n k) : m = n := by
  rcases Nat.lt_trichotomy m n with hlt | heq | hgt
  · exact (h.not_taken_again hm hn hlt).elim
  · exact heq
  · exact (h.not_taken_again hn hm hgt).elim

/-- A value is held from the step after its issue on. -/
theorem held_since (hissued : issued m k v)
    (hlt : m < n) (htaken : ∀ i, m < i → i < n → ¬ taken i k)
    (hdropped : ∀ i, m ≤ i → i < n → ¬ dropped i k) : held n k v := by
  induction n with
  | zero => omega
  | succ n ih =>
    rcases Nat.eq_or_lt_of_le (Nat.le_of_lt_succ hlt) with heq | hlt'
    · rw [← heq]
      exact h.issue hissued (hdropped m (by omega) (by omega))
    have hheld := ih hlt' (fun i hi hin => htaken i hi (by omega))
      fun i hi hin => hdropped i hi (by omega)
    exact h.keep hheld (htaken n hlt' (by omega)) (hdropped n (by omega) (by omega))

end

end Custody

end OneTime
