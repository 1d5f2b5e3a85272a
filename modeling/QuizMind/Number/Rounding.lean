import Mathlib.Algebra.Order.Floor.Ring
import Mathlib.Algebra.Order.Field.Basic
import Mathlib.Tactic.Linarith
import Mathlib.Tactic.FieldSimp

/-! # Rounding to multiples of a step

The nearest multiple of a positive step, where half a step is rounded up. It is monotone, and
it stays below a bound exactly as long as the value is less than half a step above the last
multiple below the bound (`toMultiple_le_iff`).
-/

namespace Number

variable {K : Type} [Field K] [LinearOrder K] [IsStrictOrderedRing K] [FloorRing K]

/-- The nearest integer, half rounded up. -/
def nearest (x : K) : ℤ := ⌊x + 1 / 2⌋

def toMultiple (x step : K) : K := nearest (x / step) * step

variable {x y : K}

theorem nearest_mono (h : x ≤ y) : nearest x ≤ nearest y :=
  Int.floor_le_floor (by linarith)

theorem nearest_le_iff {n : ℤ} : nearest x ≤ n ↔ x < n + 1 / 2 := by
  unfold nearest
  rw [← Int.lt_add_one_iff, Int.floor_lt]
  push_cast
  constructor
  all_goals
    intro h
    linarith

/-- Rounding keeps the order exactly where no half lies in between. -/
theorem nearest_le_nearest_iff :
    nearest x ≤ nearest y ↔ ∀ n : ℤ, n + 1 / 2 ≤ x → n + 1 / 2 ≤ y := by
  constructor
  · intro h n hn
    by_contra hy
    have hyn : nearest y ≤ n := nearest_le_iff.mpr (not_le.mp hy)
    exact absurd (nearest_le_iff.mp (h.trans hyn)) (not_lt.mpr hn)
  intro h
  -- the half above the nearest integer of `y` is above `y`
  have hy : y < nearest y + 1 / 2 := nearest_le_iff.mp le_rfl
  refine nearest_le_iff.mpr (not_le.mp fun hx => ?_)
  exact absurd (h _ hx) (not_le.mpr hy)

theorem nearest_nonneg (h : 0 ≤ x) : 0 ≤ nearest x :=
  Int.floor_nonneg.mpr (by linarith)

variable {step : K} (hstep : 0 < step)

include hstep

theorem toMultiple_mono (h : x ≤ y) : toMultiple x step ≤ toMultiple y step := by
  have hdiv : x / step ≤ y / step := (div_le_div_iff_of_pos_right hstep).mpr h
  have hnearest : (nearest (x / step) : K) ≤ nearest (y / step) := by
    exact_mod_cast nearest_mono hdiv
  exact mul_le_mul_of_nonneg_right hnearest hstep.le

theorem toMultiple_nonneg (h : 0 ≤ x) : 0 ≤ toMultiple x step := by
  have hnearest : (0 : K) ≤ nearest (x / step) := by
    exact_mod_cast nearest_nonneg (div_nonneg h hstep.le)
  exact mul_nonneg hnearest hstep.le

/-- A value that is not negative is rounded to a natural number of steps. -/
theorem toMultiple_eq_nat (h : 0 ≤ x) : ∃ n : ℕ, toMultiple x step = n * step := by
  have hnearest := nearest_nonneg (div_nonneg h hstep.le)
  refine ⟨(nearest (x / step)).toNat, ?_⟩
  have hcast : ((nearest (x / step)).toNat : K) = nearest (x / step) := by
    exact_mod_cast Int.toNat_of_nonneg hnearest
  unfold toMultiple
  rw [hcast]

theorem toMultiple_le_iff {bound : K} :
    toMultiple x step ≤ bound ↔ x / step < ⌊bound / step⌋ + 1 / 2 := by
  rw [← nearest_le_iff, Int.le_floor, le_div_iff₀ hstep]
  rfl

theorem toMultiple_le_toMultiple_iff : toMultiple x step ≤ toMultiple y step ↔
      ∀ n : ℤ, (n + 1 / 2) * step ≤ x → (n + 1 / 2) * step ≤ y := by
  have hscale : toMultiple x step ≤ toMultiple y step ↔ nearest (x / step) ≤ nearest (y / step) := by
    unfold toMultiple
    rw [mul_le_mul_iff_of_pos_right hstep, Int.cast_le]
  rw [hscale, nearest_le_nearest_iff]
  simp only [le_div_iff₀ hstep]

/-- The rounding of a bound stays at the bound where less than half a step is left over. -/
theorem toMultiple_self_le_iff {bound : K} :
    toMultiple bound step ≤ bound ↔ Int.fract (bound / step) < 1 / 2 := by
  rw [toMultiple_le_iff hstep, ← sub_lt_iff_lt_add']
  rfl

/-- What is less than half a step is rounded to nothing, and nothing else is. -/
theorem toMultiple_nonpos_iff : toMultiple x step ≤ 0 ↔ x < step / 2 := by
  rw [toMultiple_le_iff hstep, zero_div, Int.floor_zero, div_lt_iff₀ hstep]
  constructor
  all_goals
    intro h
    linarith

theorem toMultiple_zero : toMultiple 0 step = 0 := by
  have hle := (toMultiple_nonpos_iff hstep (x := 0)).mpr (by linarith)
  exact hle.antisymm (toMultiple_nonneg hstep le_rfl)

end Number
