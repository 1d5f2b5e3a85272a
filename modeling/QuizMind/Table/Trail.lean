import Mathlib.Data.List.Basic

/-! # Trails

A list of entries, each with the value before and the value after it. It is a trail from one
value to another when every entry starts where the one before it has ended.
-/

namespace Table

variable {E V : Type} (before after : E → V)

/-- The entries lead from `v` to `w`. -/
def Trail : V → List E → V → Prop
  | v, [], w => v = w
  | v, e :: es, w => before e = v ∧ Trail (after e) es w

instance decidableTrail [DecidableEq V] : (v : V) → (es : List E) → (w : V) →
    Decidable (Trail before after v es w)
  | v, [], w => inferInstanceAs (Decidable (v = w))
  | v, e :: es, w =>
    have := decidableTrail (after e) es w
    inferInstanceAs (Decidable (before e = v ∧ Trail before after (after e) es w))

variable {before after}

/-- A trail ends in one value. -/
theorem Trail.unique {es : List E} {v w w' : V} (h : Trail before after v es w)
    (h' : Trail before after v es w') : w = w' := by
  induction es generalizing v with
  | nil =>
    have hw : v = w := h
    have hw' : v = w' := h'
    rw [← hw, hw']
  | cons e es ih => exact ih h.2 h'.2

theorem trail_append {es : List E} {e : E} {v w : V} : Trail before after v (es ++ [e]) w ↔
      ∃ u, Trail before after v es u ∧ before e = u ∧ after e = w := by
  induction es generalizing v with
  | nil =>
    constructor
    · rintro ⟨hbefore, hafter⟩
      exact ⟨v, rfl, hbefore, hafter⟩
    rintro ⟨u, hu, hbefore, hafter⟩
    have hvu : v = u := hu
    exact ⟨hvu ▸ hbefore, hafter⟩
  | cons a es ih =>
    constructor
    · rintro ⟨ha, hrest⟩
      rcases ih.mp hrest with ⟨u, hu, hlast⟩
      exact ⟨u, ⟨ha, hu⟩, hlast⟩
    · rintro ⟨u, ⟨ha, hu⟩, hlast⟩
      exact ⟨ha, ih.mpr ⟨u, hu, hlast⟩⟩

/-- A trail goes on exactly with an entry that starts at its end. -/
theorem Trail.append_iff {es : List E} {e : E} {v u w : V} (h : Trail before after v es u) :
    Trail before after v (es ++ [e]) w ↔ before e = u ∧ after e = w := by
  rw [trail_append]
  constructor
  · rintro ⟨u', hu', hlast⟩
    rwa [h.unique hu']
  · intro hlast
    exact ⟨u, h, hlast⟩

end Table
