import Mathlib.Data.List.Basic

/-! # One request at a time

Where requests do not overlap, a run is the list of its requests. `forall_states_iff_allSteps`
is the rule for a property that a step can break: it holds in every state exactly where every
step is one that keeps it.
-/

namespace Async

namespace Serial

variable {σ ι : Type} (step : σ → ι → σ)

/-- The states of a run, the first one included. -/
def states (s : σ) : List ι → List σ
  | [] => [s]
  | i :: is => s :: states (step s i) is

/-- Every step of the run satisfies `C` in the state that it is taken from. -/
def AllSteps (C : σ → ι → Prop) (s : σ) : List ι → Prop
  | [] => True
  | i :: is => C s i ∧ AllSteps C (step s i) is

variable {step} {I P : σ → Prop} {C : σ → ι → Prop} {s : σ} {is : List ι}

theorem forall_states (hs : I s) (hstep : ∀ s i, I s → I (step s i)) :
    ∀ t ∈ states step s is, I t := by
  induction is generalizing s with
  | nil =>
    intro t ht
    obtain rfl := List.mem_singleton.mp ht
    exact hs
  | cons i is ih =>
    intro t ht
    rcases List.mem_cons.mp ht with rfl | ht
    · exact hs
    · exact ih (hstep s i hs) t ht

/-- What holds of every step under an invariant holds of all steps of a run. -/
theorem allSteps_of_inv (hs : I s) (hstep : ∀ s i, I s → I (step s i))
    (hC : ∀ s i, I s → C s i) : AllSteps step C s is := by
  induction is generalizing s with
  | nil => trivial
  | cons i is ih => exact ⟨hC s i hs, ih (hstep s i hs)⟩

theorem mem_states_self : s ∈ states step s is := by
  cases is with
  | nil => exact List.mem_singleton_self s
  | cons i is => exact List.mem_cons_self

theorem forall_states_iff_allSteps (hs : I s) (hstep : ∀ s i, I s → I (step s i)) (hP : P s)
    (hiff : ∀ s i, I s → P s → (P (step s i) ↔ C s i)) :
    (∀ t ∈ states step s is, P t) ↔ AllSteps step C s is := by
  induction is generalizing s with
  | nil =>
    constructor
    · intro _
      trivial
    intro _ t ht
    obtain rfl := List.mem_singleton.mp ht
    exact hP
  | cons i is ih =>
    have hI := hstep s i hs
    constructor
    · intro h
      have hnext : P (step s i) := h _ (List.mem_cons_of_mem _ mem_states_self)
      refine ⟨(hiff s i hs hP).mp hnext, (ih hI hnext).mp ?_⟩
      intro t ht
      exact h t (List.mem_cons_of_mem _ ht)
    rintro ⟨hC, hrest⟩ t ht
    have hnext : P (step s i) := (hiff s i hs hP).mpr hC
    rcases List.mem_cons.mp ht with rfl | ht
    · exact hP
    · exact (ih hI hnext).mpr hrest t ht

end Serial

end Async
