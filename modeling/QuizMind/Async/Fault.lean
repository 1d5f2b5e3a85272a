import QuizMind.Async.Prog

/-! # How a call can fail

A call to another process goes through, is refused without any effect, or takes
effect while its answer is lost.
-/

namespace Async

inductive Fault (ε : Type) where
  | through
  | refused (e : ε)
  | lost (e : ε)
  deriving DecidableEq

namespace Fault

variable {ε ρ σ τ : Type}

/-- What the caller sees of an effect, and the state the effect leaves. -/
def apply (fault : Fault ε) (effect : σ → Except ε ρ × σ) (s : σ) : Except ε ρ × σ :=
  match fault with
  | .through => effect s
  | .refused e => (.error e, s)
  | .lost e => (.error e, (effect s).2)

/-- The failure the caller sees, if any. -/
def failure : Fault ε → Option ε
  | .through => none
  | .refused e => some e
  | .lost e => some e

/-- The call has had its effect, whatever its caller sees. -/
def takesEffect : Fault ε → Bool
  | .through => true
  | .refused _ => false
  | .lost _ => true

@[simp] theorem through_apply (effect : σ → Except ε ρ × σ) (s : σ) :
    (through : Fault ε).apply effect s = effect s := rfl

@[simp] theorem refused_apply (e : ε) (effect : σ → Except ε ρ × σ) (s : σ) :
    (refused e).apply effect s = (.error e, s) := rfl

@[simp] theorem lost_apply (e : ε) (effect : σ → Except ε ρ × σ) (s : σ) :
    (lost e).apply effect s = (.error e, (effect s).2) := rfl

end Fault

end Async
