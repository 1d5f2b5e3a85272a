import QuizMind.Async.Machine

/-! # What a program is still bound to do

Calls may fail, so what a program does next can only be promised up to an
exception. `Prog.Bound V T`: the program makes a call in `T`, and until then
calls in `V` only, unless one of them throws. It survives a call that answers
(`Bound.next`), and a program that has ended is bound to nothing.

`Prog.Upshot`: whatever calls fail and whatever the others do within `R`, the
program ends in the postcondition. In contrast to `Prog.Ends` the failing calls
are part of it, so it holds in every run.

`Prog.Each`: every call the program may make stands in a given relation to what
the program does with the answer.
-/

namespace Async

variable {Op : Type} {Res : Op → Type} {ε α β σ : Type}

namespace Prog

/-! ## Bound to a call -/

section Bound

variable (V T : Op → Prop)

/-- The program makes a call in `T` after calls in `V`, unless one of these throws. -/
def Bound : Prog Op Res ε α → Prop
  | .ret _ => False
  | .throw _ => False
  | .call op k => T op ∨ V op ∧ ∀ a, (k (.ok a)).Bound

/-- The program makes calls in `V` only, and throws only when one of them does. -/
def Steady : Prog Op Res ε α → Prop
  | .ret _ => True
  | .throw _ => False
  | .call op k => V op ∧ ∀ a, (k (.ok a)).Steady

end Bound

section Rules

variable {V T : Op → Prop}

/-- A call that answers: it was the one, or the program is still bound. -/
theorem Bound.next {op : Op} {k : Except ε (Res op) → Prog Op Res ε α}
    (h : (Prog.call op k).Bound V T) (a : Res op) : T op ∨ (k (.ok a)).Bound V T := by
  rcases h with htarget | ⟨-, hrest⟩
  · exact Or.inl htarget
  · exact Or.inr (hrest a)

theorem bound_await_bind {op : Op} (hop : T op) (f : Res op → Prog Op Res ε α) :
    (await op >>= f).Bound V T :=
  Or.inl hop

theorem Bound.bind {p : Prog Op Res ε α} (h : p.Bound V T) (f : α → Prog Op Res ε β) :
    (p >>= f).Bound V T := by
  induction p with
  | ret a | throw e => exact h.elim
  | call op k ih =>
    rcases h with htarget | ⟨hvia, hrest⟩
    · exact Or.inl htarget
    · exact Or.inr ⟨hvia, fun a => ih (.ok a) (hrest a)⟩

/-- A steady program hands over to what follows it. -/
theorem Steady.bound {p : Prog Op Res ε α} (h : p.Steady V) {f : α → Prog Op Res ε β}
    (hf : ∀ a, (f a).Bound V T) : (p >>= f).Bound V T := by
  induction p with
  | ret a => exact hf a
  | throw e => exact h.elim
  | call op k ih => exact Or.inr ⟨h.1, fun a => ih (.ok a) (h.2 a)⟩

theorem steady_await_bind {op : Op} {f : Res op → Prog Op Res ε α} (hop : V op)
    (hf : ∀ a, (f a).Steady V) : (await op >>= f).Steady V :=
  ⟨hop, hf⟩

end Rules

/-! ## What holds at the end -/

section Upshot

variable (exec : (op : Op) → σ → Except ε (Res op) × σ) (I : σ → Prop) (R : σ → σ → Prop)
  (Q : Except ε α → σ → Prop)

/-- At the end `Q` holds, whatever calls fail; the others keep to `R` and `I`. -/
def Upshot : Prog Op Res ε α → σ → Prop
  | .ret a, s => Q (.ok a) s
  | .throw e, s => Q (.error e) s
  | .call op k, s => ∀ s', R s s' → I s' →
      (k (exec op s').1).Upshot (exec op s').2 ∧ ∀ e, (k (.error e)).Upshot s'

variable {exec I R Q}

/-- What the others do changes nothing, when the postcondition is stable. -/
theorem Upshot.stable (htrans : ∀ a b c, R a b → R b c → R a c)
    (hQ : ∀ r a b, R a b → Q r a → Q r b) {p : Prog Op Res ε α} {s s' : σ}
    (h : p.Upshot exec I R Q s) (hs : R s s') : p.Upshot exec I R Q s' := by
  cases p with
  | ret a | throw e => exact hQ _ s s' hs h
  | call op k =>
    intro t hst
    exact h t (htrans s s' t hs hst)

end Upshot

/-! ## A condition on every call -/

section Each

variable (P : (op : Op) → (Except ε (Res op) → Prog Op Res ε α) → Prop)

/-- Every call that the program may make, with what follows it, satisfies `P`. -/
def Each : Prog Op Res ε α → Prop
  | .ret _ => True
  | .throw _ => True
  | .call op k => P op k ∧ ∀ r, (k r).Each

variable {P}

/-- Programs of calls for which `P` holds whatever follows. -/
theorem each_of_safe {guar : Op → Prop} (hP : ∀ op k, guar op → P op k)
    {p : Prog Op Res ε α} (h : p.Safe (fun _ _ => True) guar) : p.Each P := by
  induction p with
  | ret a | throw e => trivial
  | call op k ih => exact ⟨hP op k h.1, fun r => ih r (h.2 r trivial)⟩

end Each

end Prog

end Async
