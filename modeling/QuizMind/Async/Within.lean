import QuizMind.Async.Machine

/-! # Invariants that hold for a while

Some invariants hold only between two events: from the moment something is locked until it
is unlocked again. `Prog.Within` is the triple for the time between: whatever the others do
within `R`, the program keeps the invariant `I` and the relation `R` with every call that the
guard `g` lets pass, and a result that it returns satisfies `Q`. Calls that `g` does not let
pass end the time.

`Machine.AllWithin` says this of all running requests; `allWithin_next` is the step.
-/

namespace Async

variable {Op : Type} {Res : Op → Type} {ε α β σ Req : Type}

namespace Prog

section Within

variable (exec : (op : Op) → σ → Except ε (Res op) × σ) (I : σ → Prop) (R : σ → σ → Prop)
  (g : Op → σ → Prop) (Q : α → Prop)

def Within : Prog Op Res ε α → σ → Prop
  | .ret a, _ => Q a
  | .throw _, _ => True
  | .call op k, s => ∀ s', R s s' → I s' →
      (g op s' → I (exec op s').2 ∧ R s' (exec op s').2 ∧
        (k (exec op s').1).Within (exec op s').2) ∧
      ∀ e, (k (.error e)).Within s'

end Within

section Rules

variable {exec : (op : Op) → σ → Except ε (Res op) × σ} {I : σ → Prop} {R : σ → σ → Prop}
  {g : Op → σ → Prop}

variable {s : σ} {p : Prog Op Res ε α}

/-- What the others do leaves a program within. -/
theorem Within.stable {Q : α → Prop} (htrans : ∀ a b c, R a b → R b c → R a c) {s' : σ}
    (h : p.Within exec I R g Q s) (hs : R s s') : p.Within exec I R g Q s' := by
  cases p with
  | ret a => exact h
  | throw e => trivial
  | call op k =>
    intro t hst hI
    exact h t (htrans s s' t hs hst) hI

variable {Q : β → Prop}

/-- One call followed by the rest. -/
theorem within_await_bind {op : Op} {f : Res op → Prog Op Res ε β}
    (h : ∀ s', R s s' → I s' → g op s' → I (exec op s').2 ∧ R s' (exec op s').2 ∧
      ∀ a, (exec op s').1 = .ok a → (f a).Within exec I R g Q (exec op s').2) :
    (await op >>= f).Within exec I R g Q s := by
  intro s' hs' hI
  refine ⟨?_, fun e => trivial⟩
  intro hg
  obtain ⟨hI', hR', hf⟩ := h s' hs' hI hg
  refine ⟨hI', hR', ?_⟩
  cases hr : (exec op s').1 with
  | ok a => exact hf a hr
  | error e => trivial

variable {f : α → Prog Op Res ε β}

/-- A check followed by the rest. -/
theorem within_ofExcept_bind {x : Except ε α} (h : ∀ a, x = .ok a → (f a).Within exec I R g Q s) :
    (ofExcept x >>= f).Within exec I R g Q s := by
  cases x with
  | ok a => exact h a rfl
  | error e => trivial

/-- Sequencing: what comes next is within, in every later store, on the results allowed. -/
theorem within_bind {P : α → Prop} (hrefl : ∀ s, R s s) (htrans : ∀ a b c, R a b → R b c → R a c)
    (hp : p.Within exec I R g P s) (hf : ∀ a s', R s s' → P a → (f a).Within exec I R g Q s') :
    (p >>= f).Within exec I R g Q s := by
  induction p generalizing s with
  | ret a => exact hf a s (hrefl s) hp
  | throw e => trivial
  | call op k ih =>
    intro s' hs' hI
    obtain ⟨hok, herr⟩ := hp s' hs' hI
    refine ⟨?_, ?_⟩
    · intro hg
      obtain ⟨hI', hR', hk⟩ := hok hg
      refine ⟨hI', hR', ih _ hk ?_⟩
      intro a t ht
      exact hf a t (htrans _ _ _ hs' (htrans _ _ _ hR' ht))
    intro e
    refine ih _ (herr e) ?_
    intro a t ht
    exact hf a t (htrans _ _ _ hs' ht)

/-- An exception handler starts in some later store. -/
theorem within_handle {Q : α → Prop} (hrefl : ∀ s, R s s)
    (htrans : ∀ a b c, R a b → R b c → R a c) {f : ε → Prog Op Res ε α}
    (hp : p.Within exec I R g Q s) (hf : ∀ e s', R s s' → (f e).Within exec I R g Q s') :
    (p.handle f).Within exec I R g Q s := by
  induction p generalizing s with
  | ret a => exact hp
  | throw e => exact hf e s (hrefl s)
  | call op k ih =>
    intro s' hs' hI
    obtain ⟨hok, herr⟩ := hp s' hs' hI
    refine ⟨?_, ?_⟩
    · intro hg
      obtain ⟨hI', hR', hk⟩ := hok hg
      refine ⟨hI', hR', ih _ hk ?_⟩
      intro e t ht
      exact hf e t (htrans _ _ _ hs' (htrans _ _ _ hR' ht))
    intro e
    refine ih _ (herr e) ?_
    intro e' t ht
    exact hf e' t (htrans _ _ _ hs' ht)

end Rules

end Prog

namespace Machine

variable (M : Machine Op Res ε α σ Req)

/-- The invariant holds, and every running request is within. -/
def AllWithin (I : σ → Prop) (R : σ → σ → Prop) (g : Op → σ → Prop) (Q : α → Prop)
    (s : Snapshot Op Res ε α σ Req) : Prop :=
  I s.store ∧ ∀ q ∈ s.procs, q.2.Within M.exec I R g Q s.store

variable {s : Snapshot Op Res ε α σ Req}

/-- A step that the guard lets pass, by requests that are within when they start. -/
theorem allWithin_next {I : σ → Prop} {R : σ → σ → Prop} {g : Op → σ → Prop} {Q : α → Prop}
    (hrefl : ∀ s, R s s) (htrans : ∀ a b c, R a b → R b c → R a c)
    (hcode : ∀ req s, (M.code req).Within M.exec I R g Q s)
    {s' : Snapshot Op Res ε α σ Req} {l : Label ε Req} (hnext : M.next l s = some s')
    (hguard : ∀ pid req op k, l = .step pid → s.procs[pid]? = some (req, .call op k) → g op s.store)
    (h : M.AllWithin I R g Q s) : M.AllWithin I R g Q s' := by
  obtain ⟨hI, hall⟩ := h
  rcases M.next_cases hnext with ⟨req, rfl, rfl⟩ | ⟨pid, req, op, k, rfl, hp, rfl⟩ |
    ⟨pid, e, req, op, k, rfl, hp, rfl⟩
  · refine ⟨hI, ?_⟩
    intro q hq
    rcases List.mem_append.mp hq with hold | hnew
    · exact hall q hold
    · rw [List.mem_singleton.mp hnew]
      exact hcode req s.store
  · have hwithin := hall _ (List.mem_of_getElem? hp)
    obtain ⟨hI', hR', hk⟩ := (hwithin s.store (hrefl _) hI).1 (hguard pid req op k rfl hp)
    refine ⟨hI', ?_⟩
    intro q hq
    rcases List.mem_or_eq_of_mem_set hq with hold | hnew
    · exact (hall q hold).stable htrans hR'
    · rw [hnew]
      exact hk
  · have hwithin := hall _ (List.mem_of_getElem? hp)
    refine ⟨hI, ?_⟩
    intro q hq
    rcases List.mem_or_eq_of_mem_set hq with hold | hnew
    · exact hall q hold
    · rw [hnew]
      exact (hwithin s.store (hrefl _) hI).2 e

/-- When an invariant says that a step is of one kind exactly if it is of another, and steps of
the second kind keep the invariant, all steps of a run are of the one kind exactly if they are
all of the other. -/
theorem allSteps_iff_of_inv {I : Snapshot Op Res ε α σ Req → Prop}
    {A C : Snapshot Op Res ε α σ Req → Label ε Req → Prop}
    (hiff : ∀ s l s', I s → M.next l s = some s' → (A s l ↔ C s l))
    (hkeep : ∀ s l s', I s → M.next l s = some s' → C s l → I s')
    {ls : List (Label ε Req)} (hs : I s) :
    M.AllSteps A ls s ↔ M.AllSteps C ls s := by
  induction ls generalizing s with
  | nil => exact Iff.rfl
  | cons l ls ih =>
    constructor
    · intro hall s' hnext
      obtain ⟨hA, htail⟩ := hall s' hnext
      have hC : C s l := (hiff s l s' hs hnext).1 hA
      exact ⟨hC, (ih (hkeep s l s' hs hnext hC)).1 htail⟩
    intro hall s' hnext
    obtain ⟨hC, htail⟩ := hall s' hnext
    have hA : A s l := (hiff s l s' hs hnext).2 hC
    exact ⟨hA, (ih (hkeep s l s' hs hnext hC)).2 htail⟩

end Machine

end Async
