import Mathlib.Logic.Relation
import Mathlib.Data.List.Basic

/-! # Programs made of atomic calls

A request handler is modelled as a tree: it either finishes with a value,
finishes with an exception, or performs one atomic call and continues with
the answer. The tree is what the handler *may* do; what a call does to the
shared store is a separate function `exec`, so the same program can be run

* alone, with any of its calls failing (`Prog.run`);
* as a transaction that is rolled back when it throws (`Prog.atomically`);
* interleaved with other programs (`Async/Machine.lean`);
* statement by statement under row locks (`Async/ReadCommitted.lean`).

Nothing in this file names a particular store or a particular call.
-/

namespace Async

/-- A program over the calls `Op`, where a call `op` answers in `Res op` or
fails with an `ε`. The continuation receives either outcome, so `try`/`catch`
around a call is part of the tree. -/
inductive Prog (Op : Type) (Res : Op → Type) (ε : Type) (α : Type) where
  | ret (a : α)
  | throw (e : ε)
  | call (op : Op) (k : Except ε (Res op) → Prog Op Res ε α)

namespace Prog

variable {Op : Type} {Res : Op → Type} {ε α β γ σ : Type}

/-- Sequencing: an exception skips the rest. -/
def bind : Prog Op Res ε α → (α → Prog Op Res ε β) → Prog Op Res ε β
  | .ret a, f => f a
  | .throw e, _ => .throw e
  | .call op k, f => .call op (fun r => (k r).bind f)

/-- Exception handling: the handler runs in place of a `throw`. -/
def handle : Prog Op Res ε α → (ε → Prog Op Res ε α) → Prog Op Res ε α
  | .ret a, _ => .ret a
  | .throw e, h => h e
  | .call op k, h => .call op (fun r => (k r).handle h)

instance : Monad (Prog Op Res ε) where
  pure := .ret
  bind := .bind

instance : MonadExceptOf ε (Prog Op Res ε) where
  throw := .throw
  tryCatch := .handle

/-- `await op`: perform one call, rethrowing its failure. -/
def await (op : Op) : Prog Op Res ε (Res op) :=
  .call op (fun r => match r with
    | .ok a => .ret a
    | .error e => .throw e)

/-- A check that throws ends the program. -/
def ofExcept : Except ε α → Prog Op Res ε α
  | .ok a => .ret a
  | .error e => .throw e

@[simp] theorem pure_eq (a : α) : (pure a : Prog Op Res ε α) = .ret a := rfl

@[simp] theorem ret_bind (a : α) (f : α → Prog Op Res ε β) :
    (Prog.ret a >>= f) = f a := rfl

@[simp] theorem throw_bind (e : ε) (f : α → Prog Op Res ε β) :
    ((Prog.throw e : Prog Op Res ε α) >>= f) = .throw e := rfl

@[simp] theorem call_bind (op : Op) (k : Except ε (Res op) → Prog Op Res ε α)
    (f : α → Prog Op Res ε β) :
    (Prog.call op k >>= f) = .call op (fun r => k r >>= f) := rfl

@[simp] theorem throwThe_eq (e : ε) :
    (throwThe ε e : Prog Op Res ε α) = .throw e := rfl

@[simp] theorem monadThrow_eq (e : ε) :
    (MonadExcept.throw e : Prog Op Res ε α) = .throw e := rfl

@[simp] theorem ret_handle (a : α) (h : ε → Prog Op Res ε α) :
    (Prog.ret a).handle h = .ret a := rfl

@[simp] theorem throw_handle (e : ε) (h : ε → Prog Op Res ε α) :
    (Prog.throw e).handle h = h e := rfl

@[simp] theorem call_handle (op : Op) (k : Except ε (Res op) → Prog Op Res ε α)
    (h : ε → Prog Op Res ε α) :
    (Prog.call op k).handle h = .call op (fun r => (k r).handle h) := rfl

@[simp] theorem tryCatch_eq (p : Prog Op Res ε α) (h : ε → Prog Op Res ε α) :
    tryCatch p h = p.handle h := rfl

@[simp] theorem tryCatchThe_eq (p : Prog Op Res ε α) (h : ε → Prog Op Res ε α) :
    tryCatchThe ε p h = p.handle h := rfl

theorem bind_assoc (p : Prog Op Res ε α) (f : α → Prog Op Res ε β) (g : β → Prog Op Res ε γ) :
    (p >>= f) >>= g = p >>= fun a => f a >>= g := by
  induction p with
  | ret a => rfl
  | throw e => rfl
  | call op k ih =>
    simp only [call_bind]
    congr 1
    funext r
    exact ih r

/-! ## Programs over part of the calls -/

section Embed

variable {Op' : Type} {Res' : Op' → Type} (f : Op → Op') (g : (op : Op) → Res' (f op) → Res op)

/-- A program over some calls as one over more calls: `f` says which call it
makes, `g` reads the answer. -/
def embed : Prog Op Res ε α → Prog Op' Res' ε α
  | .ret a => .ret a
  | .throw e => .throw e
  | .call op k => .call (f op) (fun r => (k (r.map (g op))).embed)

@[simp] theorem embed_ret (a : α) :
    (Prog.ret a : Prog Op Res ε α).embed f g = .ret a := rfl

@[simp] theorem embed_throw (e : ε) :
    (Prog.throw e : Prog Op Res ε α).embed f g = .throw e := rfl

theorem embed_bind (p : Prog Op Res ε α) (h : α → Prog Op Res ε β) :
    (p >>= h).embed f g = p.embed f g >>= fun a => (h a).embed f g := by
  induction p with
  | ret a => rfl
  | throw e => rfl
  | call op k ih => simp_all [embed]

theorem embed_handle (p : Prog Op Res ε α) (h : ε → Prog Op Res ε α) :
    (p.handle h).embed f g = (p.embed f g).handle fun e => (h e).embed f g := by
  induction p with
  | ret a => rfl
  | throw e => rfl
  | call op k ih => simp_all [embed]

theorem embed_ofExcept (x : Except ε α) :
    (ofExcept x : Prog Op Res ε α).embed f g = ofExcept x := by
  cases x <;> rfl

theorem embed_await (op : Op) :
    (await op : Prog Op Res ε (Res op)).embed f g = await (f op) >>= fun a => .ret (g op a) := by
  simp only [await, embed]
  congr 1
  funext r
  cases r <;> rfl

theorem embed_await_bind (op : Op) (h : Res op → Prog Op Res ε α) :
    (await op >>= h).embed f g = await (f op) >>= fun a => (h (g op a)).embed f g := by
  rw [embed_bind, embed_await, bind_assoc]
  rfl

end Embed

/-! ## Running a program alone -/

section Run

variable (exec : (op : Op) → σ → Except ε (Res op) × σ)

/-- Run a program to its end. The list says which calls fail: `some e` at a
position makes that call throw `e` without touching the store, `none` lets it
through, and the calls after the end of the list all go through. -/
def run : Prog Op Res ε α → List (Option ε) → σ → Except ε α × σ
  | .ret a, _, s => (.ok a, s)
  | .throw e, _, s => (.error e, s)
  | .call op k, [], s =>
    let out := exec op s
    (k out.1).run [] out.2
  | .call op k, none :: faults, s =>
    let out := exec op s
    (k out.1).run faults out.2
  | .call _ k, some e :: faults, s => (k (.error e)).run faults s

@[simp] theorem run_ret (a : α) (faults : List (Option ε)) (s : σ) :
    (Prog.ret a : Prog Op Res ε α).run exec faults s = (.ok a, s) := by
  cases faults <;> rfl

@[simp] theorem run_throw (e : ε) (faults : List (Option ε)) (s : σ) :
    (Prog.throw e : Prog Op Res ε α).run exec faults s = (.error e, s) := by
  cases faults <;> rfl

variable (op : Op) (k : Except ε (Res op) → Prog Op Res ε α)

@[simp] theorem run_call_fail
    (e : ε) (faults : List (Option ε)) (s : σ) :
    (Prog.call op k).run exec (some e :: faults) s = (k (.error e)).run exec faults s := rfl

@[simp] theorem run_call_ok
    (faults : List (Option ε)) (s : σ) :
    (Prog.call op k).run exec (none :: faults) s =
      (k (exec op s).1).run exec faults (exec op s).2 := rfl

@[simp] theorem run_call_nil (s : σ) :
    (Prog.call op k).run exec [] s = (k (exec op s).1).run exec [] (exec op s).2 := rfl

/-- One call, whether the list of failures goes that far or not. -/
theorem run_call (faults : List (Option ε)) (s : σ) : (Prog.call op k).run exec faults s =
      match faults.headD none with
      | none => (k (exec op s).1).run exec faults.tail (exec op s).2
      | some e => (k (.error e)).run exec faults.tail s := by
  rcases faults with _ | ⟨_ | e, faults⟩
  all_goals rfl

/-- One awaited call followed by the rest. -/
theorem run_await_bind (f : Res op → Prog Op Res ε α) (faults : List (Option ε)) (s : σ) :
    (await op >>= f).run exec faults s = match faults.headD none with
      | some e => (.error e, s)
      | none =>
        match exec op s with
        | (.ok a, s') => (f a).run exec faults.tail s'
        | (.error e, s') => (.error e, s') := by
  rw [await, call_bind, run_call]
  cases faults.headD none with
  | some e => simp
  | none =>
    cases hexec : exec op s with
    | mk r s' =>
      cases r with
      | ok a | error e => simp

/-- Go on with the result of a run, all calls going through. -/
def andThen (f : α → Prog Op Res ε β) : Except ε α × σ → Except ε β × σ
  | (.ok a, s) => (f a).run exec [] s
  | (.error e, s) => (.error e, s)

/-- Handle the exception of a run, all calls going through. -/
def orElse (h : ε → Prog Op Res ε α) : Except ε α × σ → Except ε α × σ
  | (.ok a, s) => (.ok a, s)
  | (.error e, s) => (h e).run exec [] s

@[simp] theorem andThen_ok (f : α → Prog Op Res ε β) (a : α) (s : σ) :
    andThen exec f (.ok a, s) = (f a).run exec [] s := rfl

@[simp] theorem andThen_error (f : α → Prog Op Res ε β) (e : ε) (s : σ) :
    andThen exec f (.error e, s) = (.error e, s) := rfl

@[simp] theorem orElse_ok (h : ε → Prog Op Res ε α) (a : α) (s : σ) :
    orElse exec h (.ok a, s) = (.ok a, s) := rfl

@[simp] theorem orElse_error (h : ε → Prog Op Res ε α) (e : ε) (s : σ) :
    orElse exec h (.error e, s) = (h e).run exec [] s := rfl

/-- A run of two programs in sequence. -/
theorem run_bind (p : Prog Op Res ε α) (f : α → Prog Op Res ε β) (s : σ) :
    (p >>= f).run exec [] s = andThen exec f (p.run exec [] s) := by
  induction p generalizing s with
  | ret a => rfl
  | throw e => rfl
  | call op k ih => exact ih _ _

/-- A run under an exception handler. -/
theorem run_handle (p : Prog Op Res ε α) (h : ε → Prog Op Res ε α) (s : σ) :
    (p.handle h).run exec [] s = orElse exec h (p.run exec [] s) := by
  induction p generalizing s with
  | ret a => rfl
  | throw e => rfl
  | call op k ih => exact ih _ _

/-- One awaited call. -/
theorem run_await (s : σ) : (await op).run exec [] s = exec op s := by
  rw [await, run_call_nil]
  rcases hexec : exec op s with ⟨r, s'⟩
  cases r with
  | ok a => rfl
  | error e => rfl

/-- Run a program as a transaction: what it did is kept only when it ends
without an exception. -/
def atomically (p : Prog Op Res ε α) (faults : List (Option ε)) (s : σ) : Except ε α × σ :=
  match p.run exec faults s with
  | (.ok a, s') => (.ok a, s')
  | (.error e, _) => (.error e, s)

end Run

/-! ## What a run preserves -/

section Keeps

variable (exec : (op : Op) → σ → Except ε (Res op) × σ)

/-- `p` started in `s` respects the predicate `post`: whatever calls fail,
the final outcome and store satisfy it. It is the weakest precondition of
`post`, written by recursion on the program. -/
def wp (post : Except ε α → σ → Prop) : Prog Op Res ε α → σ → Prop
  | .ret a, s => post (.ok a) s
  | .throw e, s => post (.error e) s
  | .call op k, s =>
    (k (exec op s).1).wp post (exec op s).2 ∧ ∀ e, (k (.error e)).wp post s

variable {p : Prog Op Res ε α}

variable {s : σ}

/-- The weakest precondition covers every pattern of failing calls. -/
theorem run_of_wp {post : Except ε α → σ → Prop} (h : p.wp exec post s)
    (faults : List (Option ε)) : post (p.run exec faults s).1 (p.run exec faults s).2 := by
  induction p generalizing s faults with
  | ret a | throw e => simpa [wp] using h
  | call op k ih =>
    rcases h with ⟨hok, hfail⟩
    -- the next entry of `faults` says which half of the precondition is needed
    rcases faults with _ | ⟨_ | e, faults⟩
    · exact ih _ hok []
    · exact ih _ hok faults
    · exact ih _ (hfail e) faults

theorem wp_mono {post post' : Except ε α → σ → Prop} (hpost : ∀ r s, post r s → post' r s)
    (h : p.wp exec post s) : p.wp exec post' s := by
  induction p generalizing s with
  | ret a | throw e => exact hpost _ _ h
  | call op k ih => exact ⟨ih _ h.1, fun e => ih _ (h.2 e)⟩

variable {post : Except ε β → σ → Prop}

variable {f : α → Prog Op Res ε β}

/-- The rule for sequencing. -/
theorem wp_bind (h : p.wp exec (fun r s' => match r with
      | .ok a => (f a).wp exec post s'
      | .error e => post (.error e) s') s) :
    (p >>= f).wp exec post s := by
  induction p generalizing s with
  | ret a | throw e => exact h
  | call op k ih => exact ⟨ih _ h.1, fun e => ih _ (h.2 e)⟩

/-- The rule for one call followed by the rest. -/
theorem wp_await_bind {op : Op} {f : Res op → Prog Op Res ε β} (hfail : ∀ e, post (.error e) s)
    (hok : ∀ a, (exec op s).1 = .ok a → (f a).wp exec post (exec op s).2)
    (herr : ∀ e, (exec op s).1 = .error e → post (.error e) (exec op s).2) :
    (await op >>= f).wp exec post s := by
  apply wp_bind
  constructor
  · grind [wp]
  · intro e
    exact hfail e

/-! Most postconditions say something about the successful outcomes only: a
transaction that throws is rolled back. -/

/-- `P` holds of the result and the store, when there is a result. -/
def onOk (P : α → σ → Prop) : Except ε α → σ → Prop
  | .ok a, s => P a s
  | .error _, _ => True

/-- The rule for sequencing, for successful outcomes. -/
theorem wp_bind_onOk {Q : α → σ → Prop} {P : β → σ → Prop}
    (hp : p.wp exec (onOk Q) s) (hf : ∀ a s', Q a s' → (f a).wp exec (onOk P) s') :
    (p >>= f).wp exec (onOk P) s := by
  apply wp_bind
  refine wp_mono exec ?_ hp
  intro r s' hr
  -- an exception of `p` ends the whole, and nothing is asked of it
  cases r with
  | ok a => exact hf a s' hr
  | error e => trivial

/-- A transaction keeps an invariant that holds whenever it commits. -/
theorem atomically_of_wp {I : σ → Prop} (hp : p.wp exec (onOk fun _ => I) s) (hs : I s)
    (faults : List (Option ε)) : I (p.atomically exec faults s).2 := by
  have hpost := run_of_wp exec hp faults
  unfold atomically
  cases hr : p.run exec faults s with
  | mk out s' =>
    rw [hr] at hpost
    cases out with
    | ok a => exact hpost
    | error e => exact hs

end Keeps

/-! ## Programs that only read -/

section Reads

variable (exec : (op : Op) → σ → Except ε (Res op) × σ)

/-- `p` leaves the store `s` as it finds it, and what it returns satisfies `P`, whatever
calls fail. -/
def Reads (P : α → Prop) (p : Prog Op Res ε α) (s : σ) : Prop :=
  p.wp exec (fun r s' => s' = s ∧ ∀ a, r = .ok a → P a) s

variable {exec} {P : α → Prop} {Q : β → Prop} {s : σ}

variable {p : Prog Op Res ε α}

theorem run_of_reads (h : p.Reads exec P s) {faults : List (Option ε)} {a : α} {s' : σ}
    (hrun : p.run exec faults s = (.ok a, s')) : P a := by
  have hpost := run_of_wp exec h faults
  rw [hrun] at hpost
  exact hpost.2 a rfl

theorem reads_ret {a : α} (h : P a) : (Prog.ret a : Prog Op Res ε α).Reads exec P s :=
  ⟨rfl, fun _ ha => Except.ok.inj ha ▸ h⟩

theorem reads_throw (e : ε) : (Prog.throw e : Prog Op Res ε α).Reads exec P s :=
  ⟨rfl, fun _ ha => nomatch ha⟩

theorem Reads.mono {P' : α → Prop} (hP : ∀ a, P a → P' a) (hp : p.Reads exec P s) :
    p.Reads exec P' s :=
  wp_mono exec (fun _ _ h => ⟨h.1, fun a ha => hP a (h.2 a ha)⟩) hp

theorem reads_bind {f : α → Prog Op Res ε β} (hp : p.Reads exec P s)
    (hf : ∀ a, P a → (f a).Reads exec Q s) : (p >>= f).Reads exec Q s := by
  apply wp_bind
  refine wp_mono exec ?_ hp
  rintro r s' ⟨rfl, hr⟩
  cases r with
  | ok a => exact hf a (hr a rfl)
  | error e => exact ⟨rfl, fun _ ha => nomatch ha⟩

/-- A program that fails has read only: its handler starts where it did. -/
theorem reads_handle {f : ε → Prog Op Res ε α} (hp : p.Reads exec P s)
    (hf : ∀ e, (f e).Reads exec P s) : (p.handle f).Reads exec P s := by
  have key : ∀ s₁, p.wp exec (fun r s' => s' = s ∧ ∀ a, r = .ok a → P a) s₁ →
      (p.handle f).wp exec (fun r s' => s' = s ∧ ∀ a, r = .ok a → P a) s₁ := by
    clear hp
    induction p with
    | ret a => exact fun _ h => h
    | throw e =>
      rintro s₁ ⟨rfl, -⟩
      exact hf e
    | call op k ih => exact fun _ h => ⟨ih _ _ h.1, fun e => ih _ _ (h.2 e)⟩
  exact key s hp

theorem reads_await {op : Op} {P : Res op → Prop} (hs : (exec op s).2 = s)
    (hP : ∀ a, (exec op s).1 = .ok a → P a) : (await op).Reads exec P s := by
  constructor
  · cases hr : (exec op s).1 with
    | ok a => exact ⟨hs, fun b hb => hP b (hr.trans hb)⟩
    | error e => exact ⟨hs, fun _ hb => nomatch hb⟩
  · exact fun e => reads_throw e

theorem reads_ofExcept {x : Except ε α} (h : ∀ a, x = .ok a → P a) :
    (ofExcept x : Prog Op Res ε α).Reads exec P s := by
  cases x with
  | ok a => exact reads_ret (h a rfl)
  | error e => exact reads_throw e

end Reads

/-! ## Assume–guarantee over answers

`Safe rely guar`: as long as every answer satisfies `rely`, every call made
satisfies `guar`. It is a property of the program text alone. -/

/-- Every call satisfies `guar`, provided the answers satisfy `rely`. -/
def Safe (rely : (op : Op) → Except ε (Res op) → Prop) (guar : Op → Prop) : Prog Op Res ε α → Prop
  | .ret _ => True
  | .throw _ => True
  | .call op k => guar op ∧ ∀ r, rely op r → (k r).Safe rely guar

variable {p : Prog Op Res ε α} {guar : Op → Prop} {rely : (op : Op) → Except ε (Res op) → Prop}

theorem Safe.mono {guar' : Op → Prop} (hguar : ∀ op, guar op → guar' op) (h : p.Safe rely guar) :
    p.Safe rely guar' := by
  induction p with
  | ret a | throw e => trivial
  | call op k ih => exact ⟨hguar op h.1, fun r hr => ih r (h.2 r hr)⟩

/-- A guarantee that every call gives. -/
theorem safe_of_forall (h : ∀ op, guar op) (p : Prog Op Res ε α) : p.Safe rely guar := by
  induction p with
  | ret a | throw e => trivial
  | call op k ih => exact ⟨h op, fun r _ => ih r⟩

variable {f : α → Prog Op Res ε β}

theorem safe_bind (hp : p.Safe rely guar)
    (hf : ∀ a, (f a).Safe rely guar) : (p >>= f).Safe rely guar := by
  induction p with
  | ret a => exact hf a
  | throw e => trivial
  | call op k ih => exact ⟨hp.1, fun r hr => ih r (hp.2 r hr)⟩

theorem safe_handle {f : ε → Prog Op Res ε α} (hp : p.Safe rely guar)
    (hf : ∀ e, (f e).Safe rely guar) : (p.handle f).Safe rely guar := by
  induction p with
  | ret a => trivial
  | throw e => exact hf e
  | call op k ih => exact ⟨hp.1, fun r hr => ih r (hp.2 r hr)⟩

theorem safe_await {op : Op} (hop : guar op) :
    (await op : Prog Op Res ε (Res op)).Safe rely guar := by
  refine ⟨hop, ?_⟩
  intro r _
  cases r with
  | ok a | error e => trivial

/-- One call followed by the rest. -/
theorem safe_await_bind {op : Op} {f : Res op → Prog Op Res ε α} (hop : guar op)
    (hf : ∀ a, rely op (.ok a) → (f a).Safe rely guar) : (await op >>= f).Safe rely guar := by
  refine ⟨hop, ?_⟩
  intro r hr
  cases r with
  | ok a => exact hf a hr
  | error e => trivial

/-- A check followed by the rest. -/
theorem safe_ofExcept_bind {x : Except ε α}
    (hf : ∀ a, x = .ok a → (f a).Safe rely guar) : (ofExcept x >>= f).Safe rely guar := by
  cases x with
  | ok a => exact hf a rfl
  | error e => trivial

/-- When every call that the program makes keeps the invariant, so does every
run of it, whichever calls fail. -/
theorem run_of_safe {exec : (op : Op) → σ → Except ε (Res op) × σ} {I : σ → Prop}
    (hcall : ∀ op s, guar op → I s → I (exec op s).2) (hp : p.Safe (fun _ _ => True) guar)
    (faults : List (Option ε)) {s : σ} (hs : I s) : I (p.run exec faults s).2 := by
  induction p generalizing faults s with
  | ret a | throw e => simpa using hs
  | call op k ih =>
    obtain ⟨hop, hk⟩ := hp
    have hnext : I (exec op s).2 := hcall op s hop hs
    -- a failing call leaves the store as it was
    rcases faults with _ | ⟨_ | e, faults⟩
    · exact ih _ (hk _ trivial) [] hnext
    · exact ih _ (hk _ trivial) faults hnext
    · exact ih _ (hk _ trivial) faults hs

end Prog

end Async
