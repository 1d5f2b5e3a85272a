import QuizMind.Async.Prog

/-! # Interleaved programs over one store

Any number of requests run side by side. A step starts a new request, lets
one running request perform its next call atomically, or makes that call
fail. The state carries a history variable: the log of all calls performed
so far, with the request that made them and the answer it got. Statements
such as "after the call returned" or "the session was issued by a login" are
statements about the log.

The proof rules are the Owicki–Gries/rely–guarantee rules in the form this
model needs:

* `Machine.Reaches.invariant`: a property kept by every step holds in every
  reachable state, where the steps may be restricted by a side condition
  (`Machine.Step`);
* `Prog.Valid`: a program whose calls keep the invariant `I` and the step
  relation `R` from any store the other requests may have produced, and
  `Machine.rely_guarantee`, which composes such programs.
-/

namespace Async

variable {Op : Type} {Res : Op → Type} {ε α σ Req : Type}

/-- A system of requests over one store. -/
structure Machine (Op : Type) (Res : Op → Type) (ε α σ Req : Type) where
  /-- What one atomic call does. -/
  exec : (op : Op) → σ → Except ε (Res op) × σ
  /-- The handler of a request. -/
  code : Req → Prog Op Res ε α

/-- One performed call. -/
structure Event (Op : Type) (Res : Op → Type) (ε : Type) where
  pid : ℕ
  op : Op
  result : Except ε (Res op)

/-- A global state: the store, the requests received so far with what each
still has to do, and the log of performed calls. -/
structure Snapshot (Op : Type) (Res : Op → Type) (ε α σ Req : Type) where
  store : σ
  procs : List (Req × Prog Op Res ε α)
  log : List (Event Op Res ε)

/-- What the scheduler may do next. -/
inductive Label (ε Req : Type) where
  | start (req : Req)
  | step (pid : ℕ)
  | fail (pid : ℕ) (e : ε)

namespace Machine

variable (M : Machine Op Res ε α σ Req)

/-- The state after one scheduler choice; `none` when the choice is not
available (no such request, or it has already ended). -/
def next : Label ε Req → Snapshot Op Res ε α σ Req → Option (Snapshot Op Res ε α σ Req)
  | .start req, s => some { s with procs := s.procs ++ [(req, M.code req)] }
  | .step pid, s =>
    match s.procs[pid]? with
    | some (req, .call op k) =>
      let out := M.exec op s.store
      some
        { store := out.2
          procs := s.procs.set pid (req, k out.1)
          log := s.log ++ [⟨pid, op, out.1⟩] }
    | _ => none
  | .fail pid e, s =>
    match s.procs[pid]? with
    | some (req, .call op k) =>
      some
        { s with
          procs := s.procs.set pid (req, k (.error e))
          log := s.log ++ [⟨pid, op, .error e⟩] }
    | _ => none

/-- The state after a list of scheduler choices that all satisfy `C`. -/
def trace (C : Snapshot Op Res ε α σ Req → Label ε Req → Bool) :
    List (Label ε Req) → Snapshot Op Res ε α σ Req → Option (Snapshot Op Res ε α σ Req)
  | [], s => some s
  | l :: ls, s => if C s l then (M.next l s).bind (trace C ls) else none

/-- No request has been received yet. -/
def initial (store : σ) : Snapshot Op Res ε α σ Req where
  store := store
  procs := []
  log := []

/-! ## Inversion of a step -/

variable {s s' : Snapshot Op Res ε α σ Req} {l : Label ε Req}

section

variable (h : M.next l s = some s')
include h

/-- Everything a scheduler choice can do. -/
theorem next_cases :
    (∃ req, l = .start req ∧ s' = { s with procs := s.procs ++ [(req, M.code req)] }) ∨
    (∃ pid req op k, l = .step pid ∧ s.procs[pid]? = some (req, .call op k) ∧
      s' = { store := (M.exec op s.store).2
             procs := s.procs.set pid (req, k (M.exec op s.store).1)
             log := s.log ++ [⟨pid, op, (M.exec op s.store).1⟩] }) ∨
    (∃ pid e req op k, l = .fail pid e ∧ s.procs[pid]? = some (req, .call op k) ∧
      s' = { s with
             procs := s.procs.set pid (req, k (.error e))
             log := s.log ++ [⟨pid, op, .error e⟩] }) := by
  cases l with
  | start req =>
    left
    exact ⟨req, rfl, by simpa [next] using h.symm⟩
  | step pid | fail pid e => grind [next]

/-- A request stays the request it was. -/
theorem next_request {j : ℕ} {q : Req × Prog Op Res ε α}
    (hq : s.procs[j]? = some q) : ∃ q', s'.procs[j]? = some q' ∧ q'.1 = q.1 := by
  have hlt : j < s.procs.length := (List.getElem?_eq_some_iff.mp hq).1
  have hset : ∀ (pid : ℕ) (req : Req) (op : Op) (k : Except ε (Res op) → Prog Op Res ε α)
      (p : Prog Op Res ε α), s.procs[pid]? = some (req, .call op k) →
        ∃ q', (s.procs.set pid (req, p))[j]? = some q' ∧ q'.1 = q.1 := by grind
  rcases M.next_cases h with ⟨req, rfl, rfl⟩ | ⟨pid, req, op, k, rfl, hp, rfl⟩ |
    ⟨pid, e, req, op, k, rfl, hp, rfl⟩
  · exact ⟨q, by rw [List.getElem?_append_left hlt]; exact hq, rfl⟩
  all_goals exact hset pid req op k _ hp

theorem next_length : s.procs.length ≤ s'.procs.length := by
  rcases M.next_cases h with ⟨req, rfl, rfl⟩ | ⟨pid, req, op, k, rfl, hp, rfl⟩ |
    ⟨pid, e', req, op, k, rfl, hp, rfl⟩ <;> simp

/-- The log only grows. -/
theorem next_log_grows : s.log <+: s'.log := by
  rcases M.next_cases h with ⟨req, rfl, rfl⟩ | ⟨pid, req, op, k, rfl, hp, rfl⟩ |
    ⟨pid, e', req, op, k, rfl, hp, rfl⟩
  · exact List.prefix_rfl
  all_goals exact List.prefix_append _ _

theorem next_log {e : Event Op Res ε} (he : e ∈ s.log) : e ∈ s'.log :=
  (M.next_log_grows h).mem he

end

/-! ## Runs -/

/-- One step taken under the side condition `C` on the state before it and
the scheduler choice. -/
def Step (C : Snapshot Op Res ε α σ Req → Label ε Req → Prop)
    (s s' : Snapshot Op Res ε α σ Req) : Prop :=
  ∃ l, C s l ∧ M.next l s = some s'

/-- `s'` is reached from `s` by steps that all satisfy `C`. -/
abbrev Reaches (C : Snapshot Op Res ε α σ Req → Label ε Req → Prop) :
    Snapshot Op Res ε α σ Req → Snapshot Op Res ε α σ Req → Prop :=
  Relation.ReflTransGen (M.Step C)

/-- The unrestricted side condition. -/
def anyStep : Snapshot Op Res ε α σ Req → Label ε Req → Bool := fun _ _ => true

/-- The side condition of a run in which no call fails. -/
def noFailure : Snapshot Op Res ε α σ Req → Label ε Req → Bool
  | _, .fail _ _ => false
  | _, _ => true

/-- Invariant induction along a run. -/
theorem Reaches.invariant {C : Snapshot Op Res ε α σ Req → Label ε Req → Prop}
    {inv : Snapshot Op Res ε α σ Req → Prop}
    (hstep : ∀ s l s', C s l → M.next l s = some s' → inv s → inv s') (h : M.Reaches C s s')
    (hinit : inv s) : inv s' := by
  induction h with
  | refl => exact hinit
  | tail _ hlast ih =>
    rcases hlast with ⟨l, hC, hnext⟩
    exact hstep _ l _ hC hnext ih

/-- A run under a stronger side condition is a run under a weaker one. -/
theorem Reaches.mono {C C' : Snapshot Op Res ε α σ Req → Label ε Req → Prop}
    (hC : ∀ s l, C s l → C' s l) (h : M.Reaches C s s') : M.Reaches C' s s' := by
  induction h with
  | refl => exact Relation.ReflTransGen.refl
  | tail _ hlast ih =>
    rcases hlast with ⟨l, hl, hnext⟩
    exact ih.tail ⟨l, hC _ l hl, hnext⟩

variable {ls : List (Label ε Req)} {C : Snapshot Op Res ε α σ Req → Label ε Req → Bool}

/-- A list of scheduler choices that goes through is a run. -/
theorem reaches_of_trace (h : M.trace C ls s = some s') : M.Reaches (fun s l => C s l) s s' := by
  induction ls generalizing s with
  | nil =>
    simp only [trace, Option.some.injEq] at h
    rw [h]
  | cons l ls ih =>
    simp only [trace] at h
    split at h
    · rename_i hC
      obtain ⟨t, hnext, hrest⟩ := Option.bind_eq_some_iff.mp h
      exact Relation.ReflTransGen.head ⟨l, hC, hnext⟩ (ih hrest)
    · cases h

/-- The same, with a check of the state at the end. -/
theorem reaches_of_trace_check {p : Snapshot Op Res ε α σ Req → Bool}
    (h : (M.trace C ls s).map p = some true) :
    ∃ s', M.Reaches (fun s l => C s l) s s' ∧ p s' = true := by
  obtain ⟨s', hs', hp⟩ := Option.map_eq_some_iff.mp h
  exact ⟨s', M.reaches_of_trace hs', hp⟩

/-! ## All states and all steps of one run

A run is given by its scheduler choices; a choice that is not available ends
it. `AllStates` and `AllSteps` speak about the states it visits and about the
steps it takes. -/

/-- Every state visited by the run satisfies `P`. -/
def AllStates (P : Snapshot Op Res ε α σ Req → Prop) :
    List (Label ε Req) → Snapshot Op Res ε α σ Req → Prop
  | [], s => P s
  | l :: ls, s => P s ∧ ∀ s', M.next l s = some s' → AllStates P ls s'

/-- Every step taken by the run satisfies `C`. -/
def AllSteps (C : Snapshot Op Res ε α σ Req → Label ε Req → Prop) :
    List (Label ε Req) → Snapshot Op Res ε α σ Req → Prop
  | [], _ => True
  | l :: ls, s => ∀ s', M.next l s = some s' → C s l ∧ AllSteps C ls s'

variable {P : Snapshot Op Res ε α σ Req → Prop}

theorem allStates_head (h : M.AllStates P ls s) : P s := by
  cases ls with
  | nil => exact h
  | cons l ls => exact h.1

/-- When one step keeps `P` exactly if it satisfies `C`, a run keeps `P`
throughout exactly if all its steps satisfy `C`. -/
theorem allStates_iff_allSteps {K : Snapshot Op Res ε α σ Req → Prop}
    {C : Snapshot Op Res ε α σ Req → Label ε Req → Prop}
    (hK : ∀ s l s', K s → M.next l s = some s' → K s')
    (hstep : ∀ s l s', K s → P s → M.next l s = some s' → (P s' ↔ C s l)) (hs : P s) (hks : K s) :
    M.AllStates P ls s ↔ M.AllSteps C ls s := by
  induction ls generalizing s with
  | nil => exact iff_of_true hs trivial
  | cons l ls ih =>
    constructor
    · rintro ⟨_, hall⟩ s' hnext
      -- the step equivalence takes `P` on to the next state; `K` gets there by itself
      have htail := hall s' hnext
      have hs' : P s' := M.allStates_head htail
      exact ⟨(hstep s l s' hks hs hnext).1 hs', (ih hs' (hK s l s' hks hnext)).1 htail⟩
    intro hall
    refine ⟨hs, ?_⟩
    intro s' hnext
    rcases hall s' hnext with ⟨hC, htail⟩
    have hs' : P s' := (hstep s l s' hks hs hnext).2 hC
    exact (ih hs' (hK s l s' hks hnext)).2 htail

/-- An invariant that implies `P` and is kept by the steps that satisfy `C`. -/
theorem allStates_of_allSteps {I : Snapshot Op Res ε α σ Req → Prop}
    {C : Snapshot Op Res ε α σ Req → Label ε Req → Prop} (hP : ∀ s, I s → P s)
    (hgood : ∀ s l s', I s → M.next l s = some s' → C s l → I s') (hs : I s)
    (h : M.AllSteps C ls s) : M.AllStates P ls s := by
  induction ls generalizing s with
  | nil => exact hP s hs
  | cons l ls ih =>
    refine ⟨hP s hs, ?_⟩
    intro s' hnext
    rcases h s' hnext with ⟨hC, htail⟩
    exact ih (hgood s l s' hs hnext hC) htail

/-- The last state of a run is one of its states. -/
theorem allStates_last (hall : M.AllStates P ls s) (h : M.trace C ls s = some s') : P s' := by
  induction ls generalizing s with
  | nil =>
    simp only [trace, Option.some.injEq] at h
    rw [← h]
    exact hall
  | cons l ls ih =>
    simp only [trace] at h
    split at h
    · obtain ⟨t, hnext, hrest⟩ := Option.bind_eq_some_iff.mp h
      exact ih (hall.2 t hnext) hrest
    · cases h

/-- The step after a run is one of the steps of the longer run. -/
theorem allSteps_last {P : Snapshot Op Res ε α σ Req → Label ε Req → Prop}
    {t t' : Snapshot Op Res ε α σ Req} (hall : M.AllSteps P (ls ++ [l]) s)
    (h : M.trace C ls s = some t) (hnext : M.next l t = some t') : P t l := by
  induction ls generalizing s with
  | nil =>
    simp only [trace, Option.some.injEq] at h
    subst h
    exact (hall t' hnext).1
  | cons l' ls ih =>
    simp only [trace] at h
    split at h
    · obtain ⟨s', hfirst, hrest⟩ := Option.bind_eq_some_iff.mp h
      exact ih (hall s' hfirst).2 hrest
    · cases h

/-- A list of scheduler choices that goes through under `C` takes all its
steps under `C`. -/
theorem allSteps_of_trace (h : (M.trace C ls s).isSome) : M.AllSteps (fun s l => C s l) ls s := by
  induction ls generalizing s with
  | nil => trivial
  | cons l ls ih =>
    intro s' hnext
    simp only [trace] at h
    split at h
    · rename_i hC
      rw [hnext] at h
      exact ⟨hC, ih h⟩
    · cases h

/-- Two machines with the same calls take the same steps when their handlers agree on the
requests that arrive. -/
theorem trace_congr {M' : Machine Op Res ε α σ Req} (hexec : M'.exec = M.exec)
    (hcode : ∀ req, .start req ∈ ls → M'.code req = M.code req) (s : Snapshot Op Res ε α σ Req) :
    M'.trace C ls s = M.trace C ls s := by
  induction ls generalizing s with
  | nil => rfl
  | cons l ls ih =>
    have hnext : M'.next l s = M.next l s := by
      cases l with
      | start req => simp only [next, hcode req List.mem_cons_self]
      | step pid => simp only [next, hexec]
      | fail pid e => rfl
    have htail : M'.trace C ls = M.trace C ls :=
      funext (ih fun req hreq => hcode req (List.mem_cons_of_mem _ hreq))
    simp only [trace, hnext, htail]

end Machine

/-! ## Rely–guarantee -/

namespace Prog

/-- Every call of `p`, from any store related to the current one by `R` and
satisfying `I`, keeps `I` and stays within `R`. The relation is both what the
program relies on from the others and what it guarantees to them. -/
def Valid (exec : (op : Op) → σ → Except ε (Res op) × σ) (I : σ → Prop)
    (R : σ → σ → Prop) : Prog Op Res ε α → σ → Prop
  | .ret _, _ => True
  | .throw _, _ => True
  | .call op k, s => ∀ s', R s s' → I s' →
      (I (exec op s').2 ∧ R s' (exec op s').2 ∧ (k (exec op s').1).Valid exec I R (exec op s').2) ∧
      ∀ e, (k (.error e)).Valid exec I R s'

/-- Validity is stable under what the others do. -/
theorem Valid.stable {exec : (op : Op) → σ → Except ε (Res op) × σ} {I : σ → Prop}
    {R : σ → σ → Prop} (hR : ∀ a b c, R a b → R b c → R a c)
    {p : Prog Op Res ε α} {s s' : σ} (h : p.Valid exec I R s) (hs : R s s') :
    p.Valid exec I R s' := by
  cases p with
  | ret a | throw e => trivial
  | call op k =>
    intro t hst hI
    exact h t (hR s s' t hs hst) hI

section Rules

variable {β : Type} {exec : (op : Op) → σ → Except ε (Res op) × σ} {I : σ → Prop} {R : σ → σ → Prop}

/-- A program all of whose calls keep `I` and `R` by themselves is valid. -/
theorem valid_of_safe {guar : Op → Prop}
    (hcall : ∀ op s, guar op → I s → I (exec op s).2 ∧ R s (exec op s).2)
    {p : Prog Op Res ε α} (hp : p.Safe (fun _ _ => True) guar) (s : σ) :
    p.Valid exec I R s := by
  induction p generalizing s with
  | ret a | throw e => trivial
  | call op k ih =>
    intro s' _ hI
    obtain ⟨hI', hR'⟩ := hcall op s' hp.1 hI
    exact ⟨⟨hI', hR', ih _ (hp.2 _ trivial) _⟩, fun e => ih _ (hp.2 _ trivial) _⟩

/-- One call followed by the rest. -/
theorem valid_await_bind {op : Op} {f : Res op → Prog Op Res ε α} {s : σ}
    (h : ∀ s', R s s' → I s' → I (exec op s').2 ∧ R s' (exec op s').2 ∧
      ∀ a, (exec op s').1 = .ok a → (f a).Valid exec I R (exec op s').2) :
    (await op >>= f).Valid exec I R s := by
  intro s' hs' hI
  obtain ⟨hI', hR', hf⟩ := h s' hs' hI
  refine ⟨⟨hI', hR', ?_⟩, fun e => trivial⟩
  cases hr : (exec op s').1 with
  | ok a => exact hf a hr
  | error e => trivial

/-- Sequencing, when the rest is valid in every later store. -/
theorem valid_bind (hrefl : ∀ s, R s s) (htrans : ∀ a b c, R a b → R b c → R a c)
    {p : Prog Op Res ε α} {f : α → Prog Op Res ε β} {s : σ} (hp : p.Valid exec I R s)
    (hf : ∀ a s', R s s' → (f a).Valid exec I R s') : (p >>= f).Valid exec I R s := by
  induction p generalizing s with
  | ret a => exact hf a s (hrefl s)
  | throw e => trivial
  | call op k ih =>
    intro s' hs' hI
    obtain ⟨⟨hI', hR', hk⟩, herr⟩ := hp s' hs' hI
    -- `hf` is about every later store, and the steps until then compose
    refine ⟨⟨hI', hR', ih _ hk ?_⟩, ?_⟩
    · grind
    intro e
    refine ih _ (herr e) ?_
    intro a t ht
    exact hf a t (htrans _ _ _ hs' ht)

end Rules

end Prog

namespace Machine

variable (M : Machine Op Res ε α σ Req)

/-- Every running request is valid for the current store. -/
def AllValid (I : σ → Prop) (R : σ → σ → Prop) (s : Snapshot Op Res ε α σ Req) : Prop :=
  I s.store ∧ ∀ q ∈ s.procs, q.2.Valid M.exec I R s.store

/-- The rely–guarantee rule: when every request that the run starts is valid
at the store it starts from, the invariant holds along the run. -/
theorem rely_guarantee {C : Snapshot Op Res ε α σ Req → Label ε Req → Prop}
    {I : σ → Prop} {R : σ → σ → Prop} (hrefl : ∀ s, R s s)
    (htrans : ∀ a b c, R a b → R b c → R a c)
    (hstart : ∀ s req, C s (.start req) → I s.store → (M.code req).Valid M.exec I R s.store)
    {s s' : Snapshot Op Res ε α σ Req} (h : M.Reaches C s s')
    (hs : M.AllValid I R s) : M.AllValid I R s' := by
  have hstep : ∀ s l s', C s l → M.next l s = some s' → M.AllValid I R s → M.AllValid I R s' := by
    rintro s l s' hC hnext ⟨hI, hall⟩
    rcases M.next_cases hnext with ⟨req, rfl, rfl⟩ | ⟨pid, req, op, k, rfl, hp, rfl⟩ |
      ⟨pid, e, req, op, k, rfl, hp, rfl⟩
    · -- a new request is valid at the store it starts from; the store has not changed
      refine ⟨hI, ?_⟩
      intro q hq
      rcases List.mem_append.mp hq with hold | hnew
      · exact hall q hold
      · grind
    · -- a performed call: its own continuation is valid, the others are stable
      have hvalid := hall _ (List.mem_of_getElem? hp)
      obtain ⟨hI', hR', hk⟩ := (hvalid s.store (hrefl _) hI).1
      refine ⟨hI', ?_⟩
      intro q hq
      rcases List.mem_or_eq_of_mem_set hq with hold | hnew
      · exact (hall q hold).stable htrans hR'
      · rw [hnew]
        exact hk
    · -- a failed call: the store is as it was
      have hvalid := hall _ (List.mem_of_getElem? hp)
      refine ⟨hI, ?_⟩
      intro q hq
      rcases List.mem_or_eq_of_mem_set hq with hold | hnew
      · exact hall q hold
      · rw [hnew]
        exact (hvalid s.store (hrefl _) hI).2 e
  exact Reaches.invariant M hstep h hs

end Machine

end Async
