import QuizMind.Async.History
import Mathlib.Logic.Function.Basic

/-! # Requests in phases

Often it is enough to know of a request in which phase it is: a small state machine
`after` reads the phase off the answers that the request has got, and says what the request
may call next. `Prog.Walks` is the statement about one program, `Machine.Phased` the one
about a run. A step changes the phase of one request (`Machine.phases_call`).
-/

namespace Async

variable {Op : Type} {Res : Op → Type} {ε α β σ Req Φ : Type}

namespace Prog

section Walks

variable (after : Φ → Told Op Res ε → Φ) (rely : (op : Op) → Except ε (Res op) → Prop)
  (may : Φ → Op → Prop)

/-- As long as the answers satisfy `rely`, every call is one that the program may make in its
phase, and the program ends as `Q` says. -/
def Walks (Q : Φ → Except ε α → Prop) : Φ → Prog Op Res ε α → Prop
  | ph, .ret a => Q ph (.ok a)
  | ph, .throw e => Q ph (.error e)
  | ph, .call op k => may ph op ∧ ∀ r, rely op r → (k r).Walks Q (after ph ⟨op, r⟩)

end Walks

section Rules

variable {after : Φ → Told Op Res ε → Φ} {rely : (op : Op) → Except ε (Res op) → Prop}
  {may : Φ → Op → Prop} {ph : Φ}

theorem walks_await {op : Op} {Q : Φ → Except ε (Res op) → Prop} (hop : may ph op)
    (hQ : ∀ r, rely op r → Q (after ph ⟨op, r⟩) r) : (await op).Walks after rely may Q ph := by
  refine ⟨hop, ?_⟩
  intro r hr
  cases r with
  | ok a | error e => exact hQ _ hr

variable {Q : Φ → Except ε β → Prop}

/-- One call followed by the rest. -/
theorem walks_await_bind {op : Op} {f : Res op → Prog Op Res ε β} (hop : may ph op)
    (hok : ∀ a, rely op (.ok a) → (f a).Walks after rely may Q (after ph ⟨op, .ok a⟩))
    (herror : ∀ e, rely op (.error e) → Q (after ph ⟨op, .error e⟩) (.error e)) :
    (await op >>= f).Walks after rely may Q ph := by
  refine ⟨hop, ?_⟩
  intro r hr
  cases r with
  | ok a => exact hok a hr
  | error e => exact herror e hr

variable {f : α → Prog Op Res ε β}

theorem walks_ofExcept_bind {x : Except ε α} (hok : ∀ a, x = .ok a → (f a).Walks after rely may Q ph)
    (herror : ∀ e, x = .error e → Q ph (.error e)) :
    (ofExcept x >>= f).Walks after rely may Q ph := by
  cases x with
  | ok a => exact hok a rfl
  | error e => exact herror e rfl

variable {p : Prog Op Res ε α} {P : Φ → Except ε α → Prop}

theorem walks_bind (hp : p.Walks after rely may P ph)
    (hok : ∀ ph' a, P ph' (.ok a) → (f a).Walks after rely may Q ph')
    (herror : ∀ ph' e, P ph' (.error e) → Q ph' (.error e)) :
    (p >>= f).Walks after rely may Q ph := by
  induction p generalizing ph with
  | ret a => exact hok ph a hp
  | throw e => exact herror ph e hp
  | call op k ih =>
    refine ⟨hp.1, ?_⟩
    intro r hr
    exact ih r (hp.2 r hr)

theorem walks_handle {Q : Φ → Except ε α → Prop}
    {f : ε → Prog Op Res ε α} (hp : p.Walks after rely may P ph)
    (hok : ∀ ph' a, P ph' (.ok a) → Q ph' (.ok a))
    (herror : ∀ ph' e, P ph' (.error e) → (f e).Walks after rely may Q ph') :
    (p.handle f).Walks after rely may Q ph := by
  induction p generalizing ph with
  | ret a => exact hok ph a hp
  | throw e => exact herror ph e hp
  | call op k ih =>
    refine ⟨hp.1, ?_⟩
    intro r hr
    exact ih r (hp.2 r hr)

/-- A program over part of the calls, when the phases agree on the calls of the part. -/
theorem Walks.embed {Op' : Type} {Res' : Op' → Type} {f : Op → Op'}
    {g : (op : Op) → Res' (f op) → Res op} {after' : Φ → Told Op' Res' ε → Φ}
    {rely' : (op : Op') → Except ε (Res' op) → Prop} {may' : Φ → Op' → Prop}
    (hafter : ∀ ph op r, after' ph ⟨f op, r⟩ = after ph ⟨op, r.map (g op)⟩)
    (hrely : ∀ op r, rely' (f op) r → rely op (r.map (g op)))
    (hmay : ∀ ph op, may ph op → may' ph (f op)) {Q : Φ → Except ε α → Prop}
    (hp : p.Walks after rely may Q ph) :
    (p.embed f g).Walks after' rely' may' Q ph := by
  induction p generalizing ph with
  | ret a | throw e => exact hp
  | call op k ih =>
    refine ⟨hmay ph op hp.1, ?_⟩
    intro r hr
    rw [hafter]
    exact ih _ (hp.2 _ (hrely op r hr))

end Rules

end Prog

namespace Machine

variable (after : Φ → Told Op Res ε → Φ) (start : Φ)

/-- The phase of each request. -/
def phases (log : List (Event Op Res ε)) (pid : ℕ) : Φ :=
  (history pid log).foldl after start

/-- One more call changes the phase of the request that has made it. -/
theorem phases_call (log : List (Event Op Res ε)) (pid : ℕ) (op : Op) (r : Except ε (Res op)) :
    phases after start (log ++ [⟨pid, op, r⟩]) = Function.update (phases after start log) pid
        (after (phases after start log pid) ⟨op, r⟩) := by
  funext j
  by_cases hj : j = pid
  · grind [phases, history_append_self]
  · grind [phases, history_append_other]

/-- The running requests are in their phases. -/
structure Phased (rely : (op : Op) → Except ε (Res op) → Prop) (may : Φ → Op → Prop)
    (Q : Φ → Except ε α → Prop) (s : Snapshot Op Res ε α σ Req) : Prop where
  procs : ∀ (pid : ℕ) (q : Req × Prog Op Res ε α), s.procs[pid]? = some q →
    q.2.Walks after rely may Q (phases after start s.log pid)
  received : ∀ e ∈ s.log, e.pid < s.procs.length

section Run

variable {after start} {M : Machine Op Res ε α σ Req}
  {rely : (op : Op) → Except ε (Res op) → Prop} {may : Φ → Op → Prop}
  {Q : Φ → Except ε α → Prop} {s s' : Snapshot Op Res ε α σ Req}

theorem phased_initial (store : σ) :
    Phased after start rely may Q (Machine.initial store : Snapshot Op Res ε α σ Req) := by
  constructor
  · intro pid q hq
    cases hq
  · intro e he
    cases he

section

variable (h : Phased after start rely may Q s)
include h

/-- A request that has not been received is in the first phase. -/
theorem Phased.phase_start {pid : ℕ}
    (hpid : s.procs.length ≤ pid) : phases after start s.log pid = start := by
  have hnil : history pid s.log = [] := by
    refine List.eq_nil_iff_forall_not_mem.mpr fun t ht => ?_
    have hlt := h.received _ (mem_history.mp ht)
    exact absurd hlt (Nat.not_lt_of_le hpid)
  rw [phases, hnil, List.foldl_nil]

/-- What a running request calls it may call. -/
theorem Phased.may_call {pid : ℕ} {req : Req} {op : Op}
    {k : Except ε (Res op) → Prog Op Res ε α} (hp : s.procs[pid]? = some (req, .call op k)) :
    may (phases after start s.log pid) op :=
  (h.procs pid _ hp).1

theorem Phased.call {pid : ℕ} {req : Req} {op : Op}
    {k : Except ε (Res op) → Prog Op Res ε α} (hp : s.procs[pid]? = some (req, .call op k))
    {r : Except ε (Res op)} (hr : rely op r) (store : σ) :
    Phased after start rely may Q
      { store := store, procs := s.procs.set pid (req, k r), log := s.log ++ [⟨pid, op, r⟩] } := by
  have hlt : pid < s.procs.length := (List.getElem?_eq_some_iff.mp hp).1
  constructor
  · intro j q hq
    rw [phases_call]
    by_cases hj : pid = j
    · subst hj
      obtain rfl : (req, k r) = q := by simpa [hlt] using hq
      rw [Function.update_self]
      exact (h.procs pid _ hp).2 r hr
    rw [List.getElem?_set_ne hj] at hq
    rw [Function.update_of_ne (Ne.symm hj)]
    exact h.procs j q hq
  intro e he
  rw [List.length_set]
  rcases List.mem_append.mp he with hold | hnew
  · exact h.received e hold
  · grind

end

/-- A step, when only a failure that satisfies `rely` is one of it. -/
theorem Phased.next (hexec : ∀ op s, rely op (M.exec op s).1)
    (hcode : ∀ req, (M.code req).Walks after rely may Q start) {l : Label ε Req}
    (hfail : ∀ pid e req op k, l = .fail pid e → s.procs[pid]? = some (req, .call op k) →
      rely op (.error e))
    (hnext : M.next l s = some s') (h : Phased after start rely may Q s) :
    Phased after start rely may Q s' := by
  rcases M.next_cases hnext with ⟨req, rfl, rfl⟩ | ⟨pid, req, op, k, rfl, hp, rfl⟩ |
    ⟨pid, e, req, op, k, rfl, hp, rfl⟩
  · constructor
    · intro j q hq
      by_cases hj : j < s.procs.length
      · rw [List.getElem?_append_left hj] at hq
        exact h.procs j q hq
      -- a new request is in the first phase
      have hge : s.procs.length ≤ j := Nat.le_of_not_lt hj
      rw [List.getElem?_append_right hge, List.getElem?_singleton] at hq
      split at hq
      · obtain rfl := Option.some.inj hq
        rw [h.phase_start hge]
        exact hcode req
      · cases hq
    · intro e he
      rw [List.length_append]
      exact Nat.lt_of_lt_of_le (h.received e he) (Nat.le_add_right _ _)
  · exact h.call hp (hexec op s.store) _
  · exact h.call hp (hfail pid e req op k rfl hp) _

end Run

end Machine

end Async
