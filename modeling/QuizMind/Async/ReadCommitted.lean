import QuizMind.Async.Prog

/-! # Transactions under READ COMMITTED

A transaction is a program over statements. Its writes are kept in a private
list until it commits; a statement sees the committed rows with the
transaction's own writes applied on top (`view`), so two statements of one
transaction may see different committed rows. A write takes locks, on the row
it changes and on the entries of the unique indexes it claims: a statement
that needs a lock of another open transaction cannot run yet. When the other transaction has ended the
statement runs, on what is committed *then*: this is the re-evaluation after
a lock wait.

Each statement may fail and each open transaction may be aborted at any time
(time-out, deadlock detection, a lost connection).

The locks show in the proofs as one invariant: the uncommitted writes of two
different transactions never conflict (`locked_step`).
-/

namespace Async

/-- The statements of a database: what a statement reads and writes, and
which locks a write takes. -/
structure Database (Stmt : Type) (Res : Stmt → Type) (ε ω σ κ : Type) where
  /-- Run a statement on a view; the number is a fresh identifier for a row
  it may create. -/
  exec : (op : Stmt) → ℕ → σ → Except ε (Res op × List ω)
  /-- The effect of one write on the rows. -/
  apply : σ → ω → σ
  /-- The locks that a write holds until its transaction ends. -/
  locks : ω → List κ

namespace Database

variable {Stmt : Type} {Res : Stmt → Type} {ε ω σ κ α Req : Type}
variable (D : Database Stmt Res ε ω σ κ)

/-- Two writes contend when they need the same lock. -/
def conflicts (w w' : ω) : Prop := ∃ k ∈ D.locks w, k ∈ D.locks w'

instance [DecidableEq κ] : DecidableRel D.conflicts := fun w w' =>
  inferInstanceAs (Decidable (∃ k ∈ D.locks w, k ∈ D.locks w'))

theorem conflicts_symm {w w' : ω} (h : D.conflicts w w') : D.conflicts w' w := by
  obtain ⟨k, hk, hk'⟩ := h
  exact ⟨k, hk', hk⟩

/-- The rows as seen through a list of uncommitted writes. -/
def view (s : σ) (own : List ω) : σ := own.foldl D.apply s

@[simp] theorem view_nil (s : σ) : D.view s [] = s := rfl

@[simp] theorem view_append (s : σ) (own ws : List ω) :
    D.view s (own ++ ws) = D.view (D.view s own) ws := by
  simp [view]

@[simp] theorem view_singleton (s : σ) (w : ω) : D.view s [w] = D.apply s w := rfl

/-- Run one statement with nobody else around, on the rows and the source of
fresh identifiers. -/
def execAlone (op : Stmt) (s : σ × ℕ) : Except ε (Res op) × (σ × ℕ) :=
  match D.exec op s.2 s.1 with
  | .ok (r, ws) => (.ok r, (D.view s.1 ws, s.2 + 1))
  | .error e => (.error e, (s.1, s.2 + 1))

variable {op : Stmt}

/-- The proof rule for a statement run alone: what is left is the case in
which the statement succeeds. -/
theorem wp_await {P : Res op → σ × ℕ → Prop} {s : σ} {n : ℕ}
    (h : ∀ r ws, D.exec op n s = .ok (r, ws) → P r (D.view s ws, n + 1)) :
    (Prog.await op : Prog Stmt Res ε (Res op)).wp D.execAlone (Prog.onOk P) (s, n) := by
  constructor
  · unfold execAlone
    cases he : D.exec op n s with
    | ok out =>
      obtain ⟨r, ws⟩ := out
      exact h r ws he
    | error e => trivial
  · intro e
    trivial

/-- The same for a statement followed by the rest of the program. -/
theorem wp_await_bind {β : Type} {P : β → σ × ℕ → Prop}
    {f : Res op → Prog Stmt Res ε β} {s : σ} {n : ℕ} (h : ∀ r ws, D.exec op n s = .ok (r, ws) →
      (f r).wp D.execAlone (Prog.onOk P) (D.view s ws, n + 1)) :
    (Prog.await op >>= f).wp D.execAlone (Prog.onOk P) (s, n) :=
  Prog.wp_bind_onOk D.execAlone (D.wp_await h) fun _ _ hf => hf

/-- A transaction: still open, with what it has to do and what it has
written, or ended. -/
inductive Tx (Stmt : Type) (Res : Stmt → Type) (ε ω α : Type) where
  | active (prog : Prog Stmt Res ε α) (own : List ω)
  | committed (a : α)
  | aborted

/-- The uncommitted writes of a transaction. -/
def Tx.own : Tx Stmt Res ε ω α → List ω
  | .active _ own => own
  | .committed _ => []
  | .aborted => []

/-- A global state: the committed rows, the source of fresh identifiers and
the transactions begun so far. -/
structure State (Stmt : Type) (Res : Stmt → Type) (ε ω σ α Req : Type) where
  committed : σ
  fresh : ℕ
  txs : List (Req × Tx Stmt Res ε ω α)

/-- The uncommitted writes of transaction number `t`. -/
def State.own (s : State Stmt Res ε ω σ α Req) (t : ℕ) : List ω :=
  match s.txs[t]? with
  | some (_, tx) => tx.own
  | none => []

/-- No write of `ws` waits for a lock held by a transaction other than `t`. -/
def Unblocked (s : State Stmt Res ε ω σ α Req) (t : ℕ) (ws : List ω) : Prop :=
  ∀ u < s.txs.length, u ≠ t → ∀ w ∈ ws, ∀ w' ∈ s.own u, ¬ D.conflicts w w'

instance [DecidableEq κ] (s : State Stmt Res ε ω σ α Req) (t : ℕ) (ws : List ω) :
    Decidable (D.Unblocked s t ws) :=
  inferInstanceAs (Decidable (∀ u < s.txs.length, u ≠ t → ∀ w ∈ ws, ∀ w' ∈ s.own u,
    ¬ D.conflicts w w'))

/-- What the scheduler may do next. -/
inductive Choice (ε Req : Type) where
  | begin (req : Req)
  | stmt (t : ℕ)
  | fail (t : ℕ) (e : ε)
  | commit (t : ℕ)
  | abort (t : ℕ)

variable [DecidableEq κ] (code : Req → Prog Stmt Res ε α)

/-- The state after one scheduler choice; `none` when it is not available. -/
def next : Choice ε Req → State Stmt Res ε ω σ α Req → Option (State Stmt Res ε ω σ α Req)
  | .begin req, s => some { s with txs := s.txs ++ [(req, .active (code req) [])] }
  | .stmt t, s =>
    match s.txs[t]? with
    | some (req, .active (.call op k) own) =>
      match D.exec op s.fresh (D.view s.committed own) with
      | .ok (r, ws) =>
        -- a statement that has to wait for a lock is not available
        if D.Unblocked s t ws then
          some
            { s with
              fresh := s.fresh + 1
              txs := s.txs.set t (req, .active (k (.ok r)) (own ++ ws)) }
        else none
      | .error e =>
        some
          { s with
            fresh := s.fresh + 1
            txs := s.txs.set t (req, .active (k (.error e)) own) }
    | _ => none
  | .fail t e, s =>
    match s.txs[t]? with
    | some (req, .active (.call _ k) own) =>
      some { s with txs := s.txs.set t (req, .active (k (.error e)) own) }
    | _ => none
  | .commit t, s =>
    match s.txs[t]? with
    | some (req, .active (.ret a) own) =>
      some
        { s with
          committed := D.view s.committed own
          txs := s.txs.set t (req, .committed a) }
    | _ => none
  | .abort t, s =>
    match s.txs[t]? with
    | some (req, .active _ _) => some { s with txs := s.txs.set t (req, .aborted) }
    | _ => none

/-- The state after a list of scheduler choices that all satisfy `C`. -/
def trace (C : State Stmt Res ε ω σ α Req → Choice ε Req → Bool) :
    List (Choice ε Req) → State Stmt Res ε ω σ α Req → Option (State Stmt Res ε ω σ α Req)
  | [], s => some s
  | c :: cs, s => if C s c then (D.next code c s).bind (trace C cs) else none

/-- No transaction has begun. -/
def initial (committed : σ) (fresh : ℕ) : State Stmt Res ε ω σ α Req where
  committed := committed
  fresh := fresh
  txs := []

/-! ## Inversion of a step -/

variable {s s' : State Stmt Res ε ω σ α Req} {c : Choice ε Req}

/-- Everything a scheduler choice can do. -/
theorem next_cases (h : D.next code c s = some s') : (∃ req, c = .begin req ∧
      s' = { s with txs := s.txs ++ [(req, .active (code req) [])] }) ∨
    (∃ t req op k own r ws, c = .stmt t ∧ s.txs[t]? = some (req, .active (.call op k) own) ∧
      D.exec op s.fresh (D.view s.committed own) = .ok (r, ws) ∧ D.Unblocked s t ws ∧
      s' = { s with
             fresh := s.fresh + 1
             txs := s.txs.set t (req, .active (k (.ok r)) (own ++ ws)) }) ∨
    (∃ t req op k own e n, (c = .stmt t ∨ c = .fail t e) ∧
      s.txs[t]? = some (req, .active (.call op k) own) ∧
      s' = { s with fresh := n, txs := s.txs.set t (req, .active (k (.error e)) own) } ∧
      s.fresh ≤ n) ∨
    (∃ t req a own, c = .commit t ∧ s.txs[t]? = some (req, .active (.ret a) own) ∧
      s' = { s with
             committed := D.view s.committed own
             txs := s.txs.set t (req, .committed a) }) ∨
    (∃ t req prog own, c = .abort t ∧ s.txs[t]? = some (req, .active prog own) ∧
      s' = { s with txs := s.txs.set t (req, .aborted) }) := by
  cases c with
  | begin req =>
    left
    exact ⟨req, rfl, by simpa [next] using h.symm⟩
  | stmt t =>
    right
    simp only [next] at h
    split at h
    · rename_i req op k own ht
      split at h
      · grind
      rename_i e he
      right; left
      exact ⟨t, req, op, k, own, e, s.fresh + 1, Or.inl rfl, ht, by simpa using h.symm,
        Nat.le_succ _⟩
    · cases h
  | _ => grind [next]

variable {t : ℕ} {entry x : Req × Tx Stmt Res ε ω α}

/-- The entries after one of them has been replaced. -/
theorem getElem_set_cases {u : ℕ} {entry' : Req × Tx Stmt Res ε ω α} (ht : s.txs[t]? = some entry)
    (hu : (s.txs.set t entry')[u]? = some x) :
    (u = t ∧ x = entry') ∨ (u ≠ t ∧ s.txs[u]? = some x) := by grind

/-- The entries after a transaction has begun. -/
theorem getElem_begin_cases {u : ℕ} (hu : (s.txs ++ [entry])[u]? = some x) :
    (u = s.txs.length ∧ x = entry) ∨ s.txs[u]? = some x := by grind

/-! ## Runs -/

/-- One step taken under the side condition `C`. -/
def Step (C : State Stmt Res ε ω σ α Req → Choice ε Req → Prop)
    (s s' : State Stmt Res ε ω σ α Req) : Prop :=
  ∃ c, C s c ∧ D.next code c s = some s'

/-- `s'` is reached from `s` by steps that all satisfy `C`. -/
abbrev Reaches (C : State Stmt Res ε ω σ α Req → Choice ε Req → Prop) :
    State Stmt Res ε ω σ α Req → State Stmt Res ε ω σ α Req → Prop :=
  Relation.ReflTransGen (D.Step code C)

variable {C : State Stmt Res ε ω σ α Req → Choice ε Req → Prop}

/-- Invariant induction along a run. -/
theorem Reaches.invariant {inv : State Stmt Res ε ω σ α Req → Prop}
    (hstep : ∀ s c s', C s c → D.next code c s = some s' → inv s → inv s')
    (h : D.Reaches code C s s') (hinit : inv s) : inv s' := by
  induction h with
  | refl => exact hinit
  | tail _ hlast ih =>
    rcases hlast with ⟨c, hC, hnext⟩
    exact hstep _ c _ hC hnext ih

/-- The unrestricted side condition. -/
def anyStep : State Stmt Res ε ω σ α Req → Choice ε Req → Bool := fun _ _ => true

variable {cs : List (Choice ε Req)}

/-- A list of scheduler choices that goes through is a run. -/
theorem reaches_of_trace {C : State Stmt Res ε ω σ α Req → Choice ε Req → Bool}
    (h : D.trace code C cs s = some s') : D.Reaches code (fun s c => C s c) s s' := by
  induction cs generalizing s with
  | nil =>
    simp only [trace, Option.some.injEq] at h
    rw [h]
  | cons c cs ih =>
    simp only [trace] at h
    split at h
    · rename_i hC
      obtain ⟨t, hnext, hrest⟩ := Option.bind_eq_some_iff.mp h
      exact Relation.ReflTransGen.head ⟨c, hC, hnext⟩ (ih hrest)
    · cases h

/-- The same, with a check of what has been committed at the end. -/
theorem reaches_of_trace_check {C : State Stmt Res ε ω σ α Req → Choice ε Req → Bool} {p : σ → Bool}
    (h : (D.trace code C cs s).map (fun s' => p s'.committed) = some true) :
    ∃ s', D.Reaches code (fun s c => C s c) s s' ∧ p s'.committed = true := by
  obtain ⟨s', hs', hp⟩ := Option.map_eq_some_iff.mp h
  exact ⟨s', D.reaches_of_trace code hs', hp⟩

/-! ## All states and all steps of one run

As for a machine, a run is given by its scheduler choices, and a choice that is
not available ends it. -/

/-- Every state visited by the run satisfies `P`. -/
def AllStates (P : State Stmt Res ε ω σ α Req → Prop) :
    List (Choice ε Req) → State Stmt Res ε ω σ α Req → Prop
  | [], s => P s
  | c :: cs, s => P s ∧ ∀ s', D.next code c s = some s' → AllStates P cs s'

/-- Every step taken by the run satisfies `C`. -/
def AllSteps (C : State Stmt Res ε ω σ α Req → Choice ε Req → Prop) :
    List (Choice ε Req) → State Stmt Res ε ω σ α Req → Prop
  | [], _ => True
  | c :: cs, s => ∀ s', D.next code c s = some s' → C s c ∧ AllSteps C cs s'

variable {P : State Stmt Res ε ω σ α Req → Prop}

theorem allStates_head (h : D.AllStates code P cs s) : P s := by
  cases cs with
  | nil => exact h
  | cons c cs => exact h.1

/-- When one step keeps `P` exactly if it satisfies `C`, a run keeps `P`
throughout exactly if all its steps satisfy `C`. -/
theorem allStates_iff_allSteps {K : State Stmt Res ε ω σ α Req → Prop}
    (hK : ∀ s c s', K s → D.next code c s = some s' → K s')
    (hstep : ∀ s c s', K s → P s → D.next code c s = some s' → (P s' ↔ C s c)) (hs : P s) (hks : K s) :
    D.AllStates code P cs s ↔ D.AllSteps code C cs s := by
  induction cs generalizing s with
  | nil => exact iff_of_true hs trivial
  | cons c cs ih =>
    constructor
    · rintro ⟨_, hall⟩ s' hnext
      have htail := hall s' hnext
      have hs' : P s' := D.allStates_head code htail
      exact ⟨(hstep s c s' hks hs hnext).1 hs', (ih hs' (hK s c s' hks hnext)).1 htail⟩
    intro hall
    refine ⟨hs, ?_⟩
    intro s' hnext
    rcases hall s' hnext with ⟨hC, htail⟩
    have hs' : P s' := (hstep s c s' hks hs hnext).2 hC
    exact (ih hs' (hK s c s' hks hnext)).2 htail

variable {I : State Stmt Res ε ω σ α Req → Prop}

/-- The same, when the invariant that carries `P` is kept by the steps that satisfy `C`. -/
theorem allStates_iff_allSteps_of_inv (hP : ∀ s, I s → P s)
    (hgood : ∀ s c s', I s → D.next code c s = some s' → C s c → I s')
    (hbad : ∀ s c s', I s → D.next code c s = some s' → P s' → C s c) (hs : I s) :
    D.AllStates code P cs s ↔ D.AllSteps code C cs s := by
  induction cs generalizing s with
  | nil => exact iff_of_true (hP s hs) trivial
  | cons c cs ih =>
    constructor
    · rintro ⟨_, hall⟩ s' hnext
      have htail := hall s' hnext
      have hC : C s c := hbad s c s' hs hnext (D.allStates_head code htail)
      exact ⟨hC, (ih (hgood s c s' hs hnext hC)).1 htail⟩
    intro hall
    refine ⟨hP s hs, ?_⟩
    intro s' hnext
    rcases hall s' hnext with ⟨hC, htail⟩
    exact (ih (hgood s c s' hs hnext hC)).2 htail

/-- What the invariant says about the steps that satisfy `C`. -/
theorem allSteps_of_inv {K : State Stmt Res ε ω σ α Req → Choice ε Req → Prop}
    (hgood : ∀ s c s', I s → D.next code c s = some s' → C s c → I s' ∧ K s c) (hs : I s)
    (h : D.AllSteps code C cs s) : D.AllSteps code K cs s := by
  induction cs generalizing s with
  | nil => trivial
  | cons c cs ih =>
    intro s' hnext
    rcases h s' hnext with ⟨hC, htail⟩
    rcases hgood s c s' hs hnext hC with ⟨hs', hK⟩
    exact ⟨hK, ih hs' htail⟩

/-- A list of scheduler choices that goes through under `C` takes all its
steps under `C`. -/
theorem allSteps_of_trace {C : State Stmt Res ε ω σ α Req → Choice ε Req → Bool}
    (h : (D.trace code C cs s).isSome) : D.AllSteps code (fun s c => C s c) cs s := by
  induction cs generalizing s with
  | nil => trivial
  | cons c cs ih =>
    intro s' hnext
    simp only [trace] at h
    split at h
    · rename_i hC
      rw [hnext] at h
      exact ⟨hC, ih h⟩
    · cases h

/-- A list of scheduler choices that goes through visits its last state. -/
theorem not_allStates_of_trace {p : σ → Bool} (hp : ∀ s, P s → p s.committed = true)
    (h : (D.trace code anyStep cs s).map (fun s' => p s'.committed) = some false) :
    ¬ D.AllStates code P cs s := by
  induction cs generalizing s with
  | nil =>
    intro hall
    have hfalse : p s.committed = false := by simpa [trace] using h
    rw [hp s hall] at hfalse
    cases hfalse
  | cons c cs ih =>
    rintro ⟨_, hall⟩
    simp only [trace] at h
    cases hnext : D.next code c s with
    | none => simp [hnext] at h
    | some s' => grind

/-- Two handlers that agree on the requests that arrive take the same steps. -/
theorem trace_congr {code' : Req → Prog Stmt Res ε α}
    {C : State Stmt Res ε ω σ α Req → Choice ε Req → Bool}
    (hcode : ∀ req, .begin req ∈ cs → code' req = code req) (s : State Stmt Res ε ω σ α Req) :
    D.trace code' C cs s = D.trace code C cs s := by
  induction cs generalizing s with
  | nil => rfl
  | cons c cs ih =>
    have hnext : D.next code' c s = D.next code c s := by
      cases c with
      | begin req => simp only [next, hcode req List.mem_cons_self]
      | _ => rfl
    have htail : D.trace code' C cs = D.trace code C cs :=
      funext (ih fun req hreq => hcode req (List.mem_cons_of_mem _ hreq))
    simp only [trace, hnext, htail]

/-- The statement that transaction number `t` will send next. -/
def State.nextStmt (s : State Stmt Res ε ω σ α Req) (t : ℕ) : Option Stmt :=
  match s.txs[t]? with
  | some (_, .active (.call op _) _) => some op
  | _ => none

theorem nextStmt_of_getElem {req : Req} {k : Except ε (Res op) → Prog Stmt Res ε α} {own : List ω}
    (ht : s.txs[t]? = some (req, .active (.call op k) own)) : s.nextStmt t = some op := by
  simp [State.nextStmt, ht]

/-- What holds of every open transaction after a step: one has begun or taken the step, and the
others are as they were. -/
theorem active_next {P P' : Prog Stmt Res ε α → List ω → Prop} (hnext : D.next code c s = some s')
    (h : ∀ (t : ℕ) (req : Req) (prog : Prog Stmt Res ε α) (own : List ω),
      s.txs[t]? = some (req, .active prog own) → P prog own)
    (hkept : ∀ prog own, P prog own → P' prog own) (hbegin : ∀ req, P' (code req) [])
    (hok : ∀ op k own r ws, P (.call op k) own →
      D.exec op s.fresh (D.view s.committed own) = .ok (r, ws) → P' (k (.ok r)) (own ++ ws))
    (herr : ∀ op k own e, P (.call op k) own → P' (k (.error e)) own) (u : ℕ) (req : Req)
    (prog : Prog Stmt Res ε α) (own : List ω) (hu : s'.txs[u]? = some (req, .active prog own)) :
    P' prog own := by
  rcases D.next_cases code hnext with ⟨req', rfl, rfl⟩ |
    ⟨t, req', op, k, own', r, ws, rfl, ht, hexec, _, rfl⟩ |
    ⟨t, req', op, k, own', e, n, _, ht, rfl, _⟩ | ⟨t, req', a, own', rfl, ht, rfl⟩ |
    ⟨t, req', prog', own', rfl, ht, rfl⟩
  · rcases getElem_begin_cases hu with ⟨-, heq⟩ | hold
    · obtain ⟨-, rfl, rfl⟩ : req = req' ∧ prog = code req' ∧ own = [] := by simpa using heq
      exact hbegin req'
    · exact hkept _ _ (h u req prog own hold)
  all_goals rcases getElem_set_cases ht hu with ⟨-, heq⟩ | ⟨-, hold⟩
  -- the statement has gone through
  · obtain ⟨-, rfl, rfl⟩ : req = req' ∧ prog = k (.ok r) ∧ own = own' ++ ws := by simpa using heq
    exact hok op k own' r ws (h t req' _ own' ht) hexec
  · exact hkept _ _ (h u req prog own hold)
  -- the statement has failed, or the call of it
  · obtain ⟨-, rfl, rfl⟩ : req = req' ∧ prog = k (.error e) ∧ own = own' := by simpa using heq
    exact herr op k own e (h t req' _ own ht)
  · exact hkept _ _ (h u req prog own hold)
  -- the transaction has ended
  · cases heq
  · exact hkept _ _ (h u req prog own hold)
  · cases heq
  · exact hkept _ _ (h u req prog own hold)

/-! ## What a transaction can commit

`Along guar commits`: whatever the statements see, the program only sends
statements satisfying `guar`, and a commit has writes satisfying `commits`.
Like `Prog.Safe` it is a property of the program text. -/

def Along (guar : Stmt → Prop) (commits : α → List ω → Prop) : Prog Stmt Res ε α → List ω → Prop
  | .ret a, own => commits a own
  | .throw _, _ => True
  | .call op k, own =>
    guar op ∧
      (∀ n v r ws, D.exec op n v = .ok (r, ws) → Along guar commits (k (.ok r)) (own ++ ws)) ∧
      ∀ e, Along guar commits (k (.error e)) own

variable {guar : Stmt → Prop} {commits : α → List ω → Prop}

omit [DecidableEq κ] in
/-- The rule for one statement followed by the rest. -/
theorem along_await_bind {f : Res op → Prog Stmt Res ε α} {own : List ω} (hop : guar op)
    (hf : ∀ n v r ws, D.exec op n v = .ok (r, ws) → D.Along guar commits (f r) (own ++ ws)) :
    D.Along guar commits (Prog.await op >>= f) own := by
  refine ⟨hop, ?_, ?_⟩
  · intro n v r ws hexec
    exact hf n v r ws hexec
  · intro e
    trivial

/-- Every open transaction is `Along`. -/
def AllAlong (guar : Stmt → Prop) (commits : α → List ω → Prop)
    (s : State Stmt Res ε ω σ α Req) : Prop :=
  ∀ (t : ℕ) (req : Req) (prog : Prog Stmt Res ε α) (own : List ω),
    s.txs[t]? = some (req, .active prog own) → D.Along guar commits prog own

/-- What the code of every request satisfies at its start, every open
transaction satisfies at every point of a run. -/
theorem allAlong_step
    (hcode : ∀ req, D.Along guar commits (code req) []) (hnext : D.next code c s = some s')
    (h : D.AllAlong guar commits s) : D.AllAlong guar commits s' :=
  D.active_next code hnext h (fun _ _ h => h) hcode
    (fun _ _ _ r ws h hexec => h.2.1 _ _ r ws hexec) fun _ _ _ e h => h.2.2 e

omit [DecidableEq κ] in
theorem allAlong_initial (c : σ) (n : ℕ) :
    D.AllAlong guar commits (initial c n : State Stmt Res ε ω σ α Req) := by
  intro t req prog own ht
  simp [initial] at ht

/-! ## What a transaction relies on

`Relies R post` lets the guarantee of a program refer to the committed rows: as long as the
commits of the others keep to `R`, a commit has a result and writes that satisfy `post`. -/

def Relies (R : σ → σ → Prop) (post : α → List ω → σ → Prop) : Prog Stmt Res ε α → List ω → σ → Prop
  | .ret a, own, s => ∀ s', R s s' → post a own s'
  | .throw _, _, _ => True
  | .call op k, own, s => ∀ s', R s s' →
      (∀ n r ws, D.exec op n (D.view s' own) = .ok (r, ws) →
        Relies R post (k (.ok r)) (own ++ ws) s') ∧
      ∀ e, Relies R post (k (.error e)) own s'

section Relies

variable {D} {R : σ → σ → Prop} {post : α → List ω → σ → Prop}

variable {own : List ω}

omit [DecidableEq κ] in
/-- The rule for one statement followed by the rest. -/
theorem relies_await_bind {op : Stmt} {f : Res op → Prog Stmt Res ε α} {s : σ}
    (hf : ∀ s' n r ws, R s s' → D.exec op n (D.view s' own) = .ok (r, ws) →
      D.Relies R post (f r) (own ++ ws) s') :
    D.Relies R post (Prog.await op >>= f) own s := by
  intro s' hR
  constructor
  · intro n r ws hexec
    exact hf s' n r ws hR hexec
  · intro e
    trivial

omit [DecidableEq κ] in
theorem relies_ofExcept_bind {β : Type} {x : Except ε β} {f : β → Prog Stmt Res ε α} {s : σ}
    (hf : ∀ b, x = .ok b → D.Relies R post (f b) own s) :
    D.Relies R post (Prog.ofExcept x >>= f) own s := by
  cases x with
  | ok b => exact hf b rfl
  | error e => trivial

omit [DecidableEq κ] in
/-- What a transaction relies on survives the commits of the others. -/
theorem Relies.stable (htrans : ∀ a b c, R a b → R b c → R a c) {p : Prog Stmt Res ε α} {s s' : σ}
    (h : D.Relies R post p own s) (hR : R s s') :
    D.Relies R post p own s' := by
  cases p with
  | ret a | call op k => exact fun s'' hR' => h s'' (htrans _ _ _ hR hR')
  | throw e => trivial

/-- Every open transaction relies on what is committed. -/
def AllRelies (D : Database Stmt Res ε ω σ κ) (R : σ → σ → Prop)
    (post : α → List ω → σ → Prop) (s : State Stmt Res ε ω σ α Req) : Prop :=
  ∀ (t : ℕ) (req : Req) (prog : Prog Stmt Res ε α) (own : List ω),
    s.txs[t]? = some (req, .active prog own) → D.Relies R post prog own s.committed

/-- A step whose commit keeps to `R` keeps what the transactions rely on. -/
theorem allRelies_step (hrefl : ∀ s, R s s) (htrans : ∀ a b c, R a b → R b c → R a c)
    (hcode : ∀ req s, D.Relies R post (code req) [] s) {c : Choice ε Req}
    {s s' : State Stmt Res ε ω σ α Req} (hnext : D.next code c s = some s')
    (hR : R s.committed s'.committed) (h : D.AllRelies R post s) : D.AllRelies R post s' :=
  D.active_next (P := fun prog own => D.Relies R post prog own s.committed) code hnext h
    (fun _ _ h => h.stable htrans hR) (fun req => hcode req _)
    (fun _ _ _ r ws h hexec => ((h _ (hrefl _)).1 s.fresh r ws hexec).stable htrans hR)
    fun _ _ _ e h => ((h _ (hrefl _)).2 e).stable htrans hR

omit [DecidableEq κ] in
theorem allRelies_initial (c : σ) (n : ℕ) :
    D.AllRelies R post (initial c n : State Stmt Res ε ω σ α Req) := by
  intro t req prog own ht
  simp [initial] at ht

end Relies

/-! ## The locks -/

/-- The uncommitted writes of two different transactions never conflict. -/
def Locked (s : State Stmt Res ε ω σ α Req) : Prop :=
  ∀ t u, t ≠ u → ∀ w ∈ s.own t, ∀ w' ∈ s.own u, ¬ D.conflicts w w'

variable {e : Req × Tx Stmt Res ε ω α}

/-- The writes of a transaction after its entry has been replaced. -/
theorem own_set (ht : s.txs[t]? = some e) (u : ℕ) (c : σ) (n : ℕ) :
    State.own ⟨c, n, s.txs.set t entry⟩ u = if u = t then entry.2.own else s.own u := by
  have hlt : t < s.txs.length := (List.getElem?_eq_some_iff.mp ht).1
  by_cases hu : u = t
  · subst hu
    simp [State.own, hlt]
  · have hne : t ≠ u := fun h => hu h.symm
    simp [State.own, List.getElem?_set_ne hne, hu]

/-- What holds of the writes of every transaction after one entry has been
replaced. -/
theorem forall_own_set {Q : List ω → Prop} (ht : s.txs[t]? = some e) {c : σ} {n : ℕ}
    (hother : ∀ u, u ≠ t → Q (s.own u)) (hnew : Q entry.2.own) (u : ℕ) :
    Q (State.own ⟨c, n, s.txs.set t entry⟩ u) := by
  rw [own_set ht]
  by_cases hut : u = t
  · rw [if_pos hut]
    exact hnew
  · rw [if_neg hut]
    exact hother u hut

theorem own_of_getElem {req : Req} {tx : Tx Stmt Res ε ω α} (ht : s.txs[t]? = some (req, tx)) :
    s.own t = tx.own := by
  simp [State.own, ht]

/-- A transaction that has not begun has written nothing. -/
theorem own_length (s : State Stmt Res ε ω σ α Req) : s.own s.txs.length = [] := by
  simp [State.own]

/-- Beginning a transaction adds no uncommitted write. -/
theorem own_begin (s : State Stmt Res ε ω σ α Req) (req : Req) (p : Prog Stmt Res ε α) (u : ℕ) :
    State.own { s with txs := s.txs ++ [(req, Tx.active p [])] } u = s.own u := by
  rcases Nat.lt_trichotomy u s.txs.length with hlt | heq | hgt
  · simp [State.own, List.getElem?_append_left hlt]
  · -- the new transaction, which was not there before
    subst heq
    simp [State.own, Tx.own]
  · grind [State.own]

omit [DecidableEq κ] in
/-- A statement that is not blocked conflicts with no other open transaction. -/
theorem Unblocked.own {ws : List ω} (h : D.Unblocked s t ws) {u : ℕ} (hu : u ≠ t) :
    ∀ w ∈ ws, ∀ w' ∈ s.own u, ¬ D.conflicts w w' := by
  by_cases hlt : u < s.txs.length
  · exact h u hlt hu
  -- a transaction that has not begun holds no lock
  intro w _ w' hw'
  have hnone : s.txs[u]? = none := by simp; omega
  simp [State.own, hnone] at hw'

omit [DecidableEq κ] in
/-- Replacing the entry of `t` keeps the lock invariant when the new writes of
`t` conflict with nobody else's. -/
theorem locked_set (ht : s.txs[t]? = some e) {c : σ} {n : ℕ} (h : D.Locked s)
    (hnew : ∀ u, u ≠ t → ∀ w ∈ entry.2.own, ∀ w' ∈ s.own u, ¬ D.conflicts w w') :
    D.Locked ⟨c, n, s.txs.set t entry⟩ := by
  intro a b hab w hw w' hw' hconf
  rw [own_set ht] at hw hw'
  by_cases ha : a = t
  · grind
  rw [if_neg ha] at hw
  by_cases hb : b = t
  · rw [if_pos hb] at hw'
    exact hnew a ha w' hw' w hw (D.conflicts_symm hconf)
  · rw [if_neg hb] at hw'
    exact h a b hab w hw w' hw' hconf

/-- Every step keeps the lock invariant. -/
theorem locked_step (hnext : D.next code c s = some s') (h : D.Locked s) : D.Locked s' := by
  rcases D.next_cases code hnext with ⟨req, rfl, rfl⟩ |
    ⟨t, req, op, k, own, r, ws, rfl, ht, _, hfree, rfl⟩ |
    ⟨t, req, op, k, own, e, n, _, ht, rfl, _⟩ | ⟨t, req, a, own, rfl, ht, rfl⟩ |
    ⟨t, req, prog, own, rfl, ht, rfl⟩
  · intro a b hab w hw w' hw'
    rw [own_begin] at hw hw'
    exact h a b hab w hw w' hw'
  · -- the statement adds its writes, which no other transaction blocks
    have hown : s.own t = own := own_of_getElem ht
    apply D.locked_set ht h
    intro u hu w hw w' hw'
    rcases List.mem_append.mp hw with hold | hadd
    · exact h t u (Ne.symm hu) w (hown ▸ hold) w' hw'
    · exact hfree.own D hu w hadd w' hw'
  · have hown : s.own t = own := own_of_getElem ht
    apply D.locked_set ht h
    intro u hu w hw w' hw'
    exact h t u (Ne.symm hu) w (hown ▸ hw) w' hw'
  · -- after a commit no write is uncommitted
    apply D.locked_set ht h
    intro u _ w hw
    simp [Tx.own] at hw
  · -- nor after an abort
    apply D.locked_set ht h
    intro u _ w hw
    simp [Tx.own] at hw

omit [DecidableEq κ] in
/-- Before the first transaction there is no uncommitted write. -/
theorem locked_initial (c : σ) (n : ℕ) : D.Locked (initial c n : State Stmt Res ε ω σ α Req) := by
  intro t u _ w hw
  simp [State.own, initial] at hw

end Database

end Async
