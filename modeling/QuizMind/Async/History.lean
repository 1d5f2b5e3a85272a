import QuizMind.Async.Machine

/-! # What a program has been told

A program is a function of the answers it gets, so what a running request may
do next is a statement about its own past calls. `Prog.Upholds` lets the
guarantee of a call and the postcondition refer to that past, and
`Machine.Kept` says that a run keeps it: every call in the log meets its
guarantee with respect to the earlier calls of the same request.
-/

namespace Async

variable {Op : Type} {Res : Op → Type} {ε α β σ Req : Type}

/-- One call with its answer. -/
structure Told (Op : Type) (Res : Op → Type) (ε : Type) where
  op : Op
  result : Except ε (Res op)

namespace Prog

section Upholds

variable (rely : (op : Op) → Except ε (Res op) → Prop) (G : List (Told Op Res ε) → Op → Prop)

/-- As long as the answers satisfy `rely`, every call satisfies `G` and every
result satisfies `Q`, given what the program has been told before. -/
def Upholds (Q : List (Told Op Res ε) → α → Prop) : List (Told Op Res ε) → Prog Op Res ε α → Prop
  | h, .ret a => Q h a
  | _, .throw _ => True
  | h, .call op k => G h op ∧ ∀ r, rely op r → (k r).Upholds Q (h ++ [⟨op, r⟩])

end Upholds

section Rules

variable {rely : (op : Op) → Except ε (Res op) → Prop} {G : List (Told Op Res ε) → Op → Prop}
  {h : List (Told Op Res ε)}

variable {Q : List (Told Op Res ε) → β → Prop}

/-- One call followed by the rest. -/
theorem upholds_await_bind {op : Op} {f : Res op → Prog Op Res ε β} (hop : G h op)
    (hf : ∀ a, rely op (.ok a) → (f a).Upholds rely G Q (h ++ [⟨op, .ok a⟩])) :
    (await op >>= f).Upholds rely G Q h := by
  refine ⟨hop, ?_⟩
  intro r hr
  cases r with
  | ok a => exact hf a hr
  | error e => trivial

variable {f : α → Prog Op Res ε β}

/-- A check followed by the rest. -/
theorem upholds_ofExcept_bind {x : Except ε α} (hf : ∀ a, x = .ok a → (f a).Upholds rely G Q h) :
    (ofExcept x >>= f).Upholds rely G Q h := by
  cases x with
  | ok a => exact hf a rfl
  | error e => trivial

/-- Sequencing. -/
theorem upholds_bind {P : List (Told Op Res ε) → α → Prop}
    {p : Prog Op Res ε α} (hp : p.Upholds rely G P h)
    (hf : ∀ h' a, P h' a → (f a).Upholds rely G Q h') : (p >>= f).Upholds rely G Q h := by
  induction p generalizing h with
  | ret a => exact hf h a hp
  | throw e => trivial
  | call op k ih =>
    refine ⟨hp.1, ?_⟩
    intro r hr
    exact ih r (hp.2 r hr)

/-! A program over part of the calls upholds over all calls what it upholds over its own:
`tell` picks the calls of the part out of what has been told. -/

section Embed

variable {Op' : Type} {Res' : Op' → Type} {f : Op → Op'} {g : (op : Op) → Res' (f op) → Res op}
  {tell : Told Op' Res' ε → Option (Told Op Res ε)}
  {rely' : (op : Op') → Except ε (Res' op) → Prop}

/-- The call is one of the part, and follows from what the part has been told. -/
def EmbedCalls (f : Op → Op') (tell : Told Op' Res' ε → Option (Told Op Res ε))
    (G : List (Told Op Res ε) → Op → Prop) (h : List (Told Op' Res' ε)) (op' : Op') : Prop :=
  ∃ op, op' = f op ∧ G (h.filterMap tell) op

theorem Upholds.embed (htell : ∀ op r, tell ⟨f op, r⟩ = some ⟨op, r.map (g op)⟩)
    (hrely : ∀ op r, rely' (f op) r → rely op (r.map (g op)))
    {Q : List (Told Op Res ε) → α → Prop} {p : Prog Op Res ε α} {h' : List (Told Op' Res' ε)}
    (hp : p.Upholds rely G Q (h'.filterMap tell)) :
    (p.embed f g).Upholds rely' (EmbedCalls f tell G) (fun h a => Q (h.filterMap tell) a) h' := by
  induction p generalizing h' with
  | ret a => exact hp
  | throw e => trivial
  | call op k ih =>
    refine ⟨⟨op, rfl, hp.1⟩, ?_⟩
    intro r hr
    apply ih
    rw [List.filterMap_append, List.filterMap_cons_some (htell op r)]
    exact hp.2 _ (hrely op r hr)

end Embed

end Rules

/-! An exception handler starts from what has been told before the exception, so a
program inside a `try` needs a postcondition for its exceptions as well. -/

section Ensures

variable (rely : (op : Op) → Except ε (Res op) → Prop) (G : List (Told Op Res ε) → Op → Prop)

/-- As `Upholds`, with a postcondition for both ends. -/
def Ensures (Q : List (Told Op Res ε) → Except ε α → Prop) :
    List (Told Op Res ε) → Prog Op Res ε α → Prop
  | h, .ret a => Q h (.ok a)
  | h, .throw e => Q h (.error e)
  | h, .call op k => G h op ∧ ∀ r, rely op r → (k r).Ensures Q (h ++ [⟨op, r⟩])

/-- The program keeps a property of what it has been told. -/
def Maintains (J : List (Told Op Res ε) → Prop) (p : Prog Op Res ε α) : Prop :=
  ∀ h, J h → p.Ensures rely G (fun h' _ => J h') h

end Ensures

section EnsuresRules

variable {rely : (op : Op) → Except ε (Res op) → Prop} {G : List (Told Op Res ε) → Op → Prop}
  {h : List (Told Op Res ε)}

variable {p : Prog Op Res ε α}

variable {Q : List (Told Op Res ε) → Except ε α → Prop}

theorem Ensures.mono {Q' : List (Told Op Res ε) → Except ε α → Prop}
    (hQ : ∀ h r, Q h r → Q' h r) (hp : p.Ensures rely G Q h) : p.Ensures rely G Q' h := by
  induction p generalizing h with
  | ret a | throw e => exact hQ _ _ hp
  | call op k ih => exact ⟨hp.1, fun r hr => ih r (hp.2 r hr)⟩

theorem Ensures.upholds (hp : p.Ensures rely G Q h) :
    p.Upholds rely G (fun h' a => Q h' (.ok a)) h := by
  induction p generalizing h with
  | ret a => exact hp
  | throw e => trivial
  | call op k ih => exact ⟨hp.1, fun r hr => ih r (hp.2 r hr)⟩

theorem ensures_await {Q : List (Told Op Res ε) → Except ε (Res op) → Prop} (hop : G h op)
    (hQ : ∀ r, rely op r → Q (h ++ [⟨op, r⟩]) r) : (await op).Ensures rely G Q h := by
  refine ⟨hop, ?_⟩
  intro r hr
  cases r with
  | ok a | error e => exact hQ _ hr

variable {P : List (Told Op Res ε) → Except ε α → Prop} {f : α → Prog Op Res ε β}

theorem ensures_bind {Q : List (Told Op Res ε) → Except ε β → Prop}
    (hp : p.Ensures rely G P h) (hf : ∀ h' a, P h' (.ok a) → (f a).Ensures rely G Q h')
    (herr : ∀ h' e, P h' (.error e) → Q h' (.error e)) : (p >>= f).Ensures rely G Q h := by
  induction p generalizing h with
  | ret a => exact hf h a hp
  | throw e => exact herr h e hp
  | call op k ih => exact ⟨hp.1, fun r hr => ih r (hp.2 r hr)⟩

theorem ensures_handle {f : ε → Prog Op Res ε α}
    (hp : p.Ensures rely G P h) (hok : ∀ h' a, P h' (.ok a) → Q h' (.ok a))
    (hf : ∀ h' e, P h' (.error e) → (f e).Ensures rely G Q h') :
    (p.handle f).Ensures rely G Q h := by
  induction p generalizing h with
  | ret a => exact hok h a hp
  | throw e => exact hf h e hp
  | call op k ih => exact ⟨hp.1, fun r hr => ih r (hp.2 r hr)⟩

variable {J : List (Told Op Res ε) → Prop}

theorem maintains_ret (a : α) : (ret a : Prog Op Res ε α).Maintains rely G J := fun _ hJ => hJ

theorem maintains_throw (e : ε) : (throw e : Prog Op Res ε α).Maintains rely G J :=
  fun _ hJ => hJ

theorem maintains_bind (hp : p.Maintains rely G J)
    (hf : ∀ a, (f a).Maintains rely G J) : (p >>= f).Maintains rely G J :=
  fun h hJ => ensures_bind (hp h hJ) (fun h' a hJ' => hf a h' hJ') fun _ _ hJ' => hJ'

theorem maintains_handle {f : ε → Prog Op Res ε α} (hp : p.Maintains rely G J)
    (hf : ∀ e, (f e).Maintains rely G J) : (p.handle f).Maintains rely G J :=
  fun h hJ => ensures_handle (hp h hJ) (fun _ _ hJ' => hJ') fun h' e hJ' => hf e h' hJ'

/-- A program whose calls keep the property by themselves. -/
theorem maintains_of_safe {guar : Op → Prop} (hG : ∀ h op, guar op → J h → G h op)
    (hJ : ∀ h op r, guar op → J h → J (h ++ [⟨op, r⟩])) (hp : p.Safe (fun _ _ => True) guar) :
    p.Maintains rely G J := by
  intro h h0
  induction p generalizing h with
  | ret a | throw e => exact h0
  | call op k ih =>
    refine ⟨hG h op hp.1 h0, ?_⟩
    intro r _
    exact ih r (hp.2 r trivial) _ (hJ h op r hp.1 h0)

end EnsuresRules

end Prog

/-- The calls of one request, in the order in which it made them. -/
def history (pid : ℕ) (log : List (Event Op Res ε)) : List (Told Op Res ε) :=
  log.filterMap fun e => if e.pid = pid then some ⟨e.op, e.result⟩ else none

theorem history_append_self (pid : ℕ) (log : List (Event Op Res ε)) (op : Op)
    (r : Except ε (Res op)) :
    history pid (log ++ [⟨pid, op, r⟩]) = history pid log ++ [⟨op, r⟩] := by
  simp [history]

theorem history_append_other {pid pid' : ℕ} (hne : pid' ≠ pid) (log : List (Event Op Res ε))
    (op : Op) (r : Except ε (Res op)) :
    history pid (log ++ [⟨pid', op, r⟩]) = history pid log := by
  simp [history, hne]

theorem mem_history {pid : ℕ} {log : List (Event Op Res ε)} {t : Told Op Res ε} :
    t ∈ history pid log ↔ ⟨pid, t.op, t.result⟩ ∈ log := by
  simp only [history, List.mem_filterMap]
  constructor
  · rintro ⟨e, he, ht⟩
    split at ht
    · rename_i hpid
      obtain rfl := Option.some.inj ht
      obtain rfl := hpid
      exact he
    · cases ht
  · intro ht
    exact ⟨_, ht, by simp⟩

namespace Machine

variable (M : Machine Op Res ε α σ Req)

variable {s : Snapshot Op Res ε α σ Req}

/-- A request that waits for its call can perform it. -/
theorem next_step {pid : ℕ} {req : Req} {op : Op} {k : Except ε (Res op) → Prog Op Res ε α}
    (hp : s.procs[pid]? = some (req, .call op k)) :
    M.next (.step pid) s = some
      { store := (M.exec op s.store).2
        procs := s.procs.set pid (req, k (M.exec op s.store).1)
        log := s.log ++ [⟨pid, op, (M.exec op s.store).1⟩] } := by
  simp only [next, hp]

variable {s' : Snapshot Op Res ε α σ Req}

/-- How a request has come to what it still has to do: it is as it was, or it has just been
received, or it goes on with the answer to its call. -/
theorem next_proc {l : Label ε Req} (h : M.next l s = some s')
    {j : ℕ} {q : Req × Prog Op Res ε α} (hq : s'.procs[j]? = some q) :
    s.procs[j]? = some q ∨ (l = .start q.1 ∧ q.2 = M.code q.1) ∨
      ∃ op k r, s.procs[j]? = some (q.1, .call op k) ∧ q.2 = k r ∧ s'.log = s.log ++ [⟨j, op, r⟩] ∧
        (l = .step j ∧ r = (M.exec op s.store).1 ∧ s'.store = (M.exec op s.store).2 ∨
          ∃ e, l = .fail j e ∧ r = .error e) := by
  rcases M.next_cases h with ⟨req, rfl, rfl⟩ | ⟨pid, req, op, k, rfl, hp, rfl⟩ |
    ⟨pid, e, req, op, k, rfl, hp, rfl⟩
  all_goals grind

/-- A request that has returned makes no step any more. -/
theorem next_returned {l : Label ε Req}
    (h : M.next l s = some s') {j : ℕ} {req : Req} {a : α} (hq : s.procs[j]? = some (req, .ret a)) :
    s'.procs[j]? = some (req, .ret a) := by
  have hset : ∀ (pid : ℕ) (req' : Req) (op : Op) (k : Except ε (Res op) → Prog Op Res ε α)
      (p : Prog Op Res ε α), s.procs[pid]? = some (req', .call op k) →
        (s.procs.set pid (req', p))[j]? = some (req, .ret a) := by grind
  rcases M.next_cases h with ⟨req', rfl, rfl⟩ | ⟨pid, req', op, k, rfl, hp, rfl⟩ |
    ⟨pid, e, req', op, k, rfl, hp, rfl⟩
  · grind
  all_goals exact hset pid req' op k _ hp

/-- What the running requests and the log have kept to. -/
structure Kept (rely : (op : Op) → Except ε (Res op) → Prop)
    (G : Req → List (Told Op Res ε) → Op → Prop) (Q : Req → List (Told Op Res ε) → α → Prop)
    (s : Snapshot Op Res ε α σ Req) : Prop where
  procs : ∀ (pid : ℕ) (q : Req × Prog Op Res ε α), s.procs[pid]? = some q →
    q.2.Upholds rely (G q.1) (Q q.1) (history pid s.log)
  events : ∀ (i : ℕ) (e : Event Op Res ε), s.log[i]? = some e →
    ∃ q, s.procs[e.pid]? = some q ∧ G q.1 (history e.pid (s.log.take i)) e.op

section Run

variable {M} {rely : (op : Op) → Except ε (Res op) → Prop}
  {G : Req → List (Told Op Res ε) → Op → Prop} {Q : Req → List (Told Op Res ε) → α → Prop}

theorem Kept.initial (store : σ) :
    Kept rely G Q (Machine.initial store : Snapshot Op Res ε α σ Req) := by
  constructor
  · intro pid q hq
    cases hq
  · intro i e he
    cases he

variable {s : Snapshot Op Res ε α σ Req}

/-- A request that has not been received has made no call. -/
theorem Kept.history_nil (h : Kept rely G Q s) : history s.procs.length s.log = [] := by
  refine List.eq_nil_iff_forall_not_mem.mpr ?_
  intro t ht
  obtain ⟨i, hi⟩ := List.mem_iff_getElem?.mp (mem_history.mp ht)
  obtain ⟨q, hq, -⟩ := h.events i _ hi
  have hlt := (List.getElem?_eq_some_iff.mp hq).1
  exact absurd hlt (Nat.lt_irrefl _)

/-- A performed or failed call keeps what has been kept. -/
theorem Kept.call (h : Kept rely G Q s) {pid : ℕ} {req : Req} {op : Op}
    {k : Except ε (Res op) → Prog Op Res ε α} (hp : s.procs[pid]? = some (req, .call op k))
    {r : Except ε (Res op)} (hr : rely op r) (store : σ) :
    Kept rely G Q
      { store := store, procs := s.procs.set pid (req, k r), log := s.log ++ [⟨pid, op, r⟩] } := by
  have hlt : pid < s.procs.length := (List.getElem?_eq_some_iff.mp hp).1
  obtain ⟨hG, hk⟩ := h.procs pid _ hp
  constructor
  · intro j q hq
    by_cases hj : pid = j
    · grind [history_append_self]
    rw [List.getElem?_set_ne hj] at hq
    rw [history_append_other hj]
    exact h.procs j q hq
  intro i e he
  rcases Nat.lt_trichotomy i s.log.length with hi | hi | hi
  · -- an earlier event; its request stays the request it was
    rw [List.getElem?_append_left hi] at he
    obtain ⟨q, hq, hG'⟩ := h.events i e he
    rw [List.take_append_of_le_length (Nat.le_of_lt hi)]
    by_cases hpid : pid = e.pid
    · grind
    · exact ⟨q, by rw [List.getElem?_set_ne hpid]; exact hq, hG'⟩
  · subst hi
    -- the new event: its past is what the request had been told before
    obtain rfl : (⟨pid, op, r⟩ : Event Op Res ε) = e := by simpa using he
    refine ⟨(req, k r), by simp [hlt], ?_⟩
    simpa using hG
  · grind

variable {s' : Snapshot Op Res ε α σ Req}

/-- A step, when only a failure that satisfies `rely` is one of it. -/
theorem Kept.next_of_fail (hexec : ∀ op s, rely op (M.exec op s).1)
    (hcode : ∀ req, (M.code req).Upholds rely (G req) (Q req) []) {l : Label ε Req}
    (hfail : ∀ pid e req op k, l = .fail pid e → s.procs[pid]? = some (req, .call op k) →
      rely op (.error e))
    (hnext : M.next l s = some s') (h : Kept rely G Q s) : Kept rely G Q s' := by
  rcases M.next_cases hnext with ⟨req, rfl, rfl⟩ | ⟨pid, req, op, k, rfl, hp, rfl⟩ |
    ⟨pid, e, req, op, k, rfl, hp, rfl⟩
  · constructor
    · intro j q hq
      by_cases hj : j < s.procs.length
      · rw [List.getElem?_append_left hj] at hq
        exact h.procs j q hq
      obtain rfl : j = s.procs.length := by grind
      -- a new request has been told nothing yet
      obtain rfl : (req, M.code req) = q := by simpa using hq
      rw [h.history_nil]
      exact hcode req
    · intro i e he
      obtain ⟨q, hq, hG⟩ := h.events i e he
      have hlt := (List.getElem?_eq_some_iff.mp hq).1
      exact ⟨q, by rw [List.getElem?_append_left hlt]; exact hq, hG⟩
  · exact h.call hp (hexec op s.store) _
  · exact h.call hp (hfail pid e req op k rfl hp) _

theorem Kept.next (hexec : ∀ op s, rely op (M.exec op s).1) (hfail : ∀ op e, rely op (.error e))
    (hcode : ∀ req, (M.code req).Upholds rely (G req) (Q req) [])
    {l : Label ε Req} (hnext : M.next l s = some s') (h : Kept rely G Q s) : Kept rely G Q s' :=
  h.next_of_fail hexec hcode (fun _ e _ op _ _ _ => hfail op e) hnext

/-- A call that a request makes at most once is at one position of the log. -/
theorem Kept.unique (h : Kept rely G Q s) {p : Told Op Res ε → Prop}
    (hp : ∀ req past op r, G req past op → p ⟨op, r⟩ → ∀ t ∈ past, ¬ p t) {i j pid : ℕ}
    {t u : Told Op Res ε} (hi : s.log[i]? = some ⟨pid, t.op, t.result⟩) (ht : p t)
    (hj : s.log[j]? = some ⟨pid, u.op, u.result⟩) (hu : p u) : i = j := by
  have hlt : ∀ {i j : ℕ} {t t' : Told Op Res ε}, s.log[i]? = some ⟨pid, t.op, t.result⟩ → p t →
      s.log[j]? = some ⟨pid, t'.op, t'.result⟩ → p t' → ¬ i < j := by
    intro i j t t' hi ht hj ht' hij
    -- the later of two such calls would have the earlier one in its past
    obtain ⟨q, -, hG⟩ := h.events j _ hj
    refine hp q.1 _ _ _ hG ht' t ?_ ht
    refine mem_history.mpr (List.mem_of_getElem? (i := i) ?_)
    rw [List.getElem?_take_of_lt hij]
    exact hi
  have hij := hlt hi ht hj hu
  have hji := hlt hj hu hi ht
  omega

end Run

end Machine

end Async
