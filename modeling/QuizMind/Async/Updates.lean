import QuizMind.Async.History

/-! # Read, merge, write

Updates of one row. An update reads the row, computes a new row from what it has read and
from its request, and writes it. The calls are atomic, an update is not: what others have
written since it read is overwritten.

* `givenOrInitial`: in every run a field has the value that some update has given it, or the
  initial one.
* `reflects_of_undisturbed`: in a run in which no row is written between the read and the
  write of an update, each field has the value that the latest of the updates that mention
  it has given it.
* `FieldsKept` collects this for a service, and `LostUpdate` is a test that shows for one
  state that it does not reflect its updates.
-/

namespace Async

variable {Row ε α Req : Type}

inductive RowCall (Row : Type) where
  | find
  | upsert (row : Row)
  /-- a call that does not concern the row -/
  | note

abbrev RowAnswer : RowCall Row → Type
  | .find => Option Row
  | .upsert _ => Row
  | .note => Unit

def RowCall.exec : (op : RowCall Row) → Option Row → Except ε (RowAnswer op) × Option Row
  | .find, s => (.ok s, s)
  | .upsert row, _ => (.ok row, some row)
  | .note, s => (.ok (), s)

abbrev RowProg (Row ε α : Type) := Prog (RowCall Row) RowAnswer ε α

abbrev RowEvent (Row ε : Type) := Event (RowCall Row) RowAnswer ε

abbrev RowSnapshot (Row ε α Req : Type) :=
  Snapshot (RowCall Row) RowAnswer ε α (Option Row) Req

def rowMachine (code : Req → RowProg Row ε α) :
    Machine (RowCall Row) RowAnswer ε α (Option Row) Req where
  exec := RowCall.exec
  code := code

/-- What a call of an update follows from: the row is read first, and what is written has
been computed from the row that was read. -/
def Merges (next : Req → Option Row → Except ε Row) (req : Req)
    (past : List (Told (RowCall Row) RowAnswer ε)) : RowCall Row → Prop
  | .find => past = []
  | .upsert row => ∃ current, past = [⟨.find, .ok current⟩] ∧ next req current = .ok row
  | .note => past ≠ []

/-- The program of every request is an update with the given merge. -/
def IsUpdate (next : Req → Option Row → Except ε Row) (code : Req → RowProg Row ε α) : Prop :=
  ∀ req, (code req).Upholds (fun _ _ => True) (Merges next req) (fun _ _ => True) []

/-! ## The row along the log -/

/-- The row that a call has written. -/
def Event.written : RowEvent Row ε → Option Row
  | ⟨_, .upsert row, .ok _⟩ => some row
  | _ => none

/-- The row after the calls of a log. -/
def rowAfter (initial : Option Row) (log : List (RowEvent Row ε)) : Option Row :=
  log.foldl (fun row e => e.written.or row) initial

theorem rowAfter_concat (initial : Option Row) (log : List (RowEvent Row ε))
    (e : RowEvent Row ε) : rowAfter initial (log ++ [e]) = e.written.or (rowAfter initial log) := by
  simp [rowAfter]

theorem rowAfter_append_of_noWrite {initial : Option Row} {log rest : List (RowEvent Row ε)}
    (h : ∀ e ∈ rest, e.written = none) :
    rowAfter initial (log ++ rest) = rowAfter initial log := by
  induction rest generalizing log with
  | nil => simp
  | cons e rest ih =>
    have hrest : rowAfter initial ((log ++ [e]) ++ rest) = rowAfter initial (log ++ [e]) :=
      ih fun e' he' => h e' (List.mem_cons_of_mem _ he')
    rw [List.append_assoc, List.singleton_append] at hrest
    rw [hrest, rowAfter_concat, h e List.mem_cons_self, Option.none_or]

/-- The store is the row that was written last, and a read has answered the row of its time. -/
structure Coherent (initial : Option Row) (s : RowSnapshot Row ε α Req) : Prop where
  store : s.store = rowAfter initial s.log
  read : ∀ (i pid : ℕ) (current : Option Row),
    s.log[i]? = some ⟨pid, .find, .ok current⟩ → current = rowAfter initial (s.log.take i)

section Coherent

variable {initial : Option Row}

theorem coherent_initial : Coherent initial (Machine.initial initial : RowSnapshot Row ε α Req) :=
  ⟨rfl, fun i pid current h => by simp [Machine.initial] at h⟩

variable {s : RowSnapshot Row ε α Req}

theorem Coherent.append (h : Coherent initial s)
    {e : RowEvent Row ε} {store : Option Row} {procs : List (Req × RowProg Row ε α)}
    (hstore : store = e.written.or s.store)
    (hread : ∀ pid current, e = ⟨pid, .find, .ok current⟩ → current = s.store) :
    Coherent initial ⟨store, procs, s.log ++ [e]⟩ := by
  constructor
  · rw [hstore, rowAfter_concat, ← h.store]
  intro i pid current hi
  rcases Nat.lt_trichotomy i s.log.length with hlt | rfl | hgt
  · rw [List.getElem?_append_left hlt] at hi
    rw [List.take_append_of_le_length (Nat.le_of_lt hlt)]
    exact h.read i pid current hi
  · simp_all [h.store]
  · grind

theorem Coherent.next {code : Req → RowProg Row ε α} {s' : RowSnapshot Row ε α Req}
    {l : Label ε Req} (hnext : (rowMachine code).next l s = some s') (h : Coherent initial s) :
    Coherent initial s' := by
  rcases Machine.next_cases _ hnext with ⟨req, rfl, rfl⟩ | ⟨pid, req, op, k, rfl, hp, rfl⟩ |
    ⟨pid, e, req, op, k, rfl, hp, rfl⟩
  · exact ⟨h.store, h.read⟩
  · cases op with
    | find =>
      refine h.append rfl ?_
      intro pid' current heq
      cases heq
      rfl
    | upsert row | note => exact h.append rfl fun _ _ heq => nomatch heq
  · refine h.append ?_ fun _ _ heq => ?_
    · cases op <;> rfl
    · cases heq

end Coherent

/-! ## Fields -/

section Fields

variable {F : Type} {W : F → Type} (value : (f : F) → Option Row → W f)
  (mention : Req → (f : F) → Option (W f))

/-- A request whose update has written the row. -/
def Wrote (s : RowSnapshot Row ε α Req) (pid : ℕ) (req : Req) : Prop :=
  (∃ p, s.procs[pid]? = some (req, p)) ∧ ∃ e ∈ s.log, e.pid = pid ∧ e.written.isSome

/-- `pid'` had made a call before `pid` made its first one. -/
def StartedLater (log : List (RowEvent Row ε)) (pid pid' : ℕ) : Prop :=
  ∃ past, past <+: log ∧ (∃ e ∈ past, e.pid = pid') ∧ ∀ e ∈ past, e.pid ≠ pid

/-- The field has a value that an update has given it, or the initial one. -/
def GivenOrInitial (f : F) (initial : Option Row) (s : RowSnapshot Row ε α Req) : Prop :=
  (∃ pid req, Wrote s pid req ∧ mention req f = some (value f s.store)) ∨
    value f s.store = value f initial

/-- No update that mentions the field has started later. -/
def LatestMention (f : F) (s : RowSnapshot Row ε α Req) (pid : ℕ) : Prop :=
  ∀ pid' req', Wrote s pid' req' → (mention req' f).isSome → ¬ StartedLater s.log pid' pid

/-- The field has the value that the latest of the updates that mention it has given it, or
the initial one when none of them mentions it. -/
def Reflects (f : F) (initial : Option Row) (s : RowSnapshot Row ε α Req) : Prop :=
  (∃ pid req, Wrote s pid req ∧ mention req f = some (value f s.store) ∧
    LatestMention mention f s pid) ∨
  ((∀ pid req, Wrote s pid req → mention req f = none) ∧ value f s.store = value f initial)

/-- A call that is about to write writes what no other update has changed since the first
call of its own update. -/
def undisturbed (s : RowSnapshot Row ε α Req) : Label ε Req → Bool
  | .step pid =>
    match s.procs[pid]? with
    | some (_, .call (.upsert _) _) =>
      (s.log.dropWhile fun e => e.pid ≠ pid).all fun e => e.written.isNone
    | _ => true
  | _ => true

/-- A merge gives each field the value that the request mentions, and keeps the others. -/
def MergesFields (next : Req → Option Row → Except ε Row) : Prop :=
  ∀ req current row, next req current = .ok row → ∀ f,
    value f (some row) = (mention req f).getD (value f current)

end Fields

/-! ## One step -/

section Steps

variable {F : Type} {W : F → Type} {value : (f : F) → Option Row → W f}
  {mention : Req → (f : F) → Option (W f)} {next : Req → Option Row → Except ε Row}
  {code : Req → RowProg Row ε α} {initial : Option Row} {s s' : RowSnapshot Row ε α Req}

/-- What every run of updates keeps: each call follows from the past of its request, and the
store from the log. -/
structure Tracked (next : Req → Option Row → Except ε Row) (initial : Option Row)
    (s : RowSnapshot Row ε α Req) : Prop where
  kept : Machine.Kept (fun _ _ => True) (Merges next) (fun _ _ _ => True) s
  coherent : Coherent initial s

theorem tracked_initial : Tracked next initial (Machine.initial initial : RowSnapshot Row ε α Req) :=
  ⟨Machine.Kept.initial initial, coherent_initial⟩

variable {l : Label ε Req}

theorem tracked_next (hcode : IsUpdate next code) (hnext : (rowMachine code).next l s = some s')
    (h : Tracked next initial s) : Tracked next initial s' := by
  refine ⟨?_, h.coherent.next hnext⟩
  exact Machine.Kept.next (M := rowMachine code) (fun _ _ => trivial) (fun _ _ => trivial) hcode
    hnext h.kept

variable {row : Row} {req : Req} {pid : ℕ}

variable {k : Except ε Row → RowProg Row ε α}

/-- The first call of an update that is about to write has read the row. -/
theorem Tracked.read_first (h : Tracked next initial s)
    (hp : s.procs[pid]? = some (req, .call (.upsert row) k)) :
    ∃ past rest current, s.log = past ++ ⟨pid, .find, .ok current⟩ :: rest ∧
      (∀ e ∈ past, e.pid ≠ pid) ∧ current = rowAfter initial past ∧
      next req current = .ok row := by
  rcases (h.kept.procs pid _ hp).1 with ⟨current, hhistory, hmerge⟩
  have hmem : (⟨pid, .find, .ok current⟩ : RowEvent Row ε) ∈ s.log := by
    have hin : (⟨.find, .ok current⟩ : Told (RowCall Row) RowAnswer ε) ∈ history pid s.log := by
      rw [hhistory]
      exact List.mem_singleton_self _
    exact mem_history.mp hin
  rcases List.append_of_mem hmem with ⟨past, rest, hlog⟩
  refine ⟨past, rest, current, hlog, ?_, ?_, hmerge⟩
  · -- an earlier call of the same request would make its past longer than one call
    have hlen := congrArg List.length hhistory
    rw [hlog, history, List.filterMap_append, List.filterMap_cons] at hlen
    simp only [if_true, List.length_append, List.length_cons, List.length_nil] at hlen
    intro e he hpid
    have hpast : 0 < (past.filterMap fun e => if e.pid = pid then
        some (⟨e.op, e.result⟩ : Told (RowCall Row) RowAnswer ε) else none).length := by grind
    omega
  · have hread := h.coherent.read past.length pid current (by rw [hlog]; simp)
    rwa [hlog, List.take_left'  rfl] at hread

/-- An undisturbed write stores what the merge makes of the row as it stands, and all other
updates that have written did so before its own first call. -/
theorem Tracked.undisturbed_write (h : Tracked next initial s)
    (hp : s.procs[pid]? = some (req, .call (.upsert row) k))
    (hC : undisturbed s (.step pid)) :
    next req s.store = .ok row ∧ ∃ past, past <+: s.log ∧ (∀ e ∈ past, e.pid ≠ pid) ∧
      ∀ e ∈ s.log, e.written.isSome → e ∈ past := by
  rcases h.read_first hp with ⟨past, rest, current, hlog, hpast, hcurrent, hmerge⟩
  have hdrop : (s.log.dropWhile fun e => e.pid ≠ pid) = ⟨pid, .find, .ok current⟩ :: rest := by
    grind [List.dropWhile_append_of_pos, List.dropWhile_cons_of_neg]
  have hrest : ∀ e ∈ (⟨pid, .find, .ok current⟩ :: rest : List (RowEvent Row ε)),
      e.written = none := by grind [undisturbed, Option.isNone_iff_eq_none]
  have hstore : s.store = current := by
    rw [h.coherent.store, hlog, rowAfter_append_of_noWrite hrest, ← hcurrent]
  refine ⟨hstore ▸ hmerge, past, ⟨_, hlog.symm⟩, hpast, ?_⟩
  intro e he hwritten
  rw [hlog] at he
  rcases List.mem_append.mp he with hin | hin
  · exact hin
  · rw [hrest e hin] at hwritten
    cases hwritten

theorem wrote_next (hnext : (rowMachine code).next l s = some s') (h : Wrote s pid req) : Wrote s' pid req := by
  rcases h with ⟨⟨p, hp⟩, e, he, hpid⟩
  rcases Machine.next_request _ hnext hp with ⟨⟨req', p'⟩, hp', rfl⟩
  exact ⟨⟨p', hp'⟩, e, Machine.next_log _ hnext he, hpid⟩

/-- A new event is the only way to a write that was not there before. -/
theorem Wrote.of_append {pid₀ : ℕ} {req₀ : Req} {p₀ p₁ : RowProg Row ε α} {e : RowEvent Row ε}
    {store : Option Row} (hp : s.procs[pid₀]? = some (req₀, p₀)) (he : e.pid = pid₀)
    (h : Wrote ⟨store, s.procs.set pid₀ (req₀, p₁), s.log ++ [e]⟩ pid req) :
    Wrote s pid req ∨ (e.written.isSome ∧ pid = pid₀ ∧ req = req₀) := by
  rcases h with ⟨⟨p, hget⟩, e', hmem, hpid, hwritten⟩
  have hreq : ∃ p, s.procs[pid]? = some (req, p) := by grind
  rcases List.mem_append.mp hmem with hold | hnew
  · exact Or.inl ⟨hreq, e', hold, hpid, hwritten⟩
  · grind

/-- Everything a step can do to the row: it writes it for one request, or leaves it. -/
theorem Tracked.update_cases (h : Tracked next initial s)
    (hnext : (rowMachine code).next l s = some s') :
    (s'.store = s.store ∧ ∀ pid req, Wrote s' pid req → Wrote s pid req) ∨
    (∃ pid req row k, l = .step pid ∧ s.procs[pid]? = some (req, .call (.upsert row) k) ∧
      s'.store = some row ∧ Wrote s' pid req ∧
      ∀ pid' req', Wrote s' pid' req' → Wrote s pid' req' ∨ (pid' = pid ∧ req' = req)) := by
  rcases Machine.next_cases _ hnext with ⟨req, rfl, rfl⟩ | ⟨pid, req, op, k, rfl, hp, rfl⟩ |
    ⟨pid, e, req, op, k, rfl, hp, rfl⟩
  · refine Or.inl ⟨rfl, ?_⟩
    rintro pid' req' ⟨⟨p, hp⟩, e, he, hpid⟩
    -- a request that has made a call is an old one
    rcases List.mem_iff_getElem?.mp he with ⟨i, hi⟩
    rcases h.kept.events i e hi with ⟨q, hq, -⟩
    have hlt := (List.getElem?_eq_some_iff.mp hq).1
    rw [hpid.1] at hlt
    exact ⟨⟨p, by simpa [List.getElem?_append_left hlt] using hp⟩, e, he, hpid⟩
  · cases op with
    | find | note =>
      refine Or.inl ⟨rfl, fun pid' req' hw => ?_⟩
      exact (Wrote.of_append hp rfl hw).resolve_right fun hnew => nomatch hnew.1
    | upsert row =>
      refine Or.inr ⟨pid, req, row, k, rfl, hp, rfl, ?_, fun pid' req' hw => ?_⟩
      · have hlt := (List.getElem?_eq_some_iff.mp hp).1
        exact ⟨⟨k (.ok row), by simp [hlt, rowMachine, RowCall.exec]⟩,
          ⟨pid, .upsert row, .ok row⟩, by simp [rowMachine, RowCall.exec], rfl, rfl⟩
      · exact (Wrote.of_append hp rfl hw).imp_right fun hnew => hnew.2
  · refine Or.inl ⟨rfl, fun pid' req' hw => ?_⟩
    refine (Wrote.of_append hp rfl hw).resolve_right fun hnew => ?_
    cases op <;> exact nomatch hnew.1

theorem StartedLater.of_prefix {log log' : List (RowEvent Row ε)} {pid' : ℕ}
    (h : StartedLater log' pid pid') (hgrow : log <+: log') (hmem : ∃ e ∈ log, e.pid = pid) :
    StartedLater log pid pid' := by
  rcases h with ⟨past, hpast, hearlier, hnone⟩
  rcases List.prefix_or_prefix_of_prefix hpast hgrow with hle | hge
  · exact ⟨past, hle, hearlier, hnone⟩
  -- the past is longer than the old log, where the request has made a call
  rcases hmem with ⟨e, he, hpid⟩
  exact absurd hpid (hnone e (hge.mem he))

/-! ## Runs -/

variable {C : RowSnapshot Row ε α Req → Label ε Req → Prop}

theorem tracked_of_reaches (hcode : IsUpdate next code)
    (h : (rowMachine code).Reaches C (Machine.initial initial) s) : Tracked next initial s :=
  Machine.Reaches.invariant _ (fun _ _ _ _ hnext hs => tracked_next hcode hnext hs) h
    tracked_initial

/-- What an update has written is what the merge makes of the row at the time of its read. -/
theorem Tracked.written (h : Tracked next initial s) {i : ℕ} {answer : Row}
    (hi : s.log[i]? = some ⟨pid, .upsert row, .ok answer⟩) :
    ∃ q j, s.procs[pid]? = some q ∧ j < i ∧
      s.log[j]? = some ⟨pid, .find, .ok (rowAfter initial (s.log.take j))⟩ ∧
      next q.1 (rowAfter initial (s.log.take j)) = .ok row := by
  rcases h.kept.events i _ hi with ⟨q, hq, current, hpast, hmerge⟩
  have hmem : (⟨pid, .find, .ok current⟩ : RowEvent Row ε) ∈ s.log.take i := by
    have hin : (⟨.find, .ok current⟩ : Told (RowCall Row) RowAnswer ε) ∈
        history pid (s.log.take i) := by
      rw [hpast]
      exact List.mem_singleton_self _
    exact mem_history.mp hin
  rcases List.mem_iff_getElem?.mp hmem with ⟨j, hj⟩
  have hlt : j < i := by grind
  rw [List.getElem?_take_of_lt hlt] at hj
  obtain rfl := h.coherent.read j pid current hj
  exact ⟨q, j, hq, hlt, hj, hmerge⟩

/-- In every run: an update can bring back an older value of a field, but none that was
never there. -/
theorem givenOrInitial (hcode : IsUpdate next code) (hfields : MergesFields value mention next)
    (h : (rowMachine code).Reaches C (Machine.initial initial) s) (f : F) :
    GivenOrInitial value mention f initial s := by
  have htracked := tracked_of_reaches hcode h
  -- the row after each part of the log, by induction on the length of the part
  have hparts : ∀ n ≤ s.log.length, (∃ pid req, Wrote s pid req ∧
        mention req f = some (value f (rowAfter initial (s.log.take n)))) ∨
      value f (rowAfter initial (s.log.take n)) = value f initial := by
    intro n
    induction n using Nat.strongRecOn with
    | ind n ih =>
      intro hn
      rcases n with _ | n
      · exact Or.inr rfl
      have hlt : n < s.log.length := hn
      have htake : s.log.take (n + 1) = s.log.take n ++ [s.log[n]] :=
        List.take_succ_eq_append_getElem hlt
      rw [htake, rowAfter_concat]
      rcases he : s.log[n] with ⟨pid, op, result⟩
      have hi : s.log[n]? = some ⟨pid, op, result⟩ := by rw [List.getElem?_eq_getElem hlt, he]
      have hbefore := ih n (Nat.lt_succ_self n) (Nat.le_of_lt hlt)
      rcases op with _ | row | _
      · simpa [Event.written] using hbefore
      · cases result with
        | error e => simpa [Event.written] using hbefore
        | ok answer =>
          rcases htracked.written hi with ⟨q, j, hq, hj, -, hmerge⟩
          have hwrote : Wrote s pid q.1 :=
            ⟨⟨q.2, hq⟩, _, List.mem_of_getElem? hi, rfl, rfl⟩
          have hval := hfields _ _ _ hmerge f
          simp only [Event.written, Option.some_or]
          rw [hval]
          cases hmention : mention q.1 f with
          | some v => exact Or.inl ⟨pid, q.1, hwrote, by simpa using hmention⟩
          | none => exact ih j (by omega) (by omega)
      · simpa [Event.written] using hbefore
  have hall := hparts s.log.length (Nat.le_refl _)
  rw [List.take_length, ← htracked.coherent.store] at hall
  exact hall

theorem LatestMention.next_of_mention {f : F} (hnext : (rowMachine code).next l s = some s')
    (h : LatestMention mention f s pid)
    (hpast : ∀ pid' req', Wrote s' pid' req' → (mention req' f).isSome → Wrote s pid' req') :
    LatestMention mention f s' pid := by
  intro pid' req' hw hmention hlater
  have hold := hpast pid' req' hw hmention
  rcases hold.2 with ⟨e, he, hpid, -⟩
  exact h pid' req' hold hmention (hlater.of_prefix (Machine.next_log_grows _ hnext) ⟨e, he, hpid⟩)

/-- A step that does not write the row for a request that mentions the field keeps what the
field reflects. -/
theorem Reflects.next_of_value {f : F} (hnext : (rowMachine code).next l s = some s')
    (h : Reflects value mention f initial s) (hval : value f s'.store = value f s.store)
    (hpast : ∀ pid' req', Wrote s' pid' req' → (mention req' f).isSome → Wrote s pid' req') :
    Reflects value mention f initial s' := by
  rcases h with ⟨pid, req, hwrote, hmention, hlatest⟩ | ⟨hnone, hinitial⟩
  · left
    exact ⟨pid, req, wrote_next hnext hwrote, by rw [hval]; exact hmention,
      hlatest.next_of_mention hnext hpast⟩
  right
  refine ⟨fun pid req hw => ?_, hval.trans hinitial⟩
  cases hm : mention req f with
  | none => rfl
  | some v => grind

theorem reflects_next (h : Tracked next initial s) (hfields : MergesFields value mention next)
    (hC : undisturbed s l) (hnext : (rowMachine code).next l s = some s') {f : F}
    (hf : Reflects value mention f initial s) : Reflects value mention f initial s' := by
  rcases h.update_cases hnext with ⟨hstore, hpast⟩ | ⟨pid, req, row, k, rfl, hp, hstore, hwrote, hpast⟩
  · exact hf.next_of_value hnext (by rw [hstore]) fun pid req hw _ => hpast pid req hw
  rcases h.undisturbed_write hp hC with ⟨hmerge, past, hprefix, hnone, hearlier⟩
  have hval := hfields _ _ _ hmerge f
  cases hmention : mention req f with
  | none =>
    rw [hmention, ← hstore] at hval
    refine hf.next_of_value hnext hval fun pid' req' hw hm => ?_
    rcases hpast pid' req' hw with hold | ⟨-, rfl⟩
    · exact hold
    · rw [hmention] at hm
      cases hm
  | some v =>
    rw [hmention, ← hstore] at hval
    refine Or.inl ⟨pid, req, hwrote, by rw [hval]; exact hmention, ?_⟩
    rintro pid' req' hw - ⟨past', hpast', ⟨e', he', hpid'⟩, hnone'⟩
    rcases hpast pid' req' hw with hold | ⟨rfl, -⟩
    · -- an older writer has made its write before the first call of this one
      rcases hold.2 with ⟨e, he, hpid, hwritten⟩
      have hgrow := hprefix.trans (Machine.next_log_grows _ hnext)
      rcases List.prefix_or_prefix_of_prefix hpast' hgrow with hle | hge
      · exact hnone e' (hle.mem he') hpid'
      · exact hnone' e (hge.mem (hearlier e he hwritten)) hpid
    · exact hnone' e' he' hpid'

theorem reflects_of_undisturbed (hcode : IsUpdate next code)
    (hfields : MergesFields value mention next)
    (h : (rowMachine code).Reaches (fun s l => undisturbed s l) (Machine.initial initial) s)
    (f : F) : Reflects value mention f initial s := by
  have hinitial : Reflects value mention f initial
      (Machine.initial initial : RowSnapshot Row ε α Req) := by
    refine Or.inr ⟨?_, rfl⟩
    rintro pid req ⟨-, e, he, -⟩
    exact absurd he List.not_mem_nil
  have hinv : Tracked next initial s ∧ Reflects value mention f initial s := by
    induction h with
    | refl => exact ⟨tracked_initial, hinitial⟩
    | tail _ hlast ih =>
      rcases hlast with ⟨l, hC, hnext⟩
      exact ⟨tracked_next hcode hnext ih.1, reflects_next ih.1 hfields hC hnext ih.2⟩
  exact hinv.2

/-- An undisturbed step changes a field only where it writes the row for a request that
mentions it. -/
theorem unmentioned_kept (h : Tracked next initial s) (hfields : MergesFields value mention next)
    (hC : undisturbed s l) (hnext : (rowMachine code).next l s = some s') {f : F}
    (hchange : value f s'.store ≠ value f s.store) :
    ∃ pid req p, l = .step pid ∧ s.procs[pid]? = some (req, p) ∧
      mention req f = some (value f s'.store) := by
  rcases h.update_cases hnext with ⟨hstore, -⟩ | ⟨pid, req, row, k, rfl, hp, hstore, -, -⟩
  · exact absurd (by rw [hstore]) hchange
  have hval := hfields _ _ _ (h.undisturbed_write hp hC).1 f
  cases hmention : mention req f with
  | none | some v => grind

end Steps

/-! ## The law of a service -/

section Law

variable {F : Type} {W : F → Type} (value : (f : F) → Option Row → W f)
  (mention : Req → (f : F) → Option (W f)) (code : Req → RowProg Row ε α)

/-- What the updates of a service keep of a field. -/
structure FieldsKept : Prop where
  given : ∀ initial s, (rowMachine code).Reaches (fun _ _ => True) (Machine.initial initial) s →
    ∀ f, GivenOrInitial value mention f initial s
  latest : ∀ initial s,
    (rowMachine code).Reaches (fun s l => undisturbed s l) (Machine.initial initial) s →
      ∀ f, Reflects value mention f initial s
  unmentioned : ∀ initial s s' l,
    (rowMachine code).Reaches (fun _ _ => True) (Machine.initial initial) s →
      undisturbed s l → (rowMachine code).next l s = some s' →
        ∀ f, value f s'.store ≠ value f s.store →
          ∃ pid req p, l = .step pid ∧ s.procs[pid]? = some (req, p) ∧
            mention req f = some (value f s'.store)

variable {value mention code}

theorem fieldsKept {next : Req → Option Row → Except ε Row} (hcode : IsUpdate next code)
    (hfields : MergesFields value mention next) : FieldsKept value mention code where
  given _ _ h f := givenOrInitial hcode hfields h f
  latest _ _ h f := reflects_of_undisturbed hcode hfields h f
  unmentioned _ _ _ _ h hC hnext _ hchange :=
    unmentioned_kept (tracked_of_reaches hcode h) hfields hC hnext hchange

/-- The program has ended with an answer. -/
def hasReturned : RowProg Row ε α → Bool
  | .ret _ => true
  | _ => false

variable (value mention) [∀ f, DecidableEq (W f)]

/-- An update that mentions the field has written the row, and no request mentions the value
that the field has now. -/
def LostUpdate (f : F) (s : RowSnapshot Row ε α Req) : Bool :=
  (s.procs.all fun q => mention q.1 f ≠ some (value f s.store)) &&
    s.log.any fun e => e.written.isSome &&
      (s.procs[e.pid]?.any fun q => (mention q.1 f).isSome)

variable {value mention}

theorem LostUpdate.not_reflects {f : F} {initial : Option Row} {s : RowSnapshot Row ε α Req}
    (h : LostUpdate value mention f s = true) : ¬ Reflects value mention f initial s := by
  simp only [LostUpdate, Bool.and_eq_true, List.all_eq_true, List.any_eq_true,
    decide_eq_true_eq] at h
  rcases h with ⟨hnone, e, he, hwritten, hmention⟩
  rcases Option.any_eq_true_iff_get _ _ |>.mp hmention with ⟨hsome, hreq⟩
  rintro (⟨pid, req, ⟨⟨p, hp⟩, -⟩, hval, -⟩ | ⟨hall, -⟩)
  · exact hnone _ (List.mem_of_getElem? hp) hval
  -- the request that has written does mention the field
  have hwrote : Wrote s e.pid (s.procs[e.pid]?.get hsome).1 :=
    ⟨⟨_, (Option.some_get hsome).symm⟩, e, he, rfl, hwritten⟩
  rw [hall _ _ hwrote] at hreq
  cases hreq

end Law

end Async
