import QuizMind.Async.Obligations
import QuizMind.Client.Protocol
import QuizMind.Text.Trim

/-! # Buffered telemetry

`appendBufferedEvent` and `flushBufferedEventsFromState` read the buffer, and write it
later, with requests to the server in between. What another operation has written
meanwhile is overwritten (`append_overwritten`).

While every write finds the buffer as its operation has read it, each appended event is
still buffered or has been acknowledged (`appended_events_kept`). An event that the
buffer cannot be read back with, for a blank type or date, is lost at the next read.
-/

namespace QuizMind.Client

open Async
open Machine (initial)
open Prod (fst)
open Prog (ensures_bind safe_await_bind)

/-! ## The statement -/

abbrev ClientEvent := Event ClientCall ClientCall.Res ClientError

/-- The events that have been appended. -/
def appendedEvents (log : List ClientEvent) : List UsageEventPayload :=
  log.filterMap fun
    | ⟨_, .setBufferedEvents (.append event _), .ok _⟩ => some event
    | _ => none

/-- The events that a flush has removed as delivered. -/
def deliveredEvents (log : List ClientEvent) : List UsageEventPayload :=
  log.flatMap fun
    | ⟨_, .setBufferedEvents (.flushed delivered _), .ok _⟩ => delivered
    | _ => []

/-- The server has accepted the event, and its reply has arrived. -/
def Acknowledged (event : UsageEventPayload) (log : List ClientEvent) : Prop :=
  ∃ pid token, ⟨pid, .receive (.usageEvent token event) true, .ok ()⟩ ∈ log

/-- Each appended event is in the buffer or has been delivered, as often as it was
appended; what has been delivered is acknowledged. -/
structure NoEventLost (s : ClientSnapshot) : Prop where
  kept : ∀ event, (appendedEvents s.log).count event ≤
    (bufferedEvents s.store.telemetryBuffer).count event + (deliveredEvents s.log).count event
  acknowledged : ∀ event ∈ deliveredEvents s.log, Acknowledged event s.log

/-- The last read of the buffer, after one more call. -/
def readAfter (last : Option (Option (List StoredItem))) :
    ClientTold → Option (Option (List StoredItem))
  | ⟨.getBufferedEvents, .ok stored⟩ => some stored
  | _ => last

/-- The answer of the last read of the buffer. -/
def lastRead (past : List ClientTold) : Option (Option (List StoredItem)) :=
  past.foldl readAfter none

/-- The event is read back as it is. -/
def UsageEventPayload.Readable (event : UsageEventPayload) : Prop :=
  normalizeBufferedUsageEvent event.stored = some event

instance (event : UsageEventPayload) : Decidable event.Readable :=
  inferInstanceAs (Decidable (_ = _))

/-- An appended event can be read back. -/
def BufferWrite.readable : BufferWrite → Bool
  | .append event _ => event.Readable
  | .flushed _ _ => true

/-- The buffer has room for the event that is appended. -/
def fits (s : ClientSnapshot) : Label ClientError ClientRequest → Bool
  | .step pid =>
    match s.procs[pid]? with
    | some (_, .call (.setBufferedEvents (.append _ _)) _) =>
      (bufferedEvents s.store.telemetryBuffer).length < 100
    | _ => true
  | _ => true

/-- A write finds the buffer as its operation has read it; an appended event can be read
back. -/
def undisturbed (s : ClientSnapshot) : Label ClientError ClientRequest → Bool
  | .step pid =>
    match s.procs[pid]? with
    | some (_, .call (.setBufferedEvents write) _) =>
      lastRead (history pid s.log) = some s.store.telemetryBuffer ∧ write.readable
    | _ => true
  | _ => true

/-! ## What an operation writes -/

/-- What a write makes of the stored buffer. -/
def BufferWrite.Follows (past : List ClientTold) (stored : Option (List StoredItem)) :
    BufferWrite → Prop
  | .append event events =>
    let next := bufferedEvents stored ++ [event]
    events = if next.length > 100 then next.drop (next.length - 100) else next
  | .flushed delivered remaining =>
    bufferedEvents stored = delivered ++ remaining ∧
      ∀ event ∈ delivered, ∃ token, ⟨.receive (.usageEvent token event) true, .ok ()⟩ ∈ past

/-- A write follows the last read. -/
def bufferCalls (past : List ClientTold) : ClientCall → Prop
  | .setBufferedEvents write => ∃ stored, lastRead past = some stored ∧ write.Follows past stored
  | _ => True

abbrev anyAnswer : (op : ClientCall) → Except ClientError op.Res → Prop := fun _ _ => True

theorem lastRead_append (past : List ClientTold) (t : ClientTold) :
    lastRead (past ++ [t]) = readAfter (lastRead past) t := by
  unfold lastRead
  rw [List.foldl_append]
  rfl

variable {past : List ClientTold}

theorem lastRead_of_noBuffer {op : ClientCall}
    (hop : op.touchesBuffer = false) (r : Except ClientError op.Res) :
    lastRead (past ++ [⟨op, r⟩]) = lastRead past := by
  rw [lastRead_append]
  cases op with
  | getBufferedEvents => cases hop
  | _ => rfl

theorem bufferCalls_of_noBuffer (past : List ClientTold) {op : ClientCall}
    (hop : op.touchesBuffer = false) : bufferCalls past op := by
  cases op with
  | setBufferedEvents write => cases hop
  | _ => trivial

section Programs

variable {α : Type} {J : List ClientTold → Prop}

/-- A program that leaves the buffer alone keeps what is known of it. -/
theorem NoBuffer.maintains {p : ClientProg α} (hp : NoBuffer p)
    (hJ : ∀ past op r, op.touchesBuffer = false → J past → J (past ++ [⟨op, r⟩])) :
    p.Maintains anyAnswer bufferCalls J := by
  grind [bufferCalls_of_noBuffer, Prog.maintains_of_safe]

theorem getBufferedEvents_ensures {past : List ClientTold} :
    getBufferedEvents.Ensures anyAnswer bufferCalls (fun past' r => ∀ events, r = .ok events →
        ∃ stored, lastRead past' = some stored ∧ bufferedEvents stored = events) past := by
  refine ⟨trivial, ?_⟩
  intro r _
  cases r with
  | ok stored =>
    intro events hevs
    refine ⟨stored, ?_, Except.ok.inj hevs⟩
    rw [lastRead_append]
    rfl
  | error e =>
    intro events hevs
    cases hevs

theorem appendBufferedEvent_maintains (event : UsageEventPayload) :
    (appendBufferedEvent event).Maintains anyAnswer bufferCalls fun _ => True := by
  intro past _
  refine ensures_bind getBufferedEvents_ensures ?_ fun _ _ _ => trivial
  intro past' current hread
  rcases hread current rfl with ⟨stored, hlast, hcurrent⟩
  refine Prog.ensures_await ⟨stored, hlast, ?_⟩ fun _ _ => trivial
  unfold BufferWrite.Follows
  rw [hcurrent]

variable (dates : DateFunctions)

theorem refreshInstallationSessionWithDedup_noBuffer (session : InstallationTokenSession) :
    NoBuffer (refreshInstallationSessionWithDedup session) := by
  have hreq : NoBuffer (refreshInstallationSessionRequest session.token) := by
    refine Prog.safe_bind (fetcher_safe rfl fun _ => rfl) ?_
    intro refreshed
    exact safe_await_bind rfl fun _ _ => trivial
  have hclear : NoBuffer (refreshOrClear session) := by
    refine Prog.safe_handle hreq ?_
    intro error
    split
    · exact safe_await_bind rfl fun _ _ => trivial
    · trivial
  refine safe_await_bind rfl ?_
  intro entry _
  cases entry with
  | joined id => exact Prog.safe_await rfl
  | started id =>
    refine Prog.safe_bind (attempt_safe hclear) ?_
    intro outcome
    refine safe_await_bind rfl fun _ _ => ?_
    refine safe_await_bind rfl fun _ _ => ?_
    cases outcome with
    | ok refreshed | error e => trivial

theorem ensureValidInstallationSession_noBuffer (forceRefresh : Bool) :
    NoBuffer (ensureValidInstallationSession dates forceRefresh) := by
  refine Prog.safe_bind (safe_await_bind rfl fun _ _ => trivial) ?_
  intro stored
  cases stored with
  | none => trivial
  | some session =>
    refine safe_await_bind rfl ?_
    intro nowMs _
    dsimp only
    split
    · refine Prog.safe_handle (refreshInstallationSessionWithDedup_noBuffer session) ?_
      intro error
      split <;> trivial
    · trivial

/-- The operations write what follows from what they have read. -/
theorem buffer_parts : PartsMaintain dates anyAnswer bufferCalls fun _ => True where
  plain := fun hp => hp.noBuffer.maintains fun _ _ _ _ h => h
  read := fun _ _ => Prog.Ensures.mono (fun _ _ _ => trivial) getBufferedEvents_ensures
  append := appendBufferedEvent_maintains
  ensure := fun forceRefresh =>
    (ensureValidInstallationSession_noBuffer dates forceRefresh).maintains fun _ _ _ _ h => h

end Programs

/-! ## Reading back -/

theorem normalizeTrimmedValue_some {value : Option String} {normalized : String}
    (h : normalizeTrimmedValue value = some normalized) :
    normalizeTrimmedValue (some normalized) = some normalized := by
  rcases Option.filter_eq_some_iff.mp h with ⟨hmap, hne⟩
  rcases Option.map_eq_some_iff.mp hmap with ⟨raw, -, rfl⟩
  unfold normalizeTrimmedValue
  rw [Option.map_some, jsTrim_jsTrim]
  exact Option.filter_eq_some_iff.mpr ⟨rfl, hne⟩

variable {event : UsageEventPayload}

/-- What has been read can be read back. -/
theorem readable_of_normalized {item : StoredItem}
    (h : normalizeBufferedUsageEvent item = some event) : event.Readable := by
  cases item with
  | other => cases h
  | record installationId eventType occurredAt payload =>
    simp only [normalizeBufferedUsageEvent, Option.bind_eq_bind, Option.bind_eq_some_iff,
      Option.pure_def, Option.some.injEq] at h
    rcases h with ⟨id, hid, type, htype, date, hdate, members, -, rfl⟩
    unfold UsageEventPayload.Readable UsageEventPayload.stored normalizeBufferedUsageEvent
    simp only [normalizeTrimmedValue_some hid, normalizeTrimmedValue_some htype,
      normalizeTrimmedValue_some hdate]
    rfl

theorem readable_of_buffered {stored : Option (List StoredItem)}
    (h : event ∈ bufferedEvents stored) : event.Readable := by
  rcases List.mem_filterMap.mp h with ⟨item, -, hitem⟩
  exact readable_of_normalized hitem

theorem bufferedEvents_storedBuffer {events : List UsageEventPayload}
    (h : ∀ event ∈ events, event.Readable) : bufferedEvents (storedBuffer events) = events := by
  have hread : (events.map UsageEventPayload.stored).filterMap normalizeBufferedUsageEvent =
      events := by
    rw [List.filterMap_map]
    refine (List.filterMap_congr ?_).trans List.filterMap_some
    intro event hev
    exact h event hev
  unfold storedBuffer
  by_cases hempty : events = []
  · rw [hempty]
    rfl
  · rw [if_neg hempty]
    exact hread


/-! ## A flush -/

/-- More calls, and no read of the buffer among them. -/
structure Later (past past' : List ClientTold) : Prop where
  read : lastRead past' = lastRead past
  told : ∀ t ∈ past, t ∈ past'

theorem Later.refl (past : List ClientTold) : Later past past := ⟨rfl, fun _ h => h⟩

variable {past' : List ClientTold}

theorem Later.trans {past'' : List ClientTold} (h : Later past past')
    (h' : Later past' past'') : Later past past'' :=
  ⟨h'.read.trans h.read, fun t ht => h'.told t (h.told t ht)⟩

theorem Later.call (h : Later past past') (op : ClientCall)
    (hop : op.touchesBuffer = false) (r : Except ClientError op.Res) :
    Later past (past' ++ [⟨op, r⟩]) :=
  ⟨(lastRead_of_noBuffer hop r).trans h.read, fun t ht => List.mem_append_left _ (h.told t ht)⟩

theorem NoBuffer.later {α : Type} {p : ClientProg α} (hp : NoBuffer p) (past : List ClientTold) :
    p.Ensures anyAnswer bufferCalls (fun past' _ => Later past past') past := by
  have hJ : ∀ past' op r, ClientCall.touchesBuffer op = false → Later past past' →
      Later past (past' ++ [⟨op, r⟩]) := fun past' op r hop h => h.call op hop r
  exact hp.maintains hJ past (Later.refl past)

/-- The event was acknowledged to this operation. -/
def AcknowledgedTo (past : List ClientTold) (event : UsageEventPayload) : Prop :=
  ∃ token, ⟨.receive (.usageEvent token event) true, .ok ()⟩ ∈ past

theorem postUsageEvent_ensures (token : String) (event : UsageEventPayload)
    (past : List ClientTold) :
    (postUsageEvent token event).Ensures anyAnswer bufferCalls
      (fun past' r => Later past past' ∧ ∀ result, r = .ok result → AcknowledgedTo past' event)
      past := by
  refine ⟨trivial, ?_⟩
  intro r _
  have hsent := (Later.refl past).call (.send (.usageEvent token event)) rfl r
  cases r with
  | error e => exact ⟨hsent, fun _ h => by cases h⟩
  | ok reply =>
    refine ⟨trivial, ?_⟩
    intro r _
    have hrecv := hsent.call (.receive (.usageEvent token event) reply.isOk) rfl r
    cases r with
    | error e => exact ⟨hrecv, fun _ h => by cases h⟩
    | ok _ =>
      cases reply with
      | error message => exact ⟨hrecv, fun _ h => by cases h⟩
      | ok answer =>
        exact ⟨hrecv, fun _ _ => ⟨token, List.mem_append_right _ (List.mem_singleton.mpr rfl)⟩⟩

/-- The loop splits the events into delivered and remaining ones. -/
theorem flushEvents_ensures (token : String) (events : List UsageEventPayload)
    (past : List ClientTold) :
    (flushEvents token events).Ensures anyAnswer bufferCalls
      (fun past' r => Later past past' ∧ ∃ flushed, r = .ok flushed ∧
        events = flushed.1.map fst ++ flushed.2 ∧
        ∀ event ∈ flushed.1.map fst, AcknowledgedTo past' event) past := by
  induction events generalizing past with
  | nil => exact ⟨Later.refl past, ([], []), rfl, rfl, by simp⟩
  | cons event rest ih =>
    refine ensures_bind (attempt_ensures (postUsageEvent_ensures token event past)) ?_ ?_
    · rintro past' sent ⟨sent', hsent', hlater, hack⟩
      obtain rfl := Except.ok.inj hsent'
      cases sent with
      | error e => exact ⟨hlater, ([], event :: rest), rfl, rfl, by simp⟩
      | ok result =>
        refine ensures_bind (ih past') ?_ ?_
        · rintro past'' flushed ⟨hlater', flushed', hflushed', hrest, hacks⟩
          obtain rfl := Except.ok.inj hflushed'
          refine ⟨hlater.trans hlater', _, rfl, ?_, ?_⟩
          · rw [List.map_cons, List.cons_append, ← hrest]
          intro delivered hdelivered
          rcases List.mem_cons.mp hdelivered with rfl | hmem
          · rcases hack result rfl with ⟨token', htold⟩
            exact ⟨token', hlater'.told _ htold⟩
          · exact hacks delivered hmem
        · rintro past'' e ⟨-, _, h, -⟩
          cases h
    · rintro past' e ⟨_, h, -⟩
      cases h

section Code

variable (dates : DateFunctions)

/-- The events of a flush, whichever session it was made with. -/
theorem flushBufferedEvents_ensures (events : List UsageEventPayload) (past : List ClientTold) :
    (flushBufferedEvents dates events).Ensures anyAnswer bufferCalls
      (fun past' r => Later past past' ∧ ∀ flushed, r = .ok flushed →
        events = flushed.delivered.map fst ++ flushed.remaining ∧
          ∀ event ∈ flushed.delivered.map fst, AcknowledgedTo past' event) past := by
  have hensure := (ensureValidInstallationSession_noBuffer dates false).later past
  refine ensures_bind hensure ?_ ?_
  · intro past' session hlater
    refine Prog.ensures_handle (P := fun past'' r => Later past past'' ∧
      ∃ flushed : FlushResult, r = .ok flushed ∧
        events = flushed.delivered.map fst ++ flushed.remaining ∧
          ∀ event ∈ flushed.delivered.map fst, AcknowledgedTo past'' event) ?_ ?_ ?_
    · refine ensures_bind (flushEvents_ensures session.token events past') ?_ ?_
      · rintro past'' flushed ⟨hlater', flushed', hflushed', hevs, hacks⟩
        obtain rfl := Except.ok.inj hflushed'
        exact ⟨hlater.trans hlater', _, rfl, hevs, hacks⟩
      · rintro past'' e ⟨-, _, h, -⟩
        cases h
    · simp
    · rintro past'' e ⟨-, _, h, -⟩
      cases h
  · grind

theorem flushBufferedEventsFromState_maintains :
    (flushBufferedEventsFromState dates).Maintains anyAnswer bufferCalls fun _ => True := by
  intro past _
  refine ensures_bind getBufferedEvents_ensures ?_ fun _ _ _ => trivial
  intro past' events hread
  rcases hread events rfl with ⟨stored, hlast, hevs⟩
  split
  · trivial
  refine ensures_bind (flushBufferedEvents_ensures dates events past') ?_ fun _ _ _ => trivial
  rintro past'' flushed ⟨hlater, hflushed⟩
  rcases hflushed flushed rfl with ⟨hsplit, hacks⟩
  refine ensures_bind (P := fun _ _ => True) (Prog.ensures_await ?_ fun _ _ => trivial)
    (fun _ _ _ => trivial) fun _ _ _ => trivial
  exact ⟨stored, hlater.read.trans hlast, hevs.trans hsplit, hacks⟩

theorem clientCode_upholds (req : ClientRequest) :
    (clientCode dates req).Upholds anyAnswer bufferCalls (fun _ _ => True) [] := by
  have hreply : ∀ {α : Type} {p : ClientProg α} (f : α → ClientReply),
      p.Maintains anyAnswer bufferCalls (fun _ => True) →
        (do return f (← p) : ClientProg ClientReply).Upholds anyAnswer bufferCalls
          (fun _ _ => True) [] := by
    intro α p f hp
    have hensures : (p >>= fun a => Prog.ret (f a)).Ensures anyAnswer bufferCalls
        (fun _ _ => True) [] :=
      ensures_bind (hp [] trivial) (fun _ _ _ => trivial) fun _ _ _ => trivial
    exact hensures.upholds
  have hparts := buffer_parts dates
  cases req with
  | refreshBootstrap input => exact hreply _ (hparts.refreshBootstrap input)
  | sendUsageEvent input => exact hreply _ (hparts.sendUsageEvent input)
  | sendRuntimeError input => exact hreply _ (hparts.sendUsageEvent _)
  | flushBufferedEventsFromState => exact hreply _ (flushBufferedEventsFromState_maintains dates)
  | refreshInstallationSession => exact hreply _ (hparts.ensure true)
  | tokenExpires token | timePasses ms => exact ⟨trivial, fun r _ => by cases r <;> trivial⟩

end Code

/-! ## A run -/

section Run

variable {dates : DateFunctions}

/-- The invariant of the undisturbed runs. -/
structure TelemetryInv (s : ClientSnapshot) : Prop where
  calls : Machine.Kept anyAnswer (fun _ => bufferCalls) (fun _ _ _ => True) s
  kept : ∀ event, (appendedEvents s.log).count event ≤
    (bufferedEvents s.store.telemetryBuffer).count event + (deliveredEvents s.log).count event

theorem appendedEvents_append (log : List ClientEvent) (e : ClientEvent) :
    appendedEvents (log ++ [e]) = appendedEvents log ++ appendedEvents [e] :=
  List.filterMap_append

theorem deliveredEvents_append (log : List ClientEvent) (e : ClientEvent) :
    deliveredEvents (log ++ [e]) = deliveredEvents log ++ deliveredEvents [e] :=
  List.flatMap_append

theorem exec_telemetryBuffer {op : ClientCall} (hop : ∀ write, op ≠ .setBufferedEvents write)
    (s : ClientStore) : (op.exec s).2.telemetryBuffer = s.telemetryBuffer := by
  cases op with
  | setBufferedEvents write => exact absurd rfl (hop write)
  | enterRefresh token =>
    simp only [ClientCall.exec]
    split <;> rfl
  | awaitRefresh id =>
    simp only [ClientCall.exec]
    split <;> rfl
  | _ => rfl

variable {s : ClientSnapshot}

section

variable (h : TelemetryInv s)
include h

/-- A call that is no write of the buffer, or has failed, changes none of the counts. -/
theorem kept_of_other (pid : ℕ) {op : ClientCall}
    {r : Except ClientError op.Res} {store : ClientStore}
    (hstore : store.telemetryBuffer = s.store.telemetryBuffer)
    (hop : (∀ write, op ≠ .setBufferedEvents write) ∨ ∃ e, r = .error e)
    (event : UsageEventPayload) :
    (appendedEvents (s.log ++ [⟨pid, op, r⟩])).count event ≤
      (bufferedEvents store.telemetryBuffer).count event +
        (deliveredEvents (s.log ++ [⟨pid, op, r⟩])).count event := by
  have hnone : appendedEvents [⟨pid, op, r⟩] = [] ∧ deliveredEvents [⟨pid, op, r⟩] = [] := by
    rcases hop with hop | ⟨e, rfl⟩
    · cases op with
      | setBufferedEvents write => exact absurd rfl (hop write)
      | _ => exact ⟨rfl, rfl⟩
    cases op with
    | setBufferedEvents write => cases write <;> exact ⟨rfl, rfl⟩
    | _ => exact ⟨rfl, rfl⟩
  rw [appendedEvents_append, deliveredEvents_append, hnone.1, hnone.2, List.append_nil,
    List.append_nil, hstore]
  exact h.kept event

/-- A write that finds the buffer as it was read. -/
theorem kept_of_write (pid : ℕ) {write : BufferWrite}
    {past : List ClientTold} (hfollows : write.Follows past s.store.telemetryBuffer)
    (hreadable : write.readable = true) (hfits : ∀ event events, write = .append event events →
      (bufferedEvents s.store.telemetryBuffer).length < 100)
    (event : UsageEventPayload) :
    (appendedEvents (s.log ++ [⟨pid, .setBufferedEvents write, .ok ()⟩])).count event ≤
      (bufferedEvents (storedBuffer write.events)).count event +
        (deliveredEvents (s.log ++ [⟨pid, .setBufferedEvents write, .ok ()⟩])).count event := by
  have hkept := h.kept event
  have hold : ∀ e ∈ bufferedEvents s.store.telemetryBuffer, e.Readable :=
    fun e he => readable_of_buffered he
  rw [appendedEvents_append, deliveredEvents_append, List.count_append, List.count_append]
  cases write with
  | append appended events =>
    have hnew : appended.Readable := by simpa [BufferWrite.readable] using hreadable
    have hevs : events = bufferedEvents s.store.telemetryBuffer ++ [appended] := by
      grind [BufferWrite.Follows]
    have hall : ∀ e ∈ events, e.Readable := by grind
    have hone : appendedEvents
        [⟨pid, .setBufferedEvents (.append appended events), .ok ()⟩] = [appended] := rfl
    have hread : bufferedEvents (storedBuffer (BufferWrite.append appended events).events) =
        bufferedEvents s.store.telemetryBuffer ++ [appended] :=
      (bufferedEvents_storedBuffer hall).trans hevs
    rw [hone, hread, List.count_append]
    omega
  | flushed delivered remaining =>
    rcases hfollows with ⟨hsplit, -⟩
    have hall : ∀ e ∈ remaining, e.Readable := by grind
    have hnone : appendedEvents
        [⟨pid, .setBufferedEvents (.flushed delivered remaining), .ok ()⟩] = [] := rfl
    have hdelivered : deliveredEvents
        [⟨pid, .setBufferedEvents (.flushed delivered remaining), .ok ()⟩] = delivered := by
      simp [deliveredEvents]
    have hread : bufferedEvents (storedBuffer (BufferWrite.flushed delivered remaining).events) =
        remaining := bufferedEvents_storedBuffer hall
    rw [hsplit, List.count_append] at hkept
    rw [hnone, hdelivered, hread]
    simp only [List.count_nil]
    omega

theorem TelemetryInv.next {s' : ClientSnapshot} {l : Label ClientError ClientRequest}
    (hfits : fits s l = true) (hundisturbed : undisturbed s l = true)
    (hnext : (clientMachine dates).next l s = some s') : TelemetryInv s' := by
  have hcalls := h.calls.next (fun _ _ => trivial) (fun _ _ => trivial)
    (clientCode_upholds dates) hnext
  refine ⟨hcalls, ?_⟩
  rcases (clientMachine dates).next_cases hnext with ⟨req, rfl, rfl⟩ |
    ⟨pid, req, op, k, rfl, hp, rfl⟩ | ⟨pid, e, req, op, k, rfl, hp, rfl⟩
  · exact h.kept
  · by_cases hwrite : ∃ write, op = .setBufferedEvents write
    · rcases hwrite with ⟨write, rfl⟩
      rcases (h.calls.procs pid _ hp).1 with ⟨stored, hlast, hfollows⟩
      simp only [undisturbed, hp, decide_eq_true_eq, hlast, Option.some.injEq] at hundisturbed
      rcases hundisturbed with ⟨hstored, hreadable⟩
      rw [hstored] at hfollows
      refine kept_of_write h pid hfollows hreadable ?_
      rintro event events rfl
      simpa [fits, hp] using hfits
    · have hother : ∀ write, op ≠ .setBufferedEvents write := by
        rintro write rfl
        exact hwrite ⟨write, rfl⟩
      exact kept_of_other h pid (exec_telemetryBuffer hother s.store) (.inl hother)
  · exact kept_of_other h pid rfl (.inr ⟨e, rfl⟩)

/-- What a flush has removed was acknowledged to it. -/
theorem TelemetryInv.acknowledged
    {event : UsageEventPayload} (hev : event ∈ deliveredEvents s.log) :
    Acknowledged event s.log := by
  rcases List.mem_flatMap.mp hev with ⟨e, he, hmem⟩
  rcases e with ⟨pid, op, r⟩
  rcases List.mem_iff_getElem?.mp he with ⟨i, hi⟩
  rcases h.calls.events i _ hi with ⟨q, -, hG⟩
  cases op with
  | setBufferedEvents write =>
    cases write with
    | append appended events => cases r <;> cases hmem
    | flushed delivered remaining =>
      cases r with
      | error e => cases hmem
      | ok _ =>
        rcases hG with ⟨stored, -, -, hacks⟩
        rcases hacks event hmem with ⟨token, htold⟩
        exact ⟨pid, token, List.mem_of_mem_take (mem_history.mp htold)⟩
  | _ => cases hmem

end

/-- While every write finds the buffer as it was read, and the buffer has room, no
appended event is lost. -/
theorem appended_events_kept (dates : DateFunctions) (store : ClientStore) {s : ClientSnapshot}
    (h : (clientMachine dates).Reaches
      (fun s l => possible s l ∧ fits s l ∧ undisturbed s l) (initial store) s) :
    NoEventLost s := by
  have hinv : TelemetryInv s := by
    refine Machine.Reaches.invariant _ ?_ h ⟨Machine.Kept.initial store, ?_⟩
    · rintro s l s' ⟨-, hfits, hundisturbed⟩ hnext hs
      exact hs.next hfits hundisturbed hnext
    · intro event
      exact Nat.zero_le _
  exact ⟨hinv.kept, fun event hevent => hinv.acknowledged hevent⟩

end Run

/-- The dates of the runs below: a session that expires on 2 January 2026, read on the
day before. -/
def newYear : DateFunctions where
  parse text := if text = "2026-01-02T00:00:00.000Z" then some 1767312000000 else none
  toISOString _ := "2026-01-01T00:00:00.000Z"

def connectedStore : ClientStore where
  installationId := some "inst_1"
  installationSession := some ⟨"token-1", "2026-01-02T00:00:00.000Z", 3600⟩
  bootstrapCache := none
  bootstrapFetchedAt := none
  telemetryBuffer := none
  refreshes := []
  installationSessionRefreshPromise := none
  server := ⟨["token-1"], ["token-1"], none, "2026-01-02T00:00:00.000Z", ⟨""⟩⟩
  now := 1767225600000
  randomValues := 0

/-- An event of the given type. -/
def sendNow (eventType : String) : ClientRequest :=
  .sendUsageEvent ⟨eventType, [], some "2026-01-01T00:00:00.000Z", true⟩

def eventNow (eventType : String) : UsageEventPayload :=
  ⟨"inst_1", eventType, "2026-01-01T00:00:00.000Z", []⟩

/-- An event that could not be sent is buffered, and delivered by a flush. -/
def bufferedThenFlushed : List (Label ClientError ClientRequest) :=
  [.start (sendNow "opened"), .step 0, .step 0, .step 0, .fail 0 (.other "offline"), .step 0,
    .step 0, .start .flushBufferedEventsFromState] ++ List.replicate 6 (.step 1)

theorem appended_events_kept_flushed :
    ∃ s, (clientMachine newYear).Reaches (fun s l => possible s l ∧ fits s l ∧ undisturbed s l)
        (initial connectedStore) s ∧
      appendedEvents s.log = [eventNow "opened"] ∧
        bufferedEvents s.store.telemetryBuffer = [] ∧ NoEventLost s := by
  have hrun : ((clientMachine newYear).trace
      (fun s l => possible s l && (fits s l && undisturbed s l)) bufferedThenFlushed
      (initial connectedStore)).map (fun s =>
        decide (appendedEvents s.log = [eventNow "opened"] ∧
          bufferedEvents s.store.telemetryBuffer = [])) = some true := by
    decide +kernel
  rcases (clientMachine newYear).reaches_of_trace_check hrun with ⟨s, hreaches, hend⟩
  have hreaches' := Machine.Reaches.mono _ (fun s l h => by simpa using h) hreaches
  rw [decide_eq_true_eq] at hend
  exact ⟨s, hreaches', hend.1, hend.2, appended_events_kept newYear connectedStore hreaches'⟩

/-- Two events are buffered for want of a session; both have read the empty buffer. -/
def appendedTogether : List (Label ClientError ClientRequest) :=
  [.start (sendNow "opened"), .start (sendNow "closed"), .step 0, .step 0, .step 0, .step 1,
    .step 1, .step 1, .step 0, .step 1, .step 0, .step 0, .step 0, .step 0, .step 1]

/-- The second write overwrites the first one. -/
theorem append_overwritten :
    ∃ s, (clientMachine newYear).Reaches (fun s l => possible s l ∧ fits s l)
        (initial { connectedStore with installationSession := none }) s ∧
      s.quiescent = true ∧ eventNow "opened" ∈ appendedEvents s.log ∧
        eventNow "opened" ∉ bufferedEvents s.store.telemetryBuffer ∧
          ¬ Acknowledged (eventNow "opened") s.log := by
  have hrun : ((clientMachine newYear).trace (fun s l => possible s l && fits s l)
      appendedTogether (initial { connectedStore with installationSession := none })).map
      (fun s => decide (s.quiescent = true ∧ eventNow "opened" ∈ appendedEvents s.log ∧
        eventNow "opened" ∉ bufferedEvents s.store.telemetryBuffer) &&
          s.log.all fun e => match e.op with
            | .receive _ _ => false
            | _ => true) = some true := by
    decide +kernel
  rcases (clientMachine newYear).reaches_of_trace_check hrun with ⟨s, hreaches, hend⟩
  have hreaches' := Machine.Reaches.mono _ (fun s l h => by simpa using h) hreaches
  rw [Bool.and_eq_true, decide_eq_true_eq] at hend
  rcases hend with ⟨⟨hquiescent, happended, hlost⟩, hlog⟩
  refine ⟨s, hreaches', hquiescent, happended, hlost, ?_⟩
  rintro ⟨pid, token, hack⟩
  have hnone := List.all_eq_true.mp hlog _ hack
  cases hnone

end QuizMind.Client
