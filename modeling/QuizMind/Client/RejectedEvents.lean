import QuizMind.Client.SessionRefresh

/-! # A flush past rejected events

One flush alone, with a server that rejects some events for good. The flush stops at the first
rejected event, to keep the order: the events before it are delivered, the rejected one and
everything behind it stay in the buffer (`flush_stops_at_rejection`).
-/

namespace QuizMind.Client

open Async
open Prod (fst)
open Prog (run_bind run_handle tryCatch_eq)

/-! ## A server that rejects events -/

/-- A reply with a status from which the client does not try again: neither a 401 nor a 429. -/
structure Rejection where
  message : Option String
  status : ℕ
  client : 400 ≤ status ∧ status < 500
  final : status ≠ 401 ∧ status ≠ 429

/-- What `postUsageEvent` throws for the reply. -/
def Rejection.error (rejection : Rejection) : ClientError :=
  let status := rejection.status
  .request (resolveErrorMessage rejection.message
    (s!"Unable to send usage event (status {status}).")) status false

/-- What the server says of each event. -/
abbrev Verdict := UsageEventPayload → Option Rejection

def accepts (verdict : Verdict) (event : UsageEventPayload) : Bool := (verdict event).isNone

/-- The calls of the client, with that server. -/
def answering (verdict : Verdict) :
    (op : ClientCall) → ClientStore → Except ClientError op.Res × ClientStore
  | .send (.usageEvent token event), s =>
    match verdict event with
    | some rejection =>
      if token ∈ s.server.accepted then
        (.error rejection.error, { s with server := s.server.knowing token })
      else ClientCall.exec (.send (.usageEvent token event)) s
    | none => ClientCall.exec (.send (.usageEvent token event)) s
  | op, s => ClientCall.exec op s

/-- There is a session that the server accepts, and no refresh is under way. -/
structure ValidSession (s : ClientStore) : Prop where
  session : ∃ session, readSession s.installationSession = some session ∧
    session.token ∈ s.server.accepted
  idle : s.installationSessionRefreshPromise = none

section Runs

variable (verdict : Verdict) {s : ClientStore} {token : String}

/-- A token has been presented, and nothing else has changed. -/
structure Presented (s s' : ClientStore) : Prop where
  accepted : s'.server.accepted = s.server.accepted
  telemetryBuffer : s'.telemetryBuffer = s.telemetryBuffer

theorem Presented.trans {s s' s'' : ClientStore} (h : Presented s s') (h' : Presented s' s'') :
    Presented s s'' :=
  ⟨h'.accepted.trans h.accepted, h'.telemetryBuffer.trans h.telemetryBuffer⟩

/-- A request whose reply arrives. -/
theorem fetcher_run {request : PlatformRequest} (fallback : String) {s s' : ClientStore}
    {reply : Except (Option String) request.Answer}
    (hsend : answering verdict (.send request) s = (.ok reply, s')) :
    (fetcher request fallback).run (answering verdict) [] s = (reply.mapError fun message =>
        .request (resolveErrorMessage message fallback) 401 false, s') := by
  refine (Prog.run_await_bind (answering verdict) (.send request) _ [] s).trans ?_
  rw [hsend]
  cases reply with
  | ok answer => rfl
  | error message => rfl

/-- An event is ingested exactly if the server accepts it. -/
theorem postUsageEvent_run (htok : token ∈ s.server.accepted) (event : UsageEventPayload) :
    ∃ s' outcome, Presented s s' ∧ outcome.isOk = accepts verdict event ∧
      (postUsageEvent token event).run (answering verdict) [] s = (outcome, s') := by
  cases hverdict : verdict event with
  | some rejection =>
    have hsent : answering verdict (.send (.usageEvent token event)) s =
        (.error rejection.error, { s with server := s.server.knowing token }) := by
      simp only [answering, hverdict, if_pos htok]
    refine ⟨{ s with server := s.server.knowing token }, .error rejection.error, ⟨rfl, rfl⟩, ?_, ?_⟩
    · simp only [accepts, hverdict]
      rfl
    refine (Prog.run_await_bind (answering verdict) (.send (.usageEvent token event)) _ []
      s).trans ?_
    rw [hsent]
    rfl
  | none =>
    have hsent : answering verdict (.send (.usageEvent token event)) s =
        (.ok (.ok ⟨true⟩), { s with server := s.server.knowing token }) := by
      simp only [answering, hverdict, ClientCall.exec, Server.handle, if_pos htok]
    refine ⟨{ s with server := s.server.knowing token }, .ok ⟨true⟩, ⟨rfl, rfl⟩, ?_, ?_⟩
    · simp only [accepts, hverdict]
      rfl
    · exact fetcher_run verdict _ hsent

/-- The loop delivers the events before the first rejected one. -/
theorem flushEvents_run (htok : token ∈ s.server.accepted) (events : List UsageEventPayload) :
    ∃ s' delivered, Presented s s' ∧ (flushEvents token events).run (answering verdict) [] s =
        (.ok (delivered, events.dropWhile (accepts verdict)), s') ∧
      delivered.map fst = events.takeWhile (accepts verdict) := by
  induction events generalizing s with
  | nil => exact ⟨s, [], ⟨rfl, rfl⟩, rfl, rfl⟩
  | cons event rest ih =>
    obtain ⟨s', outcome, hpresented, haccepts, hrun⟩ :=
      postUsageEvent_run verdict htok event
    have hattempt : (attempt (postUsageEvent token event)).run (answering verdict) [] s =
        (.ok outcome, s') := by
      unfold attempt
      rw [tryCatch_eq, run_handle, run_bind, hrun]
      cases outcome <;> rfl
    unfold flushEvents
    rw [run_bind]
    cases outcome with
    | error e =>
      -- the rejected event ends the loop
      have hrejected : accepts verdict event = false := haccepts.symm
      refine ⟨s', [], hpresented, ?_, ?_⟩
      · simp_all
      · grind [List.takeWhile_cons_of_neg]
    | ok result =>
      have hacc : accepts verdict event = true := haccepts.symm
      have htok' : token ∈ s'.server.accepted := by
        rw [hpresented.accepted]
        exact htok
      obtain ⟨s'', delivered, hpresented', hrest, hdelivered⟩ := ih htok'
      refine ⟨s'', (event, result) :: delivered, hpresented.trans hpresented', ?_, ?_⟩
      · simp_all [run_bind]
      · rw [List.takeWhile_cons_of_pos hacc, List.map_cons, hdelivered]

/-- The session of an operation is accepted, and the buffer is as it was. -/
structure Sessioned (s s' : ClientStore) (session : InstallationTokenSession) : Prop where
  accepted : session.token ∈ s'.server.accepted
  telemetryBuffer : s'.telemetryBuffer = s.telemetryBuffer

variable {session : InstallationTokenSession}

/-- The server gives a new session for an accepted one. -/
theorem refreshOrClear_run (h : session.token ∈ s.server.accepted) :
    ∃ s' refreshed, Sessioned s s' refreshed ∧ refreshed.token ≠ session.token ∧
      (refreshOrClear session).run (answering verdict) [] s = (.ok refreshed, s') := by
  have hsent : answering verdict (.send (.refreshSession session.token)) s =
      (.ok (.ok (s.server.rotate session.token).1),
        { s with server := (s.server.rotate session.token).2 }) := by
    simp only [answering, ClientCall.exec, Server.handle, if_pos h]
  have hreq : (refreshInstallationSessionRequest session.token).run (answering verdict) [] s =
      (.ok (s.server.rotate session.token).1,
        { s with
          server := (s.server.rotate session.token).2
          installationSession := some (s.server.rotate session.token).1 }) := by
    refine (run_bind (answering verdict) (fetcher (.refreshSession session.token) _) _ s).trans ?_
    rw [fetcher_run verdict _ hsent]
    rfl
  refine ⟨{ s with
      server := (s.server.rotate session.token).2
      installationSession := some (s.server.rotate session.token).1 },
    (s.server.rotate session.token).1, ⟨List.mem_cons_self, rfl⟩, ?_, ?_⟩
  · have hissued : (s.server.rotate session.token).1.token ∉ session.token :: s.server.known :=
      freshToken_notMem _
    exact fun heq => hissued (by rw [heq]; exact List.mem_cons_self)
  unfold refreshOrClear
  rw [tryCatch_eq, run_handle, hreq]
  rfl

theorem refreshInstallationSessionWithDedup_run
    (h : session.token ∈ s.server.accepted) (hidle : s.installationSessionRefreshPromise = none) :
    ∃ s' refreshed, Sessioned s s' refreshed ∧ refreshed.token ≠ session.token ∧
      (refreshInstallationSessionWithDedup session).run (answering verdict) [] s =
        (.ok refreshed, s') := by
  let entered : ClientStore :=
    { s with
      refreshes := s.refreshes ++ [none]
      installationSessionRefreshPromise := some s.refreshes.length }
  have hentered : answering verdict (.enterRefresh session.token) s =
      (.ok (.started s.refreshes.length), entered) := by
    simp only [answering, ClientCall.exec, hidle, entered]
  obtain ⟨s', refreshed, hsessioned, hfresh, hrun⟩ :=
    refreshOrClear_run verdict (s := entered) h
  have hattempt : (attempt (refreshOrClear session)).run (answering verdict) [] entered =
      (.ok (.ok refreshed), s') := by
    simp [run_handle, run_bind, hrun, attempt]
  refine ⟨{ s' with
      refreshes := s'.refreshes.set s.refreshes.length (some (.ok refreshed))
      installationSessionRefreshPromise := none }, refreshed,
    ⟨hsessioned.accepted, hsessioned.telemetryBuffer⟩, hfresh, ?_⟩
  refine (run_bind (answering verdict) (client (.enterRefresh session.token)) _ s).trans ?_
  rw [Prog.run_await, hentered]
  show (attempt (refreshOrClear session) >>= fun outcome => _).run (answering verdict) []
    entered = _
  rw [run_bind, hattempt]
  rfl

variable (dates : DateFunctions)

/-- With a valid session an operation gets one, whether it is refreshed or not. -/
theorem ensureValidInstallationSession_run (h : ValidSession s) :
    ∃ s' session, Sessioned s s' session ∧
      (ensureValidInstallationSession dates false).run (answering verdict) [] s =
        (.ok session, s') := by
  obtain ⟨⟨session, hread, hacc⟩, hidle⟩ := h
  have hget : getInstallationSession.run (answering verdict) [] s = (.ok (some session), s) := by
    show (Except.ok (readSession s.installationSession), s) = _
    rw [hread]
  unfold ensureValidInstallationSession
  rw [run_bind, hget]
  show ∃ s' session', _ ∧ Prog.run _ (ite _ _ _) [] s = _
  split
  · obtain ⟨s', refreshed, hsessioned, -, hrun⟩ :=
      refreshInstallationSessionWithDedup_run verdict hacc hidle
    refine ⟨s', refreshed, hsessioned, ?_⟩
    rw [tryCatch_eq, run_handle, hrun]
    rfl
  · exact ⟨s, session, ⟨hacc, rfl⟩, rfl⟩

/-- A flush alone, with a valid session: the events before the first rejected one are
delivered, and the others stay in the buffer in their order. -/
theorem flush_stops_at_rejection (dates : DateFunctions) (verdict : Verdict) {s : ClientStore}
    (h : ValidSession s) :
    ∃ flushed s', (flushBufferedEventsFromState dates).run (answering verdict) [] s =
        (.ok flushed, s') ∧
      flushed.delivered.map fst = (bufferedEvents s.telemetryBuffer).takeWhile (accepts verdict) ∧
      flushed.remaining = (bufferedEvents s.telemetryBuffer).dropWhile (accepts verdict) ∧
      flushed.delivered.map fst ++ flushed.remaining = bufferedEvents s.telemetryBuffer ∧
      bufferedEvents s'.telemetryBuffer = flushed.remaining := by
  have hget : getBufferedEvents.run (answering verdict) [] s =
      (.ok (bufferedEvents s.telemetryBuffer), s) := by
    rfl
  unfold flushBufferedEventsFromState
  rw [run_bind, hget, Prog.andThen_ok]
  by_cases hempty : bufferedEvents s.telemetryBuffer = []
  · simp [hempty]
  rw [if_neg hempty]
  obtain ⟨s', session, hsessioned, hensure⟩ :=
    ensureValidInstallationSession_run verdict dates h
  obtain ⟨s'', delivered, hpresented, hloop, hdelivered⟩ :=
    flushEvents_run verdict hsessioned.accepted (bufferedEvents s.telemetryBuffer)
  have hflush : (flushBufferedEvents dates (bufferedEvents s.telemetryBuffer)).run
      (answering verdict) [] s =
        (.ok ⟨delivered, (bufferedEvents s.telemetryBuffer).dropWhile (accepts verdict)⟩, s'') := by
    unfold flushBufferedEvents executeWithInstallationSession
    rw [run_bind, hensure, Prog.andThen_ok, tryCatch_eq, run_handle, run_bind, hloop]
    rfl
  have hsplit : delivered.map fst ++
      (bufferedEvents s.telemetryBuffer).dropWhile (accepts verdict) =
        bufferedEvents s.telemetryBuffer := by
    rw [hdelivered, List.takeWhile_append_dropWhile]
  refine ⟨⟨delivered, (bufferedEvents s.telemetryBuffer).dropWhile (accepts verdict)⟩,
    { s'' with telemetryBuffer :=
        storedBuffer ((bufferedEvents s.telemetryBuffer).dropWhile (accepts verdict)) },
    ?_, hdelivered, rfl, hsplit, ?_⟩
  · rw [run_bind, hflush]
    rfl
  -- what remains was read from the buffer, so that it can be read back
  refine bufferedEvents_storedBuffer ?_
  intro event hevent
  exact readable_of_buffered ((List.dropWhile_sublist _).subset hevent)

end Runs

/-- An event that the server takes, behind one that it rejects. -/
def poisonedStore : ClientStore :=
  { connectedStore with
    telemetryBuffer := storedBuffer [eventNow "poisoned", eventNow "opened"] }

def rejectsPoisoned : Verdict := fun event =>
  if event.eventType = "poisoned" then some ⟨none, 400, by decide, by decide⟩ else none

theorem validSession_poisoned : ValidSession poisonedStore where
  session := ⟨⟨"token-1", "2026-01-02T00:00:00.000Z", 3600⟩, by decide, by decide⟩
  idle := rfl

/-- The accepted event is not delivered. -/
theorem accepted_event_stays_buffered :
    ValidSession poisonedStore ∧ accepts rejectsPoisoned (eventNow "opened") = true ∧
      eventNow "opened" ∈ bufferedEvents ((flushBufferedEventsFromState newYear).run
        (answering rejectsPoisoned) [] poisonedStore).2.telemetryBuffer := by
  refine ⟨validSession_poisoned, by decide, ?_⟩
  decide +kernel

theorem flush_stops_at_rejection_poisoned :
    ∃ flushed s', (flushBufferedEventsFromState newYear).run (answering rejectsPoisoned) []
        poisonedStore = (.ok flushed, s') ∧
      flushed.delivered.map fst =
        (bufferedEvents poisonedStore.telemetryBuffer).takeWhile (accepts rejectsPoisoned) ∧
      flushed.remaining =
        (bufferedEvents poisonedStore.telemetryBuffer).dropWhile (accepts rejectsPoisoned) ∧
      flushed.delivered.map fst ++ flushed.remaining =
        bufferedEvents poisonedStore.telemetryBuffer ∧
      bufferedEvents s'.telemetryBuffer = flushed.remaining :=
  flush_stops_at_rejection newYear rejectsPoisoned validSession_poisoned

end QuizMind.Client
