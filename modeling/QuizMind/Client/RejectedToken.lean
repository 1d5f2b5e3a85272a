import QuizMind.Client.RejectedEvents

/-! # A flush with a rejected token

The event endpoint rejects the stored token, before the first event or between two; a refresh
is still granted. `executeWithInstallationSession` repeats a request that throws a 401, but the
loop of the flush does not throw: it returns what it has delivered, and the rest goes back into
the buffer. So everything is delivered only when the session was refreshed before the loop,
because it was about to expire (`flush_delivers_iff_refreshed`).
-/

namespace Async.Prog

/-- Two ways to answer that agree on the calls a program makes give the same run. -/
theorem run_congr_of_safe {Op : Type} {Res : Op → Type} {ε α σ : Type}
    {exec exec' : (op : Op) → σ → Except ε (Res op) × σ} {guar : Op → Prop} {p : Prog Op Res ε α}
    (hexec : ∀ op s, guar op → exec op s = exec' op s) (hp : p.Safe (fun _ _ => True) guar)
    (s : σ) : p.run exec [] s = p.run exec' [] s := by
  induction p generalizing s with
  | ret a => rfl
  | throw e => rfl
  | call op k ih =>
    rcases hp with ⟨hop, hk⟩
    rw [run_call_nil, hexec op s hop]
    exact ih _ (hk _ trivial) _

end Async.Prog

namespace QuizMind.Client

open Async

/-- The event endpoint takes the stale token as long as it was presented less than `limit`
times; every other request is handled as usual. -/
def rejecting (stale : String) (limit : ℕ) :
    (op : ClientCall) → ClientStore → Except ClientError op.Res × ClientStore
  | .send (.usageEvent token event), s =>
    if token = stale ∧ limit ≤ s.server.known.count stale then
      (.ok (.error s.server.unauthorizedMessage), { s with server := s.server.knowing token })
    else ClientCall.exec (.send (.usageEvent token event)) s
  | op, s => ClientCall.exec op s

/-- The stored session is granted a refresh, no refresh is under way, and the event endpoint
rejects its token at one of the buffered events. -/
structure TokenRejected (s : ClientStore) (session : InstallationTokenSession) (limit : ℕ) :
    Prop where
  stored : readSession s.installationSession = some session
  accepted : session.token ∈ s.server.accepted
  idle : s.installationSessionRefreshPromise = none
  notBefore : s.server.known.count session.token ≤ limit
  rejected : limit < s.server.known.count session.token + (bufferedEvents s.telemetryBuffer).length

/-- Every buffered event is delivered once, in order, and no event stays in the buffer. -/
def DeliversAll (dates : DateFunctions) (stale : String) (limit : ℕ) (s : ClientStore) : Prop :=
  ∃ flushed s', (flushBufferedEventsFromState dates).run (rejecting stale limit) [] s =
      (.ok flushed, s') ∧
    flushed.delivered.map Prod.fst = bufferedEvents s.telemetryBuffer ∧
    flushed.remaining = [] ∧ s'.telemetryBuffer = none

/-- The session is refreshed before it is used. -/
def AboutToExpire (dates : DateFunctions) (session : InstallationTokenSession) (s : ClientStore) :
    Prop :=
  ∃ expiresAtMs, dates.parse session.expiresAt = some expiresAtMs ∧
    expiresAtMs - s.now ≤ installationSessionRefreshWindowMs

section Runs

variable (stale : String) (limit : ℕ) {token : String} {s : ClientStore}

/-- An event is taken while the limit is not reached, or with another token. -/
theorem postUsageEvent_taken (hacc : token ∈ s.server.accepted)
    (hroom : token = stale → s.server.known.count stale < limit) (event : UsageEventPayload) :
    (attempt (postUsageEvent token event)).run (rejecting stale limit) [] s =
      (.ok (.ok ⟨true⟩), { s with server := s.server.knowing token }) := by
  have hsent : rejecting stale limit (.send (.usageEvent token event)) s =
      (.ok (.ok ⟨true⟩), { s with server := s.server.knowing token }) := by
    have hroom' : ¬ (token = stale ∧ limit ≤ s.server.known.count stale) :=
      fun h => absurd (hroom h.1) (not_lt.mpr h.2)
    simp only [rejecting, if_neg hroom', ClientCall.exec, Server.handle, if_pos hacc]
  have hpost : (postUsageEvent token event).run (rejecting stale limit) [] s =
      (.ok ⟨true⟩, { s with server := s.server.knowing token }) := by
    refine (Prog.run_await_bind (rejecting stale limit) (.send (.usageEvent token event)) _ []
      s).trans ?_
    rw [hsent]
    rfl
  rw [attempt, Prog.tryCatch_eq, Prog.run_handle, Prog.run_bind, hpost]
  rfl

theorem postUsageEvent_refused (hroom : limit ≤ s.server.known.count stale)
    (event : UsageEventPayload) :
    ∃ e, (attempt (postUsageEvent stale event)).run (rejecting stale limit) [] s =
      (.ok (.error e), { s with server := s.server.knowing stale }) := by
  have hsent : rejecting stale limit (.send (.usageEvent stale event)) s =
      (.ok (.error s.server.unauthorizedMessage), { s with server := s.server.knowing stale }) := by
    simp only [rejecting, if_pos (And.intro trivial hroom)]
  have hpost : (postUsageEvent stale event).run (rejecting stale limit) [] s =
      (.error (.request (resolveErrorMessage s.server.unauthorizedMessage
        "Unable to send usage event (status 401).") 401 false),
        { s with server := s.server.knowing stale }) := by
    refine (Prog.run_await_bind (rejecting stale limit) (.send (.usageEvent stale event)) _ []
      s).trans ?_
    rw [hsent]
    rfl
  rw [attempt, Prog.tryCatch_eq, Prog.run_handle, Prog.run_bind, hpost]
  exact ⟨_, rfl⟩

/-- The loop delivers `n` events if the token is taken that often and then, with an event left,
rejected. -/
theorem flushEvents_until (n : ℕ) (events : List UsageEventPayload) (hn : n ≤ events.length)
    (hacc : token ∈ s.server.accepted)
    (hroom : token = stale → s.server.known.count stale + n ≤ limit)
    (hstop : n < events.length → token = stale ∧ s.server.known.count stale + n = limit) :
    ∃ delivered s', (flushEvents token events).run (rejecting stale limit) [] s =
        (.ok (delivered, events.drop n), s') ∧
      delivered.map Prod.fst = events.take n ∧ s'.telemetryBuffer = s.telemetryBuffer := by
  induction events generalizing n s with
  | nil =>
    obtain rfl : n = 0 := Nat.le_zero.mp hn
    exact ⟨[], s, rfl, rfl, rfl⟩
  | cons event rest ih =>
    cases n with
    | zero =>
      -- the next event is rejected, and the loop ends
      rcases hstop (Nat.succ_pos _) with ⟨rfl, hlimit⟩
      rcases postUsageEvent_refused token limit (s := s) (by omega) event with ⟨e, hrefused⟩
      refine ⟨[], { s with server := s.server.knowing token }, ?_, rfl, rfl⟩
      rw [flushEvents, Prog.run_bind, hrefused]
      rfl
    | succ n =>
      have hcount : token = stale → (s.server.knowing token).known.count stale =
          s.server.known.count stale + 1 := by
        rintro rfl
        exact List.count_cons_self
      have htaken := postUsageEvent_taken stale limit hacc
        (fun h => by have := hroom h; omega) event
      rcases ih (s := { s with server := s.server.knowing token }) n (Nat.succ_le_succ_iff.mp hn)
          hacc (fun h => by have := hroom h; have := hcount h; simp only; omega)
          (fun hlt => by
            rcases hstop (Nat.succ_lt_succ hlt) with ⟨h, hlimit⟩
            have := hcount h
            exact ⟨h, by simp only; omega⟩) with ⟨delivered, s', hrest, hdelivered, hbuffer⟩
      refine ⟨(event, ⟨true⟩) :: delivered, s', ?_, ?_, hbuffer⟩
      · rw [flushEvents, Prog.run_bind, htaken, Prog.andThen_ok]
        rw [Prog.run_bind, hrest]
        rfl
      · rw [List.map_cons, hdelivered, List.take_succ_cons]

/-- No event is sent before the loop, so the session is obtained as with a server that accepts
everything. -/
theorem refresh_congr (session : InstallationTokenSession) :
    (refreshInstallationSessionWithDedup session).run (rejecting stale limit) [] s =
      (refreshInstallationSessionWithDedup session).run (answering fun _ => none) [] s := by
  have hexec : ∀ op s, (∀ token event, op ≠ .send (.usageEvent token event)) →
      rejecting stale limit op s = answering (fun _ => none) op s := by
    simp_all [rejecting, answering]
  have hsafe : (refreshInstallationSessionWithDedup session).Safe (fun _ _ => True)
      fun op => ∀ token event, op ≠ ClientCall.send (.usageEvent token event) := by
    refine Prog.safe_await_bind (by simp) ?_
    intro entry _
    cases entry with
    | joined id => exact Prog.safe_await (by simp)
    | started id =>
      have hreq : (refreshInstallationSessionRequest session.token).Safe (fun _ _ => True)
          fun op => ∀ token event, op ≠ ClientCall.send (.usageEvent token event) :=
        Prog.safe_bind (fetcher_safe (by simp) (by simp)) fun session =>
          Prog.safe_await_bind (by simp) fun _ _ => trivial
      have hclear : (refreshOrClear session).Safe (fun _ _ => True)
          fun op => ∀ token event, op ≠ ClientCall.send (.usageEvent token event) := by
        refine Prog.safe_handle hreq fun error => ?_
        split
        · exact Prog.safe_await_bind (by simp) fun _ _ => trivial
        · trivial
      refine Prog.safe_bind (attempt_safe hclear) fun outcome => ?_
      refine Prog.safe_await_bind (by simp) fun _ _ => ?_
      refine Prog.safe_await_bind (by simp) fun _ _ => ?_
      cases outcome <;> trivial
  exact Prog.run_congr_of_safe hexec hsafe s

variable (dates : DateFunctions) {session : InstallationTokenSession}

theorem getInstallationSession_run (h : readSession s.installationSession = some session) :
    getInstallationSession.run (rejecting stale limit) [] s = (.ok (some session), s) := by
  show (Except.ok (readSession s.installationSession), s) = _
  rw [h]

/-- The session of the flush: refreshed, or the stored one. -/
theorem ensureValid_run (h : TokenRejected s session limit) :
    ∃ used s', (ensureValidInstallationSession dates false).run (rejecting session.token limit) []
        s = (.ok used, s') ∧
      used.token ∈ s'.server.accepted ∧ s'.telemetryBuffer = s.telemetryBuffer ∧
      (AboutToExpire dates session s ∧ used.token ≠ session.token ∨
        ¬ AboutToExpire dates session s ∧ used = session ∧ s' = s) := by
  have hdue : (resolveSessionRemainingMs dates session s.now).any
      (fun ms => ms ≤ installationSessionRefreshWindowMs) = true ↔
        AboutToExpire dates session s := by
    unfold resolveSessionRemainingMs AboutToExpire
    cases dates.parse session.expiresAt <;> simp
  rw [ensureValidInstallationSession, Prog.run_bind,
    getInstallationSession_run session.token limit h.stored]
  show ∃ used s', Prog.run _ (ite _ _ _) [] s = _ ∧ _
  split
  · rename_i hrefresh
    rcases refreshInstallationSessionWithDedup_run (fun _ => none) h.accepted h.idle with
      ⟨s', refreshed, hsessioned, hfresh, hrun⟩
    refine ⟨refreshed, s', ?_, hsessioned.accepted, hsessioned.telemetryBuffer,
      Or.inl ⟨hdue.mp (by simpa using hrefresh), hfresh⟩⟩
    rw [Prog.tryCatch_eq, Prog.run_handle, refresh_congr, hrun]
    rfl
  rename_i hrefresh
  refine ⟨session, s, rfl, h.accepted, rfl, Or.inr ⟨?_, rfl, rfl⟩⟩
  exact fun hexpires => hrefresh (Or.inr (hdue.mpr hexpires))

/-- With the outcome of the loop, the outcome of the flush. -/
theorem flush_run {used : InstallationTokenSession} {s' s'' : ClientStore}
    {delivered : List (UsageEventPayload × UsageEventIngestResult)}
    {remaining : List UsageEventPayload} (hevs : bufferedEvents s.telemetryBuffer ≠ [])
    (hensure : (ensureValidInstallationSession dates false).run (rejecting stale limit) [] s =
      (.ok used, s'))
    (hloop : (flushEvents used.token (bufferedEvents s.telemetryBuffer)).run
      (rejecting stale limit) [] s' = (.ok (delivered, remaining), s'')) :
    (flushBufferedEventsFromState dates).run (rejecting stale limit) [] s =
      (.ok ⟨delivered, remaining⟩, { s'' with telemetryBuffer := storedBuffer remaining }) := by
  have hget : getBufferedEvents.run (rejecting stale limit) [] s =
      (.ok (bufferedEvents s.telemetryBuffer), s) := by
    rfl
  have hflush : (flushBufferedEvents dates (bufferedEvents s.telemetryBuffer)).run
      (rejecting stale limit) [] s = (.ok ⟨delivered, remaining⟩, s'') := by
    rw [flushBufferedEvents, executeWithInstallationSession, Prog.run_bind, hensure,
      Prog.andThen_ok, Prog.tryCatch_eq, Prog.run_handle, Prog.run_bind, hloop]
    rfl
  rw [flushBufferedEventsFromState, Prog.run_bind, hget, Prog.andThen_ok, if_neg hevs,
    Prog.run_bind, hflush]
  rfl

end Runs

/-- With a rejection at any of the buffered events, all of them are delivered exactly if the
session was about to expire, so that it was refreshed before the loop. -/
theorem flush_delivers_iff_refreshed (dates : DateFunctions) (s : ClientStore)
    (session : InstallationTokenSession) (limit : ℕ) (h : TokenRejected s session limit) :
    DeliversAll dates session.token limit s ↔ AboutToExpire dates session s := by
  have hrejected := h.rejected
  have hnotBefore := h.notBefore
  have hevents : bufferedEvents s.telemetryBuffer ≠ [] := by grind
  rcases ensureValid_run limit dates h with
    ⟨used, s', hensure, haccepted, hbuffer, ⟨hexpires, hfresh⟩ | ⟨hexpires, rfl, rfl⟩⟩
  · -- the fresh token is taken for every event
    rcases flushEvents_until session.token limit _ (bufferedEvents s.telemetryBuffer) le_rfl
      haccepted (fun heq => absurd heq hfresh)
      (fun hlt => absurd hlt (lt_irrefl _)) with ⟨delivered, s'', hloop, hdelivered, -⟩
    rw [List.drop_length] at hloop
    rw [List.take_length] at hdelivered
    exact iff_of_true ⟨⟨delivered, []⟩, _, flush_run _ limit dates hevents hensure hloop,
      hdelivered, rfl, rfl⟩ hexpires
  -- the stale token is taken until the limit, and the other events stay
  rcases flushEvents_until used.token limit
    (limit - s'.server.known.count used.token) (bufferedEvents s'.telemetryBuffer) (by omega)
    haccepted (fun _ => by omega) (fun _ => ⟨rfl, by omega⟩) with
    ⟨delivered, s'', hloop, -, -⟩
  refine iff_of_false ?_ hexpires
  rintro ⟨flushed, s₁, hrun, -, hremaining, -⟩
  rw [flush_run _ limit dates hevents hensure hloop] at hrun
  obtain rfl := Except.ok.inj (Prod.mk.inj hrun).1
  rw [List.drop_eq_nil_iff] at hremaining
  omega

/-! ## A rejection between two events -/

/-- Two events are buffered, and the token has not been presented for an event yet. -/
def twoBuffered : ClientStore :=
  { connectedStore with
    telemetryBuffer := storedBuffer [eventNow "opened", eventNow "closed"] }

theorem tokenRejected_twoBuffered :
    TokenRejected twoBuffered ⟨"token-1", "2026-01-02T00:00:00.000Z", 3600⟩ 2 where
  stored := by decide
  accepted := by decide
  idle := rfl
  notBefore := by decide
  rejected := by decide

theorem flush_delivers_iff_refreshed_twoBuffered : DeliversAll newYear "token-1" 2 twoBuffered ↔
      AboutToExpire newYear ⟨"token-1", "2026-01-02T00:00:00.000Z", 3600⟩ twoBuffered :=
  flush_delivers_iff_refreshed newYear twoBuffered _ 2 tokenRejected_twoBuffered

/-- The second event stays in the buffer. -/
theorem second_event_kept :
    TokenRejected twoBuffered ⟨"token-1", "2026-01-02T00:00:00.000Z", 3600⟩ 2 ∧
      bufferedEvents ((flushBufferedEventsFromState newYear).run (rejecting "token-1" 2) []
        twoBuffered).2.telemetryBuffer = [eventNow "closed"] := by
  refine ⟨tokenRejected_twoBuffered, ?_⟩
  decide +kernel

end QuizMind.Client
