import QuizMind.Client.Telemetry
import QuizMind.Queue.Jobs

/-! # The client with the server that ingests its events

The requests of the client with usage events are handled by the server's
`ingestUsageEventForInstallationSession`; the dispatch to the queue, and the record of a
lifecycle event, may fail. A dispatch that has failed gives a result with `queued: false`, which
is a successful reply as well.
-/

namespace QuizMind.Client

open Async

/-! ## The server -/

/-- The installation of a session. The capabilities are given by their JSON text. -/
structure UsageInstallation where
  installationId : String
  browser : String
  extensionVersion : String
  schemaVersion : String
  capabilities : String

/-- `Partial<UsageEventPayload>`: what the route has read of the body. -/
structure PartialUsageEvent where
  eventType : Option String
  occurredAt : Option String
  payload : Option Payload

/-- An audit, security and domain event of the life of an installation. -/
structure LifecycleEvent where
  eventType : String
  severity : String
  status : String
  summary : String

/-- `usageLifecycleEventMappings` -/
def usageLifecycleEventMappings : List (String × LifecycleEvent) :=
  [("extension.runtime_error",
      ⟨"extension.runtime_error", "warn", "failure", "extension runtime reported an error"⟩),
    ("extension.bootstrap_refresh_failed", ⟨"extension.bootstrap_refresh_failed", "warn", "failure",
        "extension runtime reported bootstrap refresh failure"⟩),
    ("extension.installation_reconnect_requested",
      ⟨"extension.installation_reconnect_requested", "info", "success",
        "extension runtime requested reconnect for installation session"⟩),
    ("extension.installation_reconnected", ⟨"extension.installation_reconnected", "info", "success",
        "extension runtime reported installation reconnected"⟩)]

def usageEventQueueFailed : LifecycleEvent :=
  ⟨"extension.usage_event_queue_failed", "error", "failure",
    "extension usage event queue dispatch failed"⟩

structure IngestJob where
  id : String
  dedupeKey : Option String
  createdAt : String
  attempts : ℕ

structure IngestLogEvent where
  eventId : String
  eventType : String
  occurredAt : String
  status : String

/-- `UsageEventIngestResult`, as the server gives it. -/
structure IngestResult where
  queued : Bool
  queue : String
  job : IngestJob
  handler : String
  logEvent : IngestLogEvent

/-- What surrounds the server: the installations of the tokens, what the route reads of an event,
and, for the request with number `n`, the clock, the queue's policy and which of its effects fail. -/
structure UsageServer where
  installation : String → UsageInstallation
  incoming : UsageEventPayload → PartialUsageEvent
  clock : ℕ → Queue.Clock
  queuePolicy : ℕ → Option Queue.PlatformQueueHistoryPolicy
  dispatchFails : ℕ → Bool
  recordFails : ℕ → Bool

/-- What the server keeps: the events that the `usage-events` queue has accepted, and the
lifecycle events that have been recorded. -/
structure Ingested where
  usageEvents : List UsageEventPayload
  lifecycle : List LifecycleEvent
  requests : ℕ

def toUsageEvent (clock : Queue.Clock) (installation : UsageInstallation)
    (event : PartialUsageEvent) : UsageEventPayload where
  installationId := installation.installationId
  eventType := event.eventType.getD "extension.quiz_answer_requested"
  occurredAt := event.occurredAt.getD clock.iso
  payload := spread [("browser", .string installation.browser),
      ("extensionVersion", .string installation.extensionVersion),
      ("schemaVersion", .string installation.schemaVersion),
      ("capabilities", .json installation.capabilities)] (event.payload.getD [])

def buildDegradedUsageIngestResult (usageEvent : UsageEventPayload) (clock : Queue.Clock) :
    IngestResult where
  queued := false
  queue := "usage-events"
  job := ⟨s!"usage-events:degraded:{usageEvent.installationId}:{clock.now}", none, clock.iso, 0⟩
  handler := "worker.process-usage-event"
  logEvent := ⟨s!"usage:degraded:{usageEvent.installationId}:{clock.iso}",
    "extension.usage_queue_degraded", clock.iso, "failure"⟩

/-- The job of a dispatch. -/
def usageJob (usageEvent : UsageEventPayload) (clock : Queue.Clock)
    (queuePolicy : Option Queue.PlatformQueueHistoryPolicy) : IngestJob :=
  let dispatch : Queue.Dispatch .usageEvents :=
    ⟨⟨usageEvent.installationId, usageEvent.eventType, usageEvent.occurredAt⟩, clock, queuePolicy⟩
  let job := dispatch.job
  ⟨job.id, job.dedupeKey, job.createdAt, job.attempts.getD 0⟩

def queuedUsageIngestResult (usageEvent : UsageEventPayload) (job : IngestJob) : IngestResult where
  queued := true
  queue := "usage-events"
  job := job
  handler := "worker.process-usage-event"
  logEvent := ⟨s!"usage:{usageEvent.installationId}:{usageEvent.occurredAt}",
    "extension.usage_queued", usageEvent.occurredAt, "success"⟩

section Server

variable (server : UsageServer)

/-- `recordLifecycleEventSafely`: a failure is logged only. -/
def recordLifecycleEventSafely (event : LifecycleEvent) (s : Ingested) : Ingested :=
  if server.recordFails s.requests then s else { s with lifecycle := s.lifecycle ++ [event] }

def recordUsageLifecycleEventIfNeeded (usageEvent : UsageEventPayload) (s : Ingested) : Ingested :=
  match usageLifecycleEventMappings.lookup usageEvent.eventType with
  | some mapping => recordLifecycleEventSafely server mapping s
  | none => s

/-- `ingestUsageEventForInstallationSession` -/
def ingestUsageEventForInstallationSession (installation : UsageInstallation)
    (event : PartialUsageEvent) (s : Ingested) : IngestResult × Ingested :=
  let clock := server.clock s.requests
  let usageEvent := toUsageEvent clock installation event
  if server.dispatchFails s.requests then
    let s := recordUsageLifecycleEventIfNeeded server usageEvent s
    let s := recordLifecycleEventSafely server usageEventQueueFailed s
    (buildDegradedUsageIngestResult usageEvent clock, s)
  else
    let queueJob := usageJob usageEvent clock (server.queuePolicy s.requests)
    let s := { s with usageEvents := s.usageEvents ++ [usageEvent] }
    let s := recordUsageLifecycleEventIfNeeded server usageEvent s
    (queuedUsageIngestResult usageEvent queueJob, s)

/-- The route: a request of an installation, which then has the next number. -/
def ingestUsageEvent (token : String) (event : UsageEventPayload) (s : Ingested) :
    IngestResult × Ingested :=
  let ingested := ingestUsageEventForInstallationSession server (server.installation token)
    (server.incoming event) s
  (ingested.1, { ingested.2 with requests := s.requests + 1 })

theorem recordLifecycleEventSafely_usageEvents (event : LifecycleEvent) (s : Ingested) :
    (recordLifecycleEventSafely server event s).usageEvents = s.usageEvents := by
  unfold recordLifecycleEventSafely
  split <;> rfl

theorem recordUsageLifecycleEventIfNeeded_usageEvents (usageEvent : UsageEventPayload)
    (s : Ingested) :
    (recordUsageLifecycleEventIfNeeded server usageEvent s).usageEvents = s.usageEvents := by
  unfold recordUsageLifecycleEventIfNeeded
  split
  · exact recordLifecycleEventSafely_usageEvents server _ s
  · rfl

/-- The queue has accepted the event, as the server has made it up from the client's one. -/
def Ingested.Accepted (s : Ingested) (event : UsageEventPayload) : Prop :=
  ∃ clock token, toUsageEvent clock (server.installation token) (server.incoming event) ∈
    s.usageEvents

theorem Ingested.Accepted.mono {s s' : Ingested} (h : s.usageEvents ⊆ s'.usageEvents)
    {event : UsageEventPayload} (ha : s.Accepted server event) : s'.Accepted server event := by
  obtain ⟨clock, token, hmem⟩ := ha
  exact ⟨clock, token, h hmem⟩

/-- A request adds its event when its dispatch succeeds, and the result says whether it has. -/
theorem ingestUsageEvent_usageEvents (token : String) (event : UsageEventPayload) (s : Ingested) :
    (ingestUsageEvent server token event s).1.queued = !server.dispatchFails s.requests ∧
      (ingestUsageEvent server token event s).2.usageEvents =
        if server.dispatchFails s.requests then s.usageEvents
        else s.usageEvents ++ [toUsageEvent (server.clock s.requests) (server.installation token)
            (server.incoming event)] := by
  unfold ingestUsageEvent ingestUsageEventForInstallationSession
  cases server.dispatchFails s.requests with
  | true =>
    simp only [if_true]
    rw [recordLifecycleEventSafely_usageEvents, recordUsageLifecycleEventIfNeeded_usageEvents]
    exact ⟨rfl, rfl⟩
  | false =>
    simp only [Bool.false_eq_true, if_false]
    rw [recordUsageLifecycleEventIfNeeded_usageEvents]
    exact ⟨rfl, rfl⟩

theorem ingestUsageEvent_sub (token : String) (event : UsageEventPayload) (s : Ingested) :
    s.usageEvents ⊆ (ingestUsageEvent server token event s).2.usageEvents := by
  rw [(ingestUsageEvent_usageEvents server token event s).2]
  split
  · exact List.Subset.refl _
  · exact List.subset_append_left _ _

/-- A result with `queued: true` is one of an accepted event. -/
theorem ingestUsageEvent_accepted {token : String} {event : UsageEventPayload} {s : Ingested}
    (h : (ingestUsageEvent server token event s).1.queued = true) :
    (ingestUsageEvent server token event s).2.Accepted server event := by
  obtain ⟨hqueued, husage⟩ := ingestUsageEvent_usageEvents server token event s
  rw [h] at hqueued
  have hok : server.dispatchFails s.requests = false := by simpa using hqueued.symm
  rw [hok] at husage
  refine ⟨server.clock s.requests, token, ?_⟩
  rw [husage]
  exact List.mem_append_right _ List.mem_cons_self

end Server

/-! ## The composition -/

structure SystemStore where
  client : ClientStore
  ingested : Ingested

/-- The calls of the client, where the server ingests the usage events of an accepted token. -/
def systemExec (server : UsageServer) :
    (call : ClientCall) → SystemStore → Except ClientError call.Res × SystemStore
  | .send (.usageEvent token event), s =>
    let handled := s.client.server.handle (.usageEvent token event)
    let client := { s.client with server := handled.2 }
    match handled.1 with
    | .error message => (.ok (.error message), { s with client := client })
    | .ok _ =>
      let result := ingestUsageEvent server token event s.ingested
      (.ok (.ok ⟨result.1.queued⟩), ⟨client, result.2⟩)
  | call, s =>
    let called := call.exec s.client
    (called.1, { s with client := called.2 })

def systemMachine (dates : DateFunctions) (server : UsageServer) :
    Machine ClientCall ClientCall.Res ClientError ClientReply SystemStore ClientRequest where
  exec := systemExec server
  code := clientCode dates

abbrev SystemSnapshot :=
  Snapshot ClientCall ClientCall.Res ClientError ClientReply SystemStore ClientRequest

end QuizMind.Client
