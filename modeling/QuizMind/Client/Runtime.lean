import QuizMind.Client.Store
import Mathlib.Data.List.Infix

/-! # The platform client of the extension

The operations of `PlatformRuntimeClient` on the session, the bootstrap payload and the
telemetry buffer. The URLs, the handshake and the environment, which are only sent on,
are left out, and so is the part of the replies that the client does not read.
-/

namespace QuizMind.Client

open Async

/-- `Date.parse` and `toISOString`. -/
structure DateFunctions where
  parse : String → JsDate
  toISOString : ℤ → String

/-! ## Errors -/

def ClientError.isUnauthorized : ClientError → Bool
  | .request _ status _ => status = 401
  | .other _ => false

def resolveErrorMessage (message : Option String) (fallback : String) : String :=
  (normalizeTrimmedValue message).getD fallback

inductive ReconnectReason where
  | missing | expired

def createReconnectRequiredError : ReconnectReason → ClientError
  | .expired => .request "Installation session expired. Reconnect required." 401 false
  | .missing => .request "Installation session is missing. Reconnect required." 401 false

/-- `message.includes(text)`. -/
def includes (message text : String) : Bool := text.toList <:+: message.toList

def resolveReconnectReason (message : String) : String :=
  if includes message "missing" then "installation_session_missing"
  else if includes message "expired" then "installation_session_expired"
  else "installation_session_invalid"

/-- The outcome of a program as a value. -/
def attempt {α : Type} (p : ClientProg α) : ClientProg (Except ClientError α) :=
  tryCatch (do let a ← p; return .ok a) fun e => return .error e

/-- `p.catch(() => undefined)`. -/
def ignoring (p : ClientProg Unit) : ClientProg Unit := do
  let _ ← attempt p
  return ()

/-! ## Requests -/

/-- A request to the server, and its reply. -/
def fetcher (request : PlatformRequest) (fallback : String) : ClientProg request.Answer := do
  let reply ← client (.send request)
  client (.receive request reply.isOk)
  match reply with
  | .ok answer => return answer
  | .error message => throw (.request (resolveErrorMessage message fallback) 401 false)

def postUsageEvent (token : String) (event : UsageEventPayload) :
    ClientProg UsageEventIngestResult :=
  fetcher (.usageEvent token event) "Unable to send usage event (status 401)."

/-- The loop of `flushBufferedEvents`: the events up to the first failure are delivered. -/
def flushEvents (token : String) : List UsageEventPayload →
    ClientProg (List (UsageEventPayload × UsageEventIngestResult) × List UsageEventPayload)
  | [] => return ([], [])
  | event :: rest => do
      match ← attempt (postUsageEvent token event) with
      | .ok result => do
          let (delivered, remaining) ← flushEvents token rest
          return ((event, result) :: delivered, remaining)
      | .error _ => return ([], event :: rest)

def refreshInstallationSessionRequest (token : String) : ClientProg InstallationTokenSession := do
  let session ← fetcher (.refreshSession token)
    "Unable to refresh installation session (status 401)."
  client (.setInstallationSession session)
  return session

def refreshBootstrapRequest (token installationId : String) : ClientProg BootstrapPayload := do
  let payload ← fetcher (.bootstrap token installationId)
    "Unable to refresh bootstrap (status 401)."
  client (.setBootstrapCache payload)
  client (.setBootstrapFetchedAt payload.issuedAt)
  return payload

/-! ## The state manager -/

def getOrCreateInstallationId : ClientProg String := do
  match normalizeTrimmedValue (← client .getInstallationId) with
  | some existingInstallationId => return existingInstallationId
  | none => do
      match normalizeTrimmedValue (some (← client .randomInstallationId)) with
      | none => throw (.other "Installation id factory returned an empty value.")
      | some generatedInstallationId => do
          client (.setInstallationId generatedInstallationId)
          return generatedInstallationId

/-- A session without a token or an expiry date counts as none. -/
def readSession (stored : Option InstallationTokenSession) : Option InstallationTokenSession :=
  stored.filter fun session =>
    (normalizeTrimmedValue (some session.token)).isSome ∧
      (normalizeTrimmedValue (some session.expiresAt)).isSome

def getInstallationSession : ClientProg (Option InstallationTokenSession) := do
  return readSession (← client .getInstallationSession)

def getBootstrapCache : ClientProg (Option BootstrapPayload) := do
  match ← client .getBootstrapCache with
  | none => return none
  | some payload => do
      let _ ← client .getBootstrapFetchedAt
      return some payload

def getBufferedEvents : ClientProg (List UsageEventPayload) := do
  return bufferedEvents (← client .getBufferedEvents)

/-- `appendBufferedEvent` with the default limit; the oldest events are dropped. -/
def appendBufferedEvent (event : UsageEventPayload) : ClientProg Unit := do
  let current ← getBufferedEvents
  let next := current ++ [event]
  let trimmed := if next.length > 100 then next.drop (next.length - 100) else next
  client (.setBufferedEvents (.append event trimmed))

/-! ## The session -/

section Operations

variable (dates : DateFunctions)

/-- `none` is infinity: the expiry date cannot be read. -/
def resolveSessionRemainingMs (session : InstallationTokenSession) (nowMs : ℤ) : Option ℤ :=
  (dates.parse session.expiresAt).map fun expiresAtMs => expiresAtMs - nowMs

/-- The refresh itself: a refused token is cleared. -/
def refreshOrClear (session : InstallationTokenSession) : ClientProg InstallationTokenSession :=
  tryCatch (refreshInstallationSessionRequest session.token) fun error => do
    if error.isUnauthorized then
      client .removeInstallationSession
      throw (createReconnectRequiredError .expired)
    else throw error

def refreshInstallationSessionWithDedup (session : InstallationTokenSession) :
    ClientProg InstallationTokenSession := do
  match ← client (.enterRefresh session.token) with
  | .joined id => client (.awaitRefresh id)
  | .started id => do
      let outcome ← attempt (refreshOrClear session)
      client (.settleRefresh id outcome)
      client .endRefresh
      Prog.ofExcept outcome

def installationSessionRefreshWindowMs : ℤ := 5 * 60 * 1000

def ensureValidInstallationSession (forceRefresh : Bool) : ClientProg InstallationTokenSession := do
  match ← getInstallationSession with
  | none => throw (createReconnectRequiredError .missing)
  | some session => do
      let nowMs ← client .dateNow
      let remainingMs := resolveSessionRemainingMs dates session nowMs
      if forceRefresh ∨ remainingMs.any (fun ms => ms ≤ installationSessionRefreshWindowMs) then
        tryCatch (refreshInstallationSessionWithDedup session) fun error =>
          if remainingMs.all (fun ms => ms > 0) ∧ ¬ error.isUnauthorized then return session
          else throw error
      else return session

/-- A request that is refused is made once more, with a refreshed session. -/
def executeWithInstallationSession {α : Type}
    (request : InstallationTokenSession → ClientProg α) : ClientProg α := do
  let session ← ensureValidInstallationSession dates false
  tryCatch (request session) fun error => do
    if error.isUnauthorized then
      let refreshedSession ← ensureValidInstallationSession dates true
      request refreshedSession
    else throw error

/-! ## Buffering -/

/-- `input.occurredAt ?? new Date().toISOString()`. -/
def occurredAtOrNow (occurredAt : Option String) : ClientProg String :=
  match occurredAt with
  | some occurredAt => return occurredAt
  | none => do return dates.toISOString (← client .dateNow)

def bufferLifecycleEvent (eventType : String) (payload : Payload) (occurredAt : String) :
    ClientProg Unit := do
  let installationId ← getOrCreateInstallationId
  appendBufferedEvent ⟨installationId, eventType, occurredAt, payload⟩

def reconnectRequested : String := "extension.installation_reconnect_requested"

structure ReconnectRequest where
  reason : String
  message : String
  status : ℕ
  sourceEventType : Option String
  occurredAt : String

def ReconnectRequest.payload (input : ReconnectRequest) : Payload :=
  [("reason", .string input.reason)] ++
    (if input.message = "" then [] else [("message", .string input.message)]) ++
    [("status", .number input.status)] ++
    match input.sourceEventType.filter fun eventType => eventType ≠ "" with
    | some eventType => [("sourceEventType", .string eventType)]
    | none => []

/-- Not if one is buffered already. -/
def bufferReconnectRequestedLifecycleEvent (input : ReconnectRequest) : ClientProg Unit := do
  let buffered ← getBufferedEvents
  if buffered.any fun event => event.eventType = reconnectRequested then return ()
  else bufferLifecycleEvent reconnectRequested input.payload input.occurredAt

/-! ## The operations -/

structure RefreshBootstrapInput where
  allowCacheFallback : Bool
  bufferLifecycleTelemetryOnFailure : Bool

inductive BootstrapSource where
  | live | cache

structure PlatformBootstrapRefreshResult where
  bootstrap : BootstrapPayload
  source : BootstrapSource
  reconnectRequired : Bool
  backendUnavailable : Bool

/-- The telemetry of a refresh that has failed. -/
def bufferBootstrapFailure (message : String) (status : ℕ) (retryable : Bool) :
    ClientProg Unit := do
  let reconnectReason := if status = 401 then some (resolveReconnectReason message) else none
  if status ≠ 401 ∨ reconnectReason = some "installation_session_invalid" then
    let occurredAt ← occurredAtOrNow dates none
    ignoring (bufferLifecycleEvent "extension.bootstrap_refresh_failed"
      [("message", .string message), ("status", .number status), ("retryable", .bool retryable)]
      occurredAt)
  match reconnectReason with
  | none => return ()
  | some reason => do
      let occurredAt ← occurredAtOrNow dates none
      ignoring (bufferReconnectRequestedLifecycleEvent ⟨reason, message, status, none, occurredAt⟩)

def refreshBootstrap (input : RefreshBootstrapInput) :
    ClientProg PlatformBootstrapRefreshResult := do
  let installationId ← getOrCreateInstallationId
  let cache ← getBootstrapCache
  let live ← attempt (executeWithInstallationSession dates fun session =>
    refreshBootstrapRequest session.token installationId)
  match live with
  | .ok bootstrap => return ⟨bootstrap, .live, false, false⟩
  | .error (.other message) => throw (.other message)
  | .error (.request message status retryable) => do
      if input.bufferLifecycleTelemetryOnFailure then
        bufferBootstrapFailure dates message status retryable
      match cache with
      | some payload =>
        if status = 401 ∧ input.allowCacheFallback then return ⟨payload, .cache, true, false⟩
        else if retryable ∧ input.allowCacheFallback then
          return ⟨payload, .cache, false, true⟩
        else throw (.request message status retryable)
      | none => throw (.request message status retryable)

/-- A usage event, or a runtime error as one. -/
structure SendInput where
  eventType : String
  payload : Payload
  occurredAt : Option String
  bufferOnFailure : Bool

/-- An event that could not be sent is buffered, unless the server has rejected it. -/
def bufferUnsent (event : UsageEventPayload) (error : ClientError) : ClientProg Unit :=
  match error with
  | .other _ => appendBufferedEvent event
  | .request message status retryable => do
      if retryable ∨ status = 401 then appendBufferedEvent event
      if status = 401 then
        ignoring (bufferReconnectRequestedLifecycleEvent
          ⟨resolveReconnectReason message, message, status, some event.eventType, event.occurredAt⟩)

def sendUsageEvent (input : SendInput) : ClientProg UsageEventIngestResult := do
  let installationId ← getOrCreateInstallationId
  let occurredAt ← occurredAtOrNow dates input.occurredAt
  let event : UsageEventPayload := ⟨installationId, input.eventType, occurredAt, input.payload⟩
  tryCatch (executeWithInstallationSession dates fun session => postUsageEvent session.token event)
    fun error => do
      if input.bufferOnFailure then bufferUnsent event error
      throw error

structure RuntimeErrorInput where
  surface : String
  message : String
  stackPreview : Option String
  severity : Option String
  feature : Option String
  occurredAt : Option String
  extra : Payload
  bufferOnFailure : Bool

/-- A member that is only there when it is not empty. -/
def optionalMember (name : String) (value : Option String) : Payload :=
  match value.filter fun text => text ≠ "" with
  | some text => [(name, .string text)]
  | none => []

/-- `{ ...base, ...extra }`. -/
def spread (base extra : Payload) : Payload :=
  base.filter (fun member => extra.all fun other => other.1 ≠ member.1) ++ extra

def RuntimeErrorInput.payload (input : RuntimeErrorInput) : Payload :=
  spread ([("surface", .string input.surface), ("message", .string input.message)] ++
    optionalMember "stackPreview" input.stackPreview ++ optionalMember "feature" input.feature ++
    optionalMember "severity" input.severity) input.extra

def sendRuntimeError (input : RuntimeErrorInput) : ClientProg UsageEventIngestResult :=
  sendUsageEvent dates
    { eventType := "extension.runtime_error"
      payload := input.payload
      occurredAt := input.occurredAt
      bufferOnFailure := input.bufferOnFailure }

structure FlushResult where
  delivered : List (UsageEventPayload × UsageEventIngestResult)
  remaining : List UsageEventPayload

def flushBufferedEvents (events : List UsageEventPayload) : ClientProg FlushResult :=
  executeWithInstallationSession dates fun session => do
    let (delivered, remaining) ← flushEvents session.token events
    return ⟨delivered, remaining⟩

def flushBufferedEventsFromState : ClientProg FlushResult := do
  let events ← getBufferedEvents
  if events = [] then return ⟨[], []⟩
  else do
    let flushed ← flushBufferedEvents dates events
    client (.setBufferedEvents (.flushed (flushed.delivered.map Prod.fst) flushed.remaining))
    return flushed

def refreshInstallationSession : ClientProg InstallationTokenSession :=
  ensureValidInstallationSession dates true

end Operations

/-! ## The machine -/

/-- An operation of the client, or an event at the server or of the clock. -/
inductive ClientRequest where
  | refreshBootstrap (input : RefreshBootstrapInput)
  | sendUsageEvent (input : SendInput)
  | sendRuntimeError (input : RuntimeErrorInput)
  | flushBufferedEventsFromState
  | refreshInstallationSession
  | tokenExpires (token : String)
  | timePasses (ms : ℕ)

inductive ClientReply where
  | bootstrap (result : PlatformBootstrapRefreshResult)
  | ingested (result : UsageEventIngestResult)
  | flushed (result : FlushResult)
  | session (session : InstallationTokenSession)
  | done

def clientCode (dates : DateFunctions) : ClientRequest → ClientProg ClientReply
  | .refreshBootstrap input => do return .bootstrap (← refreshBootstrap dates input)
  | .sendUsageEvent input => do return .ingested (← sendUsageEvent dates input)
  | .sendRuntimeError input => do return .ingested (← sendRuntimeError dates input)
  | .flushBufferedEventsFromState => do return .flushed (← flushBufferedEventsFromState dates)
  | .refreshInstallationSession => do return .session (← refreshInstallationSession dates)
  | .tokenExpires token => do
      client (.expireToken token)
      return .done
  | .timePasses ms => do
      client (.passTime ms)
      return .done

def clientMachine (dates : DateFunctions) :
    Machine ClientCall ClientCall.Res ClientError ClientReply ClientStore ClientRequest where
  exec := ClientCall.exec
  code := clientCode dates

abbrev ClientSnapshot :=
  Snapshot ClientCall ClientCall.Res ClientError ClientReply ClientStore ClientRequest

/-- The steps that are possible: a promise is awaited until it is settled, and a call
fails only as it may. -/
def possible (s : ClientSnapshot) : Label ClientError ClientRequest → Bool
  | .start _ => true
  | .step pid =>
    match s.procs[pid]? with
    | some (_, .call op _) => op.enabled s.store
    | _ => true
  | .fail pid e =>
    match s.procs[pid]? with
    | some (_, .call op _) => op.mayFail e
    | _ => true

end QuizMind.Client
