import QuizMind.Async.History
import QuizMind.Runtime

/-! # The state of the extension's platform client

One `PlatformRuntimeClient` over its state store. A read or write of a storage key is
one atomic call; its answer may take any time, in which other operations run. A request
to the server is two calls: the server handles it (`send`) and the reply arrives
(`receive`). Each of them may fail, so that a reply can be lost.

The shared memory of the client is the promise of the refresh that is in flight. Of the
server the tokens that it accepts are modelled.
-/

namespace QuizMind.Client

open Async

/-! ## Stored values -/

/-- A member of an event's payload; a value of another kind is given by its JSON text. -/
inductive PayloadValue where
  | string (s : String)
  | number (n : ℤ)
  | bool (b : Bool)
  | json (text : String)
  deriving DecidableEq

abbrev Payload := List (String × PayloadValue)

structure UsageEventPayload where
  installationId : String
  eventType : String
  occurredAt : String
  payload : Payload
  deriving DecidableEq

/-- An item of the stored buffer, as `JSON.parse` gives it: of a record the members that
are read, where they are strings and a record. -/
inductive StoredItem where
  | record (installationId eventType occurredAt : Option String) (payload : Option Payload)
  | other
  deriving DecidableEq

structure InstallationTokenSession where
  token : String
  expiresAt : String
  refreshAfterSeconds : ℤ
  deriving DecidableEq

/-- The part of the bootstrap payload that the client reads. -/
structure BootstrapPayload where
  issuedAt : String

structure UsageEventIngestResult where
  queued : Bool

/-- What an operation throws: a `PlatformRequestError` or another error. -/
inductive ClientError where
  | request (message : String) (status : ℕ) (retryable : Bool)
  | other (message : String)

/-- `normalizeTrimmedValue`. -/
def normalizeTrimmedValue (value : Option String) : Option String :=
  (value.map jsTrim).filter fun normalized => normalized ≠ ""

def normalizeBufferedUsageEvent : StoredItem → Option UsageEventPayload
  | .record installationId eventType occurredAt payload => do
      let installationId ← normalizeTrimmedValue installationId
      let eventType ← normalizeTrimmedValue eventType
      let occurredAt ← normalizeTrimmedValue occurredAt
      let payload ← payload
      return ⟨installationId, eventType, occurredAt, payload⟩
  | .other => none

/-- An event as it is stored. -/
def UsageEventPayload.stored (event : UsageEventPayload) : StoredItem :=
  .record (some event.installationId) (some event.eventType) (some event.occurredAt)
    (some event.payload)

/-- The events that `getBufferedEvents` gives; the buffer may be absent or no array. -/
def bufferedEvents (buffer : Option (List StoredItem)) : List UsageEventPayload :=
  (buffer.getD []).filterMap normalizeBufferedUsageEvent

/-- A write of the buffer: with an event appended, or what a flush has left after the
delivered events. -/
inductive BufferWrite where
  | append (event : UsageEventPayload) (events : List UsageEventPayload)
  | flushed (delivered remaining : List UsageEventPayload)

/-- The events that the storage receives. -/
def BufferWrite.events : BufferWrite → List UsageEventPayload
  | .append _ events => events
  | .flushed _ remaining => remaining

/-- `setBufferedEvents`: no events, no item. -/
def storedBuffer (events : List UsageEventPayload) : Option (List StoredItem) :=
  if events = [] then none else some (events.map UsageEventPayload.stored)

/-! ## Requests to the server -/

inductive PlatformRequest where
  | refreshSession (token : String)
  | bootstrap (token installationId : String)
  | usageEvent (token : String) (event : UsageEventPayload)

namespace PlatformRequest

def token : PlatformRequest → String
  | .refreshSession token => token
  | .bootstrap token _ => token
  | .usageEvent token _ => token

def Answer : PlatformRequest → Type
  | .refreshSession _ => InstallationTokenSession
  | .bootstrap _ _ => BootstrapPayload
  | .usageEvent _ _ => UsageEventIngestResult

end PlatformRequest

/-- `known` are the tokens issued or presented so far. -/
structure Server where
  accepted : List String
  known : List String
  unauthorizedMessage : Option String
  expiresAt : String
  bootstrap : BootstrapPayload

/-- A token that is not known yet: it is longer than all known ones together. -/
def freshToken (known : List String) : String :=
  String.ofList ((known.map String.toList).flatten ++ ['t'])

namespace Server

/-- A token has been presented. -/
def knowing (server : Server) (token : String) : Server :=
  { server with known := token :: server.known }

/-- The presented token is revoked and another one issued. -/
def rotate (server : Server) (token : String) : InstallationTokenSession × Server :=
  let issued := freshToken (token :: server.known)
  (⟨issued, server.expiresAt, 0⟩,
    { server with
      accepted := issued :: server.accepted.filter fun t => t ≠ token
      known := issued :: token :: server.known })

/-- The reply to a request: 401 with the message of its body, or the answer. -/
def handle (server : Server) : (request : PlatformRequest) → Except (Option String) request.Answer × Server
  | .refreshSession token =>
    if token ∈ server.accepted then
      let rotated := server.rotate token
      (.ok rotated.1, rotated.2)
    else (.error server.unauthorizedMessage, server.knowing token)
  | .bootstrap token _ =>
    if token ∈ server.accepted then (.ok server.bootstrap, server.knowing token)
    else (.error server.unauthorizedMessage, server.knowing token)
  | .usageEvent token _ =>
    if token ∈ server.accepted then (.ok ⟨true⟩, server.knowing token)
    else (.error server.unauthorizedMessage, server.knowing token)

end Server

/-! ## The store and its calls -/

structure ClientStore where
  installationId : Option String
  installationSession : Option InstallationTokenSession
  bootstrapCache : Option BootstrapPayload
  bootstrapFetchedAt : Option String
  telemetryBuffer : Option (List StoredItem)
  /-- The promises of the refreshes so far: pending or settled. -/
  refreshes : List (Option (Except ClientError InstallationTokenSession))
  installationSessionRefreshPromise : Option ℕ
  server : Server
  now : ℤ
  randomValues : ℕ

/-- What `refreshInstallationSessionWithDedup` finds. -/
inductive RefreshEntry where
  | joined (id : ℕ)
  | started (id : ℕ)

inductive ClientCall where
  | getInstallationId
  | setInstallationId (value : String)
  | getInstallationSession
  | setInstallationSession (session : InstallationTokenSession)
  | removeInstallationSession
  | getBootstrapCache
  | getBootstrapFetchedAt
  | setBootstrapCache (payload : BootstrapPayload)
  | setBootstrapFetchedAt (fetchedAt : String)
  | getBufferedEvents
  | setBufferedEvents (write : BufferWrite)
  | randomInstallationId
  | dateNow
  /-- The promise is checked and, if there is none, a refresh of the token started. -/
  | enterRefresh (token : String)
  | settleRefresh (id : ℕ) (outcome : Except ClientError InstallationTokenSession)
  | awaitRefresh (id : ℕ)
  | endRefresh
  | send (request : PlatformRequest)
  /-- The reply arrives; `accepted` when it is not a 401. -/
  | receive (request : PlatformRequest) (accepted : Bool)
  /-- A token expires at the server. -/
  | expireToken (token : String)
  | passTime (ms : ℕ)

namespace ClientCall

def Res : ClientCall → Type
  | .getInstallationId => Option String
  | .getInstallationSession => Option InstallationTokenSession
  | .getBootstrapCache => Option BootstrapPayload
  | .getBootstrapFetchedAt => Option String
  | .getBufferedEvents => Option (List StoredItem)
  | .randomInstallationId => String
  | .dateNow => ℤ
  | .enterRefresh _ => RefreshEntry
  | .awaitRefresh _ => InstallationTokenSession
  | .send request => Except (Option String) request.Answer
  | _ => Unit

def exec : (call : ClientCall) → ClientStore → Except ClientError call.Res × ClientStore
  | .getInstallationId, s => (.ok s.installationId, s)
  | .setInstallationId value, s => (.ok (), { s with installationId := some value })
  | .getInstallationSession, s => (.ok s.installationSession, s)
  | .setInstallationSession session, s => (.ok (), { s with installationSession := some session })
  | .removeInstallationSession, s => (.ok (), { s with installationSession := none })
  | .getBootstrapCache, s => (.ok s.bootstrapCache, s)
  | .getBootstrapFetchedAt, s => (.ok s.bootstrapFetchedAt, s)
  | .setBootstrapCache payload, s => (.ok (), { s with bootstrapCache := some payload })
  | .setBootstrapFetchedAt fetchedAt, s => (.ok (), { s with bootstrapFetchedAt := some fetchedAt })
  | .getBufferedEvents, s => (.ok s.telemetryBuffer, s)
  | .setBufferedEvents write, s =>
    (.ok (), { s with telemetryBuffer := storedBuffer write.events })
  | .randomInstallationId, s =>
    (.ok (s!"inst_{s.randomValues}"), { s with randomValues := s.randomValues + 1 })
  | .dateNow, s => (.ok s.now, s)
  | .enterRefresh _, s =>
    match s.installationSessionRefreshPromise with
    | some id => (.ok (.joined id), s)
    | none =>
      (.ok (.started s.refreshes.length),
        { s with
          refreshes := s.refreshes ++ [none]
          installationSessionRefreshPromise := some s.refreshes.length })
  | .settleRefresh id outcome, s => (.ok (), { s with refreshes := s.refreshes.set id (some outcome) })
  | .awaitRefresh id, s =>
    match s.refreshes[id]? with
    | some (some outcome) => (outcome, s)
    | _ => (.error (.other "pending"), s)
  | .endRefresh, s => (.ok (), { s with installationSessionRefreshPromise := none })
  | .send request, s =>
    let handled := s.server.handle request
    (.ok handled.1, { s with server := handled.2 })
  | .receive _ _, s => (.ok (), s)
  | .expireToken token, s =>
    (.ok (), { s with server := { s.server with
      accepted := s.server.accepted.filter fun t => t ≠ token
      known := token :: s.server.known } })
  | .passTime ms, s => (.ok (), { s with now := s.now + ms })

/-- The failures that a call can have: storage fails with an error of its own, a request
to the server with any error but a 401, and memory does not fail. -/
def mayFail : ClientCall → ClientError → Bool
  | .send _, .request _ status _ | .receive _ _, .request _ status _ => status ≠ 401
  | .send _, .other _ | .receive _ _, .other _ => true
  | .getInstallationId, .other _ | .setInstallationId _, .other _
  | .getInstallationSession, .other _ | .setInstallationSession _, .other _
  | .removeInstallationSession, .other _ | .getBootstrapCache, .other _
  | .getBootstrapFetchedAt, .other _ | .setBootstrapCache _, .other _ | .setBootstrapFetchedAt _, .other _
  | .getBufferedEvents, .other _ | .setBufferedEvents _, .other _ => true
  | _, _ => false

/-- A promise can be awaited to its end when it is settled. -/
def enabled : ClientCall → ClientStore → Bool
  | .awaitRefresh id, s =>
    match s.refreshes[id]? with
    | some (some _) => true
    | _ => false
  | _, _ => true

end ClientCall

abbrev ClientProg := Prog ClientCall ClientCall.Res ClientError

/-- `await` on a call. -/
abbrev client (call : ClientCall) : ClientProg call.Res := Prog.await call

end QuizMind.Client
