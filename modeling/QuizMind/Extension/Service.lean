import QuizMind.Extension.Store

/-! # `ExtensionControlService`

The handlers behind `extension/installations/bind`, `.../disconnect`,
`.../self-disconnect`, `.../rotate-session`, `extension/bootstrap/v2` and
`extension/session/refresh`, as programs over the repository calls.

The readings of the clock and the random token of a new session are part of a
request. The user of a request from the app is the one its access token was
resolved to; a request from the extension carries an installation token, which
is resolved here.
-/

namespace QuizMind

open Async

/-- The settings, and the keyed hash of opaque tokens. -/
structure ExtensionEnv where
  extensionSessionTtlMinutes : ℕ
  hashOpaqueToken : String → String

/-- The user of a session and the decision of the access check, with its
reasons joined. -/
structure CurrentSession where
  userId : String
  access : Except String Unit

/-! ## Reading a request -/

def readRequiredString (value : Option String) (fieldName : String) : Except Exception String :=
  match value with
  | none => .error (.badRequest s!"{fieldName} is required.")
  | some value =>
    if jsTrim value = "" then
      .error (.badRequest s!"{fieldName} is required.")
    else
      .ok (jsTrim value)

def maxEnvironmentLength : ℕ := 64

def environmentToken (c : Char) : Bool := c.isAlphanum || c == '.' || c == '_' || c == '-'

def readRequiredEnvironment (value : Option String) (fieldName : String) :
    Except Exception String := do
  let environment ← readRequiredString value fieldName
  if maxEnvironmentLength < jsLength environment ∨ ¬ environment.toList.all environmentToken then
    throw (.badRequest
      s!"{fieldName} must be 1-64 characters using A-Z, a-z, 0-9, \".\", \"_\", or \"-\".")
  else
    return environment

def maxExtensionActionReasonLength : ℕ := 500

def readRequiredActionReason (value : Option String) : Except Exception String := do
  let reason ← readRequiredString value "reason"
  if maxExtensionActionReasonLength < jsLength reason then
    throw (.badRequest "reason must be at most 500 characters.")
  else
    return reason

def supportedHandshakeBrowsers : List String :=
  ["chrome", "edge", "brave", "firefox", "safari", "other"]

def normalizeBrowser (value : String) : String :=
  if value ∈ supportedHandshakeBrowsers then value else "other"

/-- A handshake as it arrives: every member may be missing, and the
capabilities may be no array (`none`) or have items that are no strings. -/
structure HandshakeInput where
  extensionVersion : Option String
  schemaVersion : Option String
  capabilities : Option (List (Option String))
  browser : Option String
  buildId : Option String

structure CompatibilityHandshake where
  extensionVersion : String
  schemaVersion : String
  capabilities : List String
  browser : String
  buildId : Option String

def normalizeCapabilities (value : Option (List (Option String))) : List String :=
  (value.getD []).filterMap (fun item => item.filter (fun s => jsTrim s != ""))

def normalizeHandshake (handshake : HandshakeInput) : Except Exception CompatibilityHandshake := do
  let extensionVersion ← readRequiredString handshake.extensionVersion "handshake.extensionVersion"
  let schemaVersion ← readRequiredString handshake.schemaVersion "handshake.schemaVersion"
  let capabilities := normalizeCapabilities handshake.capabilities
  if capabilities = [] then
    throw (.badRequest "handshake.capabilities must contain at least one capability.")
  else
    match handshake.browser.filter (fun b => b ∈ supportedHandshakeBrowsers) with
    | none => throw (.badRequest
        "handshake.browser must be one of chrome, edge, brave, firefox, safari, other.")
    | some browser =>
      return { extensionVersion := extensionVersion
               schemaVersion := schemaVersion
               capabilities := capabilities
               browser := browser
               buildId := (handshake.buildId.map jsTrim).filter (fun s => s != "") }

/-- What is missing in the handshake of a bootstrap is taken from the
installation. -/
def normalizeBootstrapHandshake (handshake : HandshakeInput)
    (installation : ExtensionInstallation) : Except Exception CompatibilityHandshake :=
  let normalizedCapabilities := normalizeCapabilities handshake.capabilities
  let fallbackCapabilities := installation.capabilities.map some
  normalizeHandshake
    { extensionVersion := handshake.extensionVersion.or (some installation.extensionVersion)
      schemaVersion := handshake.schemaVersion.or (some installation.schemaVersion)
      capabilities := some (if normalizedCapabilities ≠ [] then normalizedCapabilities.map some
        else fallbackCapabilities)
      browser := handshake.browser.or (some (normalizeBrowser installation.browser))
      buildId := handshake.buildId }

/-- A check of the request that throws is the end of the handler. -/
def ofExcept {α : Type} : Except Exception α → ExtensionProg α
  | .ok a => .ret a
  | .error e => .throw e

/-! ## Helpers of the service -/

def buildFallbackExtensionSessionPolicy (env : ExtensionEnv) : ExtensionSessionPolicy where
  lifetimeHours := (env.extensionSessionTtlMinutes : ℚ) / 60
  refreshAfterSeconds := max 60 (env.extensionSessionTtlMinutes * 60 / 2)

def resolveExtensionSessionPolicy (env : ExtensionEnv) : ExtensionProg ExtensionSessionPolicy :=
  tryCatch (do
      let snapshot ← extension .retentionPolicyFind
      return snapshot.getD (buildFallbackExtensionSessionPolicy env))
    (fun _ => return buildFallbackExtensionSessionPolicy env)

/-- `new Date(issuedAt + lifetimeHours * 60 * 60 * 1000)`. -/
def sessionExpiry (issuedAt : ℤ) (lifetimeHours : ℚ) : ℤ :=
  issuedAt + (lifetimeHours * 60 * 60 * 1000).floor

/-- The clock and the random token of a new session. -/
structure NewSession where
  issuedAt : ℤ
  sessionToken : String

def issueInstallationSession (env : ExtensionEnv) (fresh : NewSession)
    (installation : ExtensionInstallation) (userId : String) (lifetimeHours : ℚ) :
    ExtensionProg (String × InstallationSessionRecord) := do
  let tokenRecord ← extension (.sessionCreate
    { extensionInstallationId := installation.id
      userId := userId
      tokenHash := env.hashOpaqueToken fresh.sessionToken
      expiresAt := sessionExpiry fresh.issuedAt lifetimeHours })
  return (fresh.sessionToken, tokenRecord)

/-- A failure to record the event is only logged. -/
def recordLifecycleEventSafely (event : LifecycleEvent) : ExtensionProg Unit :=
  tryCatch (extension (.recordLifecycleEvent event)) (fun _ => return ())

/-- `resolveInstallationSession`: the token must be that of an active session. -/
def resolveInstallationSession (env : ExtensionEnv) (accessToken : String) (now : ℤ) :
    ExtensionProg InstallationSessionRecord := do
  let tokenRecord ← extension (.sessionFindActive (env.hashOpaqueToken accessToken) now)
  match tokenRecord with
  | none => throw (.unauthorized "Installation session is invalid or expired.")
  | some tokenRecord => return tokenRecord

/-- The user as whom the holder of an installation token acts. -/
def buildInstallationRuntimeSession (installationSession : InstallationSessionRecord) : String :=
  installationSession.installation.userId

/-- The part of the bootstrap payload that depends on the installation. -/
structure BootstrapPayload where
  installationId : String
  environment : String
  userId : String
  buildId : Option String
  refreshAfterSeconds : ℤ
  degraded : Bool

def bootstrapPayload (installation : ExtensionInstallation) (environment : String)
    (handshake : CompatibilityHandshake) (refreshAfterSeconds : ℤ) (degraded : Bool) :
    BootstrapPayload where
  installationId := installation.installationId
  environment := environment
  userId := installation.userId
  buildId := handshake.buildId
  refreshAfterSeconds := refreshAfterSeconds
  degraded := degraded

def buildBootstrapPayload (installation : ExtensionInstallation) (environment : String)
    (handshake : CompatibilityHandshake) (refreshAfterSeconds : ℤ) :
    ExtensionProg BootstrapPayload := do
  extension .bootstrapFind
  return bootstrapPayload installation environment handshake refreshAfterSeconds false

/-! ## The handlers -/

structure BindRequest where
  installationId : Option String
  environment : Option String
  handshake : HandshakeInput
  occurredAt : ℤ
  fresh : NewSession

structure NormalizedBindRequest where
  installationId : String
  environment : String
  handshake : CompatibilityHandshake

def normalizeBindRequest (request : BindRequest) : Except Exception NormalizedBindRequest := do
  let installationId ← readRequiredString request.installationId "installationId"
  let environment ← readRequiredEnvironment (some (request.environment.getD "production"))
    "environment"
  let handshake ← normalizeHandshake request.handshake
  return { installationId := installationId
           environment := environment
           handshake := handshake }

structure SessionToken where
  token : String
  expiresAt : ℤ
  refreshAfterSeconds : ℤ

structure BindResult where
  installation : ExtensionInstallation
  buildId : Option String
  session : SessionToken
  bootstrap : BootstrapPayload

/-- The row that a handshake writes. -/
def boundInstallation (userId installationId : String) (handshake : CompatibilityHandshake)
    (lastSeenAt : ℤ) : BoundInstallation where
  userId := userId
  installationId := installationId
  browser := handshake.browser
  extensionVersion := handshake.extensionVersion
  schemaVersion := handshake.schemaVersion
  capabilities := handshake.capabilities
  lastSeenAt := lastSeenAt

/-- The part of `bindInstallationForCurrentSession` after the request has been
normalized. -/
def bindNormalized (env : ExtensionEnv) (session : CurrentSession) (request : BindRequest)
    (policy : ExtensionSessionPolicy) (normalized : NormalizedBindRequest) :
    ExtensionProg BindResult := do
  let existing ← extension (.installationFind normalized.installationId)
  let installation ← extension (.installationUpsert
    (boundInstallation session.userId normalized.installationId normalized.handshake
      request.occurredAt))
  let _ ← extension (.sessionRevokeActive installation.id request.occurredAt)
  let issued ← issueInstallationSession env request.fresh installation session.userId
    policy.lifetimeHours
  let bootstrap ← buildBootstrapPayload installation normalized.environment normalized.handshake
    policy.refreshAfterSeconds
  recordLifecycleEventSafely
    { actorId := session.userId
      targetId := installation.installationId
      auditEventType := if existing.isSome then "extension.installation_reconnected"
        else "extension.installation_bound"
      securityEventType := if existing.isSome then "extension.installation_session_reissued"
        else "extension.installation_session_issued"
      occurredAt := request.occurredAt }
  return { installation := installation
           buildId := normalized.handshake.buildId
           session :=
             { token := issued.1
               expiresAt := issued.2.expiresAt
               refreshAfterSeconds := policy.refreshAfterSeconds }
           bootstrap := bootstrap }

def bindInstallationForCurrentSession (env : ExtensionEnv) (session : CurrentSession)
    (request : BindRequest) : ExtensionProg BindResult := do
  let sessionPolicy ← resolveExtensionSessionPolicy env
  let normalized ← ofExcept (normalizeBindRequest request)
  bindNormalized env session request sessionPolicy normalized

structure BootstrapRequest where
  installationId : Option String
  environment : Option String
  handshake : HandshakeInput
  now : ℤ

/-- The checks of `bootstrapInstallationSession`. -/
def checkBootstrap (installationSession : InstallationSessionRecord) (request : BootstrapRequest) :
    Except Exception (String × CompatibilityHandshake) := do
  let installationId ← readRequiredString
    (request.installationId.or (some installationSession.installation.installationId))
    "installationId"
  if installationId ≠ installationSession.installation.installationId then
    throw (.unauthorized "Installation session does not match the requested installation.")
  else do
    let environment ← readRequiredEnvironment (some (request.environment.getD "production"))
      "environment"
    let handshake ← normalizeBootstrapHandshake request.handshake installationSession.installation
    return (environment, handshake)

/-- The installation is written back with the owner of the snapshot; when that
fails, the snapshot is used. -/
def refreshMetadata (installationSession : InstallationSessionRecord)
    (handshake : CompatibilityHandshake) (now : ℤ) : ExtensionProg ExtensionInstallation :=
  tryCatch (extension (.installationUpsert
      (boundInstallation installationSession.installation.userId
        installationSession.installation.installationId handshake now)))
    (fun _ => return { installationSession.installation with lastSeenAt := now })

def bootstrapInstallationSession (env : ExtensionEnv)
    (installationSession : InstallationSessionRecord) (request : BootstrapRequest) :
    ExtensionProg BootstrapPayload := do
  let sessionPolicy ← resolveExtensionSessionPolicy env
  let (environment, handshake) ← ofExcept (checkBootstrap installationSession request)
  let installation ← refreshMetadata installationSession handshake request.now
  tryCatch
    (buildBootstrapPayload installation environment handshake sessionPolicy.refreshAfterSeconds)
    (fun _ =>
      -- `buildDegradedBootstrapPayload`
      return bootstrapPayload installation environment handshake
        sessionPolicy.refreshAfterSeconds true)

/-- A request to disconnect or to rotate. -/
structure InstallationActionRequest where
  installationId : Option String
  reason : Option String
  occurredAt : ℤ
  fresh : NewSession

structure DisconnectResult where
  installationId : String
  revokedSessionCount : ℕ
  disconnectedAt : ℤ
  requiresReconnect : Bool

/-- The installation, when it is the user's. -/
def findOwnInstallation (session : CurrentSession) (installationId : String) :
    ExtensionProg ExtensionInstallation := do
  let installation ← extension (.installationFind installationId)
  match installation with
  | none => throw (.notFound "Extension installation not found.")
  | some installation =>
    if installation.userId ≠ session.userId then
      throw (.notFound "Extension installation not found.")
    else
      return installation

/-- What a disconnect does after it has revoked the sessions. -/
def reportDisconnect (session : CurrentSession) (auditEventType : String)
    (installation : ExtensionInstallation) (disconnectedAt : ℤ) (revokedSessionCount : ℕ) :
    ExtensionProg DisconnectResult := do
  recordLifecycleEventSafely
    { actorId := session.userId
      targetId := installation.installationId
      auditEventType := auditEventType
      securityEventType := "extension.installation_session_revoked"
      occurredAt := disconnectedAt }
  return { installationId := installation.installationId
           revokedSessionCount := revokedSessionCount
           disconnectedAt := disconnectedAt
           requiresReconnect := true }

/-- The part that `disconnectInstallationForCurrentSession` and
`selfDisconnectInstallationForCurrentSession` share. -/
def disconnectInstallation (session : CurrentSession) (auditEventType installationId : String)
    (disconnectedAt : ℤ) : ExtensionProg DisconnectResult := do
  let installation ← findOwnInstallation session installationId
  let revokedSessionCount ← extension (.sessionRevokeActive installation.id disconnectedAt)
  reportDisconnect session auditEventType installation disconnectedAt revokedSessionCount

/-- The checks of a request by the owner; only a self-disconnect gives no
reason. -/
def checkAction (session : CurrentSession) (installationId : Option String)
    (reason : Option (Option String)) : Except Exception String := do
  let installationId ← readRequiredString installationId "installationId"
  match session.access with
  | .error reasons => throw (.forbidden reasons)
  | .ok _ =>
    match reason with
    | none => return installationId
    | some reason => do
        let _ ← readRequiredActionReason reason
        return installationId

def disconnectInstallationForCurrentSession (session : CurrentSession)
    (request : InstallationActionRequest) : ExtensionProg DisconnectResult := do
  let installationId ← ofExcept (checkAction session request.installationId (some request.reason))
  disconnectInstallation session "extension.installation_disconnected" installationId
    request.occurredAt

def selfDisconnectInstallationForCurrentSession (session : CurrentSession)
    (request : InstallationActionRequest) : ExtensionProg DisconnectResult := do
  let installationId ← ofExcept (checkAction session request.installationId none)
  disconnectInstallation session "extension.installation_self_disconnected" installationId
    request.occurredAt

structure RotateResult where
  installationId : String
  revokedSessionCount : ℕ
  rotatedAt : ℤ
  session : SessionToken

/-- The part of `rotateInstallationSessionForCurrentSession` after the checks. -/
def rotateInstallationSession (env : ExtensionEnv) (session : CurrentSession)
    (request : InstallationActionRequest) (policy : ExtensionSessionPolicy)
    (installationId : String) : ExtensionProg RotateResult := do
  let installation ← findOwnInstallation session installationId
  let revokedSessionCount ← extension (.sessionRevokeActive installation.id request.occurredAt)
  let issued ← issueInstallationSession env request.fresh installation installation.userId
    policy.lifetimeHours
  recordLifecycleEventSafely
    { actorId := session.userId
      targetId := installation.installationId
      auditEventType := "extension.installation_session_rotated"
      securityEventType := "extension.installation_session_rotated"
      occurredAt := request.occurredAt }
  return { installationId := installation.installationId
           revokedSessionCount := revokedSessionCount
           rotatedAt := request.occurredAt
           session :=
             { token := issued.1
               expiresAt := issued.2.expiresAt
               refreshAfterSeconds := policy.refreshAfterSeconds } }

def rotateInstallationSessionForCurrentSession (env : ExtensionEnv) (session : CurrentSession)
    (request : InstallationActionRequest) : ExtensionProg RotateResult := do
  let sessionPolicy ← resolveExtensionSessionPolicy env
  let installationId ← ofExcept (checkAction session request.installationId (some request.reason))
  rotateInstallationSession env session request sessionPolicy installationId

structure RefreshResult where
  installationId : String
  installationToken : String
  tokenExpiresAt : ℤ
  refreshAfterSeconds : ℤ
  status : String

/-- The session is revoked by its id, whether it is still active or not, and a
new one is issued. -/
def refreshInstallationSessionForToken (env : ExtensionEnv)
    (installationSession : InstallationSessionRecord) (refreshedAt : ℤ) (fresh : NewSession) :
    ExtensionProg RefreshResult := do
  let sessionPolicy ← resolveExtensionSessionPolicy env
  let _ ← extension (.sessionRevoke installationSession.id refreshedAt)
  let issued ← issueInstallationSession env fresh installationSession.installation
    installationSession.installation.userId sessionPolicy.lifetimeHours
  recordLifecycleEventSafely
    { actorId := installationSession.installation.userId
      targetId := installationSession.installation.installationId
      auditEventType := "extension.installation_session_refreshed"
      securityEventType := "extension.installation_session_refreshed"
      occurredAt := refreshedAt }
  return { installationId := installationSession.installation.installationId
           installationToken := issued.1
           tokenExpiresAt := issued.2.expiresAt
           refreshAfterSeconds := sessionPolicy.refreshAfterSeconds
           status := "refreshed" }

/-! ## The endpoints as a machine -/

/-- What can arrive. -/
inductive ExtensionRequest where
  | bind (session : CurrentSession) (request : BindRequest)
  | bootstrap (accessToken : String) (now : ℤ) (request : BootstrapRequest)
  | refresh (accessToken : String) (now refreshedAt : ℤ) (fresh : NewSession)
  | rotate (session : CurrentSession) (request : InstallationActionRequest)
  | disconnect (session : CurrentSession) (request : InstallationActionRequest)
  | selfDisconnect (session : CurrentSession) (request : InstallationActionRequest)

inductive ExtensionReply where
  | bound (r : BindResult)
  | bootstrapped (r : BootstrapPayload)
  | refreshed (r : RefreshResult)
  | rotated (r : RotateResult)
  | disconnected (r : DisconnectResult)

def extensionCode (env : ExtensionEnv) : ExtensionRequest → ExtensionProg ExtensionReply
  | .bind session request => do
      let r ← bindInstallationForCurrentSession env session request
      return .bound r
  | .bootstrap accessToken now request => do
      let installationSession ← resolveInstallationSession env accessToken now
      let r ← bootstrapInstallationSession env installationSession request
      return .bootstrapped r
  | .refresh accessToken now refreshedAt fresh => do
      let installationSession ← resolveInstallationSession env accessToken now
      let r ← refreshInstallationSessionForToken env installationSession refreshedAt fresh
      return .refreshed r
  | .rotate session request => do
      let r ← rotateInstallationSessionForCurrentSession env session request
      return .rotated r
  | .disconnect session request => do
      let r ← disconnectInstallationForCurrentSession session request
      return .disconnected r
  | .selfDisconnect session request => do
      let r ← selfDisconnectInstallationForCurrentSession session request
      return .disconnected r

def extensionMachine (env : ExtensionEnv) :
    Machine ExtensionCall ExtensionCall.Res Exception ExtensionReply ExtensionStore
      ExtensionRequest where
  exec := ExtensionCall.exec
  code := extensionCode env

end QuizMind
