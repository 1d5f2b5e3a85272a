import QuizMind.Access.Permissions
import QuizMind.Ai.Usage
import QuizMind.Table.Select

/-! # The usage history

`listUsageHistoryForCurrentSession`: three queries, one over the telemetry of the
caller's installations and two over rows of a user, are merged, cut and filtered.

A row of the telemetry is with its installation. A date is its milliseconds, and rows
with the same date stay in the order of the table. `numberText` is `String` on a number.
-/

namespace QuizMind

/-! ## Rows -/

inductive EventSeverity where
  | debug
  | info
  | warn
  | error
  deriving DecidableEq

structure TelemetryInstallation where
  installationId : String
  userId : String

structure WorkspaceTelemetryRecord where
  id : String
  eventType : String
  severity : EventSeverity
  payloadJson : Option Ai.JsValue
  createdAt : ℤ
  installation : TelemetryInstallation

structure WorkspaceActivityRecord where
  id : String
  actorId : Option String
  eventType : String
  metadataJson : Option Ai.JsValue
  createdAt : ℤ

structure WorkspaceAiRequestRecord where
  id : String
  userId : String
  installationId : Option String
  provider : String
  model : String
  totalTokens : ℤ
  keySource : String
  status : String
  errorCode : Option String
  durationMs : Option ℤ
  requestMetadata : Option Ai.JsValue
  occurredAt : ℤ
  createdAt : ℤ

structure UsageTables where
  telemetry : List WorkspaceTelemetryRecord
  activity : List WorkspaceActivityRecord
  aiRequests : List WorkspaceAiRequestRecord

/-! ## Reading the filters -/

inductive UsageHistorySourceFilter where
  | all
  | telemetry
  | activity
  | ai
  deriving DecidableEq

/-- The members of the query; a limit that is no finite number is `some none`. -/
structure UsageHistoryRequest where
  source : Option String
  eventType : Option String
  installationId : Option String
  actorId : Option String
  limit : Option (Option ℚ)

structure UsageHistoryFilters where
  source : UsageHistorySourceFilter
  eventType : Option String
  installationId : Option String
  actorId : Option String
  limit : ℕ
  deriving DecidableEq

def defaultUsageHistoryLimit : ℕ := 25

def maxUsageHistoryLimit : ℕ := 200

def normalizeUsageHistoryLimit : Option (Option ℚ) → Except Exception ℕ
  | none => .ok defaultUsageHistoryLimit
  | some (some value) =>
    if value.den ≠ 1 ∨ value < 1 ∨ (maxUsageHistoryLimit : ℚ) < value then
      .error (.badRequest s!"limit must be an integer between 1 and {maxUsageHistoryLimit}.")
    else
      .ok value.num.toNat
  | some none =>
    .error (.badRequest s!"limit must be an integer between 1 and {maxUsageHistoryLimit}.")

def normalizeUsageHistorySource : Option String → Except Exception UsageHistorySourceFilter
  | none => .ok .all
  | some value =>
    if value = "all" then .ok .all
    else if value = "telemetry" then .ok .telemetry
    else if value = "activity" then .ok .activity
    else if value = "ai" then .ok .ai
    else .error (.badRequest "source must be one of: all, telemetry, activity, ai.")

def normalizeUsageHistoryString (value : Option String) : Option String :=
  (value.map jsTrim).filter (· ≠ "")

def normalizeUsageHistoryFilters (input : UsageHistoryRequest) :
    Except Exception UsageHistoryFilters := do
  let source ← normalizeUsageHistorySource input.source
  let eventType := normalizeUsageHistoryString input.eventType
  let installationId := normalizeUsageHistoryString input.installationId
  let actorId := normalizeUsageHistoryString input.actorId
  let limit ← normalizeUsageHistoryLimit input.limit
  if source = .telemetry ∧ actorId.isSome then
    throw (.badRequest "actorId filter is only supported for activity or ai sources.")
  if source = .activity ∧ installationId.isSome then
    throw (.badRequest "installationId filter is only supported for telemetry or ai sources.")
  return { source := source
           eventType := eventType
           installationId := installationId
           actorId := actorId
           limit := limit }

/-! ## The queries -/

/-- A filter that is not given lets everything through. -/
def matchesFilter (filter value : Option String) : Bool := filter.isNone || filter == value

def listTelemetryHistoryByUserId (userId : String) (limit : ℕ)
    (eventType installationId : Option String) (tables : UsageTables) :
    List WorkspaceTelemetryRecord :=
  Table.select (fun a b => b.createdAt ≤ a.createdAt)
    (fun record => matchesFilter eventType (some record.eventType) &&
      record.installation.userId == userId &&
      matchesFilter installationId (some record.installation.installationId))
    limit tables.telemetry

def listActivityHistoryByUserId (userId : String) (limit : ℕ) (eventType actorId : Option String)
    (tables : UsageTables) : List WorkspaceActivityRecord :=
  Table.select (fun a b => b.createdAt ≤ a.createdAt)
    (fun record => record.actorId == some (actorId.getD userId) &&
      matchesFilter eventType (some record.eventType))
    limit tables.activity

def listAiRequestHistoryByUserId (userId : String) (limit : ℕ)
    (actorId installationId : Option String) (tables : UsageTables) :
    List WorkspaceAiRequestRecord :=
  Table.select (fun a b => b.occurredAt < a.occurredAt ∨
      b.occurredAt = a.occurredAt ∧ b.createdAt ≤ a.createdAt)
    (fun record => record.userId == actorId.getD userId &&
      matchesFilter installationId record.installationId)
    limit tables.aiRequests

/-! ## The events -/

inductive UsageEventSource where
  | telemetry
  | activity
  | ai
  deriving DecidableEq

structure UsageRecentEventSummary where
  id : String
  source : UsageEventSource
  eventType : String
  severity : Option EventSeverity
  occurredAt : ℤ
  installationId : Option String
  actorId : Option String
  summary : List Char

def resolveAiRequestEventType (status : String) : String :=
  if status = "quota_exceeded" then "ai.proxy.quota_exceeded"
  else if status = "error" then "ai.proxy.failed"
  else "ai.proxy.completed"

def resolveAiRequestSeverity (status : String) : EventSeverity :=
  if status = "quota_exceeded" then .warn
  else if status = "error" then .error
  else .info

section

variable (numberText : Option ℚ → List Char)

/-- `String(value)` of a string, a number or a boolean. -/
def primitiveText : Ai.JsValue → Option (List Char)
  | .string text => some text
  | .number n => some (numberText n)
  | .bool b => some (if b then "true".toList else "false".toList)
  | _ => none

def noMetadata : List Char := "No metadata attached.".toList

def metadataRecorded : List Char := "Metadata recorded.".toList

def summarizeRecord : Option Ai.JsValue → List Char
  | some (.object members) =>
    let entries := (members.filterMap fun (key, value) =>
      (primitiveText numberText value).map fun text => key.toList ++ '=' :: text).take 3
    if entries = [] then metadataRecorded else " | ".toList.intercalate entries
  | _ => noMetadata

def summarizeAiRequest (record : WorkspaceAiRequestRecord) : List Char :=
  let errorCode := record.errorCode.getD "unknown"
  let parts :=
    [s!"provider={record.provider}".toList, s!"model={record.model}".toList,
      s!"key={record.keySource}".toList] ++
    (if 0 < record.totalTokens then [s!"tokens={record.totalTokens}".toList] else []) ++
    (match record.durationMs with
      | some durationMs => if 0 ≤ durationMs then [s!"durationMs={durationMs}".toList] else []
      | none => []) ++
    (if record.status ≠ "success" then [s!"error={errorCode}".toList] else [])
  let metadataSummary := summarizeRecord numberText record.requestMetadata
  " | ".toList.intercalate
    (if metadataSummary ≠ noMetadata ∧ metadataSummary ≠ metadataRecorded then
      parts ++ [metadataSummary] else parts)

def telemetryEvent (record : WorkspaceTelemetryRecord) : UsageRecentEventSummary where
  id := s!"telemetry:{record.id}"
  source := .telemetry
  eventType := record.eventType
  severity := some record.severity
  occurredAt := record.createdAt
  installationId := some record.installation.installationId
  actorId := none
  summary := summarizeRecord numberText record.payloadJson

def activityEvent (record : WorkspaceActivityRecord) : UsageRecentEventSummary where
  id := s!"activity:{record.id}"
  source := .activity
  eventType := record.eventType
  severity := none
  occurredAt := record.createdAt
  installationId := none
  actorId := record.actorId
  summary := summarizeRecord numberText record.metadataJson

def aiRequestEvent (record : WorkspaceAiRequestRecord) : UsageRecentEventSummary where
  id := s!"ai:{record.id}"
  source := .ai
  eventType := resolveAiRequestEventType record.status
  severity := some (resolveAiRequestSeverity record.status)
  occurredAt := record.occurredAt
  installationId := record.installationId
  actorId := some record.userId
  summary := summarizeAiRequest numberText record

def buildRecentUsageEvents (telemetry : List WorkspaceTelemetryRecord)
    (activity : List WorkspaceActivityRecord) (aiRequests : List WorkspaceAiRequestRecord)
    (limit : ℕ) : List UsageRecentEventSummary :=
  Table.select (fun a b => b.occurredAt ≤ a.occurredAt) (fun _ => true) limit
    (telemetry.map (telemetryEvent numberText) ++ activity.map (activityEvent numberText) ++
      aiRequests.map (aiRequestEvent numberText))

/-! ## The handler -/

def UsageHistorySourceFilter.accepts : UsageHistorySourceFilter → UsageEventSource → Bool
  | .all, _ => true
  | .telemetry, source => source = .telemetry
  | .activity, source => source = .activity
  | .ai, source => source = .ai

/-- The item passes all four filters. -/
def UsageHistoryFilters.accepts (filters : UsageHistoryFilters) (item : UsageRecentEventSummary) :
    Bool :=
  filters.source.accepts item.source && matchesFilter filters.eventType (some item.eventType) &&
    matchesFilter filters.installationId item.installationId &&
    matchesFilter filters.actorId item.actorId

def filterUsageHistoryItems (items : List UsageRecentEventSummary) (filters : UsageHistoryFilters) :
    List UsageRecentEventSummary :=
  (items.filter filters.accepts).take filters.limit

/-- The events of the three queries; a query whose source is not asked for is not made. -/
def usageEvents (userId : String) (filters : UsageHistoryFilters) (tables : UsageTables) :
    List UsageRecentEventSummary :=
  let fetchLimit := min (filters.limit * 2) maxUsageHistoryLimit
  let telemetry :=
    if filters.source = .activity ∨ filters.source = .ai then []
    else listTelemetryHistoryByUserId userId fetchLimit filters.eventType filters.installationId
      tables
  let activity :=
    if filters.source = .telemetry ∨ filters.source = .ai then []
    else listActivityHistoryByUserId userId fetchLimit filters.eventType filters.actorId tables
  let aiRequests :=
    if filters.source = .telemetry ∨ filters.source = .activity then []
    else listAiRequestHistoryByUserId userId fetchLimit filters.actorId filters.installationId
      tables
  buildRecentUsageEvents numberText telemetry activity aiRequests
    (min (fetchLimit * 2) maxUsageHistoryLimit)

structure WorkspaceUsageHistorySnapshot where
  accessDecision : AccessDecision
  exportDecision : AccessDecision
  filters : UsageHistoryFilters
  items : List UsageRecentEventSummary
  permissions : List Permission

def canExportUsage (principal : SessionPrincipal) : AccessDecision :=
  evaluateAccess principal .usageExport

def listUsageHistoryForCurrentSession (session : CurrentSessionSnapshot)
    (request : UsageHistoryRequest) (tables : UsageTables) :
    Except Exception WorkspaceUsageHistorySnapshot := do
  requireAccess (canReadUsage session.principal)
  let filters ← normalizeUsageHistoryFilters request
  return { accessDecision := canReadUsage session.principal
           exportDecision := canExportUsage session.principal
           filters := filters
           items := filterUsageHistoryItems (usageEvents numberText session.userId filters tables)
             filters
           permissions := resolvePermissions session.principal.systemRoles true }

end

end QuizMind
