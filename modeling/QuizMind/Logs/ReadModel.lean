import QuizMind.Logs.AdminLogEvent
import QuizMind.Table.Upsert

/-! # The two ways into the admin log's read model

`upsertAdminLogEventsBestEffort` stores what the write path builds from the rows that it has
just created; `AdminLogBackfillService.upsertBatch` stores what is rebuilt from rows that are
read later. Both look up the actor and an AI request and complete the columns with them.

The database reads are over the same users and AI requests; a call that fails is left out, and
so is the rejection of a value by the type of its column.
-/

namespace QuizMind.Logs

open Ai (JsValue Payload trimText)

/-! ## Source rows -/

structure CreatedAuditLogRow where
  id : List Char
  action : List Char
  actorId : Option (List Char)
  targetType : List Char
  targetId : List Char
  metadataJson : JsValue
  createdAt : ℤ

structure CreatedActivityLogRow where
  id : List Char
  eventType : List Char
  actorId : Option (List Char)
  metadataJson : JsValue
  createdAt : ℤ

structure CreatedSecurityEventRow where
  id : List Char
  eventType : List Char
  actorId : Option (List Char)
  severity : EventSeverity
  metadataJson : JsValue
  createdAt : ℤ

structure CreatedDomainEventRow where
  id : List Char
  eventType : List Char
  payloadJson : JsValue
  createdAt : ℤ

/-- A row of one of the four log tables; a column without a value is `JsValue.null`. -/
inductive SourceRow where
  | audit (row : CreatedAuditLogRow)
  | activity (row : CreatedActivityLogRow)
  | security (row : CreatedSecurityEventRow)
  | domain (row : CreatedDomainEventRow)

namespace SourceRow

def stream : SourceRow → LegacyAdminLogStream
  | .audit _ => .audit
  | .activity _ => .activity
  | .security _ => .security
  | .domain _ => .domain

def id : SourceRow → List Char
  | .audit row => row.id
  | .activity row => row.id
  | .security row => row.id
  | .domain row => row.id

def key (row : SourceRow) : LegacyAdminLogStream × List Char := (row.stream, row.id)

/-- The metadata of the row, or the payload of a domain event. -/
def json : SourceRow → JsValue
  | .audit row => row.metadataJson
  | .activity row => row.metadataJson
  | .security row => row.metadataJson
  | .domain row => row.payloadJson

end SourceRow

/-! ## The database -/

structure ActorIdentity where
  email : List Char
  displayName : Option (List Char)

structure User where
  id : List Char
  identity : ActorIdentity

/-- The columns of an AI request that the logs read. -/
structure AdminAiRequestProjection where
  id : List Char
  provider : Option (List Char)
  model : Option (List Char)
  durationMs : Option ℚ
  estimatedCostUsd : Option ℚ
  promptTokens : Option ℚ
  completionTokens : Option ℚ
  totalTokens : Option ℚ
  promptExcerpt : Option (List Char)
  status : Option (List Char)

structure Database where
  users : List User
  aiRequestEvents : List AdminAiRequestProjection

/-- The table `AdminLogEvent`: a row has the columns of a create input. -/
abbrev AdminLogEvent := AdminLogEventCreateInput

/-- An update leaves the columns of absent members as they are. -/
def AdminLogEvent.update (row data : AdminLogEventCreateInput) : AdminLogEvent :=
  { row with
    eventType := data.eventType
    summary := data.summary
    occurredAt := data.occurredAt
    severity := data.severity.or row.severity
    status := data.status.or row.status
    actorId := data.actorId.or row.actorId
    actorEmail := data.actorEmail.or row.actorEmail
    actorDisplayName := data.actorDisplayName.or row.actorDisplayName
    targetType := data.targetType.or row.targetType
    targetId := data.targetId.or row.targetId
    category := data.category
    source := data.source.or row.source
    installationId := data.installationId.or row.installationId
    provider := data.provider.or row.provider
    model := data.model.or row.model
    durationMs := data.durationMs.or row.durationMs
    costUsd := data.costUsd.or row.costUsd
    promptTokens := data.promptTokens.or row.promptTokens
    completionTokens := data.completionTokens.or row.completionTokens
    totalTokens := data.totalTokens.or row.totalTokens
    errorSummary := data.errorSummary.or row.errorSummary
    searchText := data.searchText.or row.searchText
    metadataJson := data.metadataJson.or row.metadataJson
    payloadJson := data.payloadJson.or row.payloadJson }

/-- The unique key of the table. -/
def AdminLogEvent.key (row : AdminLogEventCreateInput) : LegacyAdminLogStream × List Char :=
  (row.stream, row.sourceRecordId)

/-- The row of a stream and a source row. -/
def storedRow (table : List AdminLogEvent) (stream : LegacyAdminLogStream) (id : List Char) :
    Option AdminLogEvent :=
  table.find? fun row => AdminLogEvent.key row = (stream, id)

/-! ## What both ways share -/

/-- The identities of the actors that are named. -/
def resolveActorIdentities (db : Database) (actorIds : List (List Char)) : List User :=
  db.users.filter fun user => user.id ∈ actorIds.filter fun id => trimText id ≠ []

/-- `directory.get(actorId)`. -/
def actorIdentity (directory : List User) (actorId : List Char) : Option ActorIdentity :=
  (directory.find? fun user => user.id = actorId).map fun user => user.identity

def enrichSearchTextWithActorIdentity (L : LetterCase) (searchText : Option (List Char))
    (actorIdentity : Option ActorIdentity) : Option (List Char) :=
  if (truthyText searchText).isNone ∧ actorIdentity.isNone then
    searchText
  else
    let email := actorIdentity.bind fun identity => truthyText (some identity.email)
    let displayName := actorIdentity.bind fun identity => truthyText identity.displayName
    let parts := searchText.getD [] ::
      (email.map L.toLowerCase).toList ++ (displayName.map L.toLowerCase).toList
    truthyText (some (trimText (joinWords parts)))

def normalizeAdminAiStatus (status : Option (List Char)) : Option AdminLogStatus :=
  match status with
  | none => none
  | some status =>
    if status = "success".toList then some .success
    else if status ∈ ["error".toList, "failed".toList, "failure".toList,
        "quota_exceeded".toList, "timeout".toList] then
      some .failure
    else none

/-- `buildAdminAiLogPatchFromAiRequestEvent`. -/
structure AdminAiLogPatch where
  targetType : Option (List Char)
  targetId : Option (List Char)
  provider : Option (List Char)
  model : Option (List Char)
  status : Option AdminLogStatus
  durationMs : Option ℚ
  costUsd : Option ℚ
  promptTokens : Option ℚ
  completionTokens : Option ℚ
  totalTokens : Option ℚ

def buildAdminAiLogPatchFromAiRequestEvent (aiRequest : AdminAiRequestProjection) :
    AdminAiLogPatch where
  targetType := some "ai_request".toList
  targetId := some aiRequest.id
  provider := aiRequest.provider
  model := aiRequest.model
  status := normalizeAdminAiStatus aiRequest.status
  durationMs := aiRequest.durationMs
  costUsd := aiRequest.estimatedCostUsd
  promptTokens := aiRequest.promptTokens
  completionTokens := aiRequest.completionTokens
  totalTokens := aiRequest.totalTokens

structure CandidateInput where
  targetType : Option (List Char) := none
  targetId : Option (List Char) := none
  sourceRecordId : Option (List Char) := none
  metadata : Option JsValue := none
  payload : Option JsValue := none

/-- The members of one object that may name an AI request. -/
def objectCandidates (object : Option JsValue) : List (Option (List Char)) :=
  let requestMetadata := get object "requestMetadata"
  [toText (get object "aiRequestEventId"), toText (get object "requestId"),
    toText (get object "aiRequestId"), toText (get requestMetadata "aiRequestEventId"),
    toText (get requestMetadata "requestId"), toText (get requestMetadata "aiRequestId")]

/-- `push`: a text that is not blank, trimmed. -/
def pushed (value : Option (List Char)) : Option (List Char) :=
  toText (value.map JsValue.string)

def collectAdminAiRequestCandidateIds (input : CandidateInput) : List (List Char) :=
  let target := if input.targetType = some "ai_request".toList then pushed input.targetId else none
  ((target :: objectCandidates input.metadata ++ objectCandidates input.payload ++
    [pushed input.sourceRecordId]).filterMap fun candidate => candidate).eraseDups

/-- The first candidate that has a row. -/
def firstAiRequest (rows : List AdminAiRequestProjection) (candidates : List (List Char)) :
    Option AdminAiRequestProjection :=
  candidates.findSome? fun candidate => rows.find? fun row => row.id = candidate

/-- `findMany` over the AI requests. -/
def findAiRequests (db : Database) (ids : List (List Char)) : List AdminAiRequestProjection :=
  db.aiRequestEvents.filter fun row => row.id ∈ ids

/-- `[searchText, promptExcerpt].filter(Boolean).join(' ').toLowerCase()`. -/
def searchTextWithExcerpt (L : LetterCase) (searchText promptExcerpt : Option (List Char)) :
    List Char :=
  L.toLowerCase (joinWords (present [searchText, promptExcerpt]))

/-! ## The write path -/

namespace WritePath

def toMetadata : JsValue → Option Payload
  | .object members => some members
  | _ => none

/-- `{ ...members, [key]: value }`. -/
def setMember (members : Payload) (key : String) (value : JsValue) : Payload :=
  match members with
  | [] => [(key, value)]
  | (k, v) :: rest => if k = key then (k, value) :: rest else (k, v) :: setMember rest key value

/-- `...(typeof metadata?.[key] === 'string' ? { [key]: metadata[key] } : {})`. -/
def spreadText (metadata : Option Payload) (key : String) (members : Payload) : Payload :=
  match metadata.bind fun m => m.lookup key with
  | some (.string text) => setMember members key (.string text)
  | _ => members

def withActorMetadata (metadata : Option Payload) : JsValue :=
  .object (spreadText metadata "actorDisplayName"
    (spreadText metadata "actorEmail" (metadata.getD [])))

/-- `buildReadModelFromAuditRow` and its siblings, up to the builder that they call. -/
def buildInput : SourceRow → BuildAdminLogEventInput
  | .audit row =>
    { stream := .audit
      sourceRecordId := row.id
      eventType := row.action
      occurredAt := row.createdAt
      actorId := row.actorId
      targetType := some row.targetType
      targetId := some row.targetId
      metadata := some (withActorMetadata (toMetadata row.metadataJson)) }
  | .activity row =>
    { stream := .activity
      sourceRecordId := row.id
      eventType := row.eventType
      occurredAt := row.createdAt
      actorId := row.actorId
      metadata := some (withActorMetadata (toMetadata row.metadataJson)) }
  | .security row =>
    { stream := .security
      sourceRecordId := row.id
      eventType := row.eventType
      occurredAt := row.createdAt
      actorId := row.actorId
      severity := some row.severity
      metadata := some (withActorMetadata (toMetadata row.metadataJson)) }
  | .domain row =>
    { stream := .domain
      sourceRecordId := row.id
      eventType := row.eventType
      occurredAt := row.createdAt
      payload := (toMetadata row.payloadJson).map JsValue.object }

def buildReadModelFromRow (L : LetterCase) (row : SourceRow) : AdminLogEventCreateInput :=
  buildAdminLogEventCreateInput L (buildInput row)

/-- `toMetadata` on a member of the create input. -/
def objectOf (value : Option JsValue) : Option JsValue :=
  (value.bind toMetadata).map JsValue.object

def aiRequestCandidates (data : AdminLogEventCreateInput) : List (List Char) :=
  collectAdminAiRequestCandidateIds
    { targetType := data.targetType
      targetId := data.targetId
      sourceRecordId := some data.sourceRecordId
      metadata := objectOf data.metadataJson
      payload := objectOf data.payloadJson }

/-- `...(aiPatch ? { .. } : {})`. -/
def withAiPatch (data : AdminLogEventCreateInput) (aiPatch : Option AdminAiLogPatch) :
    AdminLogEventCreateInput :=
  match aiPatch with
  | none => data
  | some aiPatch =>
    { data with
      targetType := data.targetType.or aiPatch.targetType
      targetId := data.targetId.or aiPatch.targetId
      provider := data.provider.or aiPatch.provider
      model := data.model.or aiPatch.model
      status := data.status.or aiPatch.status
      durationMs := data.durationMs.or aiPatch.durationMs
      costUsd := data.costUsd.or aiPatch.costUsd
      promptTokens := data.promptTokens.or aiPatch.promptTokens
      completionTokens := data.completionTokens.or aiPatch.completionTokens
      totalTokens := data.totalTokens.or aiPatch.totalTokens }

def enrichReadModelActorFields (L : LetterCase) (data : AdminLogEventCreateInput)
    (actorIdentity : Option ActorIdentity) : AdminLogEventCreateInput :=
  match data.actorId, actorIdentity with
  | some _, some identity =>
    { data with
      actorEmail := data.actorEmail.or (some identity.email)
      actorDisplayName := data.actorDisplayName.or identity.displayName
      searchText := enrichSearchTextWithActorIdentity L data.searchText (some identity) }
  | _, _ => data

/-- The row that is upserted for one event. -/
def createData (L : LetterCase) (db : Database) (directory : List User)
    (data : AdminLogEventCreateInput) : AdminLogEventCreateInput :=
  let aiRequestCandidates := aiRequestCandidates data
  let aiRequest := firstAiRequest (findAiRequests db aiRequestCandidates) aiRequestCandidates
  let baseData :=
    { withAiPatch data (aiRequest.map buildAdminAiLogPatchFromAiRequestEvent) with
      searchText := some (searchTextWithExcerpt L data.searchText
        (aiRequest.bind fun request => request.promptExcerpt)) }
  enrichReadModelActorFields L baseData (data.actorId.bind (actorIdentity directory))

def upsertAdminLogEventsBestEffort (L : LetterCase) (db : Database)
    (events : List AdminLogEventCreateInput) (table : List AdminLogEvent) : List AdminLogEvent :=
  let actorDirectory := resolveActorIdentities db (present (events.map fun data => data.actorId))
  Table.upsertAll AdminLogEvent.key AdminLogEvent.update table
    (events.map (createData L db actorDirectory))

end WritePath

/-! ## The backfill -/

namespace Backfill

/-- `(value as Record<string, unknown> | null) ?? undefined`. -/
def orUndefined : JsValue → Option JsValue
  | .null => none
  | value => some value

def skippedAiProxyDomainEventTypes : List (List Char) :=
  ["ai.proxy.completed".toList, "ai.proxy.failed".toList, "ai.proxy.quota_exceeded".toList,
    "ai.proxy.timeout".toList]

/-- `shouldSkipDomainProjection`, for any row. -/
def skipped : SourceRow → Bool
  | .domain row => row.eventType ∈ skippedAiProxyDomainEventTypes
  | _ => false

def buildInput : SourceRow → BuildAdminLogEventInput
  | .audit row =>
    { stream := .audit
      sourceRecordId := row.id
      eventType := row.action
      occurredAt := row.createdAt
      actorId := row.actorId
      targetType := some row.targetType
      targetId := some row.targetId
      metadata := orUndefined row.metadataJson }
  | .activity row =>
    { stream := .activity
      sourceRecordId := row.id
      eventType := row.eventType
      occurredAt := row.createdAt
      actorId := row.actorId
      metadata := orUndefined row.metadataJson }
  | .security row =>
    { stream := .security
      sourceRecordId := row.id
      eventType := row.eventType
      occurredAt := row.createdAt
      actorId := row.actorId
      severity := some row.severity
      metadata := orUndefined row.metadataJson }
  | .domain row =>
    { stream := .domain
      sourceRecordId := row.id
      eventType := row.eventType
      occurredAt := row.createdAt
      payload := orUndefined row.payloadJson }

def buildRow (L : LetterCase) (row : SourceRow) : AdminLogEventCreateInput :=
  buildAdminLogEventCreateInput L (buildInput row)

/-- What `backfillAudit` and its siblings make of the rows that they have read. -/
def buildBatch (L : LetterCase) (rows : List SourceRow) : List AdminLogEventCreateInput :=
  (rows.filter fun row => !skipped row).map (buildRow L)

/-- What is searched for AI requests is the create input itself, whose members have other
names than those that are looked for. -/
def aiRequestCandidates (data : AdminLogEventCreateInput) : List (List Char) :=
  collectAdminAiRequestCandidateIds
    { targetType := data.targetType
      targetId := data.targetId
      metadata := some (.object []) }

/-- `{ ...row.data, ...patch }`. -/
def spreadPatch (data : AdminLogEventCreateInput) (patch : AdminAiLogPatch) :
    AdminLogEventCreateInput :=
  { data with
    targetType := patch.targetType
    targetId := patch.targetId
    provider := patch.provider
    model := patch.model
    status := patch.status
    durationMs := patch.durationMs
    costUsd := patch.costUsd
    promptTokens := patch.promptTokens
    completionTokens := patch.completionTokens
    totalTokens := patch.totalTokens }

def enrichedData (L : LetterCase) (data : AdminLogEventCreateInput)
    (aiRequest : Option AdminAiRequestProjection) : AdminLogEventCreateInput :=
  match aiRequest with
  | none => data
  | some aiRequest =>
    { spreadPatch data (buildAdminAiLogPatchFromAiRequestEvent aiRequest) with
      targetType := data.targetType.or (some "ai_request".toList)
      targetId := data.targetId.or (some aiRequest.id)
      provider := data.provider.or aiRequest.provider
      model := data.model.or aiRequest.model
      status := data.status.or (normalizeAdminAiStatus aiRequest.status)
      durationMs := data.durationMs.or aiRequest.durationMs
      costUsd := data.costUsd.or aiRequest.estimatedCostUsd
      promptTokens := data.promptTokens.or aiRequest.promptTokens
      completionTokens := data.completionTokens.or aiRequest.completionTokens
      totalTokens := data.totalTokens.or aiRequest.totalTokens
      searchText := some (searchTextWithExcerpt L data.searchText aiRequest.promptExcerpt) }

/-- The row that is upserted for one row of the batch. -/
def createData (L : LetterCase) (directory : List User)
    (aiRequestRows : List AdminAiRequestProjection) (data : AdminLogEventCreateInput) :
    AdminLogEventCreateInput :=
  let actorIdentity := data.actorId.bind (actorIdentity directory)
  let aiRequest := firstAiRequest aiRequestRows (aiRequestCandidates data)
  let enriched := enrichedData L data aiRequest
  { enriched with
    actorEmail := enriched.actorEmail.or (actorIdentity.map fun identity => identity.email)
    actorDisplayName :=
      enriched.actorDisplayName.or (actorIdentity.bind fun identity => identity.displayName)
    searchText := enrichSearchTextWithActorIdentity L enriched.searchText actorIdentity }

def upsertBatch (L : LetterCase) (db : Database) (rows : List AdminLogEventCreateInput)
    (table : List AdminLogEvent) : List AdminLogEvent :=
  let actorDirectory := resolveActorIdentities db (present (rows.map fun data => data.actorId))
  let aiRequestIds := (rows.flatMap aiRequestCandidates).eraseDups
  let aiRequestRows := findAiRequests db aiRequestIds
  Table.upsertAll AdminLogEvent.key AdminLogEvent.update table
    (rows.map (createData L actorDirectory aiRequestRows))

end Backfill

end QuizMind.Logs
