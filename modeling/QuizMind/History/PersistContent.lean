import QuizMind.History.Cleanup
import QuizMind.History.PromptAttachments

/-! # Writing contents and attachments

`persistContent` stamps the content of an event and its attachments with two expiry times,
stores the blobs, and writes the rows: the content row of the event is updated or created, and
its prompt attachments are replaced.
-/

namespace QuizMind.History

open RemoteConfig (JsonValue)

/-! ## Keys -/

def promptKey (requestId : String) : String := "requests/" ++ requestId ++ "/prompt.json"

def responseKey (requestId : String) : String := "requests/" ++ requestId ++ "/response.json"

def fileKey (requestId : String) : String := "requests/" ++ requestId ++ "/file.bin"

/-! ## The rows -/

/-- What the transaction is given for the content and the attachments; `none` is `undefined`. -/
structure UpsertContentInput where
  eventId : String
  expiresAt : ℤ
  promptBlobKey : String
  responseBlobKey : Option String
  fileBlobKey : Option String
  fileMetadataJson : Option AiHistoryFileMetadata
  promptAttachments : List PersistablePromptAttachment

namespace UpsertContentInput

variable (input : UpsertContentInput)

def createContent (id : String) : AiRequestContent where
  id := id
  aiRequestEventId := input.eventId
  promptBlobKey := some input.promptBlobKey
  responseBlobKey := input.responseBlobKey
  fileBlobKey := input.fileBlobKey
  fileMetadataJson := input.fileMetadataJson
  expiresAt := input.expiresAt
  deletedAt := none

/-- An update leaves what it is not given. -/
def updateContent (content : AiRequestContent) : AiRequestContent :=
  { content with
    promptBlobKey := some input.promptBlobKey
    responseBlobKey := input.responseBlobKey.or content.responseBlobKey
    fileBlobKey := input.fileBlobKey.or content.fileBlobKey
    fileMetadataJson := input.fileMetadataJson.or content.fileMetadataJson
    expiresAt := input.expiresAt
    deletedAt := none }

/-- `id` is the default id of a new row. -/
def upsertContent (id : String) (contents : List AiRequestContent) : List AiRequestContent :=
  if input.eventId ∈ contents.map AiRequestContent.aiRequestEventId then
    contents.map fun content =>
      if content.aiRequestEventId = input.eventId then input.updateContent content else content
  else contents ++ [input.createContent id]

def attachmentRow (attachment : PersistablePromptAttachment) : AiRequestAttachment where
  id := attachment.id
  aiRequestEventId := input.eventId
  role := attachment.role
  kind := attachment.kind
  mimeType := attachment.mimeType
  originalName := attachment.originalName
  sizeBytes := attachment.sizeBytes
  blobKey := attachment.blobKey
  expiresAt := attachment.expiresAt
  deletedAt := attachment.deletedAt

/-- The attachment is one of the prompt of the event. -/
def ofPrompt (eventId : String) (attachment : AiRequestAttachment) : Bool :=
  attachment.aiRequestEventId = eventId && attachment.role = .prompt

def replaceAttachments (attachments : List AiRequestAttachment) : List AiRequestAttachment :=
  (attachments.filter fun attachment => !ofPrompt input.eventId attachment) ++
    input.promptAttachments.map input.attachmentRow

end UpsertContentInput

/-! ## The service -/

/-- `randomUUID`, the default ids of rows, and dates so many days later in local time. -/
structure HistoryFunctions extends ImageFunctions where
  cuid : ℕ → String
  cuid_injective : Function.Injective cuid
  /-- `date.setDate(date.getDate() + days)` -/
  addDays : ℤ → ℤ → ℤ

/-- The retention settings of the history, and the limits of images. -/
structure HistorySettings where
  aiHistoryContentDays : ℤ
  aiHistoryAttachmentDays : ℤ
  limits : PromptAttachmentLimits

structure PersistContentInput where
  requestId : String
  aiRequestId : Option String
  promptContent : JsonValue
  /-- whether there is a response, and a file -/
  hasResponse : Bool
  hasFile : Bool
  fileMetadata : Option AiHistoryFileMetadata

def PersistContentInput.eventId (input : PersistContentInput) : String :=
  input.aiRequestId.getD input.requestId

/-- The tables, with the number of ids that have been drawn. -/
structure HistoryState where
  tables : HistoryTables
  uuids : ℕ

variable (functions : HistoryFunctions) (join : JoinPath) (settings : HistorySettings)

def writeBlob (key : String) (blobs : List String) : Except Exception (List String) :=
  match resolveSafeBlobPath join key with
  | none => .error (.error ("Invalid history blob key: " ++ key))
  | some path => .ok (if path ∈ blobs then blobs else blobs ++ [path])

def writeBlobs : List String → List String → Except Exception (List String)
  | [], blobs => .ok blobs
  | key :: keys, blobs => do
      let blobs ← writeBlob join key blobs
      writeBlobs keys blobs

/-- The rows after the transaction, without the blobs of the attachments that were replaced. -/
def persistRows (input : UpsertContentInput) (blobs : List String) (tables : HistoryTables) :
    HistoryTables :=
  let previous := tables.attachments.filter (UpsertContentInput.ofPrompt input.eventId)
  let stale := (previous.map AiRequestAttachment.blobKey).filter fun key =>
    key ∉ input.promptAttachments.map PersistablePromptAttachment.blobKey
  unlinkSafe join stale
    { tables with
      contents := input.upsertContent (functions.cuid tables.contents.length) tables.contents
      attachments := input.replaceAttachments tables.attachments
      events := if input.eventId ∈ tables.events then tables.events
        else tables.events ++ [input.eventId]
      blobs := blobs }

/-- `persistContent`, with its two readings of the clock. -/
def persistContent (contentNow attachmentNow : ℤ) (input : PersistContentInput)
    (s : HistoryState) : Except Exception HistoryState := do
  let expiresAt := functions.addDays contentNow settings.aiHistoryContentDays
  let attachmentExpiresAt := functions.addDays attachmentNow settings.aiHistoryAttachmentDays
  let outcome ← extractPromptAttachments functions.toImageFunctions
    ⟨input.eventId, attachmentExpiresAt, settings.limits⟩ input.promptContent ⟨[], [], s.uuids⟩
  let responseBlobKey := if input.hasResponse then some (responseKey input.eventId) else none
  let fileBlobKey := if input.hasFile then some (fileKey input.eventId) else none
  let blobs ← writeBlobs join (outcome.state.blobs.map Prod.fst ++ promptKey input.eventId ::
    (responseBlobKey.toList ++ fileBlobKey.toList)) s.tables.blobs
  let upsert := {
    eventId := input.eventId
    expiresAt := expiresAt
    promptBlobKey := promptKey input.eventId
    responseBlobKey := responseBlobKey
    fileBlobKey := fileBlobKey
    fileMetadataJson := input.fileMetadata
    promptAttachments := outcome.state.output }
  return ⟨persistRows functions join upsert blobs s.tables, outcome.state.uuids⟩

end QuizMind.History
