import QuizMind.RemoteConfig.Values

/-! # Contents and attachments of AI requests

The rows beside an event of the history that say where its prompt, response, file and images
are stored, and until when.
-/

namespace QuizMind.History

structure AiHistoryFileMetadata where
  originalName : String
  mimeType : String
  sizeBytes : ℕ
  contentType : String

/-- An event has at most one content row. Dates are milliseconds. -/
structure AiRequestContent where
  id : String
  aiRequestEventId : String
  promptBlobKey : Option String
  responseBlobKey : Option String
  fileBlobKey : Option String
  fileMetadataJson : Option AiHistoryFileMetadata
  expiresAt : ℤ
  deletedAt : Option ℤ

inductive AttachmentRole where
  | prompt | response
  deriving DecidableEq

inductive AttachmentKind where
  | image | file

structure AiRequestAttachment where
  id : String
  aiRequestEventId : String
  role : AttachmentRole
  kind : AttachmentKind
  mimeType : RemoteConfig.JsString
  originalName : Option String
  sizeBytes : ℕ
  blobKey : String
  expiresAt : ℤ
  deletedAt : Option ℤ

end QuizMind.History
