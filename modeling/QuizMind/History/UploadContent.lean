import QuizMind.History.Writers

/-! # The message of an upload

`uploadAndAnswer` makes one message of a prompt and a file. The proxy accepts it when the file is
an image or a text, and stores its messages in the history; the controller stores the content of
the message. Only the first form has blocks of which images are taken out.
-/

namespace QuizMind.History

open RemoteConfig (JsString JsonValue js)

/-! ## The content of the message -/

/-- `buffer.toString('base64')` and `buffer.toString('utf8')`. -/
structure UploadFunctions extends HistoryFunctions where
  toBase64 : List UInt8 → JsString
  toUtf8 : List UInt8 → JsString

structure Upload where
  originalName : String
  /-- after `resolveMimeFromFilename` -/
  mime : String
  fileBuffer : List UInt8
  prompt : Option JsString
  provider : Option String
  model : Option String

def isImageMime (mime : String) : Bool := mime ∈ ["image/png", "image/jpeg", "image/webp"]

def isTextLikeMime (mime : String) : Bool :=
  mime ∈ ["text/plain", "text/markdown", "text/x-markdown", "text/csv", "application/csv",
    "application/json", "application/xml", "text/xml", "application/javascript",
    "text/javascript"] || "text/".isPrefixOf mime

def shouldUseRouterAiFileBlock (upload : Upload) : Bool :=
  !isImageMime upload.mime && (upload.provider.getD "routerai" = "routerai" ||
      upload.model.any fun model => model.toList.contains '/')

def Upload.promptText (upload : Upload) : JsString :=
  match upload.prompt.map trimUnits with
  | some (unit :: units) => unit :: units
  | _ => js "Analyze the following content and provide a helpful response."

def textBlock (text : JsString) : JsonValue :=
  .object [("type", .string (js "text")), ("text", .string text)]

def imageMembers (url : JsString) : BlockMembers :=
  [("type", .string (js "image_url")),
    ("image_url", .object [("url", .string url), ("detail", .string (js "auto"))])]

variable (functions : UploadFunctions)

def toDataUrl (mime : String) (buffer : List UInt8) : JsString :=
  js "data:" ++ (js (if mime = "" then "application/octet-stream" else mime) ++
    (js ";base64," ++ functions.toBase64 buffer))

def buildFileContentBlocks (upload : Upload) : JsonValue :=
  .array [textBlock (upload.promptText ++ js ("\n\nAttached file: " ++ upload.originalName)),
    .object [("type", .string (js "file")),
      ("file", .object [("filename", .string (js upload.originalName)),
        ("file_data", .string (toDataUrl functions upload.mime upload.fileBuffer))])]]

def messageContent (upload : Upload) : Except Exception JsonValue :=
  if isImageMime upload.mime then
    .ok (.array [textBlock upload.promptText,
      .object (imageMembers (toDataUrl functions upload.mime upload.fileBuffer))])
  else if shouldUseRouterAiFileBlock upload then
    .ok (buildFileContentBlocks functions upload)
  else if isTextLikeMime upload.mime then
    .ok (.string (upload.promptText ++ js "\n\n---\n\n" ++ functions.toUtf8 upload.fileBuffer))
  else
    .error (.badRequest (s!"File type \"{upload.mime}\" is not supported by the selected " ++
      "provider. Use RouterAI for arbitrary file uploads."))

/-! ## The messages of the proxy -/

def textOf : Option JsonValue → JsString
  | some (.string text) => text
  | _ => []

def membersOf : Option JsonValue → BlockMembers
  | some (.object members) => members
  | _ => []

def normalizeContentBlock (msgIndex blockIndex : ℕ) : JsonValue → Except Exception JsonValue
  | .object b =>
    if textOf (b.lookup "type") = js "text" then
      let text := trimUnits (textOf (b.lookup "text"))
      if text = [] then
        .error (.badRequest s!"messages[{msgIndex}].content[{blockIndex}].text is required.")
      else .ok (textBlock text)
    else if textOf (b.lookup "type") = js "image_url" then
      let imageUrl := membersOf (b.lookup "image_url")
      let url := trimUnits (textOf (imageUrl.lookup "url"))
      let detail := textOf (imageUrl.lookup "detail")
      if url = [] then
        .error (.badRequest
          s!"messages[{msgIndex}].content[{blockIndex}].image_url.url is required.")
      else
        .ok (.object [("type", .string (js "image_url")),
          ("image_url", .object (("url", .string url) ::
            if detail ∈ [js "auto", js "low", js "high"] then [("detail", .string detail)]
            else []))])
    else
      .error (.badRequest (s!"messages[{msgIndex}].content[{blockIndex}].type must be " ++
        "\"text\" or \"image_url\"."))
  | _ => .error (.badRequest s!"messages[{msgIndex}].content[{blockIndex}] must be an object.")

def normalizeContentBlocks (msgIndex : ℕ) : ℕ → List JsonValue → Except Exception (List JsonValue)
  | _, [] => .ok []
  | blockIndex, block :: blocks => do
      let block ← normalizeContentBlock msgIndex blockIndex block
      let blocks ← normalizeContentBlocks msgIndex (blockIndex + 1) blocks
      return block :: blocks

def normalizeMessageContent (index : ℕ) : JsonValue → Except Exception JsonValue
  | .string content =>
    if trimUnits content = [] then
      .error (.badRequest s!"messages[{index}].content is required.")
    else .ok (.string (trimUnits content))
  | .array [] => .error (.badRequest s!"messages[{index}].content array must not be empty.")
  | .array content => do
      let blocks ← normalizeContentBlocks index 0 content
      return .array blocks
  | _ => .error (.badRequest
      s!"messages[{index}].content must be a string or an array of content blocks.")

/-- The messages of the request, of which there is one. -/
def proxyMessages (content : JsonValue) : Except Exception JsonValue := do
  let content ← normalizeMessageContent 0 content
  return .array [.object [("role", .string (js "user")), ("content", content)]]

/-! ## The two calls -/

/-- What the proxy knows of a request that it has answered. -/
structure ProxyAnswer where
  requestId : String
  keySource : String
  occurredAt : ℤ
  durationMs : ℤ
  response : List (String × JsonValue)
  chargedCostUsd : Option ℚ
  chargedCurrency : Option String
  chargedAmountMinor : Option ℤ
  walletLedgerEntryId : Option String

/-- `persistHistoryContentSafely`. -/
def proxyCall (answer : ProxyAnswer) (messages : JsonValue) : PersistCall where
  requestId := answer.requestId
  requestType :=
    if (promptBlocks messages).any fun block =>
      match block with
      | .object b => textOf (b.lookup "type") = js "image_url"
      | _ => false
    then .image else .text
  keySource := some answer.keySource
  occurredAt := some answer.occurredAt
  promptContent := messages
  responseContent := some (.object answer.response)
  fileBuffer := none
  fileMetadata := none
  durationMs := some answer.durationMs
  chargedCostUsd := answer.chargedCostUsd
  chargedCurrency := answer.chargedCurrency
  chargedAmountMinor := answer.chargedAmountMinor
  walletLedgerEntryId := answer.walletLedgerEntryId

/-- The call of the controller: no key source, no times and no charge. -/
def controllerCall (answer : ProxyAnswer) (upload : Upload) (content : JsonValue) :
    PersistCall where
  requestId := answer.requestId
  requestType := .file
  keySource := none
  occurredAt := none
  promptContent := content
  responseContent := some (.object answer.response)
  fileBuffer := some upload.fileBuffer
  fileMetadata := some ⟨upload.originalName, upload.mime, upload.fileBuffer.length,
    if isImageMime upload.mime then "image" else "text"⟩
  durationMs := none
  chargedCostUsd := none
  chargedCurrency := none
  chargedAmountMinor := none
  walletLedgerEntryId := none

/-! ## What the messages are -/

section Messages

variable {functions}

/-- An image in the form that the proxy gives it. -/
def imageMessages (text url : JsString) : JsonValue :=
  .array [.object [("role", .string (js "user")),
    ("content", .array [textBlock text, .object (imageMembers url)])]]

def textMessages (text : JsString) : JsonValue :=
  .array [.object [("role", .string (js "user")), ("content", .string text)]]

/-- The message with another block in the place of the image. -/
def storedMessages (text : JsString) (block : BlockMembers) : JsonValue :=
  .array [.object [("role", .string (js "user")),
    ("content", .array [textBlock text, .object block])]]

variable {m n : ℕ} {block messages : JsonValue}

theorem normalizeContentBlock_text {text : JsString}
    (h : normalizeContentBlock n m (textBlock text) = .ok block) :
    block = textBlock (trimUnits text) := by
  have htype : textOf (List.lookup "type"
      [("type", JsonValue.string (js "text")), ("text", .string text)]) = js "text" := rfl
  unfold normalizeContentBlock textBlock at h
  dsimp only at h
  rw [if_pos htype] at h
  split at h
  · cases h
  · exact (Except.ok.inj h).symm

theorem normalizeContentBlock_image {url : JsString}
    (h : normalizeContentBlock n m (.object (imageMembers url)) = .ok block) :
    block = .object (imageMembers (trimUnits url)) := by
  have htype : textOf ((imageMembers url).lookup "type") = js "image_url" := rfl
  unfold normalizeContentBlock at h
  dsimp only at h
  rw [htype, if_neg (by decide), if_pos rfl] at h
  split at h
  · cases h
  · exact (Except.ok.inj h).symm

theorem normalizeContentBlocks_pair {block' : JsonValue} {blocks : List JsonValue}
    (h : normalizeContentBlocks n m [block, block'] = .ok blocks) :
    ∃ next next', normalizeContentBlock n m block = .ok next ∧
      normalizeContentBlock n (m + 1) block' = .ok next' ∧ blocks = [next, next'] := by
  obtain ⟨next, hnext, h⟩ := bind_eq_ok_iff.mp h
  obtain ⟨rest, hrest, h⟩ := bind_eq_ok_iff.mp h
  obtain ⟨next', hnext', hrest⟩ := bind_eq_ok_iff.mp hrest
  obtain ⟨others, hothers, hrest⟩ := bind_eq_ok_iff.mp hrest
  cases hothers
  cases hrest
  cases h
  exact ⟨next, next', hnext, hnext', rfl⟩

theorem proxyMessages_pair {block' : JsonValue}
    (h : proxyMessages (.array [block, block']) = .ok messages) :
    ∃ next next', normalizeContentBlock 0 0 block = .ok next ∧
      normalizeContentBlock 0 1 block' = .ok next' ∧
      messages = .array [.object [("role", .string (js "user")),
        ("content", .array [next, next'])]] := by
  obtain ⟨content, hcont, h⟩ := bind_eq_ok_iff.mp h
  obtain ⟨blocks, hblocks, hcont⟩ := bind_eq_ok_iff.mp hcont
  obtain ⟨next, next', hnext, hnext', rfl⟩ := normalizeContentBlocks_pair hblocks
  cases hcont
  cases h
  exact ⟨next, next', hnext, hnext', rfl⟩

theorem proxyMessages_string {text : JsString} (h : proxyMessages (.string text) = .ok messages) :
    messages = textMessages (trimUnits text) := by
  obtain ⟨content, hcont, h⟩ := bind_eq_ok_iff.mp h
  unfold normalizeMessageContent at hcont
  dsimp only at hcont
  split at hcont
  · cases hcont
  cases hcont
  cases h
  rfl

/-- An upload that the proxy answers is an image or a text: the block of another file is not
accepted. -/
theorem content_cases {upload : Upload} {content : JsonValue}
    (hcont : messageContent functions upload = .ok content)
    (hmsgs : proxyMessages content = .ok messages) :
    (isImageMime upload.mime = true ∧ content = .array [textBlock upload.promptText,
        .object (imageMembers (toDataUrl functions upload.mime upload.fileBuffer))] ∧
      messages = imageMessages (trimUnits upload.promptText)
        (trimUnits (toDataUrl functions upload.mime upload.fileBuffer))) ∨
    (isImageMime upload.mime = false ∧
      ∃ text, content = .string text ∧ messages = textMessages (trimUnits text)) := by
  unfold messageContent at hcont
  split at hcont
  · rename_i himage
    left
    cases hcont
    obtain ⟨next, next', hnext, hnext', rfl⟩ := proxyMessages_pair hmsgs
    rw [normalizeContentBlock_text hnext, normalizeContentBlock_image hnext']
    exact ⟨himage, rfl, rfl⟩
  split at hcont
  · cases hcont
    obtain ⟨next, next', -, hnext', -⟩ := proxyMessages_pair hmsgs
    cases hnext'
  · grind [proxyMessages_string]

end Messages

/-! ## What is taken out of the prompts -/

section Extraction

variable {functions} {input : ExtractInput}

/-- A text that begins with a word keeps it when it is trimmed. -/
theorem trimUnits_append {head rest : JsString} (hfirst : head.dropWhile isSpaceUnit = head)
    (hlast : head.reverse.dropWhile isSpaceUnit = head.reverse) (hsome : head ≠ []) :
    ∃ rest', trimUnits (head ++ rest) = head ++ rest' := by
  have hstart : (head ++ rest).dropWhile isSpaceUnit = head ++ rest := by
    rw [List.dropWhile_append, hfirst, if_neg (by simpa using hsome)]
  unfold trimUnits
  rw [hstart, List.reverse_append, List.dropWhile_append]
  by_cases hempty : (rest.reverse.dropWhile isSpaceUnit).isEmpty = true
  · rw [if_pos hempty, hlast, List.reverse_reverse]
    exact ⟨[], (List.append_nil head).symm⟩
  · grind

theorem isPrefixOf_trimUnits_toDataUrl (mime : String) (buffer : List UInt8) :
    (js "data:").isPrefixOf (trimUnits (toDataUrl functions mime buffer)) = true := by
  obtain ⟨rest, hrest⟩ : ∃ rest, trimUnits (toDataUrl functions mime buffer) =
      js "data:" ++ rest := trimUnits_append (by decide) (by decide) (by decide)
  rw [hrest, List.isPrefixOf_iff_prefix]
  exact List.prefix_append _ _

variable (text : JsString)

theorem dataUrlOf_textBlock : dataUrlOf (textBlock text) = none := by
  have htype : List.lookup "type" [("type", JsonValue.string (js "text")), ("text", .string text)] =
      some (.string (js "text")) := rfl
  exact dataUrlOf_of_type htype (by decide)

variable {url : JsString}

theorem dataUrlOf_image (h : (js "data:").isPrefixOf url = true) :
    dataUrlOf (.object (imageMembers url)) = some url := by
  have hif : dataUrlOf (.object (imageMembers url)) =
      if js "image_url" = js "image_url" && (js "data:").isPrefixOf url then some url else none := rfl
  rw [hif, h]
  rfl

/-- The blocks of the controller are no messages, so that nothing is taken out of them. -/
theorem extract_blocks (url : JsString) (s : ExtractState) :
    extractPromptAttachments functions.toImageFunctions input
        (.array [textBlock text, .object (imageMembers url)]) s =
      .ok ⟨.array [textBlock text, .object (imageMembers url)],
        .array [textBlock text, .object (imageMembers url)], s⟩ := rfl

variable {s : ExtractState}

/-- The message of the proxy after its image block has become another one. -/
theorem extract_image {s' : ExtractState} {block : JsonValue}
    (h : extractBlock functions.toImageFunctions input (.object (imageMembers url)) s =
      .ok (block, s')) :
    extractPromptAttachments functions.toImageFunctions input (imageMessages text url) s =
      .ok ⟨imageMessages text url, .array [.object [("role", .string (js "user")),
        ("content", .array [textBlock text, block])]], s'⟩ := by
  have htext : extractBlock functions.toImageFunctions input (textBlock text) s =
      .ok (textBlock text, s) := by
    unfold extractBlock textBlock
    dsimp only
    have hnone := dataUrlOf_textBlock text
    unfold textBlock at hnone
    rw [hnone]
  have hblocks : extractBlocks functions.toImageFunctions input
      [textBlock text, .object (imageMembers url)] s = .ok ([textBlock text, block], s') := by
    simp only [extractBlocks, htext, h, bind, Except.bind, pure, Except.pure]
  have hmsg : extractMessage functions.toImageFunctions input
      (.object [("role", .string (js "user")),
        ("content", .array [textBlock text, .object (imageMembers url)])]) s =
      .ok (.object [("role", .string (js "user")), ("content", .array [textBlock text, block])],
        s') := by
    have hcont : List.lookup "content" [("role", JsonValue.string (js "user")),
        ("content", .array [textBlock text, .object (imageMembers url)])] =
      some (.array [textBlock text, .object (imageMembers url)]) := rfl
    unfold extractMessage
    dsimp only
    rw [hcont]
    dsimp only
    rw [hblocks]
    rfl
  unfold extractPromptAttachments imageMessages
  simp only [extractMessages, hmsg, bind, Except.bind, pure, Except.pure]

theorem extractBlock_omitted (h : (js "data:").isPrefixOf url = true) {details : OmittedDetails}
    (homitted : omitted functions.toImageFunctions input url s = .error details) :
    extractBlock functions.toImageFunctions input (.object (imageMembers url)) s =
      .ok (.object (replaceWithOmittedMarker details (imageMembers url)), s) := by
  grind [extractBlock, dataUrlOf_image]

theorem extractBlock_attached (h : (js "data:").isPrefixOf url = true) {parsed : ParsedDataUrl}
    (homitted : omitted functions.toImageFunctions input url s = .ok parsed) :
    extractBlock functions.toImageFunctions input (.object (imageMembers url)) s =
      .ok (.object (replaceWithAttachment (newAttachment functions.toImageFunctions input parsed s)
          (imageMembers url)),
        { output := s.output ++ [newAttachment functions.toImageFunctions input parsed s]
          blobs := s.blobs ++
            [((newAttachment functions.toImageFunctions input parsed s).blobKey, parsed.buffer)]
          uuids := s.uuids + 1 }) := by grind [extractBlock, dataUrlOf_image]

end Extraction

end QuizMind.History
