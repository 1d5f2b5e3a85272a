import QuizMind.History.Contents
import QuizMind.Table.Tally

/-! # The images of a prompt

`extractPromptAttachments` takes the data URLs out of a copy of the prompt: an image block with
one becomes an attachment, whose bytes are stored in a blob, or a marker that says why it was
left out. Nothing else changes, as long as no message and no block is null; there the function
throws (`stored_prompt`).
-/

namespace QuizMind.History

open RemoteConfig (JsString JsonValue js typeError)
open GroupBy (change remove)

/-! ## Texts -/

/-- What the language and its library do with texts, and the ids that they draw. -/
structure ImageFunctions where
  toLowerCase : JsString → JsString
  /-- `Buffer.from(text, 'base64')` -/
  decodeBase64 : JsString → List UInt8
  /-- `randomUUID()`, by the number of the call -/
  randomUUID : ℕ → String
  randomUUID_injective : Function.Injective randomUUID

/-- White space and line terminators, as `trim` and `\s` read them. -/
def isSpaceUnit (n : ℕ) : Bool :=
  (9 ≤ n && n ≤ 13) || n == 0x20 || n == 0xA0 || n == 0x1680 ||
    (0x2000 ≤ n && n ≤ 0x200A) || n == 0x2028 || n == 0x2029 || n == 0x202F ||
    n == 0x205F || n == 0x3000 || n == 0xFEFF

def trimUnits (text : JsString) : JsString :=
  ((text.dropWhile isSpaceUnit).reverse.dropWhile isSpaceUnit).reverse

def comma : ℕ := ','.toNat

/-- `/^data:([^;,]+)/`: the group, and what follows it. -/
def dataUrlHead (url : JsString) : Option (JsString × JsString) :=
  if (js "data:").isPrefixOf url then
    let rest := url.drop 5
    let group := rest.takeWhile fun u => u ≠ ';'.toNat && u ≠ comma
    if group = [] then none else some (group, rest.drop group.length)
  else none

structure ParsedDataUrl where
  mimeType : JsString
  buffer : List UInt8

variable (functions : ImageFunctions)

/-- `/^data:([^;,]+);base64,(.+)$/s`: a group ends where a semicolon or a comma is. -/
def parseDataUrl (input : JsString) : Option ParsedDataUrl :=
  match dataUrlHead input with
  | none => none
  | some (group, rest) =>
    let payload := rest.drop 8
    if (js ";base64,").isPrefixOf rest && payload ≠ [] then
      some ⟨functions.toLowerCase (trimUnits group), functions.decodeBase64 payload⟩
    else none

def extractDataUrlMimeType (dataUrl : JsString) : Option JsString :=
  (dataUrlHead dataUrl).map fun head => functions.toLowerCase (trimUnits head.1)

def estimateDataUrlDecodedBytes (dataUrl : JsString) : ℕ :=
  match dataUrl.dropWhile fun u => u ≠ comma with
  | [] => 0
  | _ :: rest =>
    let sanitized := (trimUnits rest).filter fun u => !isSpaceUnit u
    let padding := if (js "==").isSuffixOf sanitized then 2
      else if (js "=").isSuffixOf sanitized then 1 else 0
    sanitized.length * 3 / 4 - padding

/-! ## Attachments -/

structure PersistablePromptAttachment where
  id : String
  role : AttachmentRole
  kind : AttachmentKind
  mimeType : JsString
  originalName : Option String
  sizeBytes : ℕ
  blobKey : String
  expiresAt : ℤ
  deletedAt : Option ℤ

structure PromptAttachmentLimits where
  maxAttachments : ℕ
  maxAttachmentBytes : ℕ

def ALLOWED_PROMPT_IMAGE_MIME_TYPES : List JsString :=
  [js "image/jpeg", js "image/png", js "image/webp"]

def extensionForMimeType (mimeType : JsString) : String :=
  if mimeType = js "image/jpeg" then "jpg"
  else if mimeType = js "image/png" then "png"
  else if mimeType = js "image/webp" then "webp"
  else if mimeType = js "image/gif" then "gif"
  else "bin"

/-! ## Blocks -/

abbrev BlockMembers := List (String × JsonValue)

def setMember (key : String) (value : JsonValue) (members : BlockMembers) : BlockMembers :=
  GroupBy.accumulate members key value fun _ => value

def numberValue (n : ℕ) : JsonValue := .number (js (toString n))

/-- The data URL of a block that is an image block with one. -/
def dataUrlOf : JsonValue → Option JsString
  | .object block =>
    match block.lookup "type", block.lookup "image_url" with
    | some (.string type), some (.object imageUrl) =>
      match imageUrl.lookup "url" with
      | some (.string url) =>
        if type = js "image_url" && (js "data:").isPrefixOf url then some url else none
      | _ => none
    | _, _ => none
  | _ => none

structure OmittedDetails where
  reason : String
  mimeType : JsString
  sizeBytes : ℕ

def replaceWithOmittedMarker (details : OmittedDetails) (block : BlockMembers) : BlockMembers :=
  setMember "sizeBytes" (numberValue details.sizeBytes)
    (setMember "mimeType" (.string details.mimeType)
      (setMember "reason" (.string (js details.reason))
        (setMember "type" (.string (js "image_omitted")) (remove block "image_url"))))

def replaceWithAttachment (attachment : PersistablePromptAttachment) (block : BlockMembers) :
    BlockMembers :=
  setMember "sizeBytes" (numberValue attachment.sizeBytes)
    (setMember "mimeType" (.string attachment.mimeType)
      (setMember "attachmentId" (.string (js attachment.id))
        (setMember "type" (.string (js "image_attachment")) (remove block "image_url"))))

/-! ## The extraction -/

/-- What the function writes: the list that it is given, blobs, and the ids it has drawn. -/
structure ExtractState where
  output : List PersistablePromptAttachment
  blobs : List (String × List UInt8)
  uuids : ℕ

/-- The request that the images belong to. -/
structure ExtractInput where
  requestId : String
  expiresAt : ℤ
  limits : PromptAttachmentLimits

variable (input : ExtractInput)

def attachmentKey (requestId attachmentId : String) : String :=
  "requests/" ++ requestId ++ "/attachments/" ++ attachmentId ++ ".bin"

/-- The attachment for an image, the next one of the list. -/
def newAttachment (parsed : ParsedDataUrl) (s : ExtractState) : PersistablePromptAttachment :=
  let attachmentId := functions.randomUUID s.uuids
  { id := attachmentId
    role := .prompt
    kind := .image
    mimeType := parsed.mimeType
    originalName := some ("image-" ++ toString (s.output.length + 1) ++ "." ++
      extensionForMimeType parsed.mimeType)
    sizeBytes := parsed.buffer.length
    blobKey := attachmentKey input.requestId attachmentId
    expiresAt := input.expiresAt
    deletedAt := none }

/-- Why an image is left out; `none` where it becomes an attachment. -/
def omitted (url : JsString) (s : ExtractState) : Except OmittedDetails ParsedDataUrl :=
  let dataUrlMimeType := (extractDataUrlMimeType functions url).getD (js "unknown")
  let estimatedDecodedBytes := estimateDataUrlDecodedBytes url
  if estimatedDecodedBytes > input.limits.maxAttachmentBytes then
    .error ⟨"attachment_too_large", dataUrlMimeType, estimatedDecodedBytes⟩
  else
    match parseDataUrl functions url with
    | none => .error ⟨"invalid_data_url", dataUrlMimeType, estimateDataUrlDecodedBytes url⟩
    | some parsed =>
      if parsed.mimeType ∉ ALLOWED_PROMPT_IMAGE_MIME_TYPES then
        .error ⟨"unsupported_mime_type", parsed.mimeType, parsed.buffer.length⟩
      else if parsed.buffer.length > input.limits.maxAttachmentBytes then
        .error ⟨"attachment_too_large", parsed.mimeType, parsed.buffer.length⟩
      else if s.output.length ≥ input.limits.maxAttachments then
        .error ⟨"attachment_limit_exceeded", parsed.mimeType, parsed.buffer.length⟩
      else .ok parsed

/-- The body of the inner loop. -/
def extractBlock (block : JsonValue) (s : ExtractState) : Except Exception (JsonValue × ExtractState) :=
  match block with
  | .null => .error (typeError "Cannot read properties of null (reading 'type')")
  | .object members =>
    match dataUrlOf (.object members) with
    | none => .ok (.object members, s)
    | some url =>
      match omitted functions input url s with
      | .error details => .ok (.object (replaceWithOmittedMarker details members), s)
      | .ok parsed =>
        let attachment := newAttachment functions input parsed s
        .ok (.object (replaceWithAttachment attachment members),
          { output := s.output ++ [attachment]
            blobs := s.blobs ++ [(attachment.blobKey, parsed.buffer)]
            uuids := s.uuids + 1 })
  | other => .ok (other, s)

def extractBlocks : List JsonValue → ExtractState → Except Exception (List JsonValue × ExtractState)
  | [], s => .ok ([], s)
  | block :: blocks, s => do
      let (block, s) ← extractBlock functions input block s
      let (blocks, s) ← extractBlocks blocks s
      return (block :: blocks, s)

/-- The body of the outer loop: the blocks of a message that has an array of them. -/
def extractMessage (message : JsonValue) (s : ExtractState) :
    Except Exception (JsonValue × ExtractState) :=
  match message with
  | .null => .error (typeError "Cannot read properties of null (reading 'content')")
  | .object members =>
    match members.lookup "content" with
    | some (.array blocks) => do
        let (blocks, s) ← extractBlocks functions input blocks s
        return (.object (change members "content" fun _ => .array blocks), s)
    | _ => .ok (.object members, s)
  | other => .ok (other, s)

def extractMessages : List JsonValue → ExtractState →
    Except Exception (List JsonValue × ExtractState)
  | [], s => .ok ([], s)
  | message :: messages, s => do
      let (message, s) ← extractMessage functions input message s
      let (messages, s) ← extractMessages messages s
      return (message :: messages, s)

/-- The argument after the call, what is returned, and what was written. -/
structure ExtractOutcome where
  promptContent : JsonValue
  stored : JsonValue
  state : ExtractState

/-- The loops write to a clone of the prompt. -/
def extractPromptAttachments (promptContent : JsonValue) (s : ExtractState) :
    Except Exception ExtractOutcome :=
  match promptContent with
  | .array messages => do
      let (cloned, s) ← extractMessages functions input messages s
      return ⟨promptContent, .array cloned, s⟩
  | _ => .ok ⟨promptContent, promptContent, s⟩

/-! ## Blocks of a prompt -/

def contentBlocks : JsonValue → List JsonValue
  | .object members =>
    match members.lookup "content" with
    | some (.array blocks) => blocks
    | _ => []
  | _ => []

/-- The blocks of all messages. -/
def promptBlocks : JsonValue → List JsonValue
  | .array messages => messages.flatMap contentBlocks
  | _ => []

/-- The id of a block that stands for an attachment. -/
def attachmentIdOf : JsonValue → Option JsString
  | .object block =>
    match block.lookup "type", block.lookup "attachmentId" with
    | some (.string type), some (.string id) =>
      if type = js "image_attachment" then some id else none
    | _, _ => none
  | _ => none

/-- Nothing but an image block with a data URL changes. -/
def KeepsBlock (block block' : JsonValue) : Prop := dataUrlOf block = none → block' = block

/-- Nothing but such blocks changes in a message. -/
def KeepsMessage (message message' : JsonValue) : Prop :=
  message' = message ∨ ∃ members blocks blocks', message = .object members ∧
      members.lookup "content" = some (.array blocks) ∧
      message' = .object (change members "content" fun _ => .array blocks') ∧
      List.Forall₂ KeepsBlock blocks blocks'

def KeepsPrompt (promptContent stored : JsonValue) : Prop :=
  stored = promptContent ∨
    ∃ messages messages', promptContent = .array messages ∧ stored = .array messages' ∧
      List.Forall₂ KeepsMessage messages messages'

/-! ## One block -/

section Block

variable {functions input}

/-- What becomes of a block, with the attachments that it gives. -/
inductive Extracted (limits : PromptAttachmentLimits) :
    JsonValue → JsonValue → List PersistablePromptAttachment → Prop
  | kept {block} (h : dataUrlOf block = none) : Extracted limits block block []
  | omitted {members url} (h : dataUrlOf (.object members) = some url)
      (details : OmittedDetails) :
      Extracted limits (.object members) (.object (replaceWithOmittedMarker details members)) []
  | attached {members url} (h : dataUrlOf (.object members) = some url)
      (attachment : PersistablePromptAttachment)
      (hmime : attachment.mimeType ∈ ALLOWED_PROMPT_IMAGE_MIME_TYPES)
      (hsize : attachment.sizeBytes ≤ limits.maxAttachmentBytes) :
      Extracted limits (.object members) (.object (replaceWithAttachment attachment members))
        [attachment]

theorem lookup_setMember (key k : String) (value : JsonValue) (members : BlockMembers) :
    (setMember key value members).lookup k = if k = key then some value else members.lookup k := by
  unfold setMember
  rw [GroupBy.lookup_accumulate]

theorem lookup_type_omitted (details : OmittedDetails) (members : BlockMembers) :
    (replaceWithOmittedMarker details members).lookup "type" =
      some (.string (js "image_omitted")) := by simp [lookup_setMember, replaceWithOmittedMarker]

variable (attachment : PersistablePromptAttachment) (members : BlockMembers)

theorem lookup_type_attachment : (replaceWithAttachment attachment members).lookup "type" =
      some (.string (js "image_attachment")) := by simp [lookup_setMember, replaceWithAttachment]

theorem lookup_attachmentId : (replaceWithAttachment attachment members).lookup "attachmentId" =
      some (.string (js attachment.id)) := by simp [lookup_setMember, replaceWithAttachment]

section

variable {members : BlockMembers} {type : JsString}
    (h : members.lookup "type" = some (.string type))
include h

/-- A block of another type has no data URL. -/
theorem dataUrlOf_of_type (hne : type ≠ js "image_url") : dataUrlOf (.object members) = none := by
  unfold dataUrlOf
  dsimp only
  split
  · grind
  · rfl

theorem attachmentIdOf_of_type (hne : type ≠ js "image_attachment") :
    attachmentIdOf (.object members) = none := by
  unfold attachmentIdOf
  dsimp only
  split
  · grind
  · rfl

end

theorem attachmentIdOf_attachment :
    attachmentIdOf (.object (replaceWithAttachment attachment members)) =
      some (js attachment.id) := by
  simp [lookup_type_attachment, lookup_attachmentId, attachmentIdOf]

variable {limits : PromptAttachmentLimits} {block block' : JsonValue}
  {new : List PersistablePromptAttachment}

namespace Extracted

section

variable (h : Extracted limits block block' new)
include h

/-- No data URL is left. -/
theorem dataUrlOf_eq_none : dataUrlOf block' = none := by
  cases h with
  | kept h => exact h
  | omitted h details => exact dataUrlOf_of_type (lookup_type_omitted details _) (by decide)
  | attached h attachment => exact dataUrlOf_of_type (lookup_type_attachment attachment _) (by decide)

theorem keepsBlock : KeepsBlock block block' := by
  intro hnone
  cases h with
  | kept h => rfl
  | omitted h details | attached h attachment =>
    rw [h] at hnone
    cases hnone

theorem entries : ∀ attachment ∈ new, attachment.mimeType ∈ ALLOWED_PROMPT_IMAGE_MIME_TYPES ∧
      attachment.sizeBytes ≤ limits.maxAttachmentBytes := by
  intro attachment hmem
  cases h with
  | kept h | omitted h details => cases hmem
  | attached h attachment' hmime hsize => grind

end

end Extracted

/-- What becomes of several blocks, one after the other. -/
inductive ExtractedAll (limits : PromptAttachmentLimits) :
    List JsonValue → List JsonValue → List PersistablePromptAttachment → Prop
  | nil : ExtractedAll limits [] [] []
  | cons {block block' new blocks blocks' news} (h : Extracted limits block block' new)
      (hs : ExtractedAll limits blocks blocks' news) :
      ExtractedAll limits (block :: blocks) (block' :: blocks') (new ++ news)

/-- The ids of the blocks that were images with a data URL and now stand for attachments. -/
def attachedIds (blocks blocks' : List JsonValue) : List JsString :=
  (blocks.zip blocks').filterMap fun pair =>
    (dataUrlOf pair.1).bind fun _ => attachmentIdOf pair.2

namespace ExtractedAll

variable {blocks blocks' : List JsonValue} {more more' : List JsonValue}
  {news : List PersistablePromptAttachment}

section

variable (h : ExtractedAll limits blocks blocks' new)
include h

theorem append (h' : ExtractedAll limits more more' news) :
    ExtractedAll limits (blocks ++ more) (blocks' ++ more') (new ++ news) := by
  induction h with
  | nil => exact h'
  | cons hblock hs ih =>
    rw [List.append_assoc]
    exact .cons hblock ih

theorem dataUrlOf_eq_none : ∀ block ∈ blocks', dataUrlOf block = none := by
  induction h with
  | nil => nofun
  | cons hblock hs ih =>
    intro block hmem
    rcases List.mem_cons.mp hmem with rfl | hmem
    · exact hblock.dataUrlOf_eq_none
    · exact ih block hmem

theorem keepsBlocks : List.Forall₂ KeepsBlock blocks blocks' := by
  induction h with
  | nil => exact .nil
  | cons hblock hs ih => exact .cons hblock.keepsBlock ih

theorem entries : ∀ attachment ∈ new, attachment.mimeType ∈ ALLOWED_PROMPT_IMAGE_MIME_TYPES ∧
      attachment.sizeBytes ≤ limits.maxAttachmentBytes := by
  induction h with
  | nil => nofun
  | cons hblock hs ih =>
    intro attachment hmem
    rcases List.mem_append.mp hmem with hmem | hmem
    · exact hblock.entries attachment hmem
    · exact ih attachment hmem

/-- The blocks that stand for attachments have their ids, in their order. -/
theorem attachedIds_eq :
    attachedIds blocks blocks' = new.map fun attachment => js attachment.id := by
  induction h with
  | nil => rfl
  | cons hblock hs ih =>
    unfold attachedIds at ih ⊢
    rw [List.zip_cons_cons, List.filterMap_cons, List.map_append, ← ih]
    cases hblock with
    | kept h =>
      rw [h]
      rfl
    | omitted h details =>
      rw [h, attachmentIdOf_of_type (lookup_type_omitted details _) (by decide)]
      rfl
    | attached h attachment => simp [h, attachmentIdOf_attachment]

end

end ExtractedAll

end Block

/-! ## What is written -/

section Written

variable {s s' s'' : ExtractState} {new news : List PersistablePromptAttachment}

/-- The attachments that were appended to the output, with fresh ids and their blobs. -/
structure Appends (functions : ImageFunctions) (input : ExtractInput) (s s' : ExtractState)
    (new : List PersistablePromptAttachment) : Prop where
  output : s'.output = s.output ++ new
  uuids : s'.uuids = s.uuids + new.length
  ids : new.map PersistablePromptAttachment.id =
    (List.range' s.uuids new.length).map functions.randomUUID
  bound : s'.output.length ≤ max s.output.length input.limits.maxAttachments
  blobs : s'.blobs.map Prod.fst =
    s.blobs.map Prod.fst ++ new.map PersistablePromptAttachment.blobKey
  fields : ∀ attachment ∈ new, attachment.role = .prompt ∧ attachment.deletedAt = none ∧
    attachment.expiresAt = input.expiresAt ∧
    attachment.blobKey = attachmentKey input.requestId attachment.id

variable {functions input}

namespace Appends

theorem refl (s : ExtractState) : Appends functions input s s [] where
  output := (List.append_nil _).symm
  uuids := rfl
  ids := rfl
  bound := le_max_left _ _
  blobs := (List.append_nil _).symm
  fields := nofun

section

variable (h : Appends functions input s s' new)
include h

theorem trans (h' : Appends functions input s' s'' news) :
    Appends functions input s s'' (new ++ news) where
  output := by rw [h'.output, h.output, List.append_assoc]
  uuids := by rw [h'.uuids, h.uuids, List.length_append, Nat.add_assoc]
  ids := by
    rw [List.map_append, h.ids, h'.ids, h.uuids, ← List.map_append, List.length_append,
      List.range'_append_1]
  bound := by
    have hbound := h.bound
    have hbound' := h'.bound
    omega
  blobs := by rw [h'.blobs, h.blobs, List.append_assoc, List.map_append]
  fields := by
    intro attachment hmem
    rcases List.mem_append.mp hmem with hmem | hmem
    · exact h.fields attachment hmem
    · exact h'.fields attachment hmem

/-- The ids are drawn one by one, so that they are different. -/
theorem ids_nodup : (new.map PersistablePromptAttachment.id).Nodup := by
  have hnumbers : (List.range' s.uuids new.length).Nodup := List.nodup_range'
  rw [h.ids]
  exact hnumbers.map functions.randomUUID_injective

theorem length_le : new.length ≤ input.limits.maxAttachments := by
  have hbound := h.bound
  rw [h.output, List.length_append] at hbound
  omega

end

end Appends

/-- An image becomes an attachment only where it is allowed and fits. -/
theorem omitted_ok {url : JsString} {parsed : ParsedDataUrl}
    (h : omitted functions input url s = .ok parsed) :
    parsed.mimeType ∈ ALLOWED_PROMPT_IMAGE_MIME_TYPES ∧
      parsed.buffer.length ≤ input.limits.maxAttachmentBytes ∧
      s.output.length < input.limits.maxAttachments := by
  unfold omitted at h
  dsimp only at h
  split at h
  · cases h
  split at h
  · cases h
  · grind

variable (functions input)

/-- One block: the function throws exactly at null. -/
theorem extractBlock_spec (block : JsonValue) (s : ExtractState) (hnull : block ≠ .null) :
    ∃ block' s' new, extractBlock functions input block s = .ok (block', s') ∧
      Extracted input.limits block block' new ∧ Appends functions input s s' new := by
  unfold extractBlock
  split
  · exact absurd rfl hnull
  · next members =>
      split
      · next hnone => exact ⟨_, _, _, rfl, .kept hnone, .refl s⟩
      next url hurl =>
        split
        · next details _ => exact ⟨_, _, _, rfl, .omitted hurl details, .refl s⟩
        next parsed hparsed =>
          obtain ⟨hmime, hsize, hcount⟩ := omitted_ok hparsed
          refine ⟨_, _, _, rfl,
            .attached hurl (newAttachment functions input parsed s) hmime hsize, ?_⟩
          refine ⟨rfl, rfl, rfl, ?_, ?_, ?_⟩
          · grind
          · rw [List.map_append]
            rfl
          · intro attachment hmem
            rw [List.mem_singleton.mp hmem]
            exact ⟨rfl, rfl, rfl, rfl⟩
  · next other hnot =>
      refine ⟨_, _, _, rfl, .kept ?_, .refl s⟩
      cases block with
      | object members => exact absurd rfl (hnot members)
      | _ => rfl

theorem extractBlocks_spec (blocks : List JsonValue) (s : ExtractState)
    (hnull : ∀ block ∈ blocks, block ≠ .null) :
    ∃ blocks' s' new, extractBlocks functions input blocks s = .ok (blocks', s') ∧
      ExtractedAll input.limits blocks blocks' new ∧ Appends functions input s s' new := by
  induction blocks generalizing s with
  | nil => exact ⟨_, _, _, rfl, .nil, .refl s⟩
  | cons block blocks ih =>
    obtain ⟨block', s', new, hblock, hextracted, happends⟩ :=
      extractBlock_spec functions input block s (hnull block List.mem_cons_self)
    obtain ⟨blocks', s'', news, hblocks, hall, happends'⟩ :=
      ih s' fun b hb => hnull b (List.mem_cons_of_mem _ hb)
    refine ⟨block' :: blocks', s'', new ++ news, ?_, .cons hextracted hall,
      happends.trans happends'⟩
    simp only [extractBlocks, hblock, hblocks, bind, Except.bind, pure, Except.pure]

variable {blocks : List JsonValue}

/-- A null block throws, whatever stands before it. -/
theorem extractBlocks_null (s : ExtractState)
    (hnull : .null ∈ blocks) : ∃ e, extractBlocks functions input blocks s = .error e := by
  induction blocks generalizing s with
  | nil => cases hnull
  | cons block blocks ih =>
    by_cases hblock : block = .null
    · subst hblock
      exact ⟨_, rfl⟩
    obtain ⟨block', s', new, hok, -, -⟩ := extractBlock_spec functions input block s hblock
    have hrest : .null ∈ blocks := by grind
    obtain ⟨e, he⟩ := ih s' hrest
    refine ⟨e, ?_⟩
    simp only [extractBlocks, hok, he, bind, Except.bind]

/-- Neither the message nor one of its blocks is null. -/
def NoNull (message : JsonValue) : Prop :=
  message ≠ .null ∧ ∀ block ∈ contentBlocks message, block ≠ .null

/-- The blocks of a message whose array of blocks was replaced. -/
theorem contentBlocks_change {members : BlockMembers}
    (h : members.lookup "content" = some (.array blocks)) (blocks' : List JsonValue) :
    contentBlocks (.object (change members "content" fun _ => .array blocks')) =
      blocks' := by simp [GroupBy.lookup_change, h, contentBlocks]

theorem extractMessage_spec (message : JsonValue) (s : ExtractState) (hnull : NoNull message) :
    ∃ message' s' new, extractMessage functions input message s = .ok (message', s') ∧
      KeepsMessage message message' ∧
      ExtractedAll input.limits (contentBlocks message) (contentBlocks message') new ∧
      Appends functions input s s' new := by
  obtain ⟨hmsg, hblocks⟩ := hnull
  cases message with
  | null => exact absurd rfl hmsg
  | object members =>
    unfold extractMessage
    dsimp only
    split
    · next blocks hcont =>
        have hsame : contentBlocks (.object members) = blocks := by simp [hcont, contentBlocks]
        rw [hsame] at hblocks ⊢
        obtain ⟨blocks', s', new, hok, hall, happends⟩ :=
          extractBlocks_spec functions input blocks s hblocks
        refine ⟨.object (change members "content" fun _ => .array blocks'), s', new,
          ?_, ?_, ?_, happends⟩
        · simp only [hok, bind, Except.bind, pure, Except.pure]
        · right
          exact ⟨members, blocks, blocks', rfl, hcont, rfl, hall.keepsBlocks⟩
        · rw [contentBlocks_change hcont]
          exact hall
    next hnot =>
      have hnone : contentBlocks (.object members) = [] := by simp [contentBlocks]
      refine ⟨_, _, _, rfl, .inl rfl, ?_, .refl s⟩
      rw [hnone]
      exact .nil
  | _ => exact ⟨_, _, _, rfl, .inl rfl, .nil, .refl s⟩

theorem extractMessage_null {message : JsonValue} (s : ExtractState) (hnull : ¬ NoNull message) :
    ∃ e, extractMessage functions input message s = .error e := by
  by_cases hmsg : message = .null
  · subst hmsg
    exact ⟨_, rfl⟩
  have hblock : .null ∈ contentBlocks message := by
    by_contra hnone
    refine hnull ⟨hmsg, ?_⟩
    rintro block hmem rfl
    exact hnone hmem
  cases message with
  | object members =>
    unfold contentBlocks at hblock
    dsimp only at hblock
    split at hblock
    · next blocks hcont =>
        obtain ⟨e, he⟩ := extractBlocks_null functions input s hblock
        refine ⟨e, ?_⟩
        simp only [extractMessage, hcont, he, bind, Except.bind]
    · cases hblock
  | null => exact absurd rfl hmsg
  | _ => cases hblock

theorem extractMessages_spec (messages : List JsonValue) (s : ExtractState)
    (hnull : ∀ message ∈ messages, NoNull message) :
    ∃ messages' s' new, extractMessages functions input messages s = .ok (messages', s') ∧
      List.Forall₂ KeepsMessage messages messages' ∧
      ExtractedAll input.limits (messages.flatMap contentBlocks)
        (messages'.flatMap contentBlocks) new ∧
      Appends functions input s s' new := by
  induction messages generalizing s with
  | nil => exact ⟨_, _, _, rfl, .nil, .nil, .refl s⟩
  | cons message messages ih =>
    obtain ⟨message', s', new, hmsg, hkeeps, hextracted, happends⟩ :=
      extractMessage_spec functions input message s (hnull message List.mem_cons_self)
    obtain ⟨messages', s'', news, hmsgs, hkeepsAll, hall, happends'⟩ :=
      ih s' fun m hm => hnull m (List.mem_cons_of_mem _ hm)
    refine ⟨message' :: messages', s'', new ++ news, ?_, .cons hkeeps hkeepsAll, ?_,
      happends.trans happends'⟩
    · simp only [extractMessages, hmsg, hmsgs, bind, Except.bind, pure, Except.pure]
    · exact hextracted.append hall

theorem extractMessages_null {messages : List JsonValue} (s : ExtractState)
    (hnull : ¬ ∀ message ∈ messages, NoNull message) :
    ∃ e, extractMessages functions input messages s = .error e := by
  induction messages generalizing s with
  | nil => exact absurd (fun _ hmem => nomatch hmem) hnull
  | cons message messages ih =>
    by_cases hmsg : NoNull message
    · obtain ⟨message', s', new, hok, -, -, -⟩ :=
        extractMessage_spec functions input message s hmsg
      have hrest : ¬ ∀ m ∈ messages, NoNull m := by grind
      obtain ⟨e, he⟩ := ih s' hrest
      refine ⟨e, ?_⟩
      simp only [extractMessages, hok, he, bind, Except.bind]
    obtain ⟨e, he⟩ := extractMessage_null functions input s hmsg
    refine ⟨e, ?_⟩
    simp only [extractMessages, he, bind, Except.bind]

end Written

/-! ## The stored prompt -/

/-- No message of an array is null, and no block of such a message. -/
def NoNulls : JsonValue → Prop
  | .array messages => ∀ message ∈ messages, NoNull message
  | _ => True

/-- The prompt that is stored carries no data URL and differs from the argument in nothing but
the blocks that had one. What was appended to the output is allowed and fits, and each block
that has become an attachment has the id of its own entry. -/
structure StoredPrompt (limits : PromptAttachmentLimits) (promptContent : JsonValue)
    (before : ExtractState) (outcome : ExtractOutcome) : Prop where
  unmodified : outcome.promptContent = promptContent
  noDataUrl : ∀ block ∈ promptBlocks outcome.stored, dataUrlOf block = none
  keeps : KeepsPrompt promptContent outcome.stored
  appended : ∃ new, outcome.state.output = before.output ++ new ∧
    new.length ≤ limits.maxAttachments ∧
    (∀ attachment ∈ new, attachment.mimeType ∈ ALLOWED_PROMPT_IMAGE_MIME_TYPES ∧
      attachment.sizeBytes ≤ limits.maxAttachmentBytes) ∧
    attachedIds (promptBlocks promptContent) (promptBlocks outcome.stored) =
      new.map (fun attachment => js attachment.id) ∧
    (new.map fun attachment => js attachment.id).Nodup

theorem Appends.jsIds_nodup {functions : ImageFunctions} {input : ExtractInput}
    {s s' : ExtractState} {new : List PersistablePromptAttachment}
    (h : Appends functions input s s' new) :
    (new.map fun attachment => js attachment.id).Nodup := by
  have hmap : (new.map fun attachment => js attachment.id) =
      (new.map PersistablePromptAttachment.id).map js := by
    rw [List.map_map]
    rfl
  rw [hmap]
  exact h.ids_nodup.map fun _ _ => RemoteConfig.js_injective

variable {promptContent : JsonValue}

/-- A prompt that is not an array is stored as it is. -/
theorem storedPrompt_self {limits : PromptAttachmentLimits}
    (s : ExtractState) (hblocks : promptBlocks promptContent = []) :
    StoredPrompt limits promptContent s ⟨promptContent, promptContent, s⟩ where
  unmodified := rfl
  noDataUrl := by
    rw [hblocks]
    nofun
  keeps := .inl rfl
  appended := by
    refine ⟨[], (List.append_nil _).symm, Nat.zero_le _, nofun, ?_, List.nodup_nil⟩
    rw [hblocks]
    rfl

/-- What a call that returns has appended. -/
theorem extractPromptAttachments_appends {functions : ImageFunctions} {input : ExtractInput}
    {s : ExtractState} {outcome : ExtractOutcome}
    (h : extractPromptAttachments functions input promptContent s = .ok outcome) :
    ∃ new, Appends functions input s outcome.state new := by
  cases promptContent with
  | array messages =>
    by_cases hnull : ∀ message ∈ messages, NoNull message
    · obtain ⟨messages', s', new, hok, -, -, happends⟩ :=
        extractMessages_spec functions input messages s hnull
      simp only [extractPromptAttachments, hok, bind, Except.bind, pure, Except.pure,
        Except.ok.injEq] at h
      rw [← h]
      exact ⟨new, happends⟩
    obtain ⟨e, he⟩ := extractMessages_null functions input s hnull
    simp only [extractPromptAttachments, he] at h
    cases h
  | _ =>
    rw [← Except.ok.inj h]
    exact ⟨[], .refl s⟩

/-- The extraction returns, with a stored prompt without data URLs, exactly when no message and
no block is null. -/
theorem stored_prompt (functions : ImageFunctions) (input : ExtractInput)
    (promptContent : JsonValue) (s : ExtractState) :
    (∃ outcome, extractPromptAttachments functions input promptContent s = .ok outcome ∧
      StoredPrompt input.limits promptContent s outcome) ↔ NoNulls promptContent := by
  cases promptContent with
  | array messages =>
    constructor
    · rintro ⟨outcome, hok, -⟩
      by_contra hnull
      obtain ⟨e, he⟩ := extractMessages_null functions input s hnull
      simp only [extractPromptAttachments, he] at hok
      cases hok
    intro hnull
    obtain ⟨messages', s', new, hok, hkeeps, hall, happends⟩ :=
      extractMessages_spec functions input messages s hnull
    refine ⟨⟨.array messages, .array messages', s'⟩, ?_, rfl, hall.dataUrlOf_eq_none, ?_, ?_⟩
    · simp only [extractPromptAttachments, hok, bind, Except.bind, pure, Except.pure]
    · right
      exact ⟨messages, messages', rfl, rfl, hkeeps⟩
    · exact ⟨new, happends.output, happends.length_le, hall.entries, hall.attachedIds_eq,
        happends.jsIds_nodup⟩
  | _ => exact iff_of_true ⟨_, rfl, storedPrompt_self s rfl⟩ trivial

/-- Ids of growing length, on texts in lower case. -/
def plainFunctions : ImageFunctions where
  toLowerCase := fun text => text
  decodeBase64 := fun text => text.map UInt8.ofNat
  randomUUID := fun n => String.ofList (List.replicate n 'a')
  randomUUID_injective := by
    intro n m h
    have hlength := congrArg (fun id : String => id.toList.length) h
    simpa using hlength

/-- A prompt whose only message is null is not stored: the function throws. -/
theorem null_message_throws :
    ¬ ∀ (functions : ImageFunctions) (input : ExtractInput) (promptContent : JsonValue)
      (s : ExtractState), ∃ outcome,
        extractPromptAttachments functions input promptContent s = .ok outcome ∧
        StoredPrompt input.limits promptContent s outcome := by
  intro h
  obtain ⟨outcome, hok, -⟩ := h plainFunctions ⟨"request", 0, ⟨8, 10⟩⟩ (.array [.null]) ⟨[], [], 0⟩
  cases hok

end QuizMind.History
