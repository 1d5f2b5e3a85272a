import QuizMind.History.AttachmentExpiry
import QuizMind.History.Serving

/-! # A call of persistContent that fails

A call stores its blobs one after the other before its only transaction, and no failure takes them
back. Whatever fails, a call stores the first ones of the blobs that it would store without
failures (`storeContent_eq`, `writeKeys_spec`); the images among them are those before the first
null of the prompt, up to the limit.
-/

namespace QuizMind.History

open RemoteConfig (JsString JsonValue typeError)

/-! ## Calls that fail -/

/-- A call that `persistContent` awaits. A write that fails may leave a file, and a transaction
may be committed although its call throws. Reading the settings, syncing the admin log and
unlinking a file are not among them: what they throw is caught. -/
inductive FaultPoint where
  | write (n : ℕ) (left : Bool)
  | list
  | upsert (committed : Bool)

structure Fault where
  point : FaultPoint
  thrown : Exception

/-- The files in the blob directory while a call runs: how many writes it has begun, and the
paths that it has written. -/
structure CallFiles where
  blobs : List String
  writes : ℕ
  written : List String

def CallFiles.leave (files : CallFiles) (path : String) : CallFiles :=
  { files with
    blobs := if path ∈ files.blobs then files.blobs else files.blobs ++ [path]
    written := files.written ++ [path] }

/-- A computation that may throw; the files stay as they are then. -/
def Attempt (α : Type) : Type := CallFiles → Except Exception α × CallFiles

namespace Attempt

variable {α β γ : Type}

def ofExcept (result : Except Exception α) : Attempt α := fun files => (result, files)

instance : Monad Attempt where
  pure a := ofExcept (.ok a)
  bind attempt f := fun files =>
    match attempt files with
    | (.error e, files) => (.error e, files)
    | (.ok a, files) => f a files

theorem bind_assoc (attempt : Attempt α) (f : α → Attempt β) (g : β → Attempt γ) :
    (attempt >>= f) >>= g = attempt >>= fun a => f a >>= g := by
  funext files
  simp only [bind]
  rcases attempt files with ⟨e | a, files'⟩
  · rfl
  · rfl

theorem ofExcept_ok_bind (a : α) (f : α → Attempt β) : ofExcept (.ok a) >>= f = f a := rfl

theorem ofExcept_bind (result : Except Exception α) (f : α → Except Exception β) :
    (ofExcept result >>= fun a => ofExcept (f a)) = ofExcept (result >>= f) := by
  cases result with
  | error e => rfl
  | ok a => rfl

theorem bind_run (attempt : Attempt α) (f : α → Attempt β) (files : CallFiles) :
    (attempt >>= f) files = match attempt files with
      | (.error e, files) => (.error e, files)
      | (.ok a, files) => f a files := rfl

theorem pure_eq (a : α) : (pure a : Attempt α) = ofExcept (.ok a) := rfl

end Attempt

/-! ## The writes -/

section Writes

variable (join : JoinPath) (fault : Option Fault)

/-- What the `n`th write throws, and whether it leaves a file. -/
def writeFault (n : ℕ) : Option (Exception × Bool) :=
  match fault with
  | some ⟨.write k left, thrown⟩ => if k = n then some (thrown, left) else none
  | _ => none

/-- `writeJson` and `writeBinary` -/
def writeKey (key : String) : Attempt Unit := fun files =>
  match resolveSafeBlobPath join key with
  | none => (.error (.error ("Invalid history blob key: " ++ key)), files)
  | some path =>
    let begun := { files with writes := files.writes + 1 }
    match writeFault fault files.writes with
    | none => (.ok (), begun.leave path)
    | some (thrown, true) => (.error thrown, begun.leave path)
    | some (thrown, false) => (.error thrown, begun)

def writeKeys : List String → Attempt Unit
  | [] => return ()
  | key :: keys => do
      writeKey join fault key
      writeKeys keys

end Writes

/-! ## The extraction -/

section Extraction

variable (functions : ImageFunctions) (input : ExtractInput) (join : JoinPath)
  (fault : Option Fault)

/-- The body of the inner loop, which stores the image of an attachment. -/
def attemptBlock (block : JsonValue) (s : ExtractState) : Attempt (JsonValue × ExtractState) :=
  match block with
  | .null => Attempt.ofExcept (.error (typeError "Cannot read properties of null (reading 'type')"))
  | .object members =>
    match dataUrlOf (.object members) with
    | none => return (.object members, s)
    | some url =>
      match omitted functions input url s with
      | .error details => return (.object (replaceWithOmittedMarker details members), s)
      | .ok parsed => do
          let attachment := newAttachment functions input parsed s
          writeKey join fault attachment.blobKey
          return (.object (replaceWithAttachment attachment members),
            { output := s.output ++ [attachment]
              blobs := s.blobs ++ [(attachment.blobKey, parsed.buffer)]
              uuids := s.uuids + 1 })
  | other => return (other, s)

def attemptBlocks : List JsonValue → ExtractState → Attempt (List JsonValue × ExtractState)
  | [], s => return ([], s)
  | block :: blocks, s => do
      let (block, s) ← attemptBlock functions input join fault block s
      let (blocks, s) ← attemptBlocks blocks s
      return (block :: blocks, s)

/-- The body of the outer loop. -/
def attemptMessage (message : JsonValue) (s : ExtractState) : Attempt (JsonValue × ExtractState) :=
  match message with
  | .null =>
    Attempt.ofExcept (.error (typeError "Cannot read properties of null (reading 'content')"))
  | .object members =>
    match members.lookup "content" with
    | some (.array blocks) => do
        let (blocks, s) ← attemptBlocks functions input join fault blocks s
        return (.object (GroupBy.change members "content" fun _ => .array blocks), s)
    | _ => return (.object members, s)
  | other => return (other, s)

def attemptMessages : List JsonValue → ExtractState → Attempt (List JsonValue × ExtractState)
  | [], s => return ([], s)
  | message :: messages, s => do
      let (message, s) ← attemptMessage functions input join fault message s
      let (messages, s) ← attemptMessages messages s
      return (message :: messages, s)

def attemptExtract (promptContent : JsonValue) (s : ExtractState) : Attempt ExtractOutcome :=
  match promptContent with
  | .array messages => do
      let (cloned, s) ← attemptMessages functions input join fault messages s
      return ⟨promptContent, .array cloned, s⟩
  | _ => return ⟨promptContent, promptContent, s⟩

end Extraction

/-! ## The service -/

/-- The argument of `persistContent`; `none` is `undefined`. -/
structure PersistAttempt where
  requestId : String
  aiRequestId : Option String
  promptContent : JsonValue
  responseContent : Option JsonValue
  hasFile : Bool
  fileMetadata : Option AiHistoryFileMetadata

def PersistAttempt.eventId (input : PersistAttempt) : String :=
  input.aiRequestId.getD input.requestId

section Service

variable (functions : HistoryFunctions) (join : JoinPath) (settings : HistorySettings)
  (contentNow attachmentNow : ℤ) (input : PersistAttempt) (fault : Option Fault)

def PersistAttempt.extractInput : ExtractInput :=
  ⟨input.eventId, functions.addDays attachmentNow settings.aiHistoryAttachmentDays, settings.limits⟩

def PersistAttempt.responseBlobKey : Option String :=
  input.responseContent.map fun _ => responseKey input.eventId

def PersistAttempt.fileBlobKey : Option String :=
  if input.hasFile then some (fileKey input.eventId) else none

/-- What the transaction is given. -/
def PersistAttempt.upsert (outcome : ExtractOutcome) : UpsertContentInput where
  eventId := input.eventId
  expiresAt := functions.addDays contentNow settings.aiHistoryContentDays
  promptBlobKey := promptKey input.eventId
  responseBlobKey := input.responseBlobKey
  fileBlobKey := input.fileBlobKey
  fileMetadataJson := input.fileMetadata
  promptAttachments := outcome.state.output

/-- What comes before the list of attachments and the transaction. The excerpt is not awaited, but
may throw. -/
def storeContent (uuids : ℕ) : Attempt UpsertContentInput := do
  let outcome ← attemptExtract functions.toImageFunctions
    (input.extractInput functions settings attachmentNow) join fault input.promptContent
    ⟨[], [], uuids⟩
  writeKeys join fault [promptKey input.eventId]
  writeKeys join fault input.responseBlobKey.toList
  writeKeys join fault input.fileBlobKey.toList
  let _ ← Attempt.ofExcept (extractResponseExcerpt (input.responseContent.getD .null))
  return input.upsert functions settings contentNow outcome

/-- The rows after the transaction. -/
def upsertTables (input : UpsertContentInput) (blobs : List String) (tables : HistoryTables) :
    HistoryTables :=
  { tables with
    contents := input.upsertContent (functions.cuid tables.contents.length) tables.contents
    attachments := input.replaceAttachments tables.attachments
    events := if input.eventId ∈ tables.events then tables.events
      else tables.events ++ [input.eventId]
    blobs := blobs }

/-- How a call has ended: what it has stored, and the tables that it leaves. -/
structure AttemptResult where
  finished : Except Exception Unit
  written : List String
  tables : HistoryTables

/-- `persistContent`, where one of the calls that it awaits may fail. -/
def persistAttempt (s : HistoryState) : AttemptResult :=
  match storeContent functions join settings contentNow attachmentNow input fault s.uuids
      ⟨s.tables.blobs, 0, []⟩ with
  | (.error e, files) => ⟨.error e, files.written, { s.tables with blobs := files.blobs }⟩
  | (.ok upsert, files) =>
    match fault with
    | some ⟨.list, thrown⟩ | some ⟨.upsert false, thrown⟩ =>
      ⟨.error thrown, files.written, { s.tables with blobs := files.blobs }⟩
    | some ⟨.upsert true, thrown⟩ =>
      ⟨.error thrown, files.written, upsertTables functions upsert files.blobs s.tables⟩
    | _ => ⟨.ok (), files.written, persistRows functions join upsert files.blobs s.tables⟩

end Service

/-! ## The images that are stored -/

def isNull : JsonValue → Bool
  | .null => true
  | _ => false

/-- What the loops come across in a message. -/
def messageUnits : JsonValue → List JsonValue
  | .null => [.null]
  | message => contentBlocks message

def promptUnits : JsonValue → List JsonValue
  | .array messages => messages.flatMap messageUnits
  | _ => []

section Images

variable (functions : ImageFunctions) (input : ExtractInput)

/-- The block is an image that is stored, unless there are too many of them before it. -/
def acceptedImage (block : JsonValue) : Bool :=
  match dataUrlOf block with
  | none => false
  | some url =>
    estimateDataUrlDecodedBytes url ≤ input.limits.maxAttachmentBytes &&
      (parseDataUrl functions url).any fun parsed =>
        parsed.mimeType ∈ ALLOWED_PROMPT_IMAGE_MIME_TYPES &&
          parsed.buffer.length ≤ input.limits.maxAttachmentBytes

/-- How many images are stored, behind so many others: those that are accepted before the first
null, up to the limit. -/
def takenImages (units : List JsonValue) (before : ℕ) : ℕ :=
  min ((units.takeWhile fun unit => !isNull unit).countP (acceptedImage functions input))
    (input.limits.maxAttachments - before)

/-- The keys of so many images. -/
def imageKeys (uuids n : ℕ) : List String :=
  (List.range' uuids n).map fun k => attachmentKey input.requestId (functions.randomUUID k)

variable {functions input}

theorem takenImages_nil (before : ℕ) : takenImages functions input [] before = 0 :=
  Nat.zero_min _

theorem imageKeys_add (uuids n m : ℕ) : imageKeys functions input uuids (n + m) =
      imageKeys functions input uuids n ++ imageKeys functions input (uuids + n) m := by
  unfold imageKeys
  rw [← List.map_append, List.range'_append_1]

variable {units : List JsonValue}

variable (units' : List JsonValue)

/-- Behind a null nothing is stored. -/
theorem takeWhile_append_of_null (hnull : units.any isNull = true) :
    (units ++ units').takeWhile (fun unit => !isNull unit) =
      units.takeWhile fun unit => !isNull unit := by
  induction units with
  | nil => cases hnull
  | cons unit units ih =>
    rw [List.cons_append, List.takeWhile_cons, List.takeWhile_cons]
    cases hunit : isNull unit with
    | true => rfl
    | false => grind

theorem takenImages_append_of_null (before : ℕ) (hnull : units.any isNull = true) :
    takenImages functions input (units ++ units') before =
      takenImages functions input units before := by
  unfold takenImages
  rw [takeWhile_append_of_null units' hnull]

variable (functions input) in
theorem takenImages_append (before : ℕ) (hnone : units.any isNull = false) :
    takenImages functions input (units ++ units') before =
      takenImages functions input units before +
        takenImages functions input units' (before + takenImages functions input units before) := by
  have hall : ∀ unit ∈ units, (!isNull unit) = true := by grind
  have hself : (units.takeWhile fun unit => !isNull unit) = units :=
    List.takeWhile_eq_self_iff.mpr hall
  unfold takenImages
  rw [List.takeWhile_append_of_pos hall, List.countP_append, hself]
  omega

variable (functions input) in
/-- An image is stored exactly when it is accepted and the limit is not reached. -/
theorem omitted_isOk (url : JsString) (s : ExtractState) :
    (∃ parsed, omitted functions input url s = .ok parsed) ↔
      (estimateDataUrlDecodedBytes url ≤ input.limits.maxAttachmentBytes ∧
        ∃ parsed, parseDataUrl functions url = some parsed ∧
          parsed.mimeType ∈ ALLOWED_PROMPT_IMAGE_MIME_TYPES ∧
          parsed.buffer.length ≤ input.limits.maxAttachmentBytes) ∧
        s.output.length < input.limits.maxAttachments := by
  unfold omitted
  dsimp only
  by_cases hestimate : estimateDataUrlDecodedBytes url > input.limits.maxAttachmentBytes
  · grind
  rw [if_neg hestimate]
  rcases hparse : parseDataUrl functions url with _ | parsed
  · simp
  dsimp only
  by_cases hmime : parsed.mimeType ∉ ALLOWED_PROMPT_IMAGE_MIME_TYPES
  · grind
  rw [if_neg hmime]
  by_cases hsize : parsed.buffer.length > input.limits.maxAttachmentBytes
  · grind
  rw [if_neg hsize]
  by_cases hcount : s.output.length ≥ input.limits.maxAttachments
  · grind
  rw [if_neg hcount]
  constructor
  · grind
  · intro _
    exact ⟨parsed, rfl⟩

theorem acceptedImage_iff {block : JsonValue} {url : JsString} (hurl : dataUrlOf block = some url) :
    acceptedImage functions input block = true ↔
      estimateDataUrlDecodedBytes url ≤ input.limits.maxAttachmentBytes ∧
        ∃ parsed, parseDataUrl functions url = some parsed ∧
          parsed.mimeType ∈ ALLOWED_PROMPT_IMAGE_MIME_TYPES ∧
          parsed.buffer.length ≤ input.limits.maxAttachmentBytes := by
  simp [hurl, Option.any_eq_true, acceptedImage]

variable (functions input) in
/-- How many images one block stores. -/
theorem takenImages_block {block : JsonValue} (s : ExtractState) {url : JsString}
    (hurl : dataUrlOf block = some url) :
    takenImages functions input [block] s.output.length = match omitted functions input url s with
      | .error _ => 0
      | .ok _ => 1 := by
  have hunit : isNull block = false := by
    cases block with
    | null => cases hurl
    | _ => rfl
  have hcount : ([block].takeWhile fun unit => !isNull unit).countP
      (acceptedImage functions input) = if acceptedImage functions input block then 1 else 0 := by
    simp_all
  have hok := omitted_isOk functions input url s
  rw [← acceptedImage_iff hurl] at hok
  unfold takenImages
  rw [hcount]
  rcases homitted : omitted functions input url s with details | parsed
  · -- it is not accepted, or there are as many as there may be
    rw [homitted] at hok
    dsimp only
    by_cases hacc : acceptedImage functions input block = true
    · grind
    · rw [if_neg hacc, Nat.zero_min]
  · grind

end Images

/-! ## What an extraction stores -/

section Takes

variable {functions : ImageFunctions} {input : ExtractInput} {join : JoinPath}
  {fault : Option Fault}

theorem writeKeys_append (keys keys' : List String) : writeKeys join fault (keys ++ keys') =
      writeKeys join fault keys >>= fun _ => writeKeys join fault keys' := by
  induction keys with
  | nil => rfl
  | cons key keys ih =>
    rw [List.cons_append, writeKeys, writeKeys, ih, Attempt.bind_assoc]

variable (functions input join fault) in
/-- The attempt goes through these blocks: it stores the images that are taken from them, and
then ends as the extraction does, which throws exactly at a null. -/
structure Takes {β : Type} (units : List JsonValue) (s : ExtractState)
    (attempt : Attempt (β × ExtractState)) (result : Except Exception (β × ExtractState)) :
    Prop where
  run : attempt = writeKeys join fault (imageKeys functions input s.uuids
    (takenImages functions input units s.output.length)) >>= fun _ => Attempt.ofExcept result
  ok : ∀ b s', result = .ok (b, s') → units.any isNull = false ∧ s'.output.length =
      s.output.length + takenImages functions input units s.output.length ∧
    s'.uuids = s.uuids + takenImages functions input units s.output.length
  error : ∀ e, result = .error e → units.any isNull = true

namespace Takes

variable {β γ : Type} {units units' : List JsonValue} {s : ExtractState}
  {attempt : Attempt (β × ExtractState)} {result : Except Exception (β × ExtractState)}

theorem of_ok {b : β} {s' : ExtractState}
    (hrun : attempt = writeKeys join fault (imageKeys functions input s.uuids
      (takenImages functions input units s.output.length)) >>= fun _ =>
        Attempt.ofExcept (.ok (b, s')))
    (hnone : units.any isNull = false)
    (hlen : s'.output.length =
      s.output.length + takenImages functions input units s.output.length)
    (huuids : s'.uuids = s.uuids + takenImages functions input units s.output.length) :
    Takes functions input join fault units s attempt (.ok (b, s')) where
  run := hrun
  ok := by grind
  error := by
    intro e h
    cases h

/-- Nothing is stored. -/
theorem of_none (b : β) (hnone : units.any isNull = false)
    (hzero : takenImages functions input units s.output.length = 0) :
    Takes functions input join fault units s (Attempt.ofExcept (.ok (b, s))) (.ok (b, s)) := by
  refine .of_ok ?_ hnone ?_ ?_
  · rw [hzero]
    rfl
  all_goals rw [hzero, Nat.add_zero]

/-- One image is stored. -/
theorem of_one {b : β} {s' : ExtractState} (hnone : units.any isNull = false)
    (hone : takenImages functions input units s.output.length = 1)
    (hlen : s'.output.length = s.output.length + 1) (huuids : s'.uuids = s.uuids + 1) :
    Takes functions input join fault units s
      (writeKey join fault (attachmentKey input.requestId (functions.randomUUID s.uuids)) >>=
        fun _ => Pure.pure (b, s'))
      (.ok (b, s')) := by
  refine .of_ok ?_ hnone ?_ ?_
  · have hkeys : imageKeys functions input s.uuids 1 =
        [attachmentKey input.requestId (functions.randomUUID s.uuids)] := rfl
    rw [hone, hkeys, writeKeys, writeKeys]
    simp only [Attempt.bind_assoc, Attempt.pure_eq, Attempt.ofExcept_ok_bind]
  · rw [hone, hlen]
  · rw [hone, huuids]

theorem pure (b : β) (s : ExtractState) :
    Takes functions input join fault [] s (Attempt.ofExcept (.ok (b, s))) (.ok (b, s)) :=
  .of_none b rfl (takenImages_nil _)

theorem bind {f : β × ExtractState → Attempt (γ × ExtractState)}
    {g : β × ExtractState → Except Exception (γ × ExtractState)}
    (h : Takes functions input join fault units s attempt result)
    (hf : ∀ b s', result = .ok (b, s') →
      Takes functions input join fault units' s' (f (b, s')) (g (b, s'))) :
    Takes functions input join fault (units ++ units') s (attempt >>= f) (result >>= g) := by
  rcases hres : result with e | ⟨b, s'⟩
  · -- what follows is not reached
    have hnull := h.error e hres
    constructor
    · rw [h.run, hres, takenImages_append_of_null units' _ hnull, Attempt.bind_assoc]
      rfl
    · intro b s' hok
      cases hok
    · grind
  obtain ⟨hnone, hlen, huuids⟩ := h.ok b s' hres
  have hrest := hf b s' hres
  have htaken := takenImages_append functions input units' s.output.length hnone
  rw [← hlen] at htaken
  constructor
  · rw [h.run, hres, htaken, imageKeys_add, writeKeys_append, Attempt.bind_assoc,
      Attempt.bind_assoc, ← huuids]
    congr 1
    funext _
    exact hrest.run
  · intro c s'' hok
    obtain ⟨hnone', hlen', huuids'⟩ := hrest.ok c s'' hok
    refine ⟨?_, by omega, by omega⟩
    rw [List.any_append, hnone, hnone']
    rfl
  · intro e' herror
    rw [List.any_append, hrest.error e' herror, Bool.or_true]

/-- The last step returns. -/
theorem map (f : β → γ) (h : Takes functions input join fault units s attempt result) :
    Takes functions input join fault units s
      (attempt >>= fun out => Attempt.ofExcept (.ok (f out.1, out.2)))
      (result >>= fun out => .ok (f out.1, out.2)) := by
  have hmap : Takes functions input join fault (units ++ []) s
      (attempt >>= fun out => Attempt.ofExcept (.ok (f out.1, out.2)))
      (result >>= fun out => .ok (f out.1, out.2)) := h.bind fun b s' _ => pure (f b) s'
  rwa [List.append_nil] at hmap

end Takes

variable (functions input join fault)

theorem takes_block (block : JsonValue) (s : ExtractState) :
    Takes functions input join fault [block] s (attemptBlock functions input join fault block s)
      (extractBlock functions input block s) := by
  by_cases hunit : isNull block = true
  · cases block with
    | null =>
      constructor
      · rfl
      · intro b s' h
        cases h
      · intro e _
        rfl
    | _ => cases hunit
  have hnone : [block].any isNull = false := by grind
  have hkept : dataUrlOf block = none →
      Takes functions input join fault [block] s (Attempt.ofExcept (.ok (block, s)))
        (.ok (block, s)) := by
    intro hurl
    have hzero : takenImages functions input [block] s.output.length = 0 := by
      have hrejected : acceptedImage functions input block = false := by
        unfold acceptedImage
        rw [hurl]
      unfold takenImages
      rw [List.takeWhile_cons]
      simp [hrejected]
    exact .of_none block hnone hzero
  cases block with
  | null => exact absurd rfl hunit
  | object members =>
    rcases hurl : dataUrlOf (.object members) with _ | url
    · have hattempt : attemptBlock functions input join fault (.object members) s =
          Attempt.ofExcept (.ok (.object members, s)) := by
        unfold attemptBlock
        dsimp only
        rw [hurl]
        rfl
      have hextract : extractBlock functions input (.object members) s =
          .ok (.object members, s) := by grind [extractBlock]
      rw [hattempt, hextract]
      exact hkept hurl
    have htaken := takenImages_block functions input s hurl
    unfold attemptBlock extractBlock
    dsimp only
    rw [hurl]
    dsimp only
    rcases homitted : omitted functions input url s with details | parsed
    · rw [homitted] at htaken
      exact .of_none _ hnone htaken
    rw [homitted] at htaken
    dsimp only at htaken ⊢
    have hkey : (newAttachment functions input parsed s).blobKey =
        attachmentKey input.requestId (functions.randomUUID s.uuids) := rfl
    rw [hkey]
    exact .of_one hnone htaken List.length_append rfl
  | _ => exact hkept rfl

theorem takes_blocks (blocks : List JsonValue) (s : ExtractState) :
    Takes functions input join fault blocks s (attemptBlocks functions input join fault blocks s)
      (extractBlocks functions input blocks s) := by
  induction blocks generalizing s with
  | nil => exact .pure [] s
  | cons block blocks ih =>
    refine (takes_block functions input join fault block s).bind fun block' s' _ => ?_
    exact (ih s').map fun blocks' => block' :: blocks'

theorem takes_message (message : JsonValue) (s : ExtractState) :
    Takes functions input join fault (messageUnits message) s
      (attemptMessage functions input join fault message s)
      (extractMessage functions input message s) := by
  cases message with
  | null =>
    constructor
    · rfl
    · intro b s' h
      cases h
    · intro e _
      rfl
  | object members =>
    unfold messageUnits contentBlocks attemptMessage extractMessage
    dsimp only
    rcases members.lookup "content" with _ | content
    · exact .pure (JsonValue.object members) s
    cases content with
    | array blocks =>
      exact (takes_blocks functions input join fault blocks s).map fun blocks' =>
        JsonValue.object (GroupBy.change members "content" fun _ => .array blocks')
    | _ => exact .pure (JsonValue.object members) s
  | bool b => exact .pure (JsonValue.bool b) s
  | number text => exact .pure (JsonValue.number text) s
  | string text => exact .pure (JsonValue.string text) s
  | array items => exact .pure (JsonValue.array items) s

theorem takes_messages (messages : List JsonValue) (s : ExtractState) :
    Takes functions input join fault (messages.flatMap messageUnits) s
      (attemptMessages functions input join fault messages s)
      (extractMessages functions input messages s) := by
  induction messages generalizing s with
  | nil => exact .pure [] s
  | cons message messages ih =>
    refine (takes_message functions input join fault message s).bind fun message' s' _ => ?_
    exact (ih s').map fun messages' => message' :: messages'

/-- The extraction stores the images that are taken from the prompt, and then ends as it does
without failures. -/
theorem attemptExtract_eq (promptContent : JsonValue) (s : ExtractState) :
    attemptExtract functions input join fault promptContent s =
      writeKeys join fault (imageKeys functions input s.uuids
        (takenImages functions input (promptUnits promptContent) s.output.length)) >>= fun _ =>
      Attempt.ofExcept (extractPromptAttachments functions input promptContent s) := by
  have hother : promptUnits promptContent = [] → ∀ outcome : ExtractOutcome,
      Attempt.ofExcept (.ok outcome) = writeKeys join fault (imageKeys functions input s.uuids
          (takenImages functions input (promptUnits promptContent) s.output.length)) >>= fun _ =>
        Attempt.ofExcept (.ok outcome) := by
    intro hunits outcome
    rw [hunits]
    rfl
  cases promptContent with
  | array messages =>
    have htakes := takes_messages functions input join fault messages s
    unfold attemptExtract
    dsimp only
    rw [htakes.run, Attempt.bind_assoc]
    congr 1
    funext _
    exact Attempt.ofExcept_bind _ _
  | _ => exact hother rfl _

end Takes

section Extract

variable {functions : ImageFunctions} {input : ExtractInput} {promptContent : JsonValue}
  {s : ExtractState}

/-- The extraction throws exactly at a null. -/
theorem extractPromptAttachments_error {e : Exception}
    (h : extractPromptAttachments functions input promptContent s = .error e) :
    (promptUnits promptContent).any isNull = true := by
  cases promptContent with
  | array messages =>
    have htakes := takes_messages functions input (fun key => key) none messages s
    unfold extractPromptAttachments at h
    dsimp only at h
    rcases hres : extractMessages functions input messages s with e' | out
    · exact htakes.error e' hres
    · rw [hres] at h
      cases h
  | _ => cases h

theorem extractPromptAttachments_ok {outcome : ExtractOutcome}
    (h : extractPromptAttachments functions input promptContent s = .ok outcome) :
    (promptUnits promptContent).any isNull = false ∧ outcome.state.output.length = s.output.length +
        takenImages functions input (promptUnits promptContent) s.output.length := by
  have hother : promptUnits promptContent = [] → outcome.state = s →
      (promptUnits promptContent).any isNull = false ∧
        outcome.state.output.length = s.output.length +
          takenImages functions input (promptUnits promptContent) s.output.length := by
    grind [takenImages_nil]
  cases promptContent with
  | array messages =>
    have htakes := takes_messages functions input (fun key => key) none messages s
    unfold extractPromptAttachments at h
    dsimp only at h
    rcases hres : extractMessages functions input messages s with e | ⟨cloned, s'⟩
    · rw [hres] at h
      cases h
    obtain ⟨hnone, hlen, -⟩ := htakes.ok cloned s' hres
    rw [hres] at h
    rw [← Except.ok.inj h]
    exact ⟨hnone, hlen⟩
  | _ => exact hother rfl (by rw [← Except.ok.inj h])

end Extract

/-! ## How far a call gets -/

section Writes

variable (join : JoinPath) (fault : Option Fault)

/-- The paths that are written for these keys, from the `n`th write on. -/
def storedPaths : ℕ → List String → List String
  | _, [] => []
  | n, key :: keys =>
    match resolveSafeBlobPath join key with
    | none => []
    | some path =>
      match writeFault fault n with
      | none => path :: storedPaths (n + 1) keys
      | some (_, true) => [path]
      | some (_, false) => []

/-- All of these keys are stored, from the `n`th write on. -/
def AllStored (n : ℕ) (keys : List String) : Prop :=
  (∀ key ∈ keys, resolveSafeBlobPath join key ≠ none) ∧
    ∀ i < keys.length, writeFault fault (n + i) = none

variable {join fault}

theorem allStored_nil (n : ℕ) : AllStored join fault n [] :=
  ⟨nofun, nofun⟩

theorem allStored_cons {n : ℕ} {key : String} {keys : List String} :
    AllStored join fault n (key :: keys) ↔
      resolveSafeBlobPath join key ≠ none ∧ writeFault fault n = none ∧
        AllStored join fault (n + 1) keys := by
  unfold AllStored
  rw [List.forall_mem_cons]
  constructor
  · rintro ⟨⟨hkey, hkeys⟩, hwrites⟩
    have hfirst := hwrites 0 (by rw [List.length_cons]; omega)
    refine ⟨hkey, hfirst, hkeys, ?_⟩
    intro i hi
    have hlater := hwrites (i + 1) (by rw [List.length_cons]; omega)
    rwa [show n + (i + 1) = n + 1 + i by omega] at hlater
  rintro ⟨hkey, hfirst, hkeys, hwrites⟩
  refine ⟨⟨hkey, hkeys⟩, ?_⟩
  intro i hi
  rcases i with _ | i
  · exact hfirst
  · grind

theorem CallFiles.mem_blobs_leave {files : CallFiles} {path other : String} :
    other ∈ (files.leave path).blobs ↔ other ∈ files.blobs ∨ other = path := by
  unfold CallFiles.leave
  by_cases hmem : path ∈ files.blobs
  · grind
  · rw [if_neg hmem, List.mem_append, List.mem_singleton]

variable (join fault) in
/-- What the writes leave, whether they all succeed or not. -/
theorem writeKeys_spec (keys : List String) (files : CallFiles) :
    (writeKeys join fault keys files).2.written =
        files.written ++ storedPaths join fault files.writes keys ∧
      (∀ path, path ∈ files.blobs ∨ path ∈ storedPaths join fault files.writes keys →
        path ∈ (writeKeys join fault keys files).2.blobs) ∧
      ((writeKeys join fault keys files).1 = .ok () ↔ AllStored join fault files.writes keys) := by
  induction keys generalizing files with
  | nil =>
    refine ⟨(List.append_nil _).symm, ?_, iff_of_true rfl (allStored_nil _)⟩
    rintro path (h | h)
    · exact h
    · cases h
  | cons key keys ih =>
    rw [allStored_cons, writeKeys, Attempt.bind_run, storedPaths]
    unfold writeKey
    rcases resolveSafeBlobPath join key with _ | path
    · simp
    dsimp only
    rcases hfault : writeFault fault files.writes with _ | ⟨thrown, left⟩
    · obtain ⟨hwritten, hblobs, hok⟩ :=
        ih (({ files with writes := files.writes + 1 } : CallFiles).leave path)
      dsimp only
      refine ⟨?_, ?_, ?_⟩
      · rw [hwritten]
        simp [CallFiles.leave]
      · intro other hother
        refine hblobs other ?_
        rw [CallFiles.mem_blobs_leave]
        rcases hother with hother | hother
        · exact .inl (.inl hother)
        rcases List.mem_cons.mp hother with hother | hother
        · exact .inl (.inr hother)
        · exact .inr hother
      · rw [hok]
        constructor
        · intro hrest
          exact ⟨nofun, rfl, hrest⟩
        · rintro ⟨-, -, hrest⟩
          exact hrest
    · cases left with
      | true =>
        refine ⟨rfl, ?_, iff_of_false nofun ?_⟩
        · simp [CallFiles.mem_blobs_leave]
        · rintro ⟨-, hnone, -⟩
          cases hnone
      | false => simp

/-- What is written is what the keys resolve to. -/
theorem key_of_storedPaths {n : ℕ} {keys : List String} {path : String}
    (h : path ∈ storedPaths join fault n keys) :
    ∃ key ∈ keys, resolveSafeBlobPath join key = some path := by
  induction keys generalizing n with
  | nil => cases h
  | cons key keys ih =>
    rw [storedPaths] at h
    rcases hkey : resolveSafeBlobPath join key with _ | path'
    · rw [hkey] at h
      cases h
    rw [hkey] at h
    dsimp only at h
    have hfirst : path = path' →
        ∃ stored ∈ key :: keys, resolveSafeBlobPath join stored = some path := by
      rintro rfl
      exact ⟨key, List.mem_cons_self, hkey⟩
    split at h
    · grind
    · exact hfirst (List.mem_singleton.mp h)
    · cases h

end Writes

section Service

variable (functions : HistoryFunctions) (join : JoinPath) (settings : HistorySettings)
  (contentNow attachmentNow : ℤ) (input : PersistAttempt) (fault : Option Fault)

/-- A null among the messages of the prompt, or among the blocks of one. -/
def PersistAttempt.hasNull : Bool := (promptUnits input.promptContent).any isNull

/-- The keys of the blobs that a call would store: behind a null, the extraction throws. -/
def PersistAttempt.plannedKeys (uuids : ℕ) : List String :=
  imageKeys functions.toImageFunctions (input.extractInput functions settings attachmentNow) uuids
      (takenImages functions.toImageFunctions (input.extractInput functions settings attachmentNow)
        (promptUnits input.promptContent) 0) ++
    if input.hasNull then []
    else promptKey input.eventId :: (input.responseBlobKey.toList ++ input.fileBlobKey.toList)

/-- Nothing fails before the end of the transaction. -/
structure GetsThrough (s : HistoryState) : Prop where
  stored : AllStored join fault 0 (input.plannedKeys functions settings attachmentNow s.uuids)
  prompt : input.hasNull = false
  response : ∃ excerpt, extractResponseExcerpt (input.responseContent.getD .null) = .ok excerpt
  list : ∀ thrown, fault ≠ some ⟨.list, thrown⟩
  upsert : ∀ thrown, fault ≠ some ⟨.upsert false, thrown⟩

/-- What `storeContent` gives where its writes succeed. -/
def upsertInput (uuids : ℕ) : Except Exception UpsertContentInput := do
  let outcome ← extractPromptAttachments functions.toImageFunctions
    (input.extractInput functions settings attachmentNow) input.promptContent ⟨[], [], uuids⟩
  let _ ← extractResponseExcerpt (input.responseContent.getD .null)
  return input.upsert functions settings contentNow outcome

theorem storeContent_eq (uuids : ℕ) :
    storeContent functions join settings contentNow attachmentNow input fault uuids =
      writeKeys join fault (input.plannedKeys functions settings attachmentNow uuids) >>= fun _ =>
        Attempt.ofExcept (upsertInput functions settings contentNow attachmentNow input uuids) := by
  unfold storeContent upsertInput PersistAttempt.plannedKeys
  rw [attemptExtract_eq, Attempt.bind_assoc, writeKeys_append, Attempt.bind_assoc]
  congr 1
  funext _
  rcases hextract : extractPromptAttachments functions.toImageFunctions
    (input.extractInput functions settings attachmentNow) input.promptContent ⟨[], [], uuids⟩
    with e | outcome
  · have hnull : input.hasNull = true := extractPromptAttachments_error hextract
    rw [if_pos hnull]
    rfl
  have hnone : input.hasNull = false := (extractPromptAttachments_ok hextract).1
  rw [if_neg (by rw [hnone]; exact Bool.false_ne_true), Attempt.ofExcept_ok_bind]
  rw [show promptKey input.eventId :: (input.responseBlobKey.toList ++ input.fileBlobKey.toList) =
    [promptKey input.eventId] ++ (input.responseBlobKey.toList ++ input.fileBlobKey.toList) from
      rfl, writeKeys_append, writeKeys_append, Attempt.bind_assoc, Attempt.bind_assoc]
  congr 1
  funext _
  congr 1
  funext _
  congr 1
  funext _
  exact Attempt.ofExcept_bind _ _

end Service

end QuizMind.History
