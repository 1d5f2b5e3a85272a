import QuizMind.History.Listing
import QuizMind.History.PersistContent

/-! # Reading contents

The list, the detail and the attachments of a request read blobs. Those of events are read until
they expire; the blobs of a row of the legacy table are read without a look at its `expiresAt`, so
that they are served until the cleanup has deleted them: `servesInTime_iff`.
-/

namespace QuizMind.History

open OffsetPages (Arranged arranged_insertionSort page)
open RemoteConfig (JsString JsonValue isTruthy js typeError)

/-! ## Excerpts -/

def EXCERPT_MAX : ℕ := 300

def excerptText (s : JsString) : Option JsString :=
  if s = [] then none
  else
    let t := trimUnits s
    some (if t.length > EXCERPT_MAX then t.take EXCERPT_MAX ++ [0x2026] else t)

/-- The texts of the blocks; `none` where the loop throws. -/
def blockTexts : List JsonValue → Option (List JsString)
  | [] => some []
  | .null :: _ => none
  | .object block :: blocks => do
      let texts ← blockTexts blocks
      match block.lookup "type", block.lookup "text" with
      | some (.string type), some (.string text) =>
        return if type = js "text" then text :: texts else texts
      | _, _ => return texts
  | _ :: blocks => blockTexts blocks

/-- The texts of the messages; `none` where the loop throws. -/
def messageTexts : List JsonValue → Option (List JsString)
  | [] => some []
  | .null :: _ => none
  | .object message :: messages => do
      let parts ← match message.lookup "content" with
        | some (.string text) => some [text]
        | some (.array blocks) => blockTexts blocks
        | _ => some []
      let texts ← messageTexts messages
      return parts ++ texts
  | _ :: messages => messageTexts messages

def extractPromptExcerpt (promptContent : JsonValue) : Option JsString :=
  if !isTruthy (some promptContent) then none
  else
    match promptContent with
    | .string text => excerptText text
    | .array messages => do
        let parts ← messageTexts messages
        excerptText ([0x20].intercalate parts)
    | _ => none

def extractResponseExcerpt (responseContent : JsonValue) : Except Exception (Option JsString) :=
  match responseContent with
  | .object members =>
    match members.lookup "choices" with
    | some (.array (.null :: _)) =>
      .error (typeError "Cannot read properties of null (reading 'message')")
    | some (.array (.object first :: _)) =>
      match first.lookup "message" with
      | some (.object message) =>
        match message.lookup "content" with
        | some (.string text) => .ok (excerptText text)
        | _ => .ok none
      | _ => .ok none
    | _ => .ok none
  | _ => .ok none

/-! ## The store -/

structure OwnedAttachment extends AiRequestAttachment where
  userId : String

/-- The tables and the blobs; the legacy rows have a date, or none, from which they are expired. A
blob that is missing or cannot be read is `null`. -/
structure ContentStore where
  tables : AiHistoryTables
  contents : List AiRequestContent
  contentKeys : (contents.map AiRequestContent.aiRequestEventId).Nodup
  attachments : List OwnedAttachment
  legacyExpiresAt : String → Option ℤ
  readJson : String → JsonValue
  readBinary : String → Option (List UInt8)

variable (store : ContentStore) (now : ℤ)

def ContentStore.contentOf (eventId : String) : Option AiRequestContent :=
  store.contents.find? fun content => content.aiRequestEventId = eventId

def AiRequestContent.isGone (content : AiRequestContent) : Bool :=
  content.deletedAt.isSome || content.expiresAt < now

/-! ## The readers -/

/-- A value of an answer: a text of the service, or what a blob holds. -/
inductive Shown where
  | message (text : String)
  | content (value : JsonValue)

def CONTENT_EXPIRED_MESSAGE : String := "Full content expired after the retention window."

/-- `content ?? CONTENT_EXPIRED_MESSAGE`. -/
def Shown.orExpired : JsonValue → Shown
  | .null => .message CONTENT_EXPIRED_MESSAGE
  | value => .content value

/-- An item with what was read from blobs for it. The excerpts that an event keeps in its row are
left out. -/
structure ServedItem where
  item : AiHistoryListItem
  promptContentJson : Shown
  responseContentJson : Shown
  promptExcerpt : Option JsString
  responseExcerpt : Option JsString

/-- An item without contents. -/
def ServedItem.bare (item : AiHistoryListItem) : ServedItem :=
  ⟨item, .content .null, .content .null, none, none⟩

def listEventItem (row : AiHistoryRow) : ServedItem :=
  match store.contentOf row.id with
  | none => .bare (.event row)
  | some content =>
    if content.isGone now then .bare (.event row)
    else
      match content.promptBlobKey with
      | none => .bare (.event row)
      | some key =>
        { ServedItem.bare (.event row) with promptContentJson := .content (store.readJson key) }

def listLegacyItem (row : AiHistoryRow) : Except Exception ServedItem := do
  let promptContent := store.readJson (promptKey row.id)
  let responseExcerpt ← extractResponseExcerpt (store.readJson (responseKey row.id))
  return { ServedItem.bare (.legacy row) with
    promptContentJson := .content promptContent
    promptExcerpt := extractPromptExcerpt promptContent
    responseExcerpt := responseExcerpt }

def serveListItem : AiHistoryListItem → Except Exception ServedItem
  | .event row => .ok (listEventItem store now row)
  | .legacy row => listLegacyItem store row

/-- `listHistory`, with the contents of its items. -/
def listServed (dateOf : String → Option ℤ) (userId : String) (order : HistoryOrder)
    (rawFilters : AiHistoryListFilters) : Except Exception (List ServedItem) := do
  let response ← listHistory dateOf store.tables userId order rawFilters
  response.items.mapM (serveListItem store now)

def detailOfEvent (row : AiHistoryRow) : ServedItem :=
  match store.contentOf row.id with
  | none =>
    { ServedItem.bare (.event row) with
      promptContentJson := .message CONTENT_EXPIRED_MESSAGE
      responseContentJson := .message CONTENT_EXPIRED_MESSAGE }
  | some content =>
    if content.isGone now then
      { ServedItem.bare (.event row) with
        promptContentJson := .message CONTENT_EXPIRED_MESSAGE
        responseContentJson := .message CONTENT_EXPIRED_MESSAGE }
    else
      { ServedItem.bare (.event row) with
        promptContentJson := .orExpired ((content.promptBlobKey.map store.readJson).getD .null)
        responseContentJson :=
          .orExpired ((content.responseBlobKey.map store.readJson).getD .null) }

def detailOfLegacy (row : AiHistoryRow) : Except Exception ServedItem := do
  let promptContent := store.readJson (promptKey row.id)
  let responseContent := store.readJson (responseKey row.id)
  let responseExcerpt ← extractResponseExcerpt responseContent
  return { item := .legacy row
           promptContentJson := .content promptContent
           responseContentJson := .content responseContent
           promptExcerpt := extractPromptExcerpt promptContent
           responseExcerpt := responseExcerpt }

/-- `getDetail`, with the contents. -/
def detailServed (userId id : String) : Except Exception (Option ServedItem) :=
  match getDetail store.tables userId id with
  | none => .ok none
  | some (.event row) => .ok (some (detailOfEvent store now row))
  | some (.legacy row) => (detailOfLegacy store row).map some

structure AttachmentAnswer where
  bytes : List UInt8
  mimeType : JsString
  originalName : String
  expired : Bool

def getAttachmentForUser (userId aiRequestEventId attachmentId : String) :
    Option AttachmentAnswer :=
  match store.attachments.find? fun attachment =>
      attachment.id = attachmentId && attachment.aiRequestEventId = aiRequestEventId &&
        attachment.userId = userId with
  | none => none
  | some attachment =>
    let originalName := attachment.originalName.getD ("attachment-" ++ attachment.id)
    if attachment.deletedAt.isSome || attachment.expiresAt < now then
      some ⟨[], attachment.mimeType, originalName, true⟩
    else
      match store.readBinary attachment.blobKey with
      | none => none
      | some bytes => some ⟨bytes, attachment.mimeType, originalName, false⟩

/-! ## The statement -/

def Shown.IsContent : Shown → Prop
  | .message _ => False
  | .content value => value ≠ .null

/-- Something that was read from a blob. -/
def ServedItem.HasContent (served : ServedItem) : Prop :=
  served.promptContentJson.IsContent ∨ served.responseContentJson.IsContent ∨
    served.promptExcerpt.isSome = true ∨ served.responseExcerpt.isSome = true

/-- The contents of the request are neither expired nor deleted. -/
def InTime : AiHistoryListItem → Prop
  | .event row => ∃ content ∈ store.contents, content.aiRequestEventId = row.id ∧
      content.deletedAt = none ∧ now ≤ content.expiresAt
  | .legacy row => ∀ date, store.legacyExpiresAt row.id = some date → now ≤ date

/-- None of the readers serves what is expired or deleted. -/
structure ServesInTime (dateOf : String → Option ℤ) (userId : String) : Prop where
  list : ∀ order rawFilters items, listServed store now dateOf userId order rawFilters = .ok items →
    ∀ served ∈ items, served.HasContent → InTime store now served.item
  detail : ∀ id served, detailServed store now userId id = .ok (some served) →
    served.HasContent → InTime store now served.item
  attachment : ∀ eventId attachmentId answer,
    getAttachmentForUser store now userId eventId attachmentId = some answer →
      answer.bytes ≠ [] → ∃ attachment ∈ store.attachments, attachment.id = attachmentId ∧
        attachment.aiRequestEventId = eventId ∧ attachment.userId = userId ∧
        attachment.deletedAt = none ∧ now ≤ attachment.expiresAt

/-- No legacy row that is expired and whose blobs still have content can be reached: by filters
that no event passes, or by its id where no event of the user has it. -/
structure ExpiredUnreachable (dateOf : String → Option ℤ) (userId : String) : Prop where
  list : ∀ rawFilters : AiHistoryListFilters, rawFilters.Accepted dateOf userId →
    (∀ event ∈ store.tables.events, rawFilters.admits dateOf userId event = false) →
      ∀ row ∈ store.tables.legacy, rawFilters.admits dateOf userId row = true →
        ∀ served, listLegacyItem store row = .ok served → served.HasContent →
          InTime store now (.legacy row)
  detail : ∀ row ∈ store.tables.legacy, row.userId = userId →
    (∀ event ∈ store.tables.events, event.userId = userId → event.id ≠ row.id) →
      ∀ served, detailOfLegacy store row = .ok served → served.HasContent →
        InTime store now (.legacy row)

/-! ## What the readers serve -/

section Readers

variable {store now} {dateOf : String → Option ℤ} {userId : String}
  {rawFilters : AiHistoryListFilters} {order : HistoryOrder}

theorem not_hasContent_bare (item : AiHistoryListItem) : ¬ (ServedItem.bare item).HasContent := by
  rintro (h | h | h | h)
  · exact h rfl
  · exact h rfl
  · cases h
  · cases h

variable {row : AiHistoryRow}

theorem inTime_of_content {content : AiRequestContent}
    (hcont : store.contentOf row.id = some content) (hgone : ¬ content.isGone now = true) :
    InTime store now (.event row) := by
  have hmem := List.mem_of_find?_eq_some hcont
  have hid := List.find?_some hcont
  unfold AiRequestContent.isGone at hgone
  rw [Bool.or_eq_true, not_or] at hgone
  obtain ⟨hdel, hexp⟩ := hgone
  refine ⟨content, hmem, of_decide_eq_true hid, ?_, ?_⟩
  · exact Option.not_isSome_iff_eq_none.mp hdel
  · exact not_lt.mp fun hlt => hexp (decide_eq_true hlt)

theorem item_listEventItem (row : AiHistoryRow) :
    (listEventItem store now row).item = .event row := by
  unfold listEventItem
  split
  · rfl
  split
  · rfl
  · split <;> rfl

/-- The list shows the content of an event only in time. -/
theorem inTime_listEventItem (h : (listEventItem store now row).HasContent) :
    InTime store now (.event row) := by
  unfold listEventItem at h
  split at h
  · exact absurd h (not_hasContent_bare _)
  split at h
  · exact absurd h (not_hasContent_bare _)
  · grind [inTime_of_content]

theorem item_detailOfEvent (row : AiHistoryRow) :
    (detailOfEvent store now row).item = .event row := by
  unfold detailOfEvent
  split
  · rfl
  · split <;> rfl

theorem inTime_detailOfEvent (h : (detailOfEvent store now row).HasContent) :
    InTime store now (.event row) := by
  unfold detailOfEvent at h
  split at h
  · rcases h with h | h | h | h <;> cases h
  split at h
  · rcases h with h | h | h | h <;> cases h
  · grind [inTime_of_content]

theorem item_listLegacyItem {served : ServedItem} (h : listLegacyItem store row = .ok served) :
    served.item = .legacy row := by
  obtain ⟨excerpt, -, hserved⟩ := bind_eq_ok_iff.mp h
  cases hserved
  rfl

theorem item_detailOfLegacy {served : ServedItem} (h : detailOfLegacy store row = .ok served) :
    served.item = .legacy row := by
  obtain ⟨excerpt, -, hserved⟩ := bind_eq_ok_iff.mp h
  cases hserved
  rfl

/-- Every item of a list is served from an item of the page. -/
theorem exists_of_mapM {α β : Type} {f : α → Except Exception β} {xs : List α} {ys : List β}
    (h : xs.mapM f = .ok ys) : ∀ y ∈ ys, ∃ x ∈ xs, f x = .ok y := by
  induction xs generalizing ys with
  | nil =>
    cases h
    nofun
  | cons x xs ih =>
    rw [List.mapM_cons] at h
    obtain ⟨y, hy, h⟩ := bind_eq_ok_iff.mp h
    obtain ⟨rest, hrest, h⟩ := bind_eq_ok_iff.mp h
    cases h
    intro z hz
    rcases List.mem_cons.mp hz with rfl | hz
    · exact ⟨x, List.mem_cons_self, hy⟩
    · simp_all

theorem mem_of_findMany {condition : AiRequestWhere} {skip : ℕ} {take : ℚ}
    {rows found : List AiHistoryRow} (h : findMany order condition skip take rows = .ok found) :
    (condition.isValid = true ∧ take.isInt = true) ∧
      ∀ row ∈ found, row ∈ rows ∧ condition.admits row = true := by
  unfold findMany at h
  split at h
  · rename_i hvalid
    cases h
    refine ⟨hvalid, ?_⟩
    intro row hrow
    have hmem := List.mem_of_mem_drop (List.mem_of_mem_take hrow)
    exact List.mem_filter.mp ((order.arranged _).perm.mem_iff.mp hmem)
  · cases h

/-- A page of legacy rows is one of filters that no event passes. -/
theorem legacy_of_listHistory {response : AiHistoryListResponse}
    (h : listHistory dateOf store.tables userId order rawFilters = .ok response)
    (hrow : .legacy row ∈ response.items) :
    rawFilters.Accepted dateOf userId ∧
      (∀ event ∈ store.tables.events, rawFilters.admits dateOf userId event = false) ∧
      row ∈ store.tables.legacy ∧ rawFilters.admits dateOf userId row = true := by
  obtain ⟨eventRecords, hevs, h⟩ := bind_eq_ok_iff.mp h
  obtain ⟨eventTotal, htotal, h⟩ := bind_eq_ok_iff.mp h
  obtain ⟨hacc, -⟩ := mem_of_findMany hevs
  have hcount : countEventsForUser (queryInput dateOf userId rawFilters) store.tables =
      .ok (store.tables.events.filter (rawFilters.admits dateOf userId)).length :=
    if_pos hacc.1
  rw [hcount] at htotal
  cases htotal
  split at h
  · cases h
    obtain ⟨event, -, hev⟩ := List.mem_map.mp hrow
    cases hev
  rename_i hnone
  obtain ⟨legacyRecords, hlegacy, h⟩ := bind_eq_ok_iff.mp h
  obtain ⟨legacyCount, -, h⟩ := bind_eq_ok_iff.mp h
  cases h
  obtain ⟨found, hfound, hsame⟩ := List.mem_map.mp hrow
  cases hsame
  refine ⟨hacc, ?_, (mem_of_findMany hlegacy).2 row hfound⟩
  intro event hev
  rw [Bool.eq_false_iff]
  intro hadmits
  exact hnone (List.length_pos_of_mem (List.mem_filter.mpr ⟨hev, hadmits⟩))

/-- The filters for one row after the other. -/
def AiHistoryListFilters.single (rawFilters : AiHistoryListFilters) : AiHistoryListFilters :=
  { rawFilters with limit := some 1 }

/-- A row that the filters admit stands on a page alone. -/
theorem exists_page_of_legacy (hacc : rawFilters.Accepted dateOf userId)
    (hnone : ∀ event ∈ store.tables.events, rawFilters.admits dateOf userId event = false)
    (hrow : row ∈ store.tables.legacy) (hadmits : rawFilters.admits dateOf userId row = true) :
    ∃ order filters response, listHistory dateOf store.tables userId order filters =
      .ok response ∧ response.items = [.legacy row] := by
  have hone : rawFilters.single.Accepted dateOf userId := by
    refine ⟨hacc.1, ?_⟩
    rfl
  have htake : rawFilters.single.take = 1 := by
    rfl
  have hshown : shownRows dateOf userId rawFilters.single store.tables =
        store.tables.legacy.filter (rawFilters.admits dateOf userId) ∧
      shownItem dateOf userId rawFilters.single store.tables = .legacy :=
    shown_of_no_event hnone
  have hsort := arranged_insertionSort AiHistoryRow.rank
    (store.tables.legacy.filter (rawFilters.admits dateOf userId))
  obtain ⟨before, after, hsplit⟩ := List.append_of_mem
    (hsort.perm.mem_iff.mpr (List.mem_filter.mpr ⟨hrow, hadmits⟩))
  refine ⟨.choosing _ _ hsort, rawFilters.single.page before.length, _,
    listHistory_page hone _ _ _, ?_⟩
  unfold shownPage
  rw [hshown.1, hshown.2, htake, arrange_choosing, hsplit]
  unfold page
  rw [Nat.mul_one, List.drop_left]
  rfl

theorem getDetail_eq_legacy {id : String}
    (h : getDetail store.tables userId id = some (.legacy row)) :
    row ∈ store.tables.legacy ∧ row.userId = userId ∧ row.id = id ∧
      ∀ event ∈ store.tables.events, event.userId = userId → event.id ≠ id := by
  unfold getDetail at h
  split at h
  · cases h
  rename_i hev
  obtain ⟨found, hfound, hsame⟩ := Option.map_eq_some_iff.mp h
  cases hsame
  have hboth := List.find?_some hfound
  rw [Bool.and_eq_true] at hboth
  refine ⟨List.mem_of_find?_eq_some hfound, of_decide_eq_true hboth.2,
    of_decide_eq_true hboth.1, ?_⟩
  intro event hmem huser hid
  have hnot := List.find?_eq_none.mp hev event hmem
  simp [huser, hid] at hnot

/-- A legacy row is found by its id, unless an event of the user has it. -/
theorem getDetail_of_legacy (hrow : row ∈ store.tables.legacy) (huser : row.userId = userId)
    (hnone : ∀ event ∈ store.tables.events, event.userId = userId → event.id ≠ row.id) :
    getDetail store.tables userId row.id = some (.legacy row) := by
  have hev : getEventDetailForUser store.tables userId row.id = none := by
    refine List.find?_eq_none.mpr ?_
    intro event hmem hboth
    rw [Bool.and_eq_true] at hboth
    exact hnone event hmem (of_decide_eq_true hboth.2) (of_decide_eq_true hboth.1)
  have hlegacy : getLegacyDetailForUser store.tables userId row.id = some row := by
    unfold getLegacyDetailForUser
    cases hfind : store.tables.legacy.find? fun other =>
        other.id = row.id && other.userId = userId with
    | none => grind
    | some found =>
      have hboth := List.find?_some hfind
      rw [Bool.and_eq_true] at hboth
      have hinj := List.inj_on_of_nodup_map store.tables.legacyIds
      rw [hinj (List.mem_of_find?_eq_some hfind) hrow (of_decide_eq_true hboth.1)]
  unfold getDetail
  rw [hev, hlegacy]
  rfl

end Readers

def oldRequest : AiHistoryRow where
  id := "old"
  userId := "alice"
  requestType := some "text"
  status := "success"
  model := "gpt"
  provider := "openrouter"
  occurredAt := 0
  createdAt := 0

/-- It has expired at the time 1, and its prompt is still stored. -/
def oldStore : ContentStore where
  tables := ⟨[], [oldRequest], List.nodup_nil, List.nodup_singleton _⟩
  contents := []
  contentKeys := List.nodup_nil
  attachments := []
  legacyExpiresAt := fun _ => some 1
  readJson := fun key => if key = promptKey "old" then .string (js "secret") else .null
  readBinary := fun _ => none

end QuizMind.History
