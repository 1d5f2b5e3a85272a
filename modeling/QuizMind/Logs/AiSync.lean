import QuizMind.Logs.Rebuild

/-! # AI requests that are stored after their log entries

`upsertAdminLogEventsBestEffort` completes a row with the AI request that its entry names, if the
request is stored already; `syncAdminAiLogEventsFromAiRequestEvent` writes a request that is
stored later into the rows that name it.
-/

namespace QuizMind.Logs

open Ai (JsValue trimText)
open Text

/-! ## The sync -/

/-- The paths under which metadata or a payload may name an AI request. -/
def aiAliasPaths : List (List String) :=
  [["aiRequestEventId"], ["requestId"], ["aiRequestId"], ["requestMetadata", "aiRequestEventId"],
    ["requestMetadata", "requestId"], ["requestMetadata", "aiRequestId"]]

/-- The text under a path of a column of JSON. -/
def textAt (column : Option JsValue) (path : List String) : Option (List Char) :=
  match path.foldl get column with
  | some (.string text) => some text
  | _ => none

/-- The texts of a row that may name an AI request, as they are written. -/
def aiAliases (row : AdminLogEvent) : List (Option (List Char)) :=
  (if row.targetType = some "ai_request".toList then row.targetId else none) ::
    aiAliasPaths.map (textAt row.metadataJson) ++ aiAliasPaths.map (textAt row.payloadJson) ++
    [some row.sourceRecordId]

/-- One of the aliases is the id. -/
def buildAdminAiLogSyncWhere (aiRequestEventId : List Char) (row : AdminLogEvent) : Bool :=
  (row.category = "ai" || row.eventType ∈ ["ai.proxy.completed".toList, "ai.proxy.failed".toList,
    "ai.proxy.quota_exceeded".toList, "ai.proxy.timeout".toList]) &&
      some (trimText aiRequestEventId) ∈ aiAliases row

/-- The columns of the patch are set, also to null. -/
def AdminAiLogPatch.set (patch : AdminAiLogPatch) (row : AdminLogEvent) : AdminLogEvent :=
  { row with
    targetType := patch.targetType
    targetId := patch.targetId
    provider := patch.provider
    model := patch.model
    status := patch.status
    durationMs := patch.durationMs
    costUsd := patch.costUsd
    promptTokens := patch.promptTokens
    completionTokens := patch.completionTokens
    totalTokens := patch.totalTokens }

/-- The number of updated rows, and the table. -/
def syncAdminAiLogEventsFromAiRequestEvent (aiRequest : AdminAiRequestProjection)
    (table : List AdminLogEvent) : ℕ × List AdminLogEvent :=
  let found := buildAdminAiLogSyncWhere aiRequest.id
  let data := buildAdminAiLogPatchFromAiRequestEvent aiRequest
  (table.countP found, table.map fun row => if found row then data.set row else row)

def Database.store (db : Database) (aiRequest : AdminAiRequestProjection) : Database :=
  { db with aiRequestEvents := db.aiRequestEvents ++ [aiRequest] }

section Names

variable {aiRequest : AdminAiRequestProjection} {data : AdminLogEventCreateInput}

theorem objectCandidates_objectOf (column : Option JsValue) :
    objectCandidates (WritePath.objectOf column) = (aiAliasPaths.map (textAt column)).map pushed := by
  have hmember : ∀ key, get (WritePath.objectOf column) key = get column key := by
    intro key
    rcases column with _ | value
    · rfl
    · cases value <;> rfl
  have htext : ∀ path, toText (path.foldl get column) = pushed (textAt column path) := by
    intro path
    unfold textAt
    split
    · rename_i heq
      rw [heq]
      rfl
    rename_i hother
    unfold toText
    split
    · rename_i heq
      exact absurd heq (hother _)
    · rfl
  unfold objectCandidates
  simp only [hmember]
  exact List.map_congr_left (l := aiAliasPaths) fun path _ => htext path

/-- The candidates are the aliases, trimmed. -/
theorem candidates_eq :
    WritePath.aiRequestCandidates data =
      (((aiAliases data).map pushed).filterMap fun candidate => candidate).eraseDups := by
  have htarget : (if data.targetType = some "ai_request".toList then pushed data.targetId
      else none) = pushed (if data.targetType = some "ai_request".toList then data.targetId
        else none) := by
    split <;> rfl
  unfold WritePath.aiRequestCandidates collectAdminAiRequestCandidateIds aiAliases
  rw [objectCandidates_objectOf, objectCandidates_objectOf]
  simp only [htarget]
  rfl

theorem trimText_candidate {id : List Char} (h : id ∈ WritePath.aiRequestCandidates data) :
    trimText id = id := by
  rw [candidates_eq, List.mem_eraseDups, List.mem_filterMap] at h
  obtain ⟨candidate, hmem, rfl⟩ := h
  obtain ⟨name, -, htext⟩ := List.mem_map.mp hmem
  cases name with
  | none => cases htext
  | some text =>
    change (if trimText text = [] then none else some (trimText text)) = some id at htext
    split at htext
    · cases htext
    · cases htext
      exact strip_strip _

/-- The request that has just been stored is the one that the write path finds. -/
theorem writtenAiRequest_store {db : Database}
    (hcand : aiRequest.id ∈ WritePath.aiRequestCandidates data)
    (hnew : ∀ other ∈ db.aiRequestEvents, other.id ∉ WritePath.aiRequestCandidates data) :
    writtenAiRequest (db.store aiRequest) data = some aiRequest ∧
      writtenAiRequest db data = none := by
  have hnamed : ∀ db' other, writtenAiRequest db' data = some other →
      other ∈ db'.aiRequestEvents ∧ other.id ∈ WritePath.aiRequestCandidates data := by
    intro db' other hfound
    obtain ⟨candidate, hmem, hrow⟩ := List.exists_of_findSome?_eq_some hfound
    have hid := List.find?_some hrow
    rw [decide_eq_true_eq] at hid
    exact ⟨List.mem_of_find?_eq_some hrow, hid ▸ hmem⟩
  constructor
  · cases hfound : writtenAiRequest (db.store aiRequest) data with
    | none =>
      have habsent := List.findSome?_eq_none_iff.mp hfound _ hcand
      rw [List.find?_eq_none] at habsent
      exact absurd (decide_eq_true rfl) (habsent aiRequest List.mem_concat_self)
    | some other =>
      obtain ⟨hstored, hname⟩ := hnamed _ other hfound
      rcases List.mem_append.mp hstored with hold | hlast
      · exact absurd hname (hnew other hold)
      · rw [List.mem_singleton.mp hlast]
  cases hfound : writtenAiRequest db data with
  | none => rfl
  | some other =>
    obtain ⟨hstored, hname⟩ := hnamed _ other hfound
    exact absurd hname (hnew other hstored)

end Names

/-! ## Both orders -/

/-- A column that is empty, or has the value of the AI request. -/
def Agrees {α : Type} (column other : Option α) : Prop := column = none ∨ column = other

theorem or_eq_right_iff {α : Type} {column other : Option α} :
    column.or other = other ↔ Agrees column other := by
  cases column <;> simp [Agrees]

/-- An AI request that is written alike before and after the entry: the entry has its id without
white space around it and no other value in a column of the request, and the excerpt is empty,
or blank before the blank words of a known actor. -/
@[mk_iff]
structure WrittenAlike (L : LetterCase) (data : AdminLogEventCreateInput)
    (identity : Option ActorIdentity) (aiRequest : AdminAiRequestProjection) : Prop where
  named : some aiRequest.id ∈ aiAliases data
  status : Agrees data.status (normalizeAdminAiStatus aiRequest.status)
  targetType : Agrees data.targetType (some "ai_request".toList)
  targetId : Agrees data.targetId (some aiRequest.id)
  provider : Agrees data.provider aiRequest.provider
  model : Agrees data.model aiRequest.model
  durationMs : Agrees data.durationMs aiRequest.durationMs
  costUsd : Agrees data.costUsd aiRequest.estimatedCostUsd
  promptTokens : Agrees data.promptTokens aiRequest.promptTokens
  completionTokens : Agrees data.completionTokens aiRequest.completionTokens
  totalTokens : Agrees data.totalTokens aiRequest.totalTokens
  excerpt : truthyText aiRequest.promptExcerpt = none ∨ identity.isSome ∧
    ∀ word ∈ excerptWords L aiRequest.promptExcerpt ++ identityWords L identity,
      trimText word = []

section Orders

variable {L : LetterCase} {aiRequest : AdminAiRequestProjection} {row : SourceRow}

theorem storedRow_sync (table : List AdminLogEvent) (stream : LegacyAdminLogStream)
    (id : List Char) :
    storedRow (syncAdminAiLogEventsFromAiRequestEvent aiRequest table).2 stream id =
      (storedRow table stream id).map fun row =>
        if buildAdminAiLogSyncWhere aiRequest.id row then
          (buildAdminAiLogPatchFromAiRequestEvent aiRequest).set row
        else row := by
  unfold storedRow syncAdminAiLogEventsFromAiRequestEvent
  rw [List.find?_map]
  congr 2
  funext row
  -- the key is none of the columns that are set
  show decide (AdminLogEvent.key (if _ then _ else row) = _) = _
  split <;> rfl

/-- The search text of the write path needs the excerpt only if it can be seen. -/
theorem writtenText_same_iff (aiRequest : AdminAiRequestProjection)
    {text : List Char} (h : Searched L text) (identity : Option ActorIdentity) :
    writtenText L (some text) (some aiRequest) identity = writtenText L (some text) none identity ↔
      truthyText aiRequest.promptExcerpt = none ∨ identity.isSome ∧
        ∀ word ∈ excerptWords L aiRequest.promptExcerpt ++ identityWords L identity,
          trimText word = [] := by
  have hwords : excerptWords L aiRequest.promptExcerpt = [] ↔
      truthyText aiRequest.promptExcerpt = none := by simp [excerptWords]
  cases identity with
  | none =>
    have hfollowing : ∀ words : List (List Char), following words = [] ↔ words = [] := by
      intro words
      cases words <;> simp [following]
    rw [writtenText_unknown h, writtenText_unknown h, Option.some_inj, List.append_cancel_left_eq]
    show following _ = [] ↔ _
    rw [hfollowing]
    simp [hwords]
  | some identity =>
    rw [writtenText_known h, writtenText_known h, Option.some_inj]
    show trimText _ = trimText (text ++ following (identityWords L (some identity))) ↔ _
    rw [Option.bind_some, h.known_iff, hwords]
    simp

/-- The table after the entries of some source rows. -/
def written (L : LetterCase) (db : Database) (events : List SourceRow) (table : List AdminLogEvent) :
    List AdminLogEvent :=
  WritePath.upsertAdminLogEventsBestEffort L db
    (events.map (WritePath.buildReadModelFromRow L)) table

/-- The row of an AI request that is stored before the entry is the row of one that is stored
after it, and the sync finds the row, exactly if the request is written alike. -/
theorem ai_orders_same_iff (L : LetterCase) (db : Database) {events : List SourceRow}
    {table : List AdminLogEvent} {row : SourceRow} {aiRequest : AdminAiRequestProjection}
    (hmem : row ∈ events) (hkeys : (events.map SourceRow.key).Nodup)
    (habsent : storedRow table row.stream row.id = none)
    (hcategory : (WritePath.buildReadModelFromRow L row).category = "ai")
    (hcandidate : aiRequest.id ∈
      WritePath.aiRequestCandidates (WritePath.buildReadModelFromRow L row))
    (hnew : ∀ other ∈ db.aiRequestEvents,
      other.id ∉ WritePath.aiRequestCandidates (WritePath.buildReadModelFromRow L row)) :
    storedRow (written L (db.store aiRequest) events table) row.stream row.id =
      storedRow (syncAdminAiLogEventsFromAiRequestEvent aiRequest
        (written L db events table)).2 row.stream row.id ∧
    (∃ stored, storedRow (written L db events table) row.stream row.id = some stored ∧
      buildAdminAiLogSyncWhere aiRequest.id stored) ↔
    WrittenAlike L (WritePath.buildReadModelFromRow L row)
      (knownActor db (WritePath.buildReadModelFromRow L row).actorId) aiRequest := by
  obtain ⟨hfound, hnone⟩ := writtenAiRequest_store hcandidate hnew
  have hbefore : storedRow (written L (db.store aiRequest) events table) row.stream row.id =
      _ := storedRow_written hmem hkeys habsent
  have hafter : storedRow (written L db events table) row.stream row.id = _ := storedRow_written hmem hkeys habsent
  have htext : (WritePath.buildReadModelFromRow L row).searchText =
      some ((WritePath.buildInput row).searchable L) := searchText_build _
  have hexcerpt := writtenText_same_iff aiRequest
    (searched_searchable (L := L) (WritePath.buildInput row))
      (knownActor db (WritePath.buildReadModelFromRow L row).actorId)
  have hid := trimText_candidate hcandidate
  rw [hfound, htext] at hbefore
  rw [hnone, htext] at hafter
  rw [storedRow_sync, hbefore, hafter]
  show some (finished _ _ (knownActor db _) (writtenText L _ _ (knownActor db _))) = _ ∧ _ ↔ _
  generalize knownActor db (WritePath.buildReadModelFromRow L row).actorId = identity at *
  generalize WritePath.buildReadModelFromRow L row = data at *
  have hwhere : ∀ text, buildAdminAiLogSyncWhere aiRequest.id (finished data none identity text) =
      true ↔ some aiRequest.id ∈ aiAliases data := by
    intro text
    rw [buildAdminAiLogSyncWhere, hid]
    show ((decide (data.category = "ai") || _) && decide (some _ ∈ aiAliases data)) = true ↔ _
    simp [hcategory]
  by_cases hnamed : some aiRequest.id ∈ aiAliases data
  · have hfinds := (hwhere (writtenText L (some ((WritePath.buildInput row).searchable L)) none
      identity)).mpr hnamed
    rw [Option.map_some, if_pos hfinds, Option.some_inj, and_iff_left ⟨_, rfl, hfinds⟩]
    -- filling in and overwriting give the same columns if there is nothing to choose
    simp only [writtenAlike_iff, hnamed, finished, WritePath.withAiPatch, AdminAiLogPatch.set,
      buildAdminAiLogPatchFromAiRequestEvent, Option.map_some, Option.map_none,
      AdminLogEventCreateInput.mk.injEq, or_eq_right_iff, hexcerpt, true_and, and_true]
  constructor
  · rintro ⟨-, stored, hstored, hfinds⟩
    cases hstored
    exact absurd ((hwhere _).mp hfinds) hnamed
  · intro h
    exact absurd h.named hnamed

end Orders

section Example

/-- The entry of a completed request. -/
def excerptRow : SourceRow :=
  .activity ⟨"a3".toList, "ai.proxy.completed".toList, some "u1".toList,
    .object [("aiRequestEventId", .string "r1".toList)], 0⟩

/-- The users, and no AI request yet. -/
def knownUsers : Database := { answeredDatabase with aiRequestEvents := [] }

def withoutExcerpt : AdminAiRequestProjection := { answeredRequest with promptExcerpt := none }

theorem orders_same_withoutExcerpt :
    storedRow (written asciiCase (knownUsers.store withoutExcerpt) [excerptRow] [])
        excerptRow.stream excerptRow.id =
      storedRow (syncAdminAiLogEventsFromAiRequestEvent withoutExcerpt
        (written asciiCase knownUsers [excerptRow] [])).2 excerptRow.stream excerptRow.id := by
  have hcategory : (WritePath.buildReadModelFromRow asciiCase excerptRow).category = "ai" := by
    decide +kernel
  have hcandidate : withoutExcerpt.id ∈ WritePath.aiRequestCandidates
      (WritePath.buildReadModelFromRow asciiCase excerptRow) := by
    decide +kernel
  have hnew : ∀ other ∈ knownUsers.aiRequestEvents, other.id ∉ WritePath.aiRequestCandidates
      (WritePath.buildReadModelFromRow asciiCase excerptRow) :=
    fun _ hother => absurd hother List.not_mem_nil
  have halike : WrittenAlike asciiCase (WritePath.buildReadModelFromRow asciiCase excerptRow)
      (knownActor knownUsers (WritePath.buildReadModelFromRow asciiCase excerptRow).actorId)
      withoutExcerpt := by
    constructor
    · decide +kernel
    all_goals first | exact .inl rfl | exact .inr rfl
  exact ((ai_orders_same_iff asciiCase knownUsers List.mem_cons_self (by decide) rfl hcategory
    hcandidate hnew).mpr halike).1

/-- The sync leaves the excerpt out of the search text. -/
theorem excerpt_not_synced :
    storedRow (written asciiCase (knownUsers.store answeredRequest) [excerptRow] [])
        excerptRow.stream excerptRow.id ≠
      storedRow (syncAdminAiLogEventsFromAiRequestEvent answeredRequest
        (written asciiCase knownUsers [excerptRow] [])).2 excerptRow.stream excerptRow.id := by
  intro h
  have hsearchText := congrArg (fun row => row.bind fun row => row.searchText) h
  revert hsearchText
  decide +kernel

end Example

end QuizMind.Logs
