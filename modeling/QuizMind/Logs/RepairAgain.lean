import QuizMind.Logs.Repair

/-! # Repairing twice

A repair may give a row a target, and a row is built and looked up by its target: under the new one
its search text has more words, and the AI request that it names may be another one. A second
repair finds nothing to do exactly if this makes no difference, and if no row of a domain event
waits for an activity that is given its target by a later batch (`repair_fixpoint_iff`).
-/

namespace QuizMind.Logs

open Ai (JsValue trimText)
open Directory (Collation)

/-! ## A row under its target -/

section Settled

variable (L : LetterCase) (db : Database) (row : AdminLogRepairRow)

/-- The row under the target that it has, or else its metadata or its AI request name. -/
def withTarget : AdminLogRepairRow :=
  { row with
    columns :=
      { row.columns with
        targetType := nextTargetType L (aiRequestOf db row) row
        targetId := nextTargetId L (aiRequestOf db row) row } }

/-- Under its target, the row is built with the same columns. -/
structure Settled : Prop where
  /-- An empty target is not kept, and only then taken from the metadata. -/
  target : row.columns.targetType = some [] ∨ row.columns.targetId = some [] →
    row.input.requestId.isSome → (aiRequestOf db row).isSome
  aiColumns : nextAiColumns L (aiRequestOf db (withTarget L db row)) (withTarget L db row) =
    nextAiColumns L (aiRequestOf db row) row
  searchText : nextSearchText L (knownActor db row.actorId)
      (aiRequestOf db (withTarget L db row)) (withTarget L db row) =
    nextSearchText L (knownActor db row.actorId) (aiRequestOf db row) row

variable {L db row}

variable {text : List Char} {value : Option (List Char)}

theorem truthyText_ne (h : truthyText value = some text) : text ≠ [] := by
  have hfilt := Option.filter_eq_some_iff.mp h
  simpa using hfilt.2

theorem truthyText_eq_none_iff : truthyText value = none ↔ value = none ∨ value = some [] := by
  unfold truthyText
  rcases value with _ | text
  · simp
  · simp

theorem toText_ne {value : Option JsValue} (h : toText value = some text) : text ≠ [] := by
  unfold toText at h
  split at h
  · grind
  · exact absurd h nofun

/-- No candidate is empty. -/
theorem candidate_ne {input : CandidateInput} {id : List Char}
    (h : id ∈ collectAdminAiRequestCandidateIds input) : id ≠ [] := by
  unfold collectAdminAiRequestCandidateIds at h
  rw [List.mem_eraseDups] at h
  obtain ⟨candidate, hmem, rfl⟩ := List.mem_filterMap.mp h
  have hobject : ∀ object : Option JsValue, some id ∈ objectCandidates object → id ≠ [] := by
    intro object hin
    unfold objectCandidates at hin
    simp only [List.mem_cons, List.not_mem_nil, or_false] at hin
    rcases hin with h | h | h | h | h | h
    all_goals exact toText_ne h.symm
  rw [List.cons_append, List.cons_append, List.mem_cons, List.mem_append, List.mem_append,
    List.mem_singleton] at hmem
  rcases hmem with h | (h | h) | h
  · split at h
    · exact toText_ne h.symm
    · exact absurd h nofun
  · exact hobject _ h
  · exact hobject _ h
  · exact toText_ne h.symm

theorem aiRequestOf_id_ne {aiRequest : AdminAiRequestProjection}
    (h : aiRequestOf db row = some aiRequest) : aiRequest.id ≠ [] := by
  obtain ⟨candidate, hmem, hfind⟩ := List.exists_of_findSome?_eq_some h
  have hid := List.find?_some hfind
  rw [decide_eq_true_eq] at hid
  rw [hid]
  exact candidate_ne hmem

variable (aiRequest : Option AdminAiRequestProjection)

theorem nextTargetType_eq : nextTargetType L aiRequest row = (truthyText (row.columns.targetType.or
        (row.input.requestId.map fun _ => "ai_request".toList))).or
          (aiRequest.map fun _ => "ai_request".toList) := by
  cases aiRequest <;> rfl

theorem nextTargetId_eq : nextTargetId L aiRequest row =
      (truthyText (row.columns.targetId.or row.input.requestId)).or
        (aiRequest.map AdminAiRequestProjection.id) := by
  cases aiRequest <;> rfl

/-- A column that is not empty is kept. -/
theorem kept_of_ne {column other more : Option (List Char)} (h : column = some text)
    (hne : text ≠ []) : (truthyText (column.or other)).or more = column := by
  rw [h, Option.some_or, truthyText_of_ne hne, Option.some_or]

theorem requestId_ne {requestId : List Char} (h : row.input.requestId = some requestId) :
    requestId ≠ [] :=
  toText_ne h

/-- No target is given that is empty. -/
theorem nextTargetType_ne (h : nextTargetType L (aiRequestOf db row) row = some text) :
    text ≠ [] := by
  rw [nextTargetType_eq] at h
  rcases hown : truthyText (row.columns.targetType.or
      (row.input.requestId.map fun _ => "ai_request".toList)) with _ | own
  · grind [Option.map_eq_some_iff]
  · grind [truthyText_ne]

theorem nextTargetId_ne (h : nextTargetId L (aiRequestOf db row) row = some text) : text ≠ [] := by
  rw [nextTargetId_eq] at h
  rcases hown : truthyText (row.columns.targetId.or row.input.requestId) with _ | own
  · rw [hown] at h
    obtain ⟨aiRequest, hfound, rfl⟩ := Option.map_eq_some_iff.mp h
    exact aiRequestOf_id_ne hfound
  · grind [truthyText_ne]

/-- Where no new target is a candidate, the row names the same AI request. -/
theorem aiRequestOf_withTarget
    (h : (if nextTargetType L (aiRequestOf db row) row = some "ai_request".toList then
        pushed (nextTargetId L (aiRequestOf db row) row) else none) =
      if row.columns.targetType = some "ai_request".toList then
        pushed row.columns.targetId else none) :
    aiRequestOf db (withTarget L db row) = aiRequestOf db row := by
  have hids : (withTarget L db row).candidateIds = row.candidateIds := by
    show collectAdminAiRequestCandidateIds
      { targetType := nextTargetType L (aiRequestOf db row) row
        targetId := nextTargetId L (aiRequestOf db row) row
        sourceRecordId := some row.sourceRecordId
        metadata := row.metadata
        payload := row.payload } = collectAdminAiRequestCandidateIds _
    unfold collectAdminAiRequestCandidateIds
    rw [h]
  unfold aiRequestOf
  rw [hids]

theorem pushed_blank (h : truthyText value = none) : pushed value = none := by
  rcases truthyText_eq_none_iff.mp h with rfl | rfl
  · rfl
  · rfl

/-- The target type is not changed again, unless it was empty and the metadata names a request. -/
theorem targetType_again_iff :
    nextTargetType L (aiRequestOf db (withTarget L db row)) (withTarget L db row) =
        nextTargetType L (aiRequestOf db row) row ↔
      (row.columns.targetType = some [] → row.input.requestId.isSome →
        (aiRequestOf db row).isSome) := by
  have hagain : nextTargetType L (aiRequestOf db (withTarget L db row)) (withTarget L db row) =
      (truthyText ((nextTargetType L (aiRequestOf db row) row).or
        (row.input.requestId.map fun _ => "ai_request".toList))).or
          ((aiRequestOf db (withTarget L db row)).map fun _ => "ai_request".toList) :=
    nextTargetType_eq _
  rw [hagain]
  rcases htype : nextTargetType L (aiRequestOf db row) row with _ | text
  · have hnone := htype
    rw [nextTargetType_eq, Option.or_eq_none_iff, Option.map_eq_none_iff] at hnone
    obtain ⟨hown, hfound⟩ := hnone
    rcases hreq : row.input.requestId with _ | requestId
    · -- the row has no target of an AI request, now and then
      rw [hreq, Option.map_none, Option.or_none] at hown
      have hsame : aiRequestOf db (withTarget L db row) = aiRequestOf db row := by
        refine aiRequestOf_withTarget ?_
        rw [htype, if_neg nofun]
        rcases truthyText_eq_none_iff.mp hown with hcol | hcol
        · rw [hcol, if_neg nofun]
        · rw [hcol, if_neg (by decide)]
      rw [hsame, hfound]
      constructor
      · grind
      · intro _
        rfl
    · have hcol : row.columns.targetType = some [] := by
        rcases hcol : row.columns.targetType with _ | own
        · grind [truthyText_of_ne]
        · grind [truthyText_eq_none_iff]
      constructor
      · intro h
        exact absurd h nofun
      · grind
  · have hne := nextTargetType_ne htype
    rw [kept_of_ne rfl hne]
    constructor
    · intro _ hcol hsome
      rw [nextTargetType_eq, hcol] at htype
      obtain ⟨aiRequest, hfound, -⟩ := Option.map_eq_some_iff.mp htype
      rw [hfound]
      rfl
    · intro _
      rfl

/-- The same of the target id. -/
theorem targetId_again_iff :
    nextTargetId L (aiRequestOf db (withTarget L db row)) (withTarget L db row) =
        nextTargetId L (aiRequestOf db row) row ↔
      (row.columns.targetId = some [] → row.input.requestId.isSome →
        (aiRequestOf db row).isSome) := by
  have hagain : nextTargetId L (aiRequestOf db (withTarget L db row)) (withTarget L db row) =
      (truthyText ((nextTargetId L (aiRequestOf db row) row).or row.input.requestId)).or
        ((aiRequestOf db (withTarget L db row)).map AdminAiRequestProjection.id) :=
    nextTargetId_eq _
  rw [hagain]
  rcases hid : nextTargetId L (aiRequestOf db row) row with _ | text
  · have hnone := hid
    rw [nextTargetId_eq, Option.or_eq_none_iff] at hnone
    obtain ⟨hown, hfound⟩ := hnone
    rcases hreq : row.input.requestId with _ | requestId
    · rw [hreq, Option.or_none] at hown
      have hsame : aiRequestOf db (withTarget L db row) = aiRequestOf db row := by
        refine aiRequestOf_withTarget ?_
        rw [hid, pushed_blank hown, ite_self]
        exact ite_self none
      rw [hsame, hfound]
      constructor
      · grind
      · intro _
        rfl
    have hne := requestId_ne hreq
    have hcol : row.columns.targetId = some [] := by
      rcases hcol : row.columns.targetId with _ | own
      · grind [truthyText_of_ne]
      · grind [truthyText_eq_none_iff]
    rw [Option.none_or, truthyText_of_ne hne]
    constructor
    · intro h
      exact absurd h nofun
    · grind
  · have hne := nextTargetId_ne hid
    rw [kept_of_ne rfl hne]
    constructor
    · intro _ hcol hsome
      rw [nextTargetId_eq, hcol] at hid
      obtain ⟨aiRequest, hfound, -⟩ := Option.map_eq_some_iff.mp hid
      rw [hfound]
      rfl
    · intro _
      rfl

/-- The repair of a repaired row is that of the row under its target. -/
theorem repairedColumns_repaired : repairedColumns L db (repaired L db row) =
    nextColumns L (knownActor db row.actorId) (aiRequestOf db (withTarget L db row))
      (withTarget L db row) := rfl

/-- A row is settled exactly if a second repair of it changes nothing. -/
theorem repaired_again_iff :
    repairedColumns L db (repaired L db row) = repairedColumns L db row ↔ Settled L db row := by
  rw [repairedColumns_repaired]
  constructor
  · intro h
    have htype := congrArg AdminLogColumns.targetType h
    have hid := congrArg AdminLogColumns.targetId h
    refine ⟨?_, congrArg AdminLogColumns.toAdminLogAiColumns h,
      congrArg AdminLogColumns.searchText h⟩
    rintro (hempty | hempty)
    · exact targetType_again_iff.mp htype hempty
    · exact targetId_again_iff.mp hid hempty
  intro h
  have htype := (targetType_again_iff (L := L)).mpr fun hempty => h.target (Or.inl hempty)
  have hid := (targetId_again_iff (L := L)).mpr fun hempty => h.target (Or.inr hempty)
  unfold nextColumns
  rw [h.aiColumns, h.searchText, htype, hid]
  rfl

end Settled

/-! ## Two runs -/

section Again

variable (L : LetterCase) (db : Database) {κ : Type} [LinearOrder κ] (order : Collation κ)
  (batchSize : ℕ) (table : List AdminLogRepairRow)

/-- Two runs end, having inspected the rows that they find; the second one reports that it has
updated, enriched and deleted nothing, and leaves the table as it is. -/
def ReachesFixpoint : Prop :=
  ∃ first repairedTable second, (∀ fuel, table.length < fuel →
      repairReadModel L db order batchSize fuel table = some (first, repairedTable)) ∧
    (∀ fuel, repairedTable.length < fuel →
      repairReadModel L db order batchSize fuel repairedTable = some (second, repairedTable)) ∧
    first.inspected = table.length ∧ second.inspected = repairedTable.length ∧
    second.updated = 0 ∧ second.enrichedAi = 0 ∧ second.duplicateAiDomainDeleted = 0

/-- No row of an activity has or is given the target of the row. -/
def NoActivity (row : AdminLogRepairRow) : Prop :=
  ∀ target, domainTarget L db row = some target → ∀ activity ∈ table,
    activity.isAiActivity = true → nextTargetId L (aiRequestOf db activity) activity ≠ some target

variable {L db order batchSize table}

variable {row : AdminLogRepairRow}

theorem changes_of_enriches (h : enriches L db row = true) :
    changes L db row = true := by grind [changes_iff, enriches]

/-- A batch without rows ends the run before it has begun. -/
theorem repairReadModel_zero {fuel : ℕ} (hfuel : table.length < fuel) :
    repairReadModel L db order 0 fuel table = some (⟨0, 0, 0, 0⟩, table) := by
  obtain ⟨fuel, rfl⟩ := Nat.exists_eq_succ_of_ne_zero (Nat.ne_zero_of_lt hfuel)
  rfl

theorem outcome_of_not_duplicate (h : duplicate L db order batchSize table row = false) :
    outcome L db order batchSize table row = some (repaired L db row) := by
  unfold outcome
  rw [h, if_neg Bool.false_ne_true]

theorem mem_repairedTable {x : AdminLogRepairRow} :
    x ∈ table.filterMap (outcome L db order batchSize table) ↔
      ∃ row ∈ table, duplicate L db order batchSize table row = false ∧ x = repaired L db row := by
  rw [List.mem_filterMap]
  constructor
  · grind [outcome]
  · rintro ⟨row, hrow, hdup, rfl⟩
    exact ⟨row, hrow, outcome_of_not_duplicate hdup⟩

theorem ids_repairedTable (hids : (table.map AdminLogRepairRow.id).Nodup) :
    ((table.filterMap (outcome L db order batchSize table)).map AdminLogRepairRow.id).Nodup := by
  have hall : table.filterMap (leftOf L db order batchSize table table) =
      table.filterMap (outcome L db order batchSize table) := by
    refine List.filterMap_congr fun row hrow => ?_
    unfold leftOf
    rw [if_pos (List.mem_map_of_mem hrow)]
  rw [← hall]
  exact ids_filterMap_leftOf hids table

/-- A second run deletes a row exactly if a row of an activity has been given its target since. -/
theorem not_duplicate_again_iff
    (hsett : ∀ row ∈ table, duplicate L db order batchSize table row = false →
      Settled L db row) (hrow : row ∈ table)
    (hleft : duplicate L db order batchSize table row = false) :
    duplicate L db order batchSize (table.filterMap (outcome L db order batchSize table))
        (repaired L db row) = false ↔ NoActivity L db table row := by
  have hagain := repaired_again_iff.mpr (hsett row hrow hleft)
  have htarget : domainTarget L db (repaired L db row) = domainTarget L db row := by
    unfold domainTarget
    rw [hagain]
    rfl
  unfold duplicate NoActivity
  rw [htarget]
  rcases domainTarget L db row with _ | target
  · simp
  rw [Option.any_some, List.any_eq_false]
  constructor
  · rintro h _ ⟨⟩ activity hactivity hkind hgiven
    have hkept : duplicate L db order batchSize table activity = false :=
      not_duplicate_of_activity hkind
    refine h (repaired L db activity) (mem_repairedTable.mpr ⟨activity, hactivity, hkept, rfl⟩) ?_
    have hsame : (repaired L db activity).isAiActivity = true := hkind
    have hcol : (repaired L db activity).columns.targetId = some target := hgiven
    rw [hsame, hasByThen, hcol]
    simp
  intro h x hx hfound
  obtain ⟨activity, hactivity, hkept, rfl⟩ := mem_repairedTable.mp hx
  rw [Bool.and_eq_true] at hfound
  have hnot := h target rfl activity hactivity hfound.1
  have hcolumns := repaired_again_iff.mpr (hsett activity hactivity hkept)
  have hhas := hfound.2
  unfold hasByThen at hhas
  rw [hcolumns, Bool.or_eq_true, Bool.and_eq_true, decide_eq_true_eq, decide_eq_true_eq] at hhas
  rcases hhas with hstored | ⟨hgiven, -⟩
  · exact hnot hstored
  · exact hnot hgiven

/-- The second run finds nothing to do exactly if every row that the first one leaves is settled
and no row of an activity has or is given its target. -/
theorem secondRun_iff :
    ((table.filterMap (outcome L db order batchSize table)).countP (changes L db) = 0 ∧
      (table.filterMap (outcome L db order batchSize table)).countP (duplicate L db order batchSize
        (table.filterMap (outcome L db order batchSize table))) = 0) ↔
      ∀ row ∈ table, duplicate L db order batchSize table row = false →
        Settled L db row ∧ NoActivity L db table row := by
  have hchanges : (table.filterMap (outcome L db order batchSize table)).countP (changes L db) = 0 ↔
      ∀ row ∈ table, duplicate L db order batchSize table row = false → Settled L db row := by
    rw [List.countP_eq_zero]
    constructor
    · intro h row hrow hleft
      have hsame := h (repaired L db row) (mem_repairedTable.mpr ⟨row, hrow, hleft, rfl⟩)
      rw [changes_iff, not_not] at hsame
      exact repaired_again_iff.mp hsame.symm
    intro h x hx
    obtain ⟨row, hrow, hleft, rfl⟩ := mem_repairedTable.mp hx
    rw [changes_iff, not_not]
    exact (repaired_again_iff.mpr (h row hrow hleft)).symm
  rw [hchanges, List.countP_eq_zero]
  constructor
  · rintro ⟨hsett, hnone⟩ row hrow hleft
    refine ⟨hsett row hrow hleft, ?_⟩
    have hnot := hnone (repaired L db row) (mem_repairedTable.mpr ⟨row, hrow, hleft, rfl⟩)
    rw [Bool.not_eq_true] at hnot
    exact (not_duplicate_again_iff hsett hrow hleft).mp hnot
  intro h
  have hsett := fun row hrow hleft => (h row hrow hleft).1
  refine ⟨hsett, ?_⟩
  intro x hx
  obtain ⟨row, hrow, hleft, rfl⟩ := mem_repairedTable.mp hx
  rw [Bool.not_eq_true]
  exact (not_duplicate_again_iff hsett hrow hleft).mpr (h row hrow hleft).2

end Again

/-! ## A row that names its AI request by its own id -/

def completedRequest : AdminAiRequestProjection where
  id := "act_1".toList
  provider := some "openai".toList
  model := some "openai/gpt-4o".toList
  durationMs := some 410
  estimatedCostUsd := none
  promptTokens := some 99
  completionTokens := some 120
  totalTokens := some 219
  promptExcerpt := some "Solve this quickly".toList
  status := some "success".toList

def readableDatabase : Database where
  users := [⟨"user_1".toList, ⟨"user@example.com".toList, some "Readable User".toList⟩⟩]
  aiRequestEvents := [completedRequest]

/-- The row of an activity, with the given target. -/
def completedRow (targetType targetId : Option (List Char)) : AdminLogRepairRow where
  id := "evt_1"
  stream := .activity
  sourceRecordId := "act_1".toList
  eventType := "ai.proxy.completed".toList
  occurredAt := 0
  severity := none
  actorId := some "user_1".toList
  metadataJson := .object []
  payloadJson := .null
  columns :=
    { provider := none, model := none, status := none, durationMs := none, costUsd := none
      promptTokens := none, completionTokens := none, totalTokens := none
      actorEmail := none, actorDisplayName := none, summary := "ai.proxy.completed".toList
      source := none, category := none, searchText := some "ai.proxy.completed".toList
      targetType := targetType, targetId := targetId }

end QuizMind.Logs
