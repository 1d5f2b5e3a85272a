import QuizMind.Access.Directory
import QuizMind.Logs.Rebuild
import QuizMind.Table.Sweep

/-! # Repairing the read model

`AdminLogRepairService.repairReadModel`: every row of the admin logs is built again from its own
columns, completed with the identity of its actor and with the AI request that it names, and
updated where a column differs. Rows of domain events whose AI request has a row of an activity are
deleted, as of the rows that the batch sees: the later ones are not repaired yet.
-/

namespace QuizMind.Logs

open Ai (JsValue trimText)
open Directory (Collation)
open Table (behind)
open List (map_append mem_map_of_mem perm_insertionSort)
open Option (all_some filter_some map_some)

/-! ## Rows -/

/-- The columns that an AI request may complete. -/
structure AdminLogAiColumns where
  provider : Option (List Char)
  model : Option (List Char)
  status : Option (List Char)
  durationMs : Option ℚ
  costUsd : Option ℚ
  promptTokens : Option ℚ
  completionTokens : Option ℚ
  totalTokens : Option ℚ
  deriving DecidableEq

/-- The columns that a repair compares and updates. -/
structure AdminLogColumns extends AdminLogAiColumns where
  actorEmail : Option (List Char)
  actorDisplayName : Option (List Char)
  summary : List Char
  source : Option String
  category : Option String
  searchText : Option (List Char)
  targetType : Option (List Char)
  targetId : Option (List Char)
  deriving DecidableEq

/-- A row of the table; a JSON column without a value is `JsValue.null`. -/
structure AdminLogRepairRow where
  id : String
  stream : LegacyAdminLogStream
  sourceRecordId : List Char
  eventType : List Char
  occurredAt : ℤ
  severity : Option EventSeverity
  actorId : Option (List Char)
  metadataJson : JsValue
  payloadJson : JsValue
  columns : AdminLogColumns

structure AdminLogRepairResult where
  inspected : ℕ
  updated : ℕ
  enrichedAi : ℕ
  duplicateAiDomainDeleted : ℕ

def AdminLogStatus.name : AdminLogStatus → List Char
  | .success => "success".toList
  | .failure => "failure".toList

def toObject : JsValue → Option JsValue
  | .object members => some (.object members)
  | _ => none

/-! ## One row -/

namespace AdminLogRepairRow

variable (L : LetterCase) (row : AdminLogRepairRow)

def metadata : Option JsValue := toObject row.metadataJson

def payload : Option JsValue := toObject row.payloadJson

def input : BuildAdminLogEventInput where
  stream := row.stream
  sourceRecordId := row.sourceRecordId
  eventType := row.eventType
  occurredAt := row.occurredAt
  actorId := row.actorId
  severity := row.severity
  targetType := row.columns.targetType
  targetId := row.columns.targetId
  metadata := row.metadata
  payload := row.payload

def rebuilt : AdminLogEventCreateInput := buildAdminLogEventCreateInput L row.input

/-- The AI requests that the row may name. -/
def candidateIds : List (List Char) :=
  collectAdminAiRequestCandidateIds
    { targetType := row.columns.targetType
      targetId := row.columns.targetId
      sourceRecordId := some row.sourceRecordId
      metadata := row.metadata
      payload := row.payload }

def isAi : Bool := startsWith (L.toLowerCase row.eventType) "ai.proxy."

end AdminLogRepairRow

def AI_PROXY_FAILURE_EVENT_TYPES : List (List Char) :=
  ["ai.proxy.failed".toList, "ai.proxy.timeout".toList, "ai.proxy.quota_exceeded".toList,
    "ai.proxy.user_key_failed".toList]

def deriveAiStatusFromEventType (L : LetterCase) (eventType : List Char) : Option AdminLogStatus :=
  let normalized := L.toLowerCase eventType
  if normalized = "ai.proxy.completed".toList then some .success
  else if normalized ∈ AI_PROXY_FAILURE_EVENT_TYPES then some .failure
  else none

section Next

variable (L : LetterCase) (identity : Option ActorIdentity)
  (aiRequest : Option AdminAiRequestProjection) (row : AdminLogRepairRow)

def nextSearchText : Option (List Char) :=
  enrichSearchTextWithActorIdentity L
    (truthyText (some (searchTextWithExcerpt L (row.rebuilt L).searchText
      (aiRequest.bind AdminAiRequestProjection.promptExcerpt)))) identity

def nextTargetType : Option (List Char) :=
  (row.rebuilt L).targetType.or
    ((aiRequest.map buildAdminAiLogPatchFromAiRequestEvent).bind AdminAiLogPatch.targetType)

def nextTargetId : Option (List Char) :=
  (row.rebuilt L).targetId.or
    ((aiRequest.map buildAdminAiLogPatchFromAiRequestEvent).bind AdminAiLogPatch.targetId)

def nextAiColumns : AdminLogAiColumns where
  provider := (row.rebuilt L).provider.or (aiRequest.bind AdminAiRequestProjection.provider)
  model := (row.rebuilt L).model.or (aiRequest.bind AdminAiRequestProjection.model)
  status := (((row.rebuilt L).status.or
    (normalizeAdminAiStatus (aiRequest.bind AdminAiRequestProjection.status))).or
      (deriveAiStatusFromEventType L row.eventType)).map AdminLogStatus.name
  durationMs := (row.rebuilt L).durationMs.or (aiRequest.bind AdminAiRequestProjection.durationMs)
  costUsd := (row.rebuilt L).costUsd.or (aiRequest.bind AdminAiRequestProjection.estimatedCostUsd)
  promptTokens :=
    (row.rebuilt L).promptTokens.or (aiRequest.bind AdminAiRequestProjection.promptTokens)
  completionTokens :=
    (row.rebuilt L).completionTokens.or (aiRequest.bind AdminAiRequestProjection.completionTokens)
  totalTokens :=
    (row.rebuilt L).totalTokens.or (aiRequest.bind AdminAiRequestProjection.totalTokens)

def nextColumns : AdminLogColumns where
  toAdminLogAiColumns := nextAiColumns L aiRequest row
  actorEmail := (row.rebuilt L).actorEmail.or (identity.map ActorIdentity.email)
  actorDisplayName :=
    (row.rebuilt L).actorDisplayName.or (identity.bind ActorIdentity.displayName)
  summary := (row.rebuilt L).summary
  source := (row.rebuilt L).source
  category := some (row.rebuilt L).category
  searchText := nextSearchText L identity aiRequest row
  targetType := nextTargetType L aiRequest row
  targetId := nextTargetId L aiRequest row

end Next

/-! ## A batch -/

/-- The table, what is counted, and `domainRequestIdByRowId`. -/
structure RepairState where
  table : List AdminLogRepairRow
  totals : AdminLogRepairResult
  domainRequestIds : List (String × List Char)

section Batch

variable (L : LetterCase) (db : Database)

def updateRow (table : List AdminLogRepairRow) (id : String) (next : AdminLogColumns) :
    List AdminLogRepairRow :=
  table.map fun row => if row.id = id then { row with columns := next } else row

def repairRow (directory : List User) (aiRequests : List AdminAiRequestProjection)
    (state : RepairState) (row : AdminLogRepairRow) : RepairState :=
  let identity := (truthyText row.actorId).bind (actorIdentity directory)
  let aiRequest := firstAiRequest aiRequests row.candidateIds
  let next := nextColumns L identity aiRequest row
  let updated := if row.columns ≠ next then 1 else 0
  let enriched := if row.isAi L && aiRequest.isSome && row.columns.costUsd ≠ next.costUsd then 1 else 0
  { table := if row.columns ≠ next then updateRow state.table row.id next else state.table
    totals :=
      { state.totals with
        updated := state.totals.updated + updated
        enrichedAi := state.totals.enrichedAi + enriched }
    domainRequestIds :=
      match truthyText next.targetId with
      | some target =>
        if row.stream = .domain && row.isAi L then state.domainRequestIds ++ [(row.id, target)]
        else state.domainRequestIds
      | none => state.domainRequestIds }

def activityEventTypes : List (List Char) :=
  ["ai.proxy.completed".toList, "ai.proxy.failed".toList, "ai.proxy.timeout".toList,
    "ai.proxy.quota_exceeded".toList]

/-- A row of an activity that answers for a domain event. -/
def AdminLogRepairRow.isAiActivity (row : AdminLogRepairRow) : Bool :=
  row.stream = .activity && row.eventType ∈ activityEventTypes

/-- The targets of the rows of activities among some AI requests. -/
def activityTargetIds (table : List AdminLogRepairRow) (requestIds : List (List Char)) :
    List (List Char) :=
  present ((table.filter fun row =>
    row.isAiActivity && row.columns.targetId.any fun target => target ∈ requestIds).map
      fun row => row.columns.targetId)

def repairBatch (rows : List AdminLogRepairRow)
    (run : AdminLogRepairResult × List AdminLogRepairRow) :
    AdminLogRepairResult × List AdminLogRepairRow :=
  let (totals, table) := run
  let directory := resolveActorIdentities db (present (rows.map AdminLogRepairRow.actorId))
  let aiRequests := findAiRequests db (rows.flatMap AdminLogRepairRow.candidateIds)
  let state := rows.foldl (repairRow L directory aiRequests)
    ⟨table, { totals with inspected := totals.inspected + rows.length }, []⟩
  let targets := activityTargetIds state.table (state.domainRequestIds.map Prod.snd)
  let duplicates := (state.domainRequestIds.filter fun entry => entry.2 ∈ targets).map Prod.fst
  ({ state.totals with
      duplicateAiDomainDeleted := state.totals.duplicateAiDomainDeleted +
        (state.table.filter fun row => row.id ∈ duplicates).length },
    state.table.filter fun row => row.id ∉ duplicates)

end Batch

/-! ## The loop -/

section Repair

variable (L : LetterCase) (db : Database) {κ : Type} [LinearOrder κ] (order : Collation κ)

/-- `orderBy`: by time and then by id. -/
def FirstRepaired (a b : AdminLogRepairRow) : Prop :=
  ((compare a.occurredAt b.occurredAt).then (compare (order.key a.id) (order.key b.id))).isLE = true

instance : DecidableRel (FirstRepaired order) := fun _ _ => inferInstanceAs (Decidable (_ = true))

/-- The condition of a cursor. -/
def behindCursor (cursor : Option (ℤ × String)) (row : AdminLogRepairRow) : Bool :=
  cursor.all fun (occurredAt, id) =>
    occurredAt < row.occurredAt || (row.occurredAt = occurredAt && order.key id < order.key row.id)

/-- The loop; `none` if the fuel runs out. -/
def repairFrom (batchSize : ℕ) :
    ℕ → Option (ℤ × String) → AdminLogRepairResult × List AdminLogRepairRow →
      Option (AdminLogRepairResult × List AdminLogRepairRow)
  | 0, _, _ => none
  | fuel + 1, cursor, run =>
    let rows := Table.select (FirstRepaired order) (behindCursor order cursor) batchSize run.2
    match rows.getLast? with
    | none => some run
    | some last =>
      repairFrom batchSize fuel (some (last.occurredAt, last.id)) (repairBatch L db rows run)

def repairReadModel (batchSize fuel : ℕ) (table : List AdminLogRepairRow) :
    Option (AdminLogRepairResult × List AdminLogRepairRow) :=
  repairFrom L db order batchSize fuel none (⟨0, 0, 0, 0⟩, table)

end Repair

/-! ## What a repair makes of a row -/

section Repaired

variable (L : LetterCase) (db : Database) (row : AdminLogRepairRow)

def aiRequestOf : Option AdminAiRequestProjection :=
  firstAiRequest db.aiRequestEvents row.candidateIds

def repairedColumns : AdminLogColumns :=
  nextColumns L (knownActor db row.actorId) (aiRequestOf db row) row

def repaired : AdminLogRepairRow := { row with columns := repairedColumns L db row }

def changes : Bool := row.columns ≠ repairedColumns L db row

def enriches : Bool :=
  row.isAi L && (aiRequestOf db row).isSome &&
    row.columns.costUsd ≠ (repairedColumns L db row).costUsd

/-- The AI request that a row of a domain event stands for. -/
def domainTarget : Option (List Char) :=
  if row.stream = .domain && row.isAi L then truthyText (repairedColumns L db row).targetId else none

end Repaired

section Rows

variable {L : LetterCase} {db : Database} {table : List AdminLogRepairRow} {row : AdminLogRepairRow}

theorem changes_iff : changes L db row = true ↔ row.columns ≠ repairedColumns L db row := by
  exact decide_eq_true_iff

theorem repaired_of_not_changes (h : changes L db row = false) : repaired L db row = row := by
  have hcolumns : row.columns = repairedColumns L db row := by
    simpa [changes] using h
  unfold repaired
  rw [← hcolumns]

variable {rows : List AdminLogRepairRow}

/-- What is read for a batch answers for each of its rows. -/
theorem nextColumns_batch (h : row ∈ rows) : (truthyText row.actorId).bind (actorIdentity
        (resolveActorIdentities db (present (rows.map AdminLogRepairRow.actorId)))) =
      knownActor db row.actorId ∧
    firstAiRequest (findAiRequests db (rows.flatMap AdminLogRepairRow.candidateIds))
      row.candidateIds = aiRequestOf db row := by
  constructor
  · have hactor : row.actorId ∈ rows.map AdminLogRepairRow.actorId := mem_map_of_mem h
    rw [← actorIdentity_resolve db hactor]
    rcases hid : row.actorId with _ | id
    · rfl
    rcases id with _ | ⟨c, id⟩
    · -- no user is read under an empty id
      rw [hid] at hactor
      rw [actorIdentity_resolve db hactor]
      rfl
    · rfl
  refine firstAiRequest_find ?_
  intro candidate hcand
  exact List.mem_flatMap.mpr ⟨row, h, hcand⟩

variable {aiRequests : List AdminAiRequestProjection} {directory : List User}

theorem repairRow_eq
    (hident : (truthyText row.actorId).bind (actorIdentity directory) = knownActor db row.actorId)
    (hreq : firstAiRequest aiRequests row.candidateIds = aiRequestOf db row)
    (state : RepairState) :
    repairRow L directory aiRequests state row =
      { table := if changes L db row then
          updateRow state.table row.id (repairedColumns L db row) else state.table
        totals :=
          { state.totals with
            updated := state.totals.updated + if changes L db row then 1 else 0
            enrichedAi := state.totals.enrichedAi + if enriches L db row then 1 else 0 }
        domainRequestIds := state.domainRequestIds ++
          (domainTarget L db row).toList.map fun target => (row.id, target) } := by
  have hnext : nextColumns L (knownActor db row.actorId) (aiRequestOf db row) row =
      repairedColumns L db row := rfl
  unfold repairRow
  dsimp only
  rw [hident, hreq, hnext]
  congr 1
  · by_cases hchanges : row.columns ≠ repairedColumns L db row
    · rw [if_pos hchanges, if_pos (changes_iff.mpr hchanges)]
    · rw [if_neg hchanges, if_neg fun h => hchanges (changes_iff.mp h)]
  · by_cases hchanges : row.columns ≠ repairedColumns L db row
    · rw [if_pos hchanges, if_pos (changes_iff.mpr hchanges)]
      rfl
    · rw [if_neg hchanges, if_neg fun h => hchanges (changes_iff.mp h)]
      rfl
  · grind [domainTarget]

/-! ## What a batch does -/

section

variable
    (hread : ∀ row ∈ rows,
      (truthyText row.actorId).bind (actorIdentity directory) = knownActor db row.actorId ∧
        firstAiRequest aiRequests row.candidateIds = aiRequestOf db row)
include hread

/-- The rows of a batch are repaired, the other ones stay. -/
theorem foldl_repairRow_table (hrows : (rows.map AdminLogRepairRow.id).Nodup) (state : RepairState)
    (hids : (state.table.map AdminLogRepairRow.id).Nodup) (hmem : ∀ row ∈ rows, row ∈ state.table) :
    (rows.foldl (repairRow L directory aiRequests) state).table = state.table.map fun row =>
        if row.id ∈ rows.map AdminLogRepairRow.id then repaired L db row else row := by
  induction rows generalizing state with
  | nil => simp
  | cons row rows ih =>
    obtain ⟨hident, hreq⟩ := hread row List.mem_cons_self
    rw [List.map_cons, List.nodup_cons] at hrows
    -- this row alone is repaired
    have hone : (repairRow L directory aiRequests state row).table =
        state.table.map fun x => if x.id = row.id then repaired L db x else x := by
      rw [repairRow_eq hident hreq]
      have hsame : ∀ x ∈ state.table, x.id = row.id → x = row := fun x hx hid =>
        List.inj_on_of_nodup_map hids hx (hmem row List.mem_cons_self) hid
      rcases hchanges : changes L db row with _ | _
      · refine ((List.map_congr_left fun x hx => ?_).trans (List.map_id _)).symm
        by_cases hid : x.id = row.id
        · rw [if_pos hid, hsame x hx hid, repaired_of_not_changes hchanges, id]
        · rw [if_neg hid, id]
      refine List.map_congr_left fun x hx => ?_
      by_cases hid : x.id = row.id
      · rw [if_pos hid, if_pos hid, hsame x hx hid]
        rfl
      · rw [if_neg hid, if_neg hid]
    have hkept : ∀ x : AdminLogRepairRow,
        (if x.id = row.id then repaired L db x else x).id = x.id := by
      intro x
      split
      · rfl
      · rfl
    have hids' : ((repairRow L directory aiRequests state row).table.map
        AdminLogRepairRow.id).Nodup := by grind
    have hmem' : ∀ x ∈ rows, x ∈ (repairRow L directory aiRequests state row).table := by grind
    rw [List.foldl_cons, ih (fun x hx => hread x (List.mem_cons_of_mem _ hx)) hrows.2 _ hids'
      hmem', hone, List.map_map]
    refine List.map_congr_left fun x _ => ?_
    by_cases hid : x.id = row.id
    · grind
    · grind

theorem foldl_repairRow_rest (state : RepairState) :
    (rows.foldl (repairRow L directory aiRequests) state).totals =
        { state.totals with
          updated := state.totals.updated + rows.countP (changes L db)
          enrichedAi := state.totals.enrichedAi + rows.countP (enriches L db) } ∧
      (rows.foldl (repairRow L directory aiRequests) state).domainRequestIds =
        state.domainRequestIds ++ rows.flatMap fun row =>
          (domainTarget L db row).toList.map fun target => (row.id, target) := by
  induction rows generalizing state with
  | nil => exact ⟨rfl, (List.append_nil _).symm⟩
  | cons row rows ih =>
    obtain ⟨hident, hreq⟩ := hread row List.mem_cons_self
    obtain ⟨htotals, hrequests⟩ := ih (fun x hx => hread x (List.mem_cons_of_mem _ hx))
      (repairRow L directory aiRequests state row)
    rw [List.foldl_cons, htotals, hrequests, repairRow_eq hident hreq]
    constructor
    · simp only [List.countP_cons, Nat.add_comm, Nat.add_left_comm]
    · rw [List.flatMap_cons, List.append_assoc]

end

end Rows

/-! ## The rows that a sweep deletes -/

section Sweep

variable (L : LetterCase) (db : Database) {κ : Type} [LinearOrder κ] (order : Collation κ)
  (batchSize : ℕ) (table : List AdminLogRepairRow)

/-- The place of a row in the order of the sweep. -/
def position (row : AdminLogRepairRow) : ℕ :=
  (table.insertionSort (FirstRepaired order)).findIdx fun x => x.id = row.id

/-- When the batch of `row` asks for the target, the row of an activity has it: it came with it, or
it has been repaired by then. -/
def hasByThen (row activity : AdminLogRepairRow) (target : List Char) : Bool :=
  activity.columns.targetId = some target ||
    ((repairedColumns L db activity).targetId = some target &&
      position order table activity / batchSize ≤ position order table row / batchSize)

def duplicate (row : AdminLogRepairRow) : Bool :=
  (domainTarget L db row).any fun target =>
    table.any fun activity =>
      activity.isAiActivity && hasByThen L db order batchSize table row activity target

/-- What a sweep leaves of a row. -/
def outcome (row : AdminLogRepairRow) : Option AdminLogRepairRow :=
  if duplicate L db order batchSize table row then none else some (repaired L db row)

/-- What is left of a row when some rows are done. -/
def leftOf (done : List AdminLogRepairRow) (row : AdminLogRepairRow) : Option AdminLogRepairRow :=
  if row.id ∈ done.map AdminLogRepairRow.id then outcome L db order batchSize table row
  else some row

/-- Some rows of a table are done. -/
structure Swept (done : List AdminLogRepairRow)
    (run : AdminLogRepairResult × List AdminLogRepairRow) : Prop where
  totals : run.1 = ⟨done.length, done.countP (changes L db), done.countP (enriches L db),
    done.countP (duplicate L db order batchSize table)⟩
  table : run.2 = table.filterMap (leftOf L db order batchSize table done)

variable {L db order batchSize table}

variable {row : AdminLogRepairRow}

theorem not_duplicate_of_activity (h : row.isAiActivity = true) :
    duplicate L db order batchSize table row = false := by
  have hstream : row.stream = .activity := by grind [AdminLogRepairRow.isAiActivity]
  have hnone : domainTarget L db row = none := by
    unfold domainTarget
    rw [hstream]
    rfl
  unfold duplicate
  rw [hnone]
  rfl

variable {target : List Char}

/-- A repair keeps the target that a row has. -/
theorem repaired_targetId (hne : target ≠ []) (h : row.columns.targetId = some target) :
    (repairedColumns L db row).targetId = some target := by
  have hrebuilt : (row.rebuilt L).targetId = some target := by
    show truthyText (row.columns.targetId.or _) = _
    rw [h]
    exact truthyText_of_ne hne
  show (row.rebuilt L).targetId.or _ = _
  rw [hrebuilt]
  rfl

theorem domainTarget_ne (h : domainTarget L db row = some target) : target ≠ [] := by
  unfold domainTarget at h
  split at h
  · have hfilt := Option.filter_eq_some_iff.mp h
    simpa using hfilt.2
  · exact absurd h nofun

variable {left : AdminLogRepairRow}

theorem outcome_id
    (h : outcome L db order batchSize table row = some left) : left = repaired L db row := by
  simp_all [outcome]

variable {done : List AdminLogRepairRow}

theorem leftOf_id
    (h : leftOf L db order batchSize table done row = some left) : left.id = row.id := by
  unfold leftOf at h
  split at h
  · rw [outcome_id h]
    rfl
  · rw [Option.some.inj h]

/-- Nothing is done at first. -/
theorem filterMap_leftOf_nil : table.filterMap (leftOf L db order batchSize table []) = table := by
  have hsome : leftOf L db order batchSize table [] = some := by
    funext row
    unfold leftOf
    rw [List.map_nil, if_neg List.not_mem_nil]
  rw [hsome, List.filterMap_some]

theorem ids_filterMap_leftOf (hids : (table.map AdminLogRepairRow.id).Nodup)
    (done : List AdminLogRepairRow) :
    ((table.filterMap (leftOf L db order batchSize table done)).map AdminLogRepairRow.id).Nodup := by
  have hsub : ∀ rows : List AdminLogRepairRow,
      ((rows.filterMap (leftOf L db order batchSize table done)).map
        AdminLogRepairRow.id).Sublist (rows.map AdminLogRepairRow.id) := by
    intro rows
    induction rows with
    | nil => exact List.Sublist.slnil
    | cons row rows ih =>
      rcases hleft : leftOf L db order batchSize table done row with _ | left
      · simp_all
      · grind [leftOf_id]
  exact hids.sublist (hsub table)

variable {rest : List AdminLogRepairRow}

/-- The rows that are done come first. -/
theorem position_lt_iff
    (hsplit : table.insertionSort (FirstRepaired order) = done ++ rest) (row : AdminLogRepairRow) :
    position order table row < done.length ↔ row.id ∈ done.map AdminLogRepairRow.id := by
  have hin : done.findIdx (fun x => x.id = row.id) < done.length ↔
      row.id ∈ done.map AdminLogRepairRow.id := by grind
  unfold position
  rw [hsplit, List.findIdx_append, ← hin]
  split
  · next h => exact ⟨fun _ => h, fun _ => h⟩
  · omega

/-- The rows of the earlier batches and of its own come before the end of the batch of a row. -/
theorem position_le_iff {batch : List AdminLogRepairRow}
    (hids : (table.map AdminLogRepairRow.id).Nodup)
    (hsplit : table.insertionSort (FirstRepaired order) = done ++ (batch ++ rest))
    (hdvd : batchSize ∣ done.length) (hpos : 0 < batchSize)
    (hsize : batch.length = batchSize ∨ batch.length < batchSize ∧ rest = [])
    {other : AdminLogRepairRow} (hrow : row ∈ batch) (hother : other ∈ table) :
    position order table other / batchSize ≤ position order table row / batchSize ↔
      other.id ∈ (done ++ batch).map AdminLogRepairRow.id := by
  have hperm := perm_insertionSort (FirstRepaired order) table
  have hbatch : row.id ∈ (done ++ batch).map AdminLogRepairRow.id :=
    mem_map_of_mem (List.mem_append_right _ hrow)
  have hnotdone : row.id ∉ done.map AdminLogRepairRow.id := by grind
  have hsplit' : table.insertionSort (FirstRepaired order) = (done ++ batch) ++ rest := by
    rw [List.append_assoc]
    exact hsplit
  have hlow := (position_lt_iff hsplit row).not.mpr hnotdone
  have hhigh := (position_lt_iff hsplit' row).mpr hbatch
  have hother' := position_lt_iff hsplit' other
  rw [← hother']
  rw [List.length_append] at hhigh ⊢
  obtain ⟨k, hk⟩ := hdvd
  have hdiv : position order table row / batchSize = k := by
    grind [Nat.div_eq_of_lt_le, Nat.mul_comm]
  rw [hdiv, Nat.div_le_iff_le_mul_add_pred hpos]
  rcases hsize with hfull | ⟨hless, hrest⟩
  · omega
  -- the batch is the last one, and every row comes before its end
  have hall : position order table other < done.length + batch.length := by grind
  omega

theorem mem_activityTargetIds {rows : List AdminLogRepairRow} {ids : List (List Char)} :
    target ∈ activityTargetIds rows ids ↔
      target ≠ [] ∧ target ∈ ids ∧
        ∃ x ∈ rows, x.isAiActivity = true ∧ x.columns.targetId = some target := by
  grind [mem_present, activityTargetIds]

/-- What is left of a row when the rows of a batch are repaired, before any is deleted. -/
def midOf (L : LetterCase) (db : Database) (order : Collation κ) (batchSize : ℕ)
    (table done batch : List AdminLogRepairRow) (row : AdminLogRepairRow) :
    Option AdminLogRepairRow :=
  if row.id ∈ done.map AdminLogRepairRow.id then outcome L db order batchSize table row
  else if row.id ∈ batch.map AdminLogRepairRow.id then some (repaired L db row)
  else some row

section Batch

variable {done batch rest : List AdminLogRepairRow}

/-- The rows of a batch are no rows that are done. -/
theorem not_done_of_batch (hids : (table.map AdminLogRepairRow.id).Nodup)
    (hsplit : table.insertionSort (FirstRepaired order) = done ++ (batch ++ rest)) {id : String}
    (h : id ∈ batch.map AdminLogRepairRow.id) : id ∉ done.map AdminLogRepairRow.id := by
  have hnodup : ((done ++ (batch ++ rest)).map AdminLogRepairRow.id).Nodup := by
    rw [← hsplit]
    exact ((perm_insertionSort _ table).map _).nodup_iff.mpr hids
  rw [map_append, List.nodup_append] at hnodup
  intro hin
  refine hnodup.2.2 _ hin _ ?_ rfl
  rw [map_append]
  exact List.mem_append_left _ h

theorem batch_ids (hids : (table.map AdminLogRepairRow.id).Nodup)
    (hsplit : table.insertionSort (FirstRepaired order) = done ++ (batch ++ rest)) :
    (batch.map AdminLogRepairRow.id).Nodup := by
  have hwhole : ((done ++ (batch ++ rest)).map AdminLogRepairRow.id).Nodup := by
    rw [← hsplit]
    exact ((perm_insertionSort _ table).map _).nodup_iff.mpr hids
  have hsub : batch.Sublist (done ++ (batch ++ rest)) :=
    (List.sublist_append_left batch rest).trans (List.sublist_append_right done _)
  exact hwhole.sublist (hsub.map _)

variable {row : AdminLogRepairRow}

theorem mem_table_of_batch
    (hsplit : table.insertionSort (FirstRepaired order) = done ++ (batch ++ rest))
    (h : row ∈ batch) : row ∈ table := by
  rw [← (perm_insertionSort (FirstRepaired order) table).mem_iff, hsplit]
  exact List.mem_append_right _ (List.mem_append_left _ h)

theorem map_leftOf (hids : (table.map AdminLogRepairRow.id).Nodup)
    (hsplit : table.insertionSort (FirstRepaired order) = done ++ (batch ++ rest)) :
    ((table.filterMap (leftOf L db order batchSize table done)).map fun row =>
        if row.id ∈ batch.map AdminLogRepairRow.id then repaired L db row else row) =
      table.filterMap (midOf L db order batchSize table done batch) := by
  rw [List.map_filterMap]
  refine List.filterMap_congr fun row _ => ?_
  unfold leftOf midOf
  by_cases hdone : row.id ∈ done.map AdminLogRepairRow.id
  · rw [if_pos hdone, if_pos hdone]
    rcases hleft : outcome L db order batchSize table row with _ | left
    · rfl
    have hnot : left.id ∉ batch.map AdminLogRepairRow.id := by
      rw [outcome_id hleft]
      exact fun hin => not_done_of_batch hids hsplit hin hdone
    rw [map_some, if_neg hnot]
  · grind

/-- The batch finds the row of an activity that has the target by then. -/
theorem found_iff (hids : (table.map AdminLogRepairRow.id).Nodup)
    (hsplit : table.insertionSort (FirstRepaired order) = done ++ (batch ++ rest))
    (hdvd : batchSize ∣ done.length) (hpos : 0 < batchSize)
    (hsize : batch.length = batchSize ∨ batch.length < batchSize ∧ rest = []) (hrow : row ∈ batch)
    {target : List Char} (hne : target ≠ []) :
    (∃ x ∈ table.filterMap (midOf L db order batchSize table done batch),
        x.isAiActivity = true ∧ x.columns.targetId = some target) ↔
      (table.any fun activity => activity.isAiActivity &&
        hasByThen L db order batchSize table row activity target) = true := by
  rw [List.any_eq_true]
  constructor
  · rintro ⟨x, hx, hactivity, htarget⟩
    obtain ⟨activity, hmem, hmid⟩ := List.mem_filterMap.mp hx
    have hplace := position_le_iff hids hsplit hdvd hpos hsize hrow hmem
    rw [map_append, List.mem_append] at hplace
    -- a row that is repaired by then
    have hcase (hrepaired : x = repaired L db activity)
        (hin : activity.id ∈ done.map AdminLogRepairRow.id ∨
          activity.id ∈ batch.map AdminLogRepairRow.id) :
        ∃ activity ∈ table, (activity.isAiActivity &&
          hasByThen L db order batchSize table row activity target) = true := by
      refine ⟨activity, hmem, ?_⟩
      rw [hrepaired] at hactivity htarget
      have hsame : activity.isAiActivity = true := hactivity
      have hcol : (repairedColumns L db activity).targetId = some target := htarget
      rw [hsame, hasByThen, hcol, decide_eq_true (hplace.mpr hin)]
      simp
    unfold midOf at hmid
    split at hmid
    · next hdone => exact hcase (outcome_id hmid) (Or.inl hdone)
    · grind [hasByThen]
  · rintro ⟨activity, hmem, hread⟩
    rw [Bool.and_eq_true] at hread
    obtain ⟨hactivity, hhas⟩ := hread
    have hplace := position_le_iff hids hsplit hdvd hpos hsize hrow hmem
    unfold hasByThen at hhas
    have hkept : (repairedColumns L db activity).targetId = some target := by
      grind [repaired_targetId]
    by_cases hdone : activity.id ∈ done.map AdminLogRepairRow.id
    · refine ⟨repaired L db activity, List.mem_filterMap.mpr ⟨activity, hmem, ?_⟩, hactivity, hkept⟩
      unfold midOf outcome
      rw [if_pos hdone, not_duplicate_of_activity hactivity, if_neg Bool.false_ne_true]
    by_cases hin : activity.id ∈ batch.map AdminLogRepairRow.id
    · refine ⟨repaired L db activity, List.mem_filterMap.mpr ⟨activity, hmem, ?_⟩, hactivity, hkept⟩
      unfold midOf
      rw [if_neg hdone, if_pos hin]
    -- a later row, which has the target already
    have hstored : activity.columns.targetId = some target := by grind
    refine ⟨activity, List.mem_filterMap.mpr ⟨activity, hmem, ?_⟩, hactivity, hstored⟩
    unfold midOf
    rw [if_neg hdone, if_neg hin]

/-- The rows of a batch that are deleted. -/
theorem duplicates_eq (rows : List AdminLogRepairRow) (targets : List (List Char)) :
    ((rows.flatMap fun row => (domainTarget L db row).toList.map fun target =>
        (row.id, target)).filter fun entry => entry.2 ∈ targets).map Prod.fst =
      (rows.filter fun row => (domainTarget L db row).any fun target => target ∈ targets).map
        AdminLogRepairRow.id := by
  induction rows with
  | nil => rfl
  | cons row rows ih =>
    rw [List.flatMap_cons, List.filter_append, map_append, ih, List.filter_cons]
    rcases domainTarget L db row with _ | target
    · rfl
    · grind

section

variable (hids : (table.map AdminLogRepairRow.id).Nodup)
include hids

section

variable (hsplit : table.insertionSort (FirstRepaired order) = done ++ (batch ++ rest))
include hsplit

/-- The duplicates of a batch are deleted, and no other rows. -/
theorem filter_midOf :
    ((table.filterMap (midOf L db order batchSize table done batch)).filter fun row =>
        row.id ∉ (batch.filter (duplicate L db order batchSize table)).map AdminLogRepairRow.id) =
      table.filterMap (leftOf L db order batchSize table (done ++ batch)) := by
  rw [List.filter_filterMap]
  refine List.filterMap_congr fun row hrow => ?_
  have hgone (x : AdminLogRepairRow) (hid : x.id = row.id)
      (hin : x.id ∈ (batch.filter (duplicate L db order batchSize table)).map
        AdminLogRepairRow.id) :
      row ∈ batch ∧ duplicate L db order batchSize table row = true := by
    obtain ⟨y, hy, hyid⟩ := List.mem_map.mp hin
    obtain ⟨hbatch, hdup⟩ := List.mem_filter.mp hy
    have hsame : y = row := List.inj_on_of_nodup_map hids (mem_table_of_batch hsplit hbatch) hrow
      (hyid.trans hid)
    rw [← hsame]
    exact ⟨hbatch, hdup⟩
  unfold leftOf midOf
  rw [map_append]
  by_cases hdone : row.id ∈ done.map AdminLogRepairRow.id
  · rw [if_pos hdone, if_pos (List.mem_append_left _ hdone)]
    rcases hleft : outcome L db order batchSize table row with _ | left
    · rfl
    rw [filter_some, if_pos]
    rw [decide_eq_true_eq]
    intro hin
    have hid : left.id = row.id := by
      rw [outcome_id hleft]
      rfl
    exact not_done_of_batch hids hsplit (mem_map_of_mem (hgone left hid hin).1) hdone
  rw [if_neg hdone]
  by_cases hin : row.id ∈ batch.map AdminLogRepairRow.id
  · rw [if_pos hin, if_pos (List.mem_append_right _ hin), filter_some]
    unfold outcome
    rcases hdup : duplicate L db order batchSize table row with _ | _
    · rw [if_neg Bool.false_ne_true, if_pos]
      rw [decide_eq_true_eq]
      intro hmem
      have hyes := (hgone (repaired L db row) rfl hmem).2
      rw [hdup] at hyes
      exact absurd hyes Bool.false_ne_true
    rw [if_pos rfl, if_neg]
    rw [decide_eq_true_eq, not_not]
    obtain ⟨y, hy, hyid⟩ := List.mem_map.mp hin
    have hsame : y = row :=
      List.inj_on_of_nodup_map hids (mem_table_of_batch hsplit hy) hrow hyid
    rw [hsame] at hy
    exact List.mem_map.mpr ⟨row, List.mem_filter.mpr ⟨hy, hdup⟩, rfl⟩
  · grind

/-- As many rows are deleted as the batch has duplicates. -/
theorem length_filter_midOf :
    ((table.filterMap (midOf L db order batchSize table done batch)).filter fun row =>
        row.id ∈ (batch.filter (duplicate L db order batchSize table)).map
          AdminLogRepairRow.id).length =
      batch.countP (duplicate L db order batchSize table) := by
  have hnodup : ((table.filterMap (midOf L db order batchSize table done batch)).map
      AdminLogRepairRow.id).Nodup := by
    have hkept : ∀ row : AdminLogRepairRow, (if row.id ∈ batch.map AdminLogRepairRow.id then
        repaired L db row else row).id = row.id := by
      intro row
      split
      · rfl
      · rfl
    have hmap : (AdminLogRepairRow.id ∘ fun row : AdminLogRepairRow =>
        if row.id ∈ batch.map AdminLogRepairRow.id then repaired L db row else row) =
          AdminLogRepairRow.id := funext hkept
    rw [← map_leftOf hids hsplit, List.map_map, hmap]
    exact ids_filterMap_leftOf hids done
  have hbatchIds := batch_ids hids hsplit
  -- the ids of the deleted rows are those of the duplicates
  have hperm : (((table.filterMap (midOf L db order batchSize table done batch)).filter fun row =>
      row.id ∈ (batch.filter (duplicate L db order batchSize table)).map
        AdminLogRepairRow.id).map AdminLogRepairRow.id).Perm
      ((batch.filter (duplicate L db order batchSize table)).map AdminLogRepairRow.id) := by
    refine (List.perm_ext_iff_of_nodup (hnodup.sublist (List.filter_sublist.map _))
      (hbatchIds.sublist (List.filter_sublist.map _))).mpr ?_
    intro id
    constructor
    · grind
    intro h
    obtain ⟨row, hrow, rfl⟩ := List.mem_map.mp h
    have hbatch : row ∈ batch := (List.mem_filter.mp hrow).1
    have hin : row.id ∈ batch.map AdminLogRepairRow.id := mem_map_of_mem hbatch
    refine List.mem_map.mpr ⟨repaired L db row, List.mem_filter.mpr ⟨?_, ?_⟩, rfl⟩
    · refine List.mem_filterMap.mpr ⟨row, mem_table_of_batch hsplit hbatch, ?_⟩
      unfold midOf
      rw [if_neg (not_done_of_batch hids hsplit hin), if_pos hin]
    · rw [decide_eq_true_eq]
      exact h
  have hlen := hperm.length_eq
  rw [List.length_map, List.length_map] at hlen
  rw [hlen, List.countP_eq_length_filter]

/-- A batch does its rows. -/
theorem Swept.next (hdvd : batchSize ∣ done.length) (hpos : 0 < batchSize)
    (hsize : batch.length = batchSize ∨ batch.length < batchSize ∧ rest = [])
    {run : AdminLogRepairResult × List AdminLogRepairRow}
    (h : Swept L db order batchSize table done run) :
    Swept L db order batchSize table (done ++ batch) (repairBatch L db batch run) := by
  obtain ⟨totals, rows⟩ := run
  obtain rfl : totals = _ := h.totals
  obtain rfl : rows = _ := h.table
  have hread : ∀ row ∈ batch, (truthyText row.actorId).bind (actorIdentity
          (resolveActorIdentities db (present (batch.map AdminLogRepairRow.actorId)))) =
        knownActor db row.actorId ∧
      firstAiRequest (findAiRequests db (batch.flatMap AdminLogRepairRow.candidateIds))
        row.candidateIds = aiRequestOf db row := fun row hrow => nextColumns_batch hrow
  have hbatchIds := batch_ids hids hsplit
  have hmem : ∀ row ∈ batch, row ∈ table.filterMap (leftOf L db order batchSize table done) := by
    intro row hrow
    refine List.mem_filterMap.mpr ⟨row, mem_table_of_batch hsplit hrow, ?_⟩
    unfold leftOf
    rw [if_neg (not_done_of_batch hids hsplit (mem_map_of_mem hrow))]
  unfold repairBatch
  dsimp only
  generalize hstart : (⟨table.filterMap (leftOf L db order batchSize table done),
    { inspected := done.length + batch.length
      updated := done.countP (changes L db)
      enrichedAi := done.countP (enriches L db)
      duplicateAiDomainDeleted := done.countP (duplicate L db order batchSize table) }, []⟩ :
        RepairState) = start
  have htable : start.table = table.filterMap (leftOf L db order batchSize table done) := by
    rw [← hstart]
  obtain ⟨htotals, hrequests⟩ := foldl_repairRow_rest hread (L := L) start
  have hrepaired := foldl_repairRow_table hread hbatchIds start (L := L)
    (by rw [htable]; exact ids_filterMap_leftOf hids done) (by rw [htable]; exact hmem)
  rw [htable, map_leftOf hids hsplit] at hrepaired
  have hnone : start.domainRequestIds = [] := by rw [← hstart]
  rw [hnone, List.nil_append] at hrequests
  rw [hrepaired, hrequests, duplicates_eq]
  -- what the batch asks for are the targets of its own rows
  have hdups : (batch.filter fun row => (domainTarget L db row).any fun target =>
      target ∈ activityTargetIds (table.filterMap (midOf L db order batchSize table done batch))
        ((batch.flatMap fun row => (domainTarget L db row).toList.map fun target =>
          (row.id, target)).map Prod.snd)) =
      batch.filter (duplicate L db order batchSize table) := by
    refine List.filter_congr fun row hrow => ?_
    unfold duplicate
    rcases htarget : domainTarget L db row with _ | target
    · rfl
    have hne := domainTarget_ne htarget
    have hasked : target ∈ (batch.flatMap fun row => (domainTarget L db row).toList.map
        fun target => (row.id, target)).map Prod.snd := by grind
    rw [Option.any_some, Option.any_some, Bool.eq_iff_iff, decide_eq_true_eq,
      mem_activityTargetIds, ← found_iff hids hsplit hdvd hpos hsize hrow hne]
    constructor
    · intro hfound
      exact hfound.2.2
    · intro hfound
      exact ⟨hne, hasked, hfound⟩
  rw [hdups, length_filter_midOf hids hsplit, filter_midOf hids hsplit]
  constructor
  · grind
  · rfl

end

end

end Batch

/-! ## A run -/

variable (order) in
def repairRank (row : AdminLogRepairRow) : ℤ ×ₗ κ := toLex (row.occurredAt, order.key row.id)

theorem firstRepaired_iff (a b : AdminLogRepairRow) :
    FirstRepaired order a b ↔ repairRank order a ≤ repairRank order b :=
  Table.isLE_then_iff a.occurredAt b.occurredAt (order.key a.id) (order.key b.id)

omit [LinearOrder κ] in
theorem repairRanks_distinct (hids : (table.map AdminLogRepairRow.id).Nodup) :
    table.Pairwise fun a b => repairRank order a ≠ repairRank order b := by
  refine (List.pairwise_map.mp hids).imp ?_
  intro a b hne hsame
  exact hne (order.injective (Prod.mk.inj hsame).2)

/-- The condition of a cursor is that of the key behind which it stands. -/
theorem behindCursor_eq (last : Option AdminLogRepairRow) :
    behindCursor order (last.map fun row => (row.occurredAt, row.id)) =
      behind (repairRank order) (last.map (repairRank order)) := by
  funext row
  rcases last with _ | last
  · rfl
  have hiff : repairRank order last < repairRank order row ↔ last.occurredAt < row.occurredAt ∨
      last.occurredAt = row.occurredAt ∧ order.key last.id < order.key row.id := by
    unfold repairRank
    rw [Prod.Lex.toLex_lt_toLex]
  unfold behindCursor behind
  rw [map_some, map_some, all_some, all_some, Bool.eq_iff_iff, decide_eq_true_eq, hiff]
  simp only [Bool.or_eq_true, Bool.and_eq_true, decide_eq_true_eq]
  rw [eq_comm (a := row.occurredAt)]

theorem repairFrom_eq (fuel : ℕ) (last : Option AdminLogRepairRow)
    (run : AdminLogRepairResult × List AdminLogRepairRow) :
    repairFrom L db order batchSize fuel (last.map fun row => (row.occurredAt, row.id)) run =
      Table.sweep (FirstRepaired order) (repairRank order) batchSize Prod.snd (repairBatch L db) fuel
        (last.map (repairRank order)) run := by
  induction fuel generalizing last run with
  | zero => rfl
  | succ fuel ih =>
    unfold repairFrom Table.sweep
    dsimp only
    rw [behindCursor_eq]
    generalize Table.select (FirstRepaired order)
      (behind (repairRank order) (last.map (repairRank order))) batchSize run.2 = rows
    rcases rows.getLast? with _ | next
    · rfl
    · exact ih (some next) (repairBatch L db rows run)

/-- The rows behind those that are done are left as they were. -/
theorem filter_leftOf (hids : (table.map AdminLogRepairRow.id).Nodup)
    (hsplit : table.insertionSort (FirstRepaired order) = done ++ rest) :
    (table.filterMap (leftOf L db order batchSize table done)).filter
        (behind (repairRank order) (done.getLast?.map (repairRank order))) =
      table.filter (behind (repairRank order) (done.getLast?.map (repairRank order))) := by
  have hascends : (table.insertionSort (FirstRepaired order)).Pairwise fun a b =>
      repairRank order a < repairRank order b :=
    Table.pairwise_insertionSort firstRepaired_iff (repairRanks_distinct hids)
  rw [hsplit] at hascends
  -- what is done is not behind the last row that is done
  have hbefore : ∀ row ∈ done,
      behind (repairRank order) (done.getLast?.map (repairRank order)) row = false := by
    intro row hrow
    rcases hlast : done.getLast? with _ | last
    · grind
    obtain ⟨before, rfl⟩ := List.getLast?_eq_some_iff.mp hlast
    unfold behind
    rw [map_some, all_some, decide_eq_false_iff_not, not_lt]
    rcases List.mem_append.mp hrow with hin | hin
    · have hpairs := (List.pairwise_append.mp hascends).1
      exact ((List.pairwise_append.mp hpairs).2.2 row hin last (List.mem_singleton.mpr rfl)).le
    · rw [List.mem_singleton.mp hin]
  have hpart : ∀ rows : List AdminLogRepairRow, (∀ row ∈ rows, row ∈ table) →
      (rows.filterMap (leftOf L db order batchSize table done)).filter
          (behind (repairRank order) (done.getLast?.map (repairRank order))) =
        rows.filter (behind (repairRank order) (done.getLast?.map (repairRank order))) := by
    intro rows hrows
    rw [List.filter_filterMap, ← List.filterMap_eq_filter]
    refine List.filterMap_congr fun row hrow => ?_
    unfold leftOf
    by_cases hdone : row.id ∈ done.map AdminLogRepairRow.id
    · obtain ⟨same, hsame, hid⟩ := List.mem_map.mp hdone
      have hsorted : same ∈ table.insertionSort (FirstRepaired order) := by grind
      have heq : same = row := List.inj_on_of_nodup_map hids
        ((perm_insertionSort _ table).mem_iff.mp hsorted) (hrows row hrow) hid
      rw [heq] at hsame
      have hfalse := hbefore row hsame
      rw [if_pos hdone, Option.guard, hfalse]
      rcases hleft : outcome L db order batchSize table row with _ | left
      · rfl
      have hrank : behind (repairRank order) (done.getLast?.map (repairRank order)) left =
          false := by
        rw [outcome_id hleft]
        exact hfalse
      rw [filter_some, hrank]
      rfl
    · rw [if_neg hdone]
      rfl
  exact hpart table fun _ h => h

/-- A run ends with every row inspected; it deletes the duplicates and repairs the other rows. -/
theorem repairReadModel_spec (hids : (table.map AdminLogRepairRow.id).Nodup) (hpos : 0 < batchSize)
    {fuel : ℕ} (hfuel : table.length < fuel) :
    repairReadModel L db order batchSize fuel table =
      some (⟨table.length, table.countP (changes L db), table.countP (enriches L db),
          table.countP (duplicate L db order batchSize table)⟩,
        table.filterMap (outcome L db order batchSize table)) := by
  have hstart : Swept L db order batchSize table [] (⟨0, 0, 0, 0⟩, table) :=
    ⟨rfl, filterMap_leftOf_nil.symm⟩
  have hlater : ∀ (done rest : List AdminLogRepairRow)
      (run : AdminLogRepairResult × List AdminLogRepairRow),
      table.insertionSort (FirstRepaired order) = done ++ rest →
      Swept L db order batchSize table done run →
      (Prod.snd run).filter (behind (repairRank order) (done.getLast?.map (repairRank order))) =
        table.filter (behind (repairRank order) (done.getLast?.map (repairRank order))) := by
    intro done rest run hsplit h
    rw [h.table]
    exact filter_leftOf hids hsplit
  obtain ⟨⟨totals, rows⟩, hsweep, htotals, hrows⟩ := Table.sweep_spec firstRepaired_iff hpos
    (repairRanks_distinct hids) hstart hlater
    (fun done batch rest run hsplit hdvd _ hsize h => h.next hids hsplit hdvd hpos hsize) hfuel
  have hperm := perm_insertionSort (FirstRepaired order) table
  have hall : table.filterMap (leftOf L db order batchSize table
      (table.insertionSort (FirstRepaired order))) =
        table.filterMap (outcome L db order batchSize table) := by
    refine List.filterMap_congr fun row hrow => ?_
    unfold leftOf
    rw [if_pos (mem_map_of_mem (hperm.mem_iff.mpr hrow))]
  have hrun : repairReadModel L db order batchSize fuel table = some (totals, rows) :=
    (repairFrom_eq fuel none _).trans hsweep
  dsimp only at htotals hrows
  rw [hperm.length_eq, hperm.countP_eq, hperm.countP_eq, hperm.countP_eq] at htotals
  rw [hall] at hrows
  rw [hrun, htotals, hrows]

end Sweep

end QuizMind.Logs
