import QuizMind.History.Contents
import QuizMind.Table.CursorPages
import Mathlib.Data.List.Infix

/-! # The cleanup of the history

`processHistoryCleanupJob`: one loop asks for expired contents again and again and marks what it
gets, with the attachments of the events. The other goes through the legacy rows behind a
cursor, and deletes those without an event. Both end, and the first one leaves nothing that is
due. The second one stops where it has deleted the row of its cursor, so that it leaves nothing
exactly when nothing due is behind the first full batch whose last row has no event
(`cleansAll_iff`).
-/

namespace QuizMind.History

/-! ## Tables -/

/-- A row of `ai_requests`. -/
structure LegacyAiRequestRow where
  id : String
  expiresAt : Option ℤ

/-- The table, in the order of its ids: an empty id comes first. -/
structure LegacyAiRequests where
  rows : List LegacyAiRequestRow
  ids_nodup : (rows.map LegacyAiRequestRow.id).Nodup
  empty_first : ∀ row ∈ rows.tail, row.id ≠ ""

theorem mem_tail_filter {α : Type} {p : α → Bool} {rows : List α} {row : α}
    (h : row ∈ (rows.filter p).tail) : row ∈ rows.tail := by
  cases rows with
  | nil => cases h
  | cons r rows =>
    rw [List.filter_cons] at h
    split at h
    · exact (List.mem_filter.mp h).1
    · exact (List.mem_filter.mp (List.mem_of_mem_tail h)).1

def LegacyAiRequests.deleteMany (legacy : LegacyAiRequests) (ids : List String) :
    LegacyAiRequests where
  rows := legacy.rows.filter fun row => row.id ∉ ids
  ids_nodup := legacy.ids_nodup.sublist (List.filter_sublist.map _)
  empty_first := fun row hrow => legacy.empty_first row (mem_tail_filter hrow)

structure HistoryTables where
  contents : List AiRequestContent
  attachments : List AiRequestAttachment
  /-- the ids of `ai_request_events` -/
  events : List String
  legacy : LegacyAiRequests
  /-- the paths of the files in the blob directory -/
  blobs : List String

/-- The readings of the clock in a run: those of the queries by the number of the batch, and
those that are stored. -/
structure CleanupClock where
  start : ℤ
  contentQuery : ℕ → ℤ
  attachmentsMarked : ℕ → ℤ
  contentsMarked : ℕ → ℤ
  legacyQuery : ℕ → ℤ
  start_le_contentQuery : ∀ n, start ≤ contentQuery n
  start_le_legacyQuery : ∀ n, start ≤ legacyQuery n
  legacyQuery_mono : ∀ n, legacyQuery n ≤ legacyQuery (n + 1)

/-! ## The job -/

def BATCH : ℕ := 200

/-- `path.join(blobDir, ·)` -/
abbrev JoinPath := String → String

def resolveSafeBlobPath (join : JoinPath) (blobKey : String) : Option String :=
  let normalized := String.ofList ((jsTrim blobKey).toList.map fun c => if c = '\\' then '/' else c)
  if normalized = "" ∨ jsStartsWith normalized "/" ∨ ['.', '.'] <:+: normalized.toList then none
  else some (join normalized)

/-- `tryUnlink` of the paths that are safe. -/
def unlinkSafe (join : JoinPath) (keys : List String) (tables : HistoryTables) : HistoryTables :=
  let paths := keys.filterMap (resolveSafeBlobPath join)
  { tables with blobs := tables.blobs.filter fun path => path ∉ paths }

structure CleanupRun where
  tables : HistoryTables
  deletedRows : ℕ
  /-- the ids of the attachments whose blobs were unlinked -/
  unlinkedAttachments : List String

def AiRequestContent.isDue (now : ℤ) (content : AiRequestContent) : Bool :=
  content.expiresAt < now && content.deletedAt.isNone

/-- The first batch of what has expired and is not deleted. -/
def expiredContents (now : ℤ) (contents : List AiRequestContent) : List AiRequestContent :=
  ((contents.filter (AiRequestContent.isDue now)).insertionSort
    fun c c' => c.expiresAt ≤ c'.expiresAt).take BATCH

def AiRequestContent.blobKeys (content : AiRequestContent) : List String :=
  ([content.promptBlobKey, content.responseBlobKey, content.fileBlobKey].filterMap fun key => key).filter
    fun key => key ≠ ""

/-- `updateMany` of the rows with these ids that are not deleted. -/
def markContents (now : ℤ) (ids : List String) (contents : List AiRequestContent) :
    List AiRequestContent :=
  contents.map fun content =>
    if content.id ∈ ids ∧ content.deletedAt = none then { content with deletedAt := some now }
    else content

def markAttachments (now : ℤ) (ids : List String) (attachments : List AiRequestAttachment) :
    List AiRequestAttachment :=
  attachments.map fun attachment =>
    if attachment.id ∈ ids ∧ attachment.deletedAt = none then
      { attachment with deletedAt := some now }
    else attachment

/-- The attachments of the events that are not deleted. -/
def attachmentsOf (eventIds : List String) (attachments : List AiRequestAttachment) :
    List AiRequestAttachment :=
  attachments.filter fun attachment =>
    attachment.aiRequestEventId ∈ eventIds && attachment.deletedAt.isNone

/-- What is done about a batch of expired contents. -/
def deleteContents (join : JoinPath) (clock : CleanupClock) (n : ℕ)
    (batch : List AiRequestContent) (run : CleanupRun) : CleanupRun :=
  let tables := unlinkSafe join (batch.flatMap AiRequestContent.blobKeys) run.tables
  let eventIds := batch.map AiRequestContent.aiRequestEventId
  let expiredAttachments := attachmentsOf eventIds tables.attachments
  let tables := unlinkSafe join (expiredAttachments.map AiRequestAttachment.blobKey) tables
  let tables := { tables with
    attachments := markAttachments (clock.attachmentsMarked n)
      (expiredAttachments.map AiRequestAttachment.id) tables.attachments }
  let ids := batch.map AiRequestContent.id
  let count := tables.contents.countP fun content => content.id ∈ ids && content.deletedAt.isNone
  { tables := { tables with
      contents := markContents (clock.contentsMarked n) ids tables.contents }
    deletedRows := run.deletedRows + count
    unlinkedAttachments :=
      run.unlinkedAttachments ++ expiredAttachments.map AiRequestAttachment.id }

/-- The loop over the contents, from batch `n` on; `none` where the fuel has run out. -/
def contentLoop (join : JoinPath) (clock : CleanupClock) : ℕ → ℕ → CleanupRun → Option CleanupRun
  | 0, _, _ => none
  | fuel + 1, n, run =>
    let batch := expiredContents (clock.contentQuery n) run.tables.contents
    if batch.length = 0 then some run
    else
      let run := deleteContents join clock n batch run
      if batch.length < BATCH then some run else contentLoop join clock fuel (n + 1) run

def LegacyAiRequestRow.isDue (now : ℤ) (row : LegacyAiRequestRow) : Bool :=
  row.expiresAt.any fun expiresAt => expiresAt < now

/-- The blobs that a legacy request can have. -/
def legacyBlobKeys (id : String) : List String :=
  ["requests/" ++ id ++ "/prompt.json", "requests/" ++ id ++ "/response.json",
    "requests/" ++ id ++ "/file.bin", id ++ ".prompt.json", id ++ ".response.json",
    id ++ ".file.bin"]

/-- What is done about a batch of legacy rows. -/
def deleteLegacy (join : JoinPath) (batch : List LegacyAiRequestRow) (run : CleanupRun) :
    CleanupRun :=
  let legacyIds := batch.map LegacyAiRequestRow.id
  let legacyOnlyIds := legacyIds.filter fun id => id ∉ run.tables.events
  if legacyOnlyIds.length > 0 then
    let tables := unlinkSafe join (legacyOnlyIds.flatMap legacyBlobKeys) run.tables
    let removed := tables.legacy.rows.countP fun row => row.id ∈ legacyOnlyIds
    { tables := { tables with legacy := tables.legacy.deleteMany legacyOnlyIds }
      deletedRows := run.deletedRows + removed
      unlinkedAttachments := run.unlinkedAttachments }
  else run

/-- The loop over the legacy rows behind the cursor, from batch `n` on. -/
def legacyLoop (join : JoinPath) (clock : CleanupClock) :
    ℕ → ℕ → Option String → CleanupRun → Option CleanupRun
  | 0, _, _, _ => none
  | fuel + 1, n, legacyCursorId, run =>
    let cursor := legacyCursorId.filter fun id => id ≠ ""
    let batch := CursorPages.page LegacyAiRequestRow.id run.tables.legacy.rows cursor
      (LegacyAiRequestRow.isDue (clock.legacyQuery n)) BATCH
    if batch.length = 0 then some run
    else
      let run := deleteLegacy join batch run
      if batch.length < BATCH then some run
      else legacyLoop join clock fuel (n + 1) (batch.getLast?.map LegacyAiRequestRow.id) run

/-- The two loops, one after the other. -/
def cleanupLoops (join : JoinPath) (clock : CleanupClock) (fuel : ℕ) (tables : HistoryTables) :
    Option CleanupRun :=
  (contentLoop join clock fuel 0 ⟨tables, 0, []⟩).bind (legacyLoop join clock fuel 0 none)

/-- The log event of a cleanup, and the number of rows. -/
structure HistoryCleanupResult where
  eventId : String
  eventType : String
  deletedRows : ℕ
  triggeredAt : String

def cleanupResult (triggeredAt : String) (run : CleanupRun) : HistoryCleanupResult where
  eventId := "history-cleanup:" ++ triggeredAt
  eventType := "platform.history_cleanup_completed"
  deletedRows := run.deletedRows
  triggeredAt := triggeredAt

def processHistoryCleanupJob (join : JoinPath) (clock : CleanupClock) (fuel : ℕ)
    (triggeredAt : String) (tables : HistoryTables) :
    Option (HistoryCleanupResult × HistoryTables) :=
  (cleanupLoops join clock fuel tables).map fun run => (cleanupResult triggeredAt run, run.tables)

variable {join : JoinPath} {clock : CleanupClock}

/-! ## The contents -/

section Contents

variable {run after : CleanupRun} {n fuel : ℕ} {now : ℤ} {ids : List String}
  {contents : List AiRequestContent}

variable {content : AiRequestContent}

theorem mem_expiredContents (h : content ∈ expiredContents now contents) :
    content ∈ contents ∧ content.isDue now = true := by
  have hsorted := List.mem_of_mem_take h
  rw [List.mem_insertionSort] at hsorted
  exact List.mem_filter.mp hsorted

/-- A batch that is not full has everything that is due. -/
theorem mem_expiredContents_of_few (hfew : (expiredContents now contents).length < BATCH)
    (hmem : content ∈ contents) (hdue : content.isDue now = true) :
    content ∈ expiredContents now contents := by
  grind [expiredContents, List.take_of_length_le, List.mem_insertionSort]

theorem contents_deleteContents (batch : List AiRequestContent) :
    (deleteContents join clock n batch run).tables.contents =
      markContents (clock.contentsMarked n) (batch.map AiRequestContent.id)
        run.tables.contents := rfl

/-- What is marked is not due; the rest is as it was. -/
theorem mem_markContents {t : ℤ} (h : content ∈ markContents t ids contents) :
    content.deletedAt.isSome ∨ (content ∈ contents ∧ content.id ∉ ids) := by
  obtain ⟨c, hc, rfl⟩ := List.mem_map.mp h
  by_cases hmarked : c.id ∈ ids ∧ c.deletedAt = none
  · left
    rw [if_pos hmarked]
    rfl
  rw [if_neg hmarked]
  cases hdel : c.deletedAt with
  | some t =>
    left
    rfl
  | none => grind

theorem countP_lt_countP {α : Type} {p q : α → Bool} {l : List α} {x : α}
    (himp : ∀ y ∈ l, q y = true → p y = true) (hx : x ∈ l) (hp : p x = true)
    (hq : ¬ q x = true) : l.countP q < l.countP p := by
  induction l with
  | nil => cases hx
  | cons y l ih =>
    have hrest : l.countP q ≤ l.countP p :=
      List.countP_mono_left fun z hz => himp z (List.mem_cons_of_mem _ hz)
    rw [List.countP_cons, List.countP_cons]
    rcases List.mem_cons.mp hx with rfl | hx
    · rw [if_pos hp, if_neg hq]
      omega
    have hlt := ih (fun z hz => himp z (List.mem_cons_of_mem _ hz)) hx
    by_cases hqy : q y = true
    · simp_all
    · rw [if_neg hqy]
      omega

/-- The contents that are not deleted. -/
def undeleted (contents : List AiRequestContent) : ℕ :=
  contents.countP fun content => content.deletedAt.isNone

/-- A batch with a row leaves fewer rows that are not deleted. -/
theorem undeleted_markContents {t : ℤ} (hmem : content ∈ contents) (hid : content.id ∈ ids)
    (hdel : content.deletedAt = none) :
    undeleted (markContents t ids contents) < undeleted contents := by
  unfold undeleted markContents
  rw [List.countP_map]
  refine countP_lt_countP ?_ hmem (by rw [hdel]; rfl) ?_
  · grind
  · grind

/-- Each round of the loop keeps what its batch keeps. -/
theorem contentLoop_rule {I : CleanupRun → Prop}
    (hstep : ∀ n run, I run → I (deleteContents join clock n
      (expiredContents (clock.contentQuery n) run.tables.contents) run))
    (hrun : I run) (h : contentLoop join clock fuel n run = some after) : I after := by
  induction fuel generalizing n run with
  | zero => cases h
  | succ fuel ih =>
    rw [contentLoop] at h
    split at h
    · rw [← Option.some.inj h]
      exact hrun
    · grind

/-- The loop ends: each round has fewer rows that are not deleted. -/
theorem contentLoop_terminates (h : undeleted run.tables.contents < fuel) :
    ∃ after, contentLoop join clock fuel n run = some after := by
  induction fuel generalizing n run with
  | zero => exact absurd h (Nat.not_lt_zero _)
  | succ fuel ih =>
    rw [contentLoop]
    split
    · exact ⟨run, rfl⟩
    next hsome =>
      split
      · exact ⟨_, rfl⟩
      refine ih ?_
      obtain ⟨content, hcont⟩ :=
        List.exists_mem_of_length_pos (Nat.pos_of_ne_zero hsome)
      obtain ⟨hmem, hdue⟩ := mem_expiredContents hcont
      have hdel : content.deletedAt = none := by
        simp_all [AiRequestContent.isDue]
      have hlt := undeleted_markContents (t := clock.contentsMarked n) hmem
        (List.mem_map_of_mem hcont) hdel
      rw [contents_deleteContents]
      omega

/-- The loop leaves nothing that was due at the start. -/
theorem contentLoop_complete (h : contentLoop join clock fuel n run = some after) :
    ∀ content ∈ after.tables.contents, content.expiresAt < clock.start →
      content.deletedAt ≠ none := by
  induction fuel generalizing n run with
  | zero => cases h
  | succ fuel ih =>
    rw [contentLoop] at h
    have hdueOf : ∀ content : AiRequestContent, content.expiresAt < clock.start →
        content.deletedAt = none → content.isDue (clock.contentQuery n) = true := by
      intro content hexp hdel
      have hlater := clock.start_le_contentQuery n
      rw [AiRequestContent.isDue, hdel, Bool.and_eq_true]
      exact ⟨decide_eq_true (by omega), rfl⟩
    split at h
    · next hempty =>
        rw [← Option.some.inj h]
        intro content hcont hexp hdel
        have hfew : (expiredContents (clock.contentQuery n) run.tables.contents).length <
            BATCH := by
          rw [hempty]
          decide
        have hin := mem_expiredContents_of_few hfew hcont (hdueOf content hexp hdel)
        have hpos := List.length_pos_of_mem hin
        omega
    split at h
    · next hfew =>
        rw [← Option.some.inj h]
        intro content hcont hexp hdel
        rcases mem_markContents hcont with hmarked | ⟨hmem, hid⟩
        · grind
        · have hin := mem_expiredContents_of_few hfew hmem (hdueOf content hexp hdel)
          exact hid (List.mem_map_of_mem hin)
    · exact ih h

end Contents

/-! ## The legacy rows -/

section Legacy

variable {run : CleanupRun} {n fuel : ℕ} {pre rest batch : List LegacyAiRequestRow}

/-- The row has no event, so that it goes with its batch. -/
def LegacyAiRequestRow.legacyOnly (events : List String) (row : LegacyAiRequestRow) : Bool :=
  row.id ∉ events

/-- The row was due at the start, and should be gone. -/
def LegacyAiRequestRow.ShouldGo (events : List String) (start : ℤ) (row : LegacyAiRequestRow) :
    Prop :=
  row.isDue start = true ∧ row.legacyOnly events = true

/-- The rows are all seen, by the readings of the clock. -/
def SeesAllLegacy (clock : CleanupClock) (events : List String) (n : ℕ)
    (rows : List LegacyAiRequestRow) : Prop :=
  CursorPages.SeesAll BATCH (fun k => LegacyAiRequestRow.isDue (clock.legacyQuery k))
    (LegacyAiRequestRow.legacyOnly events)
    (LegacyAiRequestRow.ShouldGo events clock.start) n 0 rows

variable {row : LegacyAiRequestRow}

theorem LegacyAiRequestRow.isDue_mono {now now' : ℤ} (h : now ≤ now')
    (hdue : row.isDue now = true) : row.isDue now' = true := by
  obtain ⟨id, expiresAt⟩ := row
  cases expiresAt with
  | none => exact hdue
  | some expiresAt =>
    have hbefore : expiresAt < now := of_decide_eq_true hdue
    exact decide_eq_true (by omega)

/-- The ids that are deleted with a batch. -/
def legacyOnlyIds (events : List String) (batch : List LegacyAiRequestRow) : List String :=
  (batch.map LegacyAiRequestRow.id).filter fun id => id ∉ events

theorem mem_legacyOnlyIds {events : List String} {id : String} :
    id ∈ legacyOnlyIds events batch ↔ (∃ row ∈ batch, row.id = id) ∧ id ∉ events := by
  unfold legacyOnlyIds
  rw [List.mem_filter, List.mem_map, decide_eq_true_eq]

theorem deleteLegacy_rows (join : JoinPath) (run : CleanupRun) (batch : List LegacyAiRequestRow) :
    (deleteLegacy join batch run).tables.legacy.rows =
      run.tables.legacy.rows.filter fun row => row.id ∉ legacyOnlyIds run.tables.events batch := by
  unfold deleteLegacy legacyOnlyIds
  dsimp only
  split
  · rfl
  next hnone =>
    have hempty : (batch.map LegacyAiRequestRow.id).filter
        (fun id => id ∉ run.tables.events) = [] :=
      List.length_eq_zero_iff.mp (Nat.le_zero.mp (Nat.not_lt.mp hnone))
    rw [hempty]
    simp

theorem events_deleteLegacy (join : JoinPath) (run : CleanupRun) (batch : List LegacyAiRequestRow) :
    (deleteLegacy join batch run).tables.events = run.tables.events := by
  unfold deleteLegacy
  dsimp only
  split
  · rfl
  · rfl

variable {cursor : Option String}

/-- Each round of the loop keeps what a batch keeps. -/
theorem legacyLoop_rule {I : CleanupRun → Prop} {after : CleanupRun}
    (hstep : ∀ batch run, I run → I (deleteLegacy join batch run)) (hrun : I run)
    (h : legacyLoop join clock fuel n cursor run = some after) : I after := by
  induction fuel generalizing n cursor run with
  | zero => cases h
  | succ fuel ih =>
    rw [legacyLoop] at h
    split at h
    · rw [← Option.some.inj h]
      exact hrun
    · grind

/-- The loop over the legacy rows changes neither the contents nor the attachments. -/
theorem legacyLoop_frame {after : CleanupRun}
    (h : legacyLoop join clock fuel n cursor run = some after) :
    after.tables.contents = run.tables.contents ∧
      after.tables.attachments = run.tables.attachments ∧
      after.unlinkedAttachments = run.unlinkedAttachments := by
  refine legacyLoop_rule (I := fun r => r.tables.contents = run.tables.contents ∧
    r.tables.attachments = run.tables.attachments ∧
    r.unlinkedAttachments = run.unlinkedAttachments) ?_ ⟨rfl, rfl, rfl⟩ h
  intro batch r hr
  unfold deleteLegacy
  dsimp only
  split
  · exact hr
  · exact hr

/-- The cursor is at the end of the rows that the loop has passed. -/
def CursorAt (clock : CleanupClock) (n : ℕ) (cursor : Option String)
    (pre : List LegacyAiRequestRow) : Prop :=
  (cursor = none ∧ pre = []) ∨
    ∃ passed row, pre = passed ++ [row] ∧ cursor = some row.id ∧ row.id ≠ "" ∧
      row.isDue (clock.legacyQuery n) = true

theorem page_cursorAt (hcursor : CursorAt clock n cursor pre)
    (hids : ((pre ++ rest).map LegacyAiRequestRow.id).Nodup) :
    CursorPages.page LegacyAiRequestRow.id (pre ++ rest) (cursor.filter fun id => id ≠ "")
        (LegacyAiRequestRow.isDue (clock.legacyQuery n)) BATCH =
      (rest.filter (LegacyAiRequestRow.isDue (clock.legacyQuery n))).take BATCH := by
  rcases hcursor with ⟨rfl, rfl⟩ | ⟨passed, row, rfl, rfl, hne, hdue⟩
  · rfl
  have hkept : (some row.id).filter (fun id => decide (id ≠ "")) = some row.id := by
    rw [Option.filter_some, if_pos (by simpa using hne)]
  have hnew : row.id ∉ passed.map LegacyAiRequestRow.id := by grind
  rw [hkept, List.append_assoc]
  exact CursorPages.page_cursor hnew hdue

variable {rows : List LegacyAiRequestRow}

/-- Rows with other ids stay. -/
theorem filter_others {ids : List String}
    (h : ∀ row ∈ rows, row.id ∉ ids) : (rows.filter fun row => row.id ∉ ids) = rows := by simp_all

/-- Of the rows of a batch those stay that have an event. -/
theorem event_of_stays {events : List String} {now : ℤ}
    (hbatch : ∀ row ∈ rows, row.isDue now = true → row ∈ batch) (hnow : clock.start ≤ now)
    (hrow : row ∈ rows.filter fun row => row.id ∉ legacyOnlyIds events batch) :
    ¬ row.ShouldGo events clock.start := by
  rintro ⟨hdue, honly⟩
  obtain ⟨hmem, hstays⟩ := List.mem_filter.mp hrow
  have hin := hbatch row hmem (LegacyAiRequestRow.isDue_mono hnow hdue)
  have hgoes : row.id ∈ legacyOnlyIds events batch :=
    mem_legacyOnlyIds.mpr ⟨⟨row, hin, rfl⟩, of_decide_eq_true honly⟩
  exact of_decide_eq_true hstays hgoes

variable {mid tail : List LegacyAiRequestRow}

/-- The rows after a batch: those that the loop has passed stay, and those behind the batch. -/
theorem deleteLegacy_append (join : JoinPath)
    (hrows : run.tables.legacy.rows = pre ++ (mid ++ tail)) (hbatch : ∀ row ∈ batch, row ∈ mid) :
    (deleteLegacy join batch run).tables.legacy.rows =
      pre ++ ((mid.filter fun row => row.id ∉ legacyOnlyIds run.tables.events batch) ++ tail) := by
  have hids := run.tables.legacy.ids_nodup
  rw [hrows, List.map_append, List.map_append] at hids
  have hothers : ∀ row, row ∈ pre ∨ row ∈ tail →
      row.id ∉ legacyOnlyIds run.tables.events batch := by
    intro row hrow hgoes
    obtain ⟨⟨row', hrow', hid⟩, -⟩ := mem_legacyOnlyIds.mp hgoes
    have hmid : row.id ∈ mid.map LegacyAiRequestRow.id := by grind
    obtain ⟨-, hrest, hpre⟩ := List.nodup_append.mp hids
    rcases hrow with hrow | hrow
    · exact hpre _ (List.mem_map_of_mem hrow) _ (List.mem_append_left _ hmid) rfl
    · exact (List.nodup_append.mp hrest).2.2 _ hmid _ (List.mem_map_of_mem hrow) rfl
  rw [deleteLegacy_rows, hrows, List.filter_append, List.filter_append,
    filter_others fun row hrow => hothers row (.inl hrow),
    filter_others fun row hrow => hothers row (.inr hrow)]

/-- Where the loop stands: what it leaves behind the rows that it has passed has no row that
should go exactly when it sees all of them. -/
def LeavesAsSeen (clock : CleanupClock) (n : ℕ) (run : CleanupRun)
    (pre rest : List LegacyAiRequestRow) (outcome : Option CleanupRun) : Prop :=
  ∃ after rest', outcome = some after ∧ after.tables.legacy.rows = pre ++ rest' ∧
    ((∀ row ∈ rest', ¬ row.ShouldGo run.tables.events clock.start) ↔
      SeesAllLegacy clock run.tables.events n rest)

/-- The last batch has all rows that are due. -/
theorem legacyLoop_few (hrows : run.tables.legacy.rows = pre ++ rest)
    (hcursor : CursorAt clock n cursor pre)
    (hfew : (rest.filter (LegacyAiRequestRow.isDue (clock.legacyQuery n))).length < BATCH) :
    LeavesAsSeen clock n run pre rest (legacyLoop join clock (fuel + 1) n cursor run) := by
  have hids := run.tables.legacy.ids_nodup
  rw [hrows] at hids
  have hpage := page_cursorAt hcursor hids
  have hstart := clock.start_le_legacyQuery n
  have hseen : SeesAllLegacy clock run.tables.events n rest := by
    refine CursorPages.seesAll_of_few ?_
    exact hfew
  rw [List.take_of_length_le hfew.le, ← hrows] at hpage
  have hbatch : ∀ row ∈ rest, row.isDue (clock.legacyQuery n) = true →
      row ∈ rest.filter (LegacyAiRequestRow.isDue (clock.legacyQuery n)) :=
    fun row hrow hdue => List.mem_filter.mpr ⟨hrow, hdue⟩
  rw [legacyLoop]
  rw [hpage, if_pos hfew]
  by_cases hnone : (rest.filter (LegacyAiRequestRow.isDue (clock.legacyQuery n))).length = 0
  · rw [if_pos hnone]
    refine ⟨run, rest, rfl, hrows, iff_of_true ?_ hseen⟩
    rintro row hrow ⟨hdue, -⟩
    have hin := hbatch row hrow (LegacyAiRequestRow.isDue_mono hstart hdue)
    have hpos := List.length_pos_of_mem hin
    omega
  rw [if_neg hnone]
  have hsplit : run.tables.legacy.rows = pre ++ (rest ++ []) := by
    rw [hrows, List.append_nil]
  have hmem : ∀ row ∈ rest.filter (LegacyAiRequestRow.isDue (clock.legacyQuery n)),
      row ∈ rest := fun row hrow => (List.mem_filter.mp hrow).1
  have hafter := deleteLegacy_append join hsplit hmem
  rw [List.append_nil] at hafter
  refine ⟨_, _, rfl, hafter, iff_of_true ?_ hseen⟩
  intro row hrow
  exact event_of_stays hbatch hstart hrow

/-- Behind a cursor whose row has gone the loop finds nothing. -/
theorem legacyLoop_missing {id : String} (hid : id ≠ "")
    (hmissing : id ∉ run.tables.legacy.rows.map LegacyAiRequestRow.id) :
    legacyLoop join clock (fuel + 1) n (some id) run = some run := by
  grind [legacyLoop, CursorPages.page_missing]

variable {last : LegacyAiRequestRow}

section

variable (hrows : run.tables.legacy.rows = pre ++ (mid ++ last :: tail))
include hrows

/-- The last row of a full batch becomes the cursor. -/
theorem legacyLoop_full (hcursor : CursorAt clock n cursor pre)
    (hmid : (mid.filter (LegacyAiRequestRow.isDue (clock.legacyQuery n))).length = 199)
    (htake : ((mid ++ last :: tail).filter
        (LegacyAiRequestRow.isDue (clock.legacyQuery n))).take BATCH =
      mid.filter (LegacyAiRequestRow.isDue (clock.legacyQuery n)) ++ [last]) :
    legacyLoop join clock (fuel + 1) n cursor run =
      legacyLoop join clock fuel (n + 1) (some last.id) (deleteLegacy join
          (mid.filter (LegacyAiRequestRow.isDue (clock.legacyQuery n)) ++ [last]) run) := by
  have hids := run.tables.legacy.ids_nodup
  rw [hrows] at hids
  have hpage := page_cursorAt hcursor hids
  rw [htake, ← hrows] at hpage
  have hlen : (mid.filter (LegacyAiRequestRow.isDue (clock.legacyQuery n)) ++
      [last]).length = BATCH := by
    rw [List.length_append, hmid]
    rfl
  have hsome : ¬ BATCH = 0 := by decide
  rw [legacyLoop]
  rw [hpage, hlen, if_neg hsome, if_neg (Nat.lt_irrefl BATCH), List.getLast?_concat,
    Option.map_some]

/-- The last row of a full batch is not the first row of the table. -/
theorem id_ne_empty {p : LegacyAiRequestRow → Bool}
    (hmid : (mid.filter p).length = 199) : last.id ≠ "" := by
  refine run.tables.legacy.empty_first last ?_
  rw [hrows]
  cases pre with
  | cons row pre => exact List.mem_append_right _ (List.mem_append_right _ List.mem_cons_self)
  | nil => grind

end

/-- The loop ends, and leaves no row that should go exactly when it sees all rows behind its
cursor. The induction is on the fuel; the cursor moves behind each full batch. -/
theorem legacyLoop_spec (hrows : run.tables.legacy.rows = pre ++ rest)
    (hcursor : CursorAt clock n cursor pre) (hfuel : rest.length < fuel) :
    LeavesAsSeen clock n run pre rest (legacyLoop join clock fuel n cursor run) := by
  induction fuel generalizing n cursor run pre rest with
  | zero => exact absurd hfuel (Nat.not_lt_zero _)
  | succ fuel ih =>
    have hBATCH : BATCH = 199 + 1 := rfl
    by_cases hfull : (rest.filter (LegacyAiRequestRow.isDue (clock.legacyQuery n))).length < BATCH
    · exact legacyLoop_few hrows hcursor hfull
    have hlen : 199 < (rest.filter
        (LegacyAiRequestRow.isDue (clock.legacyQuery n))).length := by omega
    obtain ⟨mid, last, tail, rfl, hlast, hmid, htake⟩ := CursorPages.split_of_full hlen
    have hseen : SeesAllLegacy clock run.tables.events n (mid ++ last :: tail) ↔
        if last.legacyOnly run.tables.events then
          ∀ row ∈ tail, ¬ row.ShouldGo run.tables.events clock.start
        else SeesAllLegacy clock run.tables.events (n + 1) tail := by
      refine CursorPages.seesAll_full hlast ?_
      rw [hmid, hBATCH]
    have hsplit : run.tables.legacy.rows = pre ++ ((mid ++ [last]) ++ tail) := by
      rw [hrows, List.append_assoc, List.singleton_append]
    have hne := id_ne_empty hrows hmid
    have hin : ∀ row ∈ mid ++ [last], row.isDue (clock.legacyQuery n) = true →
        row ∈ mid.filter (LegacyAiRequestRow.isDue (clock.legacyQuery n)) ++ [last] := by grind
    have hof : ∀ row ∈ mid.filter (LegacyAiRequestRow.isDue (clock.legacyQuery n)) ++ [last],
        row ∈ mid ++ [last] := by grind
    rw [legacyLoop_full hrows hcursor hmid htake]
    generalize hbatch : mid.filter (LegacyAiRequestRow.isDue (clock.legacyQuery n)) ++
      [last] = batch at hin hof
    have hafter := deleteLegacy_append join hsplit hof
    have hstays : ∀ row ∈ (mid ++ [last]).filter
        (fun row => row.id ∉ legacyOnlyIds run.tables.events batch),
        ¬ row.ShouldGo run.tables.events clock.start :=
      fun row hrow => event_of_stays hin (clock.start_le_legacyQuery n) hrow
    have hevs := events_deleteLegacy join run batch
    have hgoes : last.id ∈ legacyOnlyIds run.tables.events batch ↔
        last.legacyOnly run.tables.events = true := by
      grind [mem_legacyOnlyIds, LegacyAiRequestRow.legacyOnly]
    by_cases hlegacy : last.legacyOnly run.tables.events = true
    · -- the row of the cursor has gone, and the loop ends
      have hmissing : last.id ∉ (deleteLegacy join batch run).tables.legacy.rows.map
          LegacyAiRequestRow.id := by
        rw [deleteLegacy_rows]
        intro hmem
        obtain ⟨row, hrow, hid⟩ := List.mem_map.mp hmem
        have hkept := of_decide_eq_true (List.mem_filter.mp hrow).2
        rw [hid] at hkept
        exact hkept (hgoes.mpr hlegacy)
      obtain ⟨fuel, rfl⟩ : ∃ m, fuel = m + 1 := by
        rw [List.length_append, List.length_cons] at hfuel
        exact ⟨fuel - 1, by omega⟩
      rw [legacyLoop_missing hne hmissing]
      refine ⟨_, _, rfl, hafter, ?_⟩
      constructor
      all_goals grind
    · -- the row of the cursor has stayed, and the loop goes on behind it
      have hkept : (mid ++ [last]).filter
          (fun row => row.id ∉ legacyOnlyIds run.tables.events batch) =
          mid.filter (fun row => row.id ∉ legacyOnlyIds run.tables.events batch) ++ [last] := by
        grind
      rw [← List.append_assoc] at hafter
      have hcursor' : CursorAt clock (n + 1) (some last.id) (pre ++ (mid ++ [last]).filter
          (fun row => row.id ∉ legacyOnlyIds run.tables.events batch)) := by
        right
        refine ⟨pre ++ mid.filter (fun row => row.id ∉ legacyOnlyIds run.tables.events batch),
          last, ?_, rfl, hne, LegacyAiRequestRow.isDue_mono (clock.legacyQuery_mono n) hlast⟩
        rw [hkept, ← List.append_assoc]
      have hfuel' : tail.length < fuel := by grind
      obtain ⟨after, rest', hloop, hrows', hiff⟩ := ih hafter hcursor' hfuel'
      refine ⟨after,
        (mid ++ [last]).filter (fun row => row.id ∉ legacyOnlyIds run.tables.events batch) ++
          rest', hloop, ?_, ?_⟩
      · rw [hrows', List.append_assoc]
      · grind

end Legacy

/-! ## The whole job -/

/-- The job ends, and then no content that was due at the start is without a deletion date, and
no legacy row that was due at the start and has no event is left. -/
def CleansAll (join : JoinPath) (clock : CleanupClock) (triggeredAt : String)
    (tables : HistoryTables) : Prop :=
  ∃ fuel result after,
    processHistoryCleanupJob join clock fuel triggeredAt tables = some (result, after) ∧
    (∀ content ∈ after.contents, content.expiresAt < clock.start → content.deletedAt ≠ none) ∧
    ∀ row ∈ after.legacy.rows, row.isDue clock.start = true → row.id ∈ tables.events

variable {after : CleanupRun} {fuel : ℕ} {run : CleanupRun}

/-- The loop over the contents changes neither the events nor the legacy rows. -/
theorem contentLoop_frame {n : ℕ} (h : contentLoop join clock fuel n run = some after) :
    after.tables.events = run.tables.events ∧ after.tables.legacy = run.tables.legacy :=
  contentLoop_rule (I := fun r => r.tables.events = run.tables.events ∧
    r.tables.legacy = run.tables.legacy) (fun _ _ hr => hr) ⟨rfl, rfl⟩ h

variable {fuel' : ℕ}

/-- With more fuel a loop that has ended gives the same. -/
theorem contentLoop_mono {n : ℕ} (hle : fuel ≤ fuel')
    (h : contentLoop join clock fuel n run = some after) :
    contentLoop join clock fuel' n run = some after := by
  induction fuel generalizing fuel' n run with
  | zero => cases h
  | succ fuel ih =>
    obtain ⟨fuel', rfl⟩ : ∃ m, fuel' = m + 1 := ⟨fuel' - 1, by omega⟩
    rw [contentLoop] at h ⊢
    split at h
    · grind
    next hsome =>
      rw [if_neg hsome]
      split at h
      · next hfew =>
          rw [if_pos hfew]
          exact h
      · simp_all

theorem legacyLoop_mono {n : ℕ} {cursor : Option String}
    (hle : fuel ≤ fuel') (h : legacyLoop join clock fuel n cursor run = some after) :
    legacyLoop join clock fuel' n cursor run = some after := by
  induction fuel generalizing fuel' n cursor run with
  | zero => cases h
  | succ fuel ih =>
    obtain ⟨fuel', rfl⟩ : ∃ m, fuel' = m + 1 := ⟨fuel' - 1, by omega⟩
    rw [legacyLoop] at h ⊢
    split at h
    · grind
    next hsome =>
      rw [if_neg hsome]
      split at h
      · next hfew =>
          rw [if_pos hfew]
          exact h
      · simp_all

variable {tables : HistoryTables}

theorem cleanupLoops_mono (hle : fuel ≤ fuel')
    (h : cleanupLoops join clock fuel tables = some after) :
    cleanupLoops join clock fuel' tables = some after := by
  obtain ⟨run, hrun, hafter⟩ := Option.bind_eq_some_iff.mp h
  exact Option.bind_eq_some_iff.mpr ⟨run, contentLoop_mono hle hrun, legacyLoop_mono hle hafter⟩

/-- However much fuel it takes, the outcome is one. -/
theorem cleanupLoops_unique {after' : CleanupRun}
    (h : cleanupLoops join clock fuel tables = some after)
    (h' : cleanupLoops join clock fuel' tables = some after') : after = after' := by
  have hlarge := cleanupLoops_mono (le_max_left fuel fuel') h
  have hlarge' := cleanupLoops_mono (le_max_right fuel fuel') h'
  rw [hlarge] at hlarge'
  exact Option.some.inj hlarge'

/-- So many rounds are enough for both loops. -/
def cleanupFuel (tables : HistoryTables) : ℕ :=
  max (undeleted tables.contents) tables.legacy.rows.length + 1

/-- With enough fuel the loops end, with nothing due among the contents, and with nothing due
among the legacy rows exactly when their loop sees them all. -/
theorem cleanupLoops_spec (join : JoinPath) (clock : CleanupClock) (tables : HistoryTables) :
    ∃ after, cleanupLoops join clock (cleanupFuel tables) tables = some after ∧
      (∀ content ∈ after.tables.contents, content.expiresAt < clock.start →
        content.deletedAt ≠ none) ∧
      ((∀ row ∈ after.tables.legacy.rows, row.isDue clock.start = true → row.id ∈ tables.events) ↔
        SeesAllLegacy clock tables.events 0 tables.legacy.rows) := by
  have hconts : undeleted tables.contents < cleanupFuel tables := by
    unfold cleanupFuel
    omega
  have hlegacy : tables.legacy.rows.length < cleanupFuel tables := by
    unfold cleanupFuel
    omega
  obtain ⟨run, hrun⟩ : ∃ run,
      contentLoop join clock (cleanupFuel tables) 0 ⟨tables, 0, []⟩ = some run :=
    contentLoop_terminates hconts
  obtain ⟨hevs, hrows⟩ := contentLoop_frame hrun
  have hcursor : CursorAt clock 0 none [] := .inl ⟨rfl, rfl⟩
  have hsplit : run.tables.legacy.rows = [] ++ tables.legacy.rows := by
    rw [hrows]
    rfl
  obtain ⟨after, rest', hloop, hafter, hiff⟩ := legacyLoop_spec hsplit hcursor hlegacy
  refine ⟨after, Option.bind_eq_some_iff.mpr ⟨run, hrun, hloop⟩, ?_, ?_⟩
  · grind [legacyLoop_frame, contentLoop_complete]
  · grind [LegacyAiRequestRow.ShouldGo, LegacyAiRequestRow.legacyOnly]

theorem sees_of_cleansAll {triggeredAt : String} (h : CleansAll join clock triggeredAt tables) :
    SeesAllLegacy clock tables.events 0 tables.legacy.rows := by
  obtain ⟨after, hloops, -, hiff⟩ := cleanupLoops_spec join clock tables
  obtain ⟨fuel', result', tables', hjob, -, hrows⟩ := h
  obtain ⟨run, hrun, hres⟩ := Option.map_eq_some_iff.mp hjob
  obtain ⟨-, rfl⟩ := Prod.mk.inj hres
  rw [cleanupLoops_unique hrun hloops] at hrows
  exact hiff.mp hrows

theorem cleansAll_of_sees (triggeredAt : String)
    (h : SeesAllLegacy clock tables.events 0 tables.legacy.rows) :
    CleansAll join clock triggeredAt tables := by
  obtain ⟨after, hloops, hconts, hiff⟩ := cleanupLoops_spec join clock tables
  exact ⟨cleanupFuel tables, cleanupResult triggeredAt after, after.tables,
    Option.map_eq_some_iff.mpr ⟨after, hloops, rfl⟩, hconts, hiff.mpr h⟩

/-- The job removes everything that is due exactly when nothing due is behind the first full
batch of legacy rows whose last row has no event. -/
theorem cleansAll_iff (join : JoinPath) (clock : CleanupClock) (triggeredAt : String)
    (tables : HistoryTables) :
    CleansAll join clock triggeredAt tables ↔
      SeesAllLegacy clock tables.events 0 tables.legacy.rows :=
  ⟨sees_of_cleansAll, cleansAll_of_sees triggeredAt⟩

/-- A row that should go stays where a full batch before it ends with a row without event. -/
theorem not_cleansAll_of_full {triggeredAt : String} {mid tail : List LegacyAiRequestRow}
    {last row : LegacyAiRequestRow} (hrows : tables.legacy.rows = mid ++ last :: tail)
    (hmid : (mid.filter (LegacyAiRequestRow.isDue (clock.legacyQuery 0))).length = 199)
    (hlast : last.isDue (clock.legacyQuery 0) = true)
    (honly : last.legacyOnly tables.events = true) (hrow : row ∈ tail)
    (hgo : row.ShouldGo tables.events clock.start) : ¬ CleansAll join clock triggeredAt tables := by
  intro h
  have hsees := sees_of_cleansAll h
  have hsize : (mid.filter (LegacyAiRequestRow.isDue (clock.legacyQuery 0))).length + 0 + 1 =
      BATCH := by
    rw [hmid]
    rfl
  rw [hrows] at hsees
  have hleft := (CursorPages.seesAll_full hlast hsize).mp hsees
  rw [if_pos honly] at hleft
  exact hleft row hrow hgo

/-! ## A batch and one more row -/

/-- The row with an id of `n + 1` letters, which expired at time 0. -/
def expiredRow (n : ℕ) : LegacyAiRequestRow := ⟨String.ofList (List.replicate (n + 1) 'a'), some 0⟩

theorem expiredRow_id_inj {n m : ℕ} (h : (expiredRow n).id = (expiredRow m).id) : n = m := by
  have hlen := congrArg (fun id : String => id.toList.length) h
  simpa [expiredRow] using hlen

/-- A full batch of rows, and one more. -/
def oneMoreRow : LegacyAiRequests where
  rows := (List.range (BATCH + 1)).map expiredRow
  ids_nodup := by
    rw [List.map_map]
    exact List.nodup_range.map fun n m h => expiredRow_id_inj h
  empty_first := by
    intro row hrow hempty
    obtain ⟨n, -, rfl⟩ := List.mem_map.mp (List.mem_of_mem_tail hrow)
    have hlength := congrArg (fun id : String => id.toList.length) hempty
    simp [expiredRow] at hlength

def oneMoreTables : HistoryTables := ⟨[], [], [], oneMoreRow, []⟩

/-- A clock that stands still. -/
def CleanupClock.still (now : ℤ) : CleanupClock where
  start := now
  contentQuery := fun _ => now
  attachmentsMarked := fun _ => now
  contentsMarked := fun _ => now
  legacyQuery := fun _ => now
  start_le_contentQuery := fun _ => le_rfl
  start_le_legacyQuery := fun _ => le_rfl
  legacyQuery_mono := fun _ => le_rfl

/-- The 200th row is deleted with its batch, and the 201st is not found behind it. -/
theorem last_row_left :
    ¬ ∀ (join : JoinPath) (clock : CleanupClock) (triggeredAt : String) (tables : HistoryTables),
      CleansAll join clock triggeredAt tables := by
  intro h
  have hrows : oneMoreTables.legacy.rows =
      (List.range 199).map expiredRow ++ expiredRow 199 :: [expiredRow 200] := by
    rfl
  have hdue : ∀ n, (expiredRow n).isDue 1 = true := fun n => rfl
  have honly : ∀ n, (expiredRow n).legacyOnly [] = true :=
    fun n => decide_eq_true List.not_mem_nil
  have hmid : (((List.range 199).map expiredRow).filter (LegacyAiRequestRow.isDue 1)).length =
      199 := by
    have hall : ∀ row ∈ (List.range 199).map expiredRow, row.isDue 1 = true := by grind
    rw [List.filter_eq_self.mpr hall, List.length_map, List.length_range]
  exact not_cleansAll_of_full hrows hmid (hdue 199) (honly 199) List.mem_cons_self
    ⟨hdue 200, honly 200⟩ (h (fun path => path) (.still 1) "" oneMoreTables)

end QuizMind.History
