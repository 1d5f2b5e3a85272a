import QuizMind.History.PersistContent

/-! # Attachments and their own retention

A cleanup marks the attachments of the events whose content has expired; it never looks at the
expiry of an attachment itself. So attachments live as long as their own expiry says exactly
when, at the time of the run, they have expired just where the content of their event has
(`ownRetention_iff`).
-/

namespace QuizMind.History

open RemoteConfig (JsonValue js)
open List (inj_on_of_nodup_map length_map map_map mem_map_of_mem nodup_nil range')

/-! ## One run at one time -/

section Run

variable {join : JoinPath} {now : ℤ}

/-- The keys of the rows: ids, and one content an event. -/
structure Keyed (tables : HistoryTables) : Prop where
  contentIds : (tables.contents.map AiRequestContent.id).Nodup
  eventIds : (tables.contents.map AiRequestContent.aiRequestEventId).Nodup
  attachmentIds : (tables.attachments.map AiRequestAttachment.id).Nodup

/-- The content is marked when it is one of these events. -/
def markContentOf (now : ℤ) (events : List String) (content : AiRequestContent) :
    AiRequestContent :=
  if content.aiRequestEventId ∈ events ∧ content.deletedAt = none then
    { content with deletedAt := some now }
  else content

/-- The attachment is marked when it is one of these events. -/
def markAttachmentOf (now : ℤ) (events : List String) (attachment : AiRequestAttachment) :
    AiRequestAttachment :=
  if attachment.aiRequestEventId ∈ events ∧ attachment.deletedAt = none then
    { attachment with deletedAt := some now }
  else attachment

section Mark

variable {events : List String} {content : AiRequestContent} {attachment : AiRequestAttachment}

theorem markContentOf_of_mem (hev : content.aiRequestEventId ∈ events)
    (hdel : content.deletedAt = none) :
    markContentOf now events content = { content with deletedAt := some now } :=
  if_pos ⟨hev, hdel⟩

theorem markContentOf_of_not_mem (hev : content.aiRequestEventId ∉ events) :
    markContentOf now events content = content :=
  if_neg fun hmarked => hev hmarked.1

theorem markAttachmentOf_of_mem (hev : attachment.aiRequestEventId ∈ events)
    (hdel : attachment.deletedAt = none) :
    markAttachmentOf now events attachment = { attachment with deletedAt := some now } :=
  if_pos ⟨hev, hdel⟩

theorem markAttachmentOf_of_not_mem (hev : attachment.aiRequestEventId ∉ events) :
    markAttachmentOf now events attachment = attachment :=
  if_neg fun hmarked => hev hmarked.1

end Mark

/-- The run has dealt with these events, whose contents were due, and with nothing else. -/
structure DealtWith (now : ℤ) (tables : HistoryTables) (events : List String)
    (run : CleanupRun) : Prop where
  due : ∀ event ∈ events, ∃ content ∈ tables.contents,
    content.aiRequestEventId = event ∧ content.isDue now = true
  contents : run.tables.contents = tables.contents.map (markContentOf now events)
  attachments : run.tables.attachments = tables.attachments.map (markAttachmentOf now events)
  unlinked : ∀ id, id ∈ run.unlinkedAttachments ↔
    ∃ attachment ∈ tables.attachments, attachment.id = id ∧
      attachment.aiRequestEventId ∈ events ∧ attachment.deletedAt = none

variable {content : AiRequestContent}

/-- A content that is not deleted after the marking was not marked. -/
theorem mem_markContentOf {events : List String} {contents : List AiRequestContent}
    (h : content ∈ contents.map (markContentOf now events))
    (hdel : content.deletedAt = none) :
    content ∈ contents ∧ content.aiRequestEventId ∉ events := by
  obtain ⟨c, hc, rfl⟩ := List.mem_map.mp h
  by_cases hnone : c.deletedAt = none
  · by_cases hev : c.aiRequestEventId ∈ events
    · grind [markContentOf_of_mem]
    · grind [markContentOf_of_not_mem]
  · grind [markContentOf]

variable {attachment : AiRequestAttachment}

/-- An attachment that is not deleted after the marking was not marked. -/
theorem mem_markAttachmentOf {events : List String} {attachments : List AiRequestAttachment}
    (h : attachment ∈ attachments.map (markAttachmentOf now events))
    (hdel : attachment.deletedAt = none) :
    attachment ∈ attachments ∧ attachment.aiRequestEventId ∉ events := by
  obtain ⟨a, ha, rfl⟩ := List.mem_map.mp h
  by_cases hnone : a.deletedAt = none
  · by_cases hev : a.aiRequestEventId ∈ events
    · grind [markAttachmentOf_of_mem]
    · grind [markAttachmentOf_of_not_mem]
  · grind [markAttachmentOf]

/-- The rows of a batch are told by their ids. -/
theorem mem_batch_of_id {tables : HistoryTables} (hkeyed : Keyed tables)
    {batch : List AiRequestContent} (hbatch : ∀ c ∈ batch, c ∈ tables.contents)
    (hcont : content ∈ tables.contents) :
    content.id ∈ batch.map AiRequestContent.id ↔
      content.aiRequestEventId ∈ batch.map AiRequestContent.aiRequestEventId := by
  constructor
  · intro hid
    obtain ⟨c, hc, hsame⟩ := List.mem_map.mp hid
    rw [inj_on_of_nodup_map hkeyed.contentIds (hbatch c hc) hcont hsame] at hc
    exact mem_map_of_mem hc
  intro hev
  obtain ⟨c, hc, hsame⟩ := List.mem_map.mp hev
  rw [inj_on_of_nodup_map hkeyed.eventIds (hbatch c hc) hcont hsame] at hc
  exact mem_map_of_mem hc

variable {tables : HistoryTables} {events : List String} {run : CleanupRun}

theorem DealtWith.mem_attachmentsOf (hdealt : DealtWith now tables events run)
    (batchEvents : List String) :
    attachment ∈ attachmentsOf batchEvents run.tables.attachments ↔
      attachment ∈ tables.attachments ∧ attachment.deletedAt = none ∧
        attachment.aiRequestEventId ∉ events ∧ attachment.aiRequestEventId ∈ batchEvents := by
  unfold attachmentsOf
  rw [List.mem_filter, hdealt.attachments, Bool.and_eq_true, decide_eq_true_eq,
    Option.isNone_iff_eq_none]
  constructor
  · grind [mem_markAttachmentOf]
  · rintro ⟨hmem, hdel, hnot, hev⟩
    exact ⟨List.mem_map.mpr ⟨attachment, hmem, markAttachmentOf_of_not_mem hnot⟩, hev, hdel⟩

/-- The attachments of a batch are told by their ids. -/
theorem DealtWith.attachment_id_iff (hkeyed : Keyed tables)
    (hdealt : DealtWith now tables events run) (batchEvents : List String)
    (attachment : AiRequestAttachment) (hmem : attachment ∈ tables.attachments) :
    attachment.id ∈ (attachmentsOf batchEvents run.tables.attachments).map AiRequestAttachment.id ↔
      attachment.deletedAt = none ∧ attachment.aiRequestEventId ∉ events ∧
        attachment.aiRequestEventId ∈ batchEvents := by
  constructor
  · intro hid
    obtain ⟨a, ha, hsame⟩ := List.mem_map.mp hid
    have hin := (hdealt.mem_attachmentsOf batchEvents).mp ha
    rw [inj_on_of_nodup_map hkeyed.attachmentIds hin.1 hmem hsame] at hin
    exact hin.2
  · intro h
    exact mem_map_of_mem ((hdealt.mem_attachmentsOf batchEvents).mpr ⟨hmem, h⟩)

/-- One round deals with the events of its batch. -/
theorem DealtWith.deleteContents (hkeyed : Keyed tables)
    (hdealt : DealtWith now tables events run) (n : ℕ) :
    DealtWith now tables
      (events ++ (expiredContents now run.tables.contents).map AiRequestContent.aiRequestEventId)
      (deleteContents join (.still now) n (expiredContents now run.tables.contents) run) := by
  have hbatch : ∀ c ∈ expiredContents now run.tables.contents,
      c ∈ tables.contents ∧ c.aiRequestEventId ∉ events ∧ c.isDue now = true := by
    intro c hc
    obtain ⟨hmem, hdue⟩ := mem_expiredContents hc
    have hdel : c.deletedAt = none := by simp_all [AiRequestContent.isDue]
    rw [hdealt.contents] at hmem
    obtain ⟨hold, hnot⟩ := mem_markContentOf hmem hdel
    exact ⟨hold, hnot, hdue⟩
  generalize expiredContents now run.tables.contents = batch at hbatch ⊢
  refine ⟨?_, ?_, ?_, ?_⟩
  · intro event hev
    rcases List.mem_append.mp hev with hev | hev
    · exact hdealt.due event hev
    · grind
  · have hconts : (History.deleteContents join (.still now) n batch run).tables.contents =
        markContents now (batch.map AiRequestContent.id) run.tables.contents := rfl
    rw [hconts, hdealt.contents, markContents, map_map]
    refine List.map_congr_left fun c hc => ?_
    have hid := mem_batch_of_id hkeyed (fun c hc => (hbatch c hc).1) hc
    rw [Function.comp_apply]
    by_cases hdel : c.deletedAt = none
    · by_cases hev : c.aiRequestEventId ∈ events
      · -- an earlier round has marked it
        rw [markContentOf_of_mem hev hdel,
          markContentOf_of_mem (List.mem_append_left _ hev) hdel]
        exact if_neg fun hmarked => by cases hmarked.2
      · grind [markContentOf]
    · grind [markContentOf]
  · have hatts : (History.deleteContents join (.still now) n batch run).tables.attachments =
        markAttachments now ((attachmentsOf (batch.map AiRequestContent.aiRequestEventId)
          run.tables.attachments).map AiRequestAttachment.id) run.tables.attachments := rfl
    have hid := hdealt.attachment_id_iff hkeyed (batch.map AiRequestContent.aiRequestEventId)
    rw [hatts]
    generalize (attachmentsOf (batch.map AiRequestContent.aiRequestEventId)
      run.tables.attachments).map AiRequestAttachment.id = ids at hid
    rw [hdealt.attachments, markAttachments, map_map]
    refine List.map_congr_left fun a ha => ?_
    rw [Function.comp_apply]
    by_cases hdel : a.deletedAt = none
    · by_cases hev : a.aiRequestEventId ∈ events
      · -- an earlier round has marked it
        rw [markAttachmentOf_of_mem hev hdel,
          markAttachmentOf_of_mem (List.mem_append_left _ hev) hdel]
        exact if_neg fun hmarked => by cases hmarked.2
      · grind [markAttachmentOf]
    · grind [markAttachmentOf]
  · intro id
    have hunlinked : (History.deleteContents join (.still now) n batch run).unlinkedAttachments =
        run.unlinkedAttachments ++ (attachmentsOf (batch.map AiRequestContent.aiRequestEventId)
          run.tables.attachments).map AiRequestAttachment.id := rfl
    rw [hunlinked, List.mem_append, hdealt.unlinked id, List.mem_map]
    constructor
    · rintro (⟨a, ha, hid, hev, hdel⟩ | ⟨a, ha, hid⟩)
      · exact ⟨a, ha, hid, List.mem_append_left _ hev, hdel⟩
      · obtain ⟨hmem, hdel, -, hev⟩ := (hdealt.mem_attachmentsOf _).mp ha
        exact ⟨a, hmem, hid, List.mem_append_right _ hev, hdel⟩
    rintro ⟨a, ha, hid, hev, hdel⟩
    by_cases hold : a.aiRequestEventId ∈ events
    · left
      exact ⟨a, ha, hid, hold, hdel⟩
    right
    have hnew := (List.mem_append.mp hev).resolve_left hold
    exact ⟨a, (hdealt.mem_attachmentsOf _).mpr ⟨ha, hdel, hold, hnew⟩, hid⟩

/-- The events whose content is due. -/
def dueEvents (now : ℤ) (tables : HistoryTables) : List String :=
  (tables.contents.filter (AiRequestContent.isDue now)).map AiRequestContent.aiRequestEventId

theorem mem_dueEvents {event : String} : event ∈ dueEvents now tables ↔ ∃ content ∈ tables.contents,
      content.aiRequestEventId = event ∧ content.isDue now = true := by
  unfold dueEvents
  rw [List.mem_map]
  constructor
  · rintro ⟨c, hc, hev⟩
    obtain ⟨hmem, hdue⟩ := List.mem_filter.mp hc
    exact ⟨c, hmem, hev, hdue⟩
  · rintro ⟨c, hmem, hev, hdue⟩
    exact ⟨c, List.mem_filter.mpr ⟨hmem, hdue⟩, hev⟩

/-- A run at one time deals with the events whose content is due, and with no other. -/
theorem cleanupLoops_dealt (join : JoinPath) (now : ℤ) (hkeyed : Keyed tables) :
    ∃ after, cleanupLoops join (.still now) (cleanupFuel tables) tables = some after ∧
      ∃ events, (∀ event, event ∈ events ↔ event ∈ dueEvents now tables) ∧
        DealtWith now tables events after := by
  obtain ⟨after, hloops, hcomplete, -⟩ := cleanupLoops_spec join (.still now) tables
  refine ⟨after, hloops, ?_⟩
  obtain ⟨run, hrun, hafter⟩ := Option.bind_eq_some_iff.mp hloops
  obtain ⟨hconts, hatts, hunlinked⟩ := legacyLoop_frame hafter
  have hstart : DealtWith now tables [] ⟨tables, 0, []⟩ := by
    have hkept : ∀ c, markContentOf now [] c = c :=
      fun c => markContentOf_of_not_mem List.not_mem_nil
    have hkept' : ∀ a, markAttachmentOf now [] a = a :=
      fun a => markAttachmentOf_of_not_mem List.not_mem_nil
    refine ⟨nofun, ?_, ?_, ?_⟩
    · exact (List.map_id'' hkept _).symm
    · exact (List.map_id'' hkept' _).symm
    · simp
  obtain ⟨events, hdealt⟩ : ∃ events, DealtWith now tables events run :=
    contentLoop_rule (I := fun r => ∃ events, DealtWith now tables events r)
      (fun n r ⟨events, hr⟩ => ⟨_, hr.deleteContents hkeyed n⟩) ⟨[], hstart⟩ hrun
  refine ⟨events, ?_, hdealt.due, ?_, ?_, ?_⟩
  · intro event
    rw [mem_dueEvents]
    constructor
    · exact hdealt.due event
    rintro ⟨c, hc, rfl, hdue⟩
    rw [AiRequestContent.isDue, Bool.and_eq_true, decide_eq_true_eq,
      Option.isNone_iff_eq_none] at hdue
    by_contra hnot
    have hleft : c ∈ after.tables.contents := by
      rw [hconts, hdealt.contents]
      exact List.mem_map.mpr ⟨c, hc, markContentOf_of_not_mem hnot⟩
    exact hcomplete c hleft hdue.1 hdue.2
  · rw [hconts]
    exact hdealt.contents
  · rw [hatts]
    exact hdealt.attachments
  · rw [hunlinked]
    exact hdealt.unlinked

/-- A run at `now` marks attachments, and unlinks their blobs, only when their expiry has passed,
and leaves none unmarked whose expiry has passed. -/
structure OwnRetention (now : ℤ) (tables : HistoryTables) (after : CleanupRun) : Prop where
  marked : ∀ attachment ∈ tables.attachments, attachment.deletedAt = none →
    ∀ attachment' ∈ after.tables.attachments, attachment'.id = attachment.id →
      attachment'.deletedAt ≠ none → attachment.expiresAt < now
  unlinked : ∀ attachment ∈ tables.attachments, attachment.id ∈ after.unlinkedAttachments →
    attachment.expiresAt < now
  complete : ∀ attachment ∈ after.tables.attachments, attachment.expiresAt < now →
    attachment.deletedAt ≠ none

/-- An attachment that is not deleted belongs to a content that is not deleted. -/
def Covered (tables : HistoryTables) : Prop :=
  ∀ attachment ∈ tables.attachments, attachment.deletedAt = none →
    ∃ content ∈ tables.contents, content.aiRequestEventId = attachment.aiRequestEventId ∧
      content.deletedAt = none

/-- At this time the attachments have expired just where their contents have. -/
def ExpireTogether (now : ℤ) (tables : HistoryTables) : Prop :=
  ∀ attachment ∈ tables.attachments, attachment.deletedAt = none →
    ∀ content ∈ tables.contents, content.aiRequestEventId = attachment.aiRequestEventId →
      (content.expiresAt < now ↔ attachment.expiresAt < now)

/-- The event of an attachment is due when its content has expired. -/
theorem due_iff (now : ℤ) (hkeyed : Keyed tables) (hcovered : Covered tables)
    (hmem : attachment ∈ tables.attachments)
    (hdel : attachment.deletedAt = none) :
    ∃ content ∈ tables.contents, content.aiRequestEventId = attachment.aiRequestEventId ∧
      (attachment.aiRequestEventId ∈ dueEvents now tables ↔ content.expiresAt < now) ∧
      ∀ c ∈ tables.contents, c.aiRequestEventId = attachment.aiRequestEventId → c = content := by
  obtain ⟨content, hcont, hev, hlive⟩ := hcovered attachment hmem hdel
  have huniq : ∀ c ∈ tables.contents, c.aiRequestEventId = attachment.aiRequestEventId →
      c = content := fun c hc hsame =>
    inj_on_of_nodup_map hkeyed.eventIds hc hcont (hsame.trans hev.symm)
  refine ⟨content, hcont, hev, ?_, huniq⟩
  rw [mem_dueEvents]
  constructor
  all_goals grind [AiRequestContent.isDue]

/-- The attachments that the run marks are those of the due events. -/
theorem ownRetention_of_dealt (hkeyed : Keyed tables) (hcovered : Covered tables)
    {after : CleanupRun} (hevs : ∀ event, event ∈ events ↔ event ∈ dueEvents now tables)
    (hdealt : DealtWith now tables events after) :
    OwnRetention now tables after ↔ ExpireTogether now tables := by
  constructor
  · intro hown attachment hmem hdel c hc hsame
    obtain ⟨content, hcont, hev, hdue, huniq⟩ :=
      due_iff now hkeyed hcovered hmem hdel
    rw [huniq c hc hsame, ← hdue, ← hevs]
    constructor
    · intro hin
      refine hown.unlinked attachment hmem ?_
      exact (hdealt.unlinked _).mpr ⟨attachment, hmem, rfl, hin, hdel⟩
    intro hexp
    by_contra hnot
    have hleft : attachment ∈ after.tables.attachments := by
      rw [hdealt.attachments]
      exact List.mem_map.mpr ⟨attachment, hmem, markAttachmentOf_of_not_mem hnot⟩
    exact hown.complete attachment hleft hexp hdel
  · intro htogether
    have hexp : ∀ attachment ∈ tables.attachments, attachment.deletedAt = none →
        (attachment.aiRequestEventId ∈ events ↔ attachment.expiresAt < now) := by
      intro attachment hmem hdel
      obtain ⟨content, hcont, hev, hdue, -⟩ :=
        due_iff now hkeyed hcovered hmem hdel
      rw [hevs, hdue]
      exact htogether attachment hmem hdel content hcont hev
    refine ⟨?_, ?_, ?_⟩
    · intro attachment hmem hdel attachment' hmem' hid hmarked
      rw [hdealt.attachments] at hmem'
      obtain ⟨a, ha, rfl⟩ := List.mem_map.mp hmem'
      have hsame : a = attachment := by
        refine inj_on_of_nodup_map hkeyed.attachmentIds ha hmem ?_
        rw [← hid]
        unfold markAttachmentOf
        split
        all_goals rfl
      subst hsame
      rw [← hexp a ha hdel]
      by_contra hnot
      rw [markAttachmentOf_of_not_mem hnot] at hmarked
      exact hmarked hdel
    · intro attachment hmem hid
      obtain ⟨a, ha, hsame, hin, hdel⟩ := (hdealt.unlinked _).mp hid
      rw [← inj_on_of_nodup_map hkeyed.attachmentIds ha hmem hsame]
      exact (hexp a ha hdel).mp hin
    · intro attachment hmem hpassed hdel
      rw [hdealt.attachments] at hmem
      obtain ⟨hold, hnot⟩ := mem_markAttachmentOf hmem hdel
      exact hnot ((hexp attachment hold hdel).mpr hpassed)

end Run

/-! ## Histories -/

inductive HistoryOp where
  | persist (contentNow attachmentNow : ℤ) (input : PersistContentInput)
  | cleanup (now : ℤ)

section Histories

variable (functions : HistoryFunctions) (join : JoinPath) (settings : HistorySettings)

/-- A call that throws has written no row. -/
def historyStep (s : HistoryState) : HistoryOp → HistoryState
  | .persist contentNow attachmentNow input =>
    match persistContent functions join settings contentNow attachmentNow input s with
    | .ok s' => s'
    | .error _ => s
  | .cleanup now =>
    match cleanupLoops join (.still now) (cleanupFuel s.tables) s.tables with
    | some after => ⟨after.tables, s.uuids⟩
    | none => s

def emptyHistory (legacy : LegacyAiRequests) : HistoryState := ⟨⟨[], [], [], legacy, []⟩, 0⟩

/-- The history that the operations have written. -/
def historyAfter (legacy : LegacyAiRequests) (ops : List HistoryOp) : HistoryState :=
  ops.foldl (historyStep functions join settings) (emptyHistory legacy)

/-- Ids are drawn once, and an attachment that is not deleted has a content that is not. -/
structure SoundHistory (s : HistoryState) : Prop where
  keyed : Keyed s.tables
  covered : Covered s.tables
  contentIds : ∀ content ∈ s.tables.contents, ∃ n < s.tables.contents.length,
    content.id = functions.cuid n
  attachmentIds : ∀ attachment ∈ s.tables.attachments, ∃ n < s.uuids,
    attachment.id = functions.randomUUID n

end Histories

/-! ### A write -/

section Write

variable (input : UpsertContentInput) {contents : List AiRequestContent} {id : String}

variable {content : AiRequestContent}

/-- The content of the event is not deleted after the write, and the others are as before. -/
theorem UpsertContentInput.mem_upsertContent (h : content ∈ input.upsertContent id contents) :
    (content.aiRequestEventId = input.eventId ∧ content.deletedAt = none) ∨
      (content ∈ contents ∧ content.aiRequestEventId ≠ input.eventId) := by
  unfold upsertContent at h
  split at h
  · obtain ⟨c, hc, rfl⟩ := List.mem_map.mp h
    by_cases hev : c.aiRequestEventId = input.eventId
    · left
      rw [if_pos hev]
      exact ⟨hev, rfl⟩
    · grind
  next hnew =>
    rcases List.mem_append.mp h with hold | hlast
    · grind
    left
    rw [List.mem_singleton.mp hlast]
    exact ⟨rfl, rfl⟩

theorem UpsertContentInput.exists_upsertContent (id : String) (contents : List AiRequestContent) :
    ∃ content ∈ input.upsertContent id contents, content.aiRequestEventId = input.eventId := by
  unfold upsertContent
  split
  · next hev =>
      obtain ⟨c, hc, hsame⟩ := List.mem_map.mp hev
      refine ⟨input.updateContent c, List.mem_map.mpr ⟨c, hc, if_pos hsame⟩, hsame⟩
  · exact ⟨input.createContent id, List.mem_append_right _ List.mem_cons_self, rfl⟩

theorem UpsertContentInput.mem_upsertContent_of_ne
    (h : content ∈ contents) (hne : content.aiRequestEventId ≠ input.eventId) :
    content ∈ input.upsertContent id contents := by
  unfold upsertContent
  split
  · exact List.mem_map.mpr ⟨content, h, if_neg hne⟩
  · exact List.mem_append_left _ h

/-- An update changes no key; a new row adds its own. -/
theorem UpsertContentInput.keys_upsertContent (id : String) (contents : List AiRequestContent) :
    ((input.upsertContent id contents).map AiRequestContent.id = contents.map AiRequestContent.id ∧
      (input.upsertContent id contents).map AiRequestContent.aiRequestEventId =
        contents.map AiRequestContent.aiRequestEventId) ∨
      (input.eventId ∉ contents.map AiRequestContent.aiRequestEventId ∧
        (input.upsertContent id contents).map AiRequestContent.id =
          contents.map AiRequestContent.id ++ [id] ∧
        (input.upsertContent id contents).map AiRequestContent.aiRequestEventId =
          contents.map AiRequestContent.aiRequestEventId ++ [input.eventId]) := by
  unfold upsertContent
  by_cases hev : input.eventId ∈ contents.map AiRequestContent.aiRequestEventId
  · left
    rw [if_pos hev, map_map, map_map]
    constructor
    · refine List.map_congr_left fun c _ => ?_
      rw [Function.comp_apply]
      split
      · rfl
      · rfl
    refine List.map_congr_left fun c _ => ?_
    rw [Function.comp_apply]
    split
    · rfl
    · rfl
  · right
    rw [if_neg hev, List.map_append, List.map_append]
    exact ⟨hev, rfl, rfl⟩

variable {functions : HistoryFunctions} {join : JoinPath} {settings : HistorySettings}
  {s s' : HistoryState}

/-- A call that returns has written the rows of its event, with attachments whose ids it has
drawn. -/
theorem persistContent_ok {contentNow attachmentNow : ℤ} {call : PersistContentInput}
    (h : persistContent functions join settings contentNow attachmentNow call s = .ok s') :
    ∃ (upsert : UpsertContentInput) (blobs : List String),
      s'.tables = persistRows functions join upsert blobs s.tables ∧
      s'.uuids = s.uuids + upsert.promptAttachments.length ∧
      upsert.promptAttachments.map PersistablePromptAttachment.id =
        (range' s.uuids upsert.promptAttachments.length).map functions.randomUUID := by
  unfold persistContent at h
  cases hextract : extractPromptAttachments functions.toImageFunctions
      ⟨call.eventId, functions.addDays attachmentNow settings.aiHistoryAttachmentDays,
        settings.limits⟩ call.promptContent ⟨[], [], s.uuids⟩ with
  | error e =>
    simp only [hextract] at h
    cases h
  | ok outcome =>
    obtain ⟨new, happends⟩ := extractPromptAttachments_appends hextract
    have houtput : outcome.state.output = new := happends.output.trans (List.nil_append new)
    simp only [hextract, bind, Except.bind] at h
    split at h
    · cases h
    next blobs hblobs =>
      rw [← Except.ok.inj h]
      refine ⟨_, blobs, rfl, ?_, ?_⟩
      · rw [houtput]
        exact happends.uuids
      · rw [houtput]
        exact happends.ids

theorem mem_replaceAttachments {attachments : List AiRequestAttachment}
    {attachment : AiRequestAttachment} (h : attachment ∈ input.replaceAttachments attachments) :
    attachment ∈ attachments ∨ (attachment.aiRequestEventId = input.eventId ∧
      attachment.id ∈ input.promptAttachments.map PersistablePromptAttachment.id) := by
  rcases List.mem_append.mp h with hold | hnew
  · left
    exact (List.mem_filter.mp hold).1
  right
  obtain ⟨a, ha, rfl⟩ := List.mem_map.mp hnew
  exact ⟨rfl, mem_map_of_mem ha⟩

section

variable (hs : SoundHistory functions s)
include hs

/-- The written rows keep the history sound. -/
theorem SoundHistory.persistRows {blobs : List String}
    (htables : s'.tables = persistRows functions join input blobs s.tables)
    (huuids : s'.uuids = s.uuids + input.promptAttachments.length)
    (hids : input.promptAttachments.map PersistablePromptAttachment.id =
      (range' s.uuids input.promptAttachments.length).map functions.randomUUID) :
    SoundHistory functions s' := by
  have hconts : s'.tables.contents =
      input.upsertContent (functions.cuid s.tables.contents.length) s.tables.contents := by
    rw [htables]
    rfl
  have hatts : s'.tables.attachments = input.replaceAttachments s.tables.attachments := by
    rw [htables]
    rfl
  have hfreshContent : functions.cuid s.tables.contents.length ∉
      s.tables.contents.map AiRequestContent.id := by
    intro hmem
    obtain ⟨c, hc, hid⟩ := List.mem_map.mp hmem
    obtain ⟨n, hn, hcuid⟩ := hs.contentIds c hc
    have hsame := functions.cuid_injective (hcuid.symm.trans hid)
    omega
  have hfresh : ∀ attachment ∈ s.tables.attachments,
      attachment.id ∉ input.promptAttachments.map PersistablePromptAttachment.id := by
    intro attachment hmem hnew
    rw [hids] at hnew
    obtain ⟨m, hm, hid⟩ := List.mem_map.mp hnew
    obtain ⟨n, hn, huuid⟩ := hs.attachmentIds attachment hmem
    have hsame := functions.randomUUID_injective (huuid.symm.trans hid.symm)
    have hlow := (List.mem_range'_1.mp hm).1
    omega
  refine ⟨⟨?_, ?_, ?_⟩, ?_, ?_, ?_⟩
  · rw [hconts]
    rcases input.keys_upsertContent (functions.cuid s.tables.contents.length)
      s.tables.contents with ⟨hsame, -⟩ | ⟨-, hsame, -⟩
    · rw [hsame]
      exact hs.keyed.contentIds
    rw [hsame]
    exact hs.keyed.contentIds.append (List.nodup_singleton _)
      (List.disjoint_singleton.mpr hfreshContent)
  · rw [hconts]
    rcases input.keys_upsertContent (functions.cuid s.tables.contents.length)
      s.tables.contents with ⟨-, hsame⟩ | ⟨hnew, -, hsame⟩
    · rw [hsame]
      exact hs.keyed.eventIds
    · rw [hsame]
      exact hs.keyed.eventIds.append (List.nodup_singleton _) (List.disjoint_singleton.mpr hnew)
  · rw [hatts, UpsertContentInput.replaceAttachments, List.map_append]
    refine (hs.keyed.attachmentIds.sublist (List.filter_sublist.map _)).append ?_ ?_
    · have hrows : (input.promptAttachments.map input.attachmentRow).map AiRequestAttachment.id =
          input.promptAttachments.map PersistablePromptAttachment.id := by
        rw [map_map]
        rfl
      have hnumbers : (range' s.uuids input.promptAttachments.length).Nodup :=
        List.nodup_range'
      rw [hrows, hids]
      exact hnumbers.map functions.randomUUID_injective
    intro id hold hnew
    obtain ⟨a, ha, rfl⟩ := List.mem_map.mp hold
    rw [map_map] at hnew
    exact hfresh a (List.mem_filter.mp ha).1 hnew
  · -- the content of the event is there again, whatever it was before
    intro attachment hmem hdel
    rw [hconts]
    rw [hatts] at hmem
    obtain ⟨content, hcont, hev⟩ :=
      input.exists_upsertContent (functions.cuid s.tables.contents.length) s.tables.contents
    have hlive : content.deletedAt = none := by
      rcases input.mem_upsertContent hcont with ⟨-, hlive⟩ | ⟨-, hne⟩
      · exact hlive
      · exact absurd hev hne
    by_cases hsame : attachment.aiRequestEventId = input.eventId
    · exact ⟨content, hcont, hev.trans hsame.symm, hlive⟩
    rcases mem_replaceAttachments input hmem with hold | ⟨hnew, -⟩
    · obtain ⟨c, hc, hcevent, hcdeleted⟩ := hs.covered attachment hold hdel
      exact ⟨c, input.mem_upsertContent_of_ne hc fun heq => hsame (hcevent.symm.trans heq),
        hcevent, hcdeleted⟩
    · exact absurd hnew hsame
  · intro content hmem
    rw [hconts] at hmem ⊢
    have hid := mem_map_of_mem (f := AiRequestContent.id) hmem
    rcases input.keys_upsertContent (functions.cuid s.tables.contents.length)
      s.tables.contents with ⟨hsame, -⟩ | ⟨-, hsame, -⟩
    · have hlen := congrArg List.length hsame
      rw [length_map, length_map] at hlen
      rw [hsame] at hid
      obtain ⟨c, hc, hcid⟩ := List.mem_map.mp hid
      obtain ⟨n, hn, hcuid⟩ := hs.contentIds c hc
      exact ⟨n, by omega, hcid.symm.trans hcuid⟩
    have hlen := congrArg List.length hsame
    rw [length_map, List.length_append, length_map, List.length_singleton] at hlen
    rw [hsame] at hid
    rcases List.mem_append.mp hid with hid | hid
    · obtain ⟨c, hc, hcid⟩ := List.mem_map.mp hid
      obtain ⟨n, hn, hcuid⟩ := hs.contentIds c hc
      exact ⟨n, by omega, hcid.symm.trans hcuid⟩
    · exact ⟨_, by omega, List.mem_singleton.mp hid⟩
  · intro attachment hmem
    rw [hatts] at hmem
    rcases mem_replaceAttachments input hmem with hold | ⟨-, hnew⟩
    · obtain ⟨n, hn, huuid⟩ := hs.attachmentIds attachment hold
      exact ⟨n, by omega, huuid⟩
    · grind

/-- A run of the cleanup keeps the history sound. -/
theorem SoundHistory.cleanup {now : ℤ} {events : List String}
    {after : CleanupRun} (hdealt : DealtWith now s.tables events after) :
    SoundHistory functions ⟨after.tables, s.uuids⟩ := by
  have hcontentKeys : ∀ c : AiRequestContent, (markContentOf now events c).id = c.id ∧
      (markContentOf now events c).aiRequestEventId = c.aiRequestEventId := by grind [markContentOf]
  have hattachmentId : ∀ a : AiRequestAttachment, (markAttachmentOf now events a).id = a.id := by
    grind [markAttachmentOf]
  refine ⟨⟨?_, ?_, ?_⟩, ?_, ?_, ?_⟩
  · have hids : after.tables.contents.map AiRequestContent.id =
        s.tables.contents.map AiRequestContent.id := by simp_all [hdealt.contents]
    rw [hids]
    exact hs.keyed.contentIds
  · have hids : after.tables.contents.map AiRequestContent.aiRequestEventId =
        s.tables.contents.map AiRequestContent.aiRequestEventId := by
      simp_all [hdealt.contents]
    rw [hids]
    exact hs.keyed.eventIds
  · have hids : after.tables.attachments.map AiRequestAttachment.id =
        s.tables.attachments.map AiRequestAttachment.id := by
      simp_all [hdealt.attachments]
    rw [hids]
    exact hs.keyed.attachmentIds
  · intro attachment hmem hdel
    rw [hdealt.attachments] at hmem
    obtain ⟨hold, hnot⟩ := mem_markAttachmentOf hmem hdel
    obtain ⟨c, hc, hev, hlive⟩ := hs.covered attachment hold hdel
    have hkept : markContentOf now events c = c := by grind [markContentOf_of_not_mem]
    refine ⟨c, ?_, hev, hlive⟩
    rw [hdealt.contents]
    exact List.mem_map.mpr ⟨c, hc, hkept⟩
  · intro content hmem
    rw [hdealt.contents] at hmem ⊢
    obtain ⟨c, hc, rfl⟩ := List.mem_map.mp hmem
    obtain ⟨n, hn, hcuid⟩ := hs.contentIds c hc
    rw [length_map, (hcontentKeys c).1]
    exact ⟨n, hn, hcuid⟩
  · intro attachment hmem
    rw [hdealt.attachments] at hmem
    obtain ⟨a, ha, rfl⟩ := List.mem_map.mp hmem
    rw [hattachmentId]
    exact hs.attachmentIds a ha

theorem SoundHistory.step (op : HistoryOp) :
    SoundHistory functions (historyStep functions join settings s op) := by
  cases op with
  | persist contentNow attachmentNow call =>
    unfold historyStep
    dsimp only
    split
    · next s' hok =>
        obtain ⟨upsert, blobs, htables, huuids, hids⟩ := persistContent_ok hok
        exact hs.persistRows upsert htables huuids hids
    · exact hs
  | cleanup now =>
    obtain ⟨after, hloops, events, -, hdealt⟩ := cleanupLoops_dealt join now hs.keyed
    unfold historyStep
    dsimp only
    rw [hloops]
    exact hs.cleanup hdealt

end

theorem soundHistory_after (legacy : LegacyAiRequests) (ops : List HistoryOp) :
    SoundHistory functions (historyAfter functions join settings legacy ops) := by
  induction ops using List.reverseRecOn with
  | nil =>
    have hempty : Keyed (emptyHistory legacy).tables :=
      ⟨nodup_nil, nodup_nil, nodup_nil⟩
    exact ⟨hempty, nofun, nofun, nofun⟩
  | append_singleton ops op ih =>
    unfold historyAfter at ih ⊢
    rw [List.foldl_append]
    exact ih.step op

end Write

/-! ## Attachments and their own expiry -/

/-- The run at this time treats attachments by their own expiry. -/
def RunOwnsRetention (join : JoinPath) (now : ℤ) (tables : HistoryTables) : Prop :=
  ∃ fuel after, cleanupLoops join (.still now) fuel tables = some after ∧
    OwnRetention now tables after

theorem runOwnsRetention_iff_of_sound {functions : HistoryFunctions} (join : JoinPath) (now : ℤ)
    {s : HistoryState} (hs : SoundHistory functions s) :
    RunOwnsRetention join now s.tables ↔ ExpireTogether now s.tables := by
  obtain ⟨after, hloops, events, hevs, hdealt⟩ := cleanupLoops_dealt join now hs.keyed
  rw [← ownRetention_of_dealt hs.keyed hs.covered hevs hdealt]
  constructor
  · rintro ⟨fuel, after', hloops', hown⟩
    rw [cleanupLoops_unique hloops hloops']
    exact hown
  · intro hown
    exact ⟨_, after, hloops, hown⟩

/-- In every history a run treats attachments by their own expiry exactly when, at its time,
they have expired just where the contents of their events have. -/
theorem ownRetention_iff (functions : HistoryFunctions) (join : JoinPath)
    (settings : HistorySettings) (legacy : LegacyAiRequests) (ops : List HistoryOp) (now : ℤ) :
    RunOwnsRetention join now (historyAfter functions join settings legacy ops).tables ↔
      ExpireTogether now (historyAfter functions join settings legacy ops).tables :=
  runOwnsRetention_iff_of_sound join now (soundHistory_after legacy ops)

/-- An attachment of a content that has expired does not expire with it. -/
theorem not_expireTogether {now : ℤ} {tables : HistoryTables} {event : String}
    {attachmentExpiresAt contentExpiresAt : ℤ}
    (hatts : tables.attachments.map (fun a =>
      (a.aiRequestEventId, a.expiresAt, a.deletedAt)) = [(event, attachmentExpiresAt, none)])
    (hconts : tables.contents.map (fun c => (c.aiRequestEventId, c.expiresAt)) =
      [(event, contentExpiresAt)])
    (hcont : contentExpiresAt < now) (hatt : ¬ attachmentExpiresAt < now) :
    ¬ ExpireTogether now tables := by
  intro htogether
  obtain ⟨attachment, hlist, hrow⟩ := List.map_eq_singleton_iff.mp hatts
  obtain ⟨content, hlist', hrow'⟩ := List.map_eq_singleton_iff.mp hconts
  obtain ⟨hev, hexpires, hdel⟩ :
      attachment.aiRequestEventId = event ∧ attachment.expiresAt = attachmentExpiresAt ∧
        attachment.deletedAt = none := by
    simpa using hrow
  obtain ⟨hev', hexpires'⟩ :
      content.aiRequestEventId = event ∧ content.expiresAt = contentExpiresAt := by
    simpa using hrow'
  have hmem : attachment ∈ tables.attachments := by
    rw [hlist]
    exact List.mem_cons_self
  have hmem' : content ∈ tables.contents := by
    rw [hlist']
    exact List.mem_cons_self
  have hiff := htogether attachment hmem hdel content hmem' (hev'.trans hev.symm)
  rw [hexpires, hexpires'] at hiff
  exact hatt (hiff.mp hcont)

/-! ## An image that is kept longer than its prompt -/

/-- Days of 24 hours. -/
def plainHistoryFunctions : HistoryFunctions where
  toImageFunctions := plainFunctions
  cuid := fun n => String.ofList (List.replicate n 'c')
  cuid_injective := by
    intro n m h
    have hlength := congrArg (fun id : String => id.toList.length) h
    simpa using hlength
  addDays := fun date days => date + days * 86400000

/-- Contents for one day, attachments for seven. -/
def longAttachments : HistorySettings := ⟨1, 7, ⟨8, 1000⟩⟩

def noLegacy : LegacyAiRequests := ⟨[], nodup_nil, nofun⟩

/-- A message with one small image. -/
def imagePrompt : JsonValue :=
  .array [.object [("role", .string (js "user")), ("content", .array [
    .object [("type", .string (js "image_url")),
      ("image_url", .object [("url", .string (js "data:image/png;base64,AAAA"))])]])]]

def imageCall : PersistContentInput := ⟨"request", none, imagePrompt, false, false, none⟩

def imageHistory : HistoryState :=
  historyAfter plainHistoryFunctions (fun path => path) longAttachments noLegacy
    [.persist 0 0 imageCall]

/-- Two days after the request its image is deleted, which was to be kept for seven. -/
theorem attachment_deleted_early :
    ¬ ∀ (functions : HistoryFunctions) (join : JoinPath) (settings : HistorySettings)
      (legacy : LegacyAiRequests) (ops : List HistoryOp) (now : ℤ),
      RunOwnsRetention join now (historyAfter functions join settings legacy ops).tables := by
  intro h
  have hown : RunOwnsRetention (fun path => path) 172800000 imageHistory.tables :=
    h plainHistoryFunctions _ longAttachments noLegacy [.persist 0 0 imageCall] 172800000
  have hsound : SoundHistory plainHistoryFunctions imageHistory := soundHistory_after _ _
  have htogether := (runOwnsRetention_iff_of_sound _ _ hsound).mp hown
  have hattachments : imageHistory.tables.attachments.map (fun a =>
      (a.aiRequestEventId, a.expiresAt, a.deletedAt)) = [("request", 604800000, none)] := by
    decide +kernel
  have hcontents : imageHistory.tables.contents.map (fun c =>
      (c.aiRequestEventId, c.expiresAt)) = [("request", 86400000)] := by
    decide +kernel
  exact not_expireTogether hattachments hcontents (by decide) (by decide) htogether

end QuizMind.History
