import QuizMind.History.Attempts

/-! # Blobs that no row has

Each blob that a call of `persistContent` has stored is gone or in a row of its event exactly when
the call gets through its transaction, or was only storing blobs that a row had before
(`noOrphans_iff`); what is in a row goes with the cleanup.
-/

namespace QuizMind.History

open RemoteConfig (JsString JsonValue)

/-! ## The statement -/

section Statement

variable (join : JoinPath)

/-- A row of the event has the file, and the content of the event is not deleted, so that a
cleanup comes to them. -/
def Referenced (tables : HistoryTables) (eventId path : String) : Prop :=
  ∃ content ∈ tables.contents, content.aiRequestEventId = eventId ∧ content.deletedAt = none ∧
    ((∃ key ∈ content.blobKeys, resolveSafeBlobPath join key = some path) ∨
      ∃ attachment ∈ tables.attachments, attachment.aiRequestEventId = eventId ∧
        attachment.deletedAt = none ∧
        resolveSafeBlobPath join attachment.blobKey = some path)

/-- What the call has written is gone or in a row of the event. -/
def NoOrphans (eventId : String) (result : AttemptResult) : Prop :=
  ∀ path ∈ result.written, path ∉ result.tables.blobs ∨ Referenced join result.tables eventId path

/-- A cleanup that begins after the content of the event has expired leaves no file there. -/
def GoesWithCleanup (tables : HistoryTables) (eventId path : String) : Prop :=
  ∀ (clock : CleanupClock) (fuel : ℕ) (triggeredAt : String) (result : HistoryCleanupResult)
    (after : HistoryTables), Keyed tables →
    (∀ content ∈ tables.contents, content.aiRequestEventId = eventId →
      content.expiresAt < clock.start) →
    processHistoryCleanupJob join clock fuel triggeredAt tables = some (result, after) →
    path ∉ after.blobs

end Statement

/-! ## After the transaction -/

section Committed

variable {functions : HistoryFunctions} {join : JoinPath} {settings : HistorySettings}
  {contentNow attachmentNow : ℤ} {input : PersistAttempt}

theorem resolveSafeBlobPath_empty : resolveSafeBlobPath join "" = none := by
  unfold resolveSafeBlobPath
  exact if_pos (.inl (by decide))

variable {key : String}

theorem mem_blobKeys {content : AiRequestContent} {path : String}
    (hkey : content.promptBlobKey = some key ∨ content.responseBlobKey = some key ∨
      content.fileBlobKey = some key)
    (hpath : resolveSafeBlobPath join key = some path) : key ∈ content.blobKeys := by
  have hne : key ≠ "" := by grind [resolveSafeBlobPath_empty]
  unfold AiRequestContent.blobKeys
  refine List.mem_filter.mpr ⟨?_, decide_eq_true hne⟩
  refine List.mem_filterMap.mpr ⟨some key, ?_, rfl⟩
  rcases hkey with hkey | hkey | hkey
  · rw [hkey]
    exact List.mem_cons_self
  · grind
  · simp [hkey]

/-- The content of the event after the transaction. -/
theorem exists_upserted (upsert : UpsertContentInput) (id : String)
    (contents : List AiRequestContent) :
    ∃ content ∈ upsert.upsertContent id contents, content.aiRequestEventId = upsert.eventId ∧
      content.deletedAt = none ∧ content.promptBlobKey = some upsert.promptBlobKey ∧
      (∀ key, upsert.responseBlobKey = some key → content.responseBlobKey = some key) ∧
      (∀ key, upsert.fileBlobKey = some key → content.fileBlobKey = some key) := by
  unfold UpsertContentInput.upsertContent
  by_cases hev : upsert.eventId ∈ contents.map AiRequestContent.aiRequestEventId
  · obtain ⟨content, hmem, hsame⟩ := List.mem_map.mp hev
    rw [if_pos hev]
    refine ⟨upsert.updateContent content, ?_, hsame, rfl, rfl, ?_, ?_⟩
    · grind
    · intro key hkey
      show upsert.responseBlobKey.or content.responseBlobKey = some key
      rw [hkey]
      rfl
    · intro key hkey
      show upsert.fileBlobKey.or content.fileBlobKey = some key
      rw [hkey]
      rfl
  rw [if_neg hev]
  refine ⟨upsert.createContent id, ?_, rfl, rfl, rfl, ?_, ?_⟩
  · exact List.mem_append_right _ List.mem_cons_self
  all_goals
    intro key hkey
    exact hkey

variable {uuids : ℕ} {outcome : ExtractOutcome}

section

variable
    (hextract : extractPromptAttachments functions.toImageFunctions
      (input.extractInput functions settings attachmentNow) input.promptContent ⟨[], [], uuids⟩ =
        .ok outcome)
include hextract

/-- The keys of the images, which are those of their attachments. -/
theorem outcomeKeys : outcome.state.output.map PersistablePromptAttachment.blobKey =
        imageKeys functions.toImageFunctions (input.extractInput functions settings attachmentNow)
          uuids (takenImages functions.toImageFunctions
            (input.extractInput functions settings attachmentNow)
            (promptUnits input.promptContent) 0) := by
  obtain ⟨new, happends⟩ := extractPromptAttachments_appends hextract
  have houtput : outcome.state.output = new := happends.output
  have hlen : outcome.state.output.length = 0 + _ := (extractPromptAttachments_ok hextract).2
  rw [houtput, Nat.zero_add] at hlen
  have hkeys : new.map PersistablePromptAttachment.blobKey =
      (new.map PersistablePromptAttachment.id).map (attachmentKey input.eventId) := by
    rw [List.map_map]
    exact List.map_congr_left fun attachment hmem => (happends.fields attachment hmem).2.2.2
  rw [houtput, hkeys, happends.ids, hlen, List.map_map]
  rfl

variable (contentNow) in
/-- The image with this key has a row after the transaction. -/
theorem exists_attachmentRow (hkey : key ∈ imageKeys functions.toImageFunctions
      (input.extractInput functions settings attachmentNow) uuids
      (takenImages functions.toImageFunctions (input.extractInput functions settings attachmentNow)
        (promptUnits input.promptContent) 0)) (attachments : List AiRequestAttachment) :
    ∃ attachment ∈ (input.upsert functions settings contentNow outcome).replaceAttachments
        attachments, attachment.aiRequestEventId = input.eventId ∧ attachment.deletedAt = none ∧
      attachment.blobKey = key := by
  obtain ⟨new, happends⟩ := extractPromptAttachments_appends hextract
  have houtput : outcome.state.output = new := happends.output
  rw [← outcomeKeys hextract] at hkey
  obtain ⟨attachment, hmem, hsame⟩ := List.mem_map.mp hkey
  refine ⟨(input.upsert functions settings contentNow outcome).attachmentRow attachment, ?_, rfl,
    ?_, hsame⟩
  · exact List.mem_append_right _ (List.mem_map_of_mem hmem)
  · rw [houtput] at hmem
    exact (happends.fields attachment hmem).2.1

/-- Whatever the call has stored is in a row after its transaction. -/
theorem referenced_of_upsert {path id : String}
    {contents : List AiRequestContent} {attachments : List AiRequestAttachment}
    {tables : HistoryTables} (hconts : tables.contents =
      (input.upsert functions settings contentNow outcome).upsertContent id contents)
    (hatts : tables.attachments =
      (input.upsert functions settings contentNow outcome).replaceAttachments attachments)
    (hkey : key ∈ input.plannedKeys functions settings attachmentNow uuids)
    (hpath : resolveSafeBlobPath join key = some path) :
    Referenced join tables input.eventId path := by
  obtain ⟨content, hcont, hev, hdel, hprompt, hresp, hfile⟩ := exists_upserted
    (input.upsert functions settings contentNow outcome) id contents
  refine ⟨content, ?_, hev, hdel, ?_⟩
  · rw [hconts]
    exact hcont
  rcases List.mem_append.mp hkey with himage | hother
  · right
    obtain ⟨attachment, hmem, hof, hkept, hsame⟩ :=
      exists_attachmentRow contentNow hextract himage attachments
    refine ⟨attachment, ?_, hof, hkept, ?_⟩
    · rw [hatts]
      exact hmem
    · rw [hsame]
      exact hpath
  left
  have hnone : input.hasNull = false := (extractPromptAttachments_ok hextract).1
  rw [if_neg (by rw [hnone]; exact Bool.false_ne_true)] at hother
  refine ⟨key, mem_blobKeys ?_ hpath, hpath⟩
  rcases List.mem_cons.mp hother with rfl | hother
  · left
    exact hprompt
  right
  rcases List.mem_append.mp hother with hother | hother
  · left
    exact hresp key (Option.mem_toList.mp hother)
  · right
    exact hfile key (Option.mem_toList.mp hother)

end

end Committed

/-! ## The result -/

section Result

variable (functions : HistoryFunctions) (join : JoinPath) (settings : HistorySettings)
  (contentNow attachmentNow : ℤ) (input : PersistAttempt) (fault : Option Fault)

theorem upsertInput_error {uuids : ℕ} {e : Exception}
    (h : upsertInput functions settings contentNow attachmentNow input uuids = .error e) :
    input.hasNull = true ∨ ∀ excerpt,
      extractResponseExcerpt (input.responseContent.getD .null) ≠ .ok excerpt := by
  unfold upsertInput at h
  rcases hextract : extractPromptAttachments functions.toImageFunctions
    (input.extractInput functions settings attachmentNow) input.promptContent ⟨[], [], uuids⟩
    with e' | outcome
  · left
    exact extractPromptAttachments_error hextract
  right
  intro excerpt hexcerpt
  rw [hextract, hexcerpt] at h
  cases h

theorem upsertInput_ok {uuids : ℕ} {upsert : UpsertContentInput}
    (h : upsertInput functions settings contentNow attachmentNow input uuids = .ok upsert) :
    (∃ excerpt, extractResponseExcerpt (input.responseContent.getD .null) = .ok excerpt) ∧
      ∃ outcome, extractPromptAttachments functions.toImageFunctions
        (input.extractInput functions settings attachmentNow) input.promptContent
          ⟨[], [], uuids⟩ = .ok outcome ∧
        upsert = input.upsert functions settings contentNow outcome := by
  unfold upsertInput at h
  obtain ⟨outcome, hextract, h⟩ := bind_eq_ok_iff.mp h
  obtain ⟨excerpt, hexcerpt, h⟩ := bind_eq_ok_iff.mp h
  exact ⟨⟨excerpt, hexcerpt⟩, outcome, hextract, (Except.ok.inj h).symm⟩

/-- What a call leaves: it has run its transaction, or only stored blobs. -/
theorem persistAttempt_spec (s : HistoryState) :
    (persistAttempt functions join settings contentNow attachmentNow input fault s).written =
        storedPaths join fault 0 (input.plannedKeys functions settings attachmentNow s.uuids) ∧
      ((GetsThrough functions join settings attachmentNow input fault s ∧
          ∃ outcome, extractPromptAttachments functions.toImageFunctions
              (input.extractInput functions settings attachmentNow) input.promptContent
                ⟨[], [], s.uuids⟩ = .ok outcome ∧
            (persistAttempt functions join settings contentNow attachmentNow input fault
                s).tables.contents =
              (input.upsert functions settings contentNow outcome).upsertContent
                (functions.cuid s.tables.contents.length) s.tables.contents ∧
            (persistAttempt functions join settings contentNow attachmentNow input fault
                s).tables.attachments =
              (input.upsert functions settings contentNow outcome).replaceAttachments
                s.tables.attachments) ∨
        (¬ GetsThrough functions join settings attachmentNow input fault s ∧
          ∃ blobs, (persistAttempt functions join settings contentNow attachmentNow input fault
              s).tables = { s.tables with blobs := blobs } ∧
            ∀ path ∈ storedPaths join fault 0
              (input.plannedKeys functions settings attachmentNow s.uuids), path ∈ blobs)) := by
  obtain ⟨hwritten, hblobs, hok⟩ := writeKeys_spec join fault
    (input.plannedKeys functions settings attachmentNow s.uuids) ⟨s.tables.blobs, 0, []⟩
  have hleft : ∀ path ∈ storedPaths join fault 0
      (input.plannedKeys functions settings attachmentNow s.uuids),
      path ∈ (writeKeys join fault (input.plannedKeys functions settings attachmentNow s.uuids)
        ⟨s.tables.blobs, 0, []⟩).2.blobs := fun path h => hblobs path (.inr h)
  rw [List.nil_append] at hwritten
  unfold persistAttempt
  rw [storeContent_eq, Attempt.bind_run]
  rcases hrun : writeKeys join fault (input.plannedKeys functions settings attachmentNow s.uuids)
    ⟨s.tables.blobs, 0, []⟩ with ⟨e | u, files⟩
  · -- a write has failed
    rw [hrun] at hwritten hleft hok
    refine ⟨hwritten, .inr ⟨?_, files.blobs, rfl, hleft⟩⟩
    intro hthrough
    cases hok.mpr hthrough.stored
  rw [hrun] at hwritten hleft hok
  have hstored := hok.mp rfl
  rcases hupsert : upsertInput functions settings contentNow attachmentNow input s.uuids
    with e | upsert
  · -- the prompt or the response has thrown
    refine ⟨hwritten, .inr ⟨?_, files.blobs, rfl, hleft⟩⟩
    intro hthrough
    rcases upsertInput_error functions settings contentNow attachmentNow input hupsert
      with hnull | hexcerpt
    · rw [hthrough.prompt] at hnull
      cases hnull
    · obtain ⟨excerpt, h⟩ := hthrough.response
      exact hexcerpt excerpt h
  obtain ⟨hresp, outcome, hextract, rfl⟩ :=
    upsertInput_ok functions settings contentNow attachmentNow input hupsert
  have hthrough : (∀ thrown, fault ≠ some ⟨.list, thrown⟩) →
      (∀ thrown, fault ≠ some ⟨.upsert false, thrown⟩) →
      GetsThrough functions join settings attachmentNow input fault s := by
    intro hlist hfails
    exact ⟨hstored, (extractPromptAttachments_ok hextract).1, hresp, hlist, hfails⟩
  rcases fault with _ | ⟨point, thrown⟩
  · exact ⟨hwritten, .inl ⟨hthrough nofun nofun, outcome, hextract, rfl, rfl⟩⟩
  cases point with
  | write n left =>
    exact ⟨hwritten, .inl ⟨hthrough nofun nofun, outcome, hextract, rfl, rfl⟩⟩
  | list =>
    refine ⟨hwritten, .inr ⟨?_, files.blobs, rfl, hleft⟩⟩
    intro h
    exact h.list thrown rfl
  | upsert committed =>
    cases committed with
    | true => exact ⟨hwritten, .inl ⟨hthrough nofun nofun, outcome, hextract, rfl, rfl⟩⟩
    | false =>
      refine ⟨hwritten, .inr ⟨?_, files.blobs, rfl, hleft⟩⟩
      intro h
      exact h.upsert thrown rfl

end Result

/-! ## The cleanup of what is in a row -/

section Cleanup

variable {join : JoinPath} {clock : CleanupClock} {run : CleanupRun} {n : ℕ} {eventId path : String}

theorem map_id_markContents (t : ℤ) (ids : List String) (contents : List AiRequestContent) :
    (markContents t ids contents).map AiRequestContent.id = contents.map AiRequestContent.id := by
  unfold markContents
  rw [List.map_map]
  refine List.map_congr_left fun content _ => ?_
  rw [Function.comp_apply]
  split <;> rfl

theorem map_id_markAttachments (t : ℤ) (ids : List String)
    (attachments : List AiRequestAttachment) :
    (markAttachments t ids attachments).map AiRequestAttachment.id =
      attachments.map AiRequestAttachment.id := by
  unfold markAttachments
  rw [List.map_map]
  refine List.map_congr_left fun attachment _ => ?_
  rw [Function.comp_apply]
  split <;> rfl

theorem mem_unlinkSafe {keys : List String} {tables : HistoryTables}
    (h : path ∈ (unlinkSafe join keys tables).blobs) :
    path ∈ tables.blobs ∧ ∀ key ∈ keys, resolveSafeBlobPath join key ≠ some path := by
  obtain ⟨hmem, hpath⟩ := List.mem_filter.mp h
  refine ⟨hmem, ?_⟩
  intro key hkey hresolve
  exact of_decide_eq_true hpath (List.mem_filterMap.mpr ⟨key, hkey, hresolve⟩)

/-- What a cleanup has not come to is still in a row. -/
structure Awaits (join : JoinPath) (clock : CleanupClock) (eventId path : String)
    (run : CleanupRun) : Prop where
  contentIds : (run.tables.contents.map AiRequestContent.id).Nodup
  attachmentIds : (run.tables.attachments.map AiRequestAttachment.id).Nodup
  due : ∀ content ∈ run.tables.contents, content.aiRequestEventId = eventId →
    content.expiresAt < clock.start
  file : path ∉ run.tables.blobs ∨ Referenced join run.tables eventId path

theorem Awaits.deleteContents (h : Awaits join clock eventId path run) (n : ℕ) :
    Awaits join clock eventId path (deleteContents join clock n
      (expiredContents (clock.contentQuery n) run.tables.contents) run) := by
  have hbatch : ∀ c ∈ expiredContents (clock.contentQuery n) run.tables.contents,
      c ∈ run.tables.contents := fun c hc => (mem_expiredContents hc).1
  generalize expiredContents (clock.contentQuery n) run.tables.contents = batch at hbatch ⊢
  have hconts : (History.deleteContents join clock n batch run).tables.contents =
      markContents (clock.contentsMarked n) (batch.map AiRequestContent.id)
        run.tables.contents := rfl
  have hatts : (History.deleteContents join clock n batch run).tables.attachments =
      markAttachments (clock.attachmentsMarked n)
        ((attachmentsOf (batch.map AiRequestContent.aiRequestEventId)
          run.tables.attachments).map AiRequestAttachment.id) run.tables.attachments := rfl
  have hblobs : path ∈ (History.deleteContents join clock n batch run).tables.blobs →
      path ∈ run.tables.blobs ∧ (∀ key ∈ batch.flatMap AiRequestContent.blobKeys,
          resolveSafeBlobPath join key ≠ some path) ∧
        ∀ attachment ∈ attachmentsOf (batch.map AiRequestContent.aiRequestEventId)
          run.tables.attachments, resolveSafeBlobPath join attachment.blobKey ≠ some path := by
    intro hmem
    obtain ⟨hmem, hunlinked⟩ := mem_unlinkSafe hmem
    obtain ⟨hmem, hunlinked'⟩ := mem_unlinkSafe hmem
    refine ⟨hmem, hunlinked', ?_⟩
    intro attachment hatt
    exact hunlinked _ (List.mem_map_of_mem hatt)
  constructor
  · rw [hconts, map_id_markContents]
    exact h.contentIds
  · rw [hatts, map_id_markAttachments]
    exact h.attachmentIds
  · rw [hconts]
    intro content hmem hev
    obtain ⟨c, hc, rfl⟩ := List.mem_map.mp hmem
    by_cases hmarked : c.id ∈ batch.map AiRequestContent.id ∧ c.deletedAt = none
    · rw [if_pos hmarked] at hev ⊢
      exact h.due c hc hev
    · rw [if_neg hmarked] at hev ⊢
      exact h.due c hc hev
  · by_cases hfile : path ∈ (History.deleteContents join clock n batch run).tables.blobs
    · right
      obtain ⟨hmem, hkeys, hrows⟩ := hblobs hfile
      rcases h.file with hgone | ⟨c, hc, hev, hdel, hrow⟩
      · exact absurd hmem hgone
      -- the content is not of the batch, or the file would be gone
      have hstays : c ∉ batch := by
        intro hin
        rcases hrow with ⟨key, hkey, hpath⟩ | ⟨attachment, hatt, hof, hkept, hpath⟩
        · exact hkeys key (List.mem_flatMap.mpr ⟨c, hin, hkey⟩) hpath
        refine hrows attachment (List.mem_filter.mpr ⟨hatt, ?_⟩) hpath
        rw [hkept, hof, ← hev, Bool.and_eq_true]
        exact ⟨decide_eq_true (List.mem_map_of_mem hin), rfl⟩
      have hid : c.id ∉ batch.map AiRequestContent.id := by
        intro hin
        obtain ⟨c', hc', hsame⟩ := List.mem_map.mp hin
        rw [List.inj_on_of_nodup_map h.contentIds (hbatch c' hc') hc hsame] at hc'
        exact hstays hc'
      refine ⟨c, ?_, hev, hdel, ?_⟩
      · rw [hconts]
        exact List.mem_map.mpr ⟨c, hc, if_neg fun hmarked => hid hmarked.1⟩
      rcases hrow with hkey | ⟨attachment, hatt, hof, hkept, hpath⟩
      · exact .inl hkey
      right
      refine ⟨attachment, ?_, hof, hkept, hpath⟩
      rw [hatts]
      refine List.mem_map.mpr ⟨attachment, hatt, if_neg ?_⟩
      rintro ⟨hin, -⟩
      obtain ⟨a, ha, hsame⟩ := List.mem_map.mp hin
      have hold := (List.mem_filter.mp ha).1
      rw [List.inj_on_of_nodup_map h.attachmentIds hold hatt hsame] at ha
      exact hrows attachment ha hpath
    · left
      exact hfile

/-- What is gone stays gone, and what is in a row goes with the cleanup. -/
theorem goesWithCleanup {tables : HistoryTables}
    (h : path ∉ tables.blobs ∨ Referenced join tables eventId path) :
    GoesWithCleanup join tables eventId path := by
  intro clock fuel triggeredAt result after hkeyed hdue hjob hmem
  obtain ⟨run, hrun, hres⟩ := Option.map_eq_some_iff.mp hjob
  obtain ⟨mid, hmid, hlegacy⟩ := Option.bind_eq_some_iff.mp hrun
  have hafter : run.tables = after := (Prod.ext_iff.mp hres).2
  rw [← hafter] at hmem
  have hstart : Awaits join clock eventId path ⟨tables, 0, []⟩ :=
    ⟨hkeyed.contentIds, hkeyed.attachmentIds, hdue, h⟩
  have hawaits := contentLoop_rule (fun n run (hrun : Awaits join clock eventId path run) =>
    hrun.deleteContents n) hstart hmid
  -- the loop has come to all contents of the event
  have hgone : path ∉ mid.tables.blobs := by
    rcases hawaits.file with hgone | ⟨content, hcont, hev, hdel, -⟩
    · exact hgone
    · have hexp := hawaits.due content hcont hev
      exact absurd hdel (contentLoop_complete hmid content hcont hexp)
  refine legacyLoop_rule (I := fun run => path ∉ run.tables.blobs) ?_ hgone hlegacy hmem
  intro batch run hrun
  unfold deleteLegacy
  dsimp only
  split
  · intro hmem
    exact hrun (mem_unlinkSafe hmem).1
  · exact hrun

end Cleanup

/-! ## A call that nothing fails -/

section NoFault

variable {functions : HistoryFunctions} {join : JoinPath} {settings : HistorySettings}
  {contentNow attachmentNow : ℤ}

end NoFault

/-! ## Which calls leave nothing behind -/

/-- Every blob that a call has stored is gone or in a row of its event exactly when the call gets
through its transaction, or a row had all of them before; and then they go with a cleanup. -/
theorem noOrphans_iff (functions : HistoryFunctions) (join : JoinPath)
    (settings : HistorySettings) (contentNow attachmentNow : ℤ) (input : PersistAttempt)
    (fault : Option Fault) (s : HistoryState) :
    (NoOrphans join input.eventId
        (persistAttempt functions join settings contentNow attachmentNow input fault s) ↔
      GetsThrough functions join settings attachmentNow input fault s ∨
        ∀ path ∈ storedPaths join fault 0
          (input.plannedKeys functions settings attachmentNow s.uuids),
          Referenced join s.tables input.eventId path) ∧
    (NoOrphans join input.eventId
        (persistAttempt functions join settings contentNow attachmentNow input fault s) →
      ∀ path ∈ (persistAttempt functions join settings contentNow attachmentNow input fault
          s).written,
        GoesWithCleanup join
          (persistAttempt functions join settings contentNow attachmentNow input fault s).tables
          input.eventId path) := by
  constructor
  · unfold NoOrphans
    obtain ⟨hwritten, hthrough | hfails⟩ := persistAttempt_spec functions join settings contentNow
      attachmentNow input fault s
    · -- the rows of the transaction have what was stored
      obtain ⟨hthrough, outcome, hextract, hcontents, hattachments⟩ := hthrough
      refine iff_of_true ?_ (.inl hthrough)
      intro path hpath
      rw [hwritten] at hpath
      obtain ⟨key, hkey, hresolve⟩ := key_of_storedPaths hpath
      right
      exact referenced_of_upsert hextract hcontents hattachments hkey hresolve
    -- the rows are as they were, and everything that was stored is there
    obtain ⟨hnot, blobs, htables, hleft⟩ := hfails
    have hrows : ∀ path, Referenced join { s.tables with blobs := blobs } input.eventId path ↔
          Referenced join s.tables input.eventId path := fun _ => Iff.rfl
    rw [hwritten, htables, or_iff_right hnot]
    constructor
    all_goals grind
  · intro h path hpath
    exact goesWithCleanup (h path hpath)

/-- A prompt without images, of a request that is new. -/
def firstAttempt : PersistAttempt where
  requestId := "request"
  aiRequestId := none
  promptContent := .null
  responseContent := none
  hasFile := false
  fileMetadata := none

theorem firstAttempt_path : resolveSafeBlobPath (fun path => path) "requests/request/prompt.json" =
    some "requests/request/prompt.json" := by
  have hnorm : String.ofList ((jsTrim "requests/request/prompt.json").toList.map fun c =>
      if c = '\\' then '/' else c) = "requests/request/prompt.json" := by
    decide
  unfold resolveSafeBlobPath
  dsimp only
  rw [hnorm]
  refine if_neg ?_
  rintro (hempty | hstart | hdots)
  · exact absurd hempty (by decide)
  · exact absurd hstart (by decide)
  · -- the path has only one dot
    exact absurd (hdots.sublist.count_le '.') (by decide)

/-- The list of attachments fails after the prompt was stored. -/
theorem prompt_orphaned :
    ¬ ∀ (functions : HistoryFunctions) (join : JoinPath) (settings : HistorySettings)
      (contentNow attachmentNow : ℤ) (input : PersistAttempt) (fault : Option Fault)
      (s : HistoryState), NoOrphans join input.eventId
        (persistAttempt functions join settings contentNow attachmentNow input fault s) := by
  intro h
  have hfails := h plainHistoryFunctions (fun path => path) longAttachments 0 0 firstAttempt
    (some ⟨.list, .error "connection lost"⟩) ⟨⟨[], [], [], noLegacy, []⟩, 0⟩
  obtain ⟨hwritten, hthrough | ⟨-, blobs, htables, hleft⟩⟩ := persistAttempt_spec
    plainHistoryFunctions (fun path => path) longAttachments 0 0 firstAttempt
    (some ⟨.list, .error "connection lost"⟩) ⟨⟨[], [], [], noLegacy, []⟩, 0⟩
  · exact hthrough.1.list _ rfl
  have hpath : "requests/request/prompt.json" ∈ storedPaths (fun path => path)
      (some ⟨.list, .error "connection lost"⟩) 0
      (firstAttempt.plannedKeys plainHistoryFunctions longAttachments 0 0) := by
    have hkeys : firstAttempt.plannedKeys plainHistoryFunctions longAttachments 0 0 =
        ["requests/request/prompt.json"] := rfl
    rw [hkeys, storedPaths, firstAttempt_path]
    exact List.mem_cons_self
  rcases hfails _ (by rw [hwritten]; exact hpath) with hgone | ⟨content, hcontent, -⟩
  · grind
  · rw [htables] at hcontent
    cases hcontent

end QuizMind.History
