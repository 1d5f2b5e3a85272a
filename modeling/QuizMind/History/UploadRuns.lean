import QuizMind.History.Writers

/-! # Two calls for one file

Of two calls under one id only the first one has attachments, and only the second one has the
file. What is left at the end depends on the order of the transactions, and on who stores the
prompt last.
-/

namespace QuizMind.History

/-! ## What the calls write -/

/-- Blobs of a request with different names have different keys. -/
theorem key_ne (requestId : String) {name name' : String} (hname : name.toList ≠ name'.toList) :
    "requests/" ++ requestId ++ name ≠ "requests/" ++ requestId ++ name' := by
  grind [String.toList_append, List.append_cancel_left_eq]

/-- An attachment lies one directory below. -/
theorem attachmentKey_ne (requestId attachmentId : String) {name : String}
    (hname : name.toList.take 2 ≠ ['/', 'a']) :
    attachmentKey requestId attachmentId ≠ "requests/" ++ requestId ++ name := by
  intro h
  have hlist := congrArg String.toList h
  simp only [attachmentKey, String.toList_append, List.append_assoc,
    List.append_cancel_left_eq] at hlist
  refine hname ?_
  rw [← hlist, List.take_append_of_le_length (by decide)]
  decide

/-- What a call for a file and the one before it write under one id. -/
structure UploadPlans (requestId : String) (file : List UInt8) (plans : Writer → PersistPlan) :
    Prop where
  eventId : ∀ writer, (plans writer).upsert.eventId = requestId
  promptBlobKey : ∀ writer, (plans writer).upsert.promptBlobKey = promptKey requestId
  proxy_file : (plans .proxy).fileBuffer = none ∧ (plans .proxy).upsert.fileBlobKey = none
  controller_file : (plans .controller).fileBuffer = some file ∧
    (plans .controller).upsert.fileBlobKey = some (fileKey requestId)
  controller_blobs : (plans .controller).attachmentBlobs = []
  controller_attachments : (plans .controller).upsert.promptAttachments = []
  proxy_blobs : (plans .proxy).attachmentBlobs.map Prod.fst =
    (plans .proxy).upsert.promptAttachments.map PersistablePromptAttachment.blobKey
  proxy_attachments : ∀ attachment ∈ (plans .proxy).upsert.promptAttachments,
    attachment.role = .prompt ∧ attachment.deletedAt = none ∧
      attachment.blobKey = attachmentKey requestId attachment.id

/-! ## The rows and blobs of a run -/

section Run

variable {requestId : String} {file : List UInt8} {plans : Writer → PersistPlan}
  {trace : Trace} {s : TwoCalls}

/-- The blobs of the proxy's attachments. -/
def proxyKeys (plans : Writer → PersistPlan) : List String :=
  (plans .proxy).upsert.promptAttachments.map PersistablePromptAttachment.blobKey

/-- The attachment rows of the proxy. -/
def proxyRows (plans : Writer → PersistPlan) : List AiRequestAttachment :=
  (plans .proxy).upsert.promptAttachments.map (plans .proxy).upsert.attachmentRow

variable (hplans : UploadPlans requestId file plans)
include hplans

theorem proxyRows_ofPrompt (writer : Writer) : ∀ row ∈ proxyRows plans,
      UpsertContentInput.ofPrompt (plans writer).upsert.eventId row = true := by
  intro row hrow
  obtain ⟨attachment, hatt, rfl⟩ := List.mem_map.mp hrow
  have hrole := (hplans.proxy_attachments attachment hatt).1
  have hev : (plans .proxy).upsert.eventId = (plans writer).upsert.eventId :=
    (hplans.eventId .proxy).trans (hplans.eventId writer).symm
  show ((plans .proxy).upsert.eventId = (plans writer).upsert.eventId &&
    attachment.role = .prompt : Bool) = true
  rw [hev, hrole]
  simp

/-- After the transactions the event has the attachments of the last one. -/
theorem attachments_after (writers : List Writer) :
    (writers.foldl (fun rows writer => (plans writer).upsertRows rows) .empty).attachments =
      if writers.getLast? = some .proxy then proxyRows plans else [] := by
  induction writers using List.reverseRecOn with
  | nil => rfl
  | append_singleton writers writer ih =>
    rw [List.foldl_append, List.getLast?_concat]
    show (plans writer).upsert.replaceAttachments
      (writers.foldl (fun rows writer => (plans writer).upsertRows rows) .empty).attachments = _
    rw [ih]
    have hnone : (if writers.getLast? = some .proxy then proxyRows plans else []).filter
        (fun row => !UpsertContentInput.ofPrompt (plans writer).upsert.eventId row) = [] := by
      refine List.filter_eq_nil_iff.mpr ?_
      intro row hrow
      split at hrow
      · simp [proxyRows_ofPrompt hplans writer row hrow]
      · cases hrow
    unfold UpsertContentInput.replaceAttachments
    rw [hnone]
    cases writer with
    | proxy => rfl
    | controller =>
      rw [hplans.controller_attachments]
      rfl

theorem list_after (h : TwoRun plans trace s) (writer : Writer) :
    (plans writer).listPromptAttachmentsForEvent s.history.rows =
      if (upserts trace).getLast? = some .proxy then proxyKeys plans else [] := by
  unfold PersistPlan.listPromptAttachmentsForEvent
  rw [h.rows_eq, attachments_after hplans]
  split
  · rw [List.filter_eq_self.mpr (proxyRows_ofPrompt hplans writer)]
    unfold proxyRows
    rw [List.map_map]
    rfl
  · rfl

/-- The blobs that a call may delete. -/
def CallPhase.keys : CallPhase → List String
  | .writing _ => []
  | .upserting previous => previous
  | .deleting keys => keys

/-- The proxy deletes nothing, and the controller deletes the blobs of the proxy only where its
transaction follows. -/
structure DeletesOf (plans : Writer → PersistPlan) (writer : Writer) (trace : Trace)
    (phase : CallPhase) : Prop where
  proxy : writer = .proxy → phase.keys = []
  subset : phase.keys ⊆ proxyKeys plans
  seen : phase.keys ≠ [] → .proxy ∈ upserts trace
  order : phase.keys ≠ [] → phase.transactions = 1 → upserts trace = [.proxy, .controller]

omit hplans in
theorem upserts_eq_proxy {writers : List Writer} (hmem : .proxy ∈ writers)
    (hone : writers.count .proxy ≤ 1) (hnone : writers.count .controller = 0) :
    writers = [.proxy] := by
  have hall : ∀ writer ∈ writers, writer = .proxy := by
    intro writer hwriter
    cases writer
    · rfl
    · exact absurd hwriter (List.count_eq_zero.mp hnone)
  have hreplicate := List.eq_replicate_of_mem hall
  have hlen : writers.length = 1 := by grind
  rw [hreplicate, hlen]
  rfl

omit hplans in
theorem TwoRun.count_upserts_le (h : TwoRun plans trace s) (writer : Writer) :
    (upserts trace).count writer ≤ 1 := by
  rw [h.count_upserts writer]
  generalize s.phase writer = phase
  cases phase
  · exact Nat.zero_le 1
  · exact Nat.zero_le 1
  · exact Nat.le_refl 1

variable {writer : Writer}

omit hplans in
/-- There is no third transaction. -/
theorem TwoRun.upserts_both (h : TwoRun plans trace s) {action : CallAction}
    {phase : CallPhase} {history : SharedHistory}
    (hstep : CallStep (plans writer) (s.phase writer) s.history action phase history)
    (hboth : upserts trace = [.proxy, .controller]) :
    upserts (trace ++ [(writer, action)]) = [.proxy, .controller] := by
  have hcount := h.count_upserts writer
  rw [hboth] at hcount
  rw [upserts_append, hboth]
  generalize s.phase writer = before at hstep hcount
  cases hstep with
  | write | list | delete => rfl
  | upsert => cases writer <;> cases hcount

omit hplans in
theorem deletesOf_nil {phase : CallPhase} (h : phase.keys = []) :
    DeletesOf plans writer trace phase where
  proxy _ := h
  subset := by
    rw [h]
    exact List.nil_subset _
  seen hne := absurd h hne
  order hne := absurd h hne

/-- What the two calls may delete, at every moment of a run. -/
theorem TwoRun.deletesOf (h : TwoRun plans trace s) (writer : Writer) :
    DeletesOf plans writer trace (s.phase writer) := by
  refine h.phases (DeletesOf plans) ?_ ?_ ?_ writer
  · intro writer
    exact deletesOf_nil rfl
  · intro trace s writer action phase history h hdeletes hstep
    have hcount := h.count_upserts writer
    have hone := h.count_upserts_le .proxy
    have hlist := list_after hplans h writer
    generalize s.phase writer = before at hstep hdeletes hcount
    cases hstep with
    | write => exact deletesOf_nil rfl
    | list =>
      by_cases hlast : (upserts trace).getLast? = some .proxy
      · rw [if_pos hlast] at hlist
        have hmem : .proxy ∈ upserts trace := List.mem_of_getLast? hlast
        constructor
        · -- the proxy itself has not run its transaction yet
          rintro rfl
          exact absurd hmem (List.count_eq_zero.mp hcount)
        · intro key hkey
          exact hlist ▸ hkey
        · grind [upserts_append]
        · intro _ hrun
          cases hrun
      · rw [if_neg hlast] at hlist
        exact deletesOf_nil hlist
    | @upsert previous =>
      have hsubset : (plans writer).stale previous ⊆ previous := List.filter_subset_self _
      by_cases hprevious : previous = []
      · refine deletesOf_nil (List.subset_nil.mp ?_)
        rw [← hprevious]
        exact hsubset
      have hmem := hdeletes.seen hprevious
      constructor
      · intro hproxy
        exact absurd (hdeletes.proxy hproxy) hprevious
      · exact List.Subset.trans hsubset hdeletes.subset
      · grind [upserts_append]
      · intro _ _
        cases writer with
        | proxy => exact absurd (hdeletes.proxy rfl) hprevious
        | controller =>
          rw [upserts_append, upserts_eq_proxy hmem hone hcount]
          rfl
    | @delete first after key =>
      have hsubset : first ++ after ⊆ first ++ key :: after :=
        (List.sublist_cons_self key after).append_left first |>.subset
      have hne : first ++ key :: after ≠ [] := by simp
      constructor
      · intro hproxy
        exact absurd (hdeletes.proxy hproxy) hne
      · exact List.Subset.trans hsubset hdeletes.subset
      · intro _
        rw [upserts_append]
        exact List.mem_append_left _ (hdeletes.seen hne)
      · intro _ _
        rw [upserts_append, hdeletes.order hne rfl]
        rfl
  · intro trace s writer other action phase history h hne hdeletes hstep
    constructor
    · exact hdeletes.proxy
    · exact hdeletes.subset
    · intro hkeys
      rw [upserts_append]
      exact List.mem_append_left _ (hdeletes.seen hkeys)
    · intro hkeys hrun
      exact h.upserts_both hstep (hdeletes.order hkeys hrun)

variable {key : String}

theorem TwoRun.deleted (h : TwoRun plans trace s) (hmem : (writer, CallAction.delete key) ∈ trace) :
    key ∈ proxyKeys plans ∧ upserts trace = [.proxy, .controller] := by
  induction h with
  | start => cases hmem
  | @step trace s other action phase history h hstep ih =>
    rcases List.mem_append.mp hmem with hold | hnew
    · obtain ⟨hkey, hboth⟩ := ih hold
      exact ⟨hkey, h.upserts_both hstep hboth⟩
    cases List.mem_singleton.mp hnew
    have hdeletes := h.deletesOf hplans writer
    have hstep' := hstep
    generalize s.phase writer = before at hstep hdeletes
    cases hstep with
    | @delete first after =>
      have hne : first ++ key :: after ≠ [] := by simp
      refine ⟨hdeletes.subset (List.mem_append_right _ List.mem_cons_self), ?_⟩
      exact h.upserts_both hstep' (hdeletes.order hne rfl)

variable {blob : Blob}

omit hplans in
theorem mem_writes {plan : PersistPlan} : (key, blob) ∈ plan.writes ↔
      (∃ content, (key, content) ∈ plan.attachmentBlobs ∧ blob = .binary content) ∨
      (key = promptKey plan.upsert.eventId ∧ blob = .json plan.stored) ∨
      (∃ response, plan.responseContent = some response ∧
        key = responseKey plan.upsert.eventId ∧ blob = .json response) ∨
      (∃ content, plan.fileBuffer = some content ∧
        key = fileKey plan.upsert.eventId ∧ blob = .binary content) := by
  unfold PersistPlan.writes
  simp only [List.mem_append, List.mem_cons, List.mem_map, Prod.mk.injEq, Option.mem_toList,
    Prod.exists]
  constructor
  · grind
  · grind

/-- Prompts, responses and files are none of the blobs of attachments. -/
theorem not_mem_proxyKeys {name : String} (hname : name.toList.take 2 ≠ ['/', 'a']) :
    "requests/" ++ requestId ++ name ∉ proxyKeys plans := by
  intro hmem
  obtain ⟨attachment, hatt, hkey⟩ := List.mem_map.mp hmem
  rw [(hplans.proxy_attachments attachment hatt).2.2] at hkey
  exact attachmentKey_ne requestId attachment.id hname hkey

theorem attachmentBlobs_mem {content : List UInt8}
    (hmem : (key, content) ∈ (plans writer).attachmentBlobs) : key ∈ proxyKeys plans := by
  cases writer with
  | proxy =>
    unfold proxyKeys
    rw [← hplans.proxy_blobs]
    exact List.mem_map_of_mem hmem
  | controller =>
    rw [hplans.controller_blobs] at hmem
    cases hmem

/-- Only the prompt of a call is stored under the key of the prompt. -/
theorem writes_promptKey (h : (promptKey requestId, blob) ∈ (plans writer).writes) :
    blob = .json (plans writer).stored := by
  rcases mem_writes.mp h with ⟨content, hmem, -⟩ | ⟨-, rfl⟩ | ⟨response, -, hkey, -⟩ |
    ⟨content, -, hkey, -⟩
  · exact absurd (attachmentBlobs_mem hplans hmem) (not_mem_proxyKeys hplans (by decide))
  · rfl
  all_goals
    rw [hplans.eventId writer] at hkey
    exact absurd hkey (key_ne requestId (by decide))

theorem writes_fileKey
    (h : (fileKey requestId, blob) ∈ (plans writer).writes) : blob = .binary file := by
  rcases mem_writes.mp h with ⟨content, hmem, -⟩ | ⟨hkey, -⟩ | ⟨response, -, hkey, -⟩ |
    ⟨content, hcont, -, rfl⟩
  · exact absurd (attachmentBlobs_mem hplans hmem) (not_mem_proxyKeys hplans (by decide))
  · rw [hplans.eventId writer] at hkey
    exact absurd hkey (key_ne requestId (by decide))
  · rw [hplans.eventId writer] at hkey
    exact absurd hkey (key_ne requestId (by decide))
  · cases writer with
    | proxy => simp_all [hplans.proxy_file.1]
    | controller => simp_all [hplans.controller_file.1]

/-! ## The end of a run -/

variable (hdone : ∀ writer, (s.phase writer).isDone)
include hdone

section

variable (h : TwoRun plans trace s)
include h

omit hplans in
theorem writtenBy_done (writer : Writer) : writtenBy writer trace = (plans writer).writes := by
  have hwrites := h.writtenBy_eq writer
  have hphase := hdone writer
  generalize s.phase writer = phase at hwrites hphase
  cases phase with
  | writing rest | upserting previous => cases hphase
  | deleting keys =>
    have hrest : (CallPhase.deleting keys).rest = [] := rfl
    rwa [hrest, List.append_nil] at hwrites

/-- Who can have stored a blob that is not deleted. -/
theorem blob_done
    (hkept : key ∉ proxyKeys plans ∨ upserts trace ≠ [.proxy, .controller])
    (hblob : (key, blob) ∈ (plans writer).writes) :
    ∃ last stored, (writersOf key trace).getLast? = some last ∧
      (key, stored) ∈ (plans last).writes ∧ s.history.blobs key = some stored := by
  have hdelete : ∀ writer, (writer, CallAction.delete key) ∉ trace := by
    intro writer hmem
    obtain ⟨hkey, hboth⟩ := h.deleted hplans hmem
    rcases hkept with hnot | hnot
    · exact hnot hkey
    · exact hnot hboth
  have hmem : (writer, blob) ∈ writesOn key trace := by
    rw [mem_writesOn, writtenBy_done hdone h]
    exact hblob
  obtain ⟨⟨last, stored⟩, hlast⟩ : ∃ write, (writesOn key trace).getLast? = some write := by
    rw [← Option.isSome_iff_exists, List.getLast?_isSome]
    exact List.ne_nil_of_mem hmem
  refine ⟨last, stored, ?_, ?_, ?_⟩
  · grind [writersOf]
  · have hstored := List.mem_of_getLast? hlast
    rwa [mem_writesOn, writtenBy_done hdone h] at hstored
  · rw [h.blobs_eq_writesOn hdelete, hlast]
    rfl

/-- The prompt is the one that was stored last. -/
theorem prompt_done : ∃ last, (writersOf (promptKey requestId) trace).getLast? = some last ∧
      s.history.blobs (promptKey requestId) = some (.json (plans last).stored) := by
  have hwrite : (promptKey requestId, .json (plans .proxy).stored) ∈ (plans .proxy).writes := by
    refine mem_writes.mpr (.inr (.inl ⟨?_, rfl⟩))
    rw [hplans.eventId]
  obtain ⟨last, stored, hlast, hmem, hblob⟩ := blob_done hplans hdone h
    (.inl (not_mem_proxyKeys hplans (by decide))) hwrite
  rw [writes_promptKey hplans hmem] at hblob
  exact ⟨last, hlast, hblob⟩

theorem file_done : s.history.blobs (fileKey requestId) = some (.binary file) := by
  have hwrite : (fileKey requestId, .binary file) ∈ (plans .controller).writes := by
    refine mem_writes.mpr (.inr (.inr (.inr ⟨file, hplans.controller_file.1, ?_, rfl⟩)))
    rw [hplans.eventId]
  obtain ⟨last, stored, -, hmem, hblob⟩ := blob_done hplans hdone h
    (.inl (not_mem_proxyKeys hplans (by decide))) hwrite
  rwa [writes_fileKey hplans hmem] at hblob

/-- The blobs of the attachments are kept where the proxy's transaction is the second one. -/
theorem attachments_done (horder : upserts trace = [.controller, .proxy])
    (hkey : key ∈ proxyKeys plans) : (s.history.blobs key).isSome = true := by
  unfold proxyKeys at hkey
  rw [← hplans.proxy_blobs] at hkey
  obtain ⟨⟨key', content⟩, hcont, rfl⟩ := List.mem_map.mp hkey
  have hwrite : (key', .binary content) ∈ (plans .proxy).writes :=
    mem_writes.mpr (.inl ⟨content, hcont, rfl⟩)
  have hne : upserts trace ≠ [.proxy, .controller] := by
    rw [horder]
    decide
  obtain ⟨last, stored, -, -, hblob⟩ := blob_done hplans hdone h (.inr hne) hwrite
  rw [hblob]
  rfl

end

end Run

end QuizMind.History
