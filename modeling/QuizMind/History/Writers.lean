import QuizMind.History.PersistContent
import QuizMind.History.Rollups

/-! # Two calls of persistContent

A call stores its blobs one after the other, lists the attachments of the event, runs its
transaction, and deletes the blobs of the attachments that it has replaced. Here two calls for one
event take these steps in any order. A transaction is one step; the rows and blobs are those of
the event.
-/

namespace QuizMind.History

open RemoteConfig (JsonValue)
open Function (update update_of_ne update_self)

/-! ## What a call writes -/

inductive Blob where
  | json (value : JsonValue)
  | binary (content : List UInt8)

/-- The columns of an event that say who pays for a request, and how long it took. -/
structure EventCharge where
  requestType : AiRequestType
  keySource : String
  chargedCostUsd : Option ℚ
  chargedCurrency : Option String
  chargedAmountMinor : Option ℤ
  walletLedgerEntryId : Option String
  durationMs : Option ℤ
  occurredAt : ℤ

/-- The argument of `persistContent`; `none` is `undefined`. -/
structure PersistCall where
  requestId : String
  requestType : AiRequestType
  keySource : Option String
  occurredAt : Option ℤ
  promptContent : JsonValue
  responseContent : Option JsonValue
  fileBuffer : Option (List UInt8)
  fileMetadata : Option AiHistoryFileMetadata
  durationMs : Option ℤ
  chargedCostUsd : Option ℚ
  chargedCurrency : Option String
  chargedAmountMinor : Option ℤ
  walletLedgerEntryId : Option String

/-- What a call reads from the clock and draws: `contentId` is the default id of a content row. -/
structure PersistDraws where
  contentNow : ℤ
  attachmentNow : ℤ
  eventNow : ℤ
  uuids : ℕ
  contentId : String

/-- The blobs of a call, and what its transaction is given. -/
structure PersistPlan where
  contentId : String
  attachmentBlobs : List (String × List UInt8)
  stored : JsonValue
  responseContent : Option JsonValue
  fileBuffer : Option (List UInt8)
  charge : EventCharge
  upsert : UpsertContentInput

variable (functions : HistoryFunctions) (settings : HistorySettings)

def planOf (draws : PersistDraws) (call : PersistCall) (outcome : ExtractOutcome) :
    PersistPlan where
  contentId := draws.contentId
  attachmentBlobs := outcome.state.blobs
  stored := outcome.stored
  responseContent := call.responseContent
  fileBuffer := call.fileBuffer
  charge := {
    requestType := call.requestType
    keySource := call.keySource.getD "platform"
    chargedCostUsd := call.chargedCostUsd
    chargedCurrency := call.chargedCurrency
    chargedAmountMinor := call.chargedAmountMinor
    walletLedgerEntryId := call.walletLedgerEntryId
    durationMs := call.durationMs
    occurredAt := call.occurredAt.getD draws.eventNow }
  upsert := {
    eventId := call.requestId
    expiresAt := functions.addDays draws.contentNow settings.aiHistoryContentDays
    promptBlobKey := promptKey call.requestId
    responseBlobKey := call.responseContent.map fun _ => responseKey call.requestId
    fileBlobKey := call.fileBuffer.map fun _ => fileKey call.requestId
    fileMetadataJson := call.fileMetadata
    promptAttachments := outcome.state.output }

/-- The images that the call takes out of its prompt. -/
def extractInput (draws : PersistDraws) (call : PersistCall) : ExtractInput :=
  ⟨call.requestId, functions.addDays draws.attachmentNow settings.aiHistoryAttachmentDays,
    settings.limits⟩

def persistPlan (draws : PersistDraws) (call : PersistCall) : Except Exception PersistPlan := do
  let outcome ← extractPromptAttachments functions.toImageFunctions
    (extractInput functions settings draws call) call.promptContent ⟨[], [], draws.uuids⟩
  return planOf functions settings draws call outcome

namespace PersistPlan

variable (plan : PersistPlan)

/-- The blobs in the order in which they are stored. -/
def writes : List (String × Blob) :=
  (plan.attachmentBlobs.map fun blob => (blob.1, .binary blob.2)) ++
    (promptKey plan.upsert.eventId, .json plan.stored) ::
      ((plan.responseContent.toList.map fun response =>
          (responseKey plan.upsert.eventId, .json response)) ++
        plan.fileBuffer.toList.map fun content =>
          (fileKey plan.upsert.eventId, .binary content))

/-- An update keeps the duration where none is given. -/
def updateCharge (event : EventCharge) : EventCharge :=
  { plan.charge with durationMs := plan.charge.durationMs.or event.durationMs }

end PersistPlan

/-! ## The shared history -/

/-- The rows of one event. -/
structure HistoryRows where
  event : Option EventCharge
  content : Option AiRequestContent
  attachments : List AiRequestAttachment

/-- Of a request that is new. -/
def HistoryRows.empty : HistoryRows := ⟨none, none, []⟩

structure SharedHistory where
  rows : HistoryRows
  blobs : String → Option Blob

def SharedHistory.writeBlob (history : SharedHistory) (key : String) (blob : Blob) :
    SharedHistory :=
  { history with blobs := update history.blobs key (some blob) }

def SharedHistory.deleteByKey (history : SharedHistory) (key : String) : SharedHistory :=
  { history with blobs := update history.blobs key none }

namespace PersistPlan

variable (plan : PersistPlan)

/-- The transaction of `upsertEventContentAndRollup`. -/
def upsertRows (rows : HistoryRows) : HistoryRows where
  event := some (match rows.event with
    | none => plan.charge
    | some event => plan.updateCharge event)
  content := some (match rows.content with
    | none => plan.upsert.createContent plan.contentId
    | some content => plan.upsert.updateContent content)
  attachments := plan.upsert.replaceAttachments rows.attachments

def listPromptAttachmentsForEvent (rows : HistoryRows) : List String :=
  (rows.attachments.filter (UpsertContentInput.ofPrompt plan.upsert.eventId)).map
    AiRequestAttachment.blobKey

/-- The blobs that no attachment of the call has. -/
def stale (previous : List String) : List String :=
  previous.filter fun key => key ∉ plan.upsert.promptAttachments.map
    PersistablePromptAttachment.blobKey

end PersistPlan

/-! ## Steps -/

/-- Where a call stands. The deletions are started together. -/
inductive CallPhase where
  | writing (rest : List (String × Blob))
  | upserting (previous : List String)
  | deleting (keys : List String)

inductive CallAction where
  | write (key : String) (blob : Blob)
  | list
  | upsert
  | delete (key : String)

inductive CallStep (plan : PersistPlan) :
    CallPhase → SharedHistory → CallAction → CallPhase → SharedHistory → Prop
  | write {key : String} {blob : Blob} {rest : List (String × Blob)} {history : SharedHistory} :
      CallStep plan (.writing ((key, blob) :: rest)) history (.write key blob) (.writing rest)
        (history.writeBlob key blob)
  | list {history : SharedHistory} :
      CallStep plan (.writing []) history .list
        (.upserting (plan.listPromptAttachmentsForEvent history.rows)) history
  | upsert {previous : List String} {history : SharedHistory} :
      CallStep plan (.upserting previous) history .upsert (.deleting (plan.stale previous))
        { history with rows := plan.upsertRows history.rows }
  | delete {before after : List String} {key : String} {history : SharedHistory} :
      CallStep plan (.deleting (before ++ key :: after)) history (.delete key)
        (.deleting (before ++ after)) (history.deleteByKey key)

/-- The call inside the proxy, and the one of the controller. -/
inductive Writer where
  | proxy | controller
  deriving DecidableEq

structure TwoCalls where
  phase : Writer → CallPhase
  history : SharedHistory

/-- A run of the two calls, with the steps that they have taken. -/
inductive TwoRun (plans : Writer → PersistPlan) : List (Writer × CallAction) → TwoCalls → Prop
  | start : TwoRun plans [] ⟨fun writer => .writing (plans writer).writes, ⟨.empty, fun _ => none⟩⟩
  | step {trace : List (Writer × CallAction)} {s : TwoCalls} {writer : Writer}
      {action : CallAction} {phase : CallPhase} {history : SharedHistory}
      (h : TwoRun plans trace s)
      (hstep : CallStep (plans writer) (s.phase writer) s.history action phase history) :
      TwoRun plans (trace ++ [(writer, action)]) ⟨update s.phase writer phase, history⟩

/-! ## What a run has done -/

abbrev Trace := List (Writer × CallAction)

def CallAction.isUpsert : CallAction → Bool
  | .upsert => true
  | _ => false

def CallAction.written : CallAction → Option (String × Blob)
  | .write key blob => some (key, blob)
  | _ => none

/-- What the action leaves under the key, if it touches it. -/
def CallAction.effect (key : String) : CallAction → Option (Option Blob)
  | .write key' blob => if key' = key then some (some blob) else none
  | .delete key' => if key' = key then some none else none
  | _ => none

/-- The transactions, in their order. -/
def upserts (trace : Trace) : List Writer :=
  (trace.filter fun step => step.2.isUpsert).map Prod.fst

/-- What a writer has stored. -/
def writtenBy (writer : Writer) (trace : Trace) : List (String × Blob) :=
  trace.filterMap fun step => if step.1 = writer then step.2.written else none

/-- What an action stores under the key. -/
def CallAction.writtenOn (key : String) : CallAction → Option Blob
  | .write key' blob => if key' = key then some blob else none
  | _ => none

/-- What was stored under the key, and by whom. -/
def writesOn (key : String) (trace : Trace) : List (Writer × Blob) :=
  trace.filterMap fun step => (step.2.writtenOn key).map fun blob => (step.1, blob)

/-- Who has stored a blob under the key, in their order. -/
def writersOf (key : String) (trace : Trace) : List Writer :=
  (writesOn key trace).map Prod.fst

/-- The blobs that a call has yet to store. -/
def CallPhase.rest : CallPhase → List (String × Blob)
  | .writing rest => rest
  | _ => []

/-- How many transactions a call has run. -/
def CallPhase.transactions : CallPhase → ℕ
  | .deleting _ => 1
  | _ => 0

def CallPhase.isDone : CallPhase → Prop
  | .deleting [] => True
  | _ => False

section Run

variable {plans : Writer → PersistPlan} {trace : Trace} {s : TwoCalls}

theorem upserts_append (trace : Trace) (writer : Writer) (action : CallAction) :
    upserts (trace ++ [(writer, action)]) =
      upserts trace ++ if action.isUpsert then [writer] else [] := by
  unfold upserts
  rw [List.filter_append, List.map_append]
  cases action <;> rfl

theorem writtenBy_append (trace : Trace) (writer other : Writer) (action : CallAction) :
    writtenBy writer (trace ++ [(other, action)]) =
      writtenBy writer trace ++ if other = writer then action.written.toList else [] := by
  unfold writtenBy
  by_cases hsame : other = writer
  · cases action <;> simp [hsame, CallAction.written]
  · simp [hsame]

/-- What holds of the phase of each call, while it and the other one take their steps. -/
theorem TwoRun.phases (holds : Writer → Trace → CallPhase → Prop)
    (hstart : ∀ writer, holds writer [] (.writing (plans writer).writes))
    (hown : ∀ {trace s} writer {action phase history}, TwoRun plans trace s →
      holds writer trace (s.phase writer) →
      CallStep (plans writer) (s.phase writer) s.history action phase history →
      holds writer (trace ++ [(writer, action)]) phase)
    (hother : ∀ {trace s} writer other {action phase history}, TwoRun plans trace s →
      other ≠ writer → holds writer trace (s.phase writer) →
      CallStep (plans other) (s.phase other) s.history action phase history →
      holds writer (trace ++ [(other, action)]) (s.phase writer))
    (h : TwoRun plans trace s) (writer : Writer) : holds writer trace (s.phase writer) := by
  induction h with
  | start => exact hstart writer
  | @step trace s other action phase history h hstep ih => grind

section

variable (h : TwoRun plans trace s)
include h

/-- Every call stores its blobs once, in its order. -/
theorem TwoRun.writtenBy_eq (writer : Writer) :
    writtenBy writer trace ++ (s.phase writer).rest = (plans writer).writes := by
  refine h.phases (fun writer trace phase =>
    writtenBy writer trace ++ phase.rest = (plans writer).writes) ?_ ?_ ?_ writer
  · intro writer
    rfl
  · intro trace s writer action phase history _ hrest hstep
    rw [writtenBy_append, if_pos rfl]
    generalize s.phase writer = before at hstep hrest
    cases hstep with
    | _ =>
      rw [← hrest, List.append_assoc]
      rfl
  · grind [writtenBy_append]

/-- Every call runs its transaction once. -/
theorem TwoRun.count_upserts (writer : Writer) :
    (upserts trace).count writer = (s.phase writer).transactions := by
  refine h.phases (fun writer trace phase =>
    (upserts trace).count writer = phase.transactions) ?_ ?_ ?_ writer
  · intro writer
    rfl
  · intro trace s writer action phase history _ hcount hstep
    rw [upserts_append, List.count_append]
    generalize s.phase writer = before at hstep hcount
    rw [hcount]
    cases hstep with
    | upsert =>
      have hone : [writer].count writer = 1 := List.count_singleton_self
      show 0 + [writer].count writer = 1
      rw [hone]
    | _ => rfl
  · grind [upserts_append]

/-- The rows are those of the transactions, one after the other. -/
theorem TwoRun.rows_eq : s.history.rows =
      (upserts trace).foldl (fun rows writer => (plans writer).upsertRows rows) .empty := by
  induction h with
  | start => rfl
  | @step trace s writer action phase history h hstep ih =>
    rw [upserts_append, List.foldl_append, ← ih]
    generalize s.phase writer = before at hstep
    cases hstep with
    | _ => rfl

/-- A blob is what the last action on its key has left. -/
theorem TwoRun.blobs_eq (key : String) : s.history.blobs key =
      ((trace.filterMap fun step => step.2.effect key).getLast?).getD none := by
  induction h with
  | start => rfl
  | @step trace s writer action phase history h hstep ih =>
    generalize s.phase writer = before at hstep
    cases hstep with
    | @write key' blob rest =>
      by_cases hkey : key' = key
      · simp [CallAction.effect, hkey, SharedHistory.writeBlob]
      · simpa [CallAction.effect, hkey, SharedHistory.writeBlob, update_of_ne (Ne.symm hkey)]
          using ih
    | list | upsert => simpa [CallAction.effect] using ih
    | @delete before after key' =>
      by_cases hkey : key' = key
      · simp [CallAction.effect, hkey, SharedHistory.deleteByKey]
      · simpa [CallAction.effect, hkey, SharedHistory.deleteByKey, update_of_ne (Ne.symm hkey)]
          using ih

end

variable {writer : Writer}

theorem mem_writesOn {key : String} {blob : Blob} :
    (writer, blob) ∈ writesOn key trace ↔ (key, blob) ∈ writtenBy writer trace := by
  unfold writesOn writtenBy
  rw [List.mem_filterMap, List.mem_filterMap]
  refine exists_congr fun step => and_congr_right fun _ => ?_
  obtain ⟨other, action⟩ := step
  cases action with
  | write key' blob' => grind [CallAction.writtenOn, CallAction.written]
  | _ => simp [CallAction.writtenOn, CallAction.written]

/-- Without deletions a blob is what was stored last. -/
theorem TwoRun.blobs_eq_writesOn (h : TwoRun plans trace s) {key : String}
    (hkept : ∀ writer, (writer, CallAction.delete key) ∉ trace) :
    s.history.blobs key = (writesOn key trace).getLast?.map Prod.snd := by
  have heffects : (trace.filterMap fun step => step.2.effect key) =
      (writesOn key trace).map fun write => some write.2 := by
    unfold writesOn
    rw [List.map_filterMap]
    refine List.filterMap_congr ?_
    rintro ⟨writer, action⟩ hstep
    cases action with
    | write key' blob =>
      by_cases hkey : key' = key <;> simp [CallAction.effect, CallAction.writtenOn]
    | list | upsert => rfl
    | delete key' => grind [CallAction.effect, CallAction.writtenOn]
  rw [h.blobs_eq, heffects, List.getLast?_map]
  cases (writesOn key trace).getLast? <;> rfl

/-- The two transactions of a finished run, in one of their orders. -/
theorem TwoRun.upserts_cases (h : TwoRun plans trace s)
    (hdone : ∀ writer, (s.phase writer).isDone) :
    upserts trace = [.proxy, .controller] ∨ upserts trace = [.controller, .proxy] := by
  have hcount : ∀ writer, (upserts trace).count writer = 1 := by
    intro writer
    rw [h.count_upserts writer]
    have hphase := hdone writer
    generalize s.phase writer = phase at hphase
    cases phase with
    | writing rest | upserting previous => cases hphase
    | deleting keys => rfl
  have hproxy := hcount .proxy
  have hctrl := hcount .controller
  match hlist : upserts trace with
  | [] =>
    rw [hlist] at hproxy
    cases hproxy
  | [writer] => grind
  | [.proxy, .controller] => exact .inl rfl
  | [.controller, .proxy] => exact .inr rfl
  | [.proxy, .proxy] =>
    rw [hlist] at hproxy
    cases hproxy
  | [.controller, .controller] =>
    rw [hlist] at hproxy
    cases hproxy
  | a :: b :: c :: rest =>
    rw [hlist] at hproxy hctrl
    cases a <;> cases b <;> cases c <;> simp at hproxy hctrl

/-! ## Calls that run to their end -/

/-- The run goes on until the call of the writer is in the given phase, while the other call
stands still. -/
def Reaches (plans : Writer → PersistPlan) (trace : Trace) (s : TwoCalls) (writer : Writer)
    (phase : CallPhase) (transactions : List Writer) : Prop :=
  ∃ trace' s', TwoRun plans trace' s' ∧ s'.phase = update s.phase writer phase ∧
    upserts trace' = upserts trace ++ transactions

section

variable (h : TwoRun plans trace s)
include h

theorem TwoRun.reaches_refl {phase : CallPhase}
    (hphase : s.phase writer = phase) : Reaches plans trace s writer phase [] := by
  refine ⟨trace, s, h, ?_, (List.append_nil _).symm⟩
  rw [← hphase, Function.update_eq_self]

/-- One step, and then the others. -/
theorem TwoRun.reaches_step {action : CallAction}
    {next phase : CallPhase} {history : SharedHistory} {transactions : List Writer}
    (hstep : CallStep (plans writer) (s.phase writer) s.history action next history)
    (hrest : ∀ {trace s}, TwoRun plans trace s → s.phase writer = next →
      Reaches plans trace s writer phase transactions) :
    Reaches plans trace s writer phase
      ((if action.isUpsert then [writer] else []) ++ transactions) := by
  obtain ⟨trace', s', h', hphase, hupserts⟩ := hrest (h.step hstep) (update_self _ _ _)
  refine ⟨trace', s', h', ?_, ?_⟩
  · rw [hphase]
    exact Function.update_idem _ _ _
  · rw [hupserts, upserts_append, List.append_assoc]

theorem TwoRun.reaches_deleted {keys : List String} (hphase : s.phase writer = .deleting keys) :
    Reaches plans trace s writer (.deleting []) [] := by
  induction keys generalizing trace s with
  | nil => exact h.reaches_refl hphase
  | cons key keys ih =>
    have hdelete : CallStep (plans writer) (.deleting ([] ++ key :: keys)) s.history
        (.delete key) (.deleting ([] ++ keys)) (s.history.deleteByKey key) := .delete
    have hstep : CallStep (plans writer) (s.phase writer) s.history (.delete key)
        (.deleting keys) (s.history.deleteByKey key) := by
      rw [hphase]
      exact hdelete
    exact h.reaches_step hstep ih

/-- A call that has yet to write some blobs runs to its end. -/
theorem TwoRun.reaches_done {rest : List (String × Blob)}
    (hphase : s.phase writer = .writing rest) :
    Reaches plans trace s writer (.deleting []) [writer] := by
  induction rest generalizing trace s with
  | nil =>
    have hlist : CallStep (plans writer) (s.phase writer) s.history .list
        (.upserting ((plans writer).listPromptAttachmentsForEvent s.history.rows))
        s.history := by
      rw [hphase]
      exact .list
    refine h.reaches_step hlist ?_
    generalize (plans writer).listPromptAttachmentsForEvent s.history.rows = previous
    intro trace s h hphase
    have hupsert : CallStep (plans writer) (s.phase writer) s.history .upsert
        (.deleting ((plans writer).stale previous))
        { s.history with rows := (plans writer).upsertRows s.history.rows } := by
      rw [hphase]
      exact .upsert
    refine h.reaches_step hupsert ?_
    intro trace s h hphase
    exact h.reaches_deleted hphase
  | cons write rest ih =>
    obtain ⟨key, blob⟩ := write
    have hwrite : CallStep (plans writer) (s.phase writer) s.history (.write key blob)
        (.writing rest) (s.history.writeBlob key blob) := by
      rw [hphase]
      exact .write
    exact h.reaches_step hwrite ih

end

/-- One call can run to its end before the other one begins. -/
theorem exists_serial (plans : Writer → PersistPlan) {first second : Writer}
    (hne : second ≠ first) :
    ∃ trace s, TwoRun plans trace s ∧ (∀ writer, (s.phase writer).isDone) ∧
      upserts trace = [first, second] := by
  have hstart : TwoRun plans [] _ := .start
  have hfirst : Reaches plans [] _ first (.deleting []) [first] := hstart.reaches_done rfl
  obtain ⟨trace, s, h, hphase, hupserts⟩ := hfirst
  have hsecond : s.phase second = .writing (plans second).writes := by
    rw [hphase, update_of_ne hne]
  obtain ⟨trace', s', h', hphase', hupserts'⟩ := h.reaches_done hsecond
  refine ⟨trace', s', h', ?_, ?_⟩
  · intro writer
    rw [hphase']
    by_cases hwriter : writer = second
    · rw [hwriter, update_self]
      exact trivial
    have hfirst : writer = first := by
      cases writer <;> cases first <;> cases second <;> simp_all
    rw [update_of_ne hwriter, hphase, hfirst, update_self]
    exact trivial
  · rw [hupserts', hupserts]
    rfl

end Run

end QuizMind.History
