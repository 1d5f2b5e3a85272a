import QuizMind.Queue.Jobs
import QuizMind.Settings.Documents
import Mathlib.Data.List.Nodup

/-! # The retention settings

`parseAndNormalizeRetentionPolicy`, `parseRetentionPolicyPatch`, `mergeRetentionPolicy` and
the update of the stored document.

The life time of email verifications is a constant: what a stored document says about it is
not read, and a patch must not mention it. The history of the queues is one member with an
entry for each queue; a patch mentions single numbers of it.
-/

namespace QuizMind.Settings

open Async
open Ai (JsValue Payload)
open Queue (PlatformQueue)

/-! ## The fields -/

/-- The editable numbers, in the order of `retentionPolicyRanges`. -/
inductive EditableNumericField where
  | aiHistoryContentDays
  | aiHistoryAttachmentDays
  | adminLogActivityDays
  | adminLogDomainDays
  | adminLogSystemDays
  | adminLogAuditDays
  | adminLogSecurityDays
  | adminLogAdminDays
  | accessTokenLifetimeMinutes
  | refreshTokenLifetimeDays
  | extensionSessionLifetimeHours
  | extensionSessionRefreshAfterSeconds
  | maxPromptImageAttachments
  | maxPromptImageAttachmentMegabytes
  | passwordResetLifetimeHours
  deriving DecidableEq

def EditableNumericField.name : EditableNumericField → String
  | .aiHistoryContentDays => "aiHistoryContentDays"
  | .aiHistoryAttachmentDays => "aiHistoryAttachmentDays"
  | .adminLogActivityDays => "adminLogActivityDays"
  | .adminLogDomainDays => "adminLogDomainDays"
  | .adminLogSystemDays => "adminLogSystemDays"
  | .adminLogAuditDays => "adminLogAuditDays"
  | .adminLogSecurityDays => "adminLogSecurityDays"
  | .adminLogAdminDays => "adminLogAdminDays"
  | .accessTokenLifetimeMinutes => "accessTokenLifetimeMinutes"
  | .refreshTokenLifetimeDays => "refreshTokenLifetimeDays"
  | .extensionSessionLifetimeHours => "extensionSessionLifetimeHours"
  | .extensionSessionRefreshAfterSeconds => "extensionSessionRefreshAfterSeconds"
  | .maxPromptImageAttachments => "maxPromptImageAttachments"
  | .maxPromptImageAttachmentMegabytes => "maxPromptImageAttachmentMegabytes"
  | .passwordResetLifetimeHours => "passwordResetLifetimeHours"

def retentionPolicyRange : EditableNumericField → ℤ × ℤ
  | .aiHistoryContentDays => (1, 365)
  | .aiHistoryAttachmentDays => (1, 365)
  | .adminLogActivityDays => (1, 3650)
  | .adminLogDomainDays => (1, 3650)
  | .adminLogSystemDays => (1, 3650)
  | .adminLogAuditDays => (30, 3650)
  | .adminLogSecurityDays => (30, 3650)
  | .adminLogAdminDays => (30, 3650)
  | .accessTokenLifetimeMinutes => (5, 1440)
  | .refreshTokenLifetimeDays => (1, 365)
  | .extensionSessionLifetimeHours => (1, 720)
  | .extensionSessionRefreshAfterSeconds => (60, 86400)
  | .maxPromptImageAttachments => (1, 20)
  | .maxPromptImageAttachmentMegabytes => (1, 25)
  | .passwordResetLifetimeHours => (1, 24)

inductive EditableBooleanField where
  | adminLogRetentionEnabled
  | adminLogSensitiveRetentionEnabled
  deriving DecidableEq

def EditableBooleanField.name : EditableBooleanField → String
  | .adminLogRetentionEnabled => "adminLogRetentionEnabled"
  | .adminLogSensitiveRetentionEnabled => "adminLogSensitiveRetentionEnabled"

inductive EditableField where
  | numeric (f : EditableNumericField)
  | boolean (f : EditableBooleanField)
  deriving DecidableEq

def EditableField.name : EditableField → String
  | .numeric f => f.name
  | .boolean f => f.name

abbrev EditableField.Value : EditableField → Type
  | .numeric _ => ℤ
  | .boolean _ => Bool

def editableNumericFields : List EditableNumericField :=
  [.aiHistoryContentDays, .aiHistoryAttachmentDays, .adminLogActivityDays, .adminLogDomainDays,
    .adminLogSystemDays, .adminLogAuditDays, .adminLogSecurityDays, .adminLogAdminDays,
    .accessTokenLifetimeMinutes, .refreshTokenLifetimeDays, .extensionSessionLifetimeHours,
    .extensionSessionRefreshAfterSeconds, .maxPromptImageAttachments,
    .maxPromptImageAttachmentMegabytes, .passwordResetLifetimeHours]

/-- The fields in the order in which they are read: the numbers, then the flags. -/
def editableFields : List EditableField :=
  editableNumericFields.map .numeric ++
    [.boolean .adminLogRetentionEnabled, .boolean .adminLogSensitiveRetentionEnabled]

theorem mem_editableFields (f : EditableField) : f ∈ editableFields := by
  rcases f with f | f <;> cases f <;> decide

theorem EditableField.name_injective : Function.Injective EditableField.name := by
  have hnames : (editableFields.map EditableField.name).Nodup := by decide
  intro f g h
  exact List.inj_on_of_nodup_map hnames (mem_editableFields f) (mem_editableFields g) h

def platformQueues : List PlatformQueue :=
  [.billingWebhooks, .usageEvents, .emails, .quotaResets, .configPublish, .auditExports,
    .historyCleanup]

inductive QueueHistoryField where
  | attempts | removeOnComplete | removeOnFail
  deriving DecidableEq

def queueHistoryFields : List QueueHistoryField := [.attempts, .removeOnComplete, .removeOnFail]

def QueueHistoryField.name : QueueHistoryField → String
  | .attempts => "attempts"
  | .removeOnComplete => "removeOnComplete"
  | .removeOnFail => "removeOnFail"

def queueHistoryFieldRange : QueueHistoryField → ℤ × ℤ
  | .attempts => (1, 20)
  | .removeOnComplete => (0, 10000)
  | .removeOnFail => (0, 10000)

abbrev QueueHistory := PlatformQueue → QueueHistoryField → ℤ

/-- `QUEUE_HISTORY_DEFAULTS`. -/
def queueHistoryDefaults : QueueHistory
  | .billingWebhooks, .attempts => 10
  | .usageEvents, .attempts => 5
  | .emails, .attempts => 5
  | .quotaResets, .attempts => 3
  | .configPublish, .attempts => 5
  | .auditExports, .attempts => 2
  | .historyCleanup, .attempts => 3
  | .auditExports, .removeOnComplete => 50
  | .historyCleanup, .removeOnComplete => 10
  | _, .removeOnComplete => 250
  | .historyCleanup, .removeOnFail => 50
  | _, .removeOnFail => 250

structure PlatformRetentionPolicy where
  numeric : EditableNumericField → ℤ
  boolean : EditableBooleanField → Bool
  legacyAiRequestDays : ℤ
  emailVerificationLifetimeHours : ℤ
  queueHistory : QueueHistory

def EditableField.get (policy : PlatformRetentionPolicy) : (f : EditableField) → f.Value
  | .numeric f => policy.numeric f
  | .boolean f => policy.boolean f

def defaultRetentionPolicy : PlatformRetentionPolicy where
  numeric
    | .aiHistoryContentDays => 7
    | .aiHistoryAttachmentDays => 7
    | .adminLogActivityDays => 30
    | .adminLogDomainDays => 30
    | .adminLogSystemDays => 30
    | .adminLogAuditDays => 365
    | .adminLogSecurityDays => 365
    | .adminLogAdminDays => 365
    | .accessTokenLifetimeMinutes => 15
    | .refreshTokenLifetimeDays => 30
    | .extensionSessionLifetimeHours => 1
    | .extensionSessionRefreshAfterSeconds => 900
    | .maxPromptImageAttachments => 8
    | .maxPromptImageAttachmentMegabytes => 10
    | .passwordResetLifetimeHours => 1
  boolean
    | .adminLogRetentionEnabled => false
    | .adminLogSensitiveRetentionEnabled => false
  legacyAiRequestDays := 7
  emailVerificationLifetimeHours := 24
  queueHistory := queueHistoryDefaults

/-! ## The checks -/

def parseInteger (label : String) (range : ℤ × ℤ) (value : JsValue) : Except Exception ℤ :=
  match value with
  | .number (some q) =>
    if !q.isInt then .error (.error s!"{label} must be a finite integer number.")
    else if q.num < range.1 ∨ range.2 < q.num then
      .error (.error s!"{label} must be between {range.1} and {range.2}.")
    else .ok q.num
  | _ => .error (.error s!"{label} must be a finite integer number.")

def parseIntegerField (f : EditableNumericField) (value : JsValue) : Except Exception ℤ :=
  parseInteger f.name (retentionPolicyRange f) value

def parseBooleanField (f : EditableBooleanField) (value : JsValue) : Except Exception Bool :=
  match value with
  | .bool b => .ok b
  | _ => .error (.error s!"{f.name} must be a boolean.")

def EditableField.check : (f : EditableField) → JsValue → Except Exception f.Value
  | .numeric f, value => parseIntegerField f value
  | .boolean f, value => parseBooleanField f value

def EditableField.encode : (f : EditableField) → f.Value → JsValue
  | .numeric _, value => ofNumber value
  | .boolean _, value => .bool value

def parseLegacyAiRequestDays (value : JsValue) : Except Exception ℤ :=
  match value with
  | .number (some q) =>
    if !q.isInt ∨ q < 1 ∨ 365 < q then
      .error (.error "legacyAiRequestDays must be between 1 and 365 when provided.")
    else .ok q.num
  | _ => .error (.error "legacyAiRequestDays must be between 1 and 365 when provided.")

def parseQueueHistoryIntegerField (queue : PlatformQueue) (f : QueueHistoryField)
    (value : JsValue) : Except Exception ℤ :=
  parseInteger s!"queueHistory.{queue.name}.{f.name}" (queueHistoryFieldRange f) value

abbrev QueueHistoryPatch := PlatformQueue → QueueHistoryField → Option ℤ

/-- The numbers of one queue, member by member. -/
def readQueueEntry (queue : PlatformQueue) : Payload → Except Exception (QueueHistoryField → Option ℤ)
  | [] => .ok fun _ => none
  | (key, value) :: members =>
    match queueHistoryFields.find? fun f => f.name = key with
    | none => .error (.error s!"Unknown queue history field: queueHistory.{queue.name}.{key}.")
    | some f => do
        let number ← parseQueueHistoryIntegerField queue f value
        let numbers ← readQueueEntry queue members
        return Function.update numbers f (some number)

def readQueueEntries : Payload → Except Exception QueueHistoryPatch
  | [] => .ok fun _ _ => none
  | (queueName, entry) :: members =>
    match platformQueues.find? fun queue => queue.name = queueName with
    | none => .error (.error s!"Unknown queue history field: {queueName}.")
    | some queue =>
      match entry with
      | .object numbers => do
          let numbers ← readQueueEntry queue numbers
          let queues ← readQueueEntries members
          return Function.update queues queue numbers
      | _ => .error (.error s!"queueHistory.{queueName} must be an object.")

def readQueueHistory : JsValue → Except Exception QueueHistoryPatch
  | .object members => readQueueEntries members
  | _ => .error (.error "queueHistory must be an object.")

/-- The numbers of a patch, and the others from a base. -/
def mergeQueueHistory (base : QueueHistory) (patch : QueueHistoryPatch) : QueueHistory :=
  fun queue f => (patch queue f).getD (base queue f)

def parseQueueHistoryPolicy (input : JsValue) : Except Exception QueueHistory := do
  let given ← readQueueHistory input
  return mergeQueueHistory queueHistoryDefaults given

/-! ## The document -/

def parseAndNormalizeRetentionPolicy (input : JsValue) :
    Except Exception PlatformRetentionPolicy := do
  let source : Payload := match input with
    | .object members => members
    | _ => []
  let editable ← readFields (fun f => readMember source f.name f.check) editableFields
  let legacyAiRequestDays ← readMember source "legacyAiRequestDays" parseLegacyAiRequestDays
  let queueHistory ← readMember source "queueHistory" parseQueueHistoryPolicy
  return {
    numeric := fun f => (editable (.numeric f)).getD (defaultRetentionPolicy.numeric f)
    boolean := fun f => (editable (.boolean f)).getD (defaultRetentionPolicy.boolean f)
    legacyAiRequestDays := legacyAiRequestDays.getD defaultRetentionPolicy.legacyAiRequestDays
    emailVerificationLifetimeHours := defaultRetentionPolicy.emailVerificationLifetimeHours
    queueHistory := queueHistory.getD defaultRetentionPolicy.queueHistory }

structure RetentionPatch where
  editable : (f : EditableField) → Option f.Value
  queueHistory : Option QueueHistoryPatch

def checkRetentionKeys (input : Payload) : Except Exception Unit :=
  input.forM fun member =>
    if member.1 = "legacyAiRequestDays" then
      .error (.error "legacyAiRequestDays is read-only for legacy rows and cannot be updated.")
    else if member.1 = "emailVerificationLifetimeHours" then
      .error (.error ("emailVerificationLifetimeHours is reserved for a future email " ++
        "verification flow and cannot be updated yet."))
    else if member.1 = "queueHistory" ∨ member.1 ∈ editableFields.map EditableField.name then
      .ok ()
    else .error (.error s!"Unknown retention field: {member.1}.")

def parseRetentionPolicyPatch (input : JsValue) : Except Exception RetentionPatch :=
  match input with
  | .object members => do
      checkRetentionKeys members
      let editable ← readFields (fun f => readMember members f.name f.check) editableFields
      let queueHistory ← readMember members "queueHistory" readQueueHistory
      return ⟨editable, queueHistory⟩
  | _ => .error (.error "Retention policy patch must be an object.")

def encodeQueueHistory (queueHistory : QueueHistory) : JsValue :=
  .object (platformQueues.map fun queue => (queue.name,
    .object (queueHistoryFields.map fun f => (f.name, ofNumber (queueHistory queue f)))))

def retentionMembers (policy : PlatformRetentionPolicy) : Payload :=
  (editableFields.map fun f => (f.name, f.encode (f.get policy))) ++
    [("legacyAiRequestDays", ofNumber policy.legacyAiRequestDays),
      ("emailVerificationLifetimeHours", ofNumber policy.emailVerificationLifetimeHours),
      ("queueHistory", encodeQueueHistory policy.queueHistory)]

/-- The members of `{ ...base, ...patch, queueHistory }`; of two members of one name the first
one counts. -/
def mergeRetentionPolicy (base : PlatformRetentionPolicy) (patch : RetentionPatch) :
    Except Exception PlatformRetentionPolicy :=
  let mergedQueueHistory := mergeQueueHistory base.queueHistory
    (patch.queueHistory.getD fun _ _ => none)
  parseAndNormalizeRetentionPolicy (.object
    (("queueHistory", encodeQueueHistory mergedQueueHistory) ::
      givenMembers EditableField.name (fun f => (patch.editable f).map f.encode) editableFields ++
        retentionMembers base))

/-! ## The service -/

/-- The variables of the environment, as `readBooleanEnv` and `readPositiveIntEnv` read them;
none where they fall back. -/
structure RetentionEnv where
  adminLogRetentionEnabled : Option Bool
  adminLogSensitiveRetentionEnabled : Option Bool
  adminLogActivityDays : Option ℤ
  adminLogDomainDays : Option ℤ
  adminLogSystemDays : Option ℤ
  adminLogAuditDays : Option ℤ
  adminLogSecurityDays : Option ℤ
  adminLogAdminDays : Option ℤ

def readEnvFallbackPolicy (env : RetentionEnv) : PlatformRetentionPolicy :=
  { defaultRetentionPolicy with
    numeric := fun f =>
      let fromEnv := match f with
        | .adminLogActivityDays => env.adminLogActivityDays
        | .adminLogDomainDays => env.adminLogDomainDays
        | .adminLogSystemDays => env.adminLogSystemDays
        | .adminLogAuditDays => env.adminLogAuditDays
        | .adminLogSecurityDays => env.adminLogSecurityDays
        | .adminLogAdminDays => env.adminLogAdminDays
        | _ => none
      fromEnv.getD (defaultRetentionPolicy.numeric f)
    boolean := fun f =>
      let fromEnv := match f with
        | .adminLogRetentionEnabled => env.adminLogRetentionEnabled
        | .adminLogSensitiveRetentionEnabled => env.adminLogSensitiveRetentionEnabled
      fromEnv.getD (defaultRetentionPolicy.boolean f) }

/-- `getRetentionPolicy`, on the row that was found. -/
def readRetentionPolicy (env : RetentionEnv) : Option JsValue →
    Except Exception PlatformRetentionPolicy
  | none => .ok (readEnvFallbackPolicy env)
  | some row => parseAndNormalizeRetentionPolicy row

def EditableField.changed (current nextPolicy : PlatformRetentionPolicy) : EditableField → Bool
  | .numeric f => current.numeric f ≠ nextPolicy.numeric f
  | .boolean f => current.boolean f ≠ nextPolicy.boolean f

/-- `changedFields` is not empty; a merged queue history is a new object. -/
def retentionChanges (current nextPolicy : PlatformRetentionPolicy) (patch : RetentionPatch) :
    Bool :=
  patch.queueHistory.isSome || editableFields.any fun f =>
    (patch.editable f).isSome && f.changed current nextPolicy

def retentionKind (env : RetentionEnv) : DocumentKind PlatformRetentionPolicy RetentionPatch where
  read := readRetentionPolicy env
  parse := parseAndNormalizeRetentionPolicy
  parsePatch := parseRetentionPolicyPatch
  merge := mergeRetentionPolicy
  encode := fun policy => .object (retentionMembers policy)
  changes := retentionChanges
  writeError := asBadRequest

def updateRetentionPolicy (env : RetentionEnv) (request : Option JsValue) :
    RowProg JsValue Exception PlatformRetentionPolicy :=
  updateDocument (retentionKind env) request

/-! ## Reading back -/

theorem parseInteger_encode {label : String} {range : ℤ × ℤ} {n w : ℤ}
    (h : parseInteger label range (ofNumber n) = .ok w) : w = n := by
  simp only [parseInteger, ofNumber] at h
  split at h
  · cases h
  split at h
  · cases h
  · have hw := Except.ok.inj h
    rw [← hw, Rat.num_intCast]

theorem EditableField.check_encode {f : EditableField} {value w : f.Value}
    (h : f.check (f.encode value) = .ok w) : w = value := by
  cases f with
  | numeric f => exact parseInteger_encode h
  | boolean f => exact (Except.ok.inj h).symm

theorem parseLegacyAiRequestDays_encode {n w : ℤ}
    (h : parseLegacyAiRequestDays (ofNumber n) = .ok w) : w = n := by
  simp only [parseLegacyAiRequestDays, ofNumber] at h
  split at h
  · cases h
  · exact (Except.ok.inj h).symm

theorem QueueHistoryField.find_name (f : QueueHistoryField) :
    (queueHistoryFields.find? fun g => g.name = f.name) = some f := by
  cases f <;> rfl

theorem find_platformQueue (queue : PlatformQueue) :
    (platformQueues.find? fun q => q.name = queue.name) = some queue := by
  cases queue <;> rfl

theorem readQueueEntry_encode {queue : PlatformQueue} {x : QueueHistoryField → ℤ}
    {fields : List QueueHistoryField} {numbers : QueueHistoryField → Option ℤ}
    (h : readQueueEntry queue (fields.map fun f => (f.name, ofNumber (x f))) = .ok numbers)
    {f : QueueHistoryField} (hf : f ∈ fields) : numbers f = some (x f) := by
  induction fields generalizing numbers with
  | nil => cases hf
  | cons first fields ih =>
    simp only [List.map_cons, readQueueEntry, QueueHistoryField.find_name, bind, Except.bind] at h
    split at h
    · cases h
    rename_i number hnumber
    split at h
    · cases h
    obtain rfl := Except.ok.inj h
    obtain rfl : number = x first := parseInteger_encode hnumber
    by_cases heq : f = first
    · subst heq
      rw [Function.update_self]
    · simp_all

theorem readQueueEntries_encode {x : QueueHistory} {queues : List PlatformQueue}
    {patch : QueueHistoryPatch}
    (h : readQueueEntries (queues.map fun queue => (queue.name,
      .object (queueHistoryFields.map fun f => (f.name, ofNumber (x queue f))))) = .ok patch)
    {queue : PlatformQueue} (hqueue : queue ∈ queues) (f : QueueHistoryField) :
    patch queue f = some (x queue f) := by
  have hf : f ∈ queueHistoryFields := by cases f <;> decide
  induction queues generalizing patch with
  | nil => cases hqueue
  | cons first queues ih =>
    simp only [List.map_cons, readQueueEntries, find_platformQueue, bind, Except.bind] at h
    split at h
    · cases h
    rename_i numbers hnumbers
    split at h
    · cases h
    obtain rfl := Except.ok.inj h
    by_cases heq : queue = first
    · subst heq
      rw [Function.update_self]
      exact readQueueEntry_encode hnumbers hf
    · simp_all

theorem parseQueueHistoryPolicy_encode {x y : QueueHistory}
    (h : parseQueueHistoryPolicy (encodeQueueHistory x) = .ok y) : y = x := by
  simp only [parseQueueHistoryPolicy, bind, Except.bind] at h
  split at h
  · cases h
  rename_i patch hpatch
  obtain rfl := Except.ok.inj h
  funext queue f
  have hqueue : queue ∈ platformQueues := by cases queue <;> decide
  rw [mergeQueueHistory, readQueueEntries_encode hpatch hqueue f, Option.getD_some]

/-! ## Merging keeps the other fields -/

theorem EditableField.name_ne_other (f : EditableField) :
    f.name ≠ "legacyAiRequestDays" ∧ f.name ≠ "queueHistory" := by
  rcases f with f | f <;> cases f <;> decide

/-- The members of `raw` are those of the policy; what it says about email verifications does
not count. -/
structure HoldsPolicy (raw : Payload) (policy : PlatformRetentionPolicy) : Prop where
  editable : ∀ f : EditableField, raw.lookup f.name = some (f.encode (f.get policy))
  legacyAiRequestDays :
    raw.lookup "legacyAiRequestDays" = some (ofNumber policy.legacyAiRequestDays)
  queueHistory : raw.lookup "queueHistory" = some (encodeQueueHistory policy.queueHistory)
  emailVerificationLifetimeHours :
    policy.emailVerificationLifetimeHours = defaultRetentionPolicy.emailVerificationLifetimeHours

/-- Every field of the policy passes its check. -/
structure PassesChecks (policy : PlatformRetentionPolicy) : Prop where
  editable : ∀ f : EditableField, f.check (f.encode (f.get policy)) = .ok (f.get policy)
  legacyAiRequestDays : parseLegacyAiRequestDays (ofNumber policy.legacyAiRequestDays) =
    .ok policy.legacyAiRequestDays
  queueHistory : parseQueueHistoryPolicy (encodeQueueHistory policy.queueHistory) =
    .ok policy.queueHistory

variable {raw : Payload}

theorem readMember_encode {β : Type} {key : String} {value : JsValue}
    {check : JsValue → Except Exception β} {x : β} {result : Option β}
    (hlook : raw.lookup key = some value) (hcheck : ∀ w, check value = .ok w → w = x)
    (h : readMember raw key check = .ok result) : check value = .ok x ∧ result = some x := by
  simp only [readMember, hlook] at h
  cases hval : check value with
  | error e =>
    rw [hval] at h
    cases h
  | ok w =>
    rw [hval] at h
    obtain rfl := hcheck w hval
    exact ⟨rfl, (Except.ok.inj h).symm⟩

variable {policy : PlatformRetentionPolicy}

variable {nextPolicy : PlatformRetentionPolicy}

theorem HoldsPolicy.parse (hraw : HoldsPolicy raw policy)
    (h : parseAndNormalizeRetentionPolicy (.object raw) = .ok nextPolicy) :
    nextPolicy = policy ∧ PassesChecks policy := by
  simp only [parseAndNormalizeRetentionPolicy, bind, Except.bind] at h
  split at h
  · cases h
  rename_i editable heditable
  split at h
  · cases h
  rename_i legacy hlegacy
  split at h
  · cases h
  rename_i queueHistory hqueueHistory
  have hfields : ∀ f : EditableField, f.check (f.encode (f.get policy)) = .ok (f.get policy) ∧
        editable f = some (f.get policy) := fun f =>
    readMember_encode (hraw.editable f) (fun _ => EditableField.check_encode)
      (readFields_ok heditable (mem_editableFields f))
  have hdays := readMember_encode hraw.legacyAiRequestDays
    (fun _ => parseLegacyAiRequestDays_encode) hlegacy
  have hqueues := readMember_encode hraw.queueHistory
    (fun _ => parseQueueHistoryPolicy_encode) hqueueHistory
  refine ⟨?_, fun f => (hfields f).1, hdays.1, hqueues.1⟩
  obtain rfl := Except.ok.inj h
  have hnumeric : ∀ f, editable (.numeric f) = some (policy.numeric f) :=
    fun f => (hfields (.numeric f)).2
  have hboolean : ∀ f, editable (.boolean f) = some (policy.boolean f) :=
    fun f => (hfields (.boolean f)).2
  simp only [hnumeric, hboolean, hdays.2, hqueues.2, Option.getD_some,
    ← hraw.emailVerificationLifetimeHours]

theorem HoldsPolicy.parse_of_checks (hraw : HoldsPolicy raw policy) (h : PassesChecks policy) :
    parseAndNormalizeRetentionPolicy (.object raw) = .ok policy := by
  have hread : ∀ f ∈ editableFields, readMember raw f.name f.check = .ok (some (f.get policy)) := by
    intro f _
    simp only [readMember, hraw.editable f, h.editable f, Except.map]
  obtain ⟨editable, hfields, hvals⟩ : ∃ editable, readFields
      (fun f : EditableField => readMember raw f.name f.check) editableFields = .ok editable ∧
        ∀ f ∈ editableFields, editable f = some (f.get policy) := readFields_of_ok hread
  have hall : ∀ f, editable f = some (f.get policy) := fun f => hvals f (mem_editableFields f)
  have hlegacy : readMember raw "legacyAiRequestDays" parseLegacyAiRequestDays =
      .ok (some policy.legacyAiRequestDays) := by
    simp only [readMember, hraw.legacyAiRequestDays, h.legacyAiRequestDays, Except.map]
  have hqueues : readMember raw "queueHistory" parseQueueHistoryPolicy =
      .ok (some policy.queueHistory) := by
    simp only [readMember, hraw.queueHistory, h.queueHistory, Except.map]
  simp only [parseAndNormalizeRetentionPolicy, hfields, hlegacy, hqueues, hall, bind, Except.bind,
    pure, Except.pure, Option.getD_some, EditableField.get,
    ← hraw.emailVerificationLifetimeHours]

theorem retentionMembers_holds (hemail : policy.emailVerificationLifetimeHours =
      defaultRetentionPolicy.emailVerificationLifetimeHours) :
    HoldsPolicy (retentionMembers policy) policy := by
  refine ⟨fun f => ?_, ?_, ?_, hemail⟩
  · have hfield : (editableFields.map fun f => (f.name, f.encode (f.get policy))).lookup f.name =
        some (f.encode (f.get policy)) :=
      lookup_members EditableField.name_injective (mem_editableFields f)
    rw [retentionMembers, List.lookup_append, hfield, Option.some_or]
  all_goals grind [retentionMembers, EditableField.name_ne_other]

/-- The fields as a reader of the settings sees them. -/
inductive RetentionField where
  | editable (f : EditableField)
  | legacyAiRequestDays
  | emailVerificationLifetimeHours
  | queueHistory (queue : PlatformQueue) (f : QueueHistoryField)

abbrev RetentionField.Value : RetentionField → Type
  | .editable f => f.Value
  | .legacyAiRequestDays => ℤ
  | .emailVerificationLifetimeHours => ℤ
  | .queueHistory _ _ => ℤ

def RetentionField.get (policy : PlatformRetentionPolicy) : (f : RetentionField) → f.Value
  | .editable f => f.get policy
  | .legacyAiRequestDays => policy.legacyAiRequestDays
  | .emailVerificationLifetimeHours => policy.emailVerificationLifetimeHours
  | .queueHistory queue f => policy.queueHistory queue f

/-- What a patch mentions. -/
def RetentionField.given (patch : RetentionPatch) : (f : RetentionField) → Option f.Value
  | .editable f => patch.editable f
  | .legacyAiRequestDays => none
  | .emailVerificationLifetimeHours => none
  | .queueHistory queue f => patch.queueHistory.bind fun numbers => numbers queue f

/-- The base with the fields of the patch. -/
def patched (base : PlatformRetentionPolicy) (patch : RetentionPatch) : PlatformRetentionPolicy :=
  { base with
    numeric := fun f => (patch.editable (.numeric f)).getD (base.numeric f)
    boolean := fun f => (patch.editable (.boolean f)).getD (base.boolean f)
    queueHistory := mergeQueueHistory base.queueHistory
      (patch.queueHistory.getD fun _ _ => none) }

theorem get_patched (base : PlatformRetentionPolicy) (patch : RetentionPatch) (f : RetentionField) :
    f.get (patched base patch) = (f.given patch).getD (f.get base) := by
  cases f with
  | editable f => cases f <;> rfl
  | legacyAiRequestDays => rfl
  | emailVerificationLifetimeHours => rfl
  | queueHistory queue f => cases hpatch : patch.queueHistory <;>
      simp [RetentionField.get, RetentionField.given, patched, mergeQueueHistory, hpatch]

theorem readRetentionPolicy_email {env : RetentionEnv} {row : Option JsValue}
    (h : readRetentionPolicy env row = .ok policy) :
    policy.emailVerificationLifetimeHours =
      defaultRetentionPolicy.emailVerificationLifetimeHours := by
  cases row with
  | none =>
    obtain rfl := Except.ok.inj h
    rfl
  | some row =>
    simp only [readRetentionPolicy, parseAndNormalizeRetentionPolicy, bind, Except.bind] at h
    split at h
    · cases h
    split at h
    · cases h
    split at h
    · cases h
    · obtain rfl := Except.ok.inj h
      rfl

variable {base : PlatformRetentionPolicy}

/-- What `mergeRetentionPolicy` parses holds the base with the fields of the patch. -/
theorem merged_holds (patch : RetentionPatch) (hemail : base.emailVerificationLifetimeHours =
      defaultRetentionPolicy.emailVerificationLifetimeHours) :
    HoldsPolicy (("queueHistory", encodeQueueHistory (patched base patch).queueHistory) ::
        givenMembers EditableField.name (fun f => (patch.editable f).map f.encode) editableFields ++
          retentionMembers base) (patched base patch) := by
  have hbase := retentionMembers_holds hemail
  refine ⟨fun f => ?_, ?_, rfl, hemail⟩
  · have hne : (f.name == "queueHistory") = false :=
      beq_eq_false_iff_ne.mpr (EditableField.name_ne_other f).2
    rw [List.cons_append, List.lookup_cons, hne]
    rw [List.lookup_append, lookup_givenMembers EditableField.name_injective,
      if_pos (mem_editableFields f), hbase.editable f]
    have hget : f.get (patched base patch) = (patch.editable f).getD (f.get base) :=
      get_patched base patch (.editable f)
    rw [hget]
    cases patch.editable f <;> rfl
  rw [List.cons_append, List.lookup_cons]
  rw [List.lookup_append, lookup_givenMembers_of_ne fun f => (EditableField.name_ne_other f).1]
  rfl

/-- A merge goes through exactly if the result passes every check. -/
theorem mergeRetentionPolicy_iff
    {patch : RetentionPatch} (hemail : base.emailVerificationLifetimeHours =
      defaultRetentionPolicy.emailVerificationLifetimeHours) :
    mergeRetentionPolicy base patch = .ok nextPolicy ↔
      nextPolicy = patched base patch ∧ PassesChecks (patched base patch) := by
  constructor
  · intro h
    exact (merged_holds patch hemail).parse h
  · rintro ⟨rfl, hchecks⟩
    exact (merged_holds patch hemail).parse_of_checks hchecks

theorem retention_keepsFields (env : RetentionEnv) :
    KeepsFields (retentionKind env) RetentionField.get fun patch f => f.given patch := by
  intro row base patch nextPolicy hread hmerge
  have hemail := readRetentionPolicy_email hread
  rcases (mergeRetentionPolicy_iff hemail).mp hmerge with ⟨rfl, hchecks⟩
  refine ⟨fun f => get_patched base patch f, ?_⟩
  have hnext : HoldsPolicy (retentionMembers (patched base patch)) (patched base patch) :=
    retentionMembers_holds hemail
  exact hnext.parse_of_checks hchecks

end QuizMind.Settings
