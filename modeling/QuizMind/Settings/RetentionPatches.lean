import QuizMind.Settings.Retention

/-! # Which retention patches go through

A patch is checked when it is parsed, and the merged policy is checked again as a whole. What
an update has stored passes the second check, so nothing but the patch can fail there, and the
patch has passed. Without a stored row the base comes from the environment, and
`readPositiveIntEnv` takes every positive number: the second check then also fails on a number
that the patch does not mention (`retention_patch_applies_iff`).

The worker reads the queue history of the stored document with a parser of its own, which skips
what it does not accept.
-/

namespace QuizMind.Settings

open Async
open Ai (JsValue Payload)
open Queue (PlatformQueue)

/-! ## The environment -/

/-- The environment of the process, `Number(text)` where it is finite, and `toLowerCase`. -/
structure ApiProcess where
  env : String → Option String
  numberOf : String → Option ℚ
  toLowerCase : String → String

namespace ApiProcess

/-- None where it returns the fallback. -/
def readBooleanEnv (process : ApiProcess) (name : String) : Option Bool :=
  ((process.env name).filter fun value => value ≠ "").map fun value =>
    ["1", "true", "yes", "on"].contains (process.toLowerCase (jsTrim value))

/-- None where it returns the fallback. -/
def readPositiveIntEnv (process : ApiProcess) (name : String) : Option ℤ :=
  match ((process.env name).filter fun value => value ≠ "").bind process.numberOf with
  | none => none
  | some parsed => if 0 < parsed then some ⌊parsed⌋ else none

def retentionEnv (process : ApiProcess) : RetentionEnv where
  adminLogRetentionEnabled := process.readBooleanEnv "ADMIN_LOG_RETENTION_ENABLED"
  adminLogSensitiveRetentionEnabled :=
    process.readBooleanEnv "ADMIN_LOG_RETENTION_SENSITIVE_ENABLED"
  adminLogActivityDays := process.readPositiveIntEnv "ADMIN_LOG_RETENTION_ACTIVITY_DAYS"
  adminLogDomainDays := process.readPositiveIntEnv "ADMIN_LOG_RETENTION_DOMAIN_DAYS"
  adminLogSystemDays := process.readPositiveIntEnv "ADMIN_LOG_RETENTION_SYSTEM_DAYS"
  adminLogAuditDays := process.readPositiveIntEnv "ADMIN_LOG_RETENTION_AUDIT_DAYS"
  adminLogSecurityDays := process.readPositiveIntEnv "ADMIN_LOG_RETENTION_SECURITY_DAYS"
  adminLogAdminDays := process.readPositiveIntEnv "ADMIN_LOG_RETENTION_ADMIN_DAYS"

end ApiProcess

/-! ## The worker -/

/-- The comparisons of the worker. -/
def workerAccepts (f : QueueHistoryField) (value : ℤ) : Bool :=
  match f with
  | .attempts => !(value < 1 || 20 < value)
  | .removeOnComplete | .removeOnFail => !(value < 0 || 10000 < value)

def workerNumber (f : QueueHistoryField) : JsValue → Option ℤ
  | .number (some q) => if q.isInt && workerAccepts f q.num then some q.num else none
  | _ => none

/-- A queue or a number that is not accepted keeps the default. -/
def parseQueuePolicyFromUnknown : JsValue → Option QueueHistory
  | .object source => some fun queue f =>
      match source.lookup queue.name with
      | some (.object item) =>
          ((item.lookup f.name).bind (workerNumber f)).getD (queueHistoryDefaults queue f)
      | _ => queueHistoryDefaults queue f
  | _ => none

/-- The queue policy from the row that was found; without a `queueHistory` there is nothing
to parse. -/
def resolveWorkerQueuePolicy : Option JsValue → Option QueueHistory
  | some (.object members) => (members.lookup "queueHistory").bind parseQueuePolicyFromUnknown
  | _ => none

/-! ## The ranges -/

def DaysInRange (range : ℤ × ℤ) (n : ℤ) : Prop := range.1 ≤ n ∧ n ≤ range.2

instance (range : ℤ × ℤ) (n : ℤ) : Decidable (DaysInRange range n) :=
  inferInstanceAs (Decidable (_ ∧ _))

variable {n : ℤ}

theorem parseInteger_inRange {label : String} {range : ℤ × ℤ} {value : JsValue}
    (h : parseInteger label range value = .ok n) : DaysInRange range n := by
  unfold parseInteger at h
  split at h
  · split at h
    · cases h
    · split at h
      · cases h
      · rename_i hrange
        obtain rfl := Except.ok.inj h
        rw [not_or, not_lt, not_lt] at hrange
        exact hrange
  · cases h

theorem parseInteger_ofNumber {label : String} {range : ℤ × ℤ} :
    parseInteger label range (ofNumber n) = .ok n ↔ DaysInRange range n := by
  refine ⟨parseInteger_inRange, fun h => ?_⟩
  have hrange : ¬ (n < range.1 ∨ range.2 < n) := by
    rw [not_or, not_lt, not_lt]
    exact h
  simp [parseInteger, ofNumber, Rat.isInt, hrange]

/-- The numbers that a patch mentions are in their ranges. -/
theorem readQueueEntry_inRange {queue : PlatformQueue} {members : Payload}
    {numbers : QueueHistoryField → Option ℤ} (h : readQueueEntry queue members = .ok numbers)
    {f : QueueHistoryField} (hn : numbers f = some n) : DaysInRange (queueHistoryFieldRange f) n := by
  induction members generalizing numbers with
  | nil =>
    obtain rfl := Except.ok.inj h
    cases hn
  | cons member members ih =>
    unfold readQueueEntry at h
    split at h
    · cases h
    rename_i first _
    rcases bind_eq_ok_iff.mp h with ⟨number, hnumber, h⟩
    rcases bind_eq_ok_iff.mp h with ⟨rest, hrest, h⟩
    obtain rfl := Except.ok.inj h
    by_cases heq : f = first
    · subst heq
      rw [Function.update_self] at hn
      obtain rfl := Option.some.inj hn
      exact parseInteger_inRange hnumber
    · rw [Function.update_of_ne heq] at hn
      exact ih hrest hn

theorem readQueueEntries_inRange {members : Payload} {patch : QueueHistoryPatch}
    (h : readQueueEntries members = .ok patch) {queue : PlatformQueue} {f : QueueHistoryField}
    (hn : patch queue f = some n) : DaysInRange (queueHistoryFieldRange f) n := by
  induction members generalizing patch with
  | nil =>
    obtain rfl := Except.ok.inj h
    cases hn
  | cons member members ih =>
    unfold readQueueEntries at h
    split at h
    · cases h
    rename_i first _
    split at h
    · rcases bind_eq_ok_iff.mp h with ⟨numbers, hnumbers, h⟩
      rcases bind_eq_ok_iff.mp h with ⟨rest, hrest, h⟩
      obtain rfl := Except.ok.inj h
      by_cases heq : queue = first
      · subst heq
        rw [Function.update_self] at hn
        exact readQueueEntry_inRange hnumbers hn
      · simp_all
    · cases h

/-- What is given in a parsed patch is in its range. -/
theorem given_inRange {input : JsValue} {patch : RetentionPatch}
    (h : parseRetentionPolicyPatch input = .ok patch) :
    (∀ f n, patch.editable (.numeric f) = some n → DaysInRange (retentionPolicyRange f) n) ∧
      ∀ queue f n, RetentionField.given patch (.queueHistory queue f) = some n →
        DaysInRange (queueHistoryFieldRange f) n := by
  unfold parseRetentionPolicyPatch at h
  split at h
  · rcases bind_eq_ok_iff.mp h with ⟨_, -, h⟩
    rcases bind_eq_ok_iff.mp h with ⟨editable, heditable, h⟩
    rcases bind_eq_ok_iff.mp h with ⟨queueHistory, hqueueHistory, h⟩
    obtain rfl := Except.ok.inj h
    constructor
    · intro f n hn
      have hread := readFields_ok heditable (mem_editableFields (.numeric f))
      rw [show editable (.numeric f) = some n from hn] at hread
      rcases readMember_some hread with ⟨value, hval⟩
      exact parseInteger_inRange hval
    intro queue f n hn
    rcases Option.bind_eq_some_iff.mp hn with ⟨numbers, hnumbers, hn⟩
    rw [show queueHistory = some numbers from hnumbers] at hqueueHistory
    rcases readMember_some hqueueHistory with ⟨value, hval⟩
    cases value with
    | object members => exact readQueueEntries_inRange hval hn
    | null | bool | number | string | array => cases hval
  · cases h

/-! ## The check of a whole policy -/

/-- Every number of the policy is in its range. -/
structure RangesHold (policy : PlatformRetentionPolicy) : Prop where
  numeric : ∀ f, DaysInRange (retentionPolicyRange f) (policy.numeric f)
  legacyAiRequestDays : DaysInRange (1, 365) policy.legacyAiRequestDays
  queueHistory : ∀ queue f, DaysInRange (queueHistoryFieldRange f) (policy.queueHistory queue f)

theorem parseLegacyAiRequestDays_ofNumber :
    parseLegacyAiRequestDays (ofNumber n) = .ok n ↔ DaysInRange (1, 365) n := by
  have hone : ((n : ℚ) < 1) ↔ n < 1 := by exact_mod_cast Iff.rfl
  have hmax : ((365 : ℚ) < n) ↔ 365 < n := by exact_mod_cast Iff.rfl
  have hcheck : parseLegacyAiRequestDays (ofNumber n) = if n < 1 ∨ 365 < n then
      .error (.error "legacyAiRequestDays must be between 1 and 365 when provided.")
    else .ok n := by
    simp [parseLegacyAiRequestDays, ofNumber, Rat.isInt, hone, hmax]
  rw [hcheck, DaysInRange]
  split <;> simp <;> omega

theorem readQueueEntry_ok (queue : PlatformQueue) {x : QueueHistoryField → ℤ}
    (h : ∀ f, DaysInRange (queueHistoryFieldRange f) (x f)) (fields : List QueueHistoryField) :
    ∃ numbers, readQueueEntry queue (fields.map fun f => (f.name, ofNumber (x f))) =
      .ok numbers := by
  induction fields with
  | nil => exact ⟨_, rfl⟩
  | cons first fields ih =>
    rcases ih with ⟨rest, hrest⟩
    have hnumber : parseQueueHistoryIntegerField queue first (ofNumber (x first)) =
        .ok (x first) := parseInteger_ofNumber.mpr (h first)
    refine ⟨Function.update rest first (some (x first)), ?_⟩
    simp only [List.map_cons, readQueueEntry, QueueHistoryField.find_name, hnumber, hrest, bind,
      Except.bind, pure, Except.pure]

theorem readQueueEntries_ok {x : QueueHistory}
    (h : ∀ queue f, DaysInRange (queueHistoryFieldRange f) (x queue f)) (queues : List PlatformQueue) :
    ∃ patch, readQueueEntries (queues.map fun queue => (queue.name,
      .object (queueHistoryFields.map fun f => (f.name, ofNumber (x queue f))))) = .ok patch := by
  induction queues with
  | nil => exact ⟨_, rfl⟩
  | cons first queues ih =>
    rcases ih with ⟨rest, hrest⟩
    rcases readQueueEntry_ok first (h first) queueHistoryFields with ⟨numbers, hnumbers⟩
    refine ⟨Function.update rest first numbers, ?_⟩
    simp only [List.map_cons, readQueueEntries, find_platformQueue, hnumbers, hrest, bind,
      Except.bind, pure, Except.pure]

/-- The queue history that is encoded is parsed back exactly if its numbers are in range. -/
theorem parseQueueHistoryPolicy_iff {x : QueueHistory} :
    parseQueueHistoryPolicy (encodeQueueHistory x) = .ok x ↔
      ∀ queue f, DaysInRange (queueHistoryFieldRange f) (x queue f) := by
  constructor
  · intro h queue f
    rcases bind_eq_ok_iff.mp h with ⟨patch, hpatch, -⟩
    have hqueue : queue ∈ platformQueues := by cases queue <;> decide
    exact readQueueEntries_inRange hpatch (readQueueEntries_encode hpatch hqueue f)
  intro h
  rcases readQueueEntries_ok h platformQueues with ⟨patch, hpatch⟩
  have hparse : parseQueueHistoryPolicy (encodeQueueHistory x) =
      .ok (mergeQueueHistory queueHistoryDefaults patch) := by
    simp only [parseQueueHistoryPolicy, encodeQueueHistory, readQueueHistory, hpatch, bind,
      Except.bind, pure, Except.pure]
  rw [hparse, parseQueueHistoryPolicy_encode hparse]

variable {policy : PlatformRetentionPolicy}

theorem passesChecks_iff : PassesChecks policy ↔ RangesHold policy := by
  constructor
  · intro h
    exact ⟨fun f => parseInteger_ofNumber.mp (h.editable (.numeric f)),
      parseLegacyAiRequestDays_ofNumber.mp h.legacyAiRequestDays,
      parseQueueHistoryPolicy_iff.mp h.queueHistory⟩
  intro h
  refine ⟨fun f => ?_, parseLegacyAiRequestDays_ofNumber.mpr h.legacyAiRequestDays,
    parseQueueHistoryPolicy_iff.mpr h.queueHistory⟩
  cases f with
  | numeric f => exact parseInteger_ofNumber.mpr (h.numeric f)
  | boolean f => rfl

/-- On numbers that are in range the worker reads what is stored. -/
theorem resolveWorkerQueuePolicy_stored (hemail : policy.emailVerificationLifetimeHours =
      defaultRetentionPolicy.emailVerificationLifetimeHours) (h : RangesHold policy) :
    resolveWorkerQueuePolicy (some (.object (retentionMembers policy))) =
      some policy.queueHistory := by
  have hmember := (retentionMembers_holds hemail).queueHistory
  rw [resolveWorkerQueuePolicy, hmember, Option.bind_some, encodeQueueHistory,
    parseQueuePolicyFromUnknown]
  congr 1
  funext queue f
  have hqueue : (platformQueues.map fun queue => (queue.name, JsValue.object
      (queueHistoryFields.map fun f => (f.name, ofNumber (policy.queueHistory queue f))))).lookup
        queue.name = some (.object (queueHistoryFields.map fun f =>
          (f.name, ofNumber (policy.queueHistory queue f)))) := by
    cases queue <;> rfl
  have hnumber : (queueHistoryFields.map fun f =>
      (f.name, ofNumber (policy.queueHistory queue f))).lookup f.name =
        some (ofNumber (policy.queueHistory queue f)) := by
    cases f <;> rfl
  have haccepts : workerAccepts f (policy.queueHistory queue f) = true := by
    have hrange := h.queueHistory queue f
    cases f <;> simpa [workerAccepts, DaysInRange, queueHistoryFieldRange] using hrange
  have hworker : workerNumber f (ofNumber (policy.queueHistory queue f)) =
      some (policy.queueHistory queue f) := by
    simp [workerNumber, ofNumber, Rat.isInt, haccepts]
  simp only [hqueue]
  rw [hnumber, Option.bind_some, hworker, Option.getD_some]

/-! ## The updates -/

section Runs

variable {Policy Patch : Type} (K : DocumentKind Policy Patch) {request row : Option JsValue}

theorem updateDocument_run {plan : PlannedUpdate Policy Patch}
    (h : planUpdate K request row = .ok plan) :
    (updateDocument K request).run RowCall.exec [] row =
      (K.parse (K.encode plan.nextPolicy), some (K.encode plan.nextPolicy)) := by
  simp only [updateDocument, Prog.run_bind, Prog.tryCatch_eq, Prog.run_handle, Prog.run_await,
    RowCall.exec, Prog.andThen_ok, Prog.orElse_ok, h, Prog.ofExcept, Prog.run_ret]
  cases K.changes plan.current plan.nextPolicy plan.patch <;>
    cases K.parse (K.encode plan.nextPolicy) <;> rfl

theorem updateDocument_run_error {e : Exception} (h : planUpdate K request row = .error e) :
    (updateDocument K request).run RowCall.exec [] row = (.error (asBadRequest e), row) := by
  rw [updateDocument, Prog.run_bind, Prog.tryCatch_eq, Prog.run_handle, Prog.run_bind,
    Prog.run_await]
  dsimp only [RowCall.exec, Prog.andThen]
  rw [h]
  rfl

end Runs

/-- The row was stored by an update, in whatever environment and over whatever row. -/
def StoredByUpdate (stored : JsValue) : Prop :=
  ∃ env request row policy, (updateRetentionPolicy env request).run RowCall.exec [] row =
    (.ok policy, some stored)

/-- A policy that was checked, as it is stored. -/
structure StoredPolicy (stored : JsValue) (policy : PlatformRetentionPolicy) : Prop where
  encoded : stored = .object (retentionMembers policy)
  email : policy.emailVerificationLifetimeHours =
    defaultRetentionPolicy.emailVerificationLifetimeHours
  ranges : RangesHold policy

theorem StoredPolicy.read {stored : JsValue} (h : StoredPolicy stored policy) :
    parseAndNormalizeRetentionPolicy stored = .ok policy := by
  rw [h.encoded]
  exact (retentionMembers_holds h.email).parse_of_checks (passesChecks_iff.mpr h.ranges)

/-- What an update writes is a policy that was checked. -/
theorem storedPolicy_of_stored {stored : JsValue} (h : StoredByUpdate stored) :
    ∃ policy, StoredPolicy stored policy := by
  rcases h with ⟨env, request, row, policy, hrun⟩
  rcases hplan : planUpdate (retentionKind env) request row with e | plan
  · rw [updateRetentionPolicy, updateDocument_run_error _ hplan] at hrun
    cases hrun
  rw [updateRetentionPolicy, updateDocument_run _ hplan] at hrun
  rcases bind_eq_ok_iff.mp hplan with ⟨current, hread, hplan⟩
  rcases bind_eq_ok_iff.mp hplan with ⟨patch, -, hplan⟩
  rcases bind_eq_ok_iff.mp hplan with ⟨nextPolicy, hmerge, hplan⟩
  obtain rfl := Except.ok.inj hplan
  have hemail := readRetentionPolicy_email hread
  rcases (mergeRetentionPolicy_iff hemail).mp hmerge with ⟨rfl, hchecks⟩
  exact ⟨patched current patch, (Option.some.inj (Prod.mk.inj hrun).2).symm, hemail,
    passesChecks_iff.mp hchecks⟩

/-- The update goes through: from the policy that `getRetentionPolicy` returns it changes what
the patch mentions and nothing else; what it stores is parsed to itself, and the worker reads
its queue history. -/
def AppliesPatch (env : RetentionEnv) (row request : Option JsValue) (patch : RetentionPatch) :
    Prop :=
  ∃ base nextPolicy, readRetentionPolicy env row = .ok base ∧
    (updateRetentionPolicy env request).run RowCall.exec [] row =
      (.ok nextPolicy, some (.object (retentionMembers nextPolicy))) ∧
    (∀ f : RetentionField, f.get nextPolicy = (f.given patch).getD (f.get base)) ∧
    parseAndNormalizeRetentionPolicy (.object (retentionMembers nextPolicy)) = .ok nextPolicy ∧
    resolveWorkerQueuePolicy (some (.object (retentionMembers nextPolicy))) =
      some nextPolicy.queueHistory

section Patch

variable {env : RetentionEnv} {row request : Option JsValue} {patch : RetentionPatch}
  {base : PlatformRetentionPolicy}

/-- With a patch that was parsed, only a number of the base can be out of its range. -/
theorem patched_ranges (hpatch : parseRetentionPolicyPatch (orEmptyObject request) = .ok patch)
    (hlegacy : DaysInRange (1, 365) base.legacyAiRequestDays)
    (hqueues : ∀ queue f, DaysInRange (queueHistoryFieldRange f) (base.queueHistory queue f)) :
    RangesHold (patched base patch) ↔ ∀ f, (patch.editable (.numeric f)).isSome ∨
      DaysInRange (retentionPolicyRange f) (base.numeric f) := by
  rcases given_inRange hpatch with ⟨hnumbers, hgiven⟩
  constructor
  · intro h f
    rcases hf : patch.editable (.numeric f) with _ | n
    · have hrange := h.numeric f
      simp only [patched, hf] at hrange
      exact Or.inr hrange
    · exact Or.inl rfl
  intro h
  refine ⟨fun f => ?_, hlegacy, fun queue f => ?_⟩
  · rcases hf : patch.editable (.numeric f) with _ | n
    · grind [patched]
    · simpa only [patched, hf, Option.getD_some] using hnumbers f n hf
  have hget := get_patched base patch (.queueHistory queue f)
  simp only [RetentionField.get] at hget
  rw [hget]
  rcases hf : RetentionField.given patch (.queueHistory queue f) with _ | n
  · exact hqueues queue f
  · exact hgiven queue f n hf

/-- The update goes through exactly if the patched policy passes the checks. -/
theorem appliesPatch_iff (hread : readRetentionPolicy env row = .ok base)
    (hpatch : parseRetentionPolicyPatch (orEmptyObject request) = .ok patch) :
    AppliesPatch env row request patch ↔ RangesHold (patched base patch) := by
  have hemail := readRetentionPolicy_email hread
  have hplanned : planUpdate (retentionKind env) request row =
      (mergeRetentionPolicy base patch).map fun nextPolicy => ⟨base, patch, nextPolicy⟩ := by
    simp only [planUpdate, retentionKind, hread, hpatch]
    rfl
  constructor
  · rintro ⟨base', nextPolicy, -, hrun, -⟩
    rcases hmerge : mergeRetentionPolicy base patch with e | merged
    · rw [hmerge] at hplanned
      rw [updateRetentionPolicy, updateDocument_run_error _ hplanned] at hrun
      cases hrun
    · exact passesChecks_iff.mp ((mergeRetentionPolicy_iff hemail).mp hmerge).2
  intro hranges
  have hstored : StoredPolicy (.object (retentionMembers (patched base patch)))
      (patched base patch) := ⟨rfl, hemail, hranges⟩
  have hmerge : mergeRetentionPolicy base patch = .ok (patched base patch) :=
    (mergeRetentionPolicy_iff hemail).mpr ⟨rfl, passesChecks_iff.mpr hranges⟩
  rw [hmerge] at hplanned
  refine ⟨base, patched base patch, hread, ?_, fun f => get_patched base patch f, hstored.read,
    resolveWorkerQueuePolicy_stored hemail hranges⟩
  rw [updateRetentionPolicy, updateDocument_run _ hplanned]
  exact congrArg (·, _) hstored.read

end Patch

/-- A patch that was parsed goes through exactly if a row is stored, or every number of the
environment that it does not mention is in its range. -/
theorem retention_patch_applies_iff (process : ApiProcess) (row request : Option JsValue)
    (patch : RetentionPatch) (hrow : ∀ stored, row = some stored → StoredByUpdate stored)
    (hpatch : parseRetentionPolicyPatch (orEmptyObject request) = .ok patch) :
    AppliesPatch process.retentionEnv row request patch ↔
      row.isSome ∨ ∀ f, (patch.editable (.numeric f)).isSome ∨ DaysInRange (retentionPolicyRange f)
        ((readEnvFallbackPolicy process.retentionEnv).numeric f) := by
  cases row with
  | none =>
    have hread : readRetentionPolicy process.retentionEnv none =
        .ok (readEnvFallbackPolicy process.retentionEnv) := rfl
    have hqueues : ∀ queue f, DaysInRange (queueHistoryFieldRange f)
        ((readEnvFallbackPolicy process.retentionEnv).queueHistory queue f) := by
      intro queue f
      show DaysInRange (queueHistoryFieldRange f) (queueHistoryDefaults queue f)
      cases queue <;> cases f <;> decide
    have hlegacy : DaysInRange (1, 365)
        (readEnvFallbackPolicy process.retentionEnv).legacyAiRequestDays := by
      show DaysInRange (1, 365) 7
      decide
    rw [appliesPatch_iff hread hpatch, patched_ranges hpatch hlegacy hqueues]
    simp
  | some stored =>
    rcases storedPolicy_of_stored (hrow stored rfl) with ⟨policy, hstored⟩
    have hread : readRetentionPolicy process.retentionEnv (some stored) = .ok policy := hstored.read
    rw [appliesPatch_iff hread hpatch,
      patched_ranges hpatch hstored.ranges.legacyAiRequestDays hstored.ranges.queueHistory]
    simp only [Option.isSome_some, true_or, iff_true]
    exact fun f => Or.inr (hstored.ranges.numeric f)

/-! ## A number of the environment -/

def contentDaysRequest : Option JsValue := some (.object [("aiHistoryContentDays", ofNumber 5)])

/-- Audit entries are kept for a week. -/
def weekProcess : ApiProcess where
  env := fun name => if name = "ADMIN_LOG_RETENTION_AUDIT_DAYS" then some "7" else none
  numberOf := fun text => if text = "7" then some 7 else none
  toLowerCase := id

def plainProcess : ApiProcess := { weekProcess with env := fun _ => none }

theorem retention_patch_applies_contentDays :
    ∃ patch, parseRetentionPolicyPatch (orEmptyObject contentDaysRequest) = .ok patch ∧
      AppliesPatch plainProcess.retentionEnv none contentDaysRequest patch := by
  have hok : (parseRetentionPolicyPatch (orEmptyObject contentDaysRequest)).isOk = true := by
    decide +kernel
  rcases hpatch : parseRetentionPolicyPatch (orEmptyObject contentDaysRequest) with e | patch
  · rw [hpatch] at hok
    cases hok
  refine ⟨patch, rfl, ?_⟩
  refine (retention_patch_applies_iff plainProcess none contentDaysRequest patch nofun hpatch).mpr
    (Or.inr fun f => Or.inr ?_)
  cases f <;> decide +kernel

/-- The audit days of the environment are not in the patch, and the patch is refused. -/
theorem contentDays_refused :
    (parseRetentionPolicyPatch (orEmptyObject contentDaysRequest)).isOk = true ∧
      ¬ ∃ patch, AppliesPatch weekProcess.retentionEnv none contentDaysRequest patch := by
  constructor
  · decide +kernel
  rintro ⟨patch, base, nextPolicy, -, hrun, -⟩
  have hfails : ((updateRetentionPolicy weekProcess.retentionEnv contentDaysRequest).run
      RowCall.exec [] none).1.isOk = false := by decide +kernel
  rw [hrun] at hfails
  cases hfails

end QuizMind.Settings
