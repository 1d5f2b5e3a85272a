import QuizMind.Settings.Pricing
import QuizMind.Settings.Retention
import QuizMind.Settings.AiProviderPolicy

/-! # What the updates of the settings keep

The three settings are updated in the same way: read the row, merge, write the row. None of
the services locks the row or compares it before the write.

* The fields of an update are kept where no row is written between its read and its write.
* The own keys, the approval and the default provider of the provider policy are set by every
  update.
* Two updates that read the same row: the later write takes back the fields of the earlier
  one.
-/

namespace QuizMind.Settings

open Async
open Ai (JsValue AiProvider AiProviderPolicyRecord resolvePolicy)

/-! ## The fields of an update -/

section Kept

variable {Policy Patch F : Type} {V : F → Type} {K : DocumentKind Policy Patch}
  {get : Policy → (f : F) → V f} {given : Patch → (f : F) → Option (V f)}

theorem document_fieldsKept (h : KeepsFields K get given) :
    FieldsKept (fieldValue K get) (fieldMention K given) (updateDocument K) :=
  fieldsKept (updateDocument_isUpdate K) h.mergesFields

end Kept

/-- A field of the policy in force. -/
def policyValue (platformAiProvider : AiProvider) (f : PolicyField)
    (row : Option AiProviderPolicyRecord) : f.Value :=
  f.get (resolvePolicy platformAiProvider row)

def policyMention (update : PolicyUpdate) (f : PolicyField) : Option f.Value :=
  f.given update.request

/-- Every row that is written has the three fields as its update sets them, from the policy
that the update has read. -/
def DerivedSet (platformAiProvider : AiProvider) : Prop :=
  ∀ initial s,
    (rowMachine (updatePolicyForCurrentSession platformAiProvider)).Reaches (fun _ _ => True)
      (Machine.initial initial) s →
    ∀ (i pid : ℕ) (row answer : AiProviderPolicyRecord),
      s.log[i]? = some ⟨pid, .upsert row, .ok answer⟩ →
      ∃ q j current, s.procs[pid]? = some q ∧ j < i ∧ s.log[j]? = some ⟨pid, .find, .ok current⟩ ∧
        SetsDerived q.1.request (resolvePolicy platformAiProvider current)
          (resolvePolicy platformAiProvider (some row))

theorem policy_derivedSet (platformAiProvider : AiProvider) : DerivedSet platformAiProvider := by
  intro initial s h i pid row answer hi
  have htracked := tracked_of_reaches (updatePolicy_isUpdate platformAiProvider) h
  rcases htracked.written hi with ⟨q, j, hq, hj, hread, hnext⟩
  exact ⟨q, j, _, hq, hj, hread, policy_setsDerived hnext⟩

theorem settings_fields_kept (env : RetentionEnv) (platformAiProvider : AiProvider) :
    FieldsKept (fieldValue (retentionKind env) RetentionField.get)
      (fieldMention (retentionKind env) fun patch f => RetentionField.given patch f)
      (updateRetentionPolicy env) ∧
    FieldsKept (fieldValue pricingKind PricingField.get) (fieldMention pricingKind fun patch f => patch f)
      updatePricingPolicy ∧
    FieldsKept (policyValue platformAiProvider) policyMention
      (updatePolicyForCurrentSession platformAiProvider) ∧
    DerivedSet platformAiProvider := by
  refine ⟨document_fieldsKept (retention_keepsFields env),
    document_fieldsKept pricing_keepsFields, ?_, policy_derivedSet platformAiProvider⟩
  exact fieldsKept (updatePolicy_isUpdate platformAiProvider) (policy_mergesFields platformAiProvider)

/-! ## Two updates that read the same row -/

/-- Switches the pricing on. -/
def enableRequest : Option JsValue := some (.object [("enabled", .bool true)])

/-- Sets the markup to 30 percent. -/
def markupRequest : Option JsValue := some (.object [("markupPercent", ofNumber 30)])

/-- Both updates read, then both write. -/
def overlappingUpdates : List (Label Exception (Option JsValue)) :=
  [.start enableRequest, .start markupRequest, .step 0, .step 1, .step 0, .step 1, .step 0, .step 1]

theorem overlappingUpdates_lost :
    ∃ s, (rowMachine updatePricingPolicy).Reaches (fun s l => Machine.noFailure s l)
        (Machine.initial none) s ∧
      (∀ q ∈ s.procs, Async.hasReturned q.2 = true) ∧
      LostUpdate (fieldValue pricingKind PricingField.get)
        (fieldMention pricingKind fun patch f => patch f) .enabled s = true := by
  have hrun : ((rowMachine updatePricingPolicy).trace Machine.noFailure overlappingUpdates
      (Machine.initial none)).map (fun s => (s.procs.all fun q => Async.hasReturned q.2) &&
        LostUpdate (fieldValue pricingKind PricingField.get)
          (fieldMention pricingKind fun patch f => patch f) .enabled s) = some true := by
    decide +kernel
  rcases Machine.reaches_of_trace_check _ hrun with ⟨s, hreaches, hcheck⟩
  rw [Bool.and_eq_true, List.all_eq_true] at hcheck
  exact ⟨s, hreaches, hcheck.1, hcheck.2⟩

/-! ## An update that mentions neither the mode nor the own keys -/

/-- Own keys are allowed although the mode is `platform_only`. -/
def ownKeyRow : AiProviderPolicyRecord where
  mode := .platform_only
  allowPlatformManaged := true
  allowBringYourOwnKey := true
  allowDirectProviderMode := false
  allowWorkspaceSharedCredentials := false
  requireAdminApproval := false
  allowVisionOnUserKeys := false
  providersJson := .array [.string "openrouter"]
  allowedModelTagsJson := none
  defaultProvider := some "openrouter"
  defaultModel := none
  reason := none

def reasonUpdate : PolicyUpdate where
  session :=
    { userId := "root"
      email := "root@example.org"
      displayName := none
      principal :=
        { userId := "root"
          email := "root@example.org"
          systemRoles := [.admin]
          entitlements := []
          featureFlags := [] } }
  request :=
    { mode := none
      allowPlatformManaged := none
      allowBringYourOwnKey := none
      allowDirectProviderMode := none
      allowWorkspaceSharedCredentials := none
      requireAdminApproval := none
      allowVisionOnUserKeys := none
      providers := none
      allowedModelTags := none
      defaultProvider := none
      defaultModel := none
      reason := some (some "reviewed") }

/-- An admin passes the access check. -/
theorem updatePolicy_of_admin (platformAiProvider : AiProvider) {update : PolicyUpdate}
    (hadmin : SystemRole.admin ∈ update.session.principal.systemRoles) :
    updatePolicyForCurrentSession platformAiProvider update =
      writePolicy platformAiProvider update := by
  have hallowed : requireAccess (canManageAiProviders update.session.principal) = .ok () :=
    (requireAccess_of_admin (by decide)).mpr hadmin
  rw [updatePolicyForCurrentSession, hallowed]
  rfl

def reasonRun : List (Label Exception PolicyUpdate) := [.start reasonUpdate, .step 0, .step 0]

theorem reasonUpdate_resets : ∃ s, (rowMachine (updatePolicyForCurrentSession .openrouter)).Reaches
        (fun s l => Async.undisturbed s l) (Machine.initial (some ownKeyRow)) s ∧
      (∀ q ∈ s.procs, Async.hasReturned q.2 = true ∧ q.1.request.allowBringYourOwnKey = none) ∧
      (resolvePolicy .openrouter s.store).allowBringYourOwnKey = false := by
  have hcode : ∀ update, Label.start update ∈ reasonRun →
      (rowMachine (updatePolicyForCurrentSession .openrouter)).code update =
        (rowMachine (writePolicy .openrouter)).code update := by
    intro update hupd
    obtain rfl : update = reasonUpdate := by simpa [reasonRun] using hupd
    exact updatePolicy_of_admin .openrouter (by decide)
  have hrun : ((rowMachine (writePolicy .openrouter)).trace (fun s l => Async.undisturbed s l) reasonRun
      (Machine.initial (some ownKeyRow))).map (fun s =>
        (s.procs.all fun q =>
          Async.hasReturned q.2 && (q.1.request.allowBringYourOwnKey = none)) &&
        (resolvePolicy .openrouter s.store).allowBringYourOwnKey = false) = some true := by
    decide +kernel
  have hexec : (rowMachine (updatePolicyForCurrentSession .openrouter)).exec =
      (rowMachine (writePolicy .openrouter)).exec := rfl
  rw [← (rowMachine (writePolicy .openrouter)).trace_congr hexec hcode] at hrun
  rcases Machine.reaches_of_trace_check _ hrun with ⟨s, hreaches, hcheck⟩
  simp only [Bool.and_eq_true, List.all_eq_true, decide_eq_true_eq] at hcheck
  exact ⟨s, hreaches, hcheck.1, hcheck.2⟩

theorem settings_update_lost :
    (∃ s, (rowMachine updatePricingPolicy).Reaches (fun s l => Machine.noFailure s l)
        (Machine.initial none) s ∧
      (∀ q ∈ s.procs, Async.hasReturned q.2 = true) ∧
      ¬ Reflects (fieldValue pricingKind PricingField.get)
        (fieldMention pricingKind fun patch f => patch f) .enabled none s) ∧
    ∃ s, (rowMachine (updatePolicyForCurrentSession .openrouter)).Reaches
        (fun s l => Async.undisturbed s l) (Machine.initial (some ownKeyRow)) s ∧
      (∀ q ∈ s.procs, Async.hasReturned q.2 = true ∧ q.1.request.allowBringYourOwnKey = none) ∧
      (resolvePolicy .openrouter s.store).allowBringYourOwnKey ≠
        (resolvePolicy .openrouter (some ownKeyRow)).allowBringYourOwnKey := by
  rcases overlappingUpdates_lost with ⟨s, hreaches, hreturned, hlost⟩
  rcases reasonUpdate_resets with ⟨s', hreaches', hrequests, hreset⟩
  refine ⟨⟨s, hreaches, hreturned, LostUpdate.not_reflects hlost⟩, s', hreaches', hrequests, ?_⟩
  rw [hreset]
  decide

end QuizMind.Settings
