import QuizMind.Settings.Updates

/-! # What an update of the provider policy leaves as it is

The fields that a request omits keep their values, with three exceptions: the own keys and the
approval follow the mode whenever they are omitted, and the default provider is replaced when it
is not among the enabled providers.
-/

namespace QuizMind.Settings

open Async
open Ai (AiProvider AiProviderPolicyRecord AiProviderPolicySnapshot normalizeProviderList
  mapRecordToSnapshot resolvePolicy)

section Frame

variable (platformAiProvider : AiProvider)

/-- The update is accepted: run on its own, it answers with a policy and leaves a row. -/
def Accepts (row : Option AiProviderPolicyRecord) (update : PolicyUpdate)
    (policy : AiProviderPolicySnapshot) (row' : Option AiProviderPolicyRecord) : Prop :=
  ∃ faults, (updatePolicyForCurrentSession platformAiProvider update).run RowCall.exec faults row =
    (.ok policy, row')

variable {platformAiProvider}

variable {row row' : Option AiProviderPolicyRecord} {policy : AiProviderPolicySnapshot}

/-- An accepted update has planned the row that it leaves. -/
theorem Accepts.planned {update : PolicyUpdate} (h : Accepts platformAiProvider row update policy row') :
    ∃ record, nextPolicyRow platformAiProvider update row = .ok record ∧ row' = some record ∧
      policy = mapRecordToSnapshot record := by
  rcases h with ⟨faults, hrun⟩
  unfold updatePolicyForCurrentSession at hrun
  cases haccess : requireAccess (canManageAiProviders update.session.principal) with
  | error e =>
    rw [haccess] at hrun
    cases ((Prog.run_throw ..).symm.trans hrun)
  | ok _ =>
    rw [haccess] at hrun
    have hwrite : (writePolicy platformAiProvider update).run RowCall.exec faults row =
        (.ok policy, row') := hrun
    unfold writePolicy at hwrite
    rw [Prog.run_await_bind] at hwrite
    split at hwrite
    · cases hwrite
    dsimp only [RowCall.exec] at hwrite
    cases hnext : nextPolicyRow platformAiProvider update row with
    | error e =>
      rw [hnext] at hwrite
      cases ((Prog.run_throw ..).symm.trans hwrite)
    | ok record =>
      rw [hnext] at hwrite
      have hupsert := (Prog.run_await_bind RowCall.exec (.upsert record)
        (fun written => Prog.ret (mapRecordToSnapshot written)) faults.tail row).symm.trans
        hwrite
      split at hupsert
      · cases hupsert
      · grind [RowCall.exec, Prog.run_ret]

variable {record : AiProviderPolicyRecord} {request : AiProviderPolicyUpdateRequest}

variable {basePolicy : AiProviderPolicySnapshot}

/-- A planned policy has an enabled provider. -/
theorem planPolicy_providers (h : planPolicy basePolicy request = .ok record) :
    normalizeProviderList request.providers basePolicy.providers ≠ [] := by grind [planPolicy]

/-- A request that gives nothing. -/
def emptyRequest : AiProviderPolicyUpdateRequest where
  mode := none
  allowPlatformManaged := none
  allowBringYourOwnKey := none
  allowDirectProviderMode := none
  allowWorkspaceSharedCredentials := none
  requireAdminApproval := none
  allowVisionOnUserKeys := none
  providers := none
  allowedModelTags := none
  defaultProvider := none
  defaultModel := none
  reason := none

/-- The policy has the three fields as an update without them sets them, and no empty texts. -/
structure FollowsDefaults (policy : AiProviderPolicySnapshot) : Prop where
  ownKey : policy.allowBringYourOwnKey = decide (policy.mode ≠ .platform_only)
  approval : policy.requireAdminApproval = decide (policy.mode = .admin_approved_user_key)
  defaultProvider : ∃ provider ∈ policy.providers, policy.defaultProvider = some provider
  defaultModel : policy.defaultModel ≠ some ""
  reason : policy.reason ≠ some ""

/-- What an update leaves as it is; `old` is the policy before it and `new` the one after it. -/
structure UpdateFrame (request : AiProviderPolicyUpdateRequest)
    (old new : AiProviderPolicySnapshot) : Prop where
  fields : ∀ f : PolicyField, f.given request = none → f.get new = f.get old
  ownKey : request.allowBringYourOwnKey = none →
    new.allowBringYourOwnKey = decide (new.mode ≠ .platform_only)
  approval : request.requireAdminApproval = none →
    new.requireAdminApproval = decide (new.mode = .admin_approved_user_key)
  defaultProvider : request.defaultProvider.join = none →
    new.defaultProvider ≠ old.defaultProvider →
      ∀ provider, old.defaultProvider = some provider → provider ∉ new.providers
  empty : request = emptyRequest → (new = old ↔ FollowsDefaults old)

variable {old : AiProviderPolicySnapshot}

variable {new : AiProviderPolicySnapshot}

/-- The default provider after an update that does not ask for one. -/
theorem defaultProvider_kept (h : SetsDerived request old new)
    (hreq : request.defaultProvider.join = none) {provider : AiProvider}
    (hold : old.defaultProvider = some provider) (hmem : provider ∈ new.providers) :
    new.defaultProvider = old.defaultProvider := by
  have hrequested : requestedDefault request new.providers = none := by
    rw [requestedDefault, hreq]
    rfl
  have hkept : old.defaultProvider.filter new.providers.contains = some provider := by grind
  rw [h.defaultProvider, hrequested, hkept, hold]
  rfl

/-- Where there is an enabled provider, the default after an update is an enabled one. -/
theorem defaultProvider_mem (h : SetsDerived request old new) (hprovs : new.providers ≠ []) :
    ∃ provider ∈ new.providers, new.defaultProvider = some provider := by
  rw [h.defaultProvider]
  cases hrequested : requestedDefault request new.providers with
  | some provider => simp_all [requestedDefault]
  | none =>
    cases hkept : old.defaultProvider.filter new.providers.contains with
    | some provider => simp_all
    | none =>
      cases hlist : new.providers with
      | nil => exact absurd hlist hprovs
      | cons provider providers => exact ⟨provider, List.mem_cons_self, rfl⟩

theorem textOrNone_eq_self {text : Option String} : textOrNone text = text ↔ text ≠ some "" := by
  cases text with
  | none => simp [textOrNone]
  | some text => by_cases h : text = "" <;> simp [textOrNone]

theorem planPolicy_texts (h : planPolicy basePolicy request = .ok record) :
    record.defaultModel = updatedText request.defaultModel basePolicy.defaultModel ∧
      record.reason = updatedText request.reason basePolicy.reason := by grind [planPolicy]

attribute [ext] AiProviderPolicySnapshot

/-- An empty request changes nothing exactly where the policy has what the update would set. -/
theorem empty_unchanged_iff (hplan : planPolicy old emptyRequest = .ok record)
    (hfields : ∀ f : PolicyField, f.get (mapRecordToSnapshot record) = f.get old) :
    mapRecordToSnapshot record = old ↔ FollowsDefaults old := by
  have hderived := (planPolicy_ok hplan).derived
  have htexts := planPolicy_texts hplan
  have hmodel : (mapRecordToSnapshot record).defaultModel = textOrNone old.defaultModel := htexts.1
  have hreason : (mapRecordToSnapshot record).reason = textOrNone old.reason := htexts.2
  have hprovs : (mapRecordToSnapshot record).providers ≠ [] := by
    rw [(planPolicy_ok hplan).providers]
    exact planPolicy_providers hplan
  constructor
  · intro heq
    rw [heq] at hderived hmodel hreason hprovs
    constructor
    · exact hderived.ownKey
    · exact hderived.approval
    · exact defaultProvider_mem hderived hprovs
    · exact textOrNone_eq_self.mp hmodel.symm
    · exact textOrNone_eq_self.mp hreason.symm
  intro hfollows
  have hmode : (mapRecordToSnapshot record).mode = old.mode := hfields .mode
  have hsame : (mapRecordToSnapshot record).providers = old.providers := hfields .providers
  ext1
  · exact hmode
  · exact hfields .allowPlatformManaged
  · rw [hfollows.ownKey, ← hmode]
    exact hderived.ownKey
  · exact hfields .allowDirectProviderMode
  · exact hfields .allowWorkspaceSharedCredentials
  · rw [hfollows.approval, ← hmode]
    exact hderived.approval
  · exact hfields .allowVisionOnUserKeys
  · exact hsame
  · exact hfields .allowedModelTags
  · rcases hfollows.defaultProvider with ⟨provider, hmem, hprov⟩
    rw [← hsame] at hmem
    exact defaultProvider_kept hderived rfl hprov hmem
  · rw [hmodel, textOrNone_eq_self.mpr hfollows.defaultModel]
  · rw [hreason, textOrNone_eq_self.mpr hfollows.reason]

theorem Accepts.updateFrame {update : PolicyUpdate} (h : Accepts platformAiProvider row update policy row') :
    policy = resolvePolicy platformAiProvider row' ∧
      UpdateFrame update.request (resolvePolicy platformAiProvider row) policy := by
  rcases h.planned with ⟨record, hnext, rfl, rfl⟩
  have hderived := policy_setsDerived hnext
  have hmerges := policy_mergesFields platformAiProvider update row record hnext
  refine ⟨rfl, ?_⟩
  constructor
  · intro f hgiven
    have hfield := hmerges f
    simp only [hgiven] at hfield
    exact hfield
  · intro hreq
    have hownKey := hderived.ownKey
    rw [hreq] at hownKey
    exact hownKey
  · intro hreq
    have happroval := hderived.approval
    rw [hreq] at happroval
    exact happroval
  · intro hreq hchanged provider hold hmem
    exact hchanged (defaultProvider_kept hderived hreq hold hmem)
  · intro hreq
    have hplan : planPolicy (resolvePolicy platformAiProvider row) emptyRequest = .ok record := by
      rw [← hreq]
      exact hnext
    refine empty_unchanged_iff hplan ?_
    intro f
    have hfield := hmerges f
    have hgiven : f.given update.request = none := by
      rw [hreq]
      cases f <;> rfl
    simp only [hgiven] at hfield
    exact hfield

variable (platformAiProvider)

/-- The frame of every update that is accepted, from every stored policy. -/
def FramesUpdates (frame : AiProviderPolicyUpdateRequest → AiProviderPolicySnapshot →
      AiProviderPolicySnapshot → Prop) : Prop :=
  ∀ row update policy row', Accepts platformAiProvider row update policy row' →
    policy = resolvePolicy platformAiProvider row' ∧
      frame update.request (resolvePolicy platformAiProvider row) policy

theorem policy_framesUpdates : FramesUpdates platformAiProvider UpdateFrame :=
  fun _ _ _ _ h => h.updateFrame

/-! ## The own keys are not framed -/

/-- A frame with no exceptions: an omitted field keeps its value. -/
structure StrictFrame (request : AiProviderPolicyUpdateRequest)
    (old new : AiProviderPolicySnapshot) : Prop where
  fields : ∀ f : PolicyField, f.given request = none → f.get new = f.get old
  ownKey : request.allowBringYourOwnKey = none → new.allowBringYourOwnKey = old.allowBringYourOwnKey
  approval : request.requireAdminApproval = none →
    new.requireAdminApproval = old.requireAdminApproval
  defaultProvider : request.defaultProvider.join = none →
    new.defaultProvider ≠ old.defaultProvider →
      ∀ provider, old.defaultProvider = some provider → provider ∉ new.providers
  empty : request = emptyRequest → new = old

end Frame

/-- An update that gives only a reason takes the own keys back. -/
theorem reasonUpdate_not_framed : ¬ FramesUpdates .openrouter StrictFrame := by
  intro h
  have hcode : updatePolicyForCurrentSession .openrouter reasonUpdate =
      writePolicy .openrouter reasonUpdate := updatePolicy_of_admin .openrouter (by decide)
  have hrun : ∃ policy row', (writePolicy .openrouter reasonUpdate).run RowCall.exec []
      (some ownKeyRow) = (.ok policy, row') ∧ policy.allowBringYourOwnKey = false :=
    ⟨_, _, rfl, rfl⟩
  rcases hrun with ⟨policy, row', hrun, hownKey⟩
  rw [← hcode] at hrun
  have hframe := (h (some ownKeyRow) reasonUpdate policy row' ⟨[], hrun⟩).2.ownKey rfl
  rw [hownKey] at hframe
  cases hframe

end QuizMind.Settings
