import QuizMind.Ai.ProviderPolicy
import QuizMind.Access.Permissions
import QuizMind.Async.Updates

/-! # The AI provider policy settings

`updatePolicyForCurrentSession`: the policy in force is read, the fields of the request are
merged into it, and the whole row is written. Three fields are set by every update: the own
keys and the approval follow the mode, the default provider stays among the providers.

The log rows that are written with the policy are left out.
-/

namespace QuizMind.Settings

open Async
open Ai (AiProvider AiAccessPolicyMode AiProviderPolicyRecord AiProviderPolicySnapshot
  normalizeProviderList normalizeStringList mem_normalizeStringList readJsonStringArray mapRecordToSnapshot resolvePolicy
  NamesInOrder ProvidersInOrder)

/-- A field that is missing is `none`, one that is null is `some none`. -/
structure AiProviderPolicyUpdateRequest where
  mode : Option String
  allowPlatformManaged : Option Bool
  allowBringYourOwnKey : Option Bool
  allowDirectProviderMode : Option Bool
  allowWorkspaceSharedCredentials : Option Bool
  requireAdminApproval : Option Bool
  allowVisionOnUserKeys : Option Bool
  providers : Option (List String)
  allowedModelTags : Option (List String)
  defaultProvider : Option (Option String)
  defaultModel : Option (Option String)
  reason : Option (Option String)

def accessPolicyModeText : AiAccessPolicyMode → String
  | .platform_only => "platform_only"
  | .user_key_optional => "user_key_optional"
  | .user_key_required => "user_key_required"
  | .admin_approved_user_key => "admin_approved_user_key"
  | .enterprise_managed => "enterprise_managed"

def accessPolicyModeOf (text : String) : Option AiAccessPolicyMode :=
  [.platform_only, .user_key_optional, .user_key_required, .admin_approved_user_key,
    .enterprise_managed].find? fun mode => accessPolicyModeText mode = text

def normalizeMode (value : Option String) (fallback : AiAccessPolicyMode) : AiAccessPolicyMode :=
  (value.bind accessPolicyModeOf).getD fallback

/-- The provider that a request asks for, when it is one of the enabled ones. -/
def requestedDefault (request : AiProviderPolicyUpdateRequest) (providers : List AiProvider) :
    Option AiProvider :=
  (request.defaultProvider.join.bind AiProvider.ofName?).filter providers.contains

/-- An empty text counts as none. -/
def textOrNone (text : Option String) : Option String := text.filter fun t => t ≠ ""

/-- The text that a request gives: null is none, and a blank text leaves the one there is. -/
def updatedText (requested : Option (Option String)) (base : Option String) : Option String :=
  match requested with
  | some none => none
  | some (some text) => (textOrNone (some (jsTrim text))).or (textOrNone base)
  | none => textOrNone base

/-- What `updatePolicyForCurrentSession` makes of the policy in force. -/
def planPolicy (basePolicy : AiProviderPolicySnapshot) (request : AiProviderPolicyUpdateRequest) :
    Except Exception AiProviderPolicyRecord :=
  let mode := normalizeMode request.mode basePolicy.mode
  let providers := normalizeProviderList request.providers basePolicy.providers
  if providers = [] then
    .error (.badRequest "At least one provider must remain enabled in AI provider policy.")
  else
    let defaultProvider := ((requestedDefault request providers).or
      (basePolicy.defaultProvider.filter providers.contains)).or providers.head?
    let allowedModelTags := normalizeStringList request.allowedModelTags basePolicy.allowedModelTags
    .ok {
      mode := mode
      allowPlatformManaged := request.allowPlatformManaged.getD basePolicy.allowPlatformManaged
      allowBringYourOwnKey := request.allowBringYourOwnKey.getD (mode ≠ .platform_only)
      allowDirectProviderMode :=
        request.allowDirectProviderMode.getD basePolicy.allowDirectProviderMode
      allowWorkspaceSharedCredentials :=
        request.allowWorkspaceSharedCredentials.getD basePolicy.allowWorkspaceSharedCredentials
      requireAdminApproval := request.requireAdminApproval.getD (mode = .admin_approved_user_key)
      allowVisionOnUserKeys := request.allowVisionOnUserKeys.getD basePolicy.allowVisionOnUserKeys
      providersJson := .array (providers.map fun provider => .string provider.name)
      allowedModelTagsJson := some (.array (allowedModelTags.map .string))
      defaultProvider := defaultProvider.map AiProvider.name
      defaultModel := updatedText request.defaultModel basePolicy.defaultModel
      reason := updatedText request.reason basePolicy.reason }

/-- An admin's session and what it asks for. -/
structure PolicyUpdate where
  session : CurrentSessionSnapshot
  request : AiProviderPolicyUpdateRequest

section

variable (platformAiProvider : AiProvider)

/-- The row that an update writes. -/
def nextPolicyRow (update : PolicyUpdate) (row : Option AiProviderPolicyRecord) :
    Except Exception AiProviderPolicyRecord :=
  planPolicy (resolvePolicy platformAiProvider row) update.request

/-- `updatePolicyForCurrentSession` after its access check. -/
def writePolicy (update : PolicyUpdate) :
    RowProg AiProviderPolicyRecord Exception AiProviderPolicySnapshot := do
  let row ← Prog.await .find
  let record ← Prog.ofExcept (nextPolicyRow platformAiProvider update row)
  let written ← Prog.await (.upsert record)
  return mapRecordToSnapshot written

def updatePolicyForCurrentSession (update : PolicyUpdate) :
    RowProg AiProviderPolicyRecord Exception AiProviderPolicySnapshot := do
  Prog.ofExcept (requireAccess (canManageAiProviders update.session.principal))
  writePolicy platformAiProvider update

theorem writePolicy_upholds (update : PolicyUpdate) :
    (writePolicy platformAiProvider update).Upholds (fun _ _ => True)
      (Merges (nextPolicyRow platformAiProvider) update) (fun _ _ => True) [] := by
  refine Prog.upholds_await_bind rfl fun row _ => ?_
  refine Prog.upholds_ofExcept_bind fun record hrec => ?_
  exact Prog.upholds_await_bind ⟨row, rfl, hrec⟩ fun _ _ => trivial

theorem updatePolicy_isUpdate : IsUpdate (nextPolicyRow platformAiProvider)
      (updatePolicyForCurrentSession platformAiProvider) :=
  fun update => Prog.upholds_ofExcept_bind fun _ _ => writePolicy_upholds platformAiProvider update

end

/-! ## Normalized lists -/

instance : Std.Total NamesInOrder := ⟨fun a b => le_total (RemoteConfig.js a) (RemoteConfig.js b)⟩

instance : IsTrans String NamesInOrder := ⟨fun _ _ _ hab hbc => le_trans hab hbc⟩

instance : Std.Total ProvidersInOrder := ⟨fun a b => Std.Total.total (r := NamesInOrder) a.name b.name⟩

instance : IsTrans AiProvider ProvidersInOrder :=
  ⟨fun _ _ _ hab hbc => IsTrans.trans (r := NamesInOrder) _ _ _ hab hbc⟩

/-- What is normalized stays as it is. -/
theorem normalizeStringList_idem (value : Option (List String)) (fallback fallback' : List String) :
    normalizeStringList (some (normalizeStringList value fallback)) fallback' =
      normalizeStringList value fallback := by
  have hclean : ∀ text ∈ normalizeStringList value fallback, jsTrim text = text ∧ text ≠ "" :=
    fun _ h => mem_normalizeStringList h
  have hnodup : (normalizeStringList value fallback).Nodup :=
    (List.perm_insertionSort _ _).nodup_iff.mpr (List.nodup_dedup _)
  have hsorted : (normalizeStringList value fallback).Pairwise NamesInOrder :=
    List.pairwise_insertionSort _ _
  have hmap : (normalizeStringList value fallback).map jsTrim =
      normalizeStringList value fallback := by
    conv_rhs => rw [← List.map_id (normalizeStringList value fallback)]
    exact List.map_congr_left fun text h => (hclean text h).1
  have hfilt : (normalizeStringList value fallback).filter (fun item => item ≠ "") =
      normalizeStringList value fallback :=
    List.filter_eq_self.mpr fun text h => by simpa using (hclean text h).2
  rw [normalizeStringList, Option.getD_some, hmap, hfilt, hnodup.dedup, hsorted.insertionSort_eq]

/-- A list of enabled providers as it is kept: no provider twice, and in order. -/
structure ProvidersNormal (providers : List AiProvider) : Prop where
  nodup : providers.Nodup
  sorted : providers.Pairwise ProvidersInOrder

theorem normalizeProviderList_normal (value : Option (List String)) (fallback : List AiProvider) :
    ProvidersNormal (normalizeProviderList value fallback) where
  nodup := (List.perm_insertionSort _ _).nodup_iff.mpr (List.nodup_dedup _)
  sorted := List.pairwise_insertionSort _ _

theorem ProvidersNormal.normalize_none {providers : List AiProvider}
    (h : ProvidersNormal providers) : normalizeProviderList none providers = providers := by
  simp only [normalizeProviderList, Option.map_none, Option.getD_none]
  rw [h.nodup.dedup, h.sorted.insertionSort_eq]

theorem AiProvider.trim_name (provider : AiProvider) : jsTrim provider.name ≠ "" := by
  cases provider <;> decide

theorem readJsonStringArray_providers (providers : List AiProvider) :
    readJsonStringArray (some (.array (providers.map fun provider => .string provider.name))) =
      providers.map AiProvider.name := by
  induction providers with
  | nil => rfl
  | cons provider providers ih =>
    simp only [readJsonStringArray, List.map_cons, List.filterMap_cons,
      if_neg (AiProvider.trim_name provider)] at ih ⊢
    rw [ih]

theorem filterMap_ofName_names (providers : List AiProvider) :
    (providers.map AiProvider.name).filterMap AiProvider.ofName? = providers := by
  rw [List.filterMap_map]
  have hname : (AiProvider.ofName? ∘ AiProvider.name) = some :=
    funext AiProvider.ofName?_name
  rw [hname, List.filterMap_some]

/-- A normalized list is read back as it was written. -/
theorem ProvidersNormal.read_back {providers : List AiProvider} (h : ProvidersNormal providers)
    (fallback : List AiProvider) :
    normalizeProviderList (some (readJsonStringArray (some (.array (providers.map fun provider =>
      .string provider.name))))) fallback = providers := by
  rw [readJsonStringArray_providers, normalizeProviderList, Option.map_some, Option.getD_some,
    filterMap_ofName_names]
  rw [h.nodup.dedup, h.sorted.insertionSort_eq]

theorem readJsonStringArray_texts {texts : List String} (h : ∀ text ∈ texts, jsTrim text ≠ "") :
    readJsonStringArray (some (.array (texts.map .string))) = texts := by
  induction texts with
  | nil => rfl
  | cons text texts ih =>
    have hrest := ih fun t ht => h t (List.mem_cons_of_mem _ ht)
    simp only [readJsonStringArray, List.map_cons, List.filterMap_cons,
      if_neg (h text List.mem_cons_self)] at hrest ⊢
    rw [hrest]

/-! ## The fields -/

/-- The fields that an update sets only where its request gives them. -/
inductive PolicyField where
  | mode
  | allowPlatformManaged
  | allowDirectProviderMode
  | allowWorkspaceSharedCredentials
  | allowVisionOnUserKeys
  | providers
  | allowedModelTags
  | defaultModel
  | reason
  deriving DecidableEq

abbrev PolicyField.Value : PolicyField → Type
  | .mode => AiAccessPolicyMode
  | .allowPlatformManaged => Bool
  | .allowDirectProviderMode => Bool
  | .allowWorkspaceSharedCredentials => Bool
  | .allowVisionOnUserKeys => Bool
  | .providers => List AiProvider
  | .allowedModelTags => List String
  | .defaultModel => Option String
  | .reason => Option String

def PolicyField.get (policy : AiProviderPolicySnapshot) : (f : PolicyField) → f.Value
  | .mode => policy.mode
  | .allowPlatformManaged => policy.allowPlatformManaged
  | .allowDirectProviderMode => policy.allowDirectProviderMode
  | .allowWorkspaceSharedCredentials => policy.allowWorkspaceSharedCredentials
  | .allowVisionOnUserKeys => policy.allowVisionOnUserKeys
  | .providers => policy.providers
  | .allowedModelTags => policy.allowedModelTags
  | .defaultModel => textOrNone policy.defaultModel
  | .reason => textOrNone policy.reason

/-- The text that a request mentions; a blank one mentions nothing. -/
def mentionedText : Option (Option String) → Option (Option String)
  | some none => some none
  | some (some text) => (textOrNone (some (jsTrim text))).map some
  | none => none

/-- What a request mentions. -/
def PolicyField.given (request : AiProviderPolicyUpdateRequest) : (f : PolicyField) → Option f.Value
  | .mode => request.mode.bind accessPolicyModeOf
  | .allowPlatformManaged => request.allowPlatformManaged
  | .allowDirectProviderMode => request.allowDirectProviderMode
  | .allowWorkspaceSharedCredentials => request.allowWorkspaceSharedCredentials
  | .allowVisionOnUserKeys => request.allowVisionOnUserKeys
  | .providers => request.providers.map fun names => normalizeProviderList (some names) []
  | .allowedModelTags => request.allowedModelTags.map fun tags => normalizeStringList (some tags) []
  | .defaultModel => mentionedText request.defaultModel
  | .reason => mentionedText request.reason

/-- How an update sets the other three fields: `new` is the policy after it. -/
structure SetsDerived (request : AiProviderPolicyUpdateRequest)
    (old new : AiProviderPolicySnapshot) : Prop where
  ownKey : new.allowBringYourOwnKey = request.allowBringYourOwnKey.getD (new.mode ≠ .platform_only)
  approval : new.requireAdminApproval =
    request.requireAdminApproval.getD (new.mode = .admin_approved_user_key)
  defaultProvider : new.defaultProvider = ((requestedDefault request new.providers).or
      (old.defaultProvider.filter new.providers.contains)).or new.providers.head?

/-- A policy whose lists are normalized, as every policy in force is. -/
structure PolicyNormal (policy : AiProviderPolicySnapshot) : Prop where
  providers : ProvidersNormal policy.providers
  allowedModelTags : normalizeStringList none policy.allowedModelTags = policy.allowedModelTags

theorem resolvePolicy_normal (platformAiProvider : AiProvider)
    (row : Option AiProviderPolicyRecord) : PolicyNormal (resolvePolicy platformAiProvider row) := by
  cases row with
  | some record =>
    exact ⟨normalizeProviderList_normal _ _, normalizeStringList_idem _ _ []⟩
  | none => exact ⟨⟨List.nodup_singleton _, List.pairwise_singleton _ _⟩, rfl⟩

theorem updatedText_eq (requested : Option (Option String)) (base : Option String) :
    textOrNone (updatedText requested base) = (mentionedText requested).getD (textOrNone base) := by
  have hidem : ∀ text, textOrNone (textOrNone text) = textOrNone text := by
    simp [textOrNone]
  rcases requested with _ | _ | text
  · exact hidem base
  · rfl
  · grind [updatedText, mentionedText, textOrNone]

theorem bind_ofName_name (provider : Option AiProvider) :
    (provider.map AiProvider.name).bind AiProvider.ofName? = provider := by
  cases provider <;> simp

/-- The policy that is read back from a planned row. -/
structure PlannedPolicy (basePolicy : AiProviderPolicySnapshot)
    (request : AiProviderPolicyUpdateRequest) (record : AiProviderPolicyRecord) : Prop where
  providers : (mapRecordToSnapshot record).providers =
    normalizeProviderList request.providers basePolicy.providers
  allowedModelTags : (mapRecordToSnapshot record).allowedModelTags =
    normalizeStringList request.allowedModelTags basePolicy.allowedModelTags
  fields : ∀ f : PolicyField, f ≠ .providers → f ≠ .allowedModelTags →
    f.get (mapRecordToSnapshot record) = (f.given request).getD (f.get basePolicy)
  derived : SetsDerived request basePolicy (mapRecordToSnapshot record)

theorem planPolicy_ok {basePolicy : AiProviderPolicySnapshot}
    {request : AiProviderPolicyUpdateRequest} {record : AiProviderPolicyRecord}
    (h : planPolicy basePolicy request = .ok record) :
    PlannedPolicy basePolicy request record := by
  have hprovs := (normalizeProviderList_normal request.providers
    basePolicy.providers).read_back [.openrouter]
  have htags := normalizeStringList_idem request.allowedModelTags basePolicy.allowedModelTags []
  have htexts : ∀ text ∈ normalizeStringList request.allowedModelTags basePolicy.allowedModelTags,
      jsTrim text ≠ "" := by
    intro text htext
    rw [(mem_normalizeStringList htext).1]
    exact (mem_normalizeStringList htext).2
  simp only [planPolicy] at h
  split at h
  · cases h
  obtain rfl := Except.ok.inj h
  refine ⟨hprovs, ?_, ?_, rfl, rfl, ?_⟩
  · grind [mapRecordToSnapshot, readJsonStringArray_texts]
  · intro f hne hne'
    cases f with
    | providers => exact absurd rfl hne
    | allowedModelTags => exact absurd rfl hne'
    | defaultModel => exact updatedText_eq _ _
    | reason => exact updatedText_eq _ _
    | _ => rfl
  · -- the name of the default provider is read back as the provider
    refine (bind_ofName_name _).trans ?_
    simp only [mapRecordToSnapshot, hprovs]

/-- An update sets the fields that its request mentions, and keeps the others. -/
theorem policy_mergesFields (platformAiProvider : AiProvider) :
    MergesFields (fun f row => PolicyField.get (resolvePolicy platformAiProvider row) f)
      (fun (update : PolicyUpdate) f => f.given update.request)
      (nextPolicyRow platformAiProvider) := by
  intro update current row hnext f
  have hplan := planPolicy_ok hnext
  have hnormal := resolvePolicy_normal platformAiProvider current
  by_cases hprovs : f = .providers
  · subst hprovs
    have hback : (mapRecordToSnapshot row).providers = _ := hplan.providers
    show (mapRecordToSnapshot row).providers = _
    rw [hback]
    cases hreq : update.request.providers with
    | none =>
      simp only [PolicyField.given, hreq]
      exact hnormal.providers.normalize_none
    | some names => simp [PolicyField.given, hreq, normalizeProviderList]
  by_cases htags : f = .allowedModelTags
  · subst htags
    have hback : (mapRecordToSnapshot row).allowedModelTags = _ := hplan.allowedModelTags
    show (mapRecordToSnapshot row).allowedModelTags = _
    rw [hback]
    cases hreq : update.request.allowedModelTags with
    | none =>
      simp only [PolicyField.given, hreq]
      exact hnormal.allowedModelTags
    | some tags => simp [PolicyField.given, hreq, normalizeStringList]
  · exact hplan.fields f hprovs htags

/-- An update sets the own keys, the approval and the default provider. -/
theorem policy_setsDerived {platformAiProvider : AiProvider} {update : PolicyUpdate}
    {current : Option AiProviderPolicyRecord} {row : AiProviderPolicyRecord}
    (h : nextPolicyRow platformAiProvider update current = .ok row) :
    SetsDerived update.request (resolvePolicy platformAiProvider current)
      (resolvePolicy platformAiProvider (some row)) :=
  (planPolicy_ok h).derived

end QuizMind.Settings
