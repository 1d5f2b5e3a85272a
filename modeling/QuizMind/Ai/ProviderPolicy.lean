import QuizMind.RemoteConfig.Values
import QuizMind.Text.Trim
import Mathlib.Data.List.Dedup
import Mathlib.Data.List.Lex

/-! # Providers and the provider policy

The registry of providers, the static model catalog, and the policy that says which
providers, keys and models requests may use. The policy is stored as one row; when there
is none, a virtual one applies.

Of a registry entry only the provider is kept, of a catalog entry what requests look at;
of the policy row its scope and dates are left out.
-/

namespace QuizMind.Ai

/-! ## Providers and models -/

inductive AiProvider where
  | openai | anthropic | openrouter | routerai | polza | internal
  deriving DecidableEq

def AiProvider.name : AiProvider → String
  | .openai => "openai"
  | .anthropic => "anthropic"
  | .openrouter => "openrouter"
  | .routerai => "routerai"
  | .polza => "polza"
  | .internal => "internal"

def providerRegistry : List AiProvider :=
  [.openrouter, .openai, .routerai, .anthropic, .polza, .internal]

/-- The registered provider of the given name. -/
def AiProvider.ofName? (name : String) : Option AiProvider :=
  providerRegistry.find? fun provider => provider.name = name

@[simp] theorem AiProvider.ofName?_name (provider : AiProvider) :
    AiProvider.ofName? provider.name = some provider := by
  cases provider <;> rfl

structure ProviderModelCatalogEntry where
  provider : AiProvider
  modelId : String
  capabilityTags : List String
  deriving DecidableEq

def providerModelCatalog : List ProviderModelCatalogEntry :=
  [⟨.openrouter, "openrouter/auto", ["text", "routing"]⟩,
    ⟨.openai, "gpt-4.1-mini", ["text", "vision"]⟩,
    ⟨.routerai, "openai/gpt-5.3-chat", ["text", "vision"]⟩,
    ⟨.routerai, "openai/gpt-4o-mini", ["text", "vision"]⟩,
    ⟨.routerai, "openai/gpt-4o", ["text", "vision"]⟩,
    ⟨.routerai, "google/gemini-2.5-flash", ["text", "vision"]⟩,
    ⟨.routerai, "anthropic/claude-3.5-sonnet", ["text", "vision"]⟩,
    ⟨.anthropic, "claude-sonnet-4", ["text", "vision"]⟩,
    ⟨.polza, "polza/gpt-4o-mini", ["text", "vision"]⟩]

/-! ## The stored policy -/

inductive AiAccessPolicyMode where
  | platform_only
  | user_key_optional
  | user_key_required
  | admin_approved_user_key
  | enterprise_managed
  deriving DecidableEq

/-- A row of `AiProviderPolicy`. -/
structure AiProviderPolicyRecord where
  mode : AiAccessPolicyMode
  allowPlatformManaged : Bool
  allowBringYourOwnKey : Bool
  allowDirectProviderMode : Bool
  allowWorkspaceSharedCredentials : Bool
  requireAdminApproval : Bool
  allowVisionOnUserKeys : Bool
  providersJson : Json
  allowedModelTagsJson : Option Json
  defaultProvider : Option String
  defaultModel : Option String
  reason : Option String

structure AiProviderPolicySnapshot where
  mode : AiAccessPolicyMode
  allowPlatformManaged : Bool
  allowBringYourOwnKey : Bool
  allowDirectProviderMode : Bool
  allowWorkspaceSharedCredentials : Bool
  requireAdminApproval : Bool
  allowVisionOnUserKeys : Bool
  providers : List AiProvider
  allowedModelTags : List String
  defaultProvider : Option AiProvider
  defaultModel : Option String
  reason : Option String

/-! ## Lists of names -/

/-- `sort()` compares the code units. -/
def NamesInOrder (a b : String) : Prop := RemoteConfig.js a ≤ RemoteConfig.js b

instance : DecidableRel NamesInOrder := fun a b =>
  inferInstanceAs (Decidable (RemoteConfig.js a ≤ RemoteConfig.js b))

def ProvidersInOrder (a b : AiProvider) : Prop := NamesInOrder a.name b.name

instance : DecidableRel ProvidersInOrder := fun a b =>
  inferInstanceAs (Decidable (NamesInOrder a.name b.name))

def readJsonStringArray : Option Json → List String
  | some (.array items) => items.filterMap fun item =>
    match item with
    | .string text => if jsTrim text = "" then none else some text
    | _ => none
  | _ => []

/-- Names of no registered provider are dropped. -/
def normalizeProviderList (value : Option (List String)) (fallback : List AiProvider) :
    List AiProvider :=
  let nextProviders := (value.map fun names => names.filterMap AiProvider.ofName?).getD fallback
  nextProviders.dedup.insertionSort ProvidersInOrder

def normalizeStringList (value : Option (List String)) (fallback : List String) : List String :=
  (((value.getD fallback).map jsTrim).filter fun item => item ≠ "").dedup.insertionSort
    NamesInOrder

/-- The texts of a normalized list are trimmed, and none is empty. -/
theorem mem_normalizeStringList {value : Option (List String)} {fallback : List String}
    {text : String} (h : text ∈ normalizeStringList value fallback) :
    jsTrim text = text ∧ text ≠ "" := by
  have hfilt : text ∈ ((value.getD fallback).map jsTrim).filter fun item => item ≠ "" := by
    simpa only [normalizeStringList, List.mem_insertionSort, List.mem_dedup] using h
  rcases List.mem_filter.mp hfilt with ⟨hmap, hne⟩
  rcases List.mem_map.mp hmap with ⟨item, -, rfl⟩
  exact ⟨jsTrim_jsTrim item, by simpa using hne⟩

/-! ## The policy in force -/

def mapRecordToSnapshot (record : AiProviderPolicyRecord) : AiProviderPolicySnapshot where
  mode := record.mode
  allowPlatformManaged := record.allowPlatformManaged
  allowBringYourOwnKey := record.allowBringYourOwnKey
  allowDirectProviderMode := record.allowDirectProviderMode
  allowWorkspaceSharedCredentials := record.allowWorkspaceSharedCredentials
  requireAdminApproval := record.requireAdminApproval
  allowVisionOnUserKeys := record.allowVisionOnUserKeys
  providers := normalizeProviderList (some (readJsonStringArray (some record.providersJson)))
    [.openrouter]
  allowedModelTags := normalizeStringList (some (readJsonStringArray record.allowedModelTagsJson))
    []
  defaultProvider := record.defaultProvider.bind AiProvider.ofName?
  defaultModel := record.defaultModel
  reason := record.reason

/-- `buildDefaultAiAccessPolicy`, with the options that its caller gives. -/
def buildDefaultAiAccessPolicy (mode : AiAccessPolicyMode) (providers : List AiProvider)
    (defaultProvider : AiProvider) (defaultModel reason : String) :
    AiProviderPolicySnapshot where
  mode := mode
  allowPlatformManaged := true
  allowBringYourOwnKey := mode ≠ .platform_only
  allowDirectProviderMode := false
  allowWorkspaceSharedCredentials := false
  requireAdminApproval := mode = .admin_approved_user_key
  allowVisionOnUserKeys := false
  providers := providers
  allowedModelTags := []
  defaultProvider := some defaultProvider
  defaultModel := some defaultModel
  reason := some reason

def createVirtualPolicy (platformAiProvider : AiProvider) : AiProviderPolicySnapshot :=
  buildDefaultAiAccessPolicy .platform_only [platformAiProvider] platformAiProvider
    (if platformAiProvider = .routerai then "openai/gpt-4o-mini" else "openrouter/auto")
    "No persisted AI provider policy exists yet, so the global platform-only default applies."

/-- `resolvePolicyForWorkspace`, on the row that was found. -/
def resolvePolicy (platformAiProvider : AiProvider) (globalPolicy : Option AiProviderPolicyRecord) :
    AiProviderPolicySnapshot :=
  match globalPolicy with
  | some record => mapRecordToSnapshot record
  | none => createVirtualPolicy platformAiProvider

end QuizMind.Ai
