import QuizMind.Ai.Prepare

/-! # The access policy of AI requests

Whatever the policy row, the catalogs, the credentials and the request are: an invocation
that `prepareProxyInvocation` returns respects the policy (`access_respected`). The checks
are spread over the choice of the model, the resolution of the key and the checks around
it; each of them has one lemma, and no call of the preparation writes.

A model id may occur several times in a catalog. The first entry counts: it has to be one
of the chosen provider, and its tags say whether the model has vision.
-/

namespace QuizMind.Ai

open Async
open Prog (reads_bind reads_ofExcept reads_ret reads_throw)

/-! ## What is asked of an invocation -/

section Policy

variable (env : ApiEnv) (s : PrepareStore)

/-- The policy in force. -/
def policyIn : AiProviderPolicySnapshot := resolvePolicy env.platformAiProvider s.policy

/-- The resolved catalog. -/
def catalogIn : WorkspaceAiCatalog :=
  let policy := policyIn env s
  catalogOf policy (if isPlatformManaged policy .openrouter then s.openRouterModels else [])
    (if isPlatformManaged policy .routerai then s.routerAiModels else [])

end Policy

/-- A stored credential of the user that the key is decrypted from. -/
structure DecryptedFrom (env : ApiEnv) (decryptSecret : Decryption) (provider : AiProvider)
    (userId : String) (apiKey : String) (credential : ProviderCredential) : Prop where
  provider : credential.provider = provider.name
  owner : credential.ownerType = .user ∧ credential.userId = some userId
  valid : credential.validationStatus = .valid
  unrevoked : credential.revokedAt = none
  enabled : credential.disabledAt = none
  decrypted : decryptCredential env decryptSecret credential = .ok apiKey

/-- The policy allows a key of this source for the mode and the provider. -/
structure KeyAllowed (env : ApiEnv) (decryptSecret : Decryption)
    (credentials : List ProviderCredential) (policy : AiProviderPolicySnapshot)
    (provider : AiProvider) (userId : String) (keySource : KeySource) (apiKey : String) :
    Prop where
  platform : keySource = .platform → policy.allowPlatformManaged
  user : keySource = .user → policy.allowBringYourOwnKey ∧ !policy.requireAdminApproval ∧
    ∃ credential ∈ credentials, DecryptedFrom env decryptSecret provider userId apiKey credential

/-- The invocation respects the policy; `model` is its entry in the catalog. -/
structure Respects (env : ApiEnv) (decryptSecret : Decryption) (s : PrepareStore)
    (session : CurrentSessionSnapshot) (invocation : KeyedProxyInvocation)
    (model : ProviderModelCatalogEntry) : Prop where
  provider_enabled : invocation.provider ∈ (policyIn env s).providers
  model_listed : model ∈ (catalogIn env s).models ∧ model.provider = invocation.provider ∧
    model.modelId = invocation.resolvedModel
  model_first : (catalogIn env s).models.find?
    (fun entry => entry.modelId = invocation.resolvedModel) = some model
  model_tagged : (policyIn env s).allowedModelTags ≠ [] →
    ∃ tag ∈ model.capabilityTags, tag ∈ (policyIn env s).allowedModelTags
  key_allowed : KeyAllowed env decryptSecret s.credentials (policyIn env s) invocation.provider
    session.userId invocation.keySource invocation.apiKey
  own_key_required : (policyIn env s).mode = .user_key_required → invocation.keySource = .user
  direct_mode : invocation.provider ≠ .openrouter → invocation.provider ≠ .routerai →
    (policyIn env s).allowDirectProviderMode ∧ invocation.keySource = .user
  vision : invocation.keySource = .user → model.supportsVision →
    (policyIn env s).allowVisionOnUserKeys
  requested : ∀ useOwnKey, invocation.request.useOwnKey = some useOwnKey →
    invocation.keySource = if useOwnKey then .user else .platform

/-! ## The catalog -/

variable {s : PrepareStore} {env : ApiEnv}

/-- The tags of the policy in force are trimmed, and none is empty. -/
theorem tag_of_policyIn {tag : String}
    (h : tag ∈ (policyIn env s).allowedModelTags) : jsTrim tag = tag ∧ tag ≠ "" := by
  unfold policyIn at h
  cases hrow : s.policy with
  | some record =>
    rw [hrow] at h
    exact mem_normalizeStringList h
  | none =>
    rw [hrow] at h
    exact absurd h List.not_mem_nil

variable {model : ProviderModelCatalogEntry}

/-- Where the policy names tags, every entry of its catalog carries one of them. -/
theorem model_tagged_of_mem
    (h : model ∈ (catalogIn env s).models) (htags : (policyIn env s).allowedModelTags ≠ []) :
    ∃ tag ∈ model.capabilityTags, tag ∈ (policyIn env s).allowedModelTags := by
  have hclean : ((policyIn env s).allowedModelTags.map jsTrim).filter (fun tag => tag ≠ "") =
      (policyIn env s).allowedModelTags := by
    have hmap : (policyIn env s).allowedModelTags.map jsTrim =
        (policyIn env s).allowedModelTags := by
      conv_rhs => rw [← List.map_id (policyIn env s).allowedModelTags]
      exact List.map_congr_left fun tag htag => (tag_of_policyIn htag).1
    rw [hmap]
    exact List.filter_eq_self.mpr fun tag htag => by simpa using (tag_of_policyIn htag).2
  have hdedup : (policyIn env s).allowedModelTags.dedup ≠ [] := by
    rw [Ne, List.dedup_eq_nil]
    exact htags
  simp only [catalogIn, catalogOf] at h
  rw [hclean, if_neg hdedup] at h
  have hany := (List.mem_filter.mp h).2
  rcases List.any_eq_true.mp hany with ⟨tag, htag, hallowed⟩
  exact ⟨tag, htag, List.mem_dedup.mp (List.contains_iff_mem.mp hallowed)⟩

theorem ask_reads (op : PrepareCall) {P : op.Res → Prop}
    (hs : (op.exec s).2 = s) (hP : ∀ a, (op.exec s).1 = .ok a → P a) :
    (ask op).Reads PrepareCall.exec P s :=
  Prog.reads_await hs hP

theorem getLiveModels_reads {managed : Bool} {liveModels : PrepareProg (List _)}
    {models : List ProviderModelCatalogEntry}
    (h : liveModels.Reads PrepareCall.exec (fun live => live = models) s) :
    (getLiveModels managed liveModels).Reads PrepareCall.exec
      (fun live => live = if managed then models else []) s := by
  cases managed with
  | true => exact h
  | false => exact reads_ret rfl

theorem resolveWorkspaceCatalog_reads (env : ApiEnv) (s : PrepareStore) :
    (resolveWorkspaceCatalog (policyIn env s)).Reads PrepareCall.exec
      (fun catalog => catalog = catalogIn env s) s := by
  have hopenRouter : (ask .getLiveOpenRouterModels).Reads PrepareCall.exec
      (fun live => live = s.openRouterModels) s :=
    ask_reads .getLiveOpenRouterModels rfl fun _ ha => (Except.ok.inj ha).symm
  have hrouterAi : (ask .getLiveRouterAiModels).Reads PrepareCall.exec
      (fun live => live = s.routerAiModels) s :=
    ask_reads .getLiveRouterAiModels rfl fun _ ha => (Except.ok.inj ha).symm
  refine reads_bind (getLiveModels_reads hopenRouter) ?_
  rintro _ rfl
  refine reads_bind (getLiveModels_reads hrouterAi) ?_
  rintro _ rfl
  exact reads_ret rfl

/-! ## The model -/

structure Chosen (request : NormalizedProxyRequest) (catalog : WorkspaceAiCatalog)
    (policy : AiProviderPolicySnapshot) (model : ProviderModelCatalogEntry) : Prop where
  enabled : model.provider ∈ policy.providers
  first : catalog.models.find? (fun entry => entry.modelId = model.modelId) = some model

variable {policy : AiProviderPolicySnapshot} {request : NormalizedProxyRequest}

theorem chooseModel_ok {catalog : WorkspaceAiCatalog} (h : chooseModel request catalog policy = .ok model) :
    Chosen request catalog policy model := by
  simp only [chooseModel] at h
  split at h
  · cases h
  rename_i henabled
  split at h
  · cases h
  split at h
  · cases h
  rename_i hfind
  split at h
  · cases h
  rename_i hprov
  split at h
  · cases h
  cases h
  have hid := List.find?_some hfind
  rw [decide_eq_true_eq] at hid
  rw [not_not] at henabled hprov
  exact ⟨hprov ▸ henabled, hid ▸ hfind⟩

/-! ## The key -/

section Keys

variable {env : ApiEnv} {decryptSecret : Decryption} {s : PrepareStore}
  {policy : AiProviderPolicySnapshot} {provider : AiProvider} {userId : String}

theorem resolvePlatformKey_reads :
    (resolvePlatformKey env decryptSecret provider policy).Reads PrepareCall.exec
      (fun apiKey => KeyAllowed env decryptSecret s.credentials policy provider userId .platform
        apiKey) s := by
  have hallowed : policy.allowPlatformManaged → ∀ apiKey,
      KeyAllowed env decryptSecret s.credentials policy provider userId .platform apiKey :=
    fun h _ => ⟨fun _ => h, nofun⟩
  unfold resolvePlatformKey
  split
  · exact reads_throw _
  rename_i hmanaged
  have hmanaged : policy.allowPlatformManaged := by simpa using hmanaged
  split
  · exact reads_ret (hallowed hmanaged _)
  refine reads_bind (P := fun _ => True) (ask_reads (.findLatestPlatformCredential provider) rfl
    fun _ _ => trivial) ?_
  rintro (_ | credential) -
  · exact reads_throw _
  · exact reads_ofExcept fun _ _ => hallowed hmanaged _

/-- What `findBestUserCredential` answers is a usable credential of the user. -/
theorem findBestUserCredential_spec {credential : ProviderCredential}
    (h : (PrepareCall.exec (.findBestUserCredential provider userId) s).1 = .ok (some credential)) :
    credential ∈ s.credentials ∧ isUserCredential provider userId credential := by
  have hhead := Except.ok.inj h
  exact Table.mem_of_mem_select (List.mem_of_head? hhead)

theorem resolveUserKey_reads :
    (resolveUserKey env decryptSecret provider userId policy).Reads PrepareCall.exec
      (fun apiKey => KeyAllowed env decryptSecret s.credentials policy provider userId .user
        apiKey) s := by
  unfold resolveUserKey
  split
  · exact reads_throw _
  rename_i hown
  split
  · exact reads_throw _
  rename_i happroval
  have hask : (ask (.findBestUserCredential provider userId)).Reads PrepareCall.exec
      (fun found => ∀ credential, found = some credential →
        credential ∈ s.credentials ∧ isUserCredential provider userId credential) s := by
    refine ask_reads (.findBestUserCredential provider userId) rfl ?_
    rintro found hfound credential rfl
    exact findBestUserCredential_spec hfound
  refine reads_bind hask ?_
  rintro (_ | credential) hfound
  · exact reads_throw _
  refine reads_ofExcept fun apiKey hkey => ⟨nofun, fun _ => ?_⟩
  have hcredential := hfound credential rfl
  have hmatch := hcredential.2
  simp only [isUserCredential, ProviderCredential.isUsable, Bool.and_eq_true,
    decide_eq_true_eq] at hmatch
  rcases hmatch with ⟨⟨⟨hprov, ⟨hvalid, hrev⟩, hdisabled⟩, howner⟩, huser⟩
  refine ⟨by simpa using hown, by simpa using happroval, credential, hcredential.1, ?_⟩
  exact ⟨hprov, ⟨howner, huser⟩, hvalid, hrev, hdisabled, hkey⟩

/-- The loop returns a key of one of the sources it was given. -/
theorem tryKeySources_reads {resolve : KeySource → PrepareProg String}
    {K : KeySource → String → Prop} (hresolve : ∀ source, (resolve source).Reads PrepareCall.exec
      (K source) s) (order : List KeySource) (lastError : Option Exception) :
    (tryKeySources resolve order lastError).Reads PrepareCall.exec
      (fun key => key.keySource ∈ order ∧ K key.keySource key.apiKey) s := by
  induction order generalizing lastError with
  | nil => exact reads_throw _
  | cons source order ih =>
    refine Prog.reads_handle ?_ fun error => ?_
    · refine reads_bind (hresolve source) fun apiKey hkey => ?_
      exact reads_ret ⟨List.mem_cons_self, hkey⟩
    -- the error of this source decides whether the next one is tried
    split
    · have hrest := ih (some error)
      exact hrest.mono fun key hkey => ⟨List.mem_cons_of_mem _ hkey.1, hkey.2⟩
    · exact reads_throw _

theorem resolveKeyMaterial_reads {useOwnKey : Option Bool} :
    (resolveKeyMaterial env decryptSecret provider userId policy useOwnKey).Reads PrepareCall.exec
      (fun key => key.keySource ∈ resolveKeyAttemptOrder provider policy useOwnKey ∧
        KeyAllowed env decryptSecret s.credentials policy provider userId key.keySource
          key.apiKey) s := by
  unfold resolveKeyMaterial
  split
  · exact reads_throw _
  refine tryKeySources_reads ?_ _ _
  intro source
  cases source with
  | platform => exact resolvePlatformKey_reads
  | user => exact resolveUserKey_reads

/-- A request that says whose key to use is tried with that source only. -/
theorem requested_of_mem_order {useOwnKey : Bool} {keySource : KeySource}
    (h : keySource ∈ resolveKeyAttemptOrder provider policy (some useOwnKey)) :
    keySource = if useOwnKey then .user else .platform :=
  List.mem_singleton.mp h

end Keys

/-! ## The checks around the key -/

theorem isDirect_iff {provider : AiProvider} :
    provider.isDirect ↔ provider ≠ .openrouter ∧ provider ≠ .routerai := by
  simp [AiProvider.isDirect]

theorem checkBeforeKey_ok
    (h : checkBeforeKey request policy model = .ok ()) (hdirect : model.provider.isDirect) :
    policy.allowDirectProviderMode := by grind [checkBeforeKey]

structure SourceChecked (policy : AiProviderPolicySnapshot) (model : ProviderModelCatalogEntry)
    (keySource : KeySource) : Prop where
  direct : model.provider.isDirect → keySource = .user
  required : policy.mode = .user_key_required → keySource = .user
  vision : keySource = .user → model.supportsVision → policy.allowVisionOnUserKeys

theorem checkKeySource_ok {keySource : KeySource}
    (h : checkKeySource policy model keySource = .ok ()) :
    SourceChecked policy model keySource := by
  unfold checkKeySource at h
  split at h
  · cases h
  rename_i hdirect
  split at h
  · cases h
  rename_i hrequired
  split at h
  · cases h
  rename_i hvision
  exact
    { direct := fun hd => by simpa [hd] using hdirect
      required := fun hm => by simpa [hm] using hrequired
      vision := fun hs hv => by simpa [hs, hv] using hvision }

theorem walletGate_reads {userId : String} {keySource : KeySource} :
    (walletGate env userId model keySource).Reads PrepareCall.exec (fun _ => True) s := by
  have hbal : ∀ isFreeModel, (balanceFor userId isFreeModel).Reads PrepareCall.exec
      (fun _ => True) s := by
    intro isFreeModel
    cases isFreeModel with
    | true => exact reads_ret trivial
    | false => exact ask_reads (.findBalanceForUser userId) rfl fun _ _ => trivial
  unfold walletGate
  split
  · refine reads_bind (ask_reads .getEffectivePricingPolicy rfl fun _ _ => trivial) ?_
    intro pricingPolicy _
    refine reads_bind (hbal _) fun balanceKopecks _ => ?_
    split
    · exact reads_throw _
    · exact reads_ret trivial
  · exact reads_ret trivial

/-- No request is over its quota: the repository knows no limit. -/
theorem quotaGate_reads {rate : EnvRate} {invocation : KeyedProxyInvocation}
    (h : invocation.quotaLimit = none) :
    (quotaGate rate invocation).Reads PrepareCall.exec (fun _ => True) s := by
  unfold quotaGate
  rw [h]
  split
  all_goals exact reads_ret trivial

/-! ## The main theorem -/

section Main

variable {env : ApiEnv} {decryptSecret : Decryption} {rate : EnvRate} {s s' : PrepareStore}
  {session : CurrentSessionSnapshot} {requestId : String} {request : Option Payload}

theorem prepareProxyInvocation_reads :
    (prepareProxyInvocation env decryptSecret rate session requestId request).Reads PrepareCall.exec
      (fun invocation => ∃ model, Respects env decryptSecret s session invocation model) s := by
  refine reads_bind (P := fun _ => True) (reads_ofExcept fun _ _ => trivial) ?_
  intro normalizedRequest _
  have hglobal : (ask .findGlobal).Reads PrepareCall.exec (fun found => found = s.policy) s :=
    ask_reads .findGlobal rfl fun _ ha => (Except.ok.inj ha).symm
  refine reads_bind hglobal ?_
  rintro _ rfl
  refine reads_bind (resolveWorkspaceCatalog_reads env s) ?_
  rintro _ rfl
  refine reads_bind (reads_ofExcept fun _ h => chooseModel_ok h) ?_
  intro model hchosen
  refine reads_bind (reads_ofExcept fun _ h => checkBeforeKey_ok h) ?_
  intro _ hdirect
  refine reads_bind resolveKeyMaterial_reads ?_
  rintro key ⟨horder, hallowed⟩
  refine reads_bind (reads_ofExcept fun _ h => checkKeySource_ok h) ?_
  intro _ hchecked
  refine reads_bind walletGate_reads fun _ _ => ?_
  refine reads_bind (quotaGate_reads rfl) fun _ _ => ?_
  have hmem := List.mem_of_find?_eq_some hchosen.first
  refine reads_ret ⟨model, ?_⟩
  exact
    { provider_enabled := hchosen.enabled
      model_listed := ⟨hmem, rfl, rfl⟩
      model_first := hchosen.first
      model_tagged := model_tagged_of_mem hmem
      key_allowed := hallowed
      own_key_required := hchecked.required
      direct_mode := fun hopenRouter hrouterAi =>
        have hd := isDirect_iff.mpr ⟨hopenRouter, hrouterAi⟩
        ⟨hdirect hd, hchecked.direct hd⟩
      vision := hchecked.vision
      requested := fun useOwnKey h => requested_of_mem_order (h ▸ horder) }

end Main

/-! A user with a key of their own and no choice of the source: the key is tried first. -/

def ownKeyPolicy : AiProviderPolicyRecord where
  mode := .user_key_optional
  allowPlatformManaged := true
  allowBringYourOwnKey := true
  allowDirectProviderMode := false
  allowWorkspaceSharedCredentials := false
  requireAdminApproval := false
  allowVisionOnUserKeys := false
  providersJson := .array [.string "routerai", .string "openrouter"]
  allowedModelTagsJson := some (.array [.string " text "])
  defaultProvider := none
  defaultModel := none
  reason := none

def ownCredential : ProviderCredential where
  provider := "openrouter"
  ownerType := .user
  userId := some "u"
  encryptedSecretJson := .object [("algorithm", .string "aes-256-gcm"), ("keyVersion", .string "v1"),
    ("ciphertext", .string "c"), ("iv", .string "i"), ("authTag", .string "t")]
  validationStatus := .valid
  disabledAt := none
  revokedAt := none
  createdAt := 0
  updatedAt := 0

def ownKeyStore : PrepareStore where
  policy := some ownKeyPolicy
  credentials := [ownCredential]
  openRouterModels := []
  routerAiModels := []
  proxy :=
    { wallet := (.empty, 0)
      overrides := []
      policy :=
        { enabled := false
          markupPercent := 0
          minimumFeeUsd := 0
          roundingUsd := 0
          maxChargeUsd := none
          chargeFailedRequests := .never
          chargeUserKeyRequests := .never
          displayEstimatedPriceToUser := false }
      requests := []
      handed := [] }

def ownKeyEnv : ApiEnv where
  runtimeMode := .connected
  openRouterApiKey := some "platform-key"
  routerAiApiKey := none
  providerCredentialSecret := "secret"
  platformAiProvider := .openrouter

def ownKeySession : CurrentSessionSnapshot where
  userId := "u"
  email := "u@example.org"
  displayName := none
  principal :=
    { userId := "u"
      email := "u@example.org"
      systemRoles := []
      entitlements := []
      featureFlags := [] }

def ownKeyRequest : Payload :=
  [("model", .string "openrouter/auto".toList),
    ("messages", .array [.object [("role", .string "user".toList), ("content", .string ['q'])]])]

def ownKeyInvocation : KeyedProxyInvocation where
  userId := "u"
  request :=
    { provider := none
      model := some "openrouter/auto"
      messages := [⟨.user, .text ['q'], none⟩]
      useOwnKey := none
      temperature := none
      maxTokens := none
      stream := false }
  resolvedModel := "openrouter/auto"
  provider := .openrouter
  keySource := .user
  apiKey := "own-key"
  requestId := "r"
  quotaLimit := none
  quotaConsumed := 0

end QuizMind.Ai
