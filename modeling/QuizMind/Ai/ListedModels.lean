import QuizMind.Ai.KeyAccess

/-! # The models that are listed and those that can be asked for

`listModelsForCurrentSession` hands out the entries of the catalog; `prepareProxyInvocation`
resolves the catalog again and looks the model of a request up in it, by its id alone: the
first entry with the id has to be one of the provider asked for. The provider and the model
that are taken where a request names none are chosen independently of each other.

So a listed entry cannot be asked for where an earlier entry of another provider has its id,
or where its id has white space around it, which is trimmed away in a request.
-/

namespace QuizMind.Ai

open Async

/-! ## Listing -/

/-- `AiModelsCatalogPayload`; an empty list of tags is left out. -/
structure AiModelsCatalogPayload where
  providers : List AiProvider
  models : List ProviderModelCatalogEntry
  planCode : Option String
  defaultProvider : Option AiProvider
  defaultModel : Option String
  allowedModelTags : Option (List String)

def findWorkspacePlanCode : Option String := none

def listModelsForCurrentSession (env : ApiEnv) : PrepareProg AiModelsCatalogPayload := do
  let policy := resolvePolicy env.platformAiProvider (← ask .findGlobal)
  let catalog ← resolveWorkspaceCatalog policy
  return { providers := catalog.providers
           models := catalog.models
           planCode := findWorkspacePlanCode
           defaultProvider := catalog.defaultProvider
           defaultModel := catalog.defaultModel
           allowedModelTags :=
             if catalog.allowedModelTags = [] then none else some catalog.allowedModelTags }

/-! ## Selecting -/

/-- The beginning of `prepareProxyInvocation`: the provider and the model are selected. -/
def selectModel (env : ApiEnv) (request : Option Payload) :
    PrepareProg ProviderModelCatalogEntry := do
  let normalizedRequest ← Prog.ofExcept (normalizeRequest request)
  let policy := resolvePolicy env.platformAiProvider (← ask .findGlobal)
  let catalog ← resolveWorkspaceCatalog policy
  Prog.ofExcept (chooseModel normalizedRequest catalog policy)

section Runs

variable (env : ApiEnv) (s : PrepareStore)

theorem resolveWorkspaceCatalog_run :
    (resolveWorkspaceCatalog (policyIn env s)).run PrepareCall.exec [] s =
      (.ok (catalogIn env s), s) := by
  unfold resolveWorkspaceCatalog
  cases hopen : isPlatformManaged (policyIn env s) .openrouter <;>
    cases hrouter : isPlatformManaged (policyIn env s) .routerai <;>
    simp only [catalogIn, hopen, hrouter] <;> rfl

/-- Listing reads the policy and the catalog, and changes nothing. -/
theorem listModels_run : (listModelsForCurrentSession env).run PrepareCall.exec [] s =
    (.ok { providers := (catalogIn env s).providers
           models := (catalogIn env s).models
           planCode := none
           defaultProvider := (catalogIn env s).defaultProvider
           defaultModel := (catalogIn env s).defaultModel
           allowedModelTags := if (catalogIn env s).allowedModelTags = [] then none
             else some (catalogIn env s).allowedModelTags }, s) := by
  have hcatalog := resolveWorkspaceCatalog_run env s
  refine (Prog.run_bind PrepareCall.exec (resolveWorkspaceCatalog (policyIn env s)) _ s).trans ?_
  rw [hcatalog]
  rfl

/-- The selection is made on the policy and the catalog in force. -/
theorem selectModel_run (request : Option Payload) :
    (selectModel env request).run PrepareCall.exec [] s =
      ((normalizeRequest request).bind fun normalizedRequest =>
        chooseModel normalizedRequest (catalogIn env s) (policyIn env s), s) := by
  unfold selectModel
  cases normalizeRequest request with
  | error e => rfl
  | ok normalizedRequest =>
    refine (Prog.run_bind PrepareCall.exec (resolveWorkspaceCatalog (policyIn env s)) _ s).trans ?_
    rw [resolveWorkspaceCatalog_run env s]
    show (Prog.ofExcept (chooseModel normalizedRequest (catalogIn env s)
      (policyIn env s))).run PrepareCall.exec [] s = _
    cases hchoose : chooseModel normalizedRequest (catalogIn env s) (policyIn env s) with
    | error e | ok model => simp only [Except.bind, hchoose]; rfl

end Runs

/-! ## What is wrong with a request itself -/

/-- The check fails with a bad request only. -/
def BadRequestOnly {α : Type} (x : Except Exception α) : Prop :=
  ∀ e, x = .error e → ∃ text, e = .badRequest text

section BadRequest

variable {α β : Type}

theorem badRequestOnly_ok (a : α) : BadRequestOnly (.ok a : Except Exception α) := nofun

theorem badRequestOnly_error (text : String) :
    BadRequestOnly (.error (.badRequest text) : Except Exception α) := by
  intro e h
  exact ⟨text, (Except.error.inj h).symm⟩

variable {x : Except Exception α}

theorem badRequestOnly_ite {p : Prop} [Decidable p] {y : Except Exception α}
    (hx : BadRequestOnly x) (hy : BadRequestOnly y) : BadRequestOnly (if p then x else y) := by
  split
  · exact hx
  · exact hy

variable {f : α → Except Exception β}

theorem badRequestOnly_bind
    (hx : BadRequestOnly x) (hf : ∀ a, BadRequestOnly (f a)) : BadRequestOnly (x >>= f) := by
  cases x with
  | ok a => exact hf a
  | error e =>
    intro e' h
    exact hx e' (congrArg Except.error (Except.error.inj h))

theorem badRequestOnly_mapM (hf : ∀ a, BadRequestOnly (f a))
    (l : List α) : BadRequestOnly (l.mapM f) := by
  induction l with
  | nil =>
    exact badRequestOnly_ok _
  | cons a l ih =>
    rw [List.mapM_cons]
    refine badRequestOnly_bind (hf a) fun b => ?_
    exact badRequestOnly_bind ih fun _ => badRequestOnly_ok _

theorem badRequestOnly_contentBlock (block : JsValue) (msgIndex blockIndex : ℕ) :
    BadRequestOnly (normalizeContentBlock block msgIndex blockIndex) := by
  unfold normalizeContentBlock
  split
  · split
    · split
      · exact badRequestOnly_ite (badRequestOnly_error _) (badRequestOnly_ok _)
      · refine badRequestOnly_ite ?_ (badRequestOnly_error _)
        exact badRequestOnly_ite (badRequestOnly_error _) (badRequestOnly_ok _)
    · exact badRequestOnly_error _
  · exact badRequestOnly_error _

theorem badRequestOnly_content (content : Option JsValue) (index : ℕ) :
    BadRequestOnly (normalizeMessageContent content index) := by
  unfold normalizeMessageContent
  split
  · exact badRequestOnly_ite (badRequestOnly_error _) (badRequestOnly_ok _)
  · refine badRequestOnly_ite (badRequestOnly_error _) ?_
    refine badRequestOnly_bind (badRequestOnly_mapM ?_ _) fun _ => badRequestOnly_ok _
    intro block
    exact badRequestOnly_contentBlock block.1 index block.2
  · exact badRequestOnly_error _

theorem badRequestOnly_message (entry : JsValue) (index : ℕ) :
    BadRequestOnly (normalizeMessage entry index) := by
  unfold normalizeMessage
  split
  · split
    · exact badRequestOnly_bind (badRequestOnly_content _ index) fun _ => badRequestOnly_ok _
    · exact badRequestOnly_error _
  · exact badRequestOnly_error _

variable (value : Option JsValue)

theorem badRequestOnly_messages : BadRequestOnly (normalizeMessages value) := by
  unfold normalizeMessages
  split
  · refine badRequestOnly_mapM ?_ _
    intro entry
    exact badRequestOnly_message entry.1 entry.2
  · exact badRequestOnly_error _

theorem badRequestOnly_number (fieldName : String) :
    BadRequestOnly (readNumber value fieldName) := by
  unfold readNumber
  split
  · exact badRequestOnly_ok _
  · exact badRequestOnly_ok _
  · exact badRequestOnly_error _

theorem badRequestOnly_integer (fieldName : String) :
    BadRequestOnly (readInteger value fieldName) := by
  unfold readInteger
  split
  · exact badRequestOnly_ok _
  · exact badRequestOnly_ite (badRequestOnly_ok _) (badRequestOnly_error _)
  · exact badRequestOnly_error _

theorem badRequestOnly_provider (request : Payload) : BadRequestOnly (readProvider request) := by
  unfold readProvider
  split
  · exact badRequestOnly_ok _
  split
  · exact badRequestOnly_ok _
  · exact badRequestOnly_error _

/-- A request that is malformed is a bad request; nothing is forbidden before a model is
selected. -/
theorem badRequestOnly_request (request : Option Payload) :
    BadRequestOnly (normalizeRequest request) := by
  cases request with
  | none => exact badRequestOnly_error _
  | some request =>
    refine badRequestOnly_bind (badRequestOnly_messages _) fun _ => ?_
    refine badRequestOnly_bind (badRequestOnly_number _ _) fun _ => ?_
    refine badRequestOnly_bind (badRequestOnly_integer _ _) fun _ => ?_
    exact badRequestOnly_bind (badRequestOnly_provider _) fun _ => badRequestOnly_ok _

end BadRequest

variable {request : Payload}

/-- What a well-formed request says about the provider and the model. -/
theorem normalizeRequest_ok {normalizedRequest : NormalizedProxyRequest}
    (h : normalizeRequest (some request) = .ok normalizedRequest) :
    readProvider request = .ok normalizedRequest.provider ∧
      normalizedRequest.model = (trimmedMember request "model").map String.ofList := by
  simp only [normalizeRequest, bind, Except.bind] at h
  split at h
  · cases h
  split at h
  · cases h
  split at h
  · cases h
  split at h
  · cases h
  · rename_i provider hprov
    obtain rfl := Except.ok.inj h
    exact ⟨hprov, rfl⟩

/-! ## What is selected -/

variable {policy : AiProviderPolicySnapshot}

/-- A request passes the checks unless its provider is not enabled, no model is named and there
is no default, or the first entry with the id of the model is none of the provider. -/
theorem chooseModel_passes_iff {request : NormalizedProxyRequest} {catalog : WorkspaceAiCatalog} :
    (∀ text, chooseModel request catalog policy ≠ .error (.forbidden text)) ↔
      chooseProvider request catalog policy ∈ policy.providers ∧
        ∃ model entry, (request.model.orElse fun _ => catalog.defaultModel) = some model ∧
          catalog.models.find? (fun e => e.modelId = model) = some entry ∧
          entry.provider = chooseProvider request catalog policy := by
  unfold chooseModel
  by_cases henabled : chooseProvider request catalog policy ∈ policy.providers
  · rw [if_neg (not_not.mpr henabled)]
    cases hmodel : request.model.orElse fun _ => catalog.defaultModel with
    | none => simp
    | some model =>
      cases hfind : catalog.models.find? fun e => e.modelId = model with
      | none => simp [hfind]
      | some entry =>
        by_cases howner : entry.provider = chooseProvider request catalog policy
        · grind
        · simp [hfind, howner]
  · simp [henabled]

/-! ## Requests that name an entry, and requests that name nothing -/

/-- The request names the provider and the model of the entry, as they are listed. -/
structure Names (request : Payload) (entry : ProviderModelCatalogEntry) : Prop where
  provider : request.lookup "provider" = some (.string entry.provider.name.toList)
  model : request.lookup "model" = some (.string entry.modelId.toList)

/-- The request names neither a provider nor a model; blank texts and values that are no texts
count as left out. -/
structure NamesNone (request : Payload) : Prop where
  provider : trimmedMember request "provider" = none
  model : trimmedMember request "model" = none

/-- One message of a user, with the members given. -/
def shortRequest (members : Payload) : Payload :=
  members ++ [("messages", .array [.object
    [("role", .string "user".toList), ("content", .string "?".toList)]])]

def requestFor (entry : ProviderModelCatalogEntry) : Payload :=
  shortRequest [("provider", .string entry.provider.name.toList),
    ("model", .string entry.modelId.toList)]

theorem requestFor_names (entry : ProviderModelCatalogEntry) : Names (requestFor entry) entry :=
  ⟨rfl, rfl⟩

theorem shortRequest_namesNone : NamesNone (shortRequest []) := ⟨rfl, rfl⟩

theorem trimText_toList_eq_nil_iff {text : String} : trimText text.toList = [] ↔ jsTrim text = "" := by
  exact String.ofList_eq_empty_iff.symm

theorem trimmedMember_model {entry : ProviderModelCatalogEntry}
    (h : Names request entry) (hid : jsTrim entry.modelId ≠ "") :
    (trimmedMember request "model").map String.ofList = some (jsTrim entry.modelId) := by
  have hne : ¬ trimText entry.modelId.toList = [] := fun hnil =>
    hid (trimText_toList_eq_nil_iff.mp hnil)
  unfold trimmedMember
  rw [h.model]
  dsimp only
  rw [if_neg hne]
  rfl

/-- The name of a provider is read as the provider. -/
theorem readProvider_name {provider : AiProvider}
    (h : request.lookup "provider" = some (.string provider.name.toList)) :
    readProvider request = .ok (some provider) := by
  have htrim : trimText provider.name.toList = provider.name.toList := by
    cases provider <;> decide
  have hne : ¬ provider.name.toList = [] := by
    cases provider <;> decide
  unfold readProvider trimmedMember
  rw [h]
  dsimp only
  rw [htrim, if_neg hne]
  dsimp only
  rw [String.ofList_toList, AiProvider.ofName?_name]

theorem readProvider_none (h : trimmedMember request "provider" = none) :
    readProvider request = .ok none := by
  unfold readProvider
  rw [h]

/-- A short request is well formed. -/
theorem shortRequest_ok (members : Payload) {provider : Option AiProvider}
    (hmsgs : members.lookup "messages" = none)
    (htemperature : members.lookup "temperature" = none)
    (hmaxTokens : members.lookup "maxTokens" = none)
    (hprov : readProvider (shortRequest members) = .ok provider) :
    ∃ normalizedRequest, normalizeRequest (some (shortRequest members)) = .ok normalizedRequest := by
  have hlook : ∀ key, members.lookup key = none → (shortRequest members).lookup key =
      List.lookup key [("messages", .array [.object
        [("role", .string "user".toList), ("content", .string "?".toList)]])] := by
    grind [shortRequest]
  have hm : (shortRequest members).lookup "messages" = some (.array [.object
      [("role", .string "user".toList), ("content", .string "?".toList)]]) := hlook _ hmsgs
  have ht : (shortRequest members).lookup "temperature" = none := hlook _ htemperature
  have hx : (shortRequest members).lookup "maxTokens" = none := hlook _ hmaxTokens
  simp only [normalizeRequest, hm, ht, hx, hprov]
  exact ⟨_, rfl⟩

/-! ## The catalog -/

/-- What the services of the live catalogs answer: each one entries of its own provider, none
of them with a blank id. -/
structure LiveCatalogs (s : PrepareStore) : Prop where
  openRouter : ∀ entry ∈ s.openRouterModels,
    entry.provider = .openrouter ∧ jsTrim entry.modelId ≠ ""
  routerAi : ∀ entry ∈ s.routerAiModels, entry.provider = .routerai ∧ jsTrim entry.modelId ≠ ""

/-- What holds of the live entries, of the static entries of enabled providers and, where the
platform manages OpenRouter, of its routing entry holds of the whole catalog. -/
theorem allModels_forall {P : ProviderModelCatalogEntry → Prop}
    {liveOpenRouterModels liveRouterAiModels : List ProviderModelCatalogEntry}
    (hstatic : ∀ entry ∈ staticModels policy, P entry)
    (hauto : isPlatformManaged policy .openrouter = true → P openRouterAuto)
    (hopenRouter : ∀ entry ∈ liveOpenRouterModels, P entry)
    (hrouterAi : ∀ entry ∈ liveRouterAiModels, P entry) :
    ∀ entry ∈ allModels policy liveOpenRouterModels liveRouterAiModels, P entry := by
  intro entry h
  unfold allModels at h
  dsimp only at h
  split at h
  · exact hstatic entry h
  · grind

section Catalog

variable {env : ApiEnv} {s : PrepareStore}

variable {entry : ProviderModelCatalogEntry}

/-- A listed entry is one of an enabled provider, and its id is not blank. -/
theorem listed_enabled (hlive : LiveCatalogs s) (h : entry ∈ (catalogIn env s).models) :
    entry.provider ∈ (policyIn env s).providers ∧ jsTrim entry.modelId ≠ "" := by
  have hmanaged : ∀ provider, isPlatformManaged (policyIn env s) provider = true →
      provider ∈ (policyIn env s).providers := by grind [isPlatformManaged]
  -- a live catalog is taken when its provider is managed by the platform
  have hlisted : ∀ (provider : AiProvider) (live : List ProviderModelCatalogEntry),
      (∀ e ∈ live, e.provider = provider ∧ jsTrim e.modelId ≠ "") →
      ∀ e ∈ (if isPlatformManaged (policyIn env s) provider then live else []),
        e.provider ∈ (policyIn env s).providers ∧ jsTrim e.modelId ≠ "" := by grind
  have hmem : entry ∈ allModels (policyIn env s)
      (if isPlatformManaged (policyIn env s) .openrouter then s.openRouterModels else [])
      (if isPlatformManaged (policyIn env s) .routerai then s.routerAiModels else []) := by
    grind [catalogIn, catalogOf]
  refine allModels_forall ?_ ?_ (hlisted _ _ hlive.openRouter) (hlisted _ _ hlive.routerAi) entry
    hmem
  · intro e he
    obtain ⟨hcatalog, hcontains⟩ := List.mem_filter.mp he
    have hids : ∀ e ∈ providerModelCatalog, jsTrim e.modelId ≠ "" := by decide
    exact ⟨List.contains_iff_mem.mp hcontains, hids e hcatalog⟩
  · intro hp
    exact ⟨hmanaged _ hp, by decide⟩

/-! ### Defaults -/

/-- The default provider: that of the policy if it is enabled, else the first enabled one in the
order of the registry. -/
def IsDefaultProvider (policy : AiProviderPolicySnapshot) (provider : AiProvider) : Prop :=
  (policy.defaultProvider = some provider ∧ provider ∈ policy.providers) ∨
    ((∀ p, policy.defaultProvider = some p → p ∉ policy.providers) ∧
      (providerRegistry.find? fun p => p ∈ policy.providers) = some provider)

/-- The default model: that of the policy if it is listed, else the first that is listed. -/
def IsDefaultModel (policy : AiProviderPolicySnapshot) (models : List ProviderModelCatalogEntry)
    (model : String) : Prop :=
  (policy.defaultModel = some model ∧ ∃ entry ∈ models, entry.modelId = model) ∨
    ((∀ m, policy.defaultModel = some m → ∀ entry ∈ models, entry.modelId ≠ m) ∧
      models.head?.map (fun entry => entry.modelId) = some model)

theorem mem_providerRegistry (provider : AiProvider) : provider ∈ providerRegistry := by
  cases provider <;> decide

/-- A value that is taken if it passes a check, with a default. -/
theorem filter_orElse_eq_some {α : Type} {o fallback : Option α} {p : α → Bool} {a : α} :
    ((o.filter p).orElse fun _ => fallback) = some a ↔
      (o = some a ∧ p a = true) ∨ ((∀ b, o = some b → p b = false) ∧ fallback = some a) := by
  cases o with
  | none => simp
  | some b =>
    by_cases hb : p b = true
    · grind
    · grind

theorem defaultProvider_iff {provider : AiProvider} :
    (catalogIn env s).defaultProvider = some provider ↔
      IsDefaultProvider (policyIn env s) provider := by
  have hcontains : ∀ p, (providerRegistry.filter (policyIn env s).providers.contains).contains p =
      decide (p ∈ (policyIn env s).providers) := by
    intro p
    rw [Bool.eq_iff_iff, List.contains_iff_mem, List.mem_filter, List.contains_iff_mem,
      decide_eq_true_iff]
    exact ⟨fun h => h.2, fun h => ⟨mem_providerRegistry p, h⟩⟩
  have hfirst : (providerRegistry.filter (policyIn env s).providers.contains).head? =
      providerRegistry.find? fun p => p ∈ (policyIn env s).providers := by
    rw [List.head?_filter]
    congr 1
    funext p
    rw [Bool.eq_iff_iff, List.contains_iff_mem, decide_eq_true_iff]
  simp only [catalogIn, catalogOf]
  rw [filter_orElse_eq_some, hfirst]
  simp only [hcontains, decide_eq_true_eq, decide_eq_false_iff_not]
  exact Iff.rfl

theorem defaultModel_iff (hlive : LiveCatalogs s) {model : String} :
    (catalogIn env s).defaultModel = some model ↔
      IsDefaultModel (policyIn env s) (catalogIn env s).models model := by
  have hdef : (catalogIn env s).defaultModel =
      (((policyIn env s).defaultModel.filter fun defaultModel =>
        (catalogIn env s).models.any fun entry => entry.modelId = defaultModel).orElse fun _ =>
          (catalogIn env s).models.head?.map fun entry => entry.modelId).filter
            fun defaultModel => defaultModel ≠ "" := rfl
  have hnonempty : ∀ entry ∈ (catalogIn env s).models, entry.modelId ≠ "" := by
    intro entry hentry hid
    have hblank := (listed_enabled hlive hentry).2
    rw [hid] at hblank
    exact hblank (by decide)
  have hlisted : ∀ m, ((catalogIn env s).models.any fun entry => entry.modelId = m) = true ↔
      ∃ entry ∈ (catalogIn env s).models, entry.modelId = m := by grind
  have hunlisted : ∀ m, ((catalogIn env s).models.any fun entry => entry.modelId = m) = false ↔
      ∀ entry ∈ (catalogIn env s).models, entry.modelId ≠ m := by grind
  rw [hdef, Option.filter_eq_some_iff, filter_orElse_eq_some]
  simp only [hlisted, hunlisted, decide_eq_true_eq]
  constructor
  · exact fun h => h.1
  intro h
  refine ⟨h, ?_⟩
  rcases h with ⟨-, entry, hentry, rfl⟩ | ⟨-, hhead⟩
  · exact hnonempty entry hentry
  · obtain ⟨entry, hentry, rfl⟩ := Option.map_eq_some_iff.mp hhead
    exact hnonempty entry (List.mem_of_head? hentry)

/-- Where anything is listed, there are a default provider and a default model. -/
theorem defaults_of_listed (hlive : LiveCatalogs s) (h : entry ∈ (catalogIn env s).models) :
    ∃ provider, (catalogIn env s).defaultProvider = some provider ∧
      provider ∈ (policyIn env s).providers := by
  have henabled := (listed_enabled hlive h).1
  have hsome : (providerRegistry.find? fun p => p ∈ (policyIn env s).providers).isSome := by
    rw [List.find?_isSome]
    exact ⟨entry.provider, mem_providerRegistry _, by simpa using henabled⟩
  obtain ⟨first, hfirst⟩ := Option.isSome_iff_exists.mp hsome
  by_cases hdef : ∃ p, (policyIn env s).defaultProvider = some p ∧
      p ∈ (policyIn env s).providers
  · obtain ⟨p, hp, hmem⟩ := hdef
    exact ⟨p, defaultProvider_iff.mpr (Or.inl ⟨hp, hmem⟩), hmem⟩
  refine ⟨first, defaultProvider_iff.mpr (Or.inr ⟨?_, hfirst⟩), ?_⟩
  · intro p hp hmem
    exact hdef ⟨p, hp, hmem⟩
  · simpa using List.find?_some hfirst

end Catalog

/-! ## Every listed model -/

/-- The selection does not reject the request, as not enabled or not available. -/
def PassesSelection (env : ApiEnv) (s : PrepareStore) (request : Payload) : Prop :=
  ∀ text, ((selectModel env (some request)).run PrepareCall.exec [] s).1 ≠ .error (.forbidden text)

/-- Every entry that is listed can be asked for by its provider and id; and where anything is
listed, a request may leave both out. -/
def ListedCanBeAsked (env : ApiEnv) (s : PrepareStore) : Prop :=
  ∀ payload s', (listModelsForCurrentSession env).run PrepareCall.exec [] s = (.ok payload, s') →
    (∀ entry ∈ payload.models, ∀ request, Names request entry → PassesSelection env s' request) ∧
      (payload.models ≠ [] → ∀ request, NamesNone request → PassesSelection env s' request)

/-- Each id, as it is read in a request, is listed, and belongs to one provider. -/
structure OneOwner (models : List ProviderModelCatalogEntry) : Prop where
  listed : ∀ e ∈ models, ∃ f ∈ models, f.modelId = jsTrim e.modelId
  owner : ∀ e ∈ models, ∀ f ∈ models, jsTrim e.modelId = jsTrim f.modelId → e.provider = f.provider

/-- The default provider and the default model are those of one listed entry. -/
def DefaultsListed (policy : AiProviderPolicySnapshot) (models : List ProviderModelCatalogEntry) :
    Prop :=
  ∃ entry ∈ models, IsDefaultProvider policy entry.provider ∧
    IsDefaultModel policy models entry.modelId

section Listed

variable {env : ApiEnv} {s : PrepareStore}

theorem passesSelection_iff {request : Payload} {normalizedRequest : NormalizedProxyRequest}
    (h : normalizeRequest (some request) = .ok normalizedRequest) :
    PassesSelection env s request ↔
      ∀ text, chooseModel normalizedRequest (catalogIn env s) (policyIn env s) ≠
        .error (.forbidden text) := by
  unfold PassesSelection
  rw [selectModel_run, h]
  exact Iff.rfl

/-- A malformed request is rejected before anything is selected. -/
theorem passesSelection_of_malformed {request : Payload} {e : Exception}
    (h : normalizeRequest (some request) = .error e) : PassesSelection env s request := by
  intro text hrejected
  obtain ⟨text', rfl⟩ := badRequestOnly_request _ e h
  rw [selectModel_run, h] at hrejected
  exact Exception.noConfusion (Except.error.inj hrejected)

/-- A request for an entry passes exactly if the first entry with the id that is read is one of
its provider. -/
theorem named_passes_iff (hlive : LiveCatalogs s) {entry : ProviderModelCatalogEntry}
    (hentry : entry ∈ (catalogIn env s).models) :
    (∀ request, Names request entry → PassesSelection env s request) ↔
      ∃ f, (catalogIn env s).models.find? (fun e => e.modelId = jsTrim entry.modelId) = some f ∧
        f.provider = entry.provider := by
  obtain ⟨henabled, hid⟩ := listed_enabled hlive hentry
  have hnamed : ∀ request normalizedRequest, Names request entry →
      normalizeRequest (some request) = .ok normalizedRequest →
      (PassesSelection env s request ↔
        ∃ f, (catalogIn env s).models.find? (fun e => e.modelId = jsTrim entry.modelId) = some f ∧
          f.provider = entry.provider) := by
    intro request normalizedRequest hnames hok
    obtain ⟨hprov, hmodel⟩ := normalizeRequest_ok hok
    rw [readProvider_name hnames.provider] at hprov
    rw [trimmedMember_model hnames hid] at hmodel
    have hchosen : chooseProvider normalizedRequest (catalogIn env s) (policyIn env s) =
        entry.provider := by grind [chooseProvider]
    rw [passesSelection_iff hok, chooseModel_passes_iff, hchosen, hmodel]
    constructor
    · simp
    · grind
  constructor
  · intro h
    obtain ⟨normalizedRequest, hok⟩ := shortRequest_ok
      [("provider", .string entry.provider.name.toList),
        ("model", .string entry.modelId.toList)] rfl rfl rfl (readProvider_name rfl)
    exact (hnamed _ _ (requestFor_names entry) hok).mp (h _ (requestFor_names entry))
  intro h request hnames
  cases hok : normalizeRequest (some request) with
  | error e => exact passesSelection_of_malformed hok
  | ok normalizedRequest => exact (hnamed request normalizedRequest hnames hok).mpr h

/-- A request that names nothing passes exactly if the first entry with the id of the default
model is one of the default provider. -/
theorem unnamed_passes_iff {provider : AiProvider}
    (hdef : (catalogIn env s).defaultProvider = some provider)
    (henabled : provider ∈ (policyIn env s).providers) :
    (∀ request, NamesNone request → PassesSelection env s request) ↔
      ∃ model f, (catalogIn env s).defaultModel = some model ∧
        (catalogIn env s).models.find? (fun e => e.modelId = model) = some f ∧
          f.provider = provider := by
  have hunnamed : ∀ request normalizedRequest, NamesNone request →
      normalizeRequest (some request) = .ok normalizedRequest →
      (PassesSelection env s request ↔ ∃ model f, (catalogIn env s).defaultModel = some model ∧
          (catalogIn env s).models.find? (fun e => e.modelId = model) = some f ∧
            f.provider = provider) := by
    intro request normalizedRequest hnone hok
    obtain ⟨hprov, hmodel⟩ := normalizeRequest_ok hok
    rw [readProvider_none hnone.provider] at hprov
    rw [hnone.model] at hmodel
    have hchosen : chooseProvider normalizedRequest (catalogIn env s) (policyIn env s) =
        provider := by grind [chooseProvider]
    rw [passesSelection_iff hok, chooseModel_passes_iff, hchosen, hmodel]
    exact ⟨fun h => h.2, fun h => ⟨henabled, h⟩⟩
  constructor
  · intro h
    obtain ⟨normalizedRequest, hok⟩ := shortRequest_ok [] rfl rfl rfl
      (readProvider_none shortRequest_namesNone.provider)
    exact (hunnamed _ _ shortRequest_namesNone hok).mp (h _ shortRequest_namesNone)
  intro h request hnone
  cases hok : normalizeRequest (some request) with
  | error e => exact passesSelection_of_malformed hok
  | ok normalizedRequest => exact (hunnamed request normalizedRequest hnone hok).mpr h

/-- Where ids belong to one provider, the first entry with the default model is one of the
default provider exactly if some entry is. -/
theorem unnamed_passes_iff_defaultsListed (hlive : LiveCatalogs s)
    (howner : OneOwner (catalogIn env s).models) (hne : (catalogIn env s).models ≠ []) :
    (∀ request, NamesNone request → PassesSelection env s request) ↔
      DefaultsListed (policyIn env s) (catalogIn env s).models := by
  obtain ⟨entry, hentry⟩ := List.exists_mem_of_ne_nil _ hne
  obtain ⟨provider, hprov, henabled⟩ := defaults_of_listed hlive hentry
  rw [unnamed_passes_iff hprov henabled]
  constructor
  · rintro ⟨model, f, hmodel, hfind, rfl⟩
    have hid : f.modelId = model := by simpa using List.find?_some hfind
    refine ⟨f, List.mem_of_find?_eq_some hfind, defaultProvider_iff.mp hprov, ?_⟩
    rw [hid]
    exact (defaultModel_iff hlive).mp hmodel
  rintro ⟨e, he, hprov', hmodel⟩
  have hsame : provider = e.provider := by
    have heq := hprov.symm.trans (defaultProvider_iff.mpr hprov')
    exact Option.some.inj heq
  have hsome : ((catalogIn env s).models.find? fun f => f.modelId = e.modelId).isSome := by
    rw [List.find?_isSome]
    exact ⟨e, he, by simp⟩
  obtain ⟨f, hfind⟩ := Option.isSome_iff_exists.mp hsome
  have hid : f.modelId = e.modelId := by simpa using List.find?_some hfind
  refine ⟨e.modelId, f, (defaultModel_iff hlive).mpr hmodel, hfind, ?_⟩
  rw [hsame]
  exact howner.owner f (List.mem_of_find?_eq_some hfind) e he (by rw [hid])

/-- Whatever the policy and the catalogs are: every listed entry can be asked for, and a request
may leave provider and model out, exactly if the ids belong to one provider each and the
defaults are those of one entry. -/
theorem listedCanBeAsked_iff (env : ApiEnv) (s : PrepareStore) (hlive : LiveCatalogs s) :
    ListedCanBeAsked env s ↔ OneOwner (catalogIn env s).models ∧ ((catalogIn env s).models ≠ [] →
        DefaultsListed (policyIn env s) (catalogIn env s).models) := by
  have hlist : ListedCanBeAsked env s ↔
      (∀ entry ∈ (catalogIn env s).models, ∀ request, Names request entry →
        PassesSelection env s request) ∧
      ((catalogIn env s).models ≠ [] → ∀ request, NamesNone request →
        PassesSelection env s request) := by simp [listModels_run, ListedCanBeAsked]
  have howner : (∀ entry ∈ (catalogIn env s).models, ∀ request, Names request entry →
      PassesSelection env s request) ↔ OneOwner (catalogIn env s).models := by
    have hfirst : (∀ e ∈ (catalogIn env s).models, ∃ f,
        (catalogIn env s).models.find? (fun f => f.modelId = jsTrim e.modelId) = some f ∧
          f.provider = e.provider) ↔
        (∀ e ∈ (catalogIn env s).models, ∃ f ∈ (catalogIn env s).models,
          f.modelId = jsTrim e.modelId) ∧
        ∀ e ∈ (catalogIn env s).models, ∀ f ∈ (catalogIn env s).models,
          jsTrim e.modelId = jsTrim f.modelId → e.provider = f.provider :=
      Table.find?_owner_iff jsTrim_jsTrim
    constructor
    · intro h
      obtain ⟨hlisted, hone⟩ := hfirst.mp fun e he => (named_passes_iff hlive he).mp (h e he)
      exact ⟨hlisted, hone⟩
    · intro h entry hentry
      exact (named_passes_iff hlive hentry).mpr (hfirst.mpr ⟨h.listed, h.owner⟩ entry hentry)
  rw [hlist, howner]
  refine and_congr_right fun hone => ?_
  exact forall_congr' fun hne => unnamed_passes_iff_defaultsListed hlive hone hne

end Listed

/-! ### Examples -/

def sharedModelPolicy : AiProviderPolicyRecord where
  mode := .platform_only
  allowPlatformManaged := true
  allowBringYourOwnKey := false
  allowDirectProviderMode := false
  allowWorkspaceSharedCredentials := false
  requireAdminApproval := false
  allowVisionOnUserKeys := false
  providersJson := .array [.string "openrouter", .string "routerai"]
  allowedModelTagsJson := none
  defaultProvider := some "openrouter"
  defaultModel := some "openrouter/auto"
  reason := none

/-- OpenRouter and RouterAI are both enabled, and both offer GPT-4o mini under one id. -/
def sharedModelStore : PrepareStore where
  policy := some sharedModelPolicy
  credentials := []
  openRouterModels := [⟨.openrouter, "openai/gpt-4o-mini", ["text", "vision"]⟩]
  routerAiModels := [⟨.routerai, "openai/gpt-4o-mini", ["text", "vision"]⟩]
  proxy := ownKeyStore.proxy

/-- The entry of RouterAI is listed, and a request for it is told that it is not available. -/
theorem shared_model_not_available :
    LiveCatalogs sharedModelStore ∧ ¬ ListedCanBeAsked ownKeyEnv sharedModelStore := by
  constructor
  · constructor <;> intro entry hentry <;> rw [List.mem_singleton.mp hentry] <;>
      exact ⟨rfl, by decide⟩
  intro h
  obtain ⟨hnamed, -⟩ := h _ _ (listModels_run ownKeyEnv sharedModelStore)
  have hlisted : (⟨.routerai, "openai/gpt-4o-mini", ["text", "vision"]⟩ :
      ProviderModelCatalogEntry) ∈ (catalogIn ownKeyEnv sharedModelStore).models := by decide
  have hpasses := hnamed _ hlisted _ (requestFor_names _)
  exact hpasses _ rfl

/-- No policy is stored and no live catalog is there: OpenRouter's routing entry is listed. -/
def plainCatalogStore : PrepareStore :=
  { sharedModelStore with policy := none, openRouterModels := [], routerAiModels := [] }

theorem plain_catalog_asked : ListedCanBeAsked ownKeyEnv plainCatalogStore := by
  have hlive : LiveCatalogs plainCatalogStore :=
    ⟨fun _ h => absurd h List.not_mem_nil, fun _ h => absurd h List.not_mem_nil⟩
  refine (listedCanBeAsked_iff ownKeyEnv plainCatalogStore hlive).mpr ?_
  have hmodels : (catalogIn ownKeyEnv plainCatalogStore).models = [openRouterAuto] := by decide
  rw [hmodels]
  refine ⟨⟨?_, ?_⟩, fun _ => ⟨openRouterAuto, List.mem_singleton_self _, ?_, ?_⟩⟩
  · intro e he
    rw [List.mem_singleton.mp he]
    exact ⟨openRouterAuto, List.mem_singleton_self _, by decide⟩
  · simp
  · exact Or.inl ⟨rfl, by decide⟩
  · exact Or.inl ⟨rfl, openRouterAuto, List.mem_singleton_self _, rfl⟩

end QuizMind.Ai
