import QuizMind.Ai.ProviderPolicy
import QuizMind.Ai.Proxy
import QuizMind.Table.Select
import QuizMind.Access.Permissions

/-! # The AI proxy before the upstream call

`prepareProxyInvocation`: the request is normalized, a provider and a model are chosen from
the catalog of the policy, and a key is resolved, trying the sources of keys in turn.

The catalogs of OpenRouter and RouterAI are read from their services, which answer with
what they have cached; `decryptSecret` is a parameter. Dates, log lines and the period of
the quota are left out.
-/

namespace QuizMind.Ai

open Async

/-! ## The request -/

inductive MessageRole where
  | system | user | assistant | tool

def MessageRole.ofName? : List Char → Option MessageRole
  | ['s', 'y', 's', 't', 'e', 'm'] => some .system
  | ['u', 's', 'e', 'r'] => some .user
  | ['a', 's', 's', 'i', 's', 't', 'a', 'n', 't'] => some .assistant
  | ['t', 'o', 'o', 'l'] => some .tool
  | _ => none

inductive ImageDetail where
  | auto | low | high

inductive ContentBlock where
  | text (text : List Char)
  | image_url (url : List Char) (detail : Option ImageDetail)

inductive NormalizedMessageContent where
  | text (text : List Char)
  | blocks (blocks : List ContentBlock)

structure NormalizedMessage where
  role : MessageRole
  content : NormalizedMessageContent
  name : Option (List Char)

structure NormalizedProxyRequest where
  provider : Option AiProvider
  model : Option String
  messages : List NormalizedMessage
  useOwnKey : Option Bool
  temperature : Option ℚ
  maxTokens : Option ℤ
  stream : Bool

/-- A member that is a string, trimmed; anything else counts as empty. -/
def trimmedText (members : Payload) (key : String) : List Char :=
  (trimmedMember members key).getD []

def normalizeDetail (image : Payload) : Option ImageDetail :=
  match image.lookup "detail" with
  | some (.string text) =>
    if text = "auto".toList then some .auto
    else if text = "low".toList then some .low
    else if text = "high".toList then some .high
    else none
  | _ => none

def normalizeContentBlock (block : JsValue) (msgIndex blockIndex : ℕ) :
    Except Exception ContentBlock :=
  match block with
  | .object b =>
    match b.lookup "type" with
    | some (.string type) =>
      if type = "text".toList then
        let text := trimmedText b "text"
        if text = [] then
          .error (.badRequest s!"messages[{msgIndex}].content[{blockIndex}].text is required.")
        else .ok (.text text)
      else if type = "image_url".toList then
        let image : Payload := match b.lookup "image_url" with
          | some (.object image) => image
          | _ => []
        let url := trimmedText image "url"
        if url = [] then
          .error (.badRequest
            s!"messages[{msgIndex}].content[{blockIndex}].image_url.url is required.")
        else .ok (.image_url url (normalizeDetail image))
      else .error (unknownBlock msgIndex blockIndex)
    | _ => .error (unknownBlock msgIndex blockIndex)
  | _ => .error (.badRequest s!"messages[{msgIndex}].content[{blockIndex}] must be an object.")
where
  unknownBlock (msgIndex blockIndex : ℕ) : Exception :=
    .badRequest (s!"messages[{msgIndex}].content[{blockIndex}].type must be " ++
      "\"text\" or \"image_url\".")

def normalizeMessageContent (content : Option JsValue) (index : ℕ) :
    Except Exception NormalizedMessageContent :=
  match content with
  | some (.string text) =>
    if trimText text = [] then
      .error (.badRequest s!"messages[{index}].content is required.")
    else .ok (.text (trimText text))
  | some (.array blocks) =>
    if blocks = [] then
      .error (.badRequest s!"messages[{index}].content array must not be empty.")
    else do
      let blocks ← blocks.zipIdx.mapM fun b => normalizeContentBlock b.1 index b.2
      return .blocks blocks
  | _ => .error (.badRequest
      s!"messages[{index}].content must be a string or an array of content blocks.")

def normalizeMessage (entry : JsValue) (index : ℕ) : Except Exception NormalizedMessage :=
  match entry with
  | .object members =>
    match MessageRole.ofName? (trimmedText members "role") with
    | some role => do
        let content ← normalizeMessageContent (members.lookup "content") index
        return { role := role
                 content := content
                 name := trimmedMember members "name" }
    | none => .error (.badRequest (s!"messages[{index}].role must be one of " ++
        "\"system\", \"user\", \"assistant\", or \"tool\"."))
  | _ => .error (.badRequest s!"messages[{index}] must be an object.")

def normalizeMessages (value : Option JsValue) : Except Exception (List NormalizedMessage) :=
  match value with
  | some (.array (first :: rest)) =>
    (first :: rest).zipIdx.mapM fun entry => normalizeMessage entry.1 entry.2
  | _ => .error (.badRequest "messages must contain at least one item.")

def readNumber (value : Option JsValue) (fieldName : String) : Except Exception (Option ℚ) :=
  match value with
  | none => .ok none
  | some (.number (some q)) => .ok (some q)
  | some _ => .error (.badRequest s!"{fieldName} must be a finite number.")

def readInteger (value : Option JsValue) (fieldName : String) : Except Exception (Option ℤ) :=
  match value with
  | none => .ok none
  | some (.number (some q)) =>
    if q.isInt && 1 ≤ q then .ok (some q.num)
    else .error (.badRequest s!"{fieldName} must be a positive integer.")
  | some _ => .error (.badRequest s!"{fieldName} must be a positive integer.")

/-- A provider that is given has to be a registered one. -/
def readProvider (request : Payload) : Except Exception (Option AiProvider) :=
  match trimmedMember request "provider" with
  | none => .ok none
  | some text =>
    match AiProvider.ofName? (String.ofList text) with
    | some provider => .ok (some provider)
    | none => .error (.badRequest ("provider must be one of: " ++
        ", ".intercalate (providerRegistry.map AiProvider.name) ++ "."))

def normalizeRequest (request : Option Payload) : Except Exception NormalizedProxyRequest := do
  match request with
  | none => .error (.badRequest "Request body is required.")
  | some request =>
    let messages ← normalizeMessages (request.lookup "messages")
    let temperature ← readNumber (request.lookup "temperature") "temperature"
    let maxTokens ← readInteger (request.lookup "maxTokens") "maxTokens"
    let provider ← readProvider request
    return { provider := provider
             model := (trimmedMember request "model").map String.ofList
             messages := messages
             useOwnKey := match request.lookup "useOwnKey" with
               | some (.bool b) => some b
               | _ => none
             temperature := temperature
             maxTokens := maxTokens
             stream := match request.lookup "stream" with
               | some (.bool b) => b
               | _ => false }

/-! ## Credentials and the stores -/

inductive CredentialOwnerType where
  | platform | workspace | user
  deriving DecidableEq

inductive CredentialValidationStatus where
  | pending | valid | invalid | revoked
  deriving DecidableEq

/-- A row of `ProviderCredential`. -/
structure ProviderCredential where
  provider : String
  ownerType : CredentialOwnerType
  userId : Option String
  encryptedSecretJson : Json
  validationStatus : CredentialValidationStatus
  disabledAt : Option ℤ
  revokedAt : Option ℤ
  createdAt : ℤ
  updatedAt : ℤ

/-- Valid, not revoked and not disabled. -/
def ProviderCredential.isUsable (credential : ProviderCredential) : Bool :=
  credential.validationStatus = .valid && credential.revokedAt = none &&
    credential.disabledAt = none

/-- `orderBy: [{ updatedAt: 'desc' }, { createdAt: 'desc' }]`. -/
def LatestFirst (a b : ProviderCredential) : Prop :=
  b.updatedAt < a.updatedAt ∨ a.updatedAt = b.updatedAt ∧ b.createdAt ≤ a.createdAt

instance : DecidableRel LatestFirst := fun a b =>
  inferInstanceAs (Decidable (b.updatedAt < a.updatedAt ∨
    a.updatedAt = b.updatedAt ∧ b.createdAt ≤ a.createdAt))

def isUserCredential (provider : AiProvider) (userId : String) (credential : ProviderCredential) :
    Bool :=
  credential.provider = provider.name && credential.isUsable && credential.ownerType = .user &&
    credential.userId = some userId

def isPlatformCredential (provider : AiProvider) (credential : ProviderCredential) : Bool :=
  credential.provider = provider.name && credential.isUsable && credential.ownerType = .platform

/-- The policy row, the credentials, the live catalogs, and the tables of the proxy. -/
structure PrepareStore where
  policy : Option AiProviderPolicyRecord
  credentials : List ProviderCredential
  openRouterModels : List ProviderModelCatalogEntry
  routerAiModels : List ProviderModelCatalogEntry
  proxy : AiStore

inductive PrepareCall where
  | findGlobal
  | getLiveOpenRouterModels
  | getLiveRouterAiModels
  | findBestUserCredential (provider : AiProvider) (userId : String)
  | findLatestPlatformCredential (provider : AiProvider)
  | getEffectivePricingPolicy
  | findBalanceForUser (userId : String)
  | proxy (op : AiCall)

abbrev PrepareCall.Res : PrepareCall → Type
  | .findGlobal => Option AiProviderPolicyRecord
  | .getLiveOpenRouterModels => List ProviderModelCatalogEntry
  | .getLiveRouterAiModels => List ProviderModelCatalogEntry
  | .findBestUserCredential _ _ => Option ProviderCredential
  | .findLatestPlatformCredential _ => Option ProviderCredential
  | .getEffectivePricingPolicy => PlatformAiPricingPolicy
  | .findBalanceForUser _ => Option ℤ
  | .proxy op => op.Res

def PrepareCall.exec : (op : PrepareCall) → PrepareStore → Except Exception op.Res × PrepareStore
  | .findGlobal, s => (.ok s.policy, s)
  | .getLiveOpenRouterModels, s => (.ok s.openRouterModels, s)
  | .getLiveRouterAiModels, s => (.ok s.routerAiModels, s)
  | .findBestUserCredential provider userId, s =>
    (.ok (Table.select LatestFirst (isUserCredential provider userId) 1 s.credentials).head?, s)
  | .findLatestPlatformCredential provider, s =>
    (.ok (Table.select LatestFirst (isPlatformCredential provider) 1 s.credentials).head?, s)
  | .getEffectivePricingPolicy, s => (.ok s.proxy.policy, s)
  | .findBalanceForUser userId, s =>
    (.ok ((s.proxy.wallet.1.wallets.find? fun w => w.userId = userId).map
      fun w => w.balanceKopecks), s)
  | .proxy op, s =>
    let out := op.effect s.proxy
    (out.1, { s with proxy := out.2 })

abbrev PrepareProg := Prog PrepareCall PrepareCall.Res Exception

abbrev ask (op : PrepareCall) : PrepareProg op.Res := Prog.await op

inductive RuntimeMode where
  | mock | connected
  deriving DecidableEq

structure ApiEnv where
  runtimeMode : RuntimeMode
  openRouterApiKey : Option String
  routerAiApiKey : Option String
  providerCredentialSecret : String
  platformAiProvider : AiProvider

/-! ## The catalog -/

structure WorkspaceAiCatalog where
  providers : List AiProvider
  models : List ProviderModelCatalogEntry
  defaultProvider : Option AiProvider
  defaultModel : Option String
  allowedModelTags : List String

def openRouterAuto : ProviderModelCatalogEntry :=
  ⟨.openrouter, "openrouter/auto", ["text", "routing"]⟩

def isPlatformManaged (policy : AiProviderPolicySnapshot) (provider : AiProvider) : Bool :=
  policy.providers.contains provider && policy.allowPlatformManaged

/-- The static entries of the enabled providers. -/
def staticModels (policy : AiProviderPolicySnapshot) : List ProviderModelCatalogEntry :=
  providerModelCatalog.filter fun entry => policy.providers.contains entry.provider

/-- The live entries, and the static ones of the providers that have no live entry. -/
def allModels (policy : AiProviderPolicySnapshot)
    (liveOpenRouterModels liveRouterAiModels : List ProviderModelCatalogEntry) :
    List ProviderModelCatalogEntry :=
  let liveModels := liveOpenRouterModels ++ liveRouterAiModels
  if liveModels = [] then staticModels policy
  else
    let hasAutoEntry := liveOpenRouterModels.any fun m => m.modelId = openRouterAuto.modelId
    let extraEntries :=
      if !isPlatformManaged policy .openrouter || hasAutoEntry then [] else [openRouterAuto]
    extraEntries ++ liveModels ++ (staticModels policy).filter fun entry =>
      !liveModels.any fun live => live.provider = entry.provider

/-- `resolveWorkspaceCatalog`, on the live entries. -/
def catalogOf (policy : AiProviderPolicySnapshot)
    (liveOpenRouterModels liveRouterAiModels : List ProviderModelCatalogEntry) :
    WorkspaceAiCatalog :=
  let allowedModelTags := ((policy.allowedModelTags.map jsTrim).filter fun tag => tag ≠ "").dedup
  let providers := providerRegistry.filter policy.providers.contains
  let allModels := allModels policy liveOpenRouterModels liveRouterAiModels
  let models := if allowedModelTags = [] then allModels
    else allModels.filter fun entry => entry.capabilityTags.any allowedModelTags.contains
  let firstModel := models.head?.map fun entry => entry.modelId
  { providers := providers
    models := models
    defaultProvider := (policy.defaultProvider.filter providers.contains).orElse
      fun _ => providers.head?
    defaultModel := ((policy.defaultModel.filter fun defaultModel =>
      models.any fun entry => entry.modelId = defaultModel).orElse fun _ => firstModel).filter
        fun defaultModel => defaultModel ≠ ""
    allowedModelTags := allowedModelTags }

/-- A live catalog is asked for only when its provider is managed by the platform. -/
def getLiveModels (isPlatformManaged : Bool)
    (liveModels : PrepareProg (List ProviderModelCatalogEntry)) :
    PrepareProg (List ProviderModelCatalogEntry) :=
  if isPlatformManaged then liveModels else return []

def resolveWorkspaceCatalog (policy : AiProviderPolicySnapshot) :
    PrepareProg WorkspaceAiCatalog := do
  let liveOpenRouterModels ←
    getLiveModels (isPlatformManaged policy .openrouter) (ask .getLiveOpenRouterModels)
  let liveRouterAiModels ←
    getLiveModels (isPlatformManaged policy .routerai) (ask .getLiveRouterAiModels)
  return catalogOf policy liveOpenRouterModels liveRouterAiModels

def ProviderModelCatalogEntry.supportsVision (model : ProviderModelCatalogEntry) : Bool :=
  model.capabilityTags.any fun tag => tag = "vision"

/-! ## Keys -/

structure EncryptedSecretEnvelope where
  ciphertext : String
  iv : String
  authTag : String

def readEncryptedSecretEnvelope (value : Json) : Except Exception EncryptedSecretEnvelope :=
  match value with
  | .object members =>
    match members.lookup "algorithm", members.lookup "keyVersion", members.lookup "ciphertext",
      members.lookup "iv", members.lookup "authTag" with
    | some (.string algorithm), some (.string keyVersion), some (.string ciphertext),
        some (.string iv), some (.string authTag) =>
        if algorithm = "aes-256-gcm" ∧ keyVersion = "v1" then .ok ⟨ciphertext, iv, authTag⟩
        else .error (.serviceUnavailable "Stored provider credential envelope is invalid.")
    | _, _, _, _, _ =>
      .error (.serviceUnavailable "Stored provider credential envelope is invalid.")
  | _ => .error (.serviceUnavailable "Stored provider credential is malformed.")

/-- What `decryptSecret` makes of an envelope with a secret. -/
abbrev Decryption := EncryptedSecretEnvelope → String → Except Exception String

/-- `policy.reason ?? text`. -/
def AiProviderPolicySnapshot.forbids (policy : AiProviderPolicySnapshot) (text : String) :
    Exception :=
  .forbidden (policy.reason.getD text)

/-- A provider that is reached over a key of its own only. -/
def AiProvider.isDirect (provider : AiProvider) : Bool :=
  provider ≠ .openrouter && provider ≠ .routerai

def directModeDisabled (policy : AiProviderPolicySnapshot) (provider : AiProvider) : Exception :=
  policy.forbids s!"Direct provider mode is disabled for provider \"{provider.name}\"."

def canTryNextKeySource : Exception → Bool
  | .notFound _ | .forbidden _ | .serviceUnavailable _ => true
  | _ => false

def resolveKeyAttemptOrder (provider : AiProvider) (policy : AiProviderPolicySnapshot)
    (requestedUseOwnKey : Option Bool) : List KeySource :=
  match requestedUseOwnKey with
  | some useOwnKey => [if useOwnKey then .user else .platform]
  | none =>
    let canTryUserKey := policy.allowBringYourOwnKey && !policy.requireAdminApproval
    if policy.mode = .user_key_required then [.user]
    else if provider.isDirect then [.user]
    else if !policy.allowPlatformManaged then
      if canTryUserKey then [.user] else [.platform]
    else if canTryUserKey then [.user, .platform]
    else [.platform]

structure KeyMaterialResolution where
  keySource : KeySource
  apiKey : String

section

variable (env : ApiEnv) (decryptSecret : Decryption)

def decryptCredential (credential : ProviderCredential) : Except Exception String := do
  let envelope ← readEncryptedSecretEnvelope credential.encryptedSecretJson
  decryptSecret envelope env.providerCredentialSecret

/-- The key of the environment; an empty one counts as missing. -/
def envApiKey (provider : AiProvider) : Option String :=
  let apiKey := match provider with
    | .routerai => env.routerAiApiKey.map jsTrim
    | .openrouter => env.openRouterApiKey.map jsTrim
    | _ => none
  apiKey.filter fun key => key ≠ ""

def noPlatformCredential (provider : AiProvider) : Exception :=
  match provider with
  | .routerai => .serviceUnavailable ("Platform RouterAI credentials are not configured. " ++
      "Add ROUTERAI_API_KEY or store a platform credential.")
  | .openrouter => .serviceUnavailable ("Platform OpenRouter credentials are not configured. " ++
      "Add OPENROUTER_API_KEY, store a platform credential, or use useOwnKey=true.")
  | _ => .badRequest
      s!"Platform-managed key routing is not configured for provider \"{provider.name}\"."

def resolvePlatformKey (provider : AiProvider) (policy : AiProviderPolicySnapshot) :
    PrepareProg String := do
  if !policy.allowPlatformManaged then
    throw (policy.forbids "Platform-managed provider routing is disabled for this workspace.")
  else
    match envApiKey env provider with
    | some apiKey => return apiKey
    | none =>
      match ← ask (.findLatestPlatformCredential provider) with
      | some credential => Prog.ofExcept (decryptCredential env decryptSecret credential)
      | none => throw (noPlatformCredential provider)

def resolveUserKey (provider : AiProvider) (userId : String) (policy : AiProviderPolicySnapshot) :
    PrepareProg String := do
  if !policy.allowBringYourOwnKey then
    throw (policy.forbids "Bring-your-own-key is disabled by the current AI provider policy.")
  else if policy.requireAdminApproval then
    throw (policy.forbids "Bring-your-own-key currently requires admin approval.")
  else
    match ← ask (.findBestUserCredential provider userId) with
    | some credential => Prog.ofExcept (decryptCredential env decryptSecret credential)
    | none => throw (.notFound (s!"No active {provider.name} credential is available for " ++
        "BYOK in this workspace context."))

def resolveKey (provider : AiProvider) (userId : String) (policy : AiProviderPolicySnapshot) :
    KeySource → PrepareProg String
  | .user => resolveUserKey env decryptSecret provider userId policy
  | .platform => resolvePlatformKey env decryptSecret provider policy

/-- The loop of `resolveKeyMaterial`; `lastError` is the error of the last attempt. -/
def tryKeySources (resolve : KeySource → PrepareProg String) :
    List KeySource → Option Exception → PrepareProg KeyMaterialResolution
  | [], lastError => throw (lastError.getD (.serviceUnavailable
      "Unable to resolve provider credentials for this request."))
  | keySource :: attemptOrder, _ =>
    tryCatch (do
        let apiKey ← resolve keySource
        return ⟨keySource, apiKey⟩)
      (fun error =>
        if canTryNextKeySource error then tryKeySources resolve attemptOrder (some error)
        else throw error)

def resolveKeyMaterial (provider : AiProvider) (userId : String)
    (policy : AiProviderPolicySnapshot) (requestedUseOwnKey : Option Bool) :
    PrepareProg KeyMaterialResolution := do
  if provider.isDirect && !policy.allowDirectProviderMode then
    throw (directModeDisabled policy provider)
  else
    tryKeySources (resolveKey env decryptSecret provider userId policy)
      (resolveKeyAttemptOrder provider policy requestedUseOwnKey) none

end

/-! ## The preparation -/

def supportedProxyProviders : List AiProvider := [.openrouter, .routerai, .openai, .polza]

def aiRequestsQuotaKey : String := "limit.requests_per_day"

/-- `findUsageLimit`. -/
def findUsageLimit (_quotaKey : String) : Option ℕ := none

/-- `findActiveQuotaCounter`: what is consumed. -/
def findActiveQuotaCounter (_quotaKey : String) : Option ℕ := none

/-- `evaluateUsageDecision`: the message of a refusal. -/
def evaluateUsageDecision (consumed : ℕ) (limit : Option ℕ) : Except String Unit :=
  match limit with
  | none => .ok ()
  | some limit =>
    if limit ≤ consumed then
      .error "Workspace quota has been exhausted for the current window."
    else .ok ()

/-- A `PreparedProxyInvocation` with the request and the key. -/
structure KeyedProxyInvocation where
  userId : String
  request : NormalizedProxyRequest
  resolvedModel : String
  provider : AiProvider
  keySource : KeySource
  apiKey : String
  requestId : String
  quotaLimit : Option ℕ
  quotaConsumed : ℕ

/-- What the steps after the upstream call look at. -/
def KeyedProxyInvocation.prepared (invocation : KeyedProxyInvocation) :
    PreparedProxyInvocation where
  userId := invocation.userId
  requestId := invocation.requestId
  provider := invocation.provider.name
  resolvedModel := invocation.resolvedModel
  keySource := invocation.keySource
  messageCount := invocation.request.messages.length
  quotaConsumed := invocation.quotaConsumed
  quotaLimit := invocation.quotaLimit

/-- The provider of a request: its own, that of the catalog, the first of the policy. -/
def chooseProvider (request : NormalizedProxyRequest) (catalog : WorkspaceAiCatalog)
    (policy : AiProviderPolicySnapshot) : AiProvider :=
  (request.provider.orElse fun _ => catalog.defaultProvider.orElse fun _ =>
    policy.providers.head?).getD .openrouter

def modelNotAvailable (model : String) : String :=
  s!"Model \"{model}\" is not available for the current plan and AI provider policy"

/-- The checks that choose a provider and a model. -/
def chooseModel (request : NormalizedProxyRequest) (catalog : WorkspaceAiCatalog)
    (policy : AiProviderPolicySnapshot) : Except Exception ProviderModelCatalogEntry := do
  let provider := chooseProvider request catalog policy
  if provider ∉ policy.providers then
    .error (.forbidden s!"Provider \"{provider.name}\" is not enabled by the current AI policy.")
  else
    match request.model.orElse fun _ => catalog.defaultModel with
    | none => .error (.forbidden
        "No model specified and no default model is configured in the AI provider policy.")
    | some resolvedModel =>
      match catalog.models.find? fun model => model.modelId = resolvedModel with
      | none => .error (.forbidden (modelNotAvailable resolvedModel ++ "."))
      | some selectedModel =>
        if selectedModel.provider ≠ provider then
          .error (.forbidden (modelNotAvailable resolvedModel ++
            s!" (provider \"{provider.name}\")."))
        else if provider ∉ supportedProxyProviders then
          .error (.badRequest (s!"Provider \"{provider.name}\" proxy routing is not " ++
            "supported yet. Supported providers: " ++
            ", ".intercalate (supportedProxyProviders.map AiProvider.name) ++ "."))
        else .ok selectedModel

def ownKeyRequired (policy : AiProviderPolicySnapshot) : Exception :=
  policy.forbids "This workspace requires bring-your-own-key for AI proxy requests."

def visionDisabled (policy : AiProviderPolicySnapshot) (model : ProviderModelCatalogEntry) :
    Exception :=
  policy.forbids
    s!"Model \"{model.modelId}\" requires vision support that is disabled for user keys."

/-- The checks before a key is resolved. -/
def checkBeforeKey (request : NormalizedProxyRequest) (policy : AiProviderPolicySnapshot)
    (selectedModel : ProviderModelCatalogEntry) : Except Exception Unit :=
  if selectedModel.provider.isDirect && !policy.allowDirectProviderMode then
    .error (directModeDisabled policy selectedModel.provider)
  else if policy.mode = .user_key_required ∧ request.useOwnKey ≠ some true then
    .error (ownKeyRequired policy)
  else if request.useOwnKey = some true ∧ selectedModel.supportsVision ∧
      !policy.allowVisionOnUserKeys then
    .error (visionDisabled policy selectedModel)
  else .ok ()

/-- The checks on the key that was resolved. -/
def checkKeySource (policy : AiProviderPolicySnapshot) (selectedModel : ProviderModelCatalogEntry)
    (keySource : KeySource) : Except Exception Unit :=
  if selectedModel.provider.isDirect && keySource ≠ .user then
    .error (.badRequest (s!"Provider \"{selectedModel.provider.name}\" requires useOwnKey=true " ++
      "because platform-managed direct routing is not configured."))
  else if policy.mode = .user_key_required ∧ keySource ≠ .user then
    .error (ownKeyRequired policy)
  else if keySource = .user ∧ selectedModel.supportsVision ∧ !policy.allowVisionOnUserKeys then
    .error (visionDisabled policy selectedModel)
  else .ok ()

section

variable (env : ApiEnv) (decryptSecret : Decryption) (rate : EnvRate)

/-- The balance is not looked up for a free model. -/
def balanceFor (userId : String) (isFreeModel : Bool) : PrepareProg (Option ℤ) :=
  if isFreeModel then return none else ask (.findBalanceForUser userId)

def walletGateBlocks (pricingPolicy : PlatformAiPricingPolicy) (keySource : KeySource)
    (isFreeModel : Bool) (balanceKopecks : Option ℤ) : Bool :=
  let shouldEnforce := pricingPolicy.enabled &&
    (keySource = .platform || pricingPolicy.chargeUserKeyRequests ≠ .never)
  shouldEnforce && !isFreeModel && balanceKopecks.getD 0 ≤ 0

/-- The wallet gate: a paid model needs a balance where the request is going to be priced. -/
def walletGate (userId : String) (selectedModel : ProviderModelCatalogEntry)
    (keySource : KeySource) : PrepareProg Unit :=
  if env.runtimeMode = .connected then do
    let pricingPolicy ← ask .getEffectivePricingPolicy
    let isFreeModel := selectedModel.capabilityTags.contains "free"
    let balanceKopecks ← balanceFor userId isFreeModel
    if walletGateBlocks pricingPolicy keySource isFreeModel balanceKopecks then
      throw (.forbidden
        "Insufficient balance for paid model. Top up your balance or choose a free model.")
    else return ()
  else return ()

/-- A call of the proxy as one of the preparation. -/
def recordQuotaFailure (invocation : KeyedProxyInvocation) : PrepareProg Unit :=
  (recordProxyFailureSafely rate invocation.prepared .quota_exceeded "quota_exhausted").embed
    PrepareCall.proxy fun _ answer => answer

def quotaGate (invocation : KeyedProxyInvocation) : PrepareProg Unit :=
  if invocation.keySource = .platform then
    match evaluateUsageDecision invocation.quotaConsumed invocation.quotaLimit with
    | .ok () => return ()
    | .error message => do
        recordQuotaFailure rate invocation
        throw (.forbidden message)
  else return ()

def prepareProxyInvocation (session : CurrentSessionSnapshot) (requestId : String)
    (request : Option Payload) : PrepareProg KeyedProxyInvocation := do
  let normalizedRequest ← Prog.ofExcept (normalizeRequest request)
  let policy := resolvePolicy env.platformAiProvider (← ask .findGlobal)
  let catalog ← resolveWorkspaceCatalog policy
  let selectedModel ← Prog.ofExcept (chooseModel normalizedRequest catalog policy)
  Prog.ofExcept (checkBeforeKey normalizedRequest policy selectedModel)
  let keyMaterial ← resolveKeyMaterial env decryptSecret selectedModel.provider session.userId
    policy normalizedRequest.useOwnKey
  Prog.ofExcept (checkKeySource policy selectedModel keyMaterial.keySource)
  walletGate env session.userId selectedModel keyMaterial.keySource
  let invocation : KeyedProxyInvocation :=
    { userId := session.userId
      request := normalizedRequest
      resolvedModel := selectedModel.modelId
      provider := selectedModel.provider
      keySource := keyMaterial.keySource
      apiKey := keyMaterial.apiKey
      requestId := requestId
      quotaLimit := findUsageLimit aiRequestsQuotaKey
      quotaConsumed := (findActiveQuotaCounter aiRequestsQuotaKey).getD 0 }
  quotaGate rate invocation
  return invocation

end

end QuizMind.Ai
