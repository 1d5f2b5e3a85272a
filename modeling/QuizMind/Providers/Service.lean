import QuizMind.Providers.Store

/-! # `ProviderCredentialService`

Creating, rotating, revoking and testing credentials, and the endpoints for a user's own keys.
The access decisions depend on the session alone and are given to the handlers.

`encryptSecret` and `decryptSecret` run on the crypto module of the runtime, and the texts of
dates on its `Date`: they are parameters, with the law that a secret that was encrypted is
decrypted again.
-/

namespace QuizMind.Providers

open Async
open Ai (AiProvider AiProviderPolicyRecord AiProviderPolicySnapshot CredentialOwnerType
  CredentialValidationStatus EncryptedSecretEnvelope providerRegistry)
open RemoteConfig (JsString JsonValue js)

/-! ## Texts -/

/-- `text.slice(-4)`. -/
def lastFour (text : JsString) : JsString := text.drop (text.length - 4)

def isSpaceUnit (unit : ℕ) : Bool := isJsSpace (Char.ofNat unit)

/-- `text.trim()`, on code units: no white space takes two of them. -/
def trimUnits (text : JsString) : JsString :=
  (text.dropWhile isSpaceUnit).rdropWhile isSpaceUnit

/-- An empty text counts as none. -/
def truthyText (text : Option String) : Option String := text.filter fun t => t ≠ ""

def textMember (key : String) (text : String) : String × JsonValue := (key, .string (js text))

/-- A member that is left out when it is undefined. -/
def textMember? (key : String) (text : Option String) : Metadata :=
  text.toList.map (textMember key)

def stringArray (items : List String) : JsonValue :=
  .array (items.map fun item => .string (js item))

def readMetadataString (metadata : Metadata) (key : String) : Option JsString :=
  match metadata.lookup key with
  | some (.string text) => some (trimUnits text) |>.filter fun t => t ≠ []
  | _ => none

def readJsonStringArray : Option Json → List String
  | some (.array items) => items.filterMap fun item =>
    match item with
    | .string text => some text
    | _ => none
  | _ => []

def normalizeScopes (value : Option (List String)) : List String :=
  Ai.normalizeStringList value []

def normalizeLabel (value : Option String) : Option String := truthyText (value.map jsTrim)

def ownerTypeText : CredentialOwnerType → String
  | .platform => "platform"
  | .workspace => "workspace"
  | .user => "user"

/-! ## Secrets -/

def redactSecretValue (value : String) : JsString :=
  if value = "" then js "***redacted***"
  else List.replicate (max ((js value).length - 4) 4) '*'.toNat ++ lastFour (js value)

def readKeyHintFromSecret (secret : String) : Option JsString :=
  let normalized := jsTrim secret
  if normalized = "" then none else some (lastFour (js normalized))

structure ProviderSecretValidationResult where
  valid : Bool
  normalizedSecret : Option String
  reason : Option String

def invalidSecret (reason : String) : ProviderSecretValidationResult := ⟨false, none, some reason⟩

def validateProviderSecretShape (provider : AiProvider) (secret : String) :
    ProviderSecretValidationResult :=
  let normalizedSecret := jsTrim secret
  if normalizedSecret = "" then invalidSecret "Provider secret is required."
  else if jsLength normalizedSecret < 12 then
    invalidSecret "Provider secret looks too short to be valid."
  else if provider = .internal then
    invalidSecret "Internal gateway credentials are platform-managed only."
  else if provider = .openai ∧ ¬ jsStartsWith normalizedSecret "sk-" then
    invalidSecret "OpenAI keys usually start with \"sk-\"."
  else if provider = .anthropic ∧ ¬ jsStartsWith normalizedSecret "sk-ant-" then
    invalidSecret "Anthropic keys usually start with \"sk-ant-\"."
  else if provider = .openrouter ∧ ¬ jsStartsWith normalizedSecret "sk-or-" then
    invalidSecret "OpenRouter keys usually start with \"sk-or-\"."
  else if provider = .routerai ∧ jsLength normalizedSecret < 16 then
    invalidSecret "RouterAI keys usually have at least 16 characters."
  else if provider = .polza ∧ jsLength normalizedSecret < 16 then
    invalidSecret "Polza keys usually have at least 16 characters."
  else ⟨true, some normalizedSecret, some ("Provider secret passed local shape validation " ++
    "(format check only; upstream acceptance is verified on live requests).")⟩

/-- The normalized secret, when it is valid and not empty. -/
def ProviderSecretValidationResult.accepted (validation : ProviderSecretValidationResult) :
    Except Exception String :=
  match validation.valid, truthyText validation.normalizedSecret with
  | true, some normalizedSecret => .ok normalizedSecret
  | _, _ => .error (.badRequest (validation.reason.getD "Provider secret is invalid."))

/-- What the handlers get from the runtime and the environment; `iv` is the random vector of
an encryption. -/
structure CredentialEnv where
  providerCredentialSecret : String
  platformAiProvider : AiProvider
  toISOString : ℤ → String
  encryptSecret : (iv plaintext secret : String) → EncryptedSecretEnvelope
  decryptSecret : Ai.Decryption
  decrypt_encrypt : ∀ iv plaintext secret,
    decryptSecret (encryptSecret iv plaintext secret) secret = .ok plaintext

/-- An envelope as the value of a JSON column. -/
def envelopeJson (envelope : EncryptedSecretEnvelope) : Json :=
  .object [("algorithm", .string "aes-256-gcm"), ("keyVersion", .string "v1"),
    ("ciphertext", .string envelope.ciphertext), ("iv", .string envelope.iv),
    ("authTag", .string envelope.authTag)]

/-- The proxy reads an envelope the same way, and answers 503 where this service answers 400. -/
def readEncryptedSecretEnvelope (value : Json) : Except Exception EncryptedSecretEnvelope :=
  (Ai.readEncryptedSecretEnvelope value).mapError fun e =>
    match e with
    | .serviceUnavailable message => .badRequest message
    | e => e

section

variable (env : CredentialEnv)

def encryptedSecretJson (iv plaintext : String) : Json :=
  envelopeJson (env.encryptSecret iv plaintext env.providerCredentialSecret)

def decryptCredential (value : Json) : Except Exception String := do
  let envelope ← readEncryptedSecretEnvelope value
  env.decryptSecret envelope env.providerCredentialSecret

@[simp] theorem decryptCredential_encrypted (iv plaintext : String) :
    decryptCredential env (encryptedSecretJson env iv plaintext) = .ok plaintext := by
  exact env.decrypt_encrypt iv plaintext _

end

/-- A runtime whose envelopes hold the secret as it is. -/
def plainEnv : CredentialEnv where
  providerCredentialSecret := "secret"
  platformAiProvider := .openrouter
  toISOString _ := "2026-01-01T00:00:00.000Z"
  encryptSecret iv plaintext _ := ⟨plaintext, iv, ""⟩
  decryptSecret envelope _ := .ok envelope.ciphertext
  decrypt_encrypt _ _ _ := rfl

/-! ## Checks -/

/-- The access decisions of a session that the handlers ask for. -/
structure CredentialAccess where
  write : AccessDecision
  rotate : AccessDecision
  manage : AccessDecision
  deriving DecidableEq

def credentialAccess (principal : SessionPrincipal) : CredentialAccess where
  write := canWriteProviderCredentials principal
  rotate := canRotateProviderCredentials principal
  manage := canManageAiProviders principal

/-- Every user may write and rotate credentials. -/
def userAccess : CredentialAccess where
  write := ⟨true, []⟩
  rotate := ⟨true, []⟩
  manage := ⟨false, ["Missing permission: ai_providers:manage"]⟩

theorem credentialAccess_user {principal : SessionPrincipal}
    (h : .admin ∉ principal.systemRoles) : credentialAccess principal = userAccess := by
  simp only [credentialAccess, canWriteProviderCredentials, canRotateProviderCredentials,
    canManageAiProviders, evaluateAccess_eq, h]
  decide

def readProvider (provider : Option String) : Except Exception AiProvider :=
  match truthyText provider with
  | none => .error (.badRequest "provider is required.")
  | some provider =>
    match AiProvider.ofName? provider with
    | none => .error (.badRequest s!"Unsupported provider \"{provider}\".")
    | some provider => .ok provider

def readOwnerType : Option String → Except Exception CredentialOwnerType
  | some "user" => .ok .user
  | some "workspace" => .ok .workspace
  | some "platform" => .ok .platform
  | _ => .error (.badRequest "ownerType must be one of \"user\", \"workspace\", or \"platform\".")

def assertCanCreateCredential (access : CredentialAccess) (ownerType : CredentialOwnerType) :
    Except Exception Unit :=
  requireAccess (if ownerType = .platform then access.manage else access.write)

/-- A row that names no user passes for anybody's. -/
def assertCanRotateCredential (access : CredentialAccess) (userId : String)
    (record : ProviderCredentialRecord) : Except Exception Unit :=
  if record.ownerType = .platform then requireAccess access.manage
  else if (truthyText record.userId).any (· ≠ userId) && !access.manage.allowed then
    .error (.forbidden "You cannot manage provider credentials owned by another user.")
  else requireAccess access.rotate

def assertUserApiKeyOwnership (userId : String) (record : ProviderCredentialRecord) :
    Except Exception Unit :=
  if record.ownerType ≠ .user ∨ truthyText record.userId ≠ some userId then
    .error (.notFound "User API key not found.")
  else .ok ()

def assertByokEnabledForUserApiKeys (policy : AiProviderPolicySnapshot) : Except Exception Unit :=
  if !policy.allowBringYourOwnKey then
    .error (policy.forbids "Bring-your-own-key is disabled by the current AI provider policy.")
  else if policy.requireAdminApproval then
    .error (policy.forbids
      "Bring-your-own-key currently requires admin approval for this workspace.")
  else .ok ()

inductive ManagementAction where
  | create | rotate

def ManagementAction.text : ManagementAction → String
  | .create => "create"
  | .rotate => "rotate"

def assertPolicyAllowsCredentialManagement (policy : AiProviderPolicySnapshot)
    (ownerType : CredentialOwnerType) (provider : String) (action : ManagementAction) :
    Except Exception Unit := do
  assertByokEnabledForUserApiKeys policy
  if ownerType = .workspace ∧ ¬ policy.allowWorkspaceSharedCredentials then
    .error (policy.forbids "Workspace-shared provider credentials are disabled by policy.")
  else if ¬ (policy.providers.map AiProvider.name).contains provider then
    .error (.forbidden (s!"Provider \"{provider}\" is not enabled by the current AI provider " ++
      s!"policy for {action.text}."))
  else .ok ()

variable {record : ProviderCredentialRecord}

/-- `assertCanRotateCredential` lets a session that manages no providers through to its own
rows, and to those that name no user. -/
theorem assertCanRotateCredential_ok {access : CredentialAccess} {userId : String}
    (hmanage : access.manage.allowed = false)
    (h : assertCanRotateCredential access userId record = .ok ()) :
    record.ownerType ≠ .platform ∧ ∀ owner, truthyText record.userId = some owner → owner = userId := by
  grind [requireAccess_ok, assertCanRotateCredential]

theorem assertUserApiKeyOwnership_ok {userId : String}
    (h : assertUserApiKeyOwnership userId record = .ok ()) :
    record.ownerType = .user ∧ truthyText record.userId = some userId := by
  simp_all [assertUserApiKeyOwnership]

/-! ## Answers -/

structure ProviderCredentialSummary where
  id : String
  provider : String
  ownerType : CredentialOwnerType
  ownerId : String
  userId : Option String
  label : Option JsString
  keyHint : Option JsString
  validationStatus : CredentialValidationStatus
  validationMessage : Option JsString
  scopes : List String
  secretPreview : Option JsString
  lastValidatedAt : Option ℤ
  disabledAt : Option ℤ
  revokedAt : Option ℤ
  createdAt : ℤ
  updatedAt : ℤ

def mapRecordToSummary (record : ProviderCredentialRecord) : ProviderCredentialSummary :=
  let metadata := readJsonObject record.metadataJson
  let secretPreview := readMetadataString metadata "secretPreview"
  { id := record.id
    provider := record.provider
    ownerType := record.ownerType
    ownerId := (record.ownerId.or record.userId).getD "unknown"
    userId := record.userId
    label := readMetadataString metadata "label"
    keyHint := (readMetadataString metadata "keyHint").or (secretPreview.map lastFour)
    validationStatus := record.validationStatus
    validationMessage := readMetadataString metadata "validationMessage"
    scopes := readJsonStringArray record.scopesJson
    secretPreview := secretPreview
    lastValidatedAt := record.lastValidatedAt
    disabledAt := record.disabledAt
    revokedAt := record.revokedAt
    createdAt := record.createdAt
    updatedAt := record.updatedAt }

structure UserApiKeySummary where
  id : String
  provider : String
  label : Option JsString
  keyHint : Option JsString
  validationStatus : CredentialValidationStatus
  validationMessage : Option JsString
  lastValidatedAt : Option ℤ
  revokedAt : Option ℤ
  createdAt : ℤ
  updatedAt : ℤ

def mapProviderCredentialToUserApiKey (summary : ProviderCredentialSummary) :
    UserApiKeySummary where
  id := summary.id
  provider := summary.provider
  label := summary.label
  keyHint := summary.keyHint
  validationStatus := summary.validationStatus
  validationMessage := summary.validationMessage
  lastValidatedAt := summary.lastValidatedAt
  revokedAt := summary.revokedAt
  createdAt := summary.createdAt
  updatedAt := summary.updatedAt

structure ProviderCredentialMutationResult where
  credential : ProviderCredentialSummary
  validationMessage : Option String

structure ProviderCredentialRevokeResult where
  credentialId : String
  revokedAt : ℤ

structure UserApiKeyCreateResult where
  apiKey : UserApiKeySummary
  validationMessage : Option String

structure UserApiKeyDeleteResult where
  apiKeyId : String
  deletedAt : ℤ

structure UserApiKeyTestResult where
  apiKey : UserApiKeySummary
  valid : Bool
  validationMessage : Option JsString
  testedAt : ℤ

inductive CredentialResponse where
  | mutated (result : ProviderCredentialMutationResult)
  | revoked (result : ProviderCredentialRevokeResult)
  | keyCreated (result : UserApiKeyCreateResult)
  | keyDeleted (result : UserApiKeyDeleteResult)
  | keyTested (result : UserApiKeyTestResult)
  | policyWritten

/-! ## Requests -/

structure ProviderCredentialCreateRequest where
  provider : Option String
  ownerType : Option String
  ownerId : Option String
  secret : Option String
  scopes : Option (List String)
  label : Option String

/-- `scopes` is `none` when the body has no such member. -/
structure ProviderCredentialRotateRequest where
  credentialId : Option String
  secret : Option String
  scopes : Option (List String)

structure ProviderCredentialRevokeRequest where
  credentialId : Option String
  reason : Option String

structure UserApiKeyCreateRequest where
  provider : Option String
  label : Option String
  secret : Option String

inductive CredentialAction where
  | create (request : ProviderCredentialCreateRequest)
  | rotate (request : ProviderCredentialRotateRequest)
  | revoke (request : ProviderCredentialRevokeRequest)
  | createApiKey (request : UserApiKeyCreateRequest)
  | deleteApiKey (apiKeyId : String)
  | testApiKey (apiKeyId : String)

/-- A request of a session, with what the runtime hands out while it is served: the id of a
new row, a random vector, `new Date()`, and the clock of the write. -/
structure ManageRequest where
  session : CurrentSessionSnapshot
  action : CredentialAction
  newId : String
  iv : String
  occurredAt : ℤ
  now : ℤ

/-! ## Handlers -/

section

variable (env : CredentialEnv) (access : CredentialAccess) (context : ManageRequest)

def resolvePolicyForWorkspace : CredentialProg AiProviderPolicySnapshot := do
  return Ai.resolvePolicy env.platformAiProvider (← credential .findGlobalPolicy)

/-- The row that `createCredentialForCurrentSession` creates. -/
def createInput (request : ProviderCredentialCreateRequest) (provider : AiProvider)
    (ownerType : CredentialOwnerType) (secret : String) (validationMessage : Option String) :
    CreateProviderCredentialInput :=
  let userId := context.session.userId
  let scopes := normalizeScopes request.scopes
  let ownerId := if ownerType = .platform then "platform"
    else (truthyText (request.ownerId.map jsTrim)).getD userId
  let secretMetadata : Metadata :=
    [textMember "provider" provider.name, textMember "ownerType" (ownerTypeText ownerType),
      textMember "ownerId" ownerId, ("scopes", stringArray scopes),
      textMember "createdAt" (env.toISOString context.occurredAt)]
  { newId := context.newId
    provider := provider.name
    ownerType := ownerType
    ownerId := some ownerId
    userId := if ownerType = .user then some userId else none
    encryptedSecretJson := encryptedSecretJson env context.iv secret
    validationStatus := .valid
    scopesJson := .array (scopes.map .string)
    metadataJson := spread secretMetadata
      ([("secretPreview", .string (redactSecretValue secret))] ++
        textMember? "validationMessage" validationMessage ++
        [textMember "validationMode" "shape_check", textMember "proxyMode" "proxy_only"] ++
        textMember? "label" (normalizeLabel request.label) ++
        (readKeyHintFromSecret secret).toList.map fun hint => ("keyHint", .string hint))
    lastValidatedAt := context.occurredAt
    now := context.now }

def createCredentialForCurrentSession (request : ProviderCredentialCreateRequest) :
    CredentialProg ProviderCredentialMutationResult := do
  let provider ← Prog.ofExcept (readProvider request.provider)
  let ownerType ← Prog.ofExcept (readOwnerType request.ownerType)
  Prog.ofExcept (assertCanCreateCredential access ownerType)
  if ownerType ≠ .platform then
    let policy ← resolvePolicyForWorkspace env
    Prog.ofExcept (assertPolicyAllowsCredentialManagement policy ownerType provider.name .create)
  let validation := validateProviderSecretShape provider (request.secret.getD "")
  let secret ← Prog.ofExcept validation.accepted
  let record ← credential
    (.createWithLogs (createInput env context request provider ownerType secret validation.reason))
  return { credential := mapRecordToSummary record
           validationMessage := validation.reason }

/-- The update of `rotateCredentialForCurrentSession`. -/
def rotateInput (request : ProviderCredentialRotateRequest) (existing : ProviderCredentialRecord)
    (secret : String) (validationMessage : Option String) : RotateProviderCredentialInput :=
  let scopes := match request.scopes with
    | some scopes => normalizeScopes (some scopes)
    | none => readJsonStringArray existing.scopesJson
  { credentialId := existing.id
    encryptedSecretJson := encryptedSecretJson env context.iv secret
    validationStatus := .valid
    scopesJson := .array (scopes.map .string)
    metadataJson := spread (readJsonObject existing.metadataJson)
      ([("secretPreview", .string (redactSecretValue secret))] ++
        textMember? "validationMessage" validationMessage ++
        [textMember "validationMode" "shape_check",
          textMember "rotatedAt" (env.toISOString context.occurredAt),
          ("scopes", stringArray scopes)])
    lastValidatedAt := context.occurredAt
    now := context.now }

def requiredId (id : Option String) (message : String) : Except Exception String :=
  match truthyText (id.map jsTrim) with
  | some id => .ok id
  | none => .error (.badRequest message)

def foundOr (message : String) (found : Option ProviderCredentialRecord) :
    Except Exception ProviderCredentialRecord :=
  match found with
  | some record => .ok record
  | none => .error (.notFound message)

def rotateCredentialForCurrentSession (request : ProviderCredentialRotateRequest) :
    CredentialProg ProviderCredentialMutationResult := do
  let credentialId ← Prog.ofExcept (requiredId request.credentialId "credentialId is required.")
  let found ← credential (.findById credentialId)
  let existing ← Prog.ofExcept (foundOr "Provider credential not found." found)
  Prog.ofExcept (assertCanRotateCredential access context.session.userId existing)
  if existing.ownerType ≠ .platform ∧ ¬ access.manage.allowed then
    let policy ← resolvePolicyForWorkspace env
    Prog.ofExcept (assertPolicyAllowsCredentialManagement policy existing.ownerType
      existing.provider .rotate)
  let provider ← Prog.ofExcept (readProvider (some existing.provider))
  let validation := validateProviderSecretShape provider (request.secret.getD "")
  let secret ← Prog.ofExcept validation.accepted
  let record ← credential
    (.rotateWithLogs (rotateInput env context request existing secret validation.reason))
  return { credential := mapRecordToSummary record
           validationMessage := validation.reason }

/-- The update of `revokeCredentialForCurrentSession`. -/
def revokeInput (request : ProviderCredentialRevokeRequest) (existing : ProviderCredentialRecord) :
    RevokeProviderCredentialInput where
  credentialId := existing.id
  validationStatus := .revoked
  metadataJson := spread (readJsonObject existing.metadataJson)
    [textMember "revokedAt" (env.toISOString context.occurredAt),
      ("revokeReason", match truthyText (request.reason.map jsTrim) with
        | some reason => .string (js reason)
        | none => .null),
      textMember "validationMessage" "Provider credential was revoked."]
  revokedAt := context.occurredAt
  now := context.now

def revokeCredentialForCurrentSession (request : ProviderCredentialRevokeRequest) :
    CredentialProg ProviderCredentialRevokeResult := do
  let credentialId ← Prog.ofExcept (requiredId request.credentialId "credentialId is required.")
  let found ← credential (.findById credentialId)
  let existing ← Prog.ofExcept (foundOr "Provider credential not found." found)
  Prog.ofExcept (assertCanRotateCredential access context.session.userId existing)
  match existing.revokedAt with
  | some revokedAt => return { credentialId := existing.id, revokedAt := revokedAt }
  | none =>
    let record ← credential (.revokeWithLogs (revokeInput env context request existing))
    return { credentialId := record.id
             revokedAt := record.revokedAt.getD context.occurredAt }

def providerDisabled (provider : AiProvider) : Exception :=
  .forbidden s!"Provider \"{provider.name}\" is not enabled by the current AI provider policy."

def createUserApiKeyForCurrentSession (request : UserApiKeyCreateRequest) :
    CredentialProg UserApiKeyCreateResult := do
  let policy ← resolvePolicyForWorkspace env
  Prog.ofExcept (assertByokEnabledForUserApiKeys policy)
  let provider ← Prog.ofExcept (readProvider request.provider)
  Prog.ofExcept (if policy.providers.contains provider then .ok ()
    else .error (providerDisabled provider))
  let result ← createCredentialForCurrentSession env access context
    { provider := some provider.name
      ownerType := some "user"
      ownerId := some context.session.userId
      label := request.label
      secret := some (request.secret.getD "")
      scopes := none }
  return { apiKey := mapProviderCredentialToUserApiKey result.credential
           validationMessage := result.validationMessage }

def deleteUserApiKeyForCurrentSession (apiKeyId : String) :
    CredentialProg UserApiKeyDeleteResult := do
  let credentialId ← Prog.ofExcept (requiredId (some apiKeyId) "id is required.")
  let found ← credential (.findById credentialId)
  let existing ← Prog.ofExcept (foundOr "User API key not found." found)
  Prog.ofExcept (assertUserApiKeyOwnership context.session.userId existing)
  let policy ← resolvePolicyForWorkspace env
  Prog.ofExcept (assertByokEnabledForUserApiKeys policy)
  let revoked ← revokeCredentialForCurrentSession env access context
    { credentialId := some existing.id
      reason := some "Deleted via /user/api-keys endpoint." }
  return { apiKeyId := revoked.credentialId, deletedAt := revoked.revokedAt }

/-- The update of `testUserApiKeyForCurrentSession`. -/
def validateInput (existing : ProviderCredentialRecord) (decryptedSecret : String)
    (validation : ProviderSecretValidationResult) : ValidateProviderCredentialInput :=
  let isValid := validation.valid && (truthyText validation.normalizedSecret).isSome
  let outcome := if isValid then "Provider secret shape check passed."
    else "Provider secret shape check failed."
  let keyHint := readKeyHintFromSecret (validation.normalizedSecret.getD decryptedSecret)
  { credentialId := existing.id
    validationStatus := if isValid then .valid else .invalid
    metadataJson := spread (readJsonObject existing.metadataJson)
      [textMember "validationMode" "shape_check",
        textMember "validationMessage" (validation.reason.getD outcome),
        ("keyHint", match keyHint with
          | some hint => .string hint
          | none => .null),
        textMember "lastTestedAt" (env.toISOString context.occurredAt)]
    lastValidatedAt := context.occurredAt
    now := context.now }

def notRevoked (record : ProviderCredentialRecord) : Except Exception Unit :=
  if record.revokedAt.isSome then
    .error (.badRequest "User API key is revoked and cannot be tested.")
  else .ok ()

def testUserApiKeyForCurrentSession (apiKeyId : String) : CredentialProg UserApiKeyTestResult := do
  let credentialId ← Prog.ofExcept (requiredId (some apiKeyId) "id is required.")
  let found ← credential (.findById credentialId)
  let existing ← Prog.ofExcept (foundOr "User API key not found." found)
  Prog.ofExcept (assertUserApiKeyOwnership context.session.userId existing)
  Prog.ofExcept (assertCanRotateCredential access context.session.userId existing)
  let policy ← resolvePolicyForWorkspace env
  Prog.ofExcept (assertPolicyAllowsCredentialManagement policy .user existing.provider .rotate)
  Prog.ofExcept (notRevoked existing)
  let provider ← Prog.ofExcept (readProvider (some existing.provider))
  let decryptedSecret ← Prog.ofExcept (decryptCredential env existing.encryptedSecretJson)
  let validation := validateProviderSecretShape provider decryptedSecret
  let isValid := validation.valid && (truthyText validation.normalizedSecret).isSome
  let updated ← credential
    (.validateWithLogs (validateInput env context existing decryptedSecret validation))
  let summary := mapProviderCredentialToUserApiKey (mapRecordToSummary updated)
  return { apiKey := summary
           valid := isValid
           validationMessage := summary.validationMessage
           testedAt := context.occurredAt }

/-- The controller, after the session of the bearer token was found. -/
def manageCredential : CredentialProg CredentialResponse :=
  match context.action with
  | .create request => do
      return .mutated (← createCredentialForCurrentSession env access context request)
  | .rotate request => do
      return .mutated (← rotateCredentialForCurrentSession env access context request)
  | .revoke request => do
      return .revoked (← revokeCredentialForCurrentSession env access context request)
  | .createApiKey request => do
      return .keyCreated (← createUserApiKeyForCurrentSession env access context request)
  | .deleteApiKey apiKeyId => do
      return .keyDeleted (← deleteUserApiKeyForCurrentSession env access context apiKeyId)
  | .testApiKey apiKeyId => do
      return .keyTested (← testUserApiKeyForCurrentSession env access context apiKeyId)

end

/-- A request of a session, or a change of the policy row. -/
inductive CredentialRequest where
  | manage (request : ManageRequest)
  | writePolicy (record : AiProviderPolicyRecord)

def handleCredential (env : CredentialEnv) : CredentialRequest → CredentialProg CredentialResponse
  | .manage request => manageCredential env (credentialAccess request.session.principal) request
  | .writePolicy record => do
      credential (.writePolicy record)
      return .policyWritten

end QuizMind.Providers
