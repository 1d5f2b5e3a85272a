import QuizMind.Providers.Service

/-! # What the credential handlers write

Every write of a handler follows from the row that it has found: the row passes the check of
the handler, and the new metadata are those of the row with some members replaced
(`handleCredential_upholds`). The table may have changed since the row was found.
-/

namespace QuizMind.Providers

open Async
open Ai (AiProvider AiProviderPolicyRecord CredentialOwnerType)

/-! ## The row that a request has found -/

abbrev CredentialTold := Told CredentialCall CredentialCall.Res Exception

abbrev CredentialEvent := Event CredentialCall CredentialCall.Res Exception

def foundBy (latest : Option ProviderCredentialRecord) : CredentialTold →
    Option ProviderCredentialRecord
  | ⟨.findById _, .ok found⟩ => found
  | _ => latest

/-- The answer of the last `findById`. -/
def lastFound (past : List CredentialTold) : Option ProviderCredentialRecord :=
  past.foldl foundBy none

@[simp] theorem lastFound_concat (past : List CredentialTold) (t : CredentialTold) :
    lastFound (past ++ [t]) = foundBy (lastFound past) t := by
  simp [lastFound]

theorem lastFound_mem {past : List CredentialTold} {record : ProviderCredentialRecord}
    (h : lastFound past = some record) :
    ∃ id, (⟨.findById id, .ok (some record)⟩ : CredentialTold) ∈ past := by
  induction past using List.reverseRecOn with
  | nil => cases h
  | append_singleton past t ih =>
    rw [lastFound_concat] at h
    have hearlier : lastFound past = some record →
        ∃ id, (⟨.findById id, .ok (some record)⟩ : CredentialTold) ∈ past ++ [t] := by grind
    rcases t with ⟨op, r⟩
    cases op with
    | findById id =>
      cases r with
      | ok found =>
        have hfound : found = some record := h
        subst hfound
        exact ⟨id, by simp⟩
      | error e => exact hearlier h
    | _ => exact hearlier h

/-! ## Plans -/

section

variable (env : CredentialEnv) (access : CredentialAccess) (context : ManageRequest)

/-- The writes that a handler makes, given what it has been told. -/
def PlannedBy (past : List CredentialTold) : CredentialCall → Prop
  | .createWithLogs input => ∃ request provider ownerType secret,
      assertCanCreateCredential access ownerType = .ok () ∧
      (validateProviderSecretShape provider (request.secret.getD "")).accepted = .ok secret ∧
      input = createInput env context request provider ownerType secret
        (validateProviderSecretShape provider (request.secret.getD "")).reason
  | .rotateWithLogs input => ∃ request existing provider secret,
      lastFound past = some existing ∧
      assertCanRotateCredential access context.session.userId existing = .ok () ∧
      (validateProviderSecretShape provider (request.secret.getD "")).accepted = .ok secret ∧
      input = rotateInput env context request existing secret
        (validateProviderSecretShape provider (request.secret.getD "")).reason
  | .revokeWithLogs input => ∃ request existing,
      lastFound past = some existing ∧
      assertCanRotateCredential access context.session.userId existing = .ok () ∧
      existing.revokedAt = none ∧
      input = revokeInput env context request existing
  | .validateWithLogs input => ∃ existing provider secret,
      lastFound past = some existing ∧
      assertUserApiKeyOwnership context.session.userId existing = .ok () ∧
      existing.revokedAt = none ∧
      decryptCredential env existing.encryptedSecretJson = .ok secret ∧
      input = validateInput env context existing secret (validateProviderSecretShape provider secret)
  | .findGlobalPolicy => True
  | .findById _ => True
  | .writePolicy _ => False

/-- A handler that keeps to the plans, whatever the answers are. -/
abbrev KeepsTo {α : Type} (past : List CredentialTold) (p : CredentialProg α) : Prop :=
  p.Upholds (fun _ _ => True) (PlannedBy env access context) (fun _ _ => True) past

variable {env access context} {α β : Type} {past : List CredentialTold}

theorem keepsTo_ofExcept_bind {x : Except Exception β} {f : β → CredentialProg α}
    (hf : ∀ b, x = .ok b → KeepsTo env access context past (f b)) :
    KeepsTo env access context past (Prog.ofExcept x >>= f) :=
  Prog.upholds_ofExcept_bind hf

/-- The row that is found is the one found last, until another one is looked for. -/
theorem keepsTo_existing {id message : String} {f : ProviderCredentialRecord → CredentialProg α}
    (hf : ∀ existing past', lastFound past' = some existing →
      KeepsTo env access context past' (f existing)) :
    KeepsTo env access context past (do
      let found ← credential (.findById id)
      let existing ← Prog.ofExcept (foundOr message found)
      f existing) := by
  refine Prog.upholds_await_bind trivial fun found _ => ?_
  refine Prog.upholds_ofExcept_bind fun existing hexisting => ?_
  refine hf existing _ ?_
  rw [lastFound_concat]
  unfold foundOr at hexisting
  split at hexisting
  · cases hexisting
    rfl
  · cases hexisting

theorem keepsTo_policy {f : Ai.AiProviderPolicySnapshot → CredentialProg α}
    (hf : ∀ policy past', lastFound past' = lastFound past →
      KeepsTo env access context past' (f policy)) :
    KeepsTo env access context past (resolvePolicyForWorkspace env >>= f) := by
  unfold resolvePolicyForWorkspace
  rw [Prog.bind_assoc]
  refine Prog.upholds_await_bind trivial fun found _ => ?_
  exact hf _ _ (by rw [lastFound_concat]; rfl)

/-- The policy is looked at only where it applies. -/
theorem keepsTo_policy_check {c : Prop} {_ : Decidable c}
    {check : Ai.AiProviderPolicySnapshot → Except Exception Unit} {f : Unit → CredentialProg α}
    (hf : ∀ past', lastFound past' = lastFound past → KeepsTo env access context past' (f ())) :
    KeepsTo env access context past (if c then do
      let policy ← resolvePolicyForWorkspace env
      let checked ← Prog.ofExcept (check policy)
      f checked
      else f ()) := by
  split
  · refine keepsTo_policy fun policy past' hpast' => ?_
    exact keepsTo_ofExcept_bind fun _ _ => hf past' hpast'
  · exact hf past rfl

theorem keepsTo_bind {p : CredentialProg β} {f : β → CredentialProg α}
    (hp : KeepsTo env access context past p) (hf : ∀ b past', KeepsTo env access context past' (f b)) :
    KeepsTo env access context past (p >>= f) :=
  Prog.upholds_bind hp fun past' b _ => hf b past'

theorem keepsTo_write {op : CredentialCall} {f : op.Res → CredentialProg α}
    (hop : PlannedBy env access context past op)
    (hf : ∀ answer past', KeepsTo env access context past' (f answer)) :
    KeepsTo env access context past (credential op >>= f) :=
  Prog.upholds_await_bind hop fun answer _ => hf answer _

/-! ## The handlers keep to the plans -/

theorem createCredential_keepsTo (request : ProviderCredentialCreateRequest) :
    KeepsTo env access context past
      (createCredentialForCurrentSession env access context request) := by
  refine keepsTo_ofExcept_bind fun provider _ => ?_
  refine keepsTo_ofExcept_bind fun ownerType _ => ?_
  refine keepsTo_ofExcept_bind fun _ hcan => ?_
  refine keepsTo_policy_check fun past' _ => ?_
  refine keepsTo_ofExcept_bind fun secret hsecret => ?_
  exact keepsTo_write ⟨request, provider, ownerType, secret, hcan, hsecret, rfl⟩ fun _ _ => trivial

theorem rotateCredential_keepsTo (request : ProviderCredentialRotateRequest) :
    KeepsTo env access context past
      (rotateCredentialForCurrentSession env access context request) := by
  refine keepsTo_ofExcept_bind fun credentialId _ => ?_
  refine keepsTo_existing fun existing past' hfound => ?_
  refine keepsTo_ofExcept_bind fun _ hcan => ?_
  refine keepsTo_policy_check fun past'' hpast => ?_
  refine keepsTo_ofExcept_bind fun provider _ => ?_
  refine keepsTo_ofExcept_bind fun secret hsecret => ?_
  have hplan : PlannedBy env access context past'' (.rotateWithLogs (rotateInput env context request
      existing secret (validateProviderSecretShape provider (request.secret.getD "")).reason)) :=
    ⟨request, existing, provider, secret, hpast.trans hfound, hcan, hsecret, rfl⟩
  exact keepsTo_write hplan fun _ _ => trivial

theorem revokeCredential_keepsTo (request : ProviderCredentialRevokeRequest) :
    KeepsTo env access context past
      (revokeCredentialForCurrentSession env access context request) := by
  refine keepsTo_ofExcept_bind fun credentialId _ => ?_
  refine keepsTo_existing fun existing past' hfound => ?_
  refine keepsTo_ofExcept_bind fun _ hcan => ?_
  split
  · trivial
  · rename_i hrev
    exact keepsTo_write ⟨request, existing, hfound, hcan, hrev, rfl⟩ fun _ _ => trivial

theorem createUserApiKey_keepsTo (request : UserApiKeyCreateRequest) :
    KeepsTo env access context past
      (createUserApiKeyForCurrentSession env access context request) := by
  refine keepsTo_policy fun policy past' _ => ?_
  refine keepsTo_ofExcept_bind fun _ _ => ?_
  refine keepsTo_ofExcept_bind fun provider _ => ?_
  refine keepsTo_ofExcept_bind fun _ _ => ?_
  exact keepsTo_bind (createCredential_keepsTo _) fun _ _ => trivial

theorem deleteUserApiKey_keepsTo (apiKeyId : String) : KeepsTo env access context past
      (deleteUserApiKeyForCurrentSession env access context apiKeyId) := by
  refine keepsTo_ofExcept_bind fun credentialId _ => ?_
  refine keepsTo_existing fun existing past' _ => ?_
  refine keepsTo_ofExcept_bind fun _ _ => ?_
  refine keepsTo_policy fun policy past'' _ => ?_
  refine keepsTo_ofExcept_bind fun _ _ => ?_
  -- the row is looked for again
  exact keepsTo_bind (revokeCredential_keepsTo _) fun _ _ => trivial

theorem testUserApiKey_keepsTo (apiKeyId : String) : KeepsTo env access context past
      (testUserApiKeyForCurrentSession env access context apiKeyId) := by
  refine keepsTo_ofExcept_bind fun credentialId _ => ?_
  refine keepsTo_existing fun existing past' hfound => ?_
  refine keepsTo_ofExcept_bind fun _ hown => ?_
  refine keepsTo_ofExcept_bind fun _ _ => ?_
  refine keepsTo_policy fun policy past'' hpast => ?_
  refine keepsTo_ofExcept_bind fun _ _ => ?_
  refine keepsTo_ofExcept_bind fun _ hrev => ?_
  refine keepsTo_ofExcept_bind fun provider _ => ?_
  refine keepsTo_ofExcept_bind fun secret hsecret => ?_
  have hnone : existing.revokedAt = none := by simp_all [notRevoked]
  have hplan : PlannedBy env access context past'' (.validateWithLogs (validateInput env context
      existing secret (validateProviderSecretShape provider secret))) :=
    ⟨existing, provider, secret, hpast.trans hfound, hown, hnone, hsecret, rfl⟩
  exact keepsTo_write hplan fun _ _ => trivial

theorem manageCredential_keepsTo :
    KeepsTo env access context past (manageCredential env access context) := by
  unfold manageCredential
  cases context.action with
  | create request => exact keepsTo_bind (createCredential_keepsTo request) fun _ _ => trivial
  | rotate request => exact keepsTo_bind (rotateCredential_keepsTo request) fun _ _ => trivial
  | revoke request => exact keepsTo_bind (revokeCredential_keepsTo request) fun _ _ => trivial
  | createApiKey request => exact keepsTo_bind (createUserApiKey_keepsTo request) fun _ _ => trivial
  | deleteApiKey id => exact keepsTo_bind (deleteUserApiKey_keepsTo id) fun _ _ => trivial
  | testApiKey id => exact keepsTo_bind (testUserApiKey_keepsTo id) fun _ _ => trivial

end

/-- The calls of a request, given what it has been told. -/
def Planned (env : CredentialEnv) : CredentialRequest → List CredentialTold → CredentialCall → Prop
  | .manage request, past, op =>
    PlannedBy env (credentialAccess request.session.principal) request past op
  | .writePolicy record, _, op => op = .writePolicy record

theorem handleCredential_upholds (env : CredentialEnv) (request : CredentialRequest) :
    (handleCredential env request).Upholds (fun _ _ => True) (Planned env request)
      (fun _ _ => True) [] := by
  cases request with
  | manage request => exact manageCredential_keepsTo
  | writePolicy record => exact Prog.upholds_await_bind rfl fun _ _ => trivial

/-! ## Requests of users -/

/-- The handlers with the access decisions of a user who is no admin. -/
def handleAsUser (env : CredentialEnv) : CredentialRequest → CredentialProg CredentialResponse
  | .manage request => manageCredential env userAccess request
  | .writePolicy record => handleCredential env (.writePolicy record)

def CredentialRequest.byAdmin : CredentialRequest → Bool
  | .manage request => .admin ∈ request.session.principal.systemRoles
  | .writePolicy _ => false

theorem handleAsUser_eq {env : CredentialEnv} {request : CredentialRequest}
    (h : request.byAdmin = false) : handleAsUser env request = handleCredential env request := by
  cases request with
  | manage request =>
    grind [CredentialRequest.byAdmin, handleAsUser, handleCredential, credentialAccess_user]
  | writePolicy record => rfl

def userSession (userId : String) : CurrentSessionSnapshot where
  userId := userId
  email := "user@example.org"
  displayName := none
  principal :=
    { userId := userId
      email := "user@example.org"
      systemRoles := []
      entitlements := []
      featureFlags := [] }

/-- A policy with own keys and credentials of a workspace. -/
def sharingPolicy : AiProviderPolicyRecord where
  mode := .user_key_optional
  allowPlatformManaged := true
  allowBringYourOwnKey := true
  allowDirectProviderMode := false
  allowWorkspaceSharedCredentials := true
  requireAdminApproval := false
  allowVisionOnUserKeys := false
  providersJson := .array [.string "openrouter"]
  allowedModelTagsJson := none
  defaultProvider := none
  defaultModel := none
  reason := none

def userRequest (userId : String) (action : CredentialAction) (now : ℤ) : CredentialRequest :=
  .manage
    { session := userSession userId
      action := action
      newId := "credential-1"
      iv := "iv"
      occurredAt := now
      now := now }

end QuizMind.Providers
