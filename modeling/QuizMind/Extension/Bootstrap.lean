import QuizMind.Extension.Compatibility
import QuizMind.RemoteConfig.Values

/-! # The bootstrap payload of an extension

`resolveFeatureFlags` and `buildExtensionBootstrapV2`. The kill switch of the payload follows
the verdict on the compatibility. The verdict covers all of its causes exactly where no early
return hides a later one that is more severe (`coversCauses_iff`).
-/

namespace QuizMind.Compatibility

open Versions
open RemoteConfig (RemoteConfigLayer RemoteConfigContext ResolvedRemoteConfig ContextValue
  resolveRemoteConfig js)

/-! ## Feature flags -/

inductive FeatureFlagStatus where
  | draft
  | active
  | paused
  | archived
  deriving DecidableEq

structure FeatureFlagDefinition where
  key : String
  status : FeatureFlagStatus
  enabled : Bool
  allowRoles : Option (List String)
  allowUsers : Option (List String)
  minimumExtensionVersion : Option String

structure FlagContext where
  userId : Option String
  roles : Option (List String)
  extensionVersion : Option String

/-- A text that is there and not empty. -/
def given (text : Option String) : Option String := text.filter fun text => text ≠ ""

def allowsUser (definition : FeatureFlagDefinition) (context : FlagContext) : Bool :=
  match definition.allowUsers with
  | none => true
  | some allowUsers => (given context.userId).any fun userId => userId ∈ allowUsers

def allowsRole (definition : FeatureFlagDefinition) (context : FlagContext) : Bool :=
  match definition.allowRoles with
  | none => true
  | some allowRoles => context.roles.any fun roles => allowRoles.any fun role => role ∈ roles

def allowsVersion (definition : FeatureFlagDefinition) (context : FlagContext) : Bool :=
  match given definition.minimumExtensionVersion, given context.extensionVersion with
  | some minimum, some version => 0 ≤ compareSemver version minimum
  | some _, none => false
  | none, _ => true

/-- The keys are sorted by their code units. -/
def resolveFeatureFlags (definitions : List FeatureFlagDefinition) (context : FlagContext) :
    List String :=
  let enabled := definitions.filter fun definition =>
    definition.status = .active && definition.enabled
  let allowed := enabled.filter fun definition =>
    allowsUser definition context && allowsRole definition context &&
      allowsVersion definition context
  (allowed.map fun definition => definition.key).mergeSort fun left right => js left ≤ js right

/-! ## The payload -/

/-- The members of the context that the bootstrap does not set itself. -/
structure BootstrapContext where
  environment : Option String
  planCode : Option String
  userId : Option String
  roles : Option (List String)

/-- `H` is a quota hint, `P` an access policy; both are passed on. -/
structure BootstrapInput (H P : Type) where
  installationId : String
  handshake : CompatibilityHandshake
  compatibilityPolicy : CompatibilityPolicy
  flagDefinitions : List FeatureFlagDefinition
  remoteConfigLayers : List (RemoteConfigLayer String)
  entitlements : List String
  quotaHints : List H
  aiAccessPolicy : P
  context : BootstrapContext
  issuedAt : String
  refreshAfterSeconds : Option ℤ

structure ExtensionBootstrapPayloadV2 (H P : Type) where
  installationId : String
  compatibility : CompatibilityResult
  entitlements : List String
  featureFlags : List String
  remoteConfig : ResolvedRemoteConfig String
  quotaHints : List H
  aiAccessPolicy : P
  deprecationMessages : List String
  killSwitches : List String
  refreshAfterSeconds : ℤ
  issuedAt : String

def textMember (name : String) (value : Option String) : RemoteConfigContext :=
  (value.map fun text => (name, ContextValue.text (js text))).toList

def textsMember (name : String) (value : Option (List String)) : RemoteConfigContext :=
  (value.map fun texts => (name, ContextValue.texts (texts.map js))).toList

def remoteConfigContext (context : BootstrapContext) (handshake : CompatibilityHandshake)
    (featureFlags : List String) : RemoteConfigContext :=
  textMember "environment" context.environment ++ textMember "planCode" context.planCode ++
    textMember "userId" context.userId ++ textsMember "roles" context.roles ++
    textMember "buildId" handshake.buildId ++ textsMember "activeFlags" (some featureFlags) ++
    textMember "extensionVersion" (some handshake.extensionVersion)

section Bootstrap

variable {H P : Type} (localeCompare : String → String → ℤ) (hintKey : H → String)

def buildExtensionBootstrapV2 (input : BootstrapInput H P) :
    Except Exception (ExtensionBootstrapPayloadV2 H P) := do
  let compatibility := evaluateCompatibility input.handshake input.compatibilityPolicy
  let featureFlags := resolveFeatureFlags input.flagDefinitions
    { userId := input.context.userId
      roles := input.context.roles
      extensionVersion := some input.handshake.extensionVersion }
  let remoteConfig ← resolveRemoteConfig input.remoteConfigLayers
    (remoteConfigContext input.context input.handshake featureFlags)
  return { installationId := input.installationId
           compatibility := compatibility
           entitlements := input.entitlements.mergeSort fun left right =>
             localeCompare left right ≤ 0
           featureFlags := featureFlags
           remoteConfig := remoteConfig
           quotaHints := input.quotaHints.mergeSort fun left right =>
             localeCompare (hintKey left) (hintKey right) ≤ 0
           aiAccessPolicy := input.aiAccessPolicy
           deprecationMessages := compatibility.reason.toList
           killSwitches := if compatibility.status = .unsupported then ["extension.unsupported"]
             else []
           refreshAfterSeconds := input.refreshAfterSeconds.getD 300
           issuedAt := input.issuedAt }

/-- The payload has the verdict in it, and its kill switch follows the verdict. -/
theorem bootstrap_killSwitches {input : BootstrapInput H P}
    {payload : ExtensionBootstrapPayloadV2 H P}
    (h : buildExtensionBootstrapV2 localeCompare hintKey input = .ok payload) :
    "extension.unsupported" ∈ payload.killSwitches ↔
      (evaluateCompatibility input.handshake input.compatibilityPolicy).status = .unsupported := by
  unfold buildExtensionBootstrapV2 at h
  cases hremote : resolveRemoteConfig input.remoteConfigLayers (remoteConfigContext input.context
      input.handshake (resolveFeatureFlags input.flagDefinitions
        { userId := input.context.userId
          roles := input.context.roles
          extensionVersion := some input.handshake.extensionVersion })) with
  | error e =>
    simp only [hremote] at h
    cases h
  | ok remoteConfig =>
    simp only [hremote] at h
    have hpayload := Except.ok.inj h
    rw [← hpayload]
    split
    · grind
    · grind

end Bootstrap

/-! ## The severity of a verdict -/

def CompatibilityStatus.severity : CompatibilityStatus → ℕ
  | .supported => 0
  | .supported_with_warnings => 1
  | .deprecated => 2
  | .unsupported => 3

/-- The verdict is at least as severe as each of its causes, and the kill switch is emitted where
the policy says unsupported. -/
structure CoversCauses (handshake : CompatibilityHandshake) (policy : CompatibilityPolicy) :
    Prop where
  forced : ∀ status, policy.resultStatus = some status →
    status.severity ≤ (evaluateCompatibility handshake policy).status.severity
  version : compareSemver handshake.extensionVersion policy.minimumVersion < 0 →
    (evaluateCompatibility handshake policy).status = .unsupported
  capabilities : missingCapabilities handshake policy ≠ [] →
    CompatibilityStatus.deprecated.severity ≤
      (evaluateCompatibility handshake policy).status.severity
  schema : handshake.schemaVersion ∉ policy.supportedSchemaVersions →
    CompatibilityStatus.supported_with_warnings.severity ≤
      (evaluateCompatibility handshake policy).status.severity
  recommended : compareSemver handshake.extensionVersion policy.recommendedVersion < 0 →
    CompatibilityStatus.supported_with_warnings.severity ≤
      (evaluateCompatibility handshake policy).status.severity
  killSwitch : policy.resultStatus = some .unsupported →
    ∀ (H P : Type) (localeCompare : String → String → ℤ) (hintKey : H → String)
      (input : BootstrapInput H P) (payload : ExtensionBootstrapPayloadV2 H P),
      input.handshake = handshake → input.compatibilityPolicy = policy →
        buildExtensionBootstrapV2 localeCompare hintKey input = .ok payload →
          "extension.unsupported" ∈ payload.killSwitches

/-- A schema that is not listed hides missing capabilities and a severe status of the policy, and
missing capabilities hide that the policy says unsupported. -/
def NothingHidden (handshake : CompatibilityHandshake) (policy : CompatibilityPolicy) : Prop :=
  compareSemver handshake.extensionVersion policy.minimumVersion < 0 ∨
    ((handshake.schemaVersion ∈ policy.supportedSchemaVersions ∨
        missingCapabilities handshake policy = [] ∧
          policy.resultStatus ≠ some .deprecated ∧ policy.resultStatus ≠ some .unsupported) ∧
      (missingCapabilities handshake policy = [] ∨ policy.resultStatus ≠ some .unsupported))

section Verdict

variable {handshake : CompatibilityHandshake} {policy : CompatibilityPolicy}
  (hversion : ¬ compareSemver handshake.extensionVersion policy.minimumVersion < 0)

include hversion

theorem status_of_unlisted (h : handshake.schemaVersion ∉ policy.supportedSchemaVersions) :
    (evaluateCompatibility handshake policy).status = .supported_with_warnings := by
  unfold evaluateCompatibility
  rw [if_neg hversion, if_pos h]
  rfl

section

variable (hschema : handshake.schemaVersion ∈ policy.supportedSchemaVersions)
include hschema

theorem status_of_missing (h : missingCapabilities handshake policy ≠ []) :
    (evaluateCompatibility handshake policy).status = .deprecated := by
  unfold evaluateCompatibility
  rw [if_neg hversion, if_neg (not_not.mpr hschema), if_pos h]
  rfl

theorem status_of_forced (h : missingCapabilities handshake policy = []) :
    (evaluateCompatibility handshake policy).status =
      (policy.resultStatus.filter fun status => status ≠ .supported).getD
        (computedStatus handshake policy) := by
  unfold evaluateCompatibility
  rw [if_neg hversion, if_neg (not_not.mpr hschema), if_neg (not_not.mpr h)]
  rcases hstat : policy.resultStatus with _ | status
  · rfl
  · cases status <;> rfl

end

/-- Where nothing is hidden, the policy's own status is not more severe than the verdict. -/
theorem forced_of_nothingHidden (h : NothingHidden handshake policy)
    {status : CompatibilityStatus} (hstat : policy.resultStatus = some status) :
    status.severity ≤ (evaluateCompatibility handshake policy).status.severity := by
  obtain ⟨hlisted, hmissing⟩ := h.resolve_left hversion
  by_cases hschema : handshake.schemaVersion ∈ policy.supportedSchemaVersions
  · by_cases hcaps : missingCapabilities handshake policy = []
    · rw [status_of_forced hversion hschema hcaps, hstat]
      cases status with
      | supported => exact Nat.zero_le _
      | _ => exact le_rfl
    · have hunsup := hmissing.resolve_left hcaps
      rw [status_of_missing hversion hschema hcaps]
      rw [hstat] at hunsup
      cases status with
      | unsupported => exact absurd rfl hunsup
      | _ => decide
  obtain ⟨_, hdeprecated, hunsup⟩ := hlisted.resolve_left hschema
  rw [status_of_unlisted hversion hschema]
  rw [hstat] at hdeprecated hunsup
  cases status with
  | supported | supported_with_warnings => decide
  | deprecated => exact absurd rfl hdeprecated
  | unsupported => exact absurd rfl hunsup

theorem capabilities_of_nothingHidden (h : NothingHidden handshake policy)
    (hmissing : missingCapabilities handshake policy ≠ []) :
    CompatibilityStatus.deprecated.severity ≤
      (evaluateCompatibility handshake policy).status.severity := by
  obtain ⟨hlisted, _⟩ := h.resolve_left hversion
  have hschema := hlisted.resolve_right fun hhidden => hmissing hhidden.1
  rw [status_of_missing hversion hschema hmissing]

/-- These two causes are never hidden. -/
theorem warnings_covered (h : handshake.schemaVersion ∉ policy.supportedSchemaVersions ∨
      compareSemver handshake.extensionVersion policy.recommendedVersion < 0) :
    CompatibilityStatus.supported_with_warnings.severity ≤
      (evaluateCompatibility handshake policy).status.severity := by
  by_cases hschema : handshake.schemaVersion ∈ policy.supportedSchemaVersions
  · have hrecommended := h.resolve_left (not_not.mpr hschema)
    by_cases hcaps : missingCapabilities handshake policy = []
    · have hcomputed : computedStatus handshake policy = .supported_with_warnings :=
        if_pos hrecommended
      rw [status_of_forced hversion hschema hcaps, hcomputed]
      rcases policy.resultStatus with _ | status
      · exact le_rfl
      · cases status <;> decide
    · rw [status_of_missing hversion hschema hcaps]
      decide
  · rw [status_of_unlisted hversion hschema]

end Verdict

/-- The verdict covers its causes exactly where none of them is hidden by an early return. -/
theorem coversCauses_iff (handshake : CompatibilityHandshake) (policy : CompatibilityPolicy) :
    CoversCauses handshake policy ↔ NothingHidden handshake policy := by
  by_cases hversion : compareSemver handshake.extensionVersion policy.minimumVersion < 0
  · -- the most severe verdict covers everything
    have hunsupported := evaluateCompatibility_below hversion
    have hsevere : ∀ status : CompatibilityStatus,
        status.severity ≤ (evaluateCompatibility handshake policy).status.severity := by
      intro status
      rw [hunsupported]
      cases status <;> decide
    constructor
    · intro _
      exact Or.inl hversion
    intro _
    constructor
    · intro status _
      exact hsevere status
    · intro _
      exact hunsupported
    · intro _
      exact hsevere _
    · intro _
      exact hsevere _
    · intro _
      exact hsevere _
    · rintro _ H P localeCompare hintKey input payload rfl rfl hpayload
      exact (bootstrap_killSwitches localeCompare hintKey hpayload).mpr hunsupported
  · constructor
    · intro hcovers
      right
      constructor
      · by_cases hschema : handshake.schemaVersion ∈ policy.supportedSchemaVersions
        · exact Or.inl hschema
        · right
          have hstatus := status_of_unlisted hversion hschema
          refine ⟨?_, ?_, ?_⟩
          · by_contra hmissing
            have hsevere := hcovers.capabilities hmissing
            rw [hstatus] at hsevere
            exact absurd hsevere (by decide)
          · intro hdeprecated
            have hsevere := hcovers.forced .deprecated hdeprecated
            rw [hstatus] at hsevere
            exact absurd hsevere (by decide)
          · intro hunsupported
            have hsevere := hcovers.forced .unsupported hunsupported
            rw [hstatus] at hsevere
            exact absurd hsevere (by decide)
      · by_cases hmissing : missingCapabilities handshake policy = []
        · exact Or.inl hmissing
        · right
          intro hunsupported
          have hsevere := hcovers.forced .unsupported hunsupported
          by_cases hschema : handshake.schemaVersion ∈ policy.supportedSchemaVersions
          · rw [status_of_missing hversion hschema hmissing] at hsevere
            exact absurd hsevere (by decide)
          · rw [status_of_unlisted hversion hschema] at hsevere
            exact absurd hsevere (by decide)
    · intro hhidden
      constructor
      · intro status hstatus
        exact forced_of_nothingHidden hversion hhidden hstatus
      · intro hbelow
        exact absurd hbelow hversion
      · exact capabilities_of_nothingHidden hversion hhidden
      · grind [warnings_covered]
      · grind [warnings_covered]
      · rintro hunsupported H P localeCompare hintKey input payload rfl rfl hpayload
        rw [bootstrap_killSwitches localeCompare hintKey hpayload]
        -- no status is more severe
        have hsevere := forced_of_nothingHidden hversion hhidden hunsupported
        cases hstatus : (evaluateCompatibility input.handshake input.compatibilityPolicy).status with
        | unsupported => rfl
        | _ =>
          rw [hstatus] at hsevere
          exact absurd hsevere (by decide)

/-- A current extension whose schema is not listed, under a rule that says unsupported. -/
def unlistedHandshake : CompatibilityHandshake where
  extensionVersion := "1.5.0"
  schemaVersion := "3"
  capabilities := ["quiz-capture"]
  browser := "chrome"
  buildId := none

def unsupportedRule : ExtensionCompatibilityRuleRecord where
  minimumVersion := "1.0.0"
  recommendedVersion := "1.5.0"
  supportedSchemaVersions := .array [.string "1", .string "2"]
  requiredCapabilities := .null
  resultStatus := .unsupported
  reason := some "Security issue."

theorem not_coversCauses_unlisted : ¬ ∀ handshake policy, CoversCauses handshake policy := by
  intro hall
  have hforced := (hall unlistedHandshake (mapExtensionCompatibilityRuleToPolicy unsupportedRule
    defaultCompatibilityPolicy)).forced .unsupported rfl
  have hstatus : (evaluateCompatibility unlistedHandshake (mapExtensionCompatibilityRuleToPolicy
      unsupportedRule defaultCompatibilityPolicy)).status = .supported_with_warnings := by
    decide +kernel
  rw [hstatus] at hforced
  exact absurd hforced (by decide)

end QuizMind.Compatibility
