import QuizMind.Extension.Service
import QuizMind.Extension.Versions
import Mathlib.Data.List.Lex

/-! # Compatibility of an extension

`evaluateCompatibility` of a handshake with a policy, and the policy that a stored rule makes.
The order of versions it relies on is an order exactly on versions whose components are all
numbers (`versionsOrdered_iff`).
-/

namespace QuizMind.Compatibility

open Versions

inductive CompatibilityStatus where
  | supported
  | supported_with_warnings
  | deprecated
  | unsupported
  deriving DecidableEq

structure CompatibilityPolicy where
  minimumVersion : String
  recommendedVersion : String
  supportedSchemaVersions : List String
  requiredCapabilities : Option (List String)
  resultStatus : Option CompatibilityStatus
  reason : Option String

structure CompatibilityResult where
  status : CompatibilityStatus
  minimumVersion : String
  recommendedVersion : String
  supportedSchemaVersions : List String
  reason : Option String

def createCompatibilityResult (policy : CompatibilityPolicy) (status : CompatibilityStatus)
    (reason : Option String) : CompatibilityResult where
  status := status
  minimumVersion := policy.minimumVersion
  recommendedVersion := policy.recommendedVersion
  supportedSchemaVersions := policy.supportedSchemaVersions
  reason := reason.filter fun text => text ≠ ""

/-- The required capabilities that the handshake does not name. -/
def missingCapabilities (handshake : CompatibilityHandshake) (policy : CompatibilityPolicy) :
    List String :=
  (policy.requiredCapabilities.getD []).filter fun capability =>
    capability ∉ handshake.capabilities

/-- The status of a version that is not below the minimum. -/
def computedStatus (handshake : CompatibilityHandshake) (policy : CompatibilityPolicy) :
    CompatibilityStatus :=
  if compareSemver handshake.extensionVersion policy.recommendedVersion < 0 then
    .supported_with_warnings
  else
    .supported

def evaluateCompatibility (handshake : CompatibilityHandshake) (policy : CompatibilityPolicy) :
    CompatibilityResult :=
  if compareSemver handshake.extensionVersion policy.minimumVersion < 0 then
    createCompatibilityResult policy .unsupported
      (some "Extension version is below the minimum supported version.")
  else if handshake.schemaVersion ∉ policy.supportedSchemaVersions then
    createCompatibilityResult policy .supported_with_warnings
      (some "Config schema version is not a preferred match.")
  else if missingCapabilities handshake policy ≠ [] then
    createCompatibilityResult policy .deprecated (some ("Missing capabilities: " ++
        ", ".intercalate (missingCapabilities handshake policy)))
  else
    let status := match policy.resultStatus with
      | none | some .supported => computedStatus handshake policy
      | some forced => forced
    createCompatibilityResult policy status policy.reason

/-! ## Stored rules -/

def defaultCompatibilityPolicy : CompatibilityPolicy where
  minimumVersion := "1.0.0"
  recommendedVersion := "1.5.0"
  supportedSchemaVersions := ["1", "2"]
  requiredCapabilities := some ["quiz-capture"]
  resultStatus := none
  reason := none

/-- A row of `ExtensionCompatibilityRule`. -/
structure ExtensionCompatibilityRuleRecord where
  minimumVersion : String
  recommendedVersion : String
  supportedSchemaVersions : Json
  requiredCapabilities : Json
  resultStatus : CompatibilityStatus
  reason : Option String

/-- The items of an array of strings. -/
def stringArray : Json → Option (List String)
  | .array items => items.mapM fun
      | .string s => some s
      | _ => none
  | _ => none

def mapExtensionCompatibilityRuleToPolicy (rule : ExtensionCompatibilityRuleRecord)
    (fallback : CompatibilityPolicy) : CompatibilityPolicy where
  minimumVersion := rule.minimumVersion
  recommendedVersion := rule.recommendedVersion
  supportedSchemaVersions :=
    ((stringArray rule.supportedSchemaVersions).filter fun versions => versions ≠ []).getD
      fallback.supportedSchemaVersions
  requiredCapabilities :=
    match rule.requiredCapabilities with
    | .null => none
    | required => (stringArray required).or fallback.requiredCapabilities
  resultStatus := some rule.resultStatus
  reason := rule.reason.filter fun text => text ≠ ""

/-! ## The order of versions -/

/-- Below the minimum a version is unsupported. -/
theorem evaluateCompatibility_below {handshake : CompatibilityHandshake}
    {policy : CompatibilityPolicy}
    (h : compareSemver handshake.extensionVersion policy.minimumVersion < 0) :
    (evaluateCompatibility handshake policy).status = .unsupported := by
  unfold evaluateCompatibility
  rw [if_pos h]
  rfl

/-- On the given versions the comparison is a total preorder, and a component that is not a
number is below every minimum that asks for a positive number there. -/
structure VersionsOrdered (versions : Set String) : Prop where
  antisymmetric : ∀ a ∈ versions, ∀ b ∈ versions, compareSemver a b = -compareSemver b a
  transitive : ∀ a ∈ versions, ∀ b ∈ versions, ∀ c ∈ versions,
    compareSemver a b ≤ 0 → compareSemver b c ≤ 0 → compareSemver a c ≤ 0
  malformed : ∀ version ∈ versions, ∀ (minimum : String) (index : ℕ) (value : WithBot (WithTop ℚ)),
    IsVersion minimum → (parts version)[index]? = some none →
      (parts minimum)[index]? = some (some value) → 0 < value → compareSemver version minimum < 0
  neverSupported : ∀ (handshake : CompatibilityHandshake) (policy : CompatibilityPolicy)
    (index : ℕ) (value : WithBot (WithTop ℚ)),
    handshake.extensionVersion ∈ versions → IsVersion policy.minimumVersion →
    (parts handshake.extensionVersion)[index]? = some none →
      (parts policy.minimumVersion)[index]? = some (some value) → 0 < value →
        (evaluateCompatibility handshake policy).status ≠ .supported

/-- Versions are ordered exactly where every component of them is a number. -/
theorem versionsOrdered_iff (versions : Set String) :
    VersionsOrdered versions ↔ ∀ version ∈ versions, IsNumeric version := by
  constructor
  · intro hordered version hversion hnone
    obtain ⟨index, hindex⟩ := List.mem_iff_getElem?.mp hnone
    have hlt : index < (parts version).length := (List.getElem?_eq_some_iff.mp hindex).1
    have hlength : 0 < (parts version).length := by omega
    -- the component is compared with `1`, and nothing else of the minimum is above the version
    have hone : (parts (lowMinimum (parts version).length index))[index]? = some (some 1) := by
      rw [parts_lowMinimum hlength, List.getElem?_map, List.getElem?_range hlt]
      exact congrArg some (if_pos rfl)
    have hbelow := hordered.malformed version hversion _ index 1
      (isVersion_lowMinimum hlength index) hindex hone (by decide +kernel)
    have hnot := compareSemver_lowMinimum hindex
    omega
  intro hnumeric
  have habsurd : ∀ version ∈ versions, ∀ index : ℕ, (parts version)[index]? ≠ some none := by
    intro version hversion index hindex
    exact hnumeric version hversion (List.mem_of_getElem? hindex)
  constructor
  · intro a _ b _
    exact compareSemver_swap a b
  · intro a ha b hb c hc
    exact compareSemver_trans (hnumeric a ha) (hnumeric b hb) (hnumeric c hc)
  · grind
  · grind

/-- `1.x.0` passes for `1.1.0`. -/
theorem not_versionsOrdered : ¬ VersionsOrdered { version | IsVersion version } := by
  intro hordered
  have hversion : IsVersion "1.x.0" := ⟨by decide, by decide⟩
  have hminimum : IsVersion "1.1.0" := ⟨by decide, by decide⟩
  have hbelow := hordered.malformed "1.x.0" hversion "1.1.0" 1 1 hminimum
    (by decide +kernel) (by decide +kernel) (by decide +kernel)
  have hsame : compareSemver "1.x.0" "1.1.0" = 0 := by decide +kernel
  omega

end QuizMind.Compatibility
