import QuizMind.Settings.Documents

/-! # The AI pricing settings

`parseAndNormalizeAiPricingPolicy`, `parseAiPricingPolicyPatch`, `mergeAiPricingPolicy` and
the update of the stored document. A number is a rational.
-/

namespace QuizMind.Settings

open Async
open Ai (JsValue Payload PlatformAiPricingPolicy ChargeFailedRequestsMode
  ChargeUserKeyRequestsMode)

/-! ## The fields -/

/-- The keys of a pricing policy, in the order in which they are read. -/
inductive PricingField where
  | enabled
  | markupPercent
  | minimumFeeUsd
  | roundingUsd
  | maxChargeUsd
  | chargeFailedRequests
  | chargeUserKeyRequests
  | displayEstimatedPriceToUser
  deriving DecidableEq

def pricingFields : List PricingField :=
  [.enabled, .markupPercent, .minimumFeeUsd, .roundingUsd, .maxChargeUsd, .chargeFailedRequests,
    .chargeUserKeyRequests, .displayEstimatedPriceToUser]

def PricingField.name : PricingField → String
  | .enabled => "enabled"
  | .markupPercent => "markupPercent"
  | .minimumFeeUsd => "minimumFeeUsd"
  | .roundingUsd => "roundingUsd"
  | .maxChargeUsd => "maxChargeUsd"
  | .chargeFailedRequests => "chargeFailedRequests"
  | .chargeUserKeyRequests => "chargeUserKeyRequests"
  | .displayEstimatedPriceToUser => "displayEstimatedPriceToUser"

abbrev PricingField.Value : PricingField → Type
  | .enabled => Bool
  | .markupPercent => ℚ
  | .minimumFeeUsd => ℚ
  | .roundingUsd => ℚ
  | .maxChargeUsd => Option ℚ
  | .chargeFailedRequests => ChargeFailedRequestsMode
  | .chargeUserKeyRequests => ChargeUserKeyRequestsMode
  | .displayEstimatedPriceToUser => Bool

def PricingField.get (policy : PlatformAiPricingPolicy) : (f : PricingField) → f.Value
  | .enabled => policy.enabled
  | .markupPercent => policy.markupPercent
  | .minimumFeeUsd => policy.minimumFeeUsd
  | .roundingUsd => policy.roundingUsd
  | .maxChargeUsd => policy.maxChargeUsd
  | .chargeFailedRequests => policy.chargeFailedRequests
  | .chargeUserKeyRequests => policy.chargeUserKeyRequests
  | .displayEstimatedPriceToUser => policy.displayEstimatedPriceToUser

/-- The policy with the given fields. -/
def pricingPolicyOf (values : (f : PricingField) → f.Value) : PlatformAiPricingPolicy where
  enabled := values .enabled
  markupPercent := values .markupPercent
  minimumFeeUsd := values .minimumFeeUsd
  roundingUsd := values .roundingUsd
  maxChargeUsd := values .maxChargeUsd
  chargeFailedRequests := values .chargeFailedRequests
  chargeUserKeyRequests := values .chargeUserKeyRequests
  displayEstimatedPriceToUser := values .displayEstimatedPriceToUser

@[simp] theorem PricingField.get_pricingPolicyOf (values : (f : PricingField) → f.Value)
    (f : PricingField) : f.get (pricingPolicyOf values) = values f := by
  cases f <;> rfl

theorem pricingPolicyOf_get (policy : PlatformAiPricingPolicy) :
    pricingPolicyOf (fun f => f.get policy) = policy := rfl

theorem mem_pricingFields (f : PricingField) : f ∈ pricingFields := by
  cases f <;> decide

theorem PricingField.name_injective : Function.Injective PricingField.name := by
  intro f g h
  cases f <;> cases g <;> first | rfl | exact absurd h (by decide)

def defaultAiPricingPolicy : PlatformAiPricingPolicy where
  enabled := false
  markupPercent := 25
  minimumFeeUsd := 5 / 10000
  roundingUsd := 1 / 1000000
  maxChargeUsd := none
  chargeFailedRequests := .never
  chargeUserKeyRequests := .platform_fee_only
  displayEstimatedPriceToUser := false

/-! ## The checks -/

def ensureNumber (name : String) : JsValue → Except Exception ℚ
  | .number (some q) => .ok q
  | _ => .error (.error s!"{name} must be a finite number.")

/-- `bounds` says how the range is written in the message. -/
def ensureNumberRange (name : String) (value : JsValue) (min max : ℚ) (bounds : String) :
    Except Exception ℚ := do
  let parsed ← ensureNumber name value
  if parsed < min ∨ max < parsed then .error (.error s!"{name} must be between {bounds}.")
  else .ok parsed

def ensureBoolean (name : String) : JsValue → Except Exception Bool
  | .bool b => .ok b
  | _ => .error (.error s!"{name} must be a boolean.")

def ensureMaxCharge (value : JsValue) : Except Exception (Option ℚ) :=
  match value with
  | .null => .ok none
  | value => (ensureNumberRange "maxChargeUsd" value (1 / 1000000) 100 "0.000001 and 100").map some

def failedRequestsText : ChargeFailedRequestsMode → String
  | .never => "never"
  | .provider_cost_only => "provider_cost_only"
  | .minimum_fee => "minimum_fee"

def userKeyRequestsText : ChargeUserKeyRequestsMode → String
  | .never => "never"
  | .platform_fee_only => "platform_fee_only"
  | .full_price => "full_price"

/-- One of the listed values, by its text. -/
def ensureOneOf {β : Type} (name : String) (text : β → String) (values : List β)
    (value : JsValue) : Except Exception β :=
  let found := match value with
    | .string chars => values.find? fun v => text v = String.ofList chars
    | _ => none
  match found with
  | some v => .ok v
  | none => .error (.error (name ++ " must be one of: " ++
      ", ".intercalate (values.map text) ++ "."))

/-- The check of each field; a patch is checked as the stored document is. -/
def PricingField.check : (f : PricingField) → JsValue → Except Exception f.Value
  | .enabled, value => ensureBoolean "enabled" value
  | .markupPercent, value => ensureNumberRange "markupPercent" value 0 500 "0 and 500"
  | .minimumFeeUsd, value => ensureNumberRange "minimumFeeUsd" value 0 1 "0 and 1"
  | .roundingUsd, value =>
    ensureNumberRange "roundingUsd" value (1 / 1000000) (1 / 100) "0.000001 and 0.01"
  | .maxChargeUsd, value => ensureMaxCharge value
  | .chargeFailedRequests, value =>
    ensureOneOf "chargeFailedRequests" failedRequestsText
      [.never, .provider_cost_only, .minimum_fee] value
  | .chargeUserKeyRequests, value =>
    ensureOneOf "chargeUserKeyRequests" userKeyRequestsText
      [.never, .platform_fee_only, .full_price] value
  | .displayEstimatedPriceToUser, value => ensureBoolean "displayEstimatedPriceToUser" value

def PricingField.encode : (f : PricingField) → f.Value → JsValue
  | .enabled, value => .bool value
  | .markupPercent, value => ofNumber value
  | .minimumFeeUsd, value => ofNumber value
  | .roundingUsd, value => ofNumber value
  | .maxChargeUsd, value => (value.map ofNumber).getD .null
  | .chargeFailedRequests, value => ofText (failedRequestsText value)
  | .chargeUserKeyRequests, value => ofText (userKeyRequestsText value)
  | .displayEstimatedPriceToUser, value => .bool value

theorem ensureNumberRange_encode {name bounds : String} {value min max w : ℚ}
    (h : ensureNumberRange name (ofNumber value) min max bounds = .ok w) : w = value := by
  have hparsed : ensureNumber name (ofNumber value) = .ok value := rfl
  simp only [ensureNumberRange, hparsed, bind, Except.bind] at h
  split at h
  · cases h
  · exact (Except.ok.inj h).symm

/-- What is read back is what was written. -/
theorem PricingField.check_encode {f : PricingField} {value w : f.Value}
    (h : f.check (f.encode value) = .ok w) : w = value := by
  cases f with
  | enabled => exact (Except.ok.inj h).symm
  | maxChargeUsd =>
    cases value with
    | none => exact (Except.ok.inj h).symm
    | some q =>
      simp only [PricingField.check, PricingField.encode, Option.map_some, Option.getD_some,
        ensureMaxCharge, ofNumber] at h
      cases hrange : ensureNumberRange "maxChargeUsd" (.number (some q)) (1 / 1000000) 100
          "0.000001 and 100" with
      | error e =>
        rw [hrange] at h
        cases h
      | ok parsed =>
        rw [hrange] at h
        obtain rfl : parsed = q := ensureNumberRange_encode hrange
        exact (Except.ok.inj h).symm
  | chargeFailedRequests => cases value <;> exact (Except.ok.inj h).symm
  | chargeUserKeyRequests => cases value <;> exact (Except.ok.inj h).symm
  | displayEstimatedPriceToUser => exact (Except.ok.inj h).symm
  | _ => exact ensureNumberRange_encode h

/-! ## The document -/

abbrev PricingPatch := (f : PricingField) → Option f.Value

def checkPricingKeys (raw : Payload) : Except Exception Unit :=
  raw.forM fun member =>
    if member.1 ∈ pricingFields.map PricingField.name then .ok ()
    else .error (.error s!"Unknown ai pricing field: {member.1}.")

def readPricingFields (raw : Payload) : Except Exception PricingPatch := do
  checkPricingKeys raw
  readFields (fun f => readMember raw f.name f.check) pricingFields

def parseAndNormalizeAiPricingPolicy (input : JsValue) : Except Exception PlatformAiPricingPolicy :=
  match input with
  | .object raw => do
      let values ← readPricingFields raw
      return pricingPolicyOf fun f => (values f).getD (f.get defaultAiPricingPolicy)
  | _ => .error (.error "AI pricing policy payload must be an object.")

def parseAiPricingPolicyPatch (input : JsValue) : Except Exception PricingPatch :=
  match input with
  | .object raw => readPricingFields raw
  | _ => .error (.error "AI pricing policy patch payload must be an object.")

def pricingMembers (policy : PlatformAiPricingPolicy) : Payload :=
  pricingFields.map fun f => (f.name, f.encode (f.get policy))

/-- The members of `{ ...base, ...patch }`; of two members of one name the first one counts. -/
def mergeAiPricingPolicy (base : PlatformAiPricingPolicy) (patch : PricingPatch) :
    Except Exception PlatformAiPricingPolicy :=
  parseAndNormalizeAiPricingPolicy (.object
    (givenMembers PricingField.name (fun f => (patch f).map f.encode) pricingFields ++
      pricingMembers base))

instance : (f : PricingField) → DecidableEq f.Value
  | .enabled => inferInstanceAs (DecidableEq Bool)
  | .markupPercent => inferInstanceAs (DecidableEq ℚ)
  | .minimumFeeUsd => inferInstanceAs (DecidableEq ℚ)
  | .roundingUsd => inferInstanceAs (DecidableEq ℚ)
  | .maxChargeUsd => inferInstanceAs (DecidableEq (Option ℚ))
  | .chargeFailedRequests => inferInstanceAs (DecidableEq ChargeFailedRequestsMode)
  | .chargeUserKeyRequests => inferInstanceAs (DecidableEq ChargeUserKeyRequestsMode)
  | .displayEstimatedPriceToUser => inferInstanceAs (DecidableEq Bool)

/-- `changedFields` is not empty. -/
def pricingChanges (current nextPolicy : PlatformAiPricingPolicy) (patch : PricingPatch) : Bool :=
  pricingFields.any fun f => (patch f).isSome && f.get current ≠ f.get nextPolicy

/-- `getPricingPolicy`, on the row that was found. -/
def readPricingPolicy : Option JsValue → Except Exception PlatformAiPricingPolicy
  | none => .ok defaultAiPricingPolicy
  | some row => parseAndNormalizeAiPricingPolicy row

def pricingKind : DocumentKind PlatformAiPricingPolicy PricingPatch where
  read := readPricingPolicy
  parse := parseAndNormalizeAiPricingPolicy
  parsePatch := parseAiPricingPolicyPatch
  merge := mergeAiPricingPolicy
  encode := fun policy => .object (pricingMembers policy)
  changes := pricingChanges
  writeError := id

def updatePricingPolicy (request : Option JsValue) :
    RowProg JsValue Exception PlatformAiPricingPolicy :=
  updateDocument pricingKind request

/-! ## Merging keeps the other fields -/

variable {policy : PlatformAiPricingPolicy}

/-- What an accepted object is read from. -/
theorem parse_ok {raw : Payload} (h : parseAndNormalizeAiPricingPolicy (.object raw) = .ok policy) :
    ∃ values : ∀ f : PricingField, Option f.Value,
      (∀ f, readMember raw f.name f.check = .ok (values f)) ∧
        policy = pricingPolicyOf fun f => (values f).getD (f.get defaultAiPricingPolicy) := by
  simp only [parseAndNormalizeAiPricingPolicy, readPricingFields] at h
  cases hkeys : checkPricingKeys raw with
  | error e =>
    rw [hkeys] at h
    cases h
  | ok _ =>
    rw [hkeys] at h
    cases hfields : readFields (fun f : PricingField => readMember raw f.name f.check)
        pricingFields with
    | error e =>
      rw [hfields] at h
      cases h
    | ok values =>
      rw [hfields] at h
      exact ⟨values, fun f => readFields_ok hfields (mem_pricingFields f), (Except.ok.inj h).symm⟩

/-- Where every field has a member that was written for it, these are the values read. -/
theorem parse_of_lookup {raw : Payload} {nextPolicy : PlatformAiPricingPolicy}
    (hraw : ∀ f : PricingField, raw.lookup f.name = some (f.encode (f.get policy)))
    (h : parseAndNormalizeAiPricingPolicy (.object raw) = .ok nextPolicy) :
    nextPolicy = policy ∧
      ∀ f : PricingField, f.check (f.encode (f.get policy)) = .ok (f.get policy) := by
  obtain ⟨values, hread, rfl⟩ := parse_ok h
  have hvals : ∀ f : PricingField, f.check (f.encode (f.get policy)) = .ok (f.get policy) ∧
      values f = some (f.get policy) := by
    intro f
    have hf := hread f
    simp only [readMember, hraw f] at hf
    cases hcheck : f.check (f.encode (f.get policy)) with
    | error e =>
      rw [hcheck] at hf
      cases hf
    | ok w =>
      rw [hcheck] at hf
      obtain rfl : w = f.get policy := PricingField.check_encode hcheck
      exact ⟨rfl, (Except.ok.inj hf).symm⟩
  refine ⟨?_, fun f => (hvals f).1⟩
  rw [← pricingPolicyOf_get policy]
  congr 1
  funext f
  rw [(hvals f).2, Option.getD_some]

theorem lookup_pricingMembers (policy : PlatformAiPricingPolicy) (f : PricingField) :
    (pricingMembers policy).lookup f.name = some (f.encode (f.get policy)) := by
  have hlook := lookup_members PricingField.name_injective
    (x := fun f : PricingField => f.encode (f.get policy)) (mem_pricingFields f)
  exact hlook

/-- A policy whose fields pass their checks is read back as it was written. -/
theorem parse_pricingMembers
    (h : ∀ f : PricingField, f.check (f.encode (f.get policy)) = .ok (f.get policy)) :
    parseAndNormalizeAiPricingPolicy (.object (pricingMembers policy)) = .ok policy := by
  have hread : ∀ f ∈ pricingFields, readMember (pricingMembers policy) f.name f.check =
      .ok (some (f.get policy)) := by grind [readMember, lookup_pricingMembers, Except.map]
  obtain ⟨values, hfields, hvals⟩ : ∃ values, readFields
      (fun f : PricingField => readMember (pricingMembers policy) f.name f.check) pricingFields =
        .ok values ∧ ∀ f ∈ pricingFields, values f = some (f.get policy) :=
    readFields_of_ok hread
  have hall : values = fun f => some (f.get policy) :=
    funext fun f => hvals f (mem_pricingFields f)
  subst hall
  simp only [parseAndNormalizeAiPricingPolicy, readPricingFields, hfields]
  exact congrArg _ (pricingPolicyOf_get policy)

theorem pricing_keepsFields : KeepsFields pricingKind PricingField.get fun patch f => patch f := by
  intro row base patch nextPolicy _ hmerge
  have hlook : ∀ f : PricingField,
      (givenMembers PricingField.name (fun f => (patch f).map f.encode) pricingFields ++
        pricingMembers base).lookup f.name =
      some (f.encode (f.get (pricingPolicyOf fun f => (patch f).getD (f.get base)))) := by
    intro f
    rw [List.lookup_append, lookup_givenMembers PricingField.name_injective,
      if_pos (mem_pricingFields f), lookup_pricingMembers, PricingField.get_pricingPolicyOf]
    cases patch f <;> rfl
  rcases parse_of_lookup hlook hmerge with ⟨rfl, hchecks⟩
  exact ⟨fun f => PricingField.get_pricingPolicyOf _ f, parse_pricingMembers hchecks⟩

/-! ## The ranges of an accepted policy -/

/-- Every value of an accepted policy is the default of its field or has passed its check. -/
theorem parse_field {input : JsValue} (h : parseAndNormalizeAiPricingPolicy input = .ok policy)
    (f : PricingField) :
    f.get policy = f.get defaultAiPricingPolicy ∨ ∃ value, f.check value = .ok (f.get policy) := by
  cases input with
  | object raw =>
    obtain ⟨values, hread, rfl⟩ := parse_ok h
    rw [PricingField.get_pricingPolicyOf]
    cases hval : values f with
    | none => exact Or.inl rfl
    | some parsed => grind [readMember_some]
  | _ => cases h

theorem ensureNumberRange_le {name bounds : String} {value : JsValue} {min max parsed : ℚ}
    (h : ensureNumberRange name value min max bounds = .ok parsed) :
    min ≤ parsed ∧ parsed ≤ max := by
  simp only [ensureNumberRange, bind, Except.bind] at h
  split at h
  · cases h
  · grind

/-- The numbers of a policy are in their ranges. -/
structure InRange (policy : PlatformAiPricingPolicy) : Prop where
  markupPercent : 0 ≤ policy.markupPercent ∧ policy.markupPercent ≤ 500
  minimumFeeUsd : 0 ≤ policy.minimumFeeUsd ∧ policy.minimumFeeUsd ≤ 1
  roundingUsd : 1 / 1000000 ≤ policy.roundingUsd ∧ policy.roundingUsd ≤ 1 / 100
  maxChargeUsd : ∀ maxChargeUsd ∈ policy.maxChargeUsd,
    1 / 1000000 ≤ maxChargeUsd ∧ maxChargeUsd ≤ 100

theorem ensureMaxCharge_le {value : JsValue} {parsed : Option ℚ}
    (h : ensureMaxCharge value = .ok parsed) :
    ∀ maxChargeUsd ∈ parsed, 1 / 1000000 ≤ maxChargeUsd ∧ maxChargeUsd ≤ 100 := by
  intro maxChargeUsd hmax
  unfold ensureMaxCharge at h
  split at h
  · obtain rfl := Except.ok.inj h
    cases hmax
  cases hrange : ensureNumberRange "maxChargeUsd" value (1 / 1000000) 100 "0.000001 and 100" with
  | error e =>
    rw [hrange] at h
    cases h
  | ok inRange =>
    rw [hrange] at h
    obtain rfl := Except.ok.inj h
    obtain rfl := Option.some.inj hmax
    exact ensureNumberRange_le hrange

theorem parse_inRange {input : JsValue} (h : parseAndNormalizeAiPricingPolicy input = .ok policy) :
    InRange policy := by
  constructor
  · rcases parse_field h .markupPercent with hdef | ⟨value, hcheck⟩
    · change policy.markupPercent = 25 at hdef
      rw [hdef]
      norm_num
    · exact ensureNumberRange_le hcheck
  · rcases parse_field h .minimumFeeUsd with hdef | ⟨value, hcheck⟩
    · change policy.minimumFeeUsd = 5 / 10000 at hdef
      rw [hdef]
      norm_num
    · exact ensureNumberRange_le hcheck
  · rcases parse_field h .roundingUsd with hdef | ⟨value, hcheck⟩
    · change policy.roundingUsd = 1 / 1000000 at hdef
      rw [hdef]
      norm_num
    · exact ensureNumberRange_le hcheck
  · rcases parse_field h .maxChargeUsd with hdef | ⟨value, hcheck⟩
    · change policy.maxChargeUsd = none at hdef
      rw [hdef]
      nofun
    · exact ensureMaxCharge_le hcheck

theorem InRange.roundingUsd_pos (h : InRange policy) : 0 < policy.roundingUsd := by
  have hmin := h.roundingUsd.1
  linarith

end QuizMind.Settings
