import QuizMind.Runtime
import Mathlib.Data.Rat.Floor
import Mathlib.Algebra.Order.Floor.Ring

/-! # Prices of AI requests

`AiPricingService`, the token prices of `ai-history.service` and the conversion
to the currency of a wallet. Amounts of money are rationals: the binary rounding
of the source's numbers is left out, its own roundings are kept.
-/

namespace QuizMind.Ai

inductive ChargeFailedRequestsMode where
  | never | provider_cost_only | minimum_fee
  deriving DecidableEq

inductive ChargeUserKeyRequestsMode where
  | never | platform_fee_only | full_price
  deriving DecidableEq

inductive KeySource where
  | platform | user
  deriving DecidableEq

inductive RequestStatus where
  | success | error | quota_exceeded
  deriving DecidableEq

inductive PricingSource where
  | provider | estimated
  deriving DecidableEq

structure PlatformAiPricingPolicy where
  enabled : Bool
  markupPercent : ℚ
  minimumFeeUsd : ℚ
  roundingUsd : ℚ
  maxChargeUsd : Option ℚ
  chargeFailedRequests : ChargeFailedRequestsMode
  chargeUserKeyRequests : ChargeUserKeyRequestsMode
  displayEstimatedPriceToUser : Bool
  deriving DecidableEq

structure UserBillingOverride where
  userId : String
  aiPlatformFeeExempt : Bool
  aiMarkupPercentOverride : Option ℚ
  reason : Option String
  deriving DecidableEq

/-! ## The price of a request -/

/-- `Math.round`: half a unit is rounded up. -/
def mathRound (value : ℚ) : ℤ := ⌊value + 1 / 2⌋

/-- `Math.ceil`. -/
def mathCeil (value : ℚ) : ℤ := ⌈value⌉

def roundToIncrement (value increment : ℚ) : ℚ :=
  if increment ≤ 0 then value else mathRound (value / increment) * increment

inductive NoChargeReason where
  | pricing_disabled | zero_charge

structure PricingBreakdown where
  providerCostUsd : ℚ
  platformFeeUsd : ℚ
  chargedCostUsd : ℚ
  pricingSource : PricingSource
  policySnapshot : PlatformAiPricingPolicy
  chargeable : Bool
  reason : Option NoChargeReason

structure PricingInput where
  policy : PlatformAiPricingPolicy
  providerCostUsd : ℚ
  pricingSource : PricingSource
  keySource : KeySource
  status : RequestStatus

/-- The charge for a key of the given source. -/
def chargeForKey (policy : PlatformAiPricingPolicy) (keySource : KeySource)
    (providerCostUsd platformFeeUsd : ℚ) : ℚ :=
  match keySource, policy.chargeUserKeyRequests with
  | .user, .never => 0
  | .user, .platform_fee_only => platformFeeUsd
  | .user, .full_price => providerCostUsd + platformFeeUsd
  | .platform, _ => providerCostUsd + platformFeeUsd

/-- The charge for a request that ended with `status`. -/
def chargeForStatus (policy : PlatformAiPricingPolicy) (status : RequestStatus)
    (providerCostUsd minimumFee chargedCostUsd : ℚ) : ℚ :=
  if status = .success then chargedCostUsd
  else
    match policy.chargeFailedRequests with
    | .never => 0
    | .provider_cost_only => if providerCostUsd > 0 then providerCostUsd else 0
    | .minimum_fee => minimumFee

/-- The charge under the cap of the policy. -/
def capCharge (policy : PlatformAiPricingPolicy) (chargedCostUsd : ℚ) : ℚ :=
  match policy.maxChargeUsd with
  | some maxChargeUsd => min chargedCostUsd maxChargeUsd
  | none => chargedCostUsd

def calculateWithPolicy (input : PricingInput) : PricingBreakdown :=
  let providerCostUsd := max 0 input.providerCostUsd
  let policy := input.policy
  let minimumFee := max 0 policy.minimumFeeUsd
  let platformFeeUsd := max (providerCostUsd * policy.markupPercent / 100) minimumFee
  let chargedCostUsd := capCharge policy
    (chargeForStatus policy input.status providerCostUsd minimumFee
      (chargeForKey policy input.keySource providerCostUsd platformFeeUsd))
  let roundedCharged := roundToIncrement chargedCostUsd policy.roundingUsd
  let roundedProvider := roundToIncrement providerCostUsd policy.roundingUsd
  let roundedFee := roundToIncrement platformFeeUsd policy.roundingUsd
  let breakdown : PricingBreakdown :=
    { providerCostUsd := roundedProvider
      platformFeeUsd := roundedFee
      chargedCostUsd := 0
      pricingSource := input.pricingSource
      policySnapshot := policy
      chargeable := false
      reason := none }
  if ¬ policy.enabled then
    { breakdown with reason := some .pricing_disabled }
  else if roundedCharged ≤ 0 then
    { breakdown with reason := some .zero_charge }
  else
    { breakdown with chargedCostUsd := roundedCharged, chargeable := true }

def resolveEffectiveAiPricingPolicy (policy : PlatformAiPricingPolicy)
    (userOverride : Option UserBillingOverride) : PlatformAiPricingPolicy :=
  match userOverride with
  | none => policy
  | some userOverride =>
    if userOverride.aiPlatformFeeExempt then
      { policy with markupPercent := 0, minimumFeeUsd := 0 }
    else
      match userOverride.aiMarkupPercentOverride with
      | some markupPercent => { policy with markupPercent := markupPercent }
      | none => policy

/-- What is chargeable has a positive price. -/
theorem chargedCostUsd_pos {input : PricingInput}
    (h : (calculateWithPolicy input).chargeable = true) :
    0 < (calculateWithPolicy input).chargedCostUsd := by grind [calculateWithPolicy]

/-- The source of a cost does not change its price. -/
theorem calculateWithPolicy_source (input : PricingInput) (source : PricingSource) :
    calculateWithPolicy { input with pricingSource := source } =
      { calculateWithPolicy input with pricingSource := source } := by
  simp only [calculateWithPolicy]
  split
  · rfl
  · split <;> rfl

/-! ## The estimated cost of the tokens -/

structure TokenPrice where
  inputPerM : ℚ
  outputPerM : ℚ

def PRICING : List (String × TokenPrice) :=
  [("openai/gpt-4o", ⟨2.50, 10⟩), ("openai/gpt-4o-mini", ⟨0.15, 0.60⟩),
   ("openai/gpt-4-turbo", ⟨10, 30⟩),
   ("openai/gpt-3.5-turbo", ⟨0.50, 1.50⟩),
   ("openai/o1", ⟨15, 60⟩),
   ("openai/o1-mini", ⟨1.10, 4.40⟩),
   ("openai/o3-mini", ⟨1.10, 4.40⟩),
   ("anthropic/claude-3.5-sonnet", ⟨3, 15⟩),
   ("anthropic/claude-3.5-haiku", ⟨0.80, 4⟩),
   ("anthropic/claude-3-opus", ⟨15, 75⟩),
   ("anthropic/claude-3-sonnet", ⟨3, 15⟩),
   ("anthropic/claude-3-haiku", ⟨0.25, 1.25⟩),
   ("google/gemini-pro-1.5", ⟨1.25, 5⟩),
   ("google/gemini-flash-1.5", ⟨0.075, 0.30⟩),
   ("google/gemini-2.0-flash-001", ⟨0.10, 0.40⟩),
   ("meta-llama/llama-3.1-8b-instruct", ⟨0.06, 0.06⟩),
   ("meta-llama/llama-3.1-70b-instruct", ⟨0.59, 0.79⟩),
   ("mistralai/mistral-7b-instruct", ⟨0.07, 0.07⟩),
   ("mistralai/mixtral-8x7b-instruct", ⟨0.24, 0.24⟩)]

def FALLBACK_PRICE : TokenPrice := ⟨2, 8⟩

/-- `model.split(':')[0].toLowerCase()`; the names in the table are ASCII. -/
def normModel (model : String) : String :=
  String.ofList ((model.toList.takeWhile fun c => c ≠ ':').map Char.toLower)

def estimateRequestCostUsd (model : String) (promptTokens completionTokens : ℚ) : ℚ :=
  let price := (PRICING.lookup (normModel model)).getD FALLBACK_PRICE
  let cost := promptTokens / 1000000 * price.inputPerM +
    completionTokens / 1000000 * price.outputPerM
  mathRound (cost * 1000000) / 1000000

/-! ## The amount in the currency of a wallet -/

inductive ConversionSource where
  | env | default | identity
  deriving DecidableEq

structure Conversion where
  chargedAmountMinor : ℤ
  usdToRubRate : Option ℚ
  source : ConversionSource
  deriving DecidableEq

/-- The rate in `BILLING_USD_TO_RUB_RATE`, `none` when it is not set or not a
finite number. -/
abbrev EnvRate := Option ℚ

/-- The rate of the environment when it is positive, else 90. -/
def usdToRub (rate : EnvRate) : ℚ × ConversionSource :=
  match rate.filter fun r => 0 < r with
  | some r => (r, .env)
  | none => (90, .default)

def convertUsdToWalletMinor (rate : EnvRate) (usdAmount : ℚ) (currency : String) :
    Except Exception Conversion :=
  if usdAmount ≤ 0 then
    .ok { chargedAmountMinor := 0, usdToRubRate := none, source := .identity }
  else if currency = "RUB" then
    .ok { chargedAmountMinor := mathCeil (usdAmount * (usdToRub rate).1 * 100)
          usdToRubRate := some (usdToRub rate).1
          source := (usdToRub rate).2 }
  else if currency = "USD" then
    .ok { chargedAmountMinor := mathCeil (usdAmount * 100), usdToRubRate := none,
          source := .identity }
  else
    .error (.badRequest s!"Unsupported wallet currency for AI usage billing: {currency}")

theorem usdToRub_pos (rate : EnvRate) : 0 < (usdToRub rate).1 := by
  grind [usdToRub, Option.filter_eq_some_iff]

theorem mathCeil_pos {value : ℚ} (h : 0 < value) : 0 < mathCeil value :=
  Int.ceil_pos.mpr h

/-- A currency that has no conversion has none for any positive price. -/
theorem convertUsdToWalletMinor_error {rate : EnvRate} {usdAmount usdAmount' : ℚ}
    {currency : String} {e : Exception}
    (h : convertUsdToWalletMinor rate usdAmount currency = .error e) (hpos : 0 < usdAmount') :
    ∃ e', convertUsdToWalletMinor rate usdAmount' currency = .error e' := by
  grind [convertUsdToWalletMinor]

/-- A positive price is a positive amount. -/
theorem convertUsdToWalletMinor_pos {rate : EnvRate} {usdAmount : ℚ} {currency : String}
    {conversion : Conversion} (husd : 0 < usdAmount)
    (h : convertUsdToWalletMinor rate usdAmount currency = .ok conversion) :
    0 < conversion.chargedAmountMinor := by
  unfold convertUsdToWalletMinor at h
  rw [if_neg (not_le.mpr husd)] at h
  split at h
  · cases h
    have hrate := usdToRub_pos rate
    exact mathCeil_pos (by positivity)
  split at h
  · cases h
    exact mathCeil_pos (by positivity)
  · cases h

end QuizMind.Ai
