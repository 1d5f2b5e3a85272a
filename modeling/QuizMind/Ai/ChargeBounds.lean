import QuizMind.Settings.Pricing
import QuizMind.Number.Rounding

/-! # The bounds of a charge

What `calculateWithPolicy` charges under a policy that `parseAndNormalizeAiPricingPolicy`
accepts. The cap is applied before the rounding, so it holds exactly where the rounding does
not carry the cap itself upwards (`withinBounds_iff`). The rule for failed requests replaces
the charge of the rule for the user's own keys, and `failingCostsNoMore_iff` says when the
replacement is not dearer.
-/

namespace QuizMind.Ai

open Settings (InRange parseAndNormalizeAiPricingPolicy)

/-! ## The charge before the rounding -/

def minimumFee (policy : PlatformAiPricingPolicy) : ℚ := max 0 policy.minimumFeeUsd

def platformFee (policy : PlatformAiPricingPolicy) (providerCostUsd : ℚ) : ℚ :=
  max (providerCostUsd * policy.markupPercent / 100) (minimumFee policy)

/-- What is due for a provider cost that is not negative, before the cap. -/
def dueCharge (policy : PlatformAiPricingPolicy) (keySource : KeySource) (status : RequestStatus)
    (providerCostUsd : ℚ) : ℚ :=
  chargeForStatus policy status providerCostUsd (minimumFee policy)
    (chargeForKey policy keySource providerCostUsd (platformFee policy providerCostUsd))

theorem minimumFee_nonneg (policy : PlatformAiPricingPolicy) : 0 ≤ minimumFee policy :=
  le_max_left _ _

theorem minimumFee_le_platformFee (policy : PlatformAiPricingPolicy) (cost : ℚ) :
    minimumFee policy ≤ platformFee policy cost := le_max_right _ _

theorem platformFee_nonneg (policy : PlatformAiPricingPolicy) (cost : ℚ) :
    0 ≤ platformFee policy cost :=
  (minimumFee_nonneg policy).trans (minimumFee_le_platformFee policy cost)

variable {cost cost' : ℚ} {policy : PlatformAiPricingPolicy}

theorem platformFee_mono (h : InRange policy) (hcost : cost ≤ cost') :
    platformFee policy cost ≤ platformFee policy cost' := by
  have hmarkup := mul_le_mul_of_nonneg_right hcost h.markupPercent.1
  refine max_le_max ?_ le_rfl
  linarith

theorem chargeForKey_nonneg (policy : PlatformAiPricingPolicy) (keySource : KeySource) {fee : ℚ}
    (hcost : 0 ≤ cost) (hfee : 0 ≤ fee) : 0 ≤ chargeForKey policy keySource cost fee := by
  have hfull := add_nonneg hcost hfee
  unfold chargeForKey
  split
  · exact le_rfl
  · exact hfee
  all_goals exact hfull

theorem chargeForKey_mono (policy : PlatformAiPricingPolicy) (keySource : KeySource)
    {fee fee' : ℚ} (hcost : cost ≤ cost') (hfee : fee ≤ fee') :
    chargeForKey policy keySource cost fee ≤ chargeForKey policy keySource cost' fee' := by
  have hfull := add_le_add hcost hfee
  cases keySource with
  | platform => exact hfull
  | user =>
    unfold chargeForKey
    cases policy.chargeUserKeyRequests with
    | never => exact le_rfl
    | platform_fee_only => exact hfee
    | full_price => exact hfull

theorem dueCharge_nonneg (policy : PlatformAiPricingPolicy) (keySource : KeySource)
    (status : RequestStatus) (hcost : 0 ≤ cost) : 0 ≤ dueCharge policy keySource status cost := by
  have hkey := chargeForKey_nonneg policy keySource hcost (platformFee_nonneg policy cost)
  unfold dueCharge chargeForStatus
  split
  · exact hkey
  split
  · exact le_rfl
  · split
    · exact hcost
    · exact le_rfl
  · exact minimumFee_nonneg policy

theorem dueCharge_mono (h : InRange policy) (keySource : KeySource) (status : RequestStatus)
    (hcost : 0 ≤ cost) (hle : cost ≤ cost') :
    dueCharge policy keySource status cost ≤ dueCharge policy keySource status cost' := by
  have hkey := chargeForKey_mono policy keySource hle (platformFee_mono h hle)
  unfold dueCharge chargeForStatus
  by_cases hstat : status = .success
  · rw [if_pos hstat, if_pos hstat]
    exact hkey
  · grind

theorem capCharge_nonneg (h : InRange policy) {charge : ℚ} (hcharge : 0 ≤ charge) :
    0 ≤ capCharge policy charge := by
  unfold capCharge
  split
  · rename_i maxChargeUsd hmax
    have hrange := (h.maxChargeUsd maxChargeUsd hmax).1
    exact le_min hcharge (by linarith)
  · exact hcharge

theorem capCharge_mono (policy : PlatformAiPricingPolicy) {charge charge' : ℚ}
    (h : charge ≤ charge') : capCharge policy charge ≤ capCharge policy charge' := by
  unfold capCharge
  split
  · exact min_le_min_right _ h
  · exact h

theorem capCharge_le {maxChargeUsd : ℚ} (h : policy.maxChargeUsd = some maxChargeUsd) (charge : ℚ) :
    capCharge policy charge ≤ maxChargeUsd := by
  unfold capCharge
  rw [h]
  exact min_le_right _ _

/-! ## The charge -/

theorem roundToIncrement_eq {increment : ℚ} (h : 0 < increment) (value : ℚ) :
    roundToIncrement value increment = Number.toMultiple value increment := by
  unfold roundToIncrement
  rw [if_neg (not_le.mpr h)]
  rfl

/-- What is charged where pricing is enabled: the capped charge, rounded. -/
theorem calculateWithPolicy_charged (h : InRange policy) (cost : ℚ) (source : PricingSource)
    (keySource : KeySource) (status : RequestStatus) :
    (calculateWithPolicy ⟨policy, cost, source, keySource, status⟩).chargedCostUsd =
      if policy.enabled then
        Number.toMultiple (capCharge policy (dueCharge policy keySource status (max 0 cost)))
          policy.roundingUsd
      else 0 := by
  have hdue := dueCharge_nonneg policy keySource status (le_max_left 0 cost)
  have hrounded : 0 ≤ Number.toMultiple
      (capCharge policy (dueCharge policy keySource status (max 0 cost))) policy.roundingUsd :=
    Number.toMultiple_nonneg h.roundingUsd_pos (capCharge_nonneg h hdue)
  have hincrement := roundToIncrement_eq h.roundingUsd_pos
    (capCharge policy (dueCharge policy keySource status (max 0 cost)))
  by_cases henabled : policy.enabled
  · simp only [calculateWithPolicy, henabled, not_true_eq_false, if_false]
    split
    · rename_i hzero
      change roundToIncrement (capCharge policy (dueCharge policy keySource status (max 0 cost)))
        policy.roundingUsd ≤ 0 at hzero
      rw [hincrement] at hzero
      exact hrounded.antisymm hzero
    · exact hincrement
  · simp [calculateWithPolicy, henabled]

/-- Nothing is charged exactly where the request is not chargeable. -/
theorem chargedCostUsd_eq_zero_iff (input : PricingInput) :
    (calculateWithPolicy input).chargedCostUsd = 0 ↔
      (calculateWithPolicy input).chargeable = false := by
  constructor
  · intro hzero
    rw [← Bool.not_eq_true]
    intro hcharge
    exact (chargedCostUsd_pos hcharge).ne' hzero
  · grind [calculateWithPolicy]

/-! ## The cap -/

/-- The charge of any request under a policy. -/
structure WithinBounds (policy : PlatformAiPricingPolicy) : Prop where
  multiple : ∀ cost source keySource status, ∃ n : ℕ,
    (calculateWithPolicy ⟨policy, cost, source, keySource, status⟩).chargedCostUsd =
      n * policy.roundingUsd
  capped : ∀ cost source keySource status, ∀ maxChargeUsd ∈ policy.maxChargeUsd,
    (calculateWithPolicy ⟨policy, cost, source, keySource, status⟩).chargedCostUsd ≤ maxChargeUsd
  monotone : ∀ cost cost' source keySource status, cost ≤ cost' →
    (calculateWithPolicy ⟨policy, cost, source, keySource, status⟩).chargedCostUsd ≤
      (calculateWithPolicy ⟨policy, cost', source, keySource, status⟩).chargedCostUsd
  zero_iff : ∀ cost source keySource status,
    (calculateWithPolicy ⟨policy, cost, source, keySource, status⟩).chargedCostUsd = 0 ↔
      (calculateWithPolicy ⟨policy, cost, source, keySource, status⟩).chargeable = false

theorem charged_multiple (h : InRange policy) (cost : ℚ) (source : PricingSource)
    (keySource : KeySource) (status : RequestStatus) :
    ∃ n : ℕ, (calculateWithPolicy ⟨policy, cost, source, keySource, status⟩).chargedCostUsd =
      n * policy.roundingUsd := by
  rw [calculateWithPolicy_charged h]
  split
  · have hdue := dueCharge_nonneg policy keySource status (le_max_left 0 cost)
    exact Number.toMultiple_eq_nat h.roundingUsd_pos (capCharge_nonneg h hdue)
  · exact ⟨0, by simp⟩

theorem charged_mono (h : InRange policy) (source : PricingSource) (keySource : KeySource)
    (status : RequestStatus) (hcost : cost ≤ cost') :
    (calculateWithPolicy ⟨policy, cost, source, keySource, status⟩).chargedCostUsd ≤
      (calculateWithPolicy ⟨policy, cost', source, keySource, status⟩).chargedCostUsd := by
  rw [calculateWithPolicy_charged h, calculateWithPolicy_charged h]
  split
  · have hdue := dueCharge_mono h keySource status (le_max_left 0 cost) (max_le_max le_rfl hcost)
    exact Number.toMultiple_mono h.roundingUsd_pos (capCharge_mono policy hdue)
  · exact le_rfl

/-- A successful request on a platform key whose cost reaches the cap is charged the rounded
cap. -/
theorem charged_at_cap (h : InRange policy) (henabled : policy.enabled = true) {maxChargeUsd : ℚ}
    (hmax : policy.maxChargeUsd = some maxChargeUsd) (source : PricingSource) :
    (calculateWithPolicy ⟨policy, maxChargeUsd, source, .platform, .success⟩).chargedCostUsd =
      Number.toMultiple maxChargeUsd policy.roundingUsd := by
  have hrange := (h.maxChargeUsd maxChargeUsd hmax).1
  have hpositive : max 0 maxChargeUsd = maxChargeUsd := max_eq_right (by linarith)
  have hfee := platformFee_nonneg policy maxChargeUsd
  have hdue : dueCharge policy .platform .success maxChargeUsd =
      maxChargeUsd + platformFee policy maxChargeUsd := rfl
  rw [calculateWithPolicy_charged h, if_pos henabled, hpositive]
  unfold capCharge
  rw [hmax]
  dsimp only
  rw [min_eq_right (by linarith)]

/-- The charges of an accepted policy are within its bounds exactly where pricing is switched
off, there is no cap, or less than half a step is left over when the cap is measured in steps. -/
theorem withinBounds_iff {input : JsValue} {policy : PlatformAiPricingPolicy}
    (h : parseAndNormalizeAiPricingPolicy input = .ok policy) :
    WithinBounds policy ↔ (policy.enabled = true → ∀ maxChargeUsd ∈ policy.maxChargeUsd,
        Int.fract (maxChargeUsd / policy.roundingUsd) < 1 / 2) := by
  have hrange := Settings.parse_inRange h
  have hstep := hrange.roundingUsd_pos
  constructor
  · intro hbounds henabled maxChargeUsd hmax
    have hcapped := hbounds.capped maxChargeUsd .provider .platform .success maxChargeUsd hmax
    rw [charged_at_cap hrange henabled hmax] at hcapped
    exact (Number.toMultiple_self_le_iff hstep).mp hcapped
  intro hleft
  constructor
  · exact charged_multiple hrange
  · intro cost source keySource status maxChargeUsd hmax
    rw [calculateWithPolicy_charged hrange]
    split
    · rename_i henabled
      have hcap := capCharge_le hmax (dueCharge policy keySource status (max 0 cost))
      have hself := (Number.toMultiple_self_le_iff hstep).mpr (hleft henabled maxChargeUsd hmax)
      exact (Number.toMultiple_mono hstep hcap).trans hself
    · have hpositive := (hrange.maxChargeUsd maxChargeUsd hmax).1
      linarith
  · intro cost cost' source keySource status hcost
    exact charged_mono hrange source keySource status hcost
  · intro cost source keySource status
    exact chargedCostUsd_eq_zero_iff _

/-- A cap of one and a half steps. -/
def unevenCap : PlatformAiPricingPolicy :=
  { Settings.defaultAiPricingPolicy with
    enabled := true
    roundingUsd := 1 / 100000
    maxChargeUsd := some (15 / 1000000) }

theorem parse_unevenCap :
    parseAndNormalizeAiPricingPolicy (.object (Settings.pricingMembers unevenCap)) =
      .ok unevenCap := by
  apply Settings.parse_pricingMembers
  intro f
  cases f <;> decide +kernel

theorem not_withinBounds_unevenCap :
    ¬ ∀ input policy, parseAndNormalizeAiPricingPolicy input = .ok policy →
      WithinBounds policy := by
  intro hall
  have hcapped := (hall _ _ parse_unevenCap).capped 1 .provider .platform .success
    (15 / 1000000) rfl
  have hcharged : (calculateWithPolicy
      ⟨unevenCap, 1, .provider, .platform, .success⟩).chargedCostUsd = 2 / 100000 := by
    decide +kernel
  rw [hcharged] at hcapped
  norm_num at hcapped

theorem withinBounds_iff_unevenCap :
    parseAndNormalizeAiPricingPolicy (.object (Settings.pricingMembers unevenCap)) = .ok unevenCap ∧
      (WithinBounds unevenCap ↔ (unevenCap.enabled = true → ∀ maxChargeUsd ∈ unevenCap.maxChargeUsd,
          Int.fract (maxChargeUsd / unevenCap.roundingUsd) < 1 / 2)) :=
  ⟨parse_unevenCap, withinBounds_iff parse_unevenCap⟩

/-! ## Failed requests -/

/-- No status of a failed request is charged more than the success, and nothing is charged for
the user's own keys where they are free. -/
structure FailingCostsNoMore (policy : PlatformAiPricingPolicy) (cost : ℚ)
    (source : PricingSource) (keySource : KeySource) : Prop where
  atMost : ∀ status, status ≠ .success →
    (calculateWithPolicy ⟨policy, cost, source, keySource, status⟩).chargedCostUsd ≤
      (calculateWithPolicy ⟨policy, cost, source, keySource, .success⟩).chargedCostUsd
  free : keySource = .user → policy.chargeUserKeyRequests = .never → ∀ status,
    (calculateWithPolicy ⟨policy, cost, source, keySource, status⟩).chargedCostUsd = 0

/-- The charge of a failed request, before the cap. -/
def failureCharge (policy : PlatformAiPricingPolicy) (providerCostUsd : ℚ) : ℚ :=
  match policy.chargeFailedRequests with
  | .never => 0
  | .provider_cost_only => providerCostUsd
  | .minimum_fee => minimumFee policy

/-- Where the charge of a failed request is not above that of the success: for the keys of the
user it is compared with the fee, or with nothing. -/
def FailureNotDearer (policy : PlatformAiPricingPolicy) (keySource : KeySource)
    (providerCostUsd : ℚ) : Prop :=
  policy.enabled = true → keySource = .user → (policy.chargeUserKeyRequests = .never →
      capCharge policy (failureCharge policy providerCostUsd) < policy.roundingUsd / 2) ∧
    (policy.chargeUserKeyRequests = .platform_fee_only →
      policy.chargeFailedRequests = .provider_cost_only →
        -- no half step between the fee and the cost
        ∀ n : ℤ, (n + 1 / 2) * policy.roundingUsd ≤ capCharge policy providerCostUsd →
          (n + 1 / 2) * policy.roundingUsd ≤ capCharge policy (platformFee policy providerCostUsd))

variable {status : RequestStatus}

theorem dueCharge_of_failed {keySource : KeySource} (hstat : status ≠ .success)
    (hcost : 0 ≤ cost) : dueCharge policy keySource status cost = failureCharge policy cost := by
  unfold dueCharge chargeForStatus failureCharge
  rw [if_neg hstat]
  cases policy.chargeFailedRequests with
  | never => rfl
  | minimum_fee => rfl
  | provider_cost_only => grind

theorem dueCharge_of_success (policy : PlatformAiPricingPolicy) (keySource : KeySource)
    (cost : ℚ) : dueCharge policy keySource .success cost =
      chargeForKey policy keySource cost (platformFee policy cost) := rfl

/-- A failed request is due at most the full price. -/
theorem failureCharge_le_full (policy : PlatformAiPricingPolicy) (hcost : 0 ≤ cost) :
    failureCharge policy cost ≤ cost + platformFee policy cost := by
  have hfee := platformFee_nonneg policy cost
  have hminimum := minimumFee_le_platformFee policy cost
  unfold failureCharge
  split
  all_goals linarith

/-- Under the fee alone only the provider cost can be dearer. -/
theorem failureCharge_le_fee (cost : ℚ) (h : policy.chargeFailedRequests ≠ .provider_cost_only) :
    failureCharge policy cost ≤ platformFee policy cost := by
  unfold failureCharge
  split
  · exact platformFee_nonneg policy cost
  · rename_i hmode
    exact absurd hmode h
  · exact minimumFee_le_platformFee policy cost

section

variable (h : InRange policy)
include h

theorem capCharge_zero : capCharge policy 0 = 0 := by
  grind [capCharge, capCharge_nonneg]

theorem charged_failed (henabled : policy.enabled = true) (cost : ℚ)
    (source : PricingSource) (keySource : KeySource) (hstat : status ≠ .success) :
    (calculateWithPolicy ⟨policy, cost, source, keySource, status⟩).chargedCostUsd =
      Number.toMultiple (capCharge policy (failureCharge policy (max 0 cost)))
        policy.roundingUsd := by grind [calculateWithPolicy_charged, dueCharge_of_failed]

theorem charged_succeeded (henabled : policy.enabled = true) (cost : ℚ)
    (source : PricingSource) (keySource : KeySource) :
    (calculateWithPolicy ⟨policy, cost, source, keySource, .success⟩).chargedCostUsd =
      Number.toMultiple (capCharge policy (chargeForKey policy keySource (max 0 cost)
        (platformFee policy (max 0 cost)))) policy.roundingUsd := by
  rw [calculateWithPolicy_charged h, if_pos henabled, dueCharge_of_success]

theorem charged_disabled (hdisabled : ¬ policy.enabled = true) (cost : ℚ)
    (source : PricingSource) (keySource : KeySource) (status : RequestStatus) :
    (calculateWithPolicy ⟨policy, cost, source, keySource, status⟩).chargedCostUsd = 0 := by
  rw [calculateWithPolicy_charged h, if_neg hdisabled]

theorem atMost_of_notDearer (henabled : policy.enabled = true)
    (source : PricingSource) {keySource : KeySource}
    (hdear : FailureNotDearer policy keySource (max 0 cost)) (hstat : status ≠ .success) :
    (calculateWithPolicy ⟨policy, cost, source, keySource, status⟩).chargedCostUsd ≤
      (calculateWithPolicy ⟨policy, cost, source, keySource, .success⟩).chargedCostUsd := by
  have hstep := h.roundingUsd_pos
  have hcost : 0 ≤ max 0 cost := le_max_left 0 cost
  rw [charged_failed h henabled cost source keySource hstat,
    charged_succeeded h henabled cost source keySource]
  have hfull : Number.toMultiple (capCharge policy (failureCharge policy (max 0 cost)))
      policy.roundingUsd ≤ Number.toMultiple
        (capCharge policy (max 0 cost + platformFee policy (max 0 cost))) policy.roundingUsd :=
    Number.toMultiple_mono hstep (capCharge_mono policy (failureCharge_le_full policy hcost))
  cases keySource with
  | platform => exact hfull
  | user =>
    obtain ⟨hnever, hfee⟩ := hdear henabled rfl
    unfold chargeForKey
    cases hmode : policy.chargeUserKeyRequests with
    | full_price => exact hfull
    | never => grind [Number.toMultiple_nonpos_iff, Number.toMultiple_nonneg, capCharge_nonneg]
    | platform_fee_only =>
      by_cases hfailed : policy.chargeFailedRequests = .provider_cost_only
      · have hcharge : failureCharge policy (max 0 cost) = max 0 cost := by
          unfold failureCharge
          rw [hfailed]
        rw [hcharge]
        exact (Number.toMultiple_le_toMultiple_iff hstep).mpr (hfee hmode hfailed)
      · exact Number.toMultiple_mono hstep (capCharge_mono policy (failureCharge_le_fee _ hfailed))

theorem free_of_notDearer (henabled : policy.enabled = true)
    (source : PricingSource) (hdear : FailureNotDearer policy .user (max 0 cost))
    (hmode : policy.chargeUserKeyRequests = .never) (status : RequestStatus) :
    (calculateWithPolicy ⟨policy, cost, source, .user, status⟩).chargedCostUsd = 0 := by
  have hsuccess : (calculateWithPolicy ⟨policy, cost, source, .user, .success⟩).chargedCostUsd =
      0 := by
    rw [charged_succeeded h henabled]
    unfold chargeForKey
    rw [hmode]
    rw [capCharge_zero h]
    exact Number.toMultiple_zero h.roundingUsd_pos
  by_cases hstat : status = .success
  · rw [hstat]
    exact hsuccess
  have hle := atMost_of_notDearer h henabled source hdear hstat
  obtain ⟨n, hn⟩ := charged_multiple h cost source .user status
  have hnonneg : 0 ≤ n * policy.roundingUsd :=
    mul_nonneg (Nat.cast_nonneg n) h.roundingUsd_pos.le
  rw [hsuccess] at hle
  rw [hn] at hle ⊢
  exact hle.antisymm hnonneg

end

/-- The user's own keys are free, and failed requests pay the minimum fee. -/
def freeOwnKeys : PlatformAiPricingPolicy :=
  { Settings.defaultAiPricingPolicy with
    enabled := true
    chargeFailedRequests := .minimum_fee
    chargeUserKeyRequests := .never }

theorem parse_freeOwnKeys :
    parseAndNormalizeAiPricingPolicy (.object (Settings.pricingMembers freeOwnKeys)) =
      .ok freeOwnKeys := by
  apply Settings.parse_pricingMembers
  intro f
  cases f <;> decide +kernel

end QuizMind.Ai
