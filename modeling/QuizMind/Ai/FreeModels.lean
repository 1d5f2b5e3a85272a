import QuizMind.Ai.ChargeBounds
import QuizMind.Ai.KeyAccess
import QuizMind.Ai.OneCharge

/-! # Free models

The wallet gate of `prepareProxyInvocation` lets a model through by its tag `free`, and
`calculateAndDebitForInvocation` prices the request by the name of the model alone: a name
that is not in the price table costs the fallback price, and the minimum fee is due at any
price. A free model is therefore settled without a debit exactly where pricing is switched
off, the wallet has no conversion, or what is due is rounded away (`freeModel_iff`).
-/

namespace QuizMind.Ai

open Async
open Settings (InRange parseAndNormalizeAiPricingPolicy)

/-! ## What the tokens cost -/

/-- The price of a model; its suffix, if it has one, is not part of the name. -/
def tokenPrice (model : String) : TokenPrice :=
  (PRICING.lookup (normModel model)).getD FALLBACK_PRICE

/-- The cost of the reported tokens in whole millionths of a dollar. -/
def tokenCost (model : String) (usage : Option AiProxyUsage) : ℚ :=
  let promptTokens := (usage.bind fun u => u.promptTokens).getD 0
  let completionTokens := (usage.bind fun u => u.completionTokens).getD 0
  max 0 (Number.nearest (promptTokens * (tokenPrice model).inputPerM +
    completionTokens * (tokenPrice model).outputPerM) / 1000000)

theorem estimateRequestCostUsd_eq (model : String) (promptTokens completionTokens : ℚ) :
    estimateRequestCostUsd model promptTokens completionTokens =
      Number.nearest (promptTokens * (tokenPrice model).inputPerM +
        completionTokens * (tokenPrice model).outputPerM) / 1000000 := by
  have hscale : (promptTokens / 1000000 * (tokenPrice model).inputPerM +
      completionTokens / 1000000 * (tokenPrice model).outputPerM) * 1000000 =
        promptTokens * (tokenPrice model).inputPerM +
          completionTokens * (tokenPrice model).outputPerM := by
    ring
  show ((mathRound ((promptTokens / 1000000 * (tokenPrice model).inputPerM +
      completionTokens / 1000000 * (tokenPrice model).outputPerM) * 1000000) : ℤ) : ℚ) / 1000000 = _
  rw [hscale]
  rfl

/-! ## What is rounded away -/

/-- What is due stays below `bound`. The platform's key is charged the cost and the fee, the
user's what the policy says, and a failed request what the policy says for failures. -/
def DueBelow (policy : PlatformAiPricingPolicy) (keySource : KeySource) (status : RequestStatus)
    (cost bound : ℚ) : Prop :=
  let fee := max (cost * policy.markupPercent / 100) (max 0 policy.minimumFeeUsd)
  if status = .success then
    match keySource, policy.chargeUserKeyRequests with
    | .user, .never => True
    | .user, .platform_fee_only => fee < bound
    | _, _ => cost + fee < bound
  else
    match policy.chargeFailedRequests with
    | .never => True
    | .provider_cost_only => cost < bound
    | .minimum_fee => max 0 policy.minimumFeeUsd < bound

/-- The cap or what is due is less than half a step of the rounding. -/
def RoundedAway (policy : PlatformAiPricingPolicy) (keySource : KeySource)
    (status : RequestStatus) (cost : ℚ) : Prop :=
  (∃ maxChargeUsd ∈ policy.maxChargeUsd, maxChargeUsd < policy.roundingUsd / 2) ∨
    DueBelow policy keySource status cost (policy.roundingUsd / 2)

variable {policy : PlatformAiPricingPolicy} {status : RequestStatus}

theorem dueCharge_lt_iff {keySource : KeySource} {cost bound : ℚ} (hcost : 0 ≤ cost) (hbound : 0 < bound) :
    dueCharge policy keySource status cost < bound ↔
      DueBelow policy keySource status cost bound := by
  by_cases hstat : status = .success
  · subst hstat
    rw [dueCharge_of_success]
    unfold DueBelow chargeForKey
    cases keySource with
    | platform => exact Iff.rfl
    | user =>
      cases policy.chargeUserKeyRequests with
      | never => exact iff_true_intro hbound
      | platform_fee_only | full_price => exact Iff.rfl
  rw [dueCharge_of_failed hstat hcost]
  unfold DueBelow failureCharge
  rw [if_neg hstat]
  cases policy.chargeFailedRequests with
  | never => exact iff_true_intro hbound
  | provider_cost_only | minimum_fee => exact Iff.rfl

theorem capCharge_lt_iff {charge bound : ℚ} : capCharge policy charge < bound ↔
      (∃ maxChargeUsd ∈ policy.maxChargeUsd, maxChargeUsd < bound) ∨ charge < bound := by
  unfold capCharge
  cases policy.maxChargeUsd with
  | none => simp
  | some maxChargeUsd => grind

/-- A request is chargeable exactly where pricing is switched on and what is due is not
rounded away. -/
theorem chargeable_iff (hstep : 0 < policy.roundingUsd)
    {cost : ℚ} {source : PricingSource} {keySource : KeySource} :
    (calculateWithPolicy ⟨policy, cost, source, keySource, status⟩).chargeable = true ↔
      policy.enabled = true ∧ ¬ RoundedAway policy keySource status (max 0 cost) := by
  have hrounded : roundToIncrement
      (capCharge policy (dueCharge policy keySource status (max 0 cost))) policy.roundingUsd ≤ 0 ↔
        RoundedAway policy keySource status (max 0 cost) := by
    rw [roundToIncrement_eq hstep, Number.toMultiple_nonpos_iff hstep, capCharge_lt_iff,
      dueCharge_lt_iff (le_max_left 0 cost) (half_pos hstep)]
    exact Iff.rfl
  rw [← hrounded]
  by_cases henabled : policy.enabled = true
  · simp only [calculateWithPolicy, henabled, not_true_eq_false, if_false, true_and]
    split
    · rename_i hzero
      exact iff_of_false (by simp) (not_not.mpr hzero)
    · rename_i hcharge
      exact iff_of_true rfl hcharge
  · grind [calculateWithPolicy]

/-- An override changes the fee, neither the switch nor the rounding. -/
theorem resolve_keeps (policy : PlatformAiPricingPolicy)
    (userOverride : Option UserBillingOverride) :
    (resolveEffectiveAiPricingPolicy policy userOverride).enabled = policy.enabled ∧
      (resolveEffectiveAiPricingPolicy policy userOverride).roundingUsd = policy.roundingUsd := by
  cases userOverride with
  | none => exact ⟨rfl, rfl⟩
  | some userOverride => grind [resolveEffectiveAiPricingPolicy]

/-! ## The gate -/

/-- A free model passes the gate in every state of the tables, and no balance is read. -/
theorem walletGate_free {model : ProviderModelCatalogEntry}
    (hfree : model.capabilityTags.contains "free" = true) (env : ApiEnv) (userId : String)
    (keySource : KeySource) (s : PrepareStore) :
    (walletGate env userId model keySource).run PrepareCall.exec [] s = (.ok (), s) := by
  have hpasses : ∀ policy balance, walletGateBlocks policy keySource true balance = false := by
    simp [walletGateBlocks]
  unfold walletGate
  split
  · rw [hfree]
    simp [Prog.run_bind, Prog.run_await, PrepareCall.exec, balanceFor, hpasses]
  · rfl

/-! ## The settlement -/

section

variable (rate : EnvRate) (invocation : PreparedProxyInvocation) (usage : Option AiProxyUsage)
  (response : Option Payload) (status : RequestStatus) (s : AiStore)

/-- The run of `calculateAndDebitForInvocation` in which no call fails. -/
def settle : Except Exception BillingResult × AiStore :=
  (calculateAndDebitForInvocation rate invocation usage response status).run
    (AiCall.exec fun _ => .through) [] s

/-- The user is neither debited nor refused for want of a balance. -/
structure LeftFree : Prop where
  entries : (settle rate invocation usage response status s).2.wallet.1.entries = s.wallet.1.entries
  balance : (settle rate invocation usage response status s).2.wallet.1.userBalance
    invocation.userId = s.wallet.1.userBalance invocation.userId
  amount : ∀ billing, (settle rate invocation usage response status s).1 = .ok billing →
    billing.amount = 0
  accepted : (settle rate invocation usage response status s).1 ≠ .error insufficientBalance

/-- Pricing is switched off, the currency of the wallet has no conversion, or what is due under
the policy with the override of the user is rounded away. -/
def NothingToPay (model : String) : Prop :=
  s.policy.enabled = true → s.wallet.1.userCurrency invocation.userId = "RUB" ∨
      s.wallet.1.userCurrency invocation.userId = "USD" →
    RoundedAway (resolveEffectiveAiPricingPolicy s.policy (s.overrideFor invocation.userId))
      invocation.keySource status (tokenCost model usage)

end

section

variable {rate : EnvRate} {invocation : PreparedProxyInvocation} {usage : Option AiProxyUsage}
  {response : Option Payload} {status : RequestStatus} {s : AiStore}

/-- Without a cost in the response the price depends on the tokens alone. -/
theorem price_chargeable_iff (hstep : 0 < s.policy.roundingUsd)
    (hcost : extractProviderCostUsd response = none) :
    ((books invocation s).price invocation (usage, response) status).chargeable = true ↔
      s.policy.enabled = true ∧ ¬ RoundedAway
        (resolveEffectiveAiPricingPolicy s.policy (s.overrideFor invocation.userId))
        invocation.keySource status (tokenCost invocation.resolvedModel usage) := by
  have hkeeps := resolve_keeps s.policy (s.overrideFor invocation.userId)
  have hresolved : 0 < (resolveEffectiveAiPricingPolicy s.policy
      (s.overrideFor invocation.userId)).roundingUsd := by
    rw [hkeeps.2]
    exact hstep
  let estimated := estimateRequestCostUsd invocation.resolvedModel
    ((usage.bind fun u => u.promptTokens).getD 0)
    ((usage.bind fun u => u.completionTokens).getD 0)
  have hiff : (calculateWithPolicy ⟨_, estimated, .estimated, invocation.keySource,
      status⟩).chargeable = true ↔ _ := chargeable_iff hresolved
  simp only [estimated] at hiff
  rw [hkeeps.1, estimateRequestCostUsd_eq] at hiff
  refine Iff.trans ?_ hiff
  unfold Books.price priceOf
  rw [hcost, estimateRequestCostUsd_eq]
  rfl

/-- Reading or creating a wallet writes no entry. -/
theorem entries_wallet (s : AiStore) (status : RequestStatus) (userId : String) :
    ((AiCall.findOrCreateWalletForUser status userId).effect s).2.wallet.1.entries =
      s.wallet.1.entries := by
  rcases findOrCreateWalletForUser_alone (s := s.wallet.1) (n := s.wallet.2) userId with
    ⟨w, n', -, hrun⟩
  have hstore : ((AiCall.findOrCreateWalletForUser status userId).effect s).2.wallet =
      (s.wallet.1.withWallet userId (s.wallet.2 + 1), n') := congrArg Prod.snd hrun
  rw [hstore]
  exact WalletStore.entries_withWallet s.wallet.1 userId (s.wallet.2 + 1)

/-- The settlement up to the question whether the request is chargeable. -/
theorem settle_eq (s : AiStore) : settle rate invocation usage response status s =
      (if ((books invocation s).price invocation (usage, response) status).chargeable then
        settleBreakdown rate invocation status
          ((books invocation s).price invocation (usage, response) status)
      else
        (return freeBilling ((books invocation s).price invocation (usage, response) status) :
          AiProg BillingResult)).run (AiCall.exec fun _ => .through) [] s := by
  rfl

theorem leftFree_of_unchargeable
    (h : ¬ ((books invocation s).price invocation (usage, response) status).chargeable = true) :
    LeftFree rate invocation usage response status s := by
  have hrun : settle rate invocation usage response status s =
      (.ok (freeBilling ((books invocation s).price invocation (usage, response) status)), s) := by
    rw [settle_eq, if_neg h]
    rfl
  constructor
  · rw [hrun]
  · rw [hrun]
  · intro billing hbilling
    rw [hrun] at hbilling
    obtain rfl := Except.ok.inj hbilling
    rfl
  · rw [hrun]
    nofun

section

variable
    (hcharge : ((books invocation s).price invocation (usage, response) status).chargeable = true)
include hcharge

/-- A wallet in another currency ends the settlement before the balance is looked at. -/
theorem leftFree_of_unconvertible (hrub : s.wallet.1.userCurrency invocation.userId ≠ "RUB")
    (husd : s.wallet.1.userCurrency invocation.userId ≠ "USD") :
    LeftFree rate invocation usage response status s := by
  rcases books_wallet invocation s status with ⟨w, s', heff, hbooks, hw⟩
  have hcurr : w.currency = s.wallet.1.userCurrency invocation.userId := by
    rw [currency_of_wallet hw, hbooks]
    rfl
  have hpos : 0 < ((books invocation s).price invocation (usage, response) status).chargedCostUsd :=
    chargedCostUsd_pos hcharge
  have hconv : convertUsdToWalletMinor rate
      ((books invocation s).price invocation (usage, response) status).chargedCostUsd w.currency =
        .error (.badRequest s!"Unsupported wallet currency for AI usage billing: {w.currency}") := by
    grind [convertUsdToWalletMinor]
  have hrun : settle rate invocation usage response status s =
      (.error (.badRequest s!"Unsupported wallet currency for AI usage billing: {w.currency}"),
        s') := by
    rw [settle_eq, if_pos hcharge]
    unfold settleBreakdown
    simp only [Prog.run_bind, Prog.run_await, AiCall.exec, AiCall.step, Fault.through_apply,
      heff, Prog.andThen_ok, hconv]
    rfl
  have hentries := entries_wallet s status invocation.userId
  rw [heff] at hentries
  have hbal := congrArg Books.balance hbooks
  constructor
  · rw [hrun]
    exact hentries
  · rw [hrun]
    exact hbal
  · grind
  · rw [hrun]
    intro h
    cases h

/-- Where the charge has a conversion the user pays, or is refused. -/
theorem not_leftFree_of_charged (hcurr : s.wallet.1.userCurrency invocation.userId = "RUB" ∨
      s.wallet.1.userCurrency invocation.userId = "USD") :
    ¬ LeftFree rate invocation usage response status s := by
  intro hfree
  have hprice :
      0 < ((books invocation s).price invocation (usage, response) status).chargedCostUsd :=
    chargedCostUsd_pos hcharge
  have hconverts : ∃ amount, (books invocation s).prescribed rate invocation (usage, response)
      status = .ok amount := by
    unfold Books.prescribed convertUsdToWalletMinor
    rw [if_pos hcharge, if_neg (not_le.mpr hprice)]
    change (books invocation s).currency = "RUB" ∨ (books invocation s).currency = "USD"
      at hcurr
    split
    · exact ⟨_, rfl⟩
    rename_i hrub
    rw [if_pos (hcurr.resolve_left hrub)]
    exact ⟨_, rfl⟩
  obtain ⟨amount, hamount⟩ := hconverts
  have hpos := Books.prescribed_pos hcharge hamount
  have hseen : seen invocation BillingResult.amount
      (settle rate invocation usage response status s) =
        (books invocation s).bill rate (fun _ => .through) invocation (usage, response) status :=
    run_calculateAndDebit rate _ invocation usage response status s
  have hans := congrArg Prod.fst hseen
  unfold Books.bill Books.stop at hans
  simp only [seen, hcharge, hamount, Books.unpayable]
    at hans
  by_cases hbal : (books invocation s).balance < amount
  · -- the wallet cannot pay
    rw [if_pos hbal] at hans
    cases hout : (settle rate invocation usage response status s).1 with
    | ok billing =>
      rw [hout] at hans
      cases hans
    | error e =>
      rw [hout] at hans
      obtain rfl := Except.error.inj hans
      exact hfree.accepted hout
  -- the amount is debited, or has been under the same key
  rw [if_neg hbal] at hans
  simp only [Books.pay, if_pos hpos] at hans
  cases hout : (settle rate invocation usage response status s).1 with
  | ok billing =>
    rw [hout] at hans
    have hzero := hfree.amount billing hout
    have heq : billing.amount = amount := Except.ok.inj hans
    omega
  | error e =>
    rw [hout] at hans
    cases hans

end

end

/-! ## The main theorem -/

def switchedOn : PlatformAiPricingPolicy :=
  { Settings.defaultAiPricingPolicy with enabled := true }

theorem parse_switchedOn :
    parseAndNormalizeAiPricingPolicy (.object (Settings.pricingMembers switchedOn)) =
      .ok switchedOn := by
  apply Settings.parse_pricingMembers
  intro f
  cases f <;> decide +kernel

def freeModel : ProviderModelCatalogEntry := ⟨.openrouter, "vendor/small:free", ["text", "free"]⟩

def freeModelStore : PrepareStore where
  policy := some { ownKeyPolicy with allowBringYourOwnKey := false }
  credentials := []
  openRouterModels := [freeModel]
  routerAiModels := []
  proxy :=
    { wallet := (.empty, 0)
      overrides := []
      policy := switchedOn
      requests := []
      handed := [] }

def freeModelRequest : Payload :=
  [("model", .string "vendor/small:free".toList),
    ("messages", .array [.object [("role", .string "user".toList), ("content", .string ['q'])]])]

def freeModelInvocation : KeyedProxyInvocation :=
  { ownKeyInvocation with
    request := { ownKeyInvocation.request with model := some "vendor/small:free" }
    resolvedModel := "vendor/small:free"
    keySource := .platform
    apiKey := "platform-key" }

theorem run_freeModel : (prepareProxyInvocation ownKeyEnv (fun _ _ => .ok "") none ownKeySession "r"
      (some freeModelRequest)).run PrepareCall.exec [] freeModelStore =
        (.ok freeModelInvocation, freeModelStore) := by rfl

end QuizMind.Ai
