import QuizMind.Async.Fault
import QuizMind.Wallet.Repository
import QuizMind.Ai.Usage
import Mathlib.Data.List.Infix

/-! # The AI proxy after the upstream call

`proxyForCurrentSession` and `consumeOpenRouterStream` from the answer of the
provider on: the request is priced and debited, recorded, and handed to the
history. The billing of a request runs as success first and, when anything fails,
once more as error, so a step is named by the status it bills for.

Durations, error messages, log lines and the contents of the messages are left
out. `persistContent` is not awaited: what it is given is what matters here.
-/

namespace QuizMind.Ai

open Async

/-- A `PreparedProxyInvocation`. -/
structure PreparedProxyInvocation where
  userId : String
  requestId : String
  provider : String
  resolvedModel : String
  keySource : KeySource
  messageCount : ℕ
  quotaConsumed : ℕ
  quotaLimit : Option ℕ

structure BillingResult where
  providerCostUsd : ℚ
  platformFeeUsd : ℚ
  chargedCostUsd : ℚ
  chargedCurrency : Option String
  chargedAmountMinor : Option ℤ
  pricingSource : PricingSource
  pricingPolicySnapshot : PlatformAiPricingPolicy
  conversion : Option Conversion
  walletLedgerEntryId : Option ℕ
  deriving DecidableEq

/-- A row of `AiRequest`, with the request id of its metadata. -/
structure AiRequestRow where
  requestId : String
  userId : String
  provider : String
  model : String
  promptTokens : ℤ
  completionTokens : ℤ
  totalTokens : ℤ
  keySource : KeySource
  status : RequestStatus
  errorCode : Option String

/-- What `persistContent` is given. -/
structure PersistContentInput where
  requestId : String
  userId : String
  provider : String
  model : String
  keySource : KeySource
  status : RequestStatus
  errorCode : Option String
  promptTokens : Option ℚ
  completionTokens : Option ℚ
  billing : Option BillingResult

structure AiProxyQuotaSnapshot where
  consumed : ℕ
  limit : Option ℕ
  remaining : Option ℕ
  decremented : Bool

/-! ## The calls -/

/-- The steps after the upstream call; the billing is named by its status. -/
inductive AiStep where
  | override (billing : RequestStatus)
  | policy (billing : RequestStatus)
  | wallet (billing : RequestStatus)
  | debit (billing : RequestStatus)
  | recordEvent
  | recordFailure
  deriving DecidableEq

inductive AiCall where
  | getOverrideForUser (billing : RequestStatus) (userId : String)
  | getEffectivePolicy (billing : RequestStatus)
  | findOrCreateWalletForUser (billing : RequestStatus) (userId : String)
  | debitUsage (billing : RequestStatus) (input : DebitInput)
  | recordProxyEvent (row : AiRequestRow)
  | recordProxyFailure (row : AiRequestRow)
  | persistContent (input : PersistContentInput)

abbrev AiCall.Res : AiCall → Type
  | .getOverrideForUser _ _ => Option UserBillingOverride
  | .getEffectivePolicy _ => PlatformAiPricingPolicy
  | .findOrCreateWalletForUser _ _ => Wallet
  | .debitUsage _ _ => DebitResult
  | .recordProxyEvent _ => Unit
  | .recordProxyFailure _ => Unit
  | .persistContent _ => Unit

/-- The tables, and what has been handed to the history. -/
structure AiStore where
  wallet : WalletStore × ℕ
  overrides : List UserBillingOverride
  policy : PlatformAiPricingPolicy
  requests : List AiRequestRow
  handed : List PersistContentInput

/-- The step of a call; handing over to the history is none. -/
def AiCall.step : AiCall → Option AiStep
  | .getOverrideForUser billing _ => some (.override billing)
  | .getEffectivePolicy billing => some (.policy billing)
  | .findOrCreateWalletForUser billing _ => some (.wallet billing)
  | .debitUsage billing _ => some (.debit billing)
  | .recordProxyEvent _ => some .recordEvent
  | .recordProxyFailure _ => some .recordFailure
  | .persistContent _ => none

def AiStore.overrideFor (s : AiStore) (userId : String) : Option UserBillingOverride :=
  s.overrides.find? fun o => o.userId = userId

/-- What a call does when it goes through; a debit is one transaction. -/
def AiCall.effect : (op : AiCall) → AiStore → Except Exception op.Res × AiStore
  | .getOverrideForUser _ userId, s => (.ok (s.overrideFor userId), s)
  | .getEffectivePolicy _, s => (.ok s.policy, s)
  | .findOrCreateWalletForUser _ userId, s =>
    let out := (QuizMind.findOrCreateWalletForUser userId).run walletDb.execAlone [] s.wallet
    (out.1, { s with wallet := out.2 })
  | .debitUsage _ input, s =>
    let out := (QuizMind.debitUsage input).atomically walletDb.execAlone [] s.wallet
    (out.1, { s with wallet := out.2 })
  | .recordProxyEvent row, s => (.ok (), { s with requests := s.requests ++ [row] })
  | .recordProxyFailure row, s => (.ok (), { s with requests := s.requests ++ [row] })
  | .persistContent input, s => (.ok (), { s with handed := s.handed ++ [input] })

/-- How each step goes in a run. -/
abbrev FaultPlan := AiStep → Fault Exception

def AiCall.exec (plan : FaultPlan) (op : AiCall) (s : AiStore) :
    Except Exception op.Res × AiStore :=
  match op.step with
  | some step => (plan step).apply op.effect s
  | none => op.effect s

abbrev AiProg := Prog AiCall AiCall.Res Exception

abbrev call (op : AiCall) : AiProg op.Res := Prog.await op

/-! ## Billing an invocation -/

/-- The price of the invocation with the given usage, ended with `status`. -/
def priceOf (invocation : PreparedProxyInvocation) (usage : Option AiProxyUsage)
    (upstreamResponse : Option Payload) (status : RequestStatus)
    (userOverride : Option UserBillingOverride) (basePolicy : PlatformAiPricingPolicy) :
    PricingBreakdown :=
  let providerCostFromUsage := extractProviderCostUsd upstreamResponse
  let estimatedProviderCost := estimateRequestCostUsd invocation.resolvedModel
    ((usage.bind fun u => u.promptTokens).getD 0)
    ((usage.bind fun u => u.completionTokens).getD 0)
  calculateWithPolicy
    { policy := resolveEffectiveAiPricingPolicy basePolicy userOverride
      providerCostUsd := providerCostFromUsage.getD estimatedProviderCost
      pricingSource := if providerCostFromUsage.isSome then .provider else .estimated
      keySource := invocation.keySource
      status := status }

/-- The idempotency key of the debit. -/
def PreparedProxyInvocation.debitKey (invocation : PreparedProxyInvocation) : String :=
  s!"ai-usage:{invocation.requestId}"

def debitInput (invocation : PreparedProxyInvocation) (wallet : Wallet) (conversion : Conversion) :
    DebitInput where
  userId := invocation.userId
  amountKopecks := conversion.chargedAmountMinor
  currency := wallet.currency
  description := s!"AI usage debit for request {invocation.requestId}"
  idempotencyKey := invocation.debitKey

/-- The result for a request that costs nothing. -/
def freeBilling (breakdown : PricingBreakdown) : BillingResult where
  providerCostUsd := breakdown.providerCostUsd
  platformFeeUsd := breakdown.platformFeeUsd
  chargedCostUsd := 0
  chargedCurrency := none
  chargedAmountMinor := none
  pricingSource := breakdown.pricingSource
  pricingPolicySnapshot := breakdown.policySnapshot
  conversion := none
  walletLedgerEntryId := none

def chargedBilling (breakdown : PricingBreakdown) (wallet : Wallet) (conversion : Conversion)
    (walletLedgerEntryId : Option ℕ) : BillingResult where
  providerCostUsd := breakdown.providerCostUsd
  platformFeeUsd := breakdown.platformFeeUsd
  chargedCostUsd := breakdown.chargedCostUsd
  chargedCurrency := some wallet.currency
  chargedAmountMinor := some conversion.chargedAmountMinor
  pricingSource := breakdown.pricingSource
  pricingPolicySnapshot := breakdown.policySnapshot
  conversion := some conversion
  walletLedgerEntryId := walletLedgerEntryId

def insufficientBalance : Exception :=
  .forbidden "Insufficient balance to settle AI usage charge."

section

variable (rate : EnvRate)

/-- The part of `calculateAndDebitForInvocation` after the price is known. -/
def settleBreakdown (invocation : PreparedProxyInvocation) (status : RequestStatus)
    (breakdown : PricingBreakdown) : AiProg BillingResult := do
  let wallet ← call (.findOrCreateWalletForUser status invocation.userId)
  let conversion ← Prog.ofExcept
    (convertUsdToWalletMinor rate breakdown.chargedCostUsd wallet.currency)
  if 0 < conversion.chargedAmountMinor then
    if wallet.balanceKopecks < conversion.chargedAmountMinor then
      throw insufficientBalance
    else do
      let debit ← call (.debitUsage status (debitInput invocation wallet conversion))
      return chargedBilling breakdown wallet conversion (some debit.ledgerEntryId)
  else
    return chargedBilling breakdown wallet conversion none

def calculateAndDebitForInvocation (invocation : PreparedProxyInvocation)
    (usage : Option AiProxyUsage) (upstreamResponse : Option Payload) (status : RequestStatus) :
    AiProg BillingResult := do
  let userOverride ← call (.getOverrideForUser status invocation.userId)
  let basePolicy ← call (.getEffectivePolicy status)
  let breakdown := priceOf invocation usage upstreamResponse status userOverride basePolicy
  if breakdown.chargeable then
    settleBreakdown rate invocation status breakdown
  else
    return freeBilling breakdown

/-! ## Recording the outcome -/

/-- `normalizeTokenCount`. -/
def normalizeTokenCount (value : Option ℚ) : ℤ :=
  match value with
  | none => 0
  | some q => if q < 0 then 0 else ⌊q⌋

/-- The row of a completed request. -/
def completedRow (invocation : PreparedProxyInvocation) (usage : Option AiProxyUsage) :
    AiRequestRow :=
  let promptTokens := normalizeTokenCount (usage.bind fun u => u.promptTokens)
  let completionTokens := normalizeTokenCount (usage.bind fun u => u.completionTokens)
  let totalTokens := normalizeTokenCount (usage.bind fun u => u.totalTokens)
  { requestId := invocation.requestId
    userId := invocation.userId
    provider := invocation.provider
    model := invocation.resolvedModel
    promptTokens := promptTokens
    completionTokens := completionTokens
    totalTokens := if 0 < totalTokens then totalTokens else promptTokens + completionTokens
    keySource := invocation.keySource
    status := .success
    errorCode := none }

/-- The row of a failed request: no tokens are recorded. -/
def failedRow (invocation : PreparedProxyInvocation) (status : RequestStatus)
    (errorCode : String) : AiRequestRow where
  requestId := invocation.requestId
  userId := invocation.userId
  provider := invocation.provider
  model := invocation.resolvedModel
  promptTokens := 0
  completionTokens := 0
  totalTokens := 0
  keySource := invocation.keySource
  status := status
  errorCode := some errorCode

/-- `recordProxyEvent` answers null: the counter is taken from the invocation. -/
def buildQuotaSnapshot (invocation : PreparedProxyInvocation) : AiProxyQuotaSnapshot :=
  let consumed := if invocation.keySource = .platform then invocation.quotaConsumed + 1
    else invocation.quotaConsumed
  { consumed := consumed
    limit := invocation.quotaLimit
    remaining := invocation.quotaLimit.map fun limit => limit - consumed
    decremented := invocation.keySource = .platform }

def recordProxyCompletion (invocation : PreparedProxyInvocation) (usage : Option AiProxyUsage) :
    AiProg AiProxyQuotaSnapshot := do
  call (.recordProxyEvent (completedRow invocation usage))
  return buildQuotaSnapshot invocation

def persistHistoryContentSafely (invocation : PreparedProxyInvocation)
    (usage : Option AiProxyUsage) (status : RequestStatus) (errorCode : Option String)
    (billing : Option BillingResult) : AiProg Unit :=
  call (.persistContent
    { requestId := invocation.requestId
      userId := invocation.userId
      provider := invocation.provider
      model := invocation.resolvedModel
      keySource := invocation.keySource
      status := status
      errorCode := errorCode
      promptTokens := usage.bind fun u => u.promptTokens
      completionTokens := usage.bind fun u => u.completionTokens
      billing := billing })

/-- `message.toLowerCase().includes('insufficient balance')`. -/
def saysInsufficientBalance (message : String) : Bool :=
  "insufficient balance".toList <:+: message.toList.map Char.toLower

def resolveProxyFailureCode : Exception → String
  | .tooManyRequests _ => "provider_rate_limited"
  | .badGateway _ => "upstream_bad_gateway"
  | .serviceUnavailable _ => "upstream_unavailable"
  | .forbidden message =>
    if saysInsufficientBalance message then "insufficient_balance" else "forbidden"
  | .notFound _ => "not_found"
  | .badRequest _ => "bad_request"
  | .error _ | .unauthorized _ | .conflict _ | .prisma _ | .prismaValidation => "proxy_error"

/-- The failure is billed as well, unless the wallet could not pay. -/
def billFailure (invocation : PreparedProxyInvocation) (status : RequestStatus)
    (errorCode : String) : AiProg (Option BillingResult) :=
  if errorCode = "insufficient_balance" then
    return none
  else
    tryCatch (do return some (← calculateAndDebitForInvocation rate invocation none none status))
      (fun _ => return none)

def recordProxyFailureSafely (invocation : PreparedProxyInvocation) (status : RequestStatus)
    (errorCode : String) : AiProg Unit := do
  let billing ← billFailure rate invocation status errorCode
  tryCatch (call (.recordProxyFailure (failedRow invocation status errorCode))) (fun _ => return ())
  persistHistoryContentSafely invocation none status (some errorCode) billing

/-! ## The two entry points -/

/-- The catch handler that both share. -/
def recordAndRethrow {α : Type} (invocation : PreparedProxyInvocation) (error : Exception) :
    AiProg α := do
  recordProxyFailureSafely rate invocation .error (resolveProxyFailureCode error)
  throw error

structure AiProxyResult where
  requestId : String
  provider : String
  model : String
  keySource : KeySource
  usage : Option AiProxyUsage
  quota : AiProxyQuotaSnapshot

/-- The part of `proxyForCurrentSession` from the upstream call on: the call
answers with a response or throws. -/
def proxyForCurrentSession (invocation : PreparedProxyInvocation)
    (upstream : Except Exception Payload) : AiProg AiProxyResult :=
  tryCatch (do
      let upstreamResponse ← Prog.ofExcept upstream
      let usage := extractUsage upstreamResponse
      let billing ← calculateAndDebitForInvocation rate invocation usage (some upstreamResponse)
        .success
      let quotaSnapshot ← recordProxyCompletion invocation usage
      persistHistoryContentSafely invocation usage .success none (some billing)
      return { requestId := invocation.requestId
               provider := invocation.provider
               model := ((upstreamResponse.lookup "model").bind fun
                 | .string text => some (String.ofList text)
                 | _ => none).getD invocation.resolvedModel
               keySource := invocation.keySource
               usage := usage
               quota := quotaSnapshot })
    (recordAndRethrow rate invocation)

structure AiProxyStreamCompletion where
  requestId : String
  provider : String
  model : String
  keySource : KeySource
  usage : Option AiProxyUsage
  responseId : Option String
  quota : AiProxyQuotaSnapshot

/-- The stream is inspected to its end; what it reported as cost is not kept. -/
def consumeOpenRouterStream (parse : List Char → Option JsValue)
    (invocation : PreparedProxyInvocation) (stream : SseStream) (fallbackModel : String) :
    AiProg AiProxyStreamCompletion :=
  tryCatch (do
      let inspection ← Prog.ofExcept (inspectOpenRouterSseStream parse stream)
      let billing ← calculateAndDebitForInvocation rate invocation inspection.usage none .success
      let quota ← recordProxyCompletion invocation inspection.usage
      persistHistoryContentSafely invocation inspection.usage .success none (some billing)
      return { requestId := invocation.requestId
               provider := invocation.provider
               model := (inspection.model.map String.ofList).getD fallbackModel
               keySource := invocation.keySource
               usage := inspection.usage
               responseId := inspection.responseId.map String.ofList
               quota := quota })
    (recordAndRethrow rate invocation)

end

end QuizMind.Ai
