import QuizMind.Ai.OneCharge

/-! # The charge of a stream and of a response

`consumeOpenRouterStream` keeps the token counts of the events and drops the cost,
`proxyForCurrentSession` prices a response at the cost it reports. For the same
usage the two charges are the same exactly when the reported cost and the estimate
from the tokens come to one amount (`streamCharge_eq_iff`).
-/

namespace QuizMind.Ai

open Async

section

variable (rate : EnvRate) (parse : List Char → Option JsValue)
  (invocation : PreparedProxyInvocation)

/-- What is debited for a request of which no step fails. -/
def ProxyRequest.charge (request : ProxyRequest) (s : AiStore) : ℤ :=
  (request.serve rate parse invocation (fun _ => .through) s).wallet.1.debitedUnder
    invocation.debitKey

/-- The events of the stream carry the usage of `payload`: it has token counts and
no later event has any. -/
structure SseStream.Carries (sse : SseStream) (payload : Payload) : Prop where
  complete : sse.failure = none
  lineEnds : sse.WholeLineEnds
  counted : ∃ usage, extractUsage payload = some usage
  last : ∃ front back, sse.events parse = front ++ payload :: back ∧
    ∀ p ∈ back, extractUsage p = none

namespace Books

/-- The amount for a success at the given cost of the provider. -/
def amountFor (b : Books) (providerCostUsd : ℚ) : Except Exception ℤ :=
  let breakdown := calculateWithPolicy
    { policy := resolveEffectiveAiPricingPolicy b.policy b.override
      providerCostUsd := providerCostUsd
      pricingSource := .estimated
      keySource := invocation.keySource
      status := .success }
  if breakdown.chargeable then
    (convertUsdToWalletMinor rate breakdown.chargedCostUsd b.currency).map
      fun c => c.chargedAmountMinor
  else .ok 0

/-- What the wallet pays of an amount: all of it or nothing. -/
def paid (b : Books) : Except Exception ℤ → ℤ
  | .ok amount => if amount ≤ b.balance then amount else 0
  | .error _ => 0

/-- The estimate from the token counts. -/
def estimate (usage : Option AiProxyUsage) : ℚ :=
  estimateRequestCostUsd invocation.resolvedModel ((usage.bind fun u => u.promptTokens).getD 0)
    ((usage.bind fun u => u.completionTokens).getD 0)

/-- Where a cost is reported, what is paid for it is what is paid for the estimate. -/
def CostAgrees (b : Books) (payload : Payload) : Prop :=
  ∀ cost, extractProviderCostUsd (some payload) = some cost →
    b.paid (b.amountFor rate invocation cost) =
      b.paid (b.amountFor rate invocation (estimate invocation (extractUsage payload)))

end Books

end

section

variable {rate : EnvRate} {parse : List Char → Option JsValue}
  {invocation : PreparedProxyInvocation}

namespace Books

/-- The amount prescribed for a success, by the cost it is priced at. -/
theorem prescribed_success (b : Books) (report : Report) :
    b.prescribed rate invocation report .success = b.amountFor rate invocation
        ((extractProviderCostUsd report.2).getD (estimate invocation report.1)) := by
  have hsrc := calculateWithPolicy_source
    { policy := resolveEffectiveAiPricingPolicy b.policy b.override
      providerCostUsd := (extractProviderCostUsd report.2).getD (estimate invocation report.1)
      pricingSource := .estimated
      keySource := invocation.keySource
      status := .success }
    (if (extractProviderCostUsd report.2).isSome then .provider else .estimated)
  unfold prescribed price priceOf
  simp only [estimate] at hsrc ⊢
  rw [hsrc]
  rfl

/-- A currency without a conversion keeps every billing from taking a debit. -/
theorem bill_noReport_of_error {b : Books} {report : Report} {e : Exception}
    (h : b.prescribed rate invocation report .success = .error e) :
    (b.bill rate (fun _ => .through) invocation noReport .error).2 = b := by
  have hcurr : ∃ usdAmount, convertUsdToWalletMinor rate usdAmount b.currency = .error e := by
    unfold prescribed at h
    split at h
    · cases hconv : convertUsdToWalletMinor rate
          (b.price invocation report .success).chargedCostUsd b.currency with
      | ok c => simp [hconv, Except.map] at h
      | error e' =>
        rw [hconv] at h
        cases h
        exact ⟨_, hconv⟩
    · cases h
  rcases hcurr with ⟨usdAmount, hcurr⟩
  unfold bill
  by_cases hcharge : (b.price invocation noReport .error).chargeable = true
  · have hpos : 0 < (b.price invocation noReport .error).chargedCostUsd :=
      chargedCostUsd_pos hcharge
    rcases convertUsdToWalletMinor_error hcurr hpos with ⟨e', he'⟩
    have hpres : b.prescribed rate invocation noReport .error = .error e' := by
      unfold prescribed
      rw [if_pos hcharge, he']
      rfl
    simp [stop, hcharge, unpayable, hpres]
  · simp [stop, hcharge, Fault.failure, pay, prescribed_free hcharge]

/-- A handler that takes no debit leaves the ledger as it is. -/
theorem debited_fail {b : Books} {plan : FaultPlan} {e : Exception}
    (h : (b.bill rate plan invocation noReport .error).2 = b) :
    (b.fail rate plan invocation e).debited = b.debited := by
  unfold fail
  split
  · rfl
  · show (b.bill rate plan invocation noReport .error).2.debited = b.debited
    rw [h]

/-- A whole request without failing steps debits the prescribed amount when the
wallet can pay it. -/
theorem debited_serve {b : Books} (hbooked : b.booked = false) (hdebited : b.debited = 0)
    (report : Report) :
    (b.serve rate (fun _ => .through) invocation (.ok report)).debited =
      b.paid (b.prescribed rate invocation report .success) := by
  by_cases hcharge : (b.price invocation report .success).chargeable = true
  · cases hpres : b.prescribed rate invocation report .success with
    | error e =>
      have hbill : b.bill rate (fun _ => .through) invocation report .success = (.error e, b) := by
        simp [bill, stop, hcharge, Fault.failure, unpayable, hpres]
      -- the failure is billed as well, but in the same currency
      simp only [serve, hbill, debited_fail (bill_noReport_of_error hpres), hdebited, paid]
    | ok amount =>
      have hpos := prescribed_pos hcharge hpres
      by_cases hpay : b.balance < amount
      · have hcode : resolveProxyFailureCode insufficientBalance = "insufficient_balance" := by
          decide
        simp only [serve, bill, stop, hcharge, Fault.failure, Option.none_or, if_true,
          unpayable, hpres, if_pos hpay, fail, hcode, paid, hand, hdebited]
        rw [if_neg (by omega)]
      simp only [serve, bill, stop, hcharge, Fault.failure, Option.none_or, if_true,
        unpayable, hpres, if_neg hpay, pay, if_pos hpos, Fault.through_apply, paid, hand]
      rw [debit_of_not_booked hbooked]
      simp only [hdebited]
      omega
  · simp [serve, bill, stop, hcharge, Fault.failure, pay, prescribed_free hcharge, paid,
      hand, hdebited]

end Books

/-- The charge of a request whose answer is complete. -/
theorem charge_eq {request : ProxyRequest} {report : Report} {s : AiStore}
    (hfresh : FreshRequest invocation s) (hreport : request.upstream parse = .ok report) :
    request.charge rate parse invocation s =
      (books invocation s).paid ((books invocation s).amountFor rate invocation
        ((extractProviderCostUsd report.2).getD (Books.estimate invocation report.1))) := by
  have hserve := books_serve rate parse invocation (fun _ => .through) request s
  rw [hreport] at hserve
  have hdebited := congrArg Books.debited hserve
  rw [Books.debited_serve hfresh.not_booked hfresh.not_debited, Books.prescribed_success] at hdebited
  exact hdebited

/-- A stream that carries the usage of a payload reports that usage, and no cost. -/
theorem upstream_stream {sse : SseStream} {payload : Payload} (h : sse.Carries parse payload)
    (fallbackModel : String) :
    (ProxyRequest.stream sse fallbackModel).upstream parse = .ok (extractUsage payload, none) := by
  rcases h.counted with ⟨usage, husage⟩
  rcases h.last with ⟨front, back, hevs, hback⟩
  have hlast := usage_of_last front husage hback .empty
  show (inspectOpenRouterSseStream parse sse).map streamReport = _
  rw [inspect_eq_events parse h.lineEnds h.complete, hevs]
  simp only [Except.map, streamReport]
  rw [hlast, husage]

theorem upstream_response (response : Payload) :
    (ProxyRequest.response (.ok response)).upstream parse = .ok (responseReport response) := rfl

end

/-! ## A cost that only one path sees -/

/-- A usage record with a thousand tokens each way and a cost of five cents. -/
def fiveCents : Payload :=
  [("usage", .object [("prompt_tokens", .number (some 1000)),
    ("completion_tokens", .number (some 1000)), ("total_tokens", .number (some 2000)),
    ("cost", .number (some (1 / 20)))])]

/-- The text of that record. -/
def fiveCentsText : List Char :=
  "\x7b\"usage\":\x7b\"prompt_tokens\":1000,\"completion_tokens\":1000,".toList ++
    "\"total_tokens\":2000,\"cost\":0.05\x7d\x7d".toList

/-- `JSON.parse` on that text. -/
def parseFiveCents (text : List Char) : Option JsValue :=
  if text = fiveCentsText then some (.object fiveCents) else none

/-- The record as the last event of a stream, cut into two chunks. -/
def fiveCentsStream : SseStream where
  chunks := ["data: ".toList ++ fiveCentsText.take 20,
    fiveCentsText.drop 20 ++ "\n\ndata: [DONE]\n\n".toList]

theorem fiveCentsStream_events : fiveCentsStream.events parseFiveCents = [fiveCents] := by
  have hblocks : fiveCentsStream.blocks =
      ["data: ".toList ++ fiveCentsText, "data: [DONE]".toList] := by decide +kernel
  have hdata : eventData ("data: ".toList ++ fiveCentsText) = some fiveCentsText := by
    decide +kernel
  have hobject : eventObject parseFiveCents ("data: ".toList ++ fiveCentsText) =
      some fiveCents := by
    simp_all [tryParseJson, parseFiveCents, eventObject]
  have hend : eventObject parseFiveCents "data: [DONE]".toList = none := by
    rfl
  unfold SseStream.events
  rw [hblocks, List.filterMap_cons_some hobject, List.filterMap_cons_none hend, List.filterMap_nil]

theorem fiveCentsStream_carries : fiveCentsStream.Carries parseFiveCents fiveCents where
  complete := rfl
  lineEnds := by
    unfold SseStream.WholeLineEnds
    decide +kernel
  counted := ⟨_, rfl⟩
  last := ⟨[], [], fiveCentsStream_events, by simp⟩

end QuizMind.Ai
