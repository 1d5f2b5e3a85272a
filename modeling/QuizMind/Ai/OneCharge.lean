import QuizMind.Ai.Books

/-! # One request, one charge

The success debit is made before the completion is recorded, and the catch
handler prices the request again as failed, under the same idempotency key. What
is debited, what the history is told and what the pricing prescribes for the
recorded status agree exactly when nothing fails after the debit has taken effect,
or the failure costs the same and is billed through (`oneCharge_iff`).
-/

namespace QuizMind.Ai

open Async
open Except (toOption)

/-- A request at one of the two entry points, with what the provider answers. -/
inductive ProxyRequest where
  | response (upstream : Except Exception Payload)
  | stream (sse : SseStream) (fallbackModel : String)

section

variable (rate : EnvRate) (parse : List Char → Option JsValue)
  (invocation : PreparedProxyInvocation) (plan : FaultPlan)

/-- What the provider reports to the billing. -/
def ProxyRequest.upstream : ProxyRequest → Except Exception Report
  | .response upstream => upstream.map responseReport
  | .stream sse _ => (inspectOpenRouterSseStream parse sse).map streamReport

/-- The tables after the request. -/
def ProxyRequest.serve (request : ProxyRequest) (s : AiStore) : AiStore :=
  match request with
  | .response upstream =>
    ((proxyForCurrentSession rate invocation upstream).run (AiCall.exec plan) [] s).2
  | .stream sse fallbackModel =>
    ((consumeOpenRouterStream rate parse invocation sse fallbackModel).run
      (AiCall.exec plan) [] s).2

/-- The identifier of the request is new. -/
structure FreshRequest (s : AiStore) : Prop where
  entry : s.wallet.1.entryByKey invocation.debitKey = none
  handed : ∀ h ∈ s.handed, h.requestId ≠ invocation.requestId

/-- The charge prescribed for a request that is recorded with `status`; a failed
request is recorded without usage. -/
def Books.prescribedFor (b : Books) (upstream : Except Exception Report) :
    RequestStatus → Except Exception ℤ
  | .success => upstream.bind fun report => b.prescribed rate invocation report .success
  | status => b.prescribed rate invocation noReport status

/-- From `b` to `b'` the request was handed over once, and its amount is what was
debited, what is prescribed for its status, and what the balance went down by. -/
def Books.OneCharge (upstream : Except Exception Report) (b b' : Books) : Prop :=
  ∃ status amount, b'.handed = [(status, amount)] ∧ b'.debited = amount ∧
    b.prescribedFor rate invocation upstream status = .ok amount ∧
    b'.balance = b.balance - amount

/-! ## The condition -/

namespace Books

/-- The failure that ends the billing, if any. -/
def billFailure (b : Books) (report : Report) (status : RequestStatus) : Option Exception :=
  (b.stop rate plan invocation report status).or
    (if (b.price invocation report status).chargeable then (plan (.debit status)).failure else none)

/-- The failure that ends the request, if any. -/
def requestFailure (b : Books) : Except Exception Report → Option Exception
  | .error e => some e
  | .ok report => (b.billFailure rate invocation plan report .success).or
      (plan .recordEvent).failure

/-- The debit that takes effect when the request is billed as ended with `status`. -/
def taken (b : Books) (report : Report) (status : RequestStatus) : Option ℤ :=
  if b.stop rate plan invocation report status = none ∧ (plan (.debit status)).takesEffect then
    (b.prescribed rate invocation report status).toOption.filter fun amount => 0 < amount
  else none

/-- The debit for a success that has taken effect. -/
def successDebit (b : Books) : Except Exception Report → Option ℤ
  | .error _ => none
  | .ok report => b.taken rate invocation plan report .success

/-- The failure `e` is billed, and the billing goes through. -/
def FailureBilled (b : Books) (e : Exception) : Prop :=
  resolveProxyFailureCode e ≠ "insufficient_balance" ∧
    b.billFailure rate invocation plan noReport .error = none

/-- Nothing fails; or the debit for a success was taken, a failure costs as much
and its billing goes through; or no debit was taken, and a failure is free or its
billing goes through. -/
def ChargesAgree (b : Books) (upstream : Except Exception Report) : Prop :=
  ∀ e, b.requestFailure rate invocation plan upstream = some e →
    (∀ amount, b.successDebit rate invocation plan upstream = some amount →
      b.prescribed rate invocation noReport .error = .ok amount ∧
        (b.debit amount).FailureBilled rate invocation plan e) ∧
    (b.successDebit rate invocation plan upstream = none →
      b.prescribed rate invocation noReport .error = .ok 0 ∨ b.FailureBilled rate invocation plan e)

end Books

end

section

variable {rate : EnvRate} {parse : List Char → Option JsValue}
  {invocation : PreparedProxyInvocation} {plan : FaultPlan}

variable (rate parse invocation plan) in
theorem books_serve (request : ProxyRequest) (s : AiStore) :
    books invocation (request.serve rate parse invocation plan s) =
      (books invocation s).serve rate plan invocation (request.upstream parse) := by
  cases request with
  | response upstream => exact run_proxy upstream s
  | stream sse fallbackModel => exact run_stream parse sse fallbackModel s

namespace Books

/-! ## Billing, summed up -/

@[simp] theorem prescribed_debit (b : Books) (amount : ℤ) (report : Report)
    (status : RequestStatus) :
    (b.debit amount).prescribed rate invocation report status =
      b.prescribed rate invocation report status := by
  unfold debit
  split <;> rfl

variable {status : RequestStatus} {report : Report} {b : Books}

theorem prescribed_free (h : ¬ (b.price invocation report status).chargeable = true) :
    b.prescribed rate invocation report status = .ok 0 := if_neg h

/-- The books after a debit that takes effect, or without one. -/
def afterDebit (b : Books) : Option ℤ → Books
  | some amount => b.debit amount
  | none => b

/-- Past `stop`, the prescribed amount is known. -/
theorem prescribed_of_stop (hstop : b.stop rate plan invocation report status = none) :
    ∃ amount, b.prescribed rate invocation report status = .ok amount ∧
      ((b.price invocation report status).chargeable = true ↔ 0 < amount) := by
  by_cases hcharge : (b.price invocation report status).chargeable = true
  · unfold stop at hstop
    rw [if_pos hcharge] at hstop
    cases hpres : b.prescribed rate invocation report status with
    | error e => simp [hpres, unpayable] at hstop
    | ok amount =>
      exact ⟨amount, rfl, iff_of_true hcharge (prescribed_pos hcharge hpres)⟩
  · exact ⟨0, prescribed_free hcharge, iff_of_false hcharge (lt_irrefl 0)⟩

variable (rate invocation plan) in
/-- Billing ends with its failure, or with the prescribed amount. -/
theorem bill_eq (b : Books) (report : Report) (status : RequestStatus) :
    (b.bill rate plan invocation report status).2 =
        b.afterDebit (b.taken rate invocation plan report status) ∧
      (∀ e, b.billFailure rate invocation plan report status = some e →
        (b.bill rate plan invocation report status).1 = .error e) ∧
      (b.billFailure rate invocation plan report status = none →
        (b.bill rate plan invocation report status).1 =
          b.prescribed rate invocation report status) := by
  unfold bill taken billFailure
  cases hstop : b.stop rate plan invocation report status with
  | some e => simp [afterDebit]
  | none =>
    rcases prescribed_of_stop hstop with ⟨amount, hpres, hcharge⟩
    rw [hpres]
    by_cases hpos : 0 < amount
    · have hchargeable := hcharge.mpr hpos
      cases hfault : plan (.debit status) <;>
        simp [pay, hpos, hchargeable, hfault, afterDebit, Fault.takesEffect, Fault.failure,
          toOption, Option.filter_some]
    · have hfree : (b.price invocation report status).chargeable = false := by grind
      simp [pay, hpos, hfree, afterDebit, toOption, Option.filter_some]

variable {e : Exception} {upstream : Except Exception Report}

/-- A request that fails leaves what its success debit has done to the handler. -/
theorem serve_of_failure (h : b.requestFailure rate invocation plan upstream = some e) :
    b.serve rate plan invocation upstream =
      (b.afterDebit (b.successDebit rate invocation plan upstream)).fail rate plan invocation e := by
  cases upstream with
  | error e' =>
    cases h
    rfl
  | ok report =>
    rcases bill_eq rate invocation plan b report .success
      with ⟨hbooks, hfail, hdone⟩
    simp only [requestFailure] at h
    simp only [serve, successDebit, hbooks]
    cases hbill : b.billFailure rate invocation plan report .success with
    | some e' => grind
    | none =>
      rw [hbill, Option.none_or] at h
      have hout := hdone hbill
      cases hpres : b.prescribed rate invocation report .success with
      | ok amount => simp [hpres, hout, h]
      | error e' =>
        -- past the billing the amount is known
        unfold billFailure at hbill
        rcases prescribed_of_stop (Option.or_eq_none_iff.mp hbill).1 with
          ⟨amount, hamount, -⟩
        rw [hamount] at hpres
        cases hpres

/-- A billing that goes through takes what is prescribed. -/
theorem taken_of_billed (h : b.billFailure rate invocation plan report status = none) :
    ∃ amount, b.prescribed rate invocation report status = .ok amount ∧ 0 ≤ amount ∧
      b.taken rate invocation plan report status = if 0 < amount then some amount else none := by
  rcases Option.or_eq_none_iff.mp h with ⟨hstop, hdebit⟩
  rcases prescribed_of_stop hstop with ⟨amount, hpres, hcharge⟩
  refine ⟨amount, hpres, ?_, ?_⟩
  · by_cases hpos : 0 < amount
    · omega
    · grind [prescribed_free]
  unfold taken
  by_cases hpos : 0 < amount
  · rw [if_pos (hcharge.mpr hpos)] at hdebit
    have htakes : (plan (.debit status)).takesEffect = true := by
      cases hfault : plan (.debit status) with
      | through => rfl
      | refused e | lost e => simp [hfault, Fault.failure] at hdebit
    simp [hstop, htakes, hpres, toOption, hpos]
  · simp [hpres, toOption, Option.filter_some, hpos]

/-- A failure that is billed through. -/
theorem fail_of_billed (h : b.FailureBilled rate invocation plan e) :
    ∃ amount, b.prescribed rate invocation noReport .error = .ok amount ∧ 0 ≤ amount ∧
      b.fail rate plan invocation e =
        (b.afterDebit (if 0 < amount then some amount else none)).hand .error amount := by
  rcases h with ⟨hcode, hbilled⟩
  rcases taken_of_billed hbilled with ⟨amount, hpres, hnonneg, htaken⟩
  rcases bill_eq rate invocation plan b noReport .error
    with ⟨hbooks, -, hdone⟩
  refine ⟨amount, hpres, hnonneg, ?_⟩
  unfold fail
  rw [if_neg hcode]
  simp only [hbooks, hdone hbilled, htaken, hpres, toOption, Option.getD_some]

/-- A failure that is not billed through is handed over with the amount 0. -/
theorem fail_of_not_billed (h : ¬ b.FailureBilled rate invocation plan e) :
    ∃ debited, b.fail rate plan invocation e = (b.afterDebit debited).hand .error 0 ∧
      (b.prescribed rate invocation noReport .error = .ok 0 → debited = none) := by
  by_cases hcode : resolveProxyFailureCode e = "insufficient_balance"
  · refine ⟨none, ?_, fun _ => rfl⟩
    unfold fail
    rw [if_pos hcode]
    rfl
  rcases bill_eq rate invocation plan b noReport .error
    with ⟨hbooks, hfail, -⟩
  refine ⟨b.taken rate invocation plan noReport .error, ?_, ?_⟩
  · cases hbill : b.billFailure rate invocation plan noReport .error with
    | none => exact absurd ⟨hcode, hbill⟩ h
    | some e' => grind [fail, toOption]
  · grind [taken, toOption]

/-- A debit hands nothing over. -/
theorem handed_debit (b : Books) (amount : ℤ) : (b.debit amount).handed = b.handed := by
  unfold debit
  split <;> rfl

theorem handed_afterDebit (b : Books) (debited : Option ℤ) :
    (b.afterDebit debited).handed = b.handed := by
  cases debited with
  | none => rfl
  | some amount => exact handed_debit b amount

/-- A second debit under the key of the request does nothing. -/
theorem afterDebit_of_booked (h : b.booked = true) (debited : Option ℤ) :
    b.afterDebit debited = b := by
  cases debited with
  | none => rfl
  | some amount => exact if_pos h

/-- The first one is booked. -/
theorem debit_of_not_booked (h : b.booked = false) (amount : ℤ) : b.debit amount =
      { b with booked := true, balance := b.balance - amount, debited := b.debited + amount } := by
  unfold debit
  rw [h]
  rfl

/-- The success debit is a positive amount. -/
theorem successDebit_pos {amount : ℤ}
    (h : b.successDebit rate invocation plan upstream = some amount) : 0 < amount := by
  cases upstream with
  | error e => cases h
  | ok report => grind [successDebit, taken, Option.filter_eq_some_iff]

/-- A request without a failure leaves its debit, and is handed over with it. -/
theorem serve_of_success (h : b.requestFailure rate invocation plan (.ok report) = none) :
    ∃ amount, b.prescribed rate invocation report .success = .ok amount ∧ 0 ≤ amount ∧
      b.serve rate plan invocation (.ok report) =
        (b.afterDebit (if 0 < amount then some amount else none)).hand .success amount := by
  rcases Option.or_eq_none_iff.mp h with ⟨hbill, hrec⟩
  rcases taken_of_billed hbill with ⟨amount, hpres, hnonneg, htaken⟩
  rcases bill_eq rate invocation plan b report .success
    with ⟨hbooks, -, hdone⟩
  refine ⟨amount, hpres, hnonneg, ?_⟩
  simp only [serve, hbooks, hdone hbill, hpres, hrec, htaken]

/-- A request without a failure charges what is prescribed. -/
theorem oneCharge_of_success (hbooked : b.booked = false) (hdebited : b.debited = 0)
    (hhanded : b.handed = []) (h : b.requestFailure rate invocation plan upstream = none) :
    OneCharge rate invocation upstream b (b.serve rate plan invocation upstream) := by
  cases upstream with
  | error e => cases h
  | ok report =>
    rcases serve_of_success h with ⟨amount, hpres, hnonneg, hserve⟩
    refine ⟨.success, amount, ?_⟩
    rw [hserve]
    by_cases hpos : 0 < amount
    · rw [if_pos hpos, afterDebit, debit_of_not_booked hbooked]
      refine ⟨?_, ?_, hpres, rfl⟩
      · simp [hand, hhanded]
      · simp [hand, hdebited]
    have hzero : amount = 0 := by omega
    rw [if_neg hpos, afterDebit]
    refine ⟨?_, ?_, hpres, ?_⟩
    · simp [hand, hhanded]
    · simp [hand, hdebited, hzero]
    · simp [hand, hzero]

/-- After a failure the amount handed over decides. -/
theorem oneCharge_hand {b' : Books} {amount : ℤ} (hhanded : b'.handed = []) :
    OneCharge rate invocation upstream b (b'.hand .error amount) ↔
      b'.debited = amount ∧ b.prescribed rate invocation noReport .error = .ok amount ∧
        b'.balance = b.balance - amount := by
  constructor
  · rintro ⟨status, x, hx, hdebited, hpres, hbal⟩
    simp only [hand, hhanded, List.nil_append, List.cons.injEq, and_true] at hx
    rcases hx with ⟨rfl, rfl⟩
    exact ⟨hdebited, hpres, hbal⟩
  rintro ⟨hdebited, hpres, hbal⟩
  refine ⟨.error, amount, ?_, hdebited, hpres, hbal⟩
  simp [hand, hhanded]

/-- In the books of a new request: one charge, if and only if the charges agree. -/
theorem oneCharge_serve (hbooked : b.booked = false) (hdebited : b.debited = 0)
    (hhanded : b.handed = []) (upstream : Except Exception Report) :
    OneCharge rate invocation upstream b (b.serve rate plan invocation upstream) ↔
      b.ChargesAgree rate invocation plan upstream := by
  cases hfailure : b.requestFailure rate invocation plan upstream with
  | none =>
    refine iff_of_true (oneCharge_of_success hbooked hdebited hhanded hfailure) ?_
    intro e he
    rw [hfailure] at he
    cases he
  | some e =>
    rw [serve_of_failure hfailure]
    have hagree : b.ChargesAgree rate invocation plan upstream ↔
        (∀ amount, b.successDebit rate invocation plan upstream = some amount →
          b.prescribed rate invocation noReport .error = .ok amount ∧
            (b.debit amount).FailureBilled rate invocation plan e) ∧
        (b.successDebit rate invocation plan upstream = none →
          b.prescribed rate invocation noReport .error = .ok 0 ∨
            b.FailureBilled rate invocation plan e) := by
      simp [hfailure, ChargesAgree]
    rw [hagree]
    cases hsuccess : b.successDebit rate invocation plan upstream with
    | some amount =>
      -- the ledger holds the success debit, whatever the handler does
      have hpos := successDebit_pos hsuccess
      have hdebit := debit_of_not_booked hbooked amount
      have hbooked' : (b.debit amount).booked = true := by rw [hdebit]
      have hhanded' := (handed_debit b amount).trans hhanded
      have hdebited' : (b.debit amount).debited = amount := by grind
      simp only [afterDebit, Option.some.injEq, forall_eq', reduceCtorEq, false_implies, and_true]
      by_cases hbilled : (b.debit amount).FailureBilled rate invocation plan e
      · rcases fail_of_billed hbilled with ⟨failed, hpres, -, hfail⟩
        rw [prescribed_debit] at hpres
        rw [hfail, afterDebit_of_booked hbooked', oneCharge_hand hhanded', hdebited', hpres]
        constructor
        · rintro ⟨rfl, -, -⟩
          exact ⟨rfl, hbilled⟩
        · grind
      rcases fail_of_not_billed hbilled with ⟨debited, hfail, -⟩
      rw [hfail, afterDebit_of_booked hbooked', oneCharge_hand hhanded']
      refine iff_of_false ?_ fun h => hbilled h.2
      omega
    | none =>
      simp only [afterDebit, reduceCtorEq, false_implies, true_and, forall_const]
      by_cases hbilled : b.FailureBilled rate invocation plan e
      · rcases fail_of_billed hbilled with ⟨amount, hpres, hnonneg, hfail⟩
        refine iff_of_true ?_ (Or.inr hbilled)
        rw [hfail]
        by_cases hpos : 0 < amount
        · grind [afterDebit, oneCharge_hand, debit_of_not_booked]
        have hzero : amount = 0 := by omega
        subst hzero
        rw [if_neg hpos, afterDebit, oneCharge_hand hhanded]
        exact ⟨hdebited, hpres, by omega⟩
      rcases fail_of_not_billed hbilled with ⟨debited, hfail, hfree⟩
      constructor
      · intro hone
        refine Or.inl ?_
        rw [hfail] at hone
        rcases hone with ⟨status, x, hx, -, hpres, -⟩
        have hhanded' := (handed_afterDebit b debited).trans hhanded
        simp only [hand, hhanded', List.nil_append, List.cons.injEq, and_true] at hx
        rcases hx with ⟨rfl, rfl⟩
        exact hpres
      · grind [afterDebit, oneCharge_hand]

end Books

namespace FreshRequest

variable {s : AiStore}

section

variable (h : FreshRequest invocation s)
include h

theorem not_booked : (books invocation s).booked = false := by
  simp only [books, h.entry, Option.isSome_none]

theorem not_debited : (books invocation s).debited = 0 := by
  have hnone := WalletStore.entryByKey_none.mp h.entry
  simp only [books, WalletStore.debitedUnder]
  rw [List.filter_eq_nil_iff.mpr]
  · rfl
  · intro e he
    simp [hnone e he]

theorem not_handed : (books invocation s).handed = [] := by
  simp only [books, List.map_eq_nil_iff, List.filter_eq_nil_iff]
  intro input hinput
  simpa using h.handed input hinput

end

end FreshRequest

end

/-! ## A charge for a failed request -/

def quizInvocation : PreparedProxyInvocation where
  userId := "user_1"
  requestId := "req_1"
  provider := "openrouter"
  resolvedModel := "openai/gpt-4o"
  keySource := .platform
  messageCount := 1
  quotaConsumed := 0
  quotaLimit := none

/-- The prices of the providers, failed requests free. -/
def costPolicy : PlatformAiPricingPolicy where
  enabled := true
  markupPercent := 0
  minimumFeeUsd := 0
  roundingUsd := 1 / 1000000
  maxChargeUsd := none
  chargeFailedRequests := .never
  chargeUserKeyRequests := .platform_fee_only
  displayEstimatedPriceToUser := false

/-- A user with ten roubles. -/
def tenRoubles : AiStore where
  wallet := ({ WalletStore.empty with wallets := [⟨1, "user_1", "RUB", 1000⟩] }, 2)
  overrides := []
  policy := costPolicy
  requests := []
  handed := []

/-- A response that used a thousand tokens each way. -/
def thousandTokens : ProxyRequest :=
  .response (.ok [("usage", .object [("prompt_tokens", .number (some 1000)),
    ("completion_tokens", .number (some 1000)), ("total_tokens", .number (some 2000))])])

/-- The step that records the completion fails. -/
def recordingFails : FaultPlan := fun step =>
  if step = .recordEvent then .refused (.prisma "P1001") else .through

theorem tenRoubles_fresh : FreshRequest quizInvocation tenRoubles where
  entry := by decide
  handed := by simp [tenRoubles]

end QuizMind.Ai
