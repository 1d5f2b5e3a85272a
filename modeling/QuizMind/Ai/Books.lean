import QuizMind.Ai.Proxy
import QuizMind.Wallet.DebitAlone

/-! # The books of one request

What the run of a request comes to, seen from its user: the balance, what is
booked under the key of the request, and what was handed to the history. Billing
is a function of these (`Books.bill`), and the program of the proxy does on the
tables what that function does on the books (`run_calculateAndDebit`,
`run_proxy`, `run_stream`).
-/

namespace QuizMind.Ai

open Async
open Prog (run_await run_bind)
open Prog (andThen_ok)

/-- The tables as one request sees them. -/
structure Books where
  override : Option UserBillingOverride
  policy : PlatformAiPricingPolicy
  currency : String
  balance : ℤ
  /-- A debit is booked under the key of the request. -/
  booked : Bool
  debited : ℤ
  /-- The status and the amount of what was handed over. -/
  handed : List (RequestStatus × ℤ)
  deriving DecidableEq

/-- The amount of a billing result, null read as 0. -/
def BillingResult.amount (billing : BillingResult) : ℤ :=
  billing.chargedAmountMinor.getD 0

/-- The amount of what was handed over. -/
def PersistContentInput.amount (input : PersistContentInput) : ℤ :=
  (input.billing.map BillingResult.amount).getD 0

def books (invocation : PreparedProxyInvocation) (s : AiStore) : Books where
  override := s.overrideFor invocation.userId
  policy := s.policy
  currency := s.wallet.1.userCurrency invocation.userId
  balance := s.wallet.1.userBalance invocation.userId
  booked := (s.wallet.1.entryByKey invocation.debitKey).isSome
  debited := s.wallet.1.debitedUnder invocation.debitKey
  handed := (s.handed.filter fun h => h.requestId = invocation.requestId).map
    fun h => (h.status, h.amount)

/-- What the upstream call reported: the usage, and the response when the cost is
read from it. -/
abbrev Report := Option AiProxyUsage × Option Payload

/-- No usage and no response: what a failure is billed for. -/
def noReport : Report := (none, none)

namespace Books

section

variable (rate : EnvRate) (plan : FaultPlan) (invocation : PreparedProxyInvocation)

def price (b : Books) (report : Report) (status : RequestStatus) : PricingBreakdown :=
  priceOf invocation report.1 report.2 status b.override b.policy

/-- The charge that the pricing prescribes, in the currency of the wallet. -/
def prescribed (b : Books) (report : Report) (status : RequestStatus) : Except Exception ℤ :=
  if (b.price invocation report status).chargeable then
    (convertUsdToWalletMinor rate (b.price invocation report status).chargedCostUsd
      b.currency).map fun c => c.chargedAmountMinor
  else .ok 0

/-- What keeps a chargeable request from being debited. -/
def unpayable (b : Books) (amount : Except Exception ℤ) : Option Exception :=
  match amount with
  | .error e => some e
  | .ok amount => if b.balance < amount then some insufficientBalance else none

/-- The failure that ends the billing before the debit is sent. -/
def stop (b : Books) (report : Report) (status : RequestStatus) : Option Exception :=
  (plan (.override status)).failure.or ((plan (.policy status)).failure.or
    (if (b.price invocation report status).chargeable then
      (plan (.wallet status)).failure.or (b.unpayable (b.prescribed rate invocation report status))
    else none))

/-- The debit of an amount, once per request. -/
def debit (amount : ℤ) (b : Books) : Books :=
  if b.booked then b
  else { b with booked := true, balance := b.balance - amount, debited := b.debited + amount }

/-- Send the debit of an amount, if there is one to send. -/
def pay (b : Books) (status : RequestStatus) : Except Exception ℤ → Except Exception ℤ × Books
  | .error e => (.error e, b)
  | .ok amount =>
    if 0 < amount then
      (plan (.debit status)).apply (fun b => (.ok amount, b.debit amount)) b
    else (.ok amount, b)

/-- Bill the request as ended with `status`. -/
def bill (b : Books) (report : Report) (status : RequestStatus) : Except Exception ℤ × Books :=
  match b.stop rate plan invocation report status with
  | some e => (.error e, b)
  | none => b.pay plan status (b.prescribed rate invocation report status)

/-- Hand over to the history. -/
def hand (status : RequestStatus) (amount : ℤ) (b : Books) : Books :=
  { b with handed := b.handed ++ [(status, amount)] }

/-- The catch handler. -/
def fail (b : Books) (e : Exception) : Books :=
  if resolveProxyFailureCode e = "insufficient_balance" then b.hand .error 0
  else
    let out := b.bill rate plan invocation noReport .error
    out.2.hand .error (out.1.toOption.getD 0)

/-- A whole request, from the answer of the upstream call on. -/
def serve (b : Books) (upstream : Except Exception Report) : Books :=
  match upstream with
  | .error e => b.fail rate plan invocation e
  | .ok report =>
    let out := b.bill rate plan invocation report .success
    match out.1 with
    | .error e => out.2.fail rate plan invocation e
    | .ok amount =>
      match (plan .recordEvent).failure with
      | some e => out.2.fail rate plan invocation e
      | none => out.2.hand .success amount

end

/-- What is chargeable has a positive amount. -/
theorem prescribed_pos {rate : EnvRate} {invocation : PreparedProxyInvocation} {b : Books}
    {report : Report} {status : RequestStatus} {amount : ℤ}
    (hcharge : (b.price invocation report status).chargeable = true)
    (h : b.prescribed rate invocation report status = .ok amount) : 0 < amount := by
  unfold prescribed at h
  rw [if_pos hcharge] at h
  cases hconv : convertUsdToWalletMinor rate
      (b.price invocation report status).chargedCostUsd b.currency with
  | error e =>
    rw [hconv] at h
    cases h
  | ok conversion =>
    rw [hconv] at h
    cases h
    exact convertUsdToWalletMinor_pos (chargedCostUsd_pos hcharge) hconv

end Books

/-! ## The program does what the books say -/

section

variable {rate : EnvRate} {plan : FaultPlan} {invocation : PreparedProxyInvocation}

/-- A run seen in the books. -/
def seen {α β : Type} (invocation : PreparedProxyInvocation) (f : α → β)
    (out : Except Exception α × AiStore) : Except Exception β × Books :=
  (out.1.map f, books invocation out.2)

variable {w : Wallet} {s : AiStore}

/-- The debit of the wallet that was just read. -/
theorem books_debit {conversion : Conversion}
    (hwallet : s.wallet.1.walletByUser invocation.userId = some w)
    (hamount : 0 < conversion.chargedAmountMinor)
    (hbalance : conversion.chargedAmountMinor ≤ w.balanceKopecks) (status : RequestStatus) :
    ∃ r, ((AiCall.debitUsage status (debitInput invocation w conversion)).effect s).1 = .ok r ∧
      books invocation ((AiCall.debitUsage status (debitInput invocation w conversion)).effect s).2 =
        (books invocation s).debit conversion.chargedAmountMinor := by
  rcases s with ⟨⟨t, n⟩, overrides, policy, requests, handed⟩
  cases hkey : t.entryByKey invocation.debitKey with
  | some e =>
    rcases debitUsage_used (s := t) (n := n) (debitInput invocation w conversion)
      hamount hkey with ⟨r, hrun⟩
    refine ⟨r, ?_, ?_⟩
    · simp only [AiCall.effect, hrun]
    · simp [AiCall.effect, hrun, books, Books.debit, AiStore.overrideFor, hkey]
  | none =>
    rcases debitUsage_free (s := t) (n := n) (debitInput invocation w conversion)
      hamount hkey hwallet hbalance with ⟨r, updated, id, n', hrun⟩
    refine ⟨r, ?_, ?_⟩
    · simp only [AiCall.effect, hrun]
    have hcurr := userCurrency_debitedStore (debitInput invocation w conversion)
      updated id hwallet
    have hbal := userBalance_debitedStore (debitInput invocation w conversion) updated id hwallet
    have hdebited := debitedUnder_debitedStore (s := t)
      (debitInput invocation w conversion) w updated id
    have hused := entryByKey_debitedStore (s := t) (debitInput invocation w conversion) w updated id
    simp only [AiCall.effect, hrun]
    simp only [debitInput] at hcurr hbal hdebited hused
    simp [books, Books.debit, AiStore.overrideFor, hkey, hcurr, hbal, hdebited, hused,
      debitInput]

variable (invocation) in
/-- The wallet is read or created: the books stay. -/
theorem books_wallet (s : AiStore) (status : RequestStatus) :
    ∃ w s', (AiCall.findOrCreateWalletForUser status invocation.userId).effect s = (.ok w, s') ∧
      books invocation s' = books invocation s ∧
      s'.wallet.1.walletByUser invocation.userId = some w := by
  rcases s with ⟨⟨t, n⟩, overrides, policy, requests, handed⟩
  rcases findOrCreateWalletForUser_alone (s := t) (n := n) invocation.userId with
    ⟨w, n', hwallet, hrun⟩
  refine ⟨w, ⟨(t.withWallet invocation.userId (n + 1), n'), overrides, policy, requests, handed⟩,
    ?_, ?_, hwallet⟩
  · simp only [AiCall.effect, hrun]
  rcases WalletStore.withWallet_spec t invocation.userId (n + 1) with
    ⟨w', hwallet', hbal, hcurr⟩
  rw [hwallet] at hwallet'
  obtain rfl : w = w' := Option.some.inj hwallet'
  have huserBalance : (t.withWallet invocation.userId (n + 1)).userBalance invocation.userId =
      t.userBalance invocation.userId := by grind [WalletStore.userBalance]
  have huserCurrency : (t.withWallet invocation.userId (n + 1)).userCurrency invocation.userId =
      t.userCurrency invocation.userId := by grind [WalletStore.userCurrency]
  simp only [books, huserBalance, huserCurrency, AiStore.overrideFor, WalletStore.entryByKey,
    WalletStore.debitedUnder, WalletStore.entries_withWallet]

theorem balance_of_wallet (h : s.wallet.1.walletByUser invocation.userId = some w) :
    w.balanceKopecks = (books invocation s).balance := by
  simp [books, WalletStore.userBalance, h]

theorem currency_of_wallet (h : s.wallet.1.walletByUser invocation.userId = some w) :
    w.currency = (books invocation s).currency := by
  simp [books, WalletStore.userCurrency, h]

/-- The part of the billing after the price is known. -/
theorem run_settleBreakdown {report : Report} {status : RequestStatus}
    (hcharge : ((books invocation s).price invocation report status).chargeable = true)
    (hwallet : plan (.wallet status) = .through) :
    seen invocation BillingResult.amount ((settleBreakdown rate invocation status
          ((books invocation s).price invocation report status)).run (AiCall.exec plan) [] s) =
      ((((books invocation s).unpayable
          ((books invocation s).prescribed rate invocation report status)).map
            fun e => (Except.error e, books invocation s)).getD
        ((books invocation s).pay plan status
          ((books invocation s).prescribed rate invocation report status))) := by
  rcases books_wallet invocation s status with ⟨w, s', heff, hbooks, hw⟩
  have hbal := balance_of_wallet hw
  have hcurr := currency_of_wallet hw
  rw [hbooks] at hbal hcurr
  unfold settleBreakdown
  simp only [run_bind, run_await, AiCall.exec, AiCall.step, hwallet,
    Fault.through_apply, heff, andThen_ok]
  rw [hcurr]
  unfold Books.prescribed
  rw [if_pos hcharge]
  cases hconv : convertUsdToWalletMinor rate
      ((books invocation s).price invocation report status).chargedCostUsd
      (books invocation s).currency with
  | error e =>
    simp [Prog.ofExcept, seen, hbooks, Except.map, Books.unpayable]
  | ok conversion =>
    have hpos := convertUsdToWalletMinor_pos (chargedCostUsd_pos hcharge) hconv
    simp only [Prog.ofExcept, Prog.run_ret, andThen_ok, if_pos hpos, Except.map,
      Books.unpayable, Books.pay, hbal]
    by_cases hpay : (books invocation s).balance < conversion.chargedAmountMinor
    · rw [if_pos hpay, if_pos hpay]
      simp [seen, hbooks]
      rfl
    rw [if_neg hpay, if_neg hpay]
    have hcovers : conversion.chargedAmountMinor ≤ w.balanceKopecks := by omega
    rcases books_debit hw hpos hcovers status with ⟨r, hans, hdebit⟩
    simp only [run_bind, run_await, AiCall.exec, AiCall.step]
    cases hfault : plan (.debit status) with
    | through =>
      simp only [Fault.through_apply]
      rw [show (AiCall.debitUsage status (debitInput invocation w conversion)).effect s' =
        (.ok r, ((AiCall.debitUsage status (debitInput invocation w conversion)).effect s').2)
        from Prod.ext hans rfl]
      simp [seen, hdebit, hbooks, Except.map, BillingResult.amount, chargedBilling]
    | refused e => simp [seen, hbooks, Except.map]
    | lost e => simp [seen, hdebit, hbooks, Except.map]

variable (rate plan invocation) in
/-- Billing on the tables is billing in the books. -/
theorem run_calculateAndDebit (usage : Option AiProxyUsage) (response : Option Payload)
    (status : RequestStatus) (s : AiStore) :
    seen invocation BillingResult.amount
        ((calculateAndDebitForInvocation rate invocation usage response status).run
          (AiCall.exec plan) [] s) =
      (books invocation s).bill rate plan invocation (usage, response) status := by
  unfold calculateAndDebitForInvocation Books.bill Books.stop
  simp only [run_bind, run_await, AiCall.exec, AiCall.step]
  -- the two calls that read the price
  cases hoverride : plan (.override status) with
  | refused e => rfl
  | lost e => rfl
  | through =>
    simp only [Fault.through_apply, AiCall.effect, andThen_ok]
    simp only [run_bind, run_await, AiCall.exec, AiCall.step]
    cases hpolicy : plan (.policy status) with
    | refused e | lost e => rfl
    | through =>
      simp only [Fault.through_apply, AiCall.effect, andThen_ok, Fault.failure, Option.none_or]
      have hprice : priceOf invocation usage response status (s.overrideFor invocation.userId)
          s.policy = (books invocation s).price invocation (usage, response) status := rfl
      rw [hprice]
      by_cases hcharge :
          ((books invocation s).price invocation (usage, response) status).chargeable = true
      · rw [if_pos hcharge, if_pos hcharge]
        cases hwallet : plan (.wallet status) with
        | through =>
          rw [run_settleBreakdown hcharge hwallet, Option.none_or]
          cases (books invocation s).unpayable
            ((books invocation s).prescribed rate invocation (usage, response) status) <;> rfl
        | refused e =>
          simp [settleBreakdown, run_bind, run_await, AiCall.exec, AiCall.step,
            hwallet, seen, Except.map]
        | lost e =>
          -- the wallet may have been created
          rcases books_wallet invocation s status with
            ⟨w, s', heff, hbooks, -⟩
          simp [settleBreakdown, run_bind, run_await, AiCall.exec, AiCall.step,
            hwallet, seen, Except.map, heff, hbooks]
      · rw [if_neg hcharge, if_neg hcharge]
        have hfree : (books invocation s).prescribed rate invocation (usage, response) status =
            .ok 0 := if_neg hcharge
        rw [hfree]
        rfl

/-! ### Recording and handing over -/

variable (plan invocation) in
theorem run_persist (usage : Option AiProxyUsage) (status : RequestStatus)
    (errorCode : Option String) (billing : Option BillingResult) (s : AiStore) :
    ∃ s', (persistHistoryContentSafely invocation usage status errorCode billing).run
        (AiCall.exec plan) [] s = (.ok (), s') ∧
      books invocation s' =
        (books invocation s).hand status ((billing.map BillingResult.amount).getD 0) := by
  refine ⟨_, run_await _ _ _, ?_⟩
  simp [books, Books.hand, AiStore.overrideFor, PersistContentInput.amount, List.filter_append]

variable (rate plan invocation) in
/-- The billing of a failure never throws. -/
theorem run_billFailure (errorCode : String) (s : AiStore) :
    ∃ billing s', (billFailure rate invocation .error errorCode).run (AiCall.exec plan) [] s =
        (.ok billing, s') ∧
      (books invocation s').hand .error ((billing.map BillingResult.amount).getD 0) =
        if errorCode = "insufficient_balance" then (books invocation s).hand .error 0
        else
          ((books invocation s).bill rate plan invocation noReport .error).2.hand .error
            (((books invocation s).bill rate plan invocation noReport .error).1.toOption.getD 0) := by
  unfold billFailure
  by_cases hcode : errorCode = "insufficient_balance"
  · simp_all
  rw [if_neg hcode, if_neg hcode]
  have hbill := run_calculateAndDebit rate plan invocation none none .error s
  rw [noReport, ← hbill]
  simp only [Prog.tryCatch_eq, Prog.run_handle, run_bind]
  rcases (calculateAndDebitForInvocation rate invocation none none .error).run
    (AiCall.exec plan) [] s with ⟨out, s'⟩
  cases out with
  | ok billing => exact ⟨some billing, s', rfl, rfl⟩
  | error e => exact ⟨none, s', rfl, rfl⟩

variable (rate plan invocation) in
/-- The catch handler of both entry points. -/
theorem run_recordAndRethrow {α : Type} (error : Exception) (s : AiStore) :
    ∃ s', (recordAndRethrow rate invocation error : AiProg α).run (AiCall.exec plan) [] s =
        (.error error, s') ∧
      books invocation s' = (books invocation s).fail rate plan invocation error := by
  rcases run_billFailure rate plan invocation
    (resolveProxyFailureCode error) s with ⟨billing, s₁, hbilling, hbooks⟩
  unfold recordAndRethrow recordProxyFailureSafely
  simp only [run_bind, hbilling, andThen_ok]
  -- whether the failure is recorded or not, it is handed over
  have hrec : ∃ s₂, (tryCatch (call (.recordProxyFailure
        (failedRow invocation .error (resolveProxyFailureCode error)))) (fun _ => return ()) :
          AiProg Unit).run (AiCall.exec plan) [] s₁ = (.ok (), s₂) ∧
      books invocation s₂ = books invocation s₁ := by
    simp only [Prog.tryCatch_eq, Prog.run_handle, run_await, AiCall.exec, AiCall.step]
    cases plan .recordFailure with
    | _ => exact ⟨_, rfl, rfl⟩
  rcases hrec with ⟨s₂, hrec, hbooks₂⟩
  rcases run_persist plan invocation none .error
    (some (resolveProxyFailureCode error)) billing s₂ with ⟨s₃, hpersist, hbooks₃⟩
  refine ⟨s₃, ?_, ?_⟩
  · simp only [hrec, andThen_ok, hpersist]
    rfl
  · rw [hbooks₃, hbooks₂, hbooks]
    rfl

/-- The part that both entry points share: billing, recording, handing over. -/
def completion {α : Type} (rate : EnvRate) (invocation : PreparedProxyInvocation)
    (report : Report) (result : AiProxyQuotaSnapshot → α) : AiProg α := do
  let billing ← calculateAndDebitForInvocation rate invocation report.1 report.2 .success
  let quota ← recordProxyCompletion invocation report.1
  persistHistoryContentSafely invocation report.1 .success none (some billing)
  return result quota

/-- A whole request on the tables is a whole request in the books. -/
theorem run_completion {α β : Type} (upstream : Except Exception β) (report : β → Report)
    (result : β → AiProxyQuotaSnapshot → α) (s : AiStore) :
    books invocation ((Prog.handle (Prog.ofExcept upstream >>= fun answer =>
        completion rate invocation (report answer) (result answer))
          (recordAndRethrow rate invocation)).run (AiCall.exec plan) [] s).2 =
      (books invocation s).serve rate plan invocation (upstream.map report) := by
  have hfail : ∀ e s, books invocation ((recordAndRethrow rate invocation e : AiProg α).run
      (AiCall.exec plan) [] s).2 = (books invocation s).fail rate plan invocation e := by
    intro e s
    rcases run_recordAndRethrow (α := α) rate plan invocation e s with ⟨s', hrun, hbooks⟩
    rw [hrun]
    exact hbooks
  simp only [Prog.run_handle]
  cases upstream with
  | error e => exact hfail e s
  | ok answer =>
    have hbill := run_calculateAndDebit rate plan invocation
      (report answer).1 (report answer).2 .success s
    simp only [Prog.ofExcept, Prog.run_ret, andThen_ok, completion, run_bind, Except.map,
      Books.serve]
    rw [← hbill]
    rcases (calculateAndDebitForInvocation rate invocation (report answer).1 (report answer).2
      .success).run (AiCall.exec plan) [] s with ⟨out, s₁⟩
    cases out with
    | error e => exact hfail e s₁
    | ok billing =>
      simp only [andThen_ok, recordProxyCompletion, run_bind, run_await, AiCall.exec, AiCall.step]
      cases plan .recordEvent with
      | refused e => exact hfail e s₁
      | lost e => exact hfail e _
      | through =>
        rcases run_persist plan invocation (report answer).1
          .success none (some billing) { s₁ with requests := s₁.requests ++
            [completedRow invocation (report answer).1] } with ⟨s₂, hpersist, hbooks₂⟩
        simp only [Fault.through_apply, AiCall.effect, andThen_ok, Prog.pure_eq,
          run_bind, Prog.run_ret, hpersist, Prog.orElse_ok, hbooks₂]
        rfl

/-- What a response reports. -/
def responseReport (response : Payload) : Report := (extractUsage response, some response)

/-- What the inspection of a stream reports: the usage without the events. -/
def streamReport (inspection : OpenRouterStreamInspection) : Report := (inspection.usage, none)

theorem run_proxy (upstream : Except Exception Payload) (s : AiStore) :
    books invocation ((proxyForCurrentSession rate invocation upstream).run
        (AiCall.exec plan) [] s).2 =
      (books invocation s).serve rate plan invocation (upstream.map responseReport) :=
  run_completion upstream responseReport _ s

theorem run_stream (parse : List Char → Option JsValue) (stream : SseStream)
    (fallbackModel : String) (s : AiStore) :
    books invocation ((consumeOpenRouterStream rate parse invocation stream fallbackModel).run
        (AiCall.exec plan) [] s).2 =
      (books invocation s).serve rate plan invocation
        ((inspectOpenRouterSseStream parse stream).map streamReport) :=
  run_completion (inspectOpenRouterSseStream parse stream) streamReport _ s

end

end QuizMind.Ai
