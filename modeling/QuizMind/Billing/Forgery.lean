import QuizMind.Billing.Requests
import QuizMind.Billing.Redelivery

/-! # Forged webhooks

`POST billing/webhooks/yookassa` takes any body from anybody: the webhook
secret of the configuration is read by nothing and the payment is not fetched
from the provider before the wallet is credited. Whoever knows the payment
identifier of a pending top-up, which `createTopUp` returns to its caller, can
send the webhook himself (`forged_credit`).

If every webhook that says a payment succeeded arrives after the payment
succeeded at the provider, then every credit is for a paid payment and of its
amount (`creditsPaid_of_honest`), whatever else arrives and however the
requests are interleaved.
-/

namespace QuizMind

open Async BillingService
open Grows (refl trans)
open Machine (anyStep initial)

/-- Every entry that credits a top-up belongs to a payment that succeeded at the
provider, and credits the amount of that payment. -/
def CreditsPaid (s : BillingStore) : Prop :=
  ∀ e ∈ s.wallet.entries, e.type = .topup → ∃ t ∈ s.wallet.topUps, ∃ p ∈ s.payments,
    e.topUpId = some t.id ∧ e.walletId = t.walletId ∧ t.providerPaymentId = some p.id ∧
      p.status = .succeeded ∧ e.deltaKopecks = p.amountKopecks

/-- Every settled top-up is paid. -/
def PaidTopUps (s : BillingStore) : Prop :=
  ∀ t ∈ s.wallet.topUps, t.status = .succeeded →
    ∃ p ∈ s.payments, t.providerPaymentId = some p.id ∧ p.status = .succeeded

/-- The payment has succeeded at the provider. -/
def HasSucceeded (s : BillingStore) (paymentId : String) : Prop :=
  ∃ p ∈ s.payments, p.id = paymentId ∧ p.status = .succeeded

/-- A webhook arrives that says a payment succeeded only if it did. -/
def honestWebhooks (env : BillingEnv) :
    Snapshot BillingCall BillingCall.Res Exception BillingReply BillingStore BillingRequest →
      Label Exception BillingRequest → Bool
  | s, .start (.webhook _ (.text parsed)) =>
    match parseYookassaWebhookEvent env parsed with
    | .ok event => event.type != "payment.succeeded" ||
        s.store.payments.any (fun p => p.id == event.paymentId && p.status == .succeeded)
    | .error _ => true
  | _, _ => true

variable {s : BillingStore}

theorem HasSucceeded.grows {s' : BillingStore} {paymentId : String}
    (h : HasSucceeded s paymentId) (hgrows : Grows s s') : HasSucceeded s' paymentId := by
  obtain ⟨p, hp, hid, hstat⟩ := h
  obtain ⟨p', hp', hsame⟩ := hgrows.payments p hp
  exact ⟨p', hp', hsame.1.trans hid, hsame.2.2 hstat⟩

/-- A step that settles nothing keeps the settled top-ups paid. -/
theorem PaidTopUps.grows {s' : BillingStore} (h : PaidTopUps s) (hgrows : Grows s s')
    (hnothing : NothingSettled s s') : PaidTopUps s' := by
  intro x hx hsucc
  obtain ⟨u, hu, hsame, hstat⟩ := hnothing x hx hsucc
  obtain ⟨p, hp, hpay, hpaid⟩ := h u hu hstat
  obtain ⟨p', hp', hsame'⟩ := hgrows.payments p hp
  refine ⟨p', hp', ?_, hsame'.2.2 hpaid⟩
  rw [hsame.2.2.2.1, hpay, hsame'.1]

/-- What the tables agree on, with every settled top-up paid, says that every
credit is for a paid payment. -/
theorem creditsPaid_of_paidTopUps (hbacked : Backed s) (hpaid : PaidTopUps s) : CreditsPaid s := by
  intro e he htype
  obtain ⟨t, ht, htopUp⟩ := hbacked.entries e he htype
  have hmem : e ∈ s.wallet.topUpEntries t.id := by
    simp [WalletStore.topUpEntries, he, htype, htopUp]
  have hsett := hbacked.settled t ht
  by_cases hstat : t.status = .succeeded
  · simp only [Settled, hstat] at hsett
    obtain ⟨e', hentries, hdelta, hwallet⟩ := hsett
    rw [hentries, List.mem_singleton] at hmem
    obtain ⟨p, hp, hpay, hsucc⟩ := hpaid t ht hstat
    obtain ⟨p', hp', hpay', hamount⟩ := hbacked.backed t ht
    have hid : p'.id = p.id := by grind
    have hpp : p' = p := List.inj_on_of_nodup_map hbacked.payments hp' hp hid
    refine ⟨t, ht, p, hp, htopUp, ?_, hpay, hsucc, ?_⟩
    · rw [hmem]
      exact hwallet
    · rw [hmem, hdelta, ← hamount, hpp]
  · grind [Settled]

/-! ## The requests -/

/-- The invariant of the honest runs. -/
def HonestInv (s : BillingStore) : Prop := Backed s ∧ PaidTopUps s

theorem honestInv_kept : KeptUnlessSettled HonestInv where
  backed := fun _ h => h.1
  keep := fun _ _ h hbacked hgrows hnothing => ⟨hbacked, h.2.grows hgrows hnothing⟩

/-- A webhook that does not say that a payment succeeded settles nothing. -/
theorem applyToTopUp_plain (now : ℤ) {input : WalletService.PaymentEvent} (topUp : WalletTopUp)
    (h : input.eventType ≠ "payment.succeeded") :
    (WalletService.applyToTopUp now input topUp).Safe (fun _ _ => True) BillingCall.Plain := by
  unfold WalletService.applyToTopUp
  rw [if_neg h]
  split
  · exact Prog.safe_await_bind (by trivial) fun _ _ => trivial
  · trivial

/-- The settlement of a top-up whose payment has succeeded. -/
theorem applyToTopUp_valid (now : ℤ) (input : WalletService.PaymentEvent) {topUp : WalletTopUp}
    (hpayment : topUp.providerPaymentId = some input.paymentId)
    (hrow : ∃ row ∈ s.wallet.topUps, SameTopUp topUp row)
    (hpaid : input.eventType = "payment.succeeded" → HasSucceeded s input.paymentId) :
    (WalletService.applyToTopUp now input topUp).Valid BillingCall.exec HonestInv Grows s := by
  by_cases htype : input.eventType = "payment.succeeded"
  · unfold WalletService.applyToTopUp
    rw [if_pos htype]
    refine Prog.valid_await_bind ?_
    intro s' hs' h'
    have hrow' : ∃ row ∈ s'.wallet.topUps, SameTopUp topUp row := by
      obtain ⟨row, hmem, hsame⟩ := hrow
      obtain ⟨row', hmem', hsame'⟩ := hs'.topUps row hmem
      exact ⟨row', hmem', hsame.trans hsame'⟩
    obtain ⟨r, t, hexec, hbacked, hgrows, hpayments, -, hnew, -⟩ :=
      h'.1.settle_exec hrow' (input.paidAt.getD (some now))
    rw [hexec]
    refine ⟨⟨hbacked, ?_⟩, hgrows, ?_⟩
    · -- the row that was settled is the one whose payment has succeeded
      intro x hx hsucc
      rcases hnew x hx hsucc with hid | ⟨u, hu, hsame, hstat⟩
      · obtain ⟨row', hmem', hsame'⟩ := hrow'
        obtain ⟨row'', hmem'', hsame''⟩ := hgrows.topUps row' hmem'
        have hrows : x = row'' := List.inj_on_of_nodup_map hbacked.ids hx hmem''
          (hid.trans (hsame''.1.trans hsame'.1).symm)
        obtain ⟨p, hp, hpid, hpstatus⟩ := ((hpaid htype).grows hs').grows hgrows
        refine ⟨p, hp, ?_, hpstatus⟩
        rw [hrows, hsame''.2.2.2.1, hsame'.2.2.2.1, hpayment, hpid]
      obtain ⟨p, hp, hpay, hpstatus⟩ := h'.2 u hu hstat
      rw [hpayments]
      exact ⟨p, hp, hsame.2.2.2.1.trans hpay, hpstatus⟩
    · intro a _
      split <;> trivial
  · exact valid_of_plain honestInv_kept (applyToTopUp_plain now topUp htype) s

theorem processRecorded_valid (env : BillingEnv) (now : ℤ) (event : YookassaWebhookEvent)
    (record : WebhookEvent)
    (hpaid : event.type = "payment.succeeded" → HasSucceeded s event.paymentId) :
    (processRecorded env now event record).Valid BillingCall.exec HonestInv Grows s := by
  refine Prog.valid_bind refl trans ?_
    (fun _ s' _ => valid_of_plain honestInv_kept (dispatchJob_plain event record) s')
  refine Prog.valid_await_bind ?_
  intro s₁ h₁ hinv
  have hfind : BillingCall.Neutral (.wallet (.topUpFindByPayment event.paymentId)) := trivial
  obtain ⟨hinv', hgrows⟩ := honestInv_kept.neutral hinv hfind
  refine ⟨hinv', hgrows, ?_⟩
  intro found hfound
  cases found with
  | none => trivial
  | some topUp =>
    have hrow : s₁.wallet.topUpByPayment event.paymentId = some topUp := by
      simpa [BillingCall.exec, Database.execAlone, WalletStmt.exec] using hfound
    have hpayment := List.find?_some hrow
    have hmem := List.mem_of_find?_eq_some hrow
    obtain ⟨row, hrowMem, hsame⟩ := hgrows.topUps topUp hmem
    exact applyToTopUp_valid now _ (by simpa using hpayment) ⟨row, hrowMem, hsame⟩
      fun htype => ((hpaid htype).grows h₁).grows hgrows

/-- A webhook that arrives after its payment has succeeded. -/
theorem webhook_valid (env : BillingEnv) (now : ℤ) (rawBody : RawBody)
    (hhonest : ∀ parsed event, rawBody = .text parsed →
      parseYookassaWebhookEvent env parsed = .ok event → event.type = "payment.succeeded" →
      HasSucceeded s event.paymentId) :
    (ingestYookassaWebhook env now rawBody).Valid BillingCall.exec HonestInv Grows s := by
  unfold ingestYookassaWebhook
  split
  · trivial
  split
  · trivial
  rename_i parsed
  split
  · trivial
  rename_i event hparse
  have hpaid : event.type = "payment.succeeded" → HasSucceeded s event.paymentId :=
    hhonest parsed event rfl hparse
  have hafter : ∀ (a : WebhookEvent × Bool) (s' : BillingStore), Grows s s' →
      (afterRecording env now event a).Valid BillingCall.exec HonestInv Grows s' := by
    intro a s' hs'
    unfold afterRecording
    split
    · trivial
    · exact processRecorded_valid env now event _ fun htype => (hpaid htype).grows hs'
  rw [receiveEvent_eq]
  intro s₁ h₁ hinv
  have hcreate : BillingCall.Neutral (.webhookEventCreate (eventData now event)) := trivial
  obtain ⟨hinv', hgrows⟩ := honestInv_kept.neutral hinv hcreate
  have hrest : ∀ t, Grows s t → ∀ a s', Grows t s' →
      (afterRecording env now event a).Valid BillingCall.exec HonestInv Grows s' := by
    intro t ht a s' hs'
    exact hafter a s' (trans _ _ _ ht hs')
  refine ⟨⟨hinv', hgrows, ?_⟩, ?_⟩
  · refine Prog.valid_bind refl trans ?_ (hrest _ (trans _ _ _ h₁ hgrows))
    split
    · trivial
    · exact valid_of_plain honestInv_kept (findRecorded_plain _ _) _
  intro e
  exact Prog.valid_bind refl trans
    (valid_of_plain honestInv_kept (findRecorded_plain _ e) s₁) (hrest _ h₁)

/-! ## The system -/

theorem emptyBilling_honest : HonestInv emptyBilling := by
  constructor
  · constructor <;> simp [emptyBilling]
  · intro t ht
    simp [emptyBilling] at ht

/-- Every request that the condition lets in is valid. -/
theorem billingCode_valid (env : BillingEnv) (req : BillingRequest)
    (s : Snapshot BillingCall BillingCall.Res Exception BillingReply BillingStore BillingRequest)
    (hC : honestWebhooks env s (.start req)) :
    (billingCode env req).Valid BillingCall.exec HonestInv Grows s.store := by
  -- the reply is only wrapped
  have hwrap : ∀ {α : Type} {p : BillingProg α} {f : α → BillingReply},
      p.Valid BillingCall.exec HonestInv Grows s.store →
        (p >>= fun r => return f r).Valid BillingCall.exec HonestInv Grows s.store := by
    intro α p f hp
    exact Prog.valid_bind refl trans hp fun _ _ _ => trivial
  cases req with
  | createTopUp request => exact hwrap (createTopUp_valid honestInv_kept env request s.store)
  | webhook now rawBody =>
    refine hwrap (webhook_valid env now rawBody ?_)
    intro parsed event hbody hparse htype
    subst hbody
    simp only [honestWebhooks, hparse, htype] at hC
    obtain ⟨p, hp, hpaid⟩ := List.any_eq_true.mp hC
    simp only [Bool.and_eq_true, beq_iff_eq] at hpaid
    exact ⟨p, hp, hpaid.1, hpaid.2⟩
  | job now payload => exact hwrap (valid_of_plain honestInv_kept (job_plain now payload) s.store)
  | retry now request =>
    exact hwrap (f := fun _ => .done) (valid_of_plain honestInv_kept (retry_plain now request) s.store)
  | provider paymentId status =>
    refine hwrap (f := fun _ => .done) (valid_of_plain honestInv_kept ?_ s.store)
    refine ⟨trivial, ?_⟩
    intro r _
    cases r <;> trivial

/-- Every wallet is credited for paid payments only, with their amounts, in
every run whose webhooks say the truth. -/
theorem creditsPaid_of_honest {env : BillingEnv} {s₀ : BillingStore} (hbacked : Backed s₀)
    (hpaid : PaidTopUps s₀)
    {s : Snapshot BillingCall BillingCall.Res Exception BillingReply BillingStore BillingRequest}
    (hrun : (billingMachine env).Reaches (fun s l => honestWebhooks env s l)
      (initial s₀) s) :
    CreditsPaid s.store := by
  have hstart : ∀ (t : Snapshot BillingCall BillingCall.Res Exception BillingReply BillingStore
      BillingRequest) req, honestWebhooks env t (.start req) → HonestInv t.store →
      ((billingMachine env).code req).Valid BillingCall.exec HonestInv Grows t.store := by
    intro t req hC _
    exact billingCode_valid env req t hC
  have hinit : (billingMachine env).AllValid HonestInv Grows (initial s₀) := by
    refine ⟨⟨hbacked, hpaid⟩, ?_⟩
    intro q hq
    cases hq
  obtain ⟨⟨hbacked', hpaid'⟩, -⟩ :=
    (billingMachine env).rely_guarantee refl trans hstart hrun hinit
  exact creditsPaid_of_paidTopUps hbacked' hpaid'

/-- A top-up of 10 roubles and the identifier the provider gives its payment. -/
def tenRoubles : WalletService.TopUpRequest where
  userId := "user-1"
  amountKopecks := some 1000
  idempotenceKey := "key-1"
  reply := { id := "pay-1", confirmationToken := "token-1" }

/-- The payment is made, and then the webhook arrives. -/
def paidRun : List (Label Exception BillingRequest) :=
  [.start (.createTopUp tenRoubles), .step 0, .step 0, .step 0, .step 0,
    .start (.provider "pay-1" .succeeded), .step 1,
    .start (.webhook 0 (.text (some paidBody))), .step 2, .step 2, .step 2, .step 2]

/-- The client sends the webhook himself; he has not paid. -/
def forgedRun : List (Label Exception BillingRequest) :=
  [.start (.createTopUp tenRoubles), .step 0, .step 0, .step 0, .step 0,
    .start (.webhook 0 (.text (some paidBody))), .step 1, .step 1, .step 1, .step 1]

theorem creditsPaid_paidRun :
    ∃ s : Snapshot BillingCall BillingCall.Res Exception BillingReply BillingStore BillingRequest,
      CreditsPaid s.store ∧ s.store.wallet.balanceOf 1 = some 1000 := by
  have hcheck : (((billingMachine connectedEnv).trace (honestWebhooks connectedEnv) paidRun
      (initial emptyBilling)).map
        (fun s => s.store.wallet.balanceOf 1 == some 1000)) = some true := by decide
  obtain ⟨s, hrun, hbalance⟩ := (billingMachine connectedEnv).reaches_of_trace_check hcheck
  exact ⟨s, creditsPaid_of_honest emptyBilling_honest.1 emptyBilling_honest.2 hrun,
    by simpa using hbalance⟩

/-- The wallet is credited and no payment has succeeded. -/
theorem forged_credit : HonestInv emptyBilling ∧
      ∃ s : Snapshot BillingCall BillingCall.Res Exception BillingReply BillingStore BillingRequest,
        (billingMachine connectedEnv).Reaches (fun s l => anyStep s l)
          (initial emptyBilling) s ∧
        s.store.wallet.balanceOf 1 = some 1000 ∧
        (∀ p ∈ s.store.payments, p.status = .pending) ∧ ¬ CreditsPaid s.store := by
  refine ⟨emptyBilling_honest, ?_⟩
  have hcheck : (((billingMachine connectedEnv).trace anyStep forgedRun
      (initial emptyBilling)).map (fun s =>
        s.store.wallet.balanceOf 1 == some 1000 &&
          s.store.wallet.entries.any (fun e => e.type == .topup) &&
          s.store.payments.all (fun p => p.status == .pending))) = some true := by decide
  obtain ⟨s, hrun, hp⟩ := (billingMachine connectedEnv).reaches_of_trace_check hcheck
  simp only [Bool.and_eq_true, beq_iff_eq] at hp
  obtain ⟨⟨hbalance, hentry⟩, hpayments⟩ := hp
  have hpending : ∀ p ∈ s.store.payments, p.status = .pending := by grind
  refine ⟨s, hrun, hbalance, hpending, ?_⟩
  intro hpaid
  obtain ⟨e, he, htype⟩ := List.any_eq_true.mp hentry
  obtain ⟨-, -, p, hp, -, -, -, hsucceeded, -⟩ := hpaid e he (eq_of_beq htype)
  rw [hpending p hp] at hsucceeded
  cases hsucceeded

end QuizMind
