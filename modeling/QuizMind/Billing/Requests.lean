import QuizMind.Billing.System

/-! # The billing requests that settle nothing

Only a webhook settles top-ups and only a webhook records events. All calls of
the worker's job and of the admin retry are `Plain`; `createTopUp` inserts a
row for the payment it has just created and does nothing else that matters. So
an invariant that can only be broken by settling a top-up is kept by all of
them (`valid_of_plain`, `createTopUp_valid`).
-/

namespace QuizMind

open Async BillingService

/-- The calls that neither record an event nor insert or settle a top-up. -/
def BillingCall.Plain : BillingCall → Prop
  | .webhookEventCreate _ => False
  | call => call.Neutral

/-- The calls that record no event. -/
def BillingCall.NoEvent : BillingCall → Prop
  | .webhookEventCreate _ => False
  | _ => True

/-- The calls that leave no event to be processed: they neither record nor reset one. -/
def BillingCall.Tame : BillingCall → Prop
  | .webhookEventCreate _ | .webhookEventReset _ => False
  | _ => True

variable {call : BillingCall}

theorem BillingCall.Plain.neutral (h : call.Plain) : call.Neutral := by
  cases call with
  | webhookEventCreate data => exact h.elim
  | _ => exact h

theorem BillingCall.Plain.noEvent (h : call.Plain) : call.NoEvent := by
  cases call with
  | webhookEventCreate data => exact h.elim
  | _ => trivial

theorem BillingCall.Tame.noEvent (h : call.Tame) : call.NoEvent := by
  cases call with
  | webhookEventCreate data => exact h.elim
  | _ => trivial

/-! ## The programs -/

variable {guar : BillingCall → Prop}

theorem findRecorded_safe (data : WebhookEventData) (e : Exception)
    (hfind : guar (.webhookEventFindFirst data.provider data.externalEventId)) :
    (findRecorded data e).Safe (fun _ _ => True) guar := by
  unfold findRecorded
  split
  · refine Prog.safe_await_bind hfind ?_
    intro record _
    cases record <;> trivial
  · trivial

theorem findRecorded_plain (data : WebhookEventData) (e : Exception) :
    (findRecorded data e).Safe (fun _ _ => True) BillingCall.Plain :=
  findRecorded_safe data e trivial

theorem dispatchJob_safe (event : YookassaWebhookEvent) (record : WebhookEvent)
    (hqueue : guar (.queueAdd (webhookJob event record))) :
    (dispatchJob event record).Safe (fun _ _ => True) guar :=
  Prog.safe_await_bind hqueue fun _ _ => trivial

theorem dispatchJob_plain (event : YookassaWebhookEvent) (record : WebhookEvent) :
    (dispatchJob event record).Safe (fun _ _ => True) BillingCall.Plain :=
  dispatchJob_safe event record trivial

theorem job_safe (now : ℤ) (payload : BillingWebhookJobPayload)
    (hfind : ∀ id, guar (.webhookEventFindById id))
    (hmark : ∀ id processedAt, guar (.webhookEventMarkProcessed id processedAt)) :
    (processBillingWebhookJob now payload).Safe (fun _ _ => True) guar := by
  refine Prog.safe_await_bind (hfind _) ?_
  intro webhook _
  cases webhook with
  | none => trivial
  | some webhook =>
    simp only
    split
    · trivial
    · exact Prog.safe_await_bind (hmark _ _) fun _ _ => trivial

theorem job_plain (now : ℤ) (payload : BillingWebhookJobPayload) :
    (processBillingWebhookJob now payload).Safe (fun _ _ => True) BillingCall.Plain :=
  job_safe now payload (fun _ => trivial) (fun _ _ => trivial)

theorem retry_plain (now : ℤ) (request : RetryRequest) :
    (retryAdminWebhook now request).Safe (fun _ _ => True) BillingCall.Plain := by
  unfold retryAdminWebhook
  split
  · trivial
  · trivial
  · refine Prog.safe_await_bind (by trivial) ?_
    intro webhookEvent _
    cases webhookEvent with
    | none => trivial
    | some webhookEvent =>
      simp only
      split
      · trivial
      split
      · trivial
      refine Prog.safe_await_bind (by trivial) ?_
      intro _ _
      refine ⟨trivial, ?_⟩
      intro r _
      cases r <;> trivial

theorem findOrCreateWallet_plain (userId : String) :
    (onWallet (findOrCreateWalletForUser userId)).Safe (fun _ _ => True) BillingCall.Plain := by
  refine ⟨trivial, ?_⟩
  intro r _
  rcases r with e | _ | wallet
  · trivial
  · refine ⟨trivial, ?_⟩
    intro r _
    cases r <;> trivial
  · trivial

/-- A method of the wallet repository leaves the events alone. -/
theorem onWallet_tame {α : Type} (p : WalletProg α) :
    (onWallet p).Safe (fun _ _ => True) BillingCall.Tame := by
  induction p with
  | ret a | throw e => trivial
  | call stmt k ih => exact ⟨trivial, fun r _ => ih r⟩

theorem createTopUp_tame (env : BillingEnv) (request : WalletService.TopUpRequest) :
    (WalletService.createTopUp env request).Safe (fun _ _ => True) BillingCall.Tame := by
  unfold WalletService.createTopUp
  split
  · trivial
  split
  · trivial
  refine Prog.safe_bind (onWallet_tame _) ?_
  intro wallet
  split
  · trivial
  refine Prog.safe_await_bind (by trivial) ?_
  intro payment _
  exact Prog.safe_await_bind (by trivial) fun _ _ => trivial

theorem createTopUp_noEvent (env : BillingEnv) (request : WalletService.TopUpRequest) :
    (WalletService.createTopUp env request).Safe (fun _ _ => True) BillingCall.NoEvent :=
  (createTopUp_tame env request).mono fun _ => BillingCall.Tame.noEvent

/-! ## Invariants that only a settlement can break -/

/-- A step that settles no top-up keeps `I`. -/
structure KeptUnlessSettled (I : BillingStore → Prop) : Prop where
  backed : ∀ s, I s → Backed s
  keep : ∀ s s', I s → Backed s' → Grows s s' → NothingSettled s s' → I s'

theorem backed_kept : KeptUnlessSettled Backed where
  backed := fun _ h => h
  keep := fun _ _ _ hbacked _ _ => hbacked

section Requests

variable {I : BillingStore → Prop} (hI : KeptUnlessSettled I)
include hI

theorem KeptUnlessSettled.neutral {call : BillingCall} {s : BillingStore} (h : I s)
    (hcall : call.Neutral) : I (call.exec s).2 ∧ Grows s (call.exec s).2 := by
  obtain ⟨⟨hbacked, hgrows⟩, hnothing⟩ := (hI.backed s h).neutral hcall
  exact ⟨hI.keep _ _ h hbacked hgrows hnothing, hgrows⟩

/-- A program of plain calls is valid. -/
theorem valid_of_plain {α : Type} {p : BillingProg α}
    (hp : p.Safe (fun _ _ => True) BillingCall.Plain) (s : BillingStore) :
    p.Valid BillingCall.exec I Grows s := by
  have hcall : ∀ (call : BillingCall) (s : BillingStore), call.Plain → I s →
      I (call.exec s).2 ∧ Grows s (call.exec s).2 := by
    intro call s hcall h
    exact hI.neutral h hcall.neutral
  exact Prog.valid_of_safe hcall hp s

/-- `createTopUp` inserts a row only for the payment it has just created. -/
theorem createTopUp_valid (env : BillingEnv) (request : WalletService.TopUpRequest)
    (s : BillingStore) :
    (WalletService.createTopUp env request).Valid BillingCall.exec I Grows s := by
  unfold WalletService.createTopUp
  split
  · trivial
  split
  · trivial
  rename_i amountKopecks _
  refine Prog.valid_bind Grows.refl Grows.trans
    (valid_of_plain hI (findOrCreateWallet_plain _) s) ?_
  intro wallet s₁ _
  split
  · trivial
  refine Prog.valid_await_bind ?_
  intro s₂ _ h₂
  have hcreate : BillingCall.Neutral (.createPayment
    { amountKopecks := amountKopecks
      currency := wallet.currency
      walletId := wallet.id
      userId := request.userId
      idempotenceKey := request.idempotenceKey } request.reply) := trivial
  obtain ⟨hinv, hgrows⟩ := hI.neutral h₂ hcreate
  refine ⟨hinv, hgrows, ?_⟩
  intro payment hpayment
  obtain ⟨hmem, hamount⟩ := createPayment_exec hpayment
  refine Prog.valid_await_bind ?_
  intro s₃ h₂₃ h₃
  obtain ⟨p, hp, hsame⟩ := h₂₃.payments payment hmem
  let data : TopUpData :=
    { walletId := wallet.id
      createdByUserId := request.userId
      amountKopecks := amountKopecks
      currency := wallet.currency
      idempotenceKey := request.idempotenceKey
      providerPaymentId := payment.id
      confirmationToken := payment.confirmationToken }
  have hid : p.id = data.providerPaymentId := hsame.1
  have hsum : p.amountKopecks = data.amountKopecks := hsame.2.1.trans hamount
  obtain ⟨⟨hbacked, hgrows'⟩, hnothing⟩ := (hI.backed s₃ h₃).insertTopUp hp hid hsum
  exact ⟨hI.keep _ _ h₃ hbacked hgrows' hnothing, hgrows', fun _ _ => trivial⟩

end Requests

end QuizMind
