import QuizMind.Async.Machine
import QuizMind.Wallet.Repository

/-! # The billing system: wallet tables, webhook events, queue and provider

The calls that the billing handlers make, and what each of them does
atomically: a statement of the wallet repository outside any transaction, a
whole `settleTopUp` transaction, an access to the table `WebhookEvent`, an
insertion into the queue, or a request to the payment provider.
-/

namespace QuizMind

open Async

/-! ## Rows -/

inductive WebhookStatus where
  | received
  | processed
  | failed
  deriving DecidableEq

/-- The data of a webhook event to insert. -/
structure WebhookEventData where
  provider : String
  externalEventId : String
  eventType : String
  payloadJson : List (String × Json)
  providerCreatedAt : Option JsDate
  receivedAt : ℤ

structure WebhookEvent extends WebhookEventData where
  id : ℕ
  status : WebhookStatus
  processedAt : Option ℤ
  lastError : Option String

/-- The payload of a `billing-webhooks` job. -/
structure BillingWebhookJobPayload where
  provider : String
  webhookEventId : ℕ
  externalEventId : String
  eventType : String
  receivedAt : ℤ

structure QueueJob where
  id : String
  queue : String
  dedupeKey : String
  payload : BillingWebhookJobPayload

/-- The status of a payment at the provider. -/
inductive PaymentStatus where
  | pending
  | waiting_for_capture
  | succeeded
  | canceled
  deriving DecidableEq

/-- A payment at the provider; only a payment that was paid is `succeeded`. -/
structure YookassaPayment where
  id : String
  status : PaymentStatus
  amountKopecks : ℤ
  currency : String
  confirmationToken : String

structure CreatePaymentInput where
  amountKopecks : ℤ
  currency : String
  walletId : ℕ
  userId : String
  idempotenceKey : String

/-- What the provider chooses for a new payment. -/
structure PaymentReply where
  id : String
  confirmationToken : String

structure BillingStore where
  wallet : WalletStore
  webhookEvents : List WebhookEvent
  queue : List QueueJob
  payments : List YookassaPayment
  fresh : ℕ

namespace BillingStore

def webhookEvent (s : BillingStore) (provider externalEventId : String) : Option WebhookEvent :=
  s.webhookEvents.find? (fun e => e.provider == provider && e.externalEventId == externalEventId)

def webhookEventById (s : BillingStore) (id : ℕ) : Option WebhookEvent :=
  s.webhookEvents.find? (fun e => e.id == id)

def payment (s : BillingStore) (paymentId : String) : Option YookassaPayment :=
  s.payments.find? (fun p => p.id == paymentId)

end BillingStore

/-! ## Calls -/

/-- The calls of the billing handlers, the worker and the provider. -/
inductive BillingCall where
  | wallet (stmt : WalletStmt)
  | settleTopUp (input : SettleInput)
  | webhookEventCreate (data : WebhookEventData)
  | webhookEventFindFirst (provider externalEventId : String)
  | webhookEventFindById (id : ℕ)
  | webhookEventReset (id : ℕ)
  | webhookEventMarkProcessed (id : ℕ) (processedAt : ℤ)
  | queueAdd (job : QueueJob)
  | createPayment (input : CreatePaymentInput) (reply : PaymentReply)
  | setPaymentStatus (paymentId : String) (status : PaymentStatus)

abbrev BillingCall.Res : BillingCall → Type
  | .wallet stmt => stmt.Res
  | .settleTopUp _ => SettleResult
  | .webhookEventCreate _ => WebhookEvent
  | .webhookEventFindFirst _ _ => Option WebhookEvent
  | .webhookEventFindById _ => Option WebhookEvent
  | .webhookEventReset _ => WebhookEvent
  | .webhookEventMarkProcessed _ _ => Unit
  | .queueAdd _ => Unit
  | .createPayment _ _ => YookassaPayment
  | .setPaymentStatus _ _ => Unit

/-- The tables after a change of one webhook event. -/
def BillingStore.updateEvent (s : BillingStore) (id : ℕ) (f : WebhookEvent → WebhookEvent) :
    BillingStore :=
  { s with webhookEvents := s.webhookEvents.map (fun e => if e.id = id then f e else e) }

/-- The row of a new event. -/
def WebhookEventData.received (data : WebhookEventData) (id : ℕ) : WebhookEvent :=
  { data with id := id, status := .received, processedAt := none, lastError := none }

/-- The tables after the insertion of a webhook event. -/
def BillingStore.insertEvent (s : BillingStore) (data : WebhookEventData) : BillingStore :=
  { s with
    webhookEvents := s.webhookEvents ++ [data.received s.fresh]
    fresh := s.fresh + 1 }

theorem BillingStore.webhookEvent_insertEvent (s : BillingStore) (data : WebhookEventData)
    (provider id : String) :
    (s.insertEvent data).webhookEvent provider id = (s.webhookEvent provider id).or
      (if data.provider = provider ∧ data.externalEventId = id then
        some (data.received s.fresh) else none) := by
  by_cases h : data.provider = provider ∧ data.externalEventId = id
  all_goals simp [webhookEvent, insertEvent, WebhookEventData.received]

/-- A change of one event that keeps its keys is found under the same keys. -/
theorem BillingStore.webhookEvent_updateEvent (s : BillingStore) (id : ℕ)
    {f : WebhookEvent → WebhookEvent}
    (hf : ∀ e, (f e).provider = e.provider ∧ (f e).externalEventId = e.externalEventId)
    (provider externalId : String) :
    (s.updateEvent id f).webhookEvent provider externalId =
      (s.webhookEvent provider externalId).map (fun e => if e.id = id then f e else e) := by
  have hsame : ∀ e : WebhookEvent, (if e.id = id then f e else e).provider = e.provider ∧
      (if e.id = id then f e else e).externalEventId = e.externalEventId := by grind
  simp only [webhookEvent, updateEvent, List.find?_map]
  congr 2
  funext e
  simp [hsame e]

/-- A date that has a database value. -/
def storable : Option JsDate → Bool
  | some none => false
  | _ => true

/-- What each call does, atomically. -/
def BillingCall.exec : (call : BillingCall) → BillingStore →
    Except Exception call.Res × BillingStore
  | .wallet stmt, s =>
    let out := walletDb.execAlone stmt (s.wallet, s.fresh)
    (out.1, { s with wallet := out.2.1, fresh := out.2.2 })
  | .settleTopUp input, s =>
    let out := (QuizMind.settleTopUp input).atomically walletDb.execAlone [] (s.wallet, s.fresh)
    (out.1, { s with wallet := out.2.1, fresh := out.2.2 })
  | .webhookEventCreate data, s =>
    if !storable data.providerCreatedAt then
      (.error .prismaValidation, s)
    else if (s.webhookEvent data.provider data.externalEventId).isSome then
      (.error (.prisma "P2002"), s)
    else
      (.ok (data.received s.fresh), s.insertEvent data)
  | .webhookEventFindFirst provider externalEventId, s =>
    (.ok (s.webhookEvent provider externalEventId), s)
  | .webhookEventFindById id, s => (.ok (s.webhookEventById id), s)
  | .webhookEventReset id, s =>
    match s.webhookEventById id with
    | none => (.error (.prisma "P2025"), s)
    | some event =>
      let reset : WebhookEvent → WebhookEvent := fun e =>
        { e with status := .received, processedAt := none, lastError := none }
      (.ok (reset event), s.updateEvent id reset)
  | .webhookEventMarkProcessed id processedAt, s =>
    match s.webhookEventById id with
    | none => (.error (.prisma "P2025"), s)
    | some _ =>
      (.ok (), s.updateEvent id fun e =>
        { e with status := .processed, processedAt := some processedAt, lastError := none })
  | .queueAdd job, s =>
    -- a job whose id is already queued is not added again
    if s.queue.any (fun j => j.id == job.id) then
      (.ok (), s)
    else
      (.ok (), { s with queue := s.queue ++ [job] })
  | .createPayment input reply, s =>
    if (s.payment reply.id).isSome then
      (.error (.error "the provider does not reuse identifiers"), s)
    else
      let payment : YookassaPayment :=
        { id := reply.id
          status := .pending
          amountKopecks := input.amountKopecks
          currency := input.currency
          confirmationToken := reply.confirmationToken }
      (.ok payment, { s with payments := s.payments ++ [payment] })
  | .setPaymentStatus paymentId status, s =>
    -- a payment that succeeded stays so
    (.ok (), { s with payments := s.payments.map (fun p =>
      if p.id = paymentId ∧ p.status ≠ .succeeded then { p with status := status } else p) })

/-- Dispatching a job changes the queue at most. -/
theorem queueAdd_exec (job : QueueJob) (s : BillingStore) :
    ∃ queue, BillingCall.exec (.queueAdd job) s = (.ok (), { s with queue := queue }) := by
  by_cases hqueued : s.queue.any (fun j => j.id == job.id)
  · exact ⟨s.queue, by simp only [BillingCall.exec, hqueued, if_true]⟩
  · exact ⟨s.queue ++ [job], by simp only [BillingCall.exec, hqueued, if_false, Bool.false_eq_true]⟩

/-- A program over the billing calls. -/
abbrev BillingProg := Prog BillingCall BillingCall.Res Exception

/-- One call. -/
abbrev billing (call : BillingCall) : BillingProg call.Res := Prog.await call

/-- A method of the wallet repository that opens no transaction. -/
def onWallet {α : Type} : WalletProg α → BillingProg α
  | .ret a => .ret a
  | .throw e => .throw e
  | .call stmt k => .call (.wallet stmt) (fun r => onWallet (k r))

end QuizMind
