import QuizMind.Billing.Store
import Mathlib.Data.Rat.Defs
import Mathlib.Algebra.Order.Ring.Rat

/-! # `WalletService` and `BillingService`

The handlers behind `POST wallet/topups` and `POST billing/webhooks/yookassa`,
the worker's `billing-webhooks` job and the admin retry, as programs over the
billing calls.

A request body is given by what `JSON.parse` makes of it. The clock, the
random idempotence key and what the provider chooses are part of a request, so
a statement about every request is a statement about every choice of them.
-/

namespace QuizMind

open Async

/-- The settings read by the handlers, and `Date.parse`. -/
structure BillingEnv where
  runtimeMode : String
  yookassaShopId : Option String
  yookassaSecretKey : Option String
  parseDate : String → JsDate

/-! ## `WalletService` -/

namespace WalletService

def MIN_TOPUP_KOPECKS : ℤ := 1000
def MAX_TOPUP_KOPECKS : ℤ := 100000000

structure TopUpRequest where
  userId : String
  amountKopecks : Option ℚ
  idempotenceKey : String
  reply : PaymentReply

structure TopUpCreateResult where
  topUpId : ℕ
  confirmationToken : String
  amountKopecks : ℤ
  currency : String
  providerPaymentId : String
  status : TopUpStatus

/-- The checks on the requested amount. -/
def checkAmount (amountKopecks : Option ℚ) : Except Exception ℤ :=
  match amountKopecks with
  | none => .error (.badRequest "amountKopecks must be an integer.")
  | some amount =>
    if amount.den ≠ 1 then
      .error (.badRequest "amountKopecks must be an integer.")
    else if amount.num < MIN_TOPUP_KOPECKS then
      .error (.badRequest "Minimum top-up amount is 10 ₽.")
    else if MAX_TOPUP_KOPECKS < amount.num then
      .error (.badRequest "Maximum top-up amount is 1000000 ₽.")
    else
      .ok amount.num

/-- `buildYookassaClient`: both credentials must be set. -/
def yookassaConfigured (env : BillingEnv) : Bool :=
  (env.yookassaShopId.map jsTrim).getD "" != "" && (env.yookassaSecretKey.map jsTrim).getD "" != ""

/-- The part of `createTopUp` after the amount has been checked: the payment is
created at the provider first, the row that refers to it afterwards. -/
def payAndInsert (env : BillingEnv) (request : TopUpRequest) (amountKopecks : ℤ) :
    BillingProg TopUpCreateResult := do
  let wallet ← onWallet (findOrCreateWalletForUser request.userId)
  if !yookassaConfigured env then
    throw (.serviceUnavailable
      "YooKassa is not configured. Set YOOKASSA_SHOP_ID and YOOKASSA_SECRET_KEY.")
  else do
    let payment ← billing (.createPayment
      { amountKopecks := amountKopecks
        currency := wallet.currency
        walletId := wallet.id
        userId := request.userId
        idempotenceKey := request.idempotenceKey } request.reply)
    let topUp ← billing (.wallet (.topUpCreate
      { walletId := wallet.id
        createdByUserId := request.userId
        amountKopecks := amountKopecks
        currency := wallet.currency
        idempotenceKey := request.idempotenceKey
        providerPaymentId := payment.id
        confirmationToken := payment.confirmationToken }))
    return { topUpId := topUp.id
             confirmationToken := payment.confirmationToken
             amountKopecks := amountKopecks
             currency := wallet.currency
             providerPaymentId := payment.id
             status := .pending }

def createTopUp (env : BillingEnv) (request : TopUpRequest) : BillingProg TopUpCreateResult :=
  if env.runtimeMode ≠ "connected" then
    throw (.serviceUnavailable "Wallet endpoints require QUIZMIND_RUNTIME_MODE=connected.")
  else
    match checkAmount request.amountKopecks with
    | .error e => throw e
    | .ok amountKopecks => payAndInsert env request amountKopecks

structure PaymentEvent where
  eventType : String
  paymentId : String
  paidAt : Option JsDate

structure ProcessResult where
  processed : Bool
  reason : String

/-- The part of `processYookassaPaymentEvent` after the top-up was found. -/
def applyToTopUp (now : ℤ) (input : PaymentEvent) (topUp : WalletTopUp) :
    BillingProg ProcessResult :=
  if input.eventType = "payment.succeeded" then do
    let result ← billing (.settleTopUp (topUp.settlement (input.paidAt.getD (some now))))
    if result.alreadySettled then
      return { processed := false, reason := "already_settled" }
    else
      return { processed := true, reason := "balance_credited" }
  else if input.eventType = "payment.canceled" then do
    billing (.wallet (.topUpCancelPending topUp.id))
    return { processed := true, reason := "topup_canceled" }
  else
    return { processed := false, reason := "unhandled_event_type" }

def processYookassaPaymentEvent (now : ℤ) (input : PaymentEvent) : BillingProg ProcessResult := do
  let topUp ← billing (.wallet (.topUpFindByPayment input.paymentId))
  match topUp with
  | none => return { processed := false, reason := "no_matching_topup" }
  | some topUp => applyToTopUp now input topUp

end WalletService

/-! ## `BillingService` -/

namespace BillingService

/-- The raw body of a request: missing or empty, or a text, with what
`JSON.parse` makes of it (`none`: it throws). -/
inductive RawBody where
  | missing
  | text (parsed : Option Json)

structure YookassaWebhookEvent where
  id : String
  type : String
  createdAt : Option JsDate
  payload : List (String × Json)

/-- A member that is a string with more than white space, trimmed. -/
def trimmedString : Option Json → Option String
  | some (.string s) => if jsTrim s = "" then none else some (jsTrim s)
  | _ => none

/-- `new Date(n)`: beyond the range of dates it is invalid. -/
def dateOfNumber (n : ℤ) : JsDate :=
  if n.natAbs ≤ 8640000000000000 then some n else none

/-- `created_at ?? createdAt` as a date. -/
def createdAtOf (env : BillingEnv) (members : List (String × Json)) : Option JsDate :=
  match Json.coalesce (Json.member members "created_at") (Json.member members "createdAt") with
  | some (.string s) => if jsTrim s = "" then none else some (env.parseDate s)
  | some (.number n) => some (dateOfNumber n)
  | _ => none

/-- The payload keeps the members of the object as they are. -/
def parseYookassaWebhookEvent (env : BillingEnv) (parsed : Option Json) :
    Except Exception YookassaWebhookEvent :=
  match parsed with
  | none => .error (.badRequest "YooKassa webhook payload is not valid JSON.")
  | some (.object members) =>
    match trimmedString (Json.member members "id"), trimmedString (Json.member members "type") with
    | some id, some type =>
      .ok
        { id := id
          type := type
          createdAt := createdAtOf env members
          payload := members }
    | _, _ => .error
        (.badRequest "YooKassa webhook payload is missing required id or type fields.")
  | some _ => .error (.badRequest "YooKassa webhook payload must be a JSON object.")

/-- `event.payload.object`, when it is an object. -/
def YookassaWebhookEvent.object (event : YookassaWebhookEvent) : Option (List (String × Json)) :=
  match Json.member event.payload "object" with
  | some (.object members) => some members
  | _ => none

/-- The identifier of the payment: that of the object, else that of the event. -/
def YookassaWebhookEvent.paymentId (event : YookassaWebhookEvent) : String :=
  match event.object.bind (fun members => Json.member members "id") with
  | some (.string s) => jsTrim s
  | _ => event.id

/-- `captured_at` of the object, else the current time. -/
def YookassaWebhookEvent.paidAt (env : BillingEnv) (now : ℤ) (event : YookassaWebhookEvent) :
    JsDate :=
  match event.object.bind (fun members => Json.member members "captured_at") with
  | some (.string s) => if s = "" then some now else env.parseDate s
  | _ => some now

/-- The `catch` of `recordReceivedEvent`: after a unique constraint error the
event must be there. -/
def findRecorded (data : WebhookEventData) (error : Exception) :
    BillingProg (WebhookEvent × Bool) :=
  if error = .prisma "P2002" then do
    let record ← billing (.webhookEventFindFirst data.provider data.externalEventId)
    match record with
    | none => throw error
    | some record => return (record, true)
  else
    throw error

/-- Insert the event, or find the one that is there. -/
def recordReceivedEvent (data : WebhookEventData) : BillingProg (WebhookEvent × Bool) :=
  tryCatch (do
      let record ← billing (.webhookEventCreate data)
      return (record, false))
    (findRecorded data)

structure IngestResult where
  accepted : Bool
  duplicate : Bool
  provider : String
  eventId : String
  eventType : String
  receivedAt : ℤ
  queue : Option String
  jobId : Option String

/-- The job of an event: its id is built from the deduplication key. -/
def webhookJob (event : YookassaWebhookEvent) (record : WebhookEvent) : QueueJob where
  id := s!"billing-webhooks:yookassa:{event.id}"
  queue := "billing-webhooks"
  dedupeKey := s!"yookassa:{event.id}"
  payload :=
    { provider := "yookassa"
      webhookEventId := record.id
      externalEventId := event.id
      eventType := event.type
      receivedAt := record.receivedAt }

/-- The row of an event. -/
def eventData (now : ℤ) (event : YookassaWebhookEvent) : WebhookEventData where
  provider := "yookassa"
  externalEventId := event.id
  eventType := event.type
  payloadJson := event.payload
  providerCreatedAt := event.createdAt
  receivedAt := now

/-- The end of `ingestYookassaWebhook`: the job is dispatched and the webhook
accepted. -/
def dispatchJob (event : YookassaWebhookEvent) (record : WebhookEvent) :
    BillingProg IngestResult := do
  billing (.queueAdd (webhookJob event record))
  return { accepted := true
           duplicate := false
           provider := "yookassa"
           eventId := event.id
           eventType := event.type
           receivedAt := record.receivedAt
           queue := some "billing-webhooks"
           jobId := some (webhookJob event record).id }

/-- The part of `ingestYookassaWebhook` after the event has been recorded for
the first time. -/
def processRecorded (env : BillingEnv) (now : ℤ) (event : YookassaWebhookEvent)
    (record : WebhookEvent) : BillingProg IngestResult := do
  let _ ← WalletService.processYookassaPaymentEvent now
    { eventType := event.type
      paymentId := event.paymentId
      paidAt := some (event.paidAt env now) }
  dispatchJob event record

/-- The answer to a delivery whose event was there already. -/
def duplicateResult (event : YookassaWebhookEvent) (record : WebhookEvent) : IngestResult where
  accepted := true
  duplicate := true
  provider := "yookassa"
  eventId := event.id
  eventType := event.type
  receivedAt := record.receivedAt
  queue := none
  jobId := none

/-- The part of `ingestYookassaWebhook` after the event has been recorded: an
event that was there already is accepted at once. -/
def afterRecording (env : BillingEnv) (now : ℤ) (event : YookassaWebhookEvent)
    (persistedEvent : WebhookEvent × Bool) : BillingProg IngestResult :=
  if persistedEvent.2 then
    return duplicateResult event persistedEvent.1
  else
    processRecorded env now event persistedEvent.1

/-- The part of `ingestYookassaWebhook` after the body has been parsed. -/
def receiveEvent (env : BillingEnv) (now : ℤ) (event : YookassaWebhookEvent) :
    BillingProg IngestResult := do
  let persistedEvent ← recordReceivedEvent (eventData now event)
  afterRecording env now event persistedEvent

/-- The first call inserts the event; a failure of it goes to the `catch`. -/
theorem receiveEvent_eq (env : BillingEnv) (now : ℤ) (event : YookassaWebhookEvent) :
    receiveEvent env now event =
      .call (.webhookEventCreate (eventData now event)) fun r => (match r with
        | .ok record => .ret (record, false)
        | .error e => findRecorded (eventData now event) e) >>= afterRecording env now event := by
  simp only [receiveEvent, recordReceivedEvent, Prog.await, Prog.call_bind, Prog.tryCatch_eq,
    Prog.call_handle]
  congr 1
  funext r
  cases r <;> rfl

def ingestYookassaWebhook (env : BillingEnv) (now : ℤ) (rawBody : RawBody) :
    BillingProg IngestResult :=
  if env.runtimeMode ≠ "connected" then
    throw (.serviceUnavailable
      "YooKassa webhook endpoint requires QUIZMIND_RUNTIME_MODE=connected.")
  else
    match rawBody with
    | .missing => throw (.badRequest "Missing raw YooKassa webhook payload.")
    | .text parsed =>
      match parseYookassaWebhookEvent env parsed with
      | .error e => throw e
      | .ok event => receiveEvent env now event

end BillingService

/-! ## The worker and the admin retry -/

structure JobResult where
  processed : Bool
  webhookEventId : ℕ
  externalEventId : String
  eventType : String

/-- The worker's job: it marks the event and does nothing to any wallet. -/
def processBillingWebhookJob (now : ℤ) (job : BillingWebhookJobPayload) :
    BillingProg JobResult := do
  let webhook ← billing (.webhookEventFindById job.webhookEventId)
  match webhook with
  | none => throw (.error s!"Billing webhook event {job.webhookEventId} was not found.")
  | some webhook =>
    if webhook.processedAt.isSome ∨ webhook.status = .processed then
      return { processed := false
               webhookEventId := webhook.id
               externalEventId := webhook.externalEventId
               eventType := webhook.eventType }
    else do
      billing (.webhookEventMarkProcessed webhook.id now)
      return { processed := true
               webhookEventId := webhook.id
               externalEventId := webhook.externalEventId
               eventType := webhook.eventType }

/-- `normalizeBillingProvider`. -/
def normalizeBillingProvider (provider : String) : String :=
  if provider ∈ ["manual", "mock", "yookassa", "paddle"] then provider else "stripe"

/-- An admin's request to retry a webhook event; the access decision is that of
`canRetryJobs`, with its reasons joined. -/
structure RetryRequest where
  access : Except String Unit
  webhookEventId : Option ℕ

def retryAdminWebhook (now : ℤ) (request : RetryRequest) : BillingProg Unit :=
  match request.access, request.webhookEventId with
  | .error reasons, _ => throw (.forbidden reasons)
  | .ok _, none => throw (.badRequest "webhookEventId is required.")
  | .ok _, some webhookEventId => do
      let webhookEvent ← billing (.webhookEventFindById webhookEventId)
      match webhookEvent with
      | none => throw (.notFound "Webhook event not found.")
      | some webhookEvent =>
        let provider := normalizeBillingProvider webhookEvent.provider
        if webhookEvent.processedAt.isSome ∨ webhookEvent.status = .processed then
          throw (.badRequest "Processed webhook events cannot be retried.")
        else if webhookEvent.status ≠ .failed then
          throw (.badRequest "Only failed webhook events can be retried.")
        else do
          let _ ← billing (.webhookEventReset webhookEvent.id)
          billing (.queueAdd
            { id := s!"billing-webhooks:retry:{webhookEvent.id}:{now}"
              queue := "billing-webhooks"
              dedupeKey := s!"retry:{provider}:{webhookEvent.externalEventId}:{now}"
              payload :=
                { provider := provider
                  webhookEventId := webhookEvent.id
                  externalEventId := webhookEvent.externalEventId
                  eventType := webhookEvent.eventType
                  receivedAt := webhookEvent.receivedAt } })

end QuizMind
