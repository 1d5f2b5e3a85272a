import QuizMind.Billing.Service
import QuizMind.Wallet.SettleAlone
import QuizMind.Wallet.Settlement

/-! # Redelivered webhooks

The provider delivers `payment.succeeded` webhooks of one payment, any number
of times, and any call that a delivery makes may fail. `ingestYookassaWebhook`
commits the webhook event before it settles the top-up, and answers every later
delivery of the same event as a duplicate without looking at the top-up. A
delivery that fails in between therefore loses the credit
(`accepted_without_credit`).

Which sequences of deliveries keep the promise "accepted implies credited" can
be read off the deliveries alone (`accepted_credited_iff`): those in which no
delivery is answered as a duplicate, or some delivery gets through to the
settlement.
-/

namespace QuizMind

open Async BillingService

/-- One delivery of a `payment.succeeded` webhook for a payment, with the calls
of its handler that fail. -/
structure Delivery (env : BillingEnv) (paymentId : String) where
  now : ℤ
  parsed : Option Json
  event : YookassaWebhookEvent
  faults : List (Option Exception)
  parses : parseYookassaWebhookEvent env parsed = .ok event
  succeeded : event.type = "payment.succeeded"
  payment : event.paymentId = paymentId

section Deliveries

variable {env : BillingEnv} {paymentId : String}

/-- The outcome of one delivery. -/
def Delivery.outcome (d : Delivery env paymentId) (s : BillingStore) :
    Except Exception IngestResult × BillingStore :=
  (ingestYookassaWebhook env d.now (.text d.parsed)).run BillingCall.exec d.faults s

/-- The outcomes of a sequence of deliveries, and the store after it. -/
def deliver : List (Delivery env paymentId) → BillingStore →
    List (Except Exception IngestResult) × BillingStore
  | [], s => ([], s)
  | d :: ds, s =>
    let out := d.outcome s
    let rest := deliver ds out.2
    (out.1 :: rest.1, rest.2)

/-- The delivery was answered with `accepted: true`. -/
def Accepted : Except Exception IngestResult → Prop
  | .ok r => r.accepted = true
  | .error _ => False

/-- The failure of the handler's call number `i`, if it fails. -/
def Delivery.fault (d : Delivery env paymentId) (i : ℕ) : Option Exception :=
  (d.faults.drop i).headD none

/-! ## What can be read off the deliveries -/

/-- The insertion of the event is not what fails. -/
def Delivery.creates (d : Delivery env paymentId) : Bool :=
  d.fault 0 == none && storable d.event.createdAt

/-- The events recorded after a delivery, from those recorded before it. -/
def Delivery.recorded (d : Delivery env paymentId) (ids : List String) : List String :=
  if d.event.id ∉ ids ∧ d.creates then d.event.id :: ids else ids

/-- The delivery is the first of its event, and its insertion, its lookup and
its settlement go through. -/
def Delivery.settles (d : Delivery env paymentId) (ids : List String) : Bool :=
  decide (d.event.id ∉ ids) && d.creates && d.fault 1 == none && d.fault 2 == none &&
    d.event.paidAt env d.now != none

/-- The event is recorded, and the delivery gets as far as finding it. -/
def Delivery.answeredAsDuplicate (d : Delivery env paymentId) (ids : List String) : Bool :=
  decide (d.event.id ∈ ids) && (d.creates || d.fault 0 == some (.prisma "P2002")) &&
    d.fault 1 == none

/-- Some delivery of the sequence has the property at its point. -/
def Occurs (p : Delivery env paymentId → List String → Bool) :
    List String → List (Delivery env paymentId) → Prop
  | _, [] => False
  | ids, d :: ds => p d ids ∨ Occurs p (d.recorded ids) ds

/-- No delivery is answered as a duplicate, or some delivery settles. -/
def NoneLost (ids : List String) (ds : List (Delivery env paymentId)) : Prop :=
  env.runtimeMode = "connected" → Occurs Delivery.answeredAsDuplicate ids ds →
    Occurs Delivery.settles ids ds

/-! ## The states in between -/

/-- Before the first delivery: the top-up waits for its payment. -/
structure Waiting (paymentId : String) (topUp : WalletTopUp) (s₀ : WalletStore) : Prop where
  byPayment : s₀.topUpByPayment paymentId = some topUp
  byId : s₀.topUpById topUp.id = some topUp
  pending : topUp.status = .pending
  wallet : ∃ w, s₀.walletById topUp.walletId = some w
  uncredited : s₀.topUpEntries topUp.id = []

/-- The wallet has been credited `credits` times since `s₀`, and the status of
the top-up says so. -/
structure CreditedTimes (topUp : WalletTopUp) (s₀ : WalletStore) (credits : ℕ)
    (s : WalletStore) : Prop where
  status : s.statusOf topUp.id = some (if credits = 0 then .pending else .succeeded)
  entries : (s.topUpEntries topUp.id).length = credits
  balance : ∀ id, s.balanceOf id = (s₀.balanceOf id).map
    (fun b => if id = topUp.walletId then b + credits * topUp.amountKopecks else b)

/-- Accepted implies credited exactly once. -/
def AcceptedCredited (topUp : WalletTopUp) (s₀ : WalletStore)
    (out : List (Except Exception IngestResult) × BillingStore) : Prop :=
  (∃ r ∈ out.1, Accepted r) → CreditedTimes topUp s₀ 1 out.2.wallet

/-- The events recorded in the store. -/
def recordedIds (s : BillingStore) : List String :=
  (s.webhookEvents.filter (fun e => e.provider == "yookassa")).map (fun e => e.externalEventId)

theorem mem_recordedIds {s : BillingStore} {id : String} :
    id ∈ recordedIds s ↔ (s.webhookEvent "yookassa" id).isSome := by
  simp only [recordedIds, BillingStore.webhookEvent]
  · grind

/-- The store after some deliveries: the recorded events, and the wallet tables
as they were or settled once. -/
structure Tracks (topUp : WalletTopUp) (s₀ : WalletStore) (ids : List String) (settled : Bool)
    (s : BillingStore) : Prop where
  events : ∀ id, (s.webhookEvent "yookassa" id).isSome ↔ id ∈ ids
  open' : settled = false → s.wallet = s₀
  settled' : settled = true → ∃ paidAt n b, s.wallet = settledStore s₀ topUp paidAt n b

variable {topUp : WalletTopUp} {s₀ : WalletStore} {ids : List String} {settled : Bool}
  {s : BillingStore}

theorem creditedTimes_settled (h : Waiting paymentId topUp s₀) (paidAt : ℤ) (n : ℕ) (b : ℤ) :
    CreditedTimes topUp s₀ 1 (settledStore s₀ topUp paidAt n b) where
  status := by
    have hstat : s₀.statusOf topUp.id = some topUp.status := by
      simp [WalletStore.statusOf, h.byId]
    simp [settledStore, hstat]
  entries := by
    simp [settledStore, creditEntry, WalletStore.topUpEntries_insertEntry, h.uncredited]
  balance := by
    simp [settledStore]

/-- An uncredited top-up is not credited. -/
theorem not_creditedTimes_open (h : Waiting paymentId topUp s₀) : ¬ CreditedTimes topUp s₀ 1 s₀ := by
  intro hcredited
  have hentries := hcredited.entries
  rw [h.uncredited] at hentries
  simp at hentries

/-- The row of the top-up after some deliveries. -/
structure IsRow (paymentId : String) (topUp : WalletTopUp) (settled : Bool) (s : WalletStore)
    (row : WalletTopUp) : Prop where
  byPayment : s.topUpByPayment paymentId = some row
  byId : s.topUpById row.id = some row
  status : settled = true → row.status = .succeeded
  same : settled = false → row = topUp

section

variable (h : Tracks topUp s₀ ids settled s)
include h

theorem Tracks.row (hwait : Waiting paymentId topUp s₀) :
    ∃ row, IsRow paymentId topUp settled s.wallet row := by
  cases hsett : settled with
  | false =>
    have hopen := h.open' hsett
    rw [hopen]
    exact ⟨topUp, hwait.byPayment, hwait.byId, by simp, fun _ => rfl⟩
  | true =>
    obtain ⟨paidAt, n, b, hstore⟩ := h.settled' hsett
    have hpay : (settledStore s₀ topUp paidAt n b).topUpByPayment paymentId =
        (s₀.apply (.setTopUp topUp.id .succeeded (some paidAt))).topUpByPayment paymentId := rfl
    have hid : (settledStore s₀ topUp paidAt n b).topUpById topUp.id =
        (s₀.apply (.setTopUp topUp.id .succeeded (some paidAt))).topUpById topUp.id := rfl
    rw [hstore]
    refine ⟨topUp.mark .succeeded (some paidAt), ?_, ?_, fun _ => rfl, by simp⟩
    · rw [hpay]
      simp [hwait.byPayment]
    show (settledStore s₀ topUp paidAt n b).topUpById topUp.id = _
    rw [hid]
    simp [hwait.byId]

/-! ## One delivery -/

/-- The deliveries only look at the wallet tables and the events. -/
theorem Tracks.congr {t : BillingStore}
    (hwallet : t.wallet = s.wallet) (hevs : t.webhookEvents = s.webhookEvents) :
    Tracks topUp s₀ ids settled t where
  events := by
    intro id
    have hfind : t.webhookEvent "yookassa" id = s.webhookEvent "yookassa" id := by
      simp [BillingStore.webhookEvent, hevs]
    rw [hfind]
    exact h.events id
  open' := by
    rw [hwallet]
    exact h.open'
  settled' := by
    rw [hwallet]
    exact h.settled'

/-- Dispatching the job changes the queue at most. -/
theorem Tracks.dispatchJob (event : YookassaWebhookEvent)
    (record : WebhookEvent) (faults : List (Option Exception)) :
    Tracks topUp s₀ ids settled
      ((BillingService.dispatchJob event record).run BillingCall.exec faults s).2 := by
  obtain ⟨queue, hexec⟩ := queueAdd_exec (webhookJob event record) s
  simp only [BillingService.dispatchJob, Prog.run_await_bind, hexec]
  cases faults.headD none with
  | some e => exact h
  | none => exact h.congr (by simp) (by simp)

/-- The settlement of a delivery: it settles the top-up, unless that has been
done, if the payment date has a value. -/
theorem Tracks.settle (hwait : Waiting paymentId topUp s₀)
    {row : WalletTopUp} (hrow : IsRow paymentId topUp settled s.wallet row) (paidAt : JsDate) :
    ∃ r t, BillingCall.exec (.settleTopUp (row.settlement paidAt)) s = (r, t) ∧
      Tracks topUp s₀ ids (settled || paidAt != none) t ∧
      (∀ a, r = .ok a → (settled || paidAt != none) = true) := by
  cases hsett : settled with
  | true =>
    obtain ⟨r, -, hrun⟩ := settleTopUp_settled (n := s.fresh) hrow.byId
      (hrow.status hsett) paidAt
    refine ⟨_, _, rfl, ?_, by simp⟩
    rw [hsett] at h
    exact h.congr (by simp [hrun]) rfl
  | false =>
    have hopen := h.open' hsett
    obtain rfl := hrow.same hsett
    obtain ⟨w, hw⟩ := hwait.wallet
    have hpend : row.status ≠ .succeeded := by simp [hwait.pending]
    cases paidAt with
    | none =>
      have hrun := settleTopUp_invalid (n := s.fresh) hrow.byId hpend
      refine ⟨_, _, rfl, ?_, by simp [hrun]⟩
      rw [hsett] at h
      exact h.congr (by simp [hrun]) rfl
    | some at' =>
      obtain ⟨r, -, hrun⟩ := settleTopUp_open (n := s.fresh) hrow.byId hpend
        (hopen.symm ▸ hw) at'
      refine ⟨_, _, rfl, ⟨h.events, by simp, ?_⟩, by simp⟩
      intro _
      rw [hopen] at hrun
      exact ⟨at', s.fresh + 1 + 1 + 1, w.balanceKopecks + row.amountKopecks,
        by simp [hopen, hrun]⟩

end

variable {event : YookassaWebhookEvent}

section

variable (h : Tracks topUp s₀ ids settled s)
include h

/-- The lookup, the settlement and the job of a delivery whose event has been
recorded for the first time. -/
theorem Tracks.processRecorded
    (hwait : Waiting paymentId topUp s₀) (now : ℤ) (hev : event.type = "payment.succeeded")
    (hpayment : event.paymentId = paymentId) (record : WebhookEvent)
    (faults : List (Option Exception)) :
    ∃ settled', settled' = (settled || (faults.headD none == none &&
        faults.tail.headD none == none && event.paidAt env now != none)) ∧
      Tracks topUp s₀ ids settled'
        ((BillingService.processRecorded env now event record).run BillingCall.exec faults s).2 ∧
      (Accepted ((BillingService.processRecorded env now event record).run
        BillingCall.exec faults s).1 → settled' = true) := by
  refine ⟨_, rfl, ?_⟩
  obtain ⟨row, hrow⟩ := h.row hwait
  let s₁ : BillingStore := { s with fresh := s.fresh + 1 }
  have hfind : BillingCall.exec (.wallet (.topUpFindByPayment event.paymentId)) s =
      (.ok (some row), s₁) := by
    simp [BillingCall.exec, Database.execAlone, WalletStmt.exec, hpayment, hrow.byPayment, s₁]
  have h₁ : Tracks topUp s₀ ids settled s₁ := h.congr rfl rfl
  simp only [BillingService.processRecorded, WalletService.processYookassaPaymentEvent,
    Prog.bind_assoc, Prog.run_await_bind, hfind]
  cases faults.headD none with
  | some e => simpa [Accepted] using h
  | none =>
    simp only [WalletService.applyToTopUp, hev, if_true, Option.getD_some,
      Prog.bind_assoc, Prog.run_await_bind]
    cases faults.tail.headD none with
    | some e => simpa [Accepted] using h₁
    | none =>
      obtain ⟨r, s₂, hexec, h₂, hok⟩ := h₁.settle hwait hrow (event.paidAt env now)
      rw [hexec]
      cases r with
      | error e =>
        refine ⟨by simpa using h₂, ?_⟩
        intro hacc
        exact hacc.elim
      | ok a =>
        have hbranch : ∀ b : Bool, ((if b then
            (return { processed := false, reason := "already_settled" } :
              BillingProg WalletService.ProcessResult)
          else return { processed := true, reason := "balance_credited" }) >>= fun _ =>
            BillingService.dispatchJob event record) =
            BillingService.dispatchJob event record := by
          intro b
          cases b <;> rfl
        simp only [hbranch]
        refine ⟨by simpa using h₂.dispatchJob event record _, ?_⟩
        intro _
        simpa using hok a rfl

/-- A new event is recorded. -/
theorem Tracks.create (hmem : event.id ∉ ids) (now : ℤ)
    (hstor : storable event.createdAt = true) :
    ∃ record t, BillingCall.exec (.webhookEventCreate (eventData now event)) s =
        (.ok record, t) ∧ Tracks topUp s₀ (event.id :: ids) settled t := by
  have hthere : (s.webhookEvent "yookassa" event.id).isSome = false := by
    rw [Bool.eq_false_iff]
    intro hsome
    exact hmem ((h.events _).mp hsome)
  refine ⟨(eventData now event).received s.fresh, s.insertEvent (eventData now event), ?_, ?_,
    h.open', h.settled'⟩
  · have hfree : (s.webhookEvent (eventData now event).provider
        (eventData now event).externalEventId).isSome = false := hthere
    have hdate : storable (eventData now event).providerCreatedAt = true := hstor
    simp [BillingCall.exec, hdate, hfree]
  intro id
  rw [BillingStore.webhookEvent_insertEvent, Option.isSome_or, Bool.or_eq_true, h.events]
  · grind [eventData]

/-- A recorded event is found again. -/
theorem Tracks.findRecorded (now : ℤ) (hmem : event.id ∈ ids)
    (rest : WebhookEvent × Bool → BillingProg IngestResult) (faults : List (Option Exception)) :
    ∃ record, (BillingService.findRecorded (eventData now event) (.prisma "P2002") >>= rest).run
        BillingCall.exec faults s =
      match faults.headD none with
      | some e => (.error e, s)
      | none => (rest (record, true)).run BillingCall.exec faults.tail s := by
  obtain ⟨record, hrec⟩ := Option.isSome_iff_exists.mp ((h.events event.id).mpr hmem)
  have hexec : BillingCall.exec (.webhookEventFindFirst "yookassa" event.id) s =
      (.ok (some record), s) := by
    simp [BillingCall.exec, hrec]
  refine ⟨record, ?_⟩
  simp only [BillingService.findRecorded, eventData, if_true, Prog.bind_assoc,
    Prog.run_await_bind, hexec]
  cases faults.headD none <;> rfl

end

/-- Any other error is thrown again. -/
theorem findRecorded_other {e : Exception} (he : e ≠ .prisma "P2002") (data : WebhookEventData)
    (rest : WebhookEvent × Bool → BillingProg IngestResult) (faults : List (Option Exception)) :
    (BillingService.findRecorded data e >>= rest).run BillingCall.exec faults s =
      (.error e, s) := by
  simp [BillingService.findRecorded, he]

section

variable (h : Tracks topUp s₀ ids settled s)
include h

/-- An event that is not recorded is not found. -/
theorem Tracks.findRecorded_new (now : ℤ) (hmem : event.id ∉ ids) (e : Exception)
    (rest : WebhookEvent × Bool → BillingProg IngestResult) (faults : List (Option Exception)) :
    ∃ e', (BillingService.findRecorded (eventData now event) e >>= rest).run
      BillingCall.exec faults s = (.error e', s) := by
  by_cases he : e = .prisma "P2002"
  · have hnone : s.webhookEvent "yookassa" event.id = none := by
      rw [← Option.not_isSome_iff_eq_none, h.events]
      exact hmem
    have hexec : BillingCall.exec (.webhookEventFindFirst "yookassa" event.id) s =
        (.ok none, s) := by
      simp [BillingCall.exec, hnone]
    simp only [BillingService.findRecorded, he, if_true, eventData, Prog.bind_assoc,
      Prog.run_await_bind, hexec]
    cases faults.headD none with
    | some e' => exact ⟨e', rfl⟩
    | none => exact ⟨.prisma "P2002", by simp⟩
  · exact ⟨e, findRecorded_other he _ rest faults⟩

/-- What one delivery does: it records and settles as can be read off it, and it
is accepted only if the top-up is settled or it is answered as a duplicate. -/
theorem Tracks.outcome (hwait : Waiting paymentId topUp s₀)
    (henv : env.runtimeMode = "connected") (d : Delivery env paymentId) :
    Tracks topUp s₀ (d.recorded ids) (settled || d.settles ids) (d.outcome s).2 ∧
      (Accepted (d.outcome s).1 →
        (settled || d.settles ids) = true ∨ d.answeredAsDuplicate ids = true) ∧
      (d.answeredAsDuplicate ids = true → Accepted (d.outcome s).1) := by
  have hcode : d.outcome s = (receiveEvent env d.now d.event).run BillingCall.exec d.faults s := by
    simp [Delivery.outcome, ingestYookassaWebhook, henv, d.parses]
  have hfault0 : d.fault 0 = d.faults.headD none := by simp [Delivery.fault]
  have hfault1 : d.fault 1 = d.faults.tail.headD none := by simp [Delivery.fault]
  have hfault2 : d.fault 2 = d.faults.tail.tail.headD none := by simp [Delivery.fault]
  let rest := afterRecording env d.now d.event
  have hrun : (receiveEvent env d.now d.event).run BillingCall.exec d.faults s =
      match d.faults.headD none with
      | some e => (BillingService.findRecorded (eventData d.now d.event) e >>= rest).run
          BillingCall.exec d.faults.tail s
      | none =>
        match BillingCall.exec (.webhookEventCreate (eventData d.now d.event)) s with
        | (.ok record, s') => (rest (record, false)).run BillingCall.exec d.faults.tail s'
        | (.error e, s') => (BillingService.findRecorded (eventData d.now d.event) e >>=
            rest).run BillingCall.exec d.faults.tail s' := by
    rw [receiveEvent_eq, Prog.run_call]
    cases d.faults.headD none with
    | some e => rfl
    | none =>
      cases BillingCall.exec (.webhookEventCreate (eventData d.now d.event)) s with
      | mk r s' => cases r <;> rfl
  rw [hcode, hrun]
  by_cases hmem : d.event.id ∈ ids
  · -- the event is there: nothing is recorded or settled
    have hrecorded : d.recorded ids = ids := by simp [Delivery.recorded, hmem]
    have hsettles : d.settles ids = false := by simp [Delivery.settles, hmem]
    rw [hrecorded, hsettles, Bool.or_false]
    obtain ⟨record, hfound⟩ := h.findRecorded d.now hmem rest d.faults.tail
    have hthere : (s.webhookEvent "yookassa" d.event.id).isSome := (h.events _).mpr hmem
    -- reached with the unique constraint error
    have hP2002 : d.answeredAsDuplicate ids = (d.fault 1 == none) →
        Tracks topUp s₀ ids settled ((BillingService.findRecorded (eventData d.now d.event)
            (.prisma "P2002") >>= rest).run BillingCall.exec d.faults.tail s).2 ∧
          (Accepted ((BillingService.findRecorded (eventData d.now d.event)
            (.prisma "P2002") >>= rest).run BillingCall.exec d.faults.tail s).1 →
              settled = true ∨ d.answeredAsDuplicate ids = true) ∧
          (d.answeredAsDuplicate ids = true → Accepted ((BillingService.findRecorded
            (eventData d.now d.event) (.prisma "P2002") >>= rest).run
              BillingCall.exec d.faults.tail s).1) := by
      intro hanswered
      rw [hfound, hanswered, hfault1]
      cases d.faults.tail.headD none with
      | some e => simpa [Accepted] using h
      | none => simpa [rest, afterRecording, Accepted, duplicateResult] using h
    cases hhead : d.faults.headD none with
    | some e =>
      by_cases he : e = .prisma "P2002"
      · subst he
        apply hP2002
        simp [Delivery.answeredAsDuplicate, hmem, hfault0.trans hhead]
      have hdup : d.answeredAsDuplicate ids = false := by
        simp [Delivery.answeredAsDuplicate, Delivery.creates, hfault0.trans hhead, he]
      simp only [findRecorded_other he, hdup]
      exact ⟨h, by simp [Accepted], by simp⟩
    | none =>
      cases hstor : storable d.event.createdAt with
      | false =>
        have hdup : d.answeredAsDuplicate ids = false := by
          simp [Delivery.answeredAsDuplicate, Delivery.creates, hfault0.trans hhead, hstor]
        have hexec : BillingCall.exec (.webhookEventCreate (eventData d.now d.event)) s =
            (.error .prismaValidation, s) := by
          simp [BillingCall.exec, eventData, hstor]
        have hother : Exception.prismaValidation ≠ .prisma "P2002" := by simp
        simp only [hexec, findRecorded_other hother, hdup]
        exact ⟨h, by simp [Accepted], by simp⟩
      | true =>
        have hexec : BillingCall.exec (.webhookEventCreate (eventData d.now d.event)) s =
            (.error (.prisma "P2002"), s) := by
          simp [BillingCall.exec, eventData, hstor, hthere]
        simp only [hexec]
        apply hP2002
        simp [Delivery.answeredAsDuplicate, Delivery.creates, hmem, hfault0.trans hhead, hstor]
  · -- the event is new
    have hdup : d.answeredAsDuplicate ids = false := by simp [Delivery.answeredAsDuplicate, hmem]
    rw [hdup]
    cases hcreates : d.creates with
    | false =>
      -- nothing is recorded
      have hrecorded : d.recorded ids = ids := by simp [Delivery.recorded, hcreates]
      have hsettles : d.settles ids = false := by simp [Delivery.settles, hcreates]
      rw [hrecorded, hsettles, Bool.or_false]
      cases hhead : d.faults.headD none with
      | some e =>
        obtain ⟨e', hnew⟩ := h.findRecorded_new d.now hmem e rest d.faults.tail
        simp only [hnew]
        exact ⟨h, by simp [Accepted], by simp⟩
      | none =>
        have hstor : storable d.event.createdAt = false := by
          simpa [Delivery.creates, hfault0.trans hhead] using hcreates
        have hexec : BillingCall.exec (.webhookEventCreate (eventData d.now d.event)) s =
            (.error .prismaValidation, s) := by
          simp [BillingCall.exec, eventData, hstor]
        have hother : Exception.prismaValidation ≠ .prisma "P2002" := by simp
        simp only [hexec, findRecorded_other hother]
        exact ⟨h, by simp [Accepted], by simp⟩
    | true =>
      have hrecorded : d.recorded ids = d.event.id :: ids := by
        simp [Delivery.recorded, hcreates, hmem]
      have hsettles : d.settles ids = (d.fault 1 == none && d.fault 2 == none &&
          d.event.paidAt env d.now != none) := by
        simp [Delivery.settles, hcreates, hmem]
      obtain ⟨hhead, hstor⟩ : d.faults.headD none = none ∧
          storable d.event.createdAt = true := by
        rw [← hfault0]
        simpa [Delivery.creates] using hcreates
      obtain ⟨record, s₁, hexec, hs₁⟩ := h.create hmem d.now hstor
      obtain ⟨settled', hsettled', htracks, haccepted⟩ :=
        hs₁.processRecorded hwait d.now d.succeeded d.payment record d.faults.tail
      rw [hrecorded, hsettles, hfault1, hfault2, ← hsettled']
      simp only [hhead, hexec]
      refine ⟨htracks, fun hacc => Or.inl (haccepted hacc), by simp⟩

/-! ## All deliveries -/

/-- A run of deliveries: the top-up ends settled exactly if it was or one of
them settles it; a duplicate is accepted, and nothing else is accepted without
the settlement. -/
theorem Tracks.deliver (hwait : Waiting paymentId topUp s₀)
    (henv : env.runtimeMode = "connected") (ds : List (Delivery env paymentId)) :
    ∃ ids' settled', Tracks topUp s₀ ids' settled' (QuizMind.deliver ds s).2 ∧
      (settled' = true ↔ settled = true ∨ Occurs Delivery.settles ids ds) ∧
      ((∃ r ∈ (QuizMind.deliver ds s).1, Accepted r) →
        settled' = true ∨ Occurs Delivery.answeredAsDuplicate ids ds) ∧
      (Occurs Delivery.answeredAsDuplicate ids ds →
        ∃ r ∈ (QuizMind.deliver ds s).1, Accepted r) := by
  induction ds generalizing ids settled s with
  | nil => exact ⟨ids, settled, h, by simp [Occurs], by simp [QuizMind.deliver], by simp [Occurs]⟩
  | cons d ds ih =>
    obtain ⟨htracks, haccepted, hdup⟩ := h.outcome hwait henv d
    obtain ⟨ids', settled', hfinal, hsett, hall, hoccurs⟩ := ih htracks
    refine ⟨ids', settled', hfinal, ?_, ?_, ?_⟩
    · rw [hsett, Bool.or_eq_true, Occurs, or_assoc]
    · rintro ⟨r, hr, hacc⟩
      rcases List.mem_cons.mp hr with rfl | hrest
      · rcases haccepted hacc with hnow | hnow
        · exact Or.inl (hsett.mpr (Or.inl hnow))
        · exact Or.inr (Or.inl hnow)
      rcases hall ⟨r, hrest, hacc⟩ with hlater | hlater
      · exact Or.inl hlater
      · exact Or.inr (Or.inr hlater)
    · rintro (hnow | hlater)
      · exact ⟨_, List.mem_cons_self, hdup hnow⟩
      · obtain ⟨r, hr, hacc⟩ := hoccurs hlater
        exact ⟨r, List.mem_cons_of_mem _ hr, hacc⟩

end

/-- Outside the connected mode nothing is accepted. -/
theorem not_accepted_of_disconnected (henv : env.runtimeMode ≠ "connected")
    (ds : List (Delivery env paymentId)) (s : BillingStore) :
    ¬ ∃ r ∈ (deliver ds s).1, Accepted r := by
  induction ds generalizing s with
  | nil => simp [deliver]
  | cons d ds ih =>
    rintro ⟨r, hr, hacc⟩
    rcases List.mem_cons.mp hr with rfl | hrest
    · simp [Delivery.outcome, ingestYookassaWebhook, henv, Accepted] at hacc
    · exact ih _ ⟨r, hrest, hacc⟩

/-- Accepted implies credited exactly once, for exactly those sequences of
deliveries in which none is lost. -/
theorem accepted_credited_iff (hwait : Waiting paymentId topUp s.wallet)
    (ds : List (Delivery env paymentId)) :
    AcceptedCredited topUp s.wallet (deliver ds s) ↔ NoneLost (recordedIds s) ds := by
  by_cases henv : env.runtimeMode = "connected"
  · have hstart : Tracks topUp s.wallet (recordedIds s) false s :=
      ⟨fun id => mem_recordedIds.symm, fun _ => rfl, by simp⟩
    obtain ⟨ids, settled, hfinal, hsettled, haccepted, hdup⟩ := hstart.deliver hwait henv ds
    have hcredited : CreditedTimes topUp s.wallet 1 (deliver ds s).2.wallet ↔ settled = true := by
      cases hcase : settled with
      | false =>
        rw [hfinal.open' hcase]
        simpa using not_creditedTimes_open hwait
      | true =>
        obtain ⟨paidAt, n, b, hstore⟩ := hfinal.settled' hcase
        rw [hstore]
        simpa using creditedTimes_settled hwait paidAt n b
    rw [AcceptedCredited, NoneLost]
    · grind
  · constructor
    · intro _ hconnected
      exact absurd hconnected henv
    · intro _ hacc
      exact absurd hacc (not_accepted_of_disconnected henv ds s)

end Deliveries

/-! ## A lost credit -/

/-- A connected service; no date is needed below. -/
def connectedEnv : BillingEnv where
  runtimeMode := "connected"
  yookassaShopId := some "shop"
  yookassaSecretKey := some "secret"
  parseDate := fun _ => none

/-- The body of a webhook for the payment of the pending top-up. -/
def paidBody : Json :=
  .object [("id", .string "evt-1"), ("type", .string "payment.succeeded"),
    ("object", .object [("id", .string "pay-1")])]

/-- A delivery of that webhook. -/
def paidDelivery (faults : List (Option Exception)) : Delivery connectedEnv "pay-1" where
  now := 0
  parsed := some paidBody
  event :=
    { id := "evt-1"
      type := "payment.succeeded"
      createdAt := none
      payload := [("id", .string "evt-1"), ("type", .string "payment.succeeded"),
        ("object", .object [("id", .string "pay-1")])] }
  faults := faults
  parses := by rfl
  succeeded := rfl
  payment := by decide

/-- The pending top-up, and no webhook so far. -/
def pendingBilling : BillingStore where
  wallet := pendingStore
  webhookEvents := []
  queue := []
  payments := []
  fresh := 3

theorem pendingBilling_waiting : Waiting "pay-1" pendingTopUp pendingBilling.wallet where
  byPayment := by decide
  byId := by decide
  pending := rfl
  wallet := ⟨_, rfl⟩
  uncredited := by decide

/-- The settlement of the first delivery fails; the second one is fine. -/
def lostDeliveries : List (Delivery connectedEnv "pay-1") :=
  [paidDelivery [none, none, some (.error "timeout")], paidDelivery []]

/-- The first delivery fails before its event is recorded; the second one is fine. -/
def retriedDeliveries : List (Delivery connectedEnv "pay-1") :=
  [paidDelivery [some (.error "timeout")], paidDelivery []]

theorem retriedDeliveries_credited : AcceptedCredited pendingTopUp pendingBilling.wallet
      (deliver retriedDeliveries pendingBilling) := by
  refine (accepted_credited_iff pendingBilling_waiting retriedDeliveries).mpr ?_
  intro _ _
  exact Or.inr (Or.inl (by decide))

/-- The second delivery is accepted and the top-up is still pending. -/
theorem accepted_without_credit : Waiting "pay-1" pendingTopUp pendingBilling.wallet ∧
      (∃ r ∈ (deliver lostDeliveries pendingBilling).1, Accepted r) ∧
      (deliver lostDeliveries pendingBilling).2.wallet.statusOf pendingTopUp.id = some .pending ∧
      ¬ AcceptedCredited pendingTopUp pendingBilling.wallet
        (deliver lostDeliveries pendingBilling) := by
  have haccepted : ∃ r ∈ (deliver lostDeliveries pendingBilling).1, Accepted r :=
    ⟨_, List.mem_cons_of_mem _ List.mem_cons_self, rfl⟩
  have hpending : (deliver lostDeliveries pendingBilling).2.wallet.statusOf pendingTopUp.id =
      some .pending := by decide
  refine ⟨pendingBilling_waiting, haccepted, hpending, ?_⟩
  intro hpromise
  have hstatus := (hpromise haccepted).status
  rw [hpending] at hstatus
  simp at hstatus

end QuizMind
