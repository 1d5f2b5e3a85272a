import QuizMind.Async.Obligations
import QuizMind.Billing.Forgery

/-! # Webhooks that overtake the top-up row

`createTopUp` creates the payment at the provider and inserts the row that
refers to it in two steps. A webhook that arrives in between finds no row, is
recorded and accepted without effect; the redeliveries are then answered as
duplicates, the worker's job credits nothing and the admin cannot retry an
event that has not failed, so the payment is lost (`overtaking_webhook`).

If every delivery that looks up the row finds it, no payment is lost
(`noPaymentLost_of_rowsFirst`): an event that is recorded belongs to a settled
top-up, or some running delivery will settle it.
-/

namespace QuizMind

open Async BillingService
open Grows (refl trans)
open Machine (initial)
open Prog (ends_bind safe_bind)

/-! ## The statement -/

/-- The payment has its row, and the row's wallet was credited with the amount
of the payment exactly once. -/
def CreditedOnce (s : BillingStore) (p : YookassaPayment) : Prop :=
  ∃ t ∈ s.wallet.topUps, t.providerPaymentId = some p.id ∧
    ∃ e, s.wallet.topUpEntries t.id = [e] ∧ e.deltaKopecks = p.amountKopecks ∧
      e.walletId = t.walletId

/-- A delivery for the payment was accepted. -/
def acceptedFor (env : BillingEnv)
    (s : Snapshot BillingCall BillingCall.Res Exception BillingReply BillingStore BillingRequest)
    (paymentId : String) : Bool :=
  s.procs.any fun q => match q with
    | (.webhook _ (.text parsed), .ret (.ingest r)) =>
      match parseYookassaWebhookEvent env parsed with
      | .ok event => event.paymentId == paymentId && r.accepted
      | .error _ => false
    | _ => false

/-- Every payment with an accepted delivery is credited. -/
def NoPaymentLost (env : BillingEnv)
    (s : Snapshot BillingCall BillingCall.Res Exception BillingReply BillingStore BillingRequest) :
    Prop :=
  ∀ p ∈ s.store.payments, acceptedFor env s p.id → CreditedOnce s.store p

/-- The body of a delivery for a payment that succeeded: it carries the event
identifier of the payment, and its dates are dates. -/
def genuine (env : BillingEnv) (eventOf : String → String) (now : ℤ) (parsed : Option Json) :
    Bool :=
  match parseYookassaWebhookEvent env parsed with
  | .ok event => event.type == "payment.succeeded" && event.id == eventOf event.paymentId &&
      storable event.createdAt && (event.paidAt env now).isSome
  | .error _ => false

/-- No call fails, and the webhooks are genuine deliveries. -/
def genuineDeliveries (env : BillingEnv) (eventOf : String → String) :
    Snapshot BillingCall BillingCall.Res Exception BillingReply BillingStore BillingRequest →
      Label Exception BillingRequest → Bool
  | _, .start (.webhook now (.text parsed)) => genuine env eventOf now parsed
  | _, .start (.webhook _ .missing) => false
  | _, .fail _ _ => false
  | _, _ => true

/-- A delivery that looks up the row of its payment finds it. -/
def rowExists : BillingCall → BillingStore → Bool
  | .wallet (.topUpFindByPayment paymentId), s => (s.wallet.topUpByPayment paymentId).isSome
  | _, _ => true

/-- The deliveries are genuine and do not overtake the row. -/
def rowsFirst (env : BillingEnv) (eventOf : String → String)
    (s : Snapshot BillingCall BillingCall.Res Exception BillingReply BillingStore BillingRequest)
    (l : Label Exception BillingRequest) : Bool :=
  genuineDeliveries env eventOf s l && Machine.callsMeet rowExists s l

/-! ## Settled and recorded -/

/-- The top-up of the payment is settled. -/
def SettledFor (paymentId : String) (s : BillingStore) : Prop :=
  ∃ t ∈ s.wallet.topUps, t.providerPaymentId = some paymentId ∧ t.status = .succeeded

/-- The event is recorded. -/
def Recorded (eventId : String) (s : BillingStore) : Prop :=
  (s.webhookEvent "yookassa" eventId).isSome

variable {s : BillingStore}

theorem SettledFor.grows {paymentId : String} {s' : BillingStore} (hgrows : Grows s s')
    (h : SettledFor paymentId s) : SettledFor paymentId s' := by
  obtain ⟨t, ht, hpayment, hstat⟩ := h
  obtain ⟨t', ht', hsame⟩ := hgrows.topUps t ht
  exact ⟨t', ht', hsame.2.2.2.1.trans hpayment, hsame.2.2.2.2 hstat⟩

theorem SettledFor.creditedOnce {p : YookassaPayment} (hbacked : Backed s)
    (hp : p ∈ s.payments) (h : SettledFor p.id s) : CreditedOnce s p := by
  obtain ⟨t, ht, hpayment, hstat⟩ := h
  have hsett := hbacked.settled t ht
  simp only [Settled, hstat] at hsett
  obtain ⟨e, hentries, hdelta, hwallet⟩ := hsett
  obtain ⟨p', hp', hpayment', hamount⟩ := hbacked.backed t ht
  have hid : p'.id = p.id := by grind
  obtain rfl : p' = p := List.inj_on_of_nodup_map hbacked.payments hp' hp hid
  exact ⟨t, ht, hpayment, e, hentries, hdelta.trans hamount.symm, hwallet⟩

/-- Only the first call of a delivery records an event. -/
theorem recorded_of_noEvent {call : BillingCall} (hcall : call.NoEvent)
    {eventId : String} (h : Recorded eventId (call.exec s).2) : Recorded eventId s := by
  have hupd : ∀ (id : ℕ) (f : WebhookEvent → WebhookEvent),
      (∀ e, (f e).provider = e.provider ∧ (f e).externalEventId = e.externalEventId) →
        Recorded eventId (s.updateEvent id f) → Recorded eventId s := by
    grind [Recorded, BillingStore.webhookEvent_updateEvent]
  cases call with
  | webhookEventCreate data => exact hcall.elim
  | webhookEventReset id => grind [BillingCall.exec]
  | webhookEventMarkProcessed id at' => grind [BillingCall.exec]
  | queueAdd job =>
    obtain ⟨queue, hexec⟩ := queueAdd_exec job s
    rw [hexec] at h
    exact h
  | createPayment input reply =>
    simp only [BillingCall.exec] at h
    split at h <;> exact h
  | _ => exact h

/-- The first call of a delivery: afterwards the event is recorded, and if it
was not recorded before, the call has answered with the new row. -/
theorem create_recorded (data : WebhookEventData) (hprov : data.provider = "yookassa")
    (hdate : storable data.providerCreatedAt) (s : BillingStore) :
    Recorded data.externalEventId (BillingCall.exec (.webhookEventCreate data) s).2 ∧
      ∀ eventId, Recorded eventId (BillingCall.exec (.webhookEventCreate data) s).2 →
        Recorded eventId s ∨ (eventId = data.externalEventId ∧
          ∃ record, (BillingCall.exec (.webhookEventCreate data) s).1 = .ok record) := by
  grind [BillingCall.exec, Recorded, BillingStore.webhookEvent_insertEvent]

/-! ## A delivery -/

/-- A delivery after its first call. -/
def afterCreate (env : BillingEnv) (now : ℤ) (event : YookassaWebhookEvent)
    (r : Except Exception WebhookEvent) : BillingProg BillingReply :=
  ((match r with
    | .ok record => .ret (record, false)
    | .error e => findRecorded (eventData now event) e) >>= afterRecording env now event) >>=
      fun r => return .ingest r

variable {event : YookassaWebhookEvent}

theorem webhookCode_eq {env : BillingEnv} {now : ℤ} {parsed : Option Json} (hconnected : env.runtimeMode = "connected")
    (hparse : parseYookassaWebhookEvent env parsed = .ok event) :
    billingCode env (.webhook now (.text parsed)) =
      .call (.webhookEventCreate (eventData now event)) (afterCreate env now event) := by
  simp only [billingCode, ingestYookassaWebhook, hconnected, hparse, ne_eq, not_true_eq_false,
    if_false, receiveEvent_eq, Prog.call_bind]
  congr 1
  funext r
  cases r <;> rfl

/-- After its first call a delivery neither records nor resets an event. -/
theorem afterCreate_tame (env : BillingEnv) (now : ℤ) (event : YookassaWebhookEvent)
    (r : Except Exception WebhookEvent) :
    (afterCreate env now event r).Safe (fun _ _ => True) BillingCall.Tame := by
  have happly : ∀ input topUp, (WalletService.applyToTopUp now input topUp).Safe
      (fun _ _ => True) BillingCall.Tame := by
    intro input topUp
    unfold WalletService.applyToTopUp
    split
    · refine Prog.safe_await_bind (by trivial) ?_
      intro result _
      split <;> trivial
    split
    · exact Prog.safe_await_bind (by trivial) fun _ _ => trivial
    · trivial
  have hprocess : ∀ record, (processRecorded env now event record).Safe
      (fun _ _ => True) BillingCall.Tame := by
    intro record
    refine safe_bind (Prog.safe_await_bind (by trivial) ?_) ?_
    · intro topUp _
      cases topUp with
      | none => trivial
      | some topUp => exact happly _ topUp
    · intro _
      exact dispatchJob_safe event record trivial
  refine safe_bind (safe_bind ?_ ?_) fun _ => trivial
  · cases r with
    | ok record => trivial
    | error e => exact findRecorded_safe _ e trivial
  intro a
  unfold afterRecording
  split
  · trivial
  · exact hprocess a.1

theorem afterCreate_noEvent (env : BillingEnv) (now : ℤ) (event : YookassaWebhookEvent)
    (r : Except Exception WebhookEvent) :
    (afterCreate env now event r).Safe (fun _ _ => True) BillingCall.NoEvent :=
  (afterCreate_tame env now event r).mono fun _ => BillingCall.Tame.noEvent

/-- A delivery whose event is recorded for the first time settles the top-up. -/
theorem processRecorded_ends {env : BillingEnv} {now : ℤ}
    (htype : event.type = "payment.succeeded") (hdate : (event.paidAt env now).isSome)
    (record : WebhookEvent) (s : BillingStore) :
    (processRecorded env now event record).Ends BillingCall.exec Backed Grows rowExists
      (fun _ => SettledFor event.paymentId) s := by
  have hdispatch : ∀ t, SettledFor event.paymentId t →
      (dispatchJob event record).Ends BillingCall.exec Backed Grows rowExists
        (fun _ => SettledFor event.paymentId) t := by
    intro t ht
    exact (valid_of_plain backed_kept (dispatchJob_plain event record) t).ends.stays refl
      trans fun _ t' hgrows => ht.grows hgrows
  refine ends_bind (P := fun _ => SettledFor event.paymentId) ?_
    (fun _ t ht => hdispatch t ht) (fun _ _ h => h)
  refine Prog.ends_await_bind ?_
  intro s₁ _ h₁ hrow
  -- the lookup finds the row
  have hfind : BillingCall.Neutral (.wallet (.topUpFindByPayment event.paymentId)) := trivial
  obtain ⟨hbacked, hgrows⟩ := backed_kept.neutral h₁ hfind
  obtain ⟨topUp, htopUp⟩ := Option.isSome_iff_exists.mp hrow
  have hans : (BillingCall.exec (.wallet (.topUpFindByPayment event.paymentId)) s₁).1 =
      .ok (some topUp) := by
    simp [BillingCall.exec, Database.execAlone, WalletStmt.exec, htopUp]
  refine ⟨hbacked, hgrows, ?_, ?_⟩
  · intro found hfound
    rw [hans] at hfound
    obtain rfl : some topUp = found := by simpa using hfound
    obtain ⟨row, hmem, hsame⟩ := hgrows.topUps topUp (List.mem_of_find?_eq_some htopUp)
    have hpayment : topUp.providerPaymentId = some event.paymentId := by
      simpa using List.find?_some htopUp
    -- and the settlement goes through, whatever has become of the row
    simp only [htype]
    refine Prog.ends_await_bind ?_
    intro s₂ h₁₂ h₂ _
    obtain ⟨row', hmem', hsame'⟩ := h₁₂.topUps row hmem
    obtain ⟨r, t, hexec, hbacked', hgrows', -, -, -, hsett⟩ :=
      h₂.settle_exec ⟨row', hmem', hsame.trans hsame'⟩ (event.paidAt env now)
    obtain ⟨⟨a, rfl⟩, x, hx, hsame'', hstat⟩ :=
      hsett (Option.isSome_iff_ne_none.mp hdate)
    have hsettledFor : SettledFor event.paymentId t :=
      ⟨x, hx, hsame''.2.2.2.1.trans hpayment, hstat⟩
    simp only [Option.getD_some, hexec]
    refine ⟨hbacked', hgrows', ?_, ?_⟩
    · intro b _
      split <;> exact hsettledFor
    · intro e he
      cases he
  · intro e he
    cases he

/-! ## The system -/

/-- A delivery that ended without an exception has its event recorded. -/
def deliveryPost (env : BillingEnv) (eventOf : String → String) :
    BillingRequest → Except Exception BillingReply → BillingStore → Prop
  | .webhook _ (.text parsed), r, s => ∀ reply event, r = .ok reply →
      parseYookassaWebhookEvent env parsed = .ok event → Recorded (eventOf event.paymentId) s
  | _, _, _ => True

theorem deliveryPost_stable (env : BillingEnv) (eventOf : String → String)
    (req : BillingRequest) (r : Except Exception BillingReply) (s s' : BillingStore)
    (hgrows : Grows s s') (h : deliveryPost env eventOf req r s) :
    deliveryPost env eventOf req r s' := by
  cases req with
  | webhook now rawBody =>
    cases rawBody with
    | missing => trivial
    | text parsed =>
      intro reply event hr hparse
      exact hgrows.events _ _ (h reply event hr hparse)
  | _ => trivial

/-- A delivery that has not made its first call. -/
def Undelivered (env : BillingEnv) (eventOf : String → String) (p : BillingProg BillingReply) :
    Prop :=
  ∃ now event, p = .call (.webhookEventCreate (eventData now event)) (afterCreate env now event) ∧
    event.type = "payment.succeeded" ∧ event.id = eventOf event.paymentId ∧
    storable event.createdAt ∧ (event.paidAt env now).isSome

/-- The invariant: what is recorded is settled, or will be by a running delivery. -/
structure OnTime (env : BillingEnv) (eventOf : String → String)
    (s : Snapshot BillingCall BillingCall.Res Exception BillingReply BillingStore
      BillingRequest) : Prop where
  ends : (billingMachine env).AllEnds Backed Grows rowExists (deliveryPost env eventOf) s
  shape : ∀ q ∈ s.procs, q.2.Safe (fun _ _ => True) BillingCall.NoEvent ∨
    Undelivered env eventOf q.2
  owed : ∀ paymentId, Recorded (eventOf paymentId) s.store →
    (billingMachine env).Will Backed Grows rowExists (SettledFor paymentId) s

section Requests

variable {env : BillingEnv} {eventOf : String → String}

theorem genuine_iff {now : ℤ} {parsed : Option Json} (h : genuine env eventOf now parsed) :
    ∃ event, parseYookassaWebhookEvent env parsed = .ok event ∧
      event.type = "payment.succeeded" ∧ event.id = eventOf event.paymentId ∧
      storable event.createdAt ∧ (event.paidAt env now).isSome := by
  unfold genuine at h
  split at h
  · grind
  · cases h

variable {event : YookassaWebhookEvent}

theorem afterCreate_ok_ends {now : ℤ}
    (htype : event.type = "payment.succeeded") (hdate : (event.paidAt env now).isSome)
    (record : WebhookEvent) (s : BillingStore) :
    (afterCreate env now event (.ok record)).Ends BillingCall.exec Backed Grows rowExists
      (fun _ => SettledFor event.paymentId) s :=
  ends_bind (processRecorded_ends htype hdate record s) (fun _ _ h => h) (fun _ _ h => h)

/-- A genuine delivery, from its first call to its end. -/
theorem delivery_ends {now : ℤ}
    (htype : event.type = "payment.succeeded") (hdate : (event.paidAt env now).isSome)
    (hstor : storable event.createdAt) (s : BillingStore) :
    (Prog.call (.webhookEventCreate (eventData now event)) (afterCreate env now event)).Ends
      BillingCall.exec Backed Grows rowExists (fun _ => Recorded event.id) s := by
  intro s₁ _ h₁ _
  have hcreate : BillingCall.Neutral (.webhookEventCreate (eventData now event)) := trivial
  obtain ⟨hbacked, hgrows⟩ := backed_kept.neutral h₁ hcreate
  refine ⟨hbacked, hgrows, ?_⟩
  have hrecorded : Recorded event.id
      (BillingCall.exec (.webhookEventCreate (eventData now event)) s₁).2 :=
    (create_recorded (eventData now event) rfl hstor s₁).1
  -- from here on the event stays recorded
  refine Prog.Ends.stays (P := fun _ _ => True) refl trans ?_
    fun _ t ht => ht.events _ _ hrecorded
  refine ends_bind (P := fun _ _ => True) (ends_bind (P := fun _ _ => True) ?_ ?_ ?_)
    (fun _ _ _ => trivial) (fun _ _ _ => trivial)
  · split
    · trivial
    · exact (valid_of_plain backed_kept (findRecorded_plain _ _) _).ends
  · intro a t _
    unfold afterRecording
    split
    · trivial
    · exact (processRecorded_ends htype hdate a.1 t).mono fun _ _ _ => trivial
  · intro _ _ _
    trivial

variable
    {s : Snapshot BillingCall BillingCall.Res Exception BillingReply BillingStore BillingRequest}

/-- Every request that may arrive, from its start to its end. -/
theorem request_ends {req : BillingRequest} (hC : genuineDeliveries env eventOf s (.start req)) :
    (billingCode env req).Ends BillingCall.exec Backed Grows rowExists
        (deliveryPost env eventOf req) s.store ∧
      ((billingCode env req).Safe (fun _ _ => True) BillingCall.NoEvent ∨
        Undelivered env eventOf (billingCode env req)) := by
  have hplain : ∀ {α : Type} {p : BillingProg α} {f : α → BillingReply},
      p.Safe (fun _ _ => True) BillingCall.Plain →
        (p >>= fun r => return f r).Ends BillingCall.exec Backed Grows rowExists
            (fun _ _ => True) s.store ∧
          (p >>= fun r => return f r).Safe (fun _ _ => True) BillingCall.NoEvent := by
    intro α p f hp
    have hwrapped : (p >>= fun r => return f r).Safe (fun _ _ => True) BillingCall.Plain :=
      safe_bind hp fun _ => trivial
    exact ⟨(valid_of_plain backed_kept hwrapped s.store).ends,
      hwrapped.mono fun _ => BillingCall.Plain.noEvent⟩
  cases req with
  | createTopUp request =>
    constructor
    · exact ends_bind (createTopUp_valid backed_kept env request s.store).ends
        (fun _ _ _ => trivial) (fun _ _ _ => trivial)
    · left
      exact safe_bind (createTopUp_noEvent env request) fun _ => trivial
  | webhook now rawBody =>
    cases rawBody with
    | missing => cases hC
    | text parsed =>
      obtain ⟨event, hparse, htype, hid, hstor, hdate⟩ := genuine_iff hC
      by_cases hconnected : env.runtimeMode = "connected"
      · rw [webhookCode_eq hconnected hparse]
        constructor
        · refine (delivery_ends htype hdate hstor s.store).mono ?_
          intro r t ht reply event' _ hparse'
          obtain rfl : event = event' := by simpa [hparse] using hparse'
          rw [← hid]
          exact ht
        · right
          exact ⟨now, event, rfl, htype, hid, hstor, hdate⟩
      have hthrow : billingCode env (.webhook now (.text parsed)) = .throw (.serviceUnavailable
            "YooKassa webhook endpoint requires QUIZMIND_RUNTIME_MODE=connected.") := by
        simp [billingCode, ingestYookassaWebhook, hconnected]
      rw [hthrow]
      constructor
      · intro reply event' hr
        cases hr
      · left
        trivial
  | job now payload =>
    obtain ⟨hends, hsafe⟩ := hplain (f := .job) (job_plain now payload)
    exact ⟨hends, Or.inl hsafe⟩
  | retry now request =>
    obtain ⟨hends, hsafe⟩ := hplain (f := fun _ => .done) (retry_plain now request)
    exact ⟨hends, Or.inl hsafe⟩
  | provider paymentId status =>
    have hprov : (billing (.setPaymentStatus paymentId status)).Safe (fun _ _ => True)
        BillingCall.Plain := by
      refine ⟨trivial, ?_⟩
      intro r _
      cases r <;> trivial
    obtain ⟨hends, hsafe⟩ := hplain (f := fun _ => .done) hprov
    exact ⟨hends, Or.inl hsafe⟩

/-- A step that may be taken. -/
theorem onTime_step (hinj : Function.Injective eventOf)
    {s' : Snapshot BillingCall BillingCall.Res Exception BillingReply BillingStore
      BillingRequest} {l : Label Exception BillingRequest} (hC : rowsFirst env eventOf s l)
    (hnext : (billingMachine env).next l s = some s') (h : OnTime env eventOf s) :
    OnTime env eventOf s' := by
  simp only [rowsFirst, Bool.and_eq_true] at hC
  obtain ⟨hgenuine, hmeet⟩ := hC
  have hwill : ∀ paymentId, Recorded (eventOf paymentId) s.store →
      (billingMachine env).Will Backed Grows rowExists (SettledFor paymentId) s' := by
    intro paymentId hrecorded
    exact Machine.will_step refl trans (fun _ _ hgrows => SettledFor.grows hgrows)
      h.ends hmeet hnext (h.owed paymentId hrecorded)
  have hends : (billingMachine env).AllEnds Backed Grows rowExists (deliveryPost env eventOf) s' := by
    refine h.ends.step refl trans ?_ hmeet hnext ?_
    · intro req r a b hgrows
      exact deliveryPost_stable env eventOf req r a b hgrows
    · rintro req rfl
      exact (request_ends hgenuine).1
  refine ⟨hends, ?_, ?_⟩
  · -- what was started makes its first call or records nothing
    rcases (billingMachine env).next_cases hnext with ⟨req, rfl, rfl⟩ |
      ⟨pid, req, op, k, rfl, hp, rfl⟩ | ⟨pid, e, req, op, k, rfl, hp, rfl⟩
    · intro q hq
      rcases List.mem_append.mp hq with hold | hnew
      · exact h.shape q hold
      rw [List.mem_singleton] at hnew
      rw [hnew]
      exact (request_ends hgenuine).2
    · intro q hq
      rcases List.mem_or_eq_of_mem_set hq with hold | hnew
      · exact h.shape q hold
      rw [hnew]
      left
      rcases h.shape _ (List.mem_of_getElem? hp) with hsafe | ⟨now, event, hcall, -⟩
      · exact hsafe.2 _ trivial
      · cases hcall
        exact afterCreate_noEvent env now event _
    · cases hmeet
  · -- an event that the step records is owed by the delivery that records it
    intro paymentId hrecorded
    rcases (billingMachine env).next_cases hnext with ⟨req, rfl, rfl⟩ |
      ⟨pid, req, op, k, rfl, hp, rfl⟩ | ⟨pid, e, req, op, k, rfl, hp, rfl⟩
    · exact hwill paymentId hrecorded
    · rcases h.shape _ (List.mem_of_getElem? hp) with hsafe | ⟨now, event, hcall, htype, hid,
        hstor, hdate⟩
      · exact hwill paymentId (recorded_of_noEvent hsafe.1 hrecorded)
      · cases hcall
        rcases (create_recorded (eventData now event) rfl hstor s.store).2 _ hrecorded
          with hold | ⟨heq, record, hrec⟩
        · exact hwill paymentId hold
        right
        obtain rfl : paymentId = event.paymentId := hinj (heq.trans hid)
        refine ⟨_, List.mem_of_getElem? (i := pid) (a := (req, afterCreate env now event
          (.ok record))) ?_, afterCreate_ok_ends htype hdate record _⟩
        have hlt : pid < s.procs.length := (List.getElem?_eq_some_iff.mp hp).1
        have hans : ((billingMachine env).exec (.webhookEventCreate (eventData now event))
          s.store).1 = .ok record := hrec
        simp [hlt, hans]
    · cases hmeet

end Requests

/-- No payment is lost in a run whose deliveries look up their rows only after
these have been inserted. -/
theorem noPaymentLost_of_rowsFirst {env : BillingEnv} {eventOf : String → String}
    (hinj : Function.Injective eventOf) {s₀ : BillingStore} (hbacked : Backed s₀)
    (hsettled : ∀ paymentId, Recorded (eventOf paymentId) s₀ → SettledFor paymentId s₀)
    {s : Snapshot BillingCall BillingCall.Res Exception BillingReply BillingStore BillingRequest}
    (hrun : (billingMachine env).Reaches (fun s l => rowsFirst env eventOf s l)
      (initial s₀) s)
    (hquiescent : s.quiescent) : NoPaymentLost env s := by
  have hinit : OnTime env eventOf (initial s₀) := by
    refine ⟨⟨hbacked, ?_⟩, ?_, ?_⟩
    · intro q hq
      cases hq
    · intro q hq
      cases hq
    · intro paymentId hrecorded
      exact Or.inl (hsettled paymentId hrecorded)
  have hinv : OnTime env eventOf s := by
    refine Machine.Reaches.invariant (billingMachine env) ?_ hrun hinit
    intro t l t' hC hnext h
    exact onTime_step hinj hC hnext h
  intro p hp haccepted
  obtain ⟨q, hq, hmatch⟩ := List.any_eq_true.mp haccepted
  have hpost := hinv.ends.2 q hq
  have hrecorded : Recorded (eventOf p.id) s.store := by
    split at hmatch
    · rename_i now parsed r
      split at hmatch
      · rename_i event hparse
        simp only [Bool.and_eq_true, beq_iff_eq] at hmatch
        rw [← hmatch.1]
        exact hpost (.ingest r) event rfl hparse
      · cases hmatch
    · cases hmatch
  exact ((hinv.owed p.id hrecorded).of_quiescent hquiescent).creditedOnce hinv.ends.1 hp

/-! ## A lost payment -/

/-- The provider names the event of a payment after the payment. -/
def eventOfPayment (paymentId : String) : String := "evt-" ++ paymentId

theorem eventOfPayment_injective : Function.Injective eventOfPayment := by
  intro a b h
  simpa [eventOfPayment] using h

/-- The body of the delivery for the payment of ten roubles. -/
def succeededBody : Json :=
  .object [("id", .string "evt-pay-1"), ("type", .string "payment.succeeded"),
    ("object", .object [("id", .string "pay-1")])]

/-- The delivery arrives after the row has been inserted, and is repeated. -/
def timelyRun : List (Label Exception BillingRequest) :=
  [.start (.createTopUp tenRoubles), .step 0, .step 0, .step 0, .step 0,
    .start (.webhook 0 (.text (some succeededBody))), .step 1, .step 1, .step 1, .step 1,
    .start (.webhook 1 (.text (some succeededBody))), .step 2, .step 2]

/-- The delivery arrives before the row has been inserted; it is repeated
afterwards, the worker runs its job and an admin tries to retry it. -/
def overtakingRun : List (Label Exception BillingRequest) :=
  [.start (.createTopUp tenRoubles), .step 0, .step 0, .step 0,
    .start (.webhook 0 (.text (some succeededBody))), .step 1, .step 1, .step 1, .step 0,
    .start (.webhook 1 (.text (some succeededBody))), .step 2, .step 2,
    .start (.job 2 { provider := "yookassa", webhookEventId := 2, externalEventId := "evt-pay-1",
                     eventType := "payment.succeeded", receivedAt := 0 }), .step 3, .step 3,
    .start (.retry 3 { access := .ok (), webhookEventId := some 2 }), .step 4]

theorem noPaymentLost_timelyRun :
    ∃ s : Snapshot BillingCall BillingCall.Res Exception BillingReply BillingStore BillingRequest,
      NoPaymentLost connectedEnv s ∧ acceptedFor connectedEnv s "pay-1" ∧
      s.store.wallet.balanceOf 1 = some 1000 := by
  have hcheck : (((billingMachine connectedEnv).trace (rowsFirst connectedEnv eventOfPayment)
      timelyRun (initial emptyBilling)).map (fun s =>
        s.quiescent && acceptedFor connectedEnv s "pay-1" &&
          s.store.wallet.balanceOf 1 == some 1000)) = some true := by decide
  obtain ⟨s, hrun, hp⟩ := (billingMachine connectedEnv).reaches_of_trace_check hcheck
  simp only [Bool.and_eq_true, beq_iff_eq] at hp
  refine ⟨s, ?_, hp.1.2, hp.2⟩
  refine noPaymentLost_of_rowsFirst eventOfPayment_injective emptyBilling_backed ?_ hrun hp.1.1
  intro paymentId hrecorded
  simp [Recorded, BillingStore.webhookEvent, emptyBilling] at hrecorded

/-- Both deliveries are accepted, everything has ended, and no wallet was credited. -/
theorem overtaking_webhook :
    ∃ s : Snapshot BillingCall BillingCall.Res Exception BillingReply BillingStore BillingRequest,
      (billingMachine connectedEnv).Reaches
        (fun s l => genuineDeliveries connectedEnv eventOfPayment s l)
        (initial emptyBilling) s ∧
      s.quiescent ∧ acceptedFor connectedEnv s "pay-1" ∧
      s.store.wallet.balanceOf 1 = some 0 ∧ ¬ NoPaymentLost connectedEnv s := by
  have hcheck : (((billingMachine connectedEnv).trace
      (genuineDeliveries connectedEnv eventOfPayment) overtakingRun
      (initial emptyBilling)).map (fun s =>
        s.quiescent && acceptedFor connectedEnv s "pay-1" &&
          s.store.wallet.balanceOf 1 == some 0 && s.store.wallet.entries.isEmpty &&
          s.store.payments.any (fun p => p.id == "pay-1"))) = some true := by decide
  obtain ⟨s, hrun, hp⟩ := (billingMachine connectedEnv).reaches_of_trace_check hcheck
  simp only [Bool.and_eq_true, beq_iff_eq] at hp
  obtain ⟨⟨⟨⟨hquiescent, haccepted⟩, hbalance⟩, hentries⟩, hpayment⟩ := hp
  refine ⟨s, hrun, hquiescent, haccepted, hbalance, ?_⟩
  intro hnone
  obtain ⟨p, hp, hid⟩ := List.any_eq_true.mp hpayment
  have hacceptedFor : acceptedFor connectedEnv s p.id := by
    rw [eq_of_beq hid]
    exact haccepted
  obtain ⟨t, -, -, e, hentry, -⟩ := hnone p hp hacceptedFor
  simp [WalletStore.topUpEntries, List.isEmpty_iff.mp hentries] at hentry

end QuizMind
