import QuizMind.Async.Pledge
import QuizMind.Billing.EarlyWebhook

/-! # The queue `billing-webhooks` and its worker

`QueueDispatchService.dispatch` inserts a job into the queue; the worker takes
a waiting job, runs `processBillingWebhookJob` on its payload and completes the
job when this returns. When it throws, the job waits again, until its attempts
are used up. Finished jobs are kept for a while, so that their ids are not used
again, and forgotten at some time.

The requests of the API and the attempts of the worker run interleaved, call by
call, and any call may fail. `Tended` is the invariant: an event that is still
`received` has a job that waits or runs, or a request that is bound to insert one.
-/

namespace QuizMind

open Async BillingService

/-! ## Jobs -/

inductive JobState where
  | waiting
  | active (pid : ℕ)
  | completed
  | failed
  deriving DecidableEq

def JobState.live : JobState → Bool
  | .waiting | .active _ => true
  | .completed | .failed => false

structure BullJob where
  job : QueueJob
  attemptsMade : ℕ
  state : JobState

/-- The event that the job is for. -/
def BullJob.event (b : BullJob) : ℕ := b.job.payload.webhookEventId

abbrev BillingSnapshot : Type :=
  Snapshot BillingCall BillingCall.Res Exception BillingReply BillingStore BillingRequest

/-- The programs of the API and of the worker over one database, and the jobs of the queue. -/
structure WebhookSystem where
  api : BillingSnapshot
  jobs : List BullJob

inductive WebhookStep where
  | request (req : BillingRequest)
  | call (pid : ℕ)
  | fail (pid : ℕ) (e : Exception)
  | take (i : ℕ) (now : ℤ)
  | finish (i : ℕ)
  | forget (i : ℕ)

namespace WebhookSystem

/-- Jobs that were inserted wait. -/
def enqueue (jobs : List BullJob) (queue : List QueueJob) : List BullJob :=
  jobs ++ (queue.drop jobs.length).map fun job => ⟨job, 0, .waiting⟩

/-- The job after an attempt that threw. -/
def retryOrFail (attempts : QueueJob → ℕ) (b : BullJob) : BullJob :=
  if b.attemptsMade + 1 < attempts b.job then
    { b with attemptsMade := b.attemptsMade + 1, state := .waiting }
  else
    { b with attemptsMade := b.attemptsMade + 1, state := .failed }

/-- The job after its attempt has ended. -/
def afterAttempt (attempts : QueueJob → ℕ) (b : BullJob) : BillingProg BillingReply → Option BullJob
  | .ret _ => some { b with attemptsMade := b.attemptsMade + 1, state := .completed }
  | .throw _ => some (retryOrFail attempts b)
  | .call _ _ => none

/-- The attempt that a job is in. -/
def attempt (s : WebhookSystem) (b : BullJob) : Option (BillingProg BillingReply) :=
  match b.state with
  | .active pid => s.api.procs[pid]?.map fun q => q.2
  | _ => none

variable (env : BillingEnv) (attempts : QueueJob → ℕ)

/-- The system after one step; `none` when the step is not possible. -/
def next : WebhookStep → WebhookSystem → Option WebhookSystem
  | .request (.job _ _), _ => none
  | .request req, s =>
    ((billingMachine env).next (.start req) s.api).map fun api => { s with api := api }
  | .call pid, s =>
    ((billingMachine env).next (.step pid) s.api).map fun api =>
      { api := api, jobs := enqueue s.jobs api.store.queue }
  | .fail pid e, s =>
    ((billingMachine env).next (.fail pid e) s.api).map fun api => { s with api := api }
  | .take i now, s =>
    match s.jobs[i]? with
    | some b =>
      if b.state = .waiting then
        ((billingMachine env).next (.start (.job now b.job.payload)) s.api).map fun api =>
          { api := api
            jobs := s.jobs.set i { b with state := .active s.api.procs.length } }
      else
        none
    | none => none
  | .finish i, s =>
    match s.jobs[i]? with
    | some b =>
      ((s.attempt b).bind (afterAttempt attempts b)).map fun b' =>
        { s with jobs := s.jobs.set i b' }
    | none => none
  | .forget i, s =>
    match s.jobs[i]? with
    | some b =>
      if b.state.live then
        none
      else
        some
          { api := { s.api with store := { s.api.store with
              queue := s.api.store.queue.eraseIdx i } }
            jobs := s.jobs.eraseIdx i }
    | none => none

/-- The system after a list of steps that all satisfy `C`. -/
def run (C : WebhookSystem → WebhookStep → Bool) :
    List WebhookStep → WebhookSystem → Option WebhookSystem
  | [], s => some s
  | l :: ls, s => if C s l then (next env attempts l s).bind (run C ls) else none

/-- No request runs, and no job waits or is active. -/
def quiescent (s : WebhookSystem) : Bool :=
  s.api.quiescent && s.jobs.all fun b => !b.state.live

end WebhookSystem

/-! ## What is to be shown -/

/-- The event has been processed. -/
def Processed (id : ℕ) (s : BillingStore) : Prop :=
  ∃ e ∈ s.webhookEvents, e.id = id ∧ e.status = .processed

/-- In every run from `s₀` whose steps satisfy `C`: when all is quiet, no event is left over;
and an event that was processed stays so. -/
def NoneStranded (env : BillingEnv) (attempts : QueueJob → ℕ)
    (C : WebhookSystem → WebhookStep → Bool) (s₀ : WebhookSystem) : Prop :=
  ∀ ls s, WebhookSystem.run env attempts C ls s₀ = some s →
    (s.quiescent → ∀ e ∈ s.api.store.webhookEvents, e.status = .processed ∨ e.status = .failed) ∧
      ∀ ls' s', WebhookSystem.run env attempts C ls' s = some s' →
        ∀ id, Processed id s.api.store → Processed id s'.api.store

/-! ## The steps that strand no event -/

/-- A delivery of a webhook, or a retry of an admin. -/
def BillingRequest.dispatches : BillingRequest → Bool
  | .webhook _ _ | .retry _ _ => true
  | _ => false

namespace WebhookSystem

/-- The event is no longer to be processed. -/
def settledEvent (s : WebhookSystem) (id : ℕ) : Bool :=
  s.api.store.webhookEvents.all fun e => e.id != id || e.status != .received

/-- A job for the event waits or is active. -/
def liveJobFor (jobs : List BullJob) (id : ℕ) : Bool :=
  jobs.any fun b => b.state.live && b.event == id

/-- Nobody needs the insertion of one more job for the event. -/
def coveredWithout (s : WebhookSystem) (id : ℕ) : Bool :=
  s.settledEvent id || liveJobFor s.jobs id

/-- An exception of this call strands no event: it is neither a wallet call of a delivery
nor the insertion of a job that an event depends on. -/
def mayThrow (s : WebhookSystem) (req : BillingRequest) : BillingCall → Bool
  | .queueAdd job => s.coveredWithout job.payload.webhookEventId
  | .wallet _ | .settleTopUp _ => !req.dispatches
  | _ => true

/-- What the call does strands no event: a reset does not meet an event that has been
processed in the meantime, and the queue does not drop an insertion that an event depends on. -/
def harmless (s : WebhookSystem) : BillingCall → Bool
  | .webhookEventReset id =>
    s.api.store.webhookEvents.all fun e => e.id != id || e.status != .processed
  | .queueAdd job =>
    !s.api.store.queue.any (fun j => j.id == job.id) ||
      s.coveredWithout job.payload.webhookEventId
  | _ => true

/-- The attempt that ended is not the last one of the only job of an event. -/
def mayFinish (attempts : QueueJob → ℕ) (s : WebhookSystem) (i : ℕ) : Bool :=
  match s.jobs[i]? with
  | some b =>
    match s.attempt b with
    | some (.throw _) =>
      b.attemptsMade + 1 < attempts b.job || s.settledEvent b.event ||
        liveJobFor (s.jobs.eraseIdx i) b.event
    | _ => true
  | none => true

/-- The steps that strand no event. -/
def careful (attempts : QueueJob → ℕ) (s : WebhookSystem) : WebhookStep → Bool
  | .call pid =>
    match s.api.procs[pid]? with
    | some (req, .call op _) =>
      s.harmless op && ((op.exec s.api.store).1.isOk || s.mayThrow req op)
    | _ => true
  | .fail pid _ =>
    match s.api.procs[pid]? with
    | some (req, .call op _) => s.mayThrow req op
    | _ => true
  | .finish i => s.mayFinish attempts i
  | _ => true

end WebhookSystem

/-! ## What a call does to the events and to the queue -/

/-- What the events of the tables agree on. -/
structure EventRows (s : BillingStore) : Prop where
  ids : (s.webhookEvents.map fun e => e.id).Nodup
  ids_lt : ∀ e ∈ s.webhookEvents, e.id < s.fresh
  dated : ∀ e ∈ s.webhookEvents, e.processedAt.isSome → e.status = .processed

/-- No event leaves the status `processed`. -/
def StaysProcessed (s s' : BillingStore) : Prop :=
  ∀ id, Processed id s → Processed id s'

theorem StaysProcessed.refl (s : BillingStore) : StaysProcessed s s := fun _ h => h

theorem StaysProcessed.trans (a b c : BillingStore) (h : StaysProcessed a b)
    (h' : StaysProcessed b c) : StaysProcessed a c :=
  fun id hid => h' id (h id hid)

/-- The calls that change no event. -/
def BillingCall.KeepsEvents : BillingCall → Prop
  | .webhookEventCreate _ | .webhookEventReset _ | .webhookEventMarkProcessed _ _ => False
  | _ => True

/-- A statement of the wallet tables uses up identifiers. -/
theorem fresh_execAlone (stmt : WalletStmt) (t : WalletStore × ℕ) :
    t.2 ≤ (walletDb.execAlone stmt t).2.2 := by
  unfold Database.execAlone
  split <;> exact Nat.le_succ _

theorem fresh_settleTopUp (input : SettleInput) (t : WalletStore × ℕ) :
    t.2 ≤ ((settleTopUp input).atomically walletDb.execAlone [] t).2.2 := by
  have hsafe : (settleTopUp input).Safe (fun _ _ => True) (fun _ => True) :=
    Prog.safe_of_forall (fun _ => trivial) _
  have hrun : t.2 ≤ ((settleTopUp input).run walletDb.execAlone [] t).2.2 := by
    refine Prog.run_of_safe (I := fun u : WalletStore × ℕ => t.2 ≤ u.2) ?_ hsafe [] (Nat.le_refl _)
    intro op u _ hu
    exact Nat.le_trans hu (fresh_execAlone op u)
  unfold Prog.atomically
  cases hout : (settleTopUp input).run walletDb.execAlone [] t with
  | mk r u => grind

variable {op : BillingCall}

theorem BillingCall.KeepsEvents.exec (h : op.KeepsEvents) (s : BillingStore) :
    (op.exec s).2.webhookEvents = s.webhookEvents ∧ s.fresh ≤ (op.exec s).2.fresh := by
  cases op with
  | webhookEventCreate data => exact h.elim
  | webhookEventReset id => exact h.elim
  | webhookEventMarkProcessed id processedAt => exact h.elim
  | wallet stmt => exact ⟨rfl, fresh_execAlone stmt (s.wallet, s.fresh)⟩
  | settleTopUp input => exact ⟨rfl, fresh_settleTopUp input (s.wallet, s.fresh)⟩
  | queueAdd job =>
    obtain ⟨queue, hexec⟩ := queueAdd_exec job s
    rw [hexec]
    exact ⟨rfl, Nat.le_refl _⟩
  | createPayment input reply =>
    simp only [BillingCall.exec]
    split <;> exact ⟨rfl, Nat.le_refl _⟩
  | _ => exact ⟨rfl, Nat.le_refl _⟩

variable {s : BillingStore}

theorem EventRows.congr {s' : BillingStore} (h : EventRows s)
    (hevs : s'.webhookEvents = s.webhookEvents) (hfresh : s.fresh ≤ s'.fresh) :
    EventRows s' where
  ids := by
    rw [hevs]
    exact h.ids
  ids_lt := by
    intro e he
    rw [hevs] at he
    exact Nat.lt_of_lt_of_le (h.ids_lt e he) hfresh
  dated := by
    rw [hevs]
    exact h.dated

/-- A change of one event that keeps its id. -/
theorem EventRows.update (h : EventRows s) (id : ℕ) {f : WebhookEvent → WebhookEvent}
    (hid : ∀ e, (f e).id = e.id)
    (hdated : ∀ e, (f e).processedAt.isSome → (f e).status = .processed) :
    EventRows (s.updateEvent id f) := by
  have hrow : ∀ e ∈ (s.updateEvent id f).webhookEvents, ∃ e₀ ∈ s.webhookEvents,
      e = if e₀.id = id then f e₀ else e₀ := by
    intro e he
    obtain ⟨e₀, he₀, rfl⟩ := List.mem_map.mp he
    exact ⟨e₀, he₀, rfl⟩
  have hsame : ∀ e₀ : WebhookEvent, (if e₀.id = id then f e₀ else e₀).id = e₀.id := by
    intro e₀
    split
    · exact hid e₀
    · rfl
  constructor
  · have hids : (s.updateEvent id f).webhookEvents.map (fun e => e.id) =
        s.webhookEvents.map fun e => e.id := by
      grind [BillingStore.updateEvent, List.map_congr_left]
    rw [hids]
    exact h.ids
  · intro e he
    obtain ⟨e₀, he₀, rfl⟩ := hrow e he
    rw [hsame]
    exact h.ids_lt e₀ he₀
  · intro e he hsome
    obtain ⟨e₀, he₀, rfl⟩ := hrow e he
    by_cases hmatch : e₀.id = id
    · grind
    · rw [if_neg hmatch] at hsome ⊢
      exact h.dated e₀ he₀ hsome

theorem EventRows.insert (h : EventRows s) (data : WebhookEventData) :
    EventRows (s.insertEvent data) := by
  have hnew : ∀ e ∈ s.webhookEvents, e.id ≠ s.fresh := by
    intro e he
    exact Nat.ne_of_lt (h.ids_lt e he)
  constructor
  · have hnodup : (s.webhookEvents.map (fun e => e.id) ++ [s.fresh]).Nodup := by
      simpa [List.nodup_append] using ⟨h.ids, hnew⟩
    simpa [BillingStore.insertEvent, WebhookEventData.received] using hnodup
  · intro e he
    rcases List.mem_append.mp he with hold | hlast
    · exact Nat.lt_succ_of_lt (h.ids_lt e hold)
    · obtain rfl := List.mem_singleton.mp hlast
      exact Nat.lt_succ_self _
  · intro e he hsome
    rcases List.mem_append.mp he with hold | hlast
    · exact h.dated e hold hsome
    · obtain rfl := List.mem_singleton.mp hlast
      cases hsome

/-- A harmless call keeps what the events agree on, and takes no event back. -/
theorem EventRows.exec (h : EventRows s)
    (hreset : ∀ id, op = .webhookEventReset id → ¬ Processed id s) :
    EventRows (op.exec s).2 ∧ StaysProcessed s (op.exec s).2 := by
  by_cases hkeeps : op.KeepsEvents
  · obtain ⟨hevs, hfresh⟩ := hkeeps.exec s
    refine ⟨h.congr hevs hfresh, ?_⟩
    intro id hid
    rw [Processed, hevs]
    exact hid
  cases op with
  | webhookEventCreate data =>
    simp only [BillingCall.exec]
    split
    · exact ⟨h, StaysProcessed.refl s⟩
    split
    · exact ⟨h, StaysProcessed.refl s⟩
    refine ⟨h.insert data, ?_⟩
    rintro id ⟨e, he, hid, hstat⟩
    exact ⟨e, List.mem_append_left _ he, hid, hstat⟩
  | webhookEventReset id =>
    simp only [BillingCall.exec]
    split
    · exact ⟨h, StaysProcessed.refl s⟩
    refine ⟨h.update id (fun _ => rfl) (by simp), ?_⟩
    rintro j ⟨e, he, hid, hstat⟩
    -- the event that is reset is not the one that has been processed
    have hne : e.id ≠ id := by
      intro heq
      exact hreset id rfl ⟨e, he, heq, hstat⟩
    refine ⟨e, List.mem_map.mpr ⟨e, he, ?_⟩, hid, hstat⟩
    rw [if_neg hne]
  | webhookEventMarkProcessed id processedAt =>
    simp only [BillingCall.exec]
    split
    · exact ⟨h, StaysProcessed.refl s⟩
    refine ⟨h.update id (fun _ => rfl) fun _ _ => rfl, ?_⟩
    rintro j ⟨e, he, hid, hstat⟩
    by_cases hmatch : e.id = id
    · refine ⟨_, List.mem_map.mpr ⟨e, he, rfl⟩, ?_, ?_⟩
      · rw [if_pos hmatch]
        exact hid
      · rw [if_pos hmatch]
    · refine ⟨e, List.mem_map.mpr ⟨e, he, ?_⟩, hid, hstat⟩
      rw [if_neg hmatch]
  | _ => exact absurd trivial hkeeps

/-- Where an event after a call comes from: it was there as it is, or the call has inserted it,
reset it or marked it as processed. -/
theorem events_exec {e : WebhookEvent} (he : e ∈ (op.exec s).2.webhookEvents) :
    e ∈ s.webhookEvents ∨ (∃ data, op = .webhookEventCreate data ∧
        (BillingCall.exec (.webhookEventCreate data) s).1 = .ok (data.received s.fresh) ∧
        e = data.received s.fresh) ∨
      (∃ id row, op = .webhookEventReset id ∧
        (BillingCall.exec (.webhookEventReset id) s).1 = .ok row ∧ e.id = id ∧
        e.status = .received) ∨
      e.status = .processed := by
  by_cases hkeeps : op.KeepsEvents
  · rw [(hkeeps.exec s).1] at he
    exact Or.inl he
  cases op with
  | webhookEventCreate data =>
    by_cases hstor : storable data.providerCreatedAt
    · by_cases hold : (s.webhookEvent data.provider data.externalEventId).isSome
      · grind [BillingCall.exec]
      · have hexec : BillingCall.exec (.webhookEventCreate data) s =
            (.ok (data.received s.fresh), s.insertEvent data) := by
          simp [BillingCall.exec, hstor, hold]
        rw [hexec] at he
        rcases List.mem_append.mp he with hmem | hlast
        · exact Or.inl hmem
        · exact Or.inr (Or.inl ⟨data, rfl, by rw [hexec], List.mem_singleton.mp hlast⟩)
    · grind [BillingCall.exec]
  | webhookEventReset id =>
    cases hfind : s.webhookEventById id with
    | none => grind [BillingCall.exec]
    | some event =>
      have hans : ∃ row : WebhookEvent,
          (BillingCall.exec (.webhookEventReset id) s).1 = .ok row := by grind [BillingCall.exec]
      simp only [BillingCall.exec, hfind] at he
      obtain ⟨e₀, he₀, rfl⟩ := List.mem_map.mp he
      by_cases hmatch : e₀.id = id
      · grind
      · rw [if_neg hmatch]
        exact Or.inl he₀
  | webhookEventMarkProcessed id processedAt =>
    cases hfind : s.webhookEventById id with
    | none => grind [BillingCall.exec]
    | some event =>
      simp only [BillingCall.exec, hfind] at he
      obtain ⟨e₀, he₀, rfl⟩ := List.mem_map.mp he
      by_cases hmatch : e₀.id = id
      · grind
      · rw [if_neg hmatch]
        exact Or.inl he₀
  | _ => exact absurd trivial hkeeps

/-- Only `queueAdd` changes the queue, and it appends a job that is not there. -/
theorem queue_exec (op : BillingCall) (s : BillingStore) :
    (op.exec s).2.queue = s.queue ∧ (∀ job, op = .queueAdd job →
        s.queue.any fun j => j.id == job.id) ∨
      ∃ job, op = .queueAdd job ∧ (op.exec s).2.queue = s.queue ++ [job] := by
  cases op with
  | queueAdd job => grind [BillingCall.exec]
  | webhookEventCreate data =>
    left
    refine ⟨?_, by simp⟩
    simp only [BillingCall.exec]
    split
    · rfl
    · split <;> rfl
  | webhookEventReset id =>
    left
    refine ⟨?_, by simp⟩
    simp only [BillingCall.exec]
    split <;> rfl
  | webhookEventMarkProcessed id processedAt =>
    left
    refine ⟨?_, by simp⟩
    simp only [BillingCall.exec]
    split <;> rfl
  | createPayment input reply => grind [BillingCall.exec]
  | _ => exact Or.inl ⟨rfl, by simp⟩

/-! ## What the programs are bound to -/

/-- The insertion of a job for the event. -/
def BillingCall.DispatchesFor (id : ℕ) : BillingCall → Prop
  | .queueAdd job => job.payload.webhookEventId = id
  | _ => False

/-- The calls between the recording of an event and the insertion of its job. -/
def BillingCall.OnTheWay : BillingCall → Prop
  | .wallet _ | .settleTopUp _ => True
  | _ => False

/-- The program inserts a job for the event, unless one of its calls throws. -/
def PledgedTo (id : ℕ) (p : BillingProg BillingReply) : Prop :=
  p.Bound BillingCall.OnTheWay (BillingCall.DispatchesFor id)

/-- What a request that records or resets an event is bound to. -/
def Pledges (req : BillingRequest) :
    (op : BillingCall) → (Except Exception op.Res → BillingProg BillingReply) → Prop
  | .webhookEventCreate _, k => req.dispatches ∧ ∀ row : WebhookEvent, PledgedTo row.id (k (.ok row))
  | .webhookEventReset id, k => req.dispatches ∧ ∀ row : WebhookEvent, PledgedTo id (k (.ok row))
  | _, _ => True

theorem pledges_of_tame (req : BillingRequest) (op : BillingCall)
    (k : Except Exception op.Res → BillingProg BillingReply) (h : op.Tame) : Pledges req op k := by
  cases op with
  | webhookEventCreate data => exact h.elim
  | webhookEventReset id => exact h.elim
  | _ => trivial

/-- Nothing between the recording of an event and the insertion of its job ends a delivery,
unless a call throws. -/
theorem processPaymentEvent_steady (now : ℤ) (input : WalletService.PaymentEvent) :
    (WalletService.processYookassaPaymentEvent now input).Steady BillingCall.OnTheWay := by
  refine Prog.steady_await_bind (by trivial) ?_
  intro topUp
  cases topUp with
  | none => trivial
  | some topUp =>
    show (WalletService.applyToTopUp now input topUp).Steady BillingCall.OnTheWay
    unfold WalletService.applyToTopUp
    split
    · refine Prog.steady_await_bind (by trivial) ?_
      intro result
      split <;> trivial
    split
    · exact Prog.steady_await_bind (by trivial) fun _ => trivial
    · trivial

/-- A delivery that has recorded its event will insert the job. -/
theorem delivery_pledged (env : BillingEnv) (now : ℤ) (event : YookassaWebhookEvent)
    (record : WebhookEvent) : PledgedTo record.id (afterCreate env now event (.ok record)) := by
  have hprocess : (processRecorded env now event record).Bound BillingCall.OnTheWay
      (BillingCall.DispatchesFor record.id) := by
    refine (processPaymentEvent_steady now _).bound ?_
    intro _
    have hjob : BillingCall.DispatchesFor record.id (.queueAdd (webhookJob event record)) := rfl
    exact Prog.bound_await_bind hjob _
  exact hprocess.bind _

theorem retry_pledges (now : ℤ) (request : RetryRequest) :
    (retryAdminWebhook now request >>= fun _ => return .done).Each
      (Pledges (.retry now request)) := by
  unfold retryAdminWebhook
  split
  · trivial
  · trivial
  · refine ⟨trivial, ?_⟩
    intro found
    rcases found with e | _ | webhookEvent
    · trivial
    · trivial
    · change Prog.Each (Pledges (.retry now request)) (Prog.bind (if _ then _ else _) _)
      split
      · trivial
      split
      · trivial
      -- the reset, and the insertion that follows it
      constructor
      · refine ⟨rfl, ?_⟩
        intro row
        exact Or.inl rfl
      intro row
      rcases row with e | row
      · trivial
      refine ⟨trivial, ?_⟩
      intro r
      cases r <;> trivial

/-- Every request, as it starts. -/
theorem request_pledges (env : BillingEnv) (req : BillingRequest) :
    (billingCode env req).Each (Pledges req) := by
  have htame : ∀ {α : Type} {p : BillingProg α} (f : α → BillingReply),
      p.Safe (fun _ _ => True) BillingCall.Tame →
        (p >>= fun r => return f r).Each (Pledges req) := by
    intro α p f hp
    exact Prog.each_of_safe (pledges_of_tame req) (Prog.safe_bind hp fun _ => trivial)
  cases req with
  | createTopUp request => exact htame .topUp (createTopUp_tame env request)
  | webhook now rawBody =>
    by_cases hconnected : env.runtimeMode = "connected"
    · cases rawBody with
      | missing =>
        simp only [billingCode, ingestYookassaWebhook, hconnected]
        trivial
      | text parsed =>
        cases hparse : parseYookassaWebhookEvent env parsed with
        | error e =>
          simp only [billingCode, ingestYookassaWebhook, hconnected, hparse]
          trivial
        | ok event =>
          rw [webhookCode_eq hconnected hparse]
          constructor
          · exact ⟨rfl, delivery_pledged env now event⟩
          · intro r
            exact Prog.each_of_safe (pledges_of_tame _) (afterCreate_tame env now event r)
    · simp only [billingCode, ingestYookassaWebhook, hconnected, ne_eq]
      trivial
  | job now payload =>
    exact htame .job (job_safe now payload (fun _ => trivial) fun _ _ => trivial)
  | retry now request => exact retry_pledges now request
  | provider paymentId status =>
    have hset : (billing (.setPaymentStatus paymentId status)).Safe (fun _ _ => True)
        BillingCall.Tame := Prog.safe_await trivial
    exact htame (fun _ => .done) hset

/-! ## The attempts of the worker -/

/-- An attempt that returns has found or left its event processed. -/
def AttemptPost (id : ℕ) : Except Exception BillingReply → BillingStore → Prop
  | .ok _, s => Processed id s
  | .error _, _ => True

/-- An attempt at a job for the event. -/
def Attempting (id : ℕ) (p : BillingProg BillingReply) (s : BillingStore) : Prop :=
  p.Upshot BillingCall.exec EventRows StaysProcessed (AttemptPost id) s

variable {id : ℕ}

theorem Attempting.stable {p : BillingProg BillingReply} {s' : BillingStore}
    (h : Attempting id p s) (hs : StaysProcessed s s') : Attempting id p s' := by
  refine Prog.Upshot.stable StaysProcessed.trans ?_ h hs
  intro r a b hab hpost
  cases r with
  | ok reply => exact hab id hpost
  | error e => trivial

theorem mem_of_webhookEventById {e : WebhookEvent} (h : s.webhookEventById id = some e) :
    e ∈ s.webhookEvents ∧ e.id = id := by
  refine ⟨List.mem_of_find?_eq_some h, ?_⟩
  simpa using List.find?_some h

/-- Marking an event that is there. -/
theorem markProcessed_exec {processedAt : ℤ} {u : Unit}
    (h : (BillingCall.exec (.webhookEventMarkProcessed id processedAt) s).1 = .ok u) :
    Processed id (BillingCall.exec (.webhookEventMarkProcessed id processedAt) s).2 := by
  cases hfind : s.webhookEventById id with
  | none =>
    simp only [BillingCall.exec, hfind] at h
    cases h
  | some e =>
    obtain ⟨he, hid⟩ := mem_of_webhookEventById hfind
    simp only [BillingCall.exec, hfind]
    refine ⟨_, List.mem_map.mpr ⟨e, he, rfl⟩, ?_, ?_⟩
    · rw [if_pos hid]
      exact hid
    · rw [if_pos hid]

theorem job_attempting (env : BillingEnv) (now : ℤ) (payload : BillingWebhookJobPayload)
    (s : BillingStore) :
    Attempting payload.webhookEventId (billingCode env (.job now payload)) s := by
  intro s₁ _ h₁
  constructor
  · simp only [BillingCall.exec]
    cases hfind : s₁.webhookEventById payload.webhookEventId with
    | none => trivial
    | some webhook =>
      obtain ⟨hmem, hid⟩ := mem_of_webhookEventById hfind
      change Attempting payload.webhookEventId (Prog.bind (if _ then _ else _) _) s₁
      split
      · rename_i hdone
        -- a date of processing means that the event was processed
        have hstat : webhook.status = .processed := by
          rcases hdone with hdate | hstat
          · exact h₁.dated webhook hmem hdate
          · exact hstat
        exact ⟨webhook, hmem, hid, hstat⟩
      intro s₂ _ _
      constructor
      · rw [hid]
        cases hmark : (BillingCall.exec
            (.webhookEventMarkProcessed payload.webhookEventId now) s₂).1 with
        | error e => trivial
        | ok u => exact markProcessed_exec hmark
      · intro e
        trivial
  · intro e
    trivial

end QuizMind
