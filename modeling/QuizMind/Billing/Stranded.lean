import QuizMind.Billing.Worker
import Mathlib.Data.List.InsertIdx

/-! # Webhooks that nobody processes any more

An event is left over when the delivery that recorded it throws before its job
is in the queue (a redelivery is then answered as a duplicate), when the last
attempt of its job throws (nothing ever marks an event `failed`, so an admin
cannot retry it), or when a retry has reset it and throws before its job is in
the queue; and a retry can take an event back that was processed after the
retry had looked at it (`stranded_webhook`).

In a run without such steps no event is left over (`noneStranded_of_careful`).
-/

namespace QuizMind

open Async BillingService WebhookSystem

/-! ## The invariant -/

/-- A job for the event waits or is active, or a running request will insert one. -/
def Covered (procs : List (BillingRequest × BillingProg BillingReply)) (jobs : List BullJob)
    (id : ℕ) : Prop :=
  liveJobFor jobs id ∨ ∃ q ∈ procs, q.1.dispatches ∧ PledgedTo id q.2

/-- The event is still to be processed. -/
def Received (id : ℕ) (s : BillingStore) : Prop :=
  ∃ e ∈ s.webhookEvents, e.id = id ∧ e.status = .received

structure Tended (s : WebhookSystem) : Prop where
  rows : EventRows s.api.store
  queue : s.api.store.queue = s.jobs.map fun b => b.job
  pledges : ∀ q ∈ s.api.procs, q.2.Each (Pledges q.1)
  attempting : ∀ b ∈ s.jobs, ∀ pid, b.state = .active pid →
    ∃ q, s.api.procs[pid]? = some q ∧ Attempting b.event q.2 s.api.store
  covered : ∀ id, Received id s.api.store → Covered s.api.procs s.jobs id

variable {id pid i : ℕ} {jobs : List BullJob}

theorem liveJobFor_iff : liveJobFor jobs id ↔ ∃ b ∈ jobs, b.state.live ∧ b.event = id := by
  simp [liveJobFor]

theorem liveJobFor_append {more : List BullJob} (h : liveJobFor jobs id) :
    liveJobFor (jobs ++ more) id := by grind [liveJobFor_iff]

variable {s s' : WebhookSystem}

theorem not_received_of_settledEvent (h : s.settledEvent id) : ¬ Received id s.api.store := by
  rintro ⟨e, he, hid, hstat⟩
  have hrow := List.all_eq_true.mp h e he
  simp [hid, hstat] at hrow

theorem not_received_of_processed {s : BillingStore} (hrows : EventRows s) (h : Processed id s) :
    ¬ Received id s := by
  rintro ⟨e, he, hid, hstat⟩
  obtain ⟨e', he', hid', hstat'⟩ := h
  have heq : e' = e := List.inj_on_of_nodup_map hrows.ids he' he (hid'.trans hid.symm)
  rw [heq, hstat] at hstat'
  cases hstat'

/-- An event that is covered without one more insertion has a job already. -/
theorem live_of_coveredWithout (h : s.coveredWithout id) (hrecv : Received id s.api.store) :
    liveJobFor s.jobs id := by
  simp only [coveredWithout, Bool.or_eq_true] at h
  rcases h with hsett | hlive
  · exact absurd hrecv (not_received_of_settledEvent hsett)
  · exact hlive

/-! ## Insertions -/

theorem enqueue_same {queue : List QueueJob} (h : queue = jobs.map fun b => b.job) :
    enqueue jobs queue = jobs := by
  simp [h, enqueue]

theorem enqueue_new {queue : List QueueJob} (job : QueueJob) (h : queue = jobs.map fun b => b.job) :
    enqueue jobs (queue ++ [job]) = jobs ++ [⟨job, 0, .waiting⟩] := by
  grind [enqueue]

/-! ## One call of a request -/

variable {log : List (Event BillingCall BillingCall.Res Exception)} {op : BillingCall}
  {req : BillingRequest}

variable {k : Except Exception op.Res → BillingProg BillingReply}

/-- A request goes on after a call, whose answer may be an exception. -/
theorem Tended.advance (h : Tended s)
    (hp : s.api.procs[pid]? = some (req, .call op k)) {r : Except Exception op.Res}
    {t : BillingStore}
    (hrows : EventRows t) (hstays : StaysProcessed s.api.store t)
    (hqueue : t.queue = jobs.map fun b => b.job)
    (hlive : ∀ id, liveJobFor s.jobs id → liveJobFor jobs id)
    (hact : ∀ b ∈ jobs, ∀ pid, b.state = .active pid → b ∈ s.jobs)
    (hattempt : ∀ id, Attempting id (.call op k) s.api.store → Attempting id (k r) t)
    (hrecv : ∀ id, Received id t →
      Received id s.api.store ∨ req.dispatches ∧ PledgedTo id (k r))
    (hpledge : ∀ id, Received id s.api.store → req.dispatches → PledgedTo id (.call op k) →
      liveJobFor jobs id ∨ PledgedTo id (k r)) :
    Tended { api := { store := t, procs := s.api.procs.set pid (req, k r), log := log }
             jobs := jobs } := by
  have hlt : pid < s.api.procs.length := (List.getElem?_eq_some_iff.mp hp).1
  have hmine : (req, k r) ∈ s.api.procs.set pid (req, k r) := List.mem_set hlt _
  constructor
  · exact hrows
  · exact hqueue
  · intro q hq
    rcases List.mem_or_eq_of_mem_set hq with hold | rfl
    · exact h.pledges q hold
    · exact (h.pledges _ (List.mem_of_getElem? hp)).2 r
  · intro b hb i hi
    obtain ⟨q, hq, hattempting⟩ := h.attempting b (hact b hb i hi) i hi
    by_cases hpid : pid = i
    · -- the attempt itself has made the call
      subst hpid
      rw [hp] at hq
      obtain rfl : (req, Prog.call op k) = q := Option.some.inj hq
      refine ⟨(req, k r), ?_, hattempt _ hattempting⟩
      simp [hlt]
    refine ⟨q, ?_, hattempting.stable hstays⟩
    rw [List.getElem?_set_ne hpid]
    exact hq
  · intro id hid
    rcases hrecv id hid with hold | ⟨hdisp, hpledged⟩
    · rcases h.covered id hold with hjob | ⟨q, hq, hdisp, hpledged⟩
      · exact Or.inl (hlive id hjob)
      · obtain ⟨i, hi⟩ := List.mem_iff_getElem?.mp hq
        by_cases hpid : pid = i
        · -- the request that covers the event has made the call
          subst hpid
          rw [hp] at hi
          obtain rfl : (req, Prog.call op k) = q := Option.some.inj hi
          rcases hpledge id hold hdisp hpledged with hjob | hpledged'
          · exact Or.inl hjob
          · exact Or.inr ⟨_, hmine, hdisp, hpledged'⟩
        refine Or.inr ⟨q, List.mem_of_getElem? (i := i) ?_, hdisp, hpledged⟩
        rw [List.getElem?_set_ne hpid]
        exact hi
    · exact Or.inr ⟨_, hmine, hdisp, hpledged⟩

/-- An exception that the condition allows leaves the events of the request covered. -/
theorem live_of_mayThrow (h : s.mayThrow req op) (hrecv : Received id s.api.store)
    (hdisp : req.dispatches) (hpledged : PledgedTo id (.call op k)) :
    liveJobFor s.jobs id := by
  rcases hpledged with htarget | ⟨hway, -⟩
  · cases op with
    | queueAdd job =>
      obtain rfl : job.payload.webhookEventId = id := htarget
      exact live_of_coveredWithout h hrecv
    | _ => exact htarget.elim
  -- a wallet call of a delivery must not throw
  have hno : (!req.dispatches) = true := by
    cases op with
    | wallet stmt => exact h
    | settleTopUp input => exact h
    | _ => exact hway.elim
  rw [hdisp] at hno
  cases hno

theorem Tended.fail (h : Tended s) (hp : s.api.procs[pid]? = some (req, .call op k))
    {e : Exception} (hC : s.mayThrow req op) :
    Tended { s with api := { s.api with procs := s.api.procs.set pid (req, k (.error e))
                                        log := log } } := by
  refine h.advance hp h.rows (StaysProcessed.refl _) h.queue (fun _ hid => hid)
    (fun _ hb _ _ => hb) ?_ (fun _ hid => Or.inl hid) ?_
  · intro id hattempting
    exact (hattempting _ (StaysProcessed.refl _) h.rows).2 e
  · grind [live_of_mayThrow]

/-- A harmless call that answers, or whose exception strands nothing. -/
theorem Tended.call (h : Tended s) (hp : s.api.procs[pid]? = some (req, .call op k))
    (hharmless : s.harmless op) (hans : (op.exec s.api.store).1.isOk ∨ s.mayThrow req op) :
    Tended { api := { store := (op.exec s.api.store).2
                      procs := s.api.procs.set pid (req, k (op.exec s.api.store).1)
                      log := log }
             jobs := enqueue s.jobs (op.exec s.api.store).2.queue } ∧
      StaysProcessed s.api.store (op.exec s.api.store).2 := by
  have hreset : ∀ id, op = .webhookEventReset id → ¬ Processed id s.api.store := by
    rintro id rfl ⟨e, he, hid, hstat⟩
    have hrow := List.all_eq_true.mp hharmless e he
    simp [hid, hstat] at hrow
  obtain ⟨hrows, hstays⟩ := h.rows.exec hreset
  have heach := h.pledges _ (List.mem_of_getElem? hp)
  have hqueued : (op.exec s.api.store).2.queue =
      (enqueue s.jobs (op.exec s.api.store).2.queue).map (fun b => b.job) ∧
      ∀ b ∈ enqueue s.jobs (op.exec s.api.store).2.queue, b ∈ s.jobs ∨
        b.state = .waiting ∧ op = .queueAdd b.job := by
    rcases queue_exec op s.api.store with ⟨hsame, -⟩ | ⟨job, rfl, hnew⟩
    · rw [hsame, enqueue_same h.queue]
      exact ⟨h.queue, fun b hb => Or.inl hb⟩
    rw [hnew, enqueue_new job h.queue]
    constructor
    · rw [List.map_append, ← h.queue]
      rfl
    · grind
  refine ⟨h.advance hp hrows hstays hqueued.1 (fun id hid => liveJobFor_append hid) ?_ ?_ ?_ ?_,
    hstays⟩
  · grind
  · intro id hattempting
    exact (hattempting _ (StaysProcessed.refl _) h.rows).1
  · rintro id ⟨e, he, rfl, hstat⟩
    rcases events_exec he with hold | ⟨data, rfl, hok, rfl⟩ | ⟨id, row, rfl, hok, rfl, -⟩ | hdone
    · exact Or.inl ⟨e, hold, rfl, hstat⟩
    · right
      rw [hok]
      exact ⟨heach.1.1, heach.1.2 (data.received s.api.store.fresh)⟩
    · right
      rw [hok]
      exact ⟨heach.1.1, heach.1.2 row⟩
    · rw [hdone] at hstat
      cases hstat
  · intro id hrecv hdisp hpledged
    rcases hans with hok | hthrow
    · cases hr : (op.exec s.api.store).1 with
      | error e =>
        rw [hr] at hok
        cases hok
      | ok a =>
        rcases Prog.Bound.next hpledged a with htarget | hrest
        · -- the insertion itself: the job is in the queue, or was not needed
          left
          cases op with
          | queueAdd job =>
            obtain rfl : job.payload.webhookEventId = id := htarget
            rcases queue_exec (.queueAdd job) s.api.store with ⟨hsame, hthere⟩ | ⟨job', hjob, hnew⟩
            · have hcovered : s.coveredWithout job.payload.webhookEventId := by grind [harmless]
              exact liveJobFor_append (live_of_coveredWithout hcovered hrecv)
            cases hjob
            rw [hnew, enqueue_new job h.queue]
            refine liveJobFor_iff.mpr ⟨⟨job, 0, .waiting⟩, ?_, rfl, rfl⟩
            simp
          | _ => exact htarget.elim
        · exact Or.inr hrest
    · exact Or.inl (liveJobFor_append (live_of_mayThrow hthrow hrecv hdisp hpledged))

/-! ## The other steps -/

/-- A new request, or a new attempt. -/
theorem Tended.start (h : Tended s) (req : BillingRequest) (env : BillingEnv) :
    Tended { s with api := { s.api with procs := s.api.procs ++ [(req, billingCode env req)] } } where
  rows := h.rows
  queue := h.queue
  pledges := by
    intro q hq
    rcases List.mem_append.mp hq with hold | hnew
    · exact h.pledges q hold
    · obtain rfl := List.mem_singleton.mp hnew
      exact request_pledges env req
  attempting := by
    intro b hb pid hpid
    obtain ⟨q, hq, hattempting⟩ := h.attempting b hb pid hpid
    have hlt : pid < s.api.procs.length := (List.getElem?_eq_some_iff.mp hq).1
    refine ⟨q, ?_, hattempting⟩
    rw [List.getElem?_append_left hlt]
    exact hq
  covered := by
    intro id hid
    rcases h.covered id hid with hjob | ⟨q, hq, hpledged⟩
    · exact Or.inl hjob
    · exact Or.inr ⟨q, List.mem_append_left _ hq, hpledged⟩

variable {b : BullJob}

/-- One job gets another state. -/
theorem Tended.setJob (h : Tended s) {b' : BullJob}
    (hb : s.jobs[i]? = some b) (hjob : b'.job = b.job)
    (hattempting : ∀ pid, b'.state = .active pid →
      ∃ q, s.api.procs[pid]? = some q ∧ Attempting b'.event q.2 s.api.store)
    (hcovered : b'.state.live ∨ ¬ Received b.event s.api.store ∨
      liveJobFor (s.jobs.eraseIdx i) b.event) :
    Tended { s with jobs := s.jobs.set i b' } := by
  have hlt : i < s.jobs.length := (List.getElem?_eq_some_iff.mp hb).1
  have hev : b'.event = b.event := by
    rw [BullJob.event, hjob, BullJob.event]
  constructor
  · exact h.rows
  · obtain ⟨_, hget⟩ := List.getElem?_eq_some_iff.mp hb
    rw [List.map_set, hjob, h.queue, ← hget, ← List.map_set, List.set_getElem_self]
  · exact h.pledges
  · intro c hc pid hpid
    rcases List.mem_or_eq_of_mem_set hc with hold | rfl
    · exact h.attempting c hold pid hpid
    · exact hattempting pid hpid
  · intro id hid
    rcases h.covered id hid with hlive | hreq
    · left
      obtain ⟨c, hc, hclive, hcevent⟩ := liveJobFor_iff.mp hlive
      obtain ⟨j, hj⟩ := List.mem_iff_getElem?.mp hc
      by_cases hij : i = j
      · -- the job that covers the event is the one that changes
        subst hij
        rw [hb] at hj
        obtain rfl : b = c := Option.some.inj hj
        rcases hcovered with hstill | hnot | hother
        · exact liveJobFor_iff.mpr ⟨b', List.mem_set hlt _, hstill, hev.trans hcevent⟩
        · grind
        · obtain ⟨c', hc', hclive', hcevent'⟩ := liveJobFor_iff.mp hother
          obtain ⟨j', hne, hj'⟩ := List.mem_eraseIdx_iff_getElem?.mp hc'
          refine liveJobFor_iff.mpr ⟨c', List.mem_of_getElem? (i := j') ?_, hclive',
            hcevent'.trans hcevent⟩
          rw [List.getElem?_set_ne (Ne.symm hne)]
          exact hj'
      · refine liveJobFor_iff.mpr ⟨c, List.mem_of_getElem? (i := j) ?_, hclive, hcevent⟩
        rw [List.getElem?_set_ne hij]
        exact hj
    · exact Or.inr hreq

/-- A finished job is forgotten. -/
theorem Tended.forget (h : Tended s) (hb : s.jobs[i]? = some b) (hdone : b.state.live = false) :
    Tended { api := { s.api with store := { s.api.store with
               queue := s.api.store.queue.eraseIdx i } }
             jobs := s.jobs.eraseIdx i } where
  rows := h.rows.congr rfl (Nat.le_refl _)
  queue := by simp [h.queue, List.eraseIdx_map]
  pledges := h.pledges
  attempting := by
    intro c hc pid hpid
    obtain ⟨q, hq, hattempting⟩ := h.attempting c (List.mem_of_mem_eraseIdx hc) pid hpid
    exact ⟨q, hq, hattempting.stable fun _ hid => hid⟩
  covered := by
    intro id hid
    rcases h.covered id hid with hlive | hreq
    · left
      obtain ⟨c, hc, hclive, hcevent⟩ := liveJobFor_iff.mp hlive
      obtain ⟨j, hj⟩ := List.mem_iff_getElem?.mp hc
      have hne : j ≠ i := by grind
      exact liveJobFor_iff.mpr ⟨c, List.mem_eraseIdx_iff_getElem?.mpr ⟨j, hne, hj⟩, hclive, hcevent⟩
    · exact Or.inr hreq

/-! ## A whole run -/

variable {env : BillingEnv} {attempts : QueueJob → ℕ}

/-- A job whose attempt has ended. -/
theorem Tended.finish (h : Tended s) {b' : BullJob} {p : BillingProg BillingReply}
    (hb : s.jobs[i]? = some b) (hp : s.attempt b = some p)
    (hafter : afterAttempt attempts b p = some b') (hC : s.mayFinish attempts i) :
    Tended { s with jobs := s.jobs.set i b' } := by
  obtain ⟨pid, hpid, hproc⟩ : ∃ pid, b.state = .active pid ∧
      s.api.procs[pid]?.map (fun q => q.2) = some p := by grind [attempt]
  obtain ⟨q, hq, hattempting⟩ := h.attempting b (List.mem_of_getElem? hb) pid hpid
  obtain rfl : q.2 = p := by
    rw [hq] at hproc
    exact Option.some.inj hproc
  cases hend : q.2 with
  | call op k =>
    rw [hend] at hafter
    cases hafter
  | ret reply =>
    rw [hend] at hafter hattempting
    obtain rfl := Option.some.inj hafter
    refine h.setJob hb rfl (fun _ hact => nomatch hact) ?_
    -- the attempt has left its event processed
    exact Or.inr (Or.inl (not_received_of_processed h.rows hattempting))
  | throw e =>
    rw [hend] at hafter
    obtain rfl := Option.some.inj hafter
    by_cases hmore : b.attemptsMade + 1 < attempts b.job
    · have hretry : retryOrFail attempts b =
          { b with attemptsMade := b.attemptsMade + 1, state := .waiting } := if_pos hmore
      rw [hretry]
      exact h.setJob hb rfl (fun _ hact => nomatch hact) (Or.inl rfl)
    have hfail : retryOrFail attempts b =
        { b with attemptsMade := b.attemptsMade + 1, state := .failed } := if_neg hmore
    rw [hfail]
    rw [hend] at hp
    have hnotLast : s.settledEvent b.event ∨ liveJobFor (s.jobs.eraseIdx i) b.event := by
      simpa [mayFinish, hb, hp, hmore] using hC
    refine h.setJob hb rfl (fun _ hact => nomatch hact) (Or.inr ?_)
    rcases hnotLast with hsett | hother
    · exact Or.inl (not_received_of_settledEvent hsett)
    · exact Or.inr hother

/-- A step of the condition keeps the invariant, and takes no event back. -/
theorem Tended.step (h : Tended s) {l : WebhookStep} (hC : s.careful attempts l)
    (hnext : next env attempts l s = some s') :
    Tended s' ∧ StaysProcessed s.api.store s'.api.store := by
  have hstart : ∀ req, ((billingMachine env).next (.start req) s.api).map
      (fun api => { s with api := api }) = some s' →
        Tended s' ∧ StaysProcessed s.api.store s'.api.store := by
    intro req hreq
    obtain rfl := Option.some.inj hreq
    exact ⟨h.start req env, StaysProcessed.refl _⟩
  cases l with
  | request req =>
    cases req with
    | job now payload => cases hnext
    | _ => exact hstart _ hnext
  | call pid =>
    obtain ⟨api, hapi, rfl⟩ := Option.map_eq_some_iff.mp hnext
    rcases (billingMachine env).next_cases hapi with ⟨req, hl, -⟩ |
      ⟨pid', req, op, k, hl, hp, rfl⟩ | ⟨pid', e, req, op, k, hl, -⟩
    · cases hl
    · cases hl
      simp only [careful, hp, Bool.and_eq_true, Bool.or_eq_true] at hC
      exact h.call hp hC.1 hC.2
    · cases hl
  | fail pid e =>
    obtain ⟨api, hapi, rfl⟩ := Option.map_eq_some_iff.mp hnext
    rcases (billingMachine env).next_cases hapi with ⟨req, hl, -⟩ |
      ⟨pid', req, op, k, hl, -⟩ | ⟨pid', e', req, op, k, hl, hp, rfl⟩
    · cases hl
    · cases hl
    · cases hl
      simp only [careful, hp] at hC
      exact ⟨h.fail hp hC, StaysProcessed.refl _⟩
  | take i now =>
    simp only [next] at hnext
    split at hnext
    · rename_i b hb
      split at hnext
      · obtain rfl := Option.some.inj hnext
        have hstarted := h.start (.job now b.job.payload) env
        refine ⟨hstarted.setJob (b := b) hb rfl ?_ (Or.inl rfl), StaysProcessed.refl _⟩
        intro pid hpid
        obtain rfl : s.api.procs.length = pid := JobState.active.inj hpid
        refine ⟨(.job now b.job.payload, billingCode env (.job now b.job.payload)), ?_,
          job_attempting env now b.job.payload s.api.store⟩
        simp
      · cases hnext
    · cases hnext
  | finish i =>
    simp only [next] at hnext
    split at hnext
    · rename_i b hb
      obtain ⟨b', hb', rfl⟩ := Option.map_eq_some_iff.mp hnext
      obtain ⟨p, hp, hafter⟩ := Option.bind_eq_some_iff.mp hb'
      exact ⟨h.finish hb hp hafter hC, StaysProcessed.refl _⟩
    · cases hnext
  | forget i =>
    simp only [next] at hnext
    split at hnext
    · rename_i b hb
      split at hnext
      · cases hnext
      rename_i hdone
      obtain rfl := Option.some.inj hnext
      exact ⟨h.forget hb (Bool.eq_false_iff.mpr hdone), StaysProcessed.refl _⟩
    · cases hnext

theorem Tended.run {ls : List WebhookStep} (h : Tended s)
    (hrun : WebhookSystem.run env attempts (careful attempts) ls s = some s') :
    Tended s' ∧ StaysProcessed s.api.store s'.api.store := by
  induction ls generalizing s with
  | nil =>
    obtain rfl := Option.some.inj hrun
    exact ⟨h, StaysProcessed.refl _⟩
  | cons l ls ih =>
    simp only [WebhookSystem.run] at hrun
    split at hrun
    · rename_i hC
      obtain ⟨t, hnext, hrest⟩ := Option.bind_eq_some_iff.mp hrun
      obtain ⟨htended, hstays⟩ := h.step hC hnext
      obtain ⟨htended', hstays'⟩ := ih htended hrest
      exact ⟨htended', hstays.trans _ _ _ hstays'⟩
    · cases hrun

/-- When all is quiet nothing covers an event. -/
theorem Tended.quiescent (h : Tended s) (hquiet : s.quiescent) (id : ℕ) :
    ¬ Received id s.api.store := by
  simp only [WebhookSystem.quiescent, Bool.and_eq_true] at hquiet
  obtain ⟨hprocs, hjobs⟩ := hquiet
  intro hid
  rcases h.covered id hid with hlive | ⟨q, hq, -, hpledged⟩
  · grind [liveJobFor_iff]
  have hended := List.all_eq_true.mp hprocs q hq
  cases hprog : q.2 with
  | call op k =>
    rw [hprog] at hended
    cases hended
  | ret reply | throw e =>
    rw [hprog] at hpledged
    exact hpledged

/-- A system in which nothing runs, and every event that is still to be processed has a job
that waits. -/
structure Idle (s : WebhookSystem) : Prop where
  rows : EventRows s.api.store
  queue : s.api.store.queue = s.jobs.map fun b => b.job
  noRequest : s.api.procs = []
  noAttempt : ∀ b ∈ s.jobs, ∀ pid, b.state ≠ .active pid
  waiting : ∀ id, Received id s.api.store → liveJobFor s.jobs id

theorem Idle.tended (h : Idle s) : Tended s where
  rows := h.rows
  queue := h.queue
  pledges := by
    intro q hq
    rw [h.noRequest] at hq
    cases hq
  attempting := fun b hb pid hpid => absurd hpid (h.noAttempt b hb pid)
  covered := fun id hid => Or.inl (h.waiting id hid)

/-- In a run whose steps are all careful no event is left over, and none that was processed
is taken back. -/
theorem noneStranded_of_careful (env : BillingEnv) (attempts : QueueJob → ℕ) {s₀ : WebhookSystem}
    (hs₀ : Idle s₀) : NoneStranded env attempts (careful attempts) s₀ := by
  intro ls s hrun
  obtain ⟨htended, -⟩ := hs₀.tended.run hrun
  constructor
  · intro hquiet e he
    cases hstatus : e.status with
    | processed => exact Or.inl rfl
    | failed => exact Or.inr rfl
    | received => exact absurd ⟨e, he, rfl, hstatus⟩ (htended.quiescent hquiet e.id)
  · intro ls' s' hrun'
    exact (htended.run hrun').2

/-! ## Nothing fails an event -/

/-! ## Runs -/

/-- An empty database and an empty queue. -/
def emptySystem : WebhookSystem where
  api := Machine.initial emptyBilling
  jobs := []

theorem emptySystem_idle : Idle emptySystem where
  rows :=
    { ids := List.nodup_nil
      ids_lt := fun _ he => nomatch he
      dated := fun _ he => nomatch he }
  queue := rfl
  noRequest := rfl
  noAttempt := fun _ hb => nomatch hb
  waiting := by
    rintro id ⟨e, he, -⟩
    cases he

/-- The number of attempts at a job. -/
def tenAttempts : QueueJob → ℕ := fun _ => 10

/-- A delivery, its job with one attempt that throws and one that returns, and a redelivery. -/
def tidyRun : List WebhookStep :=
  [.request (.webhook 0 (.text (some succeededBody))), .call 0, .call 0, .call 0,
    .take 0 1, .call 1, .fail 1 (.error "connection lost"), .finish 0,
    .take 0 2, .call 2, .call 2, .finish 0, .forget 0,
    .request (.webhook 3 (.text (some succeededBody))), .call 3, .call 3]

/-- A delivery whose look-up of the top-up fails after the event has been recorded, its
redelivery, and an attempt of an admin to retry the event. -/
def strandingRun : List WebhookStep :=
  [.request (.webhook 0 (.text (some succeededBody))), .call 0, .fail 0 (.error "connection lost"),
    .request (.webhook 1 (.text (some succeededBody))), .call 1, .call 1,
    .request (.retry 2 { access := .ok (), webhookEventId := some 0 }), .call 2]

theorem noneStranded_tidyRun :
    (WebhookSystem.run connectedEnv tenAttempts (careful tenAttempts) tidyRun emptySystem).map
        (fun s => s.quiescent && s.api.store.webhookEvents.map (fun e => e.status) == [.processed]) =
      some true ∧
    NoneStranded connectedEnv tenAttempts (careful tenAttempts) emptySystem := by
  constructor
  · decide +kernel
  · exact noneStranded_of_careful connectedEnv tenAttempts emptySystem_idle

/-- All is quiet, and the event is still `received`. -/
theorem stranded_webhook :
    ¬ ∀ (env : BillingEnv) (attempts : QueueJob → ℕ) (s₀ : WebhookSystem), Idle s₀ →
      NoneStranded env attempts (fun _ _ => true) s₀ := by
  intro hall
  have hcheck : (WebhookSystem.run connectedEnv tenAttempts (fun _ _ => true) strandingRun
      emptySystem).map (fun s => s.quiescent && s.api.store.webhookEvents.any fun e =>
        e.status == .received) = some true := by decide +kernel
  obtain ⟨s, hrun, hs⟩ := Option.map_eq_some_iff.mp hcheck
  simp only [Bool.and_eq_true, List.any_eq_true, beq_iff_eq] at hs
  obtain ⟨hquiet, e, he, hstatus⟩ := hs
  obtain ⟨hleft, -⟩ := hall connectedEnv tenAttempts emptySystem emptySystem_idle strandingRun s hrun
  rcases hleft hquiet e he with hprocessed | hfailed
  · rw [hstatus] at hprocessed
    cases hprocessed
  · rw [hstatus] at hfailed
    cases hfailed

end QuizMind
