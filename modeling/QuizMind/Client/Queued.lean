import QuizMind.Client.Ingest

/-! # Acknowledged telemetry

An event that the client reports as sent, or removes from its buffer as delivered, has been
accepted by the queue as long as no reply arrives for a request whose dispatch has failed
(`reported_queued`). Such a reply is a successful one for the client (`degraded_reported`).
-/

namespace QuizMind.Client

open Async
open List (prefix_append prefix_rfl)
open Prog (ensures_bind)

/-! ## The statement -/

/-- The event that is sent for an input. -/
structure IsEventOf (input : SendInput) (event : UsageEventPayload) : Prop where
  eventType : event.eventType = input.eventType
  payload : event.payload = input.payload
  occurredAt : ∀ occurredAt, input.occurredAt = some occurredAt → event.occurredAt = occurredAt

/-- Every event that a `sendUsageEvent` reports as sent, or that a flush has removed, was
accepted by the queue. -/
structure AcknowledgedQueued (server : UsageServer) (s : SystemSnapshot) : Prop where
  reported : ∀ (pid : ℕ) input result,
    s.procs[pid]? = some (.sendUsageEvent input, .ret (.ingested result)) →
      ∃ token event, IsEventOf input event ∧
        ⟨pid, .send (.usageEvent token event), .ok (.ok result)⟩ ∈ s.log ∧
          s.store.ingested.Accepted server event
  removed : ∀ event ∈ deliveredEvents s.log, s.store.ingested.Accepted server event

/-- The dispatch of the request has failed. -/
def dispatchFailed : ClientTold → Bool
  | ⟨.send (.usageEvent _ _), .ok (.ok result)⟩ => !result.queued
  | _ => false

/-- No reply arrives for a request whose dispatch has failed. -/
def intact (s : SystemSnapshot) : Label ClientError ClientRequest → Bool
  | .step pid =>
    match s.procs[pid]? with
    | some (_, .call (.receive (.usageEvent _ _) true) _) =>
      (history pid s.log).getLast?.all fun told => !dispatchFailed told
    | _ => true
  | _ => true

/-! ## Replies -/

/-- The request with the event, and then its reply. -/
def replied (token : String) (event : UsageEventPayload) (result : UsageEventIngestResult) :
    List ClientTold :=
  [⟨.send (.usageEvent token event), .ok (.ok result)⟩,
    ⟨.receive (.usageEvent token event) true, .ok ()⟩]

/-- The event was sent, and its reply has arrived. -/
def Replied (past : List ClientTold) (event : UsageEventPayload)
    (result : UsageEventIngestResult) : Prop :=
  ∃ token, replied token event result <:+: past

theorem Replied.mono {past past' : List ClientTold} (h : past <+: past')
    {event : UsageEventPayload} {result : UsageEventIngestResult}
    (hreplied : Replied past event result) : Replied past' event result := by
  obtain ⟨token, hinfix⟩ := hreplied
  exact ⟨token, hinfix.trans h.isInfix⟩

/-- What a flush removes has got a reply. -/
def flushCalls (past : List ClientTold) : ClientCall → Prop
  | .setBufferedEvents (.flushed delivered _) =>
    ∀ event ∈ delivered, ∃ result, Replied past event result
  | _ => True

theorem flushCalls_of_noBuffer (past : List ClientTold) {op : ClientCall}
    (hop : op.touchesBuffer = false) : flushCalls past op := by
  cases op with
  | setBufferedEvents write => cases hop
  | _ => trivial

section Programs

variable {start : List ClientTold}

theorem NoBuffer.grows {α : Type} {p : ClientProg α} (hp : NoBuffer p) :
    p.Maintains anyAnswer flushCalls fun past => start <+: past := by
  grind [Prog.maintains_of_safe, flushCalls_of_noBuffer]

theorem getBufferedEvents_grows :
    getBufferedEvents.Maintains anyAnswer flushCalls fun past => start <+: past := by
  intro past hpast
  refine ⟨trivial, ?_⟩
  intro r _
  have hgrown := hpast.trans (prefix_append past [⟨.getBufferedEvents, r⟩])
  cases r with
  | ok stored | error e => exact hgrown

theorem appendBufferedEvent_grows (event : UsageEventPayload) :
    (appendBufferedEvent event).Maintains anyAnswer flushCalls fun past => start <+: past := by
  refine Prog.maintains_bind getBufferedEvents_grows ?_
  intro current past hpast
  refine Prog.ensures_await trivial ?_
  intro r _
  exact hpast.trans (prefix_append _ _)

variable (dates : DateFunctions)

theorem flush_parts : PartsMaintain dates anyAnswer flushCalls fun past => start <+: past where
  plain := fun hp => hp.noBuffer.grows
  read := getBufferedEvents_grows
  append := appendBufferedEvent_grows
  ensure := fun forceRefresh => (ensureValidInstallationSession_noBuffer dates forceRefresh).grows

/-! ## The programs -/

/-- A request with an event that succeeds has got the reply. -/
theorem postUsageEvent_replied (token : String) (event : UsageEventPayload)
    (past : List ClientTold) :
    (postUsageEvent token event).Ensures anyAnswer flushCalls
      (fun past' r => past <+: past' ∧ ∀ result, r = .ok result → Replied past' event result)
      past := by
  refine ⟨trivial, ?_⟩
  intro r _
  cases r with
  | error e => exact ⟨prefix_append _ _, fun _ h => by cases h⟩
  | ok reply =>
    refine ⟨trivial, ?_⟩
    intro r _
    have hgrown : past <+: past ++ [⟨.send (.usageEvent token event), .ok reply⟩] ++
        [⟨.receive (.usageEvent token event) reply.isOk, r⟩] :=
      (prefix_append _ _).trans (prefix_append _ _)
    cases r with
    | error e => exact ⟨hgrown, fun _ h => by cases h⟩
    | ok _ =>
      cases reply with
      | error message => exact ⟨hgrown, fun _ h => by cases h⟩
      | ok answer =>
        refine ⟨hgrown, ?_⟩
        intro result hres
        cases hres
        refine ⟨token, past, [], ?_⟩
        simp only [List.append_assoc]
        rfl

/-- Every event that the loop delivers has got a reply. -/
theorem flushEvents_replied (token : String) (events : List UsageEventPayload)
    (past : List ClientTold) :
    (flushEvents token events).Ensures anyAnswer flushCalls
      (fun past' r => past <+: past' ∧ ∃ flushed, r = .ok flushed ∧
        ∀ event ∈ flushed.1.map Prod.fst, ∃ result, Replied past' event result) past := by
  induction events generalizing past with
  | nil => exact ⟨prefix_rfl, ([], []), rfl, by simp⟩
  | cons event rest ih =>
    refine ensures_bind (attempt_ensures (postUsageEvent_replied token event past)) ?_ ?_
    · rintro past' sent ⟨sent', hsent', hgrown, hreplied⟩
      obtain rfl := Except.ok.inj hsent'
      cases sent with
      | error e => exact ⟨hgrown, ([], event :: rest), rfl, by simp⟩
      | ok result =>
        refine ensures_bind (ih past') ?_ ?_
        · rintro past'' flushed ⟨hgrown', flushed', hflushed', hrest⟩
          obtain rfl := Except.ok.inj hflushed'
          refine ⟨hgrown.trans hgrown', _, rfl, ?_⟩
          intro delivered hdelivered
          rcases List.mem_cons.mp hdelivered with rfl | hmem
          · exact ⟨result, (hreplied result rfl).mono hgrown'⟩
          · exact hrest delivered hmem
        · rintro past'' e ⟨-, _, h, -⟩
          cases h
    · rintro past' e ⟨_, h, -⟩
      cases h

/-- A request that is made once more, with another session, has the postcondition of the last
one. -/
theorem execute_ensures {α : Type} {request : InstallationTokenSession → ClientProg α}
    {Q : List ClientTold → α → Prop} (past : List ClientTold)
    (hreq : ∀ session past', past <+: past' → (request session).Ensures anyAnswer flushCalls
        (fun past'' r => past <+: past'' ∧ ∀ a, r = .ok a → Q past'' a) past') :
    (executeWithInstallationSession dates request).Ensures anyAnswer flushCalls
      (fun past' r => past <+: past' ∧ ∀ a, r = .ok a → Q past' a) past := by
  have hparts : PartsMaintain dates anyAnswer flushCalls fun past' => past <+: past' :=
    flush_parts dates
  refine ensures_bind (hparts.ensure false past prefix_rfl) ?_ ?_
  · intro past' session hgrown
    refine Prog.ensures_handle (hreq session past' hgrown) (fun _ _ h => h) ?_
    rintro past'' error ⟨hgrown', -⟩
    split
    · refine ensures_bind (hparts.ensure true past'' hgrown') ?_ ?_
      · grind
      · simp
    · exact ⟨hgrown', fun _ h => by cases h⟩
  · grind

theorem flushBufferedEvents_replied (events : List UsageEventPayload) (past : List ClientTold) :
    (flushBufferedEvents dates events).Ensures anyAnswer flushCalls
      (fun past' r => past <+: past' ∧ ∀ flushed, r = .ok flushed →
        ∀ event ∈ flushed.delivered.map Prod.fst, ∃ result, Replied past' event result) past := by
  refine execute_ensures dates past ?_
  intro session past' hgrown
  refine ensures_bind (flushEvents_replied session.token events past') ?_ ?_
  · rintro past'' flushed ⟨hgrown', flushed', hflushed', hreplied⟩
    obtain rfl := Except.ok.inj hflushed'
    refine ⟨hgrown.trans hgrown', ?_⟩
    intro result hres
    cases hres
    exact hreplied
  · rintro past'' e ⟨-, _, h, -⟩
    cases h

theorem flushBufferedEventsFromState_replied (past : List ClientTold) :
    (flushBufferedEventsFromState dates).Ensures anyAnswer flushCalls (fun _ _ => True) past := by
  have hread : getBufferedEvents.Ensures anyAnswer flushCalls (fun past' _ => past <+: past')
      past := getBufferedEvents_grows past prefix_rfl
  refine ensures_bind hread ?_ fun _ _ _ => trivial
  intro past' events _
  split
  · trivial
  refine ensures_bind (flushBufferedEvents_replied dates events past') ?_ fun _ _ _ => trivial
  rintro past'' flushed ⟨-, hreplied⟩
  refine ensures_bind (P := fun _ _ => True) (Prog.ensures_await ?_ fun _ _ => trivial)
    (fun _ _ _ => trivial) fun _ _ _ => trivial
  exact hreplied flushed rfl

theorem occurredAtOrNow_ensures (occurredAt : Option String) (past : List ClientTold) :
    (occurredAtOrNow dates occurredAt).Ensures anyAnswer flushCalls
      (fun _ r => ∀ t, occurredAt = some t → ∀ date, r = .ok date → date = t) past := by
  cases occurredAt with
  | some occurredAt =>
    intro t ht date hdate
    cases ht
    exact (Except.ok.inj hdate).symm
  | none =>
    refine ⟨trivial, ?_⟩
    intro r _
    cases r with
    | ok now | error e =>
      intro t ht
      cases ht

/-- A `sendUsageEvent` that succeeds has got the reply for its event. -/
theorem sendUsageEvent_replied (input : SendInput) (past : List ClientTold) :
    (sendUsageEvent dates input).Ensures anyAnswer flushCalls
      (fun past' r => ∀ result, r = .ok result →
        ∃ event, IsEventOf input event ∧ Replied past' event result) past := by
  have hparts : PartsMaintain dates anyAnswer flushCalls fun past' => past <+: past' :=
    flush_parts dates
  have hid := hparts.plain getOrCreateInstallationId_plain past prefix_rfl
  refine ensures_bind hid ?_ fun _ _ _ _ h => by cases h
  intro past' installationId _
  refine ensures_bind (occurredAtOrNow_ensures dates input.occurredAt past') ?_
    fun _ _ _ _ h => by cases h
  intro past'' occurredAt hoccurredAt
  have hev : IsEventOf input ⟨installationId, input.eventType, occurredAt, input.payload⟩ :=
    ⟨rfl, rfl, fun t ht => hoccurredAt t ht occurredAt rfl⟩
  have hsent := execute_ensures dates (Q := fun past''' result =>
      Replied past''' ⟨installationId, input.eventType, occurredAt, input.payload⟩ result) past''
    (fun session past''' hgrown =>
      Prog.Ensures.mono (fun _ _ h => ⟨hgrown.trans h.1, h.2⟩)
        (postUsageEvent_replied session.token _ past'''))
  refine Prog.ensures_handle hsent ?_ ?_
  · grind
  rintro past''' error ⟨hgrown, -⟩
  -- the event is buffered, and the error is thrown on
  have hbuffer := (flush_parts dates).bufferUnsent
    ⟨installationId, input.eventType, occurredAt, input.payload⟩ error past''' hgrown
  split
  · refine ensures_bind hbuffer ?_ fun _ _ _ _ h => by cases h
    intro _ _ _ result h
    cases h
  · intro result h
    cases h

/-- What the reply of a request says. -/
def repliedTo (req : ClientRequest) (past : List ClientTold) (reply : ClientReply) : Prop :=
  ∀ input result, req = .sendUsageEvent input → reply = .ingested result →
    ∃ event, IsEventOf input event ∧ Replied past event result

theorem clientCode_replied (req : ClientRequest) :
    (clientCode dates req).Upholds anyAnswer flushCalls (repliedTo req) [] := by
  have hother : (∀ input, req ≠ .sendUsageEvent input) →
      ∀ {α : Type} {p : ClientProg α} (f : α → ClientReply),
        p.Ensures anyAnswer flushCalls (fun _ _ => True) [] →
          (do return f (← p) : ClientProg ClientReply).Upholds anyAnswer flushCalls
            (repliedTo req) [] := by
    intro hreq α p f hp
    refine Prog.upholds_bind hp.upholds ?_
    intro past a _ input result h
    exact absurd h (hreq input)
  have hparts : PartsMaintain dates anyAnswer flushCalls fun past => [] <+: past :=
    flush_parts dates
  have hend : ∀ {α : Type} {p : ClientProg α},
      p.Maintains anyAnswer flushCalls (fun past => [] <+: past) →
        p.Ensures anyAnswer flushCalls (fun _ _ => True) [] :=
    fun hp => (hp [] prefix_rfl).mono fun _ _ _ => trivial
  cases req with
  | refreshBootstrap input => exact hother (by simp) _ (hend (hparts.refreshBootstrap input))
  | sendUsageEvent input =>
    refine Prog.upholds_bind (sendUsageEvent_replied dates input []).upholds ?_
    intro past result hreplied input' result' hinput hres
    cases hinput
    cases hres
    exact hreplied result rfl
  | sendRuntimeError input => exact hother (by simp) _ (hend (hparts.sendUsageEvent _))
  | flushBufferedEventsFromState =>
    exact hother (by simp) _ (flushBufferedEventsFromState_replied dates [])
  | refreshInstallationSession => exact hother (by simp) _ (hend (hparts.ensure true))
  | tokenExpires token | timePasses ms =>
    refine ⟨trivial, ?_⟩
    intro r _
    cases r with
    | ok _ =>
      intro input result h
      cases h
    | error e => trivial

end Programs

/-! ## A run -/

section Run

variable {dates : DateFunctions} {server : UsageServer}

/-- The invariant of the intact runs. -/
structure QueuedInv (server : UsageServer) (s : SystemSnapshot) : Prop where
  calls : Machine.Kept anyAnswer (fun _ => flushCalls) repliedTo s
  /-- A request whose dispatch has succeeded has left its event in the queue. -/
  queued : ∀ pid token event result,
    ⟨pid, .send (.usageEvent token event), .ok (.ok result)⟩ ∈ s.log → result.queued = true →
      s.store.ingested.Accepted server event
  /-- No reply has arrived for a request whose dispatch has failed. -/
  intact : ∀ pid token event result,
    replied token event result <:+: history pid s.log → result.queued = true

/-- What has been accepted stays accepted. -/
theorem systemExec_sub (call : ClientCall) (s : SystemStore) :
    s.ingested.usageEvents ⊆ (systemExec server call s).2.ingested.usageEvents := by
  cases call with
  | send request =>
    cases request with
    | usageEvent token event =>
      unfold systemExec
      dsimp only
      split
      · exact List.Subset.refl _
      · exact ingestUsageEvent_sub server token event s.ingested
    | _ => exact List.Subset.refl _
  | _ => exact List.Subset.refl _

variable {result : UsageEventIngestResult} {event : UsageEventPayload}

/-- A successful reply with `queued: true` is one to an accepted event. -/
theorem systemExec_accepted {token : String} {s : SystemStore}
    (h : (systemExec server (.send (.usageEvent token event)) s).1 = .ok (.ok result))
    (hqueued : result.queued = true) :
    (systemExec server (.send (.usageEvent token event)) s).2.ingested.Accepted server event := by
  unfold systemExec at h ⊢
  dsimp only at h ⊢
  split at h
  · cases h
  · cases h
    exact ingestUsageEvent_accepted server hqueued

/-- A new pair of a request and its reply ends with the reply. -/
theorem replied_append {token : String} {past : List ClientTold} {t : ClientTold}
    (h : replied token event result <:+: past ++ [t]) :
    replied token event result <:+: past ∨ (t = ⟨.receive (.usageEvent token event) true, .ok ()⟩ ∧
        past.getLast? = some ⟨.send (.usageEvent token event), .ok (.ok result)⟩) := by
  rcases List.infix_concat_iff.mp h with hsuffix | hinfix
  · rcases List.suffix_concat_iff.mp hsuffix with hnil | ⟨front, hfront, hlast⟩
    · cases hnil
    · right
      have hpair : [⟨.send (.usageEvent token event), .ok (.ok result)⟩] ++
          [(⟨.receive (.usageEvent token event) true, .ok ()⟩ : ClientTold)] = front ++ [t] :=
        hfront
      obtain ⟨rfl, ht⟩ := List.append_inj' hpair rfl
      obtain ⟨before, rfl⟩ := hlast
      exact ⟨(List.singleton_inj.mp ht).symm, List.getLast?_concat⟩
  · exact Or.inl hinfix

variable {s : SystemSnapshot}

/-- One more call of a request keeps what the log says of the queue. -/
theorem queued_of_call (h : QueuedInv server s) {store : SystemStore}
    (hsub : s.store.ingested.usageEvents ⊆ store.ingested.usageEvents) (pid : ℕ) {op : ClientCall}
    {r : Except ClientError op.Res}
    (hnew : ∀ token event result, (⟨op, r⟩ : ClientTold) =
      ⟨.send (.usageEvent token event), .ok (.ok result)⟩ → result.queued = true →
        store.ingested.Accepted server event) :
    ∀ pid' token event result,
      (⟨pid', .send (.usageEvent token event), .ok (.ok result)⟩ : ClientEvent) ∈
        s.log ++ [⟨pid, op, r⟩] → result.queued = true → store.ingested.Accepted server event := by
  intro pid' token event result hmem hqueued
  rcases List.mem_append.mp hmem with hold | hlast
  · exact Ingested.Accepted.mono server hsub (h.queued pid' token event result hold hqueued)
  · grind

/-- One more call keeps the replies intact, when none arrives for a failed dispatch. -/
theorem intact_of_call (h : QueuedInv server s) (pid : ℕ) {op : ClientCall}
    {r : Except ClientError op.Res}
    (hnew : ∀ token event result, (⟨op, r⟩ : ClientTold) =
      ⟨.receive (.usageEvent token event) true, .ok ()⟩ →
        (history pid s.log).getLast? = some ⟨.send (.usageEvent token event), .ok (.ok result)⟩ →
          result.queued = true) :
    ∀ pid' token event result,
      replied token event result <:+: history pid' (s.log ++ [⟨pid, op, r⟩]) →
        result.queued = true := by
  intro pid' token event result hinfix
  by_cases hpid : pid = pid'
  · subst hpid
    rw [history_append_self] at hinfix
    rcases replied_append hinfix with hold | ⟨ht, hlast⟩
    · exact h.intact pid token event result hold
    · exact hnew token event result ht hlast
  · rw [history_append_other hpid] at hinfix
    exact h.intact pid' token event result hinfix

theorem QueuedInv.next {s' : SystemSnapshot} {l : Label ClientError ClientRequest}
    (h : QueuedInv server s) (hintact : Client.intact s l = true)
    (hnext : (systemMachine dates server).next l s = some s') : QueuedInv server s' := by
  have hcalls := h.calls.next (fun _ _ => trivial) (fun _ _ => trivial)
    (clientCode_replied dates) hnext
  rcases (systemMachine dates server).next_cases hnext with ⟨req, rfl, rfl⟩ |
    ⟨pid, req, op, k, rfl, hp, rfl⟩ | ⟨pid, e, req, op, k, rfl, hp, rfl⟩
  · exact ⟨hcalls, h.queued, h.intact⟩
  · refine ⟨hcalls, ?_, ?_⟩
    · refine queued_of_call h (systemExec_sub op s.store) pid ?_
      intro token event result htold hqueued
      have hop : op = .send (.usageEvent token event) := congrArg Told.op htold
      subst hop
      exact systemExec_accepted (eq_of_heq (Told.mk.inj htold).2) hqueued
    · refine intact_of_call h pid ?_
      intro token event result htold hlast
      have hop : op = .receive (.usageEvent token event) true := congrArg Told.op htold
      subst hop
      simpa [Client.intact, hp, hlast, dispatchFailed] using hintact
  · refine ⟨hcalls, ?_, ?_⟩
    · refine queued_of_call h (List.Subset.refl _) pid ?_
      intro token event result htold
      cases htold
    · refine intact_of_call h pid ?_
      intro token event result htold
      cases htold

theorem QueuedInv.initial (store : SystemStore) : QueuedInv server (Machine.initial store) := by
  refine ⟨Machine.Kept.initial store, ?_, ?_⟩
  · intro pid token event result h
    cases h
  · simp [replied, history, Machine.initial]

/-- A reply that a request has got is one to an accepted event. -/
theorem QueuedInv.accepted (h : QueuedInv server s) {pid : ℕ} {past : List ClientTold}
    (hpast : past <+: history pid s.log) (hreplied : Replied past event result) :
    ∃ token, ⟨pid, .send (.usageEvent token event), .ok (.ok result)⟩ ∈ s.log ∧
      s.store.ingested.Accepted server event := by
  obtain ⟨token, hinfix⟩ := hreplied.mono hpast
  have hqueued := h.intact pid token event result hinfix
  have htold : (⟨.send (.usageEvent token event), .ok (.ok result)⟩ : ClientTold) ∈
      history pid s.log := hinfix.subset List.mem_cons_self
  have hmem := mem_history.mp htold
  exact ⟨token, hmem, h.queued pid token event result hmem hqueued⟩

theorem QueuedInv.queuedEvents (h : QueuedInv server s) : AcknowledgedQueued server s := by
  constructor
  · intro pid input result hp
    obtain ⟨event, hev, hreplied⟩ := h.calls.procs pid _ hp input result rfl rfl
    obtain ⟨token, hmem, hacc⟩ := h.accepted prefix_rfl hreplied
    exact ⟨token, event, hev, hmem, hacc⟩
  intro event hev
  rcases List.mem_flatMap.mp hev with ⟨e, he, hmem⟩
  rcases e with ⟨pid, op, r⟩
  rcases List.mem_iff_getElem?.mp he with ⟨i, hi⟩
  rcases h.calls.events i _ hi with ⟨q, -, hG⟩
  have hpast : history pid (s.log.take i) <+: history pid s.log :=
    (List.take_prefix i s.log).filterMap _
  cases op with
  | setBufferedEvents write =>
    cases write with
    | append appended events => cases r <;> cases hmem
    | flushed delivered remaining =>
      cases r with
      | error e => cases hmem
      | ok _ =>
        obtain ⟨result, hreplied⟩ := hG event hmem
        obtain ⟨-, -, hacc⟩ := h.accepted hpast hreplied
        exact hacc
  | _ => cases hmem

/-- While no reply arrives for a request whose dispatch has failed, every event that is reported
as sent, or removed by a flush, was accepted by the queue. -/
theorem reported_queued (dates : DateFunctions) (server : UsageServer) (store : SystemStore)
    {s : SystemSnapshot}
    (h : (systemMachine dates server).Reaches (fun s l => Client.intact s l)
      (Machine.initial store) s) :
    AcknowledgedQueued server s := by
  have hinv : QueuedInv server s := by
    refine Machine.Reaches.invariant _ ?_ h (QueuedInv.initial store)
    intro s l s' hintact hnext hs
    exact hs.next hintact hnext
  exact hinv.queuedEvents

end Run

section Degraded

/-- A server whose dispatches fail as given. -/
def serverOf (dispatchFails : ℕ → Bool) : UsageServer where
  installation := fun _ => ⟨"inst_1", "chrome", "1.7.0", "2", "[]"⟩
  incoming := fun event => ⟨some event.eventType, some event.occurredAt, some event.payload⟩
  clock := fun _ => ⟨1767225600000, "2026-01-01T00:00:00.000Z"⟩
  queuePolicy := fun _ => none
  dispatchFails := dispatchFails
  recordFails := fun _ => false

def connectedSystem : SystemStore := ⟨connectedStore, ⟨[], [], 0⟩⟩

/-- The steps that are possible, in the composed system. -/
def systemPossible (s : SystemSnapshot) : Label ClientError ClientRequest → Bool
  | .start _ => true
  | .step pid =>
    match s.procs[pid]? with
    | some (_, .call op _) => op.enabled s.store.client
    | _ => true
  | .fail pid e =>
    match s.procs[pid]? with
    | some (_, .call op _) => op.mayFail e
    | _ => true

/-- An event that is sent: the installation id, the session and the clock are read, and the
request is made. -/
def sentAtOnce : List (Label ClientError ClientRequest) :=
  .start (sendNow "opened") :: List.replicate 5 (.step 0)

/-- The request has ended with a result. -/
def endedWith (s : SystemSnapshot) (queued : Bool) : Bool :=
  match (s.procs[0]? : Option (ClientRequest × ClientProg ClientReply)) with
  | some (.sendUsageEvent input, .ret (.ingested result)) =>
    input.eventType = "opened" ∧ result.queued = queued
  | _ => false

theorem endedWith_spec {s : SystemSnapshot} {queued : Bool} (h : endedWith s queued = true) :
    ∃ input result, s.procs[0]? = some (.sendUsageEvent input, .ret (.ingested result)) ∧
      result.queued = queued := by
  unfold endedWith at h
  split at h
  · grind
  · cases h

theorem reported_queued_sent : ∃ s, (systemMachine newYear (serverOf fun _ => false)).Reaches
        (fun s l => Client.intact s l) (Machine.initial connectedSystem) s ∧
      endedWith s true ∧ AcknowledgedQueued (serverOf fun _ => false) s := by
  have hrun : ((systemMachine newYear (serverOf fun _ => false)).trace Client.intact sentAtOnce
      (Machine.initial connectedSystem)).map (fun s => endedWith s true) = some true := by
    decide +kernel
  rcases (systemMachine newYear _).reaches_of_trace_check hrun with ⟨s, hreaches, hend⟩
  exact ⟨s, hreaches, hend, reported_queued newYear _ connectedSystem hreaches⟩

/-- The dispatch fails, and the event is reported as sent. -/
theorem degraded_reported : ∃ s, (systemMachine newYear (serverOf fun _ => true)).Reaches
        (fun s l => systemPossible s l) (Machine.initial connectedSystem) s ∧
      ¬ AcknowledgedQueued (serverOf fun _ => true) s := by
  have hrun : ((systemMachine newYear (serverOf fun _ => true)).trace systemPossible sentAtOnce
      (Machine.initial connectedSystem)).map (fun s => endedWith s false &&
        decide (s.store.ingested.usageEvents = [])) = some true := by
    decide +kernel
  rcases (systemMachine newYear _).reaches_of_trace_check hrun with ⟨s, hreaches, hend⟩
  rw [Bool.and_eq_true, decide_eq_true_eq] at hend
  refine ⟨s, hreaches, ?_⟩
  intro hqueued
  obtain ⟨input, result, hp, -⟩ := endedWith_spec hend.1
  obtain ⟨token, event, -, -, clock, token', haccepted⟩ := hqueued.reported 0 input result hp
  rw [hend.2] at haccepted
  cases haccepted

end Degraded

end QuizMind.Client
