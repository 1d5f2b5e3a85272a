import QuizMind.Client.Telemetry
import Mathlib.Logic.Function.Basic

/-! # Refreshes of the installation session

Concurrent refreshes share one promise, but each operation reads the session before it
looks for that promise. An operation that has read the session and goes on after
another one has refreshed it starts a refresh with the old token: the server refuses
it, and the new session is cleared (`newer_session_cleared`).

While each refresh is started with the stored token, the session is only cleared when
the server no longer accepts it (`clears_only_refused`). The proof follows the one
operation that holds the promise.
-/

namespace QuizMind.Client

open Async
open Function (update update_of_ne)
open Machine (initial)
open Prog (maintains_bind maintains_ret safe_await_bind)

/-! ## The statement -/

/-- A refresh is started with the token that is stored. -/
def startsCurrent (s : ClientSnapshot) : Label ClientError ClientRequest → Bool
  | .step pid =>
    match s.procs[pid]? with
    | some (_, .call (.enterRefresh token) _) =>
      s.store.installationSessionRefreshPromise.isSome ∨
        s.store.installationSession.map (·.token) = some token
    | _ => true
  | _ => true

/-- A session that is cleared holds a token that the server does not accept. -/
def ClearsRefused (s : ClientSnapshot) : Label ClientError ClientRequest → Prop
  | .step pid => ∀ req k, s.procs[pid]? = some (req, .call .removeInstallationSession k) →
      ∃ session, s.store.installationSession = some session ∧
        session.token ∉ s.store.server.accepted
  | _ => True

/-! ## The operation that holds the promise -/

/-- A refresh of this operation: `untouched` until it writes or clears the session. -/
structure Holding where
  id : ℕ
  token : String
  untouched : Bool

def holdAfter : Option Holding → ClientTold → Option Holding
  | _, ⟨.enterRefresh token, .ok (.started id)⟩ => some ⟨id, token, true⟩
  | hold, ⟨.setInstallationSession _, .ok _⟩ => hold.map fun h => { h with untouched := false }
  | hold, ⟨.removeInstallationSession, .ok _⟩ => hold.map fun h => { h with untouched := false }
  | _, ⟨.endRefresh, .ok _⟩ => none
  | hold, _ => hold

/-- The refresh that the operation has started and not ended. -/
def holding (past : List ClientTold) : Option Holding := past.foldl holdAfter none

/-- The server has refused the token to this operation. -/
def RefusedTo (past : List ClientTold) (token : String) : Prop :=
  ∃ message, ⟨.send (.refreshSession token), .ok (.error message)⟩ ∈ past

/-- The session is changed by the operation that holds the promise, once; it is cleared
when the token is refused. -/
def sessionCalls (past : List ClientTold) : ClientCall → Prop
  | .enterRefresh _ => holding past = none
  | .setInstallationSession _ => ∃ hold, holding past = some hold ∧ hold.untouched = true
  | .removeInstallationSession => ∃ hold, holding past = some hold ∧ hold.untouched = true ∧
      RefusedTo past hold.token
  | .endRefresh => ∃ hold, holding past = some hold
  | _ => True

/-- A call fails only as it may; an awaited promise may be rejected. -/
def possibleAnswer (op : ClientCall) (r : Except ClientError op.Res) : Prop :=
  ∀ e, r = .error e → op.mayFail e = true ∨ ∃ id, op = .awaitRefresh id

theorem exec_possibleAnswer (op : ClientCall) (s : ClientStore) :
    possibleAnswer op (op.exec s).1 := by
  intro e he
  cases op with
  | awaitRefresh id => exact .inr ⟨id, rfl⟩
  | enterRefresh token => grind [ClientCall.exec]
  | _ => cases he

theorem holding_append (past : List ClientTold) (t : ClientTold) :
    holding (past ++ [t]) = holdAfter (holding past) t := by
  unfold holding
  rw [List.foldl_append]
  rfl

/-- A failed call changes nothing of the holding. -/
theorem holdAfter_error (hold : Option Holding) (op : ClientCall) (e : ClientError) :
    holdAfter hold ⟨op, .error e⟩ = hold := by
  cases op <;> cases hold <;> rfl

variable {op : ClientCall}

theorem holdAfter_of_noSession (hold : Option Holding) (hop : op.touchesSession = false)
    (r : Except ClientError op.Res) : holdAfter hold ⟨op, r⟩ = hold := by
  cases op with
  | setInstallationSession session => cases hop
  | removeInstallationSession => cases hop
  | enterRefresh token => cases hop
  | endRefresh => cases hop
  | _ => cases hold <;> cases r <;> rfl

theorem sessionCalls_of_noSession (past : List ClientTold) (hop : op.touchesSession = false) :
    sessionCalls past op := by
  cases op with
  | setInstallationSession session => cases hop
  | removeInstallationSession => cases hop
  | enterRefresh token => cases hop
  | endRefresh => cases hop
  | _ => trivial

/-- The property that the parts of an operation keep. -/
abbrev HoldsNothing (past : List ClientTold) : Prop := holding past = none

theorem NoSession.maintains {α : Type} {p : ClientProg α} (hp : NoSession p) :
    p.Maintains possibleAnswer sessionCalls HoldsNothing := by
  have hG : ∀ past op, ClientCall.touchesSession op = false → HoldsNothing past →
      sessionCalls past op := fun past _ hop _ => sessionCalls_of_noSession past hop
  have hJ : ∀ past op r, ClientCall.touchesSession op = false → HoldsNothing past →
      HoldsNothing (past ++ [⟨op, r⟩]) := by grind [holding, holdAfter_of_noSession]
  exact Prog.maintains_of_safe hG hJ hp

/-! ## A refresh -/

variable {e : ClientError}

theorem authorized_of_mayFail (h : op.mayFail e = true) : e.isUnauthorized = false := by
  cases e with
  | other message => rfl
  | request message status retryable =>
    cases op with
    | send request => simpa [ClientCall.mayFail, ClientError.isUnauthorized] using h
    | receive request accepted =>
      simpa [ClientCall.mayFail, ClientError.isUnauthorized] using h
    | _ => cases h

/-- A failure of storage or of the network is no 401. -/
theorem authorized_of_failed (h : possibleAnswer op (.error e))
    (hop : ∀ id, op ≠ .awaitRefresh id) : e.isUnauthorized = false := by
  rcases h e rfl with hmay | ⟨id, hid⟩
  · exact authorized_of_mayFail hmay
  · exact absurd hid (hop id)

/-- The memory of the client does not fail. -/
theorem memory_answers (h : possibleAnswer op (.error e)) (hop : ∀ id, op ≠ .awaitRefresh id) :
    op.mayFail e ≠ false := by
  rcases h e rfl with hmay | ⟨id, hid⟩
  · rw [hmay]
    decide
  · exact absurd hid (hop id)

section Refresh

variable {past : List ClientTold}

/-- A 401 comes from the server. -/
theorem fetcher_ensures (token fallback : String) :
    (fetcher (.refreshSession token) fallback).Ensures possibleAnswer sessionCalls
      (fun past' r => holding past' = holding past ∧
        ∀ e, r = .error e → e.isUnauthorized = true → RefusedTo past' token) past := by
  refine ⟨trivial, ?_⟩
  intro reply hreply
  have hsent : holding (past ++ [⟨.send (.refreshSession token), reply⟩]) = holding past := by
    rw [holding_append]
    cases holding past <;> cases reply <;> rfl
  cases reply with
  | error e =>
    refine ⟨hsent, ?_⟩
    intro e' he' hunauth
    obtain rfl := Except.error.inj he'
    have hauth := authorized_of_failed hreply nofun
    rw [hunauth] at hauth
    cases hauth
  | ok reply =>
    refine ⟨trivial, ?_⟩
    intro received hrecv
    have hheld : holding (past ++ [⟨.send (.refreshSession token), .ok reply⟩] ++
        [⟨.receive (.refreshSession token) reply.isOk, received⟩]) = holding past := by
      rw [holding_append]
      exact hsent
    cases received with
    | error e =>
      refine ⟨hheld, ?_⟩
      intro e' he' hunauth
      obtain rfl := Except.error.inj he'
      have hauth := authorized_of_failed hrecv nofun
      rw [hunauth] at hauth
      cases hauth
    | ok _ =>
      cases reply with
      | ok answer =>
        refine ⟨hheld, ?_⟩
        intro e he
        cases he
      | error message =>
        refine ⟨hheld, ?_⟩
        intro e _ _
        refine ⟨message, ?_⟩
        simp

/-- The request: the session is written once it has succeeded. -/
theorem refreshRequest_ensures {hold : Holding} (hhold : holding past = some hold)
    (huntouched : hold.untouched = true) :
    (refreshInstallationSessionRequest hold.token).Ensures possibleAnswer sessionCalls
      (fun past' r => (∃ hold', holding past' = some hold') ∧
        ∀ e, r = .error e → holding past' = some hold ∧
          (e.isUnauthorized = true → RefusedTo past' hold.token)) past := by
  refine Prog.ensures_bind (fetcher_ensures hold.token _) ?_ ?_
  · rintro past' refreshed ⟨hheld, -⟩
    rw [hhold] at hheld
    refine ⟨⟨hold, hheld, huntouched⟩, ?_⟩
    intro written hwritten
    cases written with
    | ok _ =>
      refine ⟨⟨{ hold with untouched := false }, ?_⟩, fun e he => by cases he⟩
      rw [holding_append, hheld]
      rfl
    | error e =>
      have hheld' : holding (past' ++ [⟨.setInstallationSession refreshed, .error e⟩]) =
          some hold := by
        rw [holding_append]
        exact hheld
      refine ⟨⟨hold, hheld'⟩, ?_⟩
      intro e' he'
      obtain rfl := Except.error.inj he'
      refine ⟨hheld', ?_⟩
      intro hunauth
      have hauth := authorized_of_failed hwritten nofun
      rw [hunauth] at hauth
      cases hauth
  · grind

/-- A refused token is cleared while the session has not been touched. -/
theorem refreshOrClear_ensures {session : InstallationTokenSession} {id : ℕ}
    (hhold : holding past = some ⟨id, session.token, true⟩) :
    (refreshOrClear session).Ensures possibleAnswer sessionCalls
      (fun past' _ => ∃ hold, holding past' = some hold) past := by
  refine Prog.ensures_handle (refreshRequest_ensures hhold rfl) ?_ ?_
  · rintro past' refreshed ⟨hheld, -⟩
    exact hheld
  rintro past' e ⟨-, herror⟩
  rcases herror e rfl with ⟨hheld, hrefused⟩
  split
  · next hunauth =>
      refine ⟨⟨_, hheld, rfl, hrefused hunauth⟩, ?_⟩
      intro cleared _
      have hheld' : ∃ hold, holding (past' ++ [⟨.removeInstallationSession, cleared⟩]) =
          some hold := by
        rw [holding_append, hheld]
        cases cleared with
        | ok _ | error e' => exact ⟨_, rfl⟩
      cases cleared with
      | ok _ | error e' => exact hheld'
  · exact ⟨_, hheld⟩

/-- The operation that starts a refresh ends it. -/
theorem refreshWithDedup_maintains (session : InstallationTokenSession) :
    (refreshInstallationSessionWithDedup session).Maintains possibleAnswer sessionCalls
      HoldsNothing := by
  intro past hnone
  have henter : (client (.enterRefresh session.token)).Ensures possibleAnswer sessionCalls
      (fun past' r => past' = past ++ [⟨.enterRefresh session.token, r⟩]) past :=
    Prog.ensures_await hnone fun _ _ => rfl
  refine Prog.ensures_bind henter ?_ ?_
  · rintro past' entry rfl
    cases entry with
    | joined id =>
      have hjoined : HoldsNothing (past ++ [⟨.enterRefresh session.token, .ok (.joined id)⟩]) := by
        show holding _ = none
        rw [holding_append, hnone]
        rfl
      exact NoSession.maintains (Prog.safe_await rfl) _ hjoined
    | started id =>
      have hstarted : holding (past ++ [⟨.enterRefresh session.token, .ok (.started id)⟩]) =
          some ⟨id, session.token, true⟩ := by
        rw [holding_append]
        rfl
      refine Prog.ensures_bind (attempt_ensures (refreshOrClear_ensures hstarted)) ?_ ?_
      · rintro past' outcome ⟨_, -, hold, hheld⟩
        refine ⟨trivial, ?_⟩
        intro settled hsett
        cases settled with
        | error e => exact absurd rfl (memory_answers hsett nofun)
        | ok _ =>
          have hheld' : holding (past' ++ [⟨.settleRefresh id outcome, .ok ()⟩]) = some hold := by
            rw [holding_append, hheld]
            rfl
          refine ⟨⟨hold, hheld'⟩, ?_⟩
          intro ended hended
          cases ended with
          | error e => exact absurd rfl (memory_answers hended nofun)
          | ok _ =>
            have hnone' : HoldsNothing (past' ++ [⟨.settleRefresh id outcome, .ok ()⟩] ++
                [⟨.endRefresh, .ok ()⟩]) := by
              show holding _ = none
              rw [holding_append]
              rfl
            cases outcome with
            | ok refreshed | error e => exact hnone'
      · rintro past' e ⟨_, h, -⟩
        cases h
  · grind [holding_append, holdAfter_error]

end Refresh

section Code

variable (dates : DateFunctions)

theorem ensureValid_maintains (forceRefresh : Bool) :
    (ensureValidInstallationSession dates forceRefresh).Maintains possibleAnswer sessionCalls
      HoldsNothing := by
  have hread : NoSession getInstallationSession := safe_await_bind rfl fun _ _ => trivial
  refine maintains_bind (NoSession.maintains hread) ?_
  intro stored
  cases stored with
  | none => exact Prog.maintains_throw _
  | some session =>
    refine maintains_bind (NoSession.maintains (Prog.safe_await rfl)) ?_
    intro nowMs
    dsimp only
    split
    · refine Prog.maintains_handle (refreshWithDedup_maintains session) ?_
      intro error
      split
      · exact maintains_ret _
      · exact Prog.maintains_throw _
    · exact maintains_ret _

theorem getBufferedEvents_noSession : NoSession getBufferedEvents :=
  safe_await_bind rfl fun _ _ => trivial

/-- Between its refreshes an operation holds nothing. -/
theorem session_parts : PartsMaintain dates possibleAnswer sessionCalls HoldsNothing where
  plain := fun hp => NoSession.maintains hp.noSession
  read := NoSession.maintains getBufferedEvents_noSession
  append := fun _ => NoSession.maintains
    (Prog.safe_bind getBufferedEvents_noSession fun _ => Prog.safe_await rfl)
  ensure := ensureValid_maintains dates

theorem flushFromState_maintains :
    (flushBufferedEventsFromState dates).Maintains possibleAnswer sessionCalls HoldsNothing := by
  have hflush : ∀ events, (flushBufferedEvents dates events).Maintains possibleAnswer sessionCalls
      HoldsNothing := by
    intro events
    refine (session_parts dates).execute ?_
    intro session
    refine maintains_bind (NoSession.maintains (flushEvents_plain _ _).noSession) ?_
    intro flushed
    exact maintains_ret _
  refine maintains_bind (NoSession.maintains getBufferedEvents_noSession) ?_
  intro events
  split
  · exact maintains_ret _
  refine maintains_bind (hflush events) ?_
  intro flushed
  exact NoSession.maintains (safe_await_bind rfl fun _ _ => trivial)

theorem clientCode_holdsNothing (req : ClientRequest) :
    (clientCode dates req).Maintains possibleAnswer sessionCalls HoldsNothing := by
  have hreply : ∀ {α : Type} {p : ClientProg α} (f : α → ClientReply),
      p.Maintains possibleAnswer sessionCalls HoldsNothing →
        (p >>= fun a => Prog.ret (f a)).Maintains possibleAnswer sessionCalls HoldsNothing :=
    fun f hp => maintains_bind hp fun _ => maintains_ret _
  have hparts := session_parts dates
  cases req with
  | refreshBootstrap input => exact hreply _ (hparts.refreshBootstrap input)
  | sendUsageEvent input => exact hreply _ (hparts.sendUsageEvent input)
  | sendRuntimeError input => exact hreply _ (hparts.sendUsageEvent _)
  | flushBufferedEventsFromState => exact hreply _ (flushFromState_maintains dates)
  | refreshInstallationSession => exact hreply _ (hparts.ensure true)
  | tokenExpires token => exact NoSession.maintains (safe_await_bind rfl fun _ _ => trivial)
  | timePasses ms => exact NoSession.maintains (safe_await_bind rfl fun _ _ => trivial)

end Code

/-! ## One holder -/

/-- The promise has at most one holder, and until it writes the session the stored token
is the one it refreshes. -/
structure OneHolder (holdings : ℕ → Option Holding) (store : ClientStore) : Prop where
  pending : ∀ pid hold, holdings pid = some hold →
    store.installationSessionRefreshPromise.isSome = true
  single : ∀ pid pid' hold hold', holdings pid = some hold → holdings pid' = some hold' → pid = pid'
  stored : ∀ pid hold, holdings pid = some hold → hold.untouched = true →
    store.installationSession.map (·.token) = some hold.token

namespace OneHolder

variable {holdings : ℕ → Option Holding} {store store' : ClientStore} {pid : ℕ} {hold : Holding}

section

variable (h : OneHolder holdings store)
include h

/-- A store with the same promise and the same session. -/
theorem congr
    (hpromise : store'.installationSessionRefreshPromise = store.installationSessionRefreshPromise)
    (hsess : store'.installationSession = store.installationSession) :
    OneHolder holdings store' where
  pending := by
    rw [hpromise]
    exact h.pending
  single := h.single
  stored := by
    rw [hsess]
    exact h.stored

/-- A refresh of the stored token is started when there is no promise. -/
theorem start {token : String} {id : ℕ} (hnone : store.installationSessionRefreshPromise = none)
    (hpromise : store'.installationSessionRefreshPromise.isSome = true)
    (htok : store'.installationSession.map (·.token) = some token) :
    OneHolder (update holdings pid (some ⟨id, token, true⟩)) store' := by
  have hfree : ∀ j, holdings j = none := by
    intro j
    cases hj : holdings j with
    | none => rfl
    | some hold =>
      have hpend := h.pending j hold hj
      rw [hnone] at hpend
      cases hpend
  constructor
  · intro _ _ _
    exact hpromise
  · grind
  · grind

/-- The holder writes the session. -/
theorem write (hhold : holdings pid = some hold)
    (hpromise : store'.installationSessionRefreshPromise = store.installationSessionRefreshPromise) :
    OneHolder (update holdings pid (some { hold with untouched := false })) store' := by
  have honly : ∀ j hold', update holdings pid (some { hold with untouched := false }) j =
      some hold' → j = pid ∧ hold'.untouched = false := by
    intro j hold' hj
    by_cases heq : j = pid
    · grind
    · rw [update_of_ne heq] at hj
      exact absurd (h.single j pid hold' hold hj hhold) heq
  constructor
  · intro _ _ _
    rw [hpromise]
    exact h.pending pid hold hhold
  · grind
  · grind

/-- The holder ends its refresh. -/
theorem finish (hhold : holdings pid = some hold) :
    OneHolder (update holdings pid none) store' := by
  have hnone : ∀ j hold', update holdings pid none j ≠ some hold' := by
    intro j hold' hj
    by_cases heq : j = pid
    · grind
    · rw [update_of_ne heq] at hj
      exact heq (h.single j pid hold' hold hj hhold)
  exact ⟨fun j hold' hj => absurd hj (hnone j hold'),
    fun j _ hold' _ hj => absurd hj (hnone j hold'), fun j hold' hj => absurd hj (hnone j hold')⟩

end

end OneHolder

/-- A token that the server has refused is never accepted again. -/
def Refused (server : Server) (token : String) : Prop :=
  token ∈ server.known ∧ token ∉ server.accepted

theorem freshToken_notMem (known : List String) : freshToken known ∉ known := by
  intro hmem
  have hsub := List.sublist_flatten_of_mem (List.mem_map_of_mem (f := String.toList) hmem)
  have hle := hsub.length_le
  rw [freshToken, String.toList_ofList, List.length_append, List.length_singleton] at hle
  omega

namespace Refused

variable {server : Server} {token : String}

theorem knowing (h : Refused server token) (presented : String) :
    Refused (server.knowing presented) token :=
  ⟨List.mem_cons_of_mem _ h.1, h.2⟩

theorem rotate (h : Refused server token) (presented : String) :
    Refused (server.rotate presented).2 token := by
  have hfresh := freshToken_notMem (presented :: server.known)
  refine ⟨List.mem_cons_of_mem _ (List.mem_cons_of_mem _ h.1), ?_⟩
  intro hmem
  rcases List.mem_cons.mp hmem with heq | hold
  · -- the issued token was not known
    refine hfresh ?_
    rw [← heq]
    exact List.mem_cons_of_mem _ h.1
  · exact h.2 (List.mem_filter.mp hold).1

theorem handle (h : Refused server token) (request : PlatformRequest) :
    Refused (server.handle request).2 token := by
  unfold Server.handle
  cases request with
  | refreshSession presented =>
    dsimp only
    split
    · exact h.rotate presented
    · exact h.knowing presented
  | bootstrap presented _ | usageEvent presented _ =>
    dsimp only
    split <;> exact h.knowing presented

theorem exec {s : ClientStore} (h : Refused s.server token) (op : ClientCall) :
    Refused (op.exec s).2.server token := by
  cases op with
  | send request => exact h.handle request
  | expireToken expired =>
    exact ⟨List.mem_cons_of_mem _ h.1, fun hmem => h.2 (List.mem_filter.mp hmem).1⟩
  | enterRefresh presented =>
    simp only [ClientCall.exec]
    split <;> exact h
  | awaitRefresh id =>
    simp only [ClientCall.exec]
    split <;> exact h
  | _ => exact h

end Refused

theorem refused_of_reply {s : ClientStore} {token : String} {message : Option String}
    (h : (ClientCall.exec (.send (.refreshSession token)) s).1 = .ok (.error message)) :
    Refused (ClientCall.exec (.send (.refreshSession token)) s).2.server token := by
  simp only [ClientCall.exec, Server.handle] at h ⊢
  by_cases hacc : token ∈ s.server.accepted
  · rw [if_pos hacc] at h
    cases h
  · rw [if_neg hacc]
    exact ⟨List.mem_cons_self, hacc⟩

/-! ## A run -/

section Run

variable {dates : DateFunctions}

def holdings (log : List ClientEvent) (pid : ℕ) : Option Holding := holding (history pid log)

theorem holdings_append (log : List ClientEvent) (pid : ℕ) (op : ClientCall)
    (r : Except ClientError op.Res) :
    holdings (log ++ [⟨pid, op, r⟩]) =
      update (holdings log) pid (holdAfter (holdings log pid) ⟨op, r⟩) := by
  funext j
  unfold holdings
  by_cases heq : j = pid
  · grind [history_append_self, holding_append]
  · rw [update_of_ne heq, history_append_other (Ne.symm heq)]

/-- The invariant of the runs whose refreshes start with the stored token. -/
structure SessionInv (s : ClientSnapshot) : Prop where
  calls : Machine.Kept possibleAnswer (fun _ => sessionCalls) (fun _ past _ => HoldsNothing past) s
  holder : OneHolder (holdings s.log) s.store
  refused : ∀ pid token message,
    ⟨pid, .send (.refreshSession token), .ok (.error message)⟩ ∈ s.log →
      Refused s.store.server token

variable {s : ClientSnapshot}

/-- A call that leaves the promise and the session as they are. -/
theorem holder_of_quiet (h : SessionInv s) (pid : ℕ) {op : ClientCall}
    {r : Except ClientError op.Res} {store : ClientStore}
    (hquiet : ∀ hold, holdAfter hold ⟨op, r⟩ = hold)
    (hpromise : store.installationSessionRefreshPromise = s.store.installationSessionRefreshPromise)
    (hsess : store.installationSession = s.store.installationSession) :
    OneHolder (holdings (s.log ++ [⟨pid, op, r⟩])) store := by
  rw [holdings_append, hquiet, Function.update_eq_self]
  exact h.holder.congr hpromise hsess

theorem holder_of_step (h : SessionInv s) {pid : ℕ} {req : ClientRequest} {op : ClientCall}
    {k : Except ClientError op.Res → ClientProg ClientReply}
    (hp : s.procs[pid]? = some (req, .call op k)) (hcurrent : startsCurrent s (.step pid) = true) :
    OneHolder (holdings (s.log ++ [⟨pid, op, (op.exec s.store).1⟩])) (op.exec s.store).2 := by
  have hcall := (h.calls.procs pid _ hp).1
  cases op with
  | enterRefresh token =>
    cases hpromise : s.store.installationSessionRefreshPromise with
    | some id =>
      simp only [ClientCall.exec, hpromise]
      refine holder_of_quiet h pid ?_ rfl rfl
      intro hold
      cases hold <;> rfl
    | none =>
      simp only [startsCurrent, hp, hpromise, Option.isSome_none, Bool.false_eq_true,
        false_or, decide_eq_true_eq] at hcurrent
      simp only [ClientCall.exec, hpromise]
      rw [holdings_append]
      exact h.holder.start hpromise rfl hcurrent
  | setInstallationSession session =>
    rcases hcall with ⟨hold, hhold, -⟩
    have hheld : holdings s.log pid = some hold := hhold
    rw [holdings_append, hheld]
    exact h.holder.write hheld rfl
  | removeInstallationSession =>
    rcases hcall with ⟨hold, hhold, -⟩
    have hheld : holdings s.log pid = some hold := hhold
    rw [holdings_append, hheld]
    exact h.holder.write hheld rfl
  | endRefresh =>
    rcases hcall with ⟨hold, hhold⟩
    have hheld : holdings s.log pid = some hold := hhold
    rw [holdings_append]
    exact h.holder.finish hheld
  | awaitRefresh id =>
    have hstore : (ClientCall.exec (.awaitRefresh id) s.store).2 = s.store := by
      simp only [ClientCall.exec]
      split <;> rfl
    rw [hstore]
    exact holder_of_quiet h pid (fun hold => holdAfter_of_noSession hold rfl _) rfl rfl
  | settleRefresh id outcome =>
    refine holder_of_quiet h pid ?_ rfl rfl
    intro hold
    cases hold <;> rfl
  | send request =>
    refine holder_of_quiet h pid ?_ rfl rfl
    intro hold
    cases hold <;> rfl
  | _ => exact holder_of_quiet h pid (fun hold => holdAfter_of_noSession hold rfl _) rfl rfl

theorem refused_of_step (h : SessionInv s) (pid : ℕ) (op : ClientCall)
    {pid' : ℕ} {token : String} {message : Option String}
    (hmem : ⟨pid', .send (.refreshSession token), .ok (.error message)⟩ ∈
      s.log ++ [⟨pid, op, (op.exec s.store).1⟩]) :
    Refused (op.exec s.store).2.server token := by
  rcases List.mem_append.mp hmem with hold | hnew
  · exact (h.refused pid' token message hold).exec op
  · grind [refused_of_reply]

theorem SessionInv.next {s' : ClientSnapshot} {l : Label ClientError ClientRequest}
    (h : SessionInv s) (hpossible : possible s l = true) (hcurrent : startsCurrent s l = true)
    (hnext : (clientMachine dates).next l s = some s') : SessionInv s' := by
  have hcalls : Machine.Kept possibleAnswer (fun _ => sessionCalls) (fun _ past _ => HoldsNothing past) s' := by
    refine h.calls.next_of_fail exec_possibleAnswer ?_ ?_ hnext
    · intro req
      exact (clientCode_holdsNothing dates req [] rfl).upholds
    rintro pid e req op k rfl hp e' he'
    obtain rfl := Except.error.inj he'
    left
    simpa [possible, hp] using hpossible
  rcases (clientMachine dates).next_cases hnext with ⟨req, rfl, rfl⟩ |
    ⟨pid, req, op, k, rfl, hp, rfl⟩ | ⟨pid, e, req, op, k, rfl, hp, rfl⟩
  · exact ⟨hcalls, h.holder, h.refused⟩
  · exact ⟨hcalls, holder_of_step h hp hcurrent, fun _ _ _ hmem => refused_of_step h pid op hmem⟩
  · refine ⟨hcalls, holder_of_quiet h pid (fun hold => holdAfter_error hold op e) rfl rfl, ?_⟩
    intro pid' token message hmem
    rcases List.mem_append.mp hmem with hold | hnew
    · exact h.refused pid' token message hold
    · grind

/-- While each refresh is started with the stored token, the session is only cleared when
the server does not accept it any more. -/
theorem clears_only_refused (dates : DateFunctions) (store : ClientStore) {s : ClientSnapshot}
    (h : (clientMachine dates).Reaches (fun s l => possible s l ∧ startsCurrent s l)
      (initial store) s) (l : Label ClientError ClientRequest) : ClearsRefused s l := by
  have hinv : SessionInv s := by
    refine Machine.Reaches.invariant _ ?_ h ⟨Machine.Kept.initial store, ?_, ?_⟩
    · rintro s l s' ⟨hpossible, hcurrent⟩ hnext hs
      exact hs.next hpossible hcurrent hnext
    · exact ⟨nofun, nofun, nofun⟩
    · intro pid token message hmem
      cases hmem
  cases l with
  | step pid =>
    intro req k hp
    rcases (hinv.calls.procs pid _ hp).1 with ⟨hold, hhold, huntouched, message, hrefused⟩
    have hstored := hinv.holder.stored pid hold hhold huntouched
    rcases Option.map_eq_some_iff.mp hstored with ⟨session, hsession, htoken⟩
    refine ⟨session, hsession, ?_⟩
    rw [htoken]
    exact (hinv.refused pid hold.token message (mem_history.mp hrefused)).2
  | start req | fail pid e => trivial

end Run

/-- The operation is about to clear the session. -/
def clearsNext (s : ClientSnapshot) (pid : ℕ) : Bool :=
  match s.procs[pid]? with
  | some (_, .call .removeInstallationSession _) => true
  | _ => false

theorem clearsNext_spec {s : ClientSnapshot} {pid : ℕ} (h : clearsNext s pid = true) :
    ∃ req k, s.procs[pid]? = some (req, .call .removeInstallationSession k) := by
  unfold clearsNext at h
  split at h
  · next req k hp => exact ⟨req, k, hp⟩
  · cases h

/-- The token of the session expires before it is refreshed. -/
def refreshedTooLate : List (Label ClientError ClientRequest) :=
  [.start (.tokenExpires "token-1"), .step 0, .start .refreshInstallationSession] ++
    List.replicate 5 (.step 1)

theorem clears_only_refused_tooLate :
    ∃ s, (clientMachine newYear).Reaches (fun s l => possible s l ∧ startsCurrent s l)
        (initial connectedStore) s ∧
      clearsNext s 1 = true ∧ ClearsRefused s (.step 1) := by
  have hrun : ((clientMachine newYear).trace (fun s l => possible s l && startsCurrent s l)
      refreshedTooLate (initial connectedStore)).map (fun s => clearsNext s 1) =
      some true := by
    decide +kernel
  rcases (clientMachine newYear).reaches_of_trace_check hrun with ⟨s, hreaches, hclears⟩
  have hreaches' := Machine.Reaches.mono _ (fun s l h => by simpa using h) hreaches
  exact ⟨s, hreaches', hclears, clears_only_refused newYear connectedStore hreaches' (.step 1)⟩

/-- Both operations have read the session when the first one refreshes it. -/
def refreshedTwice : List (Label ClientError ClientRequest) :=
  [.start .refreshInstallationSession, .start .refreshInstallationSession, .step 0, .step 1] ++
    List.replicate 7 (.step 0) ++ List.replicate 4 (.step 1)

/-- The second operation is about to clear the session that the first one has stored, and
the server accepts its token. -/
theorem newer_session_cleared :
    ∃ s session, (clientMachine newYear).Reaches (fun s l => possible s l)
        (initial connectedStore) s ∧
      clearsNext s 1 = true ∧ s.store.installationSession = some session ∧
        session.token ∈ s.store.server.accepted ∧ ¬ ClearsRefused s (.step 1) := by
  have hrun : ((clientMachine newYear).trace possible refreshedTwice
      (initial connectedStore)).map (fun s => clearsNext s 1 &&
        s.store.installationSession.any fun session =>
          session.token ∈ s.store.server.accepted) = some true := by
    decide +kernel
  rcases (clientMachine newYear).reaches_of_trace_check hrun with ⟨s, hreaches, hend⟩
  rw [Bool.and_eq_true, Option.any_eq_true] at hend
  rcases hend with ⟨hclears, session, hsession, haccepted⟩
  rw [decide_eq_true_eq] at haccepted
  rcases clearsNext_spec hclears with ⟨req, k, hp⟩
  refine ⟨s, session, hreaches, hclears, hsession, haccepted, ?_⟩
  intro h
  rcases h req k hp with ⟨session', hsession', hrefused⟩
  rw [hsession] at hsession'
  obtain rfl := Option.some.inj hsession'
  exact hrefused haccepted

end QuizMind.Client
