import QuizMind.Client.Runtime

/-! # Which calls an operation makes where

The buffer is read and written in `appendBufferedEvent` and
`flushBufferedEventsFromState`, and the session is changed in
`refreshInstallationSessionWithDedup` only. The rest of the operations makes neither
kind of call.
-/

namespace QuizMind.Client

open Async
open Prog (maintains_bind maintains_ret maintains_throw safe_await_bind safe_bind)

abbrev ClientTold := Told ClientCall ClientCall.Res ClientError

namespace ClientCall

def touchesBuffer : ClientCall → Bool
  | .getBufferedEvents | .setBufferedEvents _ => true
  | _ => false

/-- The call changes the stored session or belongs to a refresh. -/
def touchesSession : ClientCall → Bool
  | .setInstallationSession _ | .removeInstallationSession | .enterRefresh _
  | .settleRefresh _ _ | .endRefresh | .send (.refreshSession _) => true
  | _ => false

end ClientCall

/-- The program leaves the buffer alone. -/
abbrev NoBuffer {α : Type} (p : ClientProg α) : Prop :=
  p.Safe (fun _ _ => True) fun op => op.touchesBuffer = false

/-- The program leaves the session alone. -/
abbrev NoSession {α : Type} (p : ClientProg α) : Prop :=
  p.Safe (fun _ _ => True) fun op => op.touchesSession = false

/-- It does neither. -/
abbrev Plain {α : Type} (p : ClientProg α) : Prop :=
  p.Safe (fun _ _ => True) fun op => op.touchesBuffer = false ∧ op.touchesSession = false

theorem Plain.noBuffer {α : Type} {p : ClientProg α} (h : Plain p) : NoBuffer p :=
  Prog.Safe.mono (fun _ hop => hop.1) h

theorem Plain.noSession {α : Type} {p : ClientProg α} (h : Plain p) : NoSession p :=
  Prog.Safe.mono (fun _ hop => hop.2) h

section Parts

variable {rely : (op : ClientCall) → Except ClientError op.Res → Prop} {guar : ClientCall → Prop}

theorem attempt_safe {α : Type} {p : ClientProg α} (hp : p.Safe rely guar) :
    (attempt p).Safe rely guar :=
  Prog.safe_handle (safe_bind hp fun _ => trivial) fun _ => trivial

theorem fetcher_safe {request : PlatformRequest} {fallback : String} (hsend : guar (.send request))
    (hreceive : ∀ accepted, guar (.receive request accepted)) :
    (fetcher request fallback).Safe rely guar := by
  refine safe_await_bind hsend ?_
  intro reply _
  refine safe_await_bind (hreceive _) ?_
  intro _ _
  cases reply with
  | ok answer | error message => trivial

end Parts

section Plain

theorem postUsageEvent_plain (token : String) (event : UsageEventPayload) :
    Plain (postUsageEvent token event) :=
  fetcher_safe ⟨rfl, rfl⟩ fun _ => ⟨rfl, rfl⟩

theorem flushEvents_plain (token : String) (events : List UsageEventPayload) :
    Plain (flushEvents token events) := by
  induction events with
  | nil => trivial
  | cons event rest ih =>
    refine safe_bind (attempt_safe (postUsageEvent_plain token event)) ?_
    intro sent
    cases sent with
    | ok result => exact safe_bind ih fun _ => trivial
    | error e => trivial

theorem refreshBootstrapRequest_plain (token installationId : String) :
    Plain (refreshBootstrapRequest token installationId) := by
  refine safe_bind (fetcher_safe ⟨rfl, rfl⟩ fun _ => ⟨rfl, rfl⟩) ?_
  intro payload
  refine safe_await_bind ⟨rfl, rfl⟩ fun _ _ => ?_
  exact safe_await_bind ⟨rfl, rfl⟩ fun _ _ => trivial

theorem getOrCreateInstallationId_plain : Plain getOrCreateInstallationId := by
  refine safe_await_bind ⟨rfl, rfl⟩ ?_
  intro stored _
  cases normalizeTrimmedValue stored with
  | some existingInstallationId => trivial
  | none =>
    refine safe_await_bind ⟨rfl, rfl⟩ ?_
    intro random _
    cases normalizeTrimmedValue (some random) with
    | none => trivial
    | some generated => exact safe_await_bind ⟨rfl, rfl⟩ fun _ _ => trivial

theorem getBootstrapCache_plain : Plain getBootstrapCache := by
  refine safe_await_bind ⟨rfl, rfl⟩ ?_
  intro cache _
  cases cache with
  | none => trivial
  | some payload => exact safe_await_bind ⟨rfl, rfl⟩ fun _ _ => trivial

theorem occurredAtOrNow_plain (dates : DateFunctions) (occurredAt : Option String) :
    Plain (occurredAtOrNow dates occurredAt) := by
  cases occurredAt with
  | some occurredAt => trivial
  | none => exact safe_await_bind ⟨rfl, rfl⟩ fun _ _ => trivial

end Plain

/-! ## From the parts to the operations -/

section Parts

variable (dates : DateFunctions) (rely : (op : ClientCall) → Except ClientError op.Res → Prop)
  (G : List ClientTold → ClientCall → Prop) (J : List ClientTold → Prop)

/-- The parts of the operations keep `J`. -/
structure PartsMaintain : Prop where
  plain : ∀ {α : Type} {p : ClientProg α}, Plain p → p.Maintains rely G J
  read : getBufferedEvents.Maintains rely G J
  append : ∀ event, (appendBufferedEvent event).Maintains rely G J
  ensure : ∀ forceRefresh, (ensureValidInstallationSession dates forceRefresh).Maintains rely G J

end Parts

section Operations

variable {dates : DateFunctions} {rely : (op : ClientCall) → Except ClientError op.Res → Prop}
  {G : List ClientTold → ClientCall → Prop} {J : List ClientTold → Prop}

theorem attempt_maintains {α : Type} {p : ClientProg α} (hp : p.Maintains rely G J) :
    (attempt p).Maintains rely G J :=
  Prog.maintains_handle (maintains_bind hp fun _ => maintains_ret _) fun _ =>
    maintains_ret _

/-- What holds at either end of a program holds of its outcome as a value. -/
theorem attempt_ensures {α : Type} {Q : List ClientTold → Except ClientError α → Prop}
    {p : ClientProg α} {past : List ClientTold} (hp : p.Ensures rely G Q past) :
    (attempt p).Ensures rely G (fun past' r => ∃ outcome, r = .ok outcome ∧ Q past' outcome)
      past := by
  refine Prog.ensures_handle (P := fun past' r =>
    (∀ outcome, r = .ok outcome → Q past' outcome) ∧ ∀ e, r = .error e → Q past' (.error e)) ?_ ?_ ?_
  · refine Prog.ensures_bind hp ?_ ?_
    · intro past' a ha
      refine ⟨?_, nofun⟩
      intro outcome houtcome
      rw [← Except.ok.inj houtcome]
      exact ha
    · simp
  · grind
  · rintro past' e ⟨-, herror⟩
    exact ⟨.error e, rfl, herror e rfl⟩

theorem ignoring_maintains {p : ClientProg Unit} (hp : p.Maintains rely G J) :
    (ignoring p).Maintains rely G J :=
  maintains_bind (attempt_maintains hp) fun _ => maintains_ret _

namespace PartsMaintain

section

variable (h : PartsMaintain dates rely G J)
include h

theorem execute {α : Type} {request : InstallationTokenSession → ClientProg α}
    (hreq : ∀ session, (request session).Maintains rely G J) :
    (executeWithInstallationSession dates request).Maintains rely G J := by
  refine maintains_bind (h.ensure false) ?_
  intro session
  refine Prog.maintains_handle (hreq session) ?_
  intro error
  split
  · exact maintains_bind (h.ensure true) hreq
  · exact maintains_throw _

theorem bufferLifecycleEvent (eventType : String) (payload : Payload) (occurredAt : String) :
    (bufferLifecycleEvent eventType payload occurredAt).Maintains rely G J :=
  maintains_bind (h.plain getOrCreateInstallationId_plain) fun _ => h.append _

theorem bufferReconnectRequested (input : ReconnectRequest) :
    (bufferReconnectRequestedLifecycleEvent input).Maintains rely G J := by
  refine maintains_bind h.read ?_
  intro buffered
  split
  · exact maintains_ret _
  · exact h.bufferLifecycleEvent _ _ _

theorem bufferBootstrapFailure (message : String) (status : ℕ) (retryable : Bool) :
    (bufferBootstrapFailure dates message status retryable).Maintains rely G J := by
  have hnow := h.plain (occurredAtOrNow_plain dates none)
  unfold Client.bufferBootstrapFailure
  generalize (if status = 401 then some (resolveReconnectReason message) else none) = reason
  have hfail : ∀ {rest : ClientProg Unit}, rest.Maintains rely G J → (do
        let occurredAt ← occurredAtOrNow dates none
        ignoring (Client.bufferLifecycleEvent "extension.bootstrap_refresh_failed"
          [("message", .string message), ("status", .number status),
            ("retryable", .bool retryable)] occurredAt)
        rest).Maintains rely G J := by
    intro rest hrest
    refine maintains_bind hnow ?_
    intro occurredAt
    exact maintains_bind (ignoring_maintains (h.bufferLifecycleEvent _ _ _)) fun _ => hrest
  cases reason with
  | none =>
    dsimp only
    split
    · exact hfail (maintains_ret _)
    · exact maintains_ret _
  | some reason =>
    have hrecon := maintains_bind hnow fun occurredAt =>
      ignoring_maintains (h.bufferReconnectRequested ⟨reason, message, status, none, occurredAt⟩)
    dsimp only
    split
    · exact hfail hrecon
    · exact hrecon

theorem refreshBootstrap (input : RefreshBootstrapInput) :
    (refreshBootstrap dates input).Maintains rely G J := by
  refine maintains_bind (h.plain getOrCreateInstallationId_plain) ?_
  intro installationId
  refine maintains_bind (h.plain getBootstrapCache_plain) ?_
  intro cache
  have hlive := h.execute fun session =>
    h.plain (refreshBootstrapRequest_plain session.token installationId)
  refine maintains_bind (attempt_maintains hlive) ?_
  intro live
  cases live with
  | ok bootstrap => exact maintains_ret _
  | error error =>
    cases error with
    | other message => exact maintains_throw _
    | request message status retryable =>
      have hbuffer := h.bufferBootstrapFailure message status retryable
      cases cache with
      | none =>
        dsimp only
        split
        · exact maintains_bind hbuffer fun _ => maintains_throw _
        · exact maintains_throw _
      | some payload =>
        have hend : (if status = 401 ∧ input.allowCacheFallback then
            return ⟨payload, .cache, true, false⟩
          else if retryable ∧ input.allowCacheFallback then
            return ⟨payload, .cache, false, true⟩
          else throw (.request message status retryable) :
            ClientProg PlatformBootstrapRefreshResult).Maintains rely G J := by
          split
          · exact maintains_ret _
          split
          · exact maintains_ret _
          · exact maintains_throw _
        dsimp only
        split
        · exact maintains_bind hbuffer fun _ => hend
        · exact hend

theorem bufferUnsent (event : UsageEventPayload)
    (error : ClientError) : (bufferUnsent event error).Maintains rely G J := by
  cases error with
  | other message => exact h.append event
  | request message status retryable =>
    have hrecon : ((if status = 401 then
        ignoring (bufferReconnectRequestedLifecycleEvent
          ⟨resolveReconnectReason message, message, status, some event.eventType, event.occurredAt⟩)
        else pure ()) : ClientProg Unit).Maintains rely G J := by
      split
      · exact ignoring_maintains (h.bufferReconnectRequested _)
      · exact maintains_ret _
    unfold Client.bufferUnsent
    dsimp only
    split
    · exact maintains_bind (h.append event) fun _ => hrecon
    · exact hrecon

theorem sendUsageEvent (input : SendInput) : (sendUsageEvent dates input).Maintains rely G J := by
  refine maintains_bind (h.plain getOrCreateInstallationId_plain) ?_
  intro installationId
  refine maintains_bind (h.plain (occurredAtOrNow_plain dates input.occurredAt)) ?_
  intro occurredAt
  refine Prog.maintains_handle (h.execute fun session => h.plain (postUsageEvent_plain _ _)) ?_
  intro error
  split
  · exact maintains_bind (h.bufferUnsent _ error) fun _ => maintains_throw _
  · exact maintains_throw _

end

end PartsMaintain

end Operations

end QuizMind.Client
