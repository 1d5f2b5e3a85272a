import QuizMind.Extension.Harmless

/-! # Disconnecting an installation

A disconnect revokes the sessions of its installation and answers that a
reconnect is required. A refresh that has authenticated its token before that
revokes it once more and issues a new session (`refreshed_after_disconnect`).

A disconnect is final when no other request in flight can still issue a session
for the installation once the sessions are revoked (`disconnect_final`): then
no token of it authenticates any more, and so no session is issued until a bind
or a rotate starts after the disconnect has returned.
-/

namespace QuizMind

open Async
open Machine (anyStep initial)

/-! ## A disconnect, call by call -/

section Stages

variable (session : CurrentSession) (auditEventType : String) (disconnectedAt : ℤ)

/-- The event that a disconnect records. -/
def disconnectEvent (installation : ExtensionInstallation) : LifecycleEvent where
  actorId := session.userId
  targetId := installation.installationId
  auditEventType := auditEventType
  securityEventType := "extension.installation_session_revoked"
  occurredAt := disconnectedAt

def disconnectReply (installation : ExtensionInstallation) (count : ℕ) : DisconnectResult where
  installationId := installation.installationId
  revokedSessionCount := count
  disconnectedAt := disconnectedAt
  requiresReconnect := true

/-- After the sessions have been revoked. -/
def afterRevoke (installation : ExtensionInstallation) :
    Except Exception ℕ → ExtensionProg ExtensionReply
  | .error e => .throw e
  | .ok count =>
    .call (.recordLifecycleEvent (disconnectEvent session auditEventType disconnectedAt
      installation)) fun _ => .ret (.disconnected (disconnectReply disconnectedAt installation
        count))

/-- After the installation has been looked up. -/
def afterFind : Except Exception (Option ExtensionInstallation) → ExtensionProg ExtensionReply
  | .error e => .throw e
  | .ok none => .throw (.notFound "Extension installation not found.")
  | .ok (some installation) =>
    if installation.userId ≠ session.userId then
      .throw (.notFound "Extension installation not found.")
    else
      .call (.sessionRevokeActive installation.id disconnectedAt)
        (afterRevoke session auditEventType disconnectedAt installation)

theorem disconnectInstallation_eq (installationId : String) :
    (disconnectInstallation session auditEventType installationId disconnectedAt >>=
      fun r => return .disconnected r) =
    .call (.installationFind installationId) (afterFind session auditEventType disconnectedAt) := by
  have hreport : ∀ installation count,
      (reportDisconnect session auditEventType installation disconnectedAt count >>=
        fun r => (return .disconnected r : ExtensionProg ExtensionReply)) =
      afterRevoke session auditEventType disconnectedAt installation (.ok count) := by
    intro installation count
    simp only [reportDisconnect, recordLifecycleEventSafely, Prog.await, Prog.tryCatch_eq,
      Prog.call_handle, Prog.call_bind]
    congr 1
    funext r
    cases r <;> rfl
  simp only [disconnectInstallation, findOwnInstallation, Prog.await, Prog.call_bind]
  congr 1
  funext r
  rcases r with e | _ | installation
  · rfl
  · rfl
  · simp only [afterFind, Prog.ret_bind]
    split
    · rfl
    simp only [Prog.pure_eq, Prog.ret_bind, Prog.call_bind]
    congr 1
    funext r
    cases r with
    | error e => rfl
    | ok count => exact hreport installation count

end Stages

/-- What a disconnect still has to do. -/
inductive DisconnectStage (s : ExtensionStore) : ExtensionProg ExtensionReply → Prop where
  | looking (session : CurrentSession) (auditEventType installationId : String)
      (disconnectedAt : ℤ) :
      DisconnectStage s (.call (.installationFind installationId)
        (afterFind session auditEventType disconnectedAt))
  | revoking (session : CurrentSession) (auditEventType : String) (disconnectedAt : ℤ)
      (installation : ExtensionInstallation)
      (hrow : ∃ row ∈ s.installations, row.id = installation.id ∧
        row.installationId = installation.installationId) :
      DisconnectStage s (.call (.sessionRevokeActive installation.id disconnectedAt)
        (afterRevoke session auditEventType disconnectedAt installation))
  | reporting (event : LifecycleEvent) (r : DisconnectResult)
      (htarget : event.targetId = r.installationId) :
      DisconnectStage s (.call (.recordLifecycleEvent event) fun _ => .ret (.disconnected r))
  | returned (r : DisconnectResult) : DisconnectStage s (.ret (.disconnected r))
  | thrown (e : Exception) : DisconnectStage s (.throw e)

namespace DisconnectStage

theorem afterRevoke (s : ExtensionStore) (session : CurrentSession) (auditEventType : String)
    (disconnectedAt : ℤ) (installation : ExtensionInstallation) (r : Except Exception ℕ) :
    DisconnectStage s (QuizMind.afterRevoke session auditEventType disconnectedAt installation
      r) := by
  cases r with
  | error e => exact .thrown e
  | ok count => exact .reporting _ _ rfl

variable {req : ExtensionRequest}

/-- A disconnect starts by looking up its installation. -/
theorem start (s : ExtensionStore) (env : ExtensionEnv) (h : isDisconnect req) :
    DisconnectStage s (extensionCode env req) := by
  have hchecked : ∀ (session : CurrentSession) (auditEventType : String) (at' : ℤ)
      (x : Except Exception String), DisconnectStage s
        ((ofExcept x >>= fun id => disconnectInstallation session auditEventType id at') >>=
          fun r => return .disconnected r) := by
    intro session auditEventType at' x
    cases x with
    | error e => exact .thrown e
    | ok id =>
      rw [ofExcept, Prog.ret_bind, disconnectInstallation_eq]
      exact .looking session auditEventType id at'
  cases req with
  | disconnect session request => exact hchecked session _ _ _
  | selfDisconnect session request => exact hchecked session _ _ _
  | _ => cases h

variable {s : ExtensionStore}

/-- The rows that a disconnect has seen stay. -/
theorem exec {p : ExtensionProg ExtensionReply} (h : DisconnectStage s p)
    (call : ExtensionCall) : DisconnectStage (call.exec s).2 p := by
  cases h with
  | looking session auditEventType installationId at' => exact .looking _ _ _ _
  | revoking session auditEventType at' installation hrow =>
    obtain ⟨row, hmem, hid, hname⟩ := hrow
    obtain ⟨row', hmem', hid', hname'⟩ := call.exec_rows hmem
    exact .revoking _ _ _ _ ⟨row', hmem', hid'.trans hid, hname'.trans hname⟩
  | reporting event r htarget => exact .reporting _ _ htarget
  | returned r => exact .returned r
  | thrown e => exact .thrown e

variable {op : ExtensionCall}

variable {k : Except Exception op.Res → ExtensionProg ExtensionReply}

/-- The next call of a disconnect. -/
theorem step (h : DisconnectStage s (.call op k)) :
    DisconnectStage (op.exec s).2 (k (op.exec s).1) ∧ ∀ e, DisconnectStage s (k (.error e)) := by
  cases h with
  | looking session auditEventType installationId at' =>
    refine ⟨?_, fun e => .thrown e⟩
    show DisconnectStage s (afterFind session auditEventType at'
      (.ok (s.installation installationId)))
    cases hfound : s.installation installationId with
    | none => exact .thrown _
    | some installation =>
      simp only [afterFind]
      split
      · exact .thrown _
      · obtain ⟨hmem, -⟩ := ExtensionStore.mem_of_installation hfound
        exact .revoking _ _ _ _ ⟨installation, hmem, rfl, rfl⟩
  | revoking session auditEventType at' installation hrow =>
    exact ⟨afterRevoke _ _ _ _ _ _, fun e => .thrown e⟩
  | reporting event r htarget => exact ⟨.returned r, fun _ => .returned r⟩

variable {r : Except Exception op.Res}

/-- A disconnect reports the installation whose sessions it has just revoked. -/
theorem reports (h : DisconnectStage s (.call op k)) {name : String}
    (hr : QuizMind.reporting (req, k r) = some name) :
    (∃ i revokedAt, op = .sessionRevokeActive i revokedAt ∧
      ∃ row ∈ s.installations, row.id = i ∧ row.installationId = name) ∧
    isDisconnect req ∧ ∃ a, r = .ok a := by
  cases h with
  | looking session auditEventType installationId at' =>
    rcases r with e | _ | installation
    · cases hr
    · cases hr
    · simp only [afterFind] at hr
      split at hr <;> cases hr
  | revoking session auditEventType at' installation hrow =>
    cases r with
    | error e => cases hr
    | ok count =>
      simp only [QuizMind.afterRevoke, QuizMind.reporting] at hr
      split at hr
      · rename_i hreq
        obtain ⟨row, hmem, hid, hname⟩ := hrow
        refine ⟨⟨_, _, rfl, row, hmem, hid, ?_⟩, hreq, count, rfl⟩
        rw [hname]
        exact Option.some.inj hr
      · cases hr
  | reporting event result htarget => cases hr

/-- Before it returns, a disconnect reports. -/
theorem returns (h : DisconnectStage s (.call op k)) (hreq : isDisconnect req)
    {result : DisconnectResult} (hr : k r = .ret (.disconnected result)) :
    QuizMind.reporting (req, .call op k) = some result.installationId := by
  cases h with
  | looking session auditEventType installationId at' =>
    rcases r with e | _ | installation
    · cases hr
    · cases hr
    · grind [afterFind]
  | revoking session auditEventType at' installation hrow =>
    cases r <;> cases hr
  | reporting event result' htarget => grind [QuizMind.reporting]

end DisconnectStage

/-! ## The system -/

/-- Where the disconnects are, and that it is quiet around those that report. -/
structure DisconnectInv
    (s : Snapshot ExtensionCall ExtensionCall.Res Exception ExtensionReply ExtensionStore
      ExtensionRequest) : Prop where
  tables : ExtensionTables s.store
  stages : ∀ q ∈ s.procs, isDisconnect q.1 → DisconnectStage s.store q.2
  quiet : ∀ q ∈ s.procs, ∀ name, reporting q = some name → ∃ i, Quiet i name (fun _ => False) s

theorem reporting_some {q : ExtensionRequest × ExtensionProg ExtensionReply} {name : String}
    (h : reporting q = some name) :
    isDisconnect q.1 ∧ ∃ event k, q.2 = .call (.recordLifecycleEvent event) k := by
  unfold reporting at h
  split at h
  · grind
  · cases h

/-- A request that starts does not report. -/
theorem not_reporting_start (env : ExtensionEnv) (req : ExtensionRequest) :
    reporting (req, extensionCode env req) = none := by
  have hchecked : ∀ (session : CurrentSession) (auditEventType : String) (at' : ℤ)
      (x : Except Exception String) event k,
        ((ofExcept x >>= fun id => disconnectInstallation session auditEventType id at') >>=
          fun r => (return .disconnected r : ExtensionProg ExtensionReply)) ≠
        .call (.recordLifecycleEvent event) k := by
    intro session auditEventType at' x event k
    cases x with
    | error e =>
      intro h
      cases h
    | ok id => grind [ofExcept, Prog.ret_bind, disconnectInstallation_eq]
  cases hreporting : reporting (req, extensionCode env req) with
  | none => rfl
  | some name =>
    obtain ⟨hreq, event, k, hcode⟩ := reporting_some hreporting
    cases req with
    | disconnect session request => exact absurd hcode (hchecked session _ _ _ _ _)
    | selfDisconnect session request => exact absurd hcode (hchecked session _ _ _ _ _)
    | _ => cases hreq

section System

variable {env : ExtensionEnv}
  {s s' : Snapshot ExtensionCall ExtensionCall.Res Exception ExtensionReply ExtensionStore
    ExtensionRequest} {l : Label Exception ExtensionRequest}

variable {pid : ℕ}

/-- After the revocation it is quiet, when all others are harmless. -/
theorem quiet_of_revoked {i : ℕ} {revokedAt : ℤ} {name : String} {req : ExtensionRequest}
    {k : Except Exception ℕ → ExtensionProg ExtensionReply} (htables : ExtensionTables s.store)
    (hp : s.procs[pid]? = some (req, .call (.sessionRevokeActive i revokedAt) k))
    (hrow : ∃ row ∈ s.store.installations, row.id = i ∧ row.installationId = name)
    (hothers : ∀ j q, j ≠ pid → s.procs[j]? = some q → Harmless i name q.2)
    (hown : ∀ r, Harmless i name (k r))
    (hnext : (extensionMachine env).next (.step pid) s = some s') :
    Quiet i name (fun _ => False) s' := by
  have hs' : s' = { store := (ExtensionCall.exec (.sessionRevokeActive i revokedAt) s.store).2
                    procs := s.procs.set pid
                      (req, k (ExtensionCall.exec (.sessionRevokeActive i revokedAt) s.store).1)
                    log := s.log ++ [⟨pid, .sessionRevokeActive i revokedAt,
                      (ExtensionCall.exec (.sessionRevokeActive i revokedAt) s.store).1⟩] } := by
    simpa [Machine.next, hp, extensionMachine] using hnext.symm
  subst hs'
  refine ⟨⟨htables.exec _, hrow, ?_⟩, ?_⟩
  · refine revokeWhere_revoked ?_
    intro x hx hid
    cases hlive : x.revokedAt with
    | some at' => exact Or.inl rfl
    | none =>
      simp [hid]
  · grind

theorem afterRevoke_harmless {i : ℕ} {name : String} (session : CurrentSession)
    (auditEventType : String) (disconnectedAt : ℤ) (installation : ExtensionInstallation)
    (r : Except Exception ℕ) :
    Harmless i name (afterRevoke session auditEventType disconnectedAt installation r) := by
  cases r with
  | error e => trivial
  | ok count => exact ⟨trivial, fun _ _ => trivial⟩

theorem disconnectInv_next (hC : othersHarmless s l)
    (hnext : (extensionMachine env).next l s = some s') (h : DisconnectInv s) :
    DisconnectInv s' := by
  have hkept : ∀ q ∈ s.procs, ∀ name, reporting q = some name →
      ∃ i, Quiet i name (fun _ => False) s' := by
    intro q hq name hreporting
    obtain ⟨i, hquiet⟩ := h.quiet q hq name hreporting
    refine ⟨i, hquiet.keeps ?_ hnext⟩
    rintro req rfl
    exact hC q hq name hreporting
  rcases (extensionMachine env).next_cases hnext with ⟨req, rfl, rfl⟩ |
    ⟨pid, req, op, k, rfl, hp, rfl⟩ | ⟨pid, e, req, op, k, rfl, hp, rfl⟩
  · refine ⟨h.tables, ?_, ?_⟩
    · intro q hq hreq
      rcases List.mem_append.mp hq with hold | hnew
      · exact h.stages q hold hreq
      rw [List.mem_singleton] at hnew
      subst hnew
      exact DisconnectStage.start s.store env hreq
    · intro q hq name hreporting
      rcases List.mem_append.mp hq with hold | hnew
      · exact hkept q hold name hreporting
      rw [List.mem_singleton] at hnew
      subst hnew
      have hnone := not_reporting_start env req
      rw [show extensionCode env req = (extensionMachine env).code req from rfl, hreporting]
        at hnone
      cases hnone
  · refine ⟨h.tables.exec op, ?_, ?_⟩
    · intro q hq hreq
      rcases List.mem_or_eq_of_mem_set hq with hold | hnew
      · exact (h.stages q hold hreq).exec op
      · subst hnew
        exact (h.stages _ (List.mem_of_getElem? hp) hreq).step.1
    · intro q hq name hreporting
      rcases List.mem_or_eq_of_mem_set hq with hold | hnew
      · exact hkept q hold name hreporting
      -- the step is the revocation
      subst hnew
      have hreq := (reporting_some hreporting).1
      have hstage := h.stages _ (List.mem_of_getElem? hp) hreq
      obtain ⟨⟨i, revokedAt, hop, row, hrow, hid, hname⟩, -, -⟩ := hstage.reports hreporting
      refine ⟨i, ?_⟩
      cases hstage with
      | revoking session auditEventType at' installation hrow' =>
        obtain ⟨rfl, rfl⟩ : installation.id = i ∧ at' = revokedAt := by simpa using hop
        refine quiet_of_revoked h.tables hp ⟨row, hrow, hid, hname⟩ ?_
          (afterRevoke_harmless _ _ _ _) hnext
        intro j q hj hq
        rw [← hname]
        exact hC req _ _ _ hp hreq row hrow hid j q hj hq
      | looking | reporting => cases hop
  · refine ⟨h.tables, ?_, ?_⟩
    · intro q hq hreq
      rcases List.mem_or_eq_of_mem_set hq with hold | hnew
      · exact h.stages q hold hreq
      · subst hnew
        exact (h.stages _ (List.mem_of_getElem? hp) hreq).step.2 e
    · intro q hq name hreporting
      rcases List.mem_or_eq_of_mem_set hq with hold | hnew
      · exact hkept q hold name hreporting
      subst hnew
      have hreq := (reporting_some hreporting).1
      obtain ⟨-, -, a, ha⟩ :=
        (h.stages _ (List.mem_of_getElem? hp) hreq).reports hreporting
      cases ha

/-- The request that returns a disconnect makes the step. -/
theorem returned_step {r : DisconnectResult} (hreturned : returned pid s s' = some r)
    (hnext : (extensionMachine env).next l s = some s') :
    (∀ req, l ≠ .start req) ∧ ∃ req op k result, s.procs[pid]? = some (req, .call op k) ∧
      isDisconnect req ∧ k result = .ret (.disconnected r) := by
  unfold returned at hreturned
  split at hreturned
  · rename_i req op k req' r' hp hp'
    have hlt : pid < s.procs.length := (List.getElem?_eq_some_iff.mp hp).1
    split at hreturned
    · rename_i hreq
      obtain rfl : r' = r := Option.some.inj hreturned
      have hset : ∀ {pid' : ℕ} {q : ExtensionRequest} {op' : ExtensionCall}
          {k' : Except Exception op'.Res → ExtensionProg ExtensionReply}
          {x : Except Exception op'.Res}, s.procs[pid']? = some (q, .call op' k') →
          (s.procs.set pid' (q, k' x))[pid]? = some (req', .ret (.disconnected r')) →
            ∃ result, k result = .ret (.disconnected r') := by
        intro pid' q op' k' x hq hx
        by_cases hpid : pid' = pid
        · subst hpid
          rw [hp] at hq
          obtain ⟨rfl, rfl, hk⟩ : req = q ∧ op = op' ∧ HEq k k' := by simpa using hq
          cases hk
          obtain ⟨-, hres⟩ : req = req' ∧ k x = .ret (.disconnected r') := by
            simpa [hlt] using hx
          exact ⟨x, hres⟩
        · grind
      rcases (extensionMachine env).next_cases hnext with ⟨req'', rfl, rfl⟩ |
        ⟨pid', req'', op', k', rfl, hq, rfl⟩ | ⟨pid', e, req'', op', k', rfl, hq, rfl⟩
      · -- a request that only starts changes no other
        rw [List.getElem?_append_left hlt, hp] at hp'
        simp at hp'
      all_goals
        obtain ⟨result, hres⟩ := hset hq hp'
        refine ⟨?_, req, op, k, result, hp, hreq, hres⟩
        intro _ hl
        cases hl
    · cases hreturned
  · cases hreturned

/-- In the step in which a disconnect returns it is quiet. -/
theorem quiet_of_returned {r : DisconnectResult} (h : DisconnectInv s)
    (hreturned : returned pid s s' = some r) (hnext : (extensionMachine env).next l s = some s') :
    ∃ i, Quiet i r.installationId (fun _ => False) s' := by
  obtain ⟨hstart, req, op, k, result, hp, hreq, hres⟩ := returned_step hreturned hnext
  have hmem := List.mem_of_getElem? hp
  have hreporting := (h.stages _ hmem hreq).returns hreq hres
  obtain ⟨i, hquiet⟩ := h.quiet _ hmem _ hreporting
  refine ⟨i, hquiet.keeps ?_ hnext⟩
  intro req' hl
  exact absurd hl (hstart req')

end System

/-- Once a disconnect has returned, in a run in which the others were harmless
while it was at work, no session of the installation is active until a bind or
a rotate that has started since issues one. -/
theorem disconnect_final {env : ExtensionEnv} {s₀ : ExtensionStore} (htables : ExtensionTables s₀)
    {s s₁ s₂ : Snapshot ExtensionCall ExtensionCall.Res Exception ExtensionReply ExtensionStore
      ExtensionRequest} {l : Label Exception ExtensionRequest} {pid : ℕ} {r : DisconnectResult}
    (hrun : (extensionMachine env).Reaches othersHarmless (initial s₀) s)
    (hnext : (extensionMachine env).next l s = some s₁) (hreturned : returned pid s s₁ = some r)
    (hrun' : (extensionMachine env).Reaches (fun s l => anyStep s l) s₁ s₂) :
    NoneActive r.installationId s₂.store ∨
      IssuedBy (fun pid => s₁.procs.length ≤ pid) r.installationId s₂ := by
  have hinit : DisconnectInv (initial s₀ : Snapshot ExtensionCall ExtensionCall.Res
      Exception ExtensionReply ExtensionStore ExtensionRequest) := by
    refine ⟨htables, ?_, ?_⟩
    all_goals
      intro q hq
      cases hq
  have hinv : DisconnectInv s := by
    refine Machine.Reaches.invariant (extensionMachine env) ?_ hrun hinit
    intro t l t' hC hnext h
    exact disconnectInv_next hC hnext h
  obtain ⟨i, hquiet⟩ := quiet_of_returned hinv hreturned hnext
  exact hquiet.run hrun'

/-! ## A refresh that survives a disconnect -/

/-- The program has ended. -/
def hasEnded : ExtensionProg ExtensionReply → Bool
  | .call _ _ => false
  | _ => true

/-- One request at a time. -/
def oneAtATime : Snapshot ExtensionCall ExtensionCall.Res Exception ExtensionReply ExtensionStore
      ExtensionRequest → Label Exception ExtensionRequest → Bool
  | s, .start _ => s.procs.all fun q => hasEnded q.2
  | s, .step pid => s.procs.zipIdx.all fun q => q.2 == pid || hasEnded q.1.2
  | _, .fail _ _ => false

theorem hasEnded_harmless {i : ℕ} {name : String} {p : ExtensionProg ExtensionReply}
    (h : hasEnded p) : Harmless i name p := by
  cases p with
  | call op k => cases h
  | _ => trivial

/-- Requests that do not overlap are harmless to each other. -/
theorem othersHarmless_of_oneAtATime
    {s : Snapshot ExtensionCall ExtensionCall.Res Exception ExtensionReply ExtensionStore
      ExtensionRequest} {l : Label Exception ExtensionRequest} (h : oneAtATime s l) :
    othersHarmless s l := by
  cases l with
  | start req =>
    intro q hq name hreporting
    obtain ⟨-, event, k, hcall⟩ := reporting_some hreporting
    have hended := List.all_eq_true.mp h q hq
    rw [hcall] at hended
    cases hended
  | step pid =>
    intro req i revokedAt k _ _ row _ _ j q hj hq
    have hmem : (q, j) ∈ s.procs.zipIdx := List.mem_zipIdx_iff_getElem?.mpr hq
    have hended := List.all_eq_true.mp h (q, j) hmem
    simp only [Bool.or_eq_true, beq_iff_eq] at hended
    rcases hended with hpid | hended
    · exact absurd hpid hj
    · exact hasEnded_harmless hended
  | fail pid e => trivial

/-- Alice disconnects her installation. -/
def aliceDisconnects : ExtensionRequest :=
  .selfDisconnect { userId := "alice", access := .ok () }
    { installationId := some "device-1"
      reason := none
      occurredAt := 3
      fresh := { issuedAt := 3, sessionToken := "" } }

/-- The token is exchanged. -/
def refreshWith (token newToken : String) : ExtensionRequest :=
  .refresh token 2 2 { issuedAt := 2, sessionToken := newToken }

/-- The disconnect, up to its last call, after everything else has ended. -/
def undisturbed : List (Label Exception ExtensionRequest) :=
  .start (bindBy "alice" "token-a") :: List.replicate 7 (.step 0) ++
    .start (refreshWith "token-a" "token-b") :: List.replicate 5 (.step 1) ++
    [.start aliceDisconnects, .step 2, .step 2]

/-- The disconnect, up to its last call, while a refresh that has authenticated
its token is in flight. -/
def disturbed : List (Label Exception ExtensionRequest) :=
  .start (bindBy "alice" "token-a") :: List.replicate 7 (.step 0) ++
    [.start (refreshWith "token-a" "token-b"), .step 1, .step 1] ++
    [.start aliceDisconnects, .step 2, .step 2]

theorem disconnect_final_undisturbed :
    ∃ s₁ s₂ : Snapshot ExtensionCall ExtensionCall.Res Exception ExtensionReply ExtensionStore
        ExtensionRequest,
      (extensionMachine extensionEnv).Reaches (fun s l => anyStep s l) s₁ s₂ ∧
      (NoneActive "device-1" s₂.store ∨
        IssuedBy (fun pid => s₁.procs.length ≤ pid) "device-1" s₂) := by
  let M := extensionMachine extensionEnv
  have hcheck : ((M.trace oneAtATime undisturbed (initial emptyExtension)).map (fun s =>
      ((M.next (.step 2) s).bind fun s₁ => (returned 2 s s₁).bind fun r =>
        if r.installationId = "device-1" then
          M.trace anyStep [.start (refreshWith "token-b" "token-c"), .step 3] s₁
        else none).isSome)) = some true := by decide +kernel
  obtain ⟨s, hrun, hp⟩ := M.reaches_of_trace_check hcheck
  obtain ⟨s₂, hs₂⟩ := Option.isSome_iff_exists.mp hp
  obtain ⟨s₁, hnext, hs₁⟩ := Option.bind_eq_some_iff.mp hs₂
  obtain ⟨r, hreturned, hr⟩ := Option.bind_eq_some_iff.mp hs₁
  split at hr
  · rename_i hname
    have hrun' := M.reaches_of_trace hr
    refine ⟨s₁, s₂, hrun', ?_⟩
    rw [← hname]
    exact disconnect_final emptyExtension_tables
      (hrun.mono M fun _ _ h => othersHarmless_of_oneAtATime h) hnext hreturned hrun'
  · cases hr

/-- The disconnect has returned, and the refresh issues a session. -/
theorem refreshed_after_disconnect : ExtensionTables emptyExtension ∧
      ∃ (s s₁ s₂ : Snapshot ExtensionCall ExtensionCall.Res Exception ExtensionReply
          ExtensionStore ExtensionRequest) (r : DisconnectResult),
        (extensionMachine extensionEnv).Reaches (fun s l => anyStep s l)
          (initial emptyExtension) s ∧
        (extensionMachine extensionEnv).next (.step 2) s = some s₁ ∧ returned 2 s s₁ = some r ∧
        (extensionMachine extensionEnv).Reaches (fun s l => anyStep s l) s₁ s₂ ∧
        ¬ (NoneActive r.installationId s₂.store ∨
          IssuedBy (fun pid => s₁.procs.length ≤ pid) r.installationId s₂) := by
  refine ⟨emptyExtension_tables, ?_⟩
  let M := extensionMachine extensionEnv
  have hcheck : ((M.trace anyStep disturbed (initial emptyExtension)).map (fun s =>
      ((M.next (.step 2) s).bind fun s₁ => (returned 2 s s₁).bind fun r =>
        (M.trace anyStep [.step 1, .step 1, .step 1] s₁).bind fun s₂ =>
          if s₂.procs.length = s₁.procs.length ∧ s₂.store.sessions.any (fun x =>
            x.active 10 && s₂.store.installations.any (fun i =>
              i.installationId == r.installationId && x.extensionInstallationId == i.id))
          then some () else none).isSome)) = some true := by decide +kernel
  obtain ⟨s, hrun, hp⟩ := M.reaches_of_trace_check hcheck
  obtain ⟨_, h⟩ := Option.isSome_iff_exists.mp hp
  obtain ⟨s₁, hnext, h⟩ := Option.bind_eq_some_iff.mp h
  obtain ⟨r, hreturned, h⟩ := Option.bind_eq_some_iff.mp h
  obtain ⟨s₂, hs₂, h⟩ := Option.bind_eq_some_iff.mp h
  refine ⟨s, s₁, s₂, r, hrun, hnext, hreturned, M.reaches_of_trace hs₂, ?_⟩
  split at h
  · rename_i hfacts
    obtain ⟨hlength, hactive⟩ := hfacts
    rintro (hnone | ⟨pid, data, _, -, hpid, -, q, hq, -⟩)
    · obtain ⟨x, hx, hbad⟩ := List.any_eq_true.mp hactive
      simp only [Bool.and_eq_true] at hbad
      obtain ⟨i, hi, hid⟩ := List.any_eq_true.mp hbad.2
      simp only [Bool.and_eq_true, beq_iff_eq] at hid
      have hinactive := hnone x hx i hi hid.1 hid.2 10
      rw [hbad.1] at hinactive
      cases hinactive
    -- nothing has started since
    have hlt := (List.getElem?_eq_some_iff.mp hq).1
    omega
  · cases h

end QuizMind
