import QuizMind.Async.Fault
import QuizMind.Extension.Harmless

/-! # Binds that fail

`bindInstallationForCurrentSession` writes three times, each time on its own: the new owner,
the revocation of the old sessions, the new session. Nothing is undone when a later call
throws, so a failed bind leaves what has been written by then (`run_bindRequest`). Owner and active
sessions are what they were exactly where the writes that took effect had nothing to change
(`failedBind_iff`).
-/

namespace QuizMind

open Async

/-! ## The calls of a bind -/

/-- The steps of a bind at which a call may fail; the reads of the bootstrap payload are
awaited together and are one step. -/
inductive BindStep where
  | policy | find | upsert | revoke | create | bootstrap | event
  deriving DecidableEq

def ExtensionCall.bindStep : ExtensionCall → Option BindStep
  | .retentionPolicyFind => some .policy
  | .installationFind _ => some .find
  | .installationUpsert _ => some .upsert
  | .sessionRevokeActive _ _ => some .revoke
  | .sessionCreate _ => some .create
  | .bootstrapFind => some .bootstrap
  | .recordLifecycleEvent _ => some .event
  | .sessionFindActive _ _ => none
  | .sessionRevoke _ _ => none

/-- How each step goes. -/
abbrev BindPlan := BindStep → Fault Exception

def ExtensionCall.execUnder (plan : BindPlan) (op : ExtensionCall) (s : ExtensionStore) :
    Except Exception op.Res × ExtensionStore :=
  match op.bindStep with
  | some step => (plan step).apply op.exec s
  | none => op.exec s

/-! ## Owner and active sessions -/

namespace ExtensionStore

def ownerOf (s : ExtensionStore) (installationId : String) : Option String :=
  (s.installation installationId).map fun i => i.userId

/-- The sessions of an installation that are active at `now`. -/
def activeSessionsOf (s : ExtensionStore) (installationId : String) (now : ℤ) :
    Set InstallationSession :=
  { x | x ∈ s.sessions ∧ x.active now = true ∧
    ∃ i, s.installation installationId = some i ∧ x.extensionInstallationId = i.id }

/-- The id of the row that an upsert writes. -/
def boundId (s : ExtensionStore) (input : BoundInstallation) : ℕ :=
  ((s.installation input.installationId).map fun i => i.id).getD s.fresh

/-- The tables after an upsert. -/
def upserted (s : ExtensionStore) (input : BoundInstallation) : ExtensionStore :=
  match s.installation input.installationId with
  | some _ => s.updateInstallation input
  | none => s.insertInstallation input

/-- The tables after the unrevoked sessions of an installation have been revoked. -/
def revokedFor (s : ExtensionStore) (id : ℕ) (revokedAt : ℤ) : ExtensionStore :=
  s.revokeWhere (fun x => x.extensionInstallationId == id && x.revokedAt.isNone) revokedAt

variable (s : ExtensionStore) (input : BoundInstallation)

theorem exec_upsert : ExtensionCall.exec (.installationUpsert input) s =
      (.ok { input with id := s.boundId input }, s.upserted input) := by
  grind [ExtensionCall.exec, boundId, upserted]

theorem installation_updateInstallation {s : ExtensionStore} {input : BoundInstallation}
    {i : ExtensionInstallation} (h : s.installation input.installationId = some i) :
    (s.updateInstallation input).installation input.installationId =
      some { input with id := i.id } := by
  have hname : ∀ j : ExtensionInstallation,
      ((if j.installationId = input.installationId then { input with id := j.id } else j :
        ExtensionInstallation).installationId == input.installationId) =
          (j.installationId == input.installationId) := by
    intro j
    rw [(update_ids input j).2]
  have hfound := (mem_of_installation h).2
  unfold installation at h ⊢
  unfold updateInstallation
  rw [List.find?_map]
  simp only [Function.comp_def, hname, h, Option.map_some, hfound, if_true]

theorem installation_insertInstallation {s : ExtensionStore} {input : BoundInstallation}
    (h : s.installation input.installationId = none) :
    (s.insertInstallation input).installation input.installationId =
      some { input with id := s.fresh } := by grind [installation, insertInstallation]

/-- After an upsert the installation is the row that was written. -/
theorem installation_upserted : (s.upserted input).installation input.installationId =
      some { input with id := s.boundId input } := by
  grind [upserted, boundId, installation_updateInstallation, installation_insertInstallation]

@[simp] theorem sessions_upserted : (s.upserted input).sessions = s.sessions := by
  unfold upserted
  split <;> rfl

/-- The row that was written is found by its id. -/
theorem installationById_upserted :
    ∃ i, (s.upserted input).installationById (s.boundId input) = some i := by
  have hmem := (mem_of_installation (installation_upserted s input)).1
  cases hfind : (s.upserted input).installationById (s.boundId input) with
  | some i => exact ⟨i, rfl⟩
  | none =>
    have hnone := List.find?_eq_none.mp hfind _ hmem
    simp at hnone

/-- A revocation keeps the token hashes. -/
theorem any_tokenHash_revokeWhere (p : InstallationSession → Bool)
    (revokedAt : ℤ) (tokenHash : String) :
    (s.revokeWhere p revokedAt).sessions.any (fun x => x.tokenHash == tokenHash) =
      s.sessions.any fun x => x.tokenHash == tokenHash := by
  have hhash : ∀ y : InstallationSession,
      ((if p y then { y with revokedAt := some revokedAt } else y : InstallationSession).tokenHash
        == tokenHash) = (y.tokenHash == tokenHash) := by
    intro y
    rw [revoke_ids]
  unfold revokeWhere
  rw [List.any_map]
  simp only [Function.comp_def, hhash]

end ExtensionStore

/-! ## What a bind has written when it ends -/

/-- How far the writes of a bind have come. -/
inductive BindProgress where
  | nothing | owned | revoked | issued

/-- The writes that take effect; `tokenUsed` says that the new token has the hash of a session
there is. -/
def bindProgress (plan : BindPlan) (tokenUsed : Bool) : BindProgress :=
  if plan .find = .through ∧ (plan .upsert).takesEffect then
    if plan .upsert = .through ∧ (plan .revoke).takesEffect then
      if plan .revoke = .through ∧ (plan .create).takesEffect ∧ tokenUsed = false then .issued
      else .revoked
    else .owned
  else .nothing

/-- No step that a bind waits for throws. -/
def BindGoesThrough (plan : BindPlan) (tokenUsed : Bool) : Prop :=
  plan .find = .through ∧ plan .upsert = .through ∧ plan .revoke = .through ∧
    plan .create = .through ∧ tokenUsed = false ∧ plan .bootstrap = .through

section

variable (env : ExtensionEnv) (plan : BindPlan) (session : CurrentSession)
  (request : BindRequest) (s : ExtensionStore)

/-- The policy in force; a failure to read it is not passed on. -/
def sessionPolicyUnder : ExtensionSessionPolicy :=
  match (plan .policy).failure with
  | some _ => buildFallbackExtensionSessionPolicy env
  | none => s.retentionPolicy.getD (buildFallbackExtensionSessionPolicy env)

/-- The token of the request has the hash of a session there is. -/
def tokenUsed : Bool :=
  s.sessions.any fun x => x.tokenHash == env.hashOpaqueToken request.fresh.sessionToken

/-- The session that a bind creates for the row of `input`. -/
def issuedData (input : BoundInstallation) (lifetimeHours : ℚ) : InstallationSessionData where
  extensionInstallationId := s.boundId input
  userId := session.userId
  tokenHash := env.hashOpaqueToken request.fresh.sessionToken
  expiresAt := sessionExpiry request.fresh.issuedAt lifetimeHours

/-- The tables when a bind has come as far as `progress`. -/
def boundStore (input : BoundInstallation) (lifetimeHours : ℚ) : BindProgress → ExtensionStore
  | .nothing => s
  | .owned => s.upserted input
  | .revoked => (s.upserted input).revokedFor (s.boundId input) request.occurredAt
  | .issued => ((s.upserted input).revokedFor (s.boundId input) request.occurredAt).insertSession
      (issuedData env session request s input lifetimeHours)

end

section

variable {env : ExtensionEnv} {plan : BindPlan} {session : CurrentSession}
  {request : BindRequest} {s : ExtensionStore}

variable (env plan s) in
theorem run_sessionPolicy :
    (resolveExtensionSessionPolicy env).run (ExtensionCall.execUnder plan) [] s =
      (.ok (sessionPolicyUnder env plan s), s) := by
  unfold resolveExtensionSessionPolicy sessionPolicyUnder
  rw [Prog.tryCatch_eq, Prog.run_handle, Prog.run_bind, Prog.run_await]
  cases hplan : plan .policy with
  | through => simp [ExtensionCall.execUnder, ExtensionCall.bindStep, hplan, ExtensionCall.exec,
      Fault.failure]
  | refused e => simp [ExtensionCall.execUnder, ExtensionCall.bindStep, hplan, Fault.failure]
  | lost e => simp [ExtensionCall.execUnder, ExtensionCall.bindStep, hplan, ExtensionCall.exec,
      Fault.failure]

/-- The lifecycle event changes no table, and its failure is only logged. -/
theorem run_lifecycleEvent (event : LifecycleEvent) (s : ExtensionStore) :
    (recordLifecycleEventSafely event).run (ExtensionCall.execUnder plan) [] s = (.ok (), s) := by
  unfold recordLifecycleEventSafely
  rw [Prog.tryCatch_eq, Prog.run_handle, Prog.run_await]
  cases hplan : plan .event with
  | through => simp [ExtensionCall.execUnder, ExtensionCall.bindStep, hplan, ExtensionCall.exec]
  | refused e => simp [ExtensionCall.execUnder, ExtensionCall.bindStep, hplan]
  | lost e => simp [ExtensionCall.execUnder, ExtensionCall.bindStep, hplan, ExtensionCall.exec]

variable (input : BoundInstallation) (lifetimeHours : ℚ)

variable (env session request s) in
theorem tokenUsed_revoked :
    (boundStore env session request s input lifetimeHours .revoked).sessions.any (fun x =>
        x.tokenHash == (issuedData env session request s input lifetimeHours).tokenHash) =
      tokenUsed env request s := by
  show ((s.upserted input).revokeWhere _ request.occurredAt).sessions.any _ = _
  rw [ExtensionStore.any_tokenHash_revokeWhere, ExtensionStore.sessions_upserted]
  rfl

variable (env session request s) in
theorem found_revoked : ∃ i,
    (boundStore env session request s input lifetimeHours .revoked).installationById
      (issuedData env session request s input lifetimeHours).extensionInstallationId = some i :=
  ExtensionStore.installationById_upserted s input

variable (session) in
theorem exec_create_used (hused : tokenUsed env request s = true) :
    ∃ e, ExtensionCall.exec (.sessionCreate (issuedData env session request s input lifetimeHours))
        (boundStore env session request s input lifetimeHours .revoked) =
      (.error e, boundStore env session request s input lifetimeHours .revoked) := by
  have hany := tokenUsed_revoked env session request s input lifetimeHours
  rw [hused] at hany
  obtain ⟨i, hfound⟩ := found_revoked env session request s input lifetimeHours
  exact ⟨.prisma "P2002", by simp only [ExtensionCall.exec, hfound, hany, if_true]⟩

variable (session) in
theorem exec_create_free (hfree : tokenUsed env request s = false) : ∃ record, ExtensionCall.exec
        (.sessionCreate (issuedData env session request s input lifetimeHours))
        (boundStore env session request s input lifetimeHours .revoked) =
      (.ok record, boundStore env session request s input lifetimeHours .issued) := by
  have hany := tokenUsed_revoked env session request s input lifetimeHours
  rw [hfree] at hany
  obtain ⟨i, hfound⟩ := found_revoked env session request s input lifetimeHours
  simp only [ExtensionCall.exec, hfound, hany, Bool.false_eq_true, if_false]
  exact ⟨_, rfl⟩

variable (plan) in
/-- The end of a bind, once the new session is there: it fails where the bootstrap payload
cannot be built, and writes nothing. -/
theorem run_afterCreate {α : Type} (installation : ExtensionInstallation) (environment : String)
    (handshake : CompatibilityHandshake) (refreshAfterSeconds : ℤ) (event : LifecycleEvent)
    (result : BootstrapPayload → α) (s : ExtensionStore) :
    ∃ out, ((do
        let bootstrap ← buildBootstrapPayload installation environment handshake refreshAfterSeconds
        recordLifecycleEventSafely event
        return result bootstrap : ExtensionProg α).run (ExtensionCall.execUnder plan) [] s) =
      (out, s) ∧ ((∃ e, out = .error e) ↔ plan .bootstrap ≠ .through) := by
  unfold buildBootstrapPayload
  rw [Prog.run_bind, Prog.run_bind, Prog.run_await]
  cases hplan : plan .bootstrap with
  | through =>
    simp [ExtensionCall.execUnder, ExtensionCall.bindStep, hplan, ExtensionCall.exec,
      Prog.run_bind, run_lifecycleEvent]
  | refused e => simp [ExtensionCall.execUnder, ExtensionCall.bindStep, hplan]
  | lost e =>
    simp [ExtensionCall.execUnder, ExtensionCall.bindStep, hplan, ExtensionCall.exec]

variable (env plan session request s) in
/-- Issuing the session, once the old ones are revoked. -/
theorem run_issue :
    ∃ out, (issueInstallationSession env request.fresh { input with id := s.boundId input }
        session.userId lifetimeHours).run (ExtensionCall.execUnder plan) []
          (boundStore env session request s input lifetimeHours .revoked) =
      (out, boundStore env session request s input lifetimeHours
        (if (plan .create).takesEffect ∧ tokenUsed env request s = false then .issued
          else .revoked)) ∧
      ((∃ e, out = .error e) ↔ ¬ (plan .create = .through ∧ tokenUsed env request s = false)) := by
  unfold issueInstallationSession
  simp only [Prog.run_bind, Prog.run_await, ExtensionCall.execUnder, ExtensionCall.bindStep]
  change ∃ out, Prog.andThen _ _ ((plan .create).apply (ExtensionCall.exec
    (.sessionCreate (issuedData env session request s input lifetimeHours))) _) = _ ∧ _
  cases hcreate : plan .create with
  | refused e => simp [Fault.takesEffect]
  | lost e =>
    cases hused : tokenUsed env request s with
    | true =>
      obtain ⟨e', hexec⟩ := exec_create_used session input lifetimeHours hused
      simp [hexec, Fault.takesEffect]
    | false =>
      obtain ⟨record, hexec⟩ := exec_create_free session input lifetimeHours hused
      simp [hexec, Fault.takesEffect]
  | through =>
    cases hused : tokenUsed env request s with
    | true =>
      obtain ⟨e', hexec⟩ := exec_create_used session input lifetimeHours hused
      simp [hexec]
    | false =>
      obtain ⟨record, hexec⟩ := exec_create_free session input lifetimeHours hused
      simp [hexec, Fault.takesEffect]

variable (env plan session request s) in
/-- A bind ends with the writes of `bindProgress`, and fails where one of its steps throws. -/
theorem run_bindNormalized (policy : ExtensionSessionPolicy) (normalized : NormalizedBindRequest) :
    ∃ out, (bindNormalized env session request policy normalized).run
        (ExtensionCall.execUnder plan) [] s =
      (out, boundStore env session request s
        (boundInstallation session.userId normalized.installationId normalized.handshake
          request.occurredAt) policy.lifetimeHours
        (bindProgress plan (tokenUsed env request s))) ∧
      ((∃ e, out = .error e) ↔ ¬ BindGoesThrough plan (tokenUsed env request s)) := by
  generalize hinput : boundInstallation session.userId normalized.installationId
    normalized.handshake request.occurredAt = input
  have htakes : (Fault.through : Fault Exception).takesEffect = true := rfl
  unfold bindNormalized bindProgress BindGoesThrough
  rw [hinput]
  simp only [Prog.run_bind, Prog.run_await, ExtensionCall.execUnder, ExtensionCall.bindStep]
  cases hfind : plan .find with
  | refused e => simp [boundStore]
  | lost e => simp [boundStore, ExtensionCall.exec]
  | through =>
    simp only [Fault.through_apply, ExtensionCall.exec, Prog.andThen_ok]
    simp only [Prog.run_bind, Prog.run_await, ExtensionCall.execUnder, ExtensionCall.bindStep]
    cases hupsert : plan .upsert with
    | refused e => simp [boundStore, Fault.takesEffect]
    | lost e => simp [boundStore, Fault.takesEffect, ExtensionStore.exec_upsert]
    | through =>
      simp only [Fault.through_apply, ExtensionStore.exec_upsert, Prog.andThen_ok]
      simp only [Prog.run_bind, Prog.run_await, ExtensionCall.execUnder, ExtensionCall.bindStep]
      cases hrevoke : plan .revoke with
      | refused e => simp [boundStore, Fault.takesEffect]
      | lost e =>
        simp [boundStore, Fault.takesEffect, ExtensionCall.exec, ExtensionStore.revokedFor]
      | through =>
        simp only [Fault.through_apply, ExtensionCall.exec, Prog.andThen_ok]
        obtain ⟨issued, hissue, hissued⟩ :=
          run_issue env plan session request s input policy.lifetimeHours
        change Prog.run _ _ [] ((s.upserted input).revokeWhere _ request.occurredAt) = _
          at hissue
        simp only [Prog.run_bind, hissue]
        cases issued with
        | error e => simp_all [Prog.andThen]
        | ok issued =>
          have hcreated : plan .create = .through ∧ tokenUsed env request s = false := by grind
          obtain ⟨hcreate, hfree⟩ := hcreated
          obtain ⟨out, hrest, hout⟩ := run_afterCreate plan
            { input with id := s.boundId input } normalized.environment
            normalized.handshake policy.refreshAfterSeconds _ _
            (boundStore env session request s input policy.lifetimeHours .issued)
          refine ⟨out, ?_, ?_⟩
          · simp only [Prog.andThen_ok, hcreate, htakes, hfree, and_self, if_true]
            exact hrest
          · rw [hout]
            simp [hcreate, hfree]

variable (env plan session request s) in
/-- The whole handler, for a request that is well formed. -/
theorem run_bindRequest {normalized : NormalizedBindRequest}
    (h : normalizeBindRequest request = .ok normalized) :
    ∃ out, (bindInstallationForCurrentSession env session request).run
        (ExtensionCall.execUnder plan) [] s =
      (out, boundStore env session request s
        (boundInstallation session.userId normalized.installationId normalized.handshake
          request.occurredAt) (sessionPolicyUnder env plan s).lifetimeHours
        (bindProgress plan (tokenUsed env request s))) ∧
      ((∃ e, out = .error e) ↔ ¬ BindGoesThrough plan (tokenUsed env request s)) := by
  unfold bindInstallationForCurrentSession
  rw [Prog.run_bind, run_sessionPolicy, Prog.andThen_ok, h]
  exact run_bindNormalized env plan session request s (sessionPolicyUnder env plan s) normalized

/-- A request that is not well formed is refused before anything is written. -/
theorem run_bind_malformed {e : Exception} (h : normalizeBindRequest request = .error e) :
    (bindInstallationForCurrentSession env session request).run
      (ExtensionCall.execUnder plan) [] s = (.error e, s) := by
  unfold bindInstallationForCurrentSession
  rw [Prog.run_bind, run_sessionPolicy, h]
  rfl

end

/-! ## The main theorem -/

/-- The installation that a request names. -/
def BindRequest.named (request : BindRequest) : String := jsTrim (request.installationId.getD "")

/-- An installation has the owner and the active sessions it had. -/
structure SameBinding (name : String) (now : ℤ) (s s' : ExtensionStore) : Prop where
  owner : s'.ownerOf name = s.ownerOf name
  active : s'.activeSessionsOf name now = s.activeSessionsOf name now

section

variable (env : ExtensionEnv) (plan : BindPlan) (session : CurrentSession)
  (request : BindRequest) (now : ℤ) (s : ExtensionStore)

/-- A bind that throws leaves the installation as it was. -/
def FailedBindChangesNothing : Prop :=
  ∀ e s', (bindInstallationForCurrentSession env session request).run
      (ExtensionCall.execUnder plan) [] s = (.error e, s') →
    SameBinding request.named now s s'

/-- What the writes that took effect had to change is nothing: the user is the owner already,
there is no active session to revoke, and the new session is expired. -/
def NothingToUndo : BindProgress → Prop
  | .nothing => True
  | .owned => s.ownerOf request.named = some session.userId
  | .revoked => s.ownerOf request.named = some session.userId ∧
      s.activeSessionsOf request.named now = ∅
  | .issued => s.ownerOf request.named = some session.userId ∧
      s.activeSessionsOf request.named now = ∅ ∧
      sessionExpiry request.fresh.issuedAt (sessionPolicyUnder env plan s).lifetimeHours ≤ now

end

section

variable {env : ExtensionEnv} {plan : BindPlan} {session : CurrentSession}
  {request : BindRequest} {now : ℤ} {s : ExtensionStore}

variable (input : BoundInstallation) (lifetimeHours : ℚ)

variable (env session request s) in
theorem ownerOf_boundStore {progress : BindProgress} (h : progress ≠ .nothing) :
    (boundStore env session request s input lifetimeHours progress).ownerOf input.installationId =
      some input.userId := by
  have howner : (s.upserted input).ownerOf input.installationId = some input.userId := by
    simp [ExtensionStore.installation_upserted, ExtensionStore.ownerOf]
  -- neither the revocation nor the new session touches the installations
  cases progress with
  | nothing => exact absurd rfl h
  | _ => exact howner

/-- The upsert of an installation there is leaves its sessions alone. -/
theorem activeSessionsOf_owned {input : BoundInstallation} {i : ExtensionInstallation}
    (h : s.installation input.installationId = some i) :
    (s.upserted input).activeSessionsOf input.installationId now =
      s.activeSessionsOf input.installationId now := by
  have hid : s.boundId input = i.id := by
    unfold ExtensionStore.boundId
    rw [h]
    rfl
  unfold ExtensionStore.activeSessionsOf
  rw [ExtensionStore.installation_upserted, h, hid]
  simp

variable (env session request now s) in
theorem activeSessionsOf_revoked :
    (boundStore env session request s input lifetimeHours .revoked).activeSessionsOf
      input.installationId now = ∅ := by
  refine Set.eq_empty_iff_forall_notMem.mpr ?_
  rintro x ⟨hx, hact, i, hi, hid⟩
  change (s.upserted input).installation input.installationId = some i at hi
  rw [ExtensionStore.installation_upserted] at hi
  obtain rfl := Option.some.inj hi
  obtain ⟨y, hy, rfl⟩ := ExtensionStore.mem_revokeWhere.mp hx
  -- an unrevoked session of the row has just been revoked
  by_cases hlive : (y.extensionInstallationId == s.boundId input && y.revokedAt.isNone) = true
  all_goals grind [InstallationSession.active]

/-- The row of the new session. -/
def issuedRow (env : ExtensionEnv) (session : CurrentSession) (request : BindRequest)
    (s : ExtensionStore) (input : BoundInstallation) (lifetimeHours : ℚ) : InstallationSession :=
  { issuedData env session request s input lifetimeHours with
    id := (boundStore env session request s input lifetimeHours .revoked).fresh
    revokedAt := none }

variable (env session request now s) in
/-- The new session is the only one that can be active. -/
theorem mem_activeSessionsOf_issued (x : InstallationSession) :
    x ∈ (boundStore env session request s input lifetimeHours .issued).activeSessionsOf
        input.installationId now ↔
      x = issuedRow env session request s input lifetimeHours ∧
        now < sessionExpiry request.fresh.issuedAt lifetimeHours := by
  have hempty := activeSessionsOf_revoked env session request now s input lifetimeHours
  have hrow : (boundStore env session request s input lifetimeHours .issued).installation
      input.installationId = some { input with id := s.boundId input } :=
    ExtensionStore.installation_upserted s input
  constructor
  · rintro ⟨hx, hact, hid⟩
    rcases List.mem_append.mp hx with hold | hnew
    · have hmem : x ∈ (boundStore env session request s input lifetimeHours
          .revoked).activeSessionsOf input.installationId now := ⟨hold, hact, hid⟩
      rw [hempty] at hmem
      exact absurd hmem (Set.notMem_empty x)
    obtain rfl := List.mem_singleton.mp hnew
    simp only [InstallationSession.active, Bool.and_eq_true, decide_eq_true_eq] at hact
    exact ⟨rfl, hact.2⟩
  rintro ⟨rfl, hnow⟩
  refine ⟨List.mem_append_right _ (List.mem_singleton.mpr rfl), ?_, _, hrow, rfl⟩
  have hlater : now < (issuedData env session request s input lifetimeHours).expiresAt := hnow
  exact decide_eq_true hlater

variable (session) in
/-- The new row is none of those before: its token is its own. -/
theorem issuedRow_notMem (hfree : tokenUsed env request s = false) :
    issuedRow env session request s input lifetimeHours ∉ s.sessions := by
  intro hmem
  have hused : tokenUsed env request s = true :=
    List.any_eq_true.mpr ⟨_, hmem, beq_self_eq_true _⟩
  rw [hfree] at hused
  cases hused

variable (env plan session request now s) in
/-- What has been written leaves the binding as it was exactly where it had nothing to change. -/
theorem sameBinding_boundStore {input : BoundInstallation} (huser : input.userId = session.userId)
    (hname : input.installationId = request.named) {progress : BindProgress}
    (hfree : progress = .issued → tokenUsed env request s = false) :
    SameBinding request.named now s (boundStore env session request s input
        (sessionPolicyUnder env plan s).lifetimeHours progress) ↔
      NothingToUndo env plan session request now s progress := by
  have howner : progress ≠ .nothing → (boundStore env session request s input
      (sessionPolicyUnder env plan s).lifetimeHours progress).ownerOf request.named =
        some session.userId := by
    intro hwritten
    have howner := ownerOf_boundStore env session request s input
      (sessionPolicyUnder env plan s).lifetimeHours hwritten
    rw [hname, huser] at howner
    exact howner
  have hrev := activeSessionsOf_revoked env session request now s input
    (sessionPolicyUnder env plan s).lifetimeHours
  have hissued := mem_activeSessionsOf_issued env session request now s input
    (sessionPolicyUnder env plan s).lifetimeHours
  rw [hname] at hrev hissued
  cases progress with
  | nothing => exact iff_of_true ⟨rfl, rfl⟩ trivial
  | owned =>
    have howner := howner nofun
    constructor
    · intro hsame
      exact hsame.owner.symm.trans howner
    intro hsame
    refine ⟨howner.trans hsame.symm, ?_⟩
    obtain ⟨i, hi, -⟩ := Option.map_eq_some_iff.mp hsame
    rw [← hname] at hi ⊢
    exact activeSessionsOf_owned hi
  | revoked =>
    have howner := howner nofun
    constructor
    · intro hsame
      exact ⟨hsame.owner.symm.trans howner, hsame.active.symm.trans hrev⟩
    · rintro ⟨hsame, hnone⟩
      exact ⟨howner.trans hsame.symm, hrev.trans hnone.symm⟩
  | issued =>
    have howner := howner nofun
    have hfresh := issuedRow_notMem session input
      (sessionPolicyUnder env plan s).lifetimeHours (hfree rfl)
    constructor
    · intro hsame
      have hexp : sessionExpiry request.fresh.issuedAt
          (sessionPolicyUnder env plan s).lifetimeHours ≤ now := by
        by_contra hlater
        have hmem := (hissued _).mpr ⟨rfl, not_le.mp hlater⟩
        rw [hsame.active] at hmem
        exact hfresh hmem.1
      refine ⟨hsame.owner.symm.trans howner, ?_, hexp⟩
      rw [← hsame.active]
      refine Set.eq_empty_iff_forall_notMem.mpr ?_
      intro x hx
      exact absurd ((hissued x).mp hx).2 (not_lt.mpr hexp)
    rintro ⟨hsame, hnone, hexp⟩
    refine ⟨howner.trans hsame.symm, ?_⟩
    rw [hnone]
    refine Set.eq_empty_iff_forall_notMem.mpr ?_
    intro x hx
    exact absurd ((hissued x).mp hx).2 (not_lt.mpr hexp)

theorem tokenUsed_of_issued {plan : BindPlan} {tokenUsed : Bool}
    (h : bindProgress plan tokenUsed = .issued) : tokenUsed = false := by
  unfold bindProgress at h
  split at h
  · grind
  · cases h

/-- A failed bind leaves owner and active sessions as they were exactly where the writes that
had taken effect by then had nothing to change. -/
theorem failedBind_iff (env : ExtensionEnv) (plan : BindPlan) (session : CurrentSession)
    (request : BindRequest) (now : ℤ) (s : ExtensionStore) :
    FailedBindChangesNothing env plan session request now s ↔
      ∀ normalized, normalizeBindRequest request = .ok normalized →
        BindGoesThrough plan (tokenUsed env request s) ∨
          NothingToUndo env plan session request now s
            (bindProgress plan (tokenUsed env request s)) := by
  cases hnormalized : normalizeBindRequest request with
  | error e =>
    -- the request is refused before the first call that writes
    refine iff_of_true ?_ nofun
    intro e' s' hrun
    rw [run_bind_malformed hnormalized] at hrun
    obtain rfl := (Prod.mk.inj hrun).2
    exact ⟨rfl, rfl⟩
  | ok normalized =>
    obtain ⟨out, hrun, hthrows⟩ := run_bindRequest env plan session request s hnormalized
    have hname : (boundInstallation session.userId normalized.installationId
        normalized.handshake request.occurredAt).installationId = request.named := by
      obtain ⟨value, hvalue, htrim⟩ := Option.map_eq_some_iff.mp
        (normalizeBindRequest_ok hnormalized)
      unfold BindRequest.named
      rw [hvalue]
      exact htrim.symm
    have hfree : bindProgress plan (tokenUsed env request s) = .issued →
        tokenUsed env request s = false := tokenUsed_of_issued
    have hsame := sameBinding_boundStore env plan session request now s rfl hname hfree
    unfold FailedBindChangesNothing
    constructor
    · grind
    · grind

end

/-! Bob binds Alice's installation, and the feature flags cannot be read. -/

def aliceBound : ExtensionStore where
  installations :=
    [{ userId := "alice"
       installationId := "device-1"
       browser := "chrome"
       extensionVersion := "1.6.0"
       schemaVersion := "2"
       capabilities := ["quiz-capture"]
       lastSeenAt := 0
       id := 0 }]
  sessions :=
    [{ extensionInstallationId := 0
       userId := "alice"
       tokenHash := "token-a"
       expiresAt := 3600000
       id := 1
       revokedAt := none }]
  retentionPolicy := none
  fresh := 2

def bootstrapFails : BindPlan := fun step =>
  if step = .bootstrap then .refused (.error "Connection lost.") else .through

def bobsRequest : BindRequest where
  installationId := some "device-1"
  environment := none
  handshake := chromeHandshake
  occurredAt := 1
  fresh := { issuedAt := 1, sessionToken := "token-b" }

theorem aliceBound_tables : ExtensionTables aliceBound := by
  constructor <;> simp [aliceBound]

/-- Bob is told that the bind has failed; he is the owner, and Alice's session is revoked. -/
theorem failedBind_takesOver : ¬ ∀ env plan session request now s, ExtensionTables s →
      FailedBindChangesNothing env plan session request now s := by
  intro hall
  have hclean := hall extensionEnv bootstrapFails { userId := "bob", access := .ok () }
    bobsRequest 1 aliceBound aliceBound_tables
  have hrun : ∃ s', (bindInstallationForCurrentSession extensionEnv
      { userId := "bob", access := .ok () } bobsRequest).run
        (ExtensionCall.execUnder bootstrapFails) [] aliceBound =
      (.error (.error "Connection lost."), s') ∧ s'.ownerOf bobsRequest.named = some "bob" :=
    ⟨_, rfl, rfl⟩
  obtain ⟨s', hfailed, hbob⟩ := hrun
  have howner := (hclean _ s' hfailed).owner
  rw [hbob] at howner
  exact absurd howner (by decide)

end QuizMind
