import QuizMind.Async.Machine
import QuizMind.Runtime
import Mathlib.Data.List.Nodup
import Mathlib.Data.Rat.Defs
import Mathlib.Algebra.Order.Ring.Rat

/-! # Extension installations and their sessions

The tables `ExtensionInstallation` and `ExtensionInstallationSession` and the
repository calls on them, each of them atomic. The columns that are only shown
to the user (device metadata, creation dates) are left out.
-/

namespace QuizMind

open Async

/-! ## Rows -/

/-- What `upsertBoundInstallation` writes. -/
structure BoundInstallation where
  userId : String
  installationId : String
  browser : String
  extensionVersion : String
  schemaVersion : String
  capabilities : List String
  lastSeenAt : ℤ

structure ExtensionInstallation extends BoundInstallation where
  id : ℕ

/-- The data of a session to insert. -/
structure InstallationSessionData where
  extensionInstallationId : ℕ
  userId : String
  tokenHash : String
  expiresAt : ℤ

structure InstallationSession extends InstallationSessionData where
  id : ℕ
  revokedAt : Option ℤ

/-- A session row with its installation, as it is at the time of the query. -/
structure InstallationSessionRecord extends InstallationSession where
  installation : ExtensionInstallation

structure ExtensionSessionPolicy where
  lifetimeHours : ℚ
  refreshAfterSeconds : ℤ

/-- What `recordLifecycleEvent` is told. -/
structure LifecycleEvent where
  actorId : String
  targetId : String
  auditEventType : String
  securityEventType : String
  occurredAt : ℤ

structure ExtensionStore where
  installations : List ExtensionInstallation
  sessions : List InstallationSession
  retentionPolicy : Option ExtensionSessionPolicy
  fresh : ℕ

namespace ExtensionStore

def installation (s : ExtensionStore) (installationId : String) : Option ExtensionInstallation :=
  s.installations.find? (fun i => i.installationId == installationId)

def installationById (s : ExtensionStore) (id : ℕ) : Option ExtensionInstallation :=
  s.installations.find? (fun i => i.id == id)

/-- A session row with its installation. -/
def withInstallation (s : ExtensionStore) (session : InstallationSession) :
    Option InstallationSessionRecord :=
  (s.installationById session.extensionInstallationId).map
    (fun installation => { session with installation := installation })

end ExtensionStore

/-- `revokedAt` is null and `expiresAt` is after `now`. -/
def InstallationSession.active (session : InstallationSession) (now : ℤ) : Bool :=
  session.revokedAt.isNone && now < session.expiresAt

/-! ## Calls -/

/-- The calls of the handlers. `bootstrapFind` stands for the four reads of the
bootstrap payload, which touch neither of the two tables. -/
inductive ExtensionCall where
  | retentionPolicyFind
  | installationFind (installationId : String)
  | installationUpsert (input : BoundInstallation)
  | sessionCreate (data : InstallationSessionData)
  | sessionFindActive (tokenHash : String) (now : ℤ)
  | sessionRevokeActive (extensionInstallationId : ℕ) (revokedAt : ℤ)
  | sessionRevoke (id : ℕ) (revokedAt : ℤ)
  | bootstrapFind
  | recordLifecycleEvent (event : LifecycleEvent)

abbrev ExtensionCall.Res : ExtensionCall → Type
  | .retentionPolicyFind => Option ExtensionSessionPolicy
  | .installationFind _ => Option ExtensionInstallation
  | .installationUpsert _ => ExtensionInstallation
  | .sessionCreate _ => InstallationSessionRecord
  | .sessionFindActive _ _ => Option InstallationSessionRecord
  | .sessionRevokeActive _ _ => ℕ
  | .sessionRevoke _ _ => InstallationSession
  | .bootstrapFind => Unit
  | .recordLifecycleEvent _ => Unit

namespace ExtensionStore

/-- The tables after a change of the sessions that satisfy `p`. -/
def revokeWhere (s : ExtensionStore) (p : InstallationSession → Bool) (revokedAt : ℤ) :
    ExtensionStore :=
  { s with sessions := s.sessions.map (fun x =>
      if p x then { x with revokedAt := some revokedAt } else x) }

/-- The tables after the update of an installation row. -/
def updateInstallation (s : ExtensionStore) (input : BoundInstallation) : ExtensionStore :=
  { s with installations := s.installations.map (fun i =>
      if i.installationId = input.installationId then { input with id := i.id } else i) }

def insertInstallation (s : ExtensionStore) (input : BoundInstallation) : ExtensionStore :=
  { s with
    installations := s.installations ++ [{ input with id := s.fresh }]
    fresh := s.fresh + 1 }

def insertSession (s : ExtensionStore) (data : InstallationSessionData) : ExtensionStore :=
  { s with
    sessions := s.sessions ++ [{ data with id := s.fresh, revokedAt := none }]
    fresh := s.fresh + 1 }

end ExtensionStore

/-- What each call does, atomically. -/
def ExtensionCall.exec : (call : ExtensionCall) → ExtensionStore →
    Except Exception call.Res × ExtensionStore
  | .retentionPolicyFind, s => (.ok s.retentionPolicy, s)
  | .installationFind installationId, s => (.ok (s.installation installationId), s)
  | .installationUpsert input, s =>
    match s.installation input.installationId with
    | some i => (.ok { input with id := i.id }, s.updateInstallation input)
    | none => (.ok { input with id := s.fresh }, s.insertInstallation input)
  | .sessionCreate data, s =>
    match s.installationById data.extensionInstallationId with
    | none => (.error (.prisma "P2003"), s)
    | some i =>
      if s.sessions.any (fun x => x.tokenHash == data.tokenHash) then
        (.error (.prisma "P2002"), s)
      else
        let session : InstallationSession := { data with id := s.fresh, revokedAt := none }
        (.ok { session with installation := i }, s.insertSession data)
  | .sessionFindActive tokenHash now, s =>
    let found := s.sessions.find? (fun x => x.tokenHash == tokenHash && x.active now)
    (.ok (found.bind s.withInstallation), s)
  | .sessionRevokeActive extensionInstallationId revokedAt, s =>
    let live : InstallationSession → Bool := fun x =>
      x.extensionInstallationId == extensionInstallationId && x.revokedAt.isNone
    (.ok (s.sessions.countP live), s.revokeWhere live revokedAt)
  | .sessionRevoke id revokedAt, s =>
    match s.sessions.find? (fun x => x.id == id) with
    | none => (.error (.prisma "P2025"), s)
    | some x =>
      (.ok { x with revokedAt := some revokedAt }, s.revokeWhere (fun x => x.id == id) revokedAt)
  | .bootstrapFind, s => (.ok (), s)
  | .recordLifecycleEvent _, s => (.ok (), s)

/-- A program over these calls. -/
abbrev ExtensionProg := Prog ExtensionCall ExtensionCall.Res Exception

/-- One call. -/
abbrev extension (call : ExtensionCall) : ExtensionProg call.Res := Prog.await call

/-! ## What a call can do -/

/-- Everything a call can do to the tables. -/
inductive ExtensionCall.Effect (s : ExtensionStore) : ExtensionCall → ExtensionStore → Prop where
  | policy : Effect s .retentionPolicyFind s
  | find {installationId : String} : Effect s (.installationFind installationId) s
  | findActive {tokenHash : String} {now : ℤ} : Effect s (.sessionFindActive tokenHash now) s
  | bootstrap : Effect s .bootstrapFind s
  | event {event : LifecycleEvent} : Effect s (.recordLifecycleEvent event) s
  | update {input : BoundInstallation} {i : ExtensionInstallation}
      (hfound : s.installation input.installationId = some i) :
      Effect s (.installationUpsert input) (s.updateInstallation input)
  | insert {input : BoundInstallation} (hnone : s.installation input.installationId = none) :
      Effect s (.installationUpsert input) (s.insertInstallation input)
  | create {data : InstallationSessionData} {i : ExtensionInstallation}
      (hfound : s.installationById data.extensionInstallationId = some i)
      (hfree : s.sessions.any (fun x => x.tokenHash == data.tokenHash) = false) :
      Effect s (.sessionCreate data) (s.insertSession data)
  | createFails {data : InstallationSessionData}
      (hfails : s.installationById data.extensionInstallationId = none ∨
        s.sessions.any (fun x => x.tokenHash == data.tokenHash) = true) :
      Effect s (.sessionCreate data) s
  | revokeActive {extensionInstallationId : ℕ} {revokedAt : ℤ} :
      Effect s (.sessionRevokeActive extensionInstallationId revokedAt)
        (s.revokeWhere (fun x => x.extensionInstallationId == extensionInstallationId &&
          x.revokedAt.isNone) revokedAt)
  | revoke {id : ℕ} {revokedAt : ℤ} :
      Effect s (.sessionRevoke id revokedAt) (s.revokeWhere (fun x => x.id == id) revokedAt)
  | revokeFails {id : ℕ} {revokedAt : ℤ} : Effect s (.sessionRevoke id revokedAt) s

theorem ExtensionCall.exec_effect (call : ExtensionCall) (s : ExtensionStore) :
    call.Effect s (call.exec s).2 := by
  cases call with
  | retentionPolicyFind => exact .policy
  | installationFind installationId => exact .find
  | sessionFindActive tokenHash now => exact .findActive
  | bootstrapFind => exact .bootstrap
  | recordLifecycleEvent event => exact .event
  | sessionRevokeActive extensionInstallationId revokedAt => exact .revokeActive
  | installationUpsert input =>
    simp only [ExtensionCall.exec]
    split
    · rename_i i hfound
      exact .update hfound
    · rename_i hnone
      exact .insert hnone
  | sessionCreate data =>
    simp only [ExtensionCall.exec]
    split
    · rename_i hnone
      exact .createFails (Or.inl hnone)
    rename_i i hfound
    split
    · rename_i hused
      exact .createFails (Or.inr hused)
    · rename_i hfree
      exact .create hfound (by simpa using hfree)
  | sessionRevoke id revokedAt =>
    simp only [ExtensionCall.exec]
    split
    · exact .revokeFails
    · exact .revoke

/-- Identifiers are unique and below the counter. -/
structure ExtensionTables (s : ExtensionStore) : Prop where
  ids : (s.installations.map (fun i => i.id)).Nodup
  names : (s.installations.map (fun i => i.installationId)).Nodup
  ids_lt : ∀ i ∈ s.installations, i.id < s.fresh
  sessions_lt : ∀ x ∈ s.sessions, x.extensionInstallationId < s.fresh

namespace ExtensionStore

variable {s : ExtensionStore}

variable {i : ExtensionInstallation}

theorem mem_of_installation {installationId : String} (h : s.installation installationId = some i) :
    i ∈ s.installations ∧ i.installationId = installationId :=
  ⟨List.mem_of_find?_eq_some h, by simpa using List.find?_some h⟩

theorem mem_of_installationById {id : ℕ}
    (h : s.installationById id = some i) : i ∈ s.installations ∧ i.id = id :=
  ⟨List.mem_of_find?_eq_some h, by simpa using List.find?_some h⟩

/-- A row after an update is a row before it, with the same identifiers. -/
theorem mem_updateInstallation {input : BoundInstallation} :
    i ∈ (s.updateInstallation input).installations ↔ ∃ j ∈ s.installations,
      i = if j.installationId = input.installationId then { input with id := j.id } else j := by
  grind [updateInstallation]

/-- A session after a revocation is a session before it. -/
theorem mem_revokeWhere {p : InstallationSession → Bool} {revokedAt : ℤ}
    {x : InstallationSession} : x ∈ (s.revokeWhere p revokedAt).sessions ↔ ∃ y ∈ s.sessions,
      x = if p y then { y with revokedAt := some revokedAt } else y := by
  grind [revokeWhere]

theorem update_ids (input : BoundInstallation) (j : ExtensionInstallation) :
    (if j.installationId = input.installationId then { input with id := j.id } else j :
      ExtensionInstallation).id = j.id ∧
    (if j.installationId = input.installationId then { input with id := j.id } else j :
      ExtensionInstallation).installationId = j.installationId := by grind

theorem revoke_ids (p : InstallationSession → Bool) (revokedAt : ℤ) (y : InstallationSession) :
    (if p y then { y with revokedAt := some revokedAt } else y : InstallationSession).toInstallationSessionData =
      y.toInstallationSessionData := by
  split <;> rfl

end ExtensionStore

/-- Every call keeps the identifiers unique. -/
theorem ExtensionTables.exec {s : ExtensionStore} (h : ExtensionTables s) (call : ExtensionCall) :
    ExtensionTables (call.exec s).2 := by
  have hrevoke : ∀ (p : InstallationSession → Bool) (revokedAt : ℤ),
      ExtensionTables (s.revokeWhere p revokedAt) := by
    intro p revokedAt
    refine { h with sessions_lt := ?_ }
    intro x hx
    obtain ⟨y, hy, rfl⟩ := ExtensionStore.mem_revokeWhere.mp hx
    rw [ExtensionStore.revoke_ids]
    exact h.sessions_lt y hy
  have heff := call.exec_effect s
  generalize (call.exec s).2 = s' at heff
  cases heff with
  | revokeActive => exact hrevoke _ _
  | revoke => exact hrevoke _ _
  | @update input i hfound =>
    have hids : (s.updateInstallation input).installations.map (fun i => i.id) =
        s.installations.map (fun i => i.id) := by
      simp only [ExtensionStore.updateInstallation, List.map_map]
      exact List.map_congr_left fun j _ => (ExtensionStore.update_ids input j).1
    have hnames : (s.updateInstallation input).installations.map (fun i => i.installationId) =
        s.installations.map (fun i => i.installationId) := by
      simp only [ExtensionStore.updateInstallation, List.map_map]
      exact List.map_congr_left fun j _ => (ExtensionStore.update_ids input j).2
    refine ⟨by rw [hids]; exact h.ids, by rw [hnames]; exact h.names, ?_, h.sessions_lt⟩
    intro j hj
    obtain ⟨j', hj', rfl⟩ := ExtensionStore.mem_updateInstallation.mp hj
    rw [(ExtensionStore.update_ids input j').1]
    exact h.ids_lt j' hj'
  | @insert input hnone =>
    constructor
    · have hnew : ∀ i ∈ s.installations, i.id ≠ s.fresh := by
        intro i hi
        exact Nat.ne_of_lt (h.ids_lt i hi)
      have hnodup : (s.installations.map (fun i => i.id) ++ [s.fresh]).Nodup := by
        simpa [List.nodup_append] using ⟨h.ids, hnew⟩
      simpa [ExtensionStore.insertInstallation] using hnodup
    · have hnew : ∀ i ∈ s.installations, i.installationId ≠ input.installationId := by
        intro i hi heq
        have hfind := List.find?_eq_none.mp hnone i hi
        simp [heq] at hfind
      have hnodup : (s.installations.map (fun i => i.installationId) ++
          [input.installationId]).Nodup := by
        simpa [List.nodup_append] using ⟨h.names, hnew⟩
      simpa [ExtensionStore.insertInstallation] using hnodup
    · intro i hi
      rcases List.mem_append.mp hi with hold | hnew
      · exact Nat.lt_succ_of_lt (h.ids_lt i hold)
      rw [List.mem_singleton] at hnew
      rw [hnew]
      exact Nat.lt_succ_self _
    · intro x hx
      exact Nat.lt_succ_of_lt (h.sessions_lt x hx)
  | @create data i hfound hfree =>
    refine ⟨h.ids, h.names, ?_, ?_⟩
    · intro j hj
      exact Nat.lt_succ_of_lt (h.ids_lt j hj)
    intro x hx
    rcases List.mem_append.mp hx with hold | hnew
    · exact Nat.lt_succ_of_lt (h.sessions_lt x hold)
    rw [List.mem_singleton] at hnew
    obtain ⟨hmem, hid⟩ := ExtensionStore.mem_of_installationById hfound
    rw [hnew]
    rw [← hid]
    exact Nat.lt_succ_of_lt (h.ids_lt i hmem)
  | _ => exact h

end QuizMind
