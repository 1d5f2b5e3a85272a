import QuizMind.Async.History
import QuizMind.Runtime

/-! # Users, their sessions and their password resets

The tables `User`, `Session` and `PasswordReset` and the repository calls on
them, each of them atomic. Of a session the columns that are only shown to the
user (`ipAddress`, `userAgent`, `browser`, `deviceName`, `createdAt`) are left
out.
-/

namespace QuizMind

open Async

/-! ## Rows -/

inductive SystemRole where
  | admin
  deriving DecidableEq

structure AuthUser where
  id : String
  email : String
  passwordHash : Option String
  emailVerifiedAt : Option ℤ
  displayName : Option String
  suspendedAt : Option ℤ
  lastLoginAt : Option ℤ
  systemRoles : List SystemRole
  deriving DecidableEq

/-- The data of a session to insert. -/
structure CreateSessionInput where
  userId : String
  tokenHash : String
  expiresAt : ℤ
  deriving DecidableEq

structure AuthSession extends CreateSessionInput where
  id : ℕ
  revokedAt : Option ℤ
  deriving DecidableEq

/-- A session row with its user, as it is at the time of the query. -/
structure AuthSessionRecord extends AuthSession where
  user : AuthUser

structure PasswordReset where
  id : ℕ
  userId : String
  tokenHash : String
  expiresAt : ℤ
  usedAt : Option ℤ
  deriving DecidableEq

/-- The part of the retention policy that the sessions depend on. -/
structure RetentionPolicy where
  accessTokenLifetimeMinutes : ℕ
  refreshTokenLifetimeDays : ℕ

def accessTokenLifetimeMinutes : ℕ := 15

def refreshTokenLifetimeDays : ℕ := 30

def defaultRetentionPolicy : RetentionPolicy where
  accessTokenLifetimeMinutes := accessTokenLifetimeMinutes
  refreshTokenLifetimeDays := refreshTokenLifetimeDays

structure AuthStore where
  users : List AuthUser
  sessions : List AuthSession
  passwordResets : List PasswordReset
  retentionPolicy : Option RetentionPolicy
  fresh : ℕ

/-- `revokedAt` is null and `expiresAt` is after `now`. -/
def AuthSession.active (session : AuthSession) (now : ℤ) : Bool :=
  session.revokedAt.isNone && now < session.expiresAt

/-- `usedAt` is null and `expiresAt` is after `now`. -/
def PasswordReset.active (reset : PasswordReset) (now : ℤ) : Bool :=
  reset.usedAt.isNone && now < reset.expiresAt

namespace AuthStore

def userById (s : AuthStore) (id : String) : Option AuthUser :=
  s.users.find? (fun user => user.id == id)

/-- A session row with its user. -/
def withUser (s : AuthStore) (session : AuthSession) : Option AuthSessionRecord :=
  (s.userById session.userId).map (fun user => { session with user := user })

/-- The tables after a change of one user. -/
def updateUser (s : AuthStore) (id : String) (f : AuthUser → AuthUser) : AuthStore :=
  { s with users := s.users.map (fun user => if user.id = id then f user else user) }

/-- The tables after a change of the sessions that satisfy `p`. -/
def revokeWhere (s : AuthStore) (p : AuthSession → Bool) (revokedAt : ℤ) : AuthStore :=
  { s with sessions := s.sessions.map (fun x =>
      if p x then { x with revokedAt := some revokedAt } else x) }

def useReset (s : AuthStore) (id : ℕ) (usedAt : ℤ) : AuthStore :=
  { s with passwordResets := s.passwordResets.map (fun x =>
      if x.id = id then { x with usedAt := some usedAt } else x) }

def insertSession (s : AuthStore) (data : CreateSessionInput) : AuthStore :=
  { s with
    sessions := s.sessions ++ [{ data with id := s.fresh, revokedAt := none }]
    fresh := s.fresh + 1 }

end AuthStore

/-! ## Calls -/

/-- The calls of the handlers. `retentionPolicyFind` is
`getEffectiveRetentionPolicy`. -/
inductive AuthCall where
  | retentionPolicyFind
  | userFindByEmail (email : String)
  | userFindById (id : String)
  | userTouchLastLogin (id : String) (lastLoginAt : ℤ)
  | userSetPassword (id : String) (passwordHash : String)
  | resetFindActive (tokenHash : String) (now : ℤ)
  | resetMarkUsed (id : ℕ) (usedAt : ℤ)
  | sessionFindActive (tokenHash : String) (now : ℤ)
  | sessionCreate (data : CreateSessionInput)
  | sessionRevoke (id : ℕ) (revokedAt : ℤ)
  | sessionRevokeAllForUser (userId : String) (revokedAt : ℤ)

abbrev AuthCall.Res : AuthCall → Type
  | .retentionPolicyFind => RetentionPolicy
  | .userFindByEmail _ => Option AuthUser
  | .userFindById _ => Option AuthUser
  | .userTouchLastLogin _ _ => AuthUser
  | .userSetPassword _ _ => AuthUser
  | .resetFindActive _ _ => Option PasswordReset
  | .resetMarkUsed _ _ => PasswordReset
  | .sessionFindActive _ _ => Option AuthSessionRecord
  | .sessionCreate _ => AuthSessionRecord
  | .sessionRevoke _ _ => AuthSession
  | .sessionRevokeAllForUser _ _ => ℕ

/-- `UserRepository.update`. -/
def AuthStore.userUpdate (s : AuthStore) (id : String) (f : AuthUser → AuthUser) :
    Except Exception AuthUser × AuthStore :=
  match s.userById id with
  | none => (.error (.prisma "P2025"), s)
  | some user => (.ok (f user), s.updateUser id f)

/-- What each call does, atomically. -/
def AuthCall.exec : (call : AuthCall) → AuthStore → Except Exception call.Res × AuthStore
  | .retentionPolicyFind, s => (.ok (s.retentionPolicy.getD defaultRetentionPolicy), s)
  | .userFindByEmail email, s => (.ok (s.users.find? (fun user => user.email == email)), s)
  | .userFindById id, s => (.ok (s.userById id), s)
  | .userTouchLastLogin id lastLoginAt, s =>
    s.userUpdate id (fun user => { user with lastLoginAt := some lastLoginAt })
  | .userSetPassword id passwordHash, s =>
    s.userUpdate id (fun user => { user with passwordHash := some passwordHash })
  | .resetFindActive tokenHash now, s =>
    (.ok (s.passwordResets.find? (fun x => x.tokenHash == tokenHash && x.active now)), s)
  | .resetMarkUsed id usedAt, s =>
    match s.passwordResets.find? (fun x => x.id == id) with
    | none => (.error (.prisma "P2025"), s)
    | some x => (.ok { x with usedAt := some usedAt }, s.useReset id usedAt)
  | .sessionFindActive tokenHash now, s =>
    let found := s.sessions.find? (fun x => x.tokenHash == tokenHash && x.active now)
    (.ok (found.bind s.withUser), s)
  | .sessionCreate data, s =>
    match s.userById data.userId with
    | none => (.error (.prisma "P2003"), s)
    | some user =>
      if s.sessions.any (fun x => x.tokenHash == data.tokenHash) then
        (.error (.prisma "P2002"), s)
      else
        let session : AuthSession := { data with id := s.fresh, revokedAt := none }
        (.ok { session with user := user }, s.insertSession data)
  | .sessionRevoke id revokedAt, s =>
    match s.sessions.find? (fun x => x.id == id) with
    | none => (.error (.prisma "P2025"), s)
    | some x =>
      (.ok { x with revokedAt := some revokedAt }, s.revokeWhere (fun x => x.id == id) revokedAt)
  | .sessionRevokeAllForUser userId revokedAt, s =>
    let live : AuthSession → Bool := fun x => x.userId == userId && x.revokedAt.isNone
    (.ok (s.sessions.countP live), s.revokeWhere live revokedAt)

/-- A program over these calls. -/
abbrev AuthProg := Prog AuthCall AuthCall.Res Exception

/-- One call. -/
abbrev auth (call : AuthCall) : AuthProg call.Res := Prog.await call

/-! ## What a call can do -/

/-- Everything a call can answer and do to the tables of sessions and resets. -/
inductive AuthCall.Effect (s : AuthStore) :
    (call : AuthCall) → Except Exception call.Res → AuthStore → Prop where
  | policy {policy : RetentionPolicy} : Effect s .retentionPolicyFind (.ok policy) s
  | findByEmail {email : String} {r : Option AuthUser} (hfound : ∀ user ∈ r, user ∈ s.users) :
      Effect s (.userFindByEmail email) (.ok r) s
  | findById {id : String} {r : Option AuthUser} (hfound : ∀ user ∈ r, user.id = id) :
      Effect s (.userFindById id) (.ok r) s
  | touch {id : String} {lastLoginAt : ℤ} {user : AuthUser} {users : List AuthUser}
      (hid : user.id = id) :
      Effect s (.userTouchLastLogin id lastLoginAt) (.ok user) { s with users := users }
  | touchFails {id : String} {lastLoginAt : ℤ} {e : Exception} :
      Effect s (.userTouchLastLogin id lastLoginAt) (.error e) s
  | setPassword {id passwordHash : String} {user : AuthUser} {users : List AuthUser}
      (hid : user.id = id) :
      Effect s (.userSetPassword id passwordHash) (.ok user) { s with users := users }
  | setPasswordFails {id passwordHash : String} {e : Exception} :
      Effect s (.userSetPassword id passwordHash) (.error e) s
  | findReset {tokenHash : String} {now : ℤ} {r : Option PasswordReset}
      (hfound : ∀ x ∈ r, x ∈ s.passwordResets ∧ x.tokenHash = tokenHash ∧ x.active now) :
      Effect s (.resetFindActive tokenHash now) (.ok r) s
  | markUsed {id : ℕ} {usedAt : ℤ} {x : PasswordReset} :
      Effect s (.resetMarkUsed id usedAt) (.ok x) (s.useReset id usedAt)
  | markUsedFails {id : ℕ} {usedAt : ℤ} {e : Exception} :
      Effect s (.resetMarkUsed id usedAt) (.error e) s
  | findSession {tokenHash : String} {now : ℤ} {r : Option AuthSessionRecord}
      (hfound : ∀ x ∈ r, x.toAuthSession ∈ s.sessions ∧ x.tokenHash = tokenHash ∧
        x.active now ∧ x.user.id = x.userId) :
      Effect s (.sessionFindActive tokenHash now) (.ok r) s
  | create {data : CreateSessionInput} {user : AuthUser}
      (hfree : ∀ x ∈ s.sessions, x.tokenHash ≠ data.tokenHash) :
      Effect s (.sessionCreate data)
        (.ok { data with id := s.fresh, revokedAt := none, user := user }) (s.insertSession data)
  | createFails {data : CreateSessionInput} {e : Exception} :
      Effect s (.sessionCreate data) (.error e) s
  | revoke {id : ℕ} {revokedAt : ℤ} {x : AuthSession} :
      Effect s (.sessionRevoke id revokedAt) (.ok x) (s.revokeWhere (fun x => x.id == id) revokedAt)
  | revokeFails {id : ℕ} {revokedAt : ℤ} {e : Exception} :
      Effect s (.sessionRevoke id revokedAt) (.error e) s
  | revokeAll {userId : String} {revokedAt : ℤ} {count : ℕ} :
      Effect s (.sessionRevokeAllForUser userId revokedAt) (.ok count)
        (s.revokeWhere (fun x => x.userId == userId && x.revokedAt.isNone) revokedAt)

theorem AuthStore.userById_id {s : AuthStore} {id : String} {user : AuthUser}
    (h : s.userById id = some user) : user.id = id := by
  simpa using List.find?_some h

theorem AuthCall.exec_effect (call : AuthCall) (s : AuthStore) :
    call.Effect s (call.exec s).1 (call.exec s).2 := by
  cases call with
  | retentionPolicyFind => exact .policy
  | userFindByEmail email =>
    refine .findByEmail ?_
    intro user huser
    exact List.mem_of_find?_eq_some huser
  | userFindById id =>
    refine .findById ?_
    intro user huser
    exact AuthStore.userById_id huser
  | userTouchLastLogin id lastLoginAt =>
    simp only [AuthCall.exec, AuthStore.userUpdate]
    split
    · exact .touchFails
    rename_i user huser
    have hid : user.id = id := AuthStore.userById_id huser
    exact .touch hid
  | userSetPassword id passwordHash =>
    simp only [AuthCall.exec, AuthStore.userUpdate]
    split
    · exact .setPasswordFails
    rename_i user huser
    have hid : user.id = id := AuthStore.userById_id huser
    exact .setPassword hid
  | resetFindActive tokenHash now =>
    refine .findReset ?_
    intro x hx
    have hmatch := List.find?_some hx
    simp only [Bool.and_eq_true, beq_iff_eq] at hmatch
    exact ⟨List.mem_of_find?_eq_some hx, hmatch.1, hmatch.2⟩
  | resetMarkUsed id usedAt =>
    simp only [AuthCall.exec]
    split
    · exact .markUsedFails
    · exact .markUsed
  | sessionFindActive tokenHash now =>
    refine .findSession ?_
    intro x hx
    obtain ⟨session, hsess, hrec⟩ := Option.bind_eq_some_iff.mp hx
    obtain ⟨user, huser, rfl⟩ := Option.map_eq_some_iff.mp hrec
    have hmatch := List.find?_some hsess
    simp only [Bool.and_eq_true, beq_iff_eq] at hmatch
    exact ⟨List.mem_of_find?_eq_some hsess, hmatch.1, hmatch.2, AuthStore.userById_id huser⟩
  | sessionCreate data =>
    simp only [AuthCall.exec]
    split
    · exact .createFails
    split
    · exact .createFails
    rename_i hused
    refine .create ?_
    intro x hx heq
    exact hused (List.any_eq_true.mpr ⟨x, hx, by simpa using heq⟩)
  | sessionRevoke id revokedAt =>
    simp only [AuthCall.exec]
    split
    · exact .revokeFails
    · exact .revoke
  | sessionRevokeAllForUser userId revokedAt => exact .revokeAll

namespace AuthStore

variable {s : AuthStore}

variable {x : AuthSession} {p : AuthSession → Bool}

/-- A session after a revocation is a session before it. -/
theorem mem_revokeWhere {revokedAt : ℤ} :
    x ∈ (s.revokeWhere p revokedAt).sessions ↔ ∃ y ∈ s.sessions,
      x = if p y then { y with revokedAt := some revokedAt } else y := by
  grind [revokeWhere]

/-- A session that is live after a revocation is as it was before it. -/
theorem live_of_revokeWhere {revokedAt : ℤ}
    (hx : x ∈ (s.revokeWhere p revokedAt).sessions) (hlive : x.revokedAt = none) :
    x ∈ s.sessions ∧ p x = false := by grind [mem_revokeWhere]

/-- A live session was live before the call, or the call has created it. -/
theorem live_exec {call : AuthCall} (hx : x ∈ (call.exec s).2.sessions)
    (hlive : x.revokedAt = none) :
    x ∈ s.sessions ∨ ∃ data record, call = .sessionCreate data ∧
      (AuthCall.exec (.sessionCreate data) s).1 = .ok record ∧ record.toAuthSession = x ∧
      data.userId = x.userId := by
  have heff := call.exec_effect s
  generalize hr : (call.exec s).1 = r at heff
  generalize (call.exec s).2 = s' at heff hx
  cases heff with
  | create hfree =>
    rcases List.mem_append.mp hx with hold | hnew
    · exact Or.inl hold
    · grind
  | revoke => exact Or.inl (live_of_revokeWhere hx hlive).1
  | revokeAll => exact Or.inl (live_of_revokeWhere hx hlive).1
  | _ => exact Or.inl hx

end AuthStore

end QuizMind
