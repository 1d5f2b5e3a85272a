import QuizMind.Auth.Service

/-! # The calls of each request

Each handler makes its calls in one order. The inductive predicates below list,
for every call, what the handler has been told before it; `authCode_upholds`
says that the handlers keep to them.
-/

namespace QuizMind

open Async
open Prog (upholds_await_bind upholds_bind upholds_ofExcept_bind)

abbrev AuthTold := Told AuthCall AuthCall.Res Exception

/-- What holds of every answer of the repositories. -/
def honest : (call : AuthCall) → Except Exception call.Res → Prop
  | .userFindById id, r => ∀ user, r = .ok (some user) → user.id = id
  | .userTouchLastLogin id _, r => ∀ user, r = .ok user → user.id = id
  | .userSetPassword id _, r => ∀ user, r = .ok user → user.id = id
  | .sessionFindActive tokenHash _, r => ∀ record, r = .ok (some record) →
      record.tokenHash = tokenHash ∧ record.user.id = record.userId
  | .resetFindActive tokenHash _, r => ∀ reset, r = .ok (some reset) →
      reset.tokenHash = tokenHash
  | _, _ => True

theorem exec_honest (call : AuthCall) (s : AuthStore) : honest call (call.exec s).1 := by
  have heff := call.exec_effect s
  generalize (call.exec s).1 = r at heff
  generalize (call.exec s).2 = s' at heff
  cases heff with
  | findById hfound =>
    intro user huser
    exact hfound user (Except.ok.inj huser)
  | touch hid =>
    intro user huser
    rw [← Except.ok.inj huser]
    exact hid
  | setPassword hid =>
    intro user huser
    rw [← Except.ok.inj huser]
    exact hid
  | findReset hfound =>
    intro reset hreset
    exact (hfound reset (Except.ok.inj hreset)).2.1
  | findSession hfound =>
    intro record hrec
    obtain ⟨-, hhash, -, huser⟩ := hfound record (Except.ok.inj hrec)
    exact ⟨hhash, huser⟩
  | touchFails =>
    intro user huser
    cases huser
  | setPasswordFails =>
    intro user huser
    cases huser
  | _ => trivial

theorem fail_honest (call : AuthCall) (e : Exception) : honest call (.error e) := by
  cases call with
  | userFindById id =>
    intro user huser
    cases huser
  | userTouchLastLogin id lastLoginAt =>
    intro user huser
    cases huser
  | userSetPassword id passwordHash =>
    intro user huser
    cases huser
  | sessionFindActive tokenHash now =>
    intro record hrec
    cases hrec
  | resetFindActive tokenHash now =>
    intro reset hreset
    cases hreset
  | _ => trivial

/-! ## Calls -/

/-- The calls that issue a session for the user, after the calls `h`. -/
inductive IssueCall (h : List AuthTold) (userId : String) : List AuthTold → AuthCall → Prop where
  | days : IssueCall h userId h .retentionPolicyFind
  | minutes {days : Except Exception RetentionPolicy} :
      IssueCall h userId (h ++ [⟨.retentionPolicyFind, days⟩]) .retentionPolicyFind
  | create {days minutes : Except Exception RetentionPolicy} {data : CreateSessionInput}
      (huser : data.userId = userId) :
      IssueCall h userId (h ++ [⟨.retentionPolicyFind, days⟩, ⟨.retentionPolicyFind, minutes⟩])
        (.sessionCreate data)

/-- The calls after which a session has been issued. -/
def Issued (h : List AuthTold) (userId : String) (h' : List AuthTold) : Prop :=
  ∃ days minutes data record, data.userId = userId ∧
    h' = h ++ [⟨.retentionPolicyFind, days⟩, ⟨.retentionPolicyFind, minutes⟩,
      ⟨.sessionCreate data, .ok record⟩]

/-- A `login` up to its last check. -/
def loggedIn (email : String) (now : ℤ) (user updated : AuthUser) : List AuthTold :=
  [⟨.userFindByEmail email, .ok (some user)⟩, ⟨.userTouchLastLogin user.id now, .ok updated⟩]

inductive LoginCall (env : AuthEnv) (request : AuthLoginRequest) :
    List AuthTold → AuthCall → Prop where
  | find {email : String} : LoginCall env request [] (.userFindByEmail email)
  | touch {email : String} {user : AuthUser}
      (hvalid : checkCredentials env request.password (some user) = .ok user) :
      LoginCall env request [⟨.userFindByEmail email, .ok (some user)⟩]
        (.userTouchLastLogin user.id request.now)
  | issue {email : String} {user updated : AuthUser} {h : List AuthTold} {call : AuthCall}
      (hvalid : checkCredentials env request.password (some user) = .ok user)
      (hcall : IssueCall (loggedIn email request.now user updated) user.id h call) :
      LoginCall env request h call

/-- A `refresh` that has revoked the presented session. -/
def exchanged (env : AuthEnv) (request : AuthRefreshRequest) (record : AuthSessionRecord)
    (revoked : AuthSession) : List AuthTold :=
  [⟨.sessionFindActive (env.hashOpaqueToken request.refreshToken) request.now, .ok (some record)⟩,
    ⟨.sessionRevoke record.id request.revokedAt, .ok revoked⟩]

inductive RefreshCall (env : AuthEnv) (request : AuthRefreshRequest) :
    List AuthTold → AuthCall → Prop where
  | find : RefreshCall env request []
      (.sessionFindActive (env.hashOpaqueToken request.refreshToken) request.now)
  | revoke {record : AuthSessionRecord} : RefreshCall env request
      [⟨.sessionFindActive (env.hashOpaqueToken request.refreshToken) request.now,
        .ok (some record)⟩] (.sessionRevoke record.id request.revokedAt)
  | issue {record : AuthSessionRecord} {revoked : AuthSession} {h : List AuthTold}
      {call : AuthCall} (huser : record.user.id = record.userId)
      (hcall : IssueCall (exchanged env request record revoked) record.userId h call) :
      RefreshCall env request h call

/-- A `resetPassword` that has found its reset and its user. -/
def resettable (env : AuthEnv) (request : AuthResetPasswordRequest) (token : String)
    (reset : PasswordReset) (user : AuthUser) : List AuthTold :=
  [⟨.resetFindActive (env.hashOpaqueToken token) request.now, .ok (some reset)⟩,
    ⟨.userFindById reset.userId, .ok (some user)⟩]

/-- A `resetPassword` that has used its reset. -/
def used (env : AuthEnv) (request : AuthResetPasswordRequest) (token : String)
    (reset : PasswordReset) (user : AuthUser) (row : PasswordReset) : List AuthTold :=
  resettable env request token reset user ++ [⟨.resetMarkUsed reset.id request.resetAt, .ok row⟩]

/-- A `resetPassword` that has changed the password. -/
def changed (env : AuthEnv) (request : AuthResetPasswordRequest) (token : String)
    (reset : PasswordReset) (user : AuthUser) (row : PasswordReset) (updated : AuthUser) :
    List AuthTold :=
  used env request token reset user row ++
    [⟨.userSetPassword reset.userId (env.hashPassword request.password request.salt), .ok updated⟩]

/-- A `resetPassword` that has revoked the sessions. -/
def revokedAll (env : AuthEnv) (request : AuthResetPasswordRequest) (token : String)
    (reset : PasswordReset) (user : AuthUser) (row : PasswordReset) (updated : AuthUser)
    (count : ℕ) : List AuthTold :=
  changed env request token reset user row updated ++
    [⟨.sessionRevokeAllForUser reset.userId request.resetAt, .ok count⟩]

inductive ResetCall (env : AuthEnv) (request : AuthResetPasswordRequest) :
    List AuthTold → AuthCall → Prop where
  | find {token : String} (htoken : readResetToken request.token = .ok token) :
      ResetCall env request [] (.resetFindActive (env.hashOpaqueToken token) request.now)
  | user {token : String} {reset : PasswordReset} : ResetCall env request
      [⟨.resetFindActive (env.hashOpaqueToken token) request.now, .ok (some reset)⟩]
      (.userFindById reset.userId)
  | markUsed {token : String} {reset : PasswordReset} {user : AuthUser}
      (htoken : readResetToken request.token = .ok token) :
      ResetCall env request (resettable env request token reset user)
        (.resetMarkUsed reset.id request.resetAt)
  | setPassword {token : String} {reset row : PasswordReset} {user : AuthUser}
      (htoken : readResetToken request.token = .ok token) :
      ResetCall env request (used env request token reset user row)
        (.userSetPassword reset.userId (env.hashPassword request.password request.salt))
  | revokeAll {token : String} {reset row : PasswordReset} {user updated : AuthUser} :
      ResetCall env request (changed env request token reset user row updated)
        (.sessionRevokeAllForUser reset.userId request.resetAt)
  | issue {token : String} {reset row : PasswordReset} {user updated : AuthUser} {count : ℕ}
      {h : List AuthTold} {call : AuthCall}
      (hcall : IssueCall (revokedAll env request token reset user row updated count)
        reset.userId h call) : ResetCall env request h call

/-- What a request calls, given what it has been told. -/
def Calls (env : AuthEnv) : AuthRequest → List AuthTold → AuthCall → Prop
  | .login request, h, call => LoginCall env request h call
  | .refresh request, h, call => RefreshCall env request h call
  | .logoutAll userId revokedAt, h, call =>
    h = [] ∧ call = .sessionRevokeAllForUser userId revokedAt
  | .resetPassword request, h, call => ResetCall env request h call

/-- What a request has been told when it returns. -/
def Returns (env : AuthEnv) : AuthRequest → List AuthTold → AuthReply → Prop
  | .login request, h, _ => ∃ email user updated,
      Issued (loggedIn email request.now user updated) user.id h
  | .refresh request, h, _ => ∃ record revoked,
      Issued (exchanged env request record revoked) record.userId h
  | .logoutAll userId revokedAt, h, _ => ∃ count,
      h = [⟨.sessionRevokeAllForUser userId revokedAt, .ok count⟩]
  | .resetPassword request, h, reply => ∃ token reset row user updated count result,
      readResetToken request.token = .ok token ∧
      Issued (revokedAll env request token reset user row updated count) reset.userId h ∧
      reply = .passwordReset result ∧ result.session.user.id = reset.userId

/-! ## The handlers keep to them -/

section Handlers

variable {env : AuthEnv} {G : List AuthTold → AuthCall → Prop} {h : List AuthTold}

variable {user : AuthUser}

theorem issueSession_upholds {fresh : FreshSession}
    (hG : ∀ h' call, IssueCall h user.id h' call → G h' call) :
    (issueSession env fresh user).Upholds honest G
      (fun h' a => Issued h user.id h' ∧ a.2.user.id = user.id) h := by
  have hcreate : ∀ days minutes : Except Exception RetentionPolicy, ∀ n m : ℕ, (do
        let session ← auth (.sessionCreate (createSessionInput env fresh user.id n))
        return (session, sessionPayload env fresh user session.id m) :
          AuthProg (AuthSessionRecord × AuthSessionPayload)).Upholds honest G
        (fun h' a => Issued h user.id h' ∧ a.2.user.id = user.id)
        (h ++ [⟨.retentionPolicyFind, days⟩, ⟨.retentionPolicyFind, minutes⟩]) := by
    intro days minutes n m
    refine upholds_await_bind (hG _ _ (.create rfl)) ?_
    intro record _
    refine ⟨⟨days, minutes, createSessionInput env fresh user.id n, record, rfl, ?_⟩, rfl⟩
    simp
  have hminutes : ∀ days : Except Exception RetentionPolicy, ∀ n : ℕ, (do
        let accessTokenLifetimeMinutes ← getAccessTokenLifetimeMinutes
        let session ← auth (.sessionCreate (createSessionInput env fresh user.id n))
        return (session, sessionPayload env fresh user session.id accessTokenLifetimeMinutes) :
          AuthProg (AuthSessionRecord × AuthSessionPayload)).Upholds honest G
        (fun h' a => Issued h user.id h' ∧ a.2.user.id = user.id)
        (h ++ [⟨.retentionPolicyFind, days⟩]) := by
    intro days n
    refine ⟨hG _ _ .minutes, ?_⟩
    intro minutes _
    rw [List.append_assoc]
    cases minutes with
    | ok policy => exact hcreate days (.ok policy) n _
    | error e => exact hcreate days (.error e) n _
  refine ⟨hG _ _ .days, ?_⟩
  intro days _
  cases days with
  | ok policy => exact hminutes (.ok policy) _
  | error e => exact hminutes (.error e) _

variable {found : Option AuthUser}

theorem checkCredentials_ok {password : String}
    (h : checkCredentials env password found = .ok user) : found = some user := by
  cases found with
  | none => cases h
  | some found => grind [checkCredentials]

theorem checkCredentials_verified {password : String}
    (h : checkCredentials env password (some user) = .ok user) :
    ∃ passwordHash, user.passwordHash = some passwordHash ∧
      env.verifyPassword password passwordHash := by grind [checkCredentials]

theorem requireResettable_ok (h : requireResettable found = .ok user) : found = some user := by
  cases found with
  | none => cases h
  | some found => grind [requireResettable]

theorem login_upholds (request : AuthLoginRequest) :
    (login env request).Upholds honest (LoginCall env request)
      (fun h _ => Returns env (.login request) h (.loggedOutAll 0)) [] := by
  refine upholds_ofExcept_bind fun _ _ => ?_
  refine upholds_ofExcept_bind fun email _ => ?_
  refine upholds_await_bind .find ?_
  intro found _
  refine upholds_ofExcept_bind ?_
  intro user hvalid
  obtain rfl := checkCredentials_ok hvalid
  refine upholds_await_bind (.touch hvalid) ?_
  intro updated hupd
  have hid : updated.id = user.id := hupd updated rfl
  refine upholds_bind (issueSession_upholds ?_) ?_
  · intro h' call hcall
    rw [hid] at hcall
    exact .issue hvalid hcall
  intro h' a ha
  rw [hid] at ha
  exact ⟨email, user, updated, ha.1⟩

theorem refresh_upholds (request : AuthRefreshRequest) :
    (refresh env request).Upholds honest (RefreshCall env request)
      (fun h _ => Returns env (.refresh request) h (.loggedOutAll 0)) [] := by
  refine upholds_ofExcept_bind fun _ _ => ?_
  refine upholds_await_bind .find ?_
  intro found hfound
  refine upholds_ofExcept_bind ?_
  intro record hrec
  obtain rfl : found = some record := by
    cases found with
    | none => cases hrec
    | some found => rw [Except.ok.inj hrec]
  have hid : record.user.id = record.userId := (hfound record rfl).2
  refine upholds_await_bind .revoke ?_
  intro revoked _
  refine upholds_bind (issueSession_upholds ?_) ?_
  · intro h' call hcall
    rw [hid] at hcall
    exact .issue hid hcall
  intro h' a ha
  rw [hid] at ha
  exact ⟨record, revoked, ha.1⟩

theorem resetPassword_upholds (request : AuthResetPasswordRequest) :
    (resetPassword env request).Upholds honest (ResetCall env request)
      (fun h result => Returns env (.resetPassword request) h (.passwordReset result)) [] := by
  refine upholds_ofExcept_bind fun _ _ => ?_
  refine upholds_ofExcept_bind fun token htok => ?_
  refine upholds_ofExcept_bind fun _ _ => ?_
  refine upholds_await_bind (.find htok) ?_
  intro found _
  refine upholds_ofExcept_bind ?_
  intro reset hreset
  obtain rfl : found = some reset := by
    cases found with
    | none => cases hreset
    | some found => rw [Except.ok.inj hreset]
  refine upholds_await_bind .user ?_
  intro foundUser hfoundUser
  refine upholds_ofExcept_bind ?_
  intro user huser
  obtain rfl := requireResettable_ok huser
  have hid : user.id = reset.userId := hfoundUser user rfl
  rw [hid]
  refine upholds_await_bind (.markUsed htok) ?_
  intro row _
  refine upholds_await_bind (.setPassword htok) ?_
  intro updated hupd
  have hid' : updated.id = reset.userId := hupd updated rfl
  refine upholds_await_bind .revokeAll ?_
  intro count _
  refine upholds_bind (issueSession_upholds ?_) ?_
  · intro h' call hcall
    rw [hid'] at hcall
    exact .issue hcall
  intro h' a ha
  rw [hid'] at ha
  exact ⟨token, reset, row, user, updated, count, _, htok, ha.1, rfl, ha.2⟩

theorem authCode_upholds (env : AuthEnv) (request : AuthRequest) :
    (authCode env request).Upholds honest (Calls env request) (Returns env request) [] := by
  cases request with
  | login request => exact upholds_bind (login_upholds request) fun _ _ h => h
  | refresh request => exact upholds_bind (refresh_upholds request) fun _ _ h => h
  | resetPassword request => exact upholds_bind (resetPassword_upholds request) fun _ _ h => h
  | logoutAll userId revokedAt =>
    show (logoutAll env userId revokedAt >>= fun count =>
      pure (AuthReply.loggedOutAll count)).Upholds _ _ _ _
    rw [logoutAll, Prog.bind_assoc]
    refine upholds_ofExcept_bind fun _ _ => ?_
    refine upholds_await_bind ⟨rfl, rfl⟩ ?_
    intro count _
    exact ⟨count, rfl⟩

/-- A run of the system keeps to the calls of its requests. -/
abbrev AuthKept (env : AuthEnv) : AuthSnapshot → Prop :=
  Machine.Kept honest (Calls env) (Returns env)

theorem AuthKept.next {s s' : AuthSnapshot} {l : Label Exception AuthRequest}
    (hnext : (authMachine env).next l s = some s') (h : AuthKept env s) : AuthKept env s' :=
  Machine.Kept.next exec_honest fail_honest (authCode_upholds env) hnext h

end Handlers

end QuizMind
