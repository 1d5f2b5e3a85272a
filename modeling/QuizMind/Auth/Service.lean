import QuizMind.Auth.Store

/-! # `AuthService`

`login`, `refresh`, `logoutAll` and `resetPassword` as programs over the
repository calls. The readings of the clock, the random refresh token and the
salt of a password hash are part of a request. The user of `logoutAll` is the
one its access token was resolved to.
-/

namespace QuizMind

open Async

/-- What an access token says. -/
structure AccessTokenClaims where
  userId : String
  email : String
  roles : List SystemRole
  sessionId : ℕ

inductive RuntimeMode where
  | mock
  | connected
  deriving DecidableEq

/-- The settings, and the parts of the platform the service uses: lower case,
the keyed hash of opaque tokens, the password hash and its check, and the
signature of access tokens. -/
structure AuthEnv where
  runtimeMode : RuntimeMode
  toLowerCase : String → String
  hashOpaqueToken : String → String
  hashPassword : String → String → String
  verifyPassword : String → String → Bool
  signAccessToken : AccessTokenClaims → ℤ → ℤ → String

/-! ## Reading a request -/

def assertConnectedMode (env : AuthEnv) : Except Exception Unit :=
  if env.runtimeMode ≠ .connected then
    .error (.serviceUnavailable "Real auth requires QUIZMIND_RUNTIME_MODE=connected.")
  else
    .ok ()

/-- `none` stands for an email that is no string. -/
def normalizeEmail (env : AuthEnv) : Option String → Except Exception String
  | none => .error (.badRequest "A valid email address is required.")
  | some email => .ok (env.toLowerCase (jsTrim email))

def minPasswordLength : ℕ := 8

def assertPasswordPolicy (password : String) : Except Exception Unit :=
  if jsLength password < minPasswordLength then
    .error (.error s!"Password must be at least {minPasswordLength} characters long.")
  else
    .ok ()

/-! ## Issuing a session -/

/-- The random token and the clock of a new session: when it is created and
when its access token is issued. -/
structure FreshSession where
  refreshToken : String
  createdAt : ℤ
  issuedAt : ℤ

structure AuthSessionUser where
  id : String
  email : String
  displayName : Option String
  systemRoles : List SystemRole
  emailVerifiedAt : Option ℤ

structure AuthSessionPayload where
  accessToken : String
  refreshToken : String
  expiresAt : ℤ
  user : AuthSessionUser

def getAccessTokenLifetimeMinutes : AuthProg ℕ :=
  tryCatch (do
      let policy ← auth .retentionPolicyFind
      return policy.accessTokenLifetimeMinutes)
    (fun _ => return accessTokenLifetimeMinutes)

def getRefreshTokenLifetimeDays : AuthProg ℕ :=
  tryCatch (do
      let policy ← auth .retentionPolicyFind
      return policy.refreshTokenLifetimeDays)
    (fun _ => return refreshTokenLifetimeDays)

/-- The row of a new session. -/
def createSessionInput (env : AuthEnv) (fresh : FreshSession) (userId : String)
    (refreshTokenLifetimeDays : ℕ) : CreateSessionInput where
  userId := userId
  tokenHash := env.hashOpaqueToken fresh.refreshToken
  expiresAt := fresh.createdAt + refreshTokenLifetimeDays * 24 * 60 * 60 * 1000

def sessionPayload (env : AuthEnv) (fresh : FreshSession) (user : AuthUser) (sessionId : ℕ)
    (expiresInMinutes : ℕ) : AuthSessionPayload :=
  let expiresAt := fresh.issuedAt + expiresInMinutes * 60 * 1000
  { accessToken := env.signAccessToken
      { userId := user.id
        email := user.email
        roles := user.systemRoles
        sessionId := sessionId } fresh.issuedAt expiresAt
    refreshToken := fresh.refreshToken
    expiresAt := expiresAt
    user :=
      { id := user.id
        email := user.email
        displayName := user.displayName
        systemRoles := user.systemRoles
        emailVerifiedAt := user.emailVerifiedAt } }

def issueSession (env : AuthEnv) (fresh : FreshSession) (user : AuthUser) :
    AuthProg (AuthSessionRecord × AuthSessionPayload) := do
  let refreshTokenLifetimeDays ← getRefreshTokenLifetimeDays
  let accessTokenLifetimeMinutes ← getAccessTokenLifetimeMinutes
  let session ← auth (.sessionCreate
    (createSessionInput env fresh user.id refreshTokenLifetimeDays))
  return (session, sessionPayload env fresh user session.id accessTokenLifetimeMinutes)

/-! ## The handlers -/

structure AuthLoginRequest where
  email : Option String
  password : String
  now : ℤ
  fresh : FreshSession

/-- The checks of `login` on the user found by email. -/
def checkCredentials (env : AuthEnv) (password : String) :
    Option AuthUser → Except Exception AuthUser
  | none => .error (.unauthorized "Invalid email or password.")
  | some user =>
    match user.passwordHash with
    | none => .error (.unauthorized "Invalid email or password.")
    | some passwordHash =>
      if user.suspendedAt.isSome then
        .error (.unauthorized "This account is currently suspended.")
      else if env.verifyPassword password passwordHash then
        .ok user
      else
        .error (.unauthorized "Invalid email or password.")

structure AuthExchangePayload where
  session : AuthSessionPayload
  emailVerifiedAt : Option ℤ

def login (env : AuthEnv) (request : AuthLoginRequest) : AuthProg AuthExchangePayload := do
  let _ ← Prog.ofExcept (assertConnectedMode env)
  let email ← Prog.ofExcept (normalizeEmail env request.email)
  let found ← auth (.userFindByEmail email)
  let user ← Prog.ofExcept (checkCredentials env request.password found)
  let userWithLastLogin ← auth (.userTouchLastLogin user.id request.now)
  let sessionResult ← issueSession env request.fresh userWithLastLogin
  return { session := sessionResult.2
           emailVerifiedAt := userWithLastLogin.emailVerifiedAt }

structure AuthRefreshRequest where
  refreshToken : String
  now : ℤ
  revokedAt : ℤ
  fresh : FreshSession

/-- The check of `refresh` on the session found by its token. -/
def requireSession : Option AuthSessionRecord → Except Exception AuthSessionRecord
  | none => .error (.unauthorized "Invalid refresh token.")
  | some currentSession => .ok currentSession

def refresh (env : AuthEnv) (request : AuthRefreshRequest) : AuthProg AuthSessionPayload := do
  let _ ← Prog.ofExcept (assertConnectedMode env)
  let found ← auth (.sessionFindActive (env.hashOpaqueToken request.refreshToken) request.now)
  let currentSession ← Prog.ofExcept (requireSession found)
  let _ ← auth (.sessionRevoke currentSession.id request.revokedAt)
  let sessionResult ← issueSession env request.fresh currentSession.user
  return sessionResult.2

def logoutAll (env : AuthEnv) (userId : String) (revokedAt : ℤ) : AuthProg ℕ := do
  let _ ← Prog.ofExcept (assertConnectedMode env)
  auth (.sessionRevokeAllForUser userId revokedAt)

structure AuthResetPasswordRequest where
  token : Option String
  password : String
  salt : String
  now : ℤ
  resetAt : ℤ
  fresh : FreshSession

def readResetToken (token : Option String) : Except Exception String :=
  match token with
  | none => .error (.badRequest "Password reset token is required.")
  | some token =>
    if jsTrim token = "" then
      .error (.badRequest "Password reset token is required.")
    else
      .ok (jsTrim token)

/-- The check of `resetPassword` on the reset found by its token. -/
def requireReset : Option PasswordReset → Except Exception PasswordReset
  | none => .error (.unauthorized "Invalid or expired password reset token.")
  | some passwordReset => .ok passwordReset

/-- The checks of `resetPassword` on its user. -/
def requireResettable : Option AuthUser → Except Exception AuthUser
  | none => .error (.unauthorized "Invalid or expired password reset token.")
  | some user =>
    if user.passwordHash.isNone then
      .error (.unauthorized "Invalid or expired password reset token.")
    else if user.suspendedAt.isSome then
      .error (.unauthorized "This account is currently suspended.")
    else
      .ok user

structure AuthResetPasswordResult where
  session : AuthSessionPayload
  resetAt : ℤ

def resetPassword (env : AuthEnv) (request : AuthResetPasswordRequest) :
    AuthProg AuthResetPasswordResult := do
  let _ ← Prog.ofExcept (assertConnectedMode env)
  let token ← Prog.ofExcept (readResetToken request.token)
  let _ ← Prog.ofExcept (assertPasswordPolicy request.password)
  let found ← auth (.resetFindActive (env.hashOpaqueToken token) request.now)
  let passwordReset ← Prog.ofExcept (requireReset found)
  let foundUser ← auth (.userFindById passwordReset.userId)
  let user ← Prog.ofExcept (requireResettable foundUser)
  let _ ← auth (.resetMarkUsed passwordReset.id request.resetAt)
  let updatedUser ← auth (.userSetPassword user.id (env.hashPassword request.password request.salt))
  let _ ← auth (.sessionRevokeAllForUser user.id request.resetAt)
  let sessionResult ← issueSession env request.fresh updatedUser
  return { session := sessionResult.2
           resetAt := request.resetAt }

/-! ## The system -/

inductive AuthRequest where
  | login (request : AuthLoginRequest)
  | refresh (request : AuthRefreshRequest)
  | logoutAll (userId : String) (revokedAt : ℤ)
  | resetPassword (request : AuthResetPasswordRequest)

inductive AuthReply where
  | loggedIn (payload : AuthExchangePayload)
  | refreshed (payload : AuthSessionPayload)
  | loggedOutAll (revokedCount : ℕ)
  | passwordReset (result : AuthResetPasswordResult)

def authCode (env : AuthEnv) : AuthRequest → AuthProg AuthReply
  | .login request => do return .loggedIn (← login env request)
  | .refresh request => do return .refreshed (← refresh env request)
  | .logoutAll userId revokedAt => do return .loggedOutAll (← logoutAll env userId revokedAt)
  | .resetPassword request => do return .passwordReset (← resetPassword env request)

/-- Any number of requests, interleaved call by call. -/
def authMachine (env : AuthEnv) :
    Machine AuthCall AuthCall.Res Exception AuthReply AuthStore AuthRequest where
  exec := AuthCall.exec
  code := authCode env

abbrev AuthSnapshot := Snapshot AuthCall AuthCall.Res Exception AuthReply AuthStore AuthRequest

end QuizMind
