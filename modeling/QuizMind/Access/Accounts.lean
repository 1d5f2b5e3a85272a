import QuizMind.Access.AdminUsers
import QuizMind.Auth.Service
import QuizMind.Extension.Service

/-! # Accounts: users, their sessions and their installations

The requests that authenticate a user, those that change a user, and those of the extension,
over one set of tables. The handlers are those of the parts, each over its own calls.
-/

namespace QuizMind

open Async

structure AccountStore where
  auth : AuthStore
  extension : ExtensionStore

/-! ## Calls -/

/-- The calls of the parts, and `SessionRepository.findById`. -/
inductive AccountCall where
  | auth (call : AuthCall)
  | sessionFindById (id : ℕ)
  | user (call : UserCall)
  | extension (call : ExtensionCall)

abbrev AccountCall.Res : AccountCall → Type
  | .auth call => call.Res
  | .sessionFindById _ => Option AuthSessionRecord
  | .user call => call.Res
  | .extension call => call.Res

/-- The rows that go with a user who is deleted. -/
def AccountStore.cascade (s : AccountStore) (userId : String) : AccountStore :=
  let installations := s.extension.installations.filter fun i => i.userId ≠ userId
  { s with
    auth :=
      { s.auth with
        sessions := s.auth.sessions.filter fun x => x.userId ≠ userId
        passwordResets := s.auth.passwordResets.filter fun x => x.userId ≠ userId }
    extension :=
      { s.extension with
        installations := installations
        sessions := s.extension.sessions.filter fun x =>
          x.userId ≠ userId && installations.any fun i => i.id = x.extensionInstallationId } }

/-- The tables after a call on the users. -/
def AccountStore.afterUserCall (s : AccountStore) (call : UserCall) (users : List AuthUser) :
    AccountStore :=
  let s := { s with auth := { s.auth with users := users } }
  match call with
  | .delete id => s.cascade id
  | _ => s

def AccountCall.exec : (call : AccountCall) → AccountStore →
    Except Exception call.Res × AccountStore
  | .auth call, s =>
    let out := call.exec s.auth
    (out.1, { s with auth := out.2 })
  | .sessionFindById id, s =>
    (.ok ((s.auth.sessions.find? fun x => x.id == id).bind s.auth.withUser), s)
  | .user call, s =>
    let out := call.exec s.auth.users
    match out.1 with
    | .ok r => (.ok r, s.afterUserCall call out.2)
    | .error e => (.error e, s)
  | .extension call, s =>
    let out := call.exec s.extension
    (out.1, { s with extension := out.2 })

abbrev AccountProg := Prog AccountCall AccountCall.Res Exception

abbrev account (call : AccountCall) : AccountProg call.Res := Prog.await call

variable {α : Type}

/-- A handler of a part, over all the calls. -/
def ofAuth (p : AuthProg α) : AccountProg α := p.embed AccountCall.auth fun _ r => r

def ofUser (p : UserProg α) : AccountProg α := p.embed AccountCall.user fun _ r => r

def ofExtension (p : ExtensionProg α) : AccountProg α :=
  p.embed AccountCall.extension fun _ r => r

/-! ## Requests -/

structure AccountEnv where
  auth : AuthEnv
  extension : ExtensionEnv
  /-- What a token says that is signed and not expired at the time. -/
  verifyAccessToken : String → ℤ → Option AccessTokenClaims

def verifyBearerToken (env : AccountEnv) (accessToken : String) (now : ℤ) :
    Except Exception AccessTokenClaims :=
  match env.verifyAccessToken accessToken now with
  | some claims => .ok claims
  | none => .error (.unauthorized "Invalid access token.")

/-- The check of `getCurrentSession` on the session found by its id. -/
def requireActiveSession (now : ℤ) : Option AuthSessionRecord → Except Exception AuthSessionRecord
  | none => .error (.unauthorized "Session is no longer active.")
  | some session =>
    if session.revokedAt.isSome ∨ session.expiresAt ≤ now then
      .error (.unauthorized "Session is no longer active.")
    else
      .ok session

def getCurrentSession (env : AccountEnv) (accessToken : String) (now : ℤ) :
    AccountProg CurrentSessionSnapshot := do
  let _ ← Prog.ofExcept (assertConnectedMode env.auth)
  let claims ← Prog.ofExcept (verifyBearerToken env accessToken now)
  let found ← account (.sessionFindById claims.sessionId)
  let session ← Prog.ofExcept (requireActiveSession now found)
  return buildCurrentSessionSnapshot session.user

/-- The request is made by this user; those that carry an installation token stay as they
are. -/
def ExtensionRequest.by (userId : String) : ExtensionRequest → ExtensionRequest
  | .bind session request => .bind { session with userId := userId } request
  | .bootstrap accessToken now request => .bootstrap accessToken now request
  | .refresh accessToken now refreshedAt fresh => .refresh accessToken now refreshedAt fresh
  | .rotate session request => .rotate { session with userId := userId } request
  | .disconnect session request => .disconnect { session with userId := userId } request
  | .selfDisconnect session request => .selfDisconnect { session with userId := userId } request

/-- The request carries an installation token. -/
def ExtensionRequest.carriesToken : ExtensionRequest → Bool
  | .bootstrap _ _ _ => true
  | .refresh _ _ _ _ => true
  | _ => false

inductive AccountRequest where
  | auth (request : AuthRequest)
  | getCurrentSession (accessToken : String) (now : ℤ)
  | updateUserAccess (now : ℤ) (session : CurrentSessionSnapshot) (request : Option Json)
  | deleteUser (session : CurrentSessionSnapshot) (request : Option Json)
  | resolveInstallationSession (accessToken : String) (now : ℤ)
  /-- A request of the extension, or of the app about its installations: that of the app
  is authenticated first. -/
  | extension (accessToken : String) (now : ℤ) (request : ExtensionRequest)

inductive AccountReply where
  | auth (reply : AuthReply)
  | currentSession (session : CurrentSessionSnapshot)
  | userUpdated (user : AdminUserDirectoryEntry)
  | userDeleted (userId : String)
  | installationSession (session : InstallationSessionRecord)
  | extension (reply : ExtensionReply)

def accountCode (env : AccountEnv) : AccountRequest → AccountProg AccountReply
  | .auth request => do
      let reply ← ofAuth (authCode env.auth request)
      return .auth reply
  | .getCurrentSession accessToken now => do
      let session ← getCurrentSession env accessToken now
      return .currentSession session
  | .updateUserAccess now session request => do
      let user ← ofUser (updateUserAccessForCurrentSession now session request)
      return .userUpdated user
  | .deleteUser session request => do
      let userId ← ofUser (deleteUserForCurrentSession session request)
      return .userDeleted userId
  | .resolveInstallationSession accessToken now => do
      let session ← ofExtension (resolveInstallationSession env.extension accessToken now)
      return .installationSession session
  | .extension accessToken now request => do
      if request.carriesToken then
        let reply ← ofExtension (extensionCode env.extension request)
        return .extension reply
      else
        let session ← getCurrentSession env accessToken now
        let reply ← ofExtension (extensionCode env.extension (request.by session.userId))
        return .extension reply

def accountMachine (env : AccountEnv) :
    Machine AccountCall AccountCall.Res Exception AccountReply AccountStore AccountRequest where
  exec := AccountCall.exec
  code := accountCode env

abbrev AccountRun :=
  Snapshot AccountCall AccountCall.Res Exception AccountReply AccountStore AccountRequest

abbrev AccountLabel := Label Exception AccountRequest

end QuizMind
