import QuizMind.Access.Permissions

/-! # Changing and deleting users

The handlers behind `admin/users/delete` and `admin/users/update-access`, over the calls of
`UserRepository`, each of them atomic. Of a user the handlers and what they call depend on the
columns of `AuthUser`; the reason of a suspension is checked and written, and nothing reads it.
-/

namespace QuizMind

open Async

/-! ## Calls -/

/-- `Prisma.UserUpdateInput` as far as the handlers fill it: `none` leaves a column as it is. -/
structure UserUpdateInput where
  displayName : Option (Option String)
  systemRoles : Option (List SystemRole)
  suspendedAt : Option (Option ℤ)
  suspendReason : Option (Option String)

/-- The row after an update. -/
def UserUpdateInput.apply (data : UserUpdateInput) (user : AuthUser) : AuthUser :=
  { user with
    displayName := data.displayName.getD user.displayName
    systemRoles := data.systemRoles.getD user.systemRoles
    suspendedAt := data.suspendedAt.getD user.suspendedAt }

inductive UserCall where
  | findById (id : String)
  | countAdmins
  | delete (id : String)
  | update (id : String) (data : UserUpdateInput)

abbrev UserCall.Res : UserCall → Type
  | .findById _ => Option AuthUser
  | .countAdmins => ℕ
  | .delete _ => AuthUser
  | .update _ _ => AuthUser

/-- The user has a system role assignment. -/
def AuthUser.hasRole (user : AuthUser) : Bool := user.systemRoles ≠ []

def countAdmins (users : List AuthUser) : ℕ := users.countP AuthUser.hasRole

def findUser (users : List AuthUser) (id : String) : Option AuthUser :=
  users.find? fun user => user.id == id

def deleteUser (users : List AuthUser) (id : String) : List AuthUser :=
  users.filter fun user => user.id ≠ id

def updateUser (users : List AuthUser) (id : String) (data : UserUpdateInput) : List AuthUser :=
  users.map fun user => if user.id = id then data.apply user else user

def UserCall.exec : (call : UserCall) → List AuthUser → Except Exception call.Res × List AuthUser
  | .findById id, users => (.ok (findUser users id), users)
  | .countAdmins, users => (.ok (QuizMind.countAdmins users), users)
  | .delete id, users =>
    match findUser users id with
    | none => (.error (.prisma "P2025"), users)
    | some user => (.ok user, deleteUser users id)
  | .update id data, users =>
    match findUser users id with
    | none => (.error (.prisma "P2025"), users)
    | some user => (.ok (data.apply user), updateUser users id data)

abbrev UserProg := Prog UserCall UserCall.Res Exception

abbrev userCall (call : UserCall) : UserProg call.Res := Prog.await call

/-! ## Reading a request -/

/-- `request?.key`. -/
def bodyMember (request : Option Json) (key : String) : Option Json :=
  match request with
  | some (.object members) => Json.member members key
  | _ => none

/-- `typeof value === 'string' ? value.trim() : ''`. -/
def trimmedString : Option Json → String
  | some (.string text) => jsTrim text
  | _ => ""

def maxAdminUserDisplayNameLength : ℕ := 120

def maxAdminSuspendReasonLength : ℕ := 500

def normalizeAdminDisplayName (value : Option Json) (fieldName : String) (allowNull : Bool) :
    Except Exception (Option (Option String)) :=
  match value with
  | none => .ok none
  | some .null =>
    if allowNull then .ok (some none)
    else .error (.badRequest s!"{fieldName} must be a non-empty string.")
  | some (.string text) =>
    let normalized := jsTrim text
    if normalized = "" then .ok (if allowNull then some none else none)
    else if jsLength normalized > maxAdminUserDisplayNameLength then
      .error (.badRequest
        s!"{fieldName} must be at most {maxAdminUserDisplayNameLength} characters.")
    else .ok (some (some normalized))
  | some _ => .error (.badRequest s!"{fieldName} must be a string.")

def normalizeAdminSuspendReason : Option Json → Except Exception (Option (Option String))
  | none => .ok none
  | some .null => .ok (some none)
  | some (.string text) =>
    let normalized := jsTrim text
    if normalized = "" then .ok (some none)
    else if jsLength normalized > maxAdminSuspendReasonLength then
      .error (.badRequest
        s!"suspendReason must be at most {maxAdminSuspendReasonLength} characters.")
    else .ok (some (some normalized))
  | some _ => .error (.badRequest "suspendReason must be a string or null.")

/-- The entries of the list, each role once. -/
def systemRolesOf (fieldName : String) : List Json → List SystemRole →
    Except Exception (List SystemRole)
  | [], roles => .ok roles
  | .string entry :: entries, roles =>
    if jsTrim entry = "admin" then
      systemRolesOf fieldName entries (if .admin ∈ roles then roles else roles ++ [.admin])
    else
      .error (.badRequest s!"{fieldName} contains unknown role \"{entry}\".")
  | _ :: _, _ => .error (.badRequest s!"{fieldName} must contain role ids.")

def normalizeAdminSystemRoles (value : Json) (fieldName : String) :
    Except Exception (List SystemRole) :=
  match value with
  | .array entries => systemRolesOf fieldName entries []
  | _ => .error (.badRequest s!"{fieldName} must be an array of system roles.")

def normalizeOptionalAdminSystemRoles (value : Option Json) (fieldName : String) :
    Except Exception (Option (List SystemRole)) :=
  match value with
  | none => .ok none
  | some value => do
      let roles ← normalizeAdminSystemRoles value fieldName
      return some roles

/-! ## Handlers -/

/-- What the answer shows of a user. -/
structure AdminUserDirectoryEntry where
  id : String
  email : String
  displayName : Option String
  emailVerifiedAt : Option ℤ
  suspendedAt : Option ℤ
  lastLoginAt : Option ℤ
  systemRoles : List SystemRole

def mapUserRecordToDirectoryEntry (user : AuthUser) : AdminUserDirectoryEntry where
  id := user.id
  email := user.email
  displayName := if user.displayName = some "" then none else user.displayName
  emailVerifiedAt := user.emailVerifiedAt
  suspendedAt := user.suspendedAt
  lastLoginAt := user.lastLoginAt
  systemRoles := user.systemRoles

/-- The test before an admin is removed. -/
def requireAnotherAdmin (message : String) : UserProg Unit := do
  let adminCount ← userCall .countAdmins
  if adminCount ≤ 1 then throw (.badRequest message)

/-- `deleteUserForCurrentSession` after the access decision. -/
def deleteOtherUser (actorId : String) (request : Option Json) : UserProg String := do
  let userId := trimmedString (bodyMember request "userId")
  if userId = "" then throw (.badRequest "userId is required.")
  if userId = actorId then throw (.badRequest "Cannot delete your own account.")
  let existingUser ← userCall (.findById userId)
  match existingUser with
  | none => throw (.notFound "User not found.")
  | some user => do
      if user.hasRole then
        requireAnotherAdmin "Cannot delete the last remaining admin account."
      let _ ← userCall (.delete userId)
      return userId

def deleteUserForCurrentSession (session : CurrentSessionSnapshot) (request : Option Json) :
    UserProg String := do
  Prog.ofExcept (requireAccess (canUpdateUsers session.principal))
  deleteOtherUser session.userId request

/-- What an accepted request writes. -/
def updateDataOf (displayName : Option (Option String)) (systemRoles : Option (List SystemRole))
    (suspend : Option Json) (suspendReason : Option (Option String)) (now : ℤ) :
    UserUpdateInput where
  displayName := displayName
  -- `deleteMany` and, when there are any, `create: [{ role: 'admin' }]`
  systemRoles := systemRoles.map fun roles => if roles = [] then [] else [.admin]
  suspendedAt :=
    match suspend with
    | some (.bool true) => some (some now)
    | some (.bool false) => some none
    | _ => none
  suspendReason :=
    match suspend with
    | some (.bool true) =>
      some (some ((suspendReason.getD none).getD "Suspended by admin action."))
    | some (.bool false) => some none
    | _ => none

/-- No field of the update is given. -/
def UserUpdateInput.isEmpty (data : UserUpdateInput) : Bool :=
  data.displayName.isNone && data.systemRoles.isNone && data.suspendedAt.isNone

/-- The last part of the update: nothing to change is refused, a user who is gone by now is
reported. -/
def writeUserAccess (userId : String) (data : UserUpdateInput) :
    UserProg AdminUserDirectoryEntry := do
  if data.isEmpty then
    throw (.badRequest "Provide at least one mutable field: displayName, systemRoles, suspend.")
  let updated ← (userCall (.update userId data)).handle fun e =>
    if e = .prisma "P2025" then throw (.notFound "User not found.") else throw e
  return mapUserRecordToDirectoryEntry updated

/-- `updateUserAccessForCurrentSession` after the access decision. -/
def updateUserAccess (now : ℤ) (request : Option Json) : UserProg AdminUserDirectoryEntry :=
  match request with
  | some (.object members) => do
      let userId := trimmedString (Json.member members "userId")
      if userId = "" then throw (.badRequest "userId is required.")
      let existingUser ← userCall (.findById userId)
      match existingUser with
      | none => throw (.notFound "User not found.")
      | some user => do
          let displayName ← Prog.ofExcept
            (normalizeAdminDisplayName (Json.member members "displayName") "displayName" true)
          let systemRoles ← Prog.ofExcept
            (normalizeOptionalAdminSystemRoles (Json.member members "systemRoles") "systemRoles")
          let suspendReason ← Prog.ofExcept
            (normalizeAdminSuspendReason (Json.member members "suspendReason"))
          let suspend := Json.member members "suspend"
          if suspend.isNone && suspendReason.isSome then
            throw (.badRequest "suspendReason can only be set when suspend is provided.")
          if systemRoles = some [] && user.hasRole then
            requireAnotherAdmin "Cannot remove admin access from the last remaining admin."
          writeUserAccess userId (updateDataOf displayName systemRoles suspend suspendReason now)
  | _ => throw (.badRequest "Request body is required.")

def updateUserAccessForCurrentSession (now : ℤ) (session : CurrentSessionSnapshot)
    (request : Option Json) : UserProg AdminUserDirectoryEntry := do
  Prog.ofExcept (requireAccess (canUpdateUsers session.principal))
  updateUserAccess now request

end QuizMind
