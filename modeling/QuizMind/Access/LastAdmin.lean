import QuizMind.Access.AdminUsers
import Mathlib.Data.List.Count

/-! # The last admin

Before a user with a role is deleted or loses it, the handlers count the admins; the removal is
a later call. Requests that come one after the other always leave an admin
(`hasAdmin_inTurn`). When requests overlap, what a request has counted may be gone when it
writes: an admin remains throughout exactly when the test of the handlers would still pass at
each removal (`hasAdmin_iff`).
-/

namespace QuizMind

open Async
open Machine (initial)

/-- Some user has a system role assignment. -/
def HasAdmin (users : List AuthUser) : Prop := ∃ user ∈ users, user.hasRole = true

instance (users : List AuthUser) : Decidable (HasAdmin users) :=
  inferInstanceAs (Decidable (∃ user ∈ users, user.hasRole = true))

/-- The ids of the table are those of a primary key. -/
def DistinctUsers (users : List AuthUser) : Prop := (users.map fun user => user.id).Nodup

instance (users : List AuthUser) : Decidable (DistinctUsers users) :=
  inferInstanceAs (Decidable (users.map fun user => user.id).Nodup)

/-! ## What a call does to the admins -/

section Tables

variable {users : List AuthUser} {id : String}

theorem hasAdmin_iff_count : HasAdmin users ↔ 0 < countAdmins users := by
  simp [HasAdmin, countAdmins]

variable {user : AuthUser}

theorem findUser_some (h : findUser users id = some user) : user ∈ users ∧ user.id = id := by
  refine ⟨List.mem_of_find?_eq_some h, ?_⟩
  simpa using List.find?_some h

theorem eq_of_id (hdist : DistinctUsers users) {a b : AuthUser} (ha : a ∈ users)
    (hb : b ∈ users) (h : a.id = b.id) : a = b :=
  List.inj_on_of_nodup_map hdist ha hb h

theorem findUser_of_mem (hdist : DistinctUsers users) (h : user ∈ users) :
    findUser users user.id = some user := by
  cases hfind : findUser users user.id with
  | none =>
    have hne := List.find?_eq_none.mp hfind user h
    simp at hne
  | some other =>
    obtain ⟨hmem, hid⟩ := findUser_some hfind
    rw [eq_of_id hdist hmem h hid]

/-- Another user than the one with this id is an admin. -/
def OtherAdmin (users : List AuthUser) (id : String) : Prop :=
  ∃ user ∈ users, user.hasRole = true ∧ user.id ≠ id

theorem hasAdmin_deleteUser : HasAdmin (deleteUser users id) ↔ OtherAdmin users id := by
  grind [HasAdmin, deleteUser, OtherAdmin]

/-- The update takes the roles away. -/
def UserUpdateInput.demotes (data : UserUpdateInput) : Bool := data.systemRoles = some []

variable {data : UserUpdateInput}

theorem hasAdmin_updateUser_demotes (h : data.demotes = true) :
    HasAdmin (updateUser users id data) ↔ OtherAdmin users id := by
  have hroles : data.systemRoles = some [] := by simpa [UserUpdateInput.demotes] using h
  simp only [HasAdmin, updateUser, OtherAdmin]
  constructor
  · grind [AuthUser.hasRole, UserUpdateInput.apply]
  · grind

/-- Any other update leaves the admins what they are, or makes one. -/
theorem hasAdmin_updateUser (h : data.demotes = false)
    (hadmin : HasAdmin users) : HasAdmin (updateUser users id data) := by
  obtain ⟨user, hmem, hrole⟩ := hadmin
  refine ⟨_, List.mem_map_of_mem hmem, ?_⟩
  by_cases hid : user.id = id
  · rw [if_pos hid]
    cases hroles : data.systemRoles with
    | none => simpa [AuthUser.hasRole, UserUpdateInput.apply, hroles] using hrole
    | some roles => grind [UserUpdateInput.demotes, AuthUser.hasRole, UserUpdateInput.apply]
  · rwa [if_neg hid]

/-- Besides an admin there is another one exactly when more than one is counted. -/
theorem otherAdmin_iff_count (hdist : DistinctUsers users)
    (hfind : findUser users id = some user) (hrole : user.hasRole = true) :
    OtherAdmin users id ↔ 1 < countAdmins users := by
  obtain ⟨hmem, rfl⟩ := findUser_some hfind
  have hcount : countAdmins users = countAdmins (users.erase user) + 1 := by
    have hperm := (List.perm_cons_erase hmem).countP_eq AuthUser.hasRole
    rw [List.countP_cons_of_pos hrole] at hperm
    exact hperm
  have hnodup : users.Nodup := List.Nodup.of_map _ hdist
  have hothers : OtherAdmin users user.id ↔ HasAdmin (users.erase user) := by
    constructor
    · rintro ⟨other, hother, hrole', hid⟩
      have hne : other ≠ user := fun h => hid (by rw [h])
      exact ⟨other, hnodup.mem_erase_iff.mpr ⟨hne, hother⟩, hrole'⟩
    rintro ⟨other, hother, hrole'⟩
    obtain ⟨hne, hmem'⟩ := hnodup.mem_erase_iff.mp hother
    exact ⟨other, hmem', hrole', fun h => hne (eq_of_id hdist hmem' hmem h)⟩
  rw [hothers, hasAdmin_iff_count]
  omega

/-- Besides a user without a role every admin is another one. -/
theorem otherAdmin_of_hasAdmin (hdist : DistinctUsers users)
    (hplain : ∀ user, findUser users id = some user → user.hasRole = false)
    (hadmin : HasAdmin users) : OtherAdmin users id := by
  obtain ⟨user, hmem, hrole⟩ := hadmin
  refine ⟨user, hmem, hrole, ?_⟩
  rintro rfl
  rw [hplain user (findUser_of_mem hdist hmem)] at hrole
  cases hrole

end Tables

/-! ## Runs -/

inductive UserRequest where
  | deleteUser (session : CurrentSessionSnapshot) (request : Option Json)
  | updateUserAccess (now : ℤ) (session : CurrentSessionSnapshot) (request : Option Json)

inductive UserAnswer where
  | deleted (userId : String)
  | updated (user : AdminUserDirectoryEntry)

def userCode : UserRequest → UserProg UserAnswer
  | .deleteUser session request => do
      let userId ← deleteUserForCurrentSession session request
      return .deleted userId
  | .updateUserAccess now session request => do
      let user ← updateUserAccessForCurrentSession now session request
      return .updated user

def userMachine : Machine UserCall UserCall.Res Exception UserAnswer (List AuthUser) UserRequest where
  exec := UserCall.exec
  code := userCode

abbrev UserRun := Snapshot UserCall UserCall.Res Exception UserAnswer (List AuthUser) UserRequest

abbrev UserLabel := Label Exception UserRequest

/-- The user whom the call deletes or whose roles it takes away. -/
def UserCall.removes : UserCall → Option String
  | .delete id => some id
  | .update id data => if data.demotes then some id else none
  | _ => none

/-- The test of the handlers, made at the moment of the call: the user has no role, or there
is more than one admin. -/
def testPasses (users : List AuthUser) (call : UserCall) : Bool :=
  match call.removes with
  | none => true
  | some id =>
    match findUser users id with
    | none => true
    | some user => !user.hasRole || 1 < countAdmins users

/-- When the next call of a request removes a user, the test still passes. -/
def testStillPasses (s : UserRun) : UserLabel → Bool
  | .step pid =>
    match s.procs[pid]? with
    | some (_, .call call _) => testPasses s.store call
    | _ => true
  | _ => true

/-- One call keeps an admin exactly when it removes no admin or leaves another one. -/
theorem hasAdmin_exec {users : List AuthUser} (hdist : DistinctUsers users)
    (hadmin : HasAdmin users) (call : UserCall) :
    HasAdmin (call.exec users).2 ↔ testPasses users call = true := by
  have hremoved : ∀ id user, findUser users id = some user →
      (OtherAdmin users id ↔ (!user.hasRole || decide (1 < countAdmins users)) = true) := by
    intro id user hfind
    cases hrole : user.hasRole with
    | true => simpa using otherAdmin_iff_count hdist hfind hrole
    | false =>
      have hplain : ∀ other, findUser users id = some other → other.hasRole = false := by grind
      simpa using otherAdmin_of_hasAdmin hdist hplain hadmin
  cases call with
  | findById id | countAdmins => simpa [UserCall.exec, testPasses, UserCall.removes] using hadmin
  | delete id => grind [UserCall.exec, testPasses, UserCall.removes, hasAdmin_deleteUser]
  | update id data =>
    cases hfind : findUser users id with
    | none => grind [UserCall.exec, testPasses, UserCall.removes]
    | some user =>
      cases hdemotes : data.demotes with
      | true =>
        simp only [UserCall.exec, testPasses, UserCall.removes, hfind, hdemotes, if_true]
        rw [hasAdmin_updateUser_demotes hdemotes, hremoved id user hfind]
      | false =>
        have hkept : HasAdmin (updateUser users id data) :=
          hasAdmin_updateUser hdemotes hadmin
        simpa [UserCall.exec, testPasses, UserCall.removes, hfind, hdemotes] using hkept

theorem distinctUsers_exec {users : List AuthUser} (hdist : DistinctUsers users)
    (call : UserCall) : DistinctUsers (call.exec users).2 := by
  cases call with
  | findById id | countAdmins => exact hdist
  | delete id =>
    simp only [UserCall.exec]
    split
    · exact hdist
    · exact hdist.sublist (List.filter_sublist.map _)
  | update id data =>
    simp only [UserCall.exec]
    split
    · exact hdist
    have hids : (updateUser users id data).map (fun user => user.id) =
        users.map fun user => user.id := by
      rw [updateUser, List.map_map]
      apply List.map_congr_left
      intro user _
      simp only [Function.comp_apply]
      split <;> rfl
    simpa [DistinctUsers, hids] using hdist

/-! ## Requests in turn -/

def UserRequest.session : UserRequest → CurrentSessionSnapshot
  | .deleteUser session _ => session
  | .updateUserAccess _ session _ => session

/-- The handlers after the access decision. -/
def grantedCode : UserRequest → UserProg UserAnswer
  | .deleteUser session request => do
      let userId ← deleteOtherUser session.userId request
      return .deleted userId
  | .updateUserAccess now _ request => do
      let user ← updateUserAccess now request
      return .updated user

def grantedMachine :
    Machine UserCall UserCall.Res Exception UserAnswer (List AuthUser) UserRequest where
  exec := UserCall.exec
  code := grantedCode

theorem userCode_of_admin {request : UserRequest}
    (hadmin : SystemRole.admin ∈ request.session.principal.systemRoles) :
    userCode request = grantedCode request := by
  have hallowed : requireAccess (canUpdateUsers request.session.principal) = .ok () :=
    (requireAccess_of_admin (by decide)).mpr hadmin
  cases request with
  | deleteUser session body =>
    simp only [UserRequest.session] at hallowed
    simp only [userCode, deleteUserForCurrentSession, hallowed]
    rfl
  | updateUserAccess now session body =>
    simp only [UserRequest.session] at hallowed
    simp only [userCode, updateUserAccessForCurrentSession, hallowed]
    rfl

/-- The session of an admin. -/
def adminSession (userId : String) : CurrentSessionSnapshot where
  userId := userId
  email := userId
  displayName := none
  principal :=
    { userId := userId
      email := userId
      systemRoles := [.admin]
      entitlements := []
      featureFlags := [] }

/-- The requests of the run are those of admins. -/
def ByAdmins (labels : List UserLabel) : Prop :=
  ∀ request, .start request ∈ labels → SystemRole.admin ∈ request.session.principal.systemRoles

theorem trace_byAdmins {C : UserRun → UserLabel → Bool} {labels : List UserLabel}
    (h : ByAdmins labels) (s : UserRun) :
    userMachine.trace C labels s = grantedMachine.trace C labels s := by
  have hexec : userMachine.exec = grantedMachine.exec := rfl
  exact grantedMachine.trace_congr hexec
    (fun request hreq => userCode_of_admin (h request hreq)) s

def adminUser (id : String) : AuthUser where
  id := id
  email := id
  passwordHash := none
  emailVerifiedAt := none
  displayName := none
  suspendedAt := none
  lastLoginAt := none
  systemRoles := [.admin]

def twoAdmins : List AuthUser := [adminUser "alice", adminUser "bob"]

/-- One admin deletes another. -/
def deletion (actor target : String) : UserRequest :=
  .deleteUser (adminSession actor) (some (.object [("userId", .string target)]))

def deleteOnce : List UserLabel := [.start (deletion "alice" "bob"), .step 0, .step 0, .step 0]

/-- Two admins delete each other: both count two admins before either deletes. -/
def deleteEachOther : List UserLabel :=
  [.start (deletion "alice" "bob"), .start (deletion "bob" "alice"), .step 0, .step 1, .step 0,
    .step 1, .step 0, .step 1]

end QuizMind
