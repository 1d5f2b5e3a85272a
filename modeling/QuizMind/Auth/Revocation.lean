import QuizMind.Auth.Protocol
import Mathlib.Data.List.Infix

/-! # Revoking the sessions of a user

`resetPassword` and `logoutAll` revoke all sessions of a user in one call. A
refresh that has found its session before that revokes it once more and issues
a new session (`refreshed_after_reset`).

The revocation is final when no other request in flight can still issue a
session for the user (`revocation_final`): whatever is active after the request
has returned was issued by it or goes back to a check made after the
revocation.
-/

namespace QuizMind

open Async
open Prog (safe_await_bind safe_bind safe_ofExcept_bind)

/-! ## The statement -/

/-- The request has issued the session, after the first `m` calls. -/
def CreatedSince (m pid : ℕ) (session : AuthSession) (s : AuthSnapshot) : Prop :=
  ∃ data record, ⟨pid, .sessionCreate data, .ok record⟩ ∈ s.log.drop m ∧
    record.toAuthSession = session

/-- The session was issued after the first `m` calls: by the request `reviser`,
by a login that has read and verified the user's password hash after them, by a
reset whose token was checked after them, or in exchange for a session of this
kind. -/
inductive IssuedSince (env : AuthEnv) (s : AuthSnapshot) (m reviser : ℕ) (userId : String) :
    AuthSession → Prop where
  | byReviser {x : AuthSession} (hcreated : CreatedSince m reviser x s) :
      IssuedSince env s m reviser userId x
  | byLogin {x : AuthSession} {pid : ℕ} {request : AuthLoginRequest} {p : AuthProg AuthReply}
      {email passwordHash : String} {user : AuthUser} (hcreated : CreatedSince m pid x s)
      (hrequest : s.procs[pid]? = some (.login request, p))
      (hread : ⟨pid, .userFindByEmail email, .ok (some user)⟩ ∈ s.log.drop m)
      (huser : user.id = userId) (hhash : user.passwordHash = some passwordHash)
      (hverified : env.verifyPassword request.password passwordHash) :
      IssuedSince env s m reviser userId x
  | byReset {x : AuthSession} {pid : ℕ} {request : AuthResetPasswordRequest}
      {p : AuthProg AuthReply} {tokenHash : String} {now : ℤ} {reset : PasswordReset}
      (hcreated : CreatedSince m pid x s)
      (hrequest : s.procs[pid]? = some (.resetPassword request, p))
      (hread : ⟨pid, .resetFindActive tokenHash now, .ok (some reset)⟩ ∈ s.log.drop m)
      (huser : reset.userId = userId) : IssuedSince env s m reviser userId x
  | byRefresh {x : AuthSession} {pid : ℕ} {request : AuthRefreshRequest}
      {p : AuthProg AuthReply} {tokenHash : String} {now : ℤ} {record : AuthSessionRecord}
      (hcreated : CreatedSince m pid x s)
      (hrequest : s.procs[pid]? = some (.refresh request, p))
      (hread : ⟨pid, .sessionFindActive tokenHash now, .ok (some record)⟩ ∈ s.log.drop m)
      (hissued : IssuedSince env s m reviser userId record.toAuthSession) :
      IssuedSince env s m reviser userId x

/-- The user whose sessions a returned request has revoked. -/
def revokedUser : AuthRequest → AuthReply → Option String
  | .logoutAll userId _, _ => some userId
  | .resetPassword _, .passwordReset result => some result.session.user.id
  | _, _ => none

/-- The answer says nothing that would let a request act for the user. -/
def tellsNothingOf (userId : String) : (call : AuthCall) → Except Exception call.Res → Prop
  | .userFindByEmail _, r => ∀ user, r = .ok (some user) → user.id ≠ userId
  | .resetFindActive _ _, r => ∀ reset, r = .ok (some reset) → reset.userId ≠ userId
  | .sessionFindActive _ _, r => ∀ record, r = .ok (some record) → record.userId ≠ userId
  | _, _ => True

/-- The call issues no session for the user. -/
def createsNoneFor (userId : String) : AuthCall → Prop
  | .sessionCreate data => data.userId ≠ userId
  | _ => True

/-- Unless a later check lets it act for the user, the program issues no session
for the user. -/
abbrev Powerless {α : Type} (userId : String) (p : AuthProg α) : Prop :=
  p.Safe (fun call r => honest call r ∧ tellsNothingOf userId call r) (createsNoneFor userId)

/-- When the sessions of a user are revoked, no other request in flight can
still issue a session for the user. -/
def othersPowerless : AuthSnapshot → Label Exception AuthRequest → Prop
  | s, .step pid => ∀ request userId revokedAt k,
      s.procs[pid]? = some (request, .call (.sessionRevokeAllForUser userId revokedAt) k) →
        ∀ j q, j ≠ pid → s.procs[j]? = some q → Powerless userId q.2
  | _, _ => True

/-! ## Requests that have not been checked -/

section Powerless

variable {env : AuthEnv} {userId : String}

theorem issueSession_powerless {fresh : FreshSession} {user : AuthUser} (huser : user.id ≠ userId) :
    Powerless userId (issueSession env fresh user) := by
  have hcreate : ∀ n m : ℕ, Powerless userId (do
        let session ← auth (.sessionCreate (createSessionInput env fresh user.id n))
        return (session, sessionPayload env fresh user session.id m)) := by
    intro n m
    exact safe_await_bind huser fun _ _ => trivial
  have hminutes : ∀ n : ℕ, Powerless userId (do
        let accessTokenLifetimeMinutes ← getAccessTokenLifetimeMinutes
        let session ← auth (.sessionCreate (createSessionInput env fresh user.id n))
        return (session, sessionPayload env fresh user session.id accessTokenLifetimeMinutes)) := by
    intro n
    refine ⟨trivial, ?_⟩
    intro r _
    cases r with
    | ok policy | error e => exact hcreate n _
  refine ⟨trivial, ?_⟩
  intro r _
  cases r with
  | ok policy | error e => exact hminutes _

theorem login_powerless (request : AuthLoginRequest) : Powerless userId (login env request) := by
  refine safe_ofExcept_bind fun _ _ => ?_
  refine safe_ofExcept_bind fun email _ => ?_
  refine safe_await_bind trivial ?_
  intro found hfound
  refine safe_ofExcept_bind ?_
  intro user hvalid
  obtain rfl := checkCredentials_ok hvalid
  refine safe_await_bind trivial ?_
  intro updated hupd
  have hid : updated.id = user.id := hupd.1 updated rfl
  refine safe_bind (issueSession_powerless ?_) fun _ => trivial
  rw [hid]
  exact hfound.2 user rfl

theorem refresh_powerless (request : AuthRefreshRequest) :
    Powerless userId (refresh env request) := by
  refine safe_ofExcept_bind fun _ _ => ?_
  refine safe_await_bind trivial ?_
  intro found hfound
  refine safe_ofExcept_bind ?_
  intro record hrec
  cases found with
  | none => cases hrec
  | some found =>
    obtain rfl : found = record := Except.ok.inj hrec
    refine safe_await_bind trivial fun _ _ => ?_
    refine safe_bind (issueSession_powerless ?_) fun _ => trivial
    rw [(hfound.1 found rfl).2]
    exact hfound.2 found rfl

theorem resetPassword_powerless (request : AuthResetPasswordRequest) :
    Powerless userId (resetPassword env request) := by
  refine safe_ofExcept_bind fun _ _ => ?_
  refine safe_ofExcept_bind fun token _ => ?_
  refine safe_ofExcept_bind fun _ _ => ?_
  refine safe_await_bind trivial ?_
  intro found hfound
  refine safe_ofExcept_bind ?_
  intro reset hreset
  cases found with
  | none => cases hreset
  | some found =>
    obtain rfl : found = reset := Except.ok.inj hreset
    refine safe_await_bind trivial ?_
    intro foundUser hfoundUser
    refine safe_ofExcept_bind ?_
    intro user huser
    obtain rfl := requireResettable_ok huser
    refine safe_await_bind trivial fun _ _ => ?_
    refine safe_await_bind trivial ?_
    intro updated hupd
    refine safe_await_bind trivial fun _ _ => ?_
    refine safe_bind (issueSession_powerless ?_) fun _ => trivial
    rw [hupd.1 updated rfl, hfoundUser.1 user rfl]
    exact hfound.2 found rfl

/-- A request that has only started is powerless. -/
theorem authCode_powerless (env : AuthEnv) (userId : String) (request : AuthRequest) :
    Powerless userId (authCode env request) := by
  cases request with
  | login request => exact safe_bind (login_powerless request) fun _ => trivial
  | refresh request => exact safe_bind (refresh_powerless request) fun _ => trivial
  | resetPassword request => exact safe_bind (resetPassword_powerless request) fun _ => trivial
  | logoutAll userId revokedAt =>
    refine safe_bind ?_ fun _ => trivial
    refine safe_ofExcept_bind fun _ _ => ?_
    refine ⟨trivial, ?_⟩
    intro r _
    cases r <;> trivial

end Powerless

/-! ## After a revocation -/

/-- A check made after the first `m` calls lets the request act for the user. -/
inductive CheckedSince (env : AuthEnv) (s : AuthSnapshot) (m reviser : ℕ) (userId : String)
    (pid : ℕ) : Prop where
  | user {email : String} {user : AuthUser}
      (hread : ⟨pid, .userFindByEmail email, .ok (some user)⟩ ∈ s.log.drop m)
      (huser : user.id = userId)
  | reset {tokenHash : String} {now : ℤ} {reset : PasswordReset}
      (hread : ⟨pid, .resetFindActive tokenHash now, .ok (some reset)⟩ ∈ s.log.drop m)
      (huser : reset.userId = userId)
  | session {tokenHash : String} {now : ℤ} {record : AuthSessionRecord}
      (hread : ⟨pid, .sessionFindActive tokenHash now, .ok (some record)⟩ ∈ s.log.drop m)
      (hissued : IssuedSince env s m reviser userId record.toAuthSession)

/-- What has held since the request `reviser` revoked the sessions of the user,
with its call at position `m`. -/
structure RevokedSince (env : AuthEnv) (m reviser : ℕ) (userId : String) (s : AuthSnapshot) :
    Prop where
  live : ∀ x ∈ s.store.sessions, x.userId = userId → x.revokedAt = none →
    IssuedSince env s m reviser userId x
  procs : ∀ (j : ℕ) (q : AuthRequest × AuthProg AuthReply), s.procs[j]? = some q →
    j = reviser ∨ Powerless userId q.2 ∨ CheckedSince env s m reviser userId j

section Steps

variable {env : AuthEnv} {s s' : AuthSnapshot} {l : Label Exception AuthRequest}
  {m reviser : ℕ} {userId : String}

variable {x : AuthSession} {pid : ℕ}

section

variable (hnext : (authMachine env).next l s = some s')
include hnext

theorem CreatedSince.next (h : CreatedSince m pid x s) : CreatedSince m pid x s' := by
  obtain ⟨data, record, hlog, hrec⟩ := h
  exact ⟨data, record, (((authMachine env).next_log_grows hnext).drop m).mem hlog, hrec⟩

theorem IssuedSince.next
    (h : IssuedSince env s m reviser userId x) : IssuedSince env s' m reviser userId x := by
  have hlog := ((authMachine env).next_log_grows hnext).drop m
  have hreq : ∀ {pid : ℕ} {request : AuthRequest} {p : AuthProg AuthReply},
      s.procs[pid]? = some (request, p) → ∃ p', s'.procs[pid]? = some (request, p') := by
    intro pid request p hp
    obtain ⟨⟨request', p'⟩, hp', heq⟩ := (authMachine env).next_request hnext hp
    obtain rfl : request' = request := heq
    exact ⟨p', hp'⟩
  induction h with
  | byReviser hcreated => exact .byReviser (hcreated.next hnext)
  | byLogin hcreated hp hread huser hhash hverified =>
    obtain ⟨p', hp'⟩ := hreq hp
    exact .byLogin (hcreated.next hnext) hp' (hlog.mem hread) huser hhash hverified
  | byReset hcreated hp hread huser =>
    obtain ⟨p', hp'⟩ := hreq hp
    exact .byReset (hcreated.next hnext) hp' (hlog.mem hread) huser
  | byRefresh hcreated hp hread _ ih =>
    obtain ⟨p', hp'⟩ := hreq hp
    exact .byRefresh (hcreated.next hnext) hp' (hlog.mem hread) ih

theorem CheckedSince.next
    (h : CheckedSince env s m reviser userId pid) : CheckedSince env s' m reviser userId pid := by
  have hlog := ((authMachine env).next_log_grows hnext).drop m
  cases h with
  | user hread huser => exact .user (hlog.mem hread) huser
  | reset hread huser => exact .reset (hlog.mem hread) huser
  | session hread hissued => exact .session (hlog.mem hread) (hissued.next hnext)

end

/-- A request that passes a check after the revocation issues its session after
the revocation. -/
theorem issuedSince_of_create {request : AuthRequest} {p' : AuthProg AuthReply}
    {data : CreateSessionInput}
    (hcalls : Calls env request (history pid s.log) (.sessionCreate data))
    (hnext : (authMachine env).next l s = some s') (hp' : s'.procs[pid]? = some (request, p'))
    (hcreated : CreatedSince m pid x s') (hchecked : CheckedSince env s m reviser userId pid) :
    IssuedSince env s' m reviser userId x := by
  have hlog := ((authMachine env).next_log_grows hnext).drop m
  have hown : ∀ {call : AuthCall} {r : Except Exception call.Res},
      ⟨pid, call, r⟩ ∈ s.log.drop m → ⟨call, r⟩ ∈ history pid s.log := by
    intro call r hmem
    exact mem_history.mpr (List.mem_of_mem_drop hmem)
  generalize history pid s.log = h at hcalls hown
  cases request with
  | login request =>
    cases hcalls with
    | issue hvalid hcall =>
      cases hcall with
      | create hid =>
        cases hchecked with
        | user hread hid' =>
          -- the only look-up by email is the verified one
          have hmem := hown hread
          simp only [loggedIn] at hmem
          simp at hmem
          rcases hmem with ⟨-, rfl⟩
          rcases checkCredentials_verified hvalid with ⟨hash, hhash, hverified⟩
          exact .byLogin hcreated hp' (hlog.mem hread) hid' hhash hverified
        | reset hread _ | session hread _ => grind [loggedIn]
  | refresh request =>
    cases hcalls with
    | issue hid hcall =>
      cases hcall with
      | create hid' =>
        cases hchecked with
        | user hread _ | reset hread _ => grind [exchanged]
        | session hread hissued =>
          exact .byRefresh hcreated hp' (hlog.mem hread) (hissued.next hnext)
  | resetPassword request =>
    cases hcalls with
    | issue hcall =>
      cases hcall with
      | create hid =>
        cases hchecked with
        | user hread _ | session hread _ =>
          have hmem := hown hread
          simp [revokedAll, changed, used, resettable] at hmem
        | reset hread huser' =>
          exact .byReset hcreated hp' (hlog.mem hread) huser'
  | logoutAll userId revokedAt => cases hcalls.2

/-- An answer that says something of the user is a check made after the
revocation. -/
theorem checked_of_told (h : RevokedSince env m reviser userId s) {call : AuthCall}
    (hm : m ≤ s.log.length) (hnext : (authMachine env).next l s = some s')
    (hlog : s'.log = s.log ++ [⟨pid, call, (call.exec s.store).1⟩])
    (htold : ¬ tellsNothingOf userId call (call.exec s.store).1) :
    CheckedSince env s' m reviser userId pid := by
  have hlast : ∀ {r : Except Exception call.Res}, (call.exec s.store).1 = r →
      ⟨pid, call, r⟩ ∈ s'.log.drop m := by grind
  cases call with
  | userFindByEmail email =>
    simp only [tellsNothingOf, not_forall, not_not] at htold
    rcases htold with ⟨user, hr, huser⟩
    exact .user (hlast hr) huser
  | resetFindActive tokenHash now =>
    simp only [tellsNothingOf, not_forall, not_not] at htold
    rcases htold with ⟨reset, hr, huser⟩
    exact .reset (hlast hr) huser
  | sessionFindActive tokenHash now =>
    simp only [tellsNothingOf, not_forall, not_not] at htold
    rcases htold with ⟨record, hr, huser⟩
    -- an active session of the user has been issued since
    have heff := AuthCall.exec_effect (.sessionFindActive tokenHash now) s.store
    rw [hr] at heff
    cases heff with
    | findSession hfound =>
      rcases hfound record rfl with ⟨hmem, -, hact, -⟩
      have hlive : record.revokedAt = none := by
        simp_all [AuthSession.active]
      exact .session (hlast hr) ((h.live _ hmem huser hlive).next hnext)
  | _ => exact absurd trivial htold

theorem RevokedSince.next (hkept : AuthKept env s) (hm : m ≤ s.log.length)
    (hnext : (authMachine env).next l s = some s') (h : RevokedSince env m reviser userId s) :
    RevokedSince env m reviser userId s' := by
  have hold : ∀ (j : ℕ) (q : AuthRequest × AuthProg AuthReply), s.procs[j]? = some q →
      j = reviser ∨ Powerless userId q.2 ∨ CheckedSince env s' m reviser userId j := by
    intro j q hq
    rcases h.procs j q hq with hj | hpowerless | hchecked
    · exact Or.inl hj
    · exact Or.inr (Or.inl hpowerless)
    · exact Or.inr (Or.inr (hchecked.next hnext))
  -- the request that makes the step is told `r` and continues with `p`
  have hset : ∀ {pid : ℕ} {q : AuthRequest × AuthProg AuthReply} {p : AuthProg AuthReply},
      s.procs[pid]? = some q →
      (Powerless userId q.2 → Powerless userId p ∨ CheckedSince env s' m reviser userId pid) →
      ∀ (j : ℕ) (q' : AuthRequest × AuthProg AuthReply), (s.procs.set pid (q.1, p))[j]? = some q' →
        j = reviser ∨ Powerless userId q'.2 ∨ CheckedSince env s' m reviser userId j := by grind
  rcases (authMachine env).next_cases hnext with ⟨req, rfl, rfl⟩ | ⟨pid, req, op, k, rfl, hp, rfl⟩ |
    ⟨pid, e, req, op, k, rfl, hp, rfl⟩
  · constructor
    · intro x hx huser hlive
      exact (h.live x hx huser hlive).next hnext
    · intro j q hq
      by_cases hj : j < s.procs.length
      · grind
      right; left
      obtain rfl : (req, (authMachine env).code req) = q := by grind
      exact authCode_powerless env userId req
  · have hlt : pid < s.procs.length := (List.getElem?_eq_some_iff.mp hp).1
    constructor
    · intro x hx huser hlive
      rcases AuthStore.live_exec hx hlive with hmem | ⟨data, record, rfl, hr, hrec, hdata⟩
      · exact (h.live x hmem huser hlive).next hnext
      -- the session has just been created
      have hcreated : ∀ j, j = pid → CreatedSince m j x
          { store := ((authMachine env).exec (.sessionCreate data) s.store).2
            procs := s.procs.set pid
              (req, k ((authMachine env).exec (.sessionCreate data) s.store).1)
            log := s.log ++ [⟨pid, .sessionCreate data,
              ((authMachine env).exec (.sessionCreate data) s.store).1⟩] } := by
        intro j hj
        refine ⟨data, record, ?_, hrec⟩
        rw [List.drop_append_of_le_length hm, hj, ← hr]
        exact List.mem_append_right _ (List.mem_singleton_self _)
      rcases h.procs pid _ hp with hreviser | hpowerless | hchecked
      · exact .byReviser (hcreated reviser hreviser.symm)
      · exact absurd (hdata.trans huser) hpowerless.1
      · exact issuedSince_of_create (hkept.procs pid _ hp).1 hnext
          (List.getElem?_set_self hlt) (hcreated pid rfl) hchecked
    · refine hset hp ?_
      intro hpowerless
      by_cases htold : tellsNothingOf userId op (op.exec s.store).1
      · exact Or.inl (hpowerless.2 _ ⟨exec_honest op s.store, htold⟩)
      · exact Or.inr (checked_of_told h hm hnext rfl htold)
  · constructor
    · intro x hx huser hlive
      exact (h.live x hx huser hlive).next hnext
    · refine hset hp ?_
      intro hpowerless
      refine Or.inl (hpowerless.2 _ ⟨fail_honest op e, ?_⟩)
      cases op <;> simp [tellsNothingOf]

/-- The revocation itself. -/
theorem revokedSince_of_revoke (hC : othersPowerless s (.step reviser)) {request : AuthRequest}
    {revokedAt : ℤ} {k : Except Exception ℕ → AuthProg AuthReply}
    (hp : s.procs[reviser]? = some (request, .call (.sessionRevokeAllForUser userId revokedAt) k))
    (hnext : (authMachine env).next (.step reviser) s = some s') :
    RevokedSince env s.log.length reviser userId s' := by
  have hs' : s' =
      { store := (AuthCall.exec (.sessionRevokeAllForUser userId revokedAt) s.store).2
        procs := s.procs.set reviser
          (request, k (AuthCall.exec (.sessionRevokeAllForUser userId revokedAt) s.store).1)
        log := s.log ++ [⟨reviser, .sessionRevokeAllForUser userId revokedAt,
          (AuthCall.exec (.sessionRevokeAllForUser userId revokedAt) s.store).1⟩] } := by
    simpa [Machine.next, hp, authMachine] using hnext.symm
  subst hs'
  constructor
  · intro x hx huser hlive
    rcases AuthStore.live_of_revokeWhere hx hlive with ⟨-, hkept⟩
    simp [huser, hlive] at hkept
  intro j q hq
  by_cases hj : j = reviser
  · exact Or.inl hj
  · rw [List.getElem?_set_ne (Ne.symm hj)] at hq
    exact Or.inr (Or.inl (hC _ _ _ _ hp j q hj hq))

end Steps

/-- Every revocation so far has been final. -/
structure RevocationInv (env : AuthEnv) (s : AuthSnapshot) : Prop where
  kept : AuthKept env s
  revoked : ∀ (m pid : ℕ) (userId : String) (revokedAt : ℤ) (count : ℕ),
    s.log[m]? = some ⟨pid, .sessionRevokeAllForUser userId revokedAt, .ok count⟩ →
      RevokedSince env m pid userId s

variable {s : AuthSnapshot} {l : Label Exception AuthRequest}

theorem RevocationInv.next {env : AuthEnv} {s' : AuthSnapshot}
    (hC : othersPowerless s l) (hnext : (authMachine env).next l s = some s')
    (h : RevocationInv env s) : RevocationInv env s' := by
  refine ⟨h.kept.next hnext, ?_⟩
  intro m pid userId revokedAt count hm
  have hearlier : ∀ m pid userId revokedAt count,
      s.log[m]? = some ⟨pid, .sessionRevokeAllForUser userId revokedAt, .ok count⟩ →
        RevokedSince env m pid userId s' := by
    intro m pid userId revokedAt count hm
    have hlt := (List.getElem?_eq_some_iff.mp hm).1
    exact (h.revoked m pid userId revokedAt count hm).next h.kept (Nat.le_of_lt hlt) hnext
  -- either the revocation is an earlier one, or it is the step
  have hlast : ∀ {j : ℕ} {call : AuthCall} {r : Except Exception call.Res},
      (s.log ++ [⟨j, call, r⟩])[m]? =
        some ⟨pid, .sessionRevokeAllForUser userId revokedAt, .ok count⟩ →
      s.log[m]? = some ⟨pid, .sessionRevokeAllForUser userId revokedAt, .ok count⟩ ∨
        m = s.log.length ∧ (⟨j, call, r⟩ : Event AuthCall AuthCall.Res Exception) =
          ⟨pid, .sessionRevokeAllForUser userId revokedAt, .ok count⟩ := by grind
  rcases (authMachine env).next_cases hnext with ⟨req, rfl, rfl⟩ | ⟨j, req, op, k, rfl, hp, rfl⟩ |
    ⟨j, e, req, op, k, rfl, hp, rfl⟩
  · exact hearlier _ _ _ _ _ hm
  · grind [revokedSince_of_revoke]
  · grind

/-- When a request that revokes has returned, its call is in the log. -/
theorem revocation_of_returns {env : AuthEnv} {request : AuthRequest} {reply : AuthReply}
    {userId : String} {h : List AuthTold} (hreturns : Returns env request h reply)
    (huser : revokedUser request reply = some userId) :
    ∃ revokedAt count, ⟨.sessionRevokeAllForUser userId revokedAt, .ok count⟩ ∈ h := by
  cases request with
  | login request | refresh request => cases huser
  | logoutAll userId' revokedAt =>
    rcases hreturns with ⟨count, rfl⟩
    obtain rfl : userId' = userId := Option.some.inj huser
    exact ⟨revokedAt, count, List.mem_singleton_self _⟩
  | resetPassword request =>
    rcases hreturns with ⟨token, reset, row, user, updated, count, result, -, hissued, rfl, hid⟩
    rcases hissued with ⟨days, minutes, data, record, -, rfl⟩
    obtain rfl : result.session.user.id = userId := Option.some.inj huser
    refine ⟨request.resetAt, count, ?_⟩
    rw [hid]
    simp [revokedAll]

/-- Once a `resetPassword` or `logoutAll` has returned, in a run in which nobody
else could still issue a session for the user when the sessions were revoked,
every active session of the user has been issued since the revocation. -/
theorem revocation_final {env : AuthEnv} {s₀ : AuthStore} {s : AuthSnapshot}
    (hrun : (authMachine env).Reaches othersPowerless (Machine.initial s₀) s) {pid : ℕ}
    {request : AuthRequest} {reply : AuthReply} {userId : String}
    (hreturned : s.procs[pid]? = some (request, .ret reply))
    (huser : revokedUser request reply = some userId) :
    ∃ m revokedAt count,
      s.log[m]? = some ⟨pid, .sessionRevokeAllForUser userId revokedAt, .ok count⟩ ∧
      ∀ x ∈ s.store.sessions, x.userId = userId → (∃ now, x.active now) →
        IssuedSince env s m pid userId x := by
  have hinit : RevocationInv env (Machine.initial s₀) := by
    refine ⟨Machine.Kept.initial s₀, ?_⟩
    intro m pid userId revokedAt count hm
    cases hm
  have hinv : RevocationInv env s := by
    refine Machine.Reaches.invariant (authMachine env) ?_ hrun hinit
    intro t l t' hC hnext h
    exact h.next hC hnext
  rcases revocation_of_returns (hinv.kept.procs pid _ hreturned) huser with
    ⟨revokedAt, count, hmem⟩
  rcases List.mem_iff_getElem?.mp (mem_history.mp hmem) with ⟨m, hm⟩
  refine ⟨m, revokedAt, count, hm, ?_⟩
  rintro x hx hx' ⟨now, hactive⟩
  simp only [AuthSession.active, Bool.and_eq_true, Option.isNone_iff_eq_none] at hactive
  exact (hinv.revoked m pid userId revokedAt count hm).live x hx hx' hactive.1

/-! ## A refresh that survives a reset -/

/-- A platform whose hashes only mark what they hash. -/
def authEnv : AuthEnv where
  runtimeMode := .connected
  toLowerCase := id
  hashOpaqueToken := fun token => "hmac:" ++ token
  hashPassword := fun password _ => "bcrypt:" ++ password
  verifyPassword := fun password passwordHash => passwordHash == "bcrypt:" ++ password
  signAccessToken := fun claims _ _ => "jwt:" ++ claims.userId

def alice : AuthUser where
  id := "alice"
  email := "alice@example.com"
  passwordHash := some "bcrypt:old-password"
  emailVerifiedAt := some 0
  displayName := none
  suspendedAt := none
  lastLoginAt := none
  systemRoles := []

/-- Alice has one session and one password reset. -/
def aliceStore : AuthStore where
  users := [alice]
  sessions :=
    [{ userId := "alice"
       tokenHash := "hmac:token-a"
       expiresAt := 1000
       id := 1
       revokedAt := none }]
  passwordResets :=
    [{ id := 2
       userId := "alice"
       tokenHash := "hmac:reset-a"
       expiresAt := 1000
       usedAt := none }]
  retentionPolicy := none
  fresh := 3

def aliceRefreshes (token newToken : String) : AuthRequest :=
  .refresh
    { refreshToken := token
      now := 10
      revokedAt := 11
      fresh := { refreshToken := newToken, createdAt := 12, issuedAt := 12 } }

def aliceResets (newToken : String) : AuthRequest :=
  .resetPassword
    { token := some "reset-a"
      password := "new-password"
      salt := "salt"
      now := 10
      resetAt := 11
      fresh := { refreshToken := newToken, createdAt := 12, issuedAt := 12 } }

/-- The refresh has found its session when the reset runs from start to end. -/
def overtakenRefresh : List (Label Exception AuthRequest) :=
  [.start (aliceRefreshes "token-a" "token-b"), .step 0] ++
    .start (aliceResets "token-c") :: List.replicate 8 (.step 1) ++ List.replicate 4 (.step 0)

/-- The refresh has ended when the reset starts; the session of the reset is
exchanged afterwards. -/
def orderlyReset : List (Label Exception AuthRequest) :=
  .start (aliceRefreshes "token-a" "token-b") :: List.replicate 5 (.step 0) ++
    .start (aliceResets "token-c") :: List.replicate 8 (.step 1) ++
    .start (aliceRefreshes "token-c" "token-d") :: List.replicate 5 (.step 2)

/-- The user whose sessions the request has revoked, once it has returned. -/
def returnedFor (s : AuthSnapshot) (pid : ℕ) : Option String :=
  match s.procs[pid]? with
  | some (request, .ret reply) => revokedUser request reply
  | _ => none

theorem returnedFor_some {pid : ℕ} {userId : String} (h : returnedFor s pid = some userId) :
    ∃ request reply, s.procs[pid]? = some (request, .ret reply) ∧
      revokedUser request reply = some userId := by
  unfold returnedFor at h
  split at h
  · grind
  · cases h

def hasReturned : AuthProg AuthReply → Bool
  | .call _ _ => false
  | _ => true

/-- When the sessions of a user are revoked, no other request is in flight. -/
def aloneAtRevocation : AuthSnapshot → Label Exception AuthRequest → Bool
  | s, .step pid =>
    match s.procs[pid]? with
    | some (_, .call (.sessionRevokeAllForUser _ _) _) =>
      s.procs.zipIdx.all fun q => q.2 == pid || hasReturned q.1.2
    | _ => true
  | _, _ => true

theorem othersPowerless_of_alone (h : aloneAtRevocation s l) : othersPowerless s l := by
  cases l with
  | start req | fail pid e => trivial
  | step pid =>
    intro request userId revokedAt k hp j q hj hq
    simp only [aloneAtRevocation, hp] at h
    have hended := List.all_eq_true.mp h (q, j) (List.mem_zipIdx_iff_getElem?.mpr hq)
    simp only [Bool.or_eq_true, beq_iff_eq] at hended
    rcases hended with hpid | hended
    · exact absurd hpid hj
    cases hprog : q.2 with
    | ret a | throw e => trivial
    | call op k =>
      rw [hprog] at hended
      cases hended

theorem revocation_final_orderly :
    ∃ s : AuthSnapshot, (authMachine authEnv).Reaches (fun s l => aloneAtRevocation s l)
        (Machine.initial aliceStore) s ∧
      ∃ m revokedAt count,
        s.log[m]? = some ⟨1, .sessionRevokeAllForUser "alice" revokedAt, .ok count⟩ ∧
        ∀ x ∈ s.store.sessions, x.userId = "alice" → (∃ now, x.active now) →
          IssuedSince authEnv s m 1 "alice" x := by
  have hcheck : ((authMachine authEnv).trace aloneAtRevocation orderlyReset
      (Machine.initial aliceStore)).map (fun s => returnedFor s 1 == some "alice") =
        some true := by decide
  rcases (authMachine authEnv).reaches_of_trace_check hcheck with ⟨s, hrun, hp⟩
  rcases returnedFor_some (beq_iff_eq.mp hp) with ⟨request, reply, hreturned, huser⟩
  refine ⟨s, hrun, ?_⟩
  exact revocation_final (hrun.mono _ fun _ _ h => othersPowerless_of_alone h) hreturned huser

/-- The call is a read of a session by its token. -/
def readsSession (e : Event AuthCall AuthCall.Res Exception) : Bool :=
  match e.op with
  | .sessionFindActive _ _ => true
  | _ => false

/-- The call has issued the session for another request than `pid`. -/
def issuedByOther (pid : ℕ) (x : AuthSession) : Event AuthCall AuthCall.Res Exception → Bool
  | ⟨j, .sessionCreate _, .ok record⟩ => record.toAuthSession == x && j != pid
  | _ => false

def isRefresh : AuthRequest → Bool
  | .refresh _ => true
  | _ => false

/-- The reset has returned, and the session that the refresh got for the old
token is active. -/
theorem refreshed_after_reset : ∃ (s : AuthSnapshot) (request : AuthRequest) (reply : AuthReply),
      (authMachine authEnv).Reaches (fun s l => Machine.anyStep s l)
        (Machine.initial aliceStore) s ∧
      s.procs[1]? = some (request, .ret reply) ∧ revokedUser request reply = some "alice" ∧
      ¬ ∃ m revokedAt count,
        s.log[m]? = some ⟨1, .sessionRevokeAllForUser "alice" revokedAt, .ok count⟩ ∧
        ∀ x ∈ s.store.sessions, x.userId = "alice" → (∃ now, x.active now) →
          IssuedSince authEnv s m 1 "alice" x := by
  have hcheck : ((authMachine authEnv).trace Machine.anyStep overtakenRefresh
      (Machine.initial aliceStore)).map (fun s =>
        returnedFor s 1 == some "alice" && (s.log.head?.map (fun e => e.pid)) == some 0 &&
          (s.procs.head?.map (fun q => isRefresh q.1)) == some true &&
          !(s.log.drop 1).any readsSession &&
          s.store.sessions.any (fun x => x.userId == "alice" && x.active 20 &&
            !s.log.any (issuedByOther 0 x))) = some true := by decide
  rcases (authMachine authEnv).reaches_of_trace_check hcheck with ⟨s, hrun, hp⟩
  simp only [Bool.and_eq_true, beq_iff_eq, Bool.not_eq_true'] at hp
  rcases hp with ⟨⟨⟨⟨hreturned, hhead⟩, hrefresh⟩, hreads⟩, hsession⟩
  rcases returnedFor_some hreturned with ⟨request, reply, hproc, huser⟩
  refine ⟨s, request, reply, hrun, hproc, huser, ?_⟩
  rintro ⟨m, revokedAt, count, hm, hall⟩
  rcases List.any_eq_true.mp hsession with ⟨x, hx, hfacts⟩
  simp only [Bool.and_eq_true, beq_iff_eq, Bool.not_eq_true'] at hfacts
  rcases hfacts with ⟨⟨hx', hactive⟩, hissued⟩
  -- the revocation is not the first call
  have hpos : 1 ≤ m := by
    rcases Nat.eq_zero_or_pos m with rfl | hpos
    · rw [List.head?_eq_getElem?, hm] at hhead
      cases hhead
    · exact hpos
  -- whoever issued the session is the refresh
  have hissuer : ∀ {pid : ℕ}, CreatedSince m pid x s → pid = 0 := by
    rintro pid ⟨data, record, hlog, rfl⟩
    by_contra hne
    have hnone := List.any_eq_false.mp hissued _ (List.mem_of_mem_drop hlog)
    simp [issuedByOther, hne] at hnone
  have hfirst : ∀ {q : AuthRequest × AuthProg AuthReply}, s.procs[0]? = some q →
      isRefresh q.1 = true := by
    intro q hq
    rw [List.head?_eq_getElem?, hq] at hrefresh
    exact Option.some.inj hrefresh
  cases hall x hx hx' ⟨20, hactive⟩ with
  | byReviser hcreated => cases hissuer hcreated
  | byLogin hcreated hrequest | byReset hcreated hrequest =>
    obtain rfl := hissuer hcreated
    cases hfirst hrequest
  | byRefresh hcreated hrequest hread =>
    -- its only look-up was the first call
    have hlate := List.drop_subset_drop_left s.log hpos hread
    have hnone := List.any_eq_false.mp hreads _ hlate
    exact hnone rfl

end QuizMind
