import QuizMind.Access.LastAdmin
import QuizMind.Access.ShutOut

/-! # A suspended user

A suspension sets a column of the user; `login` and `resetPassword` look at it, the other ways
in do not. Once a user has no live session left and no request under way that could still
issue one, a suspension locks the user out until it is lifted (`suspended_stays_out`); a
session that is live when the suspension is written goes on (`refreshed_while_suspended`).
-/

namespace QuizMind

open Async
open Machine (initial)

/-! ## The statement -/

abbrev AccountEvent := Event AccountCall AccountCall.Res Exception

/-- Whether the user is locked out after a call. -/
def lockedAfter (u : String) (locked : Bool) (e : AccountEvent) : Bool :=
  if e.result.isOk then
    if e.op.suspends u then true else if e.op.unsuspends u then false else locked
  else
    locked

/-- An update with `suspend: true` has gone through for the user, and none with
`suspend: false` since. -/
def lockedOut (u : String) (log : List AccountEvent) : Bool := log.foldl (lockedAfter u) false

/-- The user whose credential the request has accepted that returns with this step. -/
def acceptedOf (pid : ℕ) (s s' : AccountRun) : List String :=
  match s.procs[pid]?, s'.procs[pid]? with
  | some (_, .call _ _), some (_, .ret reply) => reply.owners
  | _, _ => []

/-- No credential of a user who is locked out is accepted in this step. -/
def StaysOut (env : AccountEnv) (s : AccountRun) (l : AccountLabel) : Prop :=
  ∀ s', (accountMachine env).next l s = some s' → ∀ u, lockedOut u s.log = true →
    lockedOut u s'.log = true → ∀ pid, u ∉ acceptedOf pid s s'

/-- Nothing is left by which the user could get in. -/
structure NoWayIn (u : String) (s : AccountRun) : Prop where
  sessions : ∀ x ∈ s.store.auth.sessions, x.userId = u → x.revokedAt.isSome
  installationSessions : ∀ x ∈ s.store.extension.sessions, x.revokedAt = none →
    x.userId ≠ u ∧ ¬ Owns u s.store x.extensionInstallationId
  requests : ∀ q ∈ s.procs, Withholds u q.2 s.store

/-- When a suspension is written, nothing is left by which the user could get in. -/
def suspendsShut (s : AccountRun) : AccountLabel → Prop
  | .step pid => ∀ req op k u, s.procs[pid]? = some (req, .call op k) → op.suspends u = true →
      (op.exec s.store).1.isOk = true → NoWayIn u s
  | _ => True

/-! ## The run -/

section Run

variable {u : String} {env : AccountEnv} {s s' : AccountRun} {l : AccountLabel}

/-- The user is shut out, and no running request lets the user in. -/
abbrev ShutAway (env : AccountEnv) (u : String) (s : AccountRun) : Prop :=
  (accountMachine env).AllWithin (ShutOut u) (NoneGained u) (KeepsLock u)
    (fun reply => u ∉ reply.owners) s

/-- Whoever is locked out is shut away. -/
structure LockInv (env : AccountEnv) (s : AccountRun) : Prop where
  tables : ExtensionTables s.store.extension
  locked : ∀ u, lockedOut u s.log = true → ShutAway env u s

theorem lockedOut_append (u : String) (log : List AccountEvent) (e : AccountEvent) :
    lockedOut u (log ++ [e]) = lockedAfter u (lockedOut u log) e := by
  simp [lockedOut]

variable {t : AccountStore}

theorem AccountCall.exec_tables (h : ExtensionTables t.extension) (op : AccountCall) :
    ExtensionTables (op.exec t).2.extension := by
  cases op with
  | auth call | sessionFindById id => exact h
  | extension call => exact h.exec call
  | user call =>
    simp only [AccountCall.exec]
    split
    · cases call with
      | delete id => exact h.cascade id
      | _ => exact h
    · exact h

variable (data : UserUpdateInput)

theorem UserUpdateInput.apply_id (user : AuthUser) : (data.apply user).id = user.id := rfl

theorem UserUpdateInput.apply_apply (user : AuthUser) :
    data.apply (data.apply user) = data.apply user := by
  simp only [UserUpdateInput.apply]
  cases data.displayName <;> cases data.systemRoles <;> cases data.suspendedAt <;> rfl

theorem findUser_updateUser {users : List AuthUser} {id : String} :
    findUser (updateUser users id data) id = (findUser users id).map data.apply := by
  induction users with
  | nil => rfl
  | cons user users ih =>
    by_cases hid : user.id = id
    · simp [findUser, updateUser, hid, UserUpdateInput.apply_id]
    · simp_all [findUser, updateUser]

/-- An update made twice is the update made once. -/
theorem updateUser_twice (users : List AuthUser) (id : String) (data : UserUpdateInput) :
    updateUser (updateUser users id data) id data = updateUser users id data := by
  simp only [updateUser, List.map_map]
  refine List.map_congr_left fun user _ => ?_
  by_cases hid : user.id = id
  · simp [hid, UserUpdateInput.apply_apply]
  · simp [hid]

variable {op : AccountCall}

/-- What a suspension leaves, and that it answers the same when it is made again. -/
theorem suspends_exec (h : op.suspends u = true) (hok : (op.exec t).1.isOk = true) :
    (∃ users, (op.exec t).2 = { t with auth := { t.auth with users := users } } ∧
      ∀ user ∈ users, user.id = u → user.suspendedAt.isSome) ∧
    op.exec (op.exec t).2 = op.exec t := by
  cases op with
  | user call =>
    cases call with
    | findById id | countAdmins | delete id => cases h
    | update id data =>
      simp only [AccountCall.suspends, Bool.and_eq_true, beq_iff_eq] at h
      obtain ⟨rfl, hdata⟩ := h
      cases hfind : findUser t.auth.users id with
      | none => simp [AccountCall.exec, UserCall.exec, hfind, Except.toBool] at hok
      | some user =>
        have hexec : AccountCall.exec (.user (.update id data)) t = (.ok (data.apply user),
              { t with auth := { t.auth with users := updateUser t.auth.users id data } }) := by
          simp [AccountCall.exec, UserCall.exec, hfind, AccountStore.afterUserCall]
        rw [hexec]
        refine ⟨⟨_, rfl, ?_⟩, ?_⟩
        · intro user' hmem hid
          obtain ⟨before, _, rfl⟩ := List.mem_map.mp hmem
          by_cases hrow : before.id = id
          · rw [if_pos hrow]
            obtain ⟨suspendedAt, hsusp⟩ : ∃ x, data.suspendedAt = some (some x) := by
              cases hx : data.suspendedAt with
              | none => simp [hx] at hdata
              | some x =>
                cases x with
                | none => simp [hx] at hdata
                | some x => exact ⟨x, rfl⟩
            simp [UserUpdateInput.apply, hsusp]
          · grind
        · grind [AccountCall.exec, UserCall.exec, findUser_updateUser, AccountStore.afterUserCall, updateUser_twice]
  | _ => cases h

theorem unsuspends_of_suspends (h : op.suspends u = true) : op.unsuspends u = false := by
  cases op with
  | user call =>
    cases call with
    | update id data => grind [AccountCall.suspends, AccountCall.unsuspends]
    | _ => rfl
  | _ => rfl

/-- The suspension itself: what was within before it is within after it. -/
theorem shutAway_of_suspends (htables : ExtensionTables s.store.extension) {pid : ℕ}
    {req : AccountRequest} {k : Except Exception op.Res → AccountProg AccountReply}
    (hp : s.procs[pid]? = some (req, .call op k)) (hsuspends : op.suspends u = true)
    (hok : (op.exec s.store).1.isOk = true) (hno : NoWayIn u s) (log : List AccountEvent) :
    ShutAway env u
      { store := (op.exec s.store).2
        procs := s.procs.set pid (req, k (op.exec s.store).1)
        log := log } := by
  obtain ⟨⟨users, hstore, hsusp⟩, htwice⟩ := suspends_exec hsuspends hok
  have hshut : ShutOut u (op.exec s.store).2 := by
    rw [hstore]
    exact ⟨htables, hsusp, hno.sessions, hno.installationSessions⟩
  have hgained : NoneGained u s.store (op.exec s.store).2 := by
    rw [hstore]
    exact fun _ howns => howns
  refine ⟨hshut, ?_⟩
  intro q hq
  rcases List.mem_or_eq_of_mem_set hq with hold | hnew
  · have hbefore : Withholds u q.2 s.store := hno.requests q hold
    exact hbefore.stable (fun a b c => @NoneGained.trans u a b c) hgained
  -- the rest of the request is that after the same update made in the later store
  have hreq := hno.requests _ (List.mem_of_getElem? hp) _ hgained hshut
  have hlock : KeepsLock u op (op.exec s.store).2 := by
    intro hlifts
    rw [unsuspends_of_suspends hsuspends] at hlifts
    cases hlifts
  obtain ⟨-, -, hrest⟩ := hreq.1 hlock
  rw [htwice] at hrest
  rw [hnew]
  exact hrest

/-- A step that does not lift the suspension. -/
theorem ShutAway.next (h : ShutAway env u s) (hnext : (accountMachine env).next l s = some s')
    (hlock : ∀ pid req op k, l = .step pid → s.procs[pid]? = some (req, .call op k) →
      KeepsLock u op s.store) : ShutAway env u s' :=
  (accountMachine env).allWithin_next (NoneGained.refl u) (fun a b c => @NoneGained.trans u a b c)
    (fun req t => accountCode_withholds env req t) hnext hlock h

/-- A call that goes through either suspends the user, or the user was locked out before and
it does not lift that. -/
theorem lockedAfter_ok {locked : Bool} {pid : ℕ}
    (h : lockedAfter u locked ⟨pid, op, (op.exec t).1⟩ = true) :
    ((op.exec t).1.isOk = true ∧ op.suspends u = true) ∨ (locked = true ∧ KeepsLock u op t) := by
  simp only [lockedAfter] at h
  by_cases hok : (op.exec t).1.isOk = true
  · rw [if_pos hok] at h
    by_cases hsuspends : op.suspends u = true
    · exact Or.inl ⟨hok, hsuspends⟩
    rw [if_neg hsuspends] at h
    by_cases hlifts : op.unsuspends u = true
    · rw [if_pos hlifts] at h
      cases h
    · rw [if_neg hlifts] at h
      exact Or.inr ⟨h, fun hlifts' => absurd hlifts' hlifts⟩
  · rw [if_neg hok] at h
    exact Or.inr ⟨h, fun _ => by simpa using hok⟩

theorem LockInv.next (h : LockInv env s) (hC : suspendsShut s l)
    (hnext : (accountMachine env).next l s = some s') : LockInv env s' := by
  rcases (accountMachine env).next_cases hnext with ⟨req, rfl, hs'⟩ | ⟨pid, req, op, k, rfl, hp, hs'⟩ |
    ⟨pid, e, req, op, k, rfl, hp, hs'⟩
  · -- a request arrives
    refine ⟨by rw [hs']; exact h.tables, ?_⟩
    intro u hlocked
    rw [hs'] at hlocked
    refine (h.locked u hlocked).next hnext ?_
    intro pid req' op k hl
    cases hl
  · -- a call is made
    have htables : ExtensionTables s'.store.extension := by
      rw [hs']
      exact AccountCall.exec_tables h.tables op
    refine ⟨htables, ?_⟩
    intro u hlocked
    have hafter : lockedAfter u (lockedOut u s.log) ⟨pid, op, (op.exec s.store).1⟩ = true := by
      rw [hs', lockedOut_append] at hlocked
      exact hlocked
    rcases lockedAfter_ok hafter with ⟨hok, hsuspends⟩ | ⟨hbefore, hkeeps⟩
    · rw [hs']
      exact shutAway_of_suspends h.tables hp hsuspends hok (hC req op k u hp hsuspends hok) _
    refine (h.locked u hbefore).next hnext ?_
    intro pid' req' op' k' hl hp'
    obtain rfl := Label.step.inj hl
    rw [hp] at hp'
    cases hp'
    exact hkeeps
  · -- a call fails
    refine ⟨by rw [hs']; exact h.tables, ?_⟩
    intro u hlocked
    rw [hs', lockedOut_append] at hlocked
    refine (h.locked u hlocked).next hnext ?_
    intro pid' req' op' k' hl
    cases hl

/-- After such a step nobody gets in who is locked out. -/
theorem LockInv.staysOut (h : LockInv env s) (hC : suspendsShut s l) : StaysOut env s l := by
  intro s' hnext u _ hlocked pid hacc
  have hall := ((h.next hC hnext).locked u hlocked).2
  simp only [acceptedOf] at hacc
  split at hacc
  · rename_i req' reply _ hreturned
    have hwithin := hall _ (List.mem_of_getElem? hreturned)
    exact hwithin hacc
  · cases hacc

theorem LockInv.run (h : LockInv env s) {labels : List AccountLabel}
    (hC : (accountMachine env).AllSteps suspendsShut labels s) :
    (accountMachine env).AllSteps (StaysOut env) labels s := by
  induction labels generalizing s with
  | nil => trivial
  | cons l labels ih =>
    intro s' hnext
    obtain ⟨hshut, hrest⟩ := hC s' hnext
    exact ⟨h.staysOut hshut, ih (h.next hshut hnext) hrest⟩

end Run

/-- In every run in which nothing is left by which the user could get in when a suspension is
written, nobody gets in who is suspended. -/
theorem suspended_stays_out (env : AccountEnv) (start : AccountStore)
    (htables : ExtensionTables start.extension) (labels : List AccountLabel)
    (h : (accountMachine env).AllSteps suspendsShut labels (initial start)) :
    (accountMachine env).AllSteps (StaysOut env) labels (initial start) := by
  refine LockInv.run ⟨htables, ?_⟩ h
  -- nobody is locked out at the start
  intro u hlocked
  cases hlocked

/-! ## Admin requests -/

/-- What is left of an admin request: calls on the users, and a reply that shows no
session. -/
def OnlyUsers : AccountProg AccountReply → Prop
  | .ret reply => reply.owners = []
  | .throw _ => True
  | .call op k => (∃ call, op = .user call) ∧ ∀ r, OnlyUsers (k r)

theorem onlyUsers_ofUser {α : Type} {f : α → AccountReply} (hf : ∀ a, (f a).owners = [])
    (p : UserProg α) : OnlyUsers (ofUser p >>= fun a => .ret (f a)) := by
  induction p with
  | ret a => exact hf a
  | throw e => trivial
  | call op k ih => exact ⟨⟨op, rfl⟩, fun r => ih _⟩

variable {p : AccountProg AccountReply}

theorem OnlyUsers.withholds {u : String} (h : OnlyUsers p)
    (s : AccountStore) : Withholds u p s := by
  induction p generalizing s with
  | ret reply =>
    intro howner
    rw [h] at howner
    cases howner
  | throw e => trivial
  | call op k ih =>
    obtain ⟨⟨call, rfl⟩, hk⟩ := h
    intro t _ hshut
    refine ⟨?_, fun e => ih _ (hk (.error e)) _⟩
    intro hlock
    have hfree : ¬ Grants u (.user call) t := fun hgrants => hgrants
    obtain ⟨hshut', hgained⟩ := hshut.exec hfree hlock
    exact ⟨hshut', hgained, ih _ (hk _) _⟩

/-- Nobody has a session, and the running requests are admin requests or have not begun. -/
structure Calm (env : AccountEnv) (s : AccountRun) : Prop where
  sessions : s.store.auth.sessions = []
  installationSessions : s.store.extension.sessions = []
  requests : ∀ q ∈ s.procs, OnlyUsers q.2 ∨ q.2 = accountCode env q.1

variable {env : AccountEnv} {s : AccountRun}

theorem Calm.suspendsShut (h : Calm env s) (l : AccountLabel) : suspendsShut s l := by
  cases l with
  | start req | fail pid e => trivial
  | step pid =>
    intro req op k u _ _ _
    refine ⟨?_, ?_, ?_⟩
    · intro x hx
      rw [h.sessions] at hx
      cases hx
    · simp_all [h.installationSessions]
    · intro q hq
      rcases h.requests q hq with honly | hfresh
      · exact honly.withholds _
      · rw [hfresh]
        exact accountCode_withholds env q.1 _

theorem Calm.start {s' : AccountRun} (h : Calm env s) {req : AccountRequest}
    (hnext : (accountMachine env).next (.start req) s = some s') : Calm env s' := by
  obtain rfl := Option.some.inj hnext
  refine ⟨h.sessions, h.installationSessions, ?_⟩
  intro q hq
  rcases List.mem_append.mp hq with hold | hnew
  · exact h.requests q hold
  · rw [List.mem_singleton.mp hnew]
    exact Or.inr rfl

/-- A step of an admin request. -/
theorem Calm.step {s' : AccountRun} (h : Calm env s) {pid : ℕ}
    {req : AccountRequest} (hp : s.procs[pid]? = some (req, p))
    (honly : OnlyUsers p) (hnext : (accountMachine env).next (.step pid) s = some s') :
    Calm env s' ∧ ∃ p', s'.procs[pid]? = some (req, p') ∧ OnlyUsers p' := by
  rcases (accountMachine env).next_cases hnext with ⟨req, hl, _⟩ | ⟨pid', req', op, k, hl, hp', hs'⟩ |
    ⟨pid', e, req, op, k, hl, _⟩
  · cases hl
  · obtain rfl := Label.step.inj hl
    rw [hp] at hp'
    cases hp'
    obtain ⟨⟨call, rfl⟩, hk⟩ := honly
    have hstore : s'.store.auth.sessions = [] ∧ s'.store.extension.sessions = [] := by
      rw [hs']
      simp only [accountMachine, AccountCall.exec]
      split
      · cases call <;> simp [AccountStore.afterUserCall, AccountStore.cascade, h.sessions,
          h.installationSessions]
      · exact ⟨h.sessions, h.installationSessions⟩
    have hlt : pid < s.procs.length := (List.getElem?_eq_some_iff.mp hp).1
    refine ⟨⟨hstore.1, hstore.2, ?_⟩, _, by rw [hs']; exact List.getElem?_set_self hlt, hk _⟩
    intro q hq
    rw [hs'] at hq
    rcases List.mem_or_eq_of_mem_set hq with hold | hnew
    · exact h.requests q hold
    · rw [hnew]
      exact Or.inl (hk _)
  · cases hl

/-! ## Two runs -/

def accountEnv : AccountEnv where
  auth :=
    { runtimeMode := .connected
      toLowerCase := id
      hashOpaqueToken := id
      hashPassword := fun password _ => password
      verifyPassword := fun password passwordHash => password == passwordHash
      signAccessToken := fun claims _ _ => claims.userId }
  extension :=
    { extensionSessionTtlMinutes := 60
      hashOpaqueToken := id }
  verifyAccessToken := fun _ _ => none

def carol : AuthUser where
  id := "carol"
  email := "carol@example.com"
  passwordHash := some "secret"
  emailVerifiedAt := none
  displayName := none
  suspendedAt := none
  lastLoginAt := none
  systemRoles := []

/-- Carol with these sessions. -/
def carolStore (sessions : List AuthSession) : AccountStore where
  auth :=
    { users := [carol]
      sessions := sessions
      passwordResets := []
      retentionPolicy := none
      fresh := 10 }
  extension :=
    { installations := []
      sessions := []
      retentionPolicy := none
      fresh := 0 }

theorem carol_tables (sessions : List AuthSession) :
    ExtensionTables (carolStore sessions).extension := by
  constructor
  · exact List.nodup_nil
  · exact List.nodup_nil
  · intro i hi
    cases hi
  · intro x hx
    cases hx

def suspendCarol : AccountRequest :=
  .updateUserAccess 5 (adminSession "alice")
    (some (.object [("userId", .string "carol"), ("suspend", .bool true)]))

def carolLogsIn : AccountRequest :=
  .auth (.login
    { email := some "carol@example.com"
      password := "secret"
      now := 6
      fresh := { refreshToken := "b", createdAt := 6, issuedAt := 6 } })

def suspendThenLogin : List AccountLabel :=
  [.start suspendCarol, .step 0, .step 0, .start carolLogsIn, .step 1]

theorem suspended_stays_out_login :
    (accountMachine accountEnv).AllSteps (StaysOut accountEnv) suspendThenLogin
      (initial (carolStore [])) := by
  refine suspended_stays_out accountEnv (carolStore []) (carol_tables []) suspendThenLogin ?_
  have h₀ : Calm accountEnv (initial (carolStore [])) :=
    ⟨rfl, rfl, fun q hq => absurd hq List.not_mem_nil⟩
  intro s₁ hnext₁
  refine ⟨h₀.suspendsShut _, ?_⟩
  have h₁ := h₀.start hnext₁
  obtain rfl := Option.some.inj hnext₁
  have honly : OnlyUsers (accountCode accountEnv suspendCarol) :=
    onlyUsers_ofUser (fun _ => rfl) _
  intro s₂ hnext₂
  refine ⟨h₁.suspendsShut _, ?_⟩
  obtain ⟨h₂, p₂, hp₂, honly₂⟩ := h₁.step rfl honly hnext₂
  intro s₃ hnext₃
  refine ⟨h₂.suspendsShut _, ?_⟩
  obtain ⟨h₃, -⟩ := h₂.step hp₂ honly₂ hnext₃
  intro s₄ hnext₄
  refine ⟨h₃.suspendsShut _, ?_⟩
  intro s₅ _
  exact ⟨(h₃.start hnext₄).suspendsShut _, trivial⟩

/-- Carol has a session that is live when the suspension is written, and refreshes it. -/
def suspendThenRefresh : List AccountLabel :=
  [.start suspendCarol, .step 0, .step 0, .start (.auth (.refresh
      { refreshToken := "a"
        now := 6
        revokedAt := 6
        fresh := { refreshToken := "b", createdAt := 6, issuedAt := 6 } })),
    .step 1, .step 1, .step 1, .step 1]

/-- What `accountCode` does when the access decision lets admin requests through. -/
def grantedAccountCode (env : AccountEnv) : AccountRequest → AccountProg AccountReply
  | .updateUserAccess now _ request => do
      let user ← ofUser (updateUserAccess now request)
      return .userUpdated user
  | request => accountCode env request

theorem accountCode_of_admin (env : AccountEnv) (now : ℤ) {session : CurrentSessionSnapshot}
    (body : Option Json) (hadmin : SystemRole.admin ∈ session.principal.systemRoles) :
    accountCode env (.updateUserAccess now session body) =
      grantedAccountCode env (.updateUserAccess now session body) := by
  have hallowed : requireAccess (canUpdateUsers session.principal) = .ok () :=
    (requireAccess_of_admin (by decide)).mpr hadmin
  simp only [accountCode, updateUserAccessForCurrentSession, hallowed]
  rfl

def grantedAccountMachine (env : AccountEnv) :
    Machine AccountCall AccountCall.Res Exception AccountReply AccountStore AccountRequest where
  exec := AccountCall.exec
  code := grantedAccountCode env

theorem trace_granted {C : AccountRun → AccountLabel → Bool} (env : AccountEnv)
    {labels : List AccountLabel}
    (h : ∀ request, .start request ∈ labels → accountCode env request =
      grantedAccountCode env request) (s : AccountRun) :
    (accountMachine env).trace C labels s = (grantedAccountMachine env).trace C labels s := by
  have hexec : (accountMachine env).exec = (grantedAccountMachine env).exec := rfl
  exact (grantedAccountMachine env).trace_congr hexec h s

theorem refreshed_while_suspended :
    ¬ ∀ (env : AccountEnv) (start : AccountStore), ExtensionTables start.extension →
      ∀ labels : List AccountLabel,
        (accountMachine env).AllSteps (StaysOut env) labels (initial start) := by
  intro h
  have hall := h accountEnv
    (carolStore [{ userId := "carol", tokenHash := "a", expiresAt := 100, id := 1,
                   revokedAt := none }])
    (carol_tables _) (suspendThenRefresh ++ [.step 1])
  have hcode : ∀ request, .start request ∈ suspendThenRefresh →
      accountCode accountEnv request = grantedAccountCode accountEnv request := by
    intro request hrequest
    simp only [suspendThenRefresh, List.mem_cons, Label.start.injEq, reduceCtorEq, List.not_mem_nil,
      or_false, false_or] at hrequest
    rcases hrequest with rfl | rfl
    · exact accountCode_of_admin accountEnv 5 _ (by simp [adminSession])
    · rfl
  have hend : ((accountMachine accountEnv).trace Machine.anyStep suspendThenRefresh
      (initial (carolStore [{ userId := "carol", tokenHash := "a", expiresAt := 100,
                                      id := 1, revokedAt := none }]))).bind
      (fun t => ((accountMachine accountEnv).next (.step 1) t).map fun t' =>
        (lockedOut "carol" t.log, lockedOut "carol" t'.log, acceptedOf 1 t t')) =
      some (true, true, ["carol"]) := by
    rw [trace_granted accountEnv hcode]
    decide
  obtain ⟨t, htrace, hlast⟩ := Option.bind_eq_some_iff.mp hend
  obtain ⟨t', hnext, hfacts⟩ := Option.map_eq_some_iff.mp hlast
  simp only [Prod.mk.injEq] at hfacts
  have hstays := (accountMachine accountEnv).allSteps_last hall htrace hnext
  refine hstays t' hnext "carol" hfacts.1 hfacts.2.1 1 ?_
  rw [hfacts.2.2]
  exact List.mem_singleton_self _

end QuizMind
