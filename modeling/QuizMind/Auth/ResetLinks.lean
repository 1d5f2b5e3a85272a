import QuizMind.Auth.SingleUse
import QuizMind.Async.Obligations

/-! # Password reset links

`requestPasswordReset` and `resetPassword` over one set of tables. A request for a link marks
the user's older tokens as used and then creates the new one, in two calls; a reset marks the
token that it presents.

* Two requests for a link can both create theirs, and a token that is created while a reset
  is running outlives it (`links_outlive_reset`).
* Where a token is created only when the user has no usable one and no reset of the user is
  running, only unused tokens are marked, and no look-up finds a token that had expired before,
  there is at most one usable token, and a reset ends all the tokens that were there
  (`old_links_die`).

What an email says, apart from the token, is left out.
-/

namespace QuizMind

open Async
open Bool (and_eq_true)
open List (mem_append_left not_mem_nil replicate)
open Machine (anyStep)

/-! ## Calls -/

structure CreatePasswordResetInput where
  userId : String
  tokenHash : String
  expiresAt : ℤ

structure PasswordStore where
  auth : AuthStore
  /-- `passwordResetLifetimeHours` of the retention policy -/
  passwordResetLifetimeHours : Option ℕ

def passwordResetLifetimeHours : ℕ := 1

inductive PasswordCall where
  | auth (call : AuthCall)
  | passwordResetLifetimeFind
  | resetInvalidateActiveForUser (userId : String) (usedAt : ℤ)
  | resetCreate (data : CreatePasswordResetInput)
  /-- the email with the link, by the queue -/
  | dispatchEmail (recipient token : String)
  /-- the same, sent directly -/
  | sendTemplatedEmail (recipient token : String)

abbrev PasswordCall.Res : PasswordCall → Type
  | .auth call => call.Res
  | .passwordResetLifetimeFind => ℕ
  | .resetInvalidateActiveForUser _ _ => ℕ
  | .resetCreate _ => PasswordReset
  | .dispatchEmail _ _ => Unit
  | .sendTemplatedEmail _ _ => Unit

/-- The resets that satisfy `p` are marked as used. -/
def AuthStore.markResets (s : AuthStore) (p : PasswordReset → Bool) (usedAt : ℤ) : AuthStore :=
  { s with passwordResets := s.passwordResets.map (fun x =>
      if p x then { x with usedAt := some usedAt } else x) }

def CreatePasswordResetInput.row (data : CreatePasswordResetInput) (id : ℕ) : PasswordReset where
  id := id
  userId := data.userId
  tokenHash := data.tokenHash
  expiresAt := data.expiresAt
  usedAt := none

def AuthStore.insertReset (s : AuthStore) (data : CreatePasswordResetInput) : AuthStore :=
  { s with
    passwordResets := s.passwordResets ++ [data.row s.fresh]
    fresh := s.fresh + 1 }

def PasswordCall.exec : (call : PasswordCall) → PasswordStore →
    Except Exception call.Res × PasswordStore
  | .auth call, s =>
    let out := call.exec s.auth
    (out.1, { s with auth := out.2 })
  | .passwordResetLifetimeFind, s =>
    (.ok (s.passwordResetLifetimeHours.getD passwordResetLifetimeHours), s)
  | .resetInvalidateActiveForUser userId usedAt, s =>
    let live : PasswordReset → Bool := fun x => x.userId == userId && x.active usedAt
    (.ok (s.auth.passwordResets.countP live), { s with auth := s.auth.markResets live usedAt })
  | .resetCreate data, s =>
    if (s.auth.userById data.userId).isNone then (.error (.prisma "P2003"), s)
    else if s.auth.passwordResets.any fun x => x.tokenHash == data.tokenHash then
      (.error (.prisma "P2002"), s)
    else (.ok (data.row s.auth.fresh), { s with auth := s.auth.insertReset data })
  | .dispatchEmail _ _, s => (.ok (), s)
  | .sendTemplatedEmail _ _, s => (.ok (), s)

abbrev PasswordProg := Prog PasswordCall PasswordCall.Res Exception

abbrev password (call : PasswordCall) : PasswordProg call.Res := Prog.await call

/-! ## Requests -/

structure AuthForgotPasswordRequest where
  email : Option String
  /-- the random token -/
  resetToken : String
  /-- the clock when the life time of the token starts -/
  now : ℤ
  invalidatedAt : ℤ

/-- `/^[^\s@]+@[^\s@]+\.[^\s@]+$/`: one `@`, no white space, and a dot inside the domain. -/
def isEmailAddress (email : String) : Bool :=
  match email.toList.splitOn '@' with
  | [name, domain] =>
    !name.isEmpty && email.toList.all (fun c => !isJsSpace c) &&
      ((domain.drop 1).dropLast.contains '.')
  | _ => false

def assertEmailAddress (email : String) : Except Exception Unit :=
  if isEmailAddress email then .ok ()
  else .error (.badRequest "A valid email address is required.")

def getPasswordResetLifetimeHours : PasswordProg ℕ :=
  tryCatch (password .passwordResetLifetimeFind) fun _ => return passwordResetLifetimeHours

def enqueueEmailDeliveryJob (recipient token : String) : PasswordProg Unit :=
  tryCatch (password (.dispatchEmail recipient token)) fun _ =>
    password (.sendTemplatedEmail recipient token)

structure AuthForgotPasswordResult where
  expiresInMinutes : ℕ

/-- The user to whom a link is sent. -/
def linkRecipient (found : Option AuthUser) : Option AuthUser :=
  found.filter fun user => user.passwordHash.isSome && user.suspendedAt.isNone

def sendResetLink (env : AuthEnv) (request : AuthForgotPasswordRequest) (hours : ℕ)
    (user : AuthUser) : PasswordProg Unit := do
  let _ ← password (.resetInvalidateActiveForUser user.id request.invalidatedAt)
  let _ ← password (.resetCreate
    { userId := user.id
      tokenHash := env.hashOpaqueToken request.resetToken
      expiresAt := request.now + hours * 60 * 60 * 1000 })
  enqueueEmailDeliveryJob user.email request.resetToken

def requestPasswordReset (env : AuthEnv) (request : AuthForgotPasswordRequest) :
    PasswordProg AuthForgotPasswordResult := do
  let _ ← Prog.ofExcept (assertConnectedMode env)
  let email ← Prog.ofExcept (normalizeEmail env request.email)
  let _ ← Prog.ofExcept (assertEmailAddress email)
  let found ← password (.auth (.userFindByEmail email))
  let hours ← getPasswordResetLifetimeHours
  match linkRecipient found with
  | none => return { expiresInMinutes := hours * 60 }
  | some user =>
    sendResetLink env request hours user
    return { expiresInMinutes := hours * 60 }

inductive PasswordRequest where
  | forgot (request : AuthForgotPasswordRequest)
  | reset (request : AuthResetPasswordRequest)

inductive PasswordReply where
  | accepted (result : AuthForgotPasswordResult)
  | auth (reply : AuthReply)

def passwordCode (env : AuthEnv) : PasswordRequest → PasswordProg PasswordReply
  | .forgot request => do
      let result ← requestPasswordReset env request
      return .accepted result
  | .reset request => do
      let reply ← (authCode env (.resetPassword request)).embed PasswordCall.auth fun _ r => r
      return .auth reply

def passwordMachine (env : AuthEnv) :
    Machine PasswordCall PasswordCall.Res Exception PasswordReply PasswordStore PasswordRequest where
  exec := PasswordCall.exec
  code := passwordCode env

abbrev PasswordRun :=
  Snapshot PasswordCall PasswordCall.Res Exception PasswordReply PasswordStore PasswordRequest

abbrev PasswordLabel := Label Exception PasswordRequest

abbrev PasswordTold := Told PasswordCall PasswordCall.Res Exception

abbrev PasswordEvent := Event PasswordCall PasswordCall.Res Exception

/-! ## The statement -/

/-- The clock that a call reads. -/
def PasswordCall.reading : PasswordCall → Option ℤ
  | .auth (.resetFindActive _ now) => some now
  | .resetInvalidateActiveForUser _ usedAt => some usedAt
  | _ => none

/-- The token is unused, and no clock has been read at which it had expired. -/
def usable (log : List PasswordEvent) (x : PasswordReset) : Bool :=
  x.usedAt.isNone && log.all fun e => e.op.reading.all fun now => now < x.expiresAt

/-- The request still runs. -/
def PasswordRun.running (s : PasswordRun) (pid : ℕ) : Bool :=
  match s.procs[pid]? with
  | some (_, .call _ _) => true
  | _ => false

/-- A reset has found the token that it presents. -/
def foundBy : PasswordEvent → Option PasswordReset
  | ⟨_, .auth (.resetFindActive _ _), .ok found⟩ => found
  | _ => none

/-- The request has presented the token. -/
def Presented (s : PasswordRun) (pid : ℕ) (x : PasswordReset) : Prop :=
  ∃ e ∈ s.log, e.pid = pid ∧ foundBy e = some x

/-- No user has two usable tokens. -/
def OneUsable (s : PasswordRun) : Prop :=
  ∀ x ∈ s.store.auth.passwordResets, ∀ y ∈ s.store.auth.passwordResets,
    x.userId = y.userId → usable s.log x → usable s.log y → x = y

/-- The step from `s` to `s'` is the one in which a reset returns. -/
def ResetReturns (pid : ℕ) (s s' : PasswordRun) : Prop :=
  s.running pid ∧ ∃ request reply, s'.procs[pid]? = some (.reset request, .ret reply)

/-- The call at position `i` has changed a password for the token. -/
def LinkUsedAt (s : PasswordRun) (i id : ℕ) : Prop :=
  ∃ pid userId passwordHash user x,
    s.log[i]? = some ⟨pid, .auth (.userSetPassword userId passwordHash), .ok user⟩ ∧
    Presented s pid x ∧ x.id = id

/-- A reset of the user is running that has presented its token. -/
def resetRuns (s : PasswordRun) (userId : String) : Bool :=
  s.log.any fun e => (foundBy e).any fun x => x.userId == userId && s.running e.pid

/-- The token that a look-up finds. -/
def activeReset (s : PasswordStore) (tokenHash : String) (now : ℤ) : Option PasswordReset :=
  s.auth.passwordResets.find? fun x => x.tokenHash == tokenHash && x.active now

/-- A token is created only when the user has no usable one and no reset of the user runs; a
token is marked only when it is unused; and what a look-up finds had not expired before. -/
def keepsLinks (s : PasswordRun) : PasswordLabel → Bool
  | .step pid =>
    match s.procs[pid]? with
    | some (_, .call (.auth (.resetFindActive tokenHash now)) _) =>
      (activeReset s.store tokenHash now).all fun x => usable s.log x
    | some (_, .call (.auth (.resetMarkUsed id _)) _) => unused (.reset id) s.store.auth
    | some (_, .call (.resetCreate data) _) =>
      (s.store.auth.passwordResets.all fun x => x.userId != data.userId || !usable s.log x) &&
        !resetRuns s data.userId
    | _ => true
  | _ => true

/-- The tables at the start: of the tokens of a user at most the youngest is unused. -/
structure LinksStart (s : AuthStore) : Prop where
  nodup : (s.passwordResets.map fun x => x.id).Nodup
  fresh : ∀ x ∈ s.passwordResets, x.id < s.fresh
  older : ∀ x ∈ s.passwordResets, ∀ y ∈ s.passwordResets, x.userId = y.userId → x.id < y.id →
    x.usedAt.isSome

/-! ## The calls of each request -/

/-- The calls on the tables of `AuthService` among what a request has been told. -/
def tellAuth : PasswordTold → Option AuthTold
  | ⟨.auth call, r⟩ => some ⟨call, r⟩
  | _ => none

/-- The answers are those of the repositories. -/
def passwordHonest : (call : PasswordCall) → Except Exception call.Res → Prop
  | .auth call, r => honest call r
  | _, _ => True

/-- A request for a link finds the user, and otherwise makes calls of its own. -/
def ForgotCall : PasswordCall → Prop
  | .auth (.userFindByEmail _) => True
  | .auth _ => False
  | _ => True

def PasswordCalls (env : AuthEnv) : PasswordRequest → List PasswordTold → PasswordCall → Prop
  | .forgot _, _, call => ForgotCall call
  | .reset request, h, call =>
    Prog.EmbedCalls PasswordCall.auth tellAuth (Calls env (.resetPassword request)) h call

def PasswordReturns (env : AuthEnv) : PasswordRequest → List PasswordTold → PasswordReply → Prop
  | .forgot _, _, _ => True
  | .reset request, h, reply => ∃ r, reply = .auth r ∧
      Returns env (.resetPassword request) (h.filterMap tellAuth) r

abbrev PasswordKept (env : AuthEnv) : PasswordRun → Prop :=
  Machine.Kept passwordHonest (PasswordCalls env) (PasswordReturns env)

section Requests

variable {env : AuthEnv}

theorem sendResetLink_safe (request : AuthForgotPasswordRequest) (hours : ℕ) (user : AuthUser) :
    (sendResetLink env request hours user).Safe (fun _ _ => True) ForgotCall := by
  refine Prog.safe_await_bind trivial fun _ _ => ?_
  refine Prog.safe_await_bind trivial fun _ _ => ?_
  exact Prog.safe_handle (Prog.safe_await trivial) fun _ => Prog.safe_await trivial

theorem requestPasswordReset_safe (request : AuthForgotPasswordRequest) :
    (requestPasswordReset env request).Safe (fun _ _ => True) ForgotCall := by
  refine Prog.safe_ofExcept_bind fun _ _ => ?_
  refine Prog.safe_ofExcept_bind fun email _ => ?_
  refine Prog.safe_ofExcept_bind fun _ _ => ?_
  refine Prog.safe_await_bind trivial fun found _ => ?_
  refine Prog.safe_bind (Prog.safe_handle (Prog.safe_await trivial) fun _ => trivial) fun hours => ?_
  cases linkRecipient found with
  | none => trivial
  | some user => exact Prog.safe_bind (sendResetLink_safe request hours user) fun _ => trivial

theorem passwordCode_upholds (request : PasswordRequest) :
    (passwordCode env request).Upholds passwordHonest (PasswordCalls env request)
      (PasswordReturns env request) [] := by
  cases request with
  | forgot request =>
    have hsafe : (passwordCode env (.forgot request)).Safe (fun _ _ => True) ForgotCall :=
      Prog.safe_bind (requestPasswordReset_safe request) fun _ => trivial
    have hmaintains : (passwordCode env (.forgot request)).Maintains passwordHonest
        (fun _ => ForgotCall) (fun _ => True) :=
      Prog.maintains_of_safe (fun _ _ hop _ => hop) (fun _ _ _ _ _ => trivial) hsafe
    exact (hmaintains [] trivial).upholds
  | reset request =>
    have hown : (authCode env (.resetPassword request)).Upholds honest
        (Calls env (.resetPassword request)) (Returns env (.resetPassword request))
        (([] : List PasswordTold).filterMap tellAuth) :=
      authCode_upholds env (.resetPassword request)
    refine Prog.upholds_bind (Prog.Upholds.embed ?_ ?_ hown) ?_
    · intro op r
      cases r <;> rfl
    · intro op r hr
      cases r <;> exact hr
    · intro h' a ha
      exact ⟨a, rfl, ha⟩

theorem PasswordKept.next {s s' : PasswordRun} {l : PasswordLabel}
    (hnext : (passwordMachine env).next l s = some s') (h : PasswordKept env s) :
    PasswordKept env s' := by
  refine Machine.Kept.next (M := passwordMachine env) ?_ ?_ passwordCode_upholds hnext h
  · intro call store
    cases call with
    | auth call => exact exec_honest call store.auth
    | _ => trivial
  intro call e
  cases call with
  | auth call => exact fail_honest call e
  | _ => trivial

end Requests

/-! ## Rows -/

/-- Some rows have been marked as used, and nothing else has changed. -/
def Marking (rows rows' : List PasswordReset) : Prop :=
  ∃ (p : PasswordReset → Bool) (t : ℤ),
    rows' = rows.map fun x => if p x then { x with usedAt := some t } else x

/-- The row is the same one, and used if it was used before. -/
structure SameRow (x x' : PasswordReset) : Prop where
  id : x'.id = x.id
  userId : x'.userId = x.userId
  expiresAt : x'.expiresAt = x.expiresAt
  used : x.usedAt.isSome → x'.usedAt.isSome

theorem SameRow.mark (p : PasswordReset → Bool) (t : ℤ) (x : PasswordReset) :
    SameRow x (if p x then { x with usedAt := some t } else x) := by
  split
  · exact ⟨rfl, rfl, rfl, fun _ => rfl⟩
  · exact ⟨rfl, rfl, rfl, fun h => h⟩

theorem Marking.refl (rows : List PasswordReset) : Marking rows rows :=
  ⟨fun _ => false, 0, by simp⟩

section Marking

variable {rows rows' : List PasswordReset}

theorem Marking.forward (h : Marking rows rows') {x : PasswordReset} (hx : x ∈ rows) :
    ∃ x' ∈ rows', SameRow x x' := by
  rcases h with ⟨p, t, rfl⟩
  exact ⟨_, List.mem_map_of_mem hx, SameRow.mark p t x⟩

theorem Marking.backward (h : Marking rows rows') {x' : PasswordReset} (hx' : x' ∈ rows') :
    ∃ x ∈ rows, SameRow x x' := by
  rcases h with ⟨p, t, rfl⟩
  rcases List.mem_map.mp hx' with ⟨x, hx, rfl⟩
  exact ⟨x, hx, SameRow.mark p t x⟩

theorem Marking.ids (h : Marking rows rows') :
    rows'.map (fun x => x.id) = rows.map fun x => x.id := by
  rcases h with ⟨p, t, rfl⟩
  rw [List.map_map]
  exact List.map_congr_left fun x _ => (SameRow.mark p t x).id

end Marking

/-- Everything a call can do to the resets: it marks some of them, or creates one. -/
theorem PasswordCall.exec_rows (call : PasswordCall) (s : PasswordStore) :
    (Marking s.auth.passwordResets (call.exec s).2.auth.passwordResets ∧
      s.auth.fresh ≤ (call.exec s).2.auth.fresh) ∨
    ∃ data, call = .resetCreate data ∧ (call.exec s).2.auth = s.auth.insertReset data := by
  cases call with
  | auth call =>
    left
    have heff := call.exec_effect s.auth
    show Marking s.auth.passwordResets (call.exec s.auth).2.passwordResets ∧
      s.auth.fresh ≤ (call.exec s.auth).2.fresh
    generalize (call.exec s.auth).1 = r at heff
    generalize (call.exec s.auth).2 = s' at heff
    cases heff with
    | @markUsed id usedAt x =>
      exact ⟨⟨fun x => x.id = id, usedAt, by simp [AuthStore.useReset]⟩, Nat.le_refl _⟩
    | create => exact ⟨Marking.refl _, Nat.le_succ _⟩
    | _ => exact ⟨Marking.refl _, Nat.le_refl _⟩
  | resetInvalidateActiveForUser userId usedAt =>
    exact Or.inl ⟨⟨fun x => x.userId == userId && x.active usedAt, usedAt, rfl⟩, Nat.le_refl _⟩
  | resetCreate data =>
    simp only [PasswordCall.exec]
    split
    · exact Or.inl ⟨Marking.refl _, Nat.le_refl _⟩
    split
    · exact Or.inl ⟨Marking.refl _, Nat.le_refl _⟩
    · exact Or.inr ⟨data, rfl, rfl⟩
  | _ => exact Or.inl ⟨Marking.refl _, Nat.le_refl _⟩

variable {x : PasswordReset}

theorem usable_mono {log log' : List PasswordEvent} (hlog : log <+: log') {x' : PasswordReset}
    (hrow : SameRow x x') (h : usable log x = false) : usable log' x' = false := by
  rw [← Bool.not_eq_true] at h ⊢
  intro h'
  apply h
  simp only [usable, and_eq_true, List.all_eq_true] at h' ⊢
  refine ⟨?_, fun e he => ?_⟩
  · cases hused : x.usedAt with
    | none => rfl
    | some t =>
      have hused' := hrow.used (by rw [hused]; rfl)
      rw [Option.isNone_iff_eq_none] at h'
      rw [h'.1] at hused'
      cases hused'
  · rw [← hrow.expiresAt]
    exact h'.2 e (hlog.mem he)

/-! ## What a run keeps -/

/-- A reset has marked its token. -/
def markedBy : PasswordEvent → Option ℕ
  | ⟨_, .auth (.resetMarkUsed id _), .ok _⟩ => some id
  | _ => none

/-- Of two tokens of a user the older one cannot be used any more, and no running reset has
presented it; what has been marked is used, and no two requests have marked it. -/
structure LinksInv (env : AuthEnv) (s : PasswordRun) : Prop where
  kept : PasswordKept env s
  nodup : (s.store.auth.passwordResets.map fun x => x.id).Nodup
  fresh : ∀ x ∈ s.store.auth.passwordResets, x.id < s.store.auth.fresh
  stale : ∀ x ∈ s.store.auth.passwordResets, ∀ y ∈ s.store.auth.passwordResets,
    x.userId = y.userId → x.id < y.id → usable s.log x = false
  newest : ∀ e ∈ s.log, ∀ r, foundBy e = some r → s.running e.pid →
    ∀ x ∈ s.store.auth.passwordResets, x.userId = r.userId → x.id ≤ r.id
  found : ∀ e ∈ s.log, ∀ r, foundBy e = some r →
    ∃ x ∈ s.store.auth.passwordResets, x.id = r.id ∧ x.userId = r.userId
  marked : ∀ e ∈ s.log, ∀ id, markedBy e = some id →
    ∃ x ∈ s.store.auth.passwordResets, x.id = id ∧ x.usedAt.isSome
  once : ∀ e ∈ s.log, ∀ e' ∈ s.log, ∀ id, markedBy e = some id → markedBy e' = some id →
    e.pid = e'.pid

section Runs

variable {env : AuthEnv} {s s' : PasswordRun} {l : PasswordLabel}

variable {store : PasswordStore}

theorem linksInv_initial (h : LinksStart store.auth) : LinksInv env (Machine.initial store) where
  kept := Machine.Kept.initial store
  nodup := h.nodup
  fresh := h.fresh
  stale := by
    intro x hx y hy huser hlt
    have hused := h.older x hx y hy huser hlt
    rw [← Option.not_isNone, Bool.not_eq_true'] at hused
    simp [usable, hused]
  newest := fun e he => absurd he not_mem_nil
  found := fun e he => absurd he not_mem_nil
  marked := fun e he => absurd he not_mem_nil
  once := fun e he => absurd he not_mem_nil

/-- A request that has made a call has been received. -/
theorem LinksInv.received (h : LinksInv env s) {e : PasswordEvent} (he : e ∈ s.log) :
    e.pid < s.procs.length := by
  rcases List.mem_iff_getElem?.mp he with ⟨i, hi⟩
  rcases h.kept.events i e hi with ⟨q, hq, -⟩
  exact (List.getElem?_eq_some_iff.mp hq).1

/-- A row is told by its id. -/
theorem LinksInv.row_eq (h : LinksInv env s) {x y : PasswordReset}
    (hx : x ∈ s.store.auth.passwordResets) (hy : y ∈ s.store.auth.passwordResets)
    (hid : x.id = y.id) : x = y :=
  List.inj_on_of_nodup_map h.nodup hx hy hid

variable {pid : ℕ}

/-- A request that runs after a step and was there before it ran before it. -/
theorem running_of_next {M : Machine PasswordCall PasswordCall.Res Exception PasswordReply
      PasswordStore PasswordRequest} (hnext : M.next l s = some s')
    (hpid : pid < s.procs.length) (hrun : s'.running pid) : s.running pid := by
  have hset : ∀ (pid' : ℕ) (req : PasswordRequest) (op : PasswordCall)
      (k : Except Exception op.Res → PasswordProg PasswordReply) (p : PasswordProg PasswordReply),
      s.procs[pid']? = some (req, .call op k) →
      (match (s.procs.set pid' (req, p))[pid]? with
        | some (_, .call _ _) => true
        | _ => false) = true → s.running pid := by
    grind [PasswordRun.running]
  rcases M.next_cases hnext with ⟨req, rfl, rfl⟩ | ⟨pid', req, op, k, rfl, hp, rfl⟩ |
    ⟨pid', e, req, op, k, rfl, hp, rfl⟩
  · simpa [PasswordRun.running, List.getElem?_append_left hpid] using hrun
  all_goals exact hset pid' req op k _ hp hrun

/-- What holds of the new event and the rows after it, for a step that creates no token. -/
theorem LinksInv.append (h : LinksInv env s) (hkept : PasswordKept env s') {ev : PasswordEvent}
    (hlog : s'.log = s.log ++ [ev])
    (hrows : Marking s.store.auth.passwordResets s'.store.auth.passwordResets)
    (hfresh : s.store.auth.fresh ≤ s'.store.auth.fresh)
    (hrun : ∀ pid < s.procs.length, s'.running pid → s.running pid)
    (hfound : ∀ r, foundBy ev = some r → r ∈ s.store.auth.passwordResets ∧
      ∀ x ∈ s.store.auth.passwordResets, x.userId = r.userId → x.id ≤ r.id)
    (hmarked : ∀ id, markedBy ev = some id →
      (∃ x ∈ s'.store.auth.passwordResets, x.id = id ∧ x.usedAt.isSome) ∧
        ∀ x ∈ s.store.auth.passwordResets, x.id = id → x.usedAt = none) : LinksInv env s' := by
  have hgrow : s.log <+: s'.log := hlog ▸ List.prefix_append _ _
  refine ⟨hkept, ?_, ?_, ?_, ?_, ?_, ?_, ?_⟩
  · rw [hrows.ids]
    exact h.nodup
  · intro x' hx'
    rcases hrows.backward hx' with ⟨x, hx, hsame⟩
    rw [hsame.id]
    exact Nat.lt_of_lt_of_le (h.fresh x hx) hfresh
  · intro x' hx' y' hy' huser hlt
    rcases hrows.backward hx' with ⟨x, hx, hsame⟩
    rcases hrows.backward hy' with ⟨y, hy, hsame'⟩
    rw [hsame.userId, hsame'.userId] at huser
    rw [hsame.id, hsame'.id] at hlt
    exact usable_mono hgrow hsame (h.stale x hx y hy huser hlt)
  · intro e he r hr hrunning x' hx' huser
    rcases hrows.backward hx' with ⟨x, hx, hsame⟩
    rw [hsame.userId] at huser
    rw [hsame.id]
    rw [hlog] at he
    rcases List.mem_append.mp he with hold | hnew
    · exact h.newest e hold r hr (hrun e.pid (h.received hold) hrunning) x hx huser
    · grind
  · intro e he r hr
    have hrow : ∃ x ∈ s.store.auth.passwordResets, x.id = r.id ∧ x.userId = r.userId := by
      rw [hlog] at he
      rcases List.mem_append.mp he with hold | hnew
      · exact h.found e hold r hr
      · grind
    rcases hrow with ⟨x, hx, hid, huser⟩
    rcases hrows.forward hx with ⟨x', hx', hsame⟩
    exact ⟨x', hx', hsame.id.trans hid, hsame.userId.trans huser⟩
  · intro e he id hid
    rw [hlog] at he
    rcases List.mem_append.mp he with hold | hnew
    · rcases h.marked e hold id hid with ⟨x, hx, rfl, hused⟩
      rcases hrows.forward hx with ⟨x', hx', hsame⟩
      exact ⟨x', hx', hsame.id, hsame.used hused⟩
    · grind
  · intro e he e' he' id hid hid'
    -- a token that is marked now has not been marked before
    have hnever : markedBy ev = some id → ∀ e ∈ s.log, markedBy e ≠ some id := by
      intro hev e hold hmark
      rcases h.marked e hold id hmark with ⟨x, hx, hxid, hused⟩
      rw [(hmarked id hev).2 x hx hxid] at hused
      cases hused
    rw [hlog] at he he'
    rcases List.mem_append.mp he with hold | hnew
    · rcases List.mem_append.mp he' with hold' | hnew'
      · exact h.once e hold e' hold' id hid hid'
      · grind
    · grind

/-- The rows after a token has been created for a user who has no usable one. -/
theorem LinksInv.create (h : LinksInv env s) (hkept : PasswordKept env s')
    {ev : PasswordEvent} {data : CreatePasswordResetInput} (hlog : s'.log = s.log ++ [ev])
    (hstore : s'.store.auth = s.store.auth.insertReset data)
    (hrun : ∀ pid < s.procs.length, s'.running pid → s.running pid)
    (hfound : foundBy ev = none) (hmarked : markedBy ev = none)
    (husable : ∀ x ∈ s.store.auth.passwordResets, x.userId = data.userId → usable s.log x = false)
    (hresets : resetRuns s data.userId = false) : LinksInv env s' := by
  have hgrow : s.log <+: s'.log := hlog ▸ List.prefix_append _ _
  have hrows : s'.store.auth.passwordResets =
      s.store.auth.passwordResets ++ [data.row s.store.auth.fresh] := by rw [hstore]; rfl
  have hold : ∀ e ∈ s'.log, (foundBy e).isSome ∨ (markedBy e).isSome → e ∈ s.log := by grind
  refine ⟨hkept, ?_, ?_, ?_, ?_, ?_, ?_, ?_⟩
  · rw [hrows, List.map_append, List.map_singleton, List.nodup_append]
    refine ⟨h.nodup, List.nodup_singleton _, ?_⟩
    intro id hid id' hid' heq
    rcases List.mem_map.mp hid with ⟨x, hx, rfl⟩
    rw [List.mem_singleton] at hid'
    exact absurd (heq.trans hid') (Nat.ne_of_lt (h.fresh x hx))
  · intro x hx
    have hfresh : s'.store.auth.fresh = s.store.auth.fresh + 1 := by rw [hstore]; rfl
    rw [hfresh]
    rw [hrows] at hx
    rcases List.mem_append.mp hx with hin | hnew
    · exact Nat.lt_succ_of_lt (h.fresh x hin)
    · obtain rfl := List.mem_singleton.mp hnew
      exact Nat.lt_succ_self _
  · intro x hx y hy huser hlt
    rw [hrows] at hx hy
    have hsame : SameRow x x := ⟨rfl, rfl, rfl, fun hu => hu⟩
    rcases List.mem_append.mp hx with hin | hnew
    · rcases List.mem_append.mp hy with hin' | hnew'
      · exact usable_mono hgrow hsame (h.stale x hin y hin' huser hlt)
      · obtain rfl := List.mem_singleton.mp hnew'
        exact usable_mono hgrow hsame (husable x hin huser)
    -- the new row is the youngest
    obtain rfl := List.mem_singleton.mp hnew
    rcases List.mem_append.mp hy with hin' | hnew'
    · exact absurd hlt (Nat.lt_asymm (h.fresh y hin'))
    · grind
  · intro e he r hr hrunning x hx huser
    have hin := hold e he (Or.inl (by rw [hr]; rfl))
    have hrunning' := hrun e.pid (h.received hin) hrunning
    rw [hrows] at hx
    rcases List.mem_append.mp hx with hxin | hnew
    · exact h.newest e hin r hr hrunning' x hxin huser
    -- no reset of this user is running
    obtain rfl := List.mem_singleton.mp hnew
    have hruns : resetRuns s data.userId = true := by
      refine List.any_eq_true.mpr ⟨e, hin, ?_⟩
      have hsameUser : r.userId = data.userId := huser.symm
      rw [hr]
      simp [hsameUser, hrunning']
    rw [hresets] at hruns
    cases hruns
  · intro e he r hr
    rcases h.found e (hold e he (Or.inl (by rw [hr]; rfl))) r hr with ⟨x, hx, hrow⟩
    exact ⟨x, hrows ▸ mem_append_left _ hx, hrow⟩
  · intro e he id hid
    rcases h.marked e (hold e he (Or.inr (by rw [hid]; rfl))) id hid with ⟨x, hx, hrow⟩
    exact ⟨x, hrows ▸ mem_append_left _ hx, hrow⟩
  · intro e he e' he' id hid hid'
    exact h.once e (hold e he (Or.inr (by rw [hid]; rfl))) e'
      (hold e' he' (Or.inr (by rw [hid']; rfl))) id hid hid'

variable {op : PasswordCall}

theorem foundBy_error {e : Exception} : foundBy ⟨pid, op, .error e⟩ = none := by
  unfold foundBy
  split
  · rename_i heq
    cases heq
  · rfl

theorem markedBy_error {e : Exception} : markedBy ⟨pid, op, .error e⟩ = none := by
  unfold markedBy
  split
  · rename_i heq
    cases heq
  · rfl

theorem foundBy_exec {r : PasswordReset} (h : foundBy ⟨pid, op, (op.exec store).1⟩ = some r) :
    ∃ tokenHash now, op = .auth (.resetFindActive tokenHash now) ∧
      activeReset store tokenHash now = some r := by
  have hcall : ∃ tokenHash now, op = .auth (.resetFindActive tokenHash now) := by
    unfold foundBy at h
    split at h
    · rename_i heq
      cases heq
      exact ⟨_, _, rfl⟩
    · cases h
  rcases hcall with ⟨tokenHash, now, rfl⟩
  exact ⟨tokenHash, now, rfl, h⟩

theorem markedBy_exec {id : ℕ} (h : markedBy ⟨pid, op, (op.exec store).1⟩ = some id) :
    ∃ usedAt, op = .auth (.resetMarkUsed id usedAt) ∧
      ∃ x ∈ (op.exec store).2.auth.passwordResets, x.id = id ∧ x.usedAt.isSome := by
  generalize hres : (op.exec store).1 = result at h
  unfold markedBy at h
  split at h
  · rename_i pid' id' usedAt row heq
    cases heq
    obtain rfl := Option.some.inj h
    refine ⟨usedAt, rfl, ?_⟩
    have hok : ((AuthCall.resetMarkUsed id' usedAt).exec store.auth).1 = .ok row := hres
    exact spent_of_consumes hok rfl
  · cases h

theorem LinksInv.next (hC : keepsLinks s l) (hnext : (passwordMachine env).next l s = some s')
    (h : LinksInv env s) : LinksInv env s' := by
  have hkept := h.kept.next hnext
  have hrun : ∀ pid < s.procs.length, s'.running pid → s.running pid :=
    fun pid hpid => running_of_next hnext hpid
  rcases (passwordMachine env).next_cases hnext with ⟨req, rfl, rfl⟩ |
    ⟨pid, req, op, k, rfl, hp, rfl⟩ | ⟨pid, e, req, op, k, rfl, hp, rfl⟩
  · exact ⟨hkept, h.nodup, h.fresh, h.stale,
      fun e he r hr hrunning => h.newest e he r hr (hrun e.pid (h.received he) hrunning),
      h.found, h.marked, h.once⟩
  · rcases op.exec_rows s.store with ⟨hrows, hfresh⟩ | ⟨data, rfl, hstore⟩
    · refine h.append hkept rfl hrows hfresh hrun ?_ ?_
      · intro r hr
        rcases foundBy_exec hr with ⟨tokenHash, now, rfl, hact⟩
        have husable : usable s.log r = true := by simpa [keepsLinks, hp, hact] using hC
        have hmem : r ∈ s.store.auth.passwordResets := List.mem_of_find?_eq_some hact
        refine ⟨hmem, fun x hx huser => Nat.le_of_not_lt fun hlt => ?_⟩
        -- an older token could not have been found
        have hstale := h.stale r hmem x hx huser.symm hlt
        rw [husable] at hstale
        cases hstale
      · intro id hid
        rcases markedBy_exec hid with ⟨usedAt, rfl, hused⟩
        simp only [keepsLinks, hp, unused, List.all_eq_true] at hC
        refine ⟨hused, fun x hx hxid => ?_⟩
        have hrow := hC x hx
        simpa [hxid] using hrow
    · simp only [keepsLinks, hp, and_eq_true, Bool.not_eq_true'] at hC
      refine h.create hkept rfl hstore hrun ?_ ?_ ?_ hC.2
      · simp [foundBy]
      · simp [markedBy]
      · grind
  · refine h.append hkept rfl (Marking.refl _) (Nat.le_refl _) hrun ?_ ?_
    · grind [foundBy_error]
    · grind [markedBy_error]

theorem linksInv_of_reaches (hstart : LinksStart store.auth)
    (h : (passwordMachine env).Reaches (fun s l => keepsLinks s l) (Machine.initial store) s) :
    LinksInv env s :=
  Machine.Reaches.invariant _ (fun _ _ _ hC hnext hs => hs.next hC hnext) h
    (linksInv_initial hstart)

/-- Of two rows of a user one is older. -/
theorem LinksInv.oneUsable (h : LinksInv env s) : OneUsable s := by
  intro x hx y hy huser hx' hy'
  rcases Nat.lt_trichotomy x.id y.id with hlt | heq | hgt
  · rw [h.stale x hx y hy huser hlt] at hx'
    cases hx'
  · exact h.row_eq hx hy heq
  · rw [h.stale y hy x hx huser.symm hgt] at hy'
    cases hy'

end Runs

/-! ## After a reset has returned -/

theorem tellAuth_eq_some {t : PasswordTold} {u : AuthTold} (h : tellAuth t = some u) :
    t = ⟨.auth u.op, u.result⟩ := by
  unfold tellAuth at h
  split at h
  · obtain rfl := Option.some.inj h
    rfl
  · cases h

def isFind : PasswordCall → Bool
  | .auth (.resetFindActive _ _) => true
  | _ => false

section Returned

variable {env : AuthEnv} {s s' : PasswordRun} {l : PasswordLabel}

variable {pid : ℕ}

variable {log : List PasswordEvent}

/-- What a request has been told by the tables of `AuthService` is in the log. -/
theorem mem_of_tellAuth {h : List AuthTold} {u : AuthTold}
    (heq : (history pid log).filterMap tellAuth = h) (hu : u ∈ h) :
    ⟨pid, .auth u.op, u.result⟩ ∈ log := by
  grind [mem_history, tellAuth_eq_some]

/-- No request looks up two tokens. -/
theorem calls_find_once {request : PasswordRequest} {past : List PasswordTold}
    {call : PasswordCall} (h : PasswordCalls env request past call) (hcall : isFind call) :
    ∀ t ∈ past, ¬ isFind t.op := by
  cases request with
  | forgot request =>
    unfold isFind at hcall
    split at hcall
    · exact absurd h id
    · cases hcall
  | reset request =>
    rcases h with ⟨op, rfl, hop⟩
    generalize hpast : past.filterMap tellAuth = told at hop
    cases hop with
    | find htok =>
      rintro ⟨op', r⟩ ht hfind
      unfold isFind at hfind
      split at hfind
      · rename_i tokenHash now heq
        cases heq
        have hmem : ⟨.resetFindActive tokenHash now, r⟩ ∈ past.filterMap tellAuth :=
          List.mem_filterMap.mpr ⟨_, ht, rfl⟩
        rw [hpast] at hmem
        cases hmem
      · cases hfind
    | issue hissue => cases hissue <;> cases hcall
    | _ => cases hcall

variable {r x : PasswordReset}

theorem foundBy_some {e : PasswordEvent} (h : foundBy e = some r) :
    ∃ tokenHash now, e = ⟨e.pid, .auth (.resetFindActive tokenHash now), .ok (some r)⟩ := by
  unfold foundBy at h
  split at h
  · exact ⟨_, _, by rw [h]⟩
  · cases h

/-- A request presents one token. -/
theorem PasswordKept.presented_unique (h : PasswordKept env s) {y : PasswordReset}
    (hx : Presented s pid x) (hy : Presented s pid y) : x = y := by
  rcases hx with ⟨e, he, rfl, hfound⟩
  rcases hy with ⟨e', he', hpid, hfound'⟩
  rcases foundBy_some hfound with ⟨tokenHash, now, heq⟩
  rcases foundBy_some hfound' with ⟨tokenHash', now', heq'⟩
  rcases List.mem_iff_getElem?.mp he with ⟨i, hi⟩
  rcases List.mem_iff_getElem?.mp he' with ⟨j, hj⟩
  rw [heq] at hi
  rw [heq', hpid] at hj
  have hij : i = j :=
    h.unique (p := fun t => isFind t.op) (fun _ _ _ _ => calls_find_once)
      (t := ⟨_, _⟩) (u := ⟨_, _⟩) hi rfl hj rfl
  subst hij
  rw [hi] at hj
  cases hj
  rfl

/-- The token that the request has presented has been marked by it. -/
def MarkedFor (s : PasswordRun) (pid id : ℕ) : Prop :=
  ∃ e ∈ s.log, e.pid = pid ∧ markedBy e = some id

variable {request : AuthResetPasswordRequest}

theorem used_of_told {h : List AuthTold} {token : String} {reset row : PasswordReset}
    {user : AuthUser} (heq : (history pid log).filterMap tellAuth = h)
    (hused : ∀ u ∈ used env request token reset user row, u ∈ h) :
    (∃ e ∈ log, e.pid = pid ∧ foundBy e = some reset) ∧
      ∃ e ∈ log, e.pid = pid ∧ markedBy e = some reset.id := by
  constructor
  · exact ⟨_, mem_of_tellAuth heq (hused ⟨.resetFindActive (env.hashOpaqueToken token) request.now,
      .ok (some reset)⟩ (by simp [used, resettable])), rfl, rfl⟩
  · exact ⟨_, mem_of_tellAuth heq (hused ⟨.resetMarkUsed reset.id request.resetAt, .ok row⟩
      (by simp [used])), rfl, rfl⟩

/-- A request that changes a password has marked the token that it has presented. -/
theorem PasswordKept.marked_of_setPassword (h : PasswordKept env s) {i : ℕ}
    {userId passwordHash : String} {result : Except Exception AuthUser}
    (hi : s.log[i]? = some ⟨pid, .auth (.userSetPassword userId passwordHash), result⟩)
    (hx : Presented s pid x) : MarkedFor s pid x.id := by
  rcases h.events i _ hi with ⟨⟨request, p⟩, hp, hcalls⟩
  cases request with
  | forgot request => exact absurd hcalls id
  | reset request =>
    rcases hcalls with ⟨op, hop, hcalls⟩
    cases hop
    rcases used_of_setPassword hcalls with ⟨token, reset, user, row, -, hpast⟩
    rcases used_of_told hpast fun u hu => hu with ⟨⟨e, he, hpid, hfound⟩, e', he', hpid', hmark⟩
    have hreset : Presented s pid reset := ⟨e, List.mem_of_mem_take he, hpid, hfound⟩
    rw [h.presented_unique hx hreset]
    exact ⟨e', List.mem_of_mem_take he', hpid', hmark⟩

/-- So has one that has returned; and its last call was not the look-up. -/
theorem PasswordKept.marked_of_returned (h : PasswordKept env s) {reply : PasswordReply}
    (hp : s.procs[pid]? = some (.reset request, .ret reply)) (hx : Presented s pid x) :
    MarkedFor s pid x.id ∧ ∀ log e, s.log = log ++ [e] → e.pid = pid → foundBy e = none := by
  rcases h.procs pid _ hp with ⟨r, -, token, reset, row, user, updated, count, result, -,
    ⟨days, minutes, data, record, -, hpast⟩, -⟩
  constructor
  · have hused : ∀ u ∈ used env request token reset user row,
        u ∈ (history pid s.log).filterMap tellAuth := by
      intro u hu
      rw [hpast]
      exact mem_append_left _ (mem_append_left _ (mem_append_left _ hu))
    rcases used_of_told rfl hused with ⟨hfound, hmark⟩
    rw [h.presented_unique hx hfound]
    exact hmark
  intro log e hlog hpid
  rcases Option.eq_none_or_eq_some (foundBy e) with hnone | ⟨r', hr'⟩
  · exact hnone
  -- the last call of the request is the one that creates its session
  rcases foundBy_some hr' with ⟨tokenHash, now, heq⟩
  rw [hlog, heq, hpid, history_append_self] at hpast
  have hlast := congrArg List.getLast? hpast
  simp [tellAuth] at hlast

/-- A request that has ended makes no more calls. -/
theorem silent_of_reaches {C : PasswordRun → PasswordLabel → Prop}
    (hrun : (passwordMachine env).Reaches C s s') (hpid : pid < s.procs.length)
    (hend : ¬ s.running pid) : s.log <+: s'.log ∧ ∀ e ∈ s'.log.drop s.log.length, e.pid ≠ pid := by
  have hall : (pid < s'.procs.length ∧ ¬ s'.running pid) ∧
      s.log <+: s'.log ∧ ∀ e ∈ s'.log.drop s.log.length, e.pid ≠ pid := by
    induction hrun with
    | refl => grind
    | @tail t t' _ hlast ih =>
      rcases hlast with ⟨l, -, hnext⟩
      rcases ih with ⟨⟨hlen, hended⟩, hgrown, hsilent⟩
      have hended' : ¬ t'.running pid := fun hr => hended (running_of_next hnext hlen hr)
      refine ⟨⟨Nat.lt_of_lt_of_le hlen ((passwordMachine env).next_length hnext), hended'⟩,
        hgrown.trans ((passwordMachine env).next_log_grows hnext), ?_⟩
      -- the call that was made is that of a request that was running
      have hcall : ∀ (pid' : ℕ) (req : PasswordRequest) (op : PasswordCall)
          (k : Except Exception op.Res → PasswordProg PasswordReply)
          (r : Except Exception op.Res), t.procs[pid']? = some (req, .call op k) →
          ∀ e ∈ (t.log ++ [(⟨pid', op, r⟩ : PasswordEvent)]).drop s.log.length, e.pid ≠ pid := by
        intro pid' req op k r hp e he
        rw [List.drop_append_of_le_length hgrown.length_le] at he
        rcases List.mem_append.mp he with hold | hnew
        · exact hsilent e hold
        obtain rfl := List.mem_singleton.mp hnew
        rintro rfl
        apply hended
        simp [PasswordRun.running, hp]
      rcases (passwordMachine env).next_cases hnext with ⟨req, rfl, rfl⟩ |
        ⟨pid', req, op, k, rfl, hp, rfl⟩ | ⟨pid', e, req, op, k, rfl, hp, rfl⟩
      · exact hsilent
      all_goals exact hcall pid' req op k _ hp
  exact hall.2

/-- A token that is not usable is not found. -/
structure Unfound (n id : ℕ) (s : PasswordRun) : Prop where
  length : n ≤ s.log.length
  fresh : id < s.store.auth.fresh
  dead : ∀ x ∈ s.store.auth.passwordResets, x.id = id → usable s.log x = false
  notFound : ∀ e ∈ s.log.drop n, ∀ r, foundBy e = some r → r.id ≠ id

theorem Unfound.next {n id : ℕ} (hC : keepsLinks s l)
    (hnext : (passwordMachine env).next l s = some s') (h : Unfound n id s) : Unfound n id s' := by
  have hgrow := (passwordMachine env).next_log_grows hnext
  have hlen := Nat.le_trans h.length hgrow.length_le
  have hnew : ∀ ev : PasswordEvent, (∀ r, foundBy ev = some r → r.id ≠ id) →
      ∀ e ∈ (s.log ++ [ev]).drop n, ∀ r, foundBy e = some r → r.id ≠ id := by
    intro ev hev e he r hr
    rw [List.drop_append_of_le_length h.length] at he
    rcases List.mem_append.mp he with hold | hlast
    · exact h.notFound e hold r hr
    · grind
  rcases (passwordMachine env).next_cases hnext with ⟨req, rfl, rfl⟩ |
    ⟨pid, req, op, k, rfl, hp, rfl⟩ | ⟨pid, e, req, op, k, rfl, hp, rfl⟩
  · exact ⟨hlen, h.fresh, h.dead, h.notFound⟩
  · have hfound : ∀ r, foundBy ⟨pid, op, (op.exec s.store).1⟩ = some r → r.id ≠ id := by
      intro r hr hid
      rcases foundBy_exec hr with ⟨tokenHash, now, rfl, hact⟩
      have husable : usable s.log r = true := by simpa [keepsLinks, hp, hact] using hC
      have hdead := h.dead r (List.mem_of_find?_eq_some hact) hid
      rw [husable] at hdead
      cases hdead
    rcases op.exec_rows s.store with ⟨hrows, hfresh⟩ | ⟨data, rfl, hstore⟩
    · refine ⟨hlen, Nat.lt_of_lt_of_le h.fresh hfresh, ?_, hnew _ hfound⟩
      intro x' hx' hid
      rcases hrows.backward hx' with ⟨x, hx, hsame⟩
      exact usable_mono hgrow hsame (h.dead x hx (hsame.id.symm.trans hid))
    have hfreshEq : ((PasswordCall.resetCreate data).exec s.store).2.auth.fresh =
        s.store.auth.fresh + 1 := by rw [hstore]; rfl
    have hrowsEq : ((PasswordCall.resetCreate data).exec s.store).2.auth.passwordResets =
        s.store.auth.passwordResets ++ [data.row s.store.auth.fresh] := by rw [hstore]; rfl
    refine ⟨hlen, ?_, ?_, hnew _ hfound⟩
    · show id < ((PasswordCall.resetCreate data).exec s.store).2.auth.fresh
      rw [hfreshEq]
      exact Nat.lt_succ_of_lt h.fresh
    intro x hx hid
    have hx' : x ∈ s.store.auth.passwordResets ++ [data.row s.store.auth.fresh] :=
      hrowsEq ▸ hx
    rcases List.mem_append.mp hx' with hin | hlast
    · exact usable_mono hgrow ⟨rfl, rfl, rfl, fun hu => hu⟩ (h.dead x hin hid)
    · obtain rfl := List.mem_singleton.mp hlast
      exact absurd hid.symm (Nat.ne_of_lt h.fresh)
  · refine ⟨hlen, h.fresh, ?_, hnew _ ?_⟩
    · intro x hx hid
      exact usable_mono hgrow ⟨rfl, rfl, rfl, fun hu => hu⟩ (h.dead x hx hid)
    · grind [foundBy_error]

/-- When a reset returns, its token is the youngest one of the user, and marked. -/
structure ResetDone (s : PasswordRun) (pid : ℕ) (r : PasswordReset) : Prop where
  received : pid < s.procs.length
  ended : ¬ s.running pid
  youngest : ∀ x ∈ s.store.auth.passwordResets, x.userId = r.userId → x.id ≤ r.id
  marked : MarkedFor s pid r.id

theorem resetDone_of_returns (h : LinksInv env s) (hkept : PasswordKept env s')
    (hnext : (passwordMachine env).next l s = some s') (hreturns : ResetReturns pid s s')
    (hr : Presented s' pid r) : ResetDone s' pid r := by
  rcases hreturns with ⟨hrunning, request, reply, hp'⟩
  have hended : ¬ s'.running pid := by simp [PasswordRun.running, hp']
  rcases hkept.marked_of_returned hp' hr with ⟨hmarked, hlast⟩
  refine ⟨(List.getElem?_eq_some_iff.mp hp').1, hended, ?_, hmarked⟩
  -- the look-up was before the last call, when the reset was running
  have hyoungest : ∀ ev, s'.log = s.log ++ [ev] → ev.pid = pid →
      ∀ x ∈ s.store.auth.passwordResets, x.userId = r.userId → x.id ≤ r.id := by
    intro ev hlog hev x hx huser
    rcases hr with ⟨e, he, rfl, hfound⟩
    rw [hlog] at he
    rcases List.mem_append.mp he with hold | hnew
    · exact h.newest e hold r hfound hrunning x hx huser
    · grind
  have hself : ∀ (pid' : ℕ) (p : PasswordRequest × PasswordProg PasswordReply),
      s'.procs = s.procs.set pid' p → pid' = pid := by grind [PasswordRun.running]
  rcases (passwordMachine env).next_cases hnext with ⟨req, rfl, rfl⟩ |
    ⟨pid', req, op, k, rfl, hp, rfl⟩ | ⟨pid', e, req, op, k, rfl, hp, rfl⟩
  · grind [PasswordRun.running]
  · obtain rfl := hself pid' _ rfl
    have hyoung := hyoungest _ rfl rfl
    rcases op.exec_rows s.store with ⟨hrows, -⟩ | ⟨data, rfl, -⟩
    · intro x' hx' huser
      rcases hrows.backward hx' with ⟨x, hx, hsame⟩
      rw [hsame.id]
      exact hyoung x hx (hsame.userId.symm.trans huser)
    -- a reset creates no token
    have hreq : req = .reset request := by grind
    subst hreq
    rcases h.kept.procs pid' _ hp with ⟨⟨op, hop, -⟩, -⟩
    cases hop
  · grind

/-- A token that was there when a reset returned does not change a password any more. -/
theorem ResetDone.not_used {s₁ s₂ : PasswordRun} (hdone : ResetDone s₁ pid r)
    (h₁ : LinksInv env s₁) (h₂ : LinksInv env s₂)
    (hrun : (passwordMachine env).Reaches (fun s l => keepsLinks s l) s₁ s₂)
    (hr : Presented s₁ pid r) (hx : x ∈ s₁.store.auth.passwordResets)
    (huser : x.userId = r.userId) {i : ℕ} (hi : s₁.log.length ≤ i) : ¬ LinkUsedAt s₂ i x.id := by
  rintro ⟨pid', userId, passwordHash, user, x', hset, hpresented, hid⟩
  have hmark : MarkedFor s₂ pid' x.id := hid ▸ h₂.kept.marked_of_setPassword hset hpresented
  have hmem : ⟨pid', .auth (.userSetPassword userId passwordHash), .ok user⟩ ∈
      s₂.log.drop s₁.log.length := by
    refine List.mem_iff_getElem?.mpr ⟨i - s₁.log.length, ?_⟩
    rw [List.getElem?_drop, Nat.add_sub_cancel' hi]
    exact hset
  rcases silent_of_reaches hrun hdone.received hdone.ended with ⟨hgrown, hsilent⟩
  rcases Nat.lt_or_eq_of_le (hdone.youngest x hx huser) with hlt | heq
  · -- an older token: it is stale, so it has been presented before, by a request that has ended
    have hnotFound : Unfound s₁.log.length x.id s₂ := by
      refine Machine.Reaches.invariant _ (fun _ _ _ hC hnext hs => hs.next hC hnext) hrun ?_
      refine ⟨Nat.le_refl _, h₁.fresh x hx, ?_, ?_⟩
      · intro y hy hyid
        obtain rfl := h₁.row_eq hy hx hyid
        rcases hr with ⟨e, he, -, hfound⟩
        rcases h₁.found e he r hfound with ⟨z, hz, hzid, hzuser⟩
        exact h₁.stale y hy z hz (huser.trans hzuser.symm) (hzid ▸ hlt)
      · grind
    rcases hpresented with ⟨e, he, rfl, hfound⟩
    have hsplit : e ∈ s₁.log ∨ e ∈ s₂.log.drop s₁.log.length := by
      rcases hgrown with ⟨later, hlater⟩
      rw [← hlater, List.drop_left]
      exact List.mem_append.mp (hlater ▸ he)
    rcases hsplit with hold | hnew
    · have hrunning : s₁.running e.pid := by
        by_contra hend
        exact (silent_of_reaches hrun (h₁.received hold) hend).2 _ hmem rfl
      -- a running request has presented the youngest token
      rcases h₁.found e hold x' hfound with ⟨y, hy, hyid, hyuser⟩
      obtain rfl := h₁.row_eq hy hx (hyid.trans hid)
      rcases hr with ⟨e', he', -, hfound'⟩
      rcases h₁.found e' he' r hfound' with ⟨z, hz, hzid, hzuser⟩
      have hle := h₁.newest e hold x' hfound hrunning z hz (hzuser.trans (huser.symm.trans hyuser))
      rw [hzid, ← hyid] at hle
      exact absurd hlt (Nat.not_lt_of_le hle)
    · exact hnotFound.notFound e hnew x' hfound hid
  · -- the presented token itself: nobody else has marked it
    rcases hmark with ⟨e, he, rfl, hmark⟩
    rcases hdone.marked with ⟨e', he', hpid', hmark'⟩
    rw [heq] at hmark
    have hsame := h₂.once e he e' (hgrown.mem he') r.id hmark hmark'
    exact hsilent _ hmem (hsame.trans hpid')

end Returned

/-- As long as every step keeps the links, no user has two usable tokens, and once a reset has
returned no token of the user that was there changes a password. -/
theorem old_links_die {env : AuthEnv} {store : PasswordStore} (hstart : LinksStart store.auth) :
    (∀ s, (passwordMachine env).Reaches (fun s l => keepsLinks s l) (Machine.initial store) s →
      OneUsable s) ∧
    ∀ s₀ l s₁ s₂ pid r,
      (passwordMachine env).Reaches (fun s l => keepsLinks s l) (Machine.initial store) s₀ →
      keepsLinks s₀ l → (passwordMachine env).next l s₀ = some s₁ → ResetReturns pid s₀ s₁ →
      Presented s₁ pid r →
      (passwordMachine env).Reaches (fun s l => keepsLinks s l) s₁ s₂ →
      ∀ x ∈ s₁.store.auth.passwordResets, x.userId = r.userId →
        ∀ i, s₁.log.length ≤ i → ¬ LinkUsedAt s₂ i x.id := by
  constructor
  · intro s hrun
    exact (linksInv_of_reaches hstart hrun).oneUsable
  intro s₀ l s₁ s₂ pid r hrun hC hnext hreturns hr hrest x hx huser i hi
  have h₀ : LinksInv env s₀ := linksInv_of_reaches hstart hrun
  have h₁ : LinksInv env s₁ := h₀.next hC hnext
  have h₂ : LinksInv env s₂ :=
    linksInv_of_reaches hstart ((hrun.tail ⟨l, hC, hnext⟩).trans hrest)
  have hdone := resetDone_of_returns h₀ h₁.kept hnext hreturns hr
  exact hdone.not_used h₁ h₂ hrest hr hx huser hi

/-! ## Two links -/

def passwordStore : PasswordStore where
  auth := aliceStore
  passwordResetLifetimeHours := none

theorem aliceStore_linksStart : LinksStart aliceStore := by
  constructor <;> simp [aliceStore]

def aliceForgets (token : String) : PasswordRequest :=
  .forgot { email := some "alice@example.com", resetToken := token, now := 5, invalidatedAt := 5 }

def aliceResetsWith (token newToken : String) : PasswordRequest :=
  .reset
    { token := some token
      password := "new-password"
      salt := "salt"
      now := 10
      resetAt := 11
      fresh := { refreshToken := newToken, createdAt := 12, issuedAt := 12 } }

/-- A request for a link, and then a reset with it. -/
def linkThenReset : List PasswordLabel :=
  .start (aliceForgets "reset-b") :: replicate 5 (.step 0) ++
    .start (aliceResetsWith "reset-b" "token-b") :: replicate 7 (.step 1)

/-- The request has returned from a reset for which it has presented the token. -/
def returnedFrom (s : PasswordRun) (pid : ℕ) (x : PasswordReset) : Bool :=
  (match s.procs[pid]? with
    | some (.reset _, .ret _) => true
    | _ => false) && s.log.any fun e => e.pid == pid && foundBy e == some x

/-- The next call of the request is the last one of a reset with the token. -/
def returnsNext (s : PasswordRun) (pid : ℕ) (x : PasswordReset) : Bool :=
  s.running pid && keepsLinks s (.step pid) &&
    (((passwordMachine authEnv).next (.step pid) s).any fun s' => returnedFrom s' pid x)

variable {pid : ℕ}

variable {s : PasswordRun}

theorem presented_of_check
    (h : (s.log.any fun e => e.pid == pid && foundBy e == some x) = true) : Presented s pid x := by
  rcases List.any_eq_true.mp h with ⟨e, he, heq⟩
  rw [and_eq_true, beq_iff_eq, beq_iff_eq] at heq
  exact ⟨e, he, heq⟩

theorem returns_of_check (h : returnsNext s pid x = true) :
    ∃ s', keepsLinks s (.step pid) ∧ (passwordMachine authEnv).next (.step pid) s = some s' ∧
      ResetReturns pid s s' ∧ Presented s' pid x := by
  unfold returnsNext at h
  rw [and_eq_true, and_eq_true, Option.any_eq_true] at h
  rcases h with ⟨⟨hrunning, hkeeps⟩, s', hnext, hreturned⟩
  unfold returnedFrom at hreturned
  rw [and_eq_true] at hreturned
  refine ⟨s', hkeeps, hnext, ⟨hrunning, ?_⟩, presented_of_check hreturned.2⟩
  have hret := hreturned.1
  split at hret
  · grind
  · cases hret

def linkB : PasswordReset where
  id := 3
  userId := "alice"
  tokenHash := "hmac:reset-b"
  expiresAt := 3600005
  usedAt := none

theorem old_links_die_linkThenReset : ∃ s₀ s₁ : PasswordRun,
      (passwordMachine authEnv).Reaches (fun s l => keepsLinks s l)
        (Machine.initial passwordStore) s₀ ∧
      keepsLinks s₀ (.step 1) ∧ (passwordMachine authEnv).next (.step 1) s₀ = some s₁ ∧
      ResetReturns 1 s₀ s₁ ∧ Presented s₁ 1 linkB ∧ OneUsable s₁ ∧
      ∀ s₂, (passwordMachine authEnv).Reaches (fun s l => keepsLinks s l) s₁ s₂ →
        ∀ x ∈ s₁.store.auth.passwordResets, x.userId = "alice" →
          ∀ i, s₁.log.length ≤ i → ¬ LinkUsedAt s₂ i x.id := by
  have hcheck : ((passwordMachine authEnv).trace keepsLinks linkThenReset
      (Machine.initial passwordStore)).map (fun s => returnsNext s 1 linkB) = some true := by
    decide
  rcases (passwordMachine authEnv).reaches_of_trace_check hcheck with ⟨s₀, hrun, hp⟩
  rcases returns_of_check hp with ⟨s₁, hkeeps, hnext, hreturns, hpresented⟩
  have hdie := @old_links_die authEnv passwordStore aliceStore_linksStart
  refine ⟨s₀, s₁, hrun, hkeeps, hnext, hreturns, hpresented, ?_, ?_⟩
  · exact hdie.1 s₁ (hrun.tail ⟨_, hkeeps, hnext⟩)
  · grind [linkB]

/-- Two requests for a link mark the older tokens before either of them creates its own. -/
def bothForget : List PasswordLabel :=
  [.start (aliceForgets "reset-b"), .start (aliceForgets "reset-c")] ++
    replicate 3 (.step 0) ++ replicate 3 (.step 1) ++
    replicate 2 (.step 0) ++ replicate 2 (.step 1)

/-- After that a reset with one of the links, up to its last call. -/
def bothForgetThenReset : List PasswordLabel :=
  bothForget ++ .start (aliceResetsWith "reset-b" "token-b") :: replicate 7 (.step 2)

/-- And then one with the other, until it has changed the password. -/
def resetAgain : List PasswordLabel :=
  .start (aliceResetsWith "reset-c" "token-c") :: replicate 4 (.step 3)

def linkC : PasswordReset := { linkB with id := 4, tokenHash := "hmac:reset-c" }

def twoUsable (s : PasswordRun) : Bool :=
  s.store.auth.passwordResets.any fun x => s.store.auth.passwordResets.any fun y =>
    x.userId == y.userId && usable s.log x && usable s.log y && x != y

theorem not_oneUsable_of_check (h : twoUsable s = true) : ¬ OneUsable s := by
  intro hone
  rcases List.any_eq_true.mp h with ⟨x, hx, hrest⟩
  rcases List.any_eq_true.mp hrest with ⟨y, hy, hpair⟩
  simp only [and_eq_true, beq_iff_eq, bne_iff_ne] at hpair
  rcases hpair with ⟨⟨⟨huser, hx'⟩, hy'⟩, hne⟩
  exact hne (hone x hx y hy huser hx' hy')

/-- The last call of the log has changed the password for the token. -/
def changedLast (s : PasswordRun) (pid : ℕ) (x : PasswordReset) : Bool :=
  (match s.log.getLast? with
    | some ⟨j, .auth (.userSetPassword _ _), .ok _⟩ => j == pid
    | _ => false) && s.log.any fun e => e.pid == pid && foundBy e == some x

theorem linkUsedAt_of_check (h : changedLast s pid x = true) :
    LinkUsedAt s (s.log.length - 1) x.id := by
  unfold changedLast at h
  rw [and_eq_true] at h
  have hlast := h.1
  split at hlast
  · rename_i j userId passwordHash user hev
    obtain rfl := beq_iff_eq.mp hlast
    rw [List.getLast?_eq_getElem?] at hev
    exact ⟨j, userId, passwordHash, user, x, hev, presented_of_check h.2, rfl⟩
  · cases hlast

/-- The reset returns, the token `y` is there, and the other reset changes the password for it
afterwards. -/
def usedAfterwards (x y : PasswordReset) (s : PasswordRun) : Bool :=
  returnsNext s 2 x && (((passwordMachine authEnv).next (.step 2) s).any fun s' =>
    s'.store.auth.passwordResets.contains y &&
      (((passwordMachine authEnv).trace anyStep resetAgain s').any fun s'' =>
        decide (s'.log.length < s''.log.length) && changedLast s'' 3 y))

/-- Two requests for a link leave two usable tokens, and the second one changes the password
after a reset with the first one has returned. -/
theorem links_outlive_reset : LinksStart aliceStore ∧
    (∃ s : PasswordRun, (passwordMachine authEnv).Reaches (fun s l => anyStep s l)
        (Machine.initial passwordStore) s ∧ s.quiescent ∧ ¬ OneUsable s) ∧
    ∃ s₀ s₁ s₂ : PasswordRun, (passwordMachine authEnv).Reaches (fun s l => anyStep s l)
        (Machine.initial passwordStore) s₀ ∧
      (passwordMachine authEnv).next (.step 2) s₀ = some s₁ ∧ ResetReturns 2 s₀ s₁ ∧
      Presented s₁ 2 linkB ∧
      (passwordMachine authEnv).Reaches (fun s l => anyStep s l) s₁ s₂ ∧
      linkC ∈ s₁.store.auth.passwordResets ∧ linkC.userId = linkB.userId ∧
      ∃ i, s₁.log.length ≤ i ∧ LinkUsedAt s₂ i linkC.id := by
  refine ⟨aliceStore_linksStart, ?_, ?_⟩
  · have hcheck : ((passwordMachine authEnv).trace anyStep bothForget
        (Machine.initial passwordStore)).map (fun s => s.quiescent && twoUsable s) =
          some true := by decide
    rcases (passwordMachine authEnv).reaches_of_trace_check hcheck with ⟨s, hrun, hp⟩
    rw [and_eq_true] at hp
    exact ⟨s, hrun, hp.1, not_oneUsable_of_check hp.2⟩
  have hcheck : ((passwordMachine authEnv).trace anyStep bothForgetThenReset
      (Machine.initial passwordStore)).map (usedAfterwards linkB linkC) = some true := by
    decide
  rcases (passwordMachine authEnv).reaches_of_trace_check hcheck with ⟨s₀, hrun, hp⟩
  unfold usedAfterwards at hp
  rw [and_eq_true, Option.any_eq_true] at hp
  rcases hp with ⟨hreturns, s₁, hnext, hrest⟩
  rcases returns_of_check hreturns with ⟨s₁', -, hnext', hreturned, hpresented⟩
  rw [hnext] at hnext'
  obtain rfl := Option.some.inj hnext'
  rw [and_eq_true, Option.any_eq_true] at hrest
  rcases hrest with ⟨hthere, s₂, htrace, hlast⟩
  rw [and_eq_true, decide_eq_true_eq] at hlast
  refine ⟨s₀, s₁, s₂, hrun, hnext, hreturned, hpresented,
    (passwordMachine authEnv).reaches_of_trace htrace, ?_, rfl, s₂.log.length - 1, ?_,
    linkUsedAt_of_check hlast.2⟩
  · simpa using hthere
  · omega

end QuizMind
