import QuizMind.Auth.Revocation
import Mathlib.Data.List.Nodup

/-! # One-time credentials

A refresh token and a password-reset token are looked up, checked to be unused,
and then marked as used by an update that is keyed on the row's id only. Two
requests that present the same token can both pass the check
(`token_exchanged_twice`). A credential is consumed once when every such update
finds it still unused (`consumedOnce_of_unused`).
-/

namespace QuizMind

open Async
open Machine (anyStep initial)

/-! ## The statement -/

/-- The call at position `i` has issued a session in exchange for the token. -/
def ExchangedAt (token : String) (s : AuthSnapshot) (i : ℕ) : Prop :=
  ∃ pid data record request p, s.log[i]? = some ⟨pid, .sessionCreate data, .ok record⟩ ∧
    s.procs[pid]? = some (.refresh request, p) ∧ request.refreshToken = token

/-- The call at position `i` has changed a password for the reset token. -/
def ChangedAt (token : String) (s : AuthSnapshot) (i : ℕ) : Prop :=
  ∃ pid userId passwordHash user request p,
    s.log[i]? = some ⟨pid, .userSetPassword userId passwordHash, .ok user⟩ ∧
    s.procs[pid]? = some (.resetPassword request, p) ∧ readResetToken request.token = .ok token

/-- The refresh with this token has succeeded. -/
def RefreshedBy (token : String) (s : AuthSnapshot) (pid : ℕ) : Prop :=
  ∃ request reply, s.procs[pid]? = some (.refresh request, .ret reply) ∧
    request.refreshToken = token

/-- The reset with this token has succeeded. -/
def ResetBy (token : String) (s : AuthSnapshot) (pid : ℕ) : Prop :=
  ∃ request reply, s.procs[pid]? = some (.resetPassword request, .ret reply) ∧
    readResetToken request.token = .ok token

/-- Of the requests that present the same token at most one succeeds: a refresh
token yields at most one session, a reset token changes the password at most
once. -/
structure ConsumedOnce (s : AuthSnapshot) : Prop where
  exchanged : ∀ token i j, ExchangedAt token s i → ExchangedAt token s j → i = j
  changed : ∀ token i j, ChangedAt token s i → ChangedAt token s j → i = j
  refreshed : ∀ token i j, RefreshedBy token s i → RefreshedBy token s j → i = j
  reset : ∀ token i j, ResetBy token s i → ResetBy token s j → i = j

/-- A row that can be consumed. -/
inductive Credential where
  | session (id : ℕ)
  | reset (id : ℕ)

/-- The row that the call marks as used. -/
def consumes : AuthCall → Option Credential
  | .sessionRevoke id _ => some (.session id)
  | .resetMarkUsed id _ => some (.reset id)
  | _ => none

/-- Nobody has used the credential yet. -/
def unused : Credential → AuthStore → Bool
  | .session id, s => s.sessions.all fun x => x.id != id || x.revokedAt.isNone
  | .reset id, s => s.passwordResets.all fun x => x.id != id || x.usedAt.isNone

/-- Whatever a request marks as used is still unused. -/
def marksUnused : AuthSnapshot → Label Exception AuthRequest → Bool
  | s, .step pid =>
    match s.procs[pid]? with
    | some (_, .call call _) => (consumes call).all fun c => unused c s.store
    | _ => true
  | _, _ => true

/-- The unique constraints on `tokenHash`. -/
structure TokensUnique (s : AuthStore) : Prop where
  sessions : (s.sessions.map (fun x => x.tokenHash)).Nodup
  resets : (s.passwordResets.map (fun x => x.tokenHash)).Nodup

/-! ## Rows -/

/-- Somebody has used the credential. -/
def Spent : Credential → AuthStore → Prop
  | .session id, s => ∃ x ∈ s.sessions, x.id = id ∧ x.revokedAt.isSome
  | .reset id, s => ∃ x ∈ s.passwordResets, x.id = id ∧ x.usedAt.isSome

/-- The credential is the one with this hash. -/
def Bears (tokenHash : String) : Credential → AuthStore → Prop
  | .session id, s => ∃ x ∈ s.sessions, x.id = id ∧ x.tokenHash = tokenHash
  | .reset id, s => ∃ x ∈ s.passwordResets, x.id = id ∧ x.tokenHash = tokenHash

/-- The credential that the call has found. -/
def finds : (call : AuthCall) → Except Exception call.Res → Option (String × Credential)
  | .sessionFindActive tokenHash _, .ok (some record) => some (tokenHash, .session record.id)
  | .resetFindActive tokenHash _, .ok (some reset) => some (tokenHash, .reset reset.id)
  | _, _ => none

variable {c : Credential}

variable {s : AuthStore}

theorem not_spent_of_unused (h : unused c s) : ¬ Spent c s := by
  intro hspent
  cases c with
  | session id =>
    rcases hspent with ⟨x, hx, rfl, hsome⟩
    have hrow := List.all_eq_true.mp h x hx
    cases hrev : x.revokedAt <;> simp [hrev] at hrow hsome
  | reset id =>
    rcases hspent with ⟨x, hx, rfl, hsome⟩
    have hrow := List.all_eq_true.mp h x hx
    cases hused : x.usedAt <;> simp [hused] at hrow hsome

/-- A row keeps its id and its hash, and stays used. -/
theorem session_exec (call : AuthCall) {x : AuthSession} (hx : x ∈ s.sessions) :
    ∃ x' ∈ (call.exec s).2.sessions, x'.id = x.id ∧ x'.tokenHash = x.tokenHash ∧
      (x.revokedAt.isSome → x'.revokedAt.isSome) := by
  have hrevoke : ∀ (p : AuthSession → Bool) (revokedAt : ℤ),
      ∃ x' ∈ (s.revokeWhere p revokedAt).sessions, x'.id = x.id ∧ x'.tokenHash = x.tokenHash ∧
        (x.revokedAt.isSome → x'.revokedAt.isSome) := by
    intro p revokedAt
    refine ⟨_, AuthStore.mem_revokeWhere.mpr ⟨x, hx, rfl⟩, ?_⟩
    by_cases hp : p x <;> simp [hp]
  have heff := call.exec_effect s
  generalize (call.exec s).1 = r at heff
  generalize (call.exec s).2 = s' at heff
  cases heff with
  | create => exact ⟨x, List.mem_append_left _ hx, rfl, rfl, id⟩
  | revoke => exact hrevoke _ _
  | revokeAll => exact hrevoke _ _
  | _ => exact ⟨x, hx, rfl, rfl, id⟩

theorem reset_exec (call : AuthCall) {x : PasswordReset} (hx : x ∈ s.passwordResets) :
    ∃ x' ∈ (call.exec s).2.passwordResets, x'.id = x.id ∧ x'.tokenHash = x.tokenHash ∧
      (x.usedAt.isSome → x'.usedAt.isSome) := by
  have heff := call.exec_effect s
  generalize (call.exec s).1 = r at heff
  generalize (call.exec s).2 = s' at heff
  cases heff with
  | @markUsed id usedAt row =>
    refine ⟨_, List.mem_map.mpr ⟨x, hx, rfl⟩, ?_⟩
    by_cases hid : x.id = id <;> simp [hid]
  | _ => exact ⟨x, hx, rfl, rfl, id⟩

theorem Spent.exec (h : Spent c s) (call : AuthCall) : Spent c (call.exec s).2 := by
  cases c with
  | session id =>
    rcases h with ⟨x, hx, hid, hsome⟩
    rcases session_exec call hx with ⟨x', hx', hid', -, hsome'⟩
    exact ⟨x', hx', hid'.trans hid, hsome' hsome⟩
  | reset id =>
    rcases h with ⟨x, hx, hid, hsome⟩
    rcases reset_exec call hx with ⟨x', hx', hid', -, hsome'⟩
    exact ⟨x', hx', hid'.trans hid, hsome' hsome⟩

variable {tokenHash : String}

theorem Bears.exec (h : Bears tokenHash c s) (call : AuthCall) :
    Bears tokenHash c (call.exec s).2 := by
  cases c with
  | session id =>
    rcases h with ⟨x, hx, hid, hhash⟩
    rcases session_exec call hx with ⟨x', hx', hid', hhash', -⟩
    exact ⟨x', hx', hid'.trans hid, hhash'.trans hhash⟩
  | reset id =>
    rcases h with ⟨x, hx, hid, hhash⟩
    rcases reset_exec call hx with ⟨x', hx', hid', hhash', -⟩
    exact ⟨x', hx', hid'.trans hid, hhash'.trans hhash⟩

theorem TokensUnique.exec (h : TokensUnique s) (call : AuthCall) :
    TokensUnique (call.exec s).2 := by
  have hrevoke : ∀ (p : AuthSession → Bool) (revokedAt : ℤ),
      TokensUnique (s.revokeWhere p revokedAt) := by
    intro p revokedAt
    refine ⟨?_, h.resets⟩
    have hhashes : (s.revokeWhere p revokedAt).sessions.map (fun x => x.tokenHash) =
        s.sessions.map (fun x => x.tokenHash) := by
      grind [AuthStore.revokeWhere, List.map_congr_left]
    rw [hhashes]
    exact h.sessions
  have heff := call.exec_effect s
  generalize (call.exec s).1 = r at heff
  generalize (call.exec s).2 = s' at heff
  cases heff with
  | @create data user hfree =>
    refine ⟨?_, h.resets⟩
    have hnew : ((s.sessions.map fun x => x.tokenHash) ++ [data.tokenHash]).Nodup := by
      simpa [List.nodup_append] using ⟨h.sessions, hfree⟩
    simpa [AuthStore.insertSession] using hnew
  | revoke => exact hrevoke _ _
  | revokeAll => exact hrevoke _ _
  | @markUsed id usedAt row =>
    refine ⟨h.sessions, ?_⟩
    have hhashes : (s.useReset id usedAt).passwordResets.map (fun x => x.tokenHash) =
        s.passwordResets.map (fun x => x.tokenHash) := by
      grind [AuthStore.useReset, List.map_congr_left]
    rw [hhashes]
    exact h.resets
  | _ => exact ⟨h.sessions, h.resets⟩

/-- A hash is that of one session and of one reset. -/
theorem TokensUnique.session (h : TokensUnique s) {a b : ℕ}
    (ha : Bears tokenHash (.session a) s) (hb : Bears tokenHash (.session b) s) : a = b := by
  rcases ha with ⟨x, hx, rfl, rfl⟩
  rcases hb with ⟨y, hy, rfl, hhash⟩
  rw [List.inj_on_of_nodup_map h.sessions hy hx hhash]

theorem TokensUnique.reset (h : TokensUnique s) {a b : ℕ}
    (ha : Bears tokenHash (.reset a) s) (hb : Bears tokenHash (.reset b) s) : a = b := by
  rcases ha with ⟨x, hx, rfl, rfl⟩
  rcases hb with ⟨y, hy, rfl, hhash⟩
  rw [List.inj_on_of_nodup_map h.resets hy hx hhash]

/-- What a call that went through has marked is used. -/
theorem spent_of_consumes {call : AuthCall} {r : call.Res}
    (hr : (call.exec s).1 = .ok r) (hc : consumes call = some c) : Spent c (call.exec s).2 := by
  cases call with
  | sessionRevoke id revokedAt =>
    obtain rfl := Option.some.inj hc
    simp only [AuthCall.exec] at hr ⊢
    split at hr
    · cases hr
    rename_i x hx
    have hid : x.id = id := by simpa using List.find?_some hx
    refine ⟨_, AuthStore.mem_revokeWhere.mpr ⟨x, List.mem_of_find?_eq_some hx, rfl⟩, ?_⟩
    simp [hid]
  | resetMarkUsed id usedAt =>
    obtain rfl := Option.some.inj hc
    simp only [AuthCall.exec] at hr ⊢
    split at hr
    · cases hr
    rename_i x hx
    have hid : x.id = id := by simpa using List.find?_some hx
    refine ⟨_, List.mem_map.mpr ⟨x, List.mem_of_find?_eq_some hx, rfl⟩, ?_⟩
    simp [hid]
  | _ => cases hc

/-- What a look-up has found bears the hash. -/
theorem bears_of_finds {call : AuthCall}
    (hfinds : finds call (call.exec s).1 = some (tokenHash, c)) : Bears tokenHash c s := by
  have heff := call.exec_effect s
  generalize (call.exec s).1 = r at heff hfinds
  generalize (call.exec s).2 = s' at heff
  cases heff with
  | @findReset hash now r hfound =>
    cases r with
    | none => cases hfinds
    | some reset =>
      obtain ⟨rfl, rfl⟩ : hash = tokenHash ∧ Credential.reset reset.id = c := by
        simpa [finds] using hfinds
      rcases hfound reset rfl with ⟨hmem, hhash, -⟩
      exact ⟨reset, hmem, rfl, hhash⟩
  | @findSession hash now r hfound =>
    cases r with
    | none => cases hfinds
    | some record =>
      obtain ⟨rfl, rfl⟩ : hash = tokenHash ∧ Credential.session record.id = c := by
        simpa [finds] using hfinds
      rcases hfound record rfl with ⟨hmem, hhash, -⟩
      exact ⟨record.toAuthSession, hmem, rfl, hhash⟩
  | _ => cases hfinds

/-! ## Runs -/

/-- What has been found still bears its hash, what has been marked is used, and
nothing has been marked twice. -/
structure SpentInv (env : AuthEnv) (s : AuthSnapshot) : Prop where
  kept : AuthKept env s
  unique : TokensUnique s.store
  found : ∀ e ∈ s.log, ∀ tokenHash c, finds e.op e.result = some (tokenHash, c) →
    Bears tokenHash c s.store
  spent : ∀ e ∈ s.log, ∀ c r, e.result = .ok r → consumes e.op = some c → Spent c s.store
  once : ∀ (i j : ℕ) (e e' : Event AuthCall AuthCall.Res Exception) (c : Credential)
    (r : e.op.Res) (r' : e'.op.Res), s.log[i]? = some e → s.log[j]? = some e' →
      e.result = .ok r → e'.result = .ok r' → consumes e.op = some c →
      consumes e'.op = some c → i = j

section Runs

variable {env : AuthEnv} {s s' : AuthSnapshot} {l : Label Exception AuthRequest}

variable {i pid : ℕ}

/-- The new call at the end of a log. -/
theorem getElem_log_cases {log : List (Event AuthCall AuthCall.Res Exception)}
    {e e' : Event AuthCall AuthCall.Res Exception} (h : (log ++ [e'])[i]? = some e) :
    log[i]? = some e ∨ i = log.length ∧ e = e' := by grind

theorem SpentInv.next (hC : marksUnused s l) (hnext : (authMachine env).next l s = some s')
    (h : SpentInv env s) : SpentInv env s' := by
  have hkept := h.kept.next hnext
  rcases (authMachine env).next_cases hnext with ⟨req, rfl, rfl⟩ | ⟨pid, req, op, k, rfl, hp, rfl⟩ |
    ⟨pid, e, req, op, k, rfl, hp, rfl⟩
  · exact ⟨hkept, h.unique, h.found, h.spent, h.once⟩
  · -- whatever the call marks was unused, so no earlier call has marked it
    have hfresh : ∀ c, consumes op = some c → ¬ Spent c s.store := by
      grind [marksUnused, not_spent_of_unused]
    refine ⟨hkept, h.unique.exec op, ?_, ?_, ?_⟩
    · intro e he tokenHash c hfinds
      rcases List.mem_append.mp he with hold | hnew
      · exact (h.found e hold tokenHash c hfinds).exec op
      rw [List.mem_singleton] at hnew
      subst hnew
      exact (bears_of_finds hfinds).exec op
    · intro e he c r hr hc
      rcases List.mem_append.mp he with hold | hnew
      · exact (h.spent e hold c r hr hc).exec op
      rw [List.mem_singleton] at hnew
      subst hnew
      exact spent_of_consumes hr hc
    · intro i j e e' c r r' hi hj hr hr' hc hc'
      rcases getElem_log_cases hi with hi | ⟨rfl, rfl⟩
      · rcases getElem_log_cases hj with hj | ⟨rfl, rfl⟩
        · exact h.once i j e e' c r r' hi hj hr hr' hc hc'
        · exact absurd (h.spent e (List.mem_of_getElem? hi) c r hr hc) (hfresh c hc')
      rcases getElem_log_cases hj with hj | ⟨rfl, rfl⟩
      · exact absurd (h.spent e' (List.mem_of_getElem? hj) c r' hr' hc') (hfresh c hc)
      · rfl
  · -- a failed call finds and marks nothing
    have hnone : finds op (.error e) = none := by
      cases op <;> rfl
    refine ⟨hkept, h.unique, ?_, ?_, ?_⟩
    · intro e' he tokenHash c hfinds
      rcases List.mem_append.mp he with hold | hnew
      · exact h.found e' hold tokenHash c hfinds
      · grind
    · intro e' he c r hr hc
      rcases List.mem_append.mp he with hold | hnew
      · exact h.spent e' hold c r hr hc
      · grind
    · intro i j e₁ e₂ c r r' hi hj hr hr' hc hc'
      rcases getElem_log_cases hi with hi | ⟨rfl, rfl⟩
      · rcases getElem_log_cases hj with hj | ⟨rfl, rfl⟩
        · exact h.once i j e₁ e₂ c r r' hi hj hr hr' hc hc'
        · cases hr'
      · cases hr

variable {past : List AuthTold}

/-- What a refresh was told before it issued its session. -/
theorem exchanged_of_create {request : AuthRefreshRequest} {data : CreateSessionInput}
    (h : Calls env (.refresh request) past (.sessionCreate data)) :
    ∃ record revoked days minutes, past = exchanged env request record revoked ++
      [⟨.retentionPolicyFind, days⟩, ⟨.retentionPolicyFind, minutes⟩] := by
  cases h with
  | @issue record revoked _ _ hid hcall =>
    cases hcall with
    | @create days minutes _ hdata => exact ⟨record, revoked, days, minutes, rfl⟩

/-- What a reset was told before it changed the password. -/
theorem used_of_setPassword {request : AuthResetPasswordRequest} {userId passwordHash : String}
    (h : Calls env (.resetPassword request) past (.userSetPassword userId passwordHash)) :
    ∃ token reset user row, readResetToken request.token = .ok token ∧
      past = used env request token reset user row := by
  cases h with
  | @setPassword token reset row user htok => exact ⟨token, reset, user, row, htok, rfl⟩
  | issue hcall => cases hcall

def isCreate : AuthCall → Bool
  | .sessionCreate _ => true
  | _ => false

def isSetPassword : AuthCall → Bool
  | .userSetPassword _ _ => true
  | _ => false

variable {call : AuthCall}

/-- No request issues two sessions. -/
theorem calls_create_once {request : AuthRequest} (h : Calls env request past call)
    (hcall : isCreate call) : ∀ t ∈ past, ¬ isCreate t.op := by
  have hissue : ∀ {before : List AuthTold} {userId : String},
      (∀ t ∈ before, ¬ isCreate t.op) → IssueCall before userId past call →
        ∀ t ∈ past, ¬ isCreate t.op := by
    intro before userId hbefore hissue
    cases hissue with
    | days | minutes => cases hcall
    | create => grind [isCreate]
  cases request with
  | login request =>
    cases h with
    | issue hvalid hcall' => exact hissue (by simp [loggedIn, isCreate]) hcall'
    | _ => cases hcall
  | refresh request =>
    cases h with
    | issue hid hcall' => exact hissue (by simp [exchanged, isCreate]) hcall'
    | _ => cases hcall
  | logoutAll userId revokedAt =>
    rw [h.2] at hcall
    cases hcall
  | resetPassword request =>
    cases h with
    | issue hcall' =>
      exact hissue (by simp [revokedAll, changed, used, resettable, isCreate]) hcall'
    | _ => cases hcall

/-- No request changes two passwords. -/
theorem calls_setPassword_once {request : AuthRequest} (h : Calls env request past call)
    (hcall : isSetPassword call) : ∀ t ∈ past, ¬ isSetPassword t.op := by
  have hissue : ∀ {before : List AuthTold} {userId : String},
      ¬ IssueCall before userId past call := by
    intro before userId hissue
    cases hissue <;> cases hcall
  cases request with
  | login request =>
    cases h with
    | issue hvalid hcall' => exact absurd hcall' hissue
    | _ => cases hcall
  | refresh request =>
    cases h with
    | issue hid hcall' => exact absurd hcall' hissue
    | _ => cases hcall
  | logoutAll userId revokedAt =>
    rw [h.2] at hcall
    cases hcall
  | resetPassword request =>
    cases h with
    | setPassword htok => simp [used, resettable, isSetPassword]
    | issue hcall' => exact absurd hcall' hissue
    | _ => cases hcall

/-- Where a request was told what it was told. -/
theorem position_of_told {r : Except Exception call.Res}
    (h : ⟨call, r⟩ ∈ history pid (s.log.take i)) : ∃ a : ℕ, s.log[a]? = some ⟨pid, call, r⟩ :=
  List.mem_iff_getElem?.mp (List.mem_of_mem_take (mem_history.mp h))

variable {token : String}

section

variable (h : SpentInv env s)
include h

/-- A position at which a token was exchanged. -/
theorem SpentInv.exchanged {j : ℕ} (hi : ExchangedAt token s i)
    (hj : ExchangedAt token s j) : i = j := by
  have hused : ∀ {i pid : ℕ} {data : CreateSessionInput} {record : AuthSessionRecord}
      {request : AuthRefreshRequest} {p : AuthProg AuthReply},
      s.log[i]? = some ⟨pid, .sessionCreate data, .ok record⟩ →
      s.procs[pid]? = some (.refresh request, p) → request.refreshToken = token →
      ∃ (a : ℕ) (id : ℕ) (revokedAt : ℤ) (revoked : AuthSession),
        Bears (env.hashOpaqueToken token) (.session id) s.store ∧
        s.log[a]? = some ⟨pid, .sessionRevoke id revokedAt, .ok revoked⟩ := by
    intro i pid data record request p hi hp htok
    rcases h.kept.events i _ hi with ⟨q, hq, hcalls⟩
    rw [hp] at hq
    obtain rfl := Option.some.inj hq
    rcases exchanged_of_create hcalls with ⟨found, revoked, days, minutes, hpast⟩
    have hfind : ⟨.sessionFindActive (env.hashOpaqueToken request.refreshToken) request.now,
        .ok (some found)⟩ ∈ history pid (s.log.take i) := by
      rw [hpast]
      simp [QuizMind.exchanged]
    have hrevoke : ⟨.sessionRevoke found.id request.revokedAt, .ok revoked⟩ ∈
        history pid (s.log.take i) := by
      rw [hpast]
      simp [QuizMind.exchanged]
    rcases position_of_told hrevoke with ⟨a, ha⟩
    refine ⟨a, found.id, request.revokedAt, revoked, ?_, ha⟩
    rw [← htok]
    exact h.found _ (List.mem_of_mem_take (mem_history.mp hfind)) _ _ rfl
  rcases hi with ⟨pid, data, record, request, p, hi, hp, htok⟩
  rcases hj with ⟨pid', data', record', request', p', hj, hp', htok'⟩
  rcases hused hi hp htok with ⟨a, id, _, _, hbears, ha⟩
  rcases hused hj hp' htok' with ⟨b, id', _, _, hbears', hb⟩
  -- the two requests have revoked the same session, hence are the same request
  obtain rfl := h.unique.session hbears hbears'
  obtain rfl := h.once a b _ _ _ _ _ ha hb rfl rfl rfl rfl
  rw [ha] at hb
  cases hb
  exact h.kept.unique (p := fun t => isCreate t.op) (fun _ _ _ _ => calls_create_once)
    (t := ⟨_, _⟩) (u := ⟨_, _⟩) hi rfl hj rfl

theorem SpentInv.changed {j : ℕ} (hi : ChangedAt token s i) (hj : ChangedAt token s j) : i = j := by
  have hused : ∀ {i pid : ℕ} {userId passwordHash : String} {user : AuthUser}
      {request : AuthResetPasswordRequest} {p : AuthProg AuthReply},
      s.log[i]? = some ⟨pid, .userSetPassword userId passwordHash, .ok user⟩ →
      s.procs[pid]? = some (.resetPassword request, p) →
      readResetToken request.token = .ok token →
      ∃ (a : ℕ) (id : ℕ) (usedAt : ℤ) (row : PasswordReset),
        Bears (env.hashOpaqueToken token) (.reset id) s.store ∧
        s.log[a]? = some ⟨pid, .resetMarkUsed id usedAt, .ok row⟩ := by
    intro i pid userId passwordHash user request p hi hp htok
    rcases h.kept.events i _ hi with ⟨q, hq, hcalls⟩
    rw [hp] at hq
    obtain rfl := Option.some.inj hq
    rcases used_of_setPassword hcalls with ⟨token', found, user', row, htok', hpast⟩
    rw [htok] at htok'
    obtain rfl := Except.ok.inj htok'
    have hfind : ⟨.resetFindActive (env.hashOpaqueToken token) request.now,
        .ok (some found)⟩ ∈ history pid (s.log.take i) := by
      rw [hpast]
      simp [used, resettable]
    have hmark : ⟨.resetMarkUsed found.id request.resetAt, .ok row⟩ ∈
        history pid (s.log.take i) := by
      rw [hpast]
      simp [used]
    rcases position_of_told hmark with ⟨a, ha⟩
    exact ⟨a, found.id, request.resetAt, row,
      h.found _ (List.mem_of_mem_take (mem_history.mp hfind)) _ _ rfl, ha⟩
  rcases hi with ⟨pid, userId, passwordHash, user, request, p, hi, hp, htok⟩
  rcases hj with ⟨pid', userId', passwordHash', user', request', p', hj, hp', htok'⟩
  rcases hused hi hp htok with ⟨a, id, _, _, hbears, ha⟩
  rcases hused hj hp' htok' with ⟨b, id', _, _, hbears', hb⟩
  -- the two requests have marked the same reset, hence are the same request
  obtain rfl := h.unique.reset hbears hbears'
  obtain rfl := h.once a b _ _ _ _ _ ha hb rfl rfl rfl rfl
  rw [ha] at hb
  cases hb
  exact h.kept.unique (p := fun t => isSetPassword t.op) (fun _ _ _ _ => calls_setPassword_once)
    (t := ⟨_, _⟩) (u := ⟨_, _⟩) hi rfl hj rfl

/-- A refresh that has succeeded has exchanged its token. -/
theorem SpentInv.of_refreshed (hdone : RefreshedBy token s pid) :
    ∃ i e, s.log[i]? = some e ∧ e.pid = pid ∧ ExchangedAt token s i := by
  rcases hdone with ⟨request, reply, hp, htok⟩
  rcases h.kept.procs pid _ hp with ⟨found, revoked, days, minutes, data, record, -, hpast⟩
  have hmem : ⟨.sessionCreate data, .ok record⟩ ∈ history pid s.log := by
    rw [hpast]
    simp
  rcases List.mem_iff_getElem?.mp (mem_history.mp hmem) with ⟨i, hi⟩
  exact ⟨i, _, hi, rfl, pid, data, record, request, _, hi, hp, htok⟩

/-- A reset that has succeeded has changed the password. -/
theorem SpentInv.of_reset (hdone : ResetBy token s pid) : ∃ i e, s.log[i]? = some e ∧ e.pid = pid ∧
      ChangedAt token s i := by
  rcases hdone with ⟨request, reply, hp, htok⟩
  rcases h.kept.procs pid _ hp with
    ⟨token', reset, row, user, updated, count, result, htok', hissued, -, -⟩
  rcases hissued with ⟨days, minutes, data, record, -, hpast⟩
  have hmem : ⟨.userSetPassword reset.userId (env.hashPassword request.password request.salt),
      .ok updated⟩ ∈ history pid s.log := by
    rw [hpast]
    simp [revokedAll, QuizMind.changed]
  rcases List.mem_iff_getElem?.mp (mem_history.mp hmem) with ⟨i, hi⟩
  exact ⟨i, _, hi, rfl, pid, _, _, updated, request, _, hi, hp, htok⟩

theorem SpentInv.consumedOnce : ConsumedOnce s := by
  constructor
  · intro token i j
    exact h.exchanged
  · intro token i j
    exact h.changed
  · intro token pid pid' hpid hpid'
    rcases h.of_refreshed hpid with ⟨i, e, hi, rfl, hexchanged⟩
    rcases h.of_refreshed hpid' with ⟨j, e', hj, rfl, hexchanged'⟩
    obtain rfl := h.exchanged hexchanged hexchanged'
    rw [hi] at hj
    rw [Option.some.inj hj]
  · intro token pid pid' hpid hpid'
    rcases h.of_reset hpid with ⟨i, e, hi, rfl, hchanged⟩
    rcases h.of_reset hpid' with ⟨j, e', hj, rfl, hchanged'⟩
    obtain rfl := h.changed hchanged hchanged'
    rw [hi] at hj
    rw [Option.some.inj hj]

end

end Runs

/-- In a run in which everything that a request marks as used was still unused,
every credential is consumed once. -/
theorem consumedOnce_of_unused {env : AuthEnv} {s₀ : AuthStore} (hunique : TokensUnique s₀)
    {s : AuthSnapshot}
    (hrun : (authMachine env).Reaches (fun s l => marksUnused s l) (initial s₀) s) :
    ConsumedOnce s := by
  have hinit : SpentInv env (initial s₀) := by
    refine ⟨Machine.Kept.initial s₀, hunique, ?_, ?_, ?_⟩
    · intro e he
      cases he
    · intro e he
      cases he
    · intro i j e e' c r r' hi
      cases hi
  have hinv : SpentInv env s := by
    refine Machine.Reaches.invariant (authMachine env) ?_ hrun hinit
    intro t l t' hC hnext h
    exact h.next hC hnext
  exact hinv.consumedOnce

/-! ## Two requests with the same token -/

theorem aliceStore_unique : TokensUnique aliceStore := by
  constructor <;> simp [aliceStore]

/-- The token of a refresh that has succeeded. -/
def refreshedWith : AuthRequest × AuthProg AuthReply → Option String
  | (.refresh request, .ret _) => some request.refreshToken
  | _ => none

/-- The token of a reset that has succeeded. -/
def resetWith : AuthRequest × AuthProg AuthReply → Option String
  | (.resetPassword request, .ret _) => (readResetToken request.token).toOption
  | _ => none

theorem refreshedBy_of_check {s : AuthSnapshot} {pid : ℕ} {token : String}
    (h : s.procs[pid]?.bind refreshedWith = some token) : RefreshedBy token s pid := by
  rcases Option.bind_eq_some_iff.mp h with ⟨⟨request, p⟩, hp, hwith⟩
  unfold refreshedWith at hwith
  split at hwith
  · rename_i request' reply heq
    cases heq
    exact ⟨request', reply, hp, Option.some.inj hwith⟩
  · cases hwith

theorem resetBy_of_check {s : AuthSnapshot} {pid : ℕ} {token : String}
    (h : s.procs[pid]?.bind resetWith = some token) : ResetBy token s pid := by
  rcases Option.bind_eq_some_iff.mp h with ⟨⟨request, p⟩, hp, hwith⟩
  unfold resetWith at hwith
  split at hwith
  · rename_i request' reply heq
    cases heq
    refine ⟨request', reply, hp, ?_⟩
    cases hread : readResetToken request'.token with
    | ok a =>
      rw [hread] at hwith
      rw [Option.some.inj hwith]
    | error e =>
      rw [hread] at hwith
      cases hwith
  · cases hwith

/-- Two requests find what they present before either of them marks it. -/
def bothFind (request request' : AuthRequest) (calls : ℕ) : List (Label Exception AuthRequest) :=
  [.start request, .start request', .step 0, .step 1] ++
    List.replicate calls (.step 0) ++ List.replicate calls (.step 1)

/-- One request after the other. -/
def inTurn (request request' : AuthRequest) (calls : ℕ) : List (Label Exception AuthRequest) :=
  [.start request, .start request', .step 0] ++ List.replicate calls (.step 0) ++ [.step 1]

theorem consumedOnce_inTurn :
    ∃ s : AuthSnapshot, (authMachine authEnv).Reaches (fun s l => marksUnused s l)
        (initial aliceStore) s ∧ RefreshedBy "token-a" s 0 ∧ ConsumedOnce s := by
  have hcheck : ((authMachine authEnv).trace marksUnused
      (inTurn (aliceRefreshes "token-a" "token-b") (aliceRefreshes "token-a" "token-c") 4)
      (initial aliceStore)).map (fun s =>
        s.procs[0]?.bind refreshedWith == some "token-a") = some true := by decide
  rcases (authMachine authEnv).reaches_of_trace_check hcheck with ⟨s, hrun, hp⟩
  exact ⟨s, hrun, refreshedBy_of_check (beq_iff_eq.mp hp),
    consumedOnce_of_unused aliceStore_unique hrun⟩

/-- Two refreshes with one token, and two resets with one reset token, all
succeed. -/
theorem token_exchanged_twice : TokensUnique aliceStore ∧
    (∃ s : AuthSnapshot, (authMachine authEnv).Reaches (fun s l => anyStep s l)
        (initial aliceStore) s ∧
      RefreshedBy "token-a" s 0 ∧ RefreshedBy "token-a" s 1 ∧ ¬ ConsumedOnce s) ∧
    ∃ s : AuthSnapshot, (authMachine authEnv).Reaches (fun s l => anyStep s l)
        (initial aliceStore) s ∧
      ResetBy "reset-a" s 0 ∧ ResetBy "reset-a" s 1 ∧ ¬ ConsumedOnce s := by
  refine ⟨aliceStore_unique, ?_, ?_⟩
  · have hcheck : ((authMachine authEnv).trace anyStep
        (bothFind (aliceRefreshes "token-a" "token-b") (aliceRefreshes "token-a" "token-c") 4)
        (initial aliceStore)).map (fun s =>
          s.procs[0]?.bind refreshedWith == some "token-a" &&
            s.procs[1]?.bind refreshedWith == some "token-a") = some true := by decide
    rcases (authMachine authEnv).reaches_of_trace_check hcheck with ⟨s, hrun, hp⟩
    simp only [Bool.and_eq_true, beq_iff_eq] at hp
    have hfirst := refreshedBy_of_check hp.1
    have hsecond := refreshedBy_of_check hp.2
    refine ⟨s, hrun, hfirst, hsecond, ?_⟩
    intro honce
    exact absurd (honce.refreshed _ _ _ hfirst hsecond) (by decide)
  have hcheck : ((authMachine authEnv).trace anyStep
      (bothFind (aliceResets "token-b") (aliceResets "token-c") 7)
      (initial aliceStore)).map (fun s =>
        s.procs[0]?.bind resetWith == some "reset-a" &&
          s.procs[1]?.bind resetWith == some "reset-a") = some true := by decide
  rcases (authMachine authEnv).reaches_of_trace_check hcheck with ⟨s, hrun, hp⟩
  simp only [Bool.and_eq_true, beq_iff_eq] at hp
  have hfirst := resetBy_of_check hp.1
  have hsecond := resetBy_of_check hp.2
  refine ⟨s, hrun, hfirst, hsecond, ?_⟩
  intro honce
  exact absurd (honce.reset _ _ _ hfirst hsecond) (by decide)

end QuizMind
