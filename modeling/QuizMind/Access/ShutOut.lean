import QuizMind.Access.Accounts
import QuizMind.Async.Within
import QuizMind.Auth.Protocol

/-! # A user who is shut out

A suspended user who has no session left that is not revoked, and no installation with one,
cannot get in: of what the handlers find, the user passes no check, and no request gives the
user a session (`accountCode_withholds`). The rules are those of `Async/Within.lean`, with one
lemma per handler.
-/

namespace QuizMind

open Async
open Prog (within_ofExcept_bind)

/-! ## Shut out -/

/-- The call sets the column of the user. -/
def AccountCall.suspends (u : String) : AccountCall → Bool
  | .user (.update id data) => id == u && data.suspendedAt.any Option.isSome
  | _ => false

def AccountCall.unsuspends (u : String) : AccountCall → Bool
  | .user (.update id data) => id == u && data.suspendedAt == some none
  | _ => false

/-- The user whose credential was accepted; an installation token is that of the user it was
issued to and of the owner of the installation. -/
def AccountReply.owners : AccountReply → List String
  | .auth (.loggedIn payload) => [payload.session.user.id]
  | .auth (.refreshed payload) => [payload.user.id]
  | .auth (.loggedOutAll _) => []
  | .auth (.passwordReset result) => [result.session.user.id]
  | .currentSession session => [session.userId]
  | .userUpdated _ => []
  | .userDeleted _ => []
  | .installationSession session => [session.userId, session.installation.userId]
  | .extension _ => []

/-- The user owns the installation. -/
def Owns (u : String) (s : AccountStore) (id : ℕ) : Prop :=
  ∃ i ∈ s.extension.installations, i.id = id ∧ i.userId = u

/-- The user is suspended and has no session that is not revoked, nor an installation with
one. -/
structure ShutOut (u : String) (s : AccountStore) : Prop where
  tables : ExtensionTables s.extension
  suspended : ∀ user ∈ s.auth.users, user.id = u → user.suspendedAt.isSome
  sessions : ∀ x ∈ s.auth.sessions, x.userId = u → x.revokedAt.isSome
  installationSessions : ∀ x ∈ s.extension.sessions, x.revokedAt = none →
    x.userId ≠ u ∧ ¬ Owns u s x.extensionInstallationId

/-- The user has got no installation. -/
def NoneGained (u : String) (s s' : AccountStore) : Prop := ∀ id, Owns u s' id → Owns u s id

/-- The call does not lift the suspension of the user. -/
def KeepsLock (u : String) (op : AccountCall) (s : AccountStore) : Prop :=
  op.unsuspends u = true → (op.exec s).1.isOk = false

/-- While the user is shut out, the request gives the user no session, and does not return
with a credential of the user. -/
abbrev Withholds (u : String) (p : AccountProg AccountReply) (s : AccountStore) : Prop :=
  p.Within AccountCall.exec (ShutOut u) (NoneGained u) (KeepsLock u)
    (fun reply => u ∉ reply.owners) s

/-! ## What a call does -/

section Calls

variable {u : String} {s : AccountStore}

theorem NoneGained.refl (u : String) (s : AccountStore) : NoneGained u s s := fun _ h => h

theorem NoneGained.trans {a b c : AccountStore} (h : NoneGained u a b) (h' : NoneGained u b c) :
    NoneGained u a c :=
  fun id hid => h id (h' id hid)

/-- The call gives the user a session or an installation. -/
def Grants (u : String) : AccountCall → AccountStore → Prop
  | .auth (.sessionCreate data), _ => data.userId = u
  | .extension (.installationUpsert input), _ => input.userId = u
  | .extension (.sessionCreate data), s => data.userId = u ∨ Owns u s data.extensionInstallationId
  | _, _ => False

/-- The calls of `AuthService` change neither the id nor the suspension of a user. -/
theorem AuthCall.exec_users {call : AuthCall} {t : AuthStore} {user : AuthUser}
    (h : user ∈ (call.exec t).2.users) :
    ∃ before ∈ t.users, before.id = user.id ∧ before.suspendedAt = user.suspendedAt := by
  have hupd : ∀ (id : String) (f : AuthUser → AuthUser),
      (∀ x, (f x).id = x.id ∧ (f x).suspendedAt = x.suspendedAt) →
      user ∈ (t.userUpdate id f).2.users →
        ∃ before ∈ t.users, before.id = user.id ∧ before.suspendedAt = user.suspendedAt := by
    intro id f hf hmem
    simp only [AuthStore.userUpdate] at hmem
    split at hmem
    · exact ⟨user, hmem, rfl, rfl⟩
    obtain ⟨before, hbefore, rfl⟩ := List.mem_map.mp hmem
    refine ⟨before, hbefore, ?_⟩
    split
    · exact ⟨(hf before).1.symm, (hf before).2.symm⟩
    · exact ⟨rfl, rfl⟩
  cases call with
  | userTouchLastLogin id lastLoginAt =>
    exact hupd id (fun user => { user with lastLoginAt := some lastLoginAt })
      (fun x => ⟨rfl, rfl⟩) h
  | userSetPassword id passwordHash =>
    exact hupd id (fun user => { user with passwordHash := some passwordHash })
      (fun x => ⟨rfl, rfl⟩) h
  | resetMarkUsed id usedAt =>
    simp only [AuthCall.exec] at h
    split at h <;> exact ⟨user, h, rfl, rfl⟩
  | sessionCreate data =>
    simp only [AuthCall.exec] at h
    split at h
    · exact ⟨user, h, rfl, rfl⟩
    · split at h <;> exact ⟨user, h, rfl, rfl⟩
  | sessionRevoke id revokedAt =>
    simp only [AuthCall.exec] at h
    split at h <;> exact ⟨user, h, rfl, rfl⟩
  | _ => exact ⟨user, h, rfl, rfl⟩

theorem ShutOut.auth (h : ShutOut u s) {call : AuthCall} (hgrants : ¬ Grants u (.auth call) s) :
    ShutOut u (AccountCall.exec (.auth call) s).2 := by
  refine ⟨h.tables, ?_, ?_, h.installationSessions⟩
  · intro user huser hid
    obtain ⟨before, hbefore, hid', hsusp⟩ := AuthCall.exec_users huser
    rw [← hsusp]
    exact h.suspended before hbefore (hid'.trans hid)
  intro x hx hid
  by_contra hlive
  have hnone : x.revokedAt = none := by simpa using hlive
  rcases AuthStore.live_exec hx hnone with hold | ⟨data, record, rfl, _, _, huser⟩
  · have hrev := h.sessions x hold hid
    simp [hnone] at hrev
  · exact hgrants (huser.trans hid)

/-- What goes with a deleted user takes nothing from the others. -/
theorem owns_cascade {id : String} {i : ℕ} (h : Owns u (s.cascade id) i) : Owns u s i := by
  obtain ⟨row, hrow, hid, howner⟩ := h
  exact ⟨row, (List.mem_filter.mp hrow).1, hid, howner⟩

theorem ExtensionTables.cascade (h : ExtensionTables s.extension) (id : String) :
    ExtensionTables (s.cascade id).extension := by
  constructor
  · exact h.ids.sublist (List.filter_sublist.map _)
  · exact h.names.sublist (List.filter_sublist.map _)
  · intro i hi
    exact h.ids_lt i (List.mem_filter.mp hi).1
  · intro x hx
    exact h.sessions_lt x (List.mem_filter.mp hx).1

section

variable (h : ShutOut u s)
include h

theorem ShutOut.cascade (id : String) : ShutOut u (s.cascade id) := by
  refine ⟨h.tables.cascade id, h.suspended, ?_, ?_⟩
  · intro x hx
    exact h.sessions x (List.mem_filter.mp hx).1
  intro x hx hlive
  obtain ⟨hne, hnot⟩ := h.installationSessions x (List.mem_filter.mp hx).1 hlive
  exact ⟨hne, fun howns => hnot (owns_cascade howns)⟩

/-- Only the suspension depends on the table of users. -/
theorem ShutOut.withUsers {users : List AuthUser}
    (husers : ∀ user ∈ users, user.id = u → user.suspendedAt.isSome) :
    ShutOut u { s with auth := { s.auth with users := users } } :=
  ⟨h.tables, husers, h.sessions, h.installationSessions⟩

theorem ShutOut.user {call : UserCall} (hlock : KeepsLock u (.user call) s) :
    ShutOut u (AccountCall.exec (.user call) s).2 ∧
      NoneGained u s (AccountCall.exec (.user call) s).2 := by
  cases call with
  | findById id | countAdmins => exact ⟨h.withUsers h.suspended, fun _ howns => howns⟩
  | delete id =>
    simp only [AccountCall.exec, UserCall.exec]
    cases hfind : findUser s.auth.users id with
    | none => exact ⟨h, NoneGained.refl u s⟩
    | some user =>
      refine ⟨(h.withUsers ?_).cascade id, fun _ howns => owns_cascade howns⟩
      intro user' hmem
      exact h.suspended user' (List.mem_filter.mp hmem).1
  | update id data =>
    simp only [AccountCall.exec, UserCall.exec]
    cases hfind : findUser s.auth.users id with
    | none => exact ⟨h, NoneGained.refl u s⟩
    | some user =>
      refine ⟨h.withUsers ?_, fun _ howns => howns⟩
      intro user' hmem hid
      obtain ⟨before, hbefore, rfl⟩ := List.mem_map.mp hmem
      by_cases hrow : before.id = id
      · rw [if_pos hrow] at hid ⊢
        have hu : before.id = u := hid
        cases hdata : data.suspendedAt with
        | none =>
          have hkept : (data.apply before).suspendedAt = before.suspendedAt := by
            simp [UserUpdateInput.apply, hdata]
          rw [hkept]
          exact h.suspended before hbefore hu
        | some suspendedAt =>
          cases suspendedAt with
          | some t => simp [UserUpdateInput.apply, hdata]
          | none =>
            -- this would lift the suspension
            have hfails := hlock (by simp [AccountCall.unsuspends, hdata, ← hrow, hu])
            simp [AccountCall.exec, UserCall.exec, hfind, Except.toBool] at hfails
      · rw [if_neg hrow] at hid ⊢
        exact h.suspended before hbefore hid

/-- A live installation session after a revocation was live before it. -/
theorem ShutOut.revokeWhere (p : InstallationSession → Bool) (revokedAt : ℤ) :
    ShutOut u { s with extension := s.extension.revokeWhere p revokedAt } := by
  refine ⟨?_, h.suspended, h.sessions, ?_⟩
  · refine { h.tables with sessions_lt := ?_ }
    intro x hx
    obtain ⟨y, hy, rfl⟩ := ExtensionStore.mem_revokeWhere.mp hx
    rw [ExtensionStore.revoke_ids]
    exact h.tables.sessions_lt y hy
  intro x hx hlive
  obtain ⟨y, hy, rfl⟩ := ExtensionStore.mem_revokeWhere.mp hx
  by_cases hp : p y = true
  · simp [hp] at hlive
  · rw [if_neg hp] at hlive ⊢
    exact h.installationSessions y hy hlive

/-- Changed installations that do not become the user's leave the sessions as they are. -/
theorem ShutOut.withExtension {t : ExtensionStore}
    (htables : ExtensionTables t) (hsessions : t.sessions = s.extension.sessions)
    (hnone : NoneGained u s { s with extension := t }) : ShutOut u { s with extension := t } := by
  refine ⟨htables, h.suspended, h.sessions, ?_⟩
  intro x hx hlive
  have hx' : x ∈ s.extension.sessions := hsessions ▸ hx
  obtain ⟨hne, hnot⟩ := h.installationSessions x hx' hlive
  exact ⟨hne, fun howns => hnot (hnone _ howns)⟩

theorem ShutOut.extension {call : ExtensionCall} (hgrants : ¬ Grants u (.extension call) s) :
    ShutOut u (AccountCall.exec (.extension call) s).2 ∧
      NoneGained u s (AccountCall.exec (.extension call) s).2 := by
  have htables : ExtensionTables (call.exec s.extension).2 := h.tables.exec call
  have heff := call.exec_effect s.extension
  simp only [AccountCall.exec]
  generalize (call.exec s.extension).2 = t at heff htables
  cases heff with
  | @update input i hfound =>
    have hnone : NoneGained u s { s with extension := s.extension.updateInstallation input } := by
      rintro id ⟨row, hrow, hid, howner⟩
      obtain ⟨before, hbefore, rfl⟩ := ExtensionStore.mem_updateInstallation.mp hrow
      split at howner
      · exact absurd howner hgrants
      rename_i hname
      rw [if_neg hname] at hid
      exact ⟨before, hbefore, hid, howner⟩
    exact ⟨h.withExtension htables rfl hnone, hnone⟩
  | @insert input hnew =>
    have hnone : NoneGained u s { s with extension := s.extension.insertInstallation input } := by
      rintro id ⟨row, hrow, hid, howner⟩
      rcases List.mem_append.mp hrow with hold | hadded
      · exact ⟨row, hold, hid, howner⟩
      · rw [List.mem_singleton.mp hadded] at howner
        exact absurd howner hgrants
    exact ⟨h.withExtension htables rfl hnone, hnone⟩
  | @create data i hfound hfree =>
    refine ⟨⟨htables, h.suspended, h.sessions, ?_⟩, fun _ howns => howns⟩
    intro x hx hlive
    rcases List.mem_append.mp hx with hold | hadded
    · exact h.installationSessions x hold hlive
    · rw [List.mem_singleton.mp hadded]
      exact ⟨fun hu => hgrants (Or.inl hu), fun howns => hgrants (Or.inr howns)⟩
  | revokeActive => exact ⟨h.revokeWhere _ _, fun _ howns => howns⟩
  | revoke => exact ⟨h.revokeWhere _ _, fun _ howns => howns⟩
  | _ => exact ⟨h, NoneGained.refl u s⟩

/-- A call that gives the user nothing and does not lift the suspension leaves the user shut
out. -/
theorem ShutOut.exec {op : AccountCall} (hgrants : ¬ Grants u op s)
    (hlock : KeepsLock u op s) : ShutOut u (op.exec s).2 ∧ NoneGained u s (op.exec s).2 := by
  cases op with
  | auth call => exact ⟨h.auth hgrants, fun _ howns => howns⟩
  | sessionFindById id => exact ⟨h, NoneGained.refl u s⟩
  | user call => exact h.user hlock
  | extension call => exact h.extension hgrants

end

end Calls

/-! ## What a request does -/

section Requests

variable {u : String} {s : AccountStore} {α β : Type}

/-- While the user is shut out, the program gives the user nothing, and what it returns
satisfies `P`. -/
abbrev Keeps (u : String) (P : α → Prop) (p : AccountProg α) (s : AccountStore) : Prop :=
  p.Within AccountCall.exec (ShutOut u) (NoneGained u) (KeepsLock u) P s

variable {P : β → Prop}

/-- One call followed by the rest. -/
theorem keeps_call {op : AccountCall} {f : op.Res → AccountProg β}
    (hgrants : ∀ t, NoneGained u s t → ShutOut u t → ¬ Grants u op t)
    (hrest : ∀ t a, NoneGained u s t → ShutOut u t → (op.exec t).1 = .ok a →
      Keeps u P (f a) (op.exec t).2) :
    Keeps u P (account op >>= f) s := by
  apply Prog.within_await_bind
  intro t ht hshut hlock
  obtain ⟨hshut', hgained⟩ := hshut.exec (hgrants t ht hshut) hlock
  exact ⟨hshut', hgained, fun a ha => hrest t a ht hshut ha⟩

theorem keeps_bind {P : α → Prop} {Q : β → Prop} {p : AccountProg α} {f : α → AccountProg β}
    (hp : Keeps u P p s) (hf : ∀ a t, NoneGained u s t → P a → Keeps u Q (f a) t) :
    Keeps u Q (p >>= f) s :=
  Prog.within_bind (NoneGained.refl u) (fun _ _ _ => NoneGained.trans) hp hf

theorem keeps_handle {P : α → Prop} {p : AccountProg α} {f : Exception → AccountProg α}
    (hp : Keeps u P p s) (hf : ∀ e t, NoneGained u s t → Keeps u P (f e) t) :
    Keeps u P (p.handle f) s :=
  Prog.within_handle (NoneGained.refl u) (fun _ _ _ => NoneGained.trans) hp hf

theorem ofAuth_call (call : AuthCall) (f : call.Res → AuthProg α) :
    ofAuth (auth call >>= f) = account (.auth call) >>= fun a => ofAuth (f a) :=
  Prog.embed_await_bind _ _ call f

variable {x : Except Exception β}

theorem ofAuth_check (f : β → AuthProg α) :
    ofAuth (Prog.ofExcept x >>= f) = Prog.ofExcept x >>= fun a => ofAuth (f a) := by
  rw [ofAuth, Prog.embed_bind, Prog.embed_ofExcept]
  rfl

theorem ofAuth_bind (p : AuthProg β) (f : β → AuthProg α) :
    ofAuth (p >>= f) = ofAuth p >>= fun a => ofAuth (f a) :=
  Prog.embed_bind _ _ p f

/-- A reading of the policy, with a default when it fails. -/
theorem keeps_lifetime {f : RetentionPolicy → ℕ} {standard : ℕ} :
    Keeps u (fun _ => True) (ofAuth (tryCatch
      (do
        let policy ← auth .retentionPolicyFind
        return f policy)
      (fun _ => return standard))) s := by
  rw [Prog.tryCatch_eq, ofAuth, Prog.embed_handle]
  refine keeps_handle ?_ (fun e t _ => trivial)
  rw [Prog.embed_await_bind]
  exact keeps_call (fun _ _ _ hgrants => hgrants) (fun _ _ _ _ _ => trivial)

variable {user : AuthUser}

theorem keeps_issueSession (env : AuthEnv) (fresh : FreshSession) (huser : user.id ≠ u) :
    Keeps u (fun out => out.2.user.id ≠ u) (ofAuth (issueSession env fresh user)) s := by
  rw [issueSession, ofAuth_bind]
  refine keeps_bind keeps_lifetime fun days t _ _ => ?_
  rw [ofAuth_bind]
  refine keeps_bind keeps_lifetime fun minutes t' _ _ => ?_
  rw [ofAuth_call]
  exact keeps_call (fun _ _ _ hgrants => huser hgrants) (fun _ _ _ _ _ => huser)

variable {found : Option AuthUser}

theorem checkCredentials_notSuspended {env : AuthEnv} {password : String}
    (h : checkCredentials env password found = .ok user) :
    found = some user ∧ user.suspendedAt = none := by
  cases found with
  | none => cases h
  | some found =>
    simp only [checkCredentials] at h
    split at h
    · cases h
    split at h
    · cases h
    split at h
    · simp_all
    · cases h

theorem requireResettable_notSuspended
    (h : requireResettable found = .ok user) : found = some user ∧ user.suspendedAt = none := by
  cases found with
  | none => cases h
  | some found =>
    simp only [requireResettable] at h
    split at h
    · cases h
    split at h
    · cases h
    · simp_all

variable {t : AccountStore}

/-- A row that is not suspended is not that of the user. -/
theorem ShutOut.ne_of_notSuspended (h : ShutOut u t) (hmem : user ∈ t.auth.users)
    (hsusp : user.suspendedAt = none) : user.id ≠ u := by
  intro hid
  have hsome := h.suspended user hmem hid
  simp [hsusp] at hsome

/-- A session that is not revoked is not that of the user. -/
theorem ShutOut.ne_of_live (h : ShutOut u t) {x : AuthSession} (hmem : x ∈ t.auth.sessions)
    (hlive : x.revokedAt = none) : x.userId ≠ u := by
  intro hid
  have hrev := h.sessions x hmem hid
  simp [hlive] at hrev

theorem keeps_login (env : AuthEnv) (request : AuthLoginRequest) :
    Keeps u (fun payload => payload.session.user.id ≠ u) (ofAuth (login env request)) s := by
  rw [login, ofAuth_check]
  refine within_ofExcept_bind fun _ _ => ?_
  rw [ofAuth_check]
  refine within_ofExcept_bind fun email _ => ?_
  rw [ofAuth_call]
  refine keeps_call (fun _ _ _ hgrants => hgrants) fun t found _ hshut hfound => ?_
  rw [ofAuth_check]
  refine within_ofExcept_bind fun user huser => ?_
  obtain ⟨rfl, hsusp⟩ := checkCredentials_notSuspended huser
  have hmem : user ∈ t.auth.users := List.mem_of_find?_eq_some (Except.ok.inj hfound)
  have hne : user.id ≠ u := hshut.ne_of_notSuspended hmem hsusp
  rw [ofAuth_call]
  refine keeps_call (fun _ _ _ hgrants => hgrants) fun t' updated _ _ hupd => ?_
  have hid : updated.id = user.id :=
    exec_honest (.userTouchLastLogin user.id request.now) t'.auth updated hupd
  rw [ofAuth_bind]
  refine keeps_bind (keeps_issueSession env request.fresh (hid ▸ hne)) fun out t'' _ hout => ?_
  exact hout

variable {record : AuthSessionRecord}

/-- The user of a session that is not revoked is another one. -/
theorem ShutOut.ne_of_withUser (h : ShutOut u t) {session : AuthSession}
    (hmem : session ∈ t.auth.sessions) (hrec : t.auth.withUser session = some record)
    (hlive : record.revokedAt = none) : record.user.id ≠ u := by
  obtain ⟨user, huser, rfl⟩ := Option.map_eq_some_iff.mp hrec
  have hid : user.id = session.userId := AuthStore.userById_id huser
  have hne : session.userId ≠ u := h.ne_of_live hmem hlive
  rw [hid]
  exact hne

/-- What `AuthService` finds by a token is a session that is not revoked. -/
theorem ShutOut.ne_of_found (h : ShutOut u t) {tokenHash : String} {now : ℤ}
    (hfound : (AccountCall.exec (.auth (.sessionFindActive tokenHash now)) t).1 =
      .ok (some record)) : record.user.id ≠ u := by
  obtain ⟨session, hsess, hrec⟩ := Option.bind_eq_some_iff.mp (Except.ok.inj hfound)
  have hmatch := List.find?_some hsess
  have hlive : session.revokedAt = none := by
    simp_all [AuthSession.active]
  have hsame : record.revokedAt = session.revokedAt := by
    obtain ⟨user, _, rfl⟩ := Option.map_eq_some_iff.mp hrec
    rfl
  exact h.ne_of_withUser (List.mem_of_find?_eq_some hsess) hrec (hsame.trans hlive)

theorem keeps_refresh (env : AuthEnv) (request : AuthRefreshRequest) :
    Keeps u (fun payload => payload.user.id ≠ u) (ofAuth (refresh env request)) s := by
  rw [refresh, ofAuth_check]
  refine within_ofExcept_bind fun _ _ => ?_
  rw [ofAuth_call]
  refine keeps_call (fun _ _ _ hgrants => hgrants) fun t found _ hshut hfound => ?_
  rw [ofAuth_check]
  refine within_ofExcept_bind fun record hrec => ?_
  cases found with
  | none => cases hrec
  | some found =>
    obtain rfl := Except.ok.inj hrec
    have hne : found.user.id ≠ u := hshut.ne_of_found hfound
    rw [ofAuth_call]
    refine keeps_call (fun _ _ _ hgrants => hgrants) fun t' _ _ _ _ => ?_
    rw [ofAuth_bind]
    exact keeps_bind (keeps_issueSession env request.fresh hne) fun out t'' _ hout => hout

theorem keeps_resetPassword (env : AuthEnv) (request : AuthResetPasswordRequest) :
    Keeps u (fun result => result.session.user.id ≠ u) (ofAuth (resetPassword env request)) s := by
  rw [resetPassword, ofAuth_check]
  refine within_ofExcept_bind fun _ _ => ?_
  rw [ofAuth_check]
  refine within_ofExcept_bind fun token _ => ?_
  rw [ofAuth_check]
  refine within_ofExcept_bind fun _ _ => ?_
  rw [ofAuth_call]
  refine keeps_call (fun _ _ _ hgrants => hgrants) fun _ found _ _ _ => ?_
  rw [ofAuth_check]
  refine within_ofExcept_bind fun reset _ => ?_
  rw [ofAuth_call]
  refine keeps_call (fun _ _ _ hgrants => hgrants) fun t foundUser _ hshut hfound => ?_
  rw [ofAuth_check]
  refine within_ofExcept_bind fun user huser => ?_
  obtain ⟨rfl, hsusp⟩ := requireResettable_notSuspended huser
  have hmem : user ∈ t.auth.users := List.mem_of_find?_eq_some (Except.ok.inj hfound)
  have hne : user.id ≠ u := hshut.ne_of_notSuspended hmem hsusp
  rw [ofAuth_call]
  refine keeps_call (fun _ _ _ hgrants => hgrants) fun _ _ _ _ _ => ?_
  rw [ofAuth_call]
  refine keeps_call (fun _ _ _ hgrants => hgrants) fun t' updated _ _ hupd => ?_
  have hid : updated.id = user.id :=
    exec_honest (.userSetPassword user.id _) t'.auth updated hupd
  rw [ofAuth_call]
  refine keeps_call (fun _ _ _ hgrants => hgrants) fun _ _ _ _ _ => ?_
  rw [ofAuth_bind]
  exact keeps_bind (keeps_issueSession env request.fresh (hid ▸ hne)) fun out t'' _ hout => hout

theorem keeps_auth (env : AuthEnv) (request : AuthRequest) :
    Keeps u (fun reply => u ∉ (AccountReply.auth reply).owners) (ofAuth (authCode env request))
      s := by
  cases request with
  | login request =>
    rw [authCode, ofAuth_bind]
    refine keeps_bind (keeps_login env request) fun payload t _ hpayload => ?_
    exact fun howner => hpayload (List.mem_singleton.mp howner).symm
  | refresh request =>
    rw [authCode, ofAuth_bind]
    refine keeps_bind (keeps_refresh env request) fun payload t _ hpayload => ?_
    exact fun howner => hpayload (List.mem_singleton.mp howner).symm
  | resetPassword request =>
    rw [authCode, ofAuth_bind]
    refine keeps_bind (keeps_resetPassword env request) fun result t _ hres => ?_
    exact fun howner => hres (List.mem_singleton.mp howner).symm
  | logoutAll userId revokedAt =>
    have hall : Keeps u (fun _ => True) (ofAuth (logoutAll env userId revokedAt)) s := by
      rw [logoutAll, ofAuth_check]
      refine within_ofExcept_bind fun _ _ => ?_
      exact keeps_call (fun _ _ _ hgrants => hgrants) fun _ _ _ _ _ => trivial
    rw [authCode, ofAuth_bind]
    refine keeps_bind hall fun count t _ _ => ?_
    intro howner
    cases howner

theorem requireActiveSession_live {now : ℤ} {found : Option AuthSessionRecord}
    (h : requireActiveSession now found = .ok record) :
    found = some record ∧ record.revokedAt = none := by
  cases found with
  | none => cases h
  | some found =>
    simp only [requireActiveSession] at h
    split at h
    · cases h
    · simp_all

theorem keeps_getCurrentSession (env : AccountEnv) (accessToken : String) (now : ℤ) :
    Keeps u (fun session => session.userId ≠ u) (getCurrentSession env accessToken now) s := by
  refine within_ofExcept_bind fun _ _ => ?_
  refine within_ofExcept_bind fun claims _ => ?_
  refine keeps_call (fun _ _ _ hgrants => hgrants) fun t found _ hshut hfound => ?_
  refine within_ofExcept_bind fun record hrec => ?_
  obtain ⟨rfl, hlive⟩ := requireActiveSession_live hrec
  obtain ⟨session, hsess, huser⟩ := Option.bind_eq_some_iff.mp (Except.ok.inj hfound)
  exact hshut.ne_of_withUser (List.mem_of_find?_eq_some hsess) huser hlive

/-- The calls of the admin handlers give nobody a session. -/
theorem keeps_ofUser (p : UserProg α) : Keeps u (fun _ => True) (ofUser p) s := by
  induction p generalizing s with
  | ret a | throw e => trivial
  | call op k ih =>
    intro t _ hshut
    refine ⟨?_, fun e => ih (.error e)⟩
    intro hlock
    have hfree : ¬ Grants u (.user op) t := fun hgrants => hgrants
    obtain ⟨hshut', hgained⟩ := hshut.exec hfree hlock
    exact ⟨hshut', hgained, ih _⟩

/-! The handlers of the extension. -/

theorem ofExtension_call (call : ExtensionCall) (f : call.Res → ExtensionProg α) :
    ofExtension (extension call >>= f) = account (.extension call) >>= fun a => ofExtension (f a) :=
  Prog.embed_await_bind _ _ call f

theorem ofExtension_check (f : β → ExtensionProg α) : ofExtension (QuizMind.ofExcept x >>= f) =
      Prog.ofExcept x >>= fun a => ofExtension (f a) := by
  cases x <;> rfl

theorem ofExtension_bind (p : ExtensionProg β) (f : β → ExtensionProg α) :
    ofExtension (p >>= f) = ofExtension p >>= fun a => ofExtension (f a) :=
  Prog.embed_bind _ _ p f

/-- A call that may fail, with a default. -/
theorem keeps_orElse {call : ExtensionCall} {f : call.Res → ExtensionProg α}
    {g : Exception → ExtensionProg α} {P : α → Prop}
    (hgrants : ∀ t, NoneGained u s t → ShutOut u t → ¬ Grants u (.extension call) t)
    (hrest : ∀ a t, Keeps u P (ofExtension (f a)) t) (hcatch : ∀ e t, Keeps u P (ofExtension (g e)) t) :
    Keeps u P (ofExtension ((extension call >>= f).handle g)) s := by
  rw [ofExtension, Prog.embed_handle]
  refine keeps_handle ?_ fun e t _ => hcatch e t
  rw [Prog.embed_await_bind]
  exact keeps_call hgrants fun t a _ _ _ => hrest a _

variable (env : ExtensionEnv)

theorem keeps_policy :
    Keeps u (fun _ => True) (ofExtension (resolveExtensionSessionPolicy env)) s :=
  keeps_orElse (fun _ _ _ hgrants => hgrants) (fun _ _ => trivial) (fun _ _ => trivial)

theorem keeps_lifecycleEvent (event : LifecycleEvent) :
    Keeps u (fun _ => True) (ofExtension (recordLifecycleEventSafely event)) s := by
  exact keeps_call (fun _ _ _ hgrants => hgrants) fun _ _ _ _ _ => trivial

variable {installation : ExtensionInstallation}

/-- A session issued to another user, for an installation of another user. -/
theorem keeps_issueInstallation (fresh : NewSession) {userId : String} (lifetimeHours : ℚ)
    (hne : userId ≠ u) (hnot : ¬ Owns u s installation.id) :
    Keeps u (fun _ => True)
      (ofExtension (issueInstallationSession env fresh installation userId lifetimeHours)) s := by
  rw [issueInstallationSession, ofExtension_call]
  refine keeps_call ?_ fun _ _ _ _ _ => trivial
  intro t hgained _ hgrants
  rcases hgrants with huser | howns
  · exact hne huser
  · exact hnot (hgained _ howns)

/-- An installation has one owner. -/
theorem not_owns_of_row (htables : ExtensionTables t.extension) {row : ExtensionInstallation}
    (hrow : row ∈ t.extension.installations) (hne : row.userId ≠ u) : ¬ Owns u t row.id := by
  rintro ⟨other, hother, hid, howner⟩
  have heq : other = row := List.inj_on_of_nodup_map htables.ids hother hrow hid
  rw [heq] at howner
  exact hne howner

/-- The row that an upsert answers with is in the table. -/
theorem upserted_mem {t : ExtensionStore} {input : BoundInstallation}
    (h : (ExtensionCall.exec (.installationUpsert input) t).1 = .ok installation) :
    installation ∈ (ExtensionCall.exec (.installationUpsert input) t).2.installations ∧
      installation.userId = input.userId := by
  simp only [ExtensionCall.exec] at h ⊢
  split at h
  · grind [ExtensionStore.mem_of_installation, ExtensionStore.mem_updateInstallation]
  · obtain rfl := Except.ok.inj h
    exact ⟨List.mem_append_right _ (List.mem_singleton.mpr rfl), rfl⟩

theorem keeps_buildBootstrapPayload (installation : ExtensionInstallation) (environment : String)
    (handshake : CompatibilityHandshake) (refreshAfterSeconds : ℤ) :
    Keeps u (fun _ => True)
      (ofExtension (buildBootstrapPayload installation environment handshake refreshAfterSeconds))
      s := by
  rw [buildBootstrapPayload, ofExtension_call]
  exact keeps_call (fun _ _ _ hgrants => hgrants) fun _ _ _ _ _ => trivial

variable {session : CurrentSession}

theorem keeps_bind_request (request : BindRequest) (hne : session.userId ≠ u) :
    Keeps u (fun _ => True)
      (ofExtension (bindInstallationForCurrentSession env session request)) s := by
  rw [bindInstallationForCurrentSession, ofExtension_bind]
  refine keeps_bind (keeps_policy env) fun policy t _ _ => ?_
  rw [ofExtension_check]
  refine within_ofExcept_bind fun normalized _ => ?_
  rw [bindNormalized, ofExtension_call]
  refine keeps_call (fun _ _ _ hgrants => hgrants) fun _ existing _ _ _ => ?_
  rw [ofExtension_call]
  refine keeps_call (fun _ _ _ hgrants => hne hgrants) fun t installation _ hshut hupserted => ?_
  -- the installation is now the requester's
  obtain ⟨hrow, howner⟩ := upserted_mem hupserted
  have htables := hshut.tables.exec (.installationUpsert
    (boundInstallation session.userId normalized.installationId normalized.handshake
      request.occurredAt))
  have hnot : ¬ Owns u (AccountCall.exec (.extension (.installationUpsert
      (boundInstallation session.userId normalized.installationId normalized.handshake
        request.occurredAt))) t).2 installation.id :=
    not_owns_of_row htables hrow (howner ▸ hne)
  rw [ofExtension_call]
  refine keeps_call (fun _ _ _ hgrants => hgrants) fun t' _ hgained hshut' _ => ?_
  rw [ofExtension_bind]
  refine keeps_bind (keeps_issueInstallation env request.fresh policy.lifetimeHours hne ?_) ?_
  · exact fun howns => hnot (hgained _ howns)
  intro issued _ _ _
  rw [ofExtension_bind]
  refine keeps_bind (keeps_buildBootstrapPayload _ _ _ _) fun bootstrap _ _ _ => ?_
  rw [ofExtension_bind]
  exact keeps_bind (keeps_lifecycleEvent _) fun _ _ _ _ => trivial

/-- A session found by its token is that of another user, for an installation of another
user. -/
theorem keeps_resolve_bind (accessToken : String) (now : ℤ)
    {f : InstallationSessionRecord → AccountProg β}
    (h : ∀ record t, record.userId ≠ u → record.installation.userId ≠ u →
      ¬ Owns u t record.installation.id → Keeps u P (f record) t) :
    Keeps u P (ofExtension (resolveInstallationSession env accessToken now) >>= f) s := by
  rw [resolveInstallationSession, ofExtension_call, Prog.bind_assoc]
  refine keeps_call (fun _ _ _ hgrants => hgrants) fun t found _ hshut hfound => ?_
  cases found with
  | none => trivial
  | some record =>
    obtain ⟨session, hsess, hrec⟩ := Option.bind_eq_some_iff.mp (Except.ok.inj hfound)
    obtain ⟨installation, hinst, rfl⟩ := Option.map_eq_some_iff.mp hrec
    have hmatch := List.find?_some hsess
    have hlive : session.revokedAt = none := by
      simp_all [InstallationSession.active]
    obtain ⟨hne, hnot⟩ :=
      hshut.installationSessions session (List.mem_of_find?_eq_some hsess) hlive
    obtain ⟨hrow, hid⟩ := ExtensionStore.mem_of_installationById hinst
    have howner : installation.userId ≠ u := fun howner =>
      hnot ⟨installation, hrow, hid, howner⟩
    exact h _ _ hne howner (hid ▸ hnot)

theorem keeps_bootstrap {record : InstallationSessionRecord}
    (request : BootstrapRequest) (hne : record.installation.userId ≠ u) :
    Keeps u (fun _ => True) (ofExtension (bootstrapInstallationSession env record request)) s := by
  rw [bootstrapInstallationSession, ofExtension_bind]
  refine keeps_bind (keeps_policy env) fun policy _ _ _ => ?_
  rw [ofExtension_check]
  refine within_ofExcept_bind ?_
  rintro ⟨environment, handshake⟩ _
  have hmeta : ∀ t, Keeps u (fun _ => True)
      (ofExtension (refreshMetadata record handshake request.now)) t := by
    intro t
    rw [refreshMetadata, Prog.tryCatch_eq, ofExtension, Prog.embed_handle]
    refine keeps_handle ?_ fun _ _ _ => trivial
    rw [Prog.embed_await]
    exact keeps_call (fun _ _ _ hgrants => hne hgrants) fun _ _ _ _ _ => trivial
  rw [ofExtension_bind]
  refine keeps_bind (hmeta _) fun installation t _ _ => ?_
  exact keeps_handle (keeps_buildBootstrapPayload _ _ _ _) fun _ _ _ => trivial

theorem keeps_refreshInstallation {record : InstallationSessionRecord}
    (refreshedAt : ℤ) (fresh : NewSession) (hne : record.installation.userId ≠ u)
    (hnot : ¬ Owns u s record.installation.id) :
    Keeps u (fun _ => True)
      (ofExtension (refreshInstallationSessionForToken env record refreshedAt fresh)) s := by
  rw [refreshInstallationSessionForToken, ofExtension_bind]
  refine keeps_bind (keeps_policy env) fun policy t hgained _ => ?_
  rw [ofExtension_call]
  refine keeps_call (fun _ _ _ hgrants => hgrants) fun t' _ hgained' hshut _ => ?_
  have hlater : ¬ Owns u (AccountCall.exec
      (.extension (.sessionRevoke record.id refreshedAt)) t').2 record.installation.id := by
    intro howns
    have hfree : ¬ Grants u (.extension (.sessionRevoke record.id refreshedAt)) t' :=
      fun hgrants => hgrants
    exact hnot (hgained _ (hgained' _ ((hshut.extension hfree).2 _ howns)))
  rw [ofExtension_bind]
  refine keeps_bind (keeps_issueInstallation env fresh policy.lifetimeHours hne hlater) ?_
  intro issued _ _ _
  rw [ofExtension_bind]
  exact keeps_bind (keeps_lifecycleEvent _) fun _ _ _ _ => trivial

/-- An installation of the requester, who is another user. -/
theorem keeps_findOwn_bind (installationId : String)
    {f : ExtensionInstallation → AccountProg β} (hne : session.userId ≠ u)
    (h : ∀ installation t, installation.userId ≠ u → ¬ Owns u t installation.id →
      Keeps u P (f installation) t) :
    Keeps u P (ofExtension (findOwnInstallation session installationId) >>= f) s := by
  rw [findOwnInstallation, ofExtension_call, Prog.bind_assoc]
  refine keeps_call (fun _ _ _ hgrants => hgrants) fun t found _ hshut hfound => ?_
  cases found with
  | none => trivial
  | some installation =>
    obtain ⟨hrow, _⟩ := ExtensionStore.mem_of_installation (Except.ok.inj hfound)
    by_cases howner : installation.userId = session.userId
    · have hother : installation.userId ≠ u := howner ▸ hne
      simp only [ne_eq, howner]
      exact h installation t hother (not_owns_of_row hshut.tables hrow hother)
    · simp only [ne_eq, howner]
      trivial

theorem keeps_rotate (request : InstallationActionRequest) (hne : session.userId ≠ u) :
    Keeps u (fun _ => True)
      (ofExtension (rotateInstallationSessionForCurrentSession env session request)) s := by
  rw [rotateInstallationSessionForCurrentSession, ofExtension_bind]
  refine keeps_bind (keeps_policy env) fun policy _ _ _ => ?_
  rw [ofExtension_check]
  refine within_ofExcept_bind fun installationId _ => ?_
  rw [rotateInstallationSession, ofExtension_bind]
  refine keeps_findOwn_bind installationId hne fun installation t hother hnot => ?_
  rw [ofExtension_call]
  refine keeps_call (fun _ _ _ hgrants => hgrants) fun t' _ hgained hshut _ => ?_
  have hlater : ¬ Owns u (AccountCall.exec
      (.extension (.sessionRevokeActive installation.id request.occurredAt)) t').2
      installation.id := by
    intro howns
    have hfree : ¬ Grants u
        (.extension (.sessionRevokeActive installation.id request.occurredAt)) t' :=
      fun hgrants => hgrants
    exact hnot (hgained _ ((hshut.extension hfree).2 _ howns))
  rw [ofExtension_bind]
  refine keeps_bind (keeps_issueInstallation env request.fresh policy.lifetimeHours hother hlater) ?_
  intro issued _ _ _
  rw [ofExtension_bind]
  exact keeps_bind (keeps_lifecycleEvent _) fun _ _ _ _ => trivial

theorem keeps_disconnect (auditEventType installationId : String) (disconnectedAt : ℤ)
    (hne : session.userId ≠ u) :
    Keeps u (fun _ => True)
      (ofExtension (disconnectInstallation session auditEventType installationId disconnectedAt))
      s := by
  rw [disconnectInstallation, ofExtension_bind]
  refine keeps_findOwn_bind installationId hne fun installation t _ _ => ?_
  rw [ofExtension_call]
  refine keeps_call (fun _ _ _ hgrants => hgrants) fun t' count _ _ _ => ?_
  rw [reportDisconnect, ofExtension_bind]
  exact keeps_bind (keeps_lifecycleEvent _) fun _ _ _ _ => trivial

theorem keeps_reply {γ : Type} {p : ExtensionProg γ} (f : γ → ExtensionReply)
    (hp : Keeps u (fun _ => True) (ofExtension p) s) :
    Keeps u (fun _ => True) (ofExtension (p >>= fun r => return f r)) s := by
  rw [ofExtension_bind]
  exact keeps_bind hp fun _ _ _ _ => trivial

/-- A request that carries an installation token. -/
theorem keeps_token {request : ExtensionRequest} (h : request.carriesToken = true) :
    Keeps u (fun _ => True) (ofExtension (extensionCode env request)) s := by
  cases request with
  | bootstrap accessToken now request =>
    rw [extensionCode, ofExtension_bind]
    refine keeps_resolve_bind env accessToken now fun record t _ hne _ => ?_
    exact keeps_reply _ (keeps_bootstrap env request hne)
  | refresh accessToken now refreshedAt fresh =>
    rw [extensionCode, ofExtension_bind]
    refine keeps_resolve_bind env accessToken now fun record t _ hne hnot => ?_
    exact keeps_reply _ (keeps_refreshInstallation env refreshedAt fresh hne hnot)
  | _ => cases h

/-- A request made by another user. -/
theorem keeps_by {userId : String} (hne : userId ≠ u) (request : ExtensionRequest) :
    Keeps u (fun _ => True) (ofExtension (extensionCode env (request.by userId))) s := by
  cases request with
  | bootstrap accessToken now request => exact keeps_token env rfl
  | refresh accessToken now refreshedAt fresh => exact keeps_token env rfl
  | bind session request => exact keeps_reply _ (keeps_bind_request env request hne)
  | rotate session request => exact keeps_reply _ (keeps_rotate env request hne)
  | disconnect session request =>
    refine keeps_reply _ ?_
    rw [disconnectInstallationForCurrentSession, ofExtension_check]
    exact within_ofExcept_bind fun installationId _ => keeps_disconnect _ _ _ hne
  | selfDisconnect session request =>
    refine keeps_reply _ ?_
    rw [selfDisconnectInstallationForCurrentSession, ofExtension_check]
    exact within_ofExcept_bind fun installationId _ => keeps_disconnect _ _ _ hne

/-- Whatever is requested of a user who is shut out, the user does not get in. -/
theorem accountCode_withholds (env : AccountEnv) (request : AccountRequest) (s : AccountStore) :
    Withholds u (accountCode env request) s := by
  cases request with
  | auth request => exact keeps_bind (keeps_auth env.auth request) fun reply t _ hreply => hreply
  | getCurrentSession accessToken now =>
    refine keeps_bind (keeps_getCurrentSession env accessToken now) fun session t _ hne => ?_
    exact fun howner => hne (List.mem_singleton.mp howner).symm
  | updateUserAccess now session request =>
    refine keeps_bind (keeps_ofUser _) fun user t _ _ => ?_
    intro howner
    cases howner
  | deleteUser session request =>
    refine keeps_bind (keeps_ofUser _) fun userId t _ _ => ?_
    intro howner
    cases howner
  | resolveInstallationSession accessToken now =>
    refine keeps_resolve_bind env.extension accessToken now fun record t hne hother _ => ?_
    have howners : u ∉ [record.userId, record.installation.userId] := by
      simp [hne.symm, hother.symm]
    exact howners
  | extension accessToken now request =>
    rw [accountCode]
    by_cases htok : request.carriesToken = true
    · rw [if_pos htok]
      refine keeps_bind (keeps_token env.extension htok) fun reply t _ _ => ?_
      intro howner
      cases howner
    rw [if_neg htok]
    refine keeps_bind (keeps_getCurrentSession env accessToken now) fun session t _ hne => ?_
    refine keeps_bind (keeps_by env.extension hne request) fun reply t _ _ => ?_
    intro howner
    cases howner

end Requests

end QuizMind
