import QuizMind.Async.Phases
import QuizMind.Async.Obligations
import QuizMind.Auth.SingleUse

/-! # Silent refresh

The requests of one browser that exchange its refresh token: pages through the middleware,
and `POST /bff/auth/refresh`. A request leaves with the cookies of that moment, the calls of
`AuthService.refresh` interleave with those of the other requests, and the responses arrive in
any order.

* A middleware request whose refresh fails clears the cookie. When a sibling has exchanged the
  same token and its response arrives first, the browser is logged out although its new session
  is active (`active_user_logged_out`); so it is when the API does not answer once.
* Whatever the order, with nothing in flight a refresh cookie that is there is the token of an
  active session; and it is there when a response that clears it arrives only while another
  request has found its session (`refresh_cookie_active`).

The access cookie is kept by the browser as it was set, and nothing expires.
-/

namespace QuizMind

open Async
open Function (update update_of_ne update_self)
open Machine (initial phases phases_call)
open Prog (walks_await_bind walks_bind)

/-! ## Cookies -/

/-- `quizmind_access_token` and `quizmind_refresh_token`. -/
structure CookieJar where
  accessToken : Option String
  refreshToken : Option String

/-- The cookies that a response sets. -/
inductive SetCookies where
  | unchanged
  /-- the refresh cookie with `maxAge` 0 -/
  | clearRefresh
  | session (accessToken refreshToken : String)

def CookieJar.receive (jar : CookieJar) : SetCookies → CookieJar
  | .unchanged => jar
  | .clearRefresh => { jar with refreshToken := none }
  | .session accessToken refreshToken =>
    { accessToken := some accessToken, refreshToken := some refreshToken }

/-- A cookie with an empty value counts as none. -/
def presentCookie (cookie : Option String) : Option String :=
  cookie.filter fun value => value ≠ ""

/-! ## Calls -/

structure BrowserStore where
  auth : AuthStore
  jar : CookieJar

inductive BrowserCall where
  /-- the request leaves the browser with its cookies -/
  | send
  /-- the request to the API gets there -/
  | reachApi
  | auth (call : AuthCall)
  /-- the response gets to the browser -/
  | respond (cookies : SetCookies)

abbrev BrowserCall.Res : BrowserCall → Type
  | .send => CookieJar
  | .reachApi => Unit
  | .auth call => call.Res
  | .respond _ => Unit

def BrowserCall.exec : (call : BrowserCall) → BrowserStore →
    Except Exception call.Res × BrowserStore
  | .send, s => (.ok s.jar, s)
  | .reachApi, s => (.ok (), s)
  | .auth call, s =>
    let out := call.exec s.auth
    (out.1, { s with auth := out.2 })
  | .respond cookies, s => (.ok (), { s with jar := s.jar.receive cookies })

abbrev BrowserProg := Prog BrowserCall BrowserCall.Res Exception

abbrev browser (call : BrowserCall) : BrowserProg call.Res := Prog.await call

/-! ## Requests -/

/-- The clocks and the random token of the refresh that a request causes. -/
structure RefreshTimes where
  now : ℤ
  revokedAt : ℤ
  fresh : FreshSession

def RefreshTimes.request (times : RefreshTimes) (refreshToken : String) : AuthRefreshRequest where
  refreshToken := refreshToken
  now := times.now
  revokedAt := times.revokedAt
  fresh := times.fresh

/-- `null` unless the API answers with a session. -/
def attemptTokenRefresh (env : AuthEnv) (times : RefreshTimes) (refreshToken : String) :
    BrowserProg (Option AuthSessionPayload) :=
  tryCatch (do
      let _ ← browser .reachApi
      let payload ← (refresh env (times.request refreshToken)).embed BrowserCall.auth fun _ r => r
      return if payload.accessToken = "" then none else some payload)
    (fun _ => return none)

/-- The response to a middleware request after its refresh. -/
def middlewareCookies : Option AuthSessionPayload → SetCookies
  | none => .clearRefresh
  | some session => .session session.accessToken session.refreshToken

def middleware (env : AuthEnv) (times : RefreshTimes) : BrowserProg Unit := do
  let cookies ← browser .send
  match presentCookie cookies.accessToken, presentCookie cookies.refreshToken with
  | some _, _ => browser (.respond .unchanged)
  | none, none => browser (.respond .unchanged)
  | none, some refreshToken => do
      let session ← attemptTokenRefresh env times refreshToken
      browser (.respond (middlewareCookies session))

/-- The response of the route after its refresh; a failure is answered with 401. -/
def refreshRouteCookies : Option AuthSessionPayload → SetCookies
  | none => .unchanged
  | some session => .session session.accessToken session.refreshToken

/-- `POST /bff/auth/refresh`, which the middleware leaves alone. -/
def refreshRoute (env : AuthEnv) (times : RefreshTimes) : BrowserProg Unit := do
  let cookies ← browser .send
  match presentCookie cookies.refreshToken with
  | none => browser (.respond .unchanged)
  | some refreshToken => do
      let session ← attemptTokenRefresh env times refreshToken
      browser (.respond (refreshRouteCookies session))

inductive BrowserRequest where
  | page (times : RefreshTimes)
  | refreshRoute (times : RefreshTimes)

def browserCode (env : AuthEnv) : BrowserRequest → BrowserProg Unit
  | .page times => middleware env times
  | .refreshRoute times => refreshRoute env times

def browserMachine (env : AuthEnv) :
    Machine BrowserCall BrowserCall.Res Exception Unit BrowserStore BrowserRequest where
  exec := BrowserCall.exec
  code := browserCode env

abbrev BrowserRun :=
  Snapshot BrowserCall BrowserCall.Res Exception Unit BrowserStore BrowserRequest

abbrev BrowserLabel := Label Exception BrowserRequest

abbrev BrowserTold := Told BrowserCall BrowserCall.Res Exception

/-! ## Phases of a request -/

inductive RefreshPhase where
  | waiting
  | carrying (token : String)
  | found (record : AuthSessionRecord)
  | issued (tokenHash : String)
  | failed
  | done

def refreshAfter : RefreshPhase → BrowserTold → RefreshPhase
  | _, ⟨.send, .ok jar⟩ =>
    match presentCookie jar.refreshToken with
    | some token => .carrying token
    | none => .failed
  | .carrying _, ⟨.reachApi, .error _⟩ => .failed
  | .carrying _, ⟨.auth (.sessionFindActive _ _), .ok (some record)⟩ => .found record
  | .carrying _, ⟨.auth _, _⟩ => .failed
  | .found record, ⟨.auth (.sessionRevoke _ _), .ok _⟩ => .found record
  | .found record, ⟨.auth .retentionPolicyFind, _⟩ => .found record
  | .found _, ⟨.auth (.sessionCreate data), .ok _⟩ => .issued data.tokenHash
  | .found _, ⟨.auth _, _⟩ => .failed
  | _, ⟨.respond _, _⟩ => .done
  | ph, _ => ph

/-- The request has found its session, and its response is under way. -/
def RefreshPhase.refreshing : RefreshPhase → Bool
  | .found _ => true
  | .issued _ => true
  | _ => false

def BrowserRun.phase (s : BrowserRun) : ℕ → RefreshPhase :=
  phases refreshAfter .waiting s.log

/-! ## The statement -/

/-- The refresh cookie is the token of a session that has not been revoked. -/
def LoggedIn (env : AuthEnv) (s : BrowserStore) : Prop :=
  ∃ token, s.jar.refreshToken = some token ∧
    ∃ x ∈ s.auth.sessions, x.tokenHash = env.hashOpaqueToken token ∧ x.revokedAt = none

/-- A refresh fails without effect, and its random token is new. -/
def refreshesCleanly (s : BrowserRun) : BrowserLabel → Bool
  | .start _ => true
  | .step pid =>
    match s.procs[pid]? with
    | some (_, .call (.auth (.sessionCreate data)) _) =>
      s.store.auth.sessions.all fun x => x.tokenHash != data.tokenHash
    | _ => true
  | .fail pid _ =>
    match s.procs[pid]? with
    | some (_, .call .reachApi _) => true
    | _ => false

/-- A response that clears the cookie arrives only while another request has found its
session. -/
def clearsEarly (s : BrowserRun) : BrowserLabel → Bool
  | .step pid =>
    match s.procs[pid]? with
    | some (_, .call (.respond .clearRefresh) _) =>
      s.log.any fun e => (s.phase e.pid).refreshing
    | _ => true
  | _ => true

/-- The tables, and a browser that is logged in. -/
structure BrowserStart (env : AuthEnv) (s : BrowserStore) : Prop where
  tokens : TokensUnique s.auth
  ids : (s.auth.sessions.map fun x => x.id).Nodup
  fresh : ∀ x ∈ s.auth.sessions, x.id < s.auth.fresh
  users : ∀ x ∈ s.auth.sessions, (s.auth.userById x.userId).isSome
  loggedIn : LoggedIn env s

/-! ## What a request may call in its phase -/

def SetCookies.isSession : SetCookies → Bool
  | .session _ _ => true
  | _ => false

inductive RefreshMay (env : AuthEnv) : RefreshPhase → BrowserCall → Prop where
  | send : RefreshMay env .waiting .send
  | reachApi {token : String} : RefreshMay env (.carrying token) .reachApi
  | find {token : String} {now : ℤ} : RefreshMay env (.carrying token)
      (.auth (.sessionFindActive (env.hashOpaqueToken token) now))
  | revoke {record : AuthSessionRecord} {revokedAt : ℤ} :
      RefreshMay env (.found record) (.auth (.sessionRevoke record.id revokedAt))
  | policy {record : AuthSessionRecord} :
      RefreshMay env (.found record) (.auth .retentionPolicyFind)
  | create {record : AuthSessionRecord} {data : CreateSessionInput}
      (huser : data.userId = record.user.id) :
      RefreshMay env (.found record) (.auth (.sessionCreate data))
  | session {accessToken refreshToken : String} :
      RefreshMay env (.issued (env.hashOpaqueToken refreshToken))
        (.respond (.session accessToken refreshToken))
  | giveUp {token : String} {cookies : SetCookies} (hcookies : ¬ cookies.isSession) :
      RefreshMay env (.carrying token) (.respond cookies)
  | fail {cookies : SetCookies} (hcookies : ¬ cookies.isSession) :
      RefreshMay env .failed (.respond cookies)

/-- The browser is there. -/
def browserAnswers : (call : BrowserCall) → Except Exception call.Res → Prop
  | .send, r => r.isOk
  | .respond _, r => r.isOk
  | _, _ => True

/-- A request ends with its response. -/
def Responded (ph : RefreshPhase) (r : Except Exception Unit) : Prop :=
  ph = .done ∧ r.isOk

/-- The request has not found its session, or has lost it. -/
def RefreshPhase.gaveUp : RefreshPhase → Prop
  | .carrying _ => True
  | .failed => True
  | _ => False

/-- What a refresh has come to. -/
def RefreshOutcome (env : AuthEnv) (ph : RefreshPhase) : Except Exception AuthSessionPayload → Prop
  | .ok payload => ph = .issued (env.hashOpaqueToken payload.refreshToken) ∧
      payload.accessToken ≠ ""
  | .error _ => ph.gaveUp

section Walks

variable {env : AuthEnv}

/-- The phases, as far as `AuthService` moves them. -/
def authAfter (ph : RefreshPhase) (t : AuthTold) : RefreshPhase :=
  refreshAfter ph ⟨.auth t.op, t.result⟩

def authMay (env : AuthEnv) (ph : RefreshPhase) (call : AuthCall) : Prop :=
  RefreshMay env ph (.auth call)

section

variable (hsigned : ∀ claims issuedAt expiresAt, env.signAccessToken claims issuedAt expiresAt ≠ "")
include hsigned

theorem issueSession_walks (fresh : FreshSession) (record : AuthSessionRecord) :
    (issueSession env fresh record.user).Walks authAfter (fun _ _ => True) (authMay env)
      (fun ph r => RefreshOutcome env ph (r.map (·.2))) (.found record) := by
  -- the look-ups of the policy do not fail, and leave the phase as it is
  have hpolicy : ∀ (p : AuthProg ℕ) (f : RetentionPolicy → ℕ) (n : ℕ), p = (do
        let policy ← auth .retentionPolicyFind
        return f policy).handle (fun _ => return n) →
      p.Walks authAfter (fun _ _ => True) (authMay env)
        (fun ph r => ph = .found record ∧ r.isOk) (.found record) := by
    rintro p f n rfl
    refine ⟨RefreshMay.policy, ?_⟩
    intro r _
    cases r with
    | ok policy | error e => exact ⟨rfl, rfl⟩
  refine walks_bind (hpolicy _ (·.refreshTokenLifetimeDays) _ rfl) ?_ ?_
  · rintro ph days ⟨rfl, -⟩
    refine walks_bind (hpolicy _ (·.accessTokenLifetimeMinutes) _ rfl) ?_ ?_
    · rintro ph minutes ⟨rfl, -⟩
      refine walks_await_bind (RefreshMay.create rfl) ?_ ?_
      · intro session _
        exact ⟨rfl, hsigned _ _ _⟩
      · intro e _
        trivial
    · rintro ph e ⟨-, hok⟩
      cases hok
  · rintro ph e ⟨-, hok⟩
    cases hok

theorem refresh_walks (request : AuthRefreshRequest) :
    (refresh env request).Walks authAfter (fun _ _ => True) (authMay env) (RefreshOutcome env)
      (.carrying request.refreshToken) := by
  refine Prog.walks_ofExcept_bind (fun _ _ => ?_) (fun _ _ => trivial)
  refine walks_await_bind RefreshMay.find (fun found _ => ?_) (fun _ _ => trivial)
  cases found with
  | none => trivial
  | some record =>
    refine walks_await_bind RefreshMay.revoke (fun _ _ => ?_) (fun _ _ => trivial)
    refine walks_bind (issueSession_walks hsigned request.fresh record) ?_ ?_
    · intro ph result hres
      exact hres
    · intro ph e he
      exact he

end

/-- What the answer of `attemptTokenRefresh` says about the phase. -/
def AttemptOutcome (env : AuthEnv) (ph : RefreshPhase) :
    Except Exception (Option AuthSessionPayload) → Prop
  | .ok none => ph.gaveUp
  | .ok (some payload) => ph = .issued (env.hashOpaqueToken payload.refreshToken)
  | .error _ => False

theorem attemptTokenRefresh_walks
    (hsigned : ∀ claims issuedAt expiresAt, env.signAccessToken claims issuedAt expiresAt ≠ "")
    (times : RefreshTimes) (token : String) :
    (attemptTokenRefresh env times token).Walks refreshAfter browserAnswers (RefreshMay env)
      (AttemptOutcome env) (.carrying token) := by
  refine Prog.walks_handle (P := fun ph r => match r with
    | .ok found => AttemptOutcome env ph (.ok found)
    | .error _ => ph.gaveUp) ?_ (fun _ _ h => h) (fun _ _ h => h)
  refine walks_await_bind RefreshMay.reachApi (fun _ _ => ?_) (fun _ _ => trivial)
  have hrefresh := refresh_walks hsigned (times.request token)
  have hembed : ((refresh env (times.request token)).embed BrowserCall.auth fun _ r => r).Walks
      refreshAfter browserAnswers (RefreshMay env) (RefreshOutcome env) (.carrying token) := by
    refine Prog.Walks.embed (f := BrowserCall.auth) (g := fun _ r => r) ?_ (fun _ _ _ => trivial)
      (fun _ _ h => h) hrefresh
    intro ph op r
    cases r <;> rfl
  refine walks_bind hembed ?_ ?_
  · rintro ph payload ⟨rfl, haccess⟩
    rw [if_neg haccess]
    rfl
  · intro ph e he
    exact he

theorem respond_walks {ph : RefreshPhase} {cookies : SetCookies}
    (hmay : RefreshMay env ph (.respond cookies)) :
    (browser (.respond cookies)).Walks refreshAfter browserAnswers (RefreshMay env) Responded
      ph := by
  refine Prog.walks_await hmay fun r hr => ⟨?_, hr⟩
  cases hmay <;> rfl

section

variable (hsigned : ∀ claims issuedAt expiresAt, env.signAccessToken claims issuedAt expiresAt ≠ "")
include hsigned

/-- A refresh and the response to it. -/
theorem attempt_respond_walks
    (times : RefreshTimes) (token : String) {cookies : Option AuthSessionPayload → SetCookies}
    (hnone : ¬ (cookies none).isSession) (hsome : ∀ payload, cookies (some payload) =
      .session payload.accessToken payload.refreshToken) :
    (attemptTokenRefresh env times token >>= fun session =>
      browser (.respond (cookies session))).Walks refreshAfter browserAnswers (RefreshMay env)
        Responded (.carrying token) := by
  refine walks_bind (attemptTokenRefresh_walks hsigned times token) ?_ ?_
  · intro ph session hsess
    cases session with
    | none =>
      refine respond_walks ?_
      cases ph with
      | carrying token => exact RefreshMay.giveUp hnone
      | failed => exact RefreshMay.fail hnone
      | _ => exact absurd hsess id
    | some payload =>
      obtain rfl : ph = .issued (env.hashOpaqueToken payload.refreshToken) := hsess
      rw [hsome]
      exact respond_walks RefreshMay.session
  · intro ph e he
    exact absurd he id

theorem browserCode_walks (request : BrowserRequest) :
    (browserCode env request).Walks refreshAfter browserAnswers (RefreshMay env) Responded
      .waiting := by
  cases request with
  | page times =>
    refine walks_await_bind RefreshMay.send ?_ (fun _ he => nomatch he)
    intro cookies _
    simp only [refreshAfter]
    cases presentCookie cookies.refreshToken with
    | none =>
      have hfail : RefreshMay env .failed (.respond .unchanged) :=
        RefreshMay.fail (by decide)
      cases presentCookie cookies.accessToken with
      | none | some accessToken => exact respond_walks hfail
    | some token =>
      cases presentCookie cookies.accessToken with
      | none => exact attempt_respond_walks hsigned times token (by decide) fun _ => rfl
      | some accessToken => exact respond_walks (RefreshMay.giveUp (by decide))
  | refreshRoute times =>
    refine walks_await_bind RefreshMay.send ?_ (fun _ he => nomatch he)
    intro cookies _
    simp only [refreshAfter]
    cases presentCookie cookies.refreshToken with
    | none => exact respond_walks (RefreshMay.fail (by decide))
    | some token => exact attempt_respond_walks hsigned times token (by decide) fun _ => rfl

end

end Walks

/-! ## What a run keeps -/

/-- The hash of the token that the request presents, or has got. -/
def RefreshPhase.tokenHash (env : AuthEnv) : RefreshPhase → Option String
  | .carrying token => some (env.hashOpaqueToken token)
  | .found record => some record.tokenHash
  | .issued tokenHash => some tokenHash
  | _ => none

def HashKnown (s : AuthStore) (tokenHash : String) : Prop :=
  ∃ x ∈ s.sessions, x.tokenHash = tokenHash

/-- The token of a session that has been issued is active and nobody has it yet; a refresh
cookie is active, or a request that has found its session will replace it. -/
structure JarInv (env : AuthEnv) (s : BrowserStore) (ph : ℕ → RefreshPhase) : Prop where
  tokens : TokensUnique s.auth
  ids : (s.auth.sessions.map fun x => x.id).Nodup
  fresh : ∀ x ∈ s.auth.sessions, x.id < s.auth.fresh
  users : ∀ x ∈ s.auth.sessions, (s.auth.userById x.userId).isSome
  known : ∀ t, s.jar.refreshToken = some t → HashKnown s.auth (env.hashOpaqueToken t)
  presented : ∀ pid t, (ph pid).tokenHash env = some t → HashKnown s.auth t
  found : ∀ pid record, ph pid = .found record →
    (∃ x ∈ s.auth.sessions, x.id = record.id ∧ x.tokenHash = record.tokenHash) ∧
      (s.auth.userById record.user.id).isSome
  issued : ∀ pid t, ph pid = .issued t → ∃ x ∈ s.auth.sessions, x.tokenHash = t ∧ x.revokedAt = none
  unseen : ∀ pid t, ph pid = .issued t →
    ∀ token, s.jar.refreshToken = some token → env.hashOpaqueToken token ≠ t
  secret : ∀ pid t, ph pid = .issued t → ∀ i, i ≠ pid → (ph i).tokenHash env ≠ some t
  cookie : s.jar.refreshToken.isSome → LoggedIn env s ∨ ∃ pid, (ph pid).refreshing

section Steps

variable {env : AuthEnv} {s : BrowserStore} {ph : ℕ → RefreshPhase} {pid : ℕ}

section

variable (h : JarInv env s ph)
include h

/-- A request enters a phase in which it presents what it presented before, or the cookie. -/
theorem JarInv.enter {p : RefreshPhase}
    (hhash : ∀ t, p.tokenHash env = some t → (ph pid).tokenHash env = some t ∨
      ∃ token, s.jar.refreshToken = some token ∧ env.hashOpaqueToken token = t)
    (hfound : ∀ record, p = .found record →
      (∃ x ∈ s.auth.sessions, x.id = record.id ∧ x.tokenHash = record.tokenHash) ∧
        (s.auth.userById record.user.id).isSome)
    (hissued : ∀ t, p ≠ .issued t) (hkeep : (ph pid).refreshing → p.refreshing) :
    JarInv env s (update ph pid p) := by
  have hother : ∀ i t, update ph pid p i = .issued t → ph i = .issued t := by grind
  refine ⟨h.tokens, h.ids, h.fresh, h.users, h.known, ?_, ?_, ?_, ?_, ?_, ?_⟩
  · intro i t hi
    by_cases heq : i = pid
    · subst heq
      rw [update_self] at hi
      rcases hhash t hi with hold | ⟨token, htok, rfl⟩
      · exact h.presented i t hold
      · exact h.known token htok
    · rw [update_of_ne heq] at hi
      exact h.presented i t hi
  · intro i record hi
    by_cases heq : i = pid
    · grind
    · rw [update_of_ne heq] at hi
      exact h.found i record hi
  · intro i t hi
    exact h.issued i t (hother i t hi)
  · intro i t hi
    exact h.unseen i t (hother i t hi)
  · intro i t hi j hj
    by_cases heq : j = pid
    · subst heq
      rw [update_self]
      intro hp
      rcases hhash t hp with hold | ⟨token, htok, heq⟩
      · exact h.secret i t (hother i t hi) j hj hold
      · exact h.unseen i t (hother i t hi) token htok heq
    · rw [update_of_ne heq]
      exact h.secret i t (hother i t hi) j hj
  · intro hsome
    rcases h.cookie hsome with hin | ⟨i, hi⟩
    · exact Or.inl hin
    refine Or.inr ⟨i, ?_⟩
    by_cases heq : i = pid
    · grind
    · rwa [update_of_ne heq]

/-- A request that is not refreshing gives up. -/
theorem JarInv.giveUp {p : RefreshPhase} (hp : p.tokenHash env = none)
    (hidle : ¬ (ph pid).refreshing) : JarInv env s (update ph pid p) := by
  refine h.enter ?_ ?_ ?_ fun hrefr => absurd hrefr hidle
  · intro t ht
    rw [hp] at ht
    cases ht
  · rintro record rfl
    cases hp
  · rintro t rfl
    cases hp

theorem JarInv.send (hp : ph pid = .waiting) :
    JarInv env s (update ph pid (refreshAfter .waiting ⟨.send, .ok s.jar⟩)) := by
  have hidle : ¬ (ph pid).refreshing := by simp [hp, RefreshPhase.refreshing]
  cases hcookie : presentCookie s.jar.refreshToken with
  | none =>
    simp only [refreshAfter, hcookie]
    exact h.giveUp rfl hidle
  | some token =>
    simp only [refreshAfter, hcookie]
    have htok : s.jar.refreshToken = some token := Option.eq_some_of_filter_eq_some hcookie
    refine h.enter ?_ (by simp) (by simp) fun hrefr => absurd hrefr hidle
    intro t ht
    exact Or.inr ⟨token, htok, Option.some.inj ht⟩

/-- The session that the request has found is revoked: nobody else has its token. -/
theorem JarInv.revoke {record : AuthSessionRecord} (hp : ph pid = .found record) (revokedAt : ℤ) :
    JarInv env { s with auth := s.auth.revokeWhere (fun x => x.id == record.id) revokedAt }
      ph := by
  have hrow : ∀ x ∈ s.auth.sessions,
      ∃ x' ∈ (s.auth.revokeWhere (fun x => x.id == record.id) revokedAt).sessions,
        x'.id = x.id ∧ x'.tokenHash = x.tokenHash ∧
          (x.id ≠ record.id → x'.revokedAt = x.revokedAt) := by
    intro x hx
    refine ⟨_, AuthStore.mem_revokeWhere.mpr ⟨x, hx, rfl⟩, ?_⟩
    by_cases hid : x.id = record.id <;> simp [hid]
  have hback : ∀ x' ∈ (s.auth.revokeWhere (fun x => x.id == record.id) revokedAt).sessions,
      ∃ x ∈ s.auth.sessions, x'.id = x.id ∧ x'.userId = x.userId := by
    grind [AuthStore.mem_revokeWhere]
  have hknown : ∀ {t}, HashKnown s.auth t →
      HashKnown (s.auth.revokeWhere (fun x => x.id == record.id) revokedAt) t := by
    rintro t ⟨x, hx, rfl⟩
    rcases hrow x hx with ⟨x', hx', -, hhash, -⟩
    exact ⟨x', hx', hhash⟩
  have htokens : TokensUnique (s.auth.revokeWhere (fun x => x.id == record.id) revokedAt) := by
    have hexec := h.tokens.exec (.sessionRevoke record.id revokedAt)
    simp only [AuthCall.exec] at hexec
    split at hexec
    · rename_i hnone
      rcases (h.found pid record hp).1 with ⟨x, hx, hid, -⟩
      exact absurd (List.find?_eq_none.mp hnone x hx) (by simp [hid])
    · exact hexec
  refine ⟨htokens, ?_, ?_, ?_, fun t ht => hknown (h.known t ht),
    fun i t hi => hknown (h.presented i t hi), ?_, ?_, h.unseen, h.secret,
    fun _ => Or.inr ⟨pid, by rw [hp]; rfl⟩⟩
  · have hids : (s.auth.revokeWhere (fun x => x.id == record.id) revokedAt).sessions.map
        (fun x => x.id) = s.auth.sessions.map fun x => x.id := by
      grind [AuthStore.revokeWhere, List.map_congr_left]
    rw [hids]
    exact h.ids
  · intro x' hx'
    rcases hback x' hx' with ⟨x, hx, hid, -⟩
    rw [hid]
    exact h.fresh x hx
  · intro x' hx'
    rcases hback x' hx' with ⟨x, hx, -, huser⟩
    rw [huser]
    exact h.users x hx
  · intro i record' hi
    rcases h.found i record' hi with ⟨⟨x, hx, hid, hhash⟩, huser⟩
    rcases hrow x hx with ⟨x', hx', hid', hhash', -⟩
    exact ⟨⟨x', hx', hid'.trans hid, hhash'.trans hhash⟩, huser⟩
  · intro i t hi
    rcases h.issued i t hi with ⟨x, hx, rfl, hact⟩
    rcases hrow x hx with ⟨x', hx', -, hhash, hkeep⟩
    refine ⟨x', hx', hhash, ?_⟩
    rw [hkeep, hact]
    -- the row of an issued token is not the one that the request has found
    intro hid
    rcases (h.found pid record hp).1 with ⟨y, hy, hyid, hyhash⟩
    have hsame : x = y := List.inj_on_of_nodup_map h.ids hx hy (hid.trans hyid.symm)
    have hpid : pid ≠ i := by
      rintro rfl
      rw [hp] at hi
      cases hi
    apply h.secret i x.tokenHash hi pid hpid
    rw [hp, hsame, hyhash]
    rfl

/-- A session is issued; nobody has its token. -/
theorem JarInv.create {data : CreateSessionInput}
    (hnew : ∀ x ∈ s.auth.sessions, x.tokenHash ≠ data.tokenHash)
    (huser : (s.auth.userById data.userId).isSome)
    (htokens : TokensUnique (s.auth.insertSession data)) :
    JarInv env { s with auth := s.auth.insertSession data }
      (update ph pid (.issued data.tokenHash)) := by
  have hold : ∀ x ∈ s.auth.sessions, x ∈ (s.auth.insertSession data).sessions :=
    fun x hx => List.mem_append_left _ hx
  have hmem : ∀ x ∈ (s.auth.insertSession data).sessions, x ∈ s.auth.sessions ∨
      x = { data with id := s.auth.fresh, revokedAt := none } := by
    intro x hx
    rcases List.mem_append.mp hx with hin | hlast
    · exact Or.inl hin
    · exact Or.inr (List.mem_singleton.mp hlast)
  have hrow : ({ data with id := s.auth.fresh, revokedAt := none } : AuthSession) ∈
      (s.auth.insertSession data).sessions :=
    List.mem_append_right _ (List.mem_singleton_self _)
  have hknown : ∀ {t}, HashKnown s.auth t → HashKnown (s.auth.insertSession data) t :=
    fun ⟨x, hx, hhash⟩ => ⟨x, hold x hx, hhash⟩
  have hunknown : ¬ HashKnown s.auth data.tokenHash := fun ⟨x, hx, hhash⟩ => hnew x hx hhash
  refine ⟨htokens, ?_, ?_, ?_, fun t ht => hknown (h.known t ht), ?_, ?_, ?_, ?_, ?_, ?_⟩
  · have hids : (s.auth.insertSession data).sessions.map (fun x => x.id) =
        (s.auth.sessions.map fun x => x.id) ++ [s.auth.fresh] := by
      simp [AuthStore.insertSession]
    rw [hids, List.nodup_append]
    refine ⟨h.ids, List.nodup_singleton _, ?_⟩
    intro id hid id' hid' heq
    rcases List.mem_map.mp hid with ⟨x, hx, rfl⟩
    rw [List.mem_singleton] at hid'
    exact absurd (heq.trans hid') (Nat.ne_of_lt (h.fresh x hx))
  · intro x hx
    rcases hmem x hx with hin | rfl
    · exact Nat.lt_succ_of_lt (h.fresh x hin)
    · exact Nat.lt_succ_self _
  · intro x hx
    rcases hmem x hx with hin | rfl
    · exact h.users x hin
    · exact huser
  · intro i t hi
    by_cases heq : i = pid
    · subst heq
      rw [update_self] at hi
      exact ⟨_, hrow, Option.some.inj hi⟩
    · rw [update_of_ne heq] at hi
      exact hknown (h.presented i t hi)
  · intro i record hi
    by_cases heq : i = pid
    · grind
    rw [update_of_ne heq] at hi
    rcases h.found i record hi with ⟨⟨x, hx, hrest⟩, huser'⟩
    exact ⟨⟨x, hold x hx, hrest⟩, huser'⟩
  · intro i t hi
    by_cases heq : i = pid
    · grind
    rw [update_of_ne heq] at hi
    rcases h.issued i t hi with ⟨x, hx, hrest⟩
    exact ⟨x, hold x hx, hrest⟩
  · intro i t hi token htok
    by_cases heq : i = pid
    · subst heq
      rw [update_self] at hi
      cases hi
      intro hhash
      exact hunknown (hhash ▸ h.known token htok)
    · rw [update_of_ne heq] at hi
      exact h.unseen i t hi token htok
  · intro i t hi j hj
    by_cases heq : i = pid
    · subst heq
      rw [update_self] at hi
      cases hi
      rw [update_of_ne hj]
      intro hhash
      exact hunknown (h.presented j _ hhash)
    rw [update_of_ne heq] at hi
    by_cases heq' : j = pid
    · subst heq'
      rw [update_self]
      intro hhash
      rcases h.issued i t hi with ⟨x, hx, hxhash, -⟩
      exact hnew x hx (hxhash.trans (Option.some.inj hhash).symm)
    · rw [update_of_ne heq']
      exact h.secret i t hi j hj
  · intro _
    exact Or.inr ⟨pid, by rw [update_self]; rfl⟩

/-- The response with the new session gets to the browser. -/
theorem JarInv.deliver {accessToken refreshToken : String}
    (hp : ph pid = .issued (env.hashOpaqueToken refreshToken)) :
    JarInv env { s with jar := s.jar.receive (.session accessToken refreshToken) }
      (update ph pid .done) := by
  have hother : ∀ i t, update ph pid .done i = .issued t → i ≠ pid ∧ ph i = .issued t := by grind
  have hhash : ∀ i t, (update ph pid .done i).tokenHash env = some t →
      (ph i).tokenHash env = some t := by
    intro i t hi
    by_cases heq : i = pid
    · subst heq
      rw [update_self] at hi
      cases hi
    · rwa [update_of_ne heq] at hi
  rcases h.issued pid _ hp with ⟨x, hx, hxhash, hact⟩
  refine ⟨h.tokens, h.ids, h.fresh, h.users, ?_, fun i t hi => h.presented i t (hhash i t hi),
    ?_, fun i t hi => h.issued i t (hother i t hi).2, ?_, ?_, ?_⟩
  · intro t ht
    cases ht
    exact ⟨x, hx, hxhash⟩
  · intro i record hi
    by_cases heq : i = pid
    · grind
    · rw [update_of_ne heq] at hi
      exact h.found i record hi
  · intro i t hi token htok heq
    cases htok
    rcases hother i t hi with ⟨hne, hi'⟩
    -- two requests have not been issued the same token
    apply h.secret i t hi' pid (Ne.symm hne)
    rw [hp, ← heq]
    rfl
  · intro i t hi j hj hj'
    exact h.secret i t (hother i t hi).2 j hj (hhash j t hj')
  · intro _
    exact Or.inl ⟨refreshToken, rfl, x, hx, hxhash, hact⟩

/-- A response that clears the cookie gets to the browser. -/
theorem JarInv.clear : JarInv env { s with jar := s.jar.receive .clearRefresh } ph where
  tokens := h.tokens
  ids := h.ids
  fresh := h.fresh
  users := h.users
  known := nofun
  presented := h.presented
  found := h.found
  issued := h.issued
  unseen := fun _ _ _ => nofun
  secret := h.secret
  cookie := nofun

/-- Every call keeps it. -/
theorem JarInv.exec {call : BrowserCall} (hmay : RefreshMay env (ph pid) call)
    (hnew : ∀ data, call = .auth (.sessionCreate data) →
      ∀ x ∈ s.auth.sessions, x.tokenHash ≠ data.tokenHash) :
    JarInv env (call.exec s).2 (update ph pid (refreshAfter (ph pid) ⟨call, (call.exec s).1⟩)) := by
  generalize hp : ph pid = p at hmay
  have hstay : ∀ {s'}, JarInv env s' ph → JarInv env s' (update ph pid p) := by
    intro s' h'
    rwa [← hp, Function.update_eq_self]
  have hidle : ¬ p.refreshing → ¬ (ph pid).refreshing := fun hidle => by rwa [hp]
  cases hmay with
  | send => exact h.send hp
  | reachApi | policy => exact hstay h
  | @find token now =>
    have heff := (AuthCall.sessionFindActive (env.hashOpaqueToken token) now).exec_effect s.auth
    simp only [BrowserCall.exec]
    generalize ((AuthCall.sessionFindActive (env.hashOpaqueToken token) now).exec s.auth).1 = r
      at heff
    cases heff with
    | @findSession _ _ found hfound =>
      cases found with
      | none => exact h.giveUp rfl (hidle (by simp [RefreshPhase.refreshing]))
      | some record =>
        rcases hfound record rfl with ⟨hmem, hhash, -, huser⟩
        refine h.enter ?_ ?_ (fun _ heq => by cases heq) fun _ => rfl
        · intro t ht
          left
          rw [hp, ← Option.some.inj ht, hhash]
          rfl
        intro record' heq
        cases heq
        refine ⟨⟨_, hmem, rfl, rfl⟩, ?_⟩
        rw [huser]
        exact h.users _ hmem
  | @revoke record revokedAt =>
    rcases (h.found pid record hp).1 with ⟨x, hx, hid, -⟩
    have hthere : (s.auth.sessions.find? fun x => x.id == record.id).isSome :=
      List.find?_isSome.mpr ⟨x, hx, by simp [hid]⟩
    rcases Option.isSome_iff_exists.mp hthere with ⟨y, hy⟩
    simp only [BrowserCall.exec, AuthCall.exec, hy]
    exact hstay (h.revoke hp revokedAt)
  | @create record data huser =>
    have hfree := hnew data rfl
    have hthere : (s.auth.userById data.userId).isSome := by
      rw [huser]
      exact (h.found pid record hp).2
    rcases Option.isSome_iff_exists.mp hthere with ⟨user, hfind⟩
    have hany : (s.auth.sessions.any fun x => x.tokenHash == data.tokenHash) = false := by grind
    have htokens := h.tokens.exec (.sessionCreate data)
    simp only [AuthCall.exec, hfind, hany] at htokens
    simp only [BrowserCall.exec, AuthCall.exec, hfind, hany]
    exact h.create hfree hthere htokens
  | session => exact h.deliver hp
  | @giveUp token cookies hcookies | @fail cookies hcookies =>
    cases cookies with
    | unchanged => exact h.giveUp rfl (hidle (by simp [RefreshPhase.refreshing]))
    | clearRefresh => exact h.clear.giveUp rfl (hidle (by simp [RefreshPhase.refreshing]))
    | session => exact absurd rfl hcookies

end

end Steps

/-! ## Runs -/

/-- What holds in every run, and in one in which the cookie is cleared early only. -/
structure BrowserInv (env : AuthEnv) (s : BrowserRun) : Prop where
  phased : Machine.Phased refreshAfter .waiting browserAnswers (RefreshMay env) Responded s
  jar : JarInv env s.store s.phase

section Run

variable {env : AuthEnv} {s s' : BrowserRun} {l : BrowserLabel}

theorem browserInv_initial {store : BrowserStore} (hstart : BrowserStart env store) :
    BrowserInv env (initial store) where
  phased := Machine.phased_initial store
  jar := {
    tokens := hstart.tokens
    ids := hstart.ids
    fresh := hstart.fresh
    users := hstart.users
    known := by
      rcases hstart.loggedIn with ⟨token, htok, x, hx, hhash, -⟩
      intro t ht
      have hsame : token = t := Option.some.inj (htok.symm.trans ht)
      exact ⟨x, hx, hsame ▸ hhash⟩
    presented _ _ h := by cases h
    found _ _ h := by cases h
    issued _ _ h := by cases h
    unseen _ _ h := by cases h
    secret _ _ h := by cases h
    cookie := fun _ => Or.inl hstart.loggedIn }

theorem BrowserInv.next
    (hsigned : ∀ claims issuedAt expiresAt, env.signAccessToken claims issuedAt expiresAt ≠ "")
    (hC : refreshesCleanly s l) (hnext : (browserMachine env).next l s = some s')
    (h : BrowserInv env s) : BrowserInv env s' := by
  have hfail : ∀ pid e req op k, l = .fail pid e → s.procs[pid]? = some (req, .call op k) →
      op = .reachApi := by grind [refreshesCleanly]
  refine ⟨h.phased.next ?_ (browserCode_walks hsigned) ?_ hnext, ?_⟩
  · intro op store
    cases op with
    | send => rfl
    | respond cookies => rfl
    | _ => trivial
  · intro pid e req op k hl hp
    obtain rfl := hfail pid e req op k hl hp
    trivial
  · rcases (browserMachine env).next_cases hnext with ⟨req, rfl, rfl⟩ |
      ⟨pid, req, op, k, rfl, hp, rfl⟩ | ⟨pid, e, req, op, k, rfl, hp, rfl⟩
    · exact h.jar
    · have hmay := h.phased.may_call hp
      show JarInv env (op.exec s.store).2 (phases refreshAfter .waiting _)
      rw [phases_call]
      refine h.jar.exec hmay ?_
      rintro data rfl x hx
      simp only [refreshesCleanly, hp, List.all_eq_true, bne_iff_ne] at hC
      exact hC x hx
    · obtain rfl := hfail pid e req op k rfl hp
      have hmay := h.phased.may_call hp
      show JarInv env s.store (phases refreshAfter .waiting _)
      rw [phases_call]
      generalize hph : phases refreshAfter .waiting s.log pid = p at hmay
      cases hmay
      have hidle : ¬ (s.phase pid).refreshing := by
        show ¬ (phases refreshAfter .waiting s.log pid).refreshing
        rw [hph]
        nofun
      exact h.jar.giveUp rfl hidle

theorem browserInv_of_reaches {store : BrowserStore} (hstart : BrowserStart env store)
    (hsigned : ∀ claims issuedAt expiresAt, env.signAccessToken claims issuedAt expiresAt ≠ "")
    (h : (browserMachine env).Reaches (fun s l => refreshesCleanly s l)
      (initial store) s) : BrowserInv env s :=
  Machine.Reaches.invariant _ (fun _ _ _ hC hnext hs => hs.next hsigned hC hnext) h
    (browserInv_initial hstart)

/-- With nothing in flight nobody is refreshing. -/
theorem BrowserInv.idle (h : BrowserInv env s) (hs : s.quiescent) (pid : ℕ) :
    ¬ (s.phase pid).refreshing := by
  rcases Nat.lt_or_ge pid s.procs.length with hlt | hge
  · have hp := List.getElem?_eq_getElem hlt
    have hwalks := h.phased.procs pid _ hp
    have hended := List.all_eq_true.mp hs _ (List.getElem_mem hlt)
    generalize s.procs[pid] = q at hwalks hended
    rcases q with ⟨req, p⟩
    cases p with
    | ret a =>
      have hdone : s.phase pid = .done := hwalks.1
      rw [hdone]
      nofun
    | throw e => exact absurd hwalks.2 nofun
    | call op k => cases hended
  have hstart : s.phase pid = .waiting := h.phased.phase_start hge
  rw [hstart]
  nofun

/-- Whatever a step does, a request that is refreshing goes on, or leaves a cookie. -/
theorem BrowserInv.still_refreshing (h : BrowserInv env s) (hC : refreshesCleanly s l)
    (hnext : (browserMachine env).next l s = some s') {i : ℕ} (hi : (s.phase i).refreshing) :
    (∃ j, (s'.phase j).refreshing) ∨ s'.store.jar.refreshToken.isSome := by
  have hother : ∀ (pid : ℕ) (op : BrowserCall) (r : Except Exception op.Res), i ≠ pid →
      ∃ j, (phases refreshAfter .waiting (s.log ++ [⟨pid, op, r⟩]) j).refreshing := by
    intro pid op r hne
    refine ⟨i, ?_⟩
    rw [phases_call, update_of_ne hne]
    exact hi
  rcases (browserMachine env).next_cases hnext with ⟨req, rfl, rfl⟩ |
    ⟨pid, req, op, k, rfl, hp, rfl⟩ | ⟨pid, e, req, op, k, rfl, hp, rfl⟩
  · exact Or.inl ⟨i, hi⟩
  · by_cases heq : i = pid
    · subst heq
      -- its own call: it finds its session still there, issues the new one, or delivers it
      have hmay := h.phased.may_call hp
      have hjar := h.jar
      have hi' : (phases refreshAfter .waiting s.log i).refreshing := hi
      show (∃ j, (phases refreshAfter .waiting _ j).refreshing) ∨ _
      rw [phases_call]
      generalize hph : phases refreshAfter .waiting s.log i = p at hmay hi'
      have hph' : s.phase i = p := hph
      cases hmay with
      | @revoke record revokedAt =>
        left
        rcases (hjar.found i record hph').1 with ⟨x, hx, hid, -⟩
        have hthere : (s.store.auth.sessions.find? fun x => x.id == record.id).isSome :=
          List.find?_isSome.mpr ⟨x, hx, by simp [hid]⟩
        rcases Option.isSome_iff_exists.mp hthere with ⟨y, hy⟩
        refine ⟨i, ?_⟩
        rw [update_self]
        simp only [browserMachine, BrowserCall.exec, AuthCall.exec, hy]
        rfl
      | policy => exact Or.inl ⟨i, by rw [update_self]; rfl⟩
      | @create record data huser =>
        left
        have hthere : (s.store.auth.userById data.userId).isSome := by
          rw [huser]
          exact (hjar.found i record hph').2
        rcases Option.isSome_iff_exists.mp hthere with ⟨user, hfind⟩
        have hany : (s.store.auth.sessions.any fun x => x.tokenHash == data.tokenHash) =
            false := by grind [refreshesCleanly]
        refine ⟨i, ?_⟩
        rw [update_self]
        simp only [browserMachine, BrowserCall.exec, AuthCall.exec, hfind, hany]
        rfl
      | session => exact Or.inr rfl
      | _ => cases hi'
    · exact Or.inl (hother pid op _ heq)
  · have hne : i ≠ pid := by
      rintro rfl
      simp only [refreshesCleanly, hp] at hC
      cases op with
      | reachApi =>
        have hmay := h.phased.may_call hp
        have hi' : (phases refreshAfter .waiting s.log i).refreshing := hi
        generalize phases refreshAfter .waiting s.log i = p at hmay hi'
        cases hmay
        cases hi'
      | _ => cases hC
    exact Or.inl (hother pid op _ hne)

/-- There is a cookie, or a request that will bring one. -/
theorem BrowserInv.covered (h : BrowserInv env s) (hC : refreshesCleanly s l)
    (hearly : clearsEarly s l) (hnext : (browserMachine env).next l s = some s')
    (hcovered : s.store.jar.refreshToken.isSome ∨ ∃ pid, (s.phase pid).refreshing) :
    s'.store.jar.refreshToken.isSome ∨ ∃ pid, (s'.phase pid).refreshing := by
  by_cases hrefr : ∃ pid, (s.phase pid).refreshing
  · rcases hrefr with ⟨pid, hpid⟩
    exact (h.still_refreshing hC hnext hpid).symm
  left
  have hsome := hcovered.resolve_right hrefr
  rcases (browserMachine env).next_cases hnext with ⟨req, rfl, rfl⟩ |
    ⟨pid, req, op, k, rfl, hp, rfl⟩ | ⟨pid, e, req, op, k, rfl, hp, rfl⟩
  · exact hsome
  · cases op with
    | respond cookies =>
      cases cookies with
      | unchanged => exact hsome
      | clearRefresh =>
        -- the cookie is cleared only while somebody is refreshing
        simp only [clearsEarly, hp, List.any_eq_true] at hearly
        rcases hearly with ⟨e, -, he⟩
        exact absurd ⟨e.pid, he⟩ hrefr
      | session accessToken refreshToken => rfl
    | _ => exact hsome
  · exact hsome

end Run

/-- Refreshes fail without effect, and cookies are cleared early only. -/
def keepsLogin (s : BrowserRun) (l : BrowserLabel) : Bool :=
  refreshesCleanly s l && clearsEarly s l

theorem covered_of_reaches {env : AuthEnv} {store : BrowserStore} {s : BrowserRun}
    (hsigned : ∀ claims issuedAt expiresAt, env.signAccessToken claims issuedAt expiresAt ≠ "")
    (hstart : BrowserStart env store)
    (h : (browserMachine env).Reaches (fun s l => keepsLogin s l) (initial store) s) :
    BrowserInv env s ∧ (s.store.jar.refreshToken.isSome ∨ ∃ pid, (s.phase pid).refreshing) := by
  induction h with
  | refl =>
    refine ⟨browserInv_initial hstart, Or.inl ?_⟩
    rcases hstart.loggedIn with ⟨token, htok, -⟩
    exact Option.isSome_iff_exists.mpr ⟨token, htok⟩
  | tail _ hlast ih =>
    rcases hlast with ⟨l, hC, hnext⟩
    rcases ih with ⟨hinv, hcovered⟩
    rcases Bool.and_eq_true_iff.mp hC with ⟨hclean, hearly⟩
    exact ⟨hinv.next hsigned hclean hnext, hinv.covered hclean hearly hnext hcovered⟩

/-- With nothing in flight a refresh cookie that is there is the token of an active session; and
when the cookie is cleared early only, it is there. -/
theorem refresh_cookie_active {env : AuthEnv} {store : BrowserStore}
    (hsigned : ∀ claims issuedAt expiresAt, env.signAccessToken claims issuedAt expiresAt ≠ "")
    (hstart : BrowserStart env store) :
    (∀ s, (browserMachine env).Reaches (fun s l => refreshesCleanly s l)
        (initial store) s → s.quiescent →
      (LoggedIn env s.store ↔ s.store.jar.refreshToken.isSome)) ∧
    ∀ s, (browserMachine env).Reaches (fun s l => keepsLogin s l) (initial store) s →
      s.quiescent → LoggedIn env s.store := by
  have hactive : ∀ s, BrowserInv env s → s.quiescent → s.store.jar.refreshToken.isSome →
      LoggedIn env s.store := by
    intro s hinv hs hsome
    refine (hinv.jar.cookie hsome).resolve_right ?_
    rintro ⟨pid, hpid⟩
    exact hinv.idle hs pid hpid
  constructor
  · intro s hrun hs
    have hinv := browserInv_of_reaches hstart hsigned hrun
    refine ⟨?_, hactive s hinv hs⟩
    rintro ⟨token, htoken, -⟩
    exact Option.isSome_iff_exists.mpr ⟨token, htoken⟩
  intro s hrun hs
  rcases covered_of_reaches hsigned hstart hrun with ⟨hinv, hcovered⟩
  refine hactive s hinv hs (hcovered.resolve_right ?_)
  rintro ⟨pid, hpid⟩
  exact hinv.idle hs pid hpid

/-! ## Two pages with the same token -/

/-- Alice's browser after its access cookie has gone. -/
def browserStore : BrowserStore where
  auth := aliceStore
  jar := { accessToken := none, refreshToken := some "token-a" }

theorem authEnv_signed (claims : AccessTokenClaims) (issuedAt expiresAt : ℤ) :
    authEnv.signAccessToken claims issuedAt expiresAt ≠ "" := by
  show "jwt:" ++ claims.userId ≠ ""
  intro h
  have hlen := congrArg String.length h
  simp at hlen

theorem browserStore_start : BrowserStart authEnv browserStore where
  tokens := aliceStore_unique
  ids := by decide
  fresh := by decide
  users := by decide
  loggedIn := ⟨"token-a", rfl, _, List.mem_singleton_self _, rfl, rfl⟩

def pageAt (now : ℤ) (newToken : String) : BrowserRequest :=
  .page
    { now := now
      revokedAt := now
      fresh := { refreshToken := newToken, createdAt := now, issuedAt := now } }

/-- Two pages leave with the token; the first one exchanges it. The second one is refused. -/
def secondRefused : List BrowserLabel :=
  [.start (pageAt 10 "token-b"), .start (pageAt 10 "token-c"), .step 0, .step 1] ++
    List.replicate 6 (.step 0) ++ List.replicate 2 (.step 1)

/-- The response to the refused page gets to the browser first. -/
def refusedFirst : List BrowserLabel := secondRefused ++ [.step 1, .step 0]

/-- It gets there last. -/
def refusedLast : List BrowserLabel := secondRefused ++ [.step 0, .step 1]

/-- The API does not answer. -/
def apiDown : List BrowserLabel :=
  [.start (pageAt 10 "token-b"), .step 0, .fail 0 (.error "fetch failed"), .step 0]

theorem refresh_cookie_active_refusedFirst :
    ∃ s : BrowserRun, (browserMachine authEnv).Reaches (fun s l => keepsLogin s l)
        (initial browserStore) s ∧ s.quiescent ∧
      s.store.jar.refreshToken = some "token-b" ∧ LoggedIn authEnv s.store := by
  have hcheck : ((browserMachine authEnv).trace keepsLogin refusedFirst
      (initial browserStore)).map (fun s =>
        s.quiescent && s.store.jar.refreshToken == some "token-b") = some true := by decide
  rcases (browserMachine authEnv).reaches_of_trace_check hcheck with ⟨s, hrun, hp⟩
  rw [Bool.and_eq_true, beq_iff_eq] at hp
  exact ⟨s, hrun, hp.1, hp.2,
    (refresh_cookie_active authEnv_signed browserStore_start).2 s hrun hp.1⟩

theorem not_loggedIn_of_none {env : AuthEnv} {s : BrowserStore} (h : s.jar.refreshToken = none) :
    ¬ LoggedIn env s := by
  rintro ⟨token, htok, -⟩
  rw [h] at htok
  cases htok

/-- The browser has lost its cookie while a session of its user is active. -/
def lostCookie (s : BrowserRun) : Bool :=
  s.quiescent && s.store.jar.refreshToken.isNone &&
    s.store.auth.sessions.any fun x => x.userId == "alice" && x.revokedAt.isNone

/-- The browser is logged out when the response to a refused sibling gets there last, and when
the API does not answer one request. -/
theorem active_user_logged_out : BrowserStart authEnv browserStore ∧ ∀ ls ∈ [refusedLast, apiDown],
      ∃ s : BrowserRun, (browserMachine authEnv).trace refreshesCleanly ls
          (initial browserStore) = some s ∧ s.quiescent ∧ ¬ LoggedIn authEnv s.store ∧
        ∃ x ∈ s.store.auth.sessions, x.userId = "alice" ∧ x.revokedAt = none := by
  refine ⟨browserStore_start, ?_⟩
  have hcheck : ∀ ls ∈ [refusedLast, apiDown], ((browserMachine authEnv).trace refreshesCleanly ls
        (initial browserStore)).map lostCookie = some true := by decide
  intro ls hls
  rcases Option.map_eq_some_iff.mp (hcheck ls hls) with ⟨s, htrace, hlost⟩
  unfold lostCookie at hlost
  rw [Bool.and_eq_true, Bool.and_eq_true, Option.isNone_iff_eq_none] at hlost
  rcases hlost with ⟨⟨hs, hnone⟩, hactive⟩
  rcases List.any_eq_true.mp hactive with ⟨x, hx, hrow⟩
  rw [Bool.and_eq_true, beq_iff_eq, Option.isNone_iff_eq_none] at hrow
  exact ⟨s, htrace, hs, not_loggedIn_of_none hnone, x, hx, hrow⟩

end QuizMind
