import QuizMind.Ai.ProviderPolicy
import QuizMind.Client.Telemetry
import QuizMind.Extension.Compatibility

/-! # What the extension shows

`derivePlatformUiState` takes a missing expiry date, and one that it cannot read, as not
expired. So the state is shown as connected without a session as well, unless the caller says
that the session is invalid or the backend unavailable (`connected_with_session_iff`).
-/

namespace QuizMind.Client

open Async
open Ai (AiAccessPolicyMode)
open Compatibility (CompatibilityStatus)

inductive QuotaHintStatus where
  | healthy | warning | exceeded
  deriving DecidableEq

/-- The part of the bootstrap payload that is shown; `killSwitches` and `deprecationMessages`
are texts. -/
structure ShownBootstrap where
  compatibilityStatus : CompatibilityStatus
  compatibilityReason : Option String
  killSwitches : List String
  deprecationMessages : List String
  quotaHints : List QuotaHintStatus
  aiMode : AiAccessPolicyMode

inductive ConnectionState where
  | connected | reconnect_required | offline_fallback

structure PlatformUiState where
  connectionState : ConnectionState
  compatibilityStatus : Option CompatibilityStatus
  compatibilityReason : Option String
  showReconnectPrompt : Bool
  showUnsupportedBanner : Bool
  showDeprecationWarning : Bool
  deprecationMessages : List String
  killSwitches : List String
  aiMode : Option AiAccessPolicyMode
  quotaWarningCount : ℕ

def isExpired (dates : DateFunctions) (expiresAt : Option String) (nowMs : ℤ) : Bool :=
  match expiresAt.filter fun text => text ≠ "" with
  | none => false
  | some expiresAt =>
    match dates.parse expiresAt with
    | none => false
    | some expiresAtMs => expiresAtMs ≤ nowMs

def shouldDisableManagedActions : Option ShownBootstrap → Bool
  | none => false
  | some bootstrap => bootstrap.compatibilityStatus = .unsupported ||
      bootstrap.killSwitches.contains "extension.unsupported"

structure UiInput where
  backendUnavailable : Bool
  authInvalid : Bool
  bootstrap : Option ShownBootstrap

def derivePlatformUiState (dates : DateFunctions) (bootstrap : Option ShownBootstrap)
    (installationTokenExpiresAt : Option String) (authInvalid backendUnavailable : Bool)
    (nowMs : ℤ) : PlatformUiState :=
  let tokenExpired := isExpired dates installationTokenExpiresAt nowMs
  let showReconnectPrompt := authInvalid || tokenExpired
  let deprecationMessages := (bootstrap.map fun b => b.deprecationMessages).getD []
  let compatibilityStatus := bootstrap.map fun b => b.compatibilityStatus
  let showUnsupportedBanner := shouldDisableManagedActions bootstrap
  { connectionState :=
      if backendUnavailable then .offline_fallback
      else if showReconnectPrompt then .reconnect_required
      else .connected
    compatibilityStatus := compatibilityStatus
    compatibilityReason :=
      (bootstrap.bind fun b => b.compatibilityReason).filter fun text => text ≠ ""
    showReconnectPrompt := showReconnectPrompt
    showUnsupportedBanner := showUnsupportedBanner
    showDeprecationWarning := !showUnsupportedBanner &&
      (deprecationMessages ≠ [] || compatibilityStatus = some .deprecated)
    deprecationMessages := deprecationMessages
    killSwitches := (bootstrap.map fun b => b.killSwitches).getD []
    aiMode := bootstrap.map fun b => b.aiMode
    quotaWarningCount := ((bootstrap.map fun b => b.quotaHints.filter fun hint =>
      hint = .warning || hint = .exceeded).getD []).length }

section Derived

variable (dates : DateFunctions) (shown : BootstrapPayload → ShownBootstrap)

/-- `shown` is what the UI reads of a cached payload. -/
def deriveUiState (input : UiInput) : ClientProg PlatformUiState := do
  let session ← getInstallationSession
  let cache ← getBootstrapCache
  let nowMs ← client .dateNow
  return derivePlatformUiState dates (input.bootstrap.or (cache.map shown))
    (session.map fun session => session.expiresAt) input.authInvalid input.backendUnavailable nowMs

/-- What the derived state says of the connection. -/
def ShowsConnected (input : UiInput) (s : ClientStore) : Prop :=
  ∃ state, ((deriveUiState dates shown input).run ClientCall.exec [] s).1 = .ok state ∧
    state.connectionState = .connected

/-- A session is stored whose expiry date parses to a time after now. -/
def UsableSession (s : ClientStore) : Prop :=
  ∃ session expiresAtMs, readSession s.installationSession = some session ∧
    dates.parse session.expiresAt = some expiresAtMs ∧ s.now < expiresAtMs

/-- The expiry date of the stored session can be read. -/
def KnownExpiry (s : ClientStore) : Prop :=
  ∃ session, readSession s.installationSession = some session ∧
    (dates.parse session.expiresAt).isSome

variable {dates shown} {input : UiInput} {s : ClientStore}

theorem deriveUiState_run : ((deriveUiState dates shown input).run ClientCall.exec [] s).1 =
    .ok (derivePlatformUiState dates (input.bootstrap.or (s.bootstrapCache.map shown))
      ((readSession s.installationSession).map fun session => session.expiresAt)
      input.authInvalid input.backendUnavailable s.now) := by
  have hsess : getInstallationSession.run ClientCall.exec [] s =
      (.ok (readSession s.installationSession), s) := rfl
  have hcache : getBootstrapCache.run ClientCall.exec [] s = (.ok s.bootstrapCache, s) := by
    cases hstored : s.bootstrapCache <;>
      simp only [getBootstrapCache, Prog.run_bind, Prog.run_await, ClientCall.exec, hstored] <;> rfl
  simp only [deriveUiState, Prog.run_bind, hsess, hcache, Prog.andThen_ok]
  rfl

/-- Connected is what no flag and no readable date speak against. -/
theorem showsConnected_iff : ShowsConnected dates shown input s ↔
    input.backendUnavailable = false ∧ input.authInvalid = false ∧
      isExpired dates ((readSession s.installationSession).map fun session => session.expiresAt)
        s.now = false := by
  simp only [ShowsConnected, deriveUiState_run, Except.ok.injEq, exists_eq_left',
    derivePlatformUiState]
  cases input.backendUnavailable <;> cases input.authInvalid <;> simp

variable {session : InstallationTokenSession}

theorem readSession_expiresAt {stored : Option InstallationTokenSession}
    (h : readSession stored = some session) :
    session.expiresAt ≠ "" := by
  intro hempty
  have hkept := (Option.filter_eq_some_iff.mp h).2
  rw [hempty] at hkept
  simp [normalizeTrimmedValue, jsTrim] at hkept

variable (dates) in
/-- With a session the date decides, as far as it can be read. -/
theorem isExpired_session (h : readSession s.installationSession = some session) :
    isExpired dates ((readSession s.installationSession).map fun session => session.expiresAt)
      s.now = (dates.parse session.expiresAt).any fun expiresAtMs => expiresAtMs ≤ s.now := by
  grind [isExpired, readSession_expiresAt]

/-- One state: connected means a usable session exactly if a flag is set or the expiry date of
a stored session can be read. -/
theorem connected_usable_iff : (ShowsConnected dates shown input s → UsableSession dates s) ↔
    input.backendUnavailable = true ∨ input.authInvalid = true ∨ KnownExpiry dates s := by
  rw [showsConnected_iff]
  rcases hsess : readSession s.installationSession with _ | session
  · have hexp : isExpired dates ((none : Option InstallationTokenSession).map
        fun session => session.expiresAt) s.now = false := rfl
    simp only [UsableSession, KnownExpiry, hsess, hexp]
    cases input.backendUnavailable <;> cases input.authInvalid <;> simp
  have hexp := isExpired_session dates hsess
  rw [hsess] at hexp
  rw [hexp]
  simp only [UsableSession, KnownExpiry, hsess]
  rcases hparse : dates.parse session.expiresAt with _ | expiresAtMs <;>
    cases input.backendUnavailable <;> cases input.authInvalid <;> simp [hparse]

end Derived

/-! ## Runs -/

/-- The session after a call, from the one before. -/
def ClientCall.sessionAfter : ClientCall → Option InstallationTokenSession →
    Option InstallationTokenSession
  | .setInstallationSession session, _ => some session
  | .removeInstallationSession, _ => none
  | _, stored => stored

theorem ClientCall.exec_session (op : ClientCall) (s : ClientStore) :
    (op.exec s).2.installationSession = op.sessionAfter s.installationSession := by
  cases op with
  | enterRefresh token => cases hpromise : s.installationSessionRefreshPromise <;>
      simp [exec, sessionAfter, hpromise]
  | awaitRefresh id =>
    simp only [exec]
    split <;> rfl
  | _ => rfl

/-- The session after the calls of a log; a call that fails leaves it as it was. -/
def loggedSession (stored : Option InstallationTokenSession)
    (log : List ClientEvent) : Option InstallationTokenSession :=
  log.foldl (fun stored event =>
    if event.result.isOk then event.op.sessionAfter stored else stored) stored

/-- The last save or clear that went through was a clear. -/
def ClearedLast (log : List ClientEvent) : Prop :=
  ∃ before pid after, log = before ++ ⟨pid, .removeInstallationSession, .ok ()⟩ :: after ∧
    ∀ pid session, ⟨pid, .setInstallationSession session, .ok ()⟩ ∉ after

variable {log : List ClientEvent}

theorem loggedSession_of_unsaved
    (h : ∀ pid session, ⟨pid, .setInstallationSession session, .ok ()⟩ ∉ log) :
    loggedSession none log = none := by
  induction log with
  | nil => rfl
  | cons event log ih =>
    have hev : (if event.result.isOk then event.op.sessionAfter none else none) = none := by
      rcases event with ⟨pid, op, result⟩
      cases op with
      | setInstallationSession session =>
        cases result with
        | ok _ => exact absurd List.mem_cons_self (h pid session)
        | error e => rfl
      | _ => exact ite_self _
    rw [loggedSession, List.foldl_cons, hev]
    exact ih fun pid session hmem => h pid session (List.mem_cons_of_mem _ hmem)

theorem loggedSession_of_cleared (h : ClearedLast log) (stored : Option InstallationTokenSession) :
    loggedSession stored log = none := by
  rcases h with ⟨before, pid, after, rfl, hafter⟩
  rw [loggedSession, List.foldl_append]
  exact loggedSession_of_unsaved hafter

/-- In every run the stored session is the one that the log leaves. -/
theorem session_of_reaches {dates : DateFunctions} {store : ClientStore} {s : ClientSnapshot}
    (h : (clientMachine dates).Reaches (fun _ _ => True) (Machine.initial store) s) :
    s.store.installationSession = loggedSession store.installationSession s.log := by
  have hstep : ∀ s l s', True → (clientMachine dates).next l s = some s' →
      s.store.installationSession = loggedSession store.installationSession s.log →
        s'.store.installationSession = loggedSession store.installationSession s'.log := by
    intro s l s' _ hnext hinv
    rcases (clientMachine dates).next_cases hnext with ⟨req, rfl, rfl⟩ |
      ⟨pid, req, op, k, rfl, hp, rfl⟩ | ⟨pid, e, req, op, k, rfl, hp, rfl⟩
    · exact hinv
    · -- a call that throws by itself does not concern the session
      have hexec := ClientCall.exec_session op s.store
      simp only [loggedSession, List.foldl_append, List.foldl_cons] at hinv ⊢
      rw [← hinv]
      show (op.exec s.store).2.installationSession = _
      rw [hexec]
      split
      · rfl
      · rename_i hfails
        cases op <;> first | rfl | exact absurd rfl hfails
    · simp only [loggedSession, List.foldl_append] at hinv ⊢
      exact hinv
  exact Machine.Reaches.invariant (clientMachine dates) hstep h rfl

/-- In every state of every run: connected means a usable session exactly if a flag is set or
the expiry date of a stored session can be read; and after a clear connected is shown exactly
if no flag is set. -/
theorem connected_with_session_iff (dates : DateFunctions)
    (shown : BootstrapPayload → ShownBootstrap) (store : ClientStore) (s : ClientSnapshot)
    (h : (clientMachine dates).Reaches (fun _ _ => True) (Machine.initial store) s)
    (input : UiInput) :
    ((ShowsConnected dates shown input s.store → UsableSession dates s.store) ↔
      input.backendUnavailable = true ∨ input.authInvalid = true ∨ KnownExpiry dates s.store) ∧
    (ClearedLast s.log → (¬ ShowsConnected dates shown input s.store ↔
      input.backendUnavailable = true ∨ input.authInvalid = true)) := by
  refine ⟨connected_usable_iff, fun hcleared => ?_⟩
  have hsession : s.store.installationSession = none := by
    rw [session_of_reaches h, loggedSession_of_cleared hcleared]
  rw [showsConnected_iff, hsession]
  have hexpired : isExpired dates ((readSession none).map fun session => session.expiresAt)
      s.store.now = false := rfl
  rw [hexpired]
  cases input.backendUnavailable <;> cases input.authInvalid <;> simp

/-! ## Nothing stored -/

def plainShown (_ : BootstrapPayload) : ShownBootstrap where
  compatibilityStatus := .supported
  compatibilityReason := none
  killSwitches := []
  deprecationMessages := []
  quotaHints := []
  aiMode := .platform_only

/-- `deriveUiState()`. -/
def noFlags : UiInput := ⟨false, false, none⟩

theorem connected_with_session_connectedStore :
    ((ShowsConnected newYear plainShown noFlags connectedStore →
        UsableSession newYear connectedStore) ↔
      noFlags.backendUnavailable = true ∨ noFlags.authInvalid = true ∨
        KnownExpiry newYear connectedStore) ∧
    (ClearedLast [] → (¬ ShowsConnected newYear plainShown noFlags connectedStore ↔
      noFlags.backendUnavailable = true ∨ noFlags.authInvalid = true)) :=
  connected_with_session_iff newYear plainShown connectedStore (Machine.initial connectedStore)
    Relation.ReflTransGen.refl noFlags

/-- Without a session the extension is shown as connected. -/
theorem connected_without_session :
    ShowsConnected newYear plainShown noFlags { connectedStore with installationSession := none } ∧
      ¬ UsableSession newYear { connectedStore with installationSession := none } := by
  refine ⟨⟨_, rfl, rfl⟩, ?_⟩
  rintro ⟨session, expiresAtMs, hsession, -⟩
  cases hsession

end QuizMind.Client
