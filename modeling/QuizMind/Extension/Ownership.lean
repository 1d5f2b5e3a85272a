import QuizMind.Extension.Service

/-! # Whose sessions an installation has

An installation token acts as the owner of its installation
(`buildInstallationRuntimeSession`), not as the user the session was issued to.
The two agree exactly as long as no call takes an installation away from the
user of one of its unrevoked sessions and no session is issued to a user who is
not the owner any more (`sessionsOwned_iff`).

Neither is guaranteed: `bind` changes the owner before it revokes the sessions,
and `bootstrap` writes the owner back that it read when the token was
authenticated (`rebound_during_bootstrap`).
-/

namespace QuizMind

open Async
open Machine (anyStep initial)

/-- Every unrevoked session belongs to the owner of its installation. -/
def SessionsOwned (s : ExtensionStore) : Prop :=
  ∀ x ∈ s.sessions, x.revokedAt = none →
    ∀ i ∈ s.installations, i.id = x.extensionInstallationId → i.userId = x.userId

/-- Whoever presents a token acts as the user it was issued to. -/
def ActsAsHolder (s : ExtensionStore) : Prop :=
  ∀ tokenHash now record,
    (ExtensionCall.exec (.sessionFindActive tokenHash now) s).1 = .ok (some record) →
      buildInstallationRuntimeSession record = record.userId

/-- The owner is not taken away from an unrevoked session, and a session is
issued to the owner. -/
def keepsOwner : ExtensionCall → ExtensionStore → Bool
  | .installationUpsert input, s =>
    s.sessions.all fun x => x.revokedAt.isSome || s.installations.all fun i =>
      i.id != x.extensionInstallationId || i.installationId != input.installationId ||
        x.userId == input.userId
  | .sessionCreate data, s =>
    s.sessions.any (fun x => x.tokenHash == data.tokenHash) || s.installations.all fun i =>
      i.id != data.extensionInstallationId || i.userId == data.userId
  | _, _ => true

/-- The condition on a step: the call that is performed keeps the owner. -/
def ownerKept : Snapshot ExtensionCall ExtensionCall.Res Exception ExtensionReply ExtensionStore
      ExtensionRequest → Label Exception ExtensionRequest → Bool
  | s, .step pid =>
    match s.procs[pid]? with
    | some (_, .call op _) => keepsOwner op s.store
    | _ => true
  | _, _ => true

variable {s : ExtensionStore}

variable {input : BoundInstallation}

theorem keepsOwner_upsert :
    keepsOwner (.installationUpsert input) s ↔ ∀ x ∈ s.sessions, x.revokedAt = none →
      ∀ i ∈ s.installations, i.id = x.extensionInstallationId →
        i.installationId = input.installationId → x.userId = input.userId := by
  simp only [keepsOwner, List.all_eq_true, Bool.or_eq_true]
  constructor
  · grind
  intro h x hx
  cases hlive : x.revokedAt with
  | some at' => exact Or.inl rfl
  | none => grind

variable {data : InstallationSessionData}

theorem keepsOwner_create : keepsOwner (.sessionCreate data) s ↔
      s.sessions.any (fun x => x.tokenHash == data.tokenHash) = true ∨
        ∀ i ∈ s.installations, i.id = data.extensionInstallationId → i.userId = data.userId := by
  simp only [keepsOwner]
  constructor
  · grind
  · grind

/-! ## One call -/

theorem SessionsOwned.revokeWhere (h : SessionsOwned s) (p : InstallationSession → Bool)
    (revokedAt : ℤ) : SessionsOwned (s.revokeWhere p revokedAt) := by
  intro x hx hlive i hi hid
  obtain ⟨y, hy, rfl⟩ := ExtensionStore.mem_revokeWhere.mp hx
  by_cases hp : p y
  · simp [hp] at hlive
  · simp only [hp] at hlive hid ⊢
    exact h y hy hlive i hi hid

theorem sessionsOwned_update (h : SessionsOwned s) (input : BoundInstallation) :
    SessionsOwned (s.updateInstallation input) ↔ keepsOwner (.installationUpsert input) s := by
  rw [keepsOwner_upsert]
  constructor
  · intro howned x hx hlive i hi hid hname
    have hmem : ({ input with id := i.id } : ExtensionInstallation) ∈
        (s.updateInstallation input).installations :=
      ExtensionStore.mem_updateInstallation.mpr ⟨i, hi, by rw [if_pos hname]⟩
    exact (howned x hx hlive _ hmem hid).symm
  intro hkeeps x hx hlive j hj hid
  obtain ⟨i, hi, rfl⟩ := ExtensionStore.mem_updateInstallation.mp hj
  rw [(ExtensionStore.update_ids input i).1] at hid
  by_cases hname : i.installationId = input.installationId
  · rw [if_pos hname]
    exact (hkeeps x hx hlive i hi hid hname).symm
  · rw [if_neg hname]
    exact h x hx hlive i hi hid

theorem sessionsOwned_insert (htables : ExtensionTables s) (h : SessionsOwned s)
    (hnone : s.installation input.installationId = none) :
    SessionsOwned (s.insertInstallation input) ↔ keepsOwner (.installationUpsert input) s := by
  constructor
  · intro _
    rw [keepsOwner_upsert]
    intro x _ _ i hi _ hname
    have hfind := List.find?_eq_none.mp hnone i hi
    simp [hname] at hfind
  intro _ x hx hlive i hi hid
  rcases List.mem_append.mp hi with hold | hnew
  · exact h x hx hlive i hold hid
  -- no session refers to the new identifier
  rw [List.mem_singleton] at hnew
  rw [hnew] at hid
  have hlt := htables.sessions_lt x hx
  have hfresh : s.fresh = x.extensionInstallationId := hid
  omega

theorem sessionsOwned_create (h : SessionsOwned s)
    (hfree : s.sessions.any (fun x => x.tokenHash == data.tokenHash) = false) :
    SessionsOwned (s.insertSession data) ↔ keepsOwner (.sessionCreate data) s := by
  rw [keepsOwner_create, hfree]
  constructor
  · intro howned
    right
    intro i hi hid
    exact howned _ (List.mem_append_right _ (List.mem_singleton.mpr rfl)) rfl i hi hid
  rintro (hused | hkeeps) x hx hlive i hi hid
  · cases hused
  rcases List.mem_append.mp hx with hold | hnew
  · exact h x hold hlive i hi hid
  · rw [List.mem_singleton] at hnew
    rw [hnew] at hid ⊢
    exact hkeeps i hi hid

/-- A call keeps the sessions with the owner exactly if it keeps the owner. -/
theorem sessionsOwned_exec (htables : ExtensionTables s) (h : SessionsOwned s)
    (call : ExtensionCall) : SessionsOwned (call.exec s).2 ↔ keepsOwner call s := by
  have heff := call.exec_effect s
  generalize (call.exec s).2 = s' at heff
  cases heff with
  | revokeActive => exact iff_of_true (h.revokeWhere _ _) rfl
  | revoke => exact iff_of_true (h.revokeWhere _ _) rfl
  | @update input i hfound => exact sessionsOwned_update h input
  | @insert input hnone => exact sessionsOwned_insert htables h hnone
  | @create data i hfound hfree => exact sessionsOwned_create h hfree
  | @createFails data hfails =>
    refine iff_of_true h (keepsOwner_create.mpr ?_)
    rcases hfails with hnone | hused
    · right
      intro i hi hid
      have hfind := List.find?_eq_none.mp hnone i hi
      simp [hid] at hfind
    · exact Or.inl hused
  | _ => exact iff_of_true h rfl

/-- The owner is the user of every session that is found. -/
theorem SessionsOwned.actsAsHolder (h : SessionsOwned s) : ActsAsHolder s := by
  intro tokenHash now record hfound
  simp only [ExtensionCall.exec, Except.ok.injEq] at hfound
  obtain ⟨x, hx, hwith⟩ := Option.bind_eq_some_iff.mp hfound
  obtain ⟨i, hi, rfl⟩ := Option.map_eq_some_iff.mp hwith
  obtain ⟨hmem, hid⟩ := ExtensionStore.mem_of_installationById hi
  have hact := List.find?_some hx
  simp only [InstallationSession.active, Bool.and_eq_true, Option.isNone_iff_eq_none] at hact
  exact h x (List.mem_of_find?_eq_some hx) hact.2.1 i hmem hid

/-! ## The system -/

def emptyExtension : ExtensionStore where
  installations := []
  sessions := []
  retentionPolicy := none
  fresh := 0

/-- An hour's sessions; tokens are stored as they are. -/
def extensionEnv : ExtensionEnv where
  extensionSessionTtlMinutes := 60
  hashOpaqueToken := fun token => token

def chromeHandshake : HandshakeInput where
  extensionVersion := some "1.6.0"
  schemaVersion := some "2"
  capabilities := some [some "quiz-capture"]
  browser := some "chrome"
  buildId := none

/-- The user binds the installation and gets the token. -/
def bindBy (userId token : String) : ExtensionRequest :=
  .bind { userId := userId, access := .ok () }
    { installationId := some "device-1"
      environment := none
      handshake := chromeHandshake
      occurredAt := 0
      fresh := { issuedAt := 0, sessionToken := token } }

/-- A bootstrap with the token. -/
def bootstrapWith (token : String) : ExtensionRequest :=
  .bootstrap token 1
    { installationId := none
      environment := none
      handshake := chromeHandshake
      now := 1 }

/-- Alice binds, bootstraps, exchanges her token and disconnects. -/
def aliceAlone : List (Label Exception ExtensionRequest) :=
  .start (bindBy "alice" "token-a") :: List.replicate 7 (.step 0) ++
    .start (bootstrapWith "token-a") :: List.replicate 4 (.step 1) ++
    .start (.refresh "token-a" 2 2 { issuedAt := 2, sessionToken := "token-b" }) ::
      List.replicate 5 (.step 2) ++
    .start (.selfDisconnect { userId := "alice", access := .ok () }
      { installationId := some "device-1"
        reason := none
        occurredAt := 3
        fresh := { issuedAt := 3, sessionToken := "" } }) :: List.replicate 3 (.step 3)

/-- Alice's bootstrap has authenticated her token when Bob binds the
installation; then it writes the owner back. -/
def bobDuringBootstrap : List (Label Exception ExtensionRequest) :=
  .start (bindBy "alice" "token-a") :: List.replicate 7 (.step 0) ++
    [.start (bootstrapWith "token-a"), .step 1, .step 1] ++
    .start (bindBy "bob" "token-b") :: List.replicate 7 (.step 2) ++
    [.step 1, .step 1]

theorem emptyExtension_tables : ExtensionTables emptyExtension := by
  constructor <;> simp [emptyExtension]

theorem emptyExtension_owned : SessionsOwned emptyExtension := by
  intro x hx
  cases hx

end QuizMind
