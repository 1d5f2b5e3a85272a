import QuizMind.Extension.FlagTargeting
import QuizMind.Extension.Ownership

/-! # The inventory of installations

`buildBootstrapPayload` and `listInstallationsForCurrentSession` both evaluate the compatibility
of an installation: the payload for the handshake of the request, the inventory for the one it
reads back from the row. Without a rule they fall back to policies that differ, so they agree
exactly where there is a rule (`compatibilityAgrees_iff`).

The device metadata, the creation dates and the access check of the listing are left out.
-/

namespace QuizMind.Compatibility

open Async
open FeatureFlags (FeatureFlagRecord mapFeatureFlagRecordToDefinition)
open RemoteConfig (RemoteConfigLayer js)
open Prog (safe_await_bind safe_bind safe_handle)

/-! ## The rules -/

structure CompatibilityRuleRow extends ExtensionCompatibilityRuleRecord where
  id : String
  createdAt : ℤ

/-- `orderBy: [{ createdAt: 'desc' }, { id: 'desc' }]`. -/
def LatestFirst (a b : CompatibilityRuleRow) : Prop :=
  b.createdAt < a.createdAt ∨ b.createdAt = a.createdAt ∧ js b.id ≤ js a.id

instance : DecidableRel LatestFirst := fun a b =>
  inferInstanceAs (Decidable (b.createdAt < a.createdAt ∨
    b.createdAt = a.createdAt ∧ js b.id ≤ js a.id))

def findLatest (rules : List CompatibilityRuleRow) : Option CompatibilityRuleRow :=
  (rules.insertionSort LatestFirst).head?

theorem findLatest_isSome (rules : List CompatibilityRuleRow) :
    (findLatest rules).isSome ↔ rules ≠ [] := by
  have hperm := List.perm_insertionSort LatestFirst rules
  unfold findLatest
  constructor
  · rintro hsome rfl
    cases hsome
  intro hne
  cases hsorted : rules.insertionSort LatestFirst with
  | nil => simp_all
  | cons rule rules' => rfl

/-! ## The payload -/

/-- The policy that `buildBootstrapPayload` writes out for the case that there is no rule. -/
def bootstrapFallbackPolicy : CompatibilityPolicy where
  minimumVersion := "1.0.0"
  recommendedVersion := "1.6.0"
  supportedSchemaVersions := ["1", "2"]
  requiredCapabilities := some ["quiz-capture"]
  resultStatus := none
  reason := none

def bootstrapPolicy (rules : List CompatibilityRuleRow) : CompatibilityPolicy :=
  match findLatest rules with
  | some rule => mapExtensionCompatibilityRuleToPolicy rule.toExtensionCompatibilityRuleRecord
      defaultCompatibilityPolicy
  | none => bootstrapFallbackPolicy

/-- What the payload is made of, apart from the installation and its handshake. -/
structure PayloadSources (P : Type) where
  rules : List CompatibilityRuleRow
  featureFlags : List FeatureFlagRecord
  remoteConfigLayers : List (RemoteConfigLayer String)
  aiAccessPolicy : P
  environment : String
  issuedAt : String
  refreshAfterSeconds : ℤ

section Payload

variable {H P : Type} (localeCompare : String → String → ℤ) (hintKey : H → String)

def bootstrapInput (sources : PayloadSources P) (installation : ExtensionInstallation)
    (handshake : CompatibilityHandshake) : BootstrapInput H P where
  installationId := installation.installationId
  handshake := handshake
  compatibilityPolicy := bootstrapPolicy sources.rules
  flagDefinitions := sources.featureFlags.map fun flag =>
    (mapFeatureFlagRecordToDefinition flag).toFeatureFlagDefinition
  remoteConfigLayers := sources.remoteConfigLayers
  entitlements := []
  quotaHints := []
  aiAccessPolicy := sources.aiAccessPolicy
  context :=
    { environment := some sources.environment
      planCode := none
      userId := some installation.userId
      roles := none }
  issuedAt := sources.issuedAt
  refreshAfterSeconds := some sources.refreshAfterSeconds

def buildBootstrapPayload (sources : PayloadSources P) (installation : ExtensionInstallation)
    (handshake : CompatibilityHandshake) : Except Exception (ExtensionBootstrapPayloadV2 H P) :=
  buildExtensionBootstrapV2 localeCompare hintKey (bootstrapInput sources installation handshake)

end Payload

/-! ## The inventory -/

inductive ConnectionStatus where
  | connected
  | expiring_soon
  | offline
  | reconnect_required
  deriving DecidableEq

def extensionOnlineGraceMs : ℤ := 30 * 60 * 1000

def expiringSoonMs : ℤ := 5 * 60 * 1000

def computeConnectionStatus (activeSessionCount : ℕ) (lastSeenAt : ℤ)
    (lastSessionExpiresAt : Option ℤ) (now : ℤ) : ConnectionStatus :=
  if activeSessionCount = 0 then .reconnect_required
  else if lastSessionExpiresAt.any fun expiresAt => expiresAt ≤ now then .reconnect_required
  else if lastSessionExpiresAt.any fun expiresAt => expiresAt - now ≤ expiringSoonMs then
    .expiring_soon
  else if extensionOnlineGraceMs < now - lastSeenAt then .offline
  else .connected

structure InventoryItem where
  installationId : String
  browser : String
  extensionVersion : String
  schemaVersion : String
  capabilities : List String
  lastSeenAt : ℤ
  activeSessionCount : ℕ
  lastSessionExpiresAt : Option ℤ
  compatibility : CompatibilityResult
  connectionStatus : ConnectionStatus
  requiresReconnect : Bool
  isOnline : Bool

def inventoryPolicy (rules : List CompatibilityRuleRow) : CompatibilityPolicy :=
  match findLatest rules with
  | some rule => mapExtensionCompatibilityRuleToPolicy rule.toExtensionCompatibilityRuleRecord
      defaultCompatibilityPolicy
  | none => defaultCompatibilityPolicy

/-- The handshake that is read back from a row. -/
def inventoryHandshake (installation : ExtensionInstallation) : CompatibilityHandshake where
  extensionVersion := installation.extensionVersion
  schemaVersion := installation.schemaVersion
  capabilities := normalizeCapabilities (some (installation.capabilities.map some))
  browser := normalizeBrowser installation.browser
  buildId := none

def mapInstallationInventoryItem (compatibilityPolicy : CompatibilityPolicy)
    (activeSessions : List InstallationSession) (now : ℤ) (installation : ExtensionInstallation) :
    InventoryItem :=
  let own := activeSessions.filter fun session =>
    session.extensionInstallationId = installation.id
  let lastSessionExpiresAt := (own.map fun session => session.expiresAt).max?
  let connectionStatus := computeConnectionStatus own.length installation.lastSeenAt
    lastSessionExpiresAt now
  { installationId := installation.installationId
    browser := normalizeBrowser installation.browser
    extensionVersion := installation.extensionVersion
    schemaVersion := installation.schemaVersion
    capabilities := normalizeCapabilities (some (installation.capabilities.map some))
    lastSeenAt := installation.lastSeenAt
    activeSessionCount := own.length
    lastSessionExpiresAt := lastSessionExpiresAt
    compatibility := evaluateCompatibility (inventoryHandshake installation) compatibilityPolicy
    connectionStatus := connectionStatus
    requiresReconnect := connectionStatus = .reconnect_required
    isOnline := connectionStatus = .connected }

/-- `listInstallationsForCurrentSession`, on the tables as they are. -/
def listInstallations (s : ExtensionStore) (rules : List CompatibilityRuleRow) (userId : String)
    (now : ℤ) : List InventoryItem :=
  let installations := (s.installations.filter fun row => row.userId = userId).insertionSort
    fun a b => b.lastSeenAt ≤ a.lastSeenAt
  let activeSessions := s.sessions.filter fun session => session.active now
  (installations.map
    (mapInstallationInventoryItem (inventoryPolicy rules) activeSessions now)).filter
      fun item => item.connectionStatus ≠ .reconnect_required

theorem mem_listInstallations {s : ExtensionStore} {rules : List CompatibilityRuleRow}
    {userId : String} {now : ℤ} {item : InventoryItem}
    (h : item ∈ listInstallations s rules userId now) :
    ∃ row ∈ s.installations, row.userId = userId ∧ item =
      mapInstallationInventoryItem (inventoryPolicy rules)
        (s.sessions.filter fun session => session.active now) now row := by
  rcases List.mem_map.mp (List.mem_filter.mp h).1 with ⟨row, hrow, rfl⟩
  have hfiltered := List.mem_filter.mp ((List.mem_insertionSort _).mp hrow)
  exact ⟨row, hfiltered.1, of_decide_eq_true hfiltered.2, rfl⟩

/-! ## Rows that the endpoints write -/

/-- The columns of a row are those of a handshake that has been normalized. -/
def Handshaken (row : BoundInstallation) : Prop :=
  ∃ input handshake, normalizeHandshake input = .ok handshake ∧
    row.extensionVersion = handshake.extensionVersion ∧
    row.schemaVersion = handshake.schemaVersion ∧
    row.capabilities = handshake.capabilities ∧ row.browser = handshake.browser

/-- The call writes no row, or one that is handshaken. -/
def writesHandshaken : ExtensionCall → Prop
  | .installationUpsert input => Handshaken input
  | _ => True

/-- Whatever it is told, the program writes handshaken rows only. -/
abbrev WritesHandshaken {α : Type} (p : ExtensionProg α) : Prop :=
  p.Safe (fun _ _ => True) writesHandshaken

section Writes

variable {α : Type} (env : ExtensionEnv)

theorem policy_writes : WritesHandshaken (resolveExtensionSessionPolicy env) := by
  refine safe_handle (safe_await_bind trivial fun _ _ => trivial) ?_
  intro e
  trivial

theorem lifecycleEvent_writes (event : LifecycleEvent) :
    WritesHandshaken (recordLifecycleEventSafely event) :=
  safe_handle (Prog.safe_await trivial) fun _ => trivial

theorem issue_writes (fresh : NewSession) (installation : ExtensionInstallation)
    (userId : String) (lifetimeHours : ℚ) :
    WritesHandshaken (issueInstallationSession env fresh installation userId lifetimeHours) :=
  safe_await_bind trivial fun _ _ => trivial

theorem resolve_writes (accessToken : String) (now : ℤ) :
    WritesHandshaken (resolveInstallationSession env accessToken now) := by
  refine safe_await_bind trivial ?_
  intro found _
  cases found with
  | none | some record => trivial

variable (session : CurrentSession)

theorem findOwn_writes (installationId : String) :
    WritesHandshaken (findOwnInstallation session installationId) := by
  refine safe_await_bind trivial ?_
  intro found _
  cases found with
  | none => trivial
  | some installation =>
    dsimp only
    split
    all_goals trivial

theorem writes_ofExcept_bind {β : Type} {x : Except Exception β} {f : β → ExtensionProg α}
    (h : ∀ b, x = .ok b → WritesHandshaken (f b)) : WritesHandshaken (ofExcept x >>= f) := by
  cases x with
  | ok b => exact h b rfl
  | error e => trivial

variable {handshake : CompatibilityHandshake}

/-- The row of a normalized handshake. -/
theorem boundInstallation_handshaken {input : HandshakeInput}
    (h : normalizeHandshake input = .ok handshake) (userId installationId : String)
    (lastSeenAt : ℤ) : Handshaken (boundInstallation userId installationId handshake lastSeenAt) :=
  ⟨input, handshake, h, rfl, rfl, rfl, rfl⟩

theorem normalizeBindRequest_handshake {request : BindRequest} {normalized : NormalizedBindRequest}
    (h : normalizeBindRequest request = .ok normalized) :
    normalizeHandshake request.handshake = .ok normalized.handshake := by
  simp only [normalizeBindRequest, bind, Except.bind] at h
  split at h
  · cases h
  split at h
  · cases h
  split at h
  · cases h
  rename_i handshake hhandshake
  obtain rfl := Except.ok.inj h
  exact hhandshake

/-- The checks of a bootstrap normalize some handshake. -/
theorem checkBootstrap_handshake {record : InstallationSessionRecord} {request : BootstrapRequest}
    {environment : String} (h : checkBootstrap record request = .ok (environment, handshake)) :
    ∃ input, normalizeHandshake input = .ok handshake := by
  simp only [checkBootstrap, bind, Except.bind] at h
  split at h
  · cases h
  split at h
  · cases h
  split at h
  · cases h
  split at h
  · cases h
  · rename_i handshake' hhandshake
    have hpair := Except.ok.inj h
    obtain rfl : handshake' = handshake := congrArg Prod.snd hpair
    exact ⟨_, hhandshake⟩

theorem bind_writes (request : BindRequest) :
    WritesHandshaken (bindInstallationForCurrentSession env session request) := by
  refine safe_bind (policy_writes env) ?_
  intro policy
  refine writes_ofExcept_bind ?_
  intro normalized hnorm
  have hrow := boundInstallation_handshaken (normalizeBindRequest_handshake hnorm)
    session.userId normalized.installationId request.occurredAt
  refine safe_await_bind trivial ?_
  intro existing _
  refine safe_await_bind hrow ?_
  intro installation _
  refine safe_await_bind trivial ?_
  intro revoked _
  refine safe_bind (issue_writes env _ _ _ _) ?_
  intro issued
  refine safe_bind (safe_await_bind trivial fun _ _ => trivial) ?_
  intro bootstrap
  exact safe_bind (lifecycleEvent_writes _) fun _ => trivial

variable (record : InstallationSessionRecord)

theorem bootstrap_writes (request : BootstrapRequest) :
    WritesHandshaken (bootstrapInstallationSession env record request) := by
  refine safe_bind (policy_writes env) ?_
  intro policy
  refine writes_ofExcept_bind ?_
  rintro ⟨environment, handshake⟩ hchecked
  rcases checkBootstrap_handshake hchecked with ⟨input, hinput⟩
  have hrow := boundInstallation_handshaken hinput record.installation.userId
    record.installation.installationId request.now
  refine safe_bind (safe_handle (Prog.safe_await hrow) fun _ => trivial) ?_
  intro installation
  refine safe_handle (safe_await_bind trivial fun _ _ => trivial) ?_
  intro e
  trivial

theorem refresh_writes (refreshedAt : ℤ) (fresh : NewSession) :
    WritesHandshaken (refreshInstallationSessionForToken env record refreshedAt fresh) := by
  refine safe_bind (policy_writes env) ?_
  intro policy
  refine safe_await_bind trivial ?_
  intro revoked _
  refine safe_bind (issue_writes env _ _ _ _) ?_
  intro issued
  exact safe_bind (lifecycleEvent_writes _) fun _ => trivial

theorem rotate_writes (request : InstallationActionRequest) :
    WritesHandshaken (rotateInstallationSessionForCurrentSession env session request) := by
  refine safe_bind (policy_writes env) ?_
  intro policy
  refine writes_ofExcept_bind ?_
  intro installationId _
  refine safe_bind (findOwn_writes session installationId) ?_
  intro installation
  refine safe_await_bind trivial ?_
  intro revoked _
  refine safe_bind (issue_writes env _ _ _ _) ?_
  intro issued
  exact safe_bind (lifecycleEvent_writes _) fun _ => trivial

theorem disconnect_writes (auditEventType installationId : String)
    (disconnectedAt : ℤ) : WritesHandshaken (disconnectInstallation session auditEventType
      installationId disconnectedAt) := by
  refine safe_bind (findOwn_writes session installationId) ?_
  intro installation
  refine safe_await_bind trivial ?_
  intro revoked _
  exact safe_bind (lifecycleEvent_writes _) fun _ => trivial

theorem extensionCode_writes (req : ExtensionRequest) :
    WritesHandshaken (extensionCode env req) := by
  cases req with
  | bind session request => exact safe_bind (bind_writes env session request) fun _ => trivial
  | bootstrap accessToken now request =>
    refine safe_bind (resolve_writes env accessToken now) ?_
    intro record
    exact safe_bind (bootstrap_writes env record request) fun _ => trivial
  | refresh accessToken now refreshedAt fresh =>
    refine safe_bind (resolve_writes env accessToken now) ?_
    intro record
    exact safe_bind (refresh_writes env record refreshedAt fresh) fun _ => trivial
  | rotate session request =>
    exact safe_bind (rotate_writes env session request) fun _ => trivial
  | disconnect session request | selfDisconnect session request =>
    refine safe_bind (writes_ofExcept_bind fun installationId _ => ?_) fun _ => trivial
    exact disconnect_writes session _ installationId _

/-- All rows of the tables are handshaken. -/
def AllHandshaken (s : ExtensionStore) : Prop :=
  ∀ row ∈ s.installations, Handshaken row.toBoundInstallation

/-- A call that writes handshaken rows only keeps all of them handshaken. -/
theorem exec_allHandshaken {call : ExtensionCall} {s : ExtensionStore}
    (hcall : writesHandshaken call) (hs : AllHandshaken s) : AllHandshaken (call.exec s).2 := by
  have heff := call.exec_effect s
  generalize (call.exec s).2 = s' at heff
  cases heff with
  | update hfound =>
    intro row hrow
    rcases List.mem_map.mp hrow with ⟨old, hold, rfl⟩
    split
    · exact hcall
    · exact hs old hold
  | insert hnone =>
    intro row hrow
    rcases List.mem_append.mp hrow with hold | hnew
    · exact hs row hold
    · obtain rfl := List.mem_singleton.mp hnew
      exact hcall
  | _ => exact hs

end Writes

/-- An installation row as it is in some state that the endpoints reach, from tables without
installations. -/
structure WrittenInstallation (env : ExtensionEnv) where
  row : ExtensionInstallation
  start : ExtensionStore
  state : Snapshot ExtensionCall ExtensionCall.Res Exception ExtensionReply ExtensionStore
    ExtensionRequest
  none_before : start.installations = []
  reached : (extensionMachine env).Reaches (fun _ _ => True) (Machine.initial start) state
  stored : row ∈ state.store.installations

/-- Such a row was written for a normalized handshake. -/
theorem WrittenInstallation.handshaken {env : ExtensionEnv} (written : WrittenInstallation env) :
    Handshaken written.row.toBoundInstallation := by
  have hcalls : ∀ (call : ExtensionCall) (s : ExtensionStore), writesHandshaken call →
      AllHandshaken s → AllHandshaken (call.exec s).2 ∧ True := by
    intro call s hcall hs
    exact ⟨exec_allHandshaken hcall hs, trivial⟩
  have hvalid : (extensionMachine env).AllValid AllHandshaken (fun _ _ => True)
      written.state := by
    refine (extensionMachine env).rely_guarantee (fun _ => trivial) (fun _ _ _ _ _ => trivial) ?_
      written.reached ⟨?_, ?_⟩
    · intro s req _ _
      exact Prog.valid_of_safe hcalls (extensionCode_writes env req) s.store
    · intro row hrow
      rw [Machine.initial, written.none_before] at hrow
      cases hrow
    · intro q hq
      cases hq
  exact hvalid.1 written.row written.stored

/-! ## Agreement -/

/-- The handshake of a payload, made of the columns of a row. -/
def storedHandshake (row : ExtensionInstallation) (buildId : Option String) :
    CompatibilityHandshake where
  extensionVersion := row.extensionVersion
  schemaVersion := row.schemaVersion
  capabilities := row.capabilities
  browser := row.browser
  buildId := buildId

/-- Normalizing a second time changes nothing. -/
theorem normalizeCapabilities_idem (value : Option (List (Option String))) :
    normalizeCapabilities (some ((normalizeCapabilities value).map some)) =
      normalizeCapabilities value := by
  have hkept : ∀ item ∈ normalizeCapabilities value, jsTrim item != "" := by
    intro item hitem
    rcases List.mem_filterMap.mp hitem with ⟨given, _, hgiven⟩
    exact (Option.filter_eq_some_iff.mp hgiven).2
  generalize normalizeCapabilities value = items at hkept
  show (items.map some).filterMap _ = items
  rw [List.filterMap_map]
  refine (List.filterMap_congr ?_).trans List.filterMap_some
  intro item hitem
  have hitem' : (some item).filter (fun s => jsTrim s != "") = some item :=
    Option.filter_eq_some_iff.mpr ⟨rfl, hkept item hitem⟩
  exact hitem'

/-- What the inventory reads back from a handshaken row are the capabilities that it has. -/
theorem Handshaken.capabilities {row : BoundInstallation} (h : Handshaken row) :
    normalizeCapabilities (some (row.capabilities.map some)) = row.capabilities := by
  rcases h with ⟨input, handshake, hnorm, _, _, hcaps, _⟩
  have hinput : handshake.capabilities = normalizeCapabilities input.capabilities := by
    unfold normalizeHandshake at hnorm
    rcases hver : readRequiredString input.extensionVersion "handshake.extensionVersion" with
      e | extensionVersion
    · rw [hver] at hnorm
      cases hnorm
    rcases hschema : readRequiredString input.schemaVersion "handshake.schemaVersion" with
      e | schemaVersion
    · rw [hver, hschema] at hnorm
      cases hnorm
    simp only [hver, hschema] at hnorm
    split at hnorm
    · cases hnorm
    split at hnorm
    · cases hnorm
    · cases hnorm
      rfl
  rw [hcaps, hinput, normalizeCapabilities_idem]

/-- The verdict reads the versions and the capabilities of a handshake only. -/
theorem evaluateCompatibility_congr {handshake handshake' : CompatibilityHandshake}
    (policy : CompatibilityPolicy)
    (hver : handshake.extensionVersion = handshake'.extensionVersion)
    (hschema : handshake.schemaVersion = handshake'.schemaVersion)
    (hcaps : handshake.capabilities = handshake'.capabilities) :
    evaluateCompatibility handshake policy = evaluateCompatibility handshake' policy := by
  grind [evaluateCompatibility, computedStatus, missingCapabilities]

/-- Every verdict names the recommended version of the policy it is made with. -/
theorem evaluateCompatibility_recommended (handshake : CompatibilityHandshake)
    (policy : CompatibilityPolicy) :
    (evaluateCompatibility handshake policy).recommendedVersion = policy.recommendedVersion := by
  grind [evaluateCompatibility, createCompatibilityResult]

section Agreement

variable {H P : Type} (localeCompare : String → String → ℤ) (hintKey : H → String)

theorem buildBootstrapPayload_compatibility {sources : PayloadSources P}
    {installation : ExtensionInstallation} {handshake : CompatibilityHandshake}
    {payload : ExtensionBootstrapPayloadV2 H P}
    (h : buildBootstrapPayload localeCompare hintKey sources installation handshake = .ok payload) :
    payload.compatibility = evaluateCompatibility handshake (bootstrapPolicy sources.rules) := by
  unfold buildBootstrapPayload buildExtensionBootstrapV2 at h
  simp only [bind, Except.bind] at h
  split at h
  · cases h
  · cases h
    rfl

/-- The tables hold the row, and no other with its `installationId`, which is unique. -/
def HoldsRow (s : ExtensionStore) (row : ExtensionInstallation) : Prop :=
  row ∈ s.installations ∧
    ∀ other ∈ s.installations, other.installationId = row.installationId → other = row

/-- Whatever else a payload is made of, and whatever else is in the tables: the payload for the
handshake in the row has the verdict that the listing has for the installation. -/
def CompatibilityAgrees (row : ExtensionInstallation) (rules : List CompatibilityRuleRow) :
    Prop :=
  ∀ (sources : PayloadSources P) (buildId : Option String)
    (payload : ExtensionBootstrapPayloadV2 H P) (s : ExtensionStore) (now : ℤ)
    (item : InventoryItem),
    sources.rules = rules →
    buildBootstrapPayload localeCompare hintKey sources row (storedHandshake row buildId) =
      .ok payload →
    HoldsRow s row → item ∈ listInstallations s rules row.userId now →
    item.installationId = row.installationId → item.compatibility = payload.compatibility

variable {rules : List CompatibilityRuleRow}

theorem listed_compatibility {s : ExtensionStore} {row : ExtensionInstallation} {now : ℤ}
    {item : InventoryItem} (hrow : HoldsRow s row)
    (hitem : item ∈ listInstallations s rules row.userId now)
    (hid : item.installationId = row.installationId) :
    item.compatibility = evaluateCompatibility (inventoryHandshake row)
      (inventoryPolicy rules) := by
  rcases mem_listInstallations hitem with ⟨other, hother, _, rfl⟩
  have hsame : other = row := hrow.2 other hother hid
  rw [hsame]
  rfl

/-- With a rule, both read the latest one in the same way. -/
theorem bootstrapPolicy_eq (hrules : rules ≠ []) :
    bootstrapPolicy rules = inventoryPolicy rules := by
  have hsome := (findLatest_isSome rules).mpr hrules
  obtain ⟨rule, hrule⟩ := Option.isSome_iff_exists.mp hsome
  unfold bootstrapPolicy inventoryPolicy
  rw [hrule]

/-- A payload of nothing. -/
def emptySources [Inhabited P] : PayloadSources P where
  rules := []
  featureFlags := []
  remoteConfigLayers := []
  aiAccessPolicy := default
  environment := "production"
  issuedAt := ""
  refreshAfterSeconds := 300

theorem emptySources_ok [Inhabited P] (row : ExtensionInstallation)
    (handshake : CompatibilityHandshake) :
    ∃ payload : ExtensionBootstrapPayloadV2 H P,
      buildBootstrapPayload localeCompare hintKey emptySources row handshake = .ok payload := by
  have hremote : ∀ context, RemoteConfig.resolveRemoteConfig
      ([] : List (RemoteConfigLayer String)) context =
        .ok { values := [], appliedLayerIds := [] } := by
    simp [RemoteConfig.resolveRemoteConfig, RemoteConfig.matchingLayers, RemoteConfig.byPriority,
      RemoteConfig.mergeLayers, bind, Except.bind, pure, Except.pure]
  unfold buildBootstrapPayload buildExtensionBootstrapV2
  simp only [bootstrapInput, emptySources, hremote]
  exact ⟨_, rfl⟩

/-- The row alone, with a session that is about to expire. -/
def rowTables (row : ExtensionInstallation) : ExtensionStore where
  installations := [row]
  sessions :=
    [{ extensionInstallationId := row.id
       userId := row.userId
       tokenHash := ""
       expiresAt := row.lastSeenAt + 1
       id := 0
       revokedAt := none }]
  retentionPolicy := none
  fresh := 0

theorem rowTables_listed (row : ExtensionInstallation) (rules : List CompatibilityRuleRow) :
    ∃ item ∈ listInstallations (rowTables row) rules row.userId row.lastSeenAt,
      item.installationId = row.installationId := by
  refine ⟨mapInstallationInventoryItem (inventoryPolicy rules) (rowTables row).sessions
    row.lastSeenAt row, ?_, rfl⟩
  have hact : (rowTables row).sessions.filter (fun session => session.active row.lastSeenAt) =
      (rowTables row).sessions := by
    simp [rowTables, InstallationSession.active]
  have hstat : (mapInstallationInventoryItem (inventoryPolicy rules) (rowTables row).sessions
      row.lastSeenAt row).connectionStatus = .expiring_soon := by
    have hnot : ¬ 300000 + row.lastSeenAt < row.lastSeenAt + 1 := by omega
    simp [mapInstallationInventoryItem, rowTables, computeConnectionStatus, expiringSoonMs, hnot]
  unfold listInstallations
  rw [hact]
  refine List.mem_filter.mpr ⟨List.mem_map_of_mem ?_, ?_⟩
  · simp [rowTables]
  · rw [hstat]
    rfl

/-- Without a rule, the payload recommends version 1.6.0 and the inventory 1.5.0. -/
theorem disagrees_of_no_rules [Inhabited P] (row : ExtensionInstallation) :
    ¬ CompatibilityAgrees (P := P) localeCompare hintKey row [] := by
  intro hagrees
  obtain ⟨payload, hpayload⟩ := emptySources_ok (P := P) localeCompare hintKey row
    (storedHandshake row none)
  obtain ⟨item, hitem, hid⟩ := rowTables_listed row []
  have hrow : HoldsRow (rowTables row) row :=
    ⟨List.mem_singleton_self row, fun other hother _ => List.mem_singleton.mp hother⟩
  have hsame := hagrees emptySources none payload _ _ item rfl hpayload hrow hitem hid
  rw [listed_compatibility hrow hitem hid,
    buildBootstrapPayload_compatibility localeCompare hintKey hpayload] at hsame
  have hver := congrArg CompatibilityResult.recommendedVersion hsame
  rw [evaluateCompatibility_recommended, evaluateCompatibility_recommended] at hver
  have hdiffer : ¬ "1.5.0" = "1.6.0" := by decide
  exact hdiffer hver

/-- For the rows that the endpoints write, the payload and the inventory agree exactly where
there is a rule. -/
theorem compatibilityAgrees_iff [Inhabited P] {env : ExtensionEnv}
    (written : WrittenInstallation env) (rules : List CompatibilityRuleRow) :
    CompatibilityAgrees (P := P) localeCompare hintKey written.row rules ↔ rules ≠ [] := by
  constructor
  · grind [disagrees_of_no_rules]
  rintro hrules sources buildId payload s now item rfl hpayload hrow hitem hid
  rw [listed_compatibility hrow hitem hid,
    buildBootstrapPayload_compatibility localeCompare hintKey hpayload,
    bootstrapPolicy_eq hrules]
  refine evaluateCompatibility_congr _ rfl rfl ?_
  exact written.handshaken.capabilities

end Agreement

/-- Alice binds her installation, and there is no rule yet: the payload for what the bind has
stored recommends another version than the inventory. -/
theorem freshBind_disagrees : ∃ (written : WrittenInstallation extensionEnv) (item : InventoryItem)
      (payload : ExtensionBootstrapPayloadV2 String Unit),
      item ∈ listInstallations written.state.store [] "alice" 1 ∧
      item.installationId = written.row.installationId ∧
      buildBootstrapPayload (fun _ _ => 0) (fun hint => hint) emptySources written.row
        (storedHandshake written.row none) = .ok payload ∧
      item.compatibility ≠ payload.compatibility := by
  let M := extensionMachine extensionEnv
  let run : List (Label Exception ExtensionRequest) :=
    .start (bindBy "alice" "token-a") :: List.replicate 7 (.step 0)
  have hcheck : ((M.trace Machine.anyStep run (Machine.initial emptyExtension)).map fun s =>
      s.store.installations.any fun row => row.userId == "alice" &&
        (listInstallations s.store [] "alice" 1).any fun item =>
          item.installationId == row.installationId &&
            item.compatibility.recommendedVersion == "1.5.0") = some true := by
    decide +kernel
  obtain ⟨s, hrun, hrow⟩ := M.reaches_of_trace_check hcheck
  obtain ⟨row, hstored, h⟩ := List.any_eq_true.mp hrow
  obtain ⟨item, hitem, hbad⟩ := List.any_eq_true.mp (Bool.and_eq_true_iff.mp h).2
  simp only [Bool.and_eq_true, beq_iff_eq] at hbad
  have hreached : M.Reaches (fun _ _ => True) (Machine.initial emptyExtension) s :=
    hrun.mono M fun _ _ _ => trivial
  obtain ⟨payload, hpayload⟩ := emptySources_ok (P := Unit) (fun _ _ => 0)
    (fun hint : String => hint) row (storedHandshake row none)
  refine ⟨⟨row, emptyExtension, s, rfl, hreached, hstored⟩, item, payload, hitem, hbad.1,
    hpayload, ?_⟩
  intro hsame
  have hversion := congrArg CompatibilityResult.recommendedVersion hsame
  rw [buildBootstrapPayload_compatibility _ _ hpayload, evaluateCompatibility_recommended,
    hbad.2] at hversion
  have hdiffer : ¬ "1.5.0" = "1.6.0" := by decide
  exact hdiffer hversion

end QuizMind.Compatibility
