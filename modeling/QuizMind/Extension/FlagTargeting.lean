import QuizMind.Extension.Bootstrap
import QuizMind.Table.Select

/-! # The targeting of feature flags

A flag names the roles and the users it is for: the roles in `allowRolesJson`, the users in its
enabled override rows. An empty list means everyone. What is listed is filtered on its way into
the definition: unknown roles, disabled overrides and overrides without a user are dropped. A
list that is emptied in this way opens the flag to everyone (`neverWidens_iff`).

The access check and the checks of the description and of the rollout percentage are left out.
-/

namespace QuizMind.FeatureFlags

open Compatibility (FeatureFlagStatus FeatureFlagDefinition FlagContext allowsUser allowsRole
  allowsVersion given resolveFeatureFlags stringArray)
open Versions (compareSemver)
open List (ne_nil_of_mem)

def systemRoles : List String := ["admin"]

def workspaceRoles : List String :=
  ["workspace_owner", "workspace_admin", "workspace_billing_manager",
    "workspace_security_manager", "workspace_manager", "workspace_analyst", "workspace_member",
    "workspace_viewer"]

def validRoleSet : List String := systemRoles ++ workspaceRoles

/-- The texts that are there and not empty, each once. -/
def uniqueStrings (values : List (Option String)) : List String :=
  (values.filterMap given).eraseDups

/-- The roles that a stored list names; what is not an array of texts names none. -/
def listedRoles (value : Json) : List String := (stringArray value).getD []

def parseAllowedRoles (value : Json) : List String :=
  (listedRoles value).filter fun role => role ∈ validRoleSet

def normalizeList (value : List String) : List String :=
  uniqueStrings (value.map fun item => some (jsTrim item))

def normalizeOptionalString (value : Option String) : Option String := given (value.map jsTrim)

/-! ## Records and definitions -/

structure FeatureFlagOverride where
  userId : Option String
  workspaceId : Option String
  enabled : Bool

structure FeatureFlagRecord where
  id : String
  key : String
  description : String
  status : FeatureFlagStatus
  enabled : Bool
  rolloutPercentage : Option ℚ
  allowRolesJson : Json
  minimumExtensionVersion : Option String
  overrides : List FeatureFlagOverride

/-- A definition with the members that the resolution does not read. -/
structure DescribedDefinition extends FeatureFlagDefinition where
  description : String
  rolloutPercentage : Option ℚ

def enabledUsers (record : FeatureFlagRecord) : List (Option String) :=
  (record.overrides.filter fun override => override.enabled).map fun override => override.userId

/-- A list that is not empty. -/
def listed {α : Type} (items : List α) : Option (List α) :=
  match items with
  | [] => none
  | items => some items

def mapFeatureFlagRecordToDefinition (record : FeatureFlagRecord) : DescribedDefinition where
  key := record.key
  status := record.status
  enabled := record.enabled
  allowRoles := listed (parseAllowedRoles record.allowRolesJson)
  allowUsers := listed (uniqueStrings (enabledUsers record))
  minimumExtensionVersion := record.minimumExtensionVersion
  description := record.description
  rolloutPercentage := record.rolloutPercentage

/-! ## Updates -/

/-- A member that is missing or null is `none`; for the minimum version the two differ. -/
structure FeatureFlagUpdateRequest where
  description : Option String
  status : Option FeatureFlagStatus
  enabled : Option Bool
  rolloutPercentage : Option ℚ
  allowRoles : Option (List String)
  allowUsers : Option (List String)
  minimumExtensionVersion : Option (Option String)

structure NormalizedFeatureFlagUpdate where
  key : String
  description : String
  status : FeatureFlagStatus
  enabled : Bool
  rolloutPercentage : Option ℚ
  minimumExtensionVersion : Option String
  allowRoles : List String
  allowUsers : List String

def normalizeFeatureFlagUpdate (existing : DescribedDefinition)
    (request : FeatureFlagUpdateRequest) : NormalizedFeatureFlagUpdate where
  key := existing.key
  description := (normalizeOptionalString request.description).getD existing.description
  status := request.status.getD existing.status
  enabled := request.enabled.getD existing.enabled
  rolloutPercentage := request.rolloutPercentage.or existing.rolloutPercentage
  minimumExtensionVersion :=
    match request.minimumExtensionVersion with
    | some version => normalizeOptionalString version
    | none => given existing.minimumExtensionVersion
  allowRoles :=
    match request.allowRoles with
    | some roles => parseAllowedRoles (.array (roles.map .string))
    | none => existing.allowRoles.getD []
  allowUsers :=
    match request.allowUsers with
    | some users => normalizeList users
    | none => existing.allowUsers.getD []

def FeatureFlagRecord.replaced (existing : FeatureFlagRecord)
    (input : NormalizedFeatureFlagUpdate) : FeatureFlagRecord where
  id := existing.id
  key := existing.key
  description := input.description
  status := input.status
  enabled := input.enabled
  rolloutPercentage := input.rolloutPercentage
  minimumExtensionVersion := input.minimumExtensionVersion
  allowRolesJson := .array (input.allowRoles.map .string)
  overrides := input.allowUsers.map fun userId =>
    { userId := some userId, workspaceId := none, enabled := true }

/-- The flags with their overrides, and the ids of the users. -/
structure FlagStore where
  flags : List FeatureFlagRecord
  users : List String
  keys_nodup : (flags.map FeatureFlagRecord.key).Nodup
  ids_nodup : (flags.map FeatureFlagRecord.id).Nodup
  /-- an override names a user that there is -/
  references : ∀ flag ∈ flags, ∀ override ∈ flag.overrides, ∀ userId,
    override.userId = some userId → userId ∈ users

def FlagStore.findByKey (s : FlagStore) (key : String) : Option FeatureFlagRecord :=
  s.flags.find? fun flag => flag.key == key

def FlagStore.findById (s : FlagStore) (id : String) : Option FeatureFlagRecord :=
  s.flags.find? fun flag => flag.id == id

/-- The flag with one id, its definition replaced; the others stay as they are. -/
def replacedAt (id : String) (input : NormalizedFeatureFlagUpdate) (flag : FeatureFlagRecord) :
    FeatureFlagRecord :=
  if flag.id = id then flag.replaced input else flag

theorem replacedAt_key (id : String) (input : NormalizedFeatureFlagUpdate)
    (flag : FeatureFlagRecord) : (replacedAt id input flag).key = flag.key := by
  unfold replacedAt
  split <;> rfl

theorem replacedAt_id (id : String) (input : NormalizedFeatureFlagUpdate)
    (flag : FeatureFlagRecord) : (replacedAt id input flag).id = flag.id := by
  unfold replacedAt
  split <;> rfl

def FlagStore.replace (s : FlagStore) (id : String) (input : NormalizedFeatureFlagUpdate)
    (hinput : ∀ userId ∈ input.allowUsers, userId ∈ s.users) : FlagStore where
  flags := s.flags.map (replacedAt id input)
  users := s.users
  keys_nodup := by
    have hkeys : (s.flags.map (replacedAt id input)).map FeatureFlagRecord.key =
        s.flags.map FeatureFlagRecord.key := by
      rw [List.map_map]
      exact List.map_congr_left fun flag _ => replacedAt_key id input flag
    rw [hkeys]
    exact s.keys_nodup
  ids_nodup := by
    have hids : (s.flags.map (replacedAt id input)).map FeatureFlagRecord.id =
        s.flags.map FeatureFlagRecord.id := by
      rw [List.map_map]
      exact List.map_congr_left fun flag _ => replacedAt_id id input flag
    rw [hids]
    exact s.ids_nodup
  references := by
    intro flag hflag override hoverride userId huser
    rcases List.mem_map.mp hflag with ⟨old, hold, rfl⟩
    unfold replacedAt at hoverride
    split at hoverride
    · rcases List.mem_map.mp hoverride with ⟨listed, hlisted, rfl⟩
      obtain rfl := Option.some.inj huser
      exact hinput _ hlisted
    · exact s.references old hold override hoverride userId huser

/-- One transaction; an override for a user that there is not breaks the reference. -/
def FlagStore.replaceDefinition (s : FlagStore) (input : NormalizedFeatureFlagUpdate) :
    Except Exception (Option FeatureFlagRecord) × FlagStore :=
  match s.findByKey input.key with
  | none => (.ok none, s)
  | some existing =>
    if hinput : ∀ userId ∈ input.allowUsers, userId ∈ s.users then
      let s' := s.replace existing.id input hinput
      (.ok (s'.findById existing.id), s')
    else (.error (.prisma "P2003"), s)

variable {s : FlagStore}

variable {record : FeatureFlagRecord}

theorem FlagStore.findByKey_mem {key : String}
    (h : s.findByKey key = some record) : record ∈ s.flags ∧ record.key = key := by
  refine ⟨List.mem_of_find?_eq_some h, ?_⟩
  have hkey := List.find?_some h
  simpa using hkey

variable {input : NormalizedFeatureFlagUpdate}

theorem FlagStore.findById_replace (hrec : record ∈ s.flags)
    (hinput : ∀ userId ∈ input.allowUsers, userId ∈ s.users) :
    (s.replace record.id input hinput).findById record.id = some (record.replaced input) := by
  have hrepl : replacedAt record.id input record = record.replaced input := if_pos rfl
  have hmem : record.replaced input ∈ (s.replace record.id input hinput).flags := by
    rw [← hrepl]
    exact List.mem_map_of_mem hrec
  exact Table.find?_key_of_nodup (s.replace record.id input hinput).ids_nodup hmem

/-- What an accepted update leaves of the flag. -/
theorem replaceDefinition_eq (hfound : s.findByKey input.key = some record)
    (hinput : ∀ userId ∈ input.allowUsers, userId ∈ s.users) :
    (s.replaceDefinition input).1 = .ok (some (record.replaced input)) := by
  grind [FlagStore.replaceDefinition, FlagStore.findById_replace, FlagStore.findByKey_mem]

theorem eq_replaced_of_replaceDefinition {record' : FeatureFlagRecord}
    (hfound : s.findByKey input.key = some record)
    (h : (s.replaceDefinition input).1 = .ok (some record')) : record' = record.replaced input := by
  by_cases hinput : ∀ userId ∈ input.allowUsers, userId ∈ s.users
  · grind [replaceDefinition_eq]
  · grind [FlagStore.replaceDefinition]

/-! ## What a definition serves -/

/-- A condition that a definition puts on a context. -/
inductive FlagField where
  | status
  | enabled
  | allowRoles
  | allowUsers
  | minimumExtensionVersion
  deriving DecidableEq

def FlagField.contribution (definition : FeatureFlagDefinition) (context : FlagContext) :
    FlagField → Bool
  | .status => definition.status = .active
  | .enabled => definition.enabled
  | .allowRoles => allowsRole definition context
  | .allowUsers => allowsUser definition context
  | .minimumExtensionVersion => allowsVersion definition context

/-- The flag is returned for the context. -/
def Serves (definition : FeatureFlagDefinition) (context : FlagContext) : Prop :=
  definition.key ∈ resolveFeatureFlags [definition] context

/-- A flag is returned where all of its fields let it pass. -/
theorem serves_iff (definition : FeatureFlagDefinition) (context : FlagContext) :
    Serves definition context ↔ ∀ f : FlagField, f.contribution definition context = true := by
  unfold Serves resolveFeatureFlags
  simp only [List.mem_mergeSort, List.mem_map, List.mem_filter, List.mem_singleton,
    Bool.and_eq_true, decide_eq_true_eq]
  constructor
  · rintro ⟨_, ⟨⟨rfl, hstat, henabled⟩, ⟨huser, hrole⟩, hver⟩, -⟩ f
    cases f with
    | status => exact decide_eq_true hstat
    | enabled => exact henabled
    | allowRoles => exact hrole
    | allowUsers => exact huser
    | minimumExtensionVersion => exact hver
  intro hall
  refine ⟨definition, ⟨⟨rfl, ?_, hall .enabled⟩, ⟨hall .allowUsers, hall .allowRoles⟩,
    hall .minimumExtensionVersion⟩, rfl⟩
  exact of_decide_eq_true (hall .status)

/-! ## Lists that are emptied -/

/-- The flag is switched on. -/
def IsOn (definition : FeatureFlagDefinition) : Prop :=
  definition.status = .active ∧ definition.enabled = true

/-- The flag is returned only where the user is one of the users, or has one of the roles. -/
def TargetsOnly (definition : FeatureFlagDefinition) (users roles : List String) : Prop :=
  ∀ context, Serves definition context → (∃ userId, context.userId = some userId ∧ userId ∈ users) ∨
      ∃ names, context.roles = some names ∧ ∃ role ∈ roles, role ∈ names

/-- A list of a definition is not empty, and no user has an empty id. -/
structure ListsSomeone (definition : FeatureFlagDefinition) : Prop where
  users : ∀ users, definition.allowUsers = some users → users ≠ [] ∧ "" ∉ users
  roles : ∀ roles, definition.allowRoles = some roles → roles ≠ []

variable {definition : FeatureFlagDefinition}

theorem targetsOnly_of_users {users roles named : List String}
    (hnamed : definition.allowUsers = some named) (hsub : named ⊆ users) :
    TargetsOnly definition users roles := by
  intro context hserves
  have huser := (serves_iff definition context).mp hserves .allowUsers
  simp only [FlagField.contribution, allowsUser, hnamed, Option.any_eq_true,
    decide_eq_true_eq] at huser
  rcases huser with ⟨userId, hgiven, hmem⟩
  left
  exact ⟨userId, (Option.filter_eq_some_iff.mp hgiven).1, hsub hmem⟩

theorem targetsOnly_of_roles {users roles named : List String}
    (hnamed : definition.allowRoles = some named) (hsub : named ⊆ roles) :
    TargetsOnly definition users roles := by
  intro context hserves
  have hrole := (serves_iff definition context).mp hserves .allowRoles
  simp only [FlagField.contribution, allowsRole, hnamed, Option.any_eq_true, List.any_eq_true,
    decide_eq_true_eq] at hrole
  rcases hrole with ⟨names, hnames, role, hrole, hmem⟩
  right
  exact ⟨names, hnames, role, hsub hrole, hmem⟩

/-- Someone whom a definition lists, with the version that it asks for. -/
def listedContext (definition : FeatureFlagDefinition) : FlagContext where
  userId := definition.allowUsers.bind List.head?
  roles := definition.allowRoles
  extensionVersion := definition.minimumExtensionVersion

/-- A flag that is switched on is returned for someone. -/
theorem serves_listedContext (hon : IsOn definition) (hlists : ListsSomeone definition) :
    Serves definition (listedContext definition) := by
  rw [serves_iff]
  intro f
  cases f with
  | status => exact decide_eq_true hon.1
  | enabled => exact hon.2
  | allowRoles =>
    simp only [FlagField.contribution, allowsRole]
    cases hroles : definition.allowRoles with
    | none => rfl
    | some roles =>
      rcases List.exists_mem_of_ne_nil roles (hlists.roles roles hroles) with ⟨role, hrole⟩
      simp only [listedContext, hroles, Option.any_some, List.any_eq_true, decide_eq_true_eq]
      exact ⟨role, hrole, hrole⟩
  | allowUsers =>
    simp only [FlagField.contribution, allowsUser]
    cases husers : definition.allowUsers with
    | none => rfl
    | some users =>
      rcases hlists.users users husers with ⟨hne, hempty⟩
      cases users with
      | nil => exact absurd rfl hne
      | cons userId users => grind [listedContext, given]
  | minimumExtensionVersion =>
    simp only [FlagField.contribution, allowsVersion, listedContext]
    cases given definition.minimumExtensionVersion with
    | none => rfl
    | some version =>
      -- a version is not below itself
      have hself := Versions.compareSemver_swap version version
      simp only [decide_eq_true_eq]
      omega

/-- Where the lists of a definition are those of the target, as far as the target has any, it
keeps to the target unless the lists have been emptied. -/
theorem targetsOnly_iff (definition : FeatureFlagDefinition) (users roles : List String)
    (hlists : ListsSomeone definition)
    (husers : ∀ named, definition.allowUsers = some named → named ⊆ users ∨ users = [])
    (hroles : ∀ named, definition.allowRoles = some named → named ⊆ roles ∨ roles = []) :
    TargetsOnly definition users roles ↔
      ¬ IsOn definition ∨ (definition.allowUsers.isSome ∧ users ≠ []) ∨
        (definition.allowRoles.isSome ∧ roles ≠ []) := by
  constructor
  · intro htargets
    by_contra hnot
    simp only [not_or, not_not, not_and] at hnot
    rcases hnot with ⟨hon, huser, hrole⟩
    rcases htargets _ (serves_listedContext hon hlists) with
      ⟨userId, hid, hmem⟩ | ⟨names, hnames, role, hmem, -⟩
    · -- the context names a user only where the definition does
      cases hnamed : definition.allowUsers with
      | none =>
        rw [listedContext, hnamed] at hid
        cases hid
      | some named => grind
    have hnamed : definition.allowRoles = some names := hnames
    rw [hrole (by rw [hnamed]; rfl)] at hmem
    cases hmem
  · rintro (hoff | ⟨huser, hne⟩ | ⟨hrole, hne⟩)
    · intro context hserves
      have hall := (serves_iff definition context).mp hserves
      exact absurd ⟨of_decide_eq_true (hall .status), hall .enabled⟩ hoff
    · rcases Option.isSome_iff_exists.mp huser with ⟨named, hnamed⟩
      exact targetsOnly_of_users hnamed ((husers named hnamed).resolve_right hne)
    · rcases Option.isSome_iff_exists.mp hrole with ⟨named, hnamed⟩
      exact targetsOnly_of_roles hnamed ((hroles named hnamed).resolve_right hne)

/-! ## Mapped definitions -/

variable {α : Type}

theorem listed_eq_some {items named : List α} (h : listed items = some named) :
    named = items ∧ items ≠ [] := by
  cases items with
  | nil => cases h
  | cons item items =>
    obtain rfl := Option.some.inj h
    exact ⟨rfl, List.cons_ne_nil _ _⟩

theorem listed_isSome (items : List α) : (listed items).isSome ↔ items ≠ [] := by
  cases items <;> simp [listed]

theorem getD_listed (items : List α) : (listed items).getD [] = items := by
  cases items <;> rfl

variable {values : List (Option String)}

theorem mem_uniqueStrings {text : String} :
    text ∈ uniqueStrings values ↔ some text ∈ values ∧ text ≠ "" := by
  grind [uniqueStrings, given, List.mem_eraseDups, Option.filter_eq_some_iff]

theorem uniqueStrings_ne_nil :
    uniqueStrings values ≠ [] ↔ ∃ text, some text ∈ values ∧ text ≠ "" := by
  constructor
  · intro h
    rcases List.exists_mem_of_ne_nil _ h with ⟨text, htext⟩
    exact ⟨text, mem_uniqueStrings.mp htext⟩
  · rintro ⟨text, htext⟩
    exact ne_nil_of_mem (mem_uniqueStrings.mpr htext)

theorem mem_enabledUsers {userId : Option String} : userId ∈ enabledUsers record ↔
      ∃ override ∈ record.overrides, override.enabled = true ∧ override.userId = userId := by
  simp [enabledUsers, and_assoc]

theorem mapped_listsSomeone (record : FeatureFlagRecord) :
    ListsSomeone (mapFeatureFlagRecordToDefinition record).toFeatureFlagDefinition := by
  constructor
  · intro users husers
    rcases listed_eq_some husers with ⟨rfl, hne⟩
    exact ⟨hne, fun hempty => (mem_uniqueStrings.mp hempty).2 rfl⟩
  intro roles hroles
  rcases listed_eq_some hroles with ⟨rfl, hne⟩
  exact hne

/-! ## Records -/

/-- The record names a role or has an override. -/
def ListsTargets (record : FeatureFlagRecord) : Prop :=
  listedRoles record.allowRolesJson ≠ [] ∨ record.overrides ≠ []

/-- The users with an enabled override. -/
def overriddenUsers (record : FeatureFlagRecord) : List String :=
  (enabledUsers record).filterMap id

/-- The flag of the record is returned only for those whom the record names. -/
def KeepsToTargets (record : FeatureFlagRecord) : Prop :=
  ListsTargets record →
    TargetsOnly (mapFeatureFlagRecordToDefinition record).toFeatureFlagDefinition
      (overriddenUsers record) (listedRoles record.allowRolesJson)

/-- Some target of the record is not dropped: a role is known, or an enabled override has a
user. -/
def HasTarget (record : FeatureFlagRecord) : Prop :=
  (∃ role ∈ listedRoles record.allowRolesJson, role ∈ validRoleSet) ∨
    ∃ override ∈ record.overrides, override.enabled = true ∧
      ∃ userId, override.userId = some userId ∧ userId ≠ ""

theorem mem_parseAllowedRoles {value : Json} {role : String} :
    role ∈ parseAllowedRoles value ↔ role ∈ listedRoles value ∧ role ∈ validRoleSet := by
  simp [parseAllowedRoles]

theorem parseAllowedRoles_ne_nil {value : Json} :
    parseAllowedRoles value ≠ [] ↔ ∃ role ∈ listedRoles value, role ∈ validRoleSet := by
  constructor
  · intro h
    rcases List.exists_mem_of_ne_nil _ h with ⟨role, hrole⟩
    exact ⟨role, mem_parseAllowedRoles.mp hrole⟩
  · rintro ⟨role, hrole⟩
    exact ne_nil_of_mem (mem_parseAllowedRoles.mpr hrole)

theorem keepsToTargets_iff (record : FeatureFlagRecord) : KeepsToTargets record ↔
      (ListsTargets record → record.status = .active → record.enabled = true →
        HasTarget record) := by
  have huser : ∀ userId, userId ∈ uniqueStrings (enabledUsers record) →
      userId ∈ overriddenUsers record := by
    intro userId hmem
    exact List.mem_filterMap.mpr ⟨some userId, (mem_uniqueStrings.mp hmem).1, rfl⟩
  have htargets := targetsOnly_iff _ (overriddenUsers record) (listedRoles record.allowRolesJson)
    (mapped_listsSomeone record)
    (fun named hnamed => by
      rcases listed_eq_some hnamed with ⟨rfl, -⟩
      exact .inl huser)
    (fun named hnamed => by
      rcases listed_eq_some hnamed with ⟨rfl, -⟩
      exact .inl fun role hrole => (mem_parseAllowedRoles.mp hrole).1)
  have husers : ((mapFeatureFlagRecordToDefinition record).allowUsers.isSome ∧
      overriddenUsers record ≠ []) ↔ ∃ override ∈ record.overrides, override.enabled = true ∧
        ∃ userId, override.userId = some userId ∧ userId ≠ "" := by
    constructor
    · rintro ⟨hsome, -⟩
      rcases uniqueStrings_ne_nil.mp ((listed_isSome _).mp hsome) with ⟨userId, hmem, hne⟩
      rcases mem_enabledUsers.mp hmem with ⟨override, hoverride, henabled, hid⟩
      exact ⟨override, hoverride, henabled, userId, hid, hne⟩
    rintro ⟨override, hoverride, henabled, userId, hid, hne⟩
    have hmem : some userId ∈ enabledUsers record :=
      mem_enabledUsers.mpr ⟨override, hoverride, henabled, hid⟩
    have huniq : userId ∈ uniqueStrings (enabledUsers record) :=
      mem_uniqueStrings.mpr ⟨hmem, hne⟩
    exact ⟨(listed_isSome _).mpr (ne_nil_of_mem huniq), ne_nil_of_mem (huser userId huniq)⟩
  have hroles : ((mapFeatureFlagRecordToDefinition record).allowRoles.isSome ∧
      listedRoles record.allowRolesJson ≠ []) ↔
        ∃ role ∈ listedRoles record.allowRolesJson, role ∈ validRoleSet := by
    constructor
    · rintro ⟨hsome, -⟩
      exact parseAllowedRoles_ne_nil.mp ((listed_isSome _).mp hsome)
    rintro ⟨role, hrole, hvalid⟩
    exact ⟨(listed_isSome _).mpr (parseAllowedRoles_ne_nil.mpr ⟨role, hrole, hvalid⟩),
      ne_nil_of_mem hrole⟩
  rw [husers, hroles] at htargets
  unfold KeepsToTargets
  rw [htargets]
  constructor
  · intro h hlists hact henabled
    rcases h hlists with hoff | huser | hrole
    · exact absurd ⟨hact, henabled⟩ hoff
    · exact .inr huser
    · exact .inl hrole
  intro h hlists
  by_cases hon : IsOn (mapFeatureFlagRecordToDefinition record).toFeatureFlagDefinition
  · rcases h hlists hon.1 hon.2 with hrole | huser
    · exact .inr (.inr hrole)
    · exact .inr (.inl huser)
  · exact .inl hon

/-! ## Updates and what they request -/

/-- The users that a request names, without blanks around their ids. -/
def requestedUsers (request : FeatureFlagUpdateRequest) : List String :=
  (request.allowUsers.getD []).map jsTrim

def requestedRoles (request : FeatureFlagUpdateRequest) : List String :=
  request.allowRoles.getD []

/-- `allowRoles` or `allowUsers` of the request is not empty. -/
def RequestsTargets (request : FeatureFlagUpdateRequest) : Prop :=
  requestedUsers request ≠ [] ∨ requestedRoles request ≠ []

/-- Some target of the request is not dropped: a role is known, or a user is not blank. -/
def HasRequestedTarget (request : FeatureFlagUpdateRequest) : Prop :=
  (∃ role ∈ requestedRoles request, role ∈ validRoleSet) ∨
    ∃ userId ∈ requestedUsers request, userId ≠ ""

/-- The request gives the field. -/
def FlagField.mentioned (request : FeatureFlagUpdateRequest) : FlagField → Bool
  | .status => request.status.isSome
  | .enabled => request.enabled.isSome
  | .allowRoles => request.allowRoles.isSome
  | .allowUsers => request.allowUsers.isSome
  | .minimumExtensionVersion => request.minimumExtensionVersion.isSome

def plannedUpdate (record : FeatureFlagRecord) (request : FeatureFlagUpdateRequest) :
    NormalizedFeatureFlagUpdate :=
  normalizeFeatureFlagUpdate (mapFeatureFlagRecordToDefinition record) request

theorem stringArray_strings (texts : List String) :
    stringArray (.array (texts.map .string)) = some texts := by
  induction texts with
  | nil => rfl
  | cons text texts ih => simp_all [stringArray]

theorem listedRoles_strings (roles : List String) :
    listedRoles (.array (roles.map .string)) = roles := by
  rw [listedRoles, stringArray_strings]
  rfl

theorem parseAllowedRoles_idem (value : Json) :
    parseAllowedRoles (.array ((parseAllowedRoles value).map .string)) = parseAllowedRoles value := by
  simp [parseAllowedRoles, listedRoles_strings]

/-- Which users pass depends on who is listed, not on the order. -/
theorem allowsUser_listed_congr {left right : FeatureFlagDefinition}
    {leftUsers rightUsers : List String}
    (hleft : left.allowUsers = listed leftUsers) (hright : right.allowUsers = listed rightUsers)
    (h : ∀ userId, userId ∈ leftUsers ↔ userId ∈ rightUsers) (context : FlagContext) :
    allowsUser left context = allowsUser right context := by
  have hmem : ∀ userId, decide (userId ∈ leftUsers) = decide (userId ∈ rightUsers) :=
    fun userId => decide_eq_decide.mpr (h userId)
  unfold allowsUser
  rw [hleft, hright]
  cases leftUsers with
  | nil =>
    obtain rfl : rightUsers = [] := by
      refine List.eq_nil_iff_forall_not_mem.mpr ?_
      intro userId hright
      cases (h userId).mpr hright
    rfl
  | cons user users =>
    cases rightUsers with
    | nil => cases (h user).mp List.mem_cons_self
    | cons user' users' =>
      simp only [listed, hmem]

section Planned

variable (record : FeatureFlagRecord) (request : FeatureFlagUpdateRequest)

/-- The roles of the next record are known ones. -/
theorem parse_plannedRoles :
    parseAllowedRoles (record.replaced (plannedUpdate record request)).allowRolesJson =
      (plannedUpdate record request).allowRoles := by
  simp only [plannedUpdate, normalizeFeatureFlagUpdate]
  cases request.allowRoles with
  | some roles => exact parseAllowedRoles_idem _
  | none =>
    show parseAllowedRoles (.array (((listed (parseAllowedRoles record.allowRolesJson)).getD
      []).map .string)) = (listed (parseAllowedRoles record.allowRolesJson)).getD []
    rw [getD_listed]
    exact parseAllowedRoles_idem _

variable {userId : String}

/-- The planned users have names, and each of them gets an enabled override. -/
theorem mem_plannedUsers :
    userId ∈ uniqueStrings (enabledUsers (record.replaced (plannedUpdate record request))) ↔
      userId ∈ (plannedUpdate record request).allowUsers := by
  have hne : ∀ userId ∈ (plannedUpdate record request).allowUsers, userId ≠ "" := by
    intro userId hmem
    simp only [plannedUpdate, normalizeFeatureFlagUpdate] at hmem
    cases hreq : request.allowUsers with
    | some users =>
      rw [hreq] at hmem
      exact (mem_uniqueStrings.mp hmem).2
    | none =>
      rw [hreq] at hmem
      have hmem' : userId ∈ uniqueStrings (enabledUsers record) := by
        rw [← getD_listed (uniqueStrings (enabledUsers record))]
        exact hmem
      exact (mem_uniqueStrings.mp hmem').2
  rw [mem_uniqueStrings, mem_enabledUsers]
  constructor
  · rintro ⟨⟨override, hoverride, -, hid⟩, -⟩
    rcases List.mem_map.mp hoverride with ⟨planned, hplanned, rfl⟩
    obtain rfl := Option.some.inj hid
    exact hplanned
  · intro hmem
    exact ⟨⟨_, List.mem_map_of_mem hmem, rfl, rfl⟩, hne userId hmem⟩

/-- What is planned where the request names users. -/
theorem plannedUsers_of_requested {users : List String} (h : request.allowUsers = some users) :
    userId ∈ (plannedUpdate record request).allowUsers ↔
      userId ∈ requestedUsers request ∧ userId ≠ "" := by
  grind [plannedUpdate, normalizeFeatureFlagUpdate, requestedUsers, normalizeList, mem_uniqueStrings]

/-- What is planned where it does not. -/
theorem plannedUsers_of_unmentioned (h : request.allowUsers = none) :
    userId ∈ (plannedUpdate record request).allowUsers ↔
      userId ∈ uniqueStrings (enabledUsers record) := by
  simp only [plannedUpdate, normalizeFeatureFlagUpdate, h]
  show userId ∈ (listed (uniqueStrings (enabledUsers record))).getD [] ↔ _
  rw [getD_listed]

theorem plannedRoles_of_requested {roles : List String} (h : request.allowRoles = some roles)
    {role : String} : role ∈ (plannedUpdate record request).allowRoles ↔
      role ∈ requestedRoles request ∧ role ∈ validRoleSet := by
  simp only [plannedUpdate, normalizeFeatureFlagUpdate, requestedRoles, h, Option.getD_some,
    mem_parseAllowedRoles, listedRoles_strings]

theorem plannedRoles_of_unmentioned (h : request.allowRoles = none) :
    (plannedUpdate record request).allowRoles = parseAllowedRoles record.allowRolesJson := by
  simp only [plannedUpdate, normalizeFeatureFlagUpdate, h]
  exact getD_listed _

/-- The definition after an accepted update. -/
def updatedDefinition : FeatureFlagDefinition :=
  (mapFeatureFlagRecordToDefinition
    (record.replaced (plannedUpdate record request))).toFeatureFlagDefinition

theorem updated_users_iff :
    ((updatedDefinition record request).allowUsers.isSome ∧ requestedUsers request ≠ []) ↔
      ∃ userId ∈ requestedUsers request, userId ≠ "" := by
  cases hreq : request.allowUsers with
  | none => grind [requestedUsers]
  | some users =>
    constructor
    · rintro ⟨hsome, -⟩
      rcases List.exists_mem_of_ne_nil _ ((listed_isSome _).mp hsome) with ⟨userId, hmem⟩
      have hplanned := (mem_plannedUsers record request).mp hmem
      exact ⟨userId, (plannedUsers_of_requested record request hreq).mp hplanned⟩
    rintro ⟨userId, hmem, hne⟩
    have hplanned := (plannedUsers_of_requested record request hreq).mpr ⟨hmem, hne⟩
    have huniq := (mem_plannedUsers record request).mpr hplanned
    exact ⟨(listed_isSome _).mpr (ne_nil_of_mem huniq), ne_nil_of_mem hmem⟩

theorem updated_roles_iff :
    ((updatedDefinition record request).allowRoles.isSome ∧ requestedRoles request ≠ []) ↔
      ∃ role ∈ requestedRoles request, role ∈ validRoleSet := by
  have hroles : (updatedDefinition record request).allowRoles =
      listed (plannedUpdate record request).allowRoles :=
    congrArg listed (parse_plannedRoles record request)
  rw [hroles, listed_isSome]
  cases hreq : request.allowRoles with
  | none => grind [requestedRoles]
  | some roles =>
    constructor
    · rintro ⟨hne, -⟩
      rcases List.exists_mem_of_ne_nil _ hne with ⟨role, hmem⟩
      exact ⟨role, (plannedRoles_of_requested record request hreq).mp hmem⟩
    rintro ⟨role, hmem, hvalid⟩
    have hplanned := (plannedRoles_of_requested record request hreq).mpr ⟨hmem, hvalid⟩
    exact ⟨ne_nil_of_mem hplanned, ne_nil_of_mem hmem⟩

theorem updated_targetsOnly_iff :
    TargetsOnly (updatedDefinition record request) (requestedUsers request)
        (requestedRoles request) ↔
      ¬ IsOn (updatedDefinition record request) ∨ HasRequestedTarget request := by
  have htargets := targetsOnly_iff (updatedDefinition record request) (requestedUsers request)
    (requestedRoles request) (mapped_listsSomeone _)
    (fun named hnamed => by
      rcases listed_eq_some hnamed with ⟨rfl, -⟩
      cases hreq : request.allowUsers with
      | none => grind [requestedUsers]
      | some users =>
        left
        intro userId hmem
        have hplanned := (mem_plannedUsers record request).mp hmem
        exact ((plannedUsers_of_requested record request hreq).mp hplanned).1)
    (fun named hnamed => by
      rcases listed_eq_some hnamed with ⟨rfl, -⟩
      cases hreq : request.allowRoles with
      | none => grind [requestedRoles]
      | some roles =>
        left
        intro role hmem
        rw [parse_plannedRoles] at hmem
        exact ((plannedRoles_of_requested record request hreq).mp hmem).1)
  rw [updated_users_iff, updated_roles_iff] at htargets
  rw [htargets]
  constructor
  · rintro (hoff | huser | hrole)
    · exact .inl hoff
    · exact .inr (.inr huser)
    · exact .inr (.inl hrole)
  rintro (hoff | hrole | huser)
  · exact .inl hoff
  · exact .inr (.inr hrole)
  · exact .inr (.inl huser)

/-- A field that the request does not give lets the same contexts pass as before. -/
theorem updated_contribution {f : FlagField} (h : f.mentioned request = false)
    (context : FlagContext) :
    f.contribution (updatedDefinition record request) context =
      f.contribution (mapFeatureFlagRecordToDefinition record).toFeatureFlagDefinition context := by
  cases f with
  | status =>
    have hreq : request.status = none := by simpa [FlagField.mentioned] using h
    have hstat : (updatedDefinition record request).status = record.status := by
      show request.status.getD record.status = record.status
      rw [hreq]
      rfl
    exact congrArg (fun status => decide (status = FeatureFlagStatus.active)) hstat
  | enabled =>
    have hreq : request.enabled = none := by simpa [FlagField.mentioned] using h
    show request.enabled.getD record.enabled = record.enabled
    rw [hreq]
    rfl
  | allowRoles =>
    have hreq : request.allowRoles = none := by simpa [FlagField.mentioned] using h
    have hroles : (updatedDefinition record request).allowRoles =
        (mapFeatureFlagRecordToDefinition record).allowRoles := by
      show listed (parseAllowedRoles
        (record.replaced (plannedUpdate record request)).allowRolesJson) = _
      rw [parse_plannedRoles, plannedRoles_of_unmentioned record request hreq]
      rfl
    simp only [FlagField.contribution, allowsRole, hroles]
  | allowUsers =>
    have hreq : request.allowUsers = none := by simpa [FlagField.mentioned] using h
    -- the overrides are written anew, but for the same users
    have hsame : ∀ userId, userId ∈ uniqueStrings
        (enabledUsers (record.replaced (plannedUpdate record request))) ↔
          userId ∈ uniqueStrings (enabledUsers record) := by
      intro userId
      rw [mem_plannedUsers, plannedUsers_of_unmentioned record request hreq]
    exact allowsUser_listed_congr rfl rfl hsame context
  | minimumExtensionVersion =>
    have hreq : request.minimumExtensionVersion = none := by
      simpa [FlagField.mentioned] using h
    have hver : given (updatedDefinition record request).minimumExtensionVersion =
        given record.minimumExtensionVersion := by
      have hplanned : (updatedDefinition record request).minimumExtensionVersion =
          given record.minimumExtensionVersion := by
        show (plannedUpdate record request).minimumExtensionVersion = _
        simp only [plannedUpdate, normalizeFeatureFlagUpdate, hreq]
        rfl
      rw [hplanned]
      simp [given]
    simp only [FlagField.contribution, allowsVersion, hver]
    rfl

/-- An update without a target that remains is accepted: it names no new user. -/
theorem plannedUsers_known {s : FlagStore} (hrec : record ∈ s.flags)
    (h : ¬ HasRequestedTarget request) :
    ∀ userId ∈ (plannedUpdate record request).allowUsers, userId ∈ s.users := by
  intro userId hmem
  cases hreq : request.allowUsers with
  | some users =>
    have hrequested := (plannedUsers_of_requested record request hreq).mp hmem
    exact absurd (.inr ⟨userId, hrequested⟩) h
  | none =>
    have huniq := (plannedUsers_of_unmentioned record request hreq).mp hmem
    rcases mem_enabledUsers.mp (mem_uniqueStrings.mp huniq).1 with
      ⟨override, hoverride, -, hid⟩
    exact s.references record hrec override hoverride userId hid

end Planned

/-! ## The law -/

/-- The targeting of a flag, before and after an update, widens only where it is asked to. -/
structure TargetingKept (s : FlagStore) (record : FeatureFlagRecord)
    (request : FeatureFlagUpdateRequest) : Prop where
  stored : KeepsToTargets record
  updated : ∀ record', (s.replaceDefinition (plannedUpdate record request)).1 = .ok (some record') →
    RequestsTargets request →
    TargetsOnly (mapFeatureFlagRecordToDefinition record').toFeatureFlagDefinition
      (requestedUsers request) (requestedRoles request)
  unmentioned : ∀ record',
    (s.replaceDefinition (plannedUpdate record request)).1 = .ok (some record') →
    ∀ f : FlagField, f.mentioned request = false → ∀ context,
      f.contribution (mapFeatureFlagRecordToDefinition record').toFeatureFlagDefinition context =
        f.contribution (mapFeatureFlagRecordToDefinition record).toFeatureFlagDefinition context

def NeverWidens (s : FlagStore) (key : String) (request : FeatureFlagUpdateRequest) : Prop :=
  ∀ record, s.findByKey key = some record → TargetingKept s record request

/-- Where targets are listed or requested for a flag that is on, at least one of them is not
dropped. -/
def KeepsATarget (s : FlagStore) (key : String) (request : FeatureFlagUpdateRequest) : Prop :=
  ∀ record, s.findByKey key = some record →
    (ListsTargets record → record.status = .active → record.enabled = true → HasTarget record) ∧
    (RequestsTargets request → request.status.getD record.status = .active →
      request.enabled.getD record.enabled = true → HasRequestedTarget request)

theorem neverWidens_iff (s : FlagStore) (key : String) (request : FeatureFlagUpdateRequest) :
    NeverWidens s key request ↔ KeepsATarget s key request := by
  refine forall_congr' fun record => forall_congr' fun hfound => ?_
  have hmem := FlagStore.findByKey_mem hfound
  have hfound' : s.findByKey (plannedUpdate record request).key = some record := by
    show s.findByKey record.key = some record
    rw [hmem.2]
    exact hfound
  constructor
  · intro h
    refine ⟨(keepsToTargets_iff record).mp h.stored, ?_⟩
    intro hrequests hactive henabled
    by_contra hnone
    have haccepted := replaceDefinition_eq hfound' (plannedUsers_known record request hmem.1 hnone)
    rcases (updated_targetsOnly_iff record request).mp (h.updated _ haccepted hrequests) with
      hoff | htarget
    · exact hoff ⟨hactive, henabled⟩
    · exact hnone htarget
  rintro ⟨hstored, hrequested⟩
  constructor
  · exact (keepsToTargets_iff record).mpr hstored
  · intro record' haccepted hrequests
    obtain rfl := eq_replaced_of_replaceDefinition hfound' haccepted
    refine (updated_targetsOnly_iff record request).mpr ?_
    by_cases hon : IsOn (updatedDefinition record request)
    · exact .inr (hrequested hrequests hon.1 hon.2)
    · exact .inl hon
  · intro record' haccepted f hunmentioned context
    obtain rfl := eq_replaced_of_replaceDefinition hfound' haccepted
    exact updated_contribution record request hunmentioned context

/-- A flag for nobody but one user, whose override is disabled. -/
def disabledFlag : FeatureFlagRecord where
  id := "flag_1"
  key := "beta.remote-config-v2"
  description := "Second-generation remote config."
  status := .active
  enabled := true
  rolloutPercentage := none
  allowRolesJson := .null
  minimumExtensionVersion := none
  overrides := [{ userId := some "user_2", workspaceId := none, enabled := false }]

def disabledFlagStore : FlagStore where
  flags := [disabledFlag]
  users := ["user_2"]
  keys_nodup := List.nodup_singleton _
  ids_nodup := List.nodup_singleton _
  references := by
    intro flag hflag override hoverride userId huser
    obtain rfl := List.mem_singleton.mp hflag
    obtain rfl := List.mem_singleton.mp hoverride
    obtain rfl := Option.some.inj huser
    exact List.mem_singleton_self _

def emptyRequest : FeatureFlagUpdateRequest where
  description := none
  status := none
  enabled := none
  rolloutPercentage := none
  allowRoles := none
  allowUsers := none
  minimumExtensionVersion := none

/-- The flag is returned for everyone, and stays so after an update. -/
theorem disabledFlag_widens : ¬ NeverWidens disabledFlagStore disabledFlag.key emptyRequest := by
  intro h
  have hstored := (h disabledFlag rfl).stored
  have hlists : ListsTargets disabledFlag := .inr (List.cons_ne_nil _ _)
  rcases (keepsToTargets_iff disabledFlag).mp hstored hlists rfl rfl with
    ⟨role, hrole, -⟩ | ⟨override, hoverride, henabled, -⟩
  · cases hrole
  · obtain rfl := List.mem_singleton.mp hoverride
    cases henabled

end QuizMind.FeatureFlags
