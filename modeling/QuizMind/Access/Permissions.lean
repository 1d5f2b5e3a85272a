import QuizMind.Auth.Store
import Mathlib.Data.List.Dedup

/-! # Permissions and access decisions

What a principal may do follows from its roles alone: every authenticated user has the
permissions of the personal account, an admin has the whole registry.
-/

namespace QuizMind

/-! ## Permissions -/

inductive Permission where
  | usersRead | usersUpdate | usersSuspend | workspacesRead | workspacesUpdate
  | installationsRead | installationsWrite | subscriptionsRead | subscriptionsUpdate
  | paymentsRead | paymentsRefund | plansManage | billingProvidersManage | aiProvidersManage
  | entitlementsRead | entitlementsOverride | credentialsRead | credentialsWrite
  | credentialsRotate | featureFlagsRead | featureFlagsWrite | featureFlagsPublish
  | flagsSimulate | remoteConfigRead | remoteConfigWrite | remoteConfigPublish | configSimulate
  | extensionVersionsManage | compatibilityRulesManage | auditLogsRead | auditLogsExport
  | supportImpersonate | impersonationEnd | supportTicketsManage | usageRead | usageExport
  | jobsRead | jobsRetry
  deriving DecidableEq

def Permission.name : Permission → String
  | .usersRead => "users:read"
  | .usersUpdate => "users:update"
  | .usersSuspend => "users:suspend"
  | .workspacesRead => "workspaces:read"
  | .workspacesUpdate => "workspaces:update"
  | .installationsRead => "installations:read"
  | .installationsWrite => "installations:write"
  | .subscriptionsRead => "subscriptions:read"
  | .subscriptionsUpdate => "subscriptions:update"
  | .paymentsRead => "payments:read"
  | .paymentsRefund => "payments:refund"
  | .plansManage => "plans:manage"
  | .billingProvidersManage => "billing_providers:manage"
  | .aiProvidersManage => "ai_providers:manage"
  | .entitlementsRead => "entitlements:read"
  | .entitlementsOverride => "entitlements:override"
  | .credentialsRead => "credentials:read"
  | .credentialsWrite => "credentials:write"
  | .credentialsRotate => "credentials:rotate"
  | .featureFlagsRead => "feature_flags:read"
  | .featureFlagsWrite => "feature_flags:write"
  | .featureFlagsPublish => "feature_flags:publish"
  | .flagsSimulate => "flags:simulate"
  | .remoteConfigRead => "remote_config:read"
  | .remoteConfigWrite => "remote_config:write"
  | .remoteConfigPublish => "remote_config:publish"
  | .configSimulate => "config:simulate"
  | .extensionVersionsManage => "extension_versions:manage"
  | .compatibilityRulesManage => "compatibility_rules:manage"
  | .auditLogsRead => "audit_logs:read"
  | .auditLogsExport => "audit_logs:export"
  | .supportImpersonate => "support:impersonate"
  | .impersonationEnd => "impersonation:end"
  | .supportTicketsManage => "support_tickets:manage"
  | .usageRead => "usage:read"
  | .usageExport => "usage:export"
  | .jobsRead => "jobs:read"
  | .jobsRetry => "jobs:retry"

def permissionRegistry : List Permission :=
  [.usersRead, .usersUpdate, .usersSuspend, .workspacesRead, .workspacesUpdate,
    .installationsRead, .installationsWrite, .subscriptionsRead, .subscriptionsUpdate,
    .paymentsRead, .paymentsRefund, .plansManage, .billingProvidersManage, .aiProvidersManage,
    .entitlementsRead, .entitlementsOverride, .credentialsRead, .credentialsWrite,
    .credentialsRotate, .featureFlagsRead, .featureFlagsWrite, .featureFlagsPublish,
    .flagsSimulate, .remoteConfigRead, .remoteConfigWrite, .remoteConfigPublish,
    .configSimulate, .extensionVersionsManage, .compatibilityRulesManage, .auditLogsRead,
    .auditLogsExport, .supportImpersonate, .impersonationEnd, .supportTicketsManage,
    .usageRead, .usageExport, .jobsRead, .jobsRetry]

def authenticatedUserPermissions : List Permission :=
  [.installationsRead, .installationsWrite, .credentialsRead, .credentialsWrite,
    .credentialsRotate, .usageRead, .usageExport]

/-- `[...granted].sort()` of the set of what is granted. -/
def resolvePermissions (systemRoles : List SystemRole) (authenticatedUser : Bool) :
    List Permission :=
  let base := if authenticatedUser then authenticatedUserPermissions else []
  let granted := if .admin ∈ systemRoles then base ++ permissionRegistry else base
  granted.dedup.mergeSort fun a b => a.name ≤ b.name

theorem mem_permissionRegistry (p : Permission) : p ∈ permissionRegistry := by
  cases p <;> decide

theorem mem_resolvePermissions {p : Permission} {systemRoles : List SystemRole} :
    p ∈ resolvePermissions systemRoles true ↔
      p ∈ authenticatedUserPermissions ∨ .admin ∈ systemRoles := by
  simp only [resolvePermissions]
  split
  · rename_i hadmin
    simp [mem_permissionRegistry, hadmin]
  · rename_i hadmin
    simp [hadmin]

/-! ## Access decisions -/

structure SessionPrincipal where
  userId : String
  email : String
  systemRoles : List SystemRole
  entitlements : List String
  featureFlags : List String

/-- The part of a `CurrentSessionSnapshot` that the handlers read. -/
structure CurrentSessionSnapshot where
  userId : String
  email : String
  displayName : Option String
  principal : SessionPrincipal

/-- `buildCurrentSessionSnapshot`. -/
def buildCurrentSessionSnapshot (user : AuthUser) : CurrentSessionSnapshot where
  userId := user.id
  email := user.email
  displayName := user.displayName
  principal :=
    { userId := user.id
      email := user.email
      systemRoles := user.systemRoles
      entitlements := []
      featureFlags := [] }

structure AccessDecision where
  allowed : Bool
  reasons : List String
  deriving DecidableEq

/-- `evaluateAccess` on the context of a principal, for a requirement that names a
permission and nothing else. -/
def evaluateAccess (principal : SessionPrincipal) (permission : Permission) : AccessDecision :=
  let permissions := resolvePermissions principal.systemRoles true
  let reasons := if permission ∈ permissions then [] else
    [s!"Missing permission: {permission.name}"]
  { allowed := reasons.isEmpty
    reasons := reasons }

def canPublishRemoteConfig (principal : SessionPrincipal) : AccessDecision :=
  evaluateAccess principal .remoteConfigPublish

def canUpdateUsers (principal : SessionPrincipal) : AccessDecision :=
  evaluateAccess principal .usersUpdate

def canManageAiProviders (principal : SessionPrincipal) : AccessDecision :=
  evaluateAccess principal .aiProvidersManage

def canWriteProviderCredentials (principal : SessionPrincipal) : AccessDecision :=
  evaluateAccess principal .credentialsWrite

def canRotateProviderCredentials (principal : SessionPrincipal) : AccessDecision :=
  evaluateAccess principal .credentialsRotate

def canReadUsage (principal : SessionPrincipal) : AccessDecision :=
  evaluateAccess principal .usageRead

/-- `if (!accessDecision.allowed) throw new ForbiddenException(…)`. -/
def requireAccess (decision : AccessDecision) : Except Exception Unit :=
  if decision.allowed then .ok () else .error (.forbidden ("; ".intercalate decision.reasons))

variable {principal : SessionPrincipal} {permission : Permission}

theorem evaluateAccess_allowed : (evaluateAccess principal permission).allowed ↔
      permission ∈ authenticatedUserPermissions ∨ .admin ∈ principal.systemRoles := by
  rw [← mem_resolvePermissions, evaluateAccess]
  split <;> simp [*]

/-- The decision in terms of the roles. -/
theorem evaluateAccess_eq (principal : SessionPrincipal) (permission : Permission) :
    evaluateAccess principal permission =
      if permission ∈ authenticatedUserPermissions ∨ .admin ∈ principal.systemRoles then
        ⟨true, []⟩
      else ⟨false, [s!"Missing permission: {permission.name}"]⟩ := by
  simp only [evaluateAccess, mem_resolvePermissions]
  split <;> rfl

theorem requireAccess_ok {decision : AccessDecision} :
    requireAccess decision = .ok () ↔ decision.allowed := by
  unfold requireAccess
  split <;> simp [*]

/-- Only an admin publishes remote configuration, changes users or AI providers. -/
theorem requireAccess_of_admin (hpermission : permission ∉ authenticatedUserPermissions) :
    requireAccess (evaluateAccess principal permission) = .ok () ↔
      .admin ∈ principal.systemRoles := by
  rw [requireAccess_ok, evaluateAccess_allowed]
  simp [hpermission]

end QuizMind
