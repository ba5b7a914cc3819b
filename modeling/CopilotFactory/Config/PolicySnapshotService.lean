import CopilotFactory.Config.Resolver

/-!
# Policy snapshot service

For each run the effective policies are resolved, frozen into a snapshot, checked against
its schema and persisted.  The snapshot has shapes of its own for some of the policies.
-/

namespace CopilotFactory
namespace Config

open Foundations
open Policies

/-!
## Snapshots
-/

structure SnapshotAllowedCommand where
  command : String
  allowedArgsPrefixes : List String
deriving DecidableEq

structure SnapshotCommandPolicy where
  mode : String
  allowedCommands : List SnapshotAllowedCommand
  deniedPatterns : List String
  allowShellCompoundCommands : Bool
  allowSubshells : Bool
  allowEnvExpansion : Bool
  forbiddenArgPatterns : List String
deriving DecidableEq

structure SnapshotFileScopePolicy where
  readRoots : List String
  writeRoots : List String
  denyRoots : List String
  allowReadOutsideScope : Bool
  allowWriteOutsideScope : Bool
  onViolation : String
deriving DecidableEq

structure PolicySnapshot where
  policySnapshotVersion : String
  policySetId : String
  commandPolicy : SnapshotCommandPolicy
  fileScopePolicy : SnapshotFileScopePolicy
  validationPolicy : ValidationPolicy
  retryPolicy : RetryPolicy
  escalationPolicy : EscalationPolicy
  leasePolicy : LeasePolicy
  retentionPolicy : RetentionPolicy
  reviewPolicy : ReviewPolicy
deriving DecidableEq

def modeLabel : CommandPolicyMode -> String
  | .allowlist => "allowlist"
  | .denylist => "denylist"

def violationLabel : FileScopeViolationAction -> String
  | .failRun => "fail_run"
  | .denyAccess => "deny_access"
  | .auditOnly => "audit_only"

theorem modeLabel_injective : Function.Injective modeLabel := by
  intro a b h
  cases a <;> cases b <;> first | rfl | exact absurd h (by decide)

theorem violationLabel_injective : Function.Injective violationLabel := by
  intro a b h
  cases a <;> cases b <;> first | rfl | exact absurd h (by decide)

def derivePolicySetId (layers : List ConfigLayerEntry) : String :=
  match layers.reverse.find?
      (fun entry => entry.source ≠ "" && entry.source ≠ "system-defaults") with
  | some entry => entry.source
  | none => "system-defaults"

def freezeCommandPolicy (policy : CommandPolicy) : SnapshotCommandPolicy where
  mode := modeLabel policy.mode
  allowedCommands := policy.allowedCommands.map (fun cmd =>
    { command := cmd.command
      allowedArgsPrefixes := cmd.argPrefixes })
  deniedPatterns := policy.deniedPatterns.map (fun denied => denied.pattern)
  allowShellCompoundCommands := policy.allowShellOperators
  allowSubshells := false
  allowEnvExpansion := false
  forbiddenArgPatterns := policy.forbiddenArgPatterns.map (fun forbidden => forbidden.pattern)

def freezeFileScopePolicy (policy : FileScopePolicy) : SnapshotFileScopePolicy where
  readRoots := policy.readRoots
  writeRoots := policy.writeRoots
  denyRoots := policy.denyRoots
  allowReadOutsideScope := policy.allowReadOutsideScope
  allowWriteOutsideScope := policy.allowWriteOutsideScope
  onViolation := violationLabel policy.onViolation

def assembleSnapshot (values : FactoryConfig) (policySetId : String) : PolicySnapshot where
  policySnapshotVersion := "1.0"
  policySetId := policySetId
  commandPolicy := freezeCommandPolicy values.commandPolicy
  fileScopePolicy := freezeFileScopePolicy values.fileScopePolicy
  validationPolicy := values.validationPolicy
  retryPolicy := values.retryPolicy
  escalationPolicy := values.escalationPolicy
  leasePolicy := values.leasePolicy
  retentionPolicy := values.retentionPolicy
  reviewPolicy := values.reviewPolicy

/-!
## The schema
-/

structure SnapshotIssue where
  path : List String
  message : String
deriving DecidableEq

def nonEmpty (path : List String) (message text : String) : List SnapshotIssue :=
  if text = "" then [{ path := path, message := message }] else []

def integer (path : List String) (n : Rat) : List SnapshotIssue :=
  if n.den = 1 then []
  else [{ path := path, message := "Expected integer, received float" }]

def nonnegative (path : List String) (n : Rat) : List SnapshotIssue :=
  integer path n ++
    if 0 ≤ n then []
    else [{ path := path, message := "Number must be greater than or equal to 0" }]

def positive (path : List String) (n : Rat) : List SnapshotIssue :=
  integer path n ++
    if 0 < n then []
    else [{ path := path, message := "Number must be greater than 0" }]

def commandPolicyIssues (policy : SnapshotCommandPolicy) : List SnapshotIssue :=
  nonEmpty ["command_policy", "mode"] "mode must not be empty" policy.mode ++
    (policy.allowedCommands.zipIdx.flatMap fun (cmd, index) =>
      nonEmpty ["command_policy", "allowed_commands", toString index, "command"]
        "command must not be empty" cmd.command)

def fileScopePolicyIssues (policy : SnapshotFileScopePolicy) : List SnapshotIssue :=
  nonEmpty ["file_scope_policy", "on_violation"] "on_violation must not be empty"
    policy.onViolation

def retryPolicyIssues (policy : RetryPolicy) : List SnapshotIssue :=
  nonnegative ["retry_policy", "max_attempts"] policy.maxAttempts ++
    nonEmpty ["retry_policy", "backoff_strategy"] "backoff_strategy must not be empty"
      policy.backoffStrategy ++
    positive ["retry_policy", "initial_backoff_seconds"] policy.initialBackoffSeconds ++
    positive ["retry_policy", "max_backoff_seconds"] policy.maxBackoffSeconds

def escalationPolicyIssues (policy : EscalationPolicy) : List SnapshotIssue :=
  nonEmpty ["escalation_policy", "route_to"] "route_to must not be empty" policy.routeTo

def leasePolicyIssues (policy : LeasePolicy) : List SnapshotIssue :=
  positive ["lease_policy", "lease_ttl_seconds"] policy.leaseTtlSeconds ++
    positive ["lease_policy", "heartbeat_interval_seconds"] policy.heartbeatIntervalSeconds ++
    positive ["lease_policy", "missed_heartbeat_threshold"] policy.missedHeartbeatThreshold ++
    nonnegative ["lease_policy", "grace_period_seconds"] policy.gracePeriodSeconds ++
    nonEmpty ["lease_policy", "reclaim_action"] "reclaim_action must not be empty"
      policy.reclaimAction

def retentionPolicyIssues (policy : RetentionPolicy) : List SnapshotIssue :=
  nonnegative ["retention_policy", "workspace_retention_hours"]
      policy.workspaceRetentionHours ++
    nonnegative ["retention_policy", "artifact_retention_days"] policy.artifactRetentionDays

def reviewPolicyIssues (policy : ReviewPolicy) : List SnapshotIssue :=
  positive ["review_policy", "max_review_rounds"] policy.maxReviewRounds ++
    (policy.requiredReviewerTypes.zipIdx.flatMap fun (reviewerType, index) =>
      nonEmpty ["review_policy", "required_reviewer_types", toString index]
        "String must contain at least 1 character(s)" reviewerType)

def snapshotIssues (snapshot : PolicySnapshot) : List SnapshotIssue :=
  nonEmpty ["policy_set_id"] "policy_set_id must not be empty" snapshot.policySetId ++
    commandPolicyIssues snapshot.commandPolicy ++
    fileScopePolicyIssues snapshot.fileScopePolicy ++
    retryPolicyIssues snapshot.retryPolicy ++
    escalationPolicyIssues snapshot.escalationPolicy ++
    leasePolicyIssues snapshot.leasePolicy ++
    retentionPolicyIssues snapshot.retentionPolicy ++
    reviewPolicyIssues snapshot.reviewPolicy

structure PolicySnapshotContext where
  taskId : String
  poolId : String
  runId : String
deriving DecidableEq

inductive PolicySnapshotError where
  | configLayerLoad (context : PolicySnapshotContext) (cause : String)
  | resolution (error : ConfigError)
  | validation (issues : List SnapshotIssue)
  | persistence (cause : String)
deriving DecidableEq

def PolicySnapshotError.message : PolicySnapshotError -> String
  | .configLayerLoad context cause =>
      s!"Failed to load config layers for task={context.taskId}, " ++
        s!"pool={context.poolId}, run={context.runId}: {cause}"
  | .resolution error => error.message
  | .validation issues =>
      "Policy snapshot failed schema validation:\n" ++
        "\n".intercalate (issues.map (fun issue =>
          "  " ++ ".".intercalate issue.path ++ ": " ++ issue.message))
  | .persistence cause => cause

def validateSnapshot (snapshot : PolicySnapshot) : Except PolicySnapshotError PolicySnapshot :=
  if snapshotIssues snapshot = [] then .ok snapshot
  else .error (.validation (snapshotIssues snapshot))

/-!
## The service
-/

structure PolicySnapshotServiceDependencies where
  loadLayers : PolicySnapshotContext -> Except String (List ConfigLayerEntry)
  persist : String -> PolicySnapshot -> Except String String

structure GeneratePolicySnapshotResult where
  snapshot : PolicySnapshot
  artifactPath : String
  resolvedConfig : ResolvedConfig
  layerCount : Nat

def generatePolicySnapshot (deps : PolicySnapshotServiceDependencies)
    (systemDefaults : FactoryConfig) (context : PolicySnapshotContext) :
    Except PolicySnapshotError GeneratePolicySnapshotResult := do
  let layers ← (deps.loadLayers context).mapError (.configLayerLoad context)
  let resolvedConfig ← (resolveConfig layers systemDefaults).mapError .resolution
  let rawSnapshot :=
    assembleSnapshot (extractValues resolvedConfig) (derivePolicySetId layers)
  let snapshot ← validateSnapshot rawSnapshot
  let artifactPath ← (deps.persist context.runId snapshot).mapError .persistence
  pure
    { snapshot := snapshot
      artifactPath := artifactPath
      resolvedConfig := resolvedConfig
      layerCount := layers.length }

/-- A snapshot that is generated freezes the values that were resolved. -/
theorem snapshot_of_generatePolicySnapshot {deps : PolicySnapshotServiceDependencies}
    {systemDefaults : FactoryConfig} {context : PolicySnapshotContext}
    {result : GeneratePolicySnapshotResult}
    (h : generatePolicySnapshot deps systemDefaults context = .ok result) :
    snapshotIssues result.snapshot = [] ∧
      exists policySetId,
        result.snapshot = assembleSnapshot (extractValues result.resolvedConfig) policySetId := by
  unfold generatePolicySnapshot at h
  rcases bind_eq_ok.mp h with ⟨layers, _, h⟩
  rcases bind_eq_ok.mp h with ⟨resolvedConfig, _, h⟩
  rcases bind_eq_ok.mp h with ⟨snapshot, hsnapshot, h⟩
  rcases bind_eq_ok.mp h with ⟨artifactPath, _, h⟩
  cases h
  unfold validateSnapshot at hsnapshot
  split at hsnapshot
  · rename_i hissues
    cases hsnapshot
    exact ⟨hissues, derivePolicySetId layers, rfl⟩
  · cases hsnapshot

end Config
end CopilotFactory
