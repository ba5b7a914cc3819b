import CopilotFactory.Config.Policies

/-!
# Kinds of policies

The fields of each policy, so that values and sources can be spoken of field by field, and
the law of the merge functions: each of them takes a field from the override, or else from
the base.
-/

namespace CopilotFactory
namespace Config

open Policies

/-!
## Fields
-/

inductive CommandPolicyField where
  | mode
  | allowedCommands
  | deniedPatterns
  | forbiddenArgPatterns
  | allowShellOperators
  | onViolation
deriving DecidableEq

inductive FileScopePolicyField where
  | readRoots
  | writeRoots
  | denyRoots
  | allowReadOutsideScope
  | allowWriteOutsideScope
  | onViolation
deriving DecidableEq

inductive ValidationPolicyField where
  | profiles
deriving DecidableEq

inductive RetryPolicyField where
  | maxAttempts
  | backoffStrategy
  | initialBackoffSeconds
  | maxBackoffSeconds
  | reuseSamePool
  | allowPoolChangeAfterFailure
  | requireFailureSummaryPacket
deriving DecidableEq

inductive EscalationPolicyField where
  | triggers
  | routeTo
  | requireSummary
deriving DecidableEq

inductive LeasePolicyField where
  | leaseTtlSeconds
  | heartbeatIntervalSeconds
  | missedHeartbeatThreshold
  | gracePeriodSeconds
  | reclaimAction
deriving DecidableEq

inductive RetentionPolicyField where
  | workspaceRetentionHours
  | artifactRetentionDays
  | retainFailedWorkspaces
  | retainEscalatedWorkspaces
deriving DecidableEq

inductive ReviewPolicyField where
  | maxReviewRounds
  | requiredReviewerTypes
  | optionalReviewerTypes
  | leadReviewerRequired
deriving DecidableEq

/-- A kind of policy with its fields.  The merge function takes each field from the
override, or else from the base. -/
structure PolicyKind where
  Policy : Type
  Override : Type
  Field : Type
  Value : Field -> Type
  get : Policy -> (field : Field) -> Value field
  supplied : Override -> (field : Field) -> Supplied (Value field)
  merge : Policy -> Override -> Policy
  get_merge : forall base override field,
    get (merge base override) field = (supplied override field).coalesce (get base field)
  ext : forall policy policy' : Policy,
    (forall field, get policy field = get policy' field) -> policy = policy'

def commandPolicyKind : PolicyKind where
  Policy := CommandPolicy
  Override := CommandPolicyOverride
  Field := CommandPolicyField
  Value := fun
    | .mode => CommandPolicyMode
    | .allowedCommands => List AllowedCommand
    | .deniedPatterns => List DeniedPattern
    | .forbiddenArgPatterns => List ForbiddenArgPattern
    | .allowShellOperators => Bool
    | .onViolation => CommandViolationAction
  get := fun policy field =>
    match field with
    | .mode => policy.mode
    | .allowedCommands => policy.allowedCommands
    | .deniedPatterns => policy.deniedPatterns
    | .forbiddenArgPatterns => policy.forbiddenArgPatterns
    | .allowShellOperators => policy.allowShellOperators
    | .onViolation => policy.onViolation
  supplied := fun override field =>
    match field with
    | .mode => override.mode
    | .allowedCommands => override.allowedCommands
    | .deniedPatterns => override.deniedPatterns
    | .forbiddenArgPatterns => override.forbiddenArgPatterns
    | .allowShellOperators => override.allowShellOperators
    | .onViolation => override.onViolation
  merge := mergeCommandPolicies
  get_merge := by
    intro base override field
    cases field <;> rfl
  ext := by
    intro policy policy' h
    cases policy
    cases policy'
    simp only [CommandPolicy.mk.injEq]
    exact ⟨h .mode, h .allowedCommands, h .deniedPatterns, h .forbiddenArgPatterns,
      h .allowShellOperators, h .onViolation⟩

def fileScopePolicyKind : PolicyKind where
  Policy := FileScopePolicy
  Override := FileScopePolicyOverride
  Field := FileScopePolicyField
  Value := fun
    | .readRoots => List String
    | .writeRoots => List String
    | .denyRoots => List String
    | .allowReadOutsideScope => Bool
    | .allowWriteOutsideScope => Bool
    | .onViolation => FileScopeViolationAction
  get := fun policy field =>
    match field with
    | .readRoots => policy.readRoots
    | .writeRoots => policy.writeRoots
    | .denyRoots => policy.denyRoots
    | .allowReadOutsideScope => policy.allowReadOutsideScope
    | .allowWriteOutsideScope => policy.allowWriteOutsideScope
    | .onViolation => policy.onViolation
  supplied := fun override field =>
    match field with
    | .readRoots => override.readRoots
    | .writeRoots => override.writeRoots
    | .denyRoots => override.denyRoots
    | .allowReadOutsideScope => override.allowReadOutsideScope
    | .allowWriteOutsideScope => override.allowWriteOutsideScope
    | .onViolation => override.onViolation
  merge := mergeFileScopePolicies
  get_merge := by
    intro base override field
    cases field <;> rfl
  ext := by
    intro policy policy' h
    cases policy
    cases policy'
    simp only [FileScopePolicy.mk.injEq]
    exact ⟨h .readRoots, h .writeRoots, h .denyRoots, h .allowReadOutsideScope,
      h .allowWriteOutsideScope, h .onViolation⟩

def validationPolicyKind : PolicyKind where
  Policy := ValidationPolicy
  Override := ValidationPolicyOverride
  Field := ValidationPolicyField
  Value := fun
    | .profiles => List (String × ValidationProfile)
  get := fun policy field =>
    match field with
    | .profiles => policy.profiles
  supplied := fun override field =>
    match field with
    | .profiles => override.profiles
  merge := mergeValidationPolicies
  get_merge := by
    intro base override field
    cases field
    rfl
  ext := by
    intro policy policy' h
    cases policy
    cases policy'
    simp only [ValidationPolicy.mk.injEq]
    exact h .profiles

def retryPolicyKind : PolicyKind where
  Policy := RetryPolicy
  Override := RetryPolicyOverride
  Field := RetryPolicyField
  Value := fun
    | .maxAttempts => Rat
    | .backoffStrategy => String
    | .initialBackoffSeconds => Rat
    | .maxBackoffSeconds => Rat
    | .reuseSamePool => Bool
    | .allowPoolChangeAfterFailure => Bool
    | .requireFailureSummaryPacket => Bool
  get := fun policy field =>
    match field with
    | .maxAttempts => policy.maxAttempts
    | .backoffStrategy => policy.backoffStrategy
    | .initialBackoffSeconds => policy.initialBackoffSeconds
    | .maxBackoffSeconds => policy.maxBackoffSeconds
    | .reuseSamePool => policy.reuseSamePool
    | .allowPoolChangeAfterFailure => policy.allowPoolChangeAfterFailure
    | .requireFailureSummaryPacket => policy.requireFailureSummaryPacket
  supplied := fun override field =>
    match field with
    | .maxAttempts => override.maxAttempts
    | .backoffStrategy => override.backoffStrategy
    | .initialBackoffSeconds => override.initialBackoffSeconds
    | .maxBackoffSeconds => override.maxBackoffSeconds
    | .reuseSamePool => override.reuseSamePool
    | .allowPoolChangeAfterFailure => override.allowPoolChangeAfterFailure
    | .requireFailureSummaryPacket => override.requireFailureSummaryPacket
  merge := mergeRetryPolicies
  get_merge := by
    intro base override field
    cases field <;> rfl
  ext := by
    intro policy policy' h
    cases policy
    cases policy'
    simp only [RetryPolicy.mk.injEq]
    exact ⟨h .maxAttempts, h .backoffStrategy, h .initialBackoffSeconds,
      h .maxBackoffSeconds, h .reuseSamePool, h .allowPoolChangeAfterFailure,
      h .requireFailureSummaryPacket⟩

def escalationPolicyKind : PolicyKind where
  Policy := EscalationPolicy
  Override := EscalationPolicyOverride
  Field := EscalationPolicyField
  Value := fun
    | .triggers => List (String × String)
    | .routeTo => String
    | .requireSummary => Bool
  get := fun policy field =>
    match field with
    | .triggers => policy.triggers
    | .routeTo => policy.routeTo
    | .requireSummary => policy.requireSummary
  supplied := fun override field =>
    match field with
    | .triggers => override.triggers
    | .routeTo => override.routeTo
    | .requireSummary => override.requireSummary
  merge := mergeEscalationPolicies
  get_merge := by
    intro base override field
    cases field <;> rfl
  ext := by
    intro policy policy' h
    cases policy
    cases policy'
    simp only [EscalationPolicy.mk.injEq]
    exact ⟨h .triggers, h .routeTo, h .requireSummary⟩

def leasePolicyKind : PolicyKind where
  Policy := LeasePolicy
  Override := LeasePolicyOverride
  Field := LeasePolicyField
  Value := fun
    | .leaseTtlSeconds => Rat
    | .heartbeatIntervalSeconds => Rat
    | .missedHeartbeatThreshold => Rat
    | .gracePeriodSeconds => Rat
    | .reclaimAction => String
  get := fun policy field =>
    match field with
    | .leaseTtlSeconds => policy.leaseTtlSeconds
    | .heartbeatIntervalSeconds => policy.heartbeatIntervalSeconds
    | .missedHeartbeatThreshold => policy.missedHeartbeatThreshold
    | .gracePeriodSeconds => policy.gracePeriodSeconds
    | .reclaimAction => policy.reclaimAction
  supplied := fun override field =>
    match field with
    | .leaseTtlSeconds => override.leaseTtlSeconds
    | .heartbeatIntervalSeconds => override.heartbeatIntervalSeconds
    | .missedHeartbeatThreshold => override.missedHeartbeatThreshold
    | .gracePeriodSeconds => override.gracePeriodSeconds
    | .reclaimAction => override.reclaimAction
  merge := mergeLeasePolicies
  get_merge := by
    intro base override field
    cases field <;> rfl
  ext := by
    intro policy policy' h
    cases policy
    cases policy'
    simp only [LeasePolicy.mk.injEq]
    exact ⟨h .leaseTtlSeconds, h .heartbeatIntervalSeconds, h .missedHeartbeatThreshold,
      h .gracePeriodSeconds, h .reclaimAction⟩

def retentionPolicyKind : PolicyKind where
  Policy := RetentionPolicy
  Override := RetentionPolicyOverride
  Field := RetentionPolicyField
  Value := fun
    | .workspaceRetentionHours => Rat
    | .artifactRetentionDays => Rat
    | .retainFailedWorkspaces => Bool
    | .retainEscalatedWorkspaces => Bool
  get := fun policy field =>
    match field with
    | .workspaceRetentionHours => policy.workspaceRetentionHours
    | .artifactRetentionDays => policy.artifactRetentionDays
    | .retainFailedWorkspaces => policy.retainFailedWorkspaces
    | .retainEscalatedWorkspaces => policy.retainEscalatedWorkspaces
  supplied := fun override field =>
    match field with
    | .workspaceRetentionHours => override.workspaceRetentionHours
    | .artifactRetentionDays => override.artifactRetentionDays
    | .retainFailedWorkspaces => override.retainFailedWorkspaces
    | .retainEscalatedWorkspaces => override.retainEscalatedWorkspaces
  merge := mergeRetentionPolicies
  get_merge := by
    intro base override field
    cases field <;> rfl
  ext := by
    intro policy policy' h
    cases policy
    cases policy'
    simp only [RetentionPolicy.mk.injEq]
    exact ⟨h .workspaceRetentionHours, h .artifactRetentionDays, h .retainFailedWorkspaces,
      h .retainEscalatedWorkspaces⟩

def reviewPolicyKind : PolicyKind where
  Policy := ReviewPolicy
  Override := ReviewPolicyOverride
  Field := ReviewPolicyField
  Value := fun
    | .maxReviewRounds => Rat
    | .requiredReviewerTypes => List String
    | .optionalReviewerTypes => List String
    | .leadReviewerRequired => Bool
  get := fun policy field =>
    match field with
    | .maxReviewRounds => policy.maxReviewRounds
    | .requiredReviewerTypes => policy.requiredReviewerTypes
    | .optionalReviewerTypes => policy.optionalReviewerTypes
    | .leadReviewerRequired => policy.leadReviewerRequired
  supplied := fun override field =>
    match field with
    | .maxReviewRounds => override.maxReviewRounds
    | .requiredReviewerTypes => override.requiredReviewerTypes
    | .optionalReviewerTypes => override.optionalReviewerTypes
    | .leadReviewerRequired => override.leadReviewerRequired
  merge := mergeReviewPolicies
  get_merge := by
    intro base override field
    cases field <;> rfl
  ext := by
    intro policy policy' h
    cases policy
    cases policy'
    simp only [ReviewPolicy.mk.injEq]
    exact ⟨h .maxReviewRounds, h .requiredReviewerTypes, h .optionalReviewerTypes,
      h .leadReviewerRequired⟩

end Config
end CopilotFactory
