import Mathlib.Data.Rat.Defs
import CopilotFactory.Policies.CommandPolicy
import CopilotFactory.Policies.FileScopePolicy
import CopilotFactory.Policies.ValidationPolicy

/-!
# Policies and their overrides

A configuration has eight policies.  A layer of the configuration may override
some fields of some of them.
-/

namespace CopilotFactory
namespace Config

open Policies

/-- What stands under a key of an override: nothing, null, or a value. -/
inductive Supplied (α : Type) where
  | undefined
  | null
  | value (a : α)
deriving DecidableEq

namespace Supplied

variable {α : Type}

/-- The operator `??`, for which null is no value. -/
def coalesce (supplied : Supplied α) (base : α) : α :=
  match supplied with
  | .undefined => base
  | .null => base
  | .value a => a

def given : Supplied α -> Option α
  | .undefined => none
  | .null => none
  | .value a => some a

/-- The comparison with `undefined`, for which null is a value. -/
def isDefined : Supplied α -> Bool
  | .undefined => false
  | .null => true
  | .value _ => true

theorem coalesce_eq (supplied : Supplied α) (base : α) :
    supplied.coalesce base = supplied.given.getD base := by
  cases supplied with
  | undefined => rfl
  | null => rfl
  | value a => rfl

end Supplied

/-!
## The policies

The command and file scope policies are those of the enforcement.  The others are kept as
their schemas have them, with numbers and texts of any kind.
-/

structure RetryPolicy where
  maxAttempts : Rat
  backoffStrategy : String
  initialBackoffSeconds : Rat
  maxBackoffSeconds : Rat
  reuseSamePool : Bool
  allowPoolChangeAfterFailure : Bool
  requireFailureSummaryPacket : Bool
deriving DecidableEq

structure EscalationPolicy where
  triggers : List (String × String)
  routeTo : String
  requireSummary : Bool
deriving DecidableEq

structure LeasePolicy where
  leaseTtlSeconds : Rat
  heartbeatIntervalSeconds : Rat
  missedHeartbeatThreshold : Rat
  gracePeriodSeconds : Rat
  reclaimAction : String
deriving DecidableEq

structure RetentionPolicy where
  workspaceRetentionHours : Rat
  artifactRetentionDays : Rat
  retainFailedWorkspaces : Bool
  retainEscalatedWorkspaces : Bool
deriving DecidableEq

structure ReviewPolicy where
  maxReviewRounds : Rat
  requiredReviewerTypes : List String
  optionalReviewerTypes : List String
  leadReviewerRequired : Bool
deriving DecidableEq

/-!
## Overrides and merging
-/

structure CommandPolicyOverride where
  mode : Supplied CommandPolicyMode := .undefined
  allowedCommands : Supplied (List AllowedCommand) := .undefined
  deniedPatterns : Supplied (List DeniedPattern) := .undefined
  forbiddenArgPatterns : Supplied (List ForbiddenArgPattern) := .undefined
  allowShellOperators : Supplied Bool := .undefined
  onViolation : Supplied CommandViolationAction := .undefined

def mergeCommandPolicies (base : CommandPolicy) (override : CommandPolicyOverride) :
    CommandPolicy where
  mode := override.mode.coalesce base.mode
  allowedCommands := override.allowedCommands.coalesce base.allowedCommands
  deniedPatterns := override.deniedPatterns.coalesce base.deniedPatterns
  forbiddenArgPatterns := override.forbiddenArgPatterns.coalesce base.forbiddenArgPatterns
  allowShellOperators := override.allowShellOperators.coalesce base.allowShellOperators
  onViolation := override.onViolation.coalesce base.onViolation

structure FileScopePolicyOverride where
  readRoots : Supplied (List String) := .undefined
  writeRoots : Supplied (List String) := .undefined
  denyRoots : Supplied (List String) := .undefined
  allowReadOutsideScope : Supplied Bool := .undefined
  allowWriteOutsideScope : Supplied Bool := .undefined
  onViolation : Supplied FileScopeViolationAction := .undefined

def mergeFileScopePolicies (base : FileScopePolicy) (override : FileScopePolicyOverride) :
    FileScopePolicy where
  readRoots := override.readRoots.coalesce base.readRoots
  writeRoots := override.writeRoots.coalesce base.writeRoots
  denyRoots := override.denyRoots.coalesce base.denyRoots
  allowReadOutsideScope := override.allowReadOutsideScope.coalesce base.allowReadOutsideScope
  allowWriteOutsideScope :=
    override.allowWriteOutsideScope.coalesce base.allowWriteOutsideScope
  onViolation := override.onViolation.coalesce base.onViolation

structure ValidationPolicyOverride where
  profiles : Supplied (List (String × ValidationProfile)) := .undefined

def mergeValidationPolicies (base : ValidationPolicy) (override : ValidationPolicyOverride) :
    ValidationPolicy where
  profiles := override.profiles.coalesce base.profiles

structure RetryPolicyOverride where
  maxAttempts : Supplied Rat := .undefined
  backoffStrategy : Supplied String := .undefined
  initialBackoffSeconds : Supplied Rat := .undefined
  maxBackoffSeconds : Supplied Rat := .undefined
  reuseSamePool : Supplied Bool := .undefined
  allowPoolChangeAfterFailure : Supplied Bool := .undefined
  requireFailureSummaryPacket : Supplied Bool := .undefined

def mergeRetryPolicies (base : RetryPolicy) (override : RetryPolicyOverride) :
    RetryPolicy where
  maxAttempts := override.maxAttempts.coalesce base.maxAttempts
  backoffStrategy := override.backoffStrategy.coalesce base.backoffStrategy
  initialBackoffSeconds := override.initialBackoffSeconds.coalesce base.initialBackoffSeconds
  maxBackoffSeconds := override.maxBackoffSeconds.coalesce base.maxBackoffSeconds
  reuseSamePool := override.reuseSamePool.coalesce base.reuseSamePool
  allowPoolChangeAfterFailure :=
    override.allowPoolChangeAfterFailure.coalesce base.allowPoolChangeAfterFailure
  requireFailureSummaryPacket :=
    override.requireFailureSummaryPacket.coalesce base.requireFailureSummaryPacket

structure EscalationPolicyOverride where
  triggers : Supplied (List (String × String)) := .undefined
  routeTo : Supplied String := .undefined
  requireSummary : Supplied Bool := .undefined

def mergeEscalationPolicies (base : EscalationPolicy) (override : EscalationPolicyOverride) :
    EscalationPolicy where
  triggers := override.triggers.coalesce base.triggers
  routeTo := override.routeTo.coalesce base.routeTo
  requireSummary := override.requireSummary.coalesce base.requireSummary

structure LeasePolicyOverride where
  leaseTtlSeconds : Supplied Rat := .undefined
  heartbeatIntervalSeconds : Supplied Rat := .undefined
  missedHeartbeatThreshold : Supplied Rat := .undefined
  gracePeriodSeconds : Supplied Rat := .undefined
  reclaimAction : Supplied String := .undefined

def mergeLeasePolicies (base : LeasePolicy) (override : LeasePolicyOverride) :
    LeasePolicy where
  leaseTtlSeconds := override.leaseTtlSeconds.coalesce base.leaseTtlSeconds
  heartbeatIntervalSeconds :=
    override.heartbeatIntervalSeconds.coalesce base.heartbeatIntervalSeconds
  missedHeartbeatThreshold :=
    override.missedHeartbeatThreshold.coalesce base.missedHeartbeatThreshold
  gracePeriodSeconds := override.gracePeriodSeconds.coalesce base.gracePeriodSeconds
  reclaimAction := override.reclaimAction.coalesce base.reclaimAction

structure RetentionPolicyOverride where
  workspaceRetentionHours : Supplied Rat := .undefined
  artifactRetentionDays : Supplied Rat := .undefined
  retainFailedWorkspaces : Supplied Bool := .undefined
  retainEscalatedWorkspaces : Supplied Bool := .undefined

def mergeRetentionPolicies (base : RetentionPolicy) (override : RetentionPolicyOverride) :
    RetentionPolicy where
  workspaceRetentionHours :=
    override.workspaceRetentionHours.coalesce base.workspaceRetentionHours
  artifactRetentionDays := override.artifactRetentionDays.coalesce base.artifactRetentionDays
  retainFailedWorkspaces :=
    override.retainFailedWorkspaces.coalesce base.retainFailedWorkspaces
  retainEscalatedWorkspaces :=
    override.retainEscalatedWorkspaces.coalesce base.retainEscalatedWorkspaces

structure ReviewPolicyOverride where
  maxReviewRounds : Supplied Rat := .undefined
  requiredReviewerTypes : Supplied (List String) := .undefined
  optionalReviewerTypes : Supplied (List String) := .undefined
  leadReviewerRequired : Supplied Bool := .undefined

def mergeReviewPolicies (base : ReviewPolicy) (override : ReviewPolicyOverride) :
    ReviewPolicy where
  maxReviewRounds := override.maxReviewRounds.coalesce base.maxReviewRounds
  requiredReviewerTypes := override.requiredReviewerTypes.coalesce base.requiredReviewerTypes
  optionalReviewerTypes := override.optionalReviewerTypes.coalesce base.optionalReviewerTypes
  leadReviewerRequired := override.leadReviewerRequired.coalesce base.leadReviewerRequired

end Config
end CopilotFactory
