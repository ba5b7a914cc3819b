import CopilotFactory.Foundations.GuardedMachine

/-!
# Task state machine

The task lifecycle with its explicit transitions and the two wildcards
`* → ESCALATED` and `* → CANCELLED`.  The guards read a context that the caller
fills in: the machine itself never checks that a flag is true of anything.
-/

namespace CopilotFactory
namespace Domain

open Foundations

inductive TaskStatus where
  | backlog
  | ready
  | blocked
  | assigned
  | inDevelopment
  | devComplete
  | inReview
  | changesRequested
  | approved
  | queuedForMerge
  | merging
  | postMergeValidation
  | done
  | failed
  | escalated
  | cancelled
deriving DecidableEq

def TaskStatus.label : TaskStatus -> String
  | .backlog => "BACKLOG"
  | .ready => "READY"
  | .blocked => "BLOCKED"
  | .assigned => "ASSIGNED"
  | .inDevelopment => "IN_DEVELOPMENT"
  | .devComplete => "DEV_COMPLETE"
  | .inReview => "IN_REVIEW"
  | .changesRequested => "CHANGES_REQUESTED"
  | .approved => "APPROVED"
  | .queuedForMerge => "QUEUED_FOR_MERGE"
  | .merging => "MERGING"
  | .postMergeValidation => "POST_MERGE_VALIDATION"
  | .done => "DONE"
  | .failed => "FAILED"
  | .escalated => "ESCALATED"
  | .cancelled => "CANCELLED"

theorem TaskStatus.label_injective {a b : TaskStatus} (h : a.label = b.label) : a = b := by
  cases a <;> cases b <;> first | rfl | exact absurd h (by decide)

inductive LeadReviewDecision where
  | approved
  | approvedWithFollowUp
  | changesRequested
  | escalated
deriving DecidableEq

inductive MergeConflictClassification where
  | reworkable
  | nonReworkable
deriving DecidableEq

structure TransitionContext where
  allDependenciesResolved : Flag := none
  hasPolicyBlockers : Flag := none
  hasBlockers : Flag := none
  leaseAcquired : Flag := none
  hasHeartbeat : Flag := none
  hasDevResultPacket : Flag := none
  requiredValidationsPassed : Flag := none
  hasReviewRoutingDecision : Flag := none
  leadReviewDecision : Option LeadReviewDecision := none
  mergeSuccessful : Flag := none
  mergeConflictClassification : Option MergeConflictClassification := none
  postMergeValidationPassed : Flag := none
  hasUnrecoverableFailure : Flag := none
  leaseTimedOutNoRetry : Flag := none
  leaseReclaimedRetryEligible : Flag := none
  isOperator : Flag := none
  hasEscalationTrigger : Flag := none
deriving DecidableEq

namespace TaskState

/-- The dependency check that BACKLOG → READY and BLOCKED → READY share. -/
def guardToReady (source : String) (ctx : TransitionContext) : TransitionResult :=
  if ctx.allDependenciesResolved ≠ some true then
    .reject (s!"Cannot transition {source} → READY: " ++
      "not all hard-block dependencies are resolved")
  else if ctx.hasPolicyBlockers = some true then
    .reject s!"Cannot transition {source} → READY: policy blockers remain"
  else
    .valid

def guardBacklogToReady : TransitionContext -> TransitionResult :=
  guardToReady "BACKLOG"

def guardBacklogToBlocked (ctx : TransitionContext) : TransitionResult :=
  if ctx.hasBlockers ≠ some true ∧ ctx.hasPolicyBlockers ≠ some true then
    .reject ("Cannot transition BACKLOG → BLOCKED: " ++
      "no hard-block dependency or policy blocker detected")
  else
    .valid

def guardBlockedToReady : TransitionContext -> TransitionResult :=
  guardToReady "BLOCKED"

def guardReadyToAssigned (ctx : TransitionContext) : TransitionResult :=
  requireFlag ctx.leaseAcquired "Cannot transition READY → ASSIGNED: lease not acquired"

def guardAssignedToInDevelopment (ctx : TransitionContext) : TransitionResult :=
  requireFlag ctx.hasHeartbeat
    "Cannot transition ASSIGNED → IN_DEVELOPMENT: no worker heartbeat received"

def guardInDevelopmentToDevComplete (ctx : TransitionContext) : TransitionResult :=
  if ctx.hasDevResultPacket ≠ some true then
    .reject ("Cannot transition IN_DEVELOPMENT → DEV_COMPLETE: " ++
      "no schema-valid DevResultPacket received")
  else if ctx.requiredValidationsPassed ≠ some true then
    .reject ("Cannot transition IN_DEVELOPMENT → DEV_COMPLETE: " ++
      "required validations have not passed")
  else
    .valid

def guardInDevelopmentToFailed (ctx : TransitionContext) : TransitionResult :=
  if ctx.hasUnrecoverableFailure ≠ some true ∧ ctx.leaseTimedOutNoRetry ≠ some true then
    .reject ("Cannot transition IN_DEVELOPMENT → FAILED: " ++
      "no unrecoverable failure and lease has not timed out without retry")
  else
    .valid

def guardInDevelopmentToReady (ctx : TransitionContext) : TransitionResult :=
  requireFlag ctx.leaseReclaimedRetryEligible
    ("Cannot transition IN_DEVELOPMENT → READY: " ++
      "lease has not been reclaimed with retry eligibility")

def guardAssignedToReady (ctx : TransitionContext) : TransitionResult :=
  requireFlag ctx.leaseReclaimedRetryEligible
    ("Cannot transition ASSIGNED → READY: " ++
      "lease has not been reclaimed with retry eligibility")

def guardAssignedToFailed (ctx : TransitionContext) : TransitionResult :=
  requireFlag ctx.leaseTimedOutNoRetry
    "Cannot transition ASSIGNED → FAILED: lease has not timed out without retry"

def guardDevCompleteToInReview (ctx : TransitionContext) : TransitionResult :=
  requireFlag ctx.hasReviewRoutingDecision
    "Cannot transition DEV_COMPLETE → IN_REVIEW: no review routing decision emitted"

def guardInReviewToChangesRequested (ctx : TransitionContext) : TransitionResult :=
  if ctx.leadReviewDecision ≠ some .changesRequested ∧
      ctx.leadReviewDecision ≠ some .escalated then
    .reject ("Cannot transition IN_REVIEW → CHANGES_REQUESTED: " ++
      "lead reviewer decision must be 'changes_requested' or 'escalated'")
  else
    .valid

def guardInReviewToApproved (ctx : TransitionContext) : TransitionResult :=
  if ctx.leadReviewDecision ≠ some .approved ∧
      ctx.leadReviewDecision ≠ some .approvedWithFollowUp then
    .reject ("Cannot transition IN_REVIEW → APPROVED: " ++
      "lead reviewer decision must be 'approved' or 'approved_with_follow_up'")
  else
    .valid

def guardChangesRequestedToAssigned (ctx : TransitionContext) : TransitionResult :=
  requireFlag ctx.leaseAcquired
    "Cannot transition CHANGES_REQUESTED → ASSIGNED: new lease not acquired for rework"

def guardApprovedToQueuedForMerge (_ctx : TransitionContext) : TransitionResult :=
  .valid

def guardQueuedForMergeToMerging (_ctx : TransitionContext) : TransitionResult :=
  .valid

def guardMergingToPostMergeValidation (ctx : TransitionContext) : TransitionResult :=
  requireFlag ctx.mergeSuccessful
    ("Cannot transition MERGING → POST_MERGE_VALIDATION: " ++
      "merge did not complete successfully")

def guardMergingToChangesRequested (ctx : TransitionContext) : TransitionResult :=
  if ctx.mergeConflictClassification ≠ some .reworkable then
    .reject ("Cannot transition MERGING → CHANGES_REQUESTED: " ++
      "merge conflict not classified as reworkable")
  else
    .valid

def guardMergingToFailed (ctx : TransitionContext) : TransitionResult :=
  if ctx.mergeConflictClassification ≠ some .nonReworkable then
    .reject ("Cannot transition MERGING → FAILED: " ++
      "merge conflict not classified as non-reworkable")
  else
    .valid

def guardPostMergeValidationToDone (ctx : TransitionContext) : TransitionResult :=
  requireFlag ctx.postMergeValidationPassed
    ("Cannot transition POST_MERGE_VALIDATION → DONE: " ++
      "required post-merge checks have not passed")

-- An absent flag is rejected here too: only an explicit failure counts.
def guardPostMergeValidationToFailed (ctx : TransitionContext) : TransitionResult :=
  if ctx.postMergeValidationPassed ≠ some false then
    .reject ("Cannot transition POST_MERGE_VALIDATION → FAILED: " ++
      "post-merge validation has not explicitly failed")
  else
    .valid

def guardToEscalated (ctx : TransitionContext) : TransitionResult :=
  if ctx.isOperator ≠ some true ∧ ctx.hasEscalationTrigger ≠ some true then
    .reject ("Cannot transition to ESCALATED: " ++
      "requires operator action or escalation trigger")
  else
    .valid

def guardToCancelled (ctx : TransitionContext) : TransitionResult :=
  requireFlag ctx.isOperator "Cannot transition to CANCELLED: requires operator action"

def guardEscalatedToAssigned (ctx : TransitionContext) : TransitionResult :=
  if ctx.isOperator ≠ some true then
    .reject "Cannot transition ESCALATED → ASSIGNED: requires operator action"
  else if ctx.leaseAcquired ≠ some true then
    .reject "Cannot transition ESCALATED → ASSIGNED: new lease not acquired"
  else
    .valid

def guardEscalatedToCancelled (ctx : TransitionContext) : TransitionResult :=
  requireFlag ctx.isOperator
    "Cannot transition ESCALATED → CANCELLED: requires operator action"

def guardEscalatedToDone (ctx : TransitionContext) : TransitionResult :=
  requireFlag ctx.isOperator
    "Cannot transition ESCALATED → DONE: requires operator action"

/-!
## Transition map
-/

def transitionGuards :
    TaskStatus -> TaskStatus -> Option (TransitionContext -> TransitionResult)
  | .backlog, .ready => some guardBacklogToReady
  | .backlog, .blocked => some guardBacklogToBlocked
  | .blocked, .ready => some guardBlockedToReady
  | .ready, .assigned => some guardReadyToAssigned
  | .assigned, .inDevelopment => some guardAssignedToInDevelopment
  | .assigned, .ready => some guardAssignedToReady
  | .assigned, .failed => some guardAssignedToFailed
  | .inDevelopment, .devComplete => some guardInDevelopmentToDevComplete
  | .inDevelopment, .failed => some guardInDevelopmentToFailed
  | .inDevelopment, .ready => some guardInDevelopmentToReady
  | .devComplete, .inReview => some guardDevCompleteToInReview
  | .inReview, .changesRequested => some guardInReviewToChangesRequested
  | .inReview, .approved => some guardInReviewToApproved
  | .changesRequested, .assigned => some guardChangesRequestedToAssigned
  | .approved, .queuedForMerge => some guardApprovedToQueuedForMerge
  | .queuedForMerge, .merging => some guardQueuedForMergeToMerging
  | .merging, .postMergeValidation => some guardMergingToPostMergeValidation
  | .merging, .changesRequested => some guardMergingToChangesRequested
  | .merging, .failed => some guardMergingToFailed
  | .postMergeValidation, .done => some guardPostMergeValidationToDone
  | .postMergeValidation, .failed => some guardPostMergeValidationToFailed
  | .escalated, .assigned => some guardEscalatedToAssigned
  | .escalated, .cancelled => some guardEscalatedToCancelled
  | .escalated, .done => some guardEscalatedToDone
  | _, _ => none

end TaskState

def isTerminalState (state : TaskStatus) : Bool :=
  state ∈ [TaskStatus.done, TaskStatus.failed, TaskStatus.cancelled]

namespace TaskState

def wildcardEscalationSource (state : TaskStatus) : Bool :=
  !isTerminalState state && state ≠ .escalated

def wildcardCancellationSource (state : TaskStatus) : Bool :=
  !isTerminalState state

end TaskState

open TaskState in
def validateTransition (current target : TaskStatus)
    (context : TransitionContext) : TransitionResult :=
  if current = target then
    .reject s!"Cannot transition from {current.label} to itself"
  else
    match transitionGuards current target with
    | some guard => guard context
    | none =>
        if target = .escalated then
          if wildcardEscalationSource current then
            guardToEscalated context
          else
            .reject (s!"Cannot transition {current.label} → ESCALATED: " ++
              s!"{current.label} is a terminal state")
        else if target = .cancelled ∧ current ≠ .escalated then
          if wildcardCancellationSource current then
            guardToCancelled context
          else
            .reject (s!"Cannot transition {current.label} → CANCELLED: " ++
              s!"{current.label} is a terminal state")
        else
          .reject (s!"Invalid transition: {current.label} → {target.label}" ++
            " is not a valid task state transition")

namespace TaskState

/-!
## What the machine permits

Whatever the context says, a validated transition is one of the pairs of the
map or one of the two wildcards.
-/

variable {current : TaskStatus} {ctx : TransitionContext}

theorem leaseAcquired_of_validate_assigned
    (h : validateTransition current .assigned ctx = .valid) :
    ctx.leaseAcquired = some true ∧
      (current = .ready ∨ current = .changesRequested ∨ current = .escalated) := by
  cases current with
  | ready =>
      exact ⟨requireFlag_eq_valid.mp h, Or.inl rfl⟩
  | changesRequested =>
      exact ⟨requireFlag_eq_valid.mp h, Or.inr (Or.inl rfl)⟩
  | escalated =>
      have hguard : guardEscalatedToAssigned ctx = .valid := h
      unfold guardEscalatedToAssigned at hguard
      split at hguard
      · cases hguard
      · split at hguard
        · cases hguard
        · rename_i _ hlease
          exact ⟨not_not.mp hlease, Or.inr (Or.inr rfl)⟩
  | _ =>
      cases h

theorem assigned_of_validate_inDevelopment
    (h : validateTransition current .inDevelopment ctx = .valid) : current = .assigned := by
  cases current with
  | assigned =>
      rfl
  | _ =>
      cases h

/-- A task reaches DEV_COMPLETE only from IN_DEVELOPMENT, by a caller that asserts a
packet and its validations. -/
theorem evidence_of_validate_devComplete
    (h : validateTransition current .devComplete ctx = .valid) :
    current = .inDevelopment ∧ ctx.hasDevResultPacket = some true ∧
      ctx.requiredValidationsPassed = some true := by
  cases current with
  | inDevelopment =>
      have hguard : guardInDevelopmentToDevComplete ctx = .valid := h
      unfold guardInDevelopmentToDevComplete at hguard
      split at hguard
      · cases hguard
      · split at hguard
        · cases hguard
        · rename_i hpacket hvalidations
          exact ⟨rfl, not_not.mp hpacket, not_not.mp hvalidations⟩
  | _ =>
      cases h

end TaskState

end Domain
end CopilotFactory
