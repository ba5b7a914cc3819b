import CopilotFactory.Foundations.GuardedMachine

/-!
# Merge queue item state machine

The happy path is ENQUEUED → PREPARING → REBASING → VALIDATING → MERGING → MERGED.
A failed rebase, validation or merge ends in FAILED or returns the item to the
queue through REQUEUED.
-/

namespace CopilotFactory
namespace Domain

open Foundations

inductive MergeQueueItemStatus where
  | enqueued
  | preparing
  | rebasing
  | validating
  | merging
  | merged
  | requeued
  | failed
deriving DecidableEq

def MergeQueueItemStatus.label : MergeQueueItemStatus -> String
  | .enqueued => "ENQUEUED"
  | .preparing => "PREPARING"
  | .rebasing => "REBASING"
  | .validating => "VALIDATING"
  | .merging => "MERGING"
  | .merged => "MERGED"
  | .requeued => "REQUEUED"
  | .failed => "FAILED"

structure MergeQueueItemTransitionContext where
  preparationStarted : Flag := none
  workspaceReady : Flag := none
  rebaseSuccessful : Flag := none
  rebaseFailed : Flag := none
  conflictReworkable : Flag := none
  validationPassed : Flag := none
  validationFailed : Flag := none
  failureTransient : Flag := none
  mergeSuccessful : Flag := none
  mergeFailed : Flag := none
  preempted : Flag := none

namespace MergeQueueItemState

def guardEnqueuedToPreparing (ctx : MergeQueueItemTransitionContext) : TransitionResult :=
  requireFlag ctx.preparationStarted
    "Cannot transition ENQUEUED → PREPARING: preparation not started"

def guardPreparingToRebasing (ctx : MergeQueueItemTransitionContext) : TransitionResult :=
  requireFlag ctx.workspaceReady
    "Cannot transition PREPARING → REBASING: workspace not ready"

def guardRebasingToValidating
    (ctx : MergeQueueItemTransitionContext) : TransitionResult :=
  requireFlag ctx.rebaseSuccessful
    "Cannot transition REBASING → VALIDATING: rebase not successful"

def guardRebasingToFailed (ctx : MergeQueueItemTransitionContext) : TransitionResult :=
  requireFlag ctx.rebaseFailed
    "Cannot transition REBASING → FAILED: rebase has not failed"

def guardRebasingToRequeued (ctx : MergeQueueItemTransitionContext) : TransitionResult :=
  if ctx.rebaseFailed ≠ some true then
    .reject "Cannot transition REBASING → REQUEUED: rebase has not failed"
  else if ctx.conflictReworkable ≠ some true then
    .reject "Cannot transition REBASING → REQUEUED: conflict is not reworkable"
  else
    .valid

def guardValidatingToMerging (ctx : MergeQueueItemTransitionContext) : TransitionResult :=
  requireFlag ctx.validationPassed
    "Cannot transition VALIDATING → MERGING: validation not passed"

def guardValidatingToFailed (ctx : MergeQueueItemTransitionContext) : TransitionResult :=
  requireFlag ctx.validationFailed
    "Cannot transition VALIDATING → FAILED: validation has not failed"

def guardValidatingToRequeued
    (ctx : MergeQueueItemTransitionContext) : TransitionResult :=
  let transientFailure :=
    ctx.validationFailed = some true ∧ ctx.failureTransient = some true
  let preempted := ctx.preempted = some true
  if ¬ transientFailure ∧ ¬ preempted then
    .reject ("Cannot transition VALIDATING → REQUEUED: " ++
      "requires transient validation failure or preemption")
  else
    .valid

def guardMergingToMerged (ctx : MergeQueueItemTransitionContext) : TransitionResult :=
  requireFlag ctx.mergeSuccessful
    "Cannot transition MERGING → MERGED: merge not successful"

def guardMergingToFailed (ctx : MergeQueueItemTransitionContext) : TransitionResult :=
  requireFlag ctx.mergeFailed
    "Cannot transition MERGING → FAILED: merge has not failed"

def guardMergingToRequeued (ctx : MergeQueueItemTransitionContext) : TransitionResult :=
  if ctx.mergeFailed ≠ some true then
    .reject "Cannot transition MERGING → REQUEUED: merge has not failed"
  else if ctx.failureTransient ≠ some true then
    .reject "Cannot transition MERGING → REQUEUED: failure is not transient"
  else
    .valid

def guardRequeuedToEnqueued (_ctx : MergeQueueItemTransitionContext) : TransitionResult :=
  .valid

def transitionGuards :
    MergeQueueItemStatus -> MergeQueueItemStatus ->
      Option (MergeQueueItemTransitionContext -> TransitionResult)
  -- Happy path
  | .enqueued, .preparing => some guardEnqueuedToPreparing
  | .preparing, .rebasing => some guardPreparingToRebasing
  | .rebasing, .validating => some guardRebasingToValidating
  | .validating, .merging => some guardValidatingToMerging
  | .merging, .merged => some guardMergingToMerged
  -- Rebase failure paths
  | .rebasing, .failed => some guardRebasingToFailed
  | .rebasing, .requeued => some guardRebasingToRequeued
  -- Validation failure paths
  | .validating, .failed => some guardValidatingToFailed
  | .validating, .requeued => some guardValidatingToRequeued
  -- Merge failure paths
  | .merging, .failed => some guardMergingToFailed
  | .merging, .requeued => some guardMergingToRequeued
  -- Requeue and re-enqueue
  | .requeued, .enqueued => some guardRequeuedToEnqueued
  | _, _ => none

def machine :
    GuardedMachine MergeQueueItemStatus MergeQueueItemTransitionContext where
  subject := "merge queue item"
  label := MergeQueueItemStatus.label
  guard := transitionGuards

end MergeQueueItemState

def validateMergeQueueItemTransition (current target : MergeQueueItemStatus)
    (context : MergeQueueItemTransitionContext) : TransitionResult :=
  MergeQueueItemState.machine.validate current target context

/-- MERGED and FAILED.  REQUEUED is not terminal. -/
def isTerminalMergeQueueItemState (state : MergeQueueItemStatus) : Bool :=
  state ∈ [MergeQueueItemStatus.merged, MergeQueueItemStatus.failed]

end Domain
end CopilotFactory
