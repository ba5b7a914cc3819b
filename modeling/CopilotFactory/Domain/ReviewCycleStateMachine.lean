import CopilotFactory.Foundations.GuardedMachine

/-!
# Review cycle state machine

The happy path is NOT_STARTED → ROUTED → IN_PROGRESS → CONSOLIDATING → APPROVED.  A
cycle is never tried again: rework on a task gets a cycle of its own.
-/

namespace CopilotFactory
namespace Domain

open Foundations

inductive ReviewCycleStatus where
  | notStarted
  | routed
  | inProgress
  | awaitingRequiredReviews
  | consolidating
  | approved
  | rejected
  | escalated
deriving DecidableEq

def ReviewCycleStatus.label : ReviewCycleStatus -> String
  | .notStarted => "NOT_STARTED"
  | .routed => "ROUTED"
  | .inProgress => "IN_PROGRESS"
  | .awaitingRequiredReviews => "AWAITING_REQUIRED_REVIEWS"
  | .consolidating => "CONSOLIDATING"
  | .approved => "APPROVED"
  | .rejected => "REJECTED"
  | .escalated => "ESCALATED"

/-- The decisions that the review cycle machine knows.  A rejection has another name
here than in the packet of the lead reviewer. -/
inductive ConsolidatedDecision where
  | approved
  | approvedWithFollowUp
  | rejected
  | escalated
deriving DecidableEq

structure ReviewCycleTransitionContext where
  routingDecisionEmitted : Flag := none
  reviewStarted : Flag := none
  awaitingRequiredReviews : Flag := none
  allRequiredReviewsComplete : Flag := none
  leadReviewDecision : Option ConsolidatedDecision := none
  hasEscalationTrigger : Flag := none

namespace ReviewCycleState

def guardNotStartedToRouted (ctx : ReviewCycleTransitionContext) : TransitionResult :=
  requireFlag ctx.routingDecisionEmitted
    "Cannot transition NOT_STARTED → ROUTED: routing decision not emitted"

def guardRoutedToInProgress (ctx : ReviewCycleTransitionContext) : TransitionResult :=
  requireFlag ctx.reviewStarted
    "Cannot transition ROUTED → IN_PROGRESS: no review has started"

def guardInProgressToAwaitingRequiredReviews
    (ctx : ReviewCycleTransitionContext) : TransitionResult :=
  requireFlag ctx.awaitingRequiredReviews
    ("Cannot transition IN_PROGRESS → AWAITING_REQUIRED_REVIEWS: " ++
      "not awaiting required reviews")

def guardToConsolidating (source : String)
    (ctx : ReviewCycleTransitionContext) : TransitionResult :=
  requireFlag ctx.allRequiredReviewsComplete
    (s!"Cannot transition {source} → CONSOLIDATING: " ++
      "not all required reviews are complete")

def guardInProgressToConsolidating : ReviewCycleTransitionContext -> TransitionResult :=
  guardToConsolidating "IN_PROGRESS"

def guardAwaitingToConsolidating : ReviewCycleTransitionContext -> TransitionResult :=
  guardToConsolidating "AWAITING_REQUIRED_REVIEWS"

def guardConsolidatingToApproved (ctx : ReviewCycleTransitionContext) : TransitionResult :=
  if ctx.leadReviewDecision ≠ some .approved ∧
      ctx.leadReviewDecision ≠ some .approvedWithFollowUp then
    .reject ("Cannot transition CONSOLIDATING → APPROVED: " ++
      "lead reviewer decision must be 'approved' or 'approved_with_follow_up'")
  else
    .valid

def guardConsolidatingToRejected (ctx : ReviewCycleTransitionContext) : TransitionResult :=
  if ctx.leadReviewDecision ≠ some .rejected then
    .reject ("Cannot transition CONSOLIDATING → REJECTED: " ++
      "lead reviewer decision must be 'rejected'")
  else
    .valid

def guardConsolidatingToEscalated (ctx : ReviewCycleTransitionContext) : TransitionResult :=
  if ctx.leadReviewDecision ≠ some .escalated ∧ ctx.hasEscalationTrigger ≠ some true then
    .reject ("Cannot transition CONSOLIDATING → ESCALATED: " ++
      "requires lead reviewer 'escalated' decision or escalation trigger")
  else
    .valid

def guardActiveToEscalated (source : String)
    (ctx : ReviewCycleTransitionContext) : TransitionResult :=
  requireFlag ctx.hasEscalationTrigger
    s!"Cannot transition {source} → ESCALATED: no escalation trigger"

def guardInProgressToEscalated : ReviewCycleTransitionContext -> TransitionResult :=
  guardActiveToEscalated "IN_PROGRESS"

def guardAwaitingToEscalated : ReviewCycleTransitionContext -> TransitionResult :=
  guardActiveToEscalated "AWAITING_REQUIRED_REVIEWS"

def transitionGuards :
    ReviewCycleStatus -> ReviewCycleStatus ->
      Option (ReviewCycleTransitionContext -> TransitionResult)
  -- Happy path
  | .notStarted, .routed => some guardNotStartedToRouted
  | .routed, .inProgress => some guardRoutedToInProgress
  | .inProgress, .consolidating => some guardInProgressToConsolidating
  | .consolidating, .approved => some guardConsolidatingToApproved
  -- Awaiting required reviews path
  | .inProgress, .awaitingRequiredReviews => some guardInProgressToAwaitingRequiredReviews
  | .awaitingRequiredReviews, .consolidating => some guardAwaitingToConsolidating
  -- Rejection path
  | .consolidating, .rejected => some guardConsolidatingToRejected
  -- Escalation paths
  | .consolidating, .escalated => some guardConsolidatingToEscalated
  | .inProgress, .escalated => some guardInProgressToEscalated
  | .awaitingRequiredReviews, .escalated => some guardAwaitingToEscalated
  | _, _ => none

def machine : GuardedMachine ReviewCycleStatus ReviewCycleTransitionContext where
  subject := "review cycle"
  label := ReviewCycleStatus.label
  guard := transitionGuards

end ReviewCycleState

def isTerminalReviewCycleState (state : ReviewCycleStatus) : Bool :=
  state ∈ [ReviewCycleStatus.approved, ReviewCycleStatus.rejected,
    ReviewCycleStatus.escalated]

def validateReviewCycleTransition (current target : ReviewCycleStatus)
    (context : ReviewCycleTransitionContext) : TransitionResult :=
  ReviewCycleState.machine.validate current target context

/-!
## What the machine permits
-/

theorem guard_of_validateReviewCycle {current target : ReviewCycleStatus}
    {ctx : ReviewCycleTransitionContext}
    (h : validateReviewCycleTransition current target ctx = .valid) :
    exists guard, ReviewCycleState.transitionGuards current target = some guard ∧
      guard ctx = .valid :=
  GuardedMachine.guard_of_validate h

theorem reviewCycle_not_terminal_of_validate {current target : ReviewCycleStatus}
    {ctx : ReviewCycleTransitionContext}
    (h : validateReviewCycleTransition current target ctx = .valid) :
    isTerminalReviewCycleState current = false := by
  rcases guard_of_validateReviewCycle h with ⟨guard, hguard, _⟩
  cases current <;> first | rfl | cases hguard

end Domain
end CopilotFactory
