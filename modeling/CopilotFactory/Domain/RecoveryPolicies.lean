import Mathlib.Algebra.Group.Nat.Defs
import Mathlib.Data.Nat.Basic

/-!
# Retry and escalation policies

When a run is lost, the retry policy says whether the task may be attempted
again, and the escalation policy says what happens when it may not.
-/

namespace CopilotFactory
namespace Domain

/-!
## Retry policy
-/

inductive BackoffStrategy where
  | exponential
deriving DecidableEq

structure RetryPolicy where
  maxAttempts : Nat
  backoffStrategy : BackoffStrategy
  initialBackoffSeconds : Nat
  maxBackoffSeconds : Nat
  reuseSamePool : Bool
  allowPoolChangeAfterFailure : Bool
  requireFailureSummaryPacket : Bool

structure RetryEvaluationContext where
  retryCount : Nat
  hasFailureSummary : Bool

structure RetryEvaluation where
  eligible : Bool
  backoffSeconds : Nat
  nextAttempt : Nat
  reason : Option String := none
deriving DecidableEq

def defaultRetryPolicy : RetryPolicy where
  maxAttempts := 2
  backoffStrategy := .exponential
  initialBackoffSeconds := 60
  maxBackoffSeconds := 900
  reuseSamePool := true
  allowPoolChangeAfterFailure := true
  requireFailureSummaryPacket := true

def calculateBackoff (attempt : Nat) (policy : RetryPolicy) : Nat :=
  if attempt = 0 then
    0
  else
    min (policy.initialBackoffSeconds * 2 ^ (attempt - 1)) policy.maxBackoffSeconds

def shouldRetry (context : RetryEvaluationContext)
    (policy : RetryPolicy) : RetryEvaluation :=
  let nextAttempt := context.retryCount + 1
  if context.retryCount ≥ policy.maxAttempts then
    { eligible := false
      backoffSeconds := 0
      nextAttempt := nextAttempt
      reason := some (s!"Retry count {context.retryCount} has reached max_attempts " ++
        s!"{policy.maxAttempts}") }
  else if policy.requireFailureSummaryPacket && !context.hasFailureSummary then
    { eligible := false
      backoffSeconds := 0
      nextAttempt := nextAttempt
      reason := some "Failure summary packet is required but not present" }
  else
    { eligible := true
      backoffSeconds := calculateBackoff nextAttempt policy
      nextAttempt := nextAttempt }

theorem shouldRetry_eligible_iff (context : RetryEvaluationContext) (policy : RetryPolicy) :
    (shouldRetry context policy).eligible = true <->
      context.retryCount < policy.maxAttempts ∧
        (policy.requireFailureSummaryPacket = true -> context.hasFailureSummary = true) := by
  unfold shouldRetry
  by_cases hmax : context.retryCount ≥ policy.maxAttempts
  · simp [hmax, Nat.not_lt_of_le hmax]
  · cases policy.requireFailureSummaryPacket <;> cases context.hasFailureSummary <;>
      simp [hmax, Nat.lt_of_not_le hmax]

/-- The backoff of a retry doubles with every attempt, up to the maximum. -/
theorem shouldRetry_backoffSeconds {context : RetryEvaluationContext} {policy : RetryPolicy}
    (h : (shouldRetry context policy).eligible = true) :
    (shouldRetry context policy).backoffSeconds =
      min (policy.initialBackoffSeconds *
        2 ^ ((shouldRetry context policy).nextAttempt - 1)) policy.maxBackoffSeconds := by
  unfold shouldRetry at h ⊢
  dsimp only at h ⊢
  split
  · rename_i hmax
    rw [if_pos hmax] at h
    cases h
  · rename_i hmax
    rw [if_neg hmax] at h
    split
    · rename_i hsummary
      rw [if_pos hsummary] at h
      cases h
    · unfold calculateBackoff
      rw [if_neg (Nat.succ_ne_zero context.retryCount)]

/-!
## Escalation policy
-/

inductive EscalationTrigger where
  | maxRetryExceeded
  | maxReviewRoundsExceeded
  | policyViolation
  | mergeFailureAfterRetries
  | heartbeatTimeout
  | schemaValidationFailure
  | repeatedSchemaFailures
deriving DecidableEq

/-- The actions a trigger may carry.  The last one occurs only in the default policy,
which casts the text "fail_and_escalate" to an action. -/
inductive EscalationTriggerAction where
  | escalate
  | failThenEscalate
  | retryOrEscalate
  | disableProfileAndEscalate
  | failAndEscalate
deriving DecidableEq

def EscalationTriggerAction.label : EscalationTriggerAction -> String
  | .escalate => "escalate"
  | .failThenEscalate => "fail_then_escalate"
  | .retryOrEscalate => "retry_or_escalate"
  | .disableProfileAndEscalate => "disable_profile_and_escalate"
  | .failAndEscalate => "fail_and_escalate"

structure EscalationPolicy where
  /-- The configured action of a trigger, if any. -/
  triggers : EscalationTrigger -> Option EscalationTriggerAction
  routeTo : String
  requireSummary : Bool

structure EscalationEvaluationContext where
  trigger : EscalationTrigger
  retryCount : Option Nat := none
  maxAttempts : Option Nat := none
  reviewRound : Option Nat := none
  maxReviewRounds : Option Nat := none
  schemaFailureCount : Option Nat := none
  schemaFailureThreshold : Option Nat := none

structure EscalationEvaluation where
  shouldEscalate : Bool
  action : EscalationTriggerAction
  routeTo : String
  requireSummary : Bool
  reason : String
deriving DecidableEq

def defaultEscalationPolicy : EscalationPolicy where
  triggers := fun
    | .maxRetryExceeded => some .escalate
    | .maxReviewRoundsExceeded => some .escalate
    | .policyViolation => some .escalate
    | .mergeFailureAfterRetries => some .escalate
    | .heartbeatTimeout => some .retryOrEscalate
    | .schemaValidationFailure => some .failAndEscalate
    | .repeatedSchemaFailures => some .disableProfileAndEscalate
  routeTo := "operator-queue"
  requireSummary := true

/-- Whether a counter reached its limit.  Missing information counts as reached. -/
def limitReached (count limit : Option Nat) : Bool :=
  match count, limit with
  | some c, some l => c ≥ l
  | _, _ => true

def isMaxRetryExceeded (context : EscalationEvaluationContext) : Bool :=
  limitReached context.retryCount context.maxAttempts

def isMaxReviewRoundsExceeded (context : EscalationEvaluationContext) : Bool :=
  limitReached context.reviewRound context.maxReviewRounds

def isRepeatedSchemaFailure (context : EscalationEvaluationContext) : Bool :=
  limitReached context.schemaFailureCount context.schemaFailureThreshold

/-- A number in a text; an absent one prints as `undefined`. -/
def printNumber : Option Nat -> String
  | some n => toString n
  | none => "undefined"

def shouldEscalate (context : EscalationEvaluationContext)
    (policy : EscalationPolicy) : EscalationEvaluation :=
  let triggerAction := (policy.triggers context.trigger).getD .escalate
  let evaluation (fires : Bool) (reason : String) : EscalationEvaluation :=
    { shouldEscalate := fires
      action := triggerAction
      routeTo := policy.routeTo
      requireSummary := policy.requireSummary
      reason := reason }
  -- The three counted triggers fire only once their limit is reached.
  let counted (reached : Bool) (what limit : String) (count max : Option Nat) :=
    if reached then
      evaluation true s!"{what} {printNumber count} reached {limit} {printNumber max}"
    else
      evaluation false
        s!"{what} {printNumber count} has not reached {limit} {printNumber max}"
  match context.trigger with
  | .maxRetryExceeded =>
      counted (isMaxRetryExceeded context) "Retry count" "max_attempts"
        context.retryCount context.maxAttempts
  | .maxReviewRoundsExceeded =>
      counted (isMaxReviewRoundsExceeded context) "Review round" "max_review_rounds"
        context.reviewRound context.maxReviewRounds
  | .repeatedSchemaFailures =>
      counted (isRepeatedSchemaFailure context) "Schema failure count" "threshold"
        context.schemaFailureCount context.schemaFailureThreshold
  | .policyViolation =>
      evaluation true "Security-sensitive policy violation detected"
  | .mergeFailureAfterRetries =>
      evaluation true "Merge failed after exhausting retries"
  | .heartbeatTimeout =>
      evaluation true "Worker heartbeat timeout detected"
  | .schemaValidationFailure =>
      evaluation true "Structured output packet failed schema validation"

end Domain
end CopilotFactory
