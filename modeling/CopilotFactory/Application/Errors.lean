import CopilotFactory.Domain.TaskStateMachine
import CopilotFactory.Foundations.Texts

/-!
# Service errors

The errors thrown by the services, with the data they carry and the texts they
print.
-/

namespace CopilotFactory
namespace Application

structure SchemaIssue where
  path : List String
  message : String
deriving DecidableEq

def SchemaIssue.summary (issue : SchemaIssue) : String :=
  ".".intercalate issue.path ++ ": " ++ issue.message

inductive ServiceError where
  | entityNotFound (entityType entityId : String)
  | invalidTransition (entityType entityId fromStatus toStatus reason : String)
  | versionConflict (entityType entityId expectedVersion : String)
  | exclusivityViolation (taskId existingLeaseId : String)
  | leaseNotActive (leaseId currentStatus : String)
  | taskNotReadyForLease (taskId currentStatus : String)
  | leaseNotReclaimable (leaseId currentStatus : String)
  | workerMismatch (leaseId expectedWorkerId actualWorkerId : String)
  | leaseNotAcceptingResults (leaseId currentStatus : String)
  /-- Both dates are in milliseconds. -/
  | gracePeriodExpired (leaseId : String) (graceDeadline receivedAt : Int)
  | mergeItemNotPreparing (mergeQueueItemId currentStatus : String)
  | taskNotQueuedForMerge (taskId currentStatus : String)
  | taskNotApproved (taskId currentStatus : String)
  | duplicateEnqueue (taskId existingItemId : String)
  | selfDependency (taskId : String)
  | duplicateDependency (taskId dependsOnTaskId : String)
  | cyclicDependency (taskId dependsOnTaskId : String) (path : List String)
  /-- A lead review decision packet that its schema rejects. -/
  | schemaValidation (issues : List SchemaIssue)
  /-- A primary or foreign key constraint of the database. -/
  | constraintViolation (table column : String)
  /-- The HTTP errors of the operator endpoints. -/
  | notFoundException (message : String)
  | badRequestException (message : String)
  | conflictException (message : String)
deriving DecidableEq

def ServiceError.message : ServiceError -> String
  | .entityNotFound entityType entityId =>
      s!"{entityType} not found: {entityId}"
  | .invalidTransition entityType entityId fromStatus toStatus reason =>
      let base := s!"Invalid transition for {entityType} {entityId}: " ++
        s!"{fromStatus} → {toStatus}"
      if reason = "" then base else s!"{base} — {reason}"
  | .versionConflict entityType entityId expectedVersion =>
      s!"Version conflict for {entityType} {entityId}: " ++
        s!"expected version {expectedVersion} is stale"
  | .exclusivityViolation taskId existingLeaseId =>
      s!"Lease exclusivity violation for Task {taskId}: " ++
        s!"active lease {existingLeaseId} already exists"
  | .leaseNotActive leaseId currentStatus =>
      s!"Lease {leaseId} is not in an active state for heartbeat reception: " ++
        s!"current status is {currentStatus}"
  | .taskNotReadyForLease taskId currentStatus =>
      s!"Task {taskId} is not eligible for lease acquisition: " ++
        s!"current status is {currentStatus}"
  | .leaseNotReclaimable leaseId currentStatus =>
      s!"Lease {leaseId} is not in a reclaimable state: " ++
        s!"current status is {currentStatus}"
  | .workerMismatch leaseId expectedWorkerId actualWorkerId =>
      s!"Worker mismatch for lease {leaseId}: " ++
        s!"expected {expectedWorkerId}, got {actualWorkerId}"
  | .leaseNotAcceptingResults leaseId currentStatus =>
      s!"Lease {leaseId} is not accepting results: current status is {currentStatus}"
  | .gracePeriodExpired leaseId graceDeadline receivedAt =>
      s!"Grace period expired for lease {leaseId}: " ++
        "deadline was " ++ Foundations.toISOString graceDeadline ++
        ", result received at " ++ Foundations.toISOString receivedAt
  | .mergeItemNotPreparing mergeQueueItemId currentStatus =>
      s!"Merge queue item {mergeQueueItemId} is not in PREPARING state " ++
        s!"(current: {currentStatus})"
  | .taskNotQueuedForMerge taskId currentStatus =>
      s!"Task {taskId} is not in QUEUED_FOR_MERGE state (current: {currentStatus})"
  | .taskNotApproved taskId currentStatus =>
      s!"Task {taskId} is not in APPROVED state (current: {currentStatus}) " ++
        "— cannot enqueue for merge"
  | .duplicateEnqueue taskId existingItemId =>
      s!"Task {taskId} is already enqueued for merge as item {existingItemId}"
  | .selfDependency taskId =>
      s!"A task cannot depend on itself: {taskId}"
  | .duplicateDependency taskId dependsOnTaskId =>
      s!"Dependency already exists: {taskId} → {dependsOnTaskId}"
  | .cyclicDependency taskId dependsOnTaskId path =>
      s!"Circular dependency detected: adding {taskId} → {dependsOnTaskId} " ++
        "would create cycle: " ++ String.intercalate " → " path
  | .schemaValidation issues =>
      "LeadReviewDecisionPacket validation failed: " ++
        "; ".intercalate (issues.map SchemaIssue.summary)
  | .constraintViolation table column =>
      s!"constraint failed: {table}.{column}"
  | .notFoundException message => message
  | .badRequestException message => message
  | .conflictException message => message

structure ActorInfo where
  type : String
  id : String
deriving DecidableEq

open Foundations in
/-- Continue after a valid verdict; a rejection is thrown with its reason. -/
def commitTransition (entityType entityId fromStatus toStatus : String) :
    TransitionResult -> Except ServiceError Unit
  | .valid => .ok ()
  | .reject reason =>
      .error (.invalidTransition entityType entityId fromStatus toStatus reason)

open Foundations in
@[simp] theorem commitTransition_eq_ok {entityType entityId fromStatus toStatus : String}
    {verdict : TransitionResult} {u : Unit} :
    commitTransition entityType entityId fromStatus toStatus verdict = .ok u <->
      verdict = .valid := by
  cases verdict with
  | valid =>
      simp [commitTransition]
  | reject reason =>
      simp [commitTransition]

open Foundations in
theorem commitTransition_error {entityType entityId fromStatus toStatus : String}
    {verdict : TransitionResult} {e : ServiceError}
    (h : commitTransition entityType entityId fromStatus toStatus verdict = .error e) :
    exists reason,
      e = .invalidTransition entityType entityId fromStatus toStatus reason := by
  cases verdict with
  | valid =>
      cases h
  | reject reason =>
      cases h
      exact ⟨reason, rfl⟩

end Application
end CopilotFactory
