import CopilotFactory.ControlPlane.TaskEffects

/-!
# Optimistic retry service

A transition of a task that is tried again after a version conflict, if the actor has the
priority to do so.  Other writers commit between the attempts, and, where the transactions
of the unit of work do not exclude each other, between the read and the write of one
attempt.
-/

namespace CopilotFactory
namespace Domain

/-!
## Conflict priority

Which actor gives way when two of them race to transition the same task.
-/

inductive ConflictPriority where
  | automated
  | leaseExpiry
  | operator
deriving DecidableEq

/-- The number of a priority: the higher one wins a conflict. -/
def ConflictPriority.level : ConflictPriority -> Nat
  | .automated => 1
  | .leaseExpiry => 2
  | .operator => 3

def operatorActorTypes : List String :=
  ["operator", "admin"]

def operatorTargetStatuses : List TaskStatus :=
  [.escalated, .cancelled]

def leaseMonitorActorTypes : List String :=
  ["lease-monitor", "reconciliation"]

def getConflictPriority (actorType : String) (targetStatus : TaskStatus) :
    ConflictPriority :=
  if actorType ∈ operatorActorTypes then
    .operator
  else if targetStatus ∈ operatorTargetStatuses ∧ actorType = "system" then
    .operator
  else if actorType ∈ leaseMonitorActorTypes ∧ targetStatus = .failed then
    .leaseExpiry
  else
    .automated

def shouldRetryOnConflict (actorType : String) (targetStatus : TaskStatus) : Bool :=
  ConflictPriority.automated.level < (getConflictPriority actorType targetStatus).level

theorem shouldRetryOnConflict_iff {actorType : String} {targetStatus : TaskStatus} :
    shouldRetryOnConflict actorType targetStatus = true <->
      getConflictPriority actorType targetStatus ≠ .automated := by
  unfold shouldRetryOnConflict
  cases getConflictPriority actorType targetStatus with
  | automated =>
      simp [ConflictPriority.level]
  | leaseExpiry =>
      simp [ConflictPriority.level]
  | operator =>
      simp [ConflictPriority.level]

end Domain
end CopilotFactory

namespace CopilotFactory
namespace ControlPlane

open Foundations
open Domain
open Infrastructure
open Application

def defaultMaxRetries : Nat :=
  3

structure PriorityTransition where
  taskId : TaskId
  targetStatus : TaskStatus
  context : TransitionContext
  actor : ActorInfo

structure TransitionableTask where
  id : TaskId
  status : TaskStatus
  version : Nat
deriving DecidableEq

structure PriorityTransitionResult where
  entity : TransitionableTask
  auditEvent : AuditEvent
  retriesUsed : Nat

/-!
## Competing writers
-/

/-- A commit of another writer, which never takes a task back to an earlier version. -/
structure Competitor where
  commit : Store -> Store
  advances : forall s, AdvancesTasks s (commit s)

/-- What the other writers commit around one attempt.  Nothing comes between its read and
its write where its transaction holds the write lock from the start. -/
structure Turn where
  before : List Competitor
  during : List Competitor := []
  /-- The insertion of the audit event fails on its primary key. -/
  auditIdTaken : Bool := false

def commitAll (competitors : List Competitor) (s : Store) : Store :=
  competitors.foldl (fun s competitor => competitor.commit s) s

def Turn.commits (turn : Turn) (s : Store) : Store :=
  commitAll turn.during (commitAll turn.before s)

/-!
## One attempt
-/

def transitionAudit (p : PriorityTransition) (task : Task) : AuditEvent where
  entityType := "task"
  entityId := p.taskId
  eventType := s!"task.transition.{task.status.label}.to.{p.targetStatus.label}"
  actorType := p.actor.type
  actorId := p.actor.id
  oldState := some (auditStatusVersion task.status task.version)
  newState := some (auditStatusVersion p.targetStatus (task.version + 1))

/-- The body of the transaction.  What it has written is rolled back if it throws. -/
def attemptBody (p : PriorityTransition) (auditIdTaken : Bool) (read written : Store) :
    Except ServiceError (Store × TransitionableTask × AuditEvent) := do
  let task ← orThrow (read.findTask p.taskId) (.entityNotFound "Task" p.taskId)
  commitTransition "Task" p.taskId task.status.label p.targetStatus.label
    (validateTransition task.status p.targetStatus p.context)
  let s₁ ← written.updateTask p.taskId task.version { status := some p.targetStatus }
  ensure (auditIdTaken = false) (.constraintViolation "audit_event" "audit_event_id")
  pure (s₁.appendAudit (transitionAudit p task),
    { id := p.taskId, status := p.targetStatus, version := task.version + 1 },
    transitionAudit p task)

structure Attempt where
  /-- The store that the attempt reads the task from. -/
  read : Store
  /-- The store that it writes to. -/
  written : Store
  outcome : Except ServiceError (Store × TransitionableTask × AuditEvent)

def attemptTransition (p : PriorityTransition) (turn : Turn) (s : Store) : Attempt :=
  let read := commitAll turn.before s
  let written := commitAll turn.during read
  { read := read
    written := written
    outcome := attemptBody p turn.auditIdTaken read written }

/-!
## The loop
-/

def isVersionConflict : ServiceError -> Bool
  | .versionConflict _ _ _ => true
  | _ => false

structure RetryRun where
  store : Store
  attempts : List Attempt
  result : Except ServiceError PriorityTransitionResult

/-- The attempts from one on, with the number of retries that are left. -/
def retryFrom (p : PriorityTransition) (schedule : Nat -> Turn) (remaining attempt : Nat)
    (retriesUsed : Nat) (s : Store) : RetryRun :=
  let tried := attemptTransition p (schedule attempt) s
  match tried.outcome with
  | .ok (store, entity, auditEvent) =>
      { store := store
        attempts := [tried]
        result := .ok
          { entity := entity, auditEvent := auditEvent, retriesUsed := retriesUsed } }
  | .error error =>
      let stopped : RetryRun :=
        { store := tried.written, attempts := [tried], result := .error error }
      if isVersionConflict error = false then
        stopped
      else if shouldRetryOnConflict p.actor.type p.targetStatus = false then
        stopped
      else
        match remaining with
        | 0 => stopped
        | n + 1 =>
            let rest := retryFrom p schedule n (attempt + 1) (retriesUsed + 1) tried.written
            { rest with attempts := tried :: rest.attempts }

def transitionTaskWithPriority (p : PriorityTransition) (schedule : Nat -> Turn)
    (maxRetries : Option Nat) (s : Store) : RetryRun :=
  retryFrom p schedule (maxRetries.getD defaultMaxRetries) 0 0 s

end ControlPlane
end CopilotFactory
