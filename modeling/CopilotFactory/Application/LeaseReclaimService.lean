import CopilotFactory.Domain.RecoveryPolicies
import CopilotFactory.Infrastructure.Store

/-!
# Lease reclaim

A stale or crashed lease is closed, and the retry and escalation policies decide
what becomes of its task.
-/

namespace CopilotFactory
namespace Application

open Foundations
open Domain
open Infrastructure

/-- LEASED is excluded: the worker has not started yet. -/
def reclaimableStates : List WorkerLeaseStatus :=
  [.starting, .running, .heartbeating]

def reclaimEligibleTaskStates : List TaskStatus :=
  [.assigned, .inDevelopment]

inductive ReclaimReason where
  | missedHeartbeats
  | ttlExpired
  | workerCrashed
deriving DecidableEq

def ReclaimReason.label : ReclaimReason -> String
  | .missedHeartbeats => "missed_heartbeats"
  | .ttlExpired => "ttl_expired"
  | .workerCrashed => "worker_crashed"

structure ReclaimLeaseParams where
  leaseId : LeaseId
  reason : ReclaimReason
  retryPolicy : RetryPolicy
  escalationPolicy : EscalationPolicy
  hasFailureSummary : Bool := false
  actor : ActorInfo

inductive ReclaimOutcome where
  | retried
  | failed
  | escalated
deriving DecidableEq

def ReclaimOutcome.label : ReclaimOutcome -> String
  | .retried => "retried"
  | .failed => "failed"
  | .escalated => "escalated"

structure ReclaimLeaseResult where
  lease : TaskLease
  task : Task
  outcome : ReclaimOutcome
  retryEvaluation : RetryEvaluation
  escalationEvaluation : Option EscalationEvaluation
  auditEvent : AuditEvent

def determineLeaseTargetState : ReclaimReason -> WorkerLeaseStatus
  | .missedHeartbeats => .timedOut
  | .ttlExpired => .timedOut
  | .workerCrashed => .crashed

def buildLeaseTransitionContext
    (targetState : WorkerLeaseStatus) : WorkerLeaseTransitionContext :=
  if targetState = .timedOut then
    { heartbeatTimedOut := some true }
  else
    { workerCrashed := some true }

structure TaskOutcome where
  outcome : ReclaimOutcome
  targetStatus : TaskStatus
  retryEvaluation : RetryEvaluation
  escalationEvaluation : Option EscalationEvaluation
  newRetryCount : Nat

def evaluateTaskOutcome (task : Task) (retryPolicy : RetryPolicy)
    (escalationPolicy : EscalationPolicy) (hasFailureSummary : Bool) : TaskOutcome :=
  let retryEvaluation :=
    shouldRetry { retryCount := task.retryCount, hasFailureSummary := hasFailureSummary }
      retryPolicy
  if retryEvaluation.eligible then
    { outcome := .retried
      targetStatus := .ready
      retryEvaluation := retryEvaluation
      escalationEvaluation := none
      newRetryCount := task.retryCount + 1 }
  else
    let escalationEvaluation :=
      shouldEscalate
        { trigger := .heartbeatTimeout
          retryCount := some task.retryCount
          maxAttempts := some retryPolicy.maxAttempts }
        escalationPolicy
    -- "fail_then_escalate" fails the task first; without escalation it fails too.
    let escalates :=
      escalationEvaluation.shouldEscalate &&
        escalationEvaluation.action ≠ .failThenEscalate
    { outcome := if escalates then .escalated else .failed
      targetStatus := if escalates then .escalated else .failed
      retryEvaluation := retryEvaluation
      escalationEvaluation := some escalationEvaluation
      newRetryCount := task.retryCount }

def buildTaskTransitionContext (targetStatus : TaskStatus) : TransitionContext :=
  match targetStatus with
  | .ready => { leaseReclaimedRetryEligible := some true }
  | .failed => { leaseTimedOutNoRetry := some true }
  | .escalated => { hasEscalationTrigger := some true }
  | _ => {}

def reclaimUpdate (reason : ReclaimReason) : TaskLeaseUpdate where
  status := some (determineLeaseTargetState reason)
  reclaimReason := some reason.label

def reclaimTaskUpdate (outcome : TaskOutcome) : TaskUpdate where
  status := some outcome.targetStatus
  retryCount := some outcome.newRetryCount
  currentLeaseId := some none

/-- The part of a reclaim's audit event that both of its branches share. -/
def auditReclaim (leaseStatus : WorkerLeaseStatus) (task : Task)
    (rest : List (String × AuditValue)) : AuditState :=
  .object
    ([("leaseStatus", .text leaseStatus.label), ("taskStatus", .text task.status.label),
      ("taskVersion", .number task.version)] ++ rest)

def reclaimAuditEvent (params : ReclaimLeaseParams)
    (oldState newState : AuditState) : AuditEvent where
  entityType := "task-lease"
  entityId := params.leaseId
  eventType := "lease.reclaimed"
  actorType := params.actor.type
  actorId := params.actor.id
  oldState := some oldState
  newState := some newState

/-- The verdict recorded when the task has moved on before the reclaim. -/
def noopRetryEvaluation (task : Task) : RetryEvaluation where
  eligible := false
  backoffSeconds := 0
  nextAttempt := task.retryCount + 1
  reason := some s!"Task is not in a reclaim-eligible state: {task.status.label}"

def auditAction : Option EscalationEvaluation -> AuditValue
  | some e => .text e.action.label
  | none => .null

def reclaimLease (params : ReclaimLeaseParams)
    (s : Store) : Except ServiceError (Store × ReclaimLeaseResult) := do
  let leaseTargetState := determineLeaseTargetState params.reason
  let lease ← orThrow (s.findLease params.leaseId)
    (.entityNotFound "TaskLease" params.leaseId)
  ensure (lease.status ∈ reclaimableStates)
    (.leaseNotReclaimable params.leaseId lease.status.label)
  commitTransition "TaskLease" params.leaseId lease.status.label leaseTargetState.label
    (validateWorkerLeaseTransition lease.status leaseTargetState
      (buildLeaseTransitionContext leaseTargetState))
  let s₁ ← s.updateLease params.leaseId lease.status (reclaimUpdate params.reason)
  let updatedLease := (reclaimUpdate params.reason).apply lease
  let task ← orThrow (s₁.findTask lease.taskId) (.entityNotFound "Task" lease.taskId)
  let oldState := auditReclaim lease.status task [("retryCount", .number task.retryCount)]
  if task.status ∉ reclaimEligibleTaskStates then
    -- Another process moved the task on: record the lease reclaim, leave the task.
    let auditEvent := reclaimAuditEvent params oldState
      (auditReclaim updatedLease.status task
        [("outcome", .text "noop_task_already_transitioned"),
          ("reason", .text params.reason.label)])
    pure (s₁.appendAudit auditEvent,
      { lease := updatedLease
        task := task
        outcome := .failed
        retryEvaluation := noopRetryEvaluation task
        escalationEvaluation := none
        auditEvent := auditEvent })
  else
    let taskOutcome := evaluateTaskOutcome task params.retryPolicy
      params.escalationPolicy params.hasFailureSummary
    commitTransition "Task" task.taskId task.status.label taskOutcome.targetStatus.label
      (validateTransition task.status taskOutcome.targetStatus
        (buildTaskTransitionContext taskOutcome.targetStatus))
    let s₂ ← s₁.updateTask task.taskId task.version (reclaimTaskUpdate taskOutcome)
    let updatedTask := (reclaimTaskUpdate taskOutcome).apply (task.version + 1) task
    let auditEvent := reclaimAuditEvent params oldState
      (auditReclaim updatedLease.status updatedTask
        [("retryCount", .number updatedTask.retryCount),
          ("outcome", .text taskOutcome.outcome.label),
          ("reason", .text params.reason.label),
          ("retryEligible", .flag taskOutcome.retryEvaluation.eligible),
          ("escalationAction", auditAction taskOutcome.escalationEvaluation)])
    pure (s₂.appendAudit auditEvent,
      { lease := updatedLease
        task := updatedTask
        outcome := taskOutcome.outcome
        retryEvaluation := taskOutcome.retryEvaluation
        escalationEvaluation := taskOutcome.escalationEvaluation
        auditEvent := auditEvent })

/-!
## The verdicts of a reclaim

From every reclaimable lease status, and from both eligible task statuses, the
state machines accept what the policies decide.  A reclaim therefore fails only
when its lease is missing or is in another status.
-/

theorem validate_reclaim {status : WorkerLeaseStatus} (h : status ∈ reclaimableStates)
    (reason : ReclaimReason) :
    validateWorkerLeaseTransition status (determineLeaseTargetState reason)
      (buildLeaseTransitionContext (determineLeaseTargetState reason)) = .valid := by
  simp only [reclaimableStates, List.mem_cons, List.not_mem_nil, or_false] at h
  rcases h with rfl | rfl | rfl <;> cases reason <;> rfl

theorem evaluateTaskOutcome_targetStatus (task : Task) (retryPolicy : RetryPolicy)
    (escalationPolicy : EscalationPolicy) (hasFailureSummary : Bool) :
    (evaluateTaskOutcome task retryPolicy escalationPolicy
      hasFailureSummary).targetStatus ∈
        [TaskStatus.ready, TaskStatus.failed, TaskStatus.escalated] := by
  unfold evaluateTaskOutcome
  dsimp only
  split
  · simp
  · dsimp only
    split <;> simp

theorem evaluateTaskOutcome_retry (task : Task) (retryPolicy : RetryPolicy)
    (escalationPolicy : EscalationPolicy) (hasFailureSummary : Bool) :
    let outcome := evaluateTaskOutcome task retryPolicy escalationPolicy hasFailureSummary
    (outcome.targetStatus = .ready ∧ outcome.newRetryCount = task.retryCount + 1 ∧
        task.retryCount < retryPolicy.maxAttempts) ∨
      (outcome.targetStatus ≠ .ready ∧ outcome.newRetryCount = task.retryCount) := by
  unfold evaluateTaskOutcome
  dsimp only
  split
  · rename_i heligible
    exact Or.inl ⟨rfl, rfl, ((shouldRetry_eligible_iff _ _).mp heligible).1⟩
  · right
    dsimp only
    split <;> simp

theorem validate_taskOutcome {status : TaskStatus}
    (h : status ∈ reclaimEligibleTaskStates) {target : TaskStatus}
    (htarget : target ∈ [TaskStatus.ready, TaskStatus.failed, TaskStatus.escalated]) :
    validateTransition status target (buildTaskTransitionContext target) = .valid := by
  simp only [reclaimEligibleTaskStates, List.mem_cons, List.not_mem_nil, or_false] at h
  simp only [List.mem_cons, List.not_mem_nil, or_false] at htarget
  rcases h with rfl | rfl <;> rcases htarget with rfl | rfl | rfl <;> rfl

/-!
## What a reclaim does
-/

/-- A successful reclaim closes its lease, and moves the task out of ASSIGNED and
IN_DEVELOPMENT if it was there. -/
theorem reclaimLease_spec {params : ReclaimLeaseParams} {s s' : Store}
    {result : ReclaimLeaseResult}
    (h : reclaimLease params s = .ok (s', result)) :
    exists lease task,
      s.findLease params.leaseId = some lease ∧
      lease.status ∈ reclaimableStates ∧
      s.findTask lease.taskId = some task ∧
      s'.taskLeases =
        (s.writeLease params.leaseId (reclaimUpdate params.reason)).taskLeases ∧
      ((task.status ∉ reclaimEligibleTaskStates ∧ s'.tasks = s.tasks) ∨
        (task.status ∈ reclaimEligibleTaskStates ∧
          s'.tasks = (s.writeTask lease.taskId (task.version + 1)
            (reclaimTaskUpdate (evaluateTaskOutcome task params.retryPolicy
              params.escalationPolicy params.hasFailureSummary))).tasks)) := by
  simp only [reclaimLease, bind_eq_ok, orThrow_eq_ok, ensure_eq_ok,
    commitTransition_eq_ok] at h
  rcases h with ⟨lease, hlease, _, hstatus, _, _, s₁, hupdate, task, htask, h⟩
  rw [Store.updateLease_of_find hlease] at hupdate
  cases hupdate
  have htask' : s.findTask lease.taskId = some task := htask
  refine ⟨lease, task, hlease, hstatus, htask', ?_⟩
  split at h
  · rename_i hnot
    simp only [pure_eq_ok, Prod.mk.injEq] at h
    rw [← h.1]
    exact ⟨rfl, Or.inl ⟨hnot, rfl⟩⟩
  · rename_i hin
    simp only [bind_eq_ok, commitTransition_eq_ok, pure_eq_ok, Prod.mk.injEq] at h
    rcases h with ⟨_, _, s₂, hwrite, hs', _⟩
    rcases Store.updateTask_eq_ok.mp hwrite with ⟨t, _, _, hs₂⟩
    rw [Store.taskId_of_findTask htask'] at hs₂
    rw [← hs', hs₂]
    exact ⟨rfl, Or.inr ⟨not_not.mp hin, rfl⟩⟩

theorem reclaimLease_tables {params : ReclaimLeaseParams} {s s' : Store}
    {result : ReclaimLeaseResult} (h : reclaimLease params s = .ok (s', result)) :
    s'.mergeQueueItems = s.mergeQueueItems ∧ s'.workerPools = s.workerPools := by
  simp only [reclaimLease, bind_eq_ok, orThrow_eq_ok] at h
  rcases h with ⟨lease, hlease, _, _, _, _, s₁, hupdate, task, _, h⟩
  rw [Store.updateLease_of_find hlease] at hupdate
  cases hupdate
  split at h
  · simp only [pure_eq_ok, Prod.mk.injEq] at h
    rw [← h.1]
    exact ⟨rfl, rfl⟩
  · simp only [bind_eq_ok, pure_eq_ok, Prod.mk.injEq] at h
    rcases h with ⟨_, _, s₂, hwrite, hs', _⟩
    rcases Store.updateTask_eq_ok.mp hwrite with ⟨_, _, _, hs₂⟩
    rw [← hs', hs₂]
    exact ⟨rfl, rfl⟩

theorem reclaimLease_accepted_iff (params : ReclaimLeaseParams) (s : Store) :
    (exists r, reclaimLease params s = .ok r) <->
      exists lease, s.findLease params.leaseId = some lease ∧
        lease.status ∈ reclaimableStates := by
  constructor
  · intro h
    rcases h with ⟨⟨s', result⟩, h⟩
    rcases reclaimLease_spec h with ⟨lease, _, hlease, hstatus, _⟩
    exact ⟨lease, hlease, hstatus⟩
  · intro h
    rcases h with ⟨lease, hlease, hstatus⟩
    -- The foreign key gives the task of the lease.
    rcases Store.exists_task_of_lease (Store.mem_of_findLease hlease) with ⟨task, htask⟩
    simp only [reclaimLease, hlease, orThrow_some, ok_bind, ensure_of hstatus,
      validate_reclaim hstatus, commitTransition, Store.updateLease_of_find hlease,
      Store.writeLease_findTask, htask]
    split
    · exact ⟨_, rfl⟩
    · rename_i hin
      have htarget := evaluateTaskOutcome_targetStatus task params.retryPolicy
        params.escalationPolicy params.hasFailureSummary
      have hfind : (s.writeLease params.leaseId (reclaimUpdate params.reason)).findTask
          task.taskId = some task := by
        rw [Store.taskId_of_findTask htask, Store.writeLease_findTask]
        exact htask
      simp only [validate_taskOutcome (not_not.mp hin) htarget, ok_bind,
        Store.updateTask_of_find hfind]
      exact ⟨_, rfl⟩

end Application
end CopilotFactory
