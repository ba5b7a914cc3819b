import CopilotFactory.Infrastructure.Store

/-!
# Lease acquisition

A lease assigns a worker to a task.  The lease row, the transition of the task to
ASSIGNED and the audit event are written in one transaction.
-/

namespace CopilotFactory
namespace Application

open Foundations
open Domain
open Infrastructure

variable {now : Millis} {leaseId : LeaseId} {s : Store}

def leaseEligibleStatuses : List TaskStatus :=
  [.ready, .changesRequested, .escalated]

structure AcquireLeaseParams where
  taskId : TaskId
  workerId : WorkerId
  poolId : PoolId
  ttlSeconds : Int
  actor : ActorInfo

structure LeaseAcquisitionResult where
  lease : TaskLease
  task : Task
  auditEvent : AuditEvent

def newLease (now : Millis) (leaseId : LeaseId) (params : AcquireLeaseParams) :
    TaskLease where
  leaseId := leaseId
  taskId := params.taskId
  workerId := params.workerId
  poolId := params.poolId
  status := .leased
  leasedAt := toColumn now
  expiresAt := toColumn (now + params.ttlSeconds * 1000)
  heartbeatAt := none
  reclaimReason := none

def assignToLease (leaseId : LeaseId) : TaskUpdate :=
  { status := some .assigned, currentLeaseId := some (some leaseId) }

def acquireLease (now : Millis) (leaseId : LeaseId) (params : AcquireLeaseParams)
    (s : Store) : Except ServiceError (Store × LeaseAcquisitionResult) := do
  let task ← orThrow (s.findTask params.taskId) (.entityNotFound "Task" params.taskId)
  ensure (task.status ∈ leaseEligibleStatuses)
    (.taskNotReadyForLease params.taskId task.status.label)
  -- Exclusivity: the task must have no active lease.
  refuse (s.findActiveByTaskId params.taskId)
    (fun activeLease => .exclusivityViolation params.taskId activeLease.leaseId)
  commitTransition "Task" params.taskId task.status.label TaskStatus.assigned.label
    (validateTransition task.status .assigned
      { leaseAcquired := some true
        isOperator := some (params.actor.type = "operator") })
  let lease := newLease now leaseId params
  let s₁ ← s.createLease lease
  let s₂ ← s₁.updateTask params.taskId task.version (assignToLease leaseId)
  let updatedTask := (assignToLease leaseId).apply (task.version + 1) task
  let auditEvent : AuditEvent :=
    { entityType := "task"
      entityId := params.taskId
      eventType := "lease.acquired"
      actorType := params.actor.type
      actorId := params.actor.id
      oldState := some (.object
        [("status", .text task.status.label), ("version", .number task.version),
          ("currentLeaseId", .ofOption task.currentLeaseId)])
      newState := some (.object
        [("status", .text updatedTask.status.label),
          ("version", .number updatedTask.version),
          ("currentLeaseId", .text leaseId)]) }
  pure (s₂.appendAudit auditEvent,
    { lease := lease, task := updatedTask, auditEvent := auditEvent })

/-!
## What an acquisition does
-/

/-- A successful acquisition adds one LEASED lease to a task that had no active lease,
and assigns the task to it. -/
theorem acquireLease_spec {params : AcquireLeaseParams} {s' : Store}
    {result : LeaseAcquisitionResult} (h : acquireLease now leaseId params s = .ok (s', result)) :
    exists task s₁,
      s.findTask params.taskId = some task ∧
      task.status ∈ leaseEligibleStatuses ∧
      s.findActiveByTaskId params.taskId = none ∧
      s.createLease (newLease now leaseId params) = .ok s₁ ∧
      s'.tasks = (s.writeTask params.taskId (task.version + 1)
        (assignToLease leaseId)).tasks ∧
      s'.taskLeases = s₁.taskLeases := by
  simp only [acquireLease, bind_eq_ok, orThrow_eq_ok, ensure_eq_ok, refuse_eq_ok,
    commitTransition_eq_ok, pure_eq_ok, Prod.mk.injEq] at h
  rcases h with ⟨task, htask, _, heligible, _, hnone, _, _, s₁, hcreate, s₂, hupdate,
    hs', _⟩
  rcases Store.updateTask_eq_ok.mp hupdate with ⟨t, _, _, hs₂⟩
  have htasks : s₁.tasks = s.tasks := (Store.createLease_spec hcreate).2.1
  refine ⟨task, s₁, htask, heligible, hnone, hcreate, ?_, ?_⟩
  · rw [← hs', hs₂]
    simp [Store.writeTask, htasks]
  · rw [← hs', hs₂]
    rfl

theorem acquireLease_exclusivity_iff {params : AcquireLeaseParams} {taskId existing : String} :
    acquireLease now leaseId params s = .error (.exclusivityViolation taskId existing) <->
      exists task active, s.findTask params.taskId = some task ∧
        task.status ∈ leaseEligibleStatuses ∧
        s.findActiveByTaskId params.taskId = some active ∧
        taskId = params.taskId ∧ existing = active.leaseId := by
  unfold acquireLease
  cases htask : s.findTask params.taskId with
  | none =>
      simp
  | some task =>
      by_cases heligible : task.status ∈ leaseEligibleStatuses
      · rw [orThrow_some, ok_bind, ensure_of heligible, ok_bind]
        cases hactive : s.findActiveByTaskId params.taskId with
        | some active =>
            simp [refuse, heligible, eq_comm]
        | none =>
            -- No later step of the transaction reports an exclusivity violation.
            constructor
            · intro h
              rw [refuse, ok_bind] at h
              rcases bind_eq_error.mp h with h | ⟨_, _, h⟩
              · rcases commitTransition_error h with ⟨reason, hreason⟩
                cases hreason
              · rcases bind_eq_error.mp h with h | ⟨s₁, _, h⟩
                · rcases Store.createLease_error h with ⟨column, hcolumn⟩
                  cases hcolumn
                · rcases bind_eq_error.mp h with h | ⟨s₂, _, h⟩
                  · rcases Store.updateTask_error h with ⟨v, hv⟩
                    cases hv
                  · cases h
            · intro h
              rcases h with ⟨_, _, _, _, hsome, _⟩
              cases hsome
      · rw [orThrow_some, ok_bind, ensure_of_not heligible]
        simp [heligible]

/-- A task that the lease service may assign for the actor. -/
def Assignable (status : TaskStatus) (actor : ActorInfo) : Prop :=
  status = .ready ∨ status = .changesRequested ∨
    (status = .escalated ∧ actor.type = "operator")

theorem validate_assignment_iff {status : TaskStatus} {actor : ActorInfo} :
    status ∈ leaseEligibleStatuses ∧
      validateTransition status .assigned
        { leaseAcquired := some true, isOperator := some (actor.type = "operator") } =
          .valid <->
      Assignable status actor := by
  unfold Assignable
  by_cases hoperator : actor.type = "operator"
  · simp only [hoperator]
    cases status <;> simp [leaseEligibleStatuses] <;> decide
  · simp only [hoperator]
    cases status <;> simp [leaseEligibleStatuses] <;> decide

theorem acquireLease_accepted_iff {params : AcquireLeaseParams} :
    (exists r, acquireLease now leaseId params s = .ok r) <->
      (exists task, s.findTask params.taskId = some task ∧
        Assignable task.status params.actor) ∧
      s.findActiveByTaskId params.taskId = none ∧ s.findLease leaseId = none ∧
      (s.workerPools.find? params.poolId).isSome = true := by
  constructor
  · intro h
    rcases h with ⟨⟨s', result⟩, h⟩
    simp only [acquireLease, bind_eq_ok, orThrow_eq_ok, ensure_eq_ok, refuse_eq_ok,
      commitTransition_eq_ok] at h
    rcases h with ⟨task, htask, _, heligible, _, hnone, _, hvalid, s₁, hcreate, _⟩
    rcases Store.createLease_accepted_iff.mp ⟨s₁, hcreate⟩ with ⟨hnew, _, hpool⟩
    exact ⟨⟨task, htask, validate_assignment_iff.mp ⟨heligible, hvalid⟩⟩, hnone, hnew, hpool⟩
  · intro h
    rcases h with ⟨⟨task, htask, hassignable⟩, hnone, hnew, hpool⟩
    rcases validate_assignment_iff.mpr hassignable with ⟨heligible, hvalid⟩
    have hexists : (s.findTask (newLease now leaseId params).taskId).isSome = true := by
      show (s.findTask params.taskId).isSome = true
      rw [htask]
      rfl
    have hcreates : exists s₁, s.createLease (newLease now leaseId params) = .ok s₁ :=
      Store.createLease_accepted_iff.mpr ⟨hnew, hexists, hpool⟩
    rcases hcreates with ⟨s₁, hcreate⟩
    have htask₁ : s₁.findTask params.taskId = some task := by
      rw [Store.findTask_of_tasks_eq (Store.createLease_spec hcreate).2.1]
      exact htask
    simp only [acquireLease, htask, orThrow_some, ok_bind, ensure_of heligible, hnone, refuse,
      commitTransition, hvalid, hcreate, Store.updateTask_of_find htask₁]
    exact ⟨_, rfl⟩

end Application
end CopilotFactory
