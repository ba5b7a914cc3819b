import CopilotFactory.Infrastructure.Store

/-!
# Transition service

The one entry point for state changes: read the entity, ask its state machine,
write the new status and record an audit event, in one transaction.
-/

namespace CopilotFactory
namespace Application

open Foundations
open Domain
open Infrastructure

variable {targetStatus : TaskStatus} {context : TransitionContext} {actor : ActorInfo}
  {s : Store}

def transitionTask (taskId : TaskId) (targetStatus : TaskStatus)
    (context : TransitionContext) (actor : ActorInfo)
    (s : Store) : Except ServiceError (Store × AuditEvent) := do
  let task ← orThrow (s.findTask taskId) (.entityNotFound "Task" taskId)
  commitTransition "Task" taskId task.status.label targetStatus.label
    (validateTransition task.status targetStatus context)
  let s₁ ← s.updateTask taskId task.version { status := some targetStatus }
  let auditEvent : AuditEvent :=
    { entityType := "task"
      entityId := taskId
      eventType := s!"task.transition.{task.status.label}.to.{targetStatus.label}"
      actorType := actor.type
      actorId := actor.id
      oldState := some (auditStatusVersion task.status task.version)
      newState := some (auditStatusVersion targetStatus (task.version + 1)) }
  pure (s₁.appendAudit auditEvent, auditEvent)

def transitionLease (leaseId : LeaseId) (targetStatus : WorkerLeaseStatus)
    (context : WorkerLeaseTransitionContext) (actor : ActorInfo)
    (s : Store) : Except ServiceError (Store × AuditEvent) := do
  let lease ← orThrow (s.findLease leaseId) (.entityNotFound "TaskLease" leaseId)
  commitTransition "TaskLease" leaseId lease.status.label targetStatus.label
    (validateWorkerLeaseTransition lease.status targetStatus context)
  let s₁ ← s.updateLease leaseId lease.status { status := some targetStatus }
  let auditEvent : AuditEvent :=
    { entityType := "task-lease"
      entityId := leaseId
      eventType :=
        s!"task-lease.transition.{lease.status.label}.to.{targetStatus.label}"
      actorType := actor.type
      actorId := actor.id
      oldState := some (.object [("status", .text lease.status.label)])
      newState := some (.object [("status", .text targetStatus.label)]) }
  pure (s₁.appendAudit auditEvent, auditEvent)

/-!
## What a transition does
-/

/-- A task transition is accepted exactly when the task exists and the state machine
permits it; it rewrites the status and the version of that task only. -/
theorem transitionTask_eq_ok {taskId : TaskId} {s' : Store} {auditEvent : AuditEvent} :
    transitionTask taskId targetStatus context actor s = .ok (s', auditEvent) <->
      exists task,
        s.findTask taskId = some task ∧
        validateTransition task.status targetStatus context = .valid ∧
        s' = (s.writeTask taskId (task.version + 1)
          { status := some targetStatus }).appendAudit auditEvent ∧
        auditEvent =
          { entityType := "task"
            entityId := taskId
            eventType := s!"task.transition.{task.status.label}.to.{targetStatus.label}"
            actorType := actor.type
            actorId := actor.id
            oldState := some (auditStatusVersion task.status task.version)
            newState := some (auditStatusVersion targetStatus (task.version + 1)) } := by
  simp only [transitionTask, bind_eq_ok, orThrow_eq_ok, commitTransition_eq_ok,
    pure_eq_ok, Prod.mk.injEq]
  constructor
  · intro h
    rcases h with ⟨task, htask, _, hvalid, s₁, hupdate, hs', haudit⟩
    rw [Store.updateTask_of_find htask] at hupdate
    cases hupdate
    refine ⟨task, htask, hvalid, ?_, haudit.symm⟩
    rw [← hs', haudit]
  · intro h
    rcases h with ⟨task, htask, hvalid, hs', haudit⟩
    refine ⟨task, htask, (), hvalid, _, Store.updateTask_of_find htask _, ?_, haudit.symm⟩
    rw [hs', haudit]

theorem transitionTask_accepts {taskId : TaskId} (actor : ActorInfo) {task : Task}
    (htask : s.findTask taskId = some task)
    (hvalid : validateTransition task.status targetStatus context = .valid) :
    exists s' auditEvent,
      transitionTask taskId targetStatus context actor s = .ok (s', auditEvent) :=
  ⟨_, _, transitionTask_eq_ok.mpr ⟨task, htask, hvalid, rfl, rfl⟩⟩

theorem transitionTask_error {taskId : TaskId} {e : ServiceError}
    (h : transitionTask taskId targetStatus context actor s = .error e) :
    e = .entityNotFound "Task" taskId ∨
      exists fromStatus reason,
        e = .invalidTransition "Task" taskId fromStatus targetStatus.label reason := by
  unfold transitionTask at h
  cases htask : s.findTask taskId with
  | none =>
      rw [htask] at h
      cases h
      exact Or.inl rfl
  | some task =>
      right
      rw [htask] at h
      simp only [orThrow_some, ok_bind] at h
      rcases bind_eq_error.mp h with h | ⟨_, _, h⟩
      · rcases commitTransition_error h with ⟨reason, he⟩
        exact ⟨_, reason, he⟩
      · rw [Store.updateTask_of_find htask] at h
        cases h

/-- A lease transition is one that the worker lease state machine permits; it rewrites
the status of that lease only. -/
theorem transitionLease_spec {leaseId : LeaseId} {targetStatus : WorkerLeaseStatus}
    {context : WorkerLeaseTransitionContext} {s' : Store} {auditEvent : AuditEvent}
    (h : transitionLease leaseId targetStatus context actor s = .ok (s', auditEvent)) :
    exists lease,
      s.findLease leaseId = some lease ∧
      validateWorkerLeaseTransition lease.status targetStatus context = .valid ∧
      s'.tasks = s.tasks ∧
      s'.taskLeases =
        (s.writeLease leaseId { status := some targetStatus }).taskLeases := by
  simp only [transitionLease, bind_eq_ok, orThrow_eq_ok, commitTransition_eq_ok,
    pure_eq_ok, Prod.mk.injEq] at h
  rcases h with ⟨lease, hlease, _, hvalid, s₁, hupdate, hs', _⟩
  rw [Store.updateLease_of_find hlease] at hupdate
  cases hupdate
  rw [← hs']
  exact ⟨lease, hlease, hvalid, rfl, rfl⟩

end Application
end CopilotFactory
