import CopilotFactory.ControlPlane.TaskWrites

/-!
# The status and the current lease of a task

A request moves a task to the few statuses of its kind.  It makes a lease the
current one of a task only by acquiring it, and then the lease is new.
-/

namespace CopilotFactory
namespace ControlPlane

open Domain
open Infrastructure
open Application

variable {data : TaskUpdate}

def Request.targets : Request -> List TaskStatus
  | .createTask _ => [.backlog]
  | .acquireLease _ _ _ => [.assigned]
  | .reclaimLease _ => [.ready, .failed, .escalated]
  | .transitionTask _ targetStatus _ _ => [targetStatus]
  | .pause _ _ => [.escalated]
  | .resume _ _ => [.assigned]
  | .requeue _ _ => [.ready]
  | .forceUnblock _ _ _ => [.ready]
  | .cancel _ _ _ => [.cancelled]
  | .resolveEscalation _ _ => [.assigned, .cancelled, .done]
  | .rerunReview _ _ => [.devComplete]
  | .reopen _ _ => [.backlog]
  | _ => []

inductive ColumnEffect (r : Request) (s s' : Store) : Prop where
  | unchanged (htasks : s'.tasks = s.tasks)
  | created (task : Task)
      (hnew : s.findTask task.taskId = none)
      (hstatus : task.status ∈ r.targets)
      (hcurrent : task.currentLeaseId = none)
      (hself : s'.findTask task.taskId = some task)
      (hother : forall id, id ≠ task.taskId -> s'.findTask id = s.findTask id)
  | written (taskId : TaskId) (task : Task) (data : TaskUpdate)
      (hfind : s.findTask taskId = some task)
      (hstatus : forall status, data.status = some status -> status ∈ r.targets)
      (hcurrent : forall leaseId, data.currentLeaseId = some (some leaseId) ->
        s.findLease leaseId = none)
      (htasks : s'.tasks = (s.writeTask taskId (task.version + 1) data).tasks)

variable {r : Request} {s s' : Store}

theorem Request.Writes.status_mem_targets {taskId : TaskId} {task : Task}
    (h : r.Writes taskId task data) {status : TaskStatus} (hstatus : data.status = some status) :
    status ∈ r.targets := by
  cases r with
  | reclaimLease params =>
      rw [h.2] at hstatus
      cases hstatus
      exact evaluateTaskOutcome_targetStatus _ _ _ _
  | resolveEscalation id dto =>
      rw [h.2.2] at hstatus
      cases hstatus
      show dto.resolutionType.target ∈ [TaskStatus.assigned, .cancelled, .done]
      cases dto.resolutionType <;> decide
  | rerunReview id actorId | reopen id actorId =>
      have hdata := h.2.2
      unfold overrideUpdate at hdata
      grind [Request.targets]
  | _ =>
      grind [Request.Writes, StatusWrite, editedColumns, assignToLease, Request.targets]

theorem Request.Writes.inReview {taskId : TaskId} {task : Task} (h : r.Writes taskId task data)
    (hstatus : data.status = some .inReview) :
    exists context actor, r = .transitionTask taskId .inReview context actor := by
  have htargets := h.status_mem_targets hstatus
  cases r with
  | transitionTask id target context actor =>
      rw [h.1, List.mem_singleton.mp htargets]
      exact ⟨context, actor, rfl⟩
  | _ =>
      simp [Request.targets] at htargets

theorem Request.Writes.currentLeaseId {taskId : TaskId} {task : Task}
    (h : r.Writes taskId task data) {leaseId : LeaseId}
    (hcurrent : data.currentLeaseId = some (some leaseId)) :
    exists now params, r = .acquireLease now leaseId params := by
  cases r with
  | acquireLease now id params =>
      rw [h.2.2] at hcurrent
      cases hcurrent
      exact ⟨now, params, rfl⟩
  | _ =>
      grind [Request.Writes, StatusWrite, editedColumns, reclaimTaskUpdate, overrideUpdate]

theorem columnEffect_of_perform (h : perform s r = .ok s') : ColumnEffect r s s' := by
  cases taskWrite_of_perform h with
  | unchanged htasks =>
      exact .unchanged htasks
  | created dto hr hnew hself hother =>
      apply ColumnEffect.created (newTask dto) hnew _ rfl hself hother
      rw [hr]
      exact List.mem_cons_self
  | written taskId task data hfind hwrites htasks =>
      apply ColumnEffect.written taskId task data hfind _ _ htasks
      · intro status hstatus
        exact hwrites.status_mem_targets hstatus
      · intro leaseId hcurrent
        rcases hwrites.currentLeaseId hcurrent with ⟨now, params, hr⟩
        rw [hr] at h
        rcases committed_eq_ok.mp h with ⟨result, h⟩
        rcases acquireLease_spec h with ⟨_, s₁, _, _, _, hcreate, _⟩
        exact (Store.createLease_spec hcreate).1

/-- A task after a request: its status is the one before or one that the request moves
tasks to, and its current lease is the one before or did not exist yet. -/
theorem columns_of_perform {taskId : TaskId} {task : Task} (h : perform s r = .ok s')
    (htask : s'.findTask taskId = some task) :
    ((exists old, s.findTask taskId = some old ∧ old.status = task.status) ∨
      task.status ∈ r.targets) ∧
    ((exists old, s.findTask taskId = some old ∧
        old.currentLeaseId = task.currentLeaseId) ∨
      forall leaseId, task.currentLeaseId = some leaseId -> s.findLease leaseId = none) := by
  cases columnEffect_of_perform h with
  | unchanged htasks =>
      rw [Store.findTask_of_tasks_eq htasks] at htask
      exact ⟨Or.inl ⟨task, htask, rfl⟩, Or.inl ⟨task, htask, rfl⟩⟩
  | created new _ hstatus hcurrent hself hother =>
      by_cases hid : taskId = new.taskId
      · rw [hid, hself] at htask
        cases htask
        refine ⟨Or.inr hstatus, Or.inr ?_⟩
        intro leaseId hlease
        rw [hcurrent] at hlease
        cases hlease
      · rw [hother taskId hid] at htask
        exact ⟨Or.inl ⟨task, htask, rfl⟩, Or.inl ⟨task, htask, rfl⟩⟩
  | written id old data hfind hstatus hcurrent htasks =>
      rw [Store.findTask_of_tasks_eq htasks] at htask
      by_cases hid : taskId = id
      · rw [hid, Store.findTask_writeTask_self, hfind, Option.map_some] at htask
        cases htask
        rw [hid, hfind, TaskUpdate.apply_status, TaskUpdate.apply_currentLeaseId]
        constructor
        · cases hdata : data.status with
          | none =>
              exact Or.inl ⟨old, rfl, rfl⟩
          | some status =>
              exact Or.inr (hstatus status hdata)
        · cases hdata : data.currentLeaseId with
          | none =>
              exact Or.inl ⟨old, rfl, rfl⟩
          | some current =>
              right
              intro leaseId hlease
              apply hcurrent leaseId
              rw [hdata]
              exact congrArg some hlease
      · rw [Store.findTask_writeTask_of_ne hid] at htask
        exact ⟨Or.inl ⟨task, htask, rfl⟩, Or.inl ⟨task, htask, rfl⟩⟩

end ControlPlane
end CopilotFactory
