import CopilotFactory.Merging.MergeExecutorService

/-!
# Post-merge validation

After a merge the task is validated once more.  The task is read before the validation
runs; one that passes takes it to DONE, at the version that was read.
-/

namespace CopilotFactory
namespace Merging

open Foundations
open Domain
open Infrastructure
open Application

def loadPostMergeTask (taskId : TaskId) (s : Store) : Except ServiceError Task := do
  let task ← orThrow (s.findTask taskId) (.entityNotFound "Task" taskId)
  ensure (task.status = .postMergeValidation)
    (.invalidTransition "Task" taskId task.status.label TaskStatus.done.label
      s!"Task must be in POST_MERGE_VALIDATION state, but is in {task.status.label}")
  pure task

def passedAudit (taskId : TaskId) (actor : ActorInfo) : AuditEvent :=
  stateTransition "task" taskId TaskStatus.postMergeValidation.label TaskStatus.done.label
    actor

/-- The transaction after a validation that passed.  The status is not read again. -/
def applySuccess (task : Task) (actor : ActorInfo)
    (s : Store) : Except ServiceError (Store × Task) := do
  commitTransition "Task" task.taskId TaskStatus.postMergeValidation.label
    TaskStatus.done.label
    (validateTransition .postMergeValidation .done
      { postMergeValidationPassed := some true })
  let s₁ ← s.updateTask task.taskId task.version { status := some .done }
  pure (s₁.appendAudit (passedAudit task.taskId actor),
    TaskUpdate.apply { status := some .done } (task.version + 1) task)

theorem loadPostMergeTask_eq_ok {taskId : TaskId} {s : Store} {task : Task} :
    loadPostMergeTask taskId s = .ok task <->
      s.findTask taskId = some task ∧ task.status = .postMergeValidation := by
  simp only [loadPostMergeTask, bind_eq_ok, orThrow_eq_ok, ensure_eq_ok, pure_eq_ok]
  constructor
  · intro h
    rcases h with ⟨found, hfound, _, hstatus, hsame⟩
    rw [← hsame]
    exact ⟨hfound, hstatus⟩
  · intro h
    exact ⟨task, h.1, (), h.2, rfl⟩

theorem applySuccess_eq_ok {task moved : Task} {actor : ActorInfo} {s s' : Store} :
    applySuccess task actor s = .ok (s', moved) <->
      exists current, s.findTask task.taskId = some current ∧
        current.version = task.version ∧
        s' = (s.writeTask task.taskId (task.version + 1)
          { status := some .done }).appendAudit (passedAudit task.taskId actor) ∧
        moved = TaskUpdate.apply { status := some .done } (task.version + 1) task := by
  have hvalid : validateTransition .postMergeValidation .done
      { postMergeValidationPassed := some true } = .valid :=
    rfl
  simp only [applySuccess, bind_eq_ok, commitTransition_eq_ok, Store.updateTask_eq_ok,
    pure_eq_ok, Prod.mk.injEq]
  constructor
  · intro h
    rcases h with ⟨_, _, s₁, ⟨current, hcurrent, hversion, hs₁⟩, hs', hmoved⟩
    rw [hs₁] at hs'
    exact ⟨current, hcurrent, hversion, hs'.symm, hmoved.symm⟩
  · intro h
    rcases h with ⟨current, hcurrent, hversion, hs', hmoved⟩
    exact ⟨(), hvalid, _, ⟨current, hcurrent, hversion, rfl⟩, hs'.symm, hmoved.symm⟩

end Merging
end CopilotFactory
