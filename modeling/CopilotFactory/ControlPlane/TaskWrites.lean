import CopilotFactory.ControlPlane.TaskEffects

/-!
# The columns that a request writes

An accepted request leaves the tasks alone, creates one, or writes one at its next
version.  What it writes is told here column by column.
-/

namespace CopilotFactory
namespace ControlPlane

open Foundations
open Domain
open Infrastructure
open Application

def StatusWrite (target : TaskStatus) (context : TransitionContext) (task : Task)
    (data : TaskUpdate) : Prop :=
  validateTransition task.status target context = .valid ∧ data = { status := some target }

def EscalationResolutionType.target : EscalationResolutionType -> TaskStatus
  | .retry => .assigned
  | .cancel => .cancelled
  | .markDone => .done

/-- What a request writes to a task, given the task as it stands before. -/
def Request.Writes (taskId : TaskId) (task : Task) (data : TaskUpdate) : Request -> Prop
  | .updateTask id dto => taskId = id ∧ data = editedColumns dto
  | .acquireLease _ leaseId params =>
      taskId = params.taskId ∧ task.status ∈ leaseEligibleStatuses ∧
        data = assignToLease leaseId
  | .reclaimLease params =>
      task.status ∈ reclaimEligibleTaskStates ∧
        data = reclaimTaskUpdate (evaluateTaskOutcome task params.retryPolicy
          params.escalationPolicy params.hasFailureSummary)
  | .transitionTask id target context _ => taskId = id ∧ StatusWrite target context task data
  | .pause id _ => taskId = id ∧ StatusWrite .escalated { isOperator := some true } task data
  | .resume id _ =>
      taskId = id ∧ task.status = .escalated ∧ data = { status := some .assigned }
  | .requeue id _ =>
      taskId = id ∧
        StatusWrite .ready { leaseReclaimedRetryEligible := some true } task data
  | .forceUnblock id _ _ =>
      taskId = id ∧ task.status = .blocked ∧ data = { status := some .ready }
  | .cancel id _ _ =>
      taskId = id ∧ task.status ≠ .merging ∧
        StatusWrite .cancelled { isOperator := some true } task data
  | .resolveEscalation id dto =>
      taskId = id ∧ task.status = .escalated ∧
        data = { status := some dto.resolutionType.target }
  | .changePriority id priority _ => taskId = id ∧ data = { priority := some priority }
  | .rerunReview id _ =>
      taskId = id ∧ task.status ∈ [TaskStatus.approved, .inReview] ∧
        data = overrideUpdate .devComplete
  | .reopen id _ =>
      taskId = id ∧ task.status ∈ [TaskStatus.done, .failed, .cancelled] ∧
        data = overrideUpdate .backlog
  | _ => False

inductive TaskWrite (r : Request) (s s' : Store) : Prop where
  | unchanged (htasks : s'.tasks = s.tasks)
  | created (dto : CreateTaskDto)
      (hr : r = .createTask dto)
      (hnew : s.findTask dto.taskId = none)
      (hself : s'.findTask dto.taskId = some (newTask dto))
      (hother : forall id, id ≠ dto.taskId -> s'.findTask id = s.findTask id)
  | written (taskId : TaskId) (task : Task) (data : TaskUpdate)
      (hfind : s.findTask taskId = some task)
      (hwrites : r.Writes taskId task data)
      (htasks : s'.tasks = (s.writeTask taskId (task.version + 1) data).tasks)

variable {r : Request} {s s' : Store}

theorem statusWrite_of_action {taskId : TaskId} {target : TaskStatus}
    {context : TransitionContext} {actor : ActorInfo} {result : OperatorActionResult}
    (h : executeTransitionAction taskId target context actor s = .ok (s', result)) :
    exists task, s.findTask taskId = some task ∧
      validateTransition task.status target context = .valid ∧
      s'.tasks = (s.writeTask taskId (task.version + 1) { status := some target }).tasks := by
  rcases executeTransitionAction_spec h with ⟨_, htransition⟩
  rcases transitionTask_eq_ok.mp htransition with ⟨task, htask, hvalid, hs', _⟩
  exact ⟨task, htask, hvalid, by rw [hs']; rfl⟩

theorem escalated_of_guard {taskId : TaskId} {type : EscalationResolutionType}
    {evidence : Option String} {task : Task}
    (h : guardResolveEscalation s taskId type evidence = .ok ())
    (htask : s.findTask taskId = some task) :
    task.status = .escalated := by
  simp only [guardResolveEscalation, htask, bind_eq_ok, ensure_eq_ok] at h
  exact h.choose_spec.1

theorem blocked_of_guard {taskId : TaskId} {reason : String} {task : Task}
    (h : guardForceUnblock s taskId reason = .ok ())
    (htask : s.findTask taskId = some task) :
    task.status = .blocked := by
  simp only [guardForceUnblock, htask, bind_eq_ok, ensure_eq_ok] at h
  exact h.choose_spec.2

theorem not_merging_of_guard {taskId : TaskId} {acknowledge : Bool} {task : Task}
    (h : guardCancel s taskId acknowledge = .ok ())
    (htask : s.findTask taskId = some task) :
    task.status ≠ .merging := by
  simp only [guardCancel, htask, bind_eq_ok, ensure_eq_ok] at h
  exact h.choose_spec.1

theorem resolveEscalation_writes {taskId : TaskId} {dto : ResolveEscalationDto}
    {result : OperatorActionResult} (h : resolveEscalation taskId dto s = .ok (s', result)) :
    exists task, s.findTask taskId = some task ∧ task.status = .escalated ∧
      s'.tasks = (s.writeTask taskId (task.version + 1)
        { status := some dto.resolutionType.target }).tasks := by
  unfold resolveEscalation at h
  rcases bind_eq_ok.mp h with ⟨_, hguard, h⟩
  cases htype : dto.resolutionType with
  | retry =>
      rw [htype] at h
      rcases bind_eq_ok.mp h with ⟨⟨s₁, result₁⟩, haction, h⟩
      simp only [pure_eq_ok, Prod.mk.injEq] at h
      rcases statusWrite_of_action haction with ⟨task, htask, _, htasks⟩
      refine ⟨task, htask, escalated_of_guard hguard htask, ?_⟩
      rw [← h.1, recordPool_tasks]
      exact htasks
  | cancel =>
      rw [htype] at h
      rcases statusWrite_of_action h with ⟨task, htask, _, htasks⟩
      exact ⟨task, htask, escalated_of_guard hguard htask, htasks⟩
  | markDone =>
      rw [htype] at h
      rcases statusWrite_of_action h with ⟨task, htask, _, htasks⟩
      exact ⟨task, htask, escalated_of_guard hguard htask, htasks⟩

theorem taskWrite_of_perform (h : perform s r = .ok s') : TaskWrite r s s' := by
  cases r with
  | createWorkerPool pool =>
      exact .unchanged (Store.createWorkerPool_spec h).1
  | createTask dto =>
      rcases Store.createTask_spec h with ⟨hnew, _, hself, hother⟩
      exact .created dto rfl hnew hself hother
  | updateTask taskId dto =>
      rcases committed_eq_ok.mp h with ⟨result, h⟩
      rcases updateTask_spec h with hs' | ⟨task, htask, _, hs'⟩
      · exact .unchanged (by rw [hs'])
      · exact .written taskId task (editedColumns dto) htask ⟨rfl, rfl⟩ (by rw [hs'])
  | acquireLease now leaseId params =>
      rcases committed_eq_ok.mp h with ⟨result, h⟩
      rcases acquireLease_spec h with ⟨task, _, htask, hstatus, _, _, htasks, _⟩
      exact .written params.taskId task (assignToLease leaseId) htask ⟨rfl, hstatus, rfl⟩
        htasks
  | transitionLease leaseId targetStatus context actor =>
      rcases committed_eq_ok.mp h with ⟨result, h⟩
      exact .unchanged (transitionLease_writes h).2
  | receiveHeartbeat now params =>
      rcases committed_eq_ok.mp h with ⟨result, h⟩
      exact .unchanged (receiveHeartbeat_writes h).2
  | reclaimLease params =>
      rcases committed_eq_ok.mp h with ⟨result, h⟩
      rcases reclaimLease_spec h with
        ⟨lease, task, _, _, htask, _, ⟨_, htasks⟩ | ⟨hstatus, htasks⟩⟩
      · exact .unchanged htasks
      · exact .written lease.taskId task _ htask ⟨hstatus, rfl⟩ htasks
  | transitionTask taskId targetStatus context actor =>
      rcases committed_eq_ok.mp h with ⟨event, h⟩
      rcases transitionTask_eq_ok.mp h with ⟨task, htask, hvalid, hs', _⟩
      exact .written taskId task _ htask ⟨rfl, hvalid, rfl⟩ (by rw [hs']; rfl)
  | pause taskId actorId | requeue taskId actorId =>
      rcases committed_eq_ok.mp h with ⟨result, h⟩
      rcases statusWrite_of_action h with ⟨task, htask, hvalid, htasks⟩
      exact .written taskId task _ htask ⟨rfl, hvalid, rfl⟩ htasks
  | resume taskId actorId =>
      rcases committed_eq_ok.mp h with ⟨result, h⟩
      simp only [resume, bind_eq_ok, orThrow_eq_ok, ensure_eq_ok] at h
      rcases h with ⟨found, hfound, _, hescalated, h⟩
      rcases statusWrite_of_action h with ⟨task, htask, _, htasks⟩
      rw [hfound] at htask
      cases htask
      exact .written taskId found _ hfound ⟨rfl, hescalated, rfl⟩ htasks
  | forceUnblock taskId actorId reason =>
      rcases committed_eq_ok.mp h with ⟨result, h⟩
      rcases bind_eq_ok.mp h with ⟨_, hguard, h⟩
      rcases statusWrite_of_action h with ⟨task, htask, _, htasks⟩
      exact .written taskId task _ htask ⟨rfl, blocked_of_guard hguard htask, rfl⟩ htasks
  | cancel taskId actorId acknowledge =>
      rcases committed_eq_ok.mp h with ⟨result, h⟩
      rcases bind_eq_ok.mp h with ⟨_, hguard, h⟩
      rcases statusWrite_of_action h with ⟨task, htask, hvalid, htasks⟩
      exact .written taskId task _ htask
        ⟨rfl, not_merging_of_guard hguard htask, hvalid, rfl⟩ htasks
  | resolveEscalation taskId dto =>
      rcases committed_eq_ok.mp h with ⟨result, h⟩
      rcases resolveEscalation_writes h with ⟨task, htask, hescalated, htasks⟩
      exact .written taskId task _ htask ⟨rfl, hescalated, rfl⟩ htasks
  | changePriority taskId priority actorId =>
      rcases committed_eq_ok.mp h with ⟨result, h⟩
      rcases changePriority_spec h with ⟨task, htask, hs'⟩
      exact .written taskId task _ htask ⟨rfl, rfl⟩ (by rw [hs']; rfl)
  | rerunReview taskId actorId =>
      rcases committed_eq_ok.mp h with ⟨result, h⟩
      rcases executeOverrideAction_spec h with ⟨task, htask, hstatus, hs', _⟩
      exact .written taskId task _ htask ⟨rfl, hstatus, rfl⟩ (by rw [hs']; rfl)
  | reopen taskId actorId =>
      rcases committed_eq_ok.mp h with ⟨result, h⟩
      rcases bind_eq_ok.mp h with ⟨_, _, h⟩
      rcases executeOverrideAction_spec h with ⟨task, htask, hstatus, hs', _⟩
      exact .written taskId task _ htask ⟨rfl, hstatus, rfl⟩ (by rw [hs']; rfl)

/-!
## The columns after a request
-/

/-- A task after a request is the one before, a new one, or the one before with the
columns that the request writes. -/
theorem task_after_perform (h : perform s r = .ok s') {taskId : TaskId} {task : Task}
    (htask : s'.findTask taskId = some task) :
    s.findTask taskId = some task ∨
    (exists dto, r = .createTask dto ∧ s.findTask taskId = none ∧ task = newTask dto) ∨
    exists old data, s.findTask taskId = some old ∧ r.Writes taskId old data ∧
      task = data.apply (old.version + 1) old := by
  cases taskWrite_of_perform h with
  | unchanged htasks =>
      left
      rw [← Store.findTask_of_tasks_eq htasks]
      exact htask
  | created dto hr hnew hself hother =>
      by_cases hid : taskId = dto.taskId
      · rw [hid] at htask
        cases hself.symm.trans htask
        refine Or.inr (Or.inl ⟨dto, hr, ?_, rfl⟩)
        rw [hid]
        exact hnew
      · left
        exact (hother taskId hid).symm.trans htask
  | written id old data hfind hwrites htasks =>
      rw [Store.findTask_of_tasks_eq htasks] at htask
      by_cases hid : taskId = id
      · rw [hid, Store.findTask_writeTask_self, hfind] at htask
        cases htask
        refine Or.inr (Or.inr ⟨old, data, ?_, ?_, rfl⟩)
        · rw [hid]
          exact hfind
        · rw [hid]
          exact hwrites
      · rw [Store.findTask_writeTask_of_ne hid] at htask
        exact Or.inl htask

section Columns

variable {taskId : TaskId} {task : Task} {data : TaskUpdate} (h : r.Writes taskId task data)

include h

theorem Request.Writes.reviewRoundCount :
    data.reviewRoundCount = none := by
  cases r <;> simp only [Request.Writes, StatusWrite] at h <;>
    grind [editedColumns, assignToLease, reclaimTaskUpdate, overrideUpdate]

theorem Request.Writes.retryCount :
    data.retryCount = none ∨ exists params, r = .reclaimLease params := by
  cases r <;> simp only [Request.Writes, StatusWrite] at h <;>
    grind [editedColumns, assignToLease, overrideUpdate]

theorem Request.Writes.currentReviewCycleId :
    data.currentReviewCycleId = none ∨ data.status = some .backlog := by
  cases r <;> simp only [Request.Writes, StatusWrite] at h <;>
    grind [editedColumns, assignToLease, reclaimTaskUpdate, overrideUpdate]

end Columns

end ControlPlane
end CopilotFactory
