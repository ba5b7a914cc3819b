import CopilotFactory.ControlPlane.OperatorEffects

/-!
# What a request does to tasks and merge queue items

Whatever the request, the task table is left alone, has one task written at its
next version, or gains a task in BACKLOG.  No request of the control plane
touches the merge queue.
-/

namespace CopilotFactory
namespace ControlPlane

open Foundations
open Domain
open Infrastructure
open Application

variable {s s' : Store}

inductive TaskEffect (s s' : Store) : Prop where
  | unchanged (htasks : s'.tasks = s.tasks)
  | created (task : Task)
      (hnew : s.findTask task.taskId = none)
      (hstatus : task.status = .backlog)
      (hself : s'.findTask task.taskId = some task)
      (hother : forall id, id ≠ task.taskId -> s'.findTask id = s.findTask id)
  | written (taskId : TaskId) (task : Task) (data : TaskUpdate)
      (hfind : s.findTask taskId = some task)
      (htasks : s'.tasks = (s.writeTask taskId (task.version + 1) data).tasks)

theorem OperatorEffect.taskEffect {r : Request} (h : OperatorEffect r s s') :
    TaskEffect s s' := by
  cases h with
  | unchanged htasks =>
      exact .unchanged htasks
  | edited taskId task data hfind _ htasks =>
      exact .written taskId task data hfind htasks
  | moved taskId task data _ hfind _ _ _ htasks =>
      exact .written taskId task data hfind htasks

theorem acquireLease_writes {now : Millis} {leaseId : LeaseId} {params : AcquireLeaseParams}
    {result : LeaseAcquisitionResult} (h : acquireLease now leaseId params s = .ok (s', result)) :
    s'.mergeQueueItems = s.mergeQueueItems ∧
      exists task, s.findTask params.taskId = some task ∧
        s'.tasks = (s.writeTask params.taskId (task.version + 1)
          (assignToLease leaseId)).tasks := by
  rcases acquireLease_spec h with ⟨task, s₁, htask, _, _, hcreate, htasks, _⟩
  refine ⟨?_, task, htask, htasks⟩
  simp only [acquireLease, bind_eq_ok, pure_eq_ok, Prod.mk.injEq] at h
  rcases h with ⟨_, _, _, _, _, _, _, _, s₂, hcreate₂, s₃, hupdate, hs', _⟩
  rcases Store.updateTask_eq_ok.mp hupdate with ⟨_, _, _, hs₃⟩
  have hitems : s₂.mergeQueueItems = s.mergeQueueItems :=
    (Store.createLease_tables hcreate₂).2.2.1
  rw [← hs', hs₃]
  exact hitems

theorem reclaimLease_writes {params : ReclaimLeaseParams} {result : ReclaimLeaseResult}
    (h : reclaimLease params s = .ok (s', result)) :
    s'.mergeQueueItems = s.mergeQueueItems ∧ TaskEffect s s' := by
  refine ⟨(reclaimLease_tables h).1, ?_⟩
  rcases reclaimLease_spec h with ⟨lease, task, _, _, htask, _, h⟩
  rcases h with ⟨_, htasks⟩ | ⟨_, htasks⟩
  · exact .unchanged htasks
  · exact .written lease.taskId task _ htask htasks

theorem transitionTask_writes {taskId : TaskId} {targetStatus : TaskStatus}
    {context : TransitionContext} {actor : ActorInfo} {auditEvent : AuditEvent}
    (h : transitionTask taskId targetStatus context actor s = .ok (s', auditEvent)) :
    s'.mergeQueueItems = s.mergeQueueItems ∧ TaskEffect s s' := by
  rcases transitionTask_eq_ok.mp h with ⟨task, htask, _, hs', _⟩
  rw [hs']
  exact ⟨rfl, .written taskId task { status := some targetStatus } htask rfl⟩

theorem transitionLease_writes {leaseId : LeaseId} {targetStatus : WorkerLeaseStatus}
    {context : WorkerLeaseTransitionContext} {actor : ActorInfo} {auditEvent : AuditEvent}
    (h : transitionLease leaseId targetStatus context actor s = .ok (s', auditEvent)) :
    s'.mergeQueueItems = s.mergeQueueItems ∧ s'.tasks = s.tasks := by
  simp only [transitionLease, bind_eq_ok, orThrow_eq_ok, pure_eq_ok, Prod.mk.injEq] at h
  rcases h with ⟨lease, hlease, _, _, s₁, hupdate, hs', _⟩
  rw [Store.updateLease_of_find hlease] at hupdate
  cases hupdate
  rw [← hs']
  exact ⟨rfl, rfl⟩

theorem receiveHeartbeat_writes {now : Millis} {params : ReceiveHeartbeatParams}
    {result : ReceiveHeartbeatResult} (h : receiveHeartbeat now params s = .ok (s', result)) :
    s'.mergeQueueItems = s.mergeQueueItems ∧ s'.tasks = s.tasks := by
  simp only [receiveHeartbeat, bind_eq_ok, orThrow_eq_ok, pure_eq_ok, Prod.mk.injEq] at h
  rcases h with ⟨lease, hlease, _, _, _, _, s₁, hupdate, hs', _⟩
  rw [Store.updateLease_of_find hlease] at hupdate
  cases hupdate
  rw [← hs']
  exact ⟨rfl, rfl⟩

theorem taskEffect_of_perform {r : Request} (h : perform s r = .ok s') :
    s'.mergeQueueItems = s.mergeQueueItems ∧ TaskEffect s s' := by
  by_cases hr : OperatorRequest r
  · rcases operatorEffect_of_perform hr h with ⟨hitems, heffect⟩
    exact ⟨hitems, heffect.taskEffect⟩
  · cases r with
    | createWorkerPool pool =>
        rcases Store.createWorkerPool_spec h with ⟨htasks, _⟩
        exact ⟨Store.createWorkerPool_mergeQueueItems h, .unchanged htasks⟩
    | createTask dto =>
        rcases Store.createTask_spec h with ⟨hnew, _, hself, hother⟩
        exact ⟨Store.createTask_mergeQueueItems h,
          .created (newTask dto) hnew rfl hself hother⟩
    | acquireLease now leaseId params =>
        rcases committed_eq_ok.mp h with ⟨result, h⟩
        rcases acquireLease_writes h with ⟨hitems, task, htask, htasks⟩
        exact ⟨hitems, .written params.taskId task _ htask htasks⟩
    | transitionLease leaseId targetStatus context actor =>
        rcases committed_eq_ok.mp h with ⟨result, h⟩
        rcases transitionLease_writes h with ⟨hitems, htasks⟩
        exact ⟨hitems, .unchanged htasks⟩
    | receiveHeartbeat now params =>
        rcases committed_eq_ok.mp h with ⟨result, h⟩
        rcases receiveHeartbeat_writes h with ⟨hitems, htasks⟩
        exact ⟨hitems, .unchanged htasks⟩
    | reclaimLease params =>
        rcases committed_eq_ok.mp h with ⟨result, h⟩
        exact reclaimLease_writes h
    | transitionTask taskId targetStatus context actor =>
        rcases committed_eq_ok.mp h with ⟨result, h⟩
        exact transitionTask_writes h
    | _ =>
        exact absurd trivial hr

theorem TaskEffect.keeps (h : TaskEffect s s') (taskId : TaskId)
    (hsome : (s.findTask taskId).isSome = true) : (s'.findTask taskId).isSome = true := by
  cases h with
  | unchanged htasks =>
      rw [Store.findTask_of_tasks_eq htasks]
      exact hsome
  | created task _ _ hself hother =>
      by_cases hid : taskId = task.taskId
      · rw [hid, hself]
        rfl
      · rw [hother taskId hid]
        exact hsome
  | written id task data _ htasks =>
      unfold Store.findTask at hsome ⊢
      rw [htasks]
      exact (Table.find?_modify_isSome (data.apply_taskId (task.version + 1)) taskId).trans
        hsome

/-!
## Tasks that were read earlier
-/

/-- The task was read at some time: it is stored as it was, or has a later version. -/
def ReadBefore (task : Task) (s : Store) : Prop :=
  exists current, s.findTask task.taskId = some current ∧
    (current = task ∨ task.version < current.version)

theorem readBefore_of_find {taskId : TaskId} {task : Task} (h : s.findTask taskId = some task) :
    ReadBefore task s := by
  refine ⟨task, ?_, Or.inl rfl⟩
  rw [Store.taskId_of_findTask h]
  exact h

theorem ReadBefore.find {task : Task} (h : ReadBefore task s) {current : Task}
    (hfind : s.findTask task.taskId = some current) (hversion : current.version = task.version) :
    current = task := by
  rcases h with ⟨found, hfound, hsame | hlater⟩
  · rw [hfind] at hfound
    cases hfound
    exact hsame
  · rw [hfind] at hfound
    cases hfound
    exact absurd hversion (Nat.ne_of_gt hlater)

def AdvancesTasks (s s' : Store) : Prop :=
  forall taskId task, s.findTask taskId = some task ->
    exists task', s'.findTask taskId = some task' ∧
      (task' = task ∨ task.version < task'.version)

theorem advancesTasks_of_tasks_eq (h : s'.tasks = s.tasks) : AdvancesTasks s s' := by
  intro taskId task htask
  refine ⟨task, ?_, Or.inl rfl⟩
  rw [Store.findTask_of_tasks_eq h]
  exact htask

theorem TaskEffect.advancesTasks (h : TaskEffect s s') : AdvancesTasks s s' := by
  cases h with
  | unchanged htasks =>
      exact advancesTasks_of_tasks_eq htasks
  | created new hnew _ _ hother =>
      intro taskId task htask
      refine ⟨task, ?_, Or.inl rfl⟩
      rw [hother taskId]
      · exact htask
      · intro hid
        rw [hid, hnew] at htask
        cases htask
  | written id old data hfind htasks =>
      intro taskId task htask
      by_cases hid : taskId = id
      · rw [hid, hfind] at htask
        cases htask
        refine ⟨data.apply (old.version + 1) old, ?_, Or.inr ?_⟩
        · rw [Store.findTask_of_tasks_eq htasks, hid, Store.findTask_writeTask_self, hfind]
          rfl
        · rw [TaskUpdate.apply_version]
          exact Nat.lt_succ_self _
      · refine ⟨task, ?_, Or.inl rfl⟩
        rw [Store.findTask_of_tasks_eq htasks, Store.findTask_writeTask_of_ne hid]
        exact htask

theorem ReadBefore.advance {task : Task} (h : ReadBefore task s)
    (hadvances : AdvancesTasks s s') : ReadBefore task s' := by
  rcases h with ⟨current, hcurrent, hread⟩
  rcases hadvances _ current hcurrent with ⟨after, hafter, hsame | hlater⟩
  · rw [hsame] at hafter
    exact ⟨current, hafter, hread⟩
  · refine ⟨after, hafter, Or.inr ?_⟩
    rcases hread with hread | hread
    · rw [← hread]
      exact hlater
    · exact Nat.lt_trans hread hlater

theorem ReadBefore.effect {task : Task} (h : ReadBefore task s) (heffect : TaskEffect s s') :
    ReadBefore task s' :=
  h.advance heffect.advancesTasks

end ControlPlane
end CopilotFactory
