import CopilotFactory.Foundations.Lockstep
import CopilotFactory.ControlPlane.Requests

/-!
# Stores that differ in a task's past

Two stores are alike if they differ only in what is left of an earlier life of a task:
finished leases, and counters on its row that the policies do not look at any more.  The
operations of the store keep two stores alike.
-/

namespace CopilotFactory
namespace Reopening

open Foundations
open Domain
open Infrastructure

variable {data data' : TaskUpdate} {version version' : Nat}

/-- What stays the same over a run of the policies that look at a counter. -/
structure FixedPolicies where
  retryPolicy : RetryPolicy
  maxReviewRounds : Nat

/-- The rows that are left of the earlier life of a task, by their ids. -/
structure Remains where
  leases : List LeaseId
  /-- The leases that the state machine lets go on. -/
  movableLeases : List LeaseId
  cycles : List ReviewCycleId
  /-- The review cycles that are not over. -/
  openCycles : List ReviewCycleId
  packets : List String
  decisions : List String
deriving DecidableEq

/-!
## Tasks and merge queue items
-/

/-- A task without its version and its counters. -/
def uncounted (task : Task) : Task :=
  { task with version := 0, retryCount := 0, reviewRoundCount := 0 }

/-- The counters of two tasks are equal, or the policies never let them count. -/
structure SameCounters (policies : FixedPolicies) (task task' : Task) : Prop where
  retries : task.retryCount = task'.retryCount ∨ policies.retryPolicy.maxAttempts = 0
  rounds : task.reviewRoundCount = task'.reviewRoundCount ∨ policies.maxReviewRounds ≤ 1

structure SameTask (policies : FixedPolicies) (task task' : Task) : Prop where
  columns : uncounted task = uncounted task'
  counters : SameCounters policies task task'

theorem SameTask.refl (policies : FixedPolicies) (task : Task) :
    SameTask policies task task :=
  ⟨rfl, Or.inl rfl, Or.inl rfl⟩

variable {policies : FixedPolicies} {task task' : Task}

theorem SameTask.repositoryId (h : SameTask policies task task') :
    task.repositoryId = task'.repositoryId := by
  show (uncounted task).repositoryId = (uncounted task').repositoryId
  rw [h.columns]

theorem SameTask.status (h : SameTask policies task task') : task.status = task'.status := by
  show (uncounted task).status = (uncounted task').status
  rw [h.columns]

theorem SameTask.currentReviewCycleId (h : SameTask policies task task') :
    task.currentReviewCycleId = task'.currentReviewCycleId := by
  show (uncounted task).currentReviewCycleId = (uncounted task').currentReviewCycleId
  rw [h.columns]

def uncountedUpdate (data : TaskUpdate) : TaskUpdate :=
  { data with retryCount := none, reviewRoundCount := none }

theorem uncounted_apply (data : TaskUpdate) (version : Nat) (task : Task) :
    uncounted (data.apply version task) =
      (uncountedUpdate data).apply 0 (uncounted task) :=
  rfl

theorem SameTask.apply (h : SameTask policies task task')
    (hdata : uncountedUpdate data = uncountedUpdate data')
    (hcounters : SameCounters policies (data.apply version task) (data'.apply version' task')) :
    SameTask policies (data.apply version task) (data'.apply version' task') := by
  constructor
  · rw [uncounted_apply, uncounted_apply, hdata, h.columns]
  · exact hcounters

theorem SameTask.apply_uncounted (h : SameTask policies task task')
    (hretries : data.retryCount = none) (hrounds : data.reviewRoundCount = none) :
    SameTask policies (data.apply version task) (data.apply version' task') := by
  apply h.apply rfl
  constructor
  · rw [TaskUpdate.apply_retryCount, TaskUpdate.apply_retryCount, hretries]
    exact h.counters.retries
  · rw [TaskUpdate.apply_reviewRoundCount, TaskUpdate.apply_reviewRoundCount, hrounds]
    exact h.counters.rounds

/-- Items that differ in their positions only. -/
def SameItem (item item' : MergeQueueItem) : Prop :=
  { item with position := 0 } = { item' with position := 0 }

theorem SameItem.taskId {item item' : MergeQueueItem} (h : SameItem item item') :
    item.taskId = item'.taskId :=
  (MergeQueueItem.mk.inj h).2.1

/-!
## Stores
-/

def Nothing {K : Type} (_ : K) : Prop :=
  False

/-- A lease of the earlier life is finished.  Only some can be moved on. -/
def FinishedLease (remains : Remains) (lease : TaskLease) : Prop :=
  lease.status.label ∈ Store.terminalLeaseStatuses ∧
    (lease.leaseId ∉ remains.movableLeases ->
      isTerminalWorkerLeaseState lease.status = true)

/-- The leases of the earlier life are in the one store, finished, and not in the other. -/
structure AlikeStores (policies : FixedPolicies) (remains : Remains) (s t : Store) :
    Prop where
  tasks : AlikeTables Nothing (SameTask policies) s.tasks t.tasks
  leases : AlikeTables (fun leaseId => leaseId ∈ remains.leases) Eq s.taskLeases t.taskLeases
  finished : forall lease, lease ∈ s.taskLeases -> lease.leaseId ∈ remains.leases ->
    FinishedLease remains lease
  gone : forall lease, lease ∈ t.taskLeases -> lease.leaseId ∉ remains.leases
  workerPools : s.workerPools = t.workerPools
  items : AlikeTables Nothing SameItem s.mergeQueueItems t.mergeQueueItems

def AlikeCommits (policies : FixedPolicies) (remains : Remains) {α : Type}
    (x y : Store × α) : Prop :=
  AlikeStores policies remains x.1 y.1

namespace AlikeStores

variable {remains : Remains} {s t : Store}

variable {leaseId : LeaseId}

theorem findTask_rel (h : AlikeStores policies remains s t) (taskId : TaskId) :
    Option.Rel (SameTask policies) (s.findTask taskId) (t.findTask taskId) :=
  h.tasks taskId (fun hno => hno)

/-- A task is in both stores or in none. -/
theorem task_cases (h : AlikeStores policies remains s t) (taskId : TaskId) :
    (s.findTask taskId = none ∧ t.findTask taskId = none) ∨
      exists task task', s.findTask taskId = some task ∧ t.findTask taskId = some task' ∧
        SameTask policies task task' :=
  cases_of_rel (h.findTask_rel taskId)

theorem task_isSome_iff (h : AlikeStores policies remains s t) (taskId : TaskId) :
    (s.findTask taskId).isSome = true <-> (t.findTask taskId).isSome = true :=
  isSome_iff_of_rel (h.findTask_rel taskId)

theorem status_eq (h : AlikeStores policies remains s t) (taskId : TaskId) :
    (s.findTask taskId).map Task.status = (t.findTask taskId).map Task.status := by
  rcases h.task_cases taskId with ⟨hs, ht⟩ | ⟨task, task', hs, ht, hsame⟩
  · rw [hs, ht]
  · rw [hs, ht, Option.map_some, Option.map_some, hsame.status]

theorem findLease_eq (h : AlikeStores policies remains s t) (hnew : leaseId ∉ remains.leases) :
    s.findLease leaseId = t.findLease leaseId :=
  h.leases.find?_eq hnew

/-- A lease of the earlier life is found finished or not at all. -/
theorem findLease_old (h : AlikeStores policies remains s t) (hold : leaseId ∈ remains.leases) :
    (forall lease, s.findLease leaseId = some lease -> FinishedLease remains lease) ∧
      t.findLease leaseId = none := by
  constructor
  · intro lease hlease
    apply h.finished lease (Table.mem_of_find? hlease)
    rw [Table.key_of_find? hlease]
    exact hold
  · apply Table.find?_eq_none_iff.mpr
    intro lease hlease hid
    apply h.gone lease hlease
    rw [hid]
    exact hold

theorem findActiveByTaskId_iff (h : AlikeStores policies remains s t) (taskId : TaskId) :
    s.findActiveByTaskId taskId = none <-> t.findActiveByTaskId taskId = none := by
  rw [Store.findActiveByTaskId_eq_none_iff, Store.findActiveByTaskId_eq_none_iff]
  constructor
  · intro hterminal lease hlease htask
    rcases h.leases.mem_right hlease (h.gone lease hlease) with ⟨_, hmem, rfl⟩
    exact hterminal _ hmem htask
  · intro hterminal lease hlease htask
    by_cases hold : lease.leaseId ∈ remains.leases
    · exact (h.finished lease hlease hold).1
    · rcases h.leases.mem hlease hold with ⟨_, hmem, rfl⟩
      exact hterminal _ hmem htask

theorem findItem_iff (h : AlikeStores policies remains s t)
    (mergeQueueItemId : MergeQueueItemId) :
    s.findItem mergeQueueItemId = none <-> t.findItem mergeQueueItemId = none :=
  eq_none_iff_of_rel (h.items mergeQueueItemId (fun hno => hno))

theorem findItemByTaskId_iff (h : AlikeStores policies remains s t) (taskId : TaskId) :
    s.findItemByTaskId taskId = none <-> t.findItemByTaskId taskId = none := by
  rw [Store.findItemByTaskId_eq_none_iff, Store.findItemByTaskId_eq_none_iff]
  constructor
  · intro hnone item hitem
    rcases h.items.mem_right hitem (fun hno => hno) with ⟨item', hmem, hsame⟩
    rw [← hsame.taskId]
    exact hnone item' hmem
  · intro hnone item hitem
    rcases h.items.mem hitem (fun hno => hno) with ⟨item', hmem, hsame⟩
    rw [hsame.taskId]
    exact hnone item' hmem

/-!
### Writes
-/

theorem appendAudit (h : AlikeStores policies remains s t) (event event' : AuditEvent) :
    AlikeStores policies remains (s.appendAudit event) (t.appendAudit event') :=
  ⟨h.tasks, h.leases, h.finished, h.gone, h.workerPools, h.items⟩

theorem writeTask (h : AlikeStores policies remains s t) {taskId : TaskId}
    (hdata : forall task task', s.findTask taskId = some task ->
      t.findTask taskId = some task' -> SameTask policies task task' ->
      SameTask policies (data.apply version task) (data'.apply version' task')) :
    AlikeStores policies remains (s.writeTask taskId version data)
      (t.writeTask taskId version' data') where
  tasks := h.tasks.modify (data.apply_taskId version) (data'.apply_taskId version') hdata
  leases := h.leases
  finished := h.finished
  gone := h.gone
  workerPools := h.workerPools
  items := h.items

theorem updateTask (h : AlikeStores policies remains s t) {taskId : TaskId}
    (hs : s.findTask taskId = some task) (ht : t.findTask taskId = some task')
    (hdata : SameTask policies (data.apply (task.version + 1) task)
      (data'.apply (task'.version + 1) task')) :
    Lockstep (AlikeStores policies remains) (s.updateTask taskId task.version data)
      (t.updateTask taskId task'.version data') := by
  rw [Store.updateTask_of_find hs, Store.updateTask_of_find ht]
  apply lockstep_ok
  apply h.writeTask
  intro found found' hfound hfound' _
  rw [hs] at hfound
  rw [ht] at hfound'
  cases hfound
  cases hfound'
  exact hdata

theorem createTask (h : AlikeStores policies remains s t) (task : Task) :
    Lockstep (AlikeStores policies remains) (s.createTask task) (t.createTask task) := by
  unfold Store.createTask
  apply lockstep_dite (eq_none_iff_of_rel (h.findTask_rel task.taskId))
  · intro hs ht
    exact lockstep_ok
      { tasks := h.tasks.insert hs ht rfl (SameTask.refl policies task)
        leases := h.leases
        finished := h.finished
        gone := h.gone
        workerPools := h.workerPools
        items := h.items }
  · intro _ _
    trivial

theorem createWorkerPool (h : AlikeStores policies remains s t) (pool : WorkerPool) :
    Lockstep (AlikeStores policies remains) (s.createWorkerPool pool)
      (t.createWorkerPool pool) := by
  unfold Store.createWorkerPool
  apply lockstep_dite
  · rw [h.workerPools]
  · intro hs ht
    refine lockstep_ok ⟨h.tasks, h.leases, h.finished, h.gone, ?_, h.items⟩
    simp only [h.workerPools]
  · intro _ _
    trivial

theorem createLease (h : AlikeStores policies remains s t) {lease : TaskLease}
    (hnew : lease.leaseId ∉ remains.leases) :
    Lockstep (AlikeStores policies remains) (s.createLease lease) (t.createLease lease) := by
  unfold Store.createLease
  apply lockstep_dite
  · rw [show s.taskLeases.find? _ = _ from h.findLease_eq hnew]
    rfl
  · intro hs ht
    apply lockstep_dite (h.task_isSome_iff lease.taskId)
    · intro _ _
      apply lockstep_dite
      · rw [h.workerPools]
      · intro _ _
        refine lockstep_ok ⟨h.tasks, h.leases.insert hs ht rfl rfl, ?_, ?_, h.workerPools,
          h.items⟩
        · intro l hl hold
          rcases (Table.mem_insert hs).mp hl with hl | hl
          · exact h.finished l hl hold
          · rw [hl] at hold
            exact absurd hold hnew
        · intro l hl
          rcases (Table.mem_insert ht).mp hl with hl | hl
          · exact h.gone l hl
          · rw [hl]
            exact hnew
      · intro _ _
        trivial
    · intro _ _
      trivial
  · intro _ _
    trivial

theorem writeLease (h : AlikeStores policies remains s t) (hnew : leaseId ∉ remains.leases)
    (data : TaskLeaseUpdate) :
    AlikeStores policies remains (s.writeLease leaseId data) (t.writeLease leaseId data) where
  tasks := h.tasks
  leases := h.leases.modify data.apply_leaseId data.apply_leaseId
    (fun _ _ _ _ heq => congrArg data.apply heq)
  finished := by
    intro l hl hold
    rcases (Table.mem_modify data.apply_leaseId).mp hl with ⟨l₀, hl₀, heq⟩
    by_cases hid : l₀.leaseId = leaseId
    · rw [if_pos hid] at heq
      rw [heq, data.apply_leaseId, hid] at hold
      exact absurd hold hnew
    · rw [if_neg hid] at heq
      rw [heq] at hold ⊢
      exact h.finished l₀ hl₀ hold
  gone := by
    intro l hl
    rcases (Table.mem_modify data.apply_leaseId).mp hl with ⟨l₀, hl₀, heq⟩
    by_cases hid : l₀.leaseId = leaseId
    · rw [if_pos hid] at heq
      rw [heq, data.apply_leaseId, hid]
      exact hnew
    · rw [if_neg hid] at heq
      rw [heq]
      exact h.gone l₀ hl₀
  workerPools := h.workerPools
  items := h.items

theorem updateLease (h : AlikeStores policies remains s t) (hnew : leaseId ∉ remains.leases)
    {lease : TaskLease} (hs : s.findLease leaseId = some lease)
    (ht : t.findLease leaseId = some lease) (data : TaskLeaseUpdate) :
    Lockstep (AlikeStores policies remains) (s.updateLease leaseId lease.status data)
      (t.updateLease leaseId lease.status data) := by
  rw [Store.updateLease_of_find hs, Store.updateLease_of_find ht]
  exact lockstep_ok (h.writeLease hnew data)

theorem createItem (h : AlikeStores policies remains s t) {item item' : MergeQueueItem}
    (hsame : SameItem item item') :
    Lockstep (AlikeStores policies remains) (s.createItem item) (t.createItem item') := by
  have hid : item.mergeQueueItemId = item'.mergeQueueItemId := (MergeQueueItem.mk.inj hsame).1
  unfold Store.createItem
  apply lockstep_dite
  · rw [← hid]
    exact h.findItem_iff item.mergeQueueItemId
  · intro hs ht
    apply lockstep_dite
    · rw [← hsame.taskId]
      exact h.task_isSome_iff item.taskId
    · intro _ _
      exact lockstep_ok
        ⟨h.tasks, h.leases, h.finished, h.gone, h.workerPools, h.items.insert hs ht hid hsame⟩
    · intro _ _
      trivial
  · intro _ _
    trivial

end AlikeStores

end Reopening
end CopilotFactory
