import CopilotFactory.Foundations.Result
import CopilotFactory.Foundations.Table
import CopilotFactory.Application.Errors
import CopilotFactory.Infrastructure.Rows

/-!
# The store

The tables of the database with the operations of their repositories.  Foreign
keys are part of the type: no operation can leave a lease or a merge queue item
whose task is missing.
-/

namespace CopilotFactory
namespace Infrastructure

open Foundations
open Domain
open Application

structure Store where
  tasks : Table TaskId Task Task.taskId
  taskLeases : Table LeaseId TaskLease TaskLease.leaseId
  workerPools : Table PoolId WorkerPool WorkerPool.workerPoolId
  mergeQueueItems :
    Table MergeQueueItemId MergeQueueItem MergeQueueItem.mergeQueueItemId
  auditEvents : List AuditEvent
  leaseTask : forall l, l ∈ taskLeases -> (tasks.find? l.taskId).isSome = true
  leasePool : forall l, l ∈ taskLeases -> (workerPools.find? l.poolId).isSome = true
  itemTask : forall i, i ∈ mergeQueueItems -> (tasks.find? i.taskId).isSome = true

namespace Store

variable {lease : TaskLease} {data : TaskUpdate} {pool : WorkerPool} {leaseId : LeaseId}

def empty : Store where
  tasks := Table.empty
  taskLeases := Table.empty
  workerPools := Table.empty
  mergeQueueItems := Table.empty
  auditEvents := []
  leaseTask := by
    intro l h
    exact absurd h (Table.not_mem_empty l)
  leasePool := by
    intro l h
    exact absurd h (Table.not_mem_empty l)
  itemTask := by
    intro i h
    exact absurd h (Table.not_mem_empty i)

/-!
## Tasks
-/

def findTask (s : Store) (taskId : TaskId) : Option Task :=
  s.tasks.find? taskId

variable {s : Store}

theorem taskId_of_findTask {taskId : TaskId} {task : Task} (h : s.findTask taskId = some task) :
    task.taskId = taskId :=
  Table.key_of_find? h

variable {s' : Store}

theorem findTask_of_tasks_eq (h : s'.tasks = s.tasks) (taskId : TaskId) :
    s'.findTask taskId = s.findTask taskId := by
  unfold findTask
  rw [h]

theorem exists_task_of_lease (h : lease ∈ s.taskLeases) :
    exists task, s.findTask lease.taskId = some task :=
  Option.isSome_iff_exists.mp (s.leaseTask lease h)

def writeTask (s : Store) (taskId : TaskId) (version : Nat) (data : TaskUpdate) : Store :=
  { s with
    tasks := s.tasks.modify taskId (data.apply version) (data.apply_taskId version)
    leaseTask := by
      intro l h
      rw [Table.find?_modify_isSome]
      exact s.leaseTask l h
    itemTask := by
      intro i h
      rw [Table.find?_modify_isSome]
      exact s.itemTask i h }

@[simp] theorem writeTask_auditEvents (s : Store) (taskId : TaskId) (version : Nat)
    (data : TaskUpdate) :
    (s.writeTask taskId version data).auditEvents = s.auditEvents :=
  rfl

@[simp] theorem findTask_writeTask_self (s : Store) (taskId : TaskId) (version : Nat)
    (data : TaskUpdate) :
    (s.writeTask taskId version data).findTask taskId =
      (s.findTask taskId).map (data.apply version) :=
  Table.find?_modify_self (data.apply_taskId version)

theorem findTask_writeTask_of_ne {taskId other : TaskId} {version : Nat} (h : other ≠ taskId) :
    (s.writeTask taskId version data).findTask other = s.findTask other :=
  Table.find?_modify_of_ne (data.apply_taskId version) h

/-- Update a task at the version the caller read, or report a conflict. -/
def updateTask (s : Store) (taskId : TaskId) (expectedVersion : Nat)
    (data : TaskUpdate) : Except ServiceError Store :=
  match s.findTask taskId with
  | none => .error (.versionConflict "Task" taskId (toString expectedVersion))
  | some task =>
      if task.version = expectedVersion then
        .ok (s.writeTask taskId (expectedVersion + 1) data)
      else
        .error (.versionConflict "Task" taskId (toString expectedVersion))

theorem updateTask_eq_ok {taskId : TaskId} {expectedVersion : Nat} :
    s.updateTask taskId expectedVersion data = .ok s' <->
      exists task, s.findTask taskId = some task ∧ task.version = expectedVersion ∧
        s' = s.writeTask taskId (expectedVersion + 1) data := by
  unfold updateTask
  cases hfind : s.findTask taskId with
  | none =>
      simp
  | some task =>
      by_cases hversion : task.version = expectedVersion
      · simp [hversion, eq_comm]
      · simp [hversion]

theorem updateTask_error {taskId : TaskId} {expectedVersion : Nat} {e : ServiceError}
    (h : s.updateTask taskId expectedVersion data = .error e) :
    exists version, e = .versionConflict "Task" taskId version := by
  unfold updateTask at h
  split at h
  · cases h
    exact ⟨_, rfl⟩
  · split at h
    · cases h
    · cases h
      exact ⟨_, rfl⟩

/-- An update at the version just read, in the same transaction, cannot conflict. -/
theorem updateTask_of_find {taskId : TaskId} {task : Task} (h : s.findTask taskId = some task)
    (data : TaskUpdate) :
    s.updateTask taskId task.version data =
      .ok (s.writeTask taskId (task.version + 1) data) := by
  simp [updateTask, h]

def createTask (s : Store) (task : Task) : Except ServiceError Store :=
  if h : s.tasks.find? task.taskId = none then
    .ok { s with
      tasks := s.tasks.insert task h
      leaseTask := by
        intro l hl
        rcases exists_task_of_lease hl with ⟨t, ht⟩
        rw [Table.find?_insert_of_some h ht]
        rfl
      itemTask := by
        intro i hi
        rcases Option.isSome_iff_exists.mp (s.itemTask i hi) with ⟨t, ht⟩
        rw [Table.find?_insert_of_some h ht]
        rfl }
  else
    .error (.constraintViolation "task" "task_id")

theorem createTask_spec {task : Task} (h : s.createTask task = .ok s') :
    s.findTask task.taskId = none ∧ s'.taskLeases = s.taskLeases ∧
      s'.findTask task.taskId = some task ∧
      (forall other, other ≠ task.taskId -> s'.findTask other = s.findTask other) := by
  unfold createTask at h
  split at h
  · rename_i hfresh
    cases h
    exact ⟨hfresh, rfl, Table.find?_insert_self hfresh,
      fun other hne => Table.find?_insert_of_ne hfresh hne⟩
  · cases h

theorem createTask_mergeQueueItems {task : Task} (h : s.createTask task = .ok s') :
    s'.mergeQueueItems = s.mergeQueueItems := by
  unfold createTask at h
  split at h
  · cases h
    rfl
  · cases h

theorem createTask_workerPools {task : Task} (h : s.createTask task = .ok s') :
    s'.workerPools = s.workerPools := by
  unfold createTask at h
  split at h
  · cases h
    rfl
  · cases h

theorem createTask_auditEvents {task : Task} (h : s.createTask task = .ok s') :
    s'.auditEvents = s.auditEvents := by
  unfold createTask at h
  split at h
  · cases h
    rfl
  · cases h

/-!
## Worker pools
-/

def createWorkerPool (s : Store) (pool : WorkerPool) : Except ServiceError Store :=
  if h : s.workerPools.find? pool.workerPoolId = none then
    .ok { s with
      workerPools := s.workerPools.insert pool h
      leasePool := by
        intro l hl
        rcases Option.isSome_iff_exists.mp (s.leasePool l hl) with ⟨p, hp⟩
        rw [Table.find?_insert_of_some h hp]
        rfl }
  else
    .error (.constraintViolation "worker_pool" "worker_pool_id")

theorem createWorkerPool_spec (h : s.createWorkerPool pool = .ok s') :
    s'.tasks = s.tasks ∧ s'.taskLeases = s.taskLeases := by
  unfold createWorkerPool at h
  split at h
  · cases h
    exact ⟨rfl, rfl⟩
  · cases h

theorem createWorkerPool_mergeQueueItems (h : s.createWorkerPool pool = .ok s') :
    s'.mergeQueueItems = s.mergeQueueItems := by
  unfold createWorkerPool at h
  split at h
  · cases h
    rfl
  · cases h

theorem createWorkerPool_auditEvents (h : s.createWorkerPool pool = .ok s') :
    s'.auditEvents = s.auditEvents := by
  unfold createWorkerPool at h
  split at h
  · cases h
    rfl
  · cases h

/-!
## Task leases
-/

def findLease (s : Store) (leaseId : LeaseId) : Option TaskLease :=
  s.taskLeases.find? leaseId

theorem mem_of_findLease (h : s.findLease leaseId = some lease) : lease ∈ s.taskLeases :=
  Table.mem_of_find? h

theorem findLease_of_leases_eq (h : s'.taskLeases = s.taskLeases) (leaseId : LeaseId) :
    s'.findLease leaseId = s.findLease leaseId := by
  unfold findLease
  rw [h]

/-- The statuses under which the repository considers a lease finished. -/
def terminalLeaseStatuses : List String :=
  ["COMPLETED", "TIMED_OUT", "CRASHED", "RECLAIMED"]

def findActiveByTaskId (s : Store) (taskId : TaskId) : Option TaskLease :=
  s.taskLeases.rows.find? (fun lease =>
    lease.taskId = taskId ∧ lease.status.label ∉ terminalLeaseStatuses)

/-- No lease status is spelled "COMPLETED", so a COMPLETING lease is still active here. -/
theorem label_mem_terminal_iff (status : WorkerLeaseStatus) :
    status.label ∈ terminalLeaseStatuses <->
      status = .timedOut ∨ status = .crashed ∨ status = .reclaimed := by
  cases status <;> simp [WorkerLeaseStatus.label, terminalLeaseStatuses]

theorem findActiveByTaskId_eq_none_iff {taskId : TaskId} :
    s.findActiveByTaskId taskId = none <->
      forall lease, lease ∈ s.taskLeases -> lease.taskId = taskId ->
        lease.status.label ∈ terminalLeaseStatuses := by
  unfold findActiveByTaskId
  rw [List.find?_eq_none]
  constructor
  · intro h lease hlease htask
    have hno := h lease hlease
    simpa [htask] using hno
  · intro h lease hlease
    simpa using h lease hlease

theorem findActiveByTaskId_some {taskId : TaskId} (h : s.findActiveByTaskId taskId = some lease) :
    lease ∈ s.taskLeases ∧ lease.taskId = taskId ∧
      lease.status.label ∉ terminalLeaseStatuses := by
  have hmem : lease ∈ s.taskLeases := List.mem_of_find?_eq_some h
  have hp := List.find?_some h
  simp only [decide_eq_true_eq] at hp
  exact ⟨hmem, hp.1, hp.2⟩

/-- The statuses under which the scheduler counts a lease against its pool. -/
def activeLeaseStatuses : List WorkerLeaseStatus :=
  [.leased, .starting, .running, .heartbeating, .completing]

def countedLeases (s : Store) (poolId : PoolId) : List TaskLease :=
  s.taskLeases.rows.filter (fun lease =>
    lease.status ∈ activeLeaseStatuses ∧ lease.poolId = poolId)

def activeLeaseCount (s : Store) (poolId : PoolId) : Nat :=
  (s.countedLeases poolId).length

theorem mem_countedLeases {poolId : PoolId} :
    lease ∈ s.countedLeases poolId <->
      lease ∈ s.taskLeases ∧ lease.status ∈ activeLeaseStatuses ∧
        lease.poolId = poolId := by
  simp [countedLeases, Table.mem_def]

def createLease (s : Store) (lease : TaskLease) : Except ServiceError Store :=
  if h : s.taskLeases.find? lease.leaseId = none then
    if htask : (s.tasks.find? lease.taskId).isSome = true then
      if hpool : (s.workerPools.find? lease.poolId).isSome = true then
        .ok { s with
          taskLeases := s.taskLeases.insert lease h
          leaseTask := by
            intro l hl
            rcases (Table.mem_insert h).mp hl with hl | hl
            · exact s.leaseTask l hl
            · rw [hl]
              exact htask
          leasePool := by
            intro l hl
            rcases (Table.mem_insert h).mp hl with hl | hl
            · exact s.leasePool l hl
            · rw [hl]
              exact hpool }
      else
        .error (.constraintViolation "task_lease" "pool_id")
    else
      .error (.constraintViolation "task_lease" "task_id")
  else
    .error (.constraintViolation "task_lease" "lease_id")

theorem createLease_spec (h : s.createLease lease = .ok s') :
    s.findLease lease.leaseId = none ∧ s'.tasks = s.tasks ∧
      s'.findLease lease.leaseId = some lease ∧
      (forall other, other ≠ lease.leaseId -> s'.findLease other = s.findLease other) ∧
      (forall l, l ∈ s'.taskLeases <-> l ∈ s.taskLeases ∨ l = lease) := by
  unfold createLease at h
  split at h
  · rename_i hfresh
    split at h
    · split at h
      · cases h
        exact ⟨hfresh, rfl, Table.find?_insert_self hfresh,
          fun other hne => Table.find?_insert_of_ne hfresh hne, fun l => Table.mem_insert hfresh⟩
      · cases h
    · cases h
  · cases h

theorem createLease_tables (h : s.createLease lease = .ok s') :
    s'.taskLeases.rows = s.taskLeases.rows ++ [lease] ∧ s'.workerPools = s.workerPools ∧
      s'.mergeQueueItems = s.mergeQueueItems ∧ s'.auditEvents = s.auditEvents := by
  unfold createLease at h
  split at h
  · split at h
    · split at h
      · cases h
        exact ⟨rfl, rfl, rfl, rfl⟩
      · cases h
    · cases h
  · cases h

theorem createLease_accepted_iff :
    (exists s', s.createLease lease = .ok s') <->
      s.findLease lease.leaseId = none ∧ (s.findTask lease.taskId).isSome = true ∧
        (s.workerPools.find? lease.poolId).isSome = true := by
  unfold createLease findLease findTask
  constructor
  · intro h
    rcases h with ⟨s', h⟩
    split at h
    · rename_i hnew
      split at h
      · rename_i htask
        split at h
        · rename_i hpool
          exact ⟨hnew, htask, hpool⟩
        · cases h
      · cases h
    · cases h
  · intro h
    rcases h with ⟨hnew, htask, hpool⟩
    rw [dif_pos hnew, dif_pos htask, dif_pos hpool]
    exact ⟨_, rfl⟩

theorem createLease_error {e : ServiceError} (h : s.createLease lease = .error e) :
    exists column, e = .constraintViolation "task_lease" column := by
  unfold createLease at h
  split at h
  · split at h
    · split at h
      · cases h
      · cases h
        exact ⟨_, rfl⟩
    · cases h
      exact ⟨_, rfl⟩
  · cases h
    exact ⟨_, rfl⟩

def writeLease (s : Store) (leaseId : LeaseId) (data : TaskLeaseUpdate) : Store :=
  { s with
    taskLeases := s.taskLeases.modify leaseId data.apply data.apply_leaseId
    leaseTask := by
      intro l hl
      rcases (Table.mem_modify data.apply_leaseId).mp hl with ⟨l₀, hl₀, heq⟩
      have htask : l.taskId = l₀.taskId := by
        rw [heq]
        split <;> rfl
      rw [htask]
      exact s.leaseTask l₀ hl₀
    leasePool := by
      intro l hl
      rcases (Table.mem_modify data.apply_leaseId).mp hl with ⟨l₀, hl₀, heq⟩
      have hpool : l.poolId = l₀.poolId := by
        rw [heq]
        split <;> rfl
      rw [hpool]
      exact s.leasePool l₀ hl₀ }

@[simp] theorem writeLease_tasks (s : Store) (leaseId : LeaseId) (data : TaskLeaseUpdate) :
    (s.writeLease leaseId data).tasks = s.tasks :=
  rfl

@[simp] theorem writeLease_findTask (s : Store) (leaseId : LeaseId)
    (data : TaskLeaseUpdate) (taskId : TaskId) :
    (s.writeLease leaseId data).findTask taskId = s.findTask taskId :=
  rfl

@[simp] theorem findLease_writeLease_self (s : Store) (leaseId : LeaseId)
    (data : TaskLeaseUpdate) :
    (s.writeLease leaseId data).findLease leaseId =
      (s.findLease leaseId).map data.apply :=
  Table.find?_modify_self data.apply_leaseId

theorem findLease_writeLease_of_ne {other : LeaseId} {data : TaskLeaseUpdate}
    (h : other ≠ leaseId) : (s.writeLease leaseId data).findLease other = s.findLease other :=
  Table.find?_modify_of_ne data.apply_leaseId h

/-- Update a lease whose status is still the one the caller read. -/
def updateLease (s : Store) (leaseId : LeaseId) (expectedStatus : WorkerLeaseStatus)
    (data : TaskLeaseUpdate) : Except ServiceError Store :=
  match s.findLease leaseId with
  | none => .error (.versionConflict "TaskLease" leaseId expectedStatus.label)
  | some lease =>
      if lease.status = expectedStatus then
        .ok (s.writeLease leaseId data)
      else
        .error (.versionConflict "TaskLease" leaseId expectedStatus.label)

theorem updateLease_of_find (h : s.findLease leaseId = some lease) (data : TaskLeaseUpdate) :
    s.updateLease leaseId lease.status data = .ok (s.writeLease leaseId data) := by
  simp [updateLease, h]

/-!
## Merge queue items
-/

def findItem (s : Store) (mergeQueueItemId : MergeQueueItemId) : Option MergeQueueItem :=
  s.mergeQueueItems.find? mergeQueueItemId

theorem findItem_of_items_eq (h : s'.mergeQueueItems = s.mergeQueueItems)
    (mergeQueueItemId : MergeQueueItemId) :
    s'.findItem mergeQueueItemId = s.findItem mergeQueueItemId := by
  unfold findItem
  rw [h]

def createItem (s : Store) (item : MergeQueueItem) : Except ServiceError Store :=
  if hnew : s.mergeQueueItems.find? item.mergeQueueItemId = none then
    if htask : (s.tasks.find? item.taskId).isSome = true then
      .ok { s with
        mergeQueueItems := s.mergeQueueItems.insert item hnew
        itemTask := by
          intro i hi
          rcases (Table.mem_insert hnew).mp hi with hi | hi
          · exact s.itemTask i hi
          · rw [hi]
            exact htask }
    else
      .error (.constraintViolation "merge_queue_item" "task_id")
  else
    .error (.constraintViolation "merge_queue_item" "merge_queue_item_id")

/-- The first item of a task, whatever its status. -/
def findItemByTaskId (s : Store) (taskId : TaskId) : Option MergeQueueItem :=
  s.mergeQueueItems.rows.find? (fun item => item.taskId = taskId)

theorem findItemByTaskId_eq_none_iff {taskId : TaskId} :
    s.findItemByTaskId taskId = none <->
      forall item, item ∈ s.mergeQueueItems -> item.taskId ≠ taskId := by
  simp [findItemByTaskId, Table.mem_def]

theorem createItem_eq_ok {item : MergeQueueItem} (h : s.createItem item = .ok s') :
    s.findItem item.mergeQueueItemId = none ∧ s'.tasks = s.tasks ∧
      s'.findItem item.mergeQueueItemId = some item ∧
      (forall id, id ≠ item.mergeQueueItemId -> s'.findItem id = s.findItem id) := by
  unfold createItem at h
  split at h
  · rename_i hnew
    split at h
    · cases h
      exact ⟨hnew, rfl, Table.find?_insert_self hnew,
        fun id hne => Table.find?_insert_of_ne hnew hne⟩
    · cases h
  · cases h

theorem createItem_kept {item : MergeQueueItem} (h : s.createItem item = .ok s') :
    s'.taskLeases = s.taskLeases ∧ s'.auditEvents = s.auditEvents := by
  unfold createItem at h
  split at h
  · split at h
    · cases h
      exact ⟨rfl, rfl⟩
    · cases h
  · cases h

theorem createItem_of_new (item : MergeQueueItem)
    (hnew : s.findItem item.mergeQueueItemId = none)
    (htask : (s.findTask item.taskId).isSome = true) : exists s', s.createItem item = .ok s' := by
  unfold findItem at hnew
  unfold findTask at htask
  simp [createItem, hnew, htask]

def writeItem (s : Store) (mergeQueueItemId : MergeQueueItemId)
    (data : MergeQueueItemUpdate) : Store :=
  { s with
    mergeQueueItems :=
      s.mergeQueueItems.modify mergeQueueItemId data.apply data.apply_mergeQueueItemId
    itemTask := by
      intro i hi
      rcases (Table.mem_modify data.apply_mergeQueueItemId).mp hi with ⟨i₀, hi₀, heq⟩
      have htask : i.taskId = i₀.taskId := by
        rw [heq]
        split <;> rfl
      rw [htask]
      exact s.itemTask i₀ hi₀ }

@[simp] theorem writeItem_auditEvents (s : Store) (mergeQueueItemId : MergeQueueItemId)
    (data : MergeQueueItemUpdate) :
    (s.writeItem mergeQueueItemId data).auditEvents = s.auditEvents :=
  rfl

@[simp] theorem writeItem_findTask (s : Store) (mergeQueueItemId : MergeQueueItemId)
    (data : MergeQueueItemUpdate) (taskId : TaskId) :
    (s.writeItem mergeQueueItemId data).findTask taskId = s.findTask taskId :=
  rfl

@[simp] theorem findItem_writeItem_self (s : Store) (mergeQueueItemId : MergeQueueItemId)
    (data : MergeQueueItemUpdate) :
    (s.writeItem mergeQueueItemId data).findItem mergeQueueItemId =
      (s.findItem mergeQueueItemId).map data.apply :=
  Table.find?_modify_self data.apply_mergeQueueItemId

theorem findItem_writeItem_of_ne {mergeQueueItemId other : MergeQueueItemId}
    {data : MergeQueueItemUpdate} (hne : other ≠ mergeQueueItemId) :
    (s.writeItem mergeQueueItemId data).findItem other = s.findItem other :=
  Table.find?_modify_of_ne data.apply_mergeQueueItemId hne

@[simp] theorem findItem_writeTask (s : Store) (taskId : TaskId) (version : Nat)
    (data : TaskUpdate) (mergeQueueItemId : MergeQueueItemId) :
    (s.writeTask taskId version data).findItem mergeQueueItemId =
      s.findItem mergeQueueItemId :=
  rfl

def updateItem (s : Store) (mergeQueueItemId : MergeQueueItemId)
    (expectedStatus : MergeQueueItemStatus)
    (data : MergeQueueItemUpdate) : Except ServiceError Store :=
  match s.findItem mergeQueueItemId with
  | none => .error (.versionConflict "MergeQueueItem" mergeQueueItemId expectedStatus.label)
  | some item =>
      if item.status = expectedStatus then
        .ok (s.writeItem mergeQueueItemId data)
      else
        .error (.versionConflict "MergeQueueItem" mergeQueueItemId expectedStatus.label)

theorem updateItem_eq_ok {mergeQueueItemId : MergeQueueItemId}
    {expectedStatus : MergeQueueItemStatus} {data : MergeQueueItemUpdate} :
    s.updateItem mergeQueueItemId expectedStatus data = .ok s' <->
      exists item, s.findItem mergeQueueItemId = some item ∧
        item.status = expectedStatus ∧ s' = s.writeItem mergeQueueItemId data := by
  unfold updateItem
  cases hfind : s.findItem mergeQueueItemId with
  | none =>
      simp
  | some item =>
      by_cases hstatus : item.status = expectedStatus
      · simp [hstatus, eq_comm]
      · simp [hstatus]

/-!
## Audit events
-/

def appendAudit (s : Store) (event : AuditEvent) : Store :=
  { s with auditEvents := s.auditEvents ++ [event] }

@[simp] theorem appendAudit_tasks (s : Store) (event : AuditEvent) :
    (s.appendAudit event).tasks = s.tasks :=
  rfl

@[simp] theorem appendAudit_taskLeases (s : Store) (event : AuditEvent) :
    (s.appendAudit event).taskLeases = s.taskLeases :=
  rfl

@[simp] theorem appendAudit_mergeQueueItems (s : Store) (event : AuditEvent) :
    (s.appendAudit event).mergeQueueItems = s.mergeQueueItems :=
  rfl

@[simp] theorem appendAudit_auditEvents (s : Store) (event : AuditEvent) :
    (s.appendAudit event).auditEvents = s.auditEvents ++ [event] :=
  rfl

@[simp] theorem appendAudit_findTask (s : Store) (event : AuditEvent) (taskId : TaskId) :
    (s.appendAudit event).findTask taskId = s.findTask taskId :=
  rfl

@[simp] theorem appendAudit_findItem (s : Store) (event : AuditEvent)
    (mergeQueueItemId : MergeQueueItemId) :
    (s.appendAudit event).findItem mergeQueueItemId = s.findItem mergeQueueItemId :=
  rfl

end Store

end Infrastructure
end CopilotFactory
