import CopilotFactory.Merging.MergeExecutorService

/-!
# Merge queue service

An approved task enters the queue of its repository with a new item, in the
transaction that takes the task to QUEUED_FOR_MERGE.  A merge worker claims the
next ENQUEUED item, in the order of the queue.
-/

namespace CopilotFactory
namespace Merging

open Foundations
open Domain
open Infrastructure
open Application

variable {s s' : Store} {now : Millis} {itemId : MergeQueueItemId}

/-- The ordered queries of the queue.  Both return the ENQUEUED items of the repository,
highest priority first, then earliest, then by id. -/
structure QueueQueries where
  findEnqueuedByRepositoryId : (repositoryId : String) -> Store -> List MergeQueueItem
  findNextEnqueued : (repositoryId : String) -> Store -> Option MergeQueueItem
  enqueued : forall repositoryId s item,
    item ∈ findEnqueuedByRepositoryId repositoryId s <->
      item ∈ s.mergeQueueItems ∧ item.repositoryId = repositoryId ∧
        item.status = .enqueued
  next : forall repositoryId s,
    findNextEnqueued repositoryId s = (findEnqueuedByRepositoryId repositoryId s).head?

def arrivalOrder : QueueQueries where
  findEnqueuedByRepositoryId := fun repositoryId s =>
    s.mergeQueueItems.rows.filter (fun item =>
      item.repositoryId = repositoryId && item.status = .enqueued)
  findNextEnqueued := fun repositoryId s =>
    (s.mergeQueueItems.rows.filter (fun item =>
      item.repositoryId = repositoryId && item.status = .enqueued)).head?
  enqueued := by
    intro repositoryId s item
    simp [Table.mem_def]
  next := by
    intro repositoryId s
    rfl

variable {queries : QueueQueries}

theorem findNextEnqueued_spec {repositoryId : String} {item : MergeQueueItem}
    (h : queries.findNextEnqueued repositoryId s = some item) :
    s.findItem item.mergeQueueItemId = some item ∧ item.repositoryId = repositoryId ∧
      item.status = .enqueued := by
  rw [queries.next] at h
  rcases (queries.enqueued repositoryId s item).mp (List.mem_of_mem_head? h) with
    ⟨hmem, hrepository, hstatus⟩
  exact ⟨Table.find?_key_of_mem hmem, hrepository, hstatus⟩

/-!
## Positions
-/

def updatePositions (updates : List (MergeQueueItemId × Nat)) (s : Store) : Store :=
  updates.foldl (fun s update => s.writeItem update.1 { position := some update.2 }) s

def recalculatePositions (queries : QueueQueries) (repositoryId : String)
    (s : Store) : Store :=
  let items := queries.findEnqueuedByRepositoryId repositoryId s
  updatePositions
    (items.zipIdx.map (fun entry => (entry.1.mergeQueueItemId, entry.2 + 1))) s

/-- The items differ in their positions only, and nothing else has changed. -/
structure Repositioned (s s' : Store) : Prop where
  tasks : s'.tasks = s.tasks
  items : forall mergeQueueItemId, exists position : Option Nat,
    s'.findItem mergeQueueItemId =
      (s.findItem mergeQueueItemId).map
        (fun item => MergeQueueItemUpdate.apply { position := position } item)

theorem repositioned_refl (s : Store) : Repositioned s s := by
  constructor
  · rfl
  · intro mergeQueueItemId
    refine ⟨none, ?_⟩
    have hid : (fun item => MergeQueueItemUpdate.apply { position := none } item) =
        (id : MergeQueueItem -> MergeQueueItem) := by
      funext item
      rfl
    rw [hid, Option.map_id, id]

theorem Repositioned.write (h : Repositioned s s') (mergeQueueItemId : MergeQueueItemId)
    (position : Nat) :
    Repositioned s (s'.writeItem mergeQueueItemId { position := some position }) := by
  constructor
  · exact h.tasks
  · intro id
    rcases h.items id with ⟨old, hold⟩
    by_cases hid : id = mergeQueueItemId
    · refine ⟨some position, ?_⟩
      rw [hid] at hold ⊢
      rw [Store.findItem_writeItem_self, hold, Option.map_map]
      rfl
    · refine ⟨old, ?_⟩
      rw [Store.findItem_writeItem_of_ne hid]
      exact hold

theorem repositioned_updatePositions (updates : List (MergeQueueItemId × Nat))
    (h : Repositioned s s') : Repositioned s (updatePositions updates s') := by
  induction updates generalizing s' with
  | nil =>
      exact h
  | cons update rest ih =>
      exact ih (h.write update.1 update.2)

theorem repositioned_recalculate (queries : QueueQueries) (repositoryId : String)
    (s : Store) :
    Repositioned s (recalculatePositions queries repositoryId s) :=
  repositioned_updatePositions _ (repositioned_refl s)

theorem updatePositions_kept (updates : List (MergeQueueItemId × Nat)) (s : Store) :
    (updatePositions updates s).taskLeases = s.taskLeases ∧
      (updatePositions updates s).auditEvents = s.auditEvents := by
  induction updates generalizing s with
  | nil =>
      exact ⟨rfl, rfl⟩
  | cons update rest ih =>
      exact ih (s.writeItem update.1 { position := some update.2 })

theorem recalculatePositions_kept (queries : QueueQueries) (repositoryId : String)
    (s : Store) :
    (recalculatePositions queries repositoryId s).taskLeases = s.taskLeases ∧
      (recalculatePositions queries repositoryId s).auditEvents = s.auditEvents :=
  updatePositions_kept _ s

/-!
## Enqueueing
-/

structure EnqueueForMergeParams where
  taskId : TaskId
  approvedCommitSha : Option String
  actor : ActorInfo

structure EnqueueForMergeResult where
  item : MergeQueueItem
  task : Task
  taskAuditEvent : AuditEvent
  itemAuditEvent : AuditEvent
deriving DecidableEq

def newItem (now : Millis) (itemId : MergeQueueItemId) (params : EnqueueForMergeParams)
    (task : Task) (position : Nat) : MergeQueueItem where
  mergeQueueItemId := itemId
  taskId := params.taskId
  repositoryId := task.repositoryId
  status := .enqueued
  position := position
  approvedCommitSha := params.approvedCommitSha
  enqueuedAt := toColumn now
  startedAt := none
  completedAt := none

def createdAudit (itemId : MergeQueueItemId) (actor : ActorInfo) : AuditEvent where
  entityType := "merge-queue-item"
  entityId := itemId
  eventType := "created"
  actorType := actor.type
  actorId := actor.id
  oldState := none
  newState := some (.plain MergeQueueItemStatus.enqueued.label)

/-- The existing item counts whatever its status is. -/
def enqueueForMerge (queries : QueueQueries) (now : Millis) (itemId : MergeQueueItemId)
    (params : EnqueueForMergeParams)
    (s : Store) : Except ServiceError (Store × EnqueueForMergeResult) := do
  let task ← orThrow (s.findTask params.taskId) (.entityNotFound "Task" params.taskId)
  ensure (task.status = .approved) (.taskNotApproved params.taskId task.status.label)
  refuse (s.findItemByTaskId params.taskId) (fun existingItem =>
    .duplicateEnqueue params.taskId existingItem.mergeQueueItemId)
  commitTransition "Task" params.taskId task.status.label TaskStatus.queuedForMerge.label
    (validateTransition task.status .queuedForMerge {})
  let enqueuedItems := queries.findEnqueuedByRepositoryId task.repositoryId s
  let createdItem := newItem now itemId params task (enqueuedItems.length + 1)
  let s₁ ← s.createItem createdItem
  let s₂ ← s₁.updateTask params.taskId task.version { status := some .queuedForMerge }
  let updatedTask ← orThrow (s₂.findTask params.taskId)
    (.entityNotFound "Task" params.taskId)
  let taskAuditEvent := stateTransition "task" params.taskId TaskStatus.approved.label
    TaskStatus.queuedForMerge.label params.actor
  let itemAuditEvent := createdAudit itemId params.actor
  let s₃ := (s₂.appendAudit taskAuditEvent).appendAudit itemAuditEvent
  pure (recalculatePositions queries task.repositoryId s₃,
    { item := createdItem
      task := updatedTask
      taskAuditEvent := taskAuditEvent
      itemAuditEvent := itemAuditEvent })

/-!
## Dequeueing
-/

structure DequeueNextParams where
  repositoryId : String
  actor : ActorInfo

structure DequeueNextResult where
  item : MergeQueueItem
  auditEvent : AuditEvent
deriving DecidableEq

def claimItem (now : Millis) : MergeQueueItemUpdate where
  status := some .preparing
  startedAt := some (toColumn now)

/-- The claim does not look at what else is in flight. -/
def dequeueNext (queries : QueueQueries) (now : Millis) (params : DequeueNextParams)
    (s : Store) : Except ServiceError (Store × Option DequeueNextResult) :=
  match queries.findNextEnqueued params.repositoryId s with
  | none => .ok (s, none)
  | some nextItem => do
      commitTransition "MergeQueueItem" nextItem.mergeQueueItemId
        MergeQueueItemStatus.enqueued.label MergeQueueItemStatus.preparing.label
        (validateMergeQueueItemTransition .enqueued .preparing
          { preparationStarted := some true })
      let s₁ ← s.updateItem nextItem.mergeQueueItemId .enqueued (claimItem now)
      let claimedItem ← orThrow (s₁.findItem nextItem.mergeQueueItemId)
        (.entityNotFound "MergeQueueItem" nextItem.mergeQueueItemId)
      let auditEvent := stateTransition "merge-queue-item" nextItem.mergeQueueItemId
        MergeQueueItemStatus.enqueued.label MergeQueueItemStatus.preparing.label params.actor
      pure (recalculatePositions queries params.repositoryId (s₁.appendAudit auditEvent),
        some
          { item := claimedItem
            auditEvent := auditEvent })

/-!
## What the service does
-/

/-- An item was added to those that were stored; apart from their positions these are as
they were. -/
structure ItemAdded (item : MergeQueueItem) (s s' : Store) : Prop where
  new : s.findItem item.mergeQueueItemId = none
  added : exists position, s'.findItem item.mergeQueueItemId =
    some (MergeQueueItemUpdate.apply { position := position } item)
  others : forall id, id ≠ item.mergeQueueItemId -> exists position : Option Nat,
    s'.findItem id =
      (s.findItem id).map
        (fun item => MergeQueueItemUpdate.apply { position := position } item)

theorem enqueueForMerge_spec {params : EnqueueForMergeParams} {result : EnqueueForMergeResult}
    (h : enqueueForMerge queries now itemId params s = .ok (s', result)) :
    exists task position,
      s.findTask params.taskId = some task ∧
      task.status = .approved ∧
      s.findItemByTaskId params.taskId = none ∧
      result.item = newItem now itemId params task position ∧
      ItemAdded result.item s s' ∧
      s'.tasks = (s.writeTask params.taskId (task.version + 1)
        { status := some .queuedForMerge }).tasks := by
  simp only [enqueueForMerge, bind_eq_ok, orThrow_eq_ok, ensure_eq_ok, refuse_eq_ok,
    commitTransition_eq_ok, pure_eq_ok, Prod.mk.injEq] at h
  rcases h with ⟨task, htask, _, hstatus, _, hnone, _, _, s₁, hcreate, s₂, hupdate,
    updated, _, hs', hresult⟩
  rcases Store.createItem_eq_ok hcreate with ⟨hnew, htasks₁, hself, hother⟩
  rcases Store.updateTask_eq_ok.mp hupdate with ⟨_, _, _, hs₂⟩
  let s₃ := (s₂.appendAudit (stateTransition "task" params.taskId
    TaskStatus.approved.label TaskStatus.queuedForMerge.label params.actor)).appendAudit
      (createdAudit itemId params.actor)
  have hmoved : Repositioned s₃ s' := by
    rw [← hs']
    exact repositioned_recalculate queries task.repositoryId s₃
  have hfind : forall id, s₃.findItem id = s₁.findItem id := by
    intro id
    change s₂.findItem id = s₁.findItem id
    rw [hs₂, Store.findItem_writeTask]
  have hitem : result.item = newItem now itemId params task
      ((queries.findEnqueuedByRepositoryId task.repositoryId s).length + 1) := by
    rw [← hresult]
  refine ⟨task, _, htask, hstatus, hnone, hitem, ?_, ?_⟩
  · rw [hitem]
    constructor
    · exact hnew
    · rcases hmoved.items itemId with ⟨position, hposition⟩
      refine ⟨position, ?_⟩
      change s'.findItem itemId = _
      rw [hposition, hfind]
      exact congrArg _ hself
    · intro id hne
      rcases hmoved.items id with ⟨position, hposition⟩
      exact ⟨position, by rw [hposition, hfind, hother id hne]⟩
  · rw [hmoved.tasks]
    change s₂.tasks = _
    rw [hs₂]
    simp [Store.writeTask, htasks₁]

theorem enqueueForMerge_accepts (queries : QueueQueries) (now : Millis)
    {params : EnqueueForMergeParams} {task : Task}
    (htask : s.findTask params.taskId = some task) (happroved : task.status = .approved)
    (hnone : s.findItemByTaskId params.taskId = none) (hnew : s.findItem itemId = none) :
    exists s' result, enqueueForMerge queries now itemId params s = .ok (s', result) := by
  have hvalid : validateTransition task.status .queuedForMerge {} = .valid := by
    rw [happroved]
    rfl
  let createdItem := newItem now itemId params task
    ((queries.findEnqueuedByRepositoryId task.repositoryId s).length + 1)
  have hsome : (s.findTask createdItem.taskId).isSome = true := by
    change (s.findTask params.taskId).isSome = true
    rw [htask]
    rfl
  rcases Store.createItem_of_new createdItem hnew hsome with ⟨s₁, hcreate⟩
  have htask₁ : s₁.findTask params.taskId = some task := by
    rw [Store.findTask_of_tasks_eq (Store.createItem_eq_ok hcreate).2.1]
    exact htask
  have hupdate := Store.updateTask_of_find htask₁ { status := some .queuedForMerge }
  let s₂ := s₁.writeTask params.taskId (task.version + 1) { status := some .queuedForMerge }
  have hupdated : s₂.findTask params.taskId =
      some (TaskUpdate.apply { status := some .queuedForMerge } (task.version + 1) task) := by
    rw [Store.findTask_writeTask_self, htask₁]
    rfl
  cases hresult : enqueueForMerge queries now itemId params s with
  | ok r =>
      exact ⟨r.1, r.2, rfl⟩
  | error e =>
      simp only [enqueueForMerge, htask, orThrow_some, ok_bind, ensure_of happroved, hnone,
        refuse, hvalid, commitTransition] at hresult
      rw [hcreate, ok_bind, hupdate, ok_bind, hupdated, orThrow_some, ok_bind] at hresult
      cases hresult

theorem enqueueForMerge_duplicate {params : EnqueueForMergeParams} {task : Task}
    {existing : MergeQueueItem} (htask : s.findTask params.taskId = some task)
    (happroved : task.status = .approved)
    (hexisting : s.findItemByTaskId params.taskId = some existing) :
    enqueueForMerge queries now itemId params s =
      .error (.duplicateEnqueue params.taskId existing.mergeQueueItemId) := by
  simp only [enqueueForMerge, htask, orThrow_some, ok_bind, ensure_of happroved, hexisting,
    refuse, error_bind]

/-- The repository has no ENQUEUED item, or the next one is claimed. -/
theorem dequeueNext_spec {params : DequeueNextParams} {result : Option DequeueNextResult}
    (h : dequeueNext queries now params s = .ok (s', result)) :
    (queries.findNextEnqueued params.repositoryId s = none ∧ s' = s) ∨
      exists item s₁, queries.findNextEnqueued params.repositoryId s = some item ∧
        s₁ = s.writeItem item.mergeQueueItemId (claimItem now) ∧ Repositioned s₁ s' := by
  unfold dequeueNext at h
  split at h
  · rename_i hnone
    cases h
    exact Or.inl ⟨hnone, rfl⟩
  · rename_i item hnext
    simp only [bind_eq_ok, commitTransition_eq_ok, Store.updateItem_eq_ok, orThrow_eq_ok,
      pure_eq_ok, Prod.mk.injEq] at h
    rcases h with ⟨_, _, s₁, ⟨_, _, _, hs₁⟩, claimed, _, hs', _⟩
    refine Or.inr ⟨item, s₁, hnext, hs₁, ?_⟩
    rw [← hs']
    have hmoved := repositioned_recalculate queries params.repositoryId
      (s₁.appendAudit (stateTransition "merge-queue-item" item.mergeQueueItemId
        MergeQueueItemStatus.enqueued.label MergeQueueItemStatus.preparing.label
        params.actor))
    exact ⟨hmoved.tasks, hmoved.items⟩

theorem dequeueNext_tasks {params : DequeueNextParams} {result : Option DequeueNextResult}
    (h : dequeueNext queries now params s = .ok (s', result)) : s'.tasks = s.tasks := by
  rcases dequeueNext_spec h with ⟨_, hs'⟩ | ⟨item, s₁, _, hs₁, hmoved⟩
  · rw [hs']
  · rw [hmoved.tasks, hs₁]
    rfl

theorem dequeueNext_accepts (now : Millis) {params : DequeueNextParams} {item : MergeQueueItem}
    (h : queries.findNextEnqueued params.repositoryId s = some item) :
    exists s' result, dequeueNext queries now params s = .ok (s', result) := by
  rcases findNextEnqueued_spec h with ⟨hfind, _, hstatus⟩
  let s₁ := s.writeItem item.mergeQueueItemId (claimItem now)
  have hupdate : s.updateItem item.mergeQueueItemId .enqueued (claimItem now) = .ok s₁ :=
    Store.updateItem_eq_ok.mpr ⟨item, hfind, hstatus, rfl⟩
  have hclaimed : s₁.findItem item.mergeQueueItemId = some ((claimItem now).apply item) := by
    rw [Store.findItem_writeItem_self, hfind]
    rfl
  have hvalid : validateMergeQueueItemTransition .enqueued .preparing
      { preparationStarted := some true } = .valid :=
    rfl
  cases hresult : dequeueNext queries now params s with
  | ok r =>
      exact ⟨r.1, r.2, rfl⟩
  | error e =>
      simp only [dequeueNext, h, hvalid, commitTransition, ok_bind, hupdate, hclaimed,
        orThrow_some] at hresult
      cases hresult

end Merging
end CopilotFactory
