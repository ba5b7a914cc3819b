import CopilotFactory.Merging.SerializedMerges

/-!
# Repeated enqueues

A task that is reworked after a conflict, or reopened, is approved again and
should be enqueued again.  Its earlier items are never removed, and the lookup
for a duplicate finds them whatever their status.
-/

namespace CopilotFactory
namespace Merging

open Foundations
open Domain
open Infrastructure

/-!
## What an enqueue should do
-/

/-- The task has an item that is neither terminal nor REQUEUED. -/
def HasLiveItem (v : ItemView) (taskId : TaskId) : Prop :=
  exists id repositoryId status, v id = some (taskId, repositoryId, status) ∧
    isTerminalMergeQueueItemState status = false ∧ status ≠ .requeued

def HasItem (v : ItemView) (taskId : TaskId) : Prop :=
  exists id repositoryId status, v id = some (taskId, repositoryId, status)

/-- An approved task is refused as a duplicate exactly when it has a live item, and is
otherwise enqueued with the new item. -/
def FaithfulEnqueue (queries : QueueQueries) (s : Store) : QueueRequest -> Prop
  | .enqueueForMerge now itemId params =>
      forall task, s.findTask params.taskId = some task -> task.status = .approved ->
        s.findItem itemId = none ->
        ((exists existingItemId, enqueueForMerge queries now itemId params s =
            .error (.duplicateEnqueue params.taskId existingItemId)) <->
          HasLiveItem (itemView s) params.taskId) ∧
        (¬ HasLiveItem (itemView s) params.taskId ->
          exists s' result, enqueueForMerge queries now itemId params s =
            .ok (s', result) ∧
            itemView s' itemId = some (params.taskId, task.repositoryId, .enqueued))
  | _ => True

def FirstOrLive (s : Store) : QueueRequest -> Prop
  | .enqueueForMerge _ itemId params =>
      forall task, s.findTask params.taskId = some task -> task.status = .approved ->
        s.findItem itemId = none ->
        HasLiveItem (itemView s) params.taskId ∨ ¬ HasItem (itemView s) params.taskId
  | _ => True

theorem hasItem_of_live {v : ItemView} {taskId : TaskId} (h : HasLiveItem v taskId) :
    HasItem v taskId := by
  rcases h with ⟨id, repositoryId, status, hstored, _⟩
  exact ⟨id, repositoryId, status, hstored⟩

theorem hasItem_iff {s : Store} {taskId : TaskId} :
    HasItem (itemView s) taskId <-> exists existing,
      s.findItemByTaskId taskId = some existing := by
  constructor
  · intro h
    rcases h with ⟨id, repositoryId, status, hstored⟩
    unfold itemView at hstored
    rw [Option.map_eq_some_iff] at hstored
    rcases hstored with ⟨item, hitem, hview⟩
    cases hview
    cases hfind : s.findItemByTaskId item.taskId with
    | some existing =>
        exact ⟨existing, rfl⟩
    | none =>
        exact absurd rfl (Store.findItemByTaskId_eq_none_iff.mp hfind item
          (Table.mem_of_find? hitem))
  · intro h
    rcases h with ⟨existing, hfind⟩
    have hmem : existing ∈ s.mergeQueueItems := List.mem_of_find?_eq_some hfind
    have htask : existing.taskId = taskId := by
      simpa using List.find?_some hfind
    refine ⟨existing.mergeQueueItemId, existing.repositoryId, existing.status, ?_⟩
    rw [itemView_of_findItem (Table.find?_key_of_mem hmem), htask]

theorem enqueueForMerge_approved (queries : QueueQueries) (now : Millis)
    {itemId : MergeQueueItemId} {params : EnqueueForMergeParams} {s : Store} {task : Task}
    (htask : s.findTask params.taskId = some task) (happroved : task.status = .approved)
    (hnew : s.findItem itemId = none) :
    (HasItem (itemView s) params.taskId ∧
        exists existingItemId, enqueueForMerge queries now itemId params s =
          .error (.duplicateEnqueue params.taskId existingItemId)) ∨
      (¬ HasItem (itemView s) params.taskId ∧
        exists s' result, enqueueForMerge queries now itemId params s =
          .ok (s', result) ∧
          itemView s' itemId = some (params.taskId, task.repositoryId, .enqueued)) := by
  cases hfind : s.findItemByTaskId params.taskId with
  | some existing =>
      refine Or.inl ⟨hasItem_iff.mpr ⟨existing, hfind⟩, existing.mergeQueueItemId, ?_⟩
      exact enqueueForMerge_duplicate htask happroved hfind
  | none =>
      have hnone : ¬ HasItem (itemView s) params.taskId := by
        rw [hasItem_iff]
        intro h
        rcases h with ⟨existing, hexisting⟩
        rw [hfind] at hexisting
        cases hexisting
      rcases enqueueForMerge_accepts queries now htask happroved hfind hnew with
        ⟨s', result, henqueue⟩
      refine Or.inr ⟨hnone, s', result, henqueue, ?_⟩
      rcases enqueueForMerge_spec henqueue with
        ⟨found, position, hfound, _, _, hitem, hadded, _⟩
      rw [htask] at hfound
      cases hfound
      rw [hadded.itemView_eq, hitem]
      exact Function.update_self _ _ _

theorem faithfulEnqueue_iff (queries : QueueQueries) (s : Store) (r : QueueRequest) :
    FaithfulEnqueue queries s r <-> FirstOrLive s r := by
  cases r with
  | enqueueForMerge now itemId params =>
      constructor
      · intro h task htask happroved hnew
        rcases h task htask happroved hnew with ⟨hduplicate, _⟩
        rcases enqueueForMerge_approved queries now htask happroved hnew with
          ⟨_, hrefused⟩ | ⟨hnone, _⟩
        · exact Or.inl (hduplicate.mp hrefused)
        · exact Or.inr hnone
      · intro h task htask happroved hnew
        rcases enqueueForMerge_approved queries now htask happroved hnew with
          ⟨hsome, hrefused⟩ | ⟨hnone, s', result, henqueue, hitem⟩
        · have hlive : HasLiveItem (itemView s) params.taskId := by
            rcases h task htask happroved hnew with hlive | hnone
            · exact hlive
            · exact absurd hsome hnone
          exact ⟨iff_of_true hrefused hlive, fun hnot => absurd hlive hnot⟩
        · refine ⟨?_, fun _ => ⟨s', result, henqueue, hitem⟩⟩
          constructor
          · intro hrefused
            rcases hrefused with ⟨existingItemId, hrefused⟩
            rw [henqueue] at hrefused
            cases hrefused
          · intro hlive
            exact absurd (hasItem_of_live hlive) hnone
  | _ =>
      exact Iff.rfl

/-- Along every run all enqueues are faithful exactly if none arrives for an approved task
of which all items, and there are some, are terminal or REQUEUED. -/
theorem enqueues_faithful_iff (queries : QueueQueries) (requests : List QueueRequest) :
    (forall x, x ∈ (mergeQueue queries).arrivals Store.empty requests ->
        FaithfulEnqueue queries x.1 x.2) <->
      forall x, x ∈ (mergeQueue queries).arrivals Store.empty requests ->
        FirstOrLive x.1 x.2 := by
  constructor
  · intro h x hx
    exact (faithfulEnqueue_iff queries x.1 x.2).mp (h x hx)
  · intro h x hx
    exact (faithfulEnqueue_iff queries x.1 x.2).mpr (h x hx)

/-!
## A reworked task
-/

def conflictingTask : Task where
  taskId := "task-1"
  repositoryId := "repo-1"
  taskType := "feature"
  priority := "high"
  status := .queuedForMerge
  version := 8
  retryCount := 0
  currentLeaseId := none
  currentReviewCycleId := none
  mergeQueueItemId := none
  completedAt := none

def conflictProgress : MergeProgress where
  item := preparingItem
  task := mergingTask conflictingTask
  auditEvents := []

/-- A merge meets a reworkable conflict, and the task is reworked and approved again. -/
def reworkedTask : List QueueRequest :=
  approvedTaskRequests "task-1" ++
    [.enqueueForMerge 1000 "item-1" (enqueueParams "task-1"),
      .dequeueNext 2000 dequeueParams,
      .mergeStep mergeParams (.startRebase conflictingTask),
      .mergeStep mergeParams (.settleConflict .reworkable 3000 conflictProgress)] ++
    [.transitionTask "task-1" .assigned { leaseAcquired := some true } systemActor,
      .transitionTask "task-1" .inDevelopment { hasHeartbeat := some true } systemActor,
      .transitionTask "task-1" .devComplete
        { hasDevResultPacket := some true, requiredValidationsPassed := some true }
        systemActor,
      .transitionTask "task-1" .inReview { hasReviewRoutingDecision := some true }
        systemActor,
      .transitionTask "task-1" .approved { leadReviewDecision := some .approved }
        systemActor].map QueueRequest.request

theorem reworkedTask_statuses :
    (((mergeQueue arrivalOrder).run Store.empty reworkedTask).findTask "task-1").map
        Task.status = some .approved ∧
      itemView ((mergeQueue arrivalOrder).run Store.empty reworkedTask) "item-1" =
        some ("task-1", "repo-1", .requeued) ∧
      ((mergeQueue arrivalOrder).run Store.empty reworkedTask).mergeQueueItems.rows.map
        MergeQueueItem.mergeQueueItemId = ["item-1"] := by
  decide +kernel

theorem eq_of_reworkedTask_item {id : MergeQueueItemId} {item : MergeQueueItem}
    (h : ((mergeQueue arrivalOrder).run Store.empty reworkedTask).findItem id =
      some item) :
    id = "item-1" := by
  rw [← Table.key_of_find? h, ← List.mem_singleton, ← reworkedTask_statuses.2.2]
  exact List.mem_map_of_mem (Table.mem_of_find? h)

theorem reworked_task_refused :
    ¬ forall x, x ∈ (mergeQueue arrivalOrder).arrivals Store.empty
        (reworkedTask ++ [.enqueueForMerge 9000 "item-2" (enqueueParams "task-1")]) ->
      FaithfulEnqueue arrivalOrder x.1 x.2 := by
  intro h
  rcases reworkedTask_statuses with ⟨hstatus, hitem, _⟩
  rw [Option.map_eq_some_iff] at hstatus
  rcases hstatus with ⟨task, htask, happroved⟩
  have hnew : ((mergeQueue arrivalOrder).run Store.empty reworkedTask).findItem "item-2" =
      none := by
    by_contra hsome
    rcases Option.ne_none_iff_exists'.mp hsome with ⟨item, hfind⟩
    exact absurd (eq_of_reworkedTask_item hfind) (by decide)
  have hfaithful := h _ ((mergeQueue arrivalOrder).mem_arrivals_append _ _ _ []) task htask
    happroved hnew
  have hlive : ¬ HasLiveItem (itemView ((mergeQueue arrivalOrder).run Store.empty
      reworkedTask)) "task-1" := by
    intro hlive
    rcases hlive with ⟨id, repositoryId, status, hstored, _, hne⟩
    have hid : id = "item-1" := by
      rcases Option.map_eq_some_iff.mp hstored with ⟨item, hfind, _⟩
      exact eq_of_reworkedTask_item hfind
    rw [hid, hitem] at hstored
    cases hstored
    exact hne rfl
  rcases hfaithful.2 hlive with ⟨s', result, henqueue, _⟩
  rcases enqueueForMerge_spec henqueue with ⟨_, _, _, _, hnone, _⟩
  have hsome : HasItem (itemView ((mergeQueue arrivalOrder).run Store.empty reworkedTask))
      "task-1" :=
    ⟨"item-1", "repo-1", .requeued, hitem⟩
  rcases hasItem_iff.mp hsome with ⟨existing, hexisting⟩
  have hnone' : ((mergeQueue arrivalOrder).run Store.empty reworkedTask).findItemByTaskId
      "task-1" = none :=
    hnone
  rw [hexisting] at hnone'
  cases hnone'

end Merging
end CopilotFactory
