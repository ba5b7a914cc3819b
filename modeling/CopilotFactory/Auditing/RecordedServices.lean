import CopilotFactory.Auditing.RecordedRequests
import CopilotFactory.Merging.MergeQueueService
import CopilotFactory.Reviewing.ReviewRequests

/-!
# What the review services and the merge services record

The merge executor tells the source and the target of a move.  What it tells of the task
is right when the task that it finds is in the source of the move.
-/

namespace CopilotFactory
namespace Auditing

open Foundations
open Domain
open Infrastructure
open Application
open ControlPlane
open Reviewing
open Merging

/-!
## Reviews
-/

section Reviews

variable {r r' : ReviewTables}

theorem silent_of_cycle {s : Store} {event : AuditEvent}
    (h : event.entityType = "review-cycle") :
    Silent s event :=
  silent_of_type h (by decide) (by decide)

theorem dispatchReviewers_records {now : Millis} {idGenerator : Nat -> String}
    {params : DispatchReviewersParams} {result : DispatchReviewersResult}
    (h : dispatchReviewers now idGenerator params r = .ok (r', result)) :
    exists events, RecordsChanges "task" events r.store r'.store := by
  rcases dispatchReviewers_spec h with ⟨task, hdispatched⟩
  have hstore := hdispatched.store
  generalize generateIds idGenerator params.routingDecision.allSpecialists = ids at *
  have htasks : r'.store.tasks = (r.store.writeTask params.taskId (task.version + 1)
      (reviewUpdate ids.reviewCycleId)).tasks := by
    rw [hstore]
    rfl
  refine ⟨[cycleCreatedAudit ids.reviewCycleId params.actor] ++
    taskInReviewAudit params.taskId params.actor :: [],
    recordsChanges_of_write hdispatched.found htasks ?_ ?_ ?_ ?_⟩
  · apply keepsLeases_of_leases_eq
    rw [hstore]
    rfl
  · rw [hstore]
    simp
  · apply tells_of_task
    · rfl
    · rfl
    · rw [hdispatched.devComplete]
      rfl
  · intro e he
    rw [List.append_nil, List.mem_singleton] at he
    rw [he]
    exact silent_of_cycle rfl

theorem assembleLeadReviewContext_records {params : AssembleLeadReviewContextParams}
    {result : AssembleLeadReviewContextResult}
    (h : assembleLeadReviewContext params r = .ok (r', result)) :
    exists events, RecordsChanges "task" events r.store r'.store := by
  rcases assembleLeadReviewContext_spec h with ⟨cycle, hconsolidated⟩
  rw [hconsolidated.written]
  refine ⟨[consolidationAudit params cycle.status],
    recordsChanges_of_tasks_eq (keepsLeases_of_leases_eq rfl) rfl rfl ?_⟩
  intro e he
  rw [List.mem_singleton.mp he]
  exact silent_of_cycle rfl

theorem transitionReviewCycle_records {reviewCycleId : ReviewCycleId}
    {target : ReviewCycleStatus} {context : ReviewCycleTransitionContext}
    {actor : ActorInfo} {event : AuditEvent}
    (h : transitionReviewCycle reviewCycleId target context actor r = .ok (r', event)) :
    RecordsChanges "task" [event] r.store r'.store := by
  rcases transitionReviewCycle_spec h with ⟨cycle, _, _, htype, hr'⟩
  rw [hr']
  refine recordsChanges_of_tasks_eq (keepsLeases_of_leases_eq rfl) rfl rfl ?_
  intro e he
  rw [List.mem_singleton.mp he]
  exact silent_of_cycle htype

theorem applyDecision_records {port : FollowUpTaskPort} {idGenerator : Nat -> String}
    {params : ApplyReviewDecisionParams} {result : ApplyReviewDecisionResult}
    (h : applyDecision port idGenerator params r = .ok (r', result)) :
    exists events, RecordsChanges "task" events r.store r'.store := by
  have hleases := (applyDecision_kept h).taskLeases
  rcases applyDecision_spec h with ⟨packet, task, cycle, hdecided⟩
  rcases hdecided.movedTask with ⟨version, hversion, hmoved⟩
  have hadvances : AdvancesTasks r.store r'.store := by
    intro id t ht
    by_cases hid : id = params.taskId
    · rw [hid, hdecided.foundTask] at ht
      cases ht
      rw [hid]
      exact ⟨_, hmoved, Or.inr hversion⟩
    · exact ⟨t, hdecided.keptTasks id t hid ht, Or.inl rfl⟩
  refine ⟨[cycleDecisionAudit params packet.decision cycle.status
      (cycleTarget params task packet.decision)] ++
    taskDecisionAudit params packet.decision task.status
      (taskTarget params task packet.decision) :: [],
    recordsChanges_of_told (keepsLeases_of_leases_eq hleases) hadvances hdecided.auditEvents
      (tells_of_task rfl rfl rfl) ?_ (storedLabel_of_find hdecided.foundTask)
      (storedLabel_of_find hmoved) ?_⟩
  · intro e he
    rw [List.append_nil, List.mem_singleton] at he
    rw [he]
    exact silent_of_cycle rfl
  · intro id hid
    cases hfind : r.store.findTask id with
    | some t =>
        rw [storedLabel_of_find hfind, storedLabel_of_find (hdecided.keptTasks id t hid hfind)]
    | none =>
        -- A follow-up task starts in BACKLOG, the status of a task that is not there.
        unfold storedLabel
        rw [hfind]
        split
        · rename_i t ht
          rw [(hdecided.newTasks id t ht hfind).status]
        · rfl

def reviewedEntity : ReviewRequest -> String
  | .request request => auditedEntity request
  | _ => "task"

theorem performReview_records {port : FollowUpTaskPort} {q : ReviewRequest}
    (h : performReview port r q = .ok r') :
    exists events, RecordsChanges (reviewedEntity q) events r.store r'.store := by
  cases q with
  | dispatchReviewers now idGenerator params =>
      rcases committedReview_eq_ok.mp h with ⟨result, h⟩
      exact dispatchReviewers_records h
  | assembleLeadReviewContext params =>
      rcases committedReview_eq_ok.mp h with ⟨result, h⟩
      exact assembleLeadReviewContext_records h
  | applyDecision idGenerator params =>
      rcases committedReview_eq_ok.mp h with ⟨result, h⟩
      exact applyDecision_records h
  | transitionReviewCycle reviewCycleId target context actor =>
      rcases committedReview_eq_ok.mp h with ⟨event, h⟩
      exact ⟨[event], transitionReviewCycle_records h⟩
  | createPacket packet =>
      rw [(ReviewTables.createPacket_spec h).1]
      exact ⟨[], recordsChanges_refl _ _⟩
  | job request =>
      rcases job_spec h with ⟨jobs, _, hr'⟩
      rw [hr']
      exact ⟨[], recordsChanges_refl _ _⟩
  | request request =>
      exact perform_records (request_spec h).1

end Reviews

/-!
## The merge queue
-/

section Merges

variable {s s' : Store}

theorem silent_of_item {event : AuditEvent} (h : event.entityType = "merge-queue-item") :
    Silent s event :=
  silent_of_type h (by decide) (by decide)

theorem enqueueForMerge_records {queries : QueueQueries} {now : Millis}
    {itemId : MergeQueueItemId} {params : EnqueueForMergeParams}
    {result : EnqueueForMergeResult}
    (h : enqueueForMerge queries now itemId params s = .ok (s', result)) :
    exists events, RecordsChanges "task" events s s' := by
  rcases enqueueForMerge_spec h with ⟨task, _, hfind, happroved, _, _, _, htasks⟩
  simp only [enqueueForMerge, bind_eq_ok, orThrow_eq_ok, ensure_eq_ok, refuse_eq_ok,
    commitTransition_eq_ok, pure_eq_ok, Prod.mk.injEq] at h
  rcases h with ⟨_, _, _, _, _, _, _, _, s₁, hcreate, s₂, hupdate, _, _, hs', _⟩
  rcases Store.createItem_kept hcreate with ⟨hleases₁, haudit₁⟩
  rcases Store.updateTask_eq_ok.mp hupdate with ⟨_, _, _, hs₂⟩
  refine ⟨[] ++ stateTransition "task" params.taskId TaskStatus.approved.label
      TaskStatus.queuedForMerge.label params.actor :: [createdAudit itemId params.actor],
    recordsChanges_of_write hfind htasks ?_ ?_ ?_ ?_⟩
  · apply keepsLeases_of_leases_eq
    rw [← hs', (recalculatePositions_kept _ _ _).1, hs₂]
    exact hleases₁
  · rw [← hs', (recalculatePositions_kept _ _ _).2, hs₂]
    simp [haudit₁]
  · rw [happroved]
    exact tells_of_task rfl rfl rfl
  · intro e he
    rw [List.nil_append, List.mem_singleton] at he
    rw [he]
    exact silent_of_item rfl

theorem dequeueNext_records {queries : QueueQueries} {now : Millis}
    {params : DequeueNextParams} {result : Option DequeueNextResult}
    (h : dequeueNext queries now params s = .ok (s', result)) :
    exists events, RecordsChanges "task" events s s' := by
  unfold dequeueNext at h
  split at h
  · cases h
    exact ⟨[], recordsChanges_refl _ _⟩
  · rename_i item _
    simp only [bind_eq_ok, commitTransition_eq_ok, Store.updateItem_eq_ok, orThrow_eq_ok,
      pure_eq_ok, Prod.mk.injEq] at h
    rcases h with ⟨_, _, s₁, ⟨_, _, _, hs₁⟩, claimed, _, hs', _⟩
    have htasks : s'.tasks = s.tasks := by
      rw [← hs', (repositioned_recalculate _ _ _).tasks, hs₁]
      rfl
    refine ⟨[stateTransition "merge-queue-item" item.mergeQueueItemId
        MergeQueueItemStatus.enqueued.label MergeQueueItemStatus.preparing.label
        params.actor],
      recordsChanges_of_tasks_eq ?_ htasks ?_ ?_⟩
    · apply keepsLeases_of_leases_eq
      rw [← hs', (recalculatePositions_kept _ _ _).1, hs₁]
      rfl
    · rw [← hs', (recalculatePositions_kept _ _ _).2, hs₁]
      rfl
    · intro e he
      rw [List.mem_singleton.mp he]
      exact silent_of_item rfl

/-!
## The merge executor
-/

theorem moveItem_records {params : ExecuteMergeParams} {move : ItemMove}
    {progress moved : MergeProgress}
    (h : moveItem params move progress s = .ok (s', moved)) :
    exists events, RecordsChanges "task" events s s' := by
  rcases moveItem_eq_ok.mp h with ⟨_, _, _, hs', _⟩
  rw [hs']
  refine ⟨[itemAudit params move],
    recordsChanges_of_tasks_eq (keepsLeases_of_leases_eq rfl) rfl rfl ?_⟩
  intro e he
  rw [List.mem_singleton.mp he]
  exact silent_of_item rfl

theorem moveItemAndTask_records {params : ExecuteMergeParams} {move : ItemMove}
    {taskMove : TaskMove} {taskId : TaskId}
    {expectedVersion : Store -> Except ServiceError Nat} {auditEvents : List AuditEvent}
    {moved : MergeProgress}
    (h : moveItemAndTask params move taskMove taskId expectedVersion auditEvents s =
      .ok (s', moved))
    (hsource : forall task, s.findTask taskId = some task -> task.status = taskMove.source) :
    exists events, RecordsChanges "task" events s s' := by
  rcases moveItemAndTask_eq_ok.mp h with ⟨_, task, _, _, hfind, _, hs', _⟩
  have htasks : s'.tasks =
      (s.writeTask taskId (task.version + 1) taskMove.update).tasks := by
    rw [hs']
    rfl
  refine ⟨[itemAudit params move] ++ taskAudit params taskId taskMove :: [],
    recordsChanges_of_write hfind htasks ?_ ?_ ?_ ?_⟩
  · apply keepsLeases_of_leases_eq
    rw [hs']
    rfl
  · rw [hs']
    simp
  · rw [hsource task hfind]
    exact tells_of_task rfl rfl rfl
  · intro e he
    rw [List.append_nil, List.mem_singleton] at he
    rw [he]
    exact silent_of_item rfl

end Merges

end Auditing
end CopilotFactory
