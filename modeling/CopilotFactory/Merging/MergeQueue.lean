import Mathlib.Logic.Function.Basic
import CopilotFactory.ControlPlane.TaskEffects
import CopilotFactory.Merging.MergeQueueService
import CopilotFactory.Merging.MergeRuns

/-!
# Runs of the merge queue

Tasks are enqueued, items are claimed, and merges proceed, in any order and by
any number of workers.  A merge appears as the transactions that it commits, each
with whatever its executor remembers of the earlier ones.
-/

namespace CopilotFactory
namespace Merging

open Foundations
open Domain
open Infrastructure
open Application
open ControlPlane

variable {s s' : Store} {item : MergeQueueItem} {move : ItemMove}

inductive MergeStep where
  | startRebase (task : Task)
  | settleConflict (classification : ConflictClassification) (completedAt : Millis)
      (progress : MergeProgress)
  | startValidation (progress : MergeProgress)
  | failValidation (completedAt : Millis) (progress : MergeProgress)
  | startPush (progress : MergeProgress)
  | failPush (completedAt : Millis) (progress : MergeProgress)
  | finishMerge (completedAt : Millis) (progress : MergeProgress)

def MergeStep.perform (params : ExecuteMergeParams) :
    MergeStep -> Store -> Except ServiceError (Store × MergeProgress)
  | .startRebase task => Merging.startRebase params task
  | .settleConflict classification completedAt progress =>
      Merging.settleConflict params classification completedAt progress
  | .startValidation progress => Merging.startValidation params progress
  | .failValidation completedAt progress =>
      Merging.failValidation params completedAt progress
  | .startPush progress => Merging.startPush params progress
  | .failPush completedAt progress => Merging.failPush params completedAt progress
  | .finishMerge completedAt progress => Merging.finishMerge params completedAt progress

inductive QueueRequest where
  | request (r : Request)
  | enqueueForMerge (now : Millis) (itemId : MergeQueueItemId)
      (params : EnqueueForMergeParams)
  | dequeueNext (now : Millis) (params : DequeueNextParams)
  | recalculatePositions (repositoryId : String)
  | mergeStep (params : ExecuteMergeParams) (step : MergeStep)

def performQueue (queries : QueueQueries) (s : Store) :
    QueueRequest -> Except ServiceError Store
  | .request r => perform s r
  | .enqueueForMerge now itemId params =>
      committed (enqueueForMerge queries now itemId params s)
  | .dequeueNext now params => committed (dequeueNext queries now params s)
  | .recalculatePositions repositoryId => .ok (recalculatePositions queries repositoryId s)
  | .mergeStep params step => committed (step.perform params s)

def mergeQueue (queries : QueueQueries) :
    TransitionSystem Store QueueRequest ServiceError where
  step := performQueue queries

/-!
## Merges are made of such steps
-/

section Commits

variable {γ : Type} {params : ExecuteMergeParams}

def MergeCommit (params : ExecuteMergeParams) (w w' : World γ) : Prop :=
  w'.store = w.store ∨
    exists step progress, MergeStep.perform params step w.store = .ok (w'.store, progress)

theorem commits_step (step : MergeStep) :
    Process.Guarantees (MergeCommit params)
      (onStore (step.perform params) : Process (World γ) Thrown MergeProgress) :=
  Process.Guarantees.transaction (fun _ _ progress h => Or.inr ⟨step, progress, h⟩)

theorem commits_await {α : Type} {call : Call α} :
    Process.Guarantees (MergeCommit params)
      (call.await : Process (World γ) Thrown α) :=
  Process.Guarantees.await

theorem commits_recordMerge (calls : MergeCalls) (packet : MergePacket)
    (progress : MergeProgress) (mergedCommitSha : String) :
    Process.Guarantees (MergeCommit params)
      (recordMerge (calls.ports : MergeExecutorPorts γ) params packet progress
        mergedCommitSha) := by
  unfold recordMerge
  split
  · exact commits_await.bind (fun _ => Process.Guarantees.pure _)
  · exact Process.Guarantees.pure _

theorem commits_settlePush (calls : MergeCalls) (approvedCommitSha : Option String)
    (sourceBranch : String) (validationResult : ValidationRunResult)
    (progress : MergeProgress) (pushed : Except Thrown Unit) :
    Process.Guarantees (MergeCommit params)
      (settlePush (calls.ports : MergeExecutorPorts γ) params approvedCommitSha
        sourceBranch validationResult progress pushed) := by
  cases pushed with
  | ok _ =>
      apply commits_await.bind
      intro mergedCommitSha
      apply (commits_step (.finishMerge calls.completedAt progress)).bind
      exact fun moved => commits_recordMerge calls _ moved mergedCommitSha
  | error error =>
      apply (commits_step (.failPush calls.completedAt progress)).bind
      exact fun moved => Process.Guarantees.pure _

theorem commits_pushMerge (calls : MergeCalls) (approvedCommitSha : Option String)
    (sourceBranch : String) (validationResult : ValidationRunResult)
    (progress : MergeProgress) :
    Process.Guarantees (MergeCommit params)
      (pushMerge (calls.ports : MergeExecutorPorts γ) params approvedCommitSha
        sourceBranch validationResult progress) := by
  apply (commits_step (.startPush progress)).bind
  intro moved
  apply Process.Triple.bind_attempt commits_await
  exact fun pushed => commits_settlePush calls approvedCommitSha sourceBranch
    validationResult moved pushed

theorem commits_validateMerge (calls : MergeCalls) (approvedCommitSha : Option String)
    (sourceBranch : String) (progress : MergeProgress) :
    Process.Guarantees (MergeCommit params)
      (validateMerge (calls.ports : MergeExecutorPorts γ) params approvedCommitSha
        sourceBranch progress) := by
  apply (commits_step (.startValidation progress)).bind
  intro moved
  apply commits_await.bind
  intro validationResult
  split
  · apply (commits_step (.failValidation calls.completedAt moved)).bind
    exact fun failed => Process.Guarantees.pure _
  · exact commits_pushMerge calls approvedCommitSha sourceBranch validationResult moved

theorem commits_rejectConflict (calls : MergeCalls) (conflictFiles : List String)
    (progress : MergeProgress) :
    Process.Guarantees (MergeCommit params)
      (rejectConflict (calls.ports : MergeExecutorPorts γ) params conflictFiles
        progress) := by
  apply commits_await.bind
  intro classification
  apply (commits_step (.settleConflict classification calls.completedAt progress)).bind
  exact fun moved => Process.Guarantees.pure _

theorem commits_performMerge (calls : MergeCalls) (approvedCommitSha : Option String)
    (progress : MergeProgress) :
    Process.Guarantees (MergeCommit params)
      (performMerge (calls.ports : MergeExecutorPorts γ) params approvedCommitSha
        progress) := by
  apply commits_await.bind
  intro _
  apply commits_await.bind
  intro sourceBranch
  rw [calls.mergeOperation_ports]
  apply commits_await.bind
  intro mergeOpResult
  split
  · exact commits_validateMerge calls approvedCommitSha sourceBranch progress
  · exact commits_rejectConflict calls mergeOpResult.conflictFiles progress

/-- Whatever the ports do, a merge commits nothing but its steps. -/
theorem commits_executeMerge (calls : MergeCalls) :
    Process.Guarantees (MergeCommit params)
      (executeMerge (calls.ports : MergeExecutorPorts γ) params) := by
  apply Process.Guarantees.bind
  · apply Process.Guarantees.transaction
    intro w s' found h
    exact Or.inl (loadMerge_eq_ok.mp h).1
  · intro found
    apply (commits_step (.startRebase found.2)).bind
    exact fun progress => commits_performMerge calls found.1.approvedCommitSha progress

end Commits

/-!
## What a step does to the items
-/

abbrev ItemView := MergeQueueItemId -> Option (TaskId × String × MergeQueueItemStatus)

def itemView (s : Store) : ItemView :=
  fun id => (s.findItem id).map (fun item => (item.taskId, item.repositoryId, item.status))

def inFlightStatuses : List MergeQueueItemStatus :=
  [.preparing, .rebasing, .validating, .merging]

inductive ItemStep (v : ItemView) : ItemView -> Prop where
  | kept : ItemStep v v
  | added (id : MergeQueueItemId) (taskId : TaskId) (repositoryId : String)
      (hnew : v id = none) :
      ItemStep v (Function.update v id (some (taskId, repositoryId, .enqueued)))
  | advanced (id : MergeQueueItemId) (taskId : TaskId) (repositoryId : String)
      (source target : MergeQueueItemStatus)
      (hsource : v id = some (taskId, repositoryId, source))
      (hinFlight : source ∈ inFlightStatuses) (htarget : target ≠ .enqueued) :
      ItemStep v (Function.update v id (some (taskId, repositoryId, target)))

theorem itemView_of_items_eq (h : s'.mergeQueueItems = s.mergeQueueItems) :
    itemView s' = itemView s := by
  funext id
  unfold itemView
  rw [Store.findItem_of_items_eq h]

theorem map_position (item? : Option MergeQueueItem) (position : Option Nat) :
    (item?.map (fun item => MergeQueueItemUpdate.apply { position := position } item)).map
        (fun item => (item.taskId, item.repositoryId, item.status)) =
      item?.map (fun item => (item.taskId, item.repositoryId, item.status)) := by
  cases item? with
  | none =>
      rfl
  | some item =>
      rfl

theorem Repositioned.itemView_eq (h : Repositioned s s') : itemView s' = itemView s := by
  funext id
  unfold itemView
  rcases h.items id with ⟨position, hposition⟩
  rw [hposition, map_position]

theorem ItemAdded.itemView_eq (h : ItemAdded item s s') :
    itemView s' = Function.update (itemView s) item.mergeQueueItemId
      (some (item.taskId, item.repositoryId, item.status)) := by
  funext id
  by_cases hid : id = item.mergeQueueItemId
  · rcases h.added with ⟨position, hposition⟩
    rw [hid, Function.update_self]
    unfold itemView
    rw [hposition]
    rfl
  · rcases h.others id hid with ⟨position, hposition⟩
    rw [Function.update_of_ne hid]
    unfold itemView
    rw [hposition, map_position]

theorem itemView_writeItem {id : MergeQueueItemId} (hitem : s.findItem id = some item)
    (data : MergeQueueItemUpdate) :
    itemView (s.writeItem id data) = Function.update (itemView s) id
      (some (item.taskId, item.repositoryId, data.status.getD item.status)) := by
  funext other
  by_cases hother : other = id
  · rw [hother, Function.update_self]
    unfold itemView
    rw [Store.findItem_writeItem_self, hitem]
    rfl
  · rw [Function.update_of_ne hother]
    unfold itemView
    rw [Store.findItem_writeItem_of_ne hother]

theorem itemView_of_findItem {id : MergeQueueItemId} (hitem : s.findItem id = some item) :
    itemView s id = some (item.taskId, item.repositoryId, item.status) := by
  unfold itemView
  rw [hitem]
  rfl

theorem itemStep_of_move {params : ExecuteMergeParams}
    (hitem : s.findItem params.mergeQueueItemId = some item)
    (hstatus : item.status = move.source)
    (hitems : s'.mergeQueueItems =
      (s.writeItem params.mergeQueueItemId move.update).mergeQueueItems)
    (hinFlight : move.source ∈ inFlightStatuses) (htarget : move.target ≠ .enqueued) :
    ItemStep (itemView s) (itemView s') := by
  rw [itemView_of_items_eq hitems, itemView_writeItem hitem]
  apply ItemStep.advanced _ _ _ move.source
  · rw [itemView_of_findItem hitem, hstatus]
  · exact hinFlight
  · exact htarget

theorem itemStep_of_moveItem {params : ExecuteMergeParams} {progress moved : MergeProgress}
    (h : moveItem params move progress s = .ok (s', moved))
    (hinFlight : move.source ∈ inFlightStatuses) (htarget : move.target ≠ .enqueued) :
    ItemStep (itemView s) (itemView s') := by
  rcases moveItem_eq_ok.mp h with ⟨item, hitem, hstatus, hs', _⟩
  exact itemStep_of_move hitem hstatus (by rw [hs']; rfl) hinFlight htarget

theorem itemStep_of_moveItemAndTask {taskMove : TaskMove} {taskId : TaskId}
    {expectedVersion : Store -> Except ServiceError Nat} {auditEvents : List AuditEvent}
    {params : ExecuteMergeParams} {moved : MergeProgress}
    (h : moveItemAndTask params move taskMove taskId expectedVersion auditEvents s =
      .ok (s', moved))
    (hinFlight : move.source ∈ inFlightStatuses) (htarget : move.target ≠ .enqueued) :
    ItemStep (itemView s) (itemView s') := by
  rcases moveItemAndTask_eq_ok.mp h with ⟨item, _, hitem, hstatus, _, _, hs', _⟩
  exact itemStep_of_move hitem hstatus (by rw [hs']; rfl) hinFlight htarget

theorem itemStep_of_mergeStep {params : ExecuteMergeParams} {step : MergeStep}
    {progress : MergeProgress} (h : step.perform params s = .ok (s', progress)) :
    ItemStep (itemView s) (itemView s') := by
  cases step with
  | startRebase task =>
      unfold MergeStep.perform startRebase at h
      exact itemStep_of_moveItemAndTask h (by decide) (by decide)
  | settleConflict classification completedAt progress =>
      unfold MergeStep.perform settleConflict at h
      apply itemStep_of_moveItemAndTask h
      · simp [conflictMove, inFlightStatuses]
      · cases classification <;> simp [conflictMove]
  | startValidation progress =>
      unfold MergeStep.perform startValidation at h
      exact itemStep_of_moveItem h (by decide) (by decide)
  | failValidation completedAt progress =>
      unfold MergeStep.perform failValidation at h
      apply itemStep_of_moveItem h
      · simp [validationFailedMove, inFlightStatuses]
      · simp [validationFailedMove]
  | startPush progress =>
      unfold MergeStep.perform startPush at h
      exact itemStep_of_moveItem h (by decide) (by decide)
  | failPush completedAt progress =>
      unfold MergeStep.perform failPush at h
      apply itemStep_of_moveItem h
      · simp [pushFailedMove, inFlightStatuses]
      · simp [pushFailedMove]
  | finishMerge completedAt progress =>
      unfold MergeStep.perform finishMerge at h
      apply itemStep_of_moveItemAndTask h
      · simp [mergedMove, inFlightStatuses]
      · simp [mergedMove]

theorem itemView_dequeueNext {queries : QueueQueries} {now : Millis}
    {params : DequeueNextParams} {result : Option DequeueNextResult}
    (h : dequeueNext queries now params s = .ok (s', result)) :
    (queries.findNextEnqueued params.repositoryId s = none ∧ itemView s' = itemView s) ∨
      exists id taskId,
        (queries.findNextEnqueued params.repositoryId s).isSome = true ∧
        itemView s id = some (taskId, params.repositoryId, .enqueued) ∧
        itemView s' = Function.update (itemView s) id
          (some (taskId, params.repositoryId, .preparing)) := by
  rcases dequeueNext_spec h with ⟨hnone, hs'⟩ | ⟨item, s₁, hnext, hs₁, hmoved⟩
  · rw [hs']
    exact Or.inl ⟨hnone, rfl⟩
  · rcases findNextEnqueued_spec hnext with ⟨hfind, hrepository, hstatus⟩
    refine Or.inr ⟨item.mergeQueueItemId, item.taskId, by rw [hnext]; rfl, ?_, ?_⟩
    · rw [itemView_of_findItem hfind, hrepository, hstatus]
    · rw [hmoved.itemView_eq, hs₁, itemView_writeItem hfind, hrepository]
      rfl

def IsClaim (r : QueueRequest) : Prop :=
  exists now params, r = .dequeueNext now params

/-- Every other step keeps the items, adds one, or moves one on that is in flight. -/
theorem itemStep_of_performQueue {queries : QueueQueries} {r : QueueRequest} (hr : ¬ IsClaim r)
    (h : performQueue queries s r = .ok s') : ItemStep (itemView s) (itemView s') := by
  cases r with
  | request r =>
      rw [itemView_of_items_eq (taskEffect_of_perform h).1]
      exact .kept
  | enqueueForMerge now itemId params =>
      rcases committed_eq_ok.mp h with ⟨result, h⟩
      rcases enqueueForMerge_spec h with ⟨task, position, _, _, _, hitem, hadded, _⟩
      have hnew : itemView s result.item.mergeQueueItemId = none := by
        unfold itemView
        rw [hadded.new]
        rfl
      have hstatus : result.item.status = .enqueued := by
        rw [hitem]
        rfl
      rw [hadded.itemView_eq, hstatus]
      exact .added _ _ _ hnew
  | dequeueNext now params =>
      exact absurd ⟨now, params, rfl⟩ hr
  | recalculatePositions repositoryId =>
      cases h
      rw [(repositioned_recalculate queries repositoryId s).itemView_eq]
      exact .kept
  | mergeStep params step =>
      rcases committed_eq_ok.mp h with ⟨result, h⟩
      exact itemStep_of_mergeStep h

end Merging
end CopilotFactory
