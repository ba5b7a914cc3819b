import CopilotFactory.ControlPlane.TaskWrites
import CopilotFactory.Foundations.Correspondence
import CopilotFactory.Merging.MergeQueue
import CopilotFactory.Merging.QueueOrder
import CopilotFactory.Reviewing.ReviewRequests

/-!
# Merge queue items and the status of their tasks

An item that is still in the queue belongs to a task in QUEUED_FOR_MERGE or MERGING, and
each such task has one item.  The operator actions know the task only: what they take out
of these statuses leaves its item behind.
-/

namespace CopilotFactory
namespace Merging

open Foundations
open Domain
open Infrastructure
open Application
open ControlPlane
open Reviewing

/-!
## The property
-/

variable {id : MergeQueueItemId} {data : TaskUpdate} {r : Request}

def openItemStatuses : List MergeQueueItemStatus :=
  .enqueued :: inFlightStatuses

def mergeStatuses : List TaskStatus :=
  [.queuedForMerge, .merging]

/-- The items that are still in the queue belong, one to each, to the tasks that are in the
queue, and no merge of an item that waits or is handed out is refused. -/
structure Coherent (queries : QueueQueries) (s : Store) : Prop where
  belongs : forall id item, s.findItem id = some item -> item.status ∈ openItemStatuses ->
    exists task, s.findTask item.taskId = some task ∧ task.status ∈ mergeStatuses
  exactlyOne : forall taskId task, s.findTask taskId = some task ->
    task.status ∈ mergeStatuses ->
      ∃! id, exists item, s.findItem id = some item ∧ item.taskId = taskId ∧
        item.status ∈ openItemStatuses
  mergeable : forall id item, s.findItem id = some item ->
    item.status ∈ [MergeQueueItemStatus.enqueued, .preparing] ->
      exists task, s.findTask item.taskId = some task ∧ task.status = .queuedForMerge
  handsOut : forall now params s' claimed (merge : ExecuteMergeParams),
    dequeueNext queries now params s = .ok (s', some claimed) ->
    merge.mergeQueueItemId = claimed.item.mergeQueueItemId ->
      exists found, loadMerge merge.mergeQueueItemId s' = .ok (s', found)

/-!
## Stages

An item that waits wants its task in QUEUED_FOR_MERGE, and one whose merge has begun wants
it in MERGING.
-/

inductive MergeStage where
  | queued
  | merging
deriving DecidableEq

def itemStage : MergeQueueItemStatus -> Option MergeStage
  | .enqueued | .preparing => some .queued
  | .rebasing | .validating | .merging => some .merging
  | _ => none

def taskStage : TaskStatus -> Option MergeStage
  | .queuedForMerge => some .queued
  | .merging => some .merging
  | _ => none

theorem mem_openItemStatuses {status : MergeQueueItemStatus} :
    status ∈ openItemStatuses <-> exists stage, itemStage status = some stage := by
  cases status <;> simp [openItemStatuses, inFlightStatuses, itemStage]

theorem mem_mergeStatuses {status : TaskStatus} :
    status ∈ mergeStatuses <-> exists stage, taskStage status = some stage := by
  cases status <;> simp [mergeStatuses, taskStage]

theorem taskStage_eq_none {status : TaskStatus} :
    taskStage status = none <-> status ∉ mergeStatuses := by
  rw [mem_mergeStatuses, ← Option.isSome_iff_exists, Option.not_isSome_iff_eq_none]

theorem itemStage_eq_queued {status : MergeQueueItemStatus} :
    itemStage status = some .queued <-> status ∈ [MergeQueueItemStatus.enqueued, .preparing] := by
  cases status <;> simp [itemStage]

theorem taskStage_eq_queued {status : TaskStatus} :
    taskStage status = some .queued <-> status = .queuedForMerge := by
  cases status <;> simp [taskStage]

/-- The stage that each item wants its task to be in. -/
def itemClaims (v : ItemView) : MergeQueueItemId -> Option (TaskId × MergeStage) :=
  fun id => (v id).bind (fun entry =>
    (itemStage entry.2.2).map (fun stage => (entry.1, stage)))

def taskStages (s : Store) : TaskId -> Option MergeStage :=
  fun taskId => (s.findTask taskId).bind (fun task => taskStage task.status)

variable {stage : MergeStage}

theorem itemClaims_eq_some {s : Store} {taskId : TaskId} :
    itemClaims (itemView s) id = some (taskId, stage) <->
      exists item, s.findItem id = some item ∧ item.taskId = taskId ∧
        itemStage item.status = some stage := by
  unfold itemClaims itemView
  cases s.findItem id with
  | none =>
      simp
  | some item =>
      simp [and_comm]

theorem taskStages_eq_some {s : Store} {taskId : TaskId} :
    taskStages s taskId = some stage <->
      exists task, s.findTask taskId = some task ∧ taskStage task.status = some stage := by
  unfold taskStages
  rw [Option.bind_eq_some_iff]

theorem itemClaims_update (v : ItemView) (id : MergeQueueItemId) (taskId : TaskId)
    (repositoryId : String) (status : MergeQueueItemStatus) :
    itemClaims (Function.update v id (some (taskId, repositoryId, status))) =
      Function.update (itemClaims v) id
        ((itemStage status).map (fun stage => (taskId, stage))) := by
  funext other
  by_cases hother : other = id
  · rw [hother, Function.update_self]
    simp [itemClaims]
  · rw [Function.update_of_ne hother]
    simp [itemClaims, Function.update_of_ne hother]

theorem taskStages_of_tasks_eq {s s' : Store} (h : s'.tasks = s.tasks) :
    taskStages s' = taskStages s := by
  funext taskId
  unfold taskStages
  rw [Store.findTask_of_tasks_eq h]

theorem taskStages_of_findTask {s : Store} {taskId : TaskId} {task : Task}
    (h : s.findTask taskId = some task) :
    taskStages s taskId = taskStage task.status := by
  unfold taskStages
  rw [h]
  rfl

theorem taskStages_of_write {s s' : Store} {taskId : TaskId} {task : Task} {version : Nat}
    (h : s.findTask taskId = some task)
    (htasks : s'.tasks = (s.writeTask taskId version data).tasks) :
    taskStages s' =
      Function.update (taskStages s) taskId (taskStage (data.status.getD task.status)) := by
  rw [taskStages_of_tasks_eq htasks]
  funext other
  by_cases hother : other = taskId
  · rw [hother, Function.update_self]
    unfold taskStages
    rw [Store.findTask_writeTask_self, h]
    rfl
  · rw [Function.update_of_ne hother]
    unfold taskStages
    rw [Store.findTask_writeTask_of_ne hother]

/-!
## Items and tasks in step
-/

/-- The tasks are in the stages that their items want them in, and no others are. -/
def Staged (s : Store) : Prop :=
  Corresponds (itemClaims (itemView s)) (taskStages s)

theorem Staged.congr {s s' : Store} (h : Staged s)
    (hclaims : itemClaims (itemView s') = itemClaims (itemView s))
    (hstages : taskStages s' = taskStages s) :
    Staged s' := by
  unfold Staged
  rw [hclaims, hstages]
  exact h

theorem dequeueNext_hands {queries : QueueQueries} {now : Millis} {params : DequeueNextParams}
    {s s' : Store} {claimed : DequeueNextResult}
    (h : dequeueNext queries now params s = .ok (s', some claimed)) :
    exists item prepared, s.findItem item.mergeQueueItemId = some item ∧
      item.status = .enqueued ∧ claimed.item.mergeQueueItemId = item.mergeQueueItemId ∧
      s'.findItem item.mergeQueueItemId = some prepared ∧
      prepared.taskId = item.taskId ∧ prepared.status = .preparing := by
  rcases dequeueNext_recalculates h with ⟨_, _, hnone⟩ | ⟨item, result, _, hnext, hresult, hitem, _⟩
  · cases hnone
  · cases hresult
    rcases findNextEnqueued_spec hnext with ⟨hfind, _, henqueued⟩
    rcases dequeueNext_spec h with ⟨hnone, _⟩ | ⟨next, s₁, hnext', hs₁, hmoved⟩
    · rw [hnext] at hnone
      cases hnone
    · rw [hnext] at hnext'
      cases hnext'
      rcases hmoved.items item.mergeQueueItemId with ⟨position, hposition⟩
      rw [hs₁, Store.findItem_writeItem_self, hfind, Option.map_some, Option.map_some]
        at hposition
      refine ⟨item, _, hfind, henqueued, ?_, hposition, rfl, rfl⟩
      rw [hitem]
      rfl

theorem Staged.coherent {s : Store} (h : Staged s) (queries : QueueQueries) :
    Coherent queries s := by
  have stage_of_item : forall id item stage, s.findItem id = some item ->
      itemStage item.status = some stage -> taskStages s item.taskId = some stage := by
    intro id item stage hitem hstage
    exact h.agrees id _ _ (itemClaims_eq_some.mpr ⟨item, hitem, rfl, hstage⟩)
  have queued : forall id item, s.findItem id = some item ->
      item.status ∈ [MergeQueueItemStatus.enqueued, .preparing] ->
        exists task, s.findTask item.taskId = some task ∧ task.status = .queuedForMerge := by
    intro id item hitem hstatus
    have hstage := stage_of_item id item _ hitem (itemStage_eq_queued.mpr hstatus)
    rcases taskStages_eq_some.mp hstage with ⟨task, htask, hqueued⟩
    exact ⟨task, htask, taskStage_eq_queued.mp hqueued⟩
  constructor
  · intro id item hitem hopen
    rcases mem_openItemStatuses.mp hopen with ⟨stage, hstage⟩
    rcases taskStages_eq_some.mp (stage_of_item id item stage hitem hstage) with
      ⟨task, htask, htaskStage⟩
    exact ⟨task, htask, mem_mergeStatuses.mpr ⟨stage, htaskStage⟩⟩
  · intro taskId task htask hstatus
    rcases mem_mergeStatuses.mp hstatus with ⟨stage, hstage⟩
    have htaskStage : taskStages s taskId = some stage :=
      taskStages_eq_some.mpr ⟨task, htask, hstage⟩
    rcases h.claimed taskId stage htaskStage with ⟨id, hclaim⟩
    rcases itemClaims_eq_some.mp hclaim with ⟨item, hitem, hitemTask, hitemStage⟩
    refine ⟨id, ⟨item, hitem, hitemTask, mem_openItemStatuses.mpr ⟨stage, hitemStage⟩⟩, ?_⟩
    intro other hother
    rcases hother with ⟨item', hitem', htask', hopen⟩
    rcases mem_openItemStatuses.mp hopen with ⟨stage', hstage'⟩
    have hclaim' : itemClaims (itemView s) other = some (taskId, stage') :=
      itemClaims_eq_some.mpr ⟨item', hitem', htask', hstage'⟩
    have hsame := h.agrees other taskId stage' hclaim'
    rw [htaskStage] at hsame
    cases hsame
    exact h.unique other id taskId stage hclaim' hclaim
  · exact queued
  · intro now params s' claimed merge hdequeue hmerge
    rcases dequeueNext_hands hdequeue with
      ⟨item, prepared, hitem, henqueued, hclaimed, hprepared, htaskId, hpreparing⟩
    rcases queued item.mergeQueueItemId item hitem (by rw [henqueued]; decide) with
      ⟨task, htask, hqueued⟩
    refine ⟨(prepared, task), loadMerge_eq_ok.mpr ⟨rfl, ?_⟩⟩
    constructor
    · rw [hmerge, hclaimed]
      exact hprepared
    · exact hpreparing
    · rw [htaskId, Store.findTask_of_tasks_eq (dequeueNext_tasks hdequeue)]
      exact htask
    · exact hqueued

section Losses

variable {queries : QueueQueries} {s s' : Store}

/-- What coherence says of the stages. -/
theorem Coherent.stage_of_claim (h : Coherent queries s) {taskId : TaskId}
    (hclaim : itemClaims (itemView s) id = some (taskId, stage)) :
    taskStages s taskId ≠ none := by
  rcases itemClaims_eq_some.mp hclaim with ⟨item, hitem, htaskId, hstage⟩
  rcases h.belongs id item hitem (mem_openItemStatuses.mpr ⟨stage, hstage⟩) with
    ⟨task, htask, hstatus⟩
  rw [htaskId] at htask
  rw [taskStages_of_findTask htask, Ne, taskStage_eq_none, not_not]
  exact hstatus

theorem Coherent.queued_of_claim (h : Coherent queries s) {taskId : TaskId}
    (hclaim : itemClaims (itemView s) id = some (taskId, .queued)) :
    taskStages s taskId = some .queued := by
  rcases itemClaims_eq_some.mp hclaim with ⟨item, hitem, htaskId, hstage⟩
  rcases h.mergeable id item hitem (itemStage_eq_queued.mp hstage) with ⟨task, htask, hqueued⟩
  rw [htaskId] at htask
  exact taskStages_eq_some.mpr ⟨task, htask, taskStage_eq_queued.mpr hqueued⟩

theorem Coherent.exists_claim (h : Coherent queries s) {taskId : TaskId}
    (hstage : taskStages s taskId = some stage) :
    exists id stage', itemClaims (itemView s) id = some (taskId, stage') := by
  rcases taskStages_eq_some.mp hstage with ⟨task, htask, htaskStage⟩
  rcases h.exactlyOne taskId task htask (mem_mergeStatuses.mpr ⟨stage, htaskStage⟩) with
    ⟨id, ⟨item, hitem, hitemTask, hopen⟩, _⟩
  rcases mem_openItemStatuses.mp hopen with ⟨stage', hstage'⟩
  exact ⟨id, stage', itemClaims_eq_some.mpr ⟨item, hitem, hitemTask, hstage'⟩⟩

theorem not_coherent_of_moved (h : Staged s) {taskId : TaskId} {target : Option MergeStage}
    (hclaims : itemClaims (itemView s') = itemClaims (itemView s))
    (hstages : taskStages s' = Function.update (taskStages s) taskId target)
    (hne : target ≠ taskStages s taskId)
    (hforward : taskStages s taskId = some .merging -> target ≠ some .queued) :
    ¬ Coherent queries s' := by
  intro hcoherent
  have htarget : taskStages s' taskId = target := by
    rw [hstages, Function.update_self]
  cases hbefore : taskStages s taskId with
  | none =>
      cases hafter : target with
      | none =>
          rw [hbefore, hafter] at hne
          exact hne rfl
      | some stage =>
          rcases hcoherent.exists_claim (htarget.trans hafter) with ⟨id, stage', hclaim⟩
          rw [hclaims] at hclaim
          exact h.not_claimed hbefore id stage' hclaim
  | some before =>
      rcases h.claimed taskId before hbefore with ⟨id, hclaim⟩
      rw [← hclaims] at hclaim
      cases before with
      | queued =>
          have hqueued := hcoherent.queued_of_claim hclaim
          rw [htarget] at hqueued
          rw [hbefore] at hne
          exact hne hqueued
      | merging =>
          have hstage := hcoherent.stage_of_claim hclaim
          rw [htarget] at hstage
          cases hafter : target with
          | none =>
              exact hstage hafter
          | some stage =>
              rw [hbefore, hafter] at hne
              have hback := hforward hbefore
              rw [hafter] at hback
              cases stage with
              | queued =>
                  exact hback rfl
              | merging =>
                  exact hne rfl

theorem not_coherent_of_left (h : Staged s) {taskId : TaskId}
    (hclaim : itemClaims (itemView s) id = some (taskId, stage))
    (hclaims : itemClaims (itemView s') = Function.update (itemClaims (itemView s)) id none)
    (hstages : taskStages s' = taskStages s) : ¬ Coherent queries s' := by
  intro hcoherent
  have hstage : taskStages s' taskId = some stage := by
    rw [hstages]
    exact h.agrees id taskId stage hclaim
  rcases hcoherent.exists_claim hstage with ⟨other, stage', hother⟩
  rw [hclaims] at hother
  exact h.withdrawn hclaim other stage' hother

end Losses

/-!
## Requests
-/

/-- The request takes no task into QUEUED_FOR_MERGE or MERGING, or out of it. -/
def LeavesStages (s : Store) : Request -> Prop
  | .pause taskId _ =>
      forall task, s.findTask taskId = some task -> task.status ∉ mergeStatuses
  | .cancel taskId _ _ =>
      forall task, s.findTask taskId = some task -> task.status ≠ .queuedForMerge
  | .transitionTask taskId target context _ =>
      forall task, s.findTask taskId = some task ->
        validateTransition task.status target context = .valid ->
          task.status ∉ mergeStatuses ∧ target ∉ mergeStatuses
  | _ => True

/-- The machine leads from MERGING never back to QUEUED_FOR_MERGE, and never from a status
to itself. -/
theorem taskStage_moves {source target : TaskStatus} {context : TransitionContext}
    (h : validateTransition source target context = .valid)
    (hmerge : source ∈ mergeStatuses ∨ target ∈ mergeStatuses) :
    taskStage target ≠ taskStage source ∧
      (taskStage source = some .merging -> taskStage target ≠ some .queued) := by
  cases source with
  | queuedForMerge =>
      constructor
      · intro hsame
        rw [taskStage_eq_queued.mp hsame] at h
        cases h
      · intro hmerging
        cases hmerging
  | merging =>
      constructor
      · intro hsame
        cases target <;> cases hsame
        cases h
      · intro _ hqueued
        rw [taskStage_eq_queued.mp hqueued] at h
        cases h
  | _ =>
      constructor
      · intro hsame
        rcases hmerge with hmerge | hmerge
        · exact taskStage_eq_none.mp rfl hmerge
        · exact taskStage_eq_none.mp hsame hmerge
      · intro hmerging
        cases hmerging

theorem taskStage_of_ready {source : TaskStatus} {context : TransitionContext}
    (h : validateTransition source .ready context = .valid) :
    taskStage source = none := by
  cases source with
  | queuedForMerge =>
      cases h
  | merging =>
      cases h
  | _ =>
      rfl

theorem taskStage_of_outcome (task : Task) (retryPolicy : RetryPolicy)
    (escalationPolicy : EscalationPolicy) (hasFailureSummary : Bool) :
    taskStage (evaluateTaskOutcome task retryPolicy escalationPolicy
      hasFailureSummary).targetStatus = none := by
  unfold evaluateTaskOutcome
  dsimp only
  split
  · rfl
  · dsimp only
    split <;> rfl

/-- A request leaves the stage of the task that it writes, unless it is one of those that
the condition is about. -/
theorem taskStage_of_writes {s : Store} {taskId : TaskId} {task : Task} (hr : LeavesStages s r)
    (htask : s.findTask taskId = some task) (h : r.Writes taskId task data) :
    taskStage (data.status.getD task.status) = taskStage task.status := by
  cases r with
  | updateTask id dto | changePriority id priority actorId =>
      rw [h.2]
      rfl
  | acquireLease now leaseId params =>
      rcases h with ⟨_, hstatus, hdata⟩
      have hnone : forall status, status ∈ leaseEligibleStatuses -> taskStage status = none := by
        decide
      rw [hdata, hnone task.status hstatus]
      rfl
  | reclaimLease params =>
      have hnone : forall status, status ∈ reclaimEligibleTaskStates ->
          taskStage status = none := by
        decide
      rw [h.2, hnone task.status h.1]
      exact taskStage_of_outcome task _ _ _
  | transitionTask id target context actor =>
      rcases h with ⟨hid, hvalid, hdata⟩
      rw [hid] at htask
      rcases hr task htask hvalid with ⟨hsource, htarget⟩
      rw [hdata, taskStage_eq_none.mpr hsource]
      exact taskStage_eq_none.mpr htarget
  | pause id actorId =>
      rcases h with ⟨hid, _, hdata⟩
      rw [hid] at htask
      rw [hdata, taskStage_eq_none.mpr (hr task htask)]
      rfl
  | cancel id actorId acknowledge =>
      rcases h with ⟨hid, hmerging, _, hdata⟩
      rw [hid] at htask
      have hout : task.status ∉ mergeStatuses := by
        simp [mergeStatuses, hr task htask, hmerging]
      rw [hdata, taskStage_eq_none.mpr hout]
      rfl
  | requeue id actorId =>
      rcases h with ⟨_, hvalid, hdata⟩
      rw [hdata, taskStage_of_ready hvalid]
      rfl
  | resume id actorId | forceUnblock id actorId reason =>
      rcases h with ⟨_, hstatus, hdata⟩
      rw [hdata, hstatus]
      rfl
  | resolveEscalation id dto =>
      rcases h with ⟨_, hescalated, hdata⟩
      rw [hdata, hescalated]
      cases dto.resolutionType <;> rfl
  | rerunReview id actorId =>
      rcases h with ⟨_, hstatus, hdata⟩
      have hnone : forall status, status ∈ [TaskStatus.approved, .inReview] ->
          taskStage status = none := by
        decide
      rw [hdata, hnone task.status hstatus]
      rfl
  | reopen id actorId =>
      rcases h with ⟨_, hstatus, hdata⟩
      have hnone : forall status, status ∈ [TaskStatus.done, .failed, .cancelled] ->
          taskStage status = none := by
        decide
      rw [hdata, hnone task.status hstatus]
      rfl
  | createWorkerPool _ | createTask _ | transitionLease _ _ _ _ | receiveHeartbeat _ _ =>
      cases h

theorem taskStages_of_same {s s' : Store} {taskId : TaskId} {task : Task} {version : Nat}
    (htask : s.findTask taskId = some task)
    (htasks : s'.tasks = (s.writeTask taskId version data).tasks)
    (hsame : taskStage (data.status.getD task.status) = taskStage task.status) :
    taskStages s' = taskStages s := by
  rw [taskStages_of_write htask htasks, hsame, ← taskStages_of_findTask htask,
    Function.update_eq_self]

theorem taskStages_of_perform {s s' : Store} (hr : LeavesStages s r) (h : perform s r = .ok s') :
    taskStages s' = taskStages s := by
  cases taskWrite_of_perform h with
  | unchanged htasks =>
      exact taskStages_of_tasks_eq htasks
  | created dto _ hnew hself hother =>
      funext taskId
      by_cases hid : taskId = dto.taskId
      · rw [hid, taskStages_of_findTask hself]
        unfold taskStages
        rw [hnew]
        rfl
      · unfold taskStages
        rw [hother taskId hid]
  | written taskId task data hfind hwrites htasks =>
      exact taskStages_of_same hfind htasks (taskStage_of_writes hr hfind hwrites)

theorem moves_of_not_leaves {s : Store} (hr : ¬ LeavesStages s r) :
    exists s' taskId task target context, perform s r = .ok s' ∧
      s.findTask taskId = some task ∧
      validateTransition task.status target context = .valid ∧
      (task.status ∈ mergeStatuses ∨ target ∈ mergeStatuses) ∧
      s'.mergeQueueItems = s.mergeQueueItems ∧
      s'.tasks = (s.writeTask taskId (task.version + 1) { status := some target }).tasks := by
  cases r with
  | transitionTask taskId target context actor =>
      simp only [LeavesStages, not_forall] at hr
      rcases hr with ⟨task, htask, hvalid, hmerge⟩
      rcases transitionTask_accepts actor htask hvalid with ⟨s', event, h⟩
      rcases transitionTask_eq_ok.mp h with ⟨found, hfound, _, hs', _⟩
      rw [htask] at hfound
      cases hfound
      refine ⟨s', taskId, task, target, context, committed_eq_ok.mpr ⟨event, h⟩, htask, hvalid,
        by tauto, ?_, ?_⟩
      · rw [hs']
        rfl
      · rw [hs']
        rfl
  | pause taskId actorId =>
      simp only [LeavesStages, not_forall, not_not] at hr
      rcases hr with ⟨task, htask, hmerge⟩
      have hvalid : validateTransition task.status .escalated { isOperator := some true } =
          .valid := by
        rcases mem_mergeStatuses.mp hmerge with ⟨stage, hstage⟩
        cases hstatus : task.status <;> rw [hstatus] at hstage <;>
          first | rfl | cases hstage
      rcases executeTransitionAction_accepts (operatorActor actorId) htask hvalid with
        ⟨s', result, h, hmoved⟩
      exact ⟨s', taskId, task, _, _, committed_eq_ok.mpr ⟨result, h⟩, htask, hvalid,
        Or.inl hmerge, hmoved⟩
  | cancel taskId actorId acknowledge =>
      simp only [LeavesStages, not_forall, not_not] at hr
      rcases hr with ⟨task, htask, hqueued⟩
      have hvalid : validateTransition task.status .cancelled { isOperator := some true } =
          .valid := by
        rw [hqueued]
        rfl
      -- Only MERGING is refused outright, and QUEUED_FOR_MERGE needs no acknowledgement.
      have hguard : guardCancel s taskId acknowledge = .ok () := by
        simp [guardCancel, htask, hqueued, ensure, inProgressStates]
      rcases executeTransitionAction_accepts (operatorActor actorId) htask hvalid with
        ⟨s', result, h, hmoved⟩
      have hcancel : cancel taskId actorId acknowledge s = .ok (s', result) :=
        bind_eq_ok.mpr ⟨(), hguard, h⟩
      refine ⟨s', taskId, task, _, _, committed_eq_ok.mpr ⟨result, hcancel⟩, htask, hvalid, ?_,
        hmoved⟩
      rw [hqueued]
      exact Or.inl (by decide)
  | _ =>
      exact absurd trivial hr

/-!
## Reviews
-/

def LeavesStagesReview (r : ReviewTables) : ReviewRequest -> Prop
  | .request request => LeavesStages r.store request
  | _ => True

theorem taskStage_of_decision (params : ApplyReviewDecisionParams) (task : Task)
    (decision : LeadReviewDecision) :
    taskStage (taskTarget params task decision) = none := by
  unfold taskTarget
  cases decision <;> cases evaluatePolicyEscalation params task _ <;> rfl

theorem staged_of_review {port : FollowUpTaskPort} {q : ReviewRequest} {r r' : ReviewTables}
    (hq : LeavesStagesReview r q) (h : performReview port r q = .ok r') :
    itemView r'.store = itemView r.store ∧ taskStages r'.store = taskStages r.store := by
  cases q with
  | dispatchReviewers now idGenerator params =>
      rcases committedReview_eq_ok.mp h with ⟨result, h⟩
      rcases dispatchReviewers_spec h with ⟨task, hdispatched⟩
      rw [hdispatched.store]
      refine ⟨rfl, taskStages_of_same hdispatched.found rfl ?_⟩
      rw [hdispatched.devComplete]
      rfl
  | assembleLeadReviewContext params =>
      rcases committedReview_eq_ok.mp h with ⟨result, h⟩
      rcases assembleLeadReviewContext_spec h with ⟨cycle, hconsolidated⟩
      rw [hconsolidated.written]
      exact ⟨rfl, rfl⟩
  | applyDecision idGenerator params =>
      rcases committedReview_eq_ok.mp h with ⟨result, h⟩
      refine ⟨itemView_of_items_eq (applyDecision_kept h).mergeQueueItems, ?_⟩
      rcases applyDecision_spec h with ⟨packet, task, cycle, hdecided⟩
      rcases hdecided.movedTask with ⟨version, _, hmoved⟩
      funext id
      cases hfind : r.store.findTask id with
      | some t =>
          by_cases hid : id = params.taskId
          · rw [hid, taskStages_of_findTask hmoved, taskStages_of_findTask hdecided.foundTask,
              hdecided.inReview]
            exact taskStage_of_decision params task packet.decision
          · rw [taskStages_of_findTask hfind,
              taskStages_of_findTask (hdecided.keptTasks id t hid hfind)]
      | none =>
          unfold taskStages
          rw [hfind]
          cases hafter : r'.store.findTask id with
          | some t =>
              show taskStage t.status = none
              rw [(hdecided.newTasks id t hafter hfind).status]
              rfl
          | none =>
              rfl
  | transitionReviewCycle reviewCycleId target context actor =>
      rcases committedReview_eq_ok.mp h with ⟨event, h⟩
      rcases transitionReviewCycle_spec h with ⟨cycle, _, _, _, hr'⟩
      rw [hr']
      exact ⟨rfl, rfl⟩
  | createPacket packet =>
      rw [(ReviewTables.createPacket_spec h).1]
      exact ⟨rfl, rfl⟩
  | job request =>
      rcases job_spec h with ⟨jobs, _, hr'⟩
      rw [hr']
      exact ⟨rfl, rfl⟩
  | request request =>
      have hperform := (request_spec h).1
      exact ⟨itemView_of_items_eq (taskEffect_of_perform hperform).1,
        taskStages_of_perform hq hperform⟩

end Merging
end CopilotFactory
