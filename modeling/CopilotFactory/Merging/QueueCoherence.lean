import CopilotFactory.Auditing.AuditTrail
import CopilotFactory.Merging.QueueStages

/-!
# Coherence of the merge queue

The services of the queue move a task together with its item, except where a merge fails
after its rebase.  Runs of the factory stay coherent exactly as long as no such merge
commits, and no operator takes a task away from its item.
-/

namespace CopilotFactory
namespace Merging

open Foundations
open Domain
open Infrastructure
open Application
open ControlPlane
open Dependencies
open Reviewing
open Auditing

/-!
## Merges
-/

variable {v v' : ItemView} {id : MergeQueueItemId} {w : Factory}

def itemTask (v : ItemView) (id : MergeQueueItemId) : Option TaskId :=
  (v id).map Prod.fst

def KnowsTask (v : ItemView) : MergePhase -> Prop
  | .idle => True
  | .loaded params task => itemTask v params.mergeQueueItemId = some task.taskId
  | .rebasing params progress | .validating params progress | .merging params progress =>
      itemTask v params.mergeQueueItemId = some progress.task.taskId

def KeepsItemTasks (v v' : ItemView) : Prop :=
  forall id taskId, itemTask v id = some taskId -> itemTask v' id = some taskId

theorem keepsItemTasks_of_eq (h : v' = v) : KeepsItemTasks v v' := by
  rw [h]
  exact fun _ _ htask => htask

theorem keepsItemTasks_update {taskId : TaskId} (rest : String × MergeQueueItemStatus)
    (h : v id = none ∨ exists before, v id = some (taskId, before)) :
    KeepsItemTasks v (Function.update v id (some (taskId, rest))) := by
  intro id' taskId' htask
  by_cases hid : id' = id
  · rw [hid] at htask ⊢
    rcases h with hnew | ⟨before, hbefore⟩
    · rw [itemTask, hnew] at htask
      cases htask
    · rw [itemTask, hbefore] at htask
      rw [itemTask, Function.update_self]
      exact htask
  · unfold itemTask
    rw [Function.update_of_ne hid]
    exact htask

theorem ItemStep.keepsItemTasks (h : ItemStep v v') : KeepsItemTasks v v' := by
  cases h with
  | kept =>
      exact keepsItemTasks_of_eq rfl
  | added id taskId repositoryId hnew =>
      exact keepsItemTasks_update _ (Or.inl hnew)
  | advanced id taskId repositoryId source target hsource _ _ =>
      exact keepsItemTasks_update _ (Or.inr ⟨_, hsource⟩)

theorem KnowsTask.keep {phase : MergePhase} (h : KnowsTask v phase)
    (hkeep : KeepsItemTasks v v') : KnowsTask v' phase := by
  cases phase with
  | idle =>
      trivial
  | loaded params task =>
      exact hkeep _ _ h
  | rebasing params progress =>
      exact hkeep _ _ h
  | validating params progress =>
      exact hkeep _ _ h
  | merging params progress =>
      exact hkeep _ _ h

section Moves

variable {params : ExecuteMergeParams} {move : ItemMove} {taskMove : TaskMove}
  {taskId : TaskId} {expectedVersion : Store -> Except ServiceError Nat}
  {auditEvents : List AuditEvent} {progress moved : MergeProgress} {s s' : Store}

variable {item : MergeQueueItem}

theorem itemClaims_of_write (hitem : s.findItem id = some item)
    (hitems : s'.mergeQueueItems = (s.writeItem id move.update).mergeQueueItems) :
    itemClaims (itemView s') =
      Function.update (itemClaims (itemView s)) id
        ((itemStage move.target).map (fun stage => (item.taskId, stage))) := by
  rw [itemView_of_items_eq hitems, itemView_writeItem hitem, itemClaims_update]
  rfl

theorem itemClaims_of_findItem (hitem : s.findItem id = some item) :
    itemClaims (itemView s) id =
      (itemStage item.status).map (fun stage => (item.taskId, stage)) := by
  unfold itemClaims
  rw [itemView_of_findItem hitem]
  rfl

theorem staged_moveItem (hs : Staged s) (hsame : itemStage move.target = itemStage move.source)
    (h : moveItem params move progress s = .ok (s', moved)) :
    Staged s' := by
  rcases moveItem_eq_ok.mp h with ⟨item, hitem, hstatus, hs', _⟩
  apply hs.congr
  · rw [itemClaims_of_write hitem (by rw [hs']; rfl), hsame, ← hstatus,
      ← itemClaims_of_findItem hitem, Function.update_eq_self]
  · rw [hs']
    rfl

theorem moveItem_leaves_task (queries : QueueQueries) (move : ItemMove)
    (progress : MergeProgress) {stage : MergeStage} (hs : Staged s)
    (hitem : s.findItem params.mergeQueueItemId = some item)
    (hstatus : item.status = move.source) (hsource : itemStage move.source = some stage)
    (htarget : itemStage move.target = none) :
    exists s' moved, moveItem params move progress s = .ok (s', moved) ∧
      ¬ Coherent queries s' := by
  have hclaim : itemClaims (itemView s) params.mergeQueueItemId = some (item.taskId, stage) := by
    rw [itemClaims_of_findItem hitem, hstatus, hsource]
    rfl
  let s' := (s.writeItem params.mergeQueueItemId move.update).appendAudit
    (itemAudit params move)
  have hclaims : itemClaims (itemView s') =
      Function.update (itemClaims (itemView s)) params.mergeQueueItemId none := by
    have hitems : s'.mergeQueueItems =
        (s.writeItem params.mergeQueueItemId move.update).mergeQueueItems :=
      rfl
    rw [itemClaims_of_write hitem hitems, htarget]
    rfl
  exact ⟨s', _, moveItem_eq_ok.mpr ⟨item, hitem, hstatus, rfl, rfl⟩,
    not_coherent_of_left hs hclaim hclaims rfl⟩

theorem staged_moveItemAndTask (hs : Staged s)
    (hknows : itemTask (itemView s) params.mergeQueueItemId = some taskId)
    {stage : MergeStage} (hsource : itemStage move.source = some stage)
    (htarget : itemStage move.target = taskStage taskMove.target)
    (h : moveItemAndTask params move taskMove taskId expectedVersion auditEvents s =
      .ok (s', moved)) :
    Staged s' := by
  rcases moveItemAndTask_eq_ok.mp h with ⟨item, task, hitem, hstatus, htask, _, hs', _⟩
  have htaskId : item.taskId = taskId := by
    rw [itemTask, itemView_of_findItem hitem] at hknows
    exact Option.some.inj hknows
  have hclaim : itemClaims (itemView s) params.mergeQueueItemId = some (taskId, stage) := by
    rw [itemClaims_of_findItem hitem, hstatus, hsource, htaskId]
    rfl
  have hwritten : s'.tasks = (s.writeTask taskId (task.version + 1) taskMove.update).tasks := by
    rw [hs']
    rfl
  have hstages : taskStages s' =
      Function.update (taskStages s) taskId (taskStage taskMove.target) :=
    taskStages_of_write htask hwritten
  unfold Staged
  rw [itemClaims_of_write hitem (by rw [hs']; rfl), hstages, htarget, htaskId]
  exact Corresponds.update hs (hs.claims_eq hclaim) _

theorem taskId_of_moveItemAndTask
    (h : moveItemAndTask params move taskMove taskId expectedVersion auditEvents s =
      .ok (s', moved)) :
    moved.task.taskId = taskId := by
  rcases moveItemAndTask_eq_ok.mp h with ⟨_, task, _, _, htask, _, _, hmoved⟩
  have htaskId : task.taskId = taskId := Store.taskId_of_findTask htask
  rw [hmoved]
  exact htaskId

end Moves

/-- The transaction is not one that fails the item and leaves the task MERGING. -/
def MovesTask (s : Store) (plan : MergePlan) : Prop :=
  match plan.step with
  | .failValidation _ _ =>
      forall item, s.findItem plan.params.mergeQueueItemId = some item ->
        item.status ≠ .validating
  | .failPush _ _ =>
      forall item, s.findItem plan.params.mergeQueueItemId = some item ->
        item.status ≠ .merging
  | _ => True

section Plans

variable {phase : MergePhase} {turn : MergeTurn} {plan : MergePlan} {progress : MergeProgress}
  {s s' : Store}

theorem plan_knowsTask (hplan : phase.plan turn = some plan)
    (h : plan.step.perform plan.params s = .ok (s', progress))
    (hphase : KnowsTask (itemView s) phase) :
    KnowsTask (itemView s') (plan.next progress) := by
  have hlater := hphase.keep (itemStep_of_mergeStep h).keepsItemTasks
  cases hplan using MergePhase.plan_cases with
  | startRebase params task =>
      unfold MergeStep.perform startRebase at h
      show itemTask (itemView s') params.mergeQueueItemId = some progress.task.taskId
      rw [taskId_of_moveItemAndTask h]
      exact hlater
  | startValidation params remembered | startPush params remembered =>
      show itemTask (itemView s') params.mergeQueueItemId = some progress.task.taskId
      rw [(taskEffect_of_moveItem h).2]
      exact hlater
  | settleConflict | failValidation | failPush | finishMerge =>
      trivial

theorem plan_staged (hplan : phase.plan turn = some plan)
    (h : plan.step.perform plan.params s = .ok (s', progress))
    (hphase : KnowsTask (itemView s) phase) (hmoves : MovesTask s plan) (hs : Staged s) :
    Staged s' := by
  cases hplan using MergePhase.plan_cases with
  | startRebase params task =>
      unfold MergeStep.perform startRebase at h
      exact staged_moveItemAndTask hs hphase rfl rfl h
  | settleConflict params remembered classification completedAt =>
      unfold MergeStep.perform settleConflict at h
      apply staged_moveItemAndTask hs hphase rfl _ h
      cases classification <;> rfl
  | startValidation | startPush =>
      exact staged_moveItem hs rfl h
  | failValidation params remembered completedAt =>
      rcases moveItem_eq_ok.mp h with ⟨item, hitem, hvalidating, _⟩
      exact absurd hvalidating (hmoves item hitem)
  | failPush params remembered completedAt =>
      rcases moveItem_eq_ok.mp h with ⟨item, hitem, hmerging, _⟩
      exact absurd hmerging (hmoves item hitem)
  | finishMerge params remembered completedAt =>
      unfold MergeStep.perform finishMerge at h
      exact staged_moveItemAndTask hs hphase rfl rfl h

/-- A failed validation or push commits, and its task is left without an item. -/
theorem not_coherent_plan (queries : QueueQueries) (hmoves : ¬ MovesTask s plan)
    (hs : Staged s) :
    exists s' progress, plan.step.perform plan.params s = .ok (s', progress) ∧
      ¬ Coherent queries s' := by
  rcases plan with ⟨params, step, next⟩
  cases step with
  | failValidation completedAt progress =>
      simp only [MovesTask, not_forall, not_not] at hmoves
      rcases hmoves with ⟨item, hitem, hvalidating⟩
      exact moveItem_leaves_task queries (validationFailedMove completedAt) progress hs hitem
        hvalidating rfl rfl
  | failPush completedAt progress =>
      simp only [MovesTask, not_forall, not_not] at hmoves
      rcases hmoves with ⟨item, hitem, hmerging⟩
      exact moveItem_leaves_task queries (pushFailedMove completedAt) progress hs hitem
        hmerging rfl rfl
  | _ =>
      exact absurd trivial hmoves

end Plans

/-!
## Every step
-/

/-- No step takes a task out of its stage, or into one, without its item: no task in
QUEUED_FOR_MERGE or MERGING is paused or moved by a transition, none in QUEUED_FOR_MERGE is
cancelled, and no merge fails its item alone. -/
def KeepsStep (w : Factory) : FactoryStep -> Prop
  | .review request => LeavesStagesReview w.shared request
  | .mergeTurn pid turn =>
      forall plan, (w.phase pid).plan turn = some plan -> MovesTask w.shared.store plan
  | _ => True

/-- Items and tasks are in step, and the merges under way know their tasks. -/
structure Aligned (w : Factory) : Prop where
  staged : Staged w.shared.store
  knows : forall pid, KnowsTask (itemView w.shared.store) (w.phase pid)

theorem aligned_start : Aligned Factory.start where
  staged := Corresponds.empty
  knows := fun _ => trivial

theorem Aligned.shared (h : Aligned w) {r : ReviewTables} (hstaged : Staged r.store)
    (hkeep : KeepsItemTasks (itemView w.shared.store) (itemView r.store)) :
    Aligned { w with shared := r } where
  staged := hstaged
  knows := fun pid => (h.knows pid).keep hkeep

theorem Aligned.moved (h : Aligned w) {pid : InstanceId} {r : ReviewTables} {phase : MergePhase}
    (hstaged : Staged r.store)
    (hkeep : KeepsItemTasks (itemView w.shared.store) (itemView r.store))
    (hphase : KnowsTask (itemView r.store) phase) :
    Aligned (w.advance pid r phase) where
  staged := hstaged
  knows := Instances.forall_advance_phase r (fun other => (h.knows other).keep hkeep) hphase

section Steps

variable {port : FollowUpTaskPort} {queries : QueueQueries} {s s' : Store}

variable {q : FactoryStep}

theorem staged_enqueue {now : Millis} {itemId : MergeQueueItemId}
    {params : EnqueueForMergeParams} {result : EnqueueForMergeResult} (hs : Staged s)
    (h : enqueueForMerge queries now itemId params s = .ok (s', result)) :
    Staged s' ∧ KeepsItemTasks (itemView s) (itemView s') := by
  rcases enqueueForMerge_spec h with
    ⟨task, position, htask, happroved, _, hitem, hadded, htasks⟩
  have hnew : itemView s result.item.mergeQueueItemId = none := by
    unfold itemView
    rw [hadded.new]
    rfl
  have htaskId : result.item.taskId = params.taskId := by
    rw [hitem]
    rfl
  have hstatus : result.item.status = .enqueued := by
    rw [hitem]
    rfl
  have hstages : taskStages s' =
      Function.update (taskStages s) params.taskId (some .queued) :=
    taskStages_of_write htask htasks
  constructor
  · unfold Staged
    rw [hadded.itemView_eq, itemClaims_update, hstages, hstatus, htaskId]
    apply Corresponds.update hs
    rw [taskStages_of_findTask htask, happroved, itemClaims, hnew]
    rfl
  · rw [hadded.itemView_eq]
    exact keepsItemTasks_update _ (Or.inl hnew)

theorem staged_dequeue {now : Millis} {params : DequeueNextParams}
    {result : Option DequeueNextResult} (hs : Staged s)
    (h : dequeueNext queries now params s = .ok (s', result)) :
    Staged s' ∧ KeepsItemTasks (itemView s) (itemView s') := by
  have hstages := taskStages_of_tasks_eq (dequeueNext_tasks h)
  rcases itemView_dequeueNext h with ⟨_, hsame⟩ | ⟨id, taskId, _, henqueued, hprepared⟩
  · exact ⟨hs.congr (by rw [hsame]) hstages, keepsItemTasks_of_eq hsame⟩
  · constructor
    · apply hs.congr _ hstages
      have hclaim : itemClaims (itemView s) id =
          (itemStage .preparing).map (fun stage => (taskId, stage)) := by
        unfold itemClaims
        rw [henqueued]
        rfl
      rw [hprepared, itemClaims_update, ← hclaim, Function.update_eq_self]
    · rw [hprepared]
      exact keepsItemTasks_update _ (Or.inr ⟨_, henqueued⟩)

theorem aligned_of_step {w' : Factory} (hw : Aligned w) (hq : KeepsStep w q)
    (h : (factory port queries).step w q = .ok w') : Aligned w' := by
  cases q with
  | review request =>
      rcases bind_eq_ok.mp h with ⟨r, hperform, h⟩
      cases h
      rcases staged_of_review hq hperform with ⟨hview, hstages⟩
      exact hw.shared (hw.staged.congr (by rw [hview]) hstages) (keepsItemTasks_of_eq hview)
  | enqueueForMerge now itemId params =>
      rcases queueCall_eq_ok h with ⟨r, result, henqueue, hw'⟩
      rcases staged_enqueue hw.staged henqueue with ⟨hstaged, hkeep⟩
      rw [hw']
      exact hw.shared hstaged hkeep
  | dequeueNext now params =>
      rcases queueCall_eq_ok h with ⟨r, result, hdequeue, hw'⟩
      rcases staged_dequeue hw.staged hdequeue with ⟨hstaged, hkeep⟩
      rw [hw']
      exact hw.shared hstaged hkeep
  | loadMerge pid params =>
      rcases bind_eq_ok.mp h with ⟨⟨s', item, task⟩, hload, h⟩
      cases h
      rcases loadMerge_eq_ok.mp hload with ⟨_, hstartable⟩
      apply hw.moved hw.staged (keepsItemTasks_of_eq rfl)
      show itemTask (itemView w.shared.store) params.mergeQueueItemId = some task.taskId
      rw [itemTask, itemView_of_findItem hstartable.hitem,
        Store.taskId_of_findTask hstartable.htask]
      rfl
  | mergeTurn pid turn =>
      rcases takeTurn_eq_ok h with hsame | ⟨plan, progress, s', hs', hplan, hperform, hw'⟩
      · rw [hsame]
        exact hw
      · rw [hw']
        apply hw.moved
        · exact plan_staged hplan hperform (hw.knows pid) (hq plan hplan) hw.staged
        · exact (itemStep_of_mergeStep hperform).keepsItemTasks
        · exact plan_knowsTask hplan hperform (hw.knows pid)
  | endMerge pid =>
      cases h
      exact hw.moved hw.staged (keepsItemTasks_of_eq rfl) trivial

theorem aligned_next (hw : Aligned w) (hq : KeepsStep w q) :
    Aligned ((factory port queries).next w q) := by
  refine (factory port queries).next_cases hw ?_
  intro w' hstep
  exact aligned_of_step hw hq hstep

theorem takeTurn_of_perform {pid : InstanceId} {turn : MergeTurn} {plan : MergePlan}
    {progress : MergeProgress} (hplan : (w.phase pid).plan turn = some plan)
    (h : plan.step.perform plan.params w.shared.store = .ok (s', progress)) :
    exists hs', takeTurn w pid turn =
      .ok (w.advance pid (w.shared.withStore s' hs') (plan.next progress)) := by
  refine ⟨(taskEffect_of_mergeStep h).keeps, ?_⟩
  unfold takeTurn
  split
  · rename_i hnone
    rw [hnone] at hplan
    cases hplan
  · rename_i found hfound
    rw [hplan] at hfound
    cases hfound
    split
    · rename_i e he
      rw [h] at he
      cases he
    · rename_i s₁ progress₁ hok
      cases h.symm.trans hok
      rfl

/-- What the condition excludes does commit, and loses coherence. -/
theorem not_coherent_next (hw : Aligned w) (hq : ¬ KeepsStep w q) :
    ¬ Coherent queries ((factory port queries).next w q).shared.store := by
  cases q with
  | review request =>
      cases request with
      | request request =>
          rcases moves_of_not_leaves hq with
            ⟨s', taskId, task, target, context, hperform, htask, hvalid, hmerge, hitems, htasks⟩
          have hkeeps : KeepsTasks w.shared.store s' := (taskEffect_of_perform hperform).2.keeps
          have hcall : performReview port w.shared (.request request) =
              .ok (w.shared.withStore s' hkeeps) := by
            unfold performReview
            exact ReviewTables.onStore_eq_ok.mpr ⟨s', hkeeps, hperform, rfl⟩
          have hstep : (factory port queries).step w (.review (.request request)) =
              .ok { w with shared := (w.shared.withStore s' hkeeps) } :=
            bind_eq_ok.mpr ⟨_, hcall, rfl⟩
          rw [(factory port queries).next_of_ok hstep]
          rcases taskStage_moves hvalid hmerge with ⟨hne, hforward⟩
          rw [← taskStages_of_findTask htask] at hne hforward
          apply not_coherent_of_moved hw.staged
          · exact congrArg itemClaims (itemView_of_items_eq hitems)
          · exact taskStages_of_write htask htasks
          · exact hne
          · exact hforward
      | _ =>
          exact absurd trivial hq
  | mergeTurn pid turn =>
      simp only [KeepsStep, not_forall] at hq
      rcases hq with ⟨plan, hplan, hmoves⟩
      rcases not_coherent_plan queries hmoves hw.staged with ⟨s', progress, hperform, hnot⟩
      rcases takeTurn_of_perform hplan hperform with ⟨hs', hturn⟩
      have hstep : (factory port queries).step w (.mergeTurn pid turn) = _ := hturn
      rw [(factory port queries).next_of_ok hstep]
      exact hnot
  | _ =>
      exact absurd trivial hq

end Steps

/-- Whatever the services do in between, items and tasks stay coherent in exactly those
runs that pause no task in QUEUED_FOR_MERGE or MERGING, cancel none in QUEUED_FOR_MERGE,
move none by a transition of its own, and fail no merge after its rebase. -/
theorem queue_coherent_iff (port : FollowUpTaskPort) (queries : QueueQueries)
    (steps : List FactoryStep) :
    (forall w, w ∈ (factory port queries).states Factory.start steps ->
        Coherent queries w.shared.store) <->
      forall x, x ∈ (factory port queries).arrivals Factory.start steps ->
        KeepsStep x.1 x.2 := by
  apply TransitionSystem.states_iff_arrivals_of_breaks Aligned
    (fun w => Coherent queries w.shared.store) KeepsStep
  · exact fun _ _ hw hq => aligned_next hw hq
  · exact fun _ _ hw hq => not_coherent_next hw hq
  · exact fun _ hw => hw.staged.coherent queries
  · exact aligned_start

def pausedInQueue : List FactoryStep :=
  developedTask.map .review ++
    [ .review (.request (.transitionTask "task-1" .inReview
        { hasReviewRoutingDecision := some true } reviewActor)),
      .review (.request (.transitionTask "task-1" .approved
        { leadReviewDecision := some .approved } reviewActor)),
      .enqueueForMerge 1000 "item-1"
        { taskId := "task-1", approvedCommitSha := some "a1", actor := systemActor },
      .review (.request (.pause "task-1" "operator-1")) ]

/-- The item of the paused task waits on, and is handed out. -/
theorem paused_task_left_in_queue :
    ¬ forall (steps : List FactoryStep) (w : Factory),
      w ∈ (factory plainFollowUps arrivalOrder).states Factory.start steps ->
        Coherent arrivalOrder w.shared.store := by
  intro h
  let w := (factory plainFollowUps arrivalOrder).run Factory.start pausedInQueue
  have hclaim : itemClaims (itemView w.shared.store) "item-1" =
      some ("task-1", .queued) := by
    decide +kernel
  have hescalated : taskStages w.shared.store "task-1" = none := by
    decide +kernel
  have hcoherent : Coherent arrivalOrder w.shared.store :=
    h pausedInQueue w (TransitionSystem.run_mem_states _ _ _)
  exact hcoherent.stage_of_claim hclaim hescalated

end Merging
end CopilotFactory
