import CopilotFactory.Merging.MergeExecutorService

/-!
# Runs of the merge executor

The executor is run with ports that are calls: each one has an outcome, and the
requests of others that are served while it is awaited.
-/

namespace CopilotFactory
namespace Merging

open Foundations
open Domain
open Infrastructure
open Application
open ControlPlane

variable {item : MergeQueueItem} {move : ItemMove}

structure MergeCalls where
  fetch : (workspacePath remote : String) -> Call Unit
  rebase : (workspacePath onto : String) -> Call RebaseResult
  squashMerge : (workspacePath sourceBranch targetBranch commitMessage : String) ->
    Call MergeOperationResult
  mergeCommit : (workspacePath sourceBranch targetBranch : String) ->
    Call MergeOperationResult
  push : (workspacePath remote branch : String) -> Call Unit
  getHeadSha : (workspacePath : String) -> Call String
  getCurrentBranch : (workspacePath : String) -> Call String
  runMergeGateValidation : (taskId : TaskId) -> (workspacePath : String) ->
    Call ValidationRunResult
  classify : (conflictFiles : List String) -> Call ConflictClassification
  persistMergePacket : MergeQueueItemId -> MergePacket -> Call String
  completedAt : Millis
  createdAt : Millis

namespace MergeCalls

variable {γ : Type}

def ports (calls : MergeCalls) : MergeExecutorPorts γ where
  fetch := fun workspacePath remote => (calls.fetch workspacePath remote).await
  rebase := fun workspacePath onto => (calls.rebase workspacePath onto).await
  squashMerge := fun workspacePath sourceBranch targetBranch commitMessage =>
    (calls.squashMerge workspacePath sourceBranch targetBranch commitMessage).await
  mergeCommit := fun workspacePath sourceBranch targetBranch =>
    (calls.mergeCommit workspacePath sourceBranch targetBranch).await
  push := fun workspacePath remote branch => (calls.push workspacePath remote branch).await
  getHeadSha := fun workspacePath => (calls.getHeadSha workspacePath).await
  getCurrentBranch := fun workspacePath => (calls.getCurrentBranch workspacePath).await
  runMergeGateValidation := fun taskId workspacePath =>
    (calls.runMergeGateValidation taskId workspacePath).await
  classify := fun conflictFiles => (calls.classify conflictFiles).await
  persistMergePacket := fun mergeQueueItemId packet =>
    (calls.persistMergePacket mergeQueueItemId packet).await
  completedAt := calls.completedAt
  createdAt := calls.createdAt

def operation (calls : MergeCalls) (params : ExecuteMergeParams)
    (sourceBranch : String) : Call MergeOperationResult :=
  match params.mergeStrategy with
  | .rebaseAndMerge => calls.rebase params.workspacePath s!"origin/{params.targetBranch}"
  | .squash =>
      calls.squashMerge params.workspacePath sourceBranch s!"origin/{params.targetBranch}"
        s!"squash: merge {sourceBranch} into {params.targetBranch}"
  | .mergeCommit =>
      calls.mergeCommit params.workspacePath sourceBranch s!"origin/{params.targetBranch}"

theorem mergeOperation_ports (calls : MergeCalls) (params : ExecuteMergeParams)
    (sourceBranch : String) :
    mergeOperation (calls.ports : MergeExecutorPorts γ) params sourceBranch =
      (calls.operation params sourceBranch).await := by
  unfold mergeOperation operation
  cases params.mergeStrategy <;> rfl

def pushCall (calls : MergeCalls) (params : ExecuteMergeParams)
    (sourceBranch : String) : Call Unit :=
  calls.push params.workspacePath "origin" (pushBranch params sourceBranch)

structure Serve (A : Request -> Prop) (calls : MergeCalls) : Prop where
  fetch : forall workspacePath remote,
    forall r, r ∈ (calls.fetch workspacePath remote).others -> A r
  rebase : forall workspacePath onto,
    forall r, r ∈ (calls.rebase workspacePath onto).others -> A r
  squashMerge : forall workspacePath sourceBranch targetBranch commitMessage,
    forall r, r ∈ (calls.squashMerge workspacePath sourceBranch targetBranch
      commitMessage).others -> A r
  mergeCommit : forall workspacePath sourceBranch targetBranch,
    forall r, r ∈ (calls.mergeCommit workspacePath sourceBranch targetBranch).others -> A r
  push : forall workspacePath remote branch,
    forall r, r ∈ (calls.push workspacePath remote branch).others -> A r
  getHeadSha : forall workspacePath,
    forall r, r ∈ (calls.getHeadSha workspacePath).others -> A r
  getCurrentBranch : forall workspacePath,
    forall r, r ∈ (calls.getCurrentBranch workspacePath).others -> A r
  runMergeGateValidation : forall taskId workspacePath,
    forall r, r ∈ (calls.runMergeGateValidation taskId workspacePath).others -> A r
  classify : forall conflictFiles,
    forall r, r ∈ (calls.classify conflictFiles).others -> A r
  persistMergePacket : forall mergeQueueItemId packet,
    forall r, r ∈ (calls.persistMergePacket mergeQueueItemId packet).others -> A r

theorem Serve.operation {A : Request -> Prop} {calls : MergeCalls} (h : calls.Serve A)
    (params : ExecuteMergeParams) (sourceBranch : String) :
    forall r, r ∈ (calls.operation params sourceBranch).others -> A r := by
  unfold MergeCalls.operation
  cases params.mergeStrategy with
  | rebaseAndMerge =>
      exact h.rebase _ _
  | squash =>
      exact h.squashMerge _ _ _ _
  | mergeCommit =>
      exact h.mergeCommit _ _ _

/-- The outcomes with which the executor gets to its last transaction. -/
structure Integrates (calls : MergeCalls) (params : ExecuteMergeParams) (taskId : TaskId)
    (sourceBranch : String) : Prop where
  fetched : (calls.fetch params.workspacePath "origin").outcome = .ok ()
  onBranch : (calls.getCurrentBranch params.workspacePath).outcome = .ok sourceBranch
  merged : exists result, (calls.operation params sourceBranch).outcome = .ok result ∧
    result.success = true
  validated : exists result,
    (calls.runMergeGateValidation taskId params.workspacePath).outcome = .ok result ∧
    result.overallStatus = .passed
  pushed : (calls.pushCall params sourceBranch).outcome = .ok ()
  headKnown : exists sha, (calls.getHeadSha params.workspacePath).outcome = .ok sha

def meanwhile (calls : MergeCalls) (params : ExecuteMergeParams) (taskId : TaskId)
    (sourceBranch : String) : List Request :=
  (calls.fetch params.workspacePath "origin").others ++
    (calls.getCurrentBranch params.workspacePath).others ++
    (calls.operation params sourceBranch).others ++
    (calls.runMergeGateValidation taskId params.workspacePath).others ++
    (calls.pushCall params sourceBranch).others ++
    (calls.getHeadSha params.workspacePath).others

end MergeCalls

/-!
## Items and tasks of a merge
-/

def ItemIn (params : ExecuteMergeParams) (taskId : TaskId) (status : MergeQueueItemStatus)
    (s : Store) : Prop :=
  exists item, s.findItem params.mergeQueueItemId = some item ∧ item.taskId = taskId ∧
    item.status = status

/-- The item is PREPARING and its task QUEUED_FOR_MERGE. -/
structure Startable (params : ExecuteMergeParams) (item : MergeQueueItem) (task : Task)
    (s : Store) : Prop where
  hitem : s.findItem params.mergeQueueItemId = some item
  preparing : item.status = .preparing
  htask : s.findTask item.taskId = some task
  queued : task.status = .queuedForMerge

variable {params : ExecuteMergeParams} {s s' : Store}

theorem ItemIn.of_items_eq {taskId : TaskId} {status : MergeQueueItemStatus}
    (h : ItemIn params taskId status s) (hitems : s'.mergeQueueItems = s.mergeQueueItems) :
    ItemIn params taskId status s' := by
  rcases h with ⟨item, hitem, hrest⟩
  refine ⟨item, ?_, hrest⟩
  rw [Store.findItem_of_items_eq hitems]
  exact hitem

theorem loadMerge_eq_ok {task : Task} :
    loadMerge params.mergeQueueItemId s = .ok (s', (item, task)) <->
      s' = s ∧ Startable params item task s := by
  simp only [loadMerge, bind_eq_ok, orThrow_eq_ok, ensure_eq_ok, pure_eq_ok, Prod.mk.injEq]
  constructor
  · intro h
    rcases h with ⟨found, hfound, _, hpreparing, stored, hstored, _, hqueued, hs', hitem,
      htask⟩
    rw [hitem] at hfound hpreparing hstored
    rw [htask] at hstored hqueued
    exact ⟨hs'.symm, hfound, hpreparing, hstored, hqueued⟩
  · intro h
    rcases h with ⟨hs', hitem, hpreparing, htask, hqueued⟩
    exact ⟨item, hitem, (), hpreparing, task, htask, (), hqueued, hs'.symm, rfl, rfl⟩

theorem moveItem_accepts {taskId : TaskId} (progress : MergeProgress)
    (h : ItemIn params taskId move.source s) :
    exists s' moved, moveItem params move progress s = .ok (s', moved) := by
  rcases h with ⟨item, hitem, _, hstatus⟩
  exact ⟨_, _, moveItem_eq_ok.mpr ⟨item, hitem, hstatus, rfl, rfl⟩⟩

theorem moveItem_spec {taskId : TaskId} {progress moved : MergeProgress}
    (hitem : ItemIn params taskId move.source s)
    (h : moveItem params move progress s = .ok (s', moved)) :
    ItemIn params taskId move.target s' ∧ s'.tasks = s.tasks ∧
      moved.task = progress.task := by
  rcases hitem with ⟨item, hitem, htaskId, _⟩
  rcases moveItem_eq_ok.mp h with ⟨found, hfound, _, hs', hmoved⟩
  rw [hitem] at hfound
  cases hfound
  rw [hs', hmoved]
  refine ⟨⟨move.update.apply item, ?_, htaskId, rfl⟩, rfl, rfl⟩
  rw [Store.appendAudit_findItem, Store.findItem_writeItem_self, hitem]
  rfl

/-- A merge that remembers the stored task moves its item, and still remembers the task. -/
theorem moveItem_remembered (move : ItemMove) {progress : MergeProgress}
    (hitem : ItemIn params progress.task.taskId move.source s)
    (htask : s.findTask progress.task.taskId = some progress.task) :
    exists s' moved, moveItem params move progress s = .ok (s', moved) ∧
      ItemIn params moved.task.taskId move.target s' ∧
      s'.findTask moved.task.taskId = some moved.task ∧ moved.task = progress.task := by
  rcases moveItem_accepts progress hitem with ⟨s', moved, hmove⟩
  rcases moveItem_spec hitem hmove with ⟨hitem', htasks, hmoved⟩
  have htask' : s'.findTask progress.task.taskId = some progress.task := by
    rw [Store.findTask_of_tasks_eq htasks]
    exact htask
  rw [← hmoved] at hitem' htask'
  exact ⟨s', moved, hmove, hitem', htask', hmoved⟩

theorem moveItemAndTask_accepts {taskMove : TaskMove} {taskId : TaskId}
    {expectedVersion : Store -> Except ServiceError Nat} {task : Task}
    (auditEvents : List AuditEvent) (hitem : ItemIn params taskId move.source s)
    (htask : s.findTask taskId = some task)
    (hversion : expectedVersion (s.writeItem params.mergeQueueItemId move.update) =
      .ok task.version) :
    exists s' moved,
      moveItemAndTask params move taskMove taskId expectedVersion auditEvents s =
        .ok (s', moved) := by
  rcases hitem with ⟨item, hitem, _, hstatus⟩
  exact ⟨_, _, moveItemAndTask_eq_ok.mpr
    ⟨item, task, hitem, hstatus, htask, hversion, rfl, rfl⟩⟩

theorem moveItemAndTask_spec {taskMove : TaskMove} {taskId : TaskId}
    {expectedVersion : Store -> Except ServiceError Nat} {auditEvents : List AuditEvent}
    {task : Task} {moved : MergeProgress} (hitem : ItemIn params taskId move.source s)
    (htask : s.findTask taskId = some task)
    (h : moveItemAndTask params move taskMove taskId expectedVersion auditEvents s =
      .ok (s', moved)) :
    expectedVersion (s.writeItem params.mergeQueueItemId move.update) = .ok task.version ∧
      ItemIn params taskId move.target s' ∧
      s'.findTask taskId = some (taskMove.update.apply (task.version + 1) task) ∧
      moved.task = taskMove.update.apply (task.version + 1) task := by
  rcases hitem with ⟨item, hitem, htaskId, _⟩
  rcases moveItemAndTask_eq_ok.mp h with
    ⟨found, stored, hfound, _, hstored, hversion, hs', hmoved⟩
  rw [hitem] at hfound
  cases hfound
  rw [htask] at hstored
  cases hstored
  rw [hs', hmoved]
  refine ⟨hversion, ⟨move.update.apply item, ?_, htaskId, rfl⟩, ?_, rfl⟩
  · rw [Store.appendAudit_findItem, Store.appendAudit_findItem, Store.findItem_writeTask,
      Store.findItem_writeItem_self, hitem]
    rfl
  · rw [Store.appendAudit_findTask, Store.appendAudit_findTask,
      Store.findTask_writeTask_self, Store.writeItem_findTask, htask]
    rfl

theorem Startable.taskId {task : Task} (h : Startable params item task s) :
    task.taskId = item.taskId :=
  Store.taskId_of_findTask h.htask

theorem Startable.findTask {task : Task} (h : Startable params item task s) :
    s.findTask task.taskId = some task := by
  rw [h.taskId]
  exact h.htask

theorem Startable.itemIn {task : Task} (h : Startable params item task s) :
    ItemIn params task.taskId .preparing s :=
  ⟨item, h.hitem, h.taskId.symm, h.preparing⟩

def mergingTask (task : Task) : Task :=
  mergingTaskMove.update.apply (task.version + 1) task

theorem startRebase_accepts {task : Task} (h : Startable params item task s) :
    exists s' progress,
      startRebase params task s = .ok (s', progress) ∧
      progress.task = mergingTask task ∧
      ItemIn params task.taskId .rebasing s' ∧
      s'.findTask task.taskId = some (mergingTask task) := by
  have haccepts : exists s' progress, startRebase params task s = .ok (s', progress) :=
    moveItemAndTask_accepts [] h.itemIn h.findTask rfl
  rcases haccepts with ⟨s', progress, hstart⟩
  rcases moveItemAndTask_spec h.itemIn h.findTask hstart with ⟨_, hitem, htask, hmoved⟩
  exact ⟨s', progress, hstart, hmoved, hitem, htask⟩

theorem finishMerge_accepts {completedAt : Millis} {progress : MergeProgress}
    {current : Task} (hitem : ItemIn params progress.task.taskId .merging s)
    (hcurrent : s.findTask progress.task.taskId = some current) :
    exists s' moved, finishMerge params completedAt progress s = .ok (s', moved) := by
  have hversion : freshVersion progress.task.taskId
      (s.writeItem params.mergeQueueItemId (mergedMove completedAt).update) =
        .ok current.version := by
    unfold freshVersion
    rw [Store.writeItem_findTask, hcurrent]
    rfl
  exact moveItemAndTask_accepts progress.auditEvents hitem hcurrent hversion

theorem Startable.unique {item' : MergeQueueItem} {task task' : Task}
    (h : Startable params item task s) (h' : Startable params item' task' s) :
    item = item' ∧ task = task' := by
  have hitem := h.hitem
  rw [h'.hitem] at hitem
  cases hitem
  have htask := h.htask
  rw [h'.htask] at htask
  cases htask
  exact ⟨rfl, rfl⟩

/-- The first transaction commits nothing new: it finds what can be started, or throws. -/
theorem loadMerge_triple {γ : Type} {C : World γ -> World γ -> Prop}
    (hC : forall w, C w w) (params : ExecuteMergeParams) (w₀ : World γ) :
    Process.Triple C (fun w => w = w₀) (onStore (loadMerge params.mergeQueueItemId))
      (fun r w => w = w₀ ∧
        ((exists item task, r = .ok (item, task) ∧ Startable params item task w₀.store) ∨
          ((exists e, r = .error e) ∧
            forall item task, ¬ Startable params item task w₀.store))) := by
  apply Process.Triple.transaction
  · intro w s' found hw hcall
    rw [hw] at hcall ⊢
    rcases found with ⟨item, task⟩
    rcases loadMerge_eq_ok.mp hcall with ⟨hs', hstartable⟩
    rw [hs']
    exact ⟨⟨rfl, Or.inl ⟨item, task, rfl, hstartable⟩⟩, hC w₀⟩
  · intro w e hw hcall
    rw [hw] at hcall
    refine ⟨hw, Or.inr ⟨⟨_, rfl⟩, ?_⟩⟩
    intro item task hstartable
    rw [loadMerge_eq_ok.mpr ⟨rfl, hstartable⟩] at hcall
    cases hcall

/-!
## A merge that is about to start
-/

def systemActor : ActorInfo where
  type := "system"
  id := "merge-worker"

def queuedTaskRequests : List Request :=
  [.createTask
      { taskId := "task-1", repositoryId := "repo-1", taskType := "feature",
        priority := "high" },
    .transitionTask "task-1" .ready
      { allDependenciesResolved := some true, hasPolicyBlockers := some false } systemActor,
    .transitionTask "task-1" .assigned { leaseAcquired := some true } systemActor,
    .transitionTask "task-1" .inDevelopment { hasHeartbeat := some true } systemActor,
    .transitionTask "task-1" .devComplete
      { hasDevResultPacket := some true, requiredValidationsPassed := some true }
      systemActor,
    .transitionTask "task-1" .inReview { hasReviewRoutingDecision := some true } systemActor,
    .transitionTask "task-1" .approved { leadReviewDecision := some .approved } systemActor,
    .transitionTask "task-1" .queuedForMerge {} systemActor]

def preparingItem : MergeQueueItem where
  mergeQueueItemId := "item-1"
  taskId := "task-1"
  repositoryId := "repo-1"
  status := .preparing
  position := 1
  approvedCommitSha := some "a1"
  enqueuedAt := 0
  startedAt := some 0
  completedAt := none

def preparedStore : Store :=
  ((controlPlane.run Store.empty queuedTaskRequests).createItem preparingItem).toOption.getD
    Store.empty

def preparedWorld : World Unit where
  store := preparedStore
  outer := ()

def mergeParams : ExecuteMergeParams where
  mergeQueueItemId := "item-1"
  workspacePath := "/workspaces/repo-1/task-1"
  targetBranch := "main"
  actor := systemActor

def passedValidation : ValidationRunResult where
  profileName := "merge-gate"
  overallStatus := .passed
  checkOutcomes := []
  summary := "all checks passed"

def calmCalls : MergeCalls where
  fetch := fun _ _ => { outcome := .ok () }
  rebase := fun _ _ => { outcome := .ok { success := true, conflictFiles := [] } }
  squashMerge := fun _ _ _ _ => { outcome := .ok { success := true, conflictFiles := [] } }
  mergeCommit := fun _ _ _ => { outcome := .ok { success := true, conflictFiles := [] } }
  push := fun _ _ _ => { outcome := .ok () }
  getHeadSha := fun _ => { outcome := .ok "b2" }
  getCurrentBranch := fun _ => { outcome := .ok "factory/task-1" }
  runMergeGateValidation := fun _ _ => { outcome := .ok passedValidation }
  classify := fun _ => { outcome := .ok .reworkable }
  persistMergePacket := fun _ _ => { outcome := .ok "/artifacts/item-1.json" }
  completedAt := 1000
  createdAt := 1000

theorem calmCalls_serve (A : Request -> Prop) : calmCalls.Serve A := by
  constructor
  all_goals
    intros
    rename_i hr
    cases hr

end Merging
end CopilotFactory
