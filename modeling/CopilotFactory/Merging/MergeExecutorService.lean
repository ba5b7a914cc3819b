import CopilotFactory.ControlPlane.World
import CopilotFactory.Merging.MergePacket

/-!
# Merge executor

A merge takes a dequeued item through a pipeline of transactions, with the git
operations, the conflict classification, the validation and the push awaited in
between.  Each transaction moves the item, and three of them the task as well:
the first, the one that settles a conflict, and the one that finishes the merge.
-/

namespace CopilotFactory
namespace Merging

open Foundations
open Domain
open Infrastructure
open Application
open ControlPlane

variable {s s' : Store}

structure RebaseResult where
  success : Bool
  conflictFiles : List String
deriving DecidableEq

/-- Squashing and merging report the same as rebasing. -/
abbrev MergeOperationResult := RebaseResult

inductive ConflictClassification where
  | reworkable
  | nonReworkable
deriving DecidableEq

structure ExecuteMergeParams where
  mergeQueueItemId : MergeQueueItemId
  workspacePath : String
  targetBranch : String
  mergeStrategy : MergeStrategy := .rebaseAndMerge
  actor : ActorInfo

structure MergeExecutorPorts (γ : Type) where
  fetch : (workspacePath remote : String) -> Process (World γ) Thrown Unit
  rebase : (workspacePath onto : String) -> Process (World γ) Thrown RebaseResult
  squashMerge : (workspacePath sourceBranch targetBranch commitMessage : String) ->
    Process (World γ) Thrown MergeOperationResult
  mergeCommit : (workspacePath sourceBranch targetBranch : String) ->
    Process (World γ) Thrown MergeOperationResult
  push : (workspacePath remote branch : String) -> Process (World γ) Thrown Unit
  getHeadSha : (workspacePath : String) -> Process (World γ) Thrown String
  getCurrentBranch : (workspacePath : String) -> Process (World γ) Thrown String
  runMergeGateValidation : (taskId : TaskId) -> (workspacePath : String) ->
    Process (World γ) Thrown ValidationRunResult
  classify : (conflictFiles : List String) ->
    Process (World γ) Thrown ConflictClassification
  persistMergePacket : MergeQueueItemId -> MergePacket -> Process (World γ) Thrown String
  /-- The clock when the item is completed. -/
  completedAt : Millis
  /-- The clock when the packet is created. -/
  createdAt : Millis

structure MergeProgress where
  item : MergeQueueItem
  task : Task
  auditEvents : List AuditEvent
deriving DecidableEq

inductive ExecuteMergeResult where
  | merged (progress : MergeProgress) (mergePacket : MergePacket)
      (artifactPath mergedCommitSha : String)
  | rebaseConflict (progress : MergeProgress) (conflictFiles : List String)
      (classification : ConflictClassification)
  | validationFailed (progress : MergeProgress) (validationResult : ValidationRunResult)
  | pushFailed (progress : MergeProgress) (pushError : String)
deriving DecidableEq

/-!
## Moving the item and the task

The moves are constants of the pipeline, each one that the state machines permit.
-/

structure ItemMove where
  source : MergeQueueItemStatus
  target : MergeQueueItemStatus
  context : MergeQueueItemTransitionContext
  completedAt : Option Millis := none
  valid : validateMergeQueueItemTransition source target context = .valid

def ItemMove.update (move : ItemMove) : MergeQueueItemUpdate where
  status := some move.target
  completedAt := move.completedAt.map toColumn

structure TaskMove where
  source : TaskStatus
  target : TaskStatus
  context : TransitionContext
  valid : validateTransition source target context = .valid

def TaskMove.update (move : TaskMove) : TaskUpdate where
  status := some move.target

def transitionItem (mergeQueueItemId : MergeQueueItemId) (move : ItemMove)
    (s : Store) : Except ServiceError (Store × MergeQueueItem) := do
  commitTransition "MergeQueueItem" mergeQueueItemId move.source.label move.target.label
    (validateMergeQueueItemTransition move.source move.target move.context)
  let s₁ ← s.updateItem mergeQueueItemId move.source move.update
  let item ← orThrow (s₁.findItem mergeQueueItemId)
    (.entityNotFound "MergeQueueItem" mergeQueueItemId)
  pure (s₁, item)

/-- The source of the move is not compared with the stored status. -/
def transitionMergeTask (taskId : TaskId) (expectedVersion : Nat) (move : TaskMove)
    (s : Store) : Except ServiceError (Store × Task) := do
  commitTransition "Task" taskId move.source.label move.target.label
    (validateTransition move.source move.target move.context)
  let s₁ ← s.updateTask taskId expectedVersion move.update
  let task ← orThrow (s₁.findTask taskId) (.entityNotFound "Task" taskId)
  pure (s₁, task)

def stateTransition (entityType entityId oldState newState : String)
    (actor : ActorInfo) : AuditEvent where
  entityType := entityType
  entityId := entityId
  eventType := "state_transition"
  actorType := actor.type
  actorId := actor.id
  oldState := some (.plain oldState)
  newState := some (.plain newState)

def itemAudit (params : ExecuteMergeParams) (move : ItemMove) : AuditEvent :=
  stateTransition "merge-queue-item" params.mergeQueueItemId move.source.label
    move.target.label params.actor

def taskAudit (params : ExecuteMergeParams) (taskId : TaskId)
    (move : TaskMove) : AuditEvent :=
  stateTransition "task" taskId move.source.label move.target.label params.actor

/-- The transactions that leave the task alone. -/
def moveItem (params : ExecuteMergeParams) (move : ItemMove) (progress : MergeProgress)
    (s : Store) : Except ServiceError (Store × MergeProgress) := do
  let (s₁, item) ← transitionItem params.mergeQueueItemId move s
  pure (s₁.appendAudit (itemAudit params move),
    { item := item
      task := progress.task
      auditEvents := progress.auditEvents ++ [itemAudit params move] })

/-- The transactions that move the task as well, at a version they read or remember. -/
def moveItemAndTask (params : ExecuteMergeParams) (move : ItemMove) (taskMove : TaskMove)
    (taskId : TaskId) (expectedVersion : Store -> Except ServiceError Nat)
    (auditEvents : List AuditEvent)
    (s : Store) : Except ServiceError (Store × MergeProgress) := do
  let (s₁, item) ← transitionItem params.mergeQueueItemId move s
  let version ← expectedVersion s₁
  let (s₂, task) ← transitionMergeTask taskId version taskMove s₁
  pure ((s₂.appendAudit (itemAudit params move)).appendAudit
      (taskAudit params taskId taskMove),
    { item := item
      task := task
      auditEvents := auditEvents ++ [itemAudit params move, taskAudit params taskId taskMove] })

/-!
## What the moves do
-/

variable {move : ItemMove}

theorem transitionItem_eq_ok {mergeQueueItemId : MergeQueueItemId} {moved : MergeQueueItem} :
    transitionItem mergeQueueItemId move s = .ok (s', moved) <->
      exists item,
        s.findItem mergeQueueItemId = some item ∧
        item.status = move.source ∧
        s' = s.writeItem mergeQueueItemId move.update ∧
        moved = move.update.apply item := by
  simp only [transitionItem, bind_eq_ok, commitTransition_eq_ok, Store.updateItem_eq_ok,
    orThrow_eq_ok, pure_eq_ok, Prod.mk.injEq]
  constructor
  · intro h
    rcases h with ⟨_, _, s₁, ⟨item, hitem, hstatus, hs₁⟩, found, hfound, hs', hmoved⟩
    rw [hs₁, Store.findItem_writeItem_self, hitem] at hfound
    cases hfound
    exact ⟨item, hitem, hstatus, by rw [← hs', hs₁], hmoved.symm⟩
  · intro h
    rcases h with ⟨item, hitem, hstatus, hs', hmoved⟩
    refine ⟨(), move.valid, _, ⟨item, hitem, hstatus, rfl⟩, _, ?_, hs'.symm, hmoved.symm⟩
    rw [Store.findItem_writeItem_self, hitem]
    rfl

theorem transitionMergeTask_eq_ok {taskId : TaskId} {expectedVersion : Nat} {move : TaskMove}
    {moved : Task} :
    transitionMergeTask taskId expectedVersion move s = .ok (s', moved) <->
      exists task,
        s.findTask taskId = some task ∧
        task.version = expectedVersion ∧
        s' = s.writeTask taskId (expectedVersion + 1) move.update ∧
        moved = move.update.apply (expectedVersion + 1) task := by
  simp only [transitionMergeTask, bind_eq_ok, commitTransition_eq_ok,
    Store.updateTask_eq_ok, orThrow_eq_ok, pure_eq_ok, Prod.mk.injEq]
  constructor
  · intro h
    rcases h with ⟨_, _, s₁, ⟨task, htask, hversion, hs₁⟩, found, hfound, hs', hmoved⟩
    rw [hs₁, Store.findTask_writeTask_self, htask] at hfound
    cases hfound
    exact ⟨task, htask, hversion, by rw [← hs', hs₁], hmoved.symm⟩
  · intro h
    rcases h with ⟨task, htask, hversion, hs', hmoved⟩
    refine ⟨(), move.valid, _, ⟨task, htask, hversion, rfl⟩, _, ?_, hs'.symm, hmoved.symm⟩
    rw [Store.findTask_writeTask_self, htask]
    rfl

theorem moveItem_eq_ok {params : ExecuteMergeParams} {progress moved : MergeProgress} :
    moveItem params move progress s = .ok (s', moved) <->
      exists item,
        s.findItem params.mergeQueueItemId = some item ∧
        item.status = move.source ∧
        s' = (s.writeItem params.mergeQueueItemId move.update).appendAudit
          (itemAudit params move) ∧
        moved =
          { item := move.update.apply item
            task := progress.task
            auditEvents := progress.auditEvents ++ [itemAudit params move] } := by
  simp only [moveItem, bind_eq_ok, pure_eq_ok, Prod.mk.injEq]
  constructor
  · intro h
    rcases h with ⟨⟨s₁, item⟩, hitem, hs', hmoved⟩
    rcases transitionItem_eq_ok.mp hitem with ⟨old, hold, hstatus, hs₁, happly⟩
    refine ⟨old, hold, hstatus, ?_, ?_⟩
    · rw [← hs', hs₁]
    · rw [← hmoved, happly]
  · intro h
    rcases h with ⟨item, hitem, hstatus, hs', hmoved⟩
    exact ⟨_, transitionItem_eq_ok.mpr ⟨item, hitem, hstatus, rfl, rfl⟩, hs'.symm,
      hmoved.symm⟩

/-- A move of both is refused as well unless the task is at the expected version. -/
theorem moveItemAndTask_eq_ok {params : ExecuteMergeParams} {taskMove : TaskMove}
    {taskId : TaskId} {expectedVersion : Store -> Except ServiceError Nat}
    {auditEvents : List AuditEvent} {moved : MergeProgress} :
    moveItemAndTask params move taskMove taskId expectedVersion auditEvents s =
        .ok (s', moved) <->
      exists item task,
        s.findItem params.mergeQueueItemId = some item ∧
        item.status = move.source ∧
        s.findTask taskId = some task ∧
        expectedVersion (s.writeItem params.mergeQueueItemId move.update) =
          .ok task.version ∧
        s' = (((s.writeItem params.mergeQueueItemId move.update).writeTask taskId
          (task.version + 1) taskMove.update).appendAudit
            (itemAudit params move)).appendAudit (taskAudit params taskId taskMove) ∧
        moved =
          { item := move.update.apply item
            task := taskMove.update.apply (task.version + 1) task
            auditEvents :=
              auditEvents ++ [itemAudit params move, taskAudit params taskId taskMove] } := by
  simp only [moveItemAndTask, bind_eq_ok, pure_eq_ok, Prod.mk.injEq]
  constructor
  · intro h
    rcases h with ⟨⟨s₁, item⟩, hitem, version, hexpected, ⟨s₂, task⟩, htask, hs', hmoved⟩
    rcases transitionItem_eq_ok.mp hitem with ⟨old, hold, hstatus, hs₁, happly⟩
    rcases transitionMergeTask_eq_ok.mp htask with
      ⟨oldTask, holdTask, hversion, hs₂, happlyTask⟩
    dsimp only at hexpected holdTask hs₂ hs' hmoved
    rw [hs₁] at holdTask
    refine ⟨old, oldTask, hold, hstatus, holdTask, ?_, ?_, ?_⟩
    · rw [hversion, ← hexpected, hs₁]
    · rw [← hs', hs₂, hs₁, hversion]
    · rw [← hmoved, happly, happlyTask, hversion]
  · intro h
    rcases h with ⟨item, task, hitem, hstatus, htask, hexpected, hs',
      hmoved⟩
    exact ⟨_, transitionItem_eq_ok.mpr ⟨item, hitem, hstatus, rfl, rfl⟩, _,
      hexpected, _, transitionMergeTask_eq_ok.mpr ⟨task, htask, rfl, rfl, rfl⟩,
      hs'.symm, hmoved.symm⟩

/-!
## The transactions
-/

def loadMerge (mergeQueueItemId : MergeQueueItemId)
    (s : Store) : Except ServiceError (Store × (MergeQueueItem × Task)) := do
  let item ← orThrow (s.findItem mergeQueueItemId)
    (.entityNotFound "MergeQueueItem" mergeQueueItemId)
  ensure (item.status = .preparing)
    (.mergeItemNotPreparing mergeQueueItemId item.status.label)
  let task ← orThrow (s.findTask item.taskId) (.entityNotFound "Task" item.taskId)
  ensure (task.status = .queuedForMerge)
    (.taskNotQueuedForMerge item.taskId task.status.label)
  pure (s, (item, task))

def rebasingMove : ItemMove where
  source := .preparing
  target := .rebasing
  context := { workspaceReady := some true }
  valid := rfl

def mergingTaskMove : TaskMove where
  source := .queuedForMerge
  target := .merging
  context := {}
  valid := rfl

/-- The task is updated at the version that was loaded. -/
def startRebase (params : ExecuteMergeParams) (task : Task) :
    Store -> Except ServiceError (Store × MergeProgress) :=
  moveItemAndTask params rebasingMove mergingTaskMove task.taskId
    (fun _ => .ok task.version) []

def conflictMove (classification : ConflictClassification)
    (completedAt : Millis) : ItemMove where
  source := .rebasing
  target :=
    match classification with
    | .reworkable => .requeued
    | .nonReworkable => .failed
  context :=
    { rebaseFailed := some true
      conflictReworkable :=
        match classification with
        | .reworkable => some true
        | .nonReworkable => none }
  completedAt := some completedAt
  valid := by
    cases classification <;> rfl

def conflictTaskMove (classification : ConflictClassification) : TaskMove where
  source := .merging
  target :=
    match classification with
    | .reworkable => .changesRequested
    | .nonReworkable => .failed
  context :=
    { mergeConflictClassification :=
        match classification with
        | .reworkable => some .reworkable
        | .nonReworkable => some .nonReworkable }
  valid := by
    cases classification <;> rfl

/-- The task is updated at the version that the first transaction left. -/
def settleConflict (params : ExecuteMergeParams) (classification : ConflictClassification)
    (completedAt : Millis) (progress : MergeProgress) :
    Store -> Except ServiceError (Store × MergeProgress) :=
  moveItemAndTask params (conflictMove classification completedAt)
    (conflictTaskMove classification) progress.task.taskId
    (fun _ => .ok progress.task.version) progress.auditEvents

def validatingMove : ItemMove where
  source := .rebasing
  target := .validating
  context := { rebaseSuccessful := some true }
  valid := rfl

def startValidation (params : ExecuteMergeParams) :
    MergeProgress -> Store -> Except ServiceError (Store × MergeProgress) :=
  moveItem params validatingMove

def validationFailedMove (completedAt : Millis) : ItemMove where
  source := .validating
  target := .failed
  context := { validationFailed := some true }
  completedAt := some completedAt
  valid := rfl

def failValidation (params : ExecuteMergeParams) (completedAt : Millis) :
    MergeProgress -> Store -> Except ServiceError (Store × MergeProgress) :=
  moveItem params (validationFailedMove completedAt)

def mergingMove : ItemMove where
  source := .validating
  target := .merging
  context := { validationPassed := some true }
  valid := rfl

def startPush (params : ExecuteMergeParams) :
    MergeProgress -> Store -> Except ServiceError (Store × MergeProgress) :=
  moveItem params mergingMove

def pushFailedMove (completedAt : Millis) : ItemMove where
  source := .merging
  target := .failed
  context := { mergeFailed := some true }
  completedAt := some completedAt
  valid := rfl

def failPush (params : ExecuteMergeParams) (completedAt : Millis) :
    MergeProgress -> Store -> Except ServiceError (Store × MergeProgress) :=
  moveItem params (pushFailedMove completedAt)

def mergedMove (completedAt : Millis) : ItemMove where
  source := .merging
  target := .merged
  context := { mergeSuccessful := some true }
  completedAt := some completedAt
  valid := rfl

def postMergeTaskMove : TaskMove where
  source := .merging
  target := .postMergeValidation
  context := { mergeSuccessful := some true }
  valid := rfl

/-- The version that is stored now, whatever the status is. -/
def freshVersion (taskId : TaskId) (s : Store) : Except ServiceError Nat := do
  let freshTask ← orThrow (s.findTask taskId) (.entityNotFound "Task" taskId)
  pure freshTask.version

def finishMerge (params : ExecuteMergeParams) (completedAt : Millis)
    (progress : MergeProgress) : Store -> Except ServiceError (Store × MergeProgress) :=
  moveItemAndTask params (mergedMove completedAt) postMergeTaskMove progress.task.taskId
    (freshVersion progress.task.taskId) progress.auditEvents

/-!
## The pipeline
-/

variable {γ : Type}

def mergePacketData (ports : MergeExecutorPorts γ) (params : ExecuteMergeParams)
    (approvedCommitSha : Option String) (sourceBranch : String)
    (validationResult : ValidationRunResult) (task : Task)
    (mergedCommitSha : String) : MergePacket where
  packetType := "merge_packet"
  schemaVersion := "1.0"
  createdAt := ports.createdAt
  taskId := task.taskId
  repositoryId := task.repositoryId
  mergeQueueItemId := params.mergeQueueItemId
  status := "success"
  summary := s!"{params.mergeStrategy.strategyLabel} completed successfully. " ++
    s!"Merged commit: {mergedCommitSha}"
  details :=
    { sourceBranch := sourceBranch
      targetBranch := params.targetBranch
      approvedCommitSha := approvedCommitSha.getD ""
      mergedCommitSha := mergedCommitSha
      mergeStrategy := params.mergeStrategy
      rebasePerformed := params.mergeStrategy = .rebaseAndMerge
      validationResults :=
        validationResult.checkOutcomes.map mapCheckOutcomeToSchemaResult }
  artifactRefs := []

/-- A packet that does not meet its schema is returned without being stored. -/
def recordMerge (ports : MergeExecutorPorts γ) (params : ExecuteMergeParams)
    (packet : MergePacket) (progress : MergeProgress) (mergedCommitSha : String) :
    Process (World γ) Thrown ExecuteMergeResult :=
  if mergePacketSchema packet then do
    let artifactPath ← ports.persistMergePacket params.mergeQueueItemId packet
    pure (.merged progress { packet with artifactRefs := [artifactPath] } artifactPath
      mergedCommitSha)
  else
    pure (.merged progress packet "" mergedCommitSha)

def concludeMerge (ports : MergeExecutorPorts γ) (params : ExecuteMergeParams)
    (approvedCommitSha : Option String) (sourceBranch : String)
    (validationResult : ValidationRunResult) (progress : MergeProgress) :
    Process (World γ) Thrown ExecuteMergeResult := do
  let mergedCommitSha ← ports.getHeadSha params.workspacePath
  let progress ← onStore (finishMerge params ports.completedAt progress)
  let packet := mergePacketData ports params approvedCommitSha sourceBranch
    validationResult progress.task mergedCommitSha
  recordMerge ports params packet progress mergedCommitSha

/-- The branch that is pushed: the source branch that was rebased, or the target branch
that was merged into. -/
def pushBranch (params : ExecuteMergeParams) (sourceBranch : String) : String :=
  if params.mergeStrategy = .rebaseAndMerge then sourceBranch else params.targetBranch

/-- What follows the push: a failed one fails the item and is no error. -/
def settlePush (ports : MergeExecutorPorts γ) (params : ExecuteMergeParams)
    (approvedCommitSha : Option String) (sourceBranch : String)
    (validationResult : ValidationRunResult) (progress : MergeProgress) :
    Except Thrown Unit -> Process (World γ) Thrown ExecuteMergeResult
  | .ok _ =>
      concludeMerge ports params approvedCommitSha sourceBranch validationResult progress
  | .error error => do
      let progress ← onStore (failPush params ports.completedAt progress)
      pure (.pushFailed progress error.message)

def pushMerge (ports : MergeExecutorPorts γ) (params : ExecuteMergeParams)
    (approvedCommitSha : Option String) (sourceBranch : String)
    (validationResult : ValidationRunResult) (progress : MergeProgress) :
    Process (World γ) Thrown ExecuteMergeResult := do
  let progress ← onStore (startPush params progress)
  let pushed ← Process.attempt
    (ports.push params.workspacePath "origin" (pushBranch params sourceBranch))
  settlePush ports params approvedCommitSha sourceBranch validationResult progress pushed

def validateMerge (ports : MergeExecutorPorts γ) (params : ExecuteMergeParams)
    (approvedCommitSha : Option String) (sourceBranch : String)
    (progress : MergeProgress) : Process (World γ) Thrown ExecuteMergeResult := do
  let progress ← onStore (startValidation params progress)
  let validationResult ← ports.runMergeGateValidation progress.task.taskId
    params.workspacePath
  match validationResult.overallStatus with
  | .failed => do
      let progress ← onStore (failValidation params ports.completedAt progress)
      pure (.validationFailed progress validationResult)
  | .passed =>
      pushMerge ports params approvedCommitSha sourceBranch validationResult progress

def rejectConflict (ports : MergeExecutorPorts γ) (params : ExecuteMergeParams)
    (conflictFiles : List String) (progress : MergeProgress) :
    Process (World γ) Thrown ExecuteMergeResult := do
  let classification ← ports.classify conflictFiles
  let progress ← onStore (settleConflict params classification ports.completedAt progress)
  pure (.rebaseConflict progress conflictFiles classification)

/-- The operation of the strategy, on the source branch and the fetched target. -/
def mergeOperation (ports : MergeExecutorPorts γ) (params : ExecuteMergeParams)
    (sourceBranch : String) : Process (World γ) Thrown MergeOperationResult :=
  match params.mergeStrategy with
  | .rebaseAndMerge =>
      ports.rebase params.workspacePath s!"origin/{params.targetBranch}"
  | .squash =>
      ports.squashMerge params.workspacePath sourceBranch s!"origin/{params.targetBranch}"
        s!"squash: merge {sourceBranch} into {params.targetBranch}"
  | .mergeCommit =>
      ports.mergeCommit params.workspacePath sourceBranch s!"origin/{params.targetBranch}"

def performMerge (ports : MergeExecutorPorts γ) (params : ExecuteMergeParams)
    (approvedCommitSha : Option String) (progress : MergeProgress) :
    Process (World γ) Thrown ExecuteMergeResult := do
  ports.fetch params.workspacePath "origin"
  let sourceBranch ← ports.getCurrentBranch params.workspacePath
  let mergeOpResult ← mergeOperation ports params sourceBranch
  match mergeOpResult.success with
  | true => validateMerge ports params approvedCommitSha sourceBranch progress
  | false => rejectConflict ports params mergeOpResult.conflictFiles progress

def executeMerge (ports : MergeExecutorPorts γ) (params : ExecuteMergeParams) :
    Process (World γ) Thrown ExecuteMergeResult := do
  let (item, task) ← onStore (loadMerge params.mergeQueueItemId)
  let progress ← onStore (startRebase params task)
  performMerge ports params item.approvedCommitSha progress

end Merging
end CopilotFactory
