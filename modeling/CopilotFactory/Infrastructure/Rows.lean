import CopilotFactory.Domain.TaskStateMachine
import CopilotFactory.Domain.WorkerLeaseStateMachine
import CopilotFactory.Domain.MergeQueueItemStateMachine

/-!
# Database rows

The columns of the tables that the services read or write.  Timestamps are
stored in whole seconds and are read back as milliseconds.
-/

namespace CopilotFactory
namespace Infrastructure

open Domain

abbrev TaskId := String
abbrev LeaseId := String
abbrev WorkerId := String
abbrev PoolId := String
abbrev MergeQueueItemId := String
abbrev JobId := String
abbrev ReviewCycleId := String

/-- A point in time, or a duration, in milliseconds. -/
abbrev Millis := Int

/-- A stored timestamp, in whole seconds. -/
abbrev Seconds := Int

def toColumn (date : Millis) : Seconds :=
  date / 1000

def ofColumn (stored : Seconds) : Millis :=
  stored * 1000

/-- Reading a stored date back never moves it forward, and by less than a second back. -/
theorem ofColumn_toColumn (date : Millis) :
    ofColumn (toColumn date) ≤ date ∧ date < ofColumn (toColumn date) + 1000 := by
  unfold ofColumn toColumn
  lia

structure Task where
  taskId : TaskId
  repositoryId : String
  taskType : String
  priority : String
  /-- A null column is read as an empty list. -/
  requiredCapabilities : List String := []
  status : TaskStatus
  version : Nat
  retryCount : Nat
  currentLeaseId : Option LeaseId
  currentReviewCycleId : Option String
  mergeQueueItemId : Option MergeQueueItemId
  completedAt : Option Seconds
  reviewRoundCount : Nat := 0
deriving DecidableEq

structure TaskLease where
  leaseId : LeaseId
  taskId : TaskId
  workerId : WorkerId
  poolId : PoolId
  status : WorkerLeaseStatus
  leasedAt : Seconds
  expiresAt : Seconds
  heartbeatAt : Option Seconds
  reclaimReason : Option String
deriving DecidableEq

inductive WorkerPoolType where
  | developer
  | reviewer
  | leadReviewer
  | mergeAssist
  | planner
deriving DecidableEq

structure WorkerPool where
  workerPoolId : PoolId
  poolType : WorkerPoolType := .developer
  maxConcurrency : Nat
  defaultTimeoutSec : Option Int := none
  capabilities : List String := []
  enabled : Bool := true
deriving DecidableEq

structure MergeQueueItem where
  mergeQueueItemId : MergeQueueItemId
  taskId : TaskId
  repositoryId : String
  status : MergeQueueItemStatus
  position : Nat
  approvedCommitSha : Option String
  enqueuedAt : Seconds
  startedAt : Option Seconds
  completedAt : Option Seconds
deriving DecidableEq

/-!
## Audit events
-/

inductive AuditValue where
  | null
  | number (n : Nat)
  | text (s : String)
  | date (ms : Millis)
  | flag (b : Bool)
deriving DecidableEq

/-- The old or the new state of an audit event: a JSON object or a plain text. -/
inductive AuditState where
  | object (fields : List (String × AuditValue))
  | plain (s : String)
deriving DecidableEq

structure AuditEvent where
  entityType : String
  entityId : String
  eventType : String
  actorType : String
  actorId : String
  oldState : Option AuditState
  newState : Option AuditState
deriving DecidableEq

def AuditValue.ofOption : Option String -> AuditValue
  | some s => .text s
  | none => .null

def auditStatusVersion (status : TaskStatus) (version : Nat) : AuditState :=
  .object [("status", .text status.label), ("version", .number version)]

/-!
## Partial updates

An update sets the columns it names and leaves the others.  It can never change
a primary or a foreign key.
-/

structure TaskUpdate where
  priority : Option String := none
  requiredCapabilities : Option (List String) := none
  status : Option TaskStatus := none
  retryCount : Option Nat := none
  currentLeaseId : Option (Option LeaseId) := none
  currentReviewCycleId : Option (Option String) := none
  mergeQueueItemId : Option (Option MergeQueueItemId) := none
  completedAt : Option (Option Seconds) := none
  reviewRoundCount : Option Nat := none

def TaskUpdate.apply (data : TaskUpdate) (version : Nat) (task : Task) : Task where
  taskId := task.taskId
  repositoryId := task.repositoryId
  taskType := task.taskType
  priority := data.priority.getD task.priority
  requiredCapabilities := data.requiredCapabilities.getD task.requiredCapabilities
  status := data.status.getD task.status
  version := version
  retryCount := data.retryCount.getD task.retryCount
  currentLeaseId := data.currentLeaseId.getD task.currentLeaseId
  currentReviewCycleId := data.currentReviewCycleId.getD task.currentReviewCycleId
  mergeQueueItemId := data.mergeQueueItemId.getD task.mergeQueueItemId
  completedAt := data.completedAt.getD task.completedAt
  reviewRoundCount := data.reviewRoundCount.getD task.reviewRoundCount

@[simp] theorem TaskUpdate.apply_taskId (data : TaskUpdate) (version : Nat) (task : Task) :
    (data.apply version task).taskId = task.taskId :=
  rfl

@[simp] theorem TaskUpdate.apply_status (data : TaskUpdate) (version : Nat) (task : Task) :
    (data.apply version task).status = data.status.getD task.status :=
  rfl

@[simp] theorem TaskUpdate.apply_version (data : TaskUpdate) (version : Nat) (task : Task) :
    (data.apply version task).version = version :=
  rfl

@[simp] theorem TaskUpdate.apply_currentLeaseId (data : TaskUpdate) (version : Nat)
    (task : Task) :
    (data.apply version task).currentLeaseId =
      data.currentLeaseId.getD task.currentLeaseId :=
  rfl

@[simp] theorem TaskUpdate.apply_currentReviewCycleId (data : TaskUpdate) (version : Nat)
    (task : Task) :
    (data.apply version task).currentReviewCycleId =
      data.currentReviewCycleId.getD task.currentReviewCycleId :=
  rfl

@[simp] theorem TaskUpdate.apply_retryCount (data : TaskUpdate) (version : Nat)
    (task : Task) :
    (data.apply version task).retryCount = data.retryCount.getD task.retryCount :=
  rfl

@[simp] theorem TaskUpdate.apply_reviewRoundCount (data : TaskUpdate) (version : Nat)
    (task : Task) :
    (data.apply version task).reviewRoundCount =
      data.reviewRoundCount.getD task.reviewRoundCount :=
  rfl

structure TaskLeaseUpdate where
  status : Option WorkerLeaseStatus := none
  expiresAt : Option Seconds := none
  heartbeatAt : Option Seconds := none
  reclaimReason : Option String := none

def TaskLeaseUpdate.apply (data : TaskLeaseUpdate) (lease : TaskLease) : TaskLease where
  leaseId := lease.leaseId
  taskId := lease.taskId
  workerId := lease.workerId
  poolId := lease.poolId
  status := data.status.getD lease.status
  leasedAt := lease.leasedAt
  expiresAt := data.expiresAt.getD lease.expiresAt
  heartbeatAt := data.heartbeatAt.or lease.heartbeatAt
  reclaimReason := data.reclaimReason.or lease.reclaimReason

@[simp] theorem TaskLeaseUpdate.apply_leaseId (data : TaskLeaseUpdate) (lease : TaskLease) :
    (data.apply lease).leaseId = lease.leaseId :=
  rfl

@[simp] theorem TaskLeaseUpdate.apply_taskId (data : TaskLeaseUpdate) (lease : TaskLease) :
    (data.apply lease).taskId = lease.taskId :=
  rfl

@[simp] theorem TaskLeaseUpdate.apply_poolId (data : TaskLeaseUpdate) (lease : TaskLease) :
    (data.apply lease).poolId = lease.poolId :=
  rfl

@[simp] theorem TaskLeaseUpdate.apply_status (data : TaskLeaseUpdate) (lease : TaskLease) :
    (data.apply lease).status = data.status.getD lease.status :=
  rfl

structure MergeQueueItemUpdate where
  status : Option MergeQueueItemStatus := none
  position : Option Nat := none
  startedAt : Option Seconds := none
  completedAt : Option Seconds := none

def MergeQueueItemUpdate.apply (data : MergeQueueItemUpdate)
    (item : MergeQueueItem) : MergeQueueItem where
  mergeQueueItemId := item.mergeQueueItemId
  taskId := item.taskId
  repositoryId := item.repositoryId
  status := data.status.getD item.status
  position := data.position.getD item.position
  approvedCommitSha := item.approvedCommitSha
  enqueuedAt := item.enqueuedAt
  startedAt := data.startedAt.or item.startedAt
  completedAt := data.completedAt.or item.completedAt

@[simp] theorem MergeQueueItemUpdate.apply_mergeQueueItemId (data : MergeQueueItemUpdate)
    (item : MergeQueueItem) :
    (data.apply item).mergeQueueItemId = item.mergeQueueItemId :=
  rfl

end Infrastructure
end CopilotFactory
