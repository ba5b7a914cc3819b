import Mathlib.Data.List.Sort
import CopilotFactory.Application.JobQueueService
import CopilotFactory.Application.LeaseService

/-!
# Scheduler

The scheduler assigns the first ready task that it can to the compatible pool with
the most free slots.  The ready tasks and the pools, with their active lease
counts, are read first; the lease and the dispatch job are written later.
-/

namespace CopilotFactory
namespace Application

open Infrastructure

structure SchedulableTask where
  taskId : TaskId
  repositoryId : String
  priority : String
  requiredCapabilities : List String
deriving DecidableEq

structure SchedulablePool where
  poolId : PoolId
  poolType : WorkerPoolType
  capabilities : List String
  maxConcurrency : Nat
  activeLeaseCount : Nat
  defaultTimeoutSec : Int
deriving DecidableEq

def defaultCandidateLimit : Nat :=
  50

def defaultLeaseTtlSeconds : Int :=
  3600

def assignmentPoolType : WorkerPoolType :=
  .developer

def schedulerActor : ActorInfo where
  type := "system"
  id := "scheduler"

/-!
## The queries
-/

/-- The rank of a priority; unknown ones come last. -/
def priorityRank (priority : String) : Nat :=
  if priority = "critical" then 0
  else if priority = "high" then 1
  else if priority = "medium" then 2
  else if priority = "low" then 3
  else 9007199254740991

def schedulableTask (task : Task) : SchedulableTask where
  taskId := task.taskId
  repositoryId := task.repositoryId
  priority := task.priority
  requiredCapabilities := task.requiredCapabilities

/-- Rows stand in the order of their creation, which decides between equal priorities. -/
def findReadyByPriority (limit : Nat) (s : Store) : List SchedulableTask :=
  (((s.tasks.rows.filter (fun task => task.status = .ready)).insertionSort
    (fun left right => priorityRank left.priority ≤ priorityRank right.priority)).take
      limit).map schedulableTask

def schedulablePool (s : Store) (pool : WorkerPool) : SchedulablePool where
  poolId := pool.workerPoolId
  poolType := pool.poolType
  capabilities := pool.capabilities
  maxConcurrency := pool.maxConcurrency
  activeLeaseCount := s.activeLeaseCount pool.workerPoolId
  defaultTimeoutSec := pool.defaultTimeoutSec.getD 0

def findEnabledByType (poolType : WorkerPoolType) (s : Store) : List SchedulablePool :=
  (s.workerPools.rows.filter (fun pool => pool.enabled ∧ pool.poolType = poolType)).map
    (schedulablePool s)

/-!
## The choice of a pool
-/

def isPoolCompatible (task : SchedulableTask) (pool : SchedulablePool) : Bool :=
  task.requiredCapabilities.all (fun capability => capability ∈ pool.capabilities)

def hasPoolCapacity (pool : SchedulablePool) : Bool :=
  pool.activeLeaseCount < pool.maxConcurrency

def betterPool (best : Option SchedulablePool) (pool : SchedulablePool) :
    Option SchedulablePool :=
  if hasPoolCapacity pool = true then
    match best with
    | none => some pool
    | some other =>
        if pool.maxConcurrency - pool.activeLeaseCount >
            other.maxConcurrency - other.activeLeaseCount then
          some pool
        else
          some other
  else
    best

def selectBestPool (pools : List SchedulablePool) : Option SchedulablePool :=
  pools.foldl betterPool none

def assignmentParams (task : SchedulableTask) (pool : SchedulablePool)
    (workerId : WorkerId) : AcquireLeaseParams where
  taskId := task.taskId
  workerId := workerId
  poolId := pool.poolId
  ttlSeconds :=
    if pool.defaultTimeoutSec = 0 then defaultLeaseTtlSeconds else pool.defaultTimeoutSec
  actor := schedulerActor

def dispatchJobData (task : SchedulableTask) (pool : SchedulablePool) (leaseId : LeaseId)
    (workerId : WorkerId) : CreateJobData where
  jobType := .workerDispatch
  payload := some
    { taskId := task.taskId
      leaseId := leaseId
      poolId := pool.poolId
      workerId := workerId }

inductive ScheduleSkipReason where
  | noReadyTasks
  | noCompatiblePools
  | allPoolsAtCapacity
  | allCandidatesContended
deriving DecidableEq

inductive ScheduleResult where
  | assigned (task : SchedulableTask) (pool : SchedulablePool) (leaseId : LeaseId)
      (dispatchJob : JobId)
  | notAssigned (reason : ScheduleSkipReason) (candidatesEvaluated : Nat)
deriving DecidableEq

theorem foldl_betterPool {pools : List SchedulablePool} {best : Option SchedulablePool}
    {pool : SchedulablePool} (h : pools.foldl betterPool best = some pool) :
    best = some pool ∨ (pool ∈ pools ∧ hasPoolCapacity pool = true) := by
  induction pools generalizing best with
  | nil =>
      exact Or.inl h
  | cons next rest ih =>
      rcases ih h with hbest | ⟨hmem, hcapacity⟩
      · unfold betterPool at hbest
        split at hbest
        · rename_i hcapacity
          split at hbest
          · cases hbest
            exact Or.inr ⟨List.mem_cons_self, hcapacity⟩
          · split at hbest
            · cases hbest
              exact Or.inr ⟨List.mem_cons_self, hcapacity⟩
            · exact Or.inl hbest
        · exact Or.inl hbest
      · exact Or.inr ⟨List.mem_cons_of_mem next hmem, hcapacity⟩

theorem selectBestPool_spec {pools : List SchedulablePool} {pool : SchedulablePool}
    (h : selectBestPool pools = some pool) :
    pool ∈ pools ∧ pool.activeLeaseCount < pool.maxConcurrency := by
  rcases foldl_betterPool h with hbest | ⟨hmem, hcapacity⟩
  · cases hbest
  · exact ⟨hmem, of_decide_eq_true hcapacity⟩

end Application
end CopilotFactory
