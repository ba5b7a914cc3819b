import CopilotFactory.Application.JobQueueService
import CopilotFactory.ControlPlane.World

/-!
# Worker supervisor

The supervisor provisions a workspace, starts a worker process in it, forwards
its heartbeats to the lease and finalizes the run.  It awaits ports all the
time, so the requests of others interleave with its own transactions.
-/

namespace CopilotFactory
namespace Automation

open Foundations
open Domain
open Infrastructure
open Application
open ControlPlane

/-!
## Workers
-/

inductive WorkerEntityStatus where
  | idle
  | starting
  | running
  | completing
  | completed
  | failed
  | cancelled
  | timedOut
deriving DecidableEq

structure Worker where
  workerId : WorkerId
  poolId : PoolId
  name : String
  status : WorkerEntityStatus
  currentTaskId : Option TaskId
  currentRunId : Option String
  lastHeartbeatAt : Option Seconds
deriving DecidableEq

abbrev WorkerTable := Table WorkerId Worker Worker.workerId

/-- The tables of the automation that no request of the control plane touches. -/
structure Machinery where
  workers : WorkerTable
  jobs : JobTable

structure CreateWorkerData where
  workerId : WorkerId
  poolId : PoolId
  name : String
  status : WorkerEntityStatus
  currentTaskId : TaskId

structure UpdateWorkerData where
  status : Option WorkerEntityStatus := none
  currentRunId : Option (Option String) := none
  currentTaskId : Option (Option TaskId) := none
  lastHeartbeatAt : Option Millis := none

def newWorker (data : CreateWorkerData) : Worker where
  workerId := data.workerId
  poolId := data.poolId
  name := data.name
  status := data.status
  currentTaskId := some data.currentTaskId
  currentRunId := none
  lastHeartbeatAt := none

def UpdateWorkerData.apply (data : UpdateWorkerData) (worker : Worker) : Worker where
  workerId := worker.workerId
  poolId := worker.poolId
  name := worker.name
  status := data.status.getD worker.status
  currentTaskId := data.currentTaskId.getD worker.currentTaskId
  currentRunId := data.currentRunId.getD worker.currentRunId
  lastHeartbeatAt := (data.lastHeartbeatAt.map toColumn).or worker.lastHeartbeatAt

@[simp] theorem UpdateWorkerData.apply_workerId (data : UpdateWorkerData)
    (worker : Worker) :
    (data.apply worker).workerId = worker.workerId :=
  rfl

def createWorker (data : CreateWorkerData) (s : Store)
    (m : Machinery) : Except ServiceError (Machinery × Worker) := do
  ensure ((s.workerPools.find? data.poolId).isSome = true)
    (.constraintViolation "worker" "pool_id")
  ensure ((s.findTask data.currentTaskId).isSome = true)
    (.constraintViolation "worker" "current_task_id")
  if h : m.workers.find? (newWorker data).workerId = none then
    .ok ({ m with workers := m.workers.insert (newWorker data) h }, newWorker data)
  else
    .error (.constraintViolation "worker" "worker_id")

def updateWorker (workerId : WorkerId) (data : UpdateWorkerData) (_ : Store)
    (m : Machinery) : Except ServiceError (Machinery × Worker) := do
  let worker ← orThrow (m.workers.find? workerId)
    (.versionConflict "Worker" workerId "exists")
  pure ({ m with workers := m.workers.modify workerId data.apply data.apply_workerId },
    data.apply worker)

/-!
## Ports
-/

structure OutputSchemaExpectation where
  packetType : String
  schemaVersion : String
deriving DecidableEq

structure RunContext where
  taskId : TaskId
  outputSchemaExpectation : OutputSchemaExpectation
  customPrompt : Option String
deriving DecidableEq

structure WorkspaceResult where
  rootPath : String
  logsPath : String
  branchName : String
deriving DecidableEq

structure RunConfig where
  workerId : WorkerId
  poolId : PoolId
  taskId : TaskId
  leaseId : LeaseId
  attempt : Nat
  branchName : String
deriving DecidableEq

inductive RunOutputType where
  | stdout
  | stderr
  | system
  | heartbeat
deriving DecidableEq

structure RunOutputEvent where
  type : RunOutputType
  content : String
deriving DecidableEq

inductive RunStatus where
  | success
  | failed
  | partialResult
  | cancelled
deriving DecidableEq

structure FinalizeResult where
  status : RunStatus
  logs : List RunOutputEvent
  exitCode : Option Int
deriving DecidableEq

structure StreamStep where
  others : List Request := []
  event : RunOutputEvent
  now : Millis := 0

structure RuntimeRun where
  prepareRun : Call String
  startRun : Call Unit
  streamRun : List StreamStep
  /-- The end of the stream, after its last event. -/
  streamEnd : Call Unit
  collectArtifacts : Call Unit
  finalizeRun : Call FinalizeResult
  /-- The clock at the terminal heartbeat. -/
  completedAt : Millis
  /-- Cancelling, collecting and finalizing a run that failed. -/
  cleanup : List (Call Unit)

structure SupervisorPorts where
  createWorkspace : TaskId -> String -> Nat -> Call WorkspaceResult
  mountPackets : String -> RunContext -> RunConfig -> Call Unit
  runtimeAdapter : RunContext -> RuntimeRun
  persistRunLogs : String -> List RunOutputEvent -> Call Unit

structure SpawnWorkerParams where
  workerId : WorkerId
  poolId : PoolId
  workerName : String
  taskId : TaskId
  leaseId : LeaseId
  repoPath : String
  attempt : Nat
  runContext : RunContext

structure SpawnWorkerResult where
  worker : Worker
  finalizeResult : FinalizeResult
  outputEvents : List RunOutputEvent

def mapRunStatusToWorkerStatus : RunStatus -> WorkerEntityStatus
  | .success => .completed
  | .partialResult => .completed
  | .failed => .failed
  | .cancelled => .cancelled

/-!
## The services behind the supervisor
-/

def automationActor : ActorInfo where
  type := "system"
  id := "automation-runtime"

def supervisorActor : ActorInfo where
  type := "system"
  id := "worker-supervisor"

/-- Heartbeat errors are logged and dropped. -/
def forwardHeartbeat (leaseId : LeaseId) (isTerminal : Bool)
    (now : Millis) : Process (World Machinery) Thrown Unit :=
  Process.swallow (onStore (receiveHeartbeat now
    { leaseId := leaseId, completing := isTerminal, actor := supervisorActor }))

/-- Every reclaim of the supervisor names a crashed worker and the default policies. -/
def supervisorReclaim (leaseId : LeaseId) : ReclaimLeaseParams where
  leaseId := leaseId
  reason := .workerCrashed
  retryPolicy := defaultRetryPolicy
  escalationPolicy := defaultEscalationPolicy
  actor := automationActor

/-- The reclaim after a failure; its errors are dropped. -/
def tryReclaim (leaseId : LeaseId) : Process (World Machinery) Thrown Unit :=
  Process.swallow (onStore (reclaimLease (supervisorReclaim leaseId)))

def setWorker (workerId : WorkerId)
    (data : UpdateWorkerData) : Process (World Machinery) Thrown Worker :=
  onOuter (updateWorker workerId data)

/-!
## Spawning a worker
-/

def runConfigOf (params : SpawnWorkerParams) (workspace : WorkspaceResult) : RunConfig where
  workerId := params.workerId
  poolId := params.poolId
  taskId := params.taskId
  leaseId := params.leaseId
  attempt := params.attempt
  branchName := workspace.branchName

def prepareWorker (ports : SupervisorPorts) (params : SpawnWorkerParams) :
    Process (World Machinery) Thrown (WorkspaceResult × String) := do
  let workspace ←
    (ports.createWorkspace params.taskId params.repoPath params.attempt).await
  (ports.mountPackets workspace.rootPath params.runContext
    (runConfigOf params workspace)).await
  let runId ← (ports.runtimeAdapter params.runContext).prepareRun.await
  pure (workspace, runId)

/-- Steps 5 and 5b: the worker process starts, and with it the lease. -/
def startWorker (run : RuntimeRun)
    (leaseId : LeaseId) : Process (World Machinery) Thrown Unit := do
  run.startRun.await
  let _ ← onStore (transitionLease leaseId .starting
    { workerProcessSpawned := some true } automationActor)
  pure ()

def receiveOutput (params : SpawnWorkerParams)
    (step : StreamStep) : Process (World Machinery) Thrown Unit := do
  Call.await { others := step.others, outcome := .ok () }
  if step.event.type = .heartbeat then
    forwardHeartbeat params.leaseId false step.now
    let _ ← setWorker params.workerId { lastHeartbeatAt := some step.now }
    pure ()

def runWorker (ports : SupervisorPorts) (params : SpawnWorkerParams) (run : RuntimeRun)
    (workspace : WorkspaceResult) (runId : String) :
    Process (World Machinery) Thrown FinalizeResult := do
  let _ ← setWorker params.workerId
    { status := some .running, currentRunId := some (some runId) }
  Process.forEach (receiveOutput params) run.streamRun
  run.streamEnd.await
  run.collectArtifacts.await
  let finalizeResult ← run.finalizeRun.await
  if finalizeResult.logs ≠ [] then
    Process.swallow
      (ports.persistRunLogs workspace.logsPath finalizeResult.logs).await
  pure finalizeResult

/-- The end of a run: the terminal heartbeat, or the reclaim of its lease. -/
def settleWorker (params : SpawnWorkerParams) (run : RuntimeRun)
    (finalizeResult : FinalizeResult) :
    Process (World Machinery) Thrown SpawnWorkerResult := do
  let terminal : UpdateWorkerData :=
    { status := some (mapRunStatusToWorkerStatus finalizeResult.status)
      currentRunId := some none
      currentTaskId := some none }
  let outputEvents := run.streamRun.map StreamStep.event
  if finalizeResult.status = .success ∨ finalizeResult.status = .partialResult then
    let _ ← setWorker params.workerId { status := some .completing }
    forwardHeartbeat params.leaseId true run.completedAt
    let worker ← setWorker params.workerId terminal
    pure
      { worker := worker
        finalizeResult := finalizeResult
        outputEvents := outputEvents }
  else
    let worker ← setWorker params.workerId terminal
    tryReclaim params.leaseId
    pure
      { worker := worker
        finalizeResult := finalizeResult
        outputEvents := outputEvents }

/-- The handler of a failed spawn: clean up the run if there is one, fail the worker,
reclaim the lease and throw again. -/
def recoverSpawn (params : SpawnWorkerParams) (prepared : Option RuntimeRun)
    (error : Thrown) : Process (World Machinery) Thrown SpawnWorkerResult := do
  match prepared with
  | some run => Process.swallow (Process.forEach Call.await run.cleanup)
  | none => pure ()
  let _ ← setWorker params.workerId
    { status := some .failed, currentRunId := some none, currentTaskId := some none }
  tryReclaim params.leaseId
  Process.throw error

def workerData (params : SpawnWorkerParams) : CreateWorkerData where
  workerId := params.workerId
  poolId := params.poolId
  name := params.workerName
  status := .starting
  currentTaskId := params.taskId

def spawnWorker (ports : SupervisorPorts) (params : SpawnWorkerParams) :
    Process (World Machinery) Thrown SpawnWorkerResult := do
  -- A failure of this first step is thrown as it is: nothing is recovered.
  let _ ← onOuter (createWorker (workerData params))
  match ← Process.attempt (prepareWorker ports params) with
  | .error error => recoverSpawn params none error
  | .ok (workspace, runId) =>
      let run := ports.runtimeAdapter params.runContext
      Process.tryCatch
        (do
          startWorker run params.leaseId
          let finalizeResult ← runWorker ports params run workspace runId
          settleWorker params run finalizeResult)
        (recoverSpawn params (some run))

end Automation
end CopilotFactory
