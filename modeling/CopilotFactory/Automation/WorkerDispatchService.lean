import CopilotFactory.Automation.WorkerSupervisorService

/-!
# Worker dispatch

A dispatch job names a task, the lease held for it and the worker to spawn.
Processing one claims the oldest such job, resolves what the worker needs to
know, spawns it and completes or fails the job.
-/

namespace CopilotFactory
namespace Automation

open Foundations
open Domain
open Infrastructure
open Application
open ControlPlane

structure Repository where
  localCheckoutPath : Option String
  remoteUrl : String
deriving DecidableEq

structure WorkerSpawnContext where
  repoPath : String
  workerName : String
  runContext : RunContext
deriving DecidableEq

structure DispatchPorts where
  leaseOwner : String := "worker-dispatch"
  /-- The clock when the job is claimed. -/
  claimedAt : Millis
  findRepository : String -> Option Repository
  /-- The template of the first agent profile of a pool. -/
  promptTemplate : PoolId -> Option String
  /-- Creating the directories of a task's artifacts. -/
  mkdir : TaskId -> Except String Unit
  supervisor : SupervisorPorts

def outputSchemaVersion : String :=
  "1.0.0"

def mapTaskTypeToPacketType (taskType : String) : String :=
  if taskType ∈ ["feature", "bug_fix", "refactor", "chore"] then
    "development_result"
  else if taskType = "documentation" then
    "documentation_result"
  else if taskType = "test" then
    "test_result"
  else if taskType = "spike" then
    "spike_result"
  else
    "development_result"

/-- What a worker needs to know about its task, or null when it cannot be dispatched. -/
def resolveSpawnContext (ports : DispatchPorts) (taskId : TaskId) (poolId : PoolId)
    (s : Store) : Except String (Option WorkerSpawnContext) :=
  match s.findTask taskId with
  | none => .ok none
  | some task =>
      if isTerminalState task.status then
        .ok none
      else
        match ports.findRepository task.repositoryId with
        | none => .ok none
        | some repository => do
            ports.mkdir task.taskId
            .ok (some
              { repoPath := repository.localCheckoutPath.getD repository.remoteUrl
                workerName := s!"worker-{task.taskId}"
                runContext :=
                  { taskId := task.taskId
                    outputSchemaExpectation :=
                      { packetType := mapTaskTypeToPacketType task.taskType
                        schemaVersion := outputSchemaVersion }
                    customPrompt := ports.promptTemplate poolId } })

inductive DispatchFailureReason where
  | contextResolutionFailed
  | spawnFailed
deriving DecidableEq

inductive ProcessDispatchResult where
  /-- No dispatch job was due. -/
  | skipped
  | dispatched (jobId : JobId) (payload : DispatchPayload) (spawnResult : SpawnWorkerResult)
  | notDispatched (jobId : JobId) (taskId : TaskId) (reason : DispatchFailureReason)
      (error : String)

def claimDispatchJob (ports : DispatchPorts) (_ : Store)
    (m : Machinery) : Except ServiceError (Machinery × Option Job) :=
  match claimJob .workerDispatch ports.leaseOwner ports.claimedAt m.jobs with
  | none => .ok (m, none)
  | some (jobs, job) => .ok ({ m with jobs := jobs }, some job)

def onJobs (call : JobTable -> Except ServiceError (JobTable × Job)) :
    Process (World Machinery) Thrown Job :=
  Process.transaction (fun w jobs => { w with outer := { w.outer with jobs := jobs } })
    .service (fun w => call w.outer.jobs)

def dispatchPayload (leaseId : LeaseId) (params : AcquireLeaseParams) : DispatchPayload where
  taskId := params.taskId
  leaseId := leaseId
  poolId := params.poolId
  workerId := params.workerId

def spawnParams (job : Job) (payload : DispatchPayload)
    (context : WorkerSpawnContext) : SpawnWorkerParams where
  workerId := payload.workerId
  poolId := payload.poolId
  workerName := context.workerName
  taskId := payload.taskId
  leaseId := payload.leaseId
  repoPath := context.repoPath
  attempt := job.attemptCount
  runContext := context.runContext

/-- The steps whose errors fail the job. -/
def dispatchJob (ports : DispatchPorts) (job : Job) (payload : DispatchPayload) :
    Process (World Machinery) Thrown ProcessDispatchResult := do
  let w ← Process.read
  match resolveSpawnContext ports payload.taskId payload.poolId w.store with
  | .error message => Process.throw (.port message)
  | .ok none =>
      let message :=
        s!"Task {payload.taskId} not found or missing required context for dispatch"
      let _ ← onJobs (failJob job.jobId)
      pure (.notDispatched job.jobId payload.taskId .contextResolutionFailed message)
  | .ok (some context) =>
      let spawnResult ← spawnWorker ports.supervisor (spawnParams job payload context)
      let _ ← onJobs (completeJob job.jobId)
      pure (.dispatched job.jobId payload spawnResult)

def failDispatch (job : Job) (payload : DispatchPayload)
    (error : Thrown) : Process (World Machinery) Thrown ProcessDispatchResult := do
  let _ ← onJobs (failJob job.jobId)
  pure (.notDispatched job.jobId payload.taskId .spawnFailed error.message)

def processDispatch (ports : DispatchPorts) :
    Process (World Machinery) Thrown ProcessDispatchResult := do
  match ← onOuter (claimDispatchJob ports) with
  | none => pure .skipped
  | some job =>
      match job.payload with
      | none =>
          -- Reading the task id of a missing payload throws, in the handler as well.
          let _ ← onJobs (failJob job.jobId)
          Process.throw (.port "Cannot read properties of null (reading 'taskId')")
      | some payload =>
          Process.tryCatch (dispatchJob ports job payload) (failDispatch job payload)

/-!
## Automation service

One round of worker dispatch: process a dispatch job, and when its worker is
reported to have succeeded, advance the task through the state machine.
-/

/-- Errors that mean that the task is not in the expected state any more. -/
def isExpected : Thrown -> Bool
  | .service (.invalidTransition _ _ _ _ _) => true
  | .service (.versionConflict _ _ _) => true
  | .service (.entityNotFound _ _) => true
  | _ => false

/-- The context is not looked up anywhere: it claims a packet and passed validations. -/
def completeDevelopment (taskId : TaskId) : Process (World Machinery) Thrown Unit :=
  Process.swallow (onStore (transitionTask taskId .devComplete
    { hasDevResultPacket := some true, requiredValidationsPassed := some true }
    automationActor))

/-- ASSIGNED to IN_DEVELOPMENT, and IN_DEVELOPMENT to DEV_COMPLETE. -/
def processSuccessfulWorkerResult (taskId : TaskId) :
    Process (World Machinery) Thrown Unit := do
  match ← Process.attempt (onStore (transitionTask taskId .inDevelopment
      { hasHeartbeat := some true } automationActor)) with
  | .ok _ => completeDevelopment taskId
  | .error error =>
      if isExpected error then
        completeDevelopment taskId
      else
        pure ()

/-- Results of runs that did not end in success or in a partial result are only
logged. -/
def processResult : ProcessDispatchResult -> Process (World Machinery) Thrown Unit
  | .dispatched _ payload spawnResult =>
      if spawnResult.finalizeResult.status = .success ∨
          spawnResult.finalizeResult.status = .partialResult then
        processSuccessfulWorkerResult payload.taskId
      else
        pure ()
  | _ => pure ()

def processWorkerDispatches (ports : DispatchPorts) :
    Process (World Machinery) Thrown Unit :=
  Process.tryCatch (processDispatch ports >>= processResult) (fun _ => pure ())

end Automation
end CopilotFactory
