import CopilotFactory.Automation.WorkerDispatchService

/-!
# Copilot CLI adapter

The adapter runs the worker as a command line process, captures what it prints,
looks for the result packet in a file or between two markers on stdout, and
decides how the run ended.  JSON parsing and the packet schemas are parameters.
-/

namespace CopilotFactory
namespace Automation

open Foundations
open Infrastructure
open ControlPlane

/-!
## Packets
-/

inductive PacketSchema where
  | devResult
  | review
  | leadReviewDecision
  | merge
  | mergeAssist
  | validationResult
  | postMergeAnalysis
deriving DecidableEq

structure PacketTools (J : Type) where
  /-- The value of a JSON text, or nothing for null or for what is no JSON. -/
  parse : String -> Option J
  accepts : PacketSchema -> J -> Bool
  /-- The status field of a packet. -/
  status : J -> Option String

def packetSchemaRegistry : List (String × PacketSchema) :=
  [("dev_result_packet", .devResult),
    ("review_packet", .review),
    ("lead_review_decision_packet", .leadReviewDecision),
    ("merge_packet", .merge),
    ("merge_assist_packet", .mergeAssist),
    ("validation_result_packet", .validationResult),
    ("post_merge_analysis_packet", .postMergeAnalysis)]

variable {J : Type}

/-- Without a schema for the expected type no packet is valid. -/
def validatePacketSchema (tools : PacketTools J) (data : J)
    (expectedPacketType : String) : Bool :=
  match packetSchemaRegistry.lookup expectedPacketType with
  | none => false
  | some schema => tools.accepts schema data

def resultPacketStartDelimiter : String :=
  "---BEGIN_RESULT_PACKET---"

def resultPacketEndDelimiter : String :=
  "---END_RESULT_PACKET---"

def extractPacketFromStdout (tools : PacketTools J) (stdout : String) : Option J := do
  let rest ← afterFirst resultPacketStartDelimiter.toList stdout.toList
  let content ← beforeFirst resultPacketEndDelimiter.toList rest
  if trim content = [] then
    none
  else
    tools.parse (String.ofList (trim content))

/-!
## Runs
-/

inductive RunPhase where
  | prepared
  | running
  | completed
  | cancelled
  | finalized
deriving DecidableEq

structure CopilotCliRunState where
  phase : RunPhase
  stdoutBuffer : String
  stderrBuffer : String
  exitCode : Option Int
  /-- The content of the output file, if the file exists and can be read. -/
  outputFile : Option String
  logEntries : List RunOutputEvent
deriving DecidableEq

/-- The packet of the output file, or else the one on stdout. -/
def producedPacket (tools : PacketTools J) (state : CopilotCliRunState) : Option J :=
  match state.outputFile.bind tools.parse with
  | some packet => some packet
  | none => extractPacketFromStdout tools state.stdoutBuffer

structure CollectedArtifacts (J : Type) where
  packetOutput : Option J
  packetValid : Bool

def collectArtifacts (tools : PacketTools J) (expectedType runId : String)
    (state : CopilotCliRunState) : Except String (CollectedArtifacts J) :=
  match state.phase with
  | .running =>
      .error s!"Cannot collect artifacts for run {runId}: worker is still running"
  | .prepared =>
      .error s!"Cannot collect artifacts for run {runId}: run was never started"
  | .finalized =>
      .error s!"Cannot collect artifacts for run {runId}: run has been finalized"
  | _ =>
      match producedPacket tools state with
      | none =>
          .ok { packetOutput := none, packetValid := false }
      | some packet =>
          .ok
            { packetOutput := some packet
              packetValid := validatePacketSchema tools packet expectedType }

def hasSessionCompletionMarkers (stdout stderr : String) : Bool :=
  includes (stdout ++ stderr) "Total session time:" ||
    includes (stdout ++ stderr) "Total code changes:"

def determineRunStatus (state : CopilotCliRunState)
    (artifacts : CollectedArtifacts J) : RunStatus :=
  if state.phase = .cancelled then
    .cancelled
  else if state.phase = .prepared then
    .failed
  else if artifacts.packetValid then
    .success
  else if state.exitCode = some 0 then
    .partialResult
  else if hasSessionCompletionMarkers state.stdoutBuffer state.stderrBuffer then
    .partialResult
  else
    .failed

def finalArtifacts (tools : PacketTools J) (expectedType runId : String)
    (state : CopilotCliRunState) : Except String (CollectedArtifacts J) :=
  if state.phase = .prepared then
    .ok { packetOutput := none, packetValid := false }
  else
    collectArtifacts tools expectedType runId state

def finalizeRun (tools : PacketTools J) (expectedType runId : String)
    (state : CopilotCliRunState) : Except String FinalizeResult := do
  ensure (state.phase ≠ .finalized) s!"Run {runId} has already been finalized"
  ensure (state.phase ≠ .running)
    s!"Cannot finalize run {runId}: worker is still running"
  let artifacts ← finalArtifacts tools expectedType runId state
  pure
    { status := determineRunStatus state artifacts
      logs := state.logEntries
      exitCode := state.exitCode }

/-- What a worker process does, and the requests of others while it is awaited. -/
structure WorkerBehaviour where
  prepareRun : Call String
  startRun : Call Unit
  streamRun : List StreamStep
  streamEnd : Call Unit
  collecting : List Request
  finalizing : List Request
  completedAt : Millis
  cleanup : List (Call Unit)
  /-- The state of the run after its stream has ended. -/
  final : CopilotCliRunState

def copilotRun (tools : PacketTools J) (behaviour : WorkerBehaviour)
    (context : RunContext) : RuntimeRun :=
  let expectedType := context.outputSchemaExpectation.packetType
  let runId := behaviour.prepareRun.outcome.toOption.getD ""
  { prepareRun := behaviour.prepareRun
    startRun := behaviour.startRun
    streamRun := behaviour.streamRun
    streamEnd := behaviour.streamEnd
    collectArtifacts :=
      { others := behaviour.collecting
        outcome :=
          (collectArtifacts tools expectedType runId behaviour.final).map (fun _ => ()) }
    finalizeRun :=
      { others := behaviour.finalizing
        outcome := finalizeRun tools expectedType runId behaviour.final }
    completedAt := behaviour.completedAt
    cleanup := behaviour.cleanup }

def withCopilot (ports : DispatchPorts) (tools : PacketTools J)
    (behaviour : RunContext -> WorkerBehaviour) : DispatchPorts :=
  { ports with
    supervisor :=
      { ports.supervisor with
        runtimeAdapter := fun context => copilotRun tools (behaviour context) context } }

/-!
## The packets of dispatched tasks

The packet types that the dispatch expects are none of those registered.
-/

theorem no_schema_of_taskType (taskType : String) :
    packetSchemaRegistry.lookup (mapTaskTypeToPacketType taskType) = none := by
  unfold mapTaskTypeToPacketType
  split
  · rfl
  · split
    · rfl
    · split
      · rfl
      · split <;> rfl

theorem validatePacketSchema_of_taskType (tools : PacketTools J) (data : J)
    (taskType : String) :
    validatePacketSchema tools data (mapTaskTypeToPacketType taskType) = false := by
  unfold validatePacketSchema
  rw [no_schema_of_taskType]

theorem packetType_of_resolveSpawnContext {ports : DispatchPorts} {taskId : TaskId}
    {poolId : PoolId} {s : Store} {context : WorkerSpawnContext}
    (h : resolveSpawnContext ports taskId poolId s = .ok (some context)) :
    exists taskType,
      context.runContext.outputSchemaExpectation.packetType =
        mapTaskTypeToPacketType taskType := by
  unfold resolveSpawnContext at h
  split at h
  · cases h
  · rename_i task _
    split at h
    · cases h
    · split at h
      · cases h
      · rcases bind_eq_ok.mp h with ⟨_, _, hcontext⟩
        cases hcontext
        exact ⟨task.taskType, rfl⟩

theorem collectArtifacts_not_valid {tools : PacketTools J} {taskType runId : String}
    {state : CopilotCliRunState} {artifacts : CollectedArtifacts J}
    (h : collectArtifacts tools (mapTaskTypeToPacketType taskType) runId state =
      .ok artifacts) :
    artifacts.packetValid = false := by
  unfold collectArtifacts at h
  split at h
  · cases h
  · cases h
  · cases h
  · split at h
    · cases h
      rfl
    · cases h
      exact validatePacketSchema_of_taskType tools _ taskType

/-- The process ended by itself, with exit code 0 or after its session was reported. -/
def EndsAsPartial (final : CopilotCliRunState) : Prop :=
  final.phase = .completed ∧
    (final.exitCode = some 0 ∨
      hasSessionCompletionMarkers final.stdoutBuffer final.stderrBuffer = true)

instance (final : CopilotCliRunState) : Decidable (EndsAsPartial final) :=
  inferInstanceAs (Decidable (_ ∧ _))

/-- Without a valid packet a run ends as partial or worse. -/
theorem determineRunStatus_of_not_valid {state : CopilotCliRunState}
    {artifacts : CollectedArtifacts J} (h : artifacts.packetValid = false)
    (hrunning : state.phase ≠ .running) (hfinalized : state.phase ≠ .finalized) :
    determineRunStatus state artifacts ≠ .success ∧
      (determineRunStatus state artifacts = .partialResult <-> EndsAsPartial state) := by
  unfold determineRunStatus EndsAsPartial
  rw [h]
  cases hphase : state.phase with
  | prepared =>
      simp
  | running =>
      exact absurd hphase hrunning
  | cancelled =>
      simp
  | finalized =>
      exact absurd hphase hfinalized
  | completed =>
      by_cases hexit : state.exitCode = some 0
      · simp [hexit]
      · by_cases hmarkers : hasSessionCompletionMarkers state.stdoutBuffer
            state.stderrBuffer = true
        · simp [hexit, hmarkers]
        · simp [hexit, hmarkers]

/-- A run of a dispatched task never ends in success, and ends as partial exactly when
its process ended well. -/
theorem finalizeRun_status {tools : PacketTools J} {taskType runId : String}
    {state : CopilotCliRunState} {result : FinalizeResult}
    (h : finalizeRun tools (mapTaskTypeToPacketType taskType) runId state = .ok result) :
    result.status ≠ .success ∧ (result.status = .partialResult <-> EndsAsPartial state) := by
  simp only [finalizeRun, bind_eq_ok, pure_eq_ok, ensure_eq_ok] at h
  rcases h with ⟨_, hfinalized, _, hrunning, artifacts, hartifacts, hresult⟩
  rw [← hresult]
  have hvalid : artifacts.packetValid = false := by
    unfold finalArtifacts at hartifacts
    split at hartifacts
    · cases hartifacts
      rfl
    · exact collectArtifacts_not_valid hartifacts
  exact determineRunStatus_of_not_valid hvalid hrunning hfinalized

end Automation
end CopilotFactory
