import CopilotFactory.Automation.DevelopmentEvidence
import CopilotFactory.Foundations.Json

/-!
# Result packets

The dispatch tells a worker which packet type and schema version to use, the prompt
of its role which packet to produce, and the adapter validates what it produced.
Whether a text is a timestamp, and the schemas of the other packets, are parameters.
-/

namespace CopilotFactory
namespace Automation

open Foundations
open Infrastructure

/-!
## Schema versions
-/

structure ParsedSchemaVersion where
  major : Nat
  minor : Nat
deriving DecidableEq

def parseVersionNumber : List Char -> Option Nat
  | [] => none
  | ['0'] => some 0
  | '0' :: _ => none
  | digits =>
      if digits.all Char.isDigit then
        some (digits.foldl (fun value digit => 10 * value + (digit.toNat - '0'.toNat)) 0)
      else
        none

/-- The two numbers of a version, or nothing where the source throws. -/
def parseSchemaVersion (version : String) : Option ParsedSchemaVersion := do
  let major ← beforeFirst ['.'] version.toList
  let minor ← afterFirst ['.'] version.toList
  let major ← parseVersionNumber major
  let minor ← parseVersionNumber minor
  pure { major := major, minor := minor }

/-!
## The packet of a developer
-/

def packetStatusSchema : Schema :=
  Schema.oneOf ["success", "failed", "partial", "blocked"]

def fileChangeTypeSchema : Schema :=
  Schema.oneOf ["added", "modified", "deleted", "renamed"]

def validationCheckTypeSchema : Schema :=
  Schema.oneOf ["test", "lint", "build", "typecheck", "policy", "schema", "security"]

def validationCheckStatusSchema : Schema :=
  Schema.oneOf ["passed", "failed", "skipped"]

def fileChangeSummarySchema : Schema :=
  Schema.object
    [("path", Schema.nonEmptyString),
      ("change_type", fileChangeTypeSchema),
      ("summary", Schema.nonEmptyString)]

def validationCheckResultSchema : Schema :=
  Schema.object
    [("check_type", validationCheckTypeSchema),
      ("tool_name", Schema.nonEmptyString),
      ("command", Schema.nonEmptyString),
      ("status", validationCheckStatusSchema),
      ("duration_ms", Schema.nonNegativeInteger),
      ("summary", Schema.nonEmptyString),
      ("artifact_refs", Schema.optional (Schema.array Schema.nonEmptyString))]

def devResultPacketResultSchema : Schema :=
  Schema.object
    [("branch_name", Schema.nonEmptyString),
      ("commit_sha", Schema.nonEmptyString),
      ("files_changed", Schema.array fileChangeSummarySchema),
      ("tests_added_or_updated", Schema.array Schema.nonEmptyString),
      ("validations_run", Schema.array validationCheckResultSchema),
      ("assumptions", Schema.array (Schema.string fun _ => true)),
      ("risks", Schema.array (Schema.string fun _ => true)),
      ("unresolved_issues", Schema.array (Schema.string fun _ => true))]

/-- The schema of the packet, whose literal version is an argument. -/
def devResultPacketSchemaAt (isDatetime : String -> Bool) (version : String) : Schema :=
  Schema.object
    [("packet_type", Schema.literal "dev_result_packet"),
      ("schema_version", Schema.literal version),
      ("created_at", Schema.string isDatetime),
      ("task_id", Schema.nonEmptyString),
      ("repository_id", Schema.nonEmptyString),
      ("run_id", Schema.nonEmptyString),
      ("status", packetStatusSchema),
      ("summary", Schema.nonEmptyString),
      ("result", devResultPacketResultSchema),
      ("artifact_refs", Schema.array Schema.nonEmptyString)]

def devResultPacketSchema (isDatetime : String -> Bool) : Schema :=
  devResultPacketSchemaAt isDatetime "1.0"

def jsonTools (parse : String -> Option Json) (isDatetime : String -> Bool)
    (others : PacketSchema -> Json -> Bool) : PacketTools Json where
  parse := parse
  accepts := fun schema packet =>
    match schema with
    | .devResult => devResultPacketSchema isDatetime (some packet)
    | other => others other packet
  status := fun packet => (packet.field? "status").bind Json.asString?

/-!
## What a worker is told
-/

inductive AgentRole where
  | planner
  | developer
  | reviewer
  | leadReviewer
  | mergeAssist
  | postMergeAnalysis
deriving DecidableEq

/-- All dispatched tasks are development tasks. -/
def mapTaskTypeToRole (_ : String) : AgentRole :=
  .developer

/-- The output of the run counts: its packet is valid, and with exit code 0 the run ends
in success. -/
structure Counts {J : Type} (tools : PacketTools J) (expectation : OutputSchemaExpectation)
    (runId : String) (state : CopilotCliRunState) : Prop where
  collected : exists artifacts,
    collectArtifacts tools expectation.packetType runId state = .ok artifacts ∧
      artifacts.packetValid = true
  finalized : state.exitCode = some 0 ->
    exists result,
      finalizeRun tools expectation.packetType runId state = .ok result ∧
        result.status = .success

/-- The packet of the run is collected as invalid, and the run ends as partial, or as
failed when its process broke off. -/
structure IsDiscarded {J : Type} (tools : PacketTools J)
    (expectation : OutputSchemaExpectation) (runId : String)
    (state : CopilotCliRunState) : Prop where
  collected :
    collectArtifacts tools expectation.packetType runId state =
      .ok { packetOutput := producedPacket tools state, packetValid := false }
  finalized : exists result,
    finalizeRun tools expectation.packetType runId state = .ok result ∧
      result.status ≠ .success ∧
      (state.exitCode = some 0 -> result.status = .partialResult)

/-!
## No output counts
-/

theorem collectArtifacts_of_completed {J : Type} {tools : PacketTools J}
    {expectedType runId : String} {state : CopilotCliRunState}
    (h : state.phase = .completed) :
    collectArtifacts tools expectedType runId state =
      .ok
        { packetOutput := producedPacket tools state
          packetValid :=
            ((producedPacket tools state).map fun packet =>
              validatePacketSchema tools packet expectedType).getD false } := by
  unfold collectArtifacts
  rw [h]
  cases producedPacket tools state with
  | none =>
      rfl
  | some packet =>
      rfl

theorem finalizeRun_of_completed {J : Type} {tools : PacketTools J}
    {expectedType runId : String} {state : CopilotCliRunState}
    {artifacts : CollectedArtifacts J} (h : state.phase = .completed)
    (hartifacts : collectArtifacts tools expectedType runId state = .ok artifacts) :
    finalizeRun tools expectedType runId state =
      .ok
        { status := determineRunStatus state artifacts
          logs := state.logEntries
          exitCode := state.exitCode } := by
  simp only [finalizeRun, finalArtifacts, ensure, h, hartifacts]
  rfl

theorem isDiscarded_of_taskType {J : Type} (tools : PacketTools J) {taskType : String}
    {expectation : OutputSchemaExpectation}
    (htype : expectation.packetType = mapTaskTypeToPacketType taskType) (runId : String)
    {state : CopilotCliRunState} (hphase : state.phase = .completed) :
    IsDiscarded tools expectation runId state := by
  have hcollected :
      collectArtifacts tools expectation.packetType runId state =
        .ok { packetOutput := producedPacket tools state, packetValid := false } := by
    rw [collectArtifacts_of_completed hphase, htype]
    cases producedPacket tools state with
    | none =>
        rfl
    | some packet =>
        simp [validatePacketSchema_of_taskType]
  have hfinal := finalizeRun_of_completed hphase hcollected
  have hstatus := finalizeRun_status (htype ▸ hfinal)
  refine ⟨hcollected, _, hfinal, hstatus.1, ?_⟩
  intro hexit
  exact hstatus.2.mpr ⟨hphase, Or.inl hexit⟩

theorem schemaVersion_of_resolveSpawnContext {ports : DispatchPorts} {taskId : TaskId}
    {poolId : PoolId} {s : Store} {context : WorkerSpawnContext}
    (h : resolveSpawnContext ports taskId poolId s = .ok (some context)) :
    context.runContext.outputSchemaExpectation.schemaVersion = outputSchemaVersion := by
  unfold resolveSpawnContext at h
  split at h
  · cases h
  · split at h
    · cases h
    · split at h
      · cases h
      · rcases bind_eq_ok.mp h with ⟨_, _, hcontext⟩
        cases hcontext
        rfl

theorem version_of_devResultPacketSchemaAt {isDatetime : String -> Bool} {version : String}
    {packet : Json}
    (h : devResultPacketSchemaAt isDatetime version (some packet) = true) :
    packet.field? "schema_version" = some (.string version) :=
  Schema.literal_eq_true.mp
    (Schema.field_of_object h (List.mem_cons_of_mem _ List.mem_cons_self))

/-- The version that is told has three numbers, so that it is no schema version. -/
theorem parse_outputSchemaVersion : parseSchemaVersion outputSchemaVersion = none := by
  decide +kernel

/-- Whatever a worker of a resolved context has written and printed, its output does not
count, and the run of a process that has exited is discarded; and no packet can have the
version that the context tells and be accepted by the schema. -/
theorem dispatched_output_never_counts {parse : String -> Option Json}
    {isDatetime : String -> Bool} {others : PacketSchema -> Json -> Bool}
    {ports : DispatchPorts} {taskId : TaskId} {poolId : PoolId} {s : Store}
    {context : WorkerSpawnContext}
    (h : resolveSpawnContext ports taskId poolId s = .ok (some context)) :
    (forall runId state,
      ¬ Counts (jsonTools parse isDatetime others)
        context.runContext.outputSchemaExpectation runId state ∧
      (state.phase = .completed ->
        IsDiscarded (jsonTools parse isDatetime others)
          context.runContext.outputSchemaExpectation runId state)) ∧
    (forall packet, devResultPacketSchema isDatetime (some packet) = true ->
      packet.field? "schema_version" ≠
        some (.string context.runContext.outputSchemaExpectation.schemaVersion)) ∧
    parseSchemaVersion context.runContext.outputSchemaExpectation.schemaVersion = none := by
  rcases packetType_of_resolveSpawnContext h with ⟨taskType, htype⟩
  have hversion := schemaVersion_of_resolveSpawnContext h
  refine ⟨?_, ?_, ?_⟩
  · intro runId state
    constructor
    · intro hcounts
      rcases hcounts.collected with ⟨artifacts, hartifacts, hvalid⟩
      rw [htype] at hartifacts
      rw [collectArtifacts_not_valid hartifacts] at hvalid
      cases hvalid
    · exact isDiscarded_of_taskType (jsonTools parse isDatetime others) htype runId
  · intro packet haccepted
    rw [version_of_devResultPacketSchemaAt haccepted, hversion]
    show some (Json.string "1.0") ≠ some (Json.string "1.0.0")
    simp
  · rw [hversion]
    exact parse_outputSchemaVersion

/-!
## A developer's packet
-/

def developerPacket (version : String) : Json :=
  .object
    [("packet_type", .string "dev_result_packet"),
      ("schema_version", .string version),
      ("created_at", .string "2026-01-02T03:04:05Z"),
      ("task_id", .string "task-1"),
      ("repository_id", .string "repo-1"),
      ("run_id", .string "run-1"),
      ("status", .string "success"),
      ("summary", .string "done"),
      ("result", .object
        [("branch_name", .string "factory/task-1"),
          ("commit_sha", .string "abc"),
          ("files_changed", .array []),
          ("tests_added_or_updated", .array []),
          ("validations_run", .array []),
          ("assumptions", .array []),
          ("risks", .array []),
          ("unresolved_issues", .array [])]),
      ("artifact_refs", .array [])]

def developerText (version : String) : String :=
  "\x7b\"packet_type\":\"dev_result_packet\",\"schema_version\":\"" ++ version ++
    "\",\"created_at\":\"2026-01-02T03:04:05Z\",\"task_id\":\"task-1\"," ++
    "\"repository_id\":\"repo-1\",\"run_id\":\"run-1\",\"status\":\"success\"," ++
    "\"summary\":\"done\",\"result\":\x7b\"branch_name\":\"factory/task-1\"," ++
    "\"commit_sha\":\"abc\",\"files_changed\":[],\"tests_added_or_updated\":[]," ++
    "\"validations_run\":[],\"assumptions\":[],\"risks\":[]," ++
    "\"unresolved_issues\":[]\x7d,\"artifact_refs\":[]\x7d"

def developerTools (version : String) : PacketTools Json :=
  jsonTools
    (fun text => if text = developerText version then some (developerPacket version) else none)
    (fun text => text = "2026-01-02T03:04:05Z") (fun _ _ => false)

def developerRun (version : String) : CopilotCliRunState where
  phase := .completed
  stdoutBuffer := ""
  stderrBuffer := ""
  exitCode := some 0
  outputFile := some (developerText version)
  logEntries := []

def dispatchedContext : WorkerSpawnContext where
  repoPath := "/repo"
  workerName := "worker-task-1"
  runContext :=
    { taskId := "task-1"
      outputSchemaExpectation :=
        { packetType := "development_result", schemaVersion := "1.0.0" }
      customPrompt := none }

theorem resolve_dispatchedContext :
    resolveSpawnContext (portsWith (.ok aWorkspace)) "task-1" "pool-1" scheduledStore =
      .ok (some dispatchedContext) := by
  decide +kernel

theorem dispatched_output_never_counts_task :
    (forall runId state,
      ¬ Counts (developerTools "1.0")
        dispatchedContext.runContext.outputSchemaExpectation runId state ∧
      (state.phase = .completed ->
        IsDiscarded (developerTools "1.0")
          dispatchedContext.runContext.outputSchemaExpectation runId state)) ∧
    (forall packet,
      devResultPacketSchema (fun text => text = "2026-01-02T03:04:05Z") (some packet) = true ->
      packet.field? "schema_version" ≠
        some (.string dispatchedContext.runContext.outputSchemaExpectation.schemaVersion)) ∧
    parseSchemaVersion
      dispatchedContext.runContext.outputSchemaExpectation.schemaVersion = none :=
  dispatched_output_never_counts resolve_dispatchedContext

/-- Every packet accepted by the developer's schema at a version counts, when a worker of
the dispatched task writes it and exits with code 0. -/
def AcceptedCount (version : String) : Prop :=
  forall context,
    resolveSpawnContext (portsWith (.ok aWorkspace)) "task-1" "pool-1" scheduledStore =
      .ok (some context) ->
    forall packet,
      devResultPacketSchemaAt (fun text => text = "2026-01-02T03:04:05Z") version
        (some packet) = true ->
      forall state, state.phase = .completed -> state.exitCode = some 0 ->
        producedPacket (developerTools version) state = some packet ->
          Counts (developerTools version) context.runContext.outputSchemaExpectation "run-1"
            state

/-- It counts neither with the version of the schema nor with the version told. -/
theorem developer_packet_discarded :
    ¬ AcceptedCount "1.0" ∧ ¬ AcceptedCount "1.0.0" := by
  have hnever : forall version,
      devResultPacketSchemaAt (fun text => text = "2026-01-02T03:04:05Z") version
        (some (developerPacket version)) = true ->
      ¬ AcceptedCount version := by
    intro version haccepted h
    have hproduced : producedPacket (developerTools version) (developerRun version) =
        some (developerPacket version) := by
      simp [producedPacket, developerTools, jsonTools, developerRun]
    rcases (h dispatchedContext resolve_dispatchedContext _ haccepted _ rfl rfl
      hproduced).collected with ⟨artifacts, hartifacts, hvalid⟩
    have htype : dispatchedContext.runContext.outputSchemaExpectation.packetType =
        mapTaskTypeToPacketType "feature" :=
      rfl
    rw [htype] at hartifacts
    rw [collectArtifacts_not_valid hartifacts] at hvalid
    cases hvalid
  constructor
  · apply hnever
    decide +kernel
  · apply hnever
    decide +kernel

end Automation
end CopilotFactory
