import CopilotFactory.Automation.ResultPackets
import CopilotFactory.Reviewing.ReworkContextService

/-!
# Task packets

The packet of a task tells its worker what to do.  It is assembled from the row of the
task and from that of its repository; what the rows do not say has a default, and nothing
of what happened to the task before is looked up.
-/

namespace CopilotFactory
namespace Automation

open Foundations
open Infrastructure
open Reviewing

/-!
## The schema
-/

def AgentRole.label : AgentRole -> String
  | .planner => "planner"
  | .developer => "developer"
  | .reviewer => "reviewer"
  | .leadReviewer => "lead-reviewer"
  | .mergeAssist => "merge-assist"
  | .postMergeAnalysis => "post-merge-analysis"

def agentRoleSchema : Schema :=
  Schema.oneOf
    ["planner", "developer", "reviewer", "lead-reviewer", "merge-assist",
      "post-merge-analysis"]

def riskLevelSchema : Schema :=
  Schema.oneOf ["high", "medium", "low"]

def taskPacketTaskSchema : Schema :=
  Schema.object
    [("title", Schema.nonEmptyString),
      ("description", Schema.nonEmptyString),
      ("task_type", Schema.nonEmptyString),
      ("priority", Schema.nonEmptyString),
      ("severity", Schema.nonEmptyString),
      ("acceptance_criteria", Schema.array Schema.nonEmptyString),
      ("definition_of_done", Schema.array Schema.nonEmptyString),
      ("risk_level", riskLevelSchema),
      ("suggested_file_scope", Schema.array Schema.nonEmptyString),
      ("branch_name", Schema.nonEmptyString)]

def taskPacketRepositorySchema : Schema :=
  Schema.object
    [("name", Schema.nonEmptyString),
      ("default_branch", Schema.nonEmptyString)]

def taskPacketWorkspaceSchema : Schema :=
  Schema.object
    [("worktree_path", Schema.nonEmptyString),
      ("artifact_root", Schema.nonEmptyString)]

def taskPacketContextSchema : Schema :=
  Schema.object
    [("related_tasks", Schema.array (Schema.string fun _ => true)),
      ("dependencies", Schema.array (Schema.string fun _ => true)),
      ("rejection_context", Schema.nullable rejectionContextSchema),
      ("code_map_refs", Schema.array (Schema.string fun _ => true)),
      ("prior_partial_work", fun _ => true)]

def taskPacketRepoPolicySchema : Schema :=
  Schema.object [("policy_set_id", Schema.nonEmptyString)]

def taskPacketToolPolicySchema : Schema :=
  Schema.object
    [("command_policy_id", Schema.nonEmptyString),
      ("file_scope_policy_id", Schema.nonEmptyString)]

def taskPacketValidationRequirementsSchema : Schema :=
  Schema.object [("profile", Schema.nonEmptyString)]

def taskPacketExpectedOutputSchema : Schema :=
  Schema.object
    [("packet_type", Schema.nonEmptyString),
      ("schema_version", Schema.nonEmptyString)]

def taskPacketSchema (isDatetime : String -> Bool) : Schema :=
  Schema.object
    [("packet_type", Schema.literal "task_packet"),
      ("schema_version", Schema.literal "1.0"),
      ("created_at", Schema.string isDatetime),
      ("task_id", Schema.nonEmptyString),
      ("repository_id", Schema.nonEmptyString),
      ("role", agentRoleSchema),
      ("time_budget_seconds", Schema.positiveInteger),
      ("expires_at", Schema.string isDatetime),
      ("task", taskPacketTaskSchema),
      ("repository", taskPacketRepositorySchema),
      ("workspace", taskPacketWorkspaceSchema),
      ("context", taskPacketContextSchema),
      ("repo_policy", taskPacketRepoPolicySchema),
      ("tool_policy", taskPacketToolPolicySchema),
      ("validation_requirements", taskPacketValidationRequirementsSchema),
      ("stop_conditions", Schema.nonEmptyArray Schema.nonEmptyString),
      ("expected_output", taskPacketExpectedOutputSchema)]

/-!
## The schema of a policy snapshot
-/

def anyText : Schema :=
  Schema.string fun _ => true

def allowedCommandSchema : Schema :=
  Schema.object
    [("command", Schema.nonEmptyString),
      ("allowed_args_prefixes", Schema.array anyText)]

def commandPolicySchema : Schema :=
  Schema.object
    [("mode", Schema.nonEmptyString),
      ("allowed_commands", Schema.array allowedCommandSchema),
      ("denied_patterns", Schema.array anyText),
      ("allow_shell_compound_commands", Schema.boolean),
      ("allow_subshells", Schema.boolean),
      ("allow_env_expansion", Schema.boolean),
      ("forbidden_arg_patterns", Schema.array anyText)]

def fileScopePolicySchema : Schema :=
  Schema.object
    [("read_roots", Schema.array anyText),
      ("write_roots", Schema.array anyText),
      ("deny_roots", Schema.array anyText),
      ("allow_read_outside_scope", Schema.boolean),
      ("allow_write_outside_scope", Schema.boolean),
      ("on_violation", Schema.nonEmptyString)]

def validationProfileSchema : Schema :=
  Schema.object
    [("required_checks", Schema.array anyText),
      ("optional_checks", Schema.array anyText),
      ("commands", Schema.record anyText),
      ("fail_on_skipped_required_check", Schema.boolean)]

def validationPolicySchema : Schema :=
  Schema.object [("profiles", Schema.record validationProfileSchema)]

def retryPolicySchema : Schema :=
  Schema.object
    [("max_attempts", Schema.nonNegativeInteger),
      ("backoff_strategy", Schema.nonEmptyString),
      ("initial_backoff_seconds", Schema.positiveInteger),
      ("max_backoff_seconds", Schema.positiveInteger),
      ("reuse_same_pool", Schema.boolean),
      ("allow_pool_change_after_failure", Schema.boolean),
      ("require_failure_summary_packet", Schema.boolean)]

def escalationPolicySchema : Schema :=
  Schema.object
    [("triggers", Schema.record anyText),
      ("route_to", Schema.nonEmptyString),
      ("require_summary", Schema.boolean)]

def leasePolicySchema : Schema :=
  Schema.object
    [("lease_ttl_seconds", Schema.positiveInteger),
      ("heartbeat_interval_seconds", Schema.positiveInteger),
      ("missed_heartbeat_threshold", Schema.positiveInteger),
      ("grace_period_seconds", Schema.nonNegativeInteger),
      ("reclaim_action", Schema.nonEmptyString)]

def retentionPolicySchema : Schema :=
  Schema.object
    [("workspace_retention_hours", Schema.nonNegativeInteger),
      ("artifact_retention_days", Schema.nonNegativeInteger),
      ("retain_failed_workspaces", Schema.boolean),
      ("retain_escalated_workspaces", Schema.boolean)]

def reviewPolicySchema : Schema :=
  Schema.object
    [("max_review_rounds", Schema.positiveInteger),
      ("required_reviewer_types", Schema.array Schema.nonEmptyString),
      ("optional_reviewer_types", Schema.array anyText),
      ("lead_reviewer_required", Schema.boolean)]

def policySnapshotSchema : Schema :=
  Schema.object
    [("policy_snapshot_version", Schema.literal "1.0"),
      ("policy_set_id", Schema.nonEmptyString),
      ("command_policy", Schema.optional commandPolicySchema),
      ("file_scope_policy", Schema.optional fileScopePolicySchema),
      ("validation_policy", Schema.optional validationPolicySchema),
      ("retry_policy", Schema.optional retryPolicySchema),
      ("escalation_policy", Schema.optional escalationPolicySchema),
      ("lease_policy", Schema.optional leasePolicySchema),
      ("retention_policy", Schema.optional retentionPolicySchema),
      ("review_policy", Schema.optional reviewPolicySchema)]

theorem version_of_policySnapshot {snapshot : Json}
    (h : policySnapshotSchema (some snapshot) = true) :
    snapshot.field? "policy_snapshot_version" = some (.string "1.0") :=
  Schema.literal_eq_true.mp (Schema.field_of_object h List.mem_cons_self)

/-!
## Building a packet
-/

/-- The columns of a task that nothing but its packet reads. -/
structure TaskColumns where
  title : String
  description : Option String := none
  severity : Option String := none
  acceptanceCriteria : Json := .null
  definitionOfDone : Json := .null
  suggestedFileScope : Json := .null
  branchName : Option String := none

structure RepositoryColumns where
  name : String
  defaultBranch : String

structure SupervisorWorkspacePaths where
  worktreePath : String
  artifactRoot : String
  packetInputPath : String
  policySnapshotPath : String
deriving DecidableEq

structure BuildTaskPacketParams where
  task : Task
  columns : TaskColumns
  repository : RepositoryColumns
  workspacePaths : SupervisorWorkspacePaths
  timeBudgetSeconds : Nat
  expiresAt : String
  outputSchemaExpectation : OutputSchemaExpectation
  /-- The clock when the packet is built. -/
  now : Millis

def defaultTimeBudgetSeconds : Nat :=
  3600

def defaultStopConditions : List String :=
  [ "Stop when the task is complete and all acceptance criteria are met.",
    "Stop if you encounter an unrecoverable error.",
    "Stop when the time budget is exhausted." ]

/-- The texts of an array; any other value counts as an empty one. -/
def toStringArray (value : Json) : List String :=
  (Json.itemsOf (some value)).filterMap Json.asString?

def packetBranchName (task : Task) (columns : TaskColumns) : String :=
  columns.branchName.getD s!"task/{task.taskId}"

def stringArray (values : List String) : Json :=
  .array (values.map Json.string)

def packetTask (task : Task) (columns : TaskColumns) : Json :=
  .object
    [("title", .string columns.title),
      ("description", .string (columns.description.getD "(no description)")),
      ("task_type", .string task.taskType),
      ("priority", .string task.priority),
      ("severity", .string (columns.severity.getD "medium")),
      ("acceptance_criteria", stringArray (toStringArray columns.acceptanceCriteria)),
      ("definition_of_done", stringArray (toStringArray columns.definitionOfDone)),
      ("risk_level", .string "medium"),
      ("suggested_file_scope", stringArray (toStringArray columns.suggestedFileScope)),
      ("branch_name", .string (packetBranchName task columns))]

/-- The section about other tasks and earlier attempts: it is the same for all packets. -/
def packetContext : Json :=
  .object
    [("related_tasks", .array []),
      ("dependencies", .array []),
      ("rejection_context", .null),
      ("code_map_refs", .array []),
      ("prior_partial_work", .null)]

def buildTaskPacket (params : BuildTaskPacketParams) : Json :=
  .object
    [("packet_type", .string "task_packet"),
      ("schema_version", .string "1.0"),
      ("created_at", .string (toISOString params.now)),
      ("task_id", .string params.task.taskId),
      ("repository_id", .string params.task.repositoryId),
      ("role", .string (mapTaskTypeToRole params.task.taskType).label),
      ("time_budget_seconds", .number params.timeBudgetSeconds),
      ("expires_at", .string params.expiresAt),
      ("task", packetTask params.task params.columns),
      ("repository", .object
        [("name", .string params.repository.name),
          ("default_branch", .string params.repository.defaultBranch)]),
      ("workspace", .object
        [("worktree_path", .string params.workspacePaths.worktreePath),
          ("artifact_root", .string params.workspacePaths.artifactRoot)]),
      ("context", packetContext),
      ("repo_policy", .object [("policy_set_id", .string "default")]),
      ("tool_policy", .object
        [("command_policy_id", .string "default"),
          ("file_scope_policy_id", .string "default")]),
      ("validation_requirements", .object [("profile", .string "default")]),
      ("stop_conditions", stringArray defaultStopConditions),
      ("expected_output", .object
        [("packet_type", .string params.outputSchemaExpectation.packetType),
          ("schema_version", .string params.outputSchemaExpectation.schemaVersion)])]

/-!
## What a built packet says
-/

def valueAt (packet : Json) (path : List String) : Option Json :=
  path.foldl (fun value key => value.bind (Json.field? key)) (some packet)

theorem packet_branch_name (params : BuildTaskPacketParams) :
    valueAt (buildTaskPacket params) ["task", "branch_name"] =
      some (.string (packetBranchName params.task params.columns)) := by
  simp [valueAt, buildTaskPacket, packetTask, Json.field?, List.lookup_cons]

theorem packet_dependencies (params : BuildTaskPacketParams) :
    valueAt (buildTaskPacket params) ["context", "dependencies"] = some (.array []) := by
  simp [valueAt, buildTaskPacket, packetContext, Json.field?, List.lookup_cons]

theorem packet_rejection_context (params : BuildTaskPacketParams) :
    valueAt (buildTaskPacket params) ["context", "rejection_context"] = some .null := by
  simp [valueAt, buildTaskPacket, packetContext, Json.field?, List.lookup_cons]

theorem packet_profile (params : BuildTaskPacketParams) :
    valueAt (buildTaskPacket params) ["validation_requirements", "profile"] =
      some (.string "default") := by
  simp [valueAt, buildTaskPacket, Json.field?, List.lookup_cons]

structure TaskColumns.Complete (columns : TaskColumns) : Prop where
  title : columns.title ≠ ""
  description : columns.description ≠ some ""
  severity : columns.severity ≠ some ""
  acceptanceCriteria : "" ∉ toStringArray columns.acceptanceCriteria
  definitionOfDone : "" ∉ toStringArray columns.definitionOfDone
  suggestedFileScope : "" ∉ toStringArray columns.suggestedFileScope
  branchName : columns.branchName ≠ some ""

structure TaskComplete (task : Task) (columns : TaskColumns) : Prop where
  taskType : task.taskType ≠ ""
  priority : task.priority ≠ ""
  columns : columns.Complete

theorem getD_ne_empty_iff {value : Option String} {default : String} (h : default ≠ "") :
    value.getD default ≠ "" <-> value ≠ some "" := by
  cases value with
  | none =>
      simp [h]
  | some text =>
      simp

theorem taskPacketTaskSchema_iff (task : Task) (columns : TaskColumns) :
    taskPacketTaskSchema (some (packetTask task columns)) = true <->
      TaskComplete task columns := by
  have hbranch : s!"task/{task.taskId}" ≠ "" := by
    intro h
    have hhead : toString "task/" ≠ "" := by
      decide
    exact hhead (String.append_eq_empty_iff.mp h).1
  simp only [taskPacketTaskSchema, packetTask, Schema.object, List.all_cons, List.all_nil,
    List.lookup_cons, Bool.and_true, Bool.and_eq_true, beq_self_eq_true, String.reduceBEq,
    stringArray, Schema.array_strings, Schema.nonEmptyString_string, decide_eq_true_eq,
    packetBranchName, getD_ne_empty_iff hbranch,
    getD_ne_empty_iff (show "(no description)" ≠ "" by decide),
    getD_ne_empty_iff (show "medium" ≠ "" by decide), riskLevelSchema, Schema.oneOf,
    Schema.string]
  constructor
  · intro h
    rcases h with ⟨htitle, hdescription, htype, hpriority, hseverity, hcriteria, hdone, _,
      hscope, hname⟩
    exact ⟨htype, hpriority,
      ⟨htitle, hdescription, hseverity, hcriteria, hdone, hscope, hname⟩⟩
  · intro h
    exact ⟨h.columns.title, h.columns.description, h.taskType, h.priority,
      h.columns.severity, h.columns.acceptanceCriteria, h.columns.definitionOfDone, by decide,
      h.columns.suggestedFileScope, h.columns.branchName⟩

/-- What the schema asks of everything that a packet is built from. -/
structure PacketComplete (isDatetime : String -> Bool) (params : BuildTaskPacketParams) :
    Prop where
  createdAt : isDatetime (toISOString params.now) = true
  expiresAt : isDatetime params.expiresAt = true
  taskId : params.task.taskId ≠ ""
  repositoryId : params.task.repositoryId ≠ ""
  timeBudget : 0 < params.timeBudgetSeconds
  task : TaskComplete params.task params.columns
  repositoryName : params.repository.name ≠ ""
  defaultBranch : params.repository.defaultBranch ≠ ""
  worktreePath : params.workspacePaths.worktreePath ≠ ""
  artifactRoot : params.workspacePaths.artifactRoot ≠ ""
  packetType : params.outputSchemaExpectation.packetType ≠ ""
  schemaVersion : params.outputSchemaExpectation.schemaVersion ≠ ""

theorem taskPacketContextSchema_packetContext :
    taskPacketContextSchema (some packetContext) = true := by
  decide +kernel

theorem stopConditions_accepted :
    Schema.nonEmptyArray Schema.nonEmptyString (some (stringArray defaultStopConditions)) =
      true := by
  decide +kernel

theorem positiveInteger_natCast (n : Nat) :
    Schema.positiveInteger (some (.number n)) = decide (0 < n) := by
  simp [Schema.positiveInteger]

theorem taskPacketSchema_iff (isDatetime : String -> Bool) (params : BuildTaskPacketParams) :
    taskPacketSchema isDatetime (some (buildTaskPacket params)) = true <->
      PacketComplete isDatetime params := by
  simp only [taskPacketSchema, buildTaskPacket, Schema.object, List.all_cons, List.all_nil,
    List.lookup_cons, Bool.and_true, Bool.and_eq_true, beq_self_eq_true, String.reduceBEq,
    taskPacketContextSchema_packetContext, taskPacketTaskSchema_iff, stopConditions_accepted,
    positiveInteger_natCast, Schema.nonEmptyString_string, decide_eq_true_eq, Schema.string,
    taskPacketRepositorySchema, taskPacketWorkspaceSchema, taskPacketExpectedOutputSchema]
  constructor
  · intro h
    rcases h with ⟨_, _, hcreated, htask, hrepository, _, hbudget, hexpires, hcomplete,
      ⟨hname, hbranch⟩, ⟨hworktree, hartifacts⟩, _, _, _, _, _, htype, hversion⟩
    exact
      { createdAt := hcreated
        expiresAt := hexpires
        taskId := htask
        repositoryId := hrepository
        timeBudget := hbudget
        task := hcomplete
        repositoryName := hname
        defaultBranch := hbranch
        worktreePath := hworktree
        artifactRoot := hartifacts
        packetType := htype
        schemaVersion := hversion }
  · intro h
    exact ⟨by decide, by decide, h.createdAt, h.taskId, h.repositoryId, rfl,
      h.timeBudget, h.expiresAt, h.task, ⟨h.repositoryName, h.defaultBranch⟩,
      ⟨h.worktreePath, h.artifactRoot⟩, trivial, by decide, by decide, by decide, trivial,
      h.packetType, h.schemaVersion⟩

end Automation
end CopilotFactory
