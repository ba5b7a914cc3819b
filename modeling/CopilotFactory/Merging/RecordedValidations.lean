import CopilotFactory.Merging.MergeRuns

/-!
# Recorded validations

The outcomes of a validation run are recorded twice: the emitter makes a packet of its own
of them, and the merge executor puts them into the packet of the merge.
-/

namespace CopilotFactory
namespace Merging

open Foundations
open Infrastructure
open Application

/-!
## The validation packet emitter
-/

variable {outcome : CheckOutcome}

inductive ValidationRunScope where
  | preDev
  | duringDev
  | preReview
  | preMerge
  | postMerge
deriving DecidableEq

structure ValidationResultPacket where
  packetType : String
  schemaVersion : String
  createdAt : Millis
  taskId : TaskId
  repositoryId : String
  validationRunId : String
  status : String
  summary : String
  runScope : ValidationRunScope
  checks : List ValidationCheckResult
deriving DecidableEq

structure EmitValidationPacketParams where
  taskId : TaskId
  repositoryId : String
  validationRunId : String
  runScope : ValidationRunScope
  validationRunResult : ValidationRun

inductive EmitError where
  | typeError (message : String)
  | packetSchema
deriving DecidableEq

def resolveCheckType (checkName : String) : ValidationCheckType :=
  (checkNameToType.lookup checkName).getD .policy

def extractToolName (command : String) : String :=
  if trim command.toList = [] then "unknown"
  else String.ofList ((trim command.toList).takeWhile (fun c => c ≠ ' '))

def buildCheckSummary (outcome : CheckOutcome) : String :=
  let reason := outcome.errorMessage.getD ""
  match outcome.status with
  | .passed => s!"{outcome.checkName}: passed"
  | .error =>
      if reason = "" then s!"{outcome.checkName}: error (infrastructure failure)"
      else s!"{outcome.checkName}: error — {reason}"
  | status =>
      if reason = "" then s!"{outcome.checkName}: {status.label}"
      else s!"{outcome.checkName}: {status.label} — {reason}"

def resultOf (outcome : CheckOutcome) (command : String) : ValidationCheckResult where
  checkType := some (resolveCheckType outcome.checkName)
  toolName := extractToolName command
  command := if command = "" then s!"(no command for {outcome.checkName})" else command
  status := mapStatusToSchemaStatus outcome.status
  durationMs := outcome.durationMs
  summary := buildCheckSummary outcome

def mapCheckOutcomeToResult (outcome : CheckOutcome) : Except EmitError ValidationCheckResult :=
  match outcome.command with
  | .text command => .ok (resultOf outcome command)
  | .inherited => .error (.typeError "command.trim is not a function")

def validationResultPacketSchema (packet : ValidationResultPacket) : Bool :=
  packet.packetType = "validation_result_packet" && packet.schemaVersion = "1.0" &&
    isDatetime packet.createdAt && packet.taskId ≠ "" && packet.repositoryId ≠ "" &&
    packet.validationRunId ≠ "" && packet.status ∈ packetStatuses && packet.summary ≠ "" &&
    packet.checks.all validationCheckResultSchema

def emittedPacket (createdAt : Millis) (params : EmitValidationPacketParams)
    (checks : List ValidationCheckResult) : ValidationResultPacket where
  packetType := "validation_result_packet"
  schemaVersion := "1.0"
  createdAt := createdAt
  taskId := params.taskId
  repositoryId := params.repositoryId
  validationRunId := params.validationRunId
  status := if params.validationRunResult.overallStatus = .passed then "success" else "failed"
  summary := params.validationRunResult.summary
  runScope := params.runScope
  checks := checks

def emitPacket (createdAt : Millis) (params : EmitValidationPacketParams) :
    Except EmitError ValidationResultPacket := do
  let checks ← params.validationRunResult.checkOutcomes.mapM mapCheckOutcomeToResult
  let packet := emittedPacket createdAt params checks
  if validationResultPacketSchema packet then
    pure packet
  else
    .error .packetSchema

/-!
## What the merge executor reads
-/

def recordedOutcome (outcome : CheckOutcome) (command : String) : ValidationCheckOutcome where
  checkName := outcome.checkName
  command := command
  status := outcome.status
  durationMs := outcome.durationMs
  output := outcome.output

/-- A command that is no text has no place in a merge packet. -/
def readOutcome (outcome : CheckOutcome) : Except EmitError ValidationCheckOutcome :=
  match outcome.command with
  | .text command => .ok (recordedOutcome outcome command)
  | .inherited => .error .packetSchema

def readRun (run : ValidationRun) : Except EmitError ValidationRunResult := do
  let checkOutcomes ← run.checkOutcomes.mapM readOutcome
  pure
    { profileName := run.profileName
      overallStatus := run.overallStatus
      checkOutcomes := checkOutcomes
      summary := run.summary }

def recordOf (result : ValidationCheckResult) :
    Option ValidationCheckType × String × String × ValidationCheckStatus × Millis :=
  (result.checkType, result.toolName, result.command, result.status, result.durationMs)

variable {γ : Type}

/-- A merge of an item with an approved commit, which has got as far as its packet. -/
structure RecordedMerge (γ : Type) where
  ports : MergeExecutorPorts γ
  params : ExecuteMergeParams
  approvedCommitSha : String
  sourceBranch : String
  task : Task
  mergedCommitSha : String

def RecordedMerge.packet (merge : RecordedMerge γ) (result : ValidationRunResult) : MergePacket :=
  mergePacketData merge.ports merge.params (some merge.approvedCommitSha) merge.sourceBranch
    result merge.task merge.mergedCommitSha

structure RecordedAlike (createdAt : Millis) (emission : EmitValidationPacketParams)
    (merge : RecordedMerge γ) (packet : ValidationResultPacket)
    (result : ValidationRunResult) : Prop where
  emitted : emitPacket createdAt emission = .ok packet
  status : packet.status = "success" <-> emission.validationRunResult.overallStatus = .passed
  read : readRun emission.validationRunResult = .ok result
  merged : mergePacketSchema (merge.packet result) = true
  oneEach : packet.checks.length = emission.validationRunResult.checkOutcomes.length
  alike : packet.checks.map recordOf =
    (merge.packet result).details.validationResults.map recordOf

structure NonEmptyIds (emission : EmitValidationPacketParams) (merge : RecordedMerge γ) :
    Prop where
  taskId : emission.taskId ≠ ""
  repositoryId : emission.repositoryId ≠ ""
  validationRunId : emission.validationRunId ≠ ""
  mergedTask : merge.task.taskId ≠ ""
  mergedRepository : merge.task.repositoryId ≠ ""
  mergeQueueItemId : merge.params.mergeQueueItemId ≠ ""
  approvedCommitSha : merge.approvedCommitSha ≠ ""

/-- The check has a type of its own name and is run by a tool of that name. -/
structure Recordable (outcome : CheckOutcome) (command : String) : Prop where
  text : outcome.command = .text command
  hasCommand : command ≠ ""
  known : (checkNameToType.lookup outcome.checkName).isSome = true
  tool : extractToolName command = outcome.checkName
  duration : 0 ≤ outcome.durationMs
  output : outcome.output ≠ some ""

/-- The clocks show years of four digits, and git has names for what was merged. -/
structure MergeNamed (createdAt : Millis) (merge : RecordedMerge γ) : Prop where
  createdAt : isDatetime createdAt = true
  mergedAt : isDatetime merge.ports.createdAt = true
  sourceBranch : merge.sourceBranch ≠ ""
  targetBranch : merge.params.targetBranch ≠ ""
  mergedCommitSha : merge.mergedCommitSha ≠ ""

/-!
## Single checks
-/

theorem buildCheckSummary_ne_empty (outcome : CheckOutcome) : buildCheckSummary outcome ≠ "" := by
  unfold buildCheckSummary
  dsimp only
  repeat' split
  all_goals simp [String.append_eq_empty_iff, toString]

theorem extractToolName_ne_empty (command : String) : extractToolName command ≠ "" := by
  unfold extractToolName
  by_cases hempty : trim command.toList = []
  · rw [if_pos hempty]
    decide
  · rw [if_neg hempty]
    rcases List.exists_cons_of_ne_nil hempty with ⟨c, rest, htrim⟩
    have hbegins : trim command.toList <+: command.toList.dropWhile isSpace := by
      have hsuffix := List.dropWhile_suffix (l := (command.toList.dropWhile isSpace).reverse)
        isSpace
      have hreversed := List.reverse_prefix.mpr hsuffix
      rw [List.reverse_reverse] at hreversed
      exact hreversed
    have hhead : (command.toList.dropWhile isSpace).head? = some c := by
      rcases hbegins with ⟨after, hafter⟩
      rw [<- hafter, htrim]
      rfl
    have hspace := List.head?_dropWhile_not isSpace command.toList
    rw [hhead] at hspace
    have hc : c ≠ ' ' := by
      intro heq
      rw [heq] at hspace
      exact absurd hspace (by decide)
    rw [htrim, List.takeWhile_cons_of_pos (by simpa using hc)]
    intro hnil
    exact List.cons_ne_nil _ _ (String.ofList_injective hnil)

theorem schema_resultOf (outcome : CheckOutcome) (command : String) :
    validationCheckResultSchema (resultOf outcome command) = true <->
      0 ≤ outcome.durationMs := by
  have hcommand : (resultOf outcome command).command ≠ "" := by
    unfold resultOf
    dsimp only
    split
    · simp [String.append_eq_empty_iff, toString]
    · assumption
  have hsummary : (resultOf outcome command).summary ≠ "" :=
    buildCheckSummary_ne_empty outcome
  have htool : (resultOf outcome command).toolName ≠ "" := extractToolName_ne_empty command
  have htype : (resultOf outcome command).checkType.isSome = true := rfl
  simp [validationCheckResultSchema, hcommand, hsummary, htool, htype]
  rfl

theorem known_ne_empty {checkName : String}
    (h : (checkNameToType.lookup checkName).isSome = true) : checkName ≠ "" := by
  intro hempty
  rw [hempty] at h
  exact absurd h (by decide)

theorem schema_recordedOutcome (command : String)
    (hknown : (checkNameToType.lookup outcome.checkName).isSome = true) :
    validationCheckResultSchema
        (mapCheckOutcomeToSchemaResult (recordedOutcome outcome command)) = true <->
      command ≠ "" ∧ 0 ≤ outcome.durationMs ∧ outcome.output ≠ some "" := by
  have hname := known_ne_empty hknown
  rcases Option.isSome_iff_exists.mp hknown with ⟨checkType, htype⟩
  have hsummary : outcome.output.getD s!"{outcome.checkName}: {outcome.status.label}" ≠ "" <->
      outcome.output ≠ some "" := by
    cases outcome.output with
    | none =>
        simp [String.append_eq_empty_iff, toString]
    | some text =>
        simp
  unfold validationCheckResultSchema mapCheckOutcomeToSchemaResult recordedOutcome checkTypeOf
  simp only [htype, Bool.and_eq_true, decide_eq_true_eq, hsummary]
  simp [hname, and_assoc]

theorem alike_iff (outcome : CheckOutcome) (command : String) :
    recordOf (resultOf outcome command) =
        recordOf (mapCheckOutcomeToSchemaResult (recordedOutcome outcome command)) <->
      (checkNameToType.lookup outcome.checkName).isSome = true ∧
        extractToolName command = outcome.checkName ∧ command ≠ "" := by
  have htype : some (resolveCheckType outcome.checkName) = checkTypeOf outcome.checkName <->
      (checkNameToType.lookup outcome.checkName).isSome = true := by
    unfold resolveCheckType checkTypeOf
    cases checkNameToType.lookup outcome.checkName with
    | some checkType =>
        exact iff_of_true rfl rfl
    | none =>
        dsimp only
        split <;> simp
  have hcommand : (if command = "" then s!"(no command for {outcome.checkName})" else command) =
      command <-> command ≠ "" := by
    split
    · rename_i hempty
      rw [hempty]
      simp [String.append_eq_empty_iff, toString]
    · rename_i hne
      exact iff_of_true rfl hne
  unfold recordOf resultOf mapCheckOutcomeToSchemaResult recordedOutcome
  simp only [Prod.mk.injEq, htype, hcommand, and_true]

/-!
## Runs
-/

theorem buildSummary_ne_empty (params : RunValidationParams) (overallStatus : OverallStatus)
    (requiredPassed requiredFailed skippedRequired optionalPassed optionalFailed skipped : Nat) :
    buildSummary params overallStatus requiredPassed requiredFailed skippedRequired
      optionalPassed optionalFailed skipped ≠ "" := by
  unfold buildSummary
  dsimp only
  rw [List.cons_append, List.cons_append, String.intercalate_cons_of_ne_nil (by simp)]
  simp [String.append_eq_empty_iff, toString]

theorem summary_validationReport (params : RunValidationParams)
    (profile : Policies.ValidationProfile) (outcomes : List CheckOutcome)
    (totalDurationMs : Millis) :
    (validationReport params profile outcomes totalDurationMs).summary ≠ "" := by
  dsimp only [validationReport]
  exact buildSummary_ne_empty _ _ _ _ _ _ _ _

theorem summary_ne_empty {σ : Type} {executor : CheckExecutorPort σ} {now : σ -> Millis}
    {params : RunValidationParams} {s s' : σ} {run : ValidationRun}
    (h : runValidation executor now params s = .ok (run, s')) : run.summary ≠ "" := by
  unfold runValidation at h
  split at h
  · cases h
  · cases h
  · cases h
    exact summary_validationReport _ _ _ _

section

variable {createdAt : Millis} {emission : EmitValidationPacketParams} {merge : RecordedMerge γ}

def commandText (outcome : CheckOutcome) : String :=
  match outcome.command with
  | .text command => command
  | .inherited => ""

theorem schema_emitted (hids : NonEmptyIds emission merge)
    (hsummary : emission.validationRunResult.summary ≠ "")
    (checks : List ValidationCheckResult) :
    validationResultPacketSchema (emittedPacket createdAt emission checks) = true <->
      isDatetime createdAt = true ∧
        forall check, check ∈ checks -> validationCheckResultSchema check = true := by
  have hstatus : (emittedPacket createdAt emission checks).status ∈ packetStatuses := by
    unfold emittedPacket
    dsimp only
    split <;> decide
  unfold validationResultPacketSchema
  simp only [hstatus]
  simp [emittedPacket, hids.taskId, hids.repositoryId, hids.validationRunId, hsummary]

theorem schema_merged (hids : NonEmptyIds emission merge) (result : ValidationRunResult) :
    mergePacketSchema (merge.packet result) = true <->
      isDatetime merge.ports.createdAt = true ∧ merge.sourceBranch ≠ "" ∧
        merge.params.targetBranch ≠ "" ∧ merge.mergedCommitSha ≠ "" ∧
        forall outcome, outcome ∈ result.checkOutcomes ->
          validationCheckResultSchema (mapCheckOutcomeToSchemaResult outcome) = true := by
  have hdetails : mergePacketDetailsSchema (merge.packet result).details = true <->
      (merge.packet result).details.sourceBranch ≠ "" ∧
        (merge.packet result).details.targetBranch ≠ "" ∧
        (merge.packet result).details.approvedCommitSha ≠ "" ∧
        (merge.packet result).details.mergedCommitSha ≠ "" ∧
        (merge.packet result).details.validationResults.all validationCheckResultSchema =
          true := by
    simp [mergePacketDetailsSchema, and_assoc]
  have hpacket : mergePacketSchema (merge.packet result) = true <->
      isDatetime (merge.packet result).createdAt = true ∧
        mergePacketDetailsSchema (merge.packet result).details = true := by
    simp [mergePacketSchema, RecordedMerge.packet, mergePacketData, packetStatuses,
      String.append_eq_empty_iff, toString, hids.mergedTask, hids.mergedRepository,
      hids.mergeQueueItemId]
  rw [hpacket, hdetails]
  simp [RecordedMerge.packet, mergePacketData, hids.approvedCommitSha]

theorem read_of_texts {run : ValidationRun}
    (h : forall outcome, outcome ∈ run.checkOutcomes ->
      outcome.command = .text (commandText outcome)) :
    run.checkOutcomes.mapM mapCheckOutcomeToResult =
        .ok (run.checkOutcomes.map fun outcome => resultOf outcome (commandText outcome)) ∧
      run.checkOutcomes.mapM readOutcome = .ok
        (run.checkOutcomes.map fun outcome => recordedOutcome outcome (commandText outcome)) := by
  constructor
  · apply mapM_eq_ok_map
    intro outcome hmem
    unfold mapCheckOutcomeToResult
    rw [h outcome hmem]
  · apply mapM_eq_ok_map
    intro outcome hmem
    unfold readOutcome
    rw [h outcome hmem]

theorem texts_of_read {run : ValidationRun} {result : ValidationRunResult}
    (h : readRun run = .ok result) (hmem : outcome ∈ run.checkOutcomes) :
    outcome.command = .text (commandText outcome) := by
  rcases bind_eq_ok.mp h with ⟨outcomes, houtcomes, _⟩
  rcases exists_mapM_eq_ok.mp ⟨outcomes, houtcomes⟩ outcome hmem with ⟨_, hread⟩
  unfold readOutcome at hread
  unfold commandText
  split at hread
  · rename_i command hcommand
    rw [hcommand]
  · cases hread

theorem recordable_iff {command : String} (htext : outcome.command = .text command) :
    Recordable outcome command <->
      recordOf (resultOf outcome command) =
          recordOf (mapCheckOutcomeToSchemaResult (recordedOutcome outcome command)) ∧
        validationCheckResultSchema
          (mapCheckOutcomeToSchemaResult (recordedOutcome outcome command)) = true := by
  rw [alike_iff]
  constructor
  · intro h
    exact ⟨⟨h.known, h.tool, h.hasCommand⟩,
      (schema_recordedOutcome command h.known).mpr ⟨h.hasCommand, h.duration, h.output⟩⟩
  · rintro ⟨⟨hknown, htool, hcommand⟩, hschema⟩
    rcases (schema_recordedOutcome command hknown).mp hschema with ⟨_, hduration, houtput⟩
    exact ⟨htext, hcommand, hknown, htool, hduration, houtput⟩

def emittedTexts (createdAt : Millis) (emission : EmitValidationPacketParams) :
    ValidationResultPacket :=
  emittedPacket createdAt emission
    (emission.validationRunResult.checkOutcomes.map fun outcome =>
      resultOf outcome (commandText outcome))

def readTexts (emission : EmitValidationPacketParams) : ValidationRunResult where
  profileName := emission.validationRunResult.profileName
  overallStatus := emission.validationRunResult.overallStatus
  checkOutcomes := emission.validationRunResult.checkOutcomes.map fun outcome =>
    recordedOutcome outcome (commandText outcome)
  summary := emission.validationRunResult.summary

theorem recorded_of_texts (hids : NonEmptyIds emission merge)
    (hsummary : emission.validationRunResult.summary ≠ "")
    (htexts : forall outcome, outcome ∈ emission.validationRunResult.checkOutcomes ->
      outcome.command = .text (commandText outcome)) :
    (exists packet result, RecordedAlike createdAt emission merge packet result) <->
      MergeNamed createdAt merge ∧
        forall outcome, outcome ∈ emission.validationRunResult.checkOutcomes ->
          Recordable outcome (commandText outcome) := by
  rcases read_of_texts htexts with ⟨hchecks, houtcomes⟩
  have hread : readRun emission.validationRunResult = .ok (readTexts emission) := by
    unfold readRun
    rw [houtcomes]
    rfl
  have hemit : emitPacket createdAt emission =
      if validationResultPacketSchema (emittedTexts createdAt emission) = true then
        .ok (emittedTexts createdAt emission) else .error .packetSchema := by
    unfold emitPacket
    rw [hchecks]
    rfl
  have halike : (emittedTexts createdAt emission).checks.map recordOf =
      (merge.packet (readTexts emission)).details.validationResults.map recordOf <->
        forall outcome, outcome ∈ emission.validationRunResult.checkOutcomes ->
          recordOf (resultOf outcome (commandText outcome)) = recordOf
            (mapCheckOutcomeToSchemaResult (recordedOutcome outcome (commandText outcome))) := by
    simp [emittedTexts, emittedPacket, RecordedMerge.packet, mergePacketData, readTexts]
  constructor
  · rintro ⟨packet, result, h⟩
    have hemitted := h.emitted
    rw [hemit] at hemitted
    cases hread.symm.trans h.read
    split at hemitted
    · rename_i hschema
      cases hemitted
      rcases (schema_merged hids _).mp h.merged with ⟨hmergedAt, hsource, htarget, hsha, hmerged⟩
      refine ⟨⟨((schema_emitted hids hsummary _).mp hschema).1, hmergedAt, hsource, htarget,
        hsha⟩, ?_⟩
      intro outcome hmem
      exact (recordable_iff (htexts outcome hmem)).mpr
        ⟨halike.mp h.alike outcome hmem, hmerged _ (List.mem_map_of_mem hmem)⟩
    · cases hemitted
  · rintro ⟨hnamed, hrecordable⟩
    have hschema : validationResultPacketSchema (emittedTexts createdAt emission) = true := by
      refine (schema_emitted hids hsummary _).mpr ⟨hnamed.createdAt, ?_⟩
      intro check hcheck
      rcases List.mem_map.mp hcheck with ⟨outcome, hmem, rfl⟩
      exact (schema_resultOf outcome _).mpr (hrecordable outcome hmem).duration
    rw [if_pos hschema] at hemit
    refine ⟨_, _, hemit, ?_, hread, ?_, ?_, ?_⟩
    · unfold emittedTexts emittedPacket
      split <;> simp_all
    · refine (schema_merged hids _).mpr ⟨hnamed.mergedAt, hnamed.sourceBranch,
        hnamed.targetBranch, hnamed.mergedCommitSha, ?_⟩
      intro outcome houtcome
      rcases List.mem_map.mp houtcome with ⟨checked, hmem, rfl⟩
      exact ((recordable_iff (htexts checked hmem)).mp (hrecordable checked hmem)).2
    · exact List.length_map _
    · exact halike.mpr fun outcome hmem =>
        ((recordable_iff (htexts outcome hmem)).mp (hrecordable outcome hmem)).1

/-- A run is recorded by both, and alike, exactly if every check has the type of its name and
a command that begins with its name, and no output is empty. -/
theorem recorded_alike_iff {σ : Type} {executor : CheckExecutorPort σ} {now : σ -> Millis}
    {params : RunValidationParams} {s s' : σ}
    (hrun : runValidation executor now params s = .ok (emission.validationRunResult, s'))
    (hids : NonEmptyIds emission merge) :
    (exists packet result, RecordedAlike createdAt emission merge packet result) <->
      MergeNamed createdAt merge ∧
        forall outcome, outcome ∈ emission.validationRunResult.checkOutcomes ->
          exists command, Recordable outcome command := by
  have hsummary := summary_ne_empty hrun
  constructor
  · intro h
    have htexts : forall outcome, outcome ∈ emission.validationRunResult.checkOutcomes ->
        outcome.command = .text (commandText outcome) := by
      rcases h with ⟨_, _, h⟩
      exact fun outcome => texts_of_read h.read
    rcases (recorded_of_texts hids hsummary htexts).mp h with ⟨hnamed, hrecordable⟩
    exact ⟨hnamed, fun outcome hmem => ⟨_, hrecordable outcome hmem⟩⟩
  · rintro ⟨hnamed, hrecordable⟩
    have htext : forall outcome, outcome ∈ emission.validationRunResult.checkOutcomes ->
        Recordable outcome (commandText outcome) := by
      intro outcome hmem
      rcases hrecordable outcome hmem with ⟨command, hcommand⟩
      have heq : commandText outcome = command := by
        unfold commandText
        rw [hcommand.text]
      rw [heq]
      exact hcommand
    exact (recorded_of_texts hids hsummary (fun outcome hmem => (htext outcome hmem).text)).mpr
      ⟨hnamed, htext⟩

end

/-!
## Two commands for one check
-/

def gateProfile (command : String) : Policies.ValidationProfile where
  requiredChecks := ["test"]
  optionalChecks := []
  commands := [("test", command)]
  failOnSkippedRequiredCheck := true

def gateParams (command : String) : RunValidationParams where
  taskId := "task-1"
  profileName := "merge-gate"
  validationPolicy := { profiles := [("merge-gate", gateProfile command)] }
  workspacePath := "/workspaces/task-1"

def passingExecutor : CheckExecutorPort Unit := fun params s =>
  ({ checkName := params.checkName
     command := params.command
     status := .passed
     durationMs := 12 }, s)

def gateRun (command : String) : ValidationRun :=
  validationReport (gateParams command) (gateProfile command)
    [{ checkName := "test"
       command := .text command
       status := .passed
       durationMs := 12
       category := .required }] 0

theorem runValidation_gate (command : String) :
    runValidation passingExecutor (fun _ => 0) (gateParams command) () =
      .ok (gateRun command, ()) := by
  rw [@runValidation_of_lookup Unit passingExecutor (fun _ => 0) (gateParams command)
    (gateProfile command) (by rfl) ()]
  rfl

def gateEmission (command : String) : EmitValidationPacketParams where
  taskId := "task-1"
  repositoryId := "repo-1"
  validationRunId := "run-1"
  runScope := .preMerge
  validationRunResult := gateRun command

def gateMerge : RecordedMerge Unit where
  ports := calmCalls.ports
  params := mergeParams
  approvedCommitSha := "a1"
  sourceBranch := "factory/task-1"
  task := ControlPlane.newTask
    { taskId := "task-1", repositoryId := "repo-1", taskType := "feature", priority := "high" }
  mergedCommitSha := "b2"

theorem gate_ids (command : String) : NonEmptyIds (gateEmission command) gateMerge := by
  constructor
  all_goals exact of_decide_eq_true rfl

theorem recorded_alike_gate :
    exists packet result, RecordedAlike 1000 (gateEmission "test -d src") gateMerge packet
      result := by
  refine (recorded_alike_iff (runValidation_gate "test -d src") (gate_ids _)).mpr ⟨?_, ?_⟩
  · constructor
    all_goals decide
  · intro outcome hmem
    cases List.mem_singleton.mp hmem
    refine ⟨"test -d src", ?_⟩
    constructor
    all_goals decide

/-- The one packet names the tool, the other one the check. -/
theorem not_recorded_alike_pnpm :
    ¬ exists packet result, RecordedAlike 1000 (gateEmission "pnpm test") gateMerge packet
      result := by
  intro h
  have htexts : forall outcome, outcome ∈ (gateRun "pnpm test").checkOutcomes ->
      outcome.command = .text (commandText outcome) := by
    intro outcome hmem
    cases List.mem_singleton.mp hmem
    rfl
  have hrecordable := ((recorded_of_texts (gate_ids _)
    (summary_ne_empty (runValidation_gate "pnpm test")) htexts).mp h).2 _ List.mem_cons_self
  exact absurd hrecordable.tool (by decide)

end Merging
end CopilotFactory
