import CopilotFactory.Automation.PacketExtraction
import CopilotFactory.Automation.PacketSchemas
import CopilotFactory.Merging.MergePacket

/-!
# Output validator

The packet of a worker is extracted, its version, shape, ids and artifacts are checked, and
fields that it misses are added where a default is safe.  What is not accepted is recorded
as a failure of the agent profile.  The ports do not throw; the language may.
-/

namespace CopilotFactory
namespace Automation
namespace OutputValidation

open Foundations
open Foundations.Zod
open Infrastructure

/-!
## Types
-/

/-- What the packet of a run is compared with.  The numbers are those of the language. -/
structure OutputValidationContext (N : Type) where
  taskId : String
  repositoryId : String
  runId : Option String := none
  reviewCycleId : Option String := none
  mergeQueueItemId : Option String := none
  validationRunId : Option String := none
  expectedPacketType : String
  expectedMajorVersion : N
  agentProfileId : String

structure ValidatorTools (N : Type) where
  parse : String -> Except String Json
  isDatetime : String -> Bool
  /-- The number that is nearest to a natural number. -/
  toNumber : Nat -> N
  numberText : N -> String
  /-- The text of a value, or of undefined. -/
  text : Option Json -> String

structure OutputValidatorDependencies where
  artifactExists : String -> Bool
  /-- The consecutive failures of a profile, with the one that is recorded. -/
  recordFailure : String -> Nat
  consecutiveFailureThreshold : Option Nat := none

def defaultConsecutiveFailureThreshold : Nat :=
  3

def OutputValidatorDependencies.threshold (deps : OutputValidatorDependencies) : Nat :=
  deps.consecutiveFailureThreshold.getD defaultConsecutiveFailureThreshold

inductive OutputRejectionReason where
  | noPacketFound
  | jsonParseError
  | schemaValidationFailed
  | versionIncompatible
  | idMismatch
  | artifactsMissing
deriving DecidableEq

structure ViolationMetadata where
  reason : OutputRejectionReason
  expectedPacketType : String
  agentProfileId : String
  errors : List String
  consecutiveFailures : Nat
  profileDisabled : Bool
deriving DecidableEq

/-- The metadata is stored as the text of its fields. -/
structure NewAuditEvent extends AuditEvent where
  metadata : ViolationMetadata
deriving DecidableEq

inductive OutputValidationResult where
  | accepted (packet : Json) (repaired : Bool) (repairActions : List String)
  | rejected (packet : Option Json) (reason : OutputRejectionReason) (errors : List String)
      (profileDisabled : Bool) (consecutiveFailures : Nat)
deriving DecidableEq

inductive PortCall where
  | artifactExists (artifactPath : String)
  | recordFailure (profileId : String)
  | resetFailures (profileId : String)
  | recordAuditEvent (event : NewAuditEvent)
deriving DecidableEq

structure Validation where
  calls : List PortCall
  outcome : Except String OutputValidationResult

def Validation.throws (message : String) : Validation where
  calls := []
  outcome := .error message

/-!
## Schema validation
-/

structure SchemaValidationResult where
  valid : Bool
  errors : List String
  issues : List ZodIssue

/-- The members that the registry inherits are no schemas. -/
def validateSchema (isDatetime : String -> Bool) (data : Json) (expectedPacketType : String) :
    Except String SchemaValidationResult :=
  match packetSchemaRegistry.lookup expectedPacketType with
  | some schema =>
      let issues := (Packets.zodOf isDatetime schema).safeParse data
      .ok
        { valid := issues = []
          errors := issues.map fun issue => pathText issue.path ++ ": " ++ issue.message
          issues := issues }
  | none =>
      if expectedPacketType ∈ Merging.inheritedNames then
        .error "schema.safeParse is not a function"
      else
        .ok
          { valid := false
            errors := ["No schema registered for packet type: " ++ expectedPacketType]
            issues := [] }

/-!
## Schema repair
-/

structure Repair where
  path : List PathItem
  value : Json
  action : String

/-- Other types cannot be safely defaulted. -/
def repairOf (issue : ZodIssue) : Option Repair :=
  match issue.code with
  | .invalidType expected received =>
      if received ≠ "undefined" then
        none
      else if expected = "array" then
        some
          { path := issue.path
            value := .array []
            action := "Set missing array field \"" ++ pathText issue.path ++ "\" to []" }
      else if expected = "null" then
        some
          { path := issue.path
            value := .null
            action := "Set missing nullable field \"" ++ pathText issue.path ++ "\" to null" }
      else
        none
  | _ => none

def applyRepairs (data : Json) (repairs : List Repair) : Json :=
  repairs.foldl (fun repaired repair => setNestedValue repair.value repair.path repaired) data

structure RepairResult where
  success : Bool
  repairedData : Json
  actions : List String

/-- Arrays are objects as well. -/
def isObject : Json -> Bool
  | .array _ => true
  | .object _ => true
  | _ => false

def attemptSchemaRepair (isDatetime : String -> Bool) (data : Json) (issues : List ZodIssue)
    (expectedPacketType : String) : Except String RepairResult :=
  if isObject data = false then
    .ok { success := false, repairedData := data, actions := [] }
  else
    let repairs := issues.filterMap repairOf
    if repairs = [] then
      .ok { success := false, repairedData := data, actions := [] }
    else
      let repaired := applyRepairs data repairs
      match validateSchema isDatetime repaired expectedPacketType with
      | .error message => .error message
      | .ok revalidation =>
          .ok
            { success := revalidation.valid
              repairedData := if revalidation.valid then repaired else data
              actions := repairs.map Repair.action }

/-!
## Ids and artifacts
-/

variable {N : Type}

/-- The ids of a packet that depend on its type, with what the context says about them. -/
def stageIds (context : OutputValidationContext N) : PacketSchema ->
    List (String × Option String)
  | .devResult => [("run_id", context.runId)]
  | .review => [("review_cycle_id", context.reviewCycleId)]
  | .leadReviewDecision => [("review_cycle_id", context.reviewCycleId)]
  | .merge => [("merge_queue_item_id", context.mergeQueueItemId)]
  | .mergeAssist => [("merge_queue_item_id", context.mergeQueueItemId)]
  | .validationResult => [("validation_run_id", context.validationRunId)]
  | .postMergeAnalysis =>
      [("merge_queue_item_id", context.mergeQueueItemId),
        ("validation_run_id", context.validationRunId)]

def expectedIds (context : OutputValidationContext N) : List (String × String) :=
  [("task_id", context.taskId), ("repository_id", context.repositoryId)] ++
    match packetSchemaRegistry.lookup context.expectedPacketType with
    | none => []
    | some schema =>
        (stageIds context schema).filterMap fun stage =>
          stage.2.map fun expected => (stage.1, expected)

def verifyIds (text : Option Json -> String) (packet : Json)
    (context : OutputValidationContext N) : List String :=
  ((expectedIds context).filter fun id => packet.field? id.1 ≠ some (.string id.2)).map
    fun id =>
      id.1 ++ ": expected \"" ++ id.2 ++ "\", got \"" ++ text (packet.field? id.1) ++ "\""

/-- The references of a packet or of a check.  What is no text is no reference. -/
def artifactRefs (value : Json) : List String :=
  (Json.itemsOf (value.field? "artifact_refs")).filterMap Json.asString?

def verifyArtifacts (artifactExists : String -> Bool) (packet : Json) : List String :=
  (artifactRefs packet).filter fun ref => !artifactExists ref

/-!
## The service
-/

def buildSchemaViolationAuditEvent (context : OutputValidationContext N)
    (reason : OutputRejectionReason) (errors : List String) (consecutiveFailures : Nat)
    (profileDisabled : Bool) : NewAuditEvent where
  entityType := "task"
  entityId := context.taskId
  eventType := "schema_violation"
  actorType := "system"
  actorId := "output-validator"
  oldState := none
  newState := none
  metadata :=
    { reason := reason
      expectedPacketType := context.expectedPacketType
      agentProfileId := context.agentProfileId
      errors := errors.take 20
      consecutiveFailures := consecutiveFailures
      profileDisabled := profileDisabled }

def recordFailureAndReject (deps : OutputValidatorDependencies)
    (context : OutputValidationContext N) (reason : OutputRejectionReason)
    (errors : List String) (packet : Option Json) : Validation :=
  let consecutiveFailures := deps.recordFailure context.agentProfileId
  let profileDisabled : Bool := deps.threshold ≤ consecutiveFailures
  { calls :=
      [.recordFailure context.agentProfileId,
        .recordAuditEvent
          (buildSchemaViolationAuditEvent context reason errors consecutiveFailures
            profileDisabled)]
    outcome := .ok (.rejected packet reason errors profileDisabled consecutiveFailures) }

structure FinalPacket where
  packet : Json
  repaired : Bool
  repairActions : List String

/-- The packet that is accepted by its schema, or the errors of the one that was given. -/
def validateWithRepair (isDatetime : String -> Bool) (packetData : Json)
    (expectedPacketType : String) : Except String (Except (List String) FinalPacket) :=
  match validateSchema isDatetime packetData expectedPacketType with
  | .error message => .error message
  | .ok validation =>
      if validation.valid = true then
        .ok (.ok { packet := packetData, repaired := false, repairActions := [] })
      else
        match attemptSchemaRepair isDatetime packetData validation.issues
            expectedPacketType with
        | .error message => .error message
        | .ok repair =>
            if repair.success = true then
              .ok (.ok
                { packet := repair.repairedData
                  repaired := true
                  repairActions := repair.actions })
            else
              .ok (.error validation.errors)

/-- Ids first, then artifacts. -/
def verifyPacket (tools : ValidatorTools N) (deps : OutputValidatorDependencies)
    (context : OutputValidationContext N) (final : FinalPacket) : Validation :=
  match verifyIds tools.text final.packet context with
  | mismatch :: mismatches =>
      recordFailureAndReject deps context .idMismatch (mismatch :: mismatches)
        (some final.packet)
  | [] =>
      let checks := (artifactRefs final.packet).map PortCall.artifactExists
      match verifyArtifacts deps.artifactExists final.packet with
      | missing :: others =>
          let rejection := recordFailureAndReject deps context .artifactsMissing
            ((missing :: others).map fun path => "Missing artifact: " ++ path)
            (some final.packet)
          { rejection with calls := checks ++ rejection.calls }
      | [] =>
          { calls := checks ++ [.resetFailures context.agentProfileId]
            outcome := .ok (.accepted final.packet final.repaired final.repairActions) }

section Service

variable [DecidableEq N]

def isVersionCompatible (toNumber : Nat -> N) (version : String) (expectedMajor : N) :
    Except String Bool :=
  match parseSchemaVersion version with
  | none =>
      .error ("Invalid schema version \"" ++ version ++
        "\": must be in \"major.minor\" format (e.g., \"1.0\")")
  | some parsed => .ok (toNumber parsed.major = expectedMajor)

def validatePacket (tools : ValidatorTools N) (deps : OutputValidatorDependencies)
    (context : OutputValidationContext N) (packetData : Json) : Validation :=
  -- null is the only JSON value whose fields cannot be read
  if packetData = .null then
    Validation.throws "Cannot read properties of null (reading 'schema_version')"
  else
    match (packetData.field? "schema_version").bind Json.asString? with
    | none =>
        recordFailureAndReject deps context .versionIncompatible
          ["Packet missing schema_version field"] (some packetData)
    | some schemaVersion =>
        match isVersionCompatible tools.toNumber schemaVersion
            context.expectedMajorVersion with
        | .error message => Validation.throws message
        | .ok false =>
            recordFailureAndReject deps context .versionIncompatible
              ["Schema version \"" ++ schemaVersion ++
                "\" is incompatible with expected major version " ++
                tools.numberText context.expectedMajorVersion]
              (some packetData)
        | .ok true =>
            match validateWithRepair tools.isDatetime packetData
                context.expectedPacketType with
            | .error message => Validation.throws message
            | .ok (.error errors) =>
                recordFailureAndReject deps context .schemaValidationFailed errors
                  (some packetData)
            | .ok (.ok final) => verifyPacket tools deps context final

def sourceName : PacketSource -> String
  | .file => "file"
  | .stdout => "stdout"

def validateOutput (tools : ValidatorTools N) (deps : OutputValidatorDependencies)
    (source : WorkerOutputSource) (context : OutputValidationContext N) : Validation :=
  match extractPacket tools.parse source with
  | .notFound =>
      recordFailureAndReject deps context .noPacketFound
        ["No structured output packet found (neither output file nor stdout delimiters)"] none
  | .jsonParseError _ packetSource error =>
      recordFailureAndReject deps context .jsonParseError
        ["JSON parse error from " ++ sourceName packetSource ++ ": " ++ error] none
  | .found packetData _ => validatePacket tools deps context packetData

end Service

end OutputValidation
end Automation
end CopilotFactory
