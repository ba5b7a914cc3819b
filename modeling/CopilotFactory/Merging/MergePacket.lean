import CopilotFactory.Application.ValidationRunner

/-!
# Merge packets

The record of a completed merge, and the schema that it has to meet before it is
stored.
-/

namespace CopilotFactory
namespace Merging

open Infrastructure
open Application

inductive MergeStrategy where
  | rebaseAndMerge
  | squash
  | mergeCommit
deriving DecidableEq

def MergeStrategy.strategyLabel : MergeStrategy -> String
  | .rebaseAndMerge => "Rebase-and-merge"
  | .squash => "Squash merge"
  | .mergeCommit => "Merge commit"

inductive ValidationCheckType where
  | test
  | lint
  | build
  | typecheck
  | policy
  | schema
  | security
deriving DecidableEq

inductive ValidationCheckStatus where
  | passed
  | failed
  | skipped
deriving DecidableEq

structure ValidationCheckResult where
  /-- Nothing when the type is no check type. -/
  checkType : Option ValidationCheckType
  toolName : String
  command : String
  status : ValidationCheckStatus
  durationMs : Millis
  summary : String
deriving DecidableEq

structure MergePacketDetails where
  sourceBranch : String
  targetBranch : String
  approvedCommitSha : String
  mergedCommitSha : String
  mergeStrategy : MergeStrategy
  rebasePerformed : Bool
  validationResults : List ValidationCheckResult
deriving DecidableEq

structure MergePacket where
  packetType : String
  schemaVersion : String
  createdAt : Millis
  taskId : TaskId
  repositoryId : String
  mergeQueueItemId : MergeQueueItemId
  status : String
  summary : String
  details : MergePacketDetails
  artifactRefs : List String
deriving DecidableEq

/-!
## Check outcomes
-/

def checkNameToType : List (String × ValidationCheckType) :=
  [("test", .test),
    ("lint", .lint),
    ("build", .build),
    ("typecheck", .typecheck),
    ("policy", .policy),
    ("schema", .schema),
    ("security", .security)]

/-- The names that every object inherits: a lookup finds a value that is no type. -/
def inheritedNames : List String :=
  ["constructor", "__defineGetter__", "__defineSetter__", "hasOwnProperty",
    "__lookupGetter__", "__lookupSetter__", "isPrototypeOf", "propertyIsEnumerable",
    "toString", "valueOf", "__proto__", "toLocaleString"]

/-- An unknown check counts as a test. -/
def checkTypeOf (checkName : String) : Option ValidationCheckType :=
  match checkNameToType.lookup checkName with
  | some checkType => some checkType
  | none => if checkName ∈ inheritedNames then none else some .test

def mapStatusToSchemaStatus : CheckStatus -> ValidationCheckStatus
  | .error => .failed
  | .passed => .passed
  | .skipped => .skipped
  | .failed => .failed

def mapCheckOutcomeToSchemaResult (outcome : ValidationCheckOutcome) :
    ValidationCheckResult where
  checkType := checkTypeOf outcome.checkName
  toolName := outcome.checkName
  command := outcome.command
  status := mapStatusToSchemaStatus outcome.status
  durationMs := outcome.durationMs
  summary := outcome.output.getD s!"{outcome.checkName}: {outcome.status.label}"

/-!
## Schemas
-/

def validationCheckResultSchema (result : ValidationCheckResult) : Bool :=
  result.checkType.isSome && result.toolName ≠ "" && result.command ≠ "" &&
    0 ≤ result.durationMs && result.summary ≠ ""

def mergePacketDetailsSchema (details : MergePacketDetails) : Bool :=
  details.sourceBranch ≠ "" && details.targetBranch ≠ "" &&
    details.approvedCommitSha ≠ "" && details.mergedCommitSha ≠ "" &&
    details.validationResults.all validationCheckResultSchema

/-- Dates of the years 0 to 9999, whose texts have four digits for the year. -/
def isDatetime (date : Millis) : Bool :=
  -62167219200000 ≤ date && date < 253402300800000

def packetStatuses : List String :=
  ["success", "failed", "partial", "blocked"]

def mergePacketSchema (packet : MergePacket) : Bool :=
  packet.packetType = "merge_packet" && packet.schemaVersion = "1.0" &&
    isDatetime packet.createdAt && packet.taskId ≠ "" && packet.repositoryId ≠ "" &&
    packet.mergeQueueItemId ≠ "" && packet.status ∈ packetStatuses &&
    packet.summary ≠ "" && mergePacketDetailsSchema packet.details &&
    packet.artifactRefs.all (fun ref => ref ≠ "")

end Merging
end CopilotFactory
