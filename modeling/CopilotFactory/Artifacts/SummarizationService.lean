import CopilotFactory.Foundations.IndentedJson
import CopilotFactory.Foundations.Records
import CopilotFactory.Foundations.Rounds

/-!
# Summarization service

A failed run is summed up for the next attempt, from its result and from what crash recovery
found.  The summary is reduced until its text fits, gets the length of that text as its
character count, and is stored.
-/

namespace CopilotFactory
namespace Artifacts

open Foundations
open JsonText

def literally (text : String) : Units :=
  unitsOf text.toList

def summaryCharacterLimit : Nat := 2000

def maxFileChanges : Nat := 10

def maxValidations : Nat := 5

def maxFailurePoints : Nat := 5

def maxFieldLength : Nat := 200

/-!
## Data
-/

structure SummaryFileChange where
  path : Units
  changeType : Units
deriving DecidableEq

structure SummaryValidation where
  checkType : Units
  status : Units
  summary : Units
deriving DecidableEq

structure FailedRunInfo where
  status : Units
  resultSummary : Option Units
  filesChanged : List SummaryFileChange
  validationsRun : List SummaryValidation
  unresolvedIssues : List Units
  risks : List Units

structure PartialWorkSnapshot where
  modifiedFiles : List Units

/-- The fields that are the same in every summary are added where it is written. -/
structure RetrySummary where
  generatedAt : Units
  taskId : Units
  failedRunId : Units
  attemptNumber : Nat
  failedRunStatus : Units
  failureSummary : Units
  filesChanged : List SummaryFileChange
  validationsRun : List SummaryValidation
  failurePoints : List Units
  fullResultRef : Option Units
  partialWorkRef : Option Units
  summaryArtifactRef : Units
  characterCount : Nat
deriving DecidableEq

def SummaryFileChange.toJson (change : SummaryFileChange) : JsonTree Nat :=
  .object [(literally "path", .string change.path),
    (literally "changeType", .string change.changeType)]

def SummaryValidation.toJson (validation : SummaryValidation) : JsonTree Nat :=
  .object [(literally "checkType", .string validation.checkType),
    (literally "status", .string validation.status),
    (literally "summary", .string validation.summary)]

def optionalString : Option Units -> JsonTree Nat
  | none => .null
  | some text => .string text

/-- All entries of a summary but the last one. -/
def RetrySummary.entries (summary : RetrySummary) : List (Units × JsonTree Nat) :=
  [(literally "summary_type", .string (literally "retry_summary")),
    (literally "schema_version", .string (literally "1.0")),
    (literally "generatedAt", .string summary.generatedAt),
    (literally "taskId", .string summary.taskId),
    (literally "failedRunId", .string summary.failedRunId),
    (literally "attemptNumber", .number summary.attemptNumber),
    (literally "failedRunStatus", .string summary.failedRunStatus),
    (literally "failureSummary", .string summary.failureSummary),
    (literally "filesChanged", .array (summary.filesChanged.map SummaryFileChange.toJson)),
    (literally "validationsRun",
      .array (summary.validationsRun.map SummaryValidation.toJson)),
    (literally "failurePoints", .array (summary.failurePoints.map .string)),
    (literally "fullResultRef", optionalString summary.fullResultRef),
    (literally "partialWorkRef", optionalString summary.partialWorkRef),
    (literally "summaryArtifactRef", .string summary.summaryArtifactRef)]

def RetrySummary.toJson (summary : RetrySummary) : JsonTree Nat :=
  .object (summary.entries ++ [(literally "characterCount", .number summary.characterCount)])

def RetrySummary.serialized (summary : RetrySummary) : Units :=
  unitsOf (indented 0 summary.toJson)

/-!
## Extraction
-/

/-- A text that is too long is cut and ends in an ellipsis. -/
def truncate (text : Units) (maxLength : Nat) : Units :=
  if text.length ≤ maxLength then
    text
  else
    text.take (maxLength - 1) ++ literally "…"

def extractFilesChanged (runInfo : Option FailedRunInfo)
    (partialWork : Option PartialWorkSnapshot) : List SummaryFileChange :=
  let reported := (runInfo.map FailedRunInfo.filesChanged).getD []
  let modified := (partialWork.map PartialWorkSnapshot.modifiedFiles).getD []
  if 0 < reported.length then
    reported.take maxFileChanges
  else
    (modified.take maxFileChanges).map fun path =>
      { path := path, changeType := literally "modified" }

/-- The rank of a status, or nothing for the name of a member that every object has, which
is not a number. -/
def statusRank (status : Units) : Option Nat :=
  let order := [(literally "failed", 0), (literally "skipped", 1), (literally "passed", 2)]
  match Records.member (Records.inheritedMembers.map literally) order status with
  | .own rank => some rank
  | .inherited => none
  | .missing => some 3

def ranksUpTo (a b : SummaryValidation) : Bool :=
  (statusRank a.status).getD 3 ≤ (statusRank b.status).getD 3

/-- Where some differences are not numbers, the order is left to the engine. -/
def sortedValidations (sort : List SummaryValidation -> List SummaryValidation)
    (validations : List SummaryValidation) : List SummaryValidation :=
  if validations.all fun v => (statusRank v.status).isSome then
    validations.mergeSort ranksUpTo
  else
    sort validations

def extractValidations (sort : List SummaryValidation -> List SummaryValidation) :
    Option FailedRunInfo -> List SummaryValidation
  | none => []
  | some runInfo =>
      ((sortedValidations sort runInfo.validationsRun).take maxValidations).map fun v =>
        { v with summary := truncate v.summary maxFieldLength }

def extractFailurePoints (runInfo : Option FailedRunInfo)
    (partialWork : Option PartialWorkSnapshot) : List Units :=
  let reported :=
    match runInfo with
    | none => []
    | some info =>
        let issues := (info.unresolvedIssues.take maxFailurePoints).map fun issue =>
          truncate issue maxFieldLength
        issues ++ (info.risks.take (maxFailurePoints - issues.length)).map fun risk =>
          truncate (literally "Risk: " ++ risk) maxFieldLength
  let withCrash :=
    match reported, partialWork with
    | [], some snapshot =>
        [literally "Worker crashed or timed out before producing a result packet. " ++
          unitsOf (decimal snapshot.modifiedFiles.length) ++
          literally " file(s) were modified before failure."]
    | points, _ => points
  let points :=
    match withCrash with
    | [] => [literally "No detailed failure information available from the failed run."]
    | points => points
  points.take maxFailurePoints

def buildFailureSummary (runInfo : Option FailedRunInfo)
    (partialWork : Option PartialWorkSnapshot) : Units :=
  let resultSummary := (runInfo.bind FailedRunInfo.resultSummary).getD []
  if resultSummary ≠ [] then
    truncate resultSummary maxFieldLength
  else
    match partialWork with
    | some snapshot =>
        truncate
          (literally "Worker crashed/timed out. " ++
            unitsOf (decimal snapshot.modifiedFiles.length) ++
            literally " file(s) modified before failure.") maxFieldLength
    | none => literally "Failed run produced no result packet or partial work snapshot."

/-!
## The limit
-/

def fitsLimit (summary : RetrySummary) : Bool :=
  summary.serialized.length ≤ summaryCharacterLimit

def counted (summary : RetrySummary) : RetrySummary :=
  { summary with characterCount := summary.serialized.length }

/-- The rounds in their order: the least important information goes first. -/
def rounds : List (RetrySummary -> Option RetrySummary) :=
  [fun s => if 3 < s.filesChanged.length then
      some { s with filesChanged := s.filesChanged.take 3 } else none,
    fun s => if 2 < s.validationsRun.length then
      some { s with validationsRun := s.validationsRun.take 2 } else none,
    fun s => if 1 < s.failurePoints.length then
      some { s with failurePoints := s.failurePoints.take 1 } else none,
    fun s => some { s with filesChanged := [] },
    fun s => some { s with validationsRun := [] },
    fun s => some { s with
      failureSummary := truncate s.failureSummary 100
      failurePoints := s.failurePoints.map fun point => truncate point 80 }]

def enforceCharacterLimit (summary : RetrySummary) : RetrySummary :=
  if fitsLimit summary then
    counted summary
  else
    counted (Rounds.reduceInRounds fitsLimit rounds summary)

/-!
## The summary of a run
-/

structure GenerateRetrySummaryParams where
  taskId : Units
  repoId : Units
  failedRunId : Units
  attemptNumber : Nat

/-- What could not be read is taken as missing. -/
def safeAsync {ε α : Type} : Except ε (Option α) -> Option α
  | .ok found => found
  | .error _ => none

def summaryFilename (params : GenerateRetrySummaryParams) : Units :=
  literally "retry-summary-run-" ++ params.failedRunId ++ literally ".json"

def taskDirectory (params : GenerateRetrySummaryParams) : Units :=
  literally "repositories/" ++ params.repoId ++ literally "/tasks/" ++ params.taskId

def assembledSummary (sort : List SummaryValidation -> List SummaryValidation)
    (params : GenerateRetrySummaryParams) (generatedAt : Units)
    (failedRunInfo : Option FailedRunInfo) (partialWork : Option PartialWorkSnapshot) :
    RetrySummary where
  generatedAt := generatedAt
  taskId := params.taskId
  failedRunId := params.failedRunId
  attemptNumber := params.attemptNumber
  failedRunStatus := (failedRunInfo.map FailedRunInfo.status).getD (literally "unknown")
  failureSummary := buildFailureSummary failedRunInfo partialWork
  filesChanged := extractFilesChanged failedRunInfo partialWork
  validationsRun := extractValidations sort failedRunInfo
  failurePoints := extractFailurePoints failedRunInfo partialWork
  fullResultRef := failedRunInfo.map fun _ =>
    taskDirectory params ++ literally "/runs/" ++ params.failedRunId ++
      literally "/outputs/dev-result-packet.json"
  partialWorkRef := partialWork.map fun _ =>
    taskDirectory params ++ literally "/summaries/partial-work-" ++ params.failedRunId ++
      literally ".json"
  summaryArtifactRef := taskDirectory params ++ literally "/summaries/" ++ summaryFilename params
  characterCount := 0

structure StoreSummaryRequest where
  repoId : Units
  taskId : Units
  filename : Units
  content : Units
deriving DecidableEq

section

variable {ε : Type} (sort : List SummaryValidation -> List SummaryValidation)
variable (params : GenerateRetrySummaryParams) (generatedAt : Units)
variable (runInfoRead : Except ε (Option FailedRunInfo))
variable (partialWorkRead : Except ε (Option PartialWorkSnapshot))

def retrySummary : RetrySummary :=
  enforceCharacterLimit
    (assembledSummary sort params generatedAt (safeAsync runInfoRead)
      (safeAsync partialWorkRead))

def storeRequest : StoreSummaryRequest where
  repoId := params.repoId
  taskId := params.taskId
  filename := summaryFilename params
  content := (retrySummary sort params generatedAt runInfoRead partialWorkRead).serialized

def generateRetrySummary (storeSummary : StoreSummaryRequest -> Except ε Units) :
    Except ε (RetrySummary × Units) := do
  let artifactRef ←
    storeSummary (storeRequest sort params generatedAt runInfoRead partialWorkRead)
  pure (retrySummary sort params generatedAt runInfoRead partialWorkRead, artifactRef)

end

end Artifacts
end CopilotFactory
