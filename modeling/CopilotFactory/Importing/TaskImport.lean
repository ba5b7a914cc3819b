import CopilotFactory.Foundations.IndentedJson
import CopilotFactory.Foundations.Records
import CopilotFactory.Foundations.Zod

/-!
# Task import

The schemas of what the parsers of imported tasks produce: tasks, warnings, and the manifest
that holds both.  A parsed task is the object that its schema returns, with no other than
the known fields and with its defaults.
-/

namespace CopilotFactory
namespace Importing

open Foundations
open Foundations.Zod

def validTaskTypes : List String :=
  ["feature", "bug_fix", "refactor", "chore", "documentation", "test", "spike"]

def validStatuses : List String :=
  ["BACKLOG", "DONE", "CANCELLED"]

/-!
## Schemas
-/

def TaskTypeSchema : ZodType :=
  .enumeration validTaskTypes

def TaskPrioritySchema : ZodType :=
  .enumeration ["critical", "high", "medium", "low"]

def RiskLevelSchema : ZodType :=
  .enumeration ["high", "medium", "low"]

def EstimatedSizeSchema : ZodType :=
  .enumeration ["xs", "s", "m", "l", "xl"]

def ParseWarningSeveritySchema : ZodType :=
  .enumeration ["info", "warning", "error"]

def ImportedTaskStatusSchema : ZodType :=
  .enumeration validStatuses

def nonEmpty (message : String) : Check String where
  accepts := fun text => text ≠ ""
  code := .tooSmall
  message := message

/-- A text that is not empty, with the message that the library gives. -/
def nonEmptyText : ZodType :=
  .string [nonEmpty "String must contain at least 1 character(s)"]

def atMost500 : Check String where
  accepts := fun text => (JsonText.unitsOf text.toList).length ≤ 500
  code := .tooBig
  message := "title must be at most 500 characters"

def ParseWarningSchema : ZodType :=
  .object
    [("file", .string [nonEmpty "file must not be empty"]),
      ("field", .optional nonEmptyText),
      ("message", .string [nonEmpty "message must not be empty"]),
      ("severity", ParseWarningSeveritySchema)]

def importedTaskShape : List (String × ZodType) :=
  [("title", .string [nonEmpty "title is required", atMost500]),
    ("description", .optional (.string [])),
    ("taskType", TaskTypeSchema),
    ("priority", .optional TaskPrioritySchema),
    ("riskLevel", .optional RiskLevelSchema),
    ("estimatedSize", .optional EstimatedSizeSchema),
    ("acceptanceCriteria", .optional (.array nonEmptyText)),
    ("definitionOfDone", .optional (.string [])),
    ("dependencies", .optional (.array nonEmptyText)),
    ("suggestedFileScope", .optional (.array nonEmptyText)),
    ("externalRef", .optional nonEmptyText),
    ("source", .optional nonEmptyText),
    ("status", .optional ImportedTaskStatusSchema),
    ("metadata", .optional (.object []))]

def ImportedTaskSchema : ZodType :=
  .object importedTaskShape

def importedTaskDefaults : List (String × String) :=
  [("priority", "medium"), ("status", "BACKLOG")]

def ImportManifestSchema : ZodType :=
  .object
    [("sourcePath", .string [nonEmpty "sourcePath must not be empty"]),
      ("formatVersion", .optional nonEmptyText),
      ("tasks", .array ImportedTaskSchema),
      ("warnings", .array ParseWarningSchema),
      ("discoveredProjectName", .optional nonEmptyText),
      ("discoveredRepositoryName", .optional nonEmptyText)]

/-!
## Tasks
-/

/-- A value of a field of a candidate: a JSON value, or one of the members that every object
has inherited. -/
inductive CandidateValue where
  | json (value : Json)
  | inherited (name : String)
deriving DecidableEq

abbrev Candidate :=
  List (String × CandidateValue)

def CandidateValue.json? : CandidateValue -> Option Json
  | .json value => some value
  | .inherited _ => none

/-- All inherited members are functions but the one that is the prototype itself. -/
def memberType (name : String) : String :=
  if name = "__proto__" then "object" else "function"

def parseField (candidate : Candidate) (field : String × ZodType) : Outcome :=
  match candidate.lookup field.1 with
  | some (.inherited name) => parseForeign (memberType name) [.key field.1] field.2
  | some (.json value) => parse field.2 [.key field.1] (some value)
  | none => parse field.2 [.key field.1] none

/-- The value that a parsed task has in a field.  Of an object, a record does not take the
key `__proto__`. -/
def parsedValue (key : String) : Option Json -> Option Json
  | none => (importedTaskDefaults.lookup key).map .string
  | some (.object entries) => some (.object (entries.filter fun entry => entry.1 ≠ "__proto__"))
  | some value => some value

def importedTask (valueAt : String -> Option Json) : Json :=
  .object (Records.keep (importedTaskShape.map Prod.fst) fun key =>
    parsedValue key (valueAt key))

def Candidate.valueAt (candidate : Candidate) (key : String) : Option Json :=
  (candidate.lookup key).bind CandidateValue.json?

def safeParseTask (candidate : Candidate) : Except (List ZodIssue) Json :=
  let issues := (Outcome.all (importedTaskShape.map (parseField candidate))).issues
  if issues.isEmpty then .ok (importedTask candidate.valueAt) else .error issues

/-!
## Manifests
-/

inductive ParseWarningSeverity where
  | info
  | warning
  | error
deriving DecidableEq

def ParseWarningSeverity.label : ParseWarningSeverity -> String
  | .info => "info"
  | .warning => "warning"
  | .error => "error"

/-- A warning before it is validated.  Its message may be any value: a language model is
asked for some of them. -/
structure ParseWarning where
  file : String
  field : Option String
  message : Json
  severity : ParseWarningSeverity
deriving DecidableEq

def ParseWarning.toJson (warning : ParseWarning) : Json :=
  .object ([("file", .string warning.file)] ++
    (warning.field.map fun field => ("field", Json.string field)).toList ++
    [("message", warning.message), ("severity", .string warning.severity.label)])

structure ImportManifest where
  sourcePath : String
  formatVersion : Option String
  tasks : List Json
  warnings : List ParseWarning
  discoveredProjectName : Option String
deriving DecidableEq

def ImportManifest.toJson (manifest : ImportManifest) : Json :=
  .object ([("sourcePath", .string manifest.sourcePath)] ++
    (manifest.formatVersion.map fun version => ("formatVersion", Json.string version)).toList ++
    [("tasks", .array manifest.tasks),
      ("warnings", .array (manifest.warnings.map ParseWarning.toJson))] ++
    (manifest.discoveredProjectName.map fun name =>
      ("discoveredProjectName", Json.string name)).toList)

/-- The method `safeParse` of the schema of manifests.  The tasks of the result are parsed
once more, and the rest is as it was. -/
def safeParseManifest (manifest : ImportManifest) : Except (List ZodIssue) ImportManifest :=
  let issues := (parse ImportManifestSchema [] (some manifest.toJson)).issues
  if issues.isEmpty then
    .ok { manifest with
      tasks := manifest.tasks.map fun task => importedTask fun key => task.field? key }
  else
    .error issues

/-!
## What is parsed once more
-/

theorem parsedValue_idem (key : String) (value : Option Json) :
    parsedValue key (parsedValue key value) = parsedValue key value := by
  cases value with
  | none =>
      cases hdefault : importedTaskDefaults.lookup key with
      | none =>
          simp [parsedValue, hdefault]
      | some text =>
          simp [parsedValue, hdefault]
  | some value =>
      cases value with
      | object entries =>
          simp [parsedValue]
      | null | boolean value | number value | string value | array items =>
          rfl

theorem field?_importedTask {valueAt : String -> Option Json} {key : String}
    (h : key ∈ importedTaskShape.map Prod.fst) :
    (importedTask valueAt).field? key = parsedValue key (valueAt key) := by
  unfold importedTask Json.field?
  dsimp only
  rw [Records.lookup_keep, if_pos h]

/-- Parsing a parsed task once more does not change it. -/
theorem importedTask_idem (valueAt : String -> Option Json) :
    (importedTask fun key => (importedTask valueAt).field? key) = importedTask valueAt := by
  unfold importedTask
  rw [Json.object.injEq]
  apply Records.keep_congr
  intro key hkey
  have hfield := @field?_importedTask valueAt key hkey
  unfold importedTask at hfield
  dsimp only
  rw [hfield, parsedValue_idem]

theorem safeParseTask_eq_ok {candidate : Candidate} {task : Json} :
    safeParseTask candidate = .ok task <->
      (forall field, field ∈ importedTaskShape ->
        (parseField candidate field).issues = []) ∧
      task = importedTask candidate.valueAt := by
  unfold safeParseTask
  dsimp only
  rw [← List.forall_mem_map (P := fun o : Outcome => o.issues = []), ← all_issues]
  split
  · rename_i hempty
    rw [List.isEmpty_iff] at hempty
    constructor
    · intro h
      cases h
      exact ⟨hempty, rfl⟩
    · rintro ⟨_, htask⟩
      rw [htask]
  · rename_i hempty
    rw [List.isEmpty_iff] at hempty
    constructor
    · intro h
      cases h
    · rintro ⟨hnone, _⟩
      exact absurd hnone hempty

/-- Where a task is not parsed, at least one issue says why. -/
theorem ne_nil_of_safeParseTask {candidate : Candidate} {issues : List ZodIssue}
    (h : safeParseTask candidate = .error issues) : issues ≠ [] := by
  unfold safeParseTask at h
  dsimp only at h
  split at h
  · cases h
  · rename_i hempty
    cases h
    rw [List.isEmpty_iff] at hempty
    exact hempty

theorem safeParseManifest_eq_ok {manifest parsed : ImportManifest}
    (htasks : forall task, task ∈ manifest.tasks ->
      exists valueAt, task = importedTask valueAt)
    (h : safeParseManifest manifest = .ok parsed) : parsed = manifest := by
  unfold safeParseManifest at h
  dsimp only at h
  split at h
  · cases h
    have hmap : (manifest.tasks.map fun task => importedTask fun key => task.field? key) =
        manifest.tasks := by
      rw [List.map_congr_left fun task htask => ?_]
      · exact List.map_id _
      · rcases htasks task htask with ⟨valueAt, hvalueAt⟩
        rw [hvalueAt]
        exact importedTask_idem valueAt
    rw [hmap]
  · cases h

end Importing
end CopilotFactory
