import CopilotFactory.Foundations.Coercions
import CopilotFactory.Foundations.Texts
import CopilotFactory.Importing.TaskImport

/-!
# JSON task parser

Tasks are read from a JSON document, which is an object with the key `epics` and an array of
tasks, or an array of tasks that have the fields of an imported task already.  A thrown
`TypeError` is an error with its message.  The parsing of JSON, the case of letters and the
coercions of numbers and texts are parameters.
-/

namespace CopilotFactory
namespace Importing

open Foundations

/-!
## Field mapping

The words for types and priorities in imported files, and what they are mapped to.  The maps
are plain objects, so that a word may also be the name of an inherited member.
-/

def taskTypeMap : List (String × String) :=
  [("feature", "feature"), ("bug_fix", "bug_fix"), ("bugfix", "bug_fix"),
    ("bug fix", "bug_fix"), ("bug", "bug_fix"), ("refactor", "refactor"),
    ("refactoring", "refactor"), ("chore", "chore"), ("documentation", "documentation"),
    ("docs", "documentation"), ("test", "test"), ("testing", "test"), ("spike", "spike"),
    ("research", "spike"), ("foundation", "chore"), ("infrastructure", "chore"),
    ("integration", "feature"), ("validation", "test"), ("config", "chore"),
    ("observability", "chore")]

def priorityMap : List (String × String) :=
  [("p0", "critical"), ("p1", "high"), ("p2", "medium"), ("p3", "low"),
    ("critical", "critical"), ("high", "high"), ("medium", "medium"), ("low", "low")]

def trimmed (text : String) : String :=
  String.ofList (trim text.toList)

section

variable (toLowerCase : String -> String)

def mapWord (map : List (String × String)) (raw : String) : Option CandidateValue :=
  let key := trimmed (toLowerCase raw)
  match Records.member Records.inheritedMembers map key with
  | .own value => some (.json (.string value))
  | .inherited => some (.inherited key)
  | .missing => none

def mapTaskType (rawType : String) : Option CandidateValue :=
  mapWord toLowerCase taskTypeMap rawType

def mapPriority (rawPriority : String) : Option CandidateValue :=
  mapWord toLowerCase priorityMap rawPriority

end

open Foundations.Zod

structure ParseJsonTaskResult where
  task : Option Json
  warnings : List ParseWarning
deriving DecidableEq

inductive JsonFormat where
  | backlog
  | flat
  | unknown
deriving DecidableEq

def detectJsonFormat : Json -> JsonFormat
  | .array _ => .flat
  | .object entries => if (entries.lookup "epics").isSome then .backlog else .unknown
  | .null | .boolean _ | .number _ | .string _ => .unknown

/-- The operator `??`. -/
def nullish (value : Option Json) (default : Json) : Json :=
  match value with
  | none | some .null => default
  | some value => value

/-- A text whose method is called.  A value that counts as false is not asked for it, and no
other value has it. -/
def textFor (callee : String) : Option Json -> Except String (Option String)
  | none => .ok none
  | some (.string text) => .ok (if text = "" then none else some text)
  | some value =>
      if Coercions.truthy value then .error (callee ++ " is not a function") else .ok none

def warn (file : String) (field : Option String) (severity : ParseWarningSeverity)
    (message : String) : ParseWarning where
  file := file
  field := field
  message := .string message
  severity := severity

def candidateOf (fields : List (String × Option CandidateValue)) : Candidate :=
  fields.filterMap fun field => field.2.map fun value => (field.1, value)

/-- What a field is taken for: it is kept if it counts as true, and a list only if its
length is above zero. -/
inductive FieldKind where
  | text
  | list
deriving DecidableEq

structure MappedField where
  key : String
  target : String
  kind : FieldKind
deriving DecidableEq

def metadataFields : List MappedField :=
  [{ key := "blocks", target := "blocks", kind := .list },
    { key := "goal", target := "goal", kind := .text },
    { key := "in_scope", target := "inScope", kind := .list },
    { key := "out_scope", target := "outScope", kind := .list },
    { key := "validation", target := "validation", kind := .text },
    { key := "risks", target := "risks", kind := .text },
    { key := "owner", target := "owner", kind := .text },
    { key := "ai_exec", target := "aiExecutable", kind := .text },
    { key := "human_review", target := "humanReview", kind := .text },
    { key := "epic", target := "epic", kind := .text },
    { key := "status", target := "status", kind := .text }]

section

variable (coercions : Coercions)

/-- The conditions `raw.field` and `raw.field && raw.field.length > 0`. -/
def kept (kind : FieldKind) : Option Json -> Except String (Option Json)
  | none => .ok none
  | some value =>
      if Coercions.truthy value then
        match kind with
        | .text => .ok (some value)
        | .list => do
            let positive <- Coercions.lengthIsPositive coercions value
            return if positive then some value else none
      else
        .ok none

def keptFields (raw : Json) : List MappedField -> Except String (List (String × Json))
  | [] => .ok []
  | field :: rest => do
      let value <- kept coercions field.kind (raw.field? field.key)
      let others <- keptFields raw rest
      return (value.map fun value => (field.target, value)).toList ++ others

def validated (prefixed : Json -> String -> Except String String) (ref : Json)
    (source : String) (warnings : List ParseWarning) (candidate : Candidate) :
    Except String ParseJsonTaskResult :=
  match safeParseTask candidate with
  | .ok task => .ok { task := some task, warnings := warnings }
  | .error issues => do
      let reports <- issues.mapM fun issue => do
        let message <- prefixed ref issue.message
        return warn source (some (pathText issue.path)) .error message
      return { task := none, warnings := warnings ++ reports }

/-!
## The format of the backlog
-/

def taskPrefix (ref : Json) (message : String) : Except String String := do
  let text <- Coercions.textOf coercions ref
  return "Task " ++ text ++ ": " ++ message

def refused (source field : String) (ref : Json) (message : String) :
    Except String ParseJsonTaskResult := do
  let message <- taskPrefix coercions ref message
  return { task := none, warnings := [warn source (some field) .error message] }

def priorityWarnings (source : String) (ref : Json) (priority : Option String)
    (mapped : Option CandidateValue) : Except String (List ParseWarning) :=
  match priority, mapped with
  | some raw, none => do
      let message <- taskPrefix coercions ref
        ("could not map priority \"" ++ raw ++ "\", using default")
      return [warn source (some "priority") .warning message]
  | _, _ => .ok []

variable (toLowerCase : String -> String)

/-- The fields of an entry that are set, under the names that a task has for them. -/
def backlogCandidate (raw : Json) (source title : String) (mappedType : CandidateValue)
    (description : Option Json) (mappedPriority : Option CandidateValue)
    (dependencies acceptanceCriteria suggestedFileScope : Option Json)
    (metadata : List (String × Json)) : Candidate :=
  candidateOf
    [("title", some (.json (.string title))),
      ("taskType", some mappedType),
      ("externalRef", (raw.field? "id").map .json),
      ("source", some (.json (.string source))),
      ("description", description.map .json),
      ("priority", mappedPriority),
      ("dependencies", dependencies.map .json),
      ("acceptanceCriteria", acceptanceCriteria.map .json),
      ("suggestedFileScope", suggestedFileScope.map .json),
      ("metadata", if metadata = [] then none else some (.json (.object metadata)))]

def mapTypedTask (raw : Json) (source : String) (ref : Json) (title : String)
    (mappedType : CandidateValue) : Except String ParseJsonTaskResult := do
  let priority <- textFor "rawPriority.toLowerCase" (raw.field? "priority")
  let mappedPriority := priority.bind (mapPriority toLowerCase)
  let warnings <- priorityWarnings coercions source ref priority mappedPriority
  let description <- kept coercions .text (raw.field? "desc")
  let dependencies <- kept coercions .list (raw.field? "deps")
  let acceptanceCriteria <- kept coercions .list (raw.field? "criteria")
  let suggestedFileScope <- kept coercions .list (raw.field? "context")
  let metadata <- keptFields coercions raw metadataFields
  validated (taskPrefix coercions) ref source warnings
    (backlogCandidate raw source title mappedType description mappedPriority dependencies
      acceptanceCriteria suggestedFileScope metadata)

def mapBacklogTask (raw : Json) (source : String) : Except String ParseJsonTaskResult := do
  let ref := nullish (raw.field? "id") (.string "unknown")
  let title <- textFor "raw.title.trim" (raw.field? "title")
  match (title.map trimmed).filter fun title => title ≠ "" with
  | none => refused coercions source "title" ref "missing required field \"title\""
  | some title => do
      let type <- textFor "rawType.toLowerCase" (raw.field? "type")
      match type.bind (mapTaskType toLowerCase) with
      | none => do
          let shown <- Coercions.textOf coercions (nullish (raw.field? "type") (.string ""))
          refused coercions source "type" ref
            ("could not map type \"" ++ shown ++ "\" to a known task type")
      | some mappedType => mapTypedTask coercions toLowerCase raw source ref title mappedType

def mapBacklogEntry (source : String) : Json -> Except String ParseJsonTaskResult
  | .null | .boolean _ | .number _ | .string _ =>
      .ok
        { task := none
          warnings := [warn source none .warning "Skipping non-object entry in tasks array"] }
  | raw => mapBacklogTask coercions toLowerCase raw source

/-!
## The flat format
-/

/-- The own members of an object, and of an array its items. -/
def spread : Json -> List (String × Json)
  | .object entries => entries
  | .array items => items.zipIdx.map fun entry => (toString entry.2, entry.1)
  | .null | .boolean _ | .number _ | .string _ => []

def quotedPrefix (ref : Json) (message : String) : Except String String := do
  let text <- Coercions.textOf coercions ref
  return "Task \"" ++ text ++ "\": " ++ message

def mapFlatTask (raw : Json) (index : Nat) (source : String) :
    Except String ParseJsonTaskResult :=
  match raw with
  | .null | .boolean _ | .number _ | .string _ =>
      .ok
        { task := none
          warnings := [warn source none .error
            ("Entry at index " ++ toString index ++ ": expected an object, got " ++
              typeOf (some raw))] }
  | .array _ | .object _ =>
      -- A source of its own comes last and is the one that is found.
      let candidate := (spread raw ++ [("source", Json.string source)]).map fun entry =>
        (entry.1, CandidateValue.json entry.2)
      let ref := nullish (raw.field? "externalRef")
        (nullish (raw.field? "title") (.string ("index " ++ toString index)))
      validated (quotedPrefix coercions) ref source [] candidate

/-!
## Documents
-/

def firstEpic : Option Json -> Except String Unit
  | some (.array (.null :: _)) => .error "Cannot read properties of null (reading 'title')"
  | _ => .ok ()

def buildManifest (sourcePath : String) (tasks : List Json) (warnings : List ParseWarning)
    (rootData : Option Json) : Except String ImportManifest := do
  firstEpic (rootData.bind fun data => data.field? "epics")
  let manifest :=
    { sourcePath := sourcePath
      formatVersion := (rootData.bind fun data => data.field? "generated").bind Json.asString?
      tasks := tasks
      warnings := warnings
      discoveredProjectName := none }
  match safeParseManifest manifest with
  | .ok parsed => return parsed
  | .error issues =>
      return { manifest with
        formatVersion := none
        warnings := warnings ++ [warn sourcePath none .error
          ("Manifest validation failed: " ++
            ", ".intercalate (issues.map fun issue => issue.message))] }

def manifestOf (sourcePath : String) (rootData : Option Json)
    (results : List ParseJsonTaskResult) : Except String ImportManifest :=
  buildManifest sourcePath (results.filterMap ParseJsonTaskResult.task)
    (results.flatMap ParseJsonTaskResult.warnings) rootData

def parseBacklogJsonData (data : Json) (sourcePath : String) :
    Except String ImportManifest :=
  match data.field? "tasks" with
  | some (.array rawTasks) => do
      let results <- rawTasks.mapM (mapBacklogEntry coercions toLowerCase sourcePath)
      manifestOf sourcePath (some data) results
  | _ =>
      buildManifest sourcePath []
        [warn sourcePath (some "tasks") .error "Root object has no \"tasks\" array"] (some data)

def parseFlatJsonData (data : List Json) (sourcePath : String) :
    Except String ImportManifest := do
  let results <- data.zipIdx.mapM fun entry => mapFlatTask coercions entry.1 entry.2 sourcePath
  manifestOf sourcePath none results

/-- The content is what the file system returns, or the message of its error. -/
def parseJsonTasks (jsonParse : String -> Except String Json) (sourcePath : String)
    (content : Except String String) : Except String ImportManifest :=
  let failed (message : String) :=
    buildManifest sourcePath [] [warn sourcePath none .error message] none
  match content with
  | .error message => failed ("Failed to read file: " ++ message)
  | .ok content =>
      match jsonParse content with
      | .error message => failed ("Invalid JSON: " ++ message)
      | .ok data =>
          match detectJsonFormat data with
          | .backlog => parseBacklogJsonData coercions toLowerCase data sourcePath
          | .flat => parseFlatJsonData coercions (Json.itemsOf (some data)) sourcePath
          | .unknown =>
              failed ("Unrecognized JSON format: expected an object with an \"epics\" key " ++
                "(backlog.json) or a plain array (flat format)")

end

end Importing
end CopilotFactory
