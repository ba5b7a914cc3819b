import CopilotFactory.Foundations.Batches
import CopilotFactory.Foundations.Texts
import CopilotFactory.Importing.TaskImport

/-!
# AI task classifier

Imported tasks are classified in batches.  Each batch is sent to a service and is sent again
while the service is busy; what the service does not answer well is classified by fixed
rules.  What is sent does not decide what may be answered, and neither do the times that are
waited, so both are left out.  The parsing of JSON and the case of letters are parameters.
-/

namespace CopilotFactory
namespace Importing

open Foundations

structure TaskClassificationInput where
  rawType : Option String
  rawStatus : Option String
deriving DecidableEq

/-- A value of a field of a result: a text, or one of the members that every object has. -/
inductive FieldValue where
  | text (value : String)
  | inherited (name : String)
deriving DecidableEq

structure TaskClassificationResult where
  taskType : FieldValue
  status : FieldValue
deriving DecidableEq

/-- The service is asked again at most so often.  The limit is any number there is. -/
inductive RetryLimit where
  | finite (value : Rat)
  | infinity
  | negativeInfinity
  | nan
deriving DecidableEq

def RetryLimit.allows : RetryLimit -> Nat -> Bool
  | .finite value, attempt => (attempt : Rat) ≤ value
  | .infinity, _ => true
  | .negativeInfinity, _ | .nan, _ => false

def RetryLimit.equals : RetryLimit -> Nat -> Bool
  | .finite value, attempt => (attempt : Rat) = value
  | .infinity, _ | .negativeInfinity, _ | .nan, _ => false

inductive HttpAnswer where
  | failed (message : String)
  /-- The status is not one of success; the body may be unreadable. -/
  | notOk (status : Nat) (body : Except String String)
  | ok (json : Except String Json)

def batchSize : Nat := 20

def defaultMaxRetries : RetryLimit := .finite 3

def retryableStatusCodes : List Nat := [429, 503]

structure ClassificationError where
  message : String
  retryable : Bool
deriving DecidableEq

def fatal (message : String) : ClassificationError where
  message := message
  retryable := false

/-- The first code units of a text.  No character is cut in two. -/
def firstUnits : Nat -> List Char -> List Char
  | _, [] => []
  | n, c :: rest =>
      let size := if c.toNat < 0x10000 then 1 else 2
      if size ≤ n then c :: firstUnits (n - size) rest else []

/-!
## Deterministic fallback
-/

def statusMap : List (String × String) :=
  [("done", "DONE"), ("completed", "DONE"), ("complete", "DONE"), ("finished", "DONE"),
    ("merged", "DONE"), ("closed", "DONE"), ("shipped", "DONE"), ("resolved", "DONE"),
    ("implemented", "DONE"), ("cancelled", "CANCELLED"), ("canceled", "CANCELLED"),
    ("abandoned", "CANCELLED"), ("won't do", "CANCELLED"), ("wontdo", "CANCELLED"),
    ("dropped", "CANCELLED"), ("rejected", "CANCELLED"), ("obsolete", "CANCELLED")]

def typeFallbackMap : List (String × String) :=
  [("feature", "feature"), ("enhancement", "feature"), ("improvement", "feature"),
    ("bug_fix", "bug_fix"), ("bugfix", "bug_fix"), ("bug fix", "bug_fix"), ("bug", "bug_fix"),
    ("fix", "bug_fix"), ("refactor", "refactor"), ("refactoring", "refactor"),
    ("chore", "chore"), ("maintenance", "chore"), ("foundation", "chore"),
    ("infrastructure", "chore"), ("config", "chore"), ("configuration", "chore"),
    ("observability", "chore"), ("setup", "chore"), ("documentation", "documentation"),
    ("docs", "documentation"), ("test", "test"), ("testing", "test"), ("validation", "test"),
    ("spike", "spike"), ("research", "spike"), ("investigation", "spike"),
    ("exploration", "spike"), ("integration", "feature")]

def lookupOr (map : List (String × String)) (key default : String) : FieldValue :=
  match Records.member Records.inheritedMembers map key with
  | .own value => .text value
  | .inherited => .inherited key
  | .missing => .text default

section

variable (toLowerCase toUpperCase : String -> String)

def mapKey (raw : Option String) : String :=
  match raw with
  | none => ""
  | some word => String.ofList (trim (toLowerCase word).toList)

def deterministicFallback (input : TaskClassificationInput) : TaskClassificationResult where
  taskType := lookupOr typeFallbackMap (mapKey toLowerCase input.rawType) "chore"
  status := lookupOr statusMap (mapKey toLowerCase input.rawStatus) "BACKLOG"

/-!
## Normalization
-/

/-- What is done with a text that is not empty.  Other values that count as false are taken
as missing, and the rest has no method for texts. -/
def withText (method : String) (f : String -> Option String) :
    Option Json -> Except String (Option String)
  | none | some .null | some (.boolean false) => .ok none
  | some (.string raw) => .ok (if raw = "" then none else f raw)
  | some (.number value) =>
      if value = 0 then .ok none else .error ("raw." ++ method ++ " is not a function")
  | some (.boolean true) | some (.array _) | some (.object _) =>
      .error ("raw." ++ method ++ " is not a function")

def normalizeTaskType : Option Json -> Except String (Option String) :=
  withText "toLowerCase" fun raw =>
    let lower := String.ofList (trim (toLowerCase raw).toList)
    if lower ∈ validTaskTypes then
      some lower
    else if lower = "bugfix" ∨ lower = "bug fix" ∨ lower = "bug" then
      some "bug_fix"
    else if lower = "docs" then
      some "documentation"
    else if lower = "research" then
      some "spike"
    else
      none

def normalizeStatus : Option Json -> Except String (Option String) :=
  withText "toUpperCase" fun raw =>
    let upper := String.ofList (trim (toUpperCase raw).toList)
    if upper ∈ validStatuses then some upper else none

def normalizeEntry : Json -> Except String TaskClassificationResult
  | .null => .error "Cannot read properties of null (reading 'taskType')"
  | entry => do
      let taskType ← normalizeTaskType toLowerCase (entry.field? "taskType")
      let status ← normalizeStatus toUpperCase (entry.field? "status")
      pure
        { taskType := .text (taskType.getD "chore")
          status := .text (status.getD "BACKLOG") }

/-!
## Response parsing
-/

def fence : List Char :=
  "```".toList

/-- A fence that opens a block of code, with the name of the language and the space after
it. -/
def dropOpeningFence (text : List Char) : List Char :=
  if fence.isPrefixOf text then
    let rest := text.drop 3
    let body :=
      if (rest.take 4).map Char.toLower = "json".toList then rest.drop 4 else rest
    body.dropWhile isSpace
  else
    text

/-- A fence that closes a block of code at the end of the text, with the new line before
it. -/
def dropClosingFence (text : List Char) : List Char :=
  let reversed := text.reverse.dropWhile isSpace
  if fence.isPrefixOf reversed then
    let before := reversed.drop 3
    (if before.head? = some '\n' then before.drop 1 else before).reverse
  else
    text

/-- From the first of one character to the last of another one. -/
def spanOf (first last : Char) (text : List Char) : Option (List Char) :=
  match text.idxOf? first, text.reverse.idxOf? last with
  | some start, some behind => some ((text.take (text.length - behind)).drop start)
  | _, _ => none

variable (jsonParse : String -> Except String Json)

def parseClassificationResponse (content : List Char) :
    Except String (List TaskClassificationResult) :=
  match spanOf '[' ']' (dropClosingFence (dropOpeningFence content)) with
  | none => .error "No JSON array found in response"
  | some cleaned => do
      match ← jsonParse (String.ofList cleaned) with
      | .array items => items.mapM (normalizeEntry toLowerCase toUpperCase)
      | _ => .error "Parsed response is not an array"

/-- The first of the choices, where there is one.  Of a text it would be a character, which
has no message. -/
def firstChoice (choices : Option Json) : Option Json :=
  match choices with
  | some (.array items) => items.head?
  | some (.object entries) => entries.lookup "0"
  | _ => none

def responseContent : Json -> Except String (List Char)
  | .null => .error "Cannot read properties of null (reading 'choices')"
  | data =>
      match ((firstChoice (data.field? "choices")).bind (Json.field? "message")).bind
          (Json.field? "content") with
      | none | some .null => .error "Empty response from GitHub Models API"
      | some (.string content) =>
          if trim content.toList = [] then
            .error "Empty response from GitHub Models API"
          else
            .ok (trim content.toList)
      | some _ => .error "data.choices?.[0]?.message?.content?.trim is not a function"

def answerResults : HttpAnswer -> Except ClassificationError (List TaskClassificationResult)
  | .failed message => .error (fatal message)
  | .notOk status body =>
      let text := body.toOption.getD ""
      .error
        { message := s!"GitHub Models API returned {status}: "
            ++ String.ofList (firstUnits 200 text.toList)
          retryable := status ∈ retryableStatusCodes }
  | .ok json =>
      (do
        let data ← json
        let content ← responseContent data
        parseClassificationResponse toLowerCase toUpperCase jsonParse content).mapError fatal

/-!
## Batches
-/

/-- The results for a batch: tasks that the answer leaves out are classified by the rules,
and entries for which there is no task are dropped. -/
def fillBatch (batch : List TaskClassificationInput)
    (parsed : List TaskClassificationResult) : List TaskClassificationResult :=
  (parsed ++ (batch.drop parsed.length).map (deterministicFallback toLowerCase)).take
    batch.length

def classifyBatch (batch : List TaskClassificationInput) (answer : HttpAnswer) :
    Except ClassificationError (List TaskClassificationResult) := do
  let parsed ← answerResults toLowerCase toUpperCase jsonParse answer
  pure (fillBatch toLowerCase batch parsed)

structure Classification where
  results : List TaskClassificationResult
  warnings : List ParseWarning
deriving DecidableEq

def Classification.append (all classified : Classification) : Classification where
  results := all.results ++ classified.results
  warnings := all.warnings ++ classified.warnings

variable (maxRetries : RetryLimit)

/-- The attempts for one batch, whose answers are given one after the other.  A batch ends
without a result only if it needs more attempts than there is fuel. -/
def classifyAttempts (batchNumber : Nat) (batch : List TaskClassificationInput)
    (answers : Nat -> HttpAnswer) : (fuel attempt : Nat) -> Option Classification
  | 0, _ => none
  | fuel + 1, attempt =>
      let fallback := batch.map (deterministicFallback toLowerCase)
      if maxRetries.allows attempt then
        match classifyBatch toLowerCase toUpperCase jsonParse batch (answers attempt) with
        | .ok batchResults => some { results := batchResults, warnings := [] }
        | .error err =>
            if !err.retryable || maxRetries.equals attempt then
              some
                { results := fallback
                  warnings :=
                    [{ file := "ai-classifier"
                       field := some "classification"
                       message := .string (s!"AI classification failed for batch {batchNumber}: "
                         ++ err.message ++ ". Using deterministic fallback for this batch.")
                       severity := .warning }] }
            else
              classifyAttempts batchNumber batch answers fuel (attempt + 1)
      else
        some { results := fallback, warnings := [] }

/-- The answers are given batch by batch, and attempt by attempt.  Without a token nothing
is sent. -/
def classifyImportedTasks (fuel : Nat) (token : Option String)
    (retries : Option RetryLimit) (answers : Nat -> Nat -> HttpAnswer)
    (tasks : List TaskClassificationInput) : Option Classification :=
  if tasks = [] then
    some { results := [], warnings := [] }
  else if token.getD "" = "" then
    some
      { results := tasks.map (deterministicFallback toLowerCase)
        warnings :=
          [{ file := "ai-classifier"
             field := some "auth"
             message := .string ("GitHub token not available — falling back to deterministic "
               ++ "classification. Run `gh auth login` to enable AI-powered task classification.")
             severity := .info }] }
  else
    (List.range (Batches.batchCount batchSize tasks)).foldlM (fun all b => do
      let classified ← classifyAttempts toLowerCase toUpperCase jsonParse
        (retries.getD defaultMaxRetries) (b + 1) (Batches.batch batchSize tasks b)
        (answers b) fuel 0
      some (all.append classified)) { results := [], warnings := [] }

end

end Importing
end CopilotFactory
