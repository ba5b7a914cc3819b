import CopilotFactory.Importing.DependencyRefs
import CopilotFactory.Importing.JsonTaskParser

/-!
# Markdown task parser

A task is read from a Markdown file: from a table of its metadata or from bold words before
the first section, and from the sections with the headings that are known.  The case of
letters is a parameter.
-/

namespace CopilotFactory
namespace Importing

open Foundations
open Foundations.Zod
open Records

/-!
## Lines
-/

def linesOf (text : List Char) : List (List Char) :=
  text.splitOn '\n'

/-- The pattern `^#{level}\s+`. -/
def isHeading (level : Nat) (line : List Char) : Bool :=
  line.take level = List.replicate level '#' && (line.drop level).head?.any isSpace

/-- The group of `\s*(.+)` at the end of a line that was trimmed. -/
def restOfLine (text : List Char) : Option (List Char) :=
  let rest := (text.dropWhile isSpace).takeWhile fun c =>
    c.toNat ∉ [0x0A, 0x0D, 0x2028, 0x2029]
  if rest.isEmpty then none else some rest

def someText (text : List Char) : Option String :=
  if text.isEmpty then none else some (String.ofList text)

section

variable (toLowerCase : String -> String)

/-!
## The metadata table
-/

def cellsOf (line : List Char) : Option (List (List Char)) :=
  if line.head? = some '|' && line.getLast? = some '|' then
    some (((line.splitOn '|').drop 1).dropLast.map trim)
  else
    none

def withoutBold : List Char -> List Char
  | '*' :: '*' :: rest => withoutBold rest
  | c :: rest => c :: withoutBold rest
  | [] => []

def isSeparatorRow (cells : List (List Char)) : Bool :=
  cells.all fun cell => !cell.isEmpty && cell.all fun c => c = '-' || c = ':'

def rowEntry (name value : List Char) : Option (String × String) :=
  let fieldName := toLowerCase (String.ofList (trim (withoutBold name)))
  if fieldName ≠ "" ∧ value ≠ [] then some (fieldName, String.ofList value) else none

/-- The entries of the first table.  Rows of one cell are skipped, and a header that comes
before the table has begun. -/
def tableEntries : Bool -> List (List Char) -> List (String × String)
  | _, [] => []
  | inTable, line :: rest =>
      match cellsOf (trim line) with
      | none => if inTable then [] else tableEntries false rest
      | some (name :: value :: more) =>
          if isSeparatorRow (name :: value :: more) then
            tableEntries true rest
          else if !inTable && toLowerCase (String.ofList (withoutBold name)) = "field" then
            tableEntries false rest
          else
            (rowEntry toLowerCase name value).toList ++ tableEntries true rest
      | some _ => tableEntries inTable rest

def parseMetadataTable (content : List Char) : List (String × String) :=
  mapOf (tableEntries toLowerCase false (linesOf content))

/-!
## Bold metadata
-/

/-- The patterns `^\*\*([^*]+?):\*\*\s*(.+)` and `^\*\*([^*]+?)\*\*:\s*(.+)`.  The first group
ends before the next asterisk. -/
def boldGroups (line : List Char) : Option (List Char × List Char) :=
  match line with
  | '*' :: '*' :: inner =>
      let key := inner.takeWhile (fun c => c ≠ '*')
      let after := inner.dropWhile (fun c => c ≠ '*')
      let groups (key : List Char) (rest : List Char) :=
        if key.isEmpty then none else (restOfLine rest).map fun value => (key, value)
      let inside :=
        if key.getLast? = some ':' && after.take 2 = ['*', '*'] then
          groups key.dropLast (after.drop 2)
        else
          none
      inside.or
        (if after.take 3 = ['*', '*', ':'] then groups key (after.drop 3) else none)
  | _ => none

/-- One backtick at each end is taken off. -/
def withoutBackticks (text : List Char) : List Char :=
  let text := if text.head? = some '\x60' then text.drop 1 else text
  if text.getLast? = some '\x60' then text.dropLast else text

def boldEntry (line : List Char) : Option (String × String) :=
  match boldGroups line with
  | none => none
  | some (key, value) =>
      let key := toLowerCase (String.ofList (trim key))
      let value := withoutBackticks (trim value)
      if key ≠ "" ∧ value ≠ [] then some (key, String.ofList value) else none

def parseBoldMetadata (content : List Char) : List (String × String) :=
  mapOf ((((linesOf content).map trim).takeWhile fun line => !isHeading 2 line).filterMap
    fun line => if line.head? = some '|' then none else boldEntry toLowerCase line)

/-!
## Sections
-/

def sectionLines (heading : String) : Bool -> List (List Char) -> List (List Char)
  | _, [] => []
  | capturing, line :: rest =>
      if isHeading 2 (trim line) then
        if capturing then
          []
        else
          sectionLines heading
            (toLowerCase (String.ofList (trim ((trim line).drop 2))) = toLowerCase heading) rest
      else if capturing then
        if isHeading 1 (trim line) then [] else line :: sectionLines heading true rest
      else
        sectionLines heading false rest

def extractSection (content : List Char) (heading : String) : Option (List Char) :=
  let result := trim (['\n'].intercalate
    (sectionLines toLowerCase heading false (linesOf content)))
  if result.isEmpty then none else some result

end

/-- The pattern `^[-*]\s+\[[ xX]\]\s+(.+)`. -/
def checkboxItem (line : List Char) : Option String :=
  match line with
  | bullet :: rest =>
      match rest.dropWhile isSpace with
      | '[' :: mark :: ']' :: after =>
          if bullet ∈ ['-', '*'] && rest.head?.any isSpace && mark ∈ [' ', 'x', 'X'] &&
              after.head?.any isSpace then
            (restOfLine after).map fun item => String.ofList (trim item)
          else
            none
      | _ => none
  | [] => none

def extractCheckboxItems (content : List Char) : List String :=
  (linesOf content).filterMap fun line => checkboxItem (trim line)

/-- The lookahead `(?=-[a-zA-Z]|\.md$)`. -/
def endsRef : List Char -> Bool
  | '-' :: c :: _ => c.isAlpha
  | rest => rest = ['.', 'm', 'd']

/-- The shortest text of `[\w-]*?` that ends where a reference ends. -/
def shortestRef : List Char -> Option (List Char)
  | [] => none
  | c :: rest =>
      if endsRef (c :: rest) then
        some []
      else if isRefChar c then
        (shortestRef rest).map fun ref => c :: ref
      else
        none

/-- The pattern `^([A-Za-z]+\d[\w-]*?)(?=-[a-zA-Z]|\.md$)`. -/
def extractExternalRef (filename : String) : Option String :=
  let name := filename.toList
  let start := (name.takeWhile Char.isAlpha).length + 1
  if startsRef name then
    (shortestRef (name.drop start)).map fun ref => String.ofList (name.take start ++ ref)
  else
    none

/-- The pattern of a path in backticks that ends with a dot and letters. -/
def pathPattern : Pattern Char (List Char) := fun _ text =>
  match text with
  | '\x60' :: rest =>
      let path := rest.takeWhile (fun c => c ≠ '\x60')
      let ending := path.reverse.takeWhile Char.isAlpha
      let stem := path.reverse.dropWhile Char.isAlpha
      if path.length < rest.length && !ending.isEmpty && stem.head? = some '.' &&
          1 < stem.length then
        some (path, path.length + 2)
      else
        none
  | _ => none

def extractFileReferences (content : List Char) : List String :=
  ((linesOf content).flatMap fun line =>
    (execAll pathPattern 0 line).map fun m => String.ofList m.group).eraseDups

/-!
## The title
-/

/-- The text without a prefix `^T\d+[\s]*[:–-]\s*`. -/
def withoutTaskId (title : List Char) : List Char :=
  match title with
  | 'T' :: rest =>
      match (rest.dropWhile Char.isDigit).dropWhile isSpace with
      | c :: after =>
          if rest.head?.any Char.isDigit && c ∈ [':', '–', '-'] then
            after.dropWhile isSpace
          else
            title
      | [] => title
  | _ => title

/-- The first heading of level one is the title, and else it is made of the id. -/
def extractTitle (content : List Char) (metadata : List (String × String)) : Option String :=
  match (linesOf content).find? fun line => isHeading 1 (trim line) with
  | some line => someText (trim (withoutTaskId (trim ((trim line).drop 1))))
  | none => (metadata.lookup "id").map fun id => "Task " ++ id

/-!
## A task file
-/

section

variable (toLowerCase : String -> String)

/-- The references in a field that is not the word `none`. -/
def refsOf (raw : Option String) : Option (List String) :=
  (raw.filter fun text => toLowerCase text ≠ "none").map extractDependencyRefs

def extraFields (metadata : List (String × String)) (rawType : Option String) :
    List (String × Json) :=
  ([("status", metadata.lookup "status"), ("rawType", rawType),
      ("owner", metadata.lookup "owner"), ("epic", metadata.lookup "epic"),
      ("milestone", metadata.lookup "milestone"), ("tag", metadata.lookup "tag"),
      ("aiExecutable", metadata.lookup "ai executable"),
      ("humanReviewRequired", metadata.lookup "human review required")].filterMap
    fun field => field.2.map fun text => (field.1, Json.string text)) ++
  ((refsOf toLowerCase (metadata.lookup "blocks")).map fun refs =>
    ("blocks", Json.array (refs.map Json.string))).toList

def mappedField (filename field word : String) (raw : Option String)
    (map : String -> Option CandidateValue) (default : String) (missing : List String) :
    Option CandidateValue × List ParseWarning :=
  match raw with
  | none => (none, missing.map (warn filename (some field) .warning))
  | some text =>
      match map text with
      | some value => (some value, [])
      | none => (none, [warn filename (some field) .warning
          ("Unrecognized " ++ word ++ " \"" ++ text ++ "\". Defaulting to \"" ++ default ++
            "\".")])

def someList (texts : List String) : Option CandidateValue :=
  if texts.isEmpty then none else some (.json (.array (texts.map Json.string)))

def validatedTask (filename : String) (warnings : List ParseWarning) (candidate : Candidate) :
    ParseJsonTaskResult :=
  match safeParseTask candidate with
  | .ok task => { task := some task, warnings := warnings }
  | .error issues =>
      { task := none
        warnings := warnings ++ issues.map fun issue =>
          warn filename (some (pathText issue.path)) .error issue.message }

def parseTaskFile (content : List Char) (filename : String) : ParseJsonTaskResult :=
  let metadata :=
    mapOf (parseBoldMetadata toLowerCase content ++ parseMetadataTable toLowerCase content)
  match extractTitle content metadata with
  | none =>
      { task := none
        warnings := [warn filename (some "title") .error
          "No title found — expected an H1 heading or metadata ID field."] }
  | some title =>
      let rawType := (metadata.lookup "type").or (metadata.lookup "tag")
      let taskType := mappedField filename "taskType" "task type" rawType
        (mapTaskType toLowerCase) "chore"
        ["No Type or Tag field in metadata. Defaulting to \"chore\"."]
      let priority := mappedField filename "priority" "priority"
        (metadata.lookup "priority") (mapPriority toLowerCase) "medium" []
      let sectionOf := extractSection toLowerCase content
      let extras := extraFields toLowerCase metadata rawType
      let text (value : String) : CandidateValue := .json (.string value)
      validatedTask filename (taskType.2 ++ priority.2) <| candidateOf
        [("title", some (text title)),
          ("taskType", some (taskType.1.getD (text "chore"))),
          ("priority", priority.1),
          ("description", (someText content).map text),
          ("acceptanceCriteria",
            (sectionOf "Acceptance Criteria").bind fun s => someList (extractCheckboxItems s)),
          ("definitionOfDone",
            (sectionOf "Definition of Done").bind fun s => (someText (trim s)).map text),
          ("dependencies",
            (refsOf toLowerCase (metadata.lookup "dependencies")).bind someList),
          ("suggestedFileScope",
            (sectionOf "Context Files").bind fun s => someList (extractFileReferences s)),
          ("externalRef", (extractExternalRef filename).map text),
          ("source", some (text filename)),
          ("metadata", if extras.isEmpty then none else some (.json (.object extras)))]

/-!
## What becomes of a file
-/

def Accounted (filename : String) (result : ParseJsonTaskResult) : Prop :=
  (result.task.isSome = true <->
    forall warning, warning ∈ result.warnings -> warning.severity ≠ .error) ∧
  forall warning, warning ∈ result.warnings -> warning.file = filename

variable {filename field word default : String} {raw : Option String}

theorem mappedField_warnings {map : String -> Option CandidateValue} {missing : List String}
    {warning : ParseWarning}
    (h : warning ∈ (mappedField filename field word raw map default missing).2) :
    warning.file = filename ∧ warning.severity = .warning := by
  unfold mappedField at h
  split at h
  · rcases List.mem_map.mp h with ⟨_, _, hwarn⟩
    rw [← hwarn]
    exact ⟨rfl, rfl⟩
  · split at h
    · cases h
    · rw [List.mem_singleton.mp h]
      exact ⟨rfl, rfl⟩

theorem validatedTask_accounted {warnings : List ParseWarning} {candidate : Candidate}
    (h : forall warning, warning ∈ warnings ->
      warning.file = filename ∧ warning.severity = .warning) :
    Accounted filename (validatedTask filename warnings candidate) := by
  unfold validatedTask Accounted
  split
  · exact ⟨iff_of_true rfl (fun w hw => by simp [(h w hw).2]), fun w hw => (h w hw).1⟩
  · rename_i issues hissues
    rcases List.exists_mem_of_ne_nil issues (ne_nil_of_safeParseTask hissues) with
      ⟨issue, hissue⟩
    refine ⟨iff_of_false Bool.false_ne_true fun hno => ?_, fun w hw => ?_⟩
    · exact hno _ (List.mem_append_right _ (List.mem_map_of_mem hissue)) rfl
    · rcases List.mem_append.mp hw with hold | hnew
      · exact (h w hold).1
      · rcases List.mem_map.mp hnew with ⟨_, _, hwarn⟩
        rw [← hwarn]
        rfl

/-- Every file is read as a task, or an error of the file is reported. -/
theorem parseTaskFile_accounted (content : List Char) (filename : String) :
    Accounted filename (parseTaskFile toLowerCase content filename) := by
  unfold parseTaskFile
  dsimp only
  split
  · simp [Accounted, warn]
  · apply validatedTask_accounted
    intro warning hmem
    rcases List.mem_append.mp hmem with htype | hpriority
    · exact mappedField_warnings htype
    · exact mappedField_warnings hpriority

end

/-!
## A table that is read back
-/

def rowOf (name value : List Char) : List Char :=
  ['|'].intercalate [[], ' ' :: (name ++ [' ']), ' ' :: (value ++ [' ']), []]

/-- A field whose name is in bold and whose row is one line. -/
structure MetadataRow where
  name : List Char
  value : List Char
  name_ne : name ≠ []
  value_ne : value ≠ []
  name_trim : trim name = name
  value_trim : trim value = value
  name_free : forall c, c ∈ name -> c ∉ ['|', '*', '\n']
  value_free : forall c, c ∈ value -> c ∉ ['|', '\n']

namespace MetadataRow

variable (row : MetadataRow)

def cell : List Char :=
  ['*', '*'] ++ row.name ++ ['*', '*']

def line : List Char :=
  rowOf row.cell row.value

end MetadataRow

def entryOf (toLowerCase : String -> String) (row : MetadataRow) : String × String :=
  (toLowerCase (String.ofList row.name), String.ofList row.value)

def tableOf (rows : List MetadataRow) : List (List Char) :=
  rowOf "Field".toList "Value".toList :: rowOf "---".toList "---".toList ::
    rows.map MetadataRow.line

theorem trim_padded (text : List Char) : trim (' ' :: (text ++ [' '])) = trim text := by
  unfold trim
  rw [List.dropWhile_cons_of_pos rfl, List.dropWhile_append]
  split
  next hempty => simp [List.isEmpty_iff.mp hempty, isSpace]
  next => rw [List.reverse_append, List.reverse_singleton, List.singleton_append,
    List.dropWhile_cons_of_pos rfl]

theorem trim_rowOf (name value : List Char) : trim (rowOf name value) = rowOf name value := by
  simp [trim, rowOf, List.intercalate, isSpace]

theorem cellsOf_rowOf {name value : List Char} (hname : '|' ∉ name) (hvalue : '|' ∉ value) :
    cellsOf (trim (rowOf name value)) = some [trim name, trim value] := by
  have hsplit : (rowOf name value).splitOn '|' =
      [[], ' ' :: (name ++ [' ']), ' ' :: (value ++ [' ']), []] :=
    List.splitOn_intercalate '|' (by simp [hname, hvalue]) (by simp)
  have hends : rowOf name value =
      ('|' :: ' ' :: (name ++ ' ' :: '|' :: ' ' :: (value ++ [' ']))) ++ ['|'] := by
    simp [rowOf, List.intercalate]
  rw [trim_rowOf, cellsOf, hsplit, if_pos (by rw [hends, List.getLast?_concat]; rfl)]
  simp [trim_padded]

theorem withoutBold_append {name : List Char} (h : '*' ∉ name) :
    withoutBold (name ++ ['*', '*']) = name := by
  induction name with
  | nil => rfl
  | cons c rest ih =>
      rw [List.cons_append, withoutBold, ih (fun hmem => h (List.mem_cons_of_mem _ hmem))]
      rintro _ rfl
      exact absurd List.mem_cons_self h

variable {toLowerCase : String -> String} {before after : List (List Char)}

namespace MetadataRow

variable (row : MetadataRow)

theorem cellsOf_line : cellsOf (trim row.line) = some [row.cell, row.value] := by
  have hbar : '|' ∉ row.cell := by
    simpa [cell] using fun h => row.name_free '|' h (by simp)
  have htrim : trim row.cell = row.cell := by simp [cell, trim, isSpace]
  rw [line, cellsOf_rowOf hbar fun h => row.value_free '|' h (by simp), htrim, row.value_trim]

theorem not_mem_line : '\n' ∉ row.line := by
  have hname : '\n' ∉ row.name := fun h => row.name_free '\n' h (by simp)
  have hvalue : '\n' ∉ row.value := fun h => row.value_free '\n' h (by simp)
  simp [line, rowOf, cell, List.intercalate, hname, hvalue]

theorem rowEntry_cell (hlower : forall text, text ≠ "" -> toLowerCase text ≠ "") :
    rowEntry toLowerCase row.cell row.value = some (entryOf toLowerCase row) := by
  have hname : withoutBold row.cell = row.name :=
    withoutBold_append fun h => row.name_free '*' h (by simp)
  have hne : String.ofList row.name ≠ "" := by
    simpa [← String.toList_inj] using row.name_ne
  simp [rowEntry, hname, row.name_trim, hlower _ hne, row.value_ne, entryOf]

end MetadataRow

/-- The rows after the separator are read until the table ends. -/
theorem tableEntries_rows (hlower : forall text, text ≠ "" -> toLowerCase text ≠ "")
    (hafter : forall line, line ∈ after.head? -> cellsOf (trim line) = none)
    (rows : List MetadataRow) :
    tableEntries toLowerCase true (rows.map MetadataRow.line ++ after) =
      rows.map (entryOf toLowerCase) := by
  induction rows with
  | nil =>
      cases after with
      | nil => rfl
      | cons line rest => simp [tableEntries, hafter line rfl]
  | cons row rest ih =>
      have hrow : isSeparatorRow [row.cell, row.value] = false := by
        simp [isSeparatorRow, MetadataRow.cell]
      rw [List.map_cons, List.cons_append, tableEntries, row.cellsOf_line]
      simp [hrow, row.rowEntry_cell hlower, ih]

theorem tableEntries_before (rest : List (List Char))
    (hbefore : forall line, line ∈ before -> cellsOf (trim line) = none) :
    tableEntries toLowerCase false (before ++ rest) = tableEntries toLowerCase false rest := by
  induction before with
  | nil => rfl
  | cons line lines ih =>
      rw [List.cons_append, tableEntries, hbefore line List.mem_cons_self]
      exact ih fun l hmem => hbefore l (List.mem_cons_of_mem _ hmem)

theorem linesOf_table (rows : List MetadataRow)
    (hlines : forall line, line ∈ before ++ after -> '\n' ∉ line) :
    linesOf (['\n'].intercalate (before ++ (tableOf rows ++ after))) =
      before ++ (tableOf rows ++ after) := by
  apply List.splitOn_intercalate '\n' _ (by simp [tableOf])
  intro line hmem
  simp only [tableOf, List.mem_append, List.mem_cons, List.mem_map] at hmem
  obtain hmem | (rfl | rfl | ⟨row, _, rfl⟩) | hmem := hmem
  · exact hlines line (List.mem_append_left _ hmem)
  · decide
  · decide
  · exact row.not_mem_line
  · exact hlines line (List.mem_append_right _ hmem)

theorem tableEntries_tableOf (hfield : toLowerCase "Field" = "field")
    (hlower : forall text, text ≠ "" -> toLowerCase text ≠ "")
    (hafter : forall line, line ∈ after.head? -> cellsOf (trim line) = none)
    (rows : List MetadataRow) :
    tableEntries toLowerCase false (tableOf rows ++ after) =
      rows.map (entryOf toLowerCase) := by
  have hname : cellsOf (trim (rowOf "Field".toList "Value".toList)) =
      some ["Field".toList, "Value".toList] :=
    cellsOf_rowOf (by decide) (by decide)
  have hdashes : cellsOf (trim (rowOf "---".toList "---".toList)) =
      some ["---".toList, "---".toList] :=
    cellsOf_rowOf (by decide) (by decide)
  have hheader : toLowerCase (String.ofList (withoutBold ['F', 'i', 'e', 'l', 'd'])) = "field" :=
    hfield
  rw [tableOf, List.cons_append, tableEntries, hname, List.cons_append, tableEntries, hdashes,
    ← tableEntries_rows hlower hafter rows]
  simp [isSeparatorRow, hheader]

/-- A table of metadata is read back, whatever stands around it: under a name the value of
the last row with this name, and row by row if no name comes twice. -/
theorem parseMetadataTable_rows (hfield : toLowerCase "Field" = "field")
    (hlower : forall text, text ≠ "" -> toLowerCase text ≠ "")
    (hbefore : forall line, line ∈ before -> cellsOf (trim line) = none)
    (hafter : forall line, line ∈ after.head? -> cellsOf (trim line) = none)
    (hlines : forall line, line ∈ before ++ after -> '\n' ∉ line)
    (rows : List MetadataRow) :
    (forall name,
      (parseMetadataTable toLowerCase
          (['\n'].intercalate (before ++ (tableOf rows ++ after)))).lookup name =
        (rows.map (entryOf toLowerCase)).reverse.lookup name) ∧
    (((rows.map (entryOf toLowerCase)).map Prod.fst).Nodup ->
      parseMetadataTable toLowerCase
          (['\n'].intercalate (before ++ (tableOf rows ++ after))) =
        rows.map (entryOf toLowerCase)) := by
  have hparse : parseMetadataTable toLowerCase
      (['\n'].intercalate (before ++ (tableOf rows ++ after))) =
        mapOf (rows.map (entryOf toLowerCase)) := by
    rw [parseMetadataTable, linesOf_table rows hlines, tableEntries_before _ hbefore,
      tableEntries_tableOf hfield hlower hafter]
  rw [hparse]
  exact ⟨lookup_mapOf _, mapOf_of_nodup⟩

def typeRow : MetadataRow where
  name := "Type".toList
  value := "bug".toList
  name_ne := by decide
  value_ne := by decide
  name_trim := by decide
  value_trim := by decide
  name_free := by simp
  value_free := by simp

def priorityRow : MetadataRow where
  name := "Priority".toList
  value := "high".toList
  name_ne := by decide
  value_ne := by decide
  name_trim := by decide
  value_trim := by decide
  name_free := by simp
  value_free := by simp

def lowerAscii (text : String) : String :=
  String.ofList (text.toList.map Char.toLower)

theorem lowerAscii_ne {text : String} (h : text ≠ "") : lowerAscii text ≠ "" := by
  intro hempty
  exact h (by simpa [lowerAscii] using congrArg String.toList hempty)

theorem parseMetadataTable_rows_twoFields :
    parseMetadataTable lowerAscii (['\n'].intercalate
        (["# T1".toList] ++ (tableOf [typeRow, priorityRow] ++ [[]]))) =
      [("type", "bug"), ("priority", "high")] ∧
    (parseMetadataTable lowerAscii (['\n'].intercalate
        (["# T1".toList] ++ (tableOf [typeRow, { priorityRow with
          name := "TYPE".toList
          name_ne := by decide
          name_trim := by decide
          name_free := by simp }] ++ [[]])))).lookup "type" = some "high" :=
  ⟨(parseMetadataTable_rows rfl (fun _ => lowerAscii_ne) (by decide) (by decide) (by decide)
      [typeRow, priorityRow]).2 (by decide),
    (parseMetadataTable_rows rfl (fun _ => lowerAscii_ne) (by decide) (by decide) (by decide)
      [typeRow, _]).1 "type"⟩

end Importing
end CopilotFactory
