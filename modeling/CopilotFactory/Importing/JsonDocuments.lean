import CopilotFactory.Importing.JsonEntries

/-!
# JSON documents

A document is read well if a manifest is returned, every entry becomes a task or is reported
as an error, and no field that a task or the manifest has a place for is lost without a
warning.  The documents that are read well are those of which all entries are readable, the
first epic is not null, and the date is a text.
-/

namespace CopilotFactory
namespace Importing

open Foundations
open Foundations.Zod

/-!
## Entries of a backlog
-/

/-- The fields of an entry that have a place in a task of their own. -/
def taskFields : List MappedField :=
  [{ key := "id", target := "externalRef", kind := .text },
    { key := "title", target := "title", kind := .text },
    { key := "type", target := "taskType", kind := .text },
    { key := "priority", target := "priority", kind := .text },
    { key := "desc", target := "description", kind := .text },
    { key := "deps", target := "dependencies", kind := .list },
    { key := "criteria", target := "acceptanceCriteria", kind := .list },
    { key := "context", target := "suggestedFileScope", kind := .list }]

/-- The type that is declared for the fields of a kind: a text, or a list of texts. -/
def HasDeclaredType : FieldKind -> Json -> Prop
  | .text, value => exists text, value = .string text
  | .list, value => exists texts : List String, value = .array (texts.map .string)

def ParseJsonTaskResult.Names (result : ParseJsonTaskResult) (field : String) : Prop :=
  exists warning, warning ∈ result.warnings ∧ warning.field = some field

/-- A field that is there is of its type, or stands at its place in the task, or is named in
a warning. -/
def FieldKept (raw : Json) (result : ParseJsonTaskResult) (place : Option Json)
    (field : MappedField) : Prop :=
  forall v, raw.field? field.key = some v ->
    HasDeclaredType field.kind v ∨ place = some v ∨ result.Names field.key

/-- No field of an entry that becomes a task is lost without a warning. -/
def NothingLost (raw : Json) (result : ParseJsonTaskResult) : Prop :=
  forall task, result.task = some task ->
    (forall field, field ∈ taskFields ->
      FieldKept raw result (task.field? field.target) field) ∧
    forall field, field ∈ metadataFields ->
      FieldKept raw result
        ((task.field? "metadata").bind fun metadata => metadata.field? field.target) field

def FieldPlain (coercions : Coercions) (raw : Json) (field : MappedField) : Prop :=
  forall v, raw.field? field.key = some v ->
    HasDeclaredType field.kind v ∨ ¬ CountsAsEmpty coercions field.kind v

def HasMembers : Json -> Prop
  | .array _ | .object _ => True
  | .null | .boolean _ | .number _ | .string _ => False

/-- An entry that is mapped without an exception, and of which nothing is lost. -/
structure BacklogReadable (coercions : Coercions) (toLowerCase : String -> String)
    (source : String) (raw : Json) : Prop where
  members : HasMembers raw
  runs : Runs toLowerCase raw
  plain : Accepted coercions toLowerCase source raw ->
    forall field, field ∈ taskFields ++ metadataFields -> FieldPlain coercions raw field

section

variable {coercions : Coercions} {toLowerCase : String -> String} {source : String}
  {raw : Json} {result : ParseJsonTaskResult}

variable {key : String} {value : Option Json} {index : Nat} {items : List Json} {data : Json}

theorem fieldKept_iff_plain {field : MappedField} {place : Option Json}
    (hkept : kept coercions field.kind (raw.field? field.key) = .ok place)
    (hnames : ¬ result.Names field.key) :
    FieldKept raw result place field <-> FieldPlain coercions raw field := by
  constructor
  · intro h v hv
    rcases h v hv with hdeclared | hplace | hnamed
    · exact Or.inl hdeclared
    · rw [hplace] at hkept
      exact Or.inr (kept_eq_ok_some hkept).2
    · exact absurd hnamed hnames
  · intro h v hv
    rcases h v hv with hdeclared | hnot
    · exact Or.inl hdeclared
    · cases place with
      | none =>
          exact absurd (kept_eq_ok_none.mp hkept v hv) hnot
      | some w =>
          have hw := (kept_eq_ok_some hkept).1
          rw [hv] at hw
          exact Or.inr (Or.inl hw.symm)

theorem fieldKept_iff_plain_of_declared {field : MappedField} {place : Option Json}
    (h : forall v, raw.field? field.key = some v -> HasDeclaredType field.kind v) :
    FieldKept raw result place field <-> FieldPlain coercions raw field :=
  iff_of_true (fun v hv => Or.inl (h v hv)) (fun v hv => Or.inl (h v hv))

theorem string_of_accepts {type : ZodType} {checks : List (Check String)} {value : Json}
    (htype : type = .string checks) (h : accepts type (some value) = true) :
    exists text, value = .string text := by
  rw [htype] at h
  cases value with
  | string text =>
      exact ⟨text, rfl⟩
  | null | boolean value | number value | array items | object entries =>
      cases h

theorem parsedValue_of_plain (hdefault : importedTaskDefaults.lookup key = none)
    (hobject : forall entries, value ≠ some (.object entries)) :
    parsedValue key value = value := by
  cases value with
  | none =>
      rw [parsedValue, hdefault]
      rfl
  | some value =>
      cases value with
      | object entries =>
          exact absurd rfl (hobject entries)
      | null | boolean value | number value | string value | array items =>
          rfl

theorem lookup_filter_ne {entries : List (String × Json)} {other : String} (h : key ≠ other) :
    (entries.filter fun entry => entry.1 ≠ other).lookup key = entries.lookup key := by
  induction entries with
  | nil =>
      rfl
  | cons entry rest ih =>
      rcases entry with ⟨name, value⟩
      by_cases hname : name = other
      · rw [List.filter_cons_of_neg (by simp [hname]), ih, List.lookup_cons, hname,
          beq_false_of_ne h]
      · rw [List.filter_cons_of_pos (by simp [hname]), List.lookup_cons, List.lookup_cons, ih]

theorem field?_metadata {title : String} {mappedType : CandidateValue}
    {description dependencies acceptanceCriteria suggestedFileScope : Option Json}
    {mappedPriority : Option CandidateValue} {metadata : List (String × Json)} {target : String}
    (htarget : target ≠ "__proto__") :
    (((importedTask (backlogCandidate raw source title mappedType description mappedPriority
      dependencies acceptanceCriteria suggestedFileScope metadata).valueAt).field?
        "metadata").bind fun value => value.field? target) = metadata.lookup target := by
  rw [field?_importedTask (by decide), Candidate.valueAt, lookup_backlogCandidate rfl]
  by_cases hempty : metadata = []
  · rw [if_pos hempty, hempty]
    rfl
  · rw [if_neg hempty]
    exact lookup_filter_ne htarget

/-- Of a field that is not a priority, no warning tells that belongs to a task. -/
theorem MadeOf.not_names (h : MadeOf coercions toLowerCase source raw result)
    {field : String} (hfield : field ≠ "priority") : ¬ result.Names field := by
  rintro ⟨warning, hmem, hname⟩
  have hpriority := (h.warnings (List.ne_nil_of_mem hmem)).2 warning hmem
  rw [hname, Option.some.injEq] at hpriority
  exact hfield hpriority

theorem MadeOf.priority_iff (h : MadeOf coercions toLowerCase source raw result)
    {task : Json} {target : String}
    (hplace : asText (raw.field? "priority") = none -> exists text : String,
      task.field? target = some (.string text)) :
    FieldKept raw result (task.field? target)
        { key := "priority", target := target, kind := .text } <->
      FieldPlain coercions raw { key := "priority", target := target, kind := .text } := by
  constructor
  · intro hkept v hv
    rcases h.priority v hv with hdeclared | hfalse
    · exact Or.inl hdeclared
    · rcases hkept v hv with hdeclared | hstands | hnamed
      · exact Or.inl hdeclared
      · by_cases htext : exists text, v = .string text
        · exact Or.inl htext
        · have hnone : asText (raw.field? "priority") = none := by
            cases hsome : asText (raw.field? "priority") with
            | none =>
                rfl
            | some text =>
                have hfield := (asText_eq_some.mp hsome).1
                rw [hv, Option.some.injEq] at hfield
                exact absurd ⟨text, hfield⟩ htext
          rcases hplace hnone with ⟨text, hshown⟩
          rw [hstands, Option.some.injEq] at hshown
          exact Or.inl ⟨text, hshown⟩
      · rcases hnamed with ⟨warning, hmem, _⟩
        have hsome := (h.warnings (List.ne_nil_of_mem hmem)).1
        rcases Option.isSome_iff_exists.mp hsome with ⟨text, htext⟩
        have hfield := (asText_eq_some.mp htext).1
        rw [hv, Option.some.injEq] at hfield
        exact Or.inl ⟨text, hfield⟩
  · intro hplain v hv
    rcases hplain v hv with hdeclared | hnot
    · exact Or.inl hdeclared
    · rcases h.priority v hv with hdeclared | hfalse
      · exact Or.inl hdeclared
      · exact absurd (Or.inl hfalse) hnot

section Task

variable {title : String} {mappedType : CandidateValue}
  {description dependencies acceptanceCriteria suggestedFileScope : Option Json}
  {mappedPriority : Option CandidateValue} {metadata : List (String × Json)}

theorem field?_of_lookup (hkey : key ∈ importedTaskShape.map Prod.fst)
    (hdefault : importedTaskDefaults.lookup key = none)
    (hobject : forall entries, value ≠ some (.object entries))
    (hlookup : (backlogCandidate raw source title mappedType description mappedPriority
      dependencies acceptanceCriteria suggestedFileScope metadata).lookup key =
        value.map .json) :
    (importedTask (backlogCandidate raw source title mappedType description mappedPriority
      dependencies acceptanceCriteria suggestedFileScope metadata).valueAt).field? key =
        value := by
  have hvalue : (backlogCandidate raw source title mappedType description mappedPriority
      dependencies acceptanceCriteria suggestedFileScope metadata).valueAt key = value := by
    rw [Candidate.valueAt, hlookup]
    cases value <;> rfl
  rw [field?_importedTask hkey, hvalue, parsedValue_of_plain hdefault hobject]

end Task

theorem not_object_of_fits {kind : FieldKind} {found : Option Json} {type : ZodType}
    (hkept : kept coercions kind value = .ok found)
    (haccepts : forall v, value = some v -> ¬ CountsAsEmpty coercions kind v ->
      accepts type (some v) = true)
    (htype : forall entries, accepts type (some (.object entries)) = false) :
    forall entries, found ≠ some (.object entries) := by
  intro entries hfound
  have hfits := (fits_kept hkept).mpr haccepts (.object entries) hfound
  rw [htype] at hfits
  cases hfits

theorem MadeOf.taskField_iff (h : MadeOf coercions toLowerCase source raw result) {task : Json}
    (htask : result.task = some task) :
    forall field, field ∈ taskFields ->
      (FieldKept raw result (task.field? field.target) field <->
        FieldPlain coercions raw field) := by
  rcases h.task with ⟨title, mappedType, description, dependencies, acceptanceCriteria,
    suggestedFileScope, metadata, hdescription, hdependencies, hcriteria, hscope, _, hmade⟩
  rw [htask, Option.some.injEq] at hmade
  have haccepted := h.accepted
  have hlists := haccepted.lists
  simp only [List.forall_mem_cons, List.not_mem_nil, false_implies, implies_true,
    and_true] at hlists
  intro field hfield
  simp only [taskFields, List.mem_cons, List.not_mem_nil, or_false] at hfield
  rcases hfield with rfl | rfl | rfl | rfl | rfl | rfl | rfl | rfl
  · apply fieldKept_iff_plain_of_declared
    intro v hv
    exact string_of_accepts rfl (haccepted.ref v hv)
  · apply fieldKept_iff_plain_of_declared
    intro v hv
    rcases haccepted.title with ⟨text, htext, _⟩
    rw [htext, Option.some.injEq] at hv
    exact ⟨text, hv.symm⟩
  · apply fieldKept_iff_plain_of_declared
    intro v hv
    rcases haccepted.type with ⟨text, _, htext, _⟩
    rw [htext, Option.some.injEq] at hv
    exact ⟨text, hv.symm⟩
  · apply h.priority_iff
    intro hnone
    rw [hmade, field?_importedTask (by decide), Candidate.valueAt, lookup_backlogCandidate rfl,
      hnone]
    exact ⟨"medium", rfl⟩
  · apply fieldKept_iff_plain _ (h.not_names (by decide))
    rw [hmade, field?_of_lookup (by decide) rfl
      (not_object_of_fits hdescription haccepted.description (fun _ => rfl))
      (lookup_backlogCandidate rfl)]
    exact hdescription
  · apply fieldKept_iff_plain _ (h.not_names (by decide))
    rw [hmade, field?_of_lookup (by decide) rfl
      (not_object_of_fits hdependencies hlists.1 (fun _ => rfl)) (lookup_backlogCandidate rfl)]
    exact hdependencies
  · apply fieldKept_iff_plain _ (h.not_names (by decide))
    rw [hmade, field?_of_lookup (by decide) rfl
      (not_object_of_fits hcriteria hlists.2.1 (fun _ => rfl)) (lookup_backlogCandidate rfl)]
    exact hcriteria
  · apply fieldKept_iff_plain _ (h.not_names (by decide))
    rw [hmade, field?_of_lookup (by decide) rfl
      (not_object_of_fits hscope hlists.2.2 (fun _ => rfl)) (lookup_backlogCandidate rfl)]
    exact hscope

theorem MadeOf.metadataField_iff (h : MadeOf coercions toLowerCase source raw result)
    {task : Json} (htask : result.task = some task) :
    forall field, field ∈ metadataFields ->
      (FieldKept raw result
          ((task.field? "metadata").bind fun metadata => metadata.field? field.target) field <->
        FieldPlain coercions raw field) := by
  rcases h.task with ⟨title, mappedType, description, dependencies, acceptanceCriteria,
    suggestedFileScope, metadata, _, _, _, _, hmetadata, hmade⟩
  rw [htask, Option.some.injEq] at hmade
  intro field hfield
  have hproto : forall field, field ∈ metadataFields -> field.target ≠ "__proto__" := by
    decide
  have hpriority : forall field, field ∈ metadataFields -> field.key ≠ "priority" := by
    decide
  apply fieldKept_iff_plain _ (h.not_names (hpriority field hfield))
  rw [hmade, field?_metadata (hproto field hfield)]
  exact lookup_keptFields (by decide) hmetadata hfield

/-- Nothing is lost of an entry that becomes a task exactly if its fields are plain. -/
theorem MadeOf.nothingLost_iff (h : MadeOf coercions toLowerCase source raw result) :
    NothingLost raw result <-> forall field, field ∈ taskFields ++ metadataFields ->
      FieldPlain coercions raw field := by
  rcases h.task with ⟨_, _, _, _, _, _, _, _, _, _, _, _, htask⟩
  constructor
  · intro hnothing field hfield
    rcases hnothing _ htask with ⟨htaskFields, hmetadataFields⟩
    rcases List.mem_append.mp hfield with hfield | hfield
    · exact (h.taskField_iff htask field hfield).mp (htaskFields field hfield)
    · exact (h.metadataField_iff htask field hfield).mp (hmetadataFields field hfield)
  · intro hplain task htask'
    constructor
    · intro field hfield
      exact (h.taskField_iff htask' field hfield).mpr
        (hplain field (List.mem_append_left _ hfield))
    · intro field hfield
      exact (h.metadataField_iff htask' field hfield).mpr
        (hplain field (List.mem_append_right _ hfield))

theorem mapBacklogEntry_iff :
    (exists result, mapBacklogEntry coercions toLowerCase source raw = .ok result ∧
      result.Accounted ∧ NothingLost raw result) <->
      BacklogReadable coercions toLowerCase source raw := by
  have hskipped : forall value : Json, ¬ HasMembers value ->
      mapBacklogEntry coercions toLowerCase source value =
        .ok
          { task := none
            warnings :=
              [warn source none .warning "Skipping non-object entry in tasks array"] } := by
    intro value hvalue
    cases value with
    | null | boolean value | number value | string value =>
        rfl
    | array items | object entries =>
        exact absurd trivial hvalue
  have hmapped : forall value : Json, HasMembers value ->
      mapBacklogEntry coercions toLowerCase source value =
        mapBacklogTask coercions toLowerCase value source := by
    intro value hvalue
    cases value with
    | null | boolean value | number value | string value =>
        exact hvalue.elim
    | array items | object entries =>
        rfl
  constructor
  · rintro ⟨result, h, haccounted, hnothing⟩
    by_cases hmembers : HasMembers raw
    · rw [hmapped raw hmembers] at h
      constructor
      · exact hmembers
      · exact exists_mapBacklogTask.mp ⟨result, h⟩
      · intro haccepted
        rcases mapBacklogTask_eq_ok h with hmade | ⟨_, _, hno⟩
        · exact hmade.nothingLost_iff.mp hnothing
        · exact absurd haccepted hno
    · rw [hskipped raw hmembers] at h
      cases h
      rcases haccounted with ⟨task, htask⟩ | ⟨warning, hmem, hseverity⟩
      · cases htask
      · rw [List.mem_singleton.mp hmem] at hseverity
        cases hseverity
  · intro h
    rcases exists_mapBacklogTask.mpr h.runs with ⟨result, hresult⟩
    refine ⟨result, by rw [hmapped raw h.members]; exact hresult, ?_⟩
    rcases mapBacklogTask_eq_ok hresult with hmade | ⟨hnone, haccounted, _⟩
    · rcases hmade.task with ⟨_, _, _, _, _, _, _, _, _, _, _, _, htask⟩
      exact ⟨Or.inl ⟨_, htask⟩, hmade.nothingLost_iff.mpr (h.plain hmade.accepted)⟩
    · refine ⟨haccounted, ?_⟩
      intro task htask
      rw [hnone] at htask
      cases htask

theorem mapBacklogEntry_parsed (h : mapBacklogEntry coercions toLowerCase source raw = .ok result)
    {task : Json} (htask : result.task = some task) :
    exists valueAt, task = importedTask valueAt := by
  unfold mapBacklogEntry at h
  split at h
  · cases h
    cases htask
  · cases h
    cases htask
  · cases h
    cases htask
  · cases h
    cases htask
  · rcases mapBacklogTask_eq_ok h with hmade | ⟨hnone, _, _⟩
    · rcases hmade.task with ⟨_, _, _, _, _, _, _, _, _, _, _, _, hmadeTask⟩
      rw [htask, Option.some.injEq] at hmadeTask
      exact ⟨_, hmadeTask⟩
    · rw [hnone] at htask
      cases htask

theorem mapBacklogEntry_names (h : mapBacklogEntry coercions toLowerCase source raw = .ok result) :
    forall warning, warning ∈ result.warnings -> NamesEntryField warning := by
  have hskipped : forall warning, warning ∈
      [warn source none .warning "Skipping non-object entry in tasks array"] ->
      NamesEntryField warning := by
    intro warning hwarning name hname
    rw [List.mem_singleton.mp hwarning] at hname
    cases hname
  unfold mapBacklogEntry at h
  split at h
  · cases h
    exact hskipped
  · cases h
    exact hskipped
  · cases h
    exact hskipped
  · cases h
    exact hskipped
  · exact namesEntryField_of_mapBacklogTask h

/-!
## Entries of the flat format
-/

/-- Every field of an entry that becomes a task is accepted, or named in a warning. -/
def FlatNothingLost (raw : Json) (result : ParseJsonTaskResult) : Prop :=
  forall task, result.task = some task -> forall field, field ∈ importedTaskShape ->
    forall v, raw.field? field.1 = some v ->
      accepts field.2 (some v) = true ∨ result.Names field.1

def FlatReadable (raw : Json) : Prop :=
  Coercions.convertible
    (nullish (raw.field? "externalRef") (nullish (raw.field? "title") (.string ""))) = true

theorem convertible_flatRef (raw : Json) (shown : String) :
    Coercions.convertible (nullish (raw.field? "externalRef")
        (nullish (raw.field? "title") (.string shown))) = true <->
      FlatReadable raw := by
  unfold FlatReadable
  cases raw.field? "externalRef" with
  | none =>
      cases raw.field? "title" with
      | none =>
          exact iff_of_true rfl rfl
      | some title =>
          cases title with
          | null =>
              exact iff_of_true rfl rfl
          | boolean value | number value | string value | array items | object entries =>
              exact Iff.rfl
  | some externalRef =>
      cases externalRef with
      | null =>
          cases raw.field? "title" with
          | none =>
              exact iff_of_true rfl rfl
          | some title =>
              cases title with
              | null =>
                  exact iff_of_true rfl rfl
              | boolean value | number value | string value | array items | object entries =>
                  exact Iff.rfl
      | boolean value | number value | string value | array items | object entries =>
          exact Iff.rfl

theorem valueAt_flat {entries : List (String × Json)} {value : Json}
    (h : entries.lookup key = some value) (rest : List (String × Json)) :
    Candidate.valueAt ((entries ++ rest).map fun entry =>
      (entry.1, CandidateValue.json entry.2)) key = some value := by
  induction entries with
  | nil =>
      cases h
  | cons entry others ih =>
      rcases entry with ⟨name, first⟩
      rw [List.lookup_cons] at h
      unfold Candidate.valueAt at ih ⊢
      rw [List.cons_append, List.map_cons, List.lookup_cons]
      cases hkey : key == name with
      | true =>
          rw [hkey] at h
          cases h
          rfl
      | false =>
          rw [hkey] at h
          exact ih h

theorem accepts_of_flat {entries : List (String × Json)} {rest : List (String × Json)}
    {task : Json}
    (htask : safeParseTask ((entries ++ rest).map fun entry =>
      (entry.1, CandidateValue.json entry.2)) = .ok task)
    {field : String × ZodType} (hfield : field ∈ importedTaskShape) {v : Json}
    (hv : entries.lookup field.1 = some v) : accepts field.2 (some v) = true := by
  have hissues := (safeParseTask_eq_ok.mp htask).1 field hfield
  have haccepts := (parseField_issues.mp hissues).2
  rw [valueAt_flat hv] at haccepts
  exact haccepts

theorem flatReadable_of_accepted {entries : List (String × Json)}
    {rest : List (String × Json)}
    (h : exists task, safeParseTask ((entries ++ rest).map fun entry =>
      (entry.1, CandidateValue.json entry.2)) = .ok task) :
    FlatReadable (.object entries) := by
  rcases h with ⟨task, htask⟩
  have htitle : forall v, entries.lookup "title" = some v ->
      Coercions.convertible v = true := by
    intro v hv
    have haccepts := @accepts_of_flat _ _ _ htask ("title",
      .string [nonEmpty "title is required", atMost500]) (by simp [importedTaskShape]) v hv
    rcases string_of_accepts rfl haccepts with ⟨text, htext⟩
    rw [htext]
    rfl
  unfold FlatReadable
  apply (convertible_nullish ((convertible_nullish rfl).mpr htitle)).mpr
  intro v hv
  have haccepts := @accepts_of_flat _ _ _ htask ("externalRef", .optional nonEmptyText)
    (by simp [importedTaskShape]) v hv
  rcases string_of_accepts rfl (accepts_optional.mp haccepts v rfl) with ⟨text, htext⟩
  rw [htext]
  rfl

theorem flatReadable_of_no_fields (h : forall key, raw.field? key = none) :
    FlatReadable raw := by
  unfold FlatReadable
  rw [h, h]
  rfl

theorem mapFlatTask_cases (h : mapFlatTask coercions raw index source = .ok result) :
    (result.task = none ∧ result.Accounted) ∨
      exists task, safeParseTask ((spread raw ++ [("source", Json.string source)]).map
          fun entry => (entry.1, CandidateValue.json entry.2)) = .ok task ∧
        result = { task := some task, warnings := [] } := by
  have hrefused : forall message : String, ParseJsonTaskResult.Accounted
      { task := none, warnings := [warn source none .error message] } :=
    fun message => Or.inr ⟨_, List.mem_singleton.mpr rfl, rfl⟩
  have hvalidated : forall {ref : Json} {candidate : Candidate},
      validated (quotedPrefix coercions) ref source [] candidate = .ok result ->
      (result.task = none ∧ result.Accounted) ∨
        exists task, safeParseTask candidate = .ok task ∧
          result = { task := some task, warnings := [] } := by
    intro ref candidate hparsed
    rcases validated_eq_ok hparsed with htask | ⟨_, hnone, haccounted⟩
    · exact Or.inr htask
    · exact Or.inl ⟨hnone, haccounted⟩
  unfold mapFlatTask at h
  cases raw with
  | null | boolean value | number value | string value =>
      cases h
      exact Or.inl ⟨rfl, hrefused _⟩
  | array items | object entries =>
      exact hvalidated h

theorem mapFlatTask_iff :
    (exists result, mapFlatTask coercions raw index source = .ok result ∧
      result.Accounted ∧ FlatNothingLost raw result) <->
      FlatReadable raw := by
  constructor
  · rintro ⟨result, h, _⟩
    cases raw with
    | null | boolean value | number value | string value | array items =>
        exact flatReadable_of_no_fields (fun _ => rfl)
    | object entries =>
        unfold mapFlatTask at h
        rcases (exists_validated fun _ => exists_quotedPrefix).mp ⟨result, h⟩ with
          haccepted | hconvertible
        · exact flatReadable_of_accepted haccepted
        · exact (convertible_flatRef _ _).mp hconvertible
  · intro h
    have hreturns : exists result, mapFlatTask coercions raw index source = .ok result := by
      have hconvertible := (convertible_flatRef raw ("index " ++ toString index)).mpr h
      unfold mapFlatTask
      cases raw with
      | null | boolean value | number value | string value =>
          exact ⟨_, rfl⟩
      | array items | object entries =>
          exact (exists_validated fun _ => exists_quotedPrefix).mpr (Or.inr hconvertible)
    rcases hreturns with ⟨result, hresult⟩
    refine ⟨result, hresult, ?_⟩
    rcases mapFlatTask_cases hresult with ⟨hnone, haccounted⟩ | ⟨task, htask, heq⟩
    · refine ⟨haccounted, ?_⟩
      intro task htask
      rw [hnone] at htask
      cases htask
    · rw [heq]
      refine ⟨Or.inl ⟨task, rfl⟩, ?_⟩
      intro _ _ field hfield v hv
      cases raw with
      | object entries =>
          exact Or.inl (accepts_of_flat htask hfield hv)
      | null | boolean value | number value | string value | array items =>
          cases hv

theorem mapFlatTask_parsed (h : mapFlatTask coercions raw index source = .ok result)
    {task : Json} (htask : result.task = some task) :
    exists valueAt, task = importedTask valueAt := by
  rcases mapFlatTask_cases h with ⟨hnone, _⟩ | ⟨parsed, hparsed, heq⟩
  · rw [hnone] at htask
    cases htask
  · rw [heq] at htask
    cases htask
    exact ⟨_, (safeParseTask_eq_ok.mp hparsed).2⟩

/-!
## Manifests
-/

def EpicReadable (rootData : Option Json) : Prop :=
  forall rest, (rootData.bind fun data => data.field? "epics") ≠ some (.array (.null :: rest))

theorem firstEpic_eq_ok {epics : Option Json} {u : Unit} :
    firstEpic epics = .ok u <-> forall rest, epics ≠ some (.array (.null :: rest)) := by
  unfold firstEpic
  split
  · rename_i rest
    constructor
    · intro h
      cases h
    · intro h
      exact absurd rfl (h rest)
  · rename_i hne
    exact iff_of_true rfl hne

variable {tasks : List Json} {warnings : List ParseWarning} {rootData : Option Json}
  {manifest : ImportManifest}

theorem exists_buildManifest :
    (exists manifest, buildManifest source tasks warnings rootData = .ok manifest) <->
      EpicReadable rootData := by
  unfold buildManifest EpicReadable
  simp only [bind_eq_ok, firstEpic_eq_ok]
  constructor
  · rintro ⟨manifest, u, hepic, _⟩
    exact hepic
  · intro hepic
    split
    · exact ⟨_, (), hepic, rfl⟩
    · exact ⟨_, (), hepic, rfl⟩

theorem buildManifest_eq_ok
    (htasks : forall task, task ∈ tasks -> exists valueAt, task = importedTask valueAt)
    (h : buildManifest source tasks warnings rootData = .ok manifest) :
    manifest.tasks = tasks ∧ warnings <+: manifest.warnings ∧
      forall warning, warning ∈ manifest.warnings ->
        warning ∈ warnings ∨ warning.field = none := by
  rcases bind_eq_ok.mp h with ⟨u, _, hrest⟩
  dsimp only at hrest
  split at hrest
  · rename_i parsed hparsed
    have heq := safeParseManifest_eq_ok htasks hparsed
    rw [← (pure_eq_ok _ _).mp hrest, heq]
    exact ⟨rfl, List.prefix_rfl, fun warning hwarning => Or.inl hwarning⟩
  · rename_i issues hissues
    rw [← (pure_eq_ok _ _).mp hrest]
    refine ⟨rfl, List.prefix_append warnings _, ?_⟩
    intro warning hwarning
    rcases List.mem_append.mp hwarning with hwarning | hwarning
    · exact Or.inl hwarning
    · rw [List.mem_singleton.mp hwarning]
      exact Or.inr rfl

/-!
## Reading a document
-/

/-- Every entry becomes a task, in order, or has an error among the warnings, and of none
anything is lost. -/
def ReadsEntries {α : Type} (mapEntry : α -> Except String ParseJsonTaskResult)
    (nothingLost : α -> ParseJsonTaskResult -> Prop) (entries : List α)
    (manifest : ImportManifest) : Prop :=
  exists results,
    List.Forall₂ (fun entry result =>
      mapEntry entry = .ok result ∧ result.Accounted ∧ nothingLost entry result)
      entries results ∧
    manifest.tasks = results.filterMap ParseJsonTaskResult.task ∧
    results.flatMap ParseJsonTaskResult.warnings <+: manifest.warnings

def RootKept (data : Json) (key : String) (hasType : Json -> Prop)
    (manifest : ImportManifest) : Prop :=
  forall v, data.field? key = some v -> hasType v ∨
    exists warning, warning ∈ manifest.warnings ∧ warning.field = some key

def IsText (value : Json) : Prop :=
  exists text, value = .string text

def IsArray (value : Json) : Prop :=
  exists items, value = .array items

def HasError (manifest : ImportManifest) : Prop :=
  exists warning, warning ∈ manifest.warnings ∧ warning.severity = .error

def ReadsDocument (coercions : Coercions) (toLowerCase : String -> String)
    (sourcePath : String) (data : Json) (manifest : ImportManifest) : Prop :=
  match detectJsonFormat data with
  | .backlog =>
      ReadsEntries (mapBacklogEntry coercions toLowerCase sourcePath) NothingLost
        (Json.itemsOf (data.field? "tasks")) manifest ∧
      RootKept data "tasks" IsArray manifest ∧
      RootKept data "generated" IsText manifest
  | .flat =>
      ReadsEntries (fun entry : Json × Nat => mapFlatTask coercions entry.1 entry.2 sourcePath)
        (fun entry => FlatNothingLost entry.1) (Json.itemsOf (some data)).zipIdx manifest
  | .unknown => HasError manifest

/-- A document of which all entries are readable, the first epic is not null, and the date
is a text. -/
def ReadableDocument (coercions : Coercions) (toLowerCase : String -> String)
    (sourcePath : String) (data : Json) : Prop :=
  match detectJsonFormat data with
  | .backlog =>
      (forall raw, raw ∈ Json.itemsOf (data.field? "tasks") ->
        BacklogReadable coercions toLowerCase sourcePath raw) ∧
      EpicReadable (some data) ∧
      forall v, data.field? "generated" = some v -> IsText v
  | .flat => forall raw, raw ∈ Json.itemsOf (some data) -> FlatReadable raw
  | .unknown => True

theorem parsed_of_collected {α : Type} {mapEntry : α -> Except String ParseJsonTaskResult}
    {entries : List α} {results : List ParseJsonTaskResult}
    (hparsed : forall entry result, mapEntry entry = .ok result ->
      forall task, result.task = some task -> exists valueAt, task = importedTask valueAt)
    (h : entries.mapM mapEntry = .ok results) :
    forall task, task ∈ results.filterMap ParseJsonTaskResult.task ->
      exists valueAt, task = importedTask valueAt := by
  intro task htask
  rcases List.mem_filterMap.mp htask with ⟨result, hresult, heq⟩
  rcases exists_of_mem_mapM h hresult with ⟨entry, _, hentry⟩
  exact hparsed entry result hentry task heq

theorem exists_readsEntries {α : Type} {mapEntry : α -> Except String ParseJsonTaskResult}
    {nothingLost : α -> ParseJsonTaskResult -> Prop} {entries : List α}
    (hparsed : forall entry result, mapEntry entry = .ok result ->
      forall task, result.task = some task -> exists valueAt, task = importedTask valueAt) :
    (exists manifest,
      (entries.mapM mapEntry >>= manifestOf source rootData) = .ok manifest ∧
        ReadsEntries mapEntry nothingLost entries manifest) <->
      (forall entry, entry ∈ entries -> exists result, mapEntry entry = .ok result ∧
        result.Accounted ∧ nothingLost entry result) ∧
      EpicReadable rootData := by
  constructor
  · rintro ⟨manifest, h, results, hresults, _, _⟩
    rcases bind_eq_ok.mp h with ⟨collected, _, hmanifest⟩
    constructor
    · intro entry hentry
      rcases exists_of_mem_left hresults hentry with ⟨result, _, hresult⟩
      exact ⟨result, hresult⟩
    · exact exists_buildManifest.mp ⟨manifest, hmanifest⟩
  · rintro ⟨hentries, hepic⟩
    rcases exists_forall₂ hentries with ⟨results, hresults⟩
    have hcollected : entries.mapM mapEntry = .ok results :=
      mapM_eq_ok.mpr (hresults.imp fun _ _ h => h.1)
    rcases (@exists_buildManifest source (results.filterMap ParseJsonTaskResult.task)
      (results.flatMap ParseJsonTaskResult.warnings) rootData).mpr hepic with
      ⟨manifest, hmanifest⟩
    rcases buildManifest_eq_ok (parsed_of_collected hparsed hcollected) hmanifest with
      ⟨htasks, hwarnings, _⟩
    exact ⟨manifest, by rw [hcollected]; exact hmanifest, results, hresults, htasks, hwarnings⟩

theorem not_names_generated
    (h : (items.mapM (mapBacklogEntry coercions toLowerCase source) >>=
      manifestOf source rootData) = .ok manifest) :
    ¬ exists warning, warning ∈ manifest.warnings ∧ warning.field = some "generated" := by
  rintro ⟨warning, hmem, hname⟩
  rcases bind_eq_ok.mp h with ⟨results, hresults, hmanifest⟩
  have hparsed := parsed_of_collected
    (fun _ _ hentry _ htask => mapBacklogEntry_parsed hentry htask) hresults
  rcases (buildManifest_eq_ok hparsed hmanifest).2.2 warning hmem with hmem | hnone
  · rcases List.mem_flatMap.mp hmem with ⟨result, hresult, hwarning⟩
    rcases exists_of_mem_mapM hresults hresult with ⟨entry, _, hentry⟩
    rcases mapBacklogEntry_names hentry warning hwarning "generated" hname with
      ⟨key, hkey, hprefix⟩
    have hnone : forall key, key ∈ entryFields -> ¬ key.toList <+: "generated".toList := by
      decide
    exact hnone key hkey hprefix
  · rw [hnone] at hname
    cases hname

theorem readsBacklog_iff (htasks : data.field? "tasks" = some (.array items)) :
    (exists manifest,
      (items.mapM (mapBacklogEntry coercions toLowerCase source) >>=
        manifestOf source (some data)) = .ok manifest ∧
      ReadsEntries (mapBacklogEntry coercions toLowerCase source) NothingLost items manifest ∧
      RootKept data "tasks" IsArray manifest ∧ RootKept data "generated" IsText manifest) <->
      (forall raw, raw ∈ items -> BacklogReadable coercions toLowerCase source raw) ∧
      EpicReadable (some data) ∧ forall v, data.field? "generated" = some v -> IsText v := by
  have hentries : (forall raw, raw ∈ items -> exists result,
      mapBacklogEntry coercions toLowerCase source raw = .ok result ∧
        result.Accounted ∧ NothingLost raw result) <->
      forall raw, raw ∈ items -> BacklogReadable coercions toLowerCase source raw :=
    forall₂_congr fun _ _ => mapBacklogEntry_iff
  have hreads := @exists_readsEntries source (some data) _
    (mapBacklogEntry coercions toLowerCase source) NothingLost items
    (fun _ _ h _ htask => mapBacklogEntry_parsed h htask)
  rw [hentries] at hreads
  constructor
  · rintro ⟨manifest, hmanifest, hread, _, hgenerated⟩
    rcases hreads.mp ⟨manifest, hmanifest, hread⟩ with ⟨hreadable, hepic⟩
    refine ⟨hreadable, hepic, ?_⟩
    intro v hv
    rcases hgenerated v hv with htext | hnamed
    · exact htext
    · exact absurd hnamed (not_names_generated hmanifest)
  · rintro ⟨hreadable, hepic, hgenerated⟩
    rcases hreads.mpr ⟨hreadable, hepic⟩ with ⟨manifest, hmanifest, hread⟩
    refine ⟨manifest, hmanifest, hread, ?_, fun v hv => Or.inl (hgenerated v hv)⟩
    intro v hv
    rw [htasks, Option.some.injEq] at hv
    exact Or.inl ⟨items, hv.symm⟩

theorem readsEmpty_iff :
    (exists manifest,
      buildManifest source []
          [warn source (some "tasks") .error "Root object has no \"tasks\" array"]
          (some data) = .ok manifest ∧
      ReadsEntries (mapBacklogEntry coercions toLowerCase source) NothingLost [] manifest ∧
      RootKept data "tasks" IsArray manifest ∧ RootKept data "generated" IsText manifest) <->
      EpicReadable (some data) ∧ forall v, data.field? "generated" = some v -> IsText v := by
  have hparsed : forall task, task ∈ ([] : List Json) ->
      exists valueAt, task = importedTask valueAt := nofun
  constructor
  · rintro ⟨manifest, hmanifest, _, _, hgenerated⟩
    refine ⟨exists_buildManifest.mp ⟨manifest, hmanifest⟩, ?_⟩
    intro v hv
    rcases hgenerated v hv with htext | ⟨warning, hmem, hname⟩
    · exact htext
    · rcases (buildManifest_eq_ok hparsed hmanifest).2.2 warning hmem with hmem | hnone
      · rw [List.mem_singleton.mp hmem] at hname
        simp [warn] at hname
      · rw [hnone] at hname
        cases hname
  · rintro ⟨hepic, hgenerated⟩
    rcases (@exists_buildManifest source []
      [warn source (some "tasks") .error "Root object has no \"tasks\" array"]
      (some data)).mpr hepic with ⟨manifest, hmanifest⟩
    rcases buildManifest_eq_ok hparsed hmanifest with ⟨hnone, hwarnings, _⟩
    refine ⟨manifest, hmanifest, ⟨[], List.Forall₂.nil, hnone, List.nil_prefix⟩, ?_,
      fun v hv => Or.inl (hgenerated v hv)⟩
    intro _ _
    exact Or.inr ⟨_, hwarnings.subset (List.mem_singleton.mpr rfl), rfl⟩

theorem parseBacklogJsonData_iff (hformat : detectJsonFormat data = .backlog) :
    (exists manifest, parseBacklogJsonData coercions toLowerCase data source = .ok manifest ∧
      ReadsDocument coercions toLowerCase source data manifest) <->
      ReadableDocument coercions toLowerCase source data := by
  unfold ReadsDocument ReadableDocument parseBacklogJsonData
  rw [hformat]
  dsimp only
  split
  · rename_i items htasks
    rw [htasks]
    exact readsBacklog_iff htasks
  · rename_i hno
    have hitems : Json.itemsOf (data.field? "tasks") = [] := by
      unfold Json.itemsOf
      split
      · rename_i items htasks
        exact absurd htasks (hno items)
      · rfl
    rw [hitems, readsEmpty_iff]
    simp

theorem parseFlatJsonData_iff :
    (exists manifest, parseFlatJsonData coercions items source = .ok manifest ∧
      ReadsDocument coercions toLowerCase source (.array items) manifest) <->
      ReadableDocument coercions toLowerCase source (.array items) := by
  have hreads := @exists_readsEntries source none _
    (fun entry : Json × Nat => mapFlatTask coercions entry.1 entry.2 source)
    (fun entry => FlatNothingLost entry.1) items.zipIdx
    (fun _ _ h _ htask => mapFlatTask_parsed h htask)
  have hepic : EpicReadable none := nofun
  refine hreads.trans ?_
  constructor
  · rintro ⟨hentries, _⟩ raw hraw
    rcases List.getElem?_of_mem hraw with ⟨index, hindex⟩
    exact mapFlatTask_iff.mp
      (hentries (raw, index) (List.mk_mem_zipIdx_iff_getElem?.mpr hindex))
  · intro h
    refine ⟨?_, hepic⟩
    intro entry hentry
    exact mapFlatTask_iff.mpr (h entry.1 (List.fst_mem_of_mem_zipIdx hentry))

/-!
## Reading a file
-/

/-- A file that cannot be read, or is not JSON, is reported as an error, and a document is
read well. -/
def ReadsContent (coercions : Coercions) (toLowerCase : String -> String)
    (jsonParse : String -> Except String Json) (sourcePath : String)
    (content : Except String String) (manifest : ImportManifest) : Prop :=
  match content with
  | .error _ => HasError manifest
  | .ok content =>
      match jsonParse content with
      | .error _ => HasError manifest
      | .ok data => ReadsDocument coercions toLowerCase sourcePath data manifest

def ReadableContent (coercions : Coercions) (toLowerCase : String -> String)
    (jsonParse : String -> Except String Json) (sourcePath : String)
    (content : Except String String) : Prop :=
  forall text data, content = .ok text -> jsonParse text = .ok data ->
    ReadableDocument coercions toLowerCase sourcePath data

theorem exists_reported (sourcePath message : String) :
    exists manifest,
      buildManifest sourcePath [] [warn sourcePath none .error message] none = .ok manifest ∧
        HasError manifest := by
  have hepic : EpicReadable none := nofun
  have hparsed : forall task, task ∈ ([] : List Json) ->
      exists valueAt, task = importedTask valueAt := nofun
  rcases (@exists_buildManifest sourcePath [] [warn sourcePath none .error message] none).mpr
    hepic with ⟨manifest, hmanifest⟩
  rcases buildManifest_eq_ok hparsed hmanifest with ⟨_, hwarnings, _⟩
  exact ⟨manifest, hmanifest, _, hwarnings.subset (List.mem_singleton.mpr rfl), rfl⟩

/-- A manifest is returned, all entries are accounted for and nothing is lost, exactly for
the readable contents. -/
theorem parseJsonTasks_reads_iff (coercions : Coercions) (toLowerCase : String -> String)
    (jsonParse : String -> Except String Json) (sourcePath : String)
    (content : Except String String) :
    (exists manifest,
      parseJsonTasks coercions toLowerCase jsonParse sourcePath content = .ok manifest ∧
        ReadsContent coercions toLowerCase jsonParse sourcePath content manifest) <->
      ReadableContent coercions toLowerCase jsonParse sourcePath content := by
  cases content with
  | error message =>
      exact iff_of_true (exists_reported sourcePath _) nofun
  | ok text =>
      unfold parseJsonTasks ReadsContent ReadableContent
      cases hparse : jsonParse text with
      | error message =>
          have hreadable : forall text' data, Except.ok text = (.ok text' : Except String String) ->
              jsonParse text' = .ok data ->
                ReadableDocument coercions toLowerCase sourcePath data := by
            intro text' data htext hdata
            cases htext
            rw [hparse] at hdata
            cases hdata
          simp only [hparse]
          exact iff_of_true (exists_reported sourcePath _) hreadable
      | ok data =>
          have hreadable : (forall text' data', Except.ok text = (.ok text' : Except String String) ->
              jsonParse text' = .ok data' ->
                ReadableDocument coercions toLowerCase sourcePath data') <->
              ReadableDocument coercions toLowerCase sourcePath data := by
            constructor
            · intro h
              exact h text data rfl hparse
            · intro h text' data' htext hdata
              cases htext
              rw [hparse] at hdata
              cases hdata
              exact h
          rw [hreadable]
          cases hformat : detectJsonFormat data with
          | backlog =>
              simp only [hparse, hformat]
              exact parseBacklogJsonData_iff hformat
          | flat =>
              cases data with
              | array items =>
                  simp only [hparse, hformat]
                  exact parseFlatJsonData_iff
              | object entries =>
                  simp only [detectJsonFormat] at hformat
                  split at hformat <;> simp at hformat
              | null | boolean value | number value | string value =>
                  cases hformat
          | unknown =>
              simp only [hparse, hformat, ReadsDocument, ReadableDocument]
              exact iff_of_true (exists_reported sourcePath _) trivial

end

/-- A title that is a number is asked for its method. -/
theorem not_reads_number_title :
    ¬ exists manifest,
      parseJsonTasks { numberText := fun _ => "1", textIsPositive := fun _ => false } id
          (fun _ => .ok (.object
            [("epics", .array []), ("tasks", .array [.object [("title", .number 1)]])]))
          "backlog.json" (.ok "\x7b\"epics\": [], \"tasks\": [\x7b\"title\": 1\x7d]\x7d") =
            .ok manifest := by
  rintro ⟨manifest, h⟩
  have hthrown : parseJsonTasks
      { numberText := fun _ => "1", textIsPositive := fun _ => false } id
      (fun _ => .ok (.object
        [("epics", .array []), ("tasks", .array [.object [("title", .number 1)]])]))
      "backlog.json" (.ok "\x7b\"epics\": [], \"tasks\": [\x7b\"title\": 1\x7d]\x7d") =
        .error "raw.title.trim is not a function" := by
    decide +kernel
  rw [hthrown] at h
  cases h

end Importing
end CopilotFactory
