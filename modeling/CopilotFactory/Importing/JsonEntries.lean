import CopilotFactory.Foundations.Collecting
import CopilotFactory.Importing.JsonTaskParser

/-!
# What becomes of one entry

An entry of a backlog is mapped without an exception exactly if no method is called on a
value that does not have it and every value that is shown in a warning has a text.  It
becomes a task exactly if its fields are accepted.  What is lost without a warning is a
field that counts as empty though it is not of its type.
-/

namespace CopilotFactory
namespace Importing

open Foundations
open Foundations.Zod

/-!
## Values
-/

variable {value : Option Json}

def asText : Option Json -> Option String
  | some (.string text) => if text = "" then none else some text
  | _ => none

def TextOrFalse (value : Option Json) : Prop :=
  forall v, value = some v -> (exists text, v = .string text) ∨ Coercions.truthy v = false

theorem textFor_eq_ok {callee : String} {text : Option String} :
    textFor callee value = .ok text <-> TextOrFalse value ∧ asText value = text := by
  cases value with
  | none =>
      simp [textFor, TextOrFalse, asText]
  | some value =>
      cases value with
      | string shown =>
          simp [textFor, TextOrFalse, asText]
      | null | boolean value | number value | array items | object entries =>
          simp only [textFor, TextOrFalse, asText]
          split
          · rename_i htruthy
            simp [htruthy]
          · rename_i htruthy
            simp [htruthy]

theorem asText_eq_some {text : String} :
    asText value = some text <-> value = some (.string text) ∧ text ≠ "" := by
  cases value with
  | none =>
      simp [asText]
  | some value =>
      cases value with
      | string shown =>
          by_cases hempty : shown = ""
          · simp only [asText, if_pos hempty]
            constructor
            · intro h
              cases h
            · rintro ⟨h, hne⟩
              cases h
              exact absurd hempty hne
          · simp only [asText, if_neg hempty, Option.some.injEq, Json.string.injEq]
            constructor
            · intro h
              exact ⟨h, h ▸ hempty⟩
            · exact fun h => h.1
      | null | boolean value | number value | array items | object entries =>
          simp [asText]

theorem convertible_nullish {value : Option Json} {default : Json}
    (hdefault : Coercions.convertible default = true) :
    Coercions.convertible (nullish value default) = true <->
      forall v, value = some v -> Coercions.convertible v = true := by
  cases value with
  | none =>
      simp [nullish, hdefault]
  | some value =>
      cases value with
      | null =>
          simp [nullish, hdefault, Coercions.convertible]
      | boolean value | number value | string value | array items | object entries =>
          simp [nullish]

def CountsAsEmpty (coercions : Coercions) (kind : FieldKind) (value : Json) : Prop :=
  Coercions.truthy value = false ∨
    kind = .list ∧ Coercions.lengthIsPositive coercions value = .ok false

def Comparable (kind : FieldKind) (value : Option Json) : Prop :=
  kind = .list -> forall v, value = some v -> Coercions.hasComparableLength v = true

section

variable {coercions : Coercions}

variable {kind : FieldKind} {result : ParseJsonTaskResult} {key : String}
  {fields : List MappedField}

theorem kept_eq_ok_none :
    kept coercions kind value = .ok none <->
      forall v, value = some v -> CountsAsEmpty coercions kind v := by
  cases value with
  | none =>
      simp [kept]
  | some value =>
      unfold kept CountsAsEmpty
      cases htruthy : Coercions.truthy value with
      | false =>
          simp [htruthy]
      | true =>
          cases kind with
          | text =>
              simp [htruthy]
          | list =>
              cases hlength : Coercions.lengthIsPositive coercions value with
              | error e =>
                  simp [htruthy, hlength]
              | ok positive =>
                  cases positive <;> simp [htruthy, hlength]

theorem kept_eq_ok_some {v : Json} (h : kept coercions kind value = .ok (some v)) :
    value = some v ∧ ¬ CountsAsEmpty coercions kind v := by
  cases value with
  | none =>
      cases h
  | some value =>
      unfold kept at h
      unfold CountsAsEmpty
      cases htruthy : Coercions.truthy value with
      | false =>
          simp [htruthy] at h
      | true =>
          cases kind with
          | text =>
              simp [htruthy] at h
              simp [← h, htruthy]
          | list =>
              cases hlength : Coercions.lengthIsPositive coercions value with
              | error e =>
                  simp [htruthy, hlength] at h
              | ok positive =>
                  cases positive with
                  | false =>
                      simp [htruthy, hlength] at h
                  | true =>
                      simp [htruthy, hlength] at h
                      simp [← h, htruthy, hlength]

theorem exists_kept {kind : FieldKind} {value : Option Json} :
    (exists result, kept coercions kind value = .ok result) <-> Comparable kind value := by
  cases value with
  | none =>
      simp [kept, Comparable]
  | some value =>
      unfold kept Comparable
      cases kind with
      | text =>
          cases htruthy : Coercions.truthy value <;> simp [htruthy]
      | list =>
          cases htruthy : Coercions.truthy value with
          | false =>
              have hlength : Coercions.hasComparableLength value = true := by
                cases value with
                | object entries =>
                    cases htruthy
                | null | boolean value | number value | string value | array items =>
                    rfl
              simp [htruthy, hlength]
          | true =>
              simp only [htruthy, if_true, forall_const, Option.some.injEq, forall_eq',
                ← @Coercions.lengthIsPositive_eq_ok coercions]
              constructor
              · rintro ⟨result, h⟩
                rcases bind_eq_ok.mp h with ⟨positive, hpositive, _⟩
                exact ⟨positive, hpositive⟩
              · rintro ⟨positive, hpositive⟩
                rw [hpositive]
                exact ⟨_, rfl⟩

/-!
## Warnings
-/

theorem exists_taskPrefix {ref : Json} {message : String} :
    (exists text, taskPrefix coercions ref message = .ok text) <->
      Coercions.convertible ref = true := by
  rw [← @Coercions.textOf_eq_ok coercions]
  unfold taskPrefix
  cases Coercions.textOf coercions ref <;> simp

theorem exists_quotedPrefix {ref : Json} {message : String} :
    (exists text, quotedPrefix coercions ref message = .ok text) <->
      Coercions.convertible ref = true := by
  rw [← @Coercions.textOf_eq_ok coercions]
  unfold quotedPrefix
  cases Coercions.textOf coercions ref <;> simp

theorem exists_refused {source field message : String} {ref : Json} :
    (exists result, refused coercions source field ref message = .ok result) <->
      Coercions.convertible ref = true := by
  rw [← @exists_taskPrefix coercions ref message]
  unfold refused
  cases taskPrefix coercions ref message <;> simp

def ParseJsonTaskResult.Accounted (result : ParseJsonTaskResult) : Prop :=
  (exists task, result.task = some task) ∨
    exists warning, warning ∈ result.warnings ∧ warning.severity = .error

theorem refused_eq_ok {source field message : String} {ref : Json}
    (h : refused coercions source field ref message = .ok result) :
    result.task = none ∧ result.Accounted := by
  rcases bind_eq_ok.mp h with ⟨shown, _, hpure⟩
  rw [← (pure_eq_ok _ _).mp hpure]
  exact ⟨rfl, Or.inr ⟨_, List.mem_singleton.mpr rfl, rfl⟩⟩

theorem priorityWarnings_eq_ok {source : String} {ref : Json} {priority : Option String}
    {mapped : Option CandidateValue} {warnings : List ParseWarning}
    (h : priorityWarnings coercions source ref priority mapped = .ok warnings) :
    warnings ≠ [] -> priority.isSome = true ∧
      forall warning, warning ∈ warnings -> warning.field = some "priority" := by
  unfold priorityWarnings at h
  split at h
  · rcases bind_eq_ok.mp h with ⟨message, _, hpure⟩
    rw [← (pure_eq_ok _ _).mp hpure]
    intro _
    refine ⟨rfl, ?_⟩
    intro warning hwarning
    rw [List.mem_singleton.mp hwarning]
    rfl
  · cases h
    exact fun hne => absurd rfl hne

theorem exists_priorityWarnings {source : String} {ref : Json} {priority : Option String}
    {mapped : Option CandidateValue} (h : Coercions.convertible ref = true) :
    exists warnings, priorityWarnings coercions source ref priority mapped = .ok warnings := by
  unfold priorityWarnings
  split
  · rename_i raw
    rcases exists_taskPrefix.mpr h with ⟨text, htext⟩
    exact ⟨_, by rw [htext]; rfl⟩
  · exact ⟨[], rfl⟩

section Validation

variable {prefixed : Json -> String -> Except String String} {ref : Json} {source : String}
  {warnings : List ParseWarning} {candidate : Candidate}

theorem validated_eq_ok (h : validated prefixed ref source warnings candidate = .ok result) :
    (exists task, safeParseTask candidate = .ok task ∧
      result = { task := some task, warnings := warnings }) ∨
    (forall task, safeParseTask candidate ≠ .ok task) ∧ result.task = none ∧
      result.Accounted := by
  unfold validated at h
  split at h
  · rename_i task htask
    cases h
    exact Or.inl ⟨task, htask, rfl⟩
  · rename_i issues hissues
    refine Or.inr ⟨?_, ?_⟩
    · intro task htask
      rw [htask] at hissues
      cases hissues
    · rcases bind_eq_ok.mp h with ⟨reports, hreports, hpure⟩
      rw [← (pure_eq_ok _ _).mp hpure]
      refine ⟨rfl, Or.inr ?_⟩
      cases issues with
      | nil =>
          exact absurd rfl (ne_nil_of_safeParseTask hissues)
      | cons issue rest =>
          rcases exists_of_mem_left (mapM_eq_ok.mp hreports) List.mem_cons_self with
            ⟨report, hmem, hreport⟩
          rcases bind_eq_ok.mp hreport with ⟨message, _, hwarn⟩
          refine ⟨report, List.mem_append_right _ hmem, ?_⟩
          rw [← (pure_eq_ok _ _).mp hwarn]
          rfl

theorem exists_validated
    (hprefixed : forall message, (exists text, prefixed ref message = .ok text) <->
      Coercions.convertible ref = true) :
    (exists result, validated prefixed ref source warnings candidate = .ok result) <->
      (exists task, safeParseTask candidate = .ok task) ∨
        Coercions.convertible ref = true := by
  unfold validated
  cases hparse : safeParseTask candidate with
  | ok task =>
      simp
  | error issues =>
      constructor
      · rintro ⟨result, h⟩
        rcases bind_eq_ok.mp h with ⟨reports, hreports, _⟩
        cases issues with
        | nil =>
            exact absurd rfl (ne_nil_of_safeParseTask hparse)
        | cons issue rest =>
            rcases exists_of_mem_left (mapM_eq_ok.mp hreports) List.mem_cons_self with
              ⟨report, _, hreport⟩
            rcases bind_eq_ok.mp hreport with ⟨message, hmessage, _⟩
            exact Or.inr ((hprefixed issue.message).mp ⟨message, hmessage⟩)
      · rintro (⟨task, htask⟩ | hconvertible)
        · cases htask
        · have hreports : exists reports, (issues.mapM fun issue => do
              let message <- prefixed ref issue.message
              return warn source (some (pathText issue.path)) .error message) =
              .ok reports := by
            apply exists_mapM_eq_ok.mpr
            intro issue _
            rcases (hprefixed issue.message).mpr hconvertible with ⟨text, htext⟩
            exact ⟨_, by rw [htext]; rfl⟩
          rcases hreports with ⟨reports, hreports⟩
          exact ⟨_, by simp only [hreports]; rfl⟩

end Validation

/-!
## Candidates
-/

theorem lookup_candidateOf {fields : List (String × Option CandidateValue)}
    (hnodup : (fields.map Prod.fst).Nodup) (key : String) :
    (candidateOf fields).lookup key = (fields.lookup key).join := by
  induction fields with
  | nil =>
      rfl
  | cons field rest ih =>
      rcases field with ⟨name, value⟩
      rw [List.map_cons, List.nodup_cons] at hnodup
      have hrest := ih hnodup.2
      unfold candidateOf at hrest ⊢
      rw [List.filterMap_cons]
      by_cases hkey : key = name
      · have hnone : rest.lookup name = none := by
          rw [List.lookup_eq_none_iff]
          intro entry hentry
          rw [bne_iff_ne]
          intro heq
          exact hnodup.1 (List.mem_map.mpr ⟨entry, hentry, heq.symm⟩)
        rw [hkey] at hrest ⊢
        rw [List.lookup_cons, beq_self_eq_true]
        cases value with
        | none =>
            rw [Option.map_none, hrest, hnone]
            rfl
        | some value =>
            rw [Option.map_some, List.lookup_cons, beq_self_eq_true]
            rfl
      · rw [List.lookup_cons, beq_false_of_ne hkey]
        cases value with
        | none =>
            rw [Option.map_none]
            exact hrest
        | some value =>
            rw [Option.map_some, List.lookup_cons, beq_false_of_ne hkey]
            exact hrest

theorem parseField_issues {candidate : Candidate} {field : String × ZodType} :
    (parseField candidate field).issues = [] <->
      (forall name, candidate.lookup field.1 ≠ some (.inherited name)) ∧
        accepts field.2 (candidate.valueAt field.1) = true := by
  unfold parseField Candidate.valueAt
  cases candidate.lookup field.1 with
  | none =>
      simp [issues_eq_nil_iff]
  | some value =>
      cases value with
      | json value =>
          simp [issues_eq_nil_iff, CandidateValue.json?]
      | inherited name =>
          simp [parseForeign_issues]

theorem parseField_json {candidate : Candidate} {key : String} {type : ZodType}
    {value : Option Json} (h : candidate.lookup key = value.map .json) :
    (parseField candidate (key, type)).issues = [] <-> accepts type value = true := by
  rw [parseField_issues, Candidate.valueAt, h]
  cases value with
  | none =>
      simp
  | some value =>
      simp [CandidateValue.json?]

theorem exists_safeParseTask {candidate : Candidate} :
    (exists task, safeParseTask candidate = .ok task) <->
      forall field, field ∈ importedTaskShape -> (parseField candidate field).issues = [] := by
  simp only [safeParseTask_eq_ok]
  constructor
  · rintro ⟨task, h, _⟩
    exact h
  · intro h
    exact ⟨_, h, rfl⟩

theorem lookup_mem {entries : List (String × String)} {value : String}
    (h : entries.lookup key = some value) : (key, value) ∈ entries := by
  induction entries with
  | nil =>
      cases h
  | cons entry rest ih =>
      rcases entry with ⟨key', value'⟩
      rw [List.lookup_cons] at h
      by_cases hkey : key = key'
      · rw [hkey, beq_self_eq_true] at h
        cases h
        rw [hkey]
        exact List.mem_cons_self
      · rw [beq_false_of_ne hkey] at h
        exact List.mem_cons_of_mem _ (ih h)

/-- A word is mapped to a value of the map, if not to an inherited member. -/
theorem mapWord_json {toLowerCase : String -> String} {map : List (String × String)}
    {values : List String} (hvalues : forall entry, entry ∈ map -> entry.2 ∈ values)
    {raw : String} {word : Json} (h : mapWord toLowerCase map raw = some (.json word)) :
    exists value, word = .string value ∧ value ∈ values := by
  unfold mapWord at h
  dsimp only at h
  split at h
  · rename_i value hmember
    cases h
    refine ⟨value, rfl, ?_⟩
    unfold Records.member at hmember
    split at hmember
    · rename_i found hlookup
      cases hmember
      exact hvalues _ (lookup_mem hlookup)
    · split at hmember <;> cases hmember
  · cases h
  · cases h

theorem mapTaskType_json {toLowerCase : String -> String} {raw : String} {word : Json}
    (h : mapTaskType toLowerCase raw = some (.json word)) :
    exists value, word = .string value ∧ value ∈ validTaskTypes :=
  mapWord_json (by decide) h

theorem mapPriority_json {toLowerCase : String -> String} {raw : String} {word : Json}
    (h : mapPriority toLowerCase raw = some (.json word)) :
    exists value, word = .string value ∧ value ∈ ["critical", "high", "medium", "low"] :=
  mapWord_json (by decide) h

/-- What the schema says of a value of a field that may be missing. -/
def Fits (schema : Schema) (value : Option Json) : Prop :=
  forall v, value = some v -> schema (some v) = true

theorem accepts_optional {type : ZodType} :
    accepts type.optional value = true <-> Fits (accepts type) value := by
  cases value with
  | none =>
      simp [accepts, Schema.optional, Fits]
  | some value =>
      simp [accepts, Schema.optional, Fits]

theorem accepts_title {message title : String} :
    accepts (.string [nonEmpty message, atMost500]) (some (.string title)) = true <->
      title ≠ "" ∧ (JsonText.unitsOf title.toList).length ≤ 500 := by
  simp [accepts, Schema.string, nonEmpty, atMost500]

theorem accepts_nonEmptyText {text : String} :
    accepts nonEmptyText (some (.string text)) = true <-> text ≠ "" := by
  simp [accepts, nonEmptyText, Schema.string, nonEmpty]

structure AcceptedCandidate (raw : Json) (source title : String)
    (mappedType : CandidateValue) (description : Option Json)
    (mappedPriority : Option CandidateValue)
    (dependencies acceptanceCriteria suggestedFileScope : Option Json) : Prop where
  source : source ≠ ""
  title : title ≠ "" ∧ (JsonText.unitsOf title.toList).length ≤ 500
  type : exists word, mappedType = .json word ∧ accepts TaskTypeSchema (some word) = true
  ref : Fits (accepts nonEmptyText) (raw.field? "id")
  description : Fits (accepts (.string [])) description
  priority : forall value, mappedPriority = some value -> exists word, value = .json word ∧
    accepts TaskPrioritySchema (some word) = true
  dependencies : Fits (accepts (.array nonEmptyText)) dependencies
  acceptanceCriteria : Fits (accepts (.array nonEmptyText)) acceptanceCriteria
  suggestedFileScope : Fits (accepts (.array nonEmptyText)) suggestedFileScope

section Lookup

variable {raw : Json} {source title : String} {mappedType : CandidateValue}
  {description : Option Json} {mappedPriority : Option CandidateValue}
  {dependencies acceptanceCriteria suggestedFileScope : Option Json}
  {metadata : List (String × Json)}

theorem lookup_backlogCandidate {value : Option CandidateValue}
    (h : [("title", some (.json (.string title))), ("taskType", some mappedType),
        ("externalRef", (raw.field? "id").map .json),
        ("source", some (.json (.string source))), ("description", description.map .json),
        ("priority", mappedPriority), ("dependencies", dependencies.map .json),
        ("acceptanceCriteria", acceptanceCriteria.map .json),
        ("suggestedFileScope", suggestedFileScope.map .json),
        ("metadata", if metadata = [] then none else some (.json (.object metadata)))].lookup
          key = some value) :
    (backlogCandidate raw source title mappedType description mappedPriority dependencies
      acceptanceCriteria suggestedFileScope metadata).lookup key = value := by
  unfold backlogCandidate
  rw [lookup_candidateOf (by simp), h]
  rfl

theorem lookup_backlogCandidate_none
    (h : key ∉ ["title", "taskType", "externalRef", "source", "description", "priority",
      "dependencies", "acceptanceCriteria", "suggestedFileScope", "metadata"]) :
    (backlogCandidate raw source title mappedType description mappedPriority dependencies
      acceptanceCriteria suggestedFileScope metadata).lookup key = none := by
  unfold backlogCandidate
  rw [lookup_candidateOf (by simp), List.lookup_eq_none_iff.mpr]
  · rfl
  · simpa using h

theorem safeParse_backlogCandidate :
    (exists task, safeParseTask (backlogCandidate raw source title mappedType description
      mappedPriority dependencies acceptanceCriteria suggestedFileScope metadata) =
        .ok task) <->
      AcceptedCandidate raw source title mappedType description mappedPriority dependencies
        acceptanceCriteria suggestedFileScope := by
  have hjson : forall {key : String} {type : ZodType} {value : Option Json},
      (backlogCandidate raw source title mappedType description mappedPriority dependencies
        acceptanceCriteria suggestedFileScope metadata).lookup key = value.map .json ->
      ((parseField (backlogCandidate raw source title mappedType description mappedPriority
        dependencies acceptanceCriteria suggestedFileScope metadata) (key, type)).issues = [] <->
        accepts type value = true) :=
    fun hlookup => parseField_json hlookup
  have htitle := @hjson "title" (.string [nonEmpty "title is required", atMost500])
    (some (.string title)) (lookup_backlogCandidate rfl)
  have hsource := @hjson "source" (.optional nonEmptyText) (some (.string source))
    (lookup_backlogCandidate rfl)
  have href := @hjson "externalRef" (.optional nonEmptyText) (raw.field? "id")
    (lookup_backlogCandidate rfl)
  have hdescription := @hjson "description" (.optional (.string [])) description
    (lookup_backlogCandidate rfl)
  have hdependencies := @hjson "dependencies" (.optional (.array nonEmptyText)) dependencies
    (lookup_backlogCandidate rfl)
  have hcriteria := @hjson "acceptanceCriteria" (.optional (.array nonEmptyText))
    acceptanceCriteria (lookup_backlogCandidate rfl)
  have hscope := @hjson "suggestedFileScope" (.optional (.array nonEmptyText))
    suggestedFileScope (lookup_backlogCandidate rfl)
  have hmetadata := @hjson "metadata" (.optional (.object []))
    (if metadata = [] then none else some (.object metadata))
    (lookup_backlogCandidate (by split <;> rfl))
  have hmissing : forall {key : String} {type : ZodType},
      key ∉ ["title", "taskType", "externalRef", "source", "description", "priority",
        "dependencies", "acceptanceCriteria", "suggestedFileScope", "metadata"] ->
      (parseField (backlogCandidate raw source title mappedType description mappedPriority
        dependencies acceptanceCriteria suggestedFileScope metadata)
        (key, .optional type)).issues = [] := by
    intro key type hkey
    exact (@hjson key (.optional type) none (lookup_backlogCandidate_none hkey)).mpr rfl
  rw [exists_safeParseTask]
  constructor
  · intro h
    have htype := h ("taskType", TaskTypeSchema) (by simp [importedTaskShape])
    have hpriority := h ("priority", .optional TaskPrioritySchema) (by simp [importedTaskShape])
    rw [parseField_issues, Candidate.valueAt, lookup_backlogCandidate rfl] at htype hpriority
    constructor
    · exact accepts_nonEmptyText.mp
        (hsource.mp (h _ (by simp [importedTaskShape])))
    · exact accepts_title.mp (htitle.mp (h _ (by simp [importedTaskShape])))
    · cases mappedType with
      | json word =>
          exact ⟨word, rfl, htype.2⟩
      | inherited name =>
          exact absurd rfl (htype.1 name)
    · exact accepts_optional.mp (href.mp (h _ (by simp [importedTaskShape])))
    · exact accepts_optional.mp (hdescription.mp (h _ (by simp [importedTaskShape])))
    · intro value hvalue
      rw [hvalue] at hpriority
      cases value with
      | json word =>
          exact ⟨word, rfl, accepts_optional.mp hpriority.2 word rfl⟩
      | inherited name =>
          exact absurd rfl (hpriority.1 name)
    · exact accepts_optional.mp (hdependencies.mp (h _ (by simp [importedTaskShape])))
    · exact accepts_optional.mp (hcriteria.mp (h _ (by simp [importedTaskShape])))
    · exact accepts_optional.mp (hscope.mp (h _ (by simp [importedTaskShape])))
  · intro h field hfield
    simp only [importedTaskShape, List.mem_cons, List.not_mem_nil, or_false] at hfield
    rcases hfield with rfl | rfl | rfl | rfl | rfl | rfl | rfl | rfl | rfl | rfl | rfl | rfl |
      rfl | rfl
    · exact htitle.mpr (accepts_title.mpr h.title)
    · exact hdescription.mpr (accepts_optional.mpr h.description)
    · rcases h.type with ⟨word, hword, haccepts⟩
      rw [@parseField_json _ _ _ (some word)]
      · exact haccepts
      · rw [lookup_backlogCandidate rfl, hword]
        rfl
    · cases mappedPriority with
      | none =>
          exact (@hjson "priority" (.optional TaskPrioritySchema) none
            (lookup_backlogCandidate rfl)).mpr rfl
      | some value =>
          rcases h.priority value rfl with ⟨word, hword, haccepts⟩
          rw [@parseField_json _ _ _ (some word)]
          · exact haccepts
          · rw [lookup_backlogCandidate rfl, hword]
            rfl
    · exact hmissing (by decide)
    · exact hmissing (by decide)
    · exact hcriteria.mpr (accepts_optional.mpr h.acceptanceCriteria)
    · exact hmissing (by decide)
    · exact hdependencies.mpr (accepts_optional.mpr h.dependencies)
    · exact hscope.mpr (accepts_optional.mpr h.suggestedFileScope)
    · exact href.mpr (accepts_optional.mpr h.ref)
    · exact hsource.mpr (accepts_nonEmptyText.mpr h.source)
    · exact hmissing (by decide)
    · apply hmetadata.mpr
      split
      · rfl
      · rfl

end Lookup

/-!
## Fields that are kept
-/

theorem exists_keptFields {raw : Json} :
    (exists entries, keptFields coercions raw fields = .ok entries) <->
      forall field, field ∈ fields -> Comparable field.kind (raw.field? field.key) := by
  induction fields with
  | nil =>
      simp [keptFields]
  | cons field rest ih =>
      rw [List.forall_mem_cons, ← ih, ← @exists_kept coercions]
      constructor
      · rintro ⟨entries, h⟩
        rcases bind_eq_ok.mp h with ⟨value, hvalue, hrest⟩
        rcases bind_eq_ok.mp hrest with ⟨others, hothers, _⟩
        exact ⟨⟨value, hvalue⟩, others, hothers⟩
      · rintro ⟨⟨value, hvalue⟩, others, hothers⟩
        exact ⟨_, by rw [keptFields, hvalue, hothers]; rfl⟩

theorem lookup_keptFields_none {raw : Json} {target : String}
    (htarget : target ∉ fields.map MappedField.target) {entries : List (String × Json)}
    (h : keptFields coercions raw fields = .ok entries) : entries.lookup target = none := by
  induction fields generalizing entries with
  | nil =>
      cases h
      rfl
  | cons field rest ih =>
      rw [List.map_cons, List.mem_cons, not_or] at htarget
      rcases bind_eq_ok.mp h with ⟨value, _, hrest⟩
      rcases bind_eq_ok.mp hrest with ⟨others, hothers, hpure⟩
      rw [← (pure_eq_ok _ _).mp hpure]
      cases value with
      | none =>
          exact ih htarget.2 hothers
      | some value =>
          rw [Option.map_some, Option.toList_some, List.singleton_append, List.lookup_cons,
            beq_false_of_ne htarget.1]
          exact ih htarget.2 hothers

theorem lookup_keptFields {raw : Json} (hnodup : (fields.map MappedField.target).Nodup)
    {entries : List (String × Json)} (h : keptFields coercions raw fields = .ok entries)
    {field : MappedField} (hfield : field ∈ fields) :
    kept coercions field.kind (raw.field? field.key) = .ok (entries.lookup field.target) := by
  induction fields generalizing entries with
  | nil =>
      cases hfield
  | cons first rest ih =>
      rw [List.map_cons, List.nodup_cons] at hnodup
      rcases bind_eq_ok.mp h with ⟨value, hvalue, hrest⟩
      rcases bind_eq_ok.mp hrest with ⟨others, hothers, hpure⟩
      rw [← (pure_eq_ok _ _).mp hpure]
      rcases List.mem_cons.mp hfield with hfield | hfield
      · rw [hfield, hvalue]
        cases value with
        | none =>
            rw [Option.map_none, Option.toList_none, List.nil_append,
              lookup_keptFields_none hnodup.1 hothers]
        | some value =>
            simp
      · have hne : field.target ≠ first.target := by
          intro heq
          apply hnodup.1
          rw [← heq]
          exact List.mem_map_of_mem hfield
        rw [ih hnodup.2 hothers hfield]
        cases value with
        | none =>
            rfl
        | some value =>
            rw [Option.map_some, Option.toList_some, List.singleton_append, List.lookup_cons,
              beq_false_of_ne hne]

/-!
## Exceptions
-/

def listKeys : List String :=
  ["deps", "criteria", "context", "blocks", "in_scope", "out_scope"]

def HasTitle (raw : Json) : Prop :=
  exists text, raw.field? "title" = some (.string text) ∧ trimmed text ≠ ""

def HasType (toLowerCase : String -> String) (raw : Json) : Prop :=
  exists text, raw.field? "type" = some (.string text) ∧ text ≠ "" ∧
    mapTaskType toLowerCase text ≠ none

/-- No method is called on a value that does not have it, and what is shown has a text. -/
structure Runs (toLowerCase : String -> String) (raw : Json) : Prop where
  ref : forall id, raw.field? "id" = some id -> Coercions.convertible id = true
  title : TextOrFalse (raw.field? "title")
  type : HasTitle raw -> TextOrFalse (raw.field? "type")
  priority : HasTitle raw -> HasType toLowerCase raw -> TextOrFalse (raw.field? "priority")
  lists : HasTitle raw -> HasType toLowerCase raw ->
    forall key, key ∈ listKeys -> Comparable .list (raw.field? key)

theorem comparable_text (value : Option Json) : Comparable .text value :=
  nofun

theorem exists_keptFields_metadata {raw : Json} :
    (exists entries, keptFields coercions raw metadataFields = .ok entries) <->
      forall key, key ∈ ["blocks", "in_scope", "out_scope"] ->
        Comparable .list (raw.field? key) := by
  rw [exists_keptFields]
  simp [metadataFields, comparable_text]

variable {toLowerCase : String -> String}

theorem exists_mapTypedTask {raw : Json} {source title : String}
    {mappedType : CandidateValue} :
    (exists result, mapTypedTask coercions toLowerCase raw source
      (nullish (raw.field? "id") (.string "unknown")) title mappedType = .ok result) <->
      TextOrFalse (raw.field? "priority") ∧
        (forall key, key ∈ listKeys -> Comparable .list (raw.field? key)) ∧
        forall id, raw.field? "id" = some id -> Coercions.convertible id = true := by
  have href := @convertible_nullish (raw.field? "id") (.string "unknown") rfl
  unfold mapTypedTask
  simp only [bind_eq_ok]
  constructor
  · rintro ⟨result, priority, hpriority, warnings, _, description, _, dependencies, hdeps,
      acceptanceCriteria, hcriteria, suggestedFileScope, hscope, metadata, hmetadata,
      hvalidated⟩
    refine ⟨(textFor_eq_ok.mp hpriority).1, ?_, ?_⟩
    · have hlists := exists_keptFields_metadata.mp ⟨metadata, hmetadata⟩
      simp only [listKeys, List.forall_mem_cons, List.not_mem_nil, false_implies,
        implies_true, and_true] at hlists ⊢
      exact ⟨exists_kept.mp ⟨_, hdeps⟩, exists_kept.mp ⟨_, hcriteria⟩,
        exists_kept.mp ⟨_, hscope⟩, hlists⟩
    · apply href.mp
      rcases (exists_validated fun _ => exists_taskPrefix).mp ⟨result, hvalidated⟩ with
        haccepted | hconvertible
      · have hid := (safeParse_backlogCandidate.mp haccepted).ref
        apply href.mpr
        intro id hfield
        have htext := hid id hfield
        cases id with
        | string text =>
            rfl
        | null | boolean value | number value | array items | object entries =>
            cases htext
      · exact hconvertible
  · rintro ⟨hpriority, hlists, hid⟩
    have hconvertible := href.mpr hid
    simp only [listKeys, List.forall_mem_cons, List.not_mem_nil, false_implies,
      implies_true, and_true] at hlists
    rcases hlists with ⟨hdeps, hcriteria, hscope, hblocks, hinScope, houtScope⟩
    rcases @exists_priorityWarnings coercions source _ (asText (raw.field? "priority"))
      ((asText (raw.field? "priority")).bind (mapPriority toLowerCase)) hconvertible with
      ⟨warnings, hwarnings⟩
    rcases @exists_kept coercions |>.mpr (comparable_text (raw.field? "desc")) with
      ⟨description, hdescription⟩
    rcases @exists_kept coercions |>.mpr hdeps with ⟨dependencies, hdependencies⟩
    rcases @exists_kept coercions |>.mpr hcriteria with ⟨acceptanceCriteria, hcriteria⟩
    rcases @exists_kept coercions |>.mpr hscope with ⟨suggestedFileScope, hscope⟩
    rcases @exists_keptFields_metadata coercions raw |>.mpr (by
      simpa using ⟨hblocks, hinScope, houtScope⟩) with ⟨metadata, hmetadata⟩
    rcases (exists_validated fun _ => exists_taskPrefix).mpr (Or.inr hconvertible) with
      ⟨result, hresult⟩
    exact ⟨result, _, textFor_eq_ok.mpr ⟨hpriority, rfl⟩, warnings, hwarnings, description,
      hdescription, dependencies, hdependencies, acceptanceCriteria, hcriteria,
      suggestedFileScope, hscope, metadata, hmetadata, hresult⟩

theorem usableTitle_eq_some {raw : Json} {title : String} :
    (((asText (raw.field? "title")).map trimmed).filter fun title => title ≠ "") =
        some title <->
      (exists text, raw.field? "title" = some (.string text) ∧ trimmed text = title) ∧
        title ≠ "" := by
  rw [Option.filter_eq_some_iff, Option.map_eq_some_iff]
  constructor
  · rintro ⟨⟨text, htext, htrimmed⟩, hne⟩
    exact ⟨⟨text, (asText_eq_some.mp htext).1, htrimmed⟩, by simpa using hne⟩
  · rintro ⟨⟨text, htext, htrimmed⟩, hne⟩
    refine ⟨⟨text, asText_eq_some.mpr ⟨htext, ?_⟩, htrimmed⟩, by simpa using hne⟩
    intro hempty
    apply hne
    rw [← htrimmed, hempty]
    rfl

theorem usableTitle_eq_none {raw : Json} :
    (((asText (raw.field? "title")).map trimmed).filter fun title => title ≠ "") = none <->
      ¬ HasTitle raw := by
  constructor
  · rintro h ⟨text, htext, hne⟩
    have hsome := usableTitle_eq_some.mpr ⟨⟨text, htext, rfl⟩, hne⟩
    rw [h] at hsome
    cases hsome
  · intro h
    cases htitle : ((asText (raw.field? "title")).map trimmed).filter
        fun title => title ≠ "" with
    | none =>
        rfl
    | some title =>
        rcases usableTitle_eq_some.mp htitle with ⟨⟨text, htext, htrimmed⟩, hne⟩
        exact absurd ⟨text, htext, htrimmed ▸ hne⟩ h

theorem mappedType_eq_some {raw : Json} {mappedType : CandidateValue} :
    (asText (raw.field? "type")).bind (mapTaskType toLowerCase) = some mappedType <->
      exists text, raw.field? "type" = some (.string text) ∧ text ≠ "" ∧
        mapTaskType toLowerCase text = some mappedType := by
  rw [Option.bind_eq_some_iff]
  constructor
  · rintro ⟨text, htext, hmapped⟩
    rcases asText_eq_some.mp htext with ⟨hfield, hne⟩
    exact ⟨text, hfield, hne, hmapped⟩
  · rintro ⟨text, hfield, hne, hmapped⟩
    exact ⟨text, asText_eq_some.mpr ⟨hfield, hne⟩, hmapped⟩

theorem mappedType_eq_none {raw : Json} :
    (asText (raw.field? "type")).bind (mapTaskType toLowerCase) = none <->
      ¬ HasType toLowerCase raw := by
  constructor
  · rintro h ⟨text, hfield, hne, hmapped⟩
    cases hword : mapTaskType toLowerCase text with
    | none =>
        exact hmapped hword
    | some word =>
        rw [mappedType_eq_some.mpr ⟨text, hfield, hne, hword⟩] at h
        cases h
  · intro h
    cases htype : (asText (raw.field? "type")).bind (mapTaskType toLowerCase) with
    | none =>
        rfl
    | some mappedType =>
        rcases mappedType_eq_some.mp htype with ⟨text, hfield, hne, hmapped⟩
        exact absurd ⟨text, hfield, hne, by simp [hmapped]⟩ h

theorem convertible_shown_type {raw : Json} (h : TextOrFalse (raw.field? "type")) :
    Coercions.convertible (nullish (raw.field? "type") (.string "")) = true := by
  apply (convertible_nullish rfl).mpr
  intro v hv
  rcases h v hv with ⟨text, htext⟩ | hfalse
  · rw [htext]
    rfl
  · cases v with
    | null | boolean value | number value | string value =>
        rfl
    | array items | object entries =>
        cases hfalse

theorem exists_mapBacklogTask {raw : Json} {source : String} :
    (exists result, mapBacklogTask coercions toLowerCase raw source = .ok result) <->
      Runs toLowerCase raw := by
  have href := @convertible_nullish (raw.field? "id") (.string "unknown") rfl
  unfold mapBacklogTask
  simp only [bind_eq_ok, textFor_eq_ok]
  constructor
  · rintro ⟨result, title, ⟨htitle, htext⟩, h⟩
    rw [← htext] at h
    cases husable : ((asText (raw.field? "title")).map trimmed).filter
        fun title => title ≠ "" with
    | none =>
        have hno := usableTitle_eq_none.mp husable
        rw [husable] at h
        exact
          { ref := href.mp (exists_refused.mp ⟨result, h⟩)
            title := htitle
            type := fun hhas => absurd hhas hno
            priority := fun hhas => absurd hhas hno
            lists := fun hhas => absurd hhas hno }
    | some title =>
        rw [husable] at h
        rcases bind_eq_ok.mp h with ⟨type, htype, hrest⟩
        rcases textFor_eq_ok.mp htype with ⟨htypeText, htypeEq⟩
        rw [← htypeEq] at hrest
        cases hmapped : (asText (raw.field? "type")).bind (mapTaskType toLowerCase) with
        | none =>
            have hno := mappedType_eq_none.mp hmapped
            rw [hmapped] at hrest
            rcases bind_eq_ok.mp hrest with ⟨shown, _, hrefused⟩
            exact
              { ref := href.mp (exists_refused.mp ⟨result, hrefused⟩)
                title := htitle
                type := fun _ => htypeText
                priority := fun _ hhas => absurd hhas hno
                lists := fun _ hhas => absurd hhas hno }
        | some mappedType =>
            rw [hmapped] at hrest
            rcases exists_mapTypedTask.mp ⟨result, hrest⟩ with ⟨hpriority, hlists, hid⟩
            exact
              { ref := hid
                title := htitle
                type := fun _ => htypeText
                priority := fun _ _ => hpriority
                lists := fun _ _ => hlists }
  · intro h
    have hconvertible := href.mpr h.ref
    cases husable : ((asText (raw.field? "title")).map trimmed).filter
        fun title => title ≠ "" with
    | none =>
        rcases (@exists_refused coercions source "title"
          "missing required field \"title\"" _).mpr hconvertible with ⟨result, hresult⟩
        refine ⟨result, _, ⟨h.title, rfl⟩, ?_⟩
        rw [husable]
        exact hresult
    | some title =>
        rcases usableTitle_eq_some.mp husable with ⟨⟨text, htext, htrimmed⟩, hne⟩
        have hhas : HasTitle raw := ⟨text, htext, htrimmed ▸ hne⟩
        have htype := h.type hhas
        cases hmapped : (asText (raw.field? "type")).bind (mapTaskType toLowerCase) with
        | none =>
            rcases @Coercions.textOf_eq_ok coercions _ |>.mpr (convertible_shown_type htype)
              with ⟨shown, hshown⟩
            rcases (@exists_refused coercions source "type"
              ("could not map type \"" ++ shown ++ "\" to a known task type") _).mpr
                hconvertible with ⟨result, hresult⟩
            refine ⟨result, _, ⟨h.title, rfl⟩, ?_⟩
            rw [husable]
            refine bind_eq_ok.mpr ⟨_, textFor_eq_ok.mpr ⟨htype, rfl⟩, ?_⟩
            rw [hmapped]
            exact bind_eq_ok.mpr ⟨shown, hshown, hresult⟩
        | some mappedType =>
            rcases mappedType_eq_some.mp hmapped with ⟨word, hword, hwordNe, hwordMapped⟩
            have hhasType : HasType toLowerCase raw :=
              ⟨word, hword, hwordNe, by simp [hwordMapped]⟩
            rcases exists_mapTypedTask.mpr ⟨h.priority hhas hhasType, h.lists hhas hhasType,
              h.ref⟩ with ⟨result, hresult⟩
            refine ⟨result, _, ⟨h.title, rfl⟩, ?_⟩
            rw [husable]
            refine bind_eq_ok.mpr ⟨_, textFor_eq_ok.mpr ⟨htype, rfl⟩, ?_⟩
            rw [hmapped]
            exact hresult

/-!
## Tasks
-/

structure Accepted (coercions : Coercions) (toLowerCase : String -> String) (source : String)
    (raw : Json) : Prop where
  source : source ≠ ""
  title : exists text, raw.field? "title" = some (.string text) ∧ trimmed text ≠ "" ∧
    (JsonText.unitsOf (trimmed text).toList).length ≤ 500
  type : exists text word, raw.field? "type" = some (.string text) ∧ text ≠ "" ∧
    mapTaskType toLowerCase text = some (.json word)
  priority : forall text name, raw.field? "priority" = some (.string text) -> text ≠ "" ->
    mapPriority toLowerCase text ≠ some (.inherited name)
  ref : Fits (accepts nonEmptyText) (raw.field? "id")
  description : forall v, raw.field? "desc" = some v -> ¬ CountsAsEmpty coercions .text v ->
    accepts (.string []) (some v) = true
  lists : forall key, key ∈ ["deps", "criteria", "context"] ->
    forall v, raw.field? key = some v -> ¬ CountsAsEmpty coercions .list v ->
      accepts (.array nonEmptyText) (some v) = true

theorem fits_kept {found : Option Json} {schema : Schema}
    (h : kept coercions kind value = .ok found) :
    Fits schema found <->
      forall v, value = some v -> ¬ CountsAsEmpty coercions kind v -> schema (some v) = true := by
  cases found with
  | none =>
      have hempty := kept_eq_ok_none.mp h
      constructor
      · intro _ v hv hnot
        exact absurd (hempty v hv) hnot
      · intro _ v hv
        cases hv
  | some v =>
      rcases kept_eq_ok_some h with ⟨hvalue, hnot⟩
      constructor
      · intro hfits w hw _
        rw [hvalue] at hw
        rw [← hw]
        exact hfits v rfl
      · intro hall w hw
        cases hw
        exact hall v hvalue hnot

section Typed

variable {raw : Json} {source text word : String} {mappedType : CandidateValue}
  {description dependencies acceptanceCriteria suggestedFileScope : Option Json}

theorem acceptedCandidate_iff (htext : raw.field? "title" = some (.string text))
    (hne : trimmed text ≠ "") (hword : raw.field? "type" = some (.string word))
    (hwordNe : word ≠ "") (hmapped : mapTaskType toLowerCase word = some mappedType)
    (hdescription : kept coercions .text (raw.field? "desc") = .ok description)
    (hdependencies : kept coercions .list (raw.field? "deps") = .ok dependencies)
    (hcriteria : kept coercions .list (raw.field? "criteria") = .ok acceptanceCriteria)
    (hscope : kept coercions .list (raw.field? "context") = .ok suggestedFileScope) :
    AcceptedCandidate raw source (trimmed text) mappedType description
        ((asText (raw.field? "priority")).bind (mapPriority toLowerCase)) dependencies
        acceptanceCriteria suggestedFileScope <->
      Accepted coercions toLowerCase source raw := by
  constructor
  · intro h
    constructor
    · exact h.source
    · exact ⟨text, htext, hne, h.title.2⟩
    · rcases h.type with ⟨value, hvalue, _⟩
      exact ⟨word, value, hword, hwordNe, by rw [hmapped, hvalue]⟩
    · intro shown name hshown hshownNe hinherited
      rcases h.priority (.inherited name) (by
        rw [asText_eq_some.mpr ⟨hshown, hshownNe⟩]
        exact hinherited) with ⟨value, hvalue, _⟩
      cases hvalue
    · exact h.ref
    · exact (fits_kept hdescription).mp h.description
    · simp only [List.forall_mem_cons, List.not_mem_nil, false_implies, implies_true, and_true]
      exact ⟨(fits_kept hdependencies).mp h.dependencies,
        (fits_kept hcriteria).mp h.acceptanceCriteria,
        (fits_kept hscope).mp h.suggestedFileScope⟩
  · intro h
    have hlists := h.lists
    simp only [List.forall_mem_cons, List.not_mem_nil, false_implies, implies_true,
      and_true] at hlists
    constructor
    · exact h.source
    · rcases h.title with ⟨text', htext', _, hlength⟩
      rw [htext] at htext'
      cases htext'
      exact ⟨hne, hlength⟩
    · rcases h.type with ⟨word', value, hword', _, hjson⟩
      rw [hword] at hword'
      cases hword'
      rw [hmapped] at hjson
      cases hjson
      rcases mapTaskType_json hmapped with ⟨type, htype, hmem⟩
      refine ⟨value, rfl, ?_⟩
      rw [htype]
      simpa [accepts, TaskTypeSchema, Schema.oneOf, Schema.string] using hmem
    · exact h.ref
    · exact (fits_kept hdescription).mpr h.description
    · intro value hvalue
      rcases Option.bind_eq_some_iff.mp hvalue with ⟨shown, hshown, hpriority⟩
      rcases asText_eq_some.mp hshown with ⟨hfield, hshownNe⟩
      cases value with
      | inherited name =>
          exact absurd hpriority (h.priority shown name hfield hshownNe)
      | json value =>
          rcases mapPriority_json hpriority with ⟨priority, heq, hmem⟩
          refine ⟨value, rfl, ?_⟩
          rw [heq]
          simpa [accepts, TaskPrioritySchema, Schema.oneOf, Schema.string] using hmem
    · exact (fits_kept hdependencies).mpr hlists.1
    · exact (fits_kept hcriteria).mpr hlists.2.1
    · exact (fits_kept hscope).mpr hlists.2.2

end Typed

structure MadeOf (coercions : Coercions) (toLowerCase : String -> String) (source : String)
    (raw : Json) (result : ParseJsonTaskResult) : Prop where
  accepted : Accepted coercions toLowerCase source raw
  priority : TextOrFalse (raw.field? "priority")
  warnings : result.warnings ≠ [] ->
    (asText (raw.field? "priority")).isSome = true ∧
      forall warning, warning ∈ result.warnings -> warning.field = some "priority"
  task : exists title mappedType description dependencies acceptanceCriteria
      suggestedFileScope metadata,
    kept coercions .text (raw.field? "desc") = .ok description ∧
    kept coercions .list (raw.field? "deps") = .ok dependencies ∧
    kept coercions .list (raw.field? "criteria") = .ok acceptanceCriteria ∧
    kept coercions .list (raw.field? "context") = .ok suggestedFileScope ∧
    keptFields coercions raw metadataFields = .ok metadata ∧
    result.task = some (importedTask (backlogCandidate raw source title mappedType description
      ((asText (raw.field? "priority")).bind (mapPriority toLowerCase)) dependencies
      acceptanceCriteria suggestedFileScope metadata).valueAt)

/-- An entry becomes a task if it is accepted, and otherwise an error says that it is not. -/
theorem mapBacklogTask_eq_ok {raw : Json} {source : String}
    (h : mapBacklogTask coercions toLowerCase raw source = .ok result) :
    MadeOf coercions toLowerCase source raw result ∨
      result.task = none ∧ result.Accounted ∧
        ¬ Accepted coercions toLowerCase source raw := by
  unfold mapBacklogTask at h
  rcases bind_eq_ok.mp h with ⟨title, htitle, hrest⟩
  rw [← (textFor_eq_ok.mp htitle).2] at hrest
  cases husable : ((asText (raw.field? "title")).map trimmed).filter
      fun title => title ≠ "" with
  | none =>
      rw [husable] at hrest
      have hno := usableTitle_eq_none.mp husable
      refine Or.inr ⟨(refused_eq_ok hrest).1, (refused_eq_ok hrest).2, ?_⟩
      intro haccepted
      rcases haccepted.title with ⟨text, htext, hne, _⟩
      exact hno ⟨text, htext, hne⟩
  | some title =>
      rw [husable] at hrest
      rcases usableTitle_eq_some.mp husable with ⟨⟨text, htext, htrimmed⟩, hne⟩
      rcases bind_eq_ok.mp hrest with ⟨type, htype, hrest⟩
      rw [← (textFor_eq_ok.mp htype).2] at hrest
      cases hmapped : (asText (raw.field? "type")).bind (mapTaskType toLowerCase) with
      | none =>
          rw [hmapped] at hrest
          rcases bind_eq_ok.mp hrest with ⟨_, _, hrefused⟩
          have hno := mappedType_eq_none.mp hmapped
          refine Or.inr ⟨(refused_eq_ok hrefused).1, (refused_eq_ok hrefused).2, ?_⟩
          intro haccepted
          rcases haccepted.type with ⟨word, value, hword, hwordNe, hjson⟩
          exact hno ⟨word, hword, hwordNe, by simp [hjson]⟩
      | some mappedType =>
          rw [hmapped] at hrest
          rcases mappedType_eq_some.mp hmapped with ⟨word, hword, hwordNe, hwordMapped⟩
          unfold mapTypedTask at hrest
          simp only [bind_eq_ok] at hrest
          rcases hrest with ⟨priority, hpriority, warnings, hwarnings, description,
            hdescription, dependencies, hdependencies, acceptanceCriteria, hcriteria,
            suggestedFileScope, hscope, metadata, hmetadata, hvalidated⟩
          rcases textFor_eq_ok.mp hpriority with ⟨hpriorityText, hpriorityEq⟩
          rw [← hpriorityEq] at hwarnings hvalidated
          rw [← htrimmed] at hne hvalidated
          have hiff := @acceptedCandidate_iff coercions toLowerCase raw source text word
            mappedType description dependencies acceptanceCriteria suggestedFileScope htext hne
            hword hwordNe hwordMapped hdescription hdependencies hcriteria hscope
          rcases validated_eq_ok hvalidated with ⟨task, htask, hresult⟩ | ⟨hno, hnone, haccounted⟩
          · left
            rw [hresult]
            exact
              { accepted := hiff.mp (safeParse_backlogCandidate.mp ⟨task, htask⟩)
                priority := hpriorityText
                warnings := priorityWarnings_eq_ok hwarnings
                task := ⟨_, _, description, dependencies, acceptanceCriteria,
                  suggestedFileScope, metadata, hdescription, hdependencies, hcriteria, hscope,
                  hmetadata, congrArg some (safeParseTask_eq_ok.mp htask).2⟩ }
          · refine Or.inr ⟨hnone, haccounted, ?_⟩
            intro haccepted
            rcases safeParse_backlogCandidate.mpr (hiff.mpr haccepted) with ⟨task, htask⟩
            exact hno task htask

/-!
## Names in warnings
-/

/-- The fields that the warnings of an entry name, or lie in. -/
def entryFields : List String :=
  "type" :: importedTaskShape.map Prod.fst

def NamesEntryField (warning : ParseWarning) : Prop :=
  forall name, warning.field = some name ->
    exists key, key ∈ entryFields ∧ key.toList <+: name.toList

theorem namesEntryField_of_mem {warning : ParseWarning} (hfield : warning.field = some key)
    (hkey : key ∈ entryFields) : NamesEntryField warning := by
  intro name hname
  rw [hfield] at hname
  cases hname
  exact ⟨key, hkey, List.prefix_rfl⟩

theorem pathText_of_safeParseTask {candidate : Candidate} {issues : List ZodIssue}
    (h : safeParseTask candidate = .error issues) {issue : ZodIssue} (hissue : issue ∈ issues) :
    exists key, key ∈ entryFields ∧ key.toList <+: (pathText issue.path).toList := by
  unfold safeParseTask at h
  dsimp only at h
  split at h
  · cases h
  · cases h
    rcases List.mem_flatMap.mp hissue with ⟨outcome, houtcome, hmem⟩
    rcases List.mem_map.mp houtcome with ⟨field, hfield, heq⟩
    rw [← heq] at hmem
    have hbelow : [PathItem.key field.1] <+: issue.path := by
      unfold parseField at hmem
      split at hmem
      · exact issuesBelow_parseForeign _ _ _ issue hmem
      · exact issuesBelow_parse _ _ _ issue hmem
      · exact issuesBelow_parse _ _ _ issue hmem
    rcases hbelow with ⟨rest, hrest⟩
    refine ⟨field.1, List.mem_cons_of_mem _ (List.mem_map_of_mem hfield), ?_⟩
    rw [← hrest]
    exact pathText_prefix (.key field.1) rest

theorem namesEntryField_of_validated {prefixed : Json -> String -> Except String String}
    {ref : Json} {source : String} {warnings : List ParseWarning} {candidate : Candidate}
    (hwarnings : forall warning, warning ∈ warnings -> NamesEntryField warning)
    (h : validated prefixed ref source warnings candidate = .ok result) :
    forall warning, warning ∈ result.warnings -> NamesEntryField warning := by
  unfold validated at h
  split at h
  · cases h
    exact hwarnings
  · rename_i issues hissues
    rcases bind_eq_ok.mp h with ⟨reports, hreports, hpure⟩
    rw [← (pure_eq_ok _ _).mp hpure]
    intro warning hwarning
    rcases List.mem_append.mp hwarning with hwarning | hwarning
    · exact hwarnings warning hwarning
    · rcases exists_of_mem_mapM hreports hwarning with ⟨issue, hissue, hreport⟩
      rcases bind_eq_ok.mp hreport with ⟨message, _, hwarn⟩
      rw [← (pure_eq_ok _ _).mp hwarn]
      intro name hname
      cases hname
      exact pathText_of_safeParseTask hissues hissue

theorem namesEntryField_of_refused {source field message : String} {ref : Json}
    (hfield : field ∈ entryFields)
    (h : refused coercions source field ref message = .ok result) :
    forall warning, warning ∈ result.warnings -> NamesEntryField warning := by
  rcases bind_eq_ok.mp h with ⟨shown, _, hpure⟩
  rw [← (pure_eq_ok _ _).mp hpure]
  intro warning hwarning
  rw [List.mem_singleton.mp hwarning]
  exact namesEntryField_of_mem rfl hfield

theorem namesEntryField_of_mapBacklogTask {raw : Json} {source : String}
    (h : mapBacklogTask coercions toLowerCase raw source = .ok result) :
    forall warning, warning ∈ result.warnings -> NamesEntryField warning := by
  unfold mapBacklogTask at h
  rcases bind_eq_ok.mp h with ⟨title, _, hrest⟩
  split at hrest
  · exact namesEntryField_of_refused (by decide) hrest
  · rcases bind_eq_ok.mp hrest with ⟨type, _, hrest⟩
    split at hrest
    · rcases bind_eq_ok.mp hrest with ⟨_, _, hrefused⟩
      exact namesEntryField_of_refused (by decide) hrefused
    · unfold mapTypedTask at hrest
      simp only [bind_eq_ok] at hrest
      rcases hrest with ⟨_, _, warnings, hwarnings, _, _, _, _, _, _, _, _, _, _, hvalidated⟩
      apply namesEntryField_of_validated _ hvalidated
      intro warning hwarning
      have hne : warnings ≠ [] := List.ne_nil_of_mem hwarning
      exact namesEntryField_of_mem ((priorityWarnings_eq_ok hwarnings hne).2 warning hwarning)
        (by decide)

end

end Importing
end CopilotFactory
