import CopilotFactory.Foundations.Json
import CopilotFactory.Foundations.Records

/-!
# Schemas that report issues

Where a schema does not accept a value, it reports issues, each with the path of a place
and a code.  It reports none exactly if it accepts the value.  What is set at places that
are reported as missing adds to a value and leaves the rest of it as it is.
-/

namespace CopilotFactory
namespace Foundations
namespace Zod

open Records

/-!
## Issues
-/

variable {α : Type} {value a r new : Json}

inductive PathItem where
  | key (name : String)
  | index (position : Nat)
deriving DecidableEq

def PathItem.text : PathItem -> String
  | .key name => name
  | .index position => toString position

def pathText (path : List PathItem) : String :=
  ".".intercalate (path.map PathItem.text)

/-- The code of an issue that a check of a string or a number adds. -/
inductive CheckCode where
  | tooSmall
  | tooBig
  | invalidString
  /-- An integer was expected. -/
  | float
deriving DecidableEq

inductive IssueCode where
  | invalidType (expected received : String)
  | invalidLiteral
  | invalidEnumValue
  | check (code : CheckCode)
  | custom
deriving DecidableEq

structure ZodIssue where
  path : List PathItem
  code : IssueCode
  message : String
deriving DecidableEq

structure Check (α : Type) where
  accepts : α -> Bool
  code : CheckCode
  message : String

inductive ZodType where
  | string (checks : List (Check String))
  | number (checks : List (Check Rat))
  | boolean
  | literal (value : String)
  | enumeration (values : List String)
  | array (item : ZodType)
  | object (shape : List (String × ZodType))
  | nullable (inner : ZodType)
  | optional (inner : ZodType)

/-- What parsing a value reports, and whether the value is given up: a failed check alone
does not give it up. -/
structure Outcome where
  issues : List ZodIssue
  aborted : Bool
  reported : aborted = true -> issues ≠ []

def Outcome.valid : Outcome where
  issues := []
  aborted := false
  reported := nofun

def Outcome.abort (issue : ZodIssue) : Outcome where
  issues := [issue]
  aborted := true
  reported := fun _ => List.cons_ne_nil _ _

def Outcome.all (outcomes : List Outcome) : Outcome where
  issues := outcomes.flatMap Outcome.issues
  aborted := outcomes.any Outcome.aborted
  reported := by
    intro h hnil
    rcases List.any_eq_true.mp h with ⟨o, ho, haborted⟩
    exact o.reported haborted (List.flatMap_eq_nil_iff.mp hnil o ho)

def typeOf : Option Json -> String
  | none => "undefined"
  | some .null => "null"
  | some (.boolean _) => "boolean"
  | some (.number _) => "number"
  | some (.string _) => "string"
  | some (.array _) => "array"
  | some (.object _) => "object"

def invalidType (expected : String) (path : List PathItem) (value : Option Json) : Outcome :=
  Outcome.abort
    { path := path
      code := .invalidType expected (typeOf value)
      message :=
        match value with
        | none => "Required"
        | some _ => "Expected " ++ expected ++ ", received " ++ typeOf value }

def runChecks {α : Type} (checks : List (Check α)) (path : List PathItem) (value : α) :
    Outcome where
  issues := (checks.filter fun check => !check.accepts value).map fun check =>
    { path := path, code := .check check.code, message := check.message }
  aborted := false
  reported := nofun

def joinValues (values : List String) : String :=
  " | ".intercalate (values.map fun value => "'" ++ value ++ "'")

def parseString (checks : List (Check String)) (path : List PathItem) :
    Option Json -> Outcome
  | some (.string text) => runChecks checks path text
  | value => invalidType "string" path value

def parseNumber (checks : List (Check Rat)) (path : List PathItem) : Option Json -> Outcome
  | some (.number number) => runChecks checks path number
  | value => invalidType "number" path value

def parseBoolean (path : List PathItem) : Option Json -> Outcome
  | some (.boolean _) => Outcome.valid
  | value => invalidType "boolean" path value

def parseLiteral (expected : String) (path : List PathItem) (value : Option Json) : Outcome :=
  if value = some (.string expected) then
    Outcome.valid
  else
    Outcome.abort
      { path := path
        code := .invalidLiteral
        message := "Invalid literal value, expected \"" ++ expected ++ "\"" }

def parseEnumeration (values : List String) (path : List PathItem) : Option Json -> Outcome
  | some (.string text) =>
      if text ∈ values then
        Outcome.valid
      else
        Outcome.abort
          { path := path
            code := .invalidEnumValue
            message := "Invalid enum value. Expected " ++ joinValues values ++
              ", received '" ++ text ++ "'" }
  | value => invalidType (joinValues values) path value

def parseArray (parseItem : List PathItem -> Option Json -> Outcome) (path : List PathItem) :
    Option Json -> Outcome
  | some (.array items) =>
      Outcome.all (items.zipIdx.map fun entry =>
        parseItem (path ++ [.index entry.2]) (some entry.1))
  | value => invalidType "array" path value

def parseObject (parseEntries : List (String × Json) -> List Outcome) (path : List PathItem) :
    Option Json -> Outcome
  | some (.object entries) => Outcome.all (parseEntries entries)
  | value => invalidType "object" path value

mutual

def parse : ZodType -> List PathItem -> Option Json -> Outcome
  | .string checks, path, value => parseString checks path value
  | .number checks, path, value => parseNumber checks path value
  | .boolean, path, value => parseBoolean path value
  | .literal expected, path, value => parseLiteral expected path value
  | .enumeration values, path, value => parseEnumeration values path value
  | .array item, path, value => parseArray (parse item) path value
  | .object shape, path, value => parseObject (parseShape shape path) path value
  | .nullable inner, path, value =>
      if value = some .null then Outcome.valid else parse inner path value
  | .optional inner, path, value =>
      if value = none then Outcome.valid else parse inner path value

/-- The values of the keys of an object.  Other keys may have any value. -/
def parseShape : List (String × ZodType) -> List PathItem -> List (String × Json) ->
    List Outcome
  | [], _, _ => []
  | (key, type) :: rest, path, entries =>
      parse type (path ++ [.key key]) (entries.lookup key) :: parseShape rest path entries

end

/-- The outcome for a value that JSON does not have, of which only the type is known. -/
def parseForeign (received : String) (path : List PathItem) : ZodType -> Outcome
  | .string _ => foreign "string"
  | .number _ => foreign "number"
  | .boolean => foreign "boolean"
  | .literal expected => parseLiteral expected path none
  | .enumeration values => foreign (joinValues values)
  | .array _ => foreign "array"
  | .object _ => foreign "object"
  | .nullable inner => parseForeign received path inner
  | .optional inner => parseForeign received path inner
where
  foreign (expected : String) : Outcome :=
    Outcome.abort
      { path := path
        code := .invalidType expected received
        message := "Expected " ++ expected ++ ", received " ++ received }

theorem parseForeign_issues (received : String) (path : List PathItem) :
    forall type : ZodType, (parseForeign received path type).issues ≠ []
  | .string _ | .number _ | .boolean | .enumeration _ | .array _ | .object _ =>
      List.cons_ne_nil _ _
  | .literal expected => by
      rw [parseForeign, parseLiteral, if_neg (by simp)]
      exact List.cons_ne_nil _ _
  | .nullable inner => parseForeign_issues received path inner
  | .optional inner => parseForeign_issues received path inner

/-!
## What is accepted
-/

def numberSchema (checks : List (Check Rat)) : Schema
  | some (.number number) => checks.all fun check => check.accepts number
  | _ => false

mutual

def accepts : ZodType -> Schema
  | .string checks => Schema.string fun text => checks.all fun check => check.accepts text
  | .number checks => numberSchema checks
  | .boolean => Schema.boolean
  | .literal value => Schema.literal value
  | .enumeration values => Schema.oneOf values
  | .array item => Schema.array (accepts item)
  | .object shape => Schema.object (acceptsShape shape)
  | .nullable inner => Schema.nullable (accepts inner)
  | .optional inner => Schema.optional (accepts inner)

def acceptsShape : List (String × ZodType) -> List (String × Schema)
  | [] => []
  | (key, type) :: rest => (key, accepts type) :: acceptsShape rest

end

mutual

/-- The data that a successful parse returns: of an object, the members of the shape. -/
def output : ZodType -> Json -> Json
  | .array item, .array items => .array (items.map (output item))
  | .object shape, .object entries => .object (outputShape shape entries)
  | .nullable inner, value => output inner value
  | .optional inner, value => output inner value
  | _, value => value

def outputShape : List (String × ZodType) -> List (String × Json) -> List (String × Json)
  | [], _ => []
  | (key, type) :: rest, entries =>
      match entries.lookup key with
      | none => outputShape rest entries
      | some value => (key, output type value) :: outputShape rest entries

end

theorem lookup_outputShape (shape : List (String × ZodType)) (entries : List (String × Json))
    (key : String) :
    (outputShape shape entries).lookup key =
      (shape.lookup key).bind fun type => (entries.lookup key).map (output type) := by
  induction shape with
  | nil =>
      rfl
  | cons field rest ih =>
      rcases field with ⟨name, type⟩
      rw [outputShape, List.lookup_cons]
      by_cases hname : key = name
      · rw [hname, beq_self_eq_true]
        rw [hname] at ih
        cases hentry : entries.lookup name with
        | none =>
            rw [hentry] at ih
            dsimp only
            rw [ih]
            cases rest.lookup name <;> rfl
        | some value =>
            rw [List.lookup_cons, beq_self_eq_true]
            rfl
      · rw [beq_false_of_ne hname]
        cases hentry : entries.lookup name with
        | none =>
            exact ih
        | some value =>
            rw [List.lookup_cons, beq_false_of_ne hname]
            exact ih

theorem field?_output {shape : List (String × ZodType)} {entries : List (String × Json)}
    {key : String} {checks : List (Check String)}
    (h : shape.lookup key = some (.string checks)) :
    (output (.object shape) (.object entries)).field? key =
      (Json.object entries).field? key := by
  have hlookup := lookup_outputShape shape entries key
  rw [h] at hlookup
  refine hlookup.trans ?_
  show (entries.lookup key).map _ = entries.lookup key
  cases entries.lookup key with
  | none =>
      rfl
  | some value =>
      cases value <;> rfl

variable {path : List PathItem}

theorem runChecks_issues {checks : List (Check α)} {value : α} :
    (runChecks checks path value).issues = [] <->
      (checks.all fun check => check.accepts value) = true := by
  simp only [runChecks, List.map_eq_nil_iff, List.filter_eq_nil_iff, List.all_eq_true]
  constructor
  · intro h check hcheck
    have hno := h check hcheck
    simpa using hno
  · intro h check hcheck
    simp [h check hcheck]

theorem invalidType_issues {expected : String} {value : Option Json} :
    (invalidType expected path value).issues ≠ [] := by
  simp [invalidType, Outcome.abort]

variable {outcomes : List Outcome}

theorem all_issues :
    (Outcome.all outcomes).issues = [] <-> forall o, o ∈ outcomes -> o.issues = [] := by
  simp [Outcome.all]

theorem parseString_issues (checks : List (Check String)) (path : List PathItem)
    (value : Option Json) :
    (parseString checks path value).issues = [] <->
      Schema.string (fun text => checks.all fun check => check.accepts text) value = true := by
  unfold parseString Schema.string
  split
  · exact runChecks_issues
  · exact iff_of_false invalidType_issues (by simp)

theorem parseNumber_issues (checks : List (Check Rat)) (path : List PathItem)
    (value : Option Json) :
    (parseNumber checks path value).issues = [] <-> numberSchema checks value = true := by
  unfold parseNumber numberSchema
  split
  · exact runChecks_issues
  · exact iff_of_false invalidType_issues (by simp)

theorem parseBoolean_issues (path : List PathItem) (value : Option Json) :
    (parseBoolean path value).issues = [] <-> Schema.boolean value = true := by
  unfold parseBoolean Schema.boolean
  split
  · exact iff_of_true rfl rfl
  · exact iff_of_false invalidType_issues (by simp)

theorem parseLiteral_issues (expected : String) (path : List PathItem) (value : Option Json) :
    (parseLiteral expected path value).issues = [] <->
      Schema.literal expected value = true := by
  rw [Schema.literal_eq_true, parseLiteral]
  split
  · rename_i heq
    exact iff_of_true rfl heq
  · rename_i hne
    exact iff_of_false (List.cons_ne_nil _ _) hne

theorem parseEnumeration_issues (values : List String) (path : List PathItem)
    (value : Option Json) :
    (parseEnumeration values path value).issues = [] <-> Schema.oneOf values value = true := by
  unfold parseEnumeration Schema.oneOf Schema.string
  split
  · split
    · rename_i hmem
      exact iff_of_true rfl (by simpa using hmem)
    · rename_i hmem
      exact iff_of_false (List.cons_ne_nil _ _) (by simpa using hmem)
  · exact iff_of_false invalidType_issues (by simp)

theorem parseArray_issues {parseItem : List PathItem -> Option Json -> Outcome}
    {item : Schema}
    (hitem : forall path value, (parseItem path value).issues = [] <-> item value = true)
    (path : List PathItem) (value : Option Json) :
    (parseArray parseItem path value).issues = [] <-> Schema.array item value = true := by
  unfold parseArray Schema.array
  split
  · rename_i items
    rw [all_issues, List.all_eq_true]
    constructor
    · intro h v hv
      rcases List.getElem?_of_mem hv with ⟨i, hget⟩
      apply (hitem (path ++ [.index i]) (some v)).mp
      apply h
      rw [List.mem_map]
      exact ⟨(v, i), List.mk_mem_zipIdx_iff_getElem?.mpr hget, rfl⟩
    · intro h o ho
      rcases List.mem_map.mp ho with ⟨entry, hentry, heq⟩
      rw [← heq]
      apply (hitem _ (some entry.1)).mpr
      exact h entry.1 (List.fst_mem_of_mem_zipIdx hentry)
  · exact iff_of_false invalidType_issues (by simp)

theorem parseObject_issues {parseEntries : List (String × Json) -> List Outcome}
    {shape : List (String × Schema)}
    (hshape : forall entries,
      (forall o, o ∈ parseEntries entries -> o.issues = []) <->
        (shape.all fun field => field.2 (entries.lookup field.1)) = true)
    (path : List PathItem) (value : Option Json) :
    (parseObject parseEntries path value).issues = [] <-> Schema.object shape value = true := by
  unfold parseObject Schema.object
  split
  · rw [all_issues]
    exact hshape _
  · exact iff_of_false invalidType_issues (by simp)

mutual

theorem issues_eq_nil_iff : forall (type : ZodType) (path : List PathItem)
    (value : Option Json), (parse type path value).issues = [] <-> accepts type value = true
  | .string checks, path, value => parseString_issues checks path value
  | .number checks, path, value => parseNumber_issues checks path value
  | .boolean, path, value => parseBoolean_issues path value
  | .literal expected, path, value => parseLiteral_issues expected path value
  | .enumeration values, path, value => parseEnumeration_issues values path value
  | .array item, path, value => parseArray_issues (issues_eq_nil_iff item) path value
  | .object shape, path, value => parseObject_issues (shape_issues_iff shape path) path value
  | .nullable inner, path, value => by
      rw [parse, accepts]
      split
      · rename_i hnull
        rw [hnull]
        exact iff_of_true rfl rfl
      · rename_i hnull
        rw [issues_eq_nil_iff inner path value]
        unfold Schema.nullable
        split
        · exact absurd rfl hnull
        · rfl
  | .optional inner, path, value => by
      rw [parse, accepts]
      split
      · rename_i hnone
        rw [hnone]
        exact iff_of_true rfl rfl
      · rename_i hnone
        rw [issues_eq_nil_iff inner path value]
        cases value with
        | none =>
            exact absurd rfl hnone
        | some _ =>
            rfl

theorem shape_issues_iff : forall (shape : List (String × ZodType)) (path : List PathItem)
    (entries : List (String × Json)),
    (forall o, o ∈ parseShape shape path entries -> o.issues = []) <->
      ((acceptsShape shape).all fun field => field.2 (entries.lookup field.1)) = true
  | [], _, _ => by simp [parseShape, acceptsShape]
  | (key, type) :: rest, path, entries => by
      rw [parseShape, acceptsShape, List.forall_mem_cons, List.all_cons, Bool.and_eq_true,
        issues_eq_nil_iff type, shape_issues_iff rest path entries]

end

/-!
## Paths of issues
-/

def IssuesBelow (path : List PathItem) (outcome : Outcome) : Prop :=
  forall issue, issue ∈ outcome.issues -> path <+: issue.path

theorem issuesBelow_valid (path : List PathItem) : IssuesBelow path Outcome.valid :=
  nofun

theorem issuesBelow_abort (issue : ZodIssue) : IssuesBelow issue.path (Outcome.abort issue) := by
  intro other hother
  cases List.mem_singleton.mp hother
  exact List.prefix_rfl

theorem issuesBelow_runChecks (checks : List (Check α)) (path : List PathItem) (value : α) :
    IssuesBelow path (runChecks checks path value) := by
  intro issue hissue
  rcases List.mem_map.mp hissue with ⟨check, _, heq⟩
  cases heq
  exact List.prefix_rfl

theorem issuesBelow_all (h : forall o, o ∈ outcomes -> IssuesBelow path o) :
    IssuesBelow path (Outcome.all outcomes) := by
  intro issue hissue
  rcases List.mem_flatMap.mp hissue with ⟨o, ho, hmem⟩
  exact h o ho issue hmem

variable {item : PathItem}

theorem IssuesBelow.parent {outcome : Outcome} (h : IssuesBelow (path ++ [item]) outcome) :
    IssuesBelow path outcome :=
  fun issue hissue => (List.prefix_append path [item]).trans (h issue hissue)

mutual

theorem issuesBelow_parse : forall (type : ZodType) (path : List PathItem)
    (value : Option Json), IssuesBelow path (parse type path value)
  | .string checks, path, value => by
      rw [parse]
      unfold parseString
      split
      · exact issuesBelow_runChecks checks path _
      · exact issuesBelow_abort _
  | .number checks, path, value => by
      rw [parse]
      unfold parseNumber
      split
      · exact issuesBelow_runChecks checks path _
      · exact issuesBelow_abort _
  | .boolean, path, value => by
      rw [parse]
      unfold parseBoolean
      split
      · exact issuesBelow_valid path
      · exact issuesBelow_abort _
  | .literal expected, path, value => by
      rw [parse]
      unfold parseLiteral
      split
      · exact issuesBelow_valid path
      · exact issuesBelow_abort _
  | .enumeration values, path, value => by
      rw [parse]
      unfold parseEnumeration
      split
      · split
        · exact issuesBelow_valid path
        · exact issuesBelow_abort _
      · exact issuesBelow_abort _
  | .array item, path, value => by
      rw [parse]
      unfold parseArray
      split
      · apply issuesBelow_all
        intro o ho
        rcases List.mem_map.mp ho with ⟨entry, _, heq⟩
        rw [← heq]
        exact (issuesBelow_parse item _ _).parent
      · exact issuesBelow_abort _
  | .object shape, path, value => by
      rw [parse]
      unfold parseObject
      split
      · exact issuesBelow_all (issuesBelow_shape shape path _)
      · exact issuesBelow_abort _
  | .nullable inner, path, value => by
      rw [parse]
      split
      · exact issuesBelow_valid path
      · exact issuesBelow_parse inner path value
  | .optional inner, path, value => by
      rw [parse]
      split
      · exact issuesBelow_valid path
      · exact issuesBelow_parse inner path value

theorem issuesBelow_shape : forall (shape : List (String × ZodType)) (path : List PathItem)
    (entries : List (String × Json)) (o : Outcome), o ∈ parseShape shape path entries ->
    IssuesBelow path o
  | [], _, _, o, ho => by cases ho
  | (key, type) :: rest, path, entries, o, ho => by
      rcases List.mem_cons.mp ho with heq | hrest
      · rw [heq]
        exact (issuesBelow_parse type _ _).parent
      · exact issuesBelow_shape rest path entries o hrest

end

theorem issuesBelow_parseForeign (received : String) (path : List PathItem) :
    forall type : ZodType, IssuesBelow path (parseForeign received path type)
  | .string _ | .number _ | .boolean | .enumeration _ | .array _ | .object _ =>
      issuesBelow_abort _
  | .literal expected => by
      rw [parseForeign, parseLiteral, if_neg (by simp)]
      exact issuesBelow_abort _
  | .nullable inner => issuesBelow_parseForeign received path inner
  | .optional inner => issuesBelow_parseForeign received path inner

theorem pathText_prefix (item : PathItem) (rest : List PathItem) :
    item.text.toList <+: (pathText (item :: rest)).toList := by
  unfold pathText
  rw [String.toList_intercalate, List.map_cons, List.map_cons]
  cases rest with
  | nil =>
      simp
  | cons next rest =>
      rw [List.map_cons, List.map_cons, List.intercalate_cons_cons, List.append_assoc]
      exact List.prefix_append _ _

/-!
## Places
-/

def child? : Json -> PathItem -> Option Json
  | .object entries, .key name => entries.lookup name
  | .array items, .index position => items[position]?
  | _, _ => none

def at? (value : Json) : List PathItem -> Option Json
  | [] => some value
  | item :: rest => (child? value item).bind fun next => at? next rest

theorem at?_key (value : Json) (name : String) : at? value [.key name] = value.field? name := by
  have hchild : child? value (.key name) = value.field? name := by
    cases value <;> rfl
  rw [at?, hchild]
  exact Option.bind_fun_some _

/-- There is nothing at the place, but there is something at the place that it lies in. -/
inductive MissingAt : Option Json -> List PathItem -> Prop where
  | here : MissingAt none []
  | child {value : Json} {item : PathItem} {rest : List PathItem}
      (h : MissingAt (child? value item) rest) : MissingAt (some value) (item :: rest)

/-- A required value is reported only at a place where there is none. -/
def ReportsMissing (outcome : Outcome) (path : List PathItem) (value : Option Json) : Prop :=
  forall issue, issue ∈ outcome.issues -> forall expected,
    issue.code = .invalidType expected "undefined" ->
      exists rest, issue.path = path ++ rest ∧ MissingAt value rest

theorem typeOf_eq_undefined {value : Option Json} :
    typeOf value = "undefined" <-> value = none := by
  constructor
  · intro h
    cases value with
    | none =>
        rfl
    | some value =>
        cases value <;> simp [typeOf] at h
  · intro h
    rw [h]
    rfl

theorem reportsMissing_invalidType (expected : String) (path : List PathItem)
    (value : Option Json) : ReportsMissing (invalidType expected path value) path value := by
  intro issue hissue expected' hcode
  rw [List.mem_singleton.mp hissue] at hcode ⊢
  simp only [IssueCode.invalidType.injEq] at hcode
  rw [typeOf_eq_undefined.mp hcode.2]
  exact ⟨[], (List.append_nil path).symm, MissingAt.here⟩

theorem reportsMissing_runChecks (checks : List (Check α)) (path : List PathItem) (checked : α)
    (value : Option Json) : ReportsMissing (runChecks checks path checked) path value := by
  intro issue hissue expected hcode
  rcases List.mem_map.mp hissue with ⟨check, _, heq⟩
  rw [← heq] at hcode
  cases hcode

theorem reportsMissing_valid (path : List PathItem) (value : Option Json) :
    ReportsMissing Outcome.valid path value := by
  intro issue hissue
  cases hissue

theorem reportsMissing_parseString (checks : List (Check String)) (path : List PathItem)
    (value : Option Json) : ReportsMissing (parseString checks path value) path value := by
  unfold parseString
  split
  · exact reportsMissing_runChecks checks path _ _
  · exact reportsMissing_invalidType _ path _

theorem reportsMissing_parseNumber (checks : List (Check Rat)) (path : List PathItem)
    (value : Option Json) : ReportsMissing (parseNumber checks path value) path value := by
  unfold parseNumber
  split
  · exact reportsMissing_runChecks checks path _ _
  · exact reportsMissing_invalidType _ path _

theorem reportsMissing_parseBoolean (path : List PathItem) (value : Option Json) :
    ReportsMissing (parseBoolean path value) path value := by
  unfold parseBoolean
  split
  · exact reportsMissing_valid path _
  · exact reportsMissing_invalidType _ path _

theorem reportsMissing_parseLiteral (expected : String) (path : List PathItem)
    (value : Option Json) : ReportsMissing (parseLiteral expected path value) path value := by
  unfold parseLiteral
  split
  · exact reportsMissing_valid path _
  · intro issue hissue expected' hcode
    rw [List.mem_singleton.mp hissue] at hcode
    cases hcode

theorem reportsMissing_parseEnumeration (values : List String) (path : List PathItem)
    (value : Option Json) : ReportsMissing (parseEnumeration values path value) path value := by
  unfold parseEnumeration
  split
  · split
    · exact reportsMissing_valid path _
    · intro issue hissue expected hcode
      rw [List.mem_singleton.mp hissue] at hcode
      cases hcode
  · exact reportsMissing_invalidType _ path _

theorem ReportsMissing.child {outcome : Outcome}
    (h : ReportsMissing outcome (path ++ [item]) (child? value item)) :
    ReportsMissing outcome path (some value) := by
  intro issue hissue expected hcode
  rcases h issue hissue expected hcode with ⟨rest, hpath, hmissing⟩
  exact ⟨item :: rest, by rw [hpath, List.append_assoc]; rfl, MissingAt.child hmissing⟩

theorem reportsMissing_all {value : Option Json}
    (h : forall o, o ∈ outcomes -> ReportsMissing o path value) :
    ReportsMissing (Outcome.all outcomes) path value := by
  intro issue hissue
  rcases List.mem_flatMap.mp hissue with ⟨o, ho, hmem⟩
  exact h o ho issue hmem

theorem reportsMissing_parseArray {parseItem : List PathItem -> Option Json -> Outcome}
    (hitem : forall path value, ReportsMissing (parseItem path value) path value)
    (path : List PathItem) (value : Option Json) :
    ReportsMissing (parseArray parseItem path value) path value := by
  unfold parseArray
  split
  · rename_i items
    apply reportsMissing_all
    intro o ho
    rcases List.mem_map.mp ho with ⟨entry, hentry, heq⟩
    have hchild : child? (.array items) (.index entry.2) = some entry.1 :=
      List.mem_zipIdx_iff_getElem?.mp hentry
    have hreports := hitem (path ++ [.index entry.2]) (some entry.1)
    rw [← hchild] at hreports
    rw [← heq, ← hchild]
    exact hreports.child
  · exact reportsMissing_invalidType _ path _

mutual

theorem reportsMissing_parse : forall (type : ZodType) (path : List PathItem)
    (value : Option Json), ReportsMissing (parse type path value) path value
  | .string checks, path, value => reportsMissing_parseString checks path value
  | .number checks, path, value => reportsMissing_parseNumber checks path value
  | .boolean, path, value => reportsMissing_parseBoolean path value
  | .literal expected, path, value => reportsMissing_parseLiteral expected path value
  | .enumeration values, path, value => reportsMissing_parseEnumeration values path value
  | .array item, path, value => reportsMissing_parseArray (reportsMissing_parse item) path value
  | .object shape, path, value => by
      rw [parse]
      unfold parseObject
      split
      · exact reportsMissing_all (reportsMissing_shape shape path _)
      · exact reportsMissing_invalidType _ path _
  | .nullable inner, path, value => by
      rw [parse]
      split
      · exact reportsMissing_valid path value
      · exact reportsMissing_parse inner path value
  | .optional inner, path, value => by
      rw [parse]
      split
      · exact reportsMissing_valid path value
      · exact reportsMissing_parse inner path value

theorem reportsMissing_shape : forall (shape : List (String × ZodType))
    (path : List PathItem) (entries : List (String × Json)) (o : Outcome),
    o ∈ parseShape shape path entries -> ReportsMissing o path (some (.object entries))
  | [], _, _, o, ho => by cases ho
  | (key, type) :: rest, path, entries, o, ho => by
      rcases List.mem_cons.mp ho with heq | hrest
      · rw [heq]
        have hchild : child? (.object entries) (.key key) = entries.lookup key :=
          rfl
        rw [← hchild]
        exact (reportsMissing_parse type (path ++ [.key key]) _).child
      · exact reportsMissing_shape rest path entries o hrest

end

/-!
## Setting a value at a place
-/

def setChild (item : PathItem) (value : Json) : Json -> Json
  | .object entries =>
      match item with
      | .key name => .object (setEntry name value entries)
      | .index _ => .object entries
  | .array items =>
      match item with
      | .index position => .array (items.set position value)
      | .key _ => .array items
  | other => other

/-- A path through a value that is neither an array nor an object is not followed. -/
def setNestedValue (value : Json) : List PathItem -> Json -> Json
  | [], target => target
  | [item], target => setChild item value target
  | item :: next :: rest, target =>
      match child? target item with
      | some (.object entries) =>
          setChild item (setNestedValue value (next :: rest) (.object entries)) target
      | some (.array items) =>
          setChild item (setNestedValue value (next :: rest) (.array items)) target
      | _ => target

theorem child?_setChild {target : Json}
    (h : (child? target item).isSome = true ∨
      exists entries name, target = .object entries ∧ item = .key name)
    (other : PathItem) :
    child? (setChild item value target) other =
      if other = item then some value else child? target other := by
  cases target with
  | object entries =>
      cases item with
      | key name =>
          cases other with
          | key name' =>
              simp only [setChild, child?, lookup_setEntry, PathItem.key.injEq]
          | index position =>
              simp [setChild, child?]
      | index position =>
          rcases h with h | ⟨_, _, _, h⟩
          · cases h
          · cases h
  | array items =>
      rcases h with h | ⟨_, _, h, _⟩
      · cases item with
        | key name =>
            cases h
        | index position =>
            have hlt : position < items.length := by
              simpa [child?] using h
            cases other with
            | key name =>
                simp [setChild, child?]
            | index position' =>
                simp only [setChild, child?, List.getElem?_set, PathItem.index.injEq]
                by_cases heq : position = position'
                · simp [heq, heq ▸ hlt]
                · simp [heq, Ne.symm heq]
      · cases h
  | null | boolean _ | number _ | string _ =>
      rcases h with h | ⟨_, _, h, _⟩
      · cases h
      · cases h

theorem at?_setChild {target : Json}
    (h : (child? target item).isSome = true ∨
      exists entries name, target = .object entries ∧ item = .key name)
    (other : PathItem) (rest : List PathItem) :
    at? (setChild item value target) (other :: rest) =
      if other = item then at? value rest else at? target (other :: rest) := by
  rw [at?, child?_setChild h]
  by_cases heq : other = item
  · rw [if_pos heq, if_pos heq, Option.bind_some]
  · rw [if_neg heq, if_neg heq, at?]

/-!
## Adding to a value
-/

/-- The same value, up to what is inside of an array or an object. -/
inductive SameHead : Json -> Json -> Prop where
  | same (value : Json) : SameHead value value
  | array {items items' : List Json} (h : items.length = items'.length) :
      SameHead (.array items) (.array items')
  | object {entries entries' : List (String × Json)} :
      SameHead (.object entries) (.object entries')

def IsDefault (value : Json) : Prop :=
  value = .array [] ∨ value = .null

/-- Every value that was supplied is still at its place, and what is added is empty. -/
structure OnlyAdds (supplied repaired : Json) : Prop where
  kept : forall path value, at? supplied path = some value ->
    exists value', at? repaired path = some value' ∧ SameHead value value'
  added : forall path value, at? repaired path = some value -> at? supplied path = none ->
    IsDefault value

theorem OnlyAdds.refl (value : Json) : OnlyAdds value value where
  kept := fun _ value h => ⟨value, h, SameHead.same value⟩
  added := by
    intro path value h hnone
    rw [h] at hnone
    cases hnone

theorem SameHead.trans {b c : Json} (h : SameHead a b) (h' : SameHead b c) : SameHead a c := by
  cases h with
  | same =>
      exact h'
  | array hlength =>
      cases h' with
      | same =>
          exact SameHead.array hlength
      | array hlength' =>
          exact SameHead.array (hlength.trans hlength')
  | object =>
      cases h' with
      | same =>
          exact SameHead.object
      | object =>
          exact SameHead.object

theorem sameHead_setChild (item : PathItem) (value target : Json) :
    SameHead target (setChild item value target) := by
  cases target with
  | object entries =>
      cases item <;> exact SameHead.object
  | array items =>
      cases item with
      | key name =>
          exact SameHead.same _
      | index position =>
          exact SameHead.array List.length_set.symm
  | null | boolean _ | number _ | string _ =>
      exact SameHead.same _

theorem OnlyAdds.sameHead (h : OnlyAdds a r) : SameHead a r := by
  rcases h.kept [] a rfl with ⟨r', hr, hsame⟩
  cases hr
  exact hsame

theorem OnlyAdds.child {next : Json} (h : OnlyAdds a r) (hchild : child? a item = some next) :
    exists next', child? r item = some next' ∧ OnlyAdds next next' := by
  have hbelow : forall path, at? a (item :: path) = at? next path := by
    intro path
    rw [at?, hchild, Option.bind_some]
  rcases h.kept [item] next (hbelow []) with ⟨next', hnext, _⟩
  rcases Option.bind_eq_some_iff.mp hnext with ⟨found, hfound, heq⟩
  cases heq
  have hbelow' : forall path, at? r (item :: path) = at? next' path := by
    intro path
    rw [at?, hfound, Option.bind_some]
  refine ⟨next', hfound, ?_, ?_⟩
  · intro path value hvalue
    rw [← hbelow] at hvalue
    rw [← hbelow']
    exact h.kept (item :: path) value hvalue
  · intro path value hvalue hnone
    rw [← hbelow] at hnone
    rw [← hbelow'] at hvalue
    exact h.added (item :: path) value hvalue hnone

theorem OnlyAdds.replace (h : OnlyAdds a r)
    (hset : (child? r item).isSome = true ∨
      exists entries name, r = .object entries ∧ item = .key name)
    (hkept : forall rest value, at? a (item :: rest) = some value ->
      exists value', at? new rest = some value' ∧ SameHead value value')
    (hadded : forall rest value, at? new rest = some value -> at? a (item :: rest) = none ->
      IsDefault value) :
    OnlyAdds a (setChild item new r) := by
  have hat : forall other rest, at? (setChild item new r) (other :: rest) =
      if other = item then at? new rest else at? r (other :: rest) :=
    at?_setChild hset
  constructor
  · intro path value hvalue
    cases path with
    | nil =>
        cases hvalue
        exact ⟨_, rfl, h.sameHead.trans (sameHead_setChild item new r)⟩
    | cons other rest =>
        rw [hat]
        by_cases heq : other = item
        · rw [if_pos heq]
          exact hkept rest value (heq ▸ hvalue)
        · rw [if_neg heq]
          exact h.kept (other :: rest) value hvalue
  · intro path value hvalue hnone
    cases path with
    | nil =>
        cases hnone
    | cons other rest =>
        rw [hat] at hvalue
        by_cases heq : other = item
        · rw [if_pos heq] at hvalue
          exact hadded rest value hvalue (heq ▸ hnone)
        · rw [if_neg heq] at hvalue
          exact h.added (other :: rest) value hvalue hnone

theorem at?_default {found : Json} (hdefault : IsDefault value)
    (h : at? value path = some found) : path = [] ∧ found = value := by
  cases path with
  | nil =>
      exact ⟨rfl, (Option.some.inj h).symm⟩
  | cons item rest =>
      rcases hdefault with rfl | rfl
      · cases item <;> simp [at?, child?] at h
      · simp [at?, child?] at h

theorem setChild_eq_self {target : Json}
    (h : ¬ ((child? target item).isSome = true ∨
      exists entries name, target = .object entries ∧ item = .key name)) :
    setChild item value target = target := by
  rcases not_or.mp h with ⟨hchild, hobject⟩
  cases target with
  | object entries =>
      cases item with
      | key name =>
          exact absurd ⟨entries, name, rfl, rfl⟩ hobject
      | index position =>
          rfl
  | array items =>
      cases item with
      | key name =>
          rfl
      | index position =>
          have hle : items.length ≤ position := by
            simpa [child?] using hchild
          simp only [setChild, List.set_eq_of_length_le hle]
  | null | boolean _ | number _ | string _ =>
      rfl

theorem OnlyAdds.setMissing (h : OnlyAdds a r) (hmissing : child? a item = none)
    (hdefault : IsDefault new) : OnlyAdds a (setChild item new r) := by
  have hnone : forall rest, at? a (item :: rest) = none := by
    intro rest
    rw [at?, hmissing, Option.bind_none]
  by_cases hset : (child? r item).isSome = true ∨
      exists entries name, r = .object entries ∧ item = .key name
  · apply h.replace hset
    · intro rest value hvalue
      rw [hnone] at hvalue
      cases hvalue
    · intro rest value hvalue _
      rw [(at?_default hdefault hvalue).2]
      exact hdefault
  · rw [setChild_eq_self hset]
    exact h

/-- A default that is set at a missing place only adds to what was supplied, also after
others have been set. -/
theorem OnlyAdds.setNestedValue (h : OnlyAdds a r) (hmissing : MissingAt (some a) path)
    (hdefault : IsDefault new) : OnlyAdds a (setNestedValue new path r) := by
  induction path generalizing a r with
  | nil =>
      cases hmissing
  | cons item rest ih =>
      cases hmissing with
      | child hmissing =>
          cases rest with
          | nil =>
              cases hchild : child? a item with
              | none =>
                  exact h.setMissing hchild hdefault
              | some next =>
                  rw [hchild] at hmissing
                  cases hmissing
          | cons next rest =>
              cases hchild : child? a item with
              | none =>
                  rw [hchild] at hmissing
                  cases hmissing
              | some below =>
                  rw [hchild] at hmissing
                  rcases h.child hchild with ⟨below', hbelow', hadds⟩
                  have hnested := ih hadds hmissing
                  have hreplaced : OnlyAdds a
                      (setChild item (Zod.setNestedValue new (next :: rest) below') r) := by
                    apply h.replace (Or.inl (by rw [hbelow']; rfl))
                    · intro path value hvalue
                      rw [at?, hchild, Option.bind_some] at hvalue
                      exact hnested.kept path value hvalue
                    · intro path value hvalue hnone
                      rw [at?, hchild, Option.bind_some] at hnone
                      exact hnested.added path value hvalue hnone
                  rw [Zod.setNestedValue, hbelow']
                  cases below' with
                  | object entries =>
                      exact hreplaced
                  | array items =>
                      exact hreplaced
                  | null | boolean _ | number _ | string _ =>
                      exact h

theorem sameHead_setNestedValue (value : Json) (path : List PathItem) (target : Json) :
    SameHead target (setNestedValue value path target) := by
  cases path with
  | nil =>
      exact SameHead.same target
  | cons item rest =>
      cases rest with
      | nil =>
          exact sameHead_setChild item value target
      | cons next rest =>
          rw [setNestedValue]
          split
          · exact sameHead_setChild item _ target
          · exact sameHead_setChild item _ target
          · exact SameHead.same target

theorem at?_setNestedValue {target : Json} {place : List PathItem} (hdefault : IsDefault new)
    (h : at? (setNestedValue new path target) place = some value) :
    place = path ∧ value = new ∨
      exists value', at? target place = some value' ∧ SameHead value' value := by
  induction path generalizing target place with
  | nil =>
      exact Or.inr ⟨value, h, SameHead.same value⟩
  | cons item rest ih =>
      cases place with
      | nil =>
          cases h
          exact Or.inr ⟨target, rfl, sameHead_setNestedValue new (item :: rest) target⟩
      | cons other places =>
          cases rest with
          | nil =>
              rw [setNestedValue] at h
              by_cases hset : (child? target item).isSome = true ∨
                  exists entries name, target = .object entries ∧ item = .key name
              · rw [at?_setChild hset] at h
                by_cases heq : other = item
                · rw [if_pos heq] at h
                  rcases at?_default hdefault h with ⟨hplaces, hvalue⟩
                  rw [heq, hplaces]
                  exact Or.inl ⟨rfl, hvalue⟩
                · rw [if_neg heq] at h
                  exact Or.inr ⟨value, h, SameHead.same value⟩
              · rw [setChild_eq_self hset] at h
                exact Or.inr ⟨value, h, SameHead.same value⟩
          | cons next rest =>
              have hbelow : forall below, child? target item = some below ->
                  at? (setChild item (setNestedValue new (next :: rest) below) target)
                      (other :: places) = some value ->
                    other :: places = item :: next :: rest ∧ value = new ∨
                      exists value', at? target (other :: places) = some value' ∧
                        SameHead value' value := by
                intro below hchild hat
                rw [at?_setChild (Or.inl (by rw [hchild]; rfl))] at hat
                by_cases heq : other = item
                · rw [if_pos heq] at hat
                  rw [heq, at?, hchild, Option.bind_some]
                  rcases ih hat with ⟨hplaces, hvalue⟩ | hfound
                  · rw [hplaces]
                    exact Or.inl ⟨rfl, hvalue⟩
                  · exact Or.inr hfound
                · rw [if_neg heq] at hat
                  exact Or.inr ⟨value, hat, SameHead.same value⟩
              rw [setNestedValue] at h
              split at h
              · rename_i entries hchild
                exact hbelow (.object entries) hchild h
              · rename_i items hchild
                exact hbelow (.array items) hchild h
              · exact Or.inr ⟨value, h, SameHead.same value⟩

theorem eq_of_sameHead_default {other : Json} (hdefault : IsDefault value)
    (h : SameHead value other) : other = value := by
  rcases hdefault with rfl | rfl
  · cases h with
    | same =>
        rfl
    | array hlength =>
        rw [List.eq_nil_of_length_eq_zero hlength.symm]
  · cases h
    rfl

/-- What was supplied is a text at a place exactly if it is the same text after adding. -/
theorem OnlyAdds.string_iff {text : String} (h : OnlyAdds a r) :
    at? r path = some (.string text) <-> at? a path = some (.string text) := by
  constructor
  · intro hr
    cases ha : at? a path with
    | none =>
        rcases h.added path _ hr ha with heq | heq
        · cases heq
        · cases heq
    | some value =>
        rcases h.kept path value ha with ⟨value', hvalue', hsame⟩
        rw [hr] at hvalue'
        cases hvalue'
        cases hsame
        rfl
  · intro ha
    rcases h.kept path _ ha with ⟨value', hvalue', hsame⟩
    cases hsame
    exact hvalue'

end Zod
end Foundations
end CopilotFactory
