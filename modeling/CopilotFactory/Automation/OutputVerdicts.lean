import CopilotFactory.Automation.OutputValidator

/-!
# Output verdicts

What the validator has to do with any output: return, accept exactly what may be accepted,
and record one failure and one violation of what it rejects.  It does so unless it reads
what cannot be read, or a packet that passes refers to a missing artifact in its checks.
-/

namespace CopilotFactory
namespace Automation
namespace OutputValidation

open Foundations
open Foundations.Zod

variable {N : Type}

/-!
## What has to happen
-/

variable {supplied : Json} {version : String} {compatible : Bool} {source : WorkerOutputSource}

def ValidFor (isDatetime : String -> Bool) (expectedPacketType : String) (packet : Json) : Prop :=
  exists schema, packetSchemaRegistry.lookup expectedPacketType = some schema ∧
    (Packets.zodOf isDatetime schema).accepts packet

def schemaVersion? (packet : Json) : Option String :=
  (packet.field? "schema_version").bind Json.asString?

def HasMajorVersion (tools : ValidatorTools N) (context : OutputValidationContext N)
    (packet : Json) : Prop :=
  exists version parsed, schemaVersion? packet = some version ∧
    parseSchemaVersion version = some parsed ∧
    tools.toNumber parsed.major = context.expectedMajorVersion

def MatchesIds (context : OutputValidationContext N) (packet : Json) : Prop :=
  forall field expected, (field, expected) ∈ expectedIds context ->
    packet.field? field = some (.string expected)

def checkResults (packet : Json) : PacketSchema -> List Json
  | .devResult =>
      Json.itemsOf ((packet.field? "result").bind (Json.field? "validations_run"))
  | .merge =>
      Json.itemsOf ((packet.field? "details").bind (Json.field? "validation_results"))
  | .validationResult => Json.itemsOf ((packet.field? "details").bind (Json.field? "checks"))
  | .review | .leadReviewDecision | .mergeAssist | .postMergeAnalysis => []

def checkArtifactRefs (expectedPacketType : String) (packet : Json) : List String :=
  match packetSchemaRegistry.lookup expectedPacketType with
  | none => []
  | some schema => (checkResults packet schema).flatMap artifactRefs

def referencedArtifacts (expectedPacketType : String) (packet : Json) : List String :=
  artifactRefs packet ++ checkArtifactRefs expectedPacketType packet

def Exist (deps : OutputValidatorDependencies) (artifacts : List String) : Prop :=
  forall path, path ∈ artifacts -> deps.artifactExists path = true

/-- The packet passes all checks, if that of its artifacts covers the given ones. -/
structure Passes (tools : ValidatorTools N) (deps : OutputValidatorDependencies)
    (context : OutputValidationContext N) (artifacts : Json -> List String)
    (packet : Json) : Prop where
  valid : ValidFor tools.isDatetime context.expectedPacketType packet
  version : HasMajorVersion tools context packet
  ids : MatchesIds context packet
  artifacts : Exist deps (artifacts packet)

def Acceptable (tools : ValidatorTools N) (deps : OutputValidatorDependencies)
    (context : OutputValidationContext N) : Json -> Prop :=
  Passes tools deps context (referencedArtifacts context.expectedPacketType)

/-- The issues of a packet, none if no schema is registered. -/
def issuesOf (isDatetime : String -> Bool) (expectedPacketType : String) (packet : Json) :
    List ZodIssue :=
  match packetSchemaRegistry.lookup expectedPacketType with
  | none => []
  | some schema => (Packets.zodOf isDatetime schema).safeParse packet

def repairedPacket (isDatetime : String -> Bool) (expectedPacketType : String)
    (packet : Json) : Json :=
  applyRepairs packet ((issuesOf isDatetime expectedPacketType packet).filterMap repairOf)

def Candidate (tools : ValidatorTools N) (source : WorkerOutputSource)
    (context : OutputValidationContext N) (packet : Json) : Prop :=
  exists supplied packetSource, extractPacket tools.parse source = .found supplied packetSource ∧
    (packet = supplied ∨
      packet = repairedPacket tools.isDatetime context.expectedPacketType supplied)

def records (calls : List PortCall) : List PortCall :=
  calls.filter fun call =>
    match call with
    | .recordFailure _ => true
    | .recordAuditEvent _ => true
    | _ => false

/-- One failure of the profile and one violation of the task are recorded. -/
def RecordsViolation (context : OutputValidationContext N) (calls : List PortCall) : Prop :=
  exists event : NewAuditEvent,
    records calls = [.recordFailure context.agentProfileId, .recordAuditEvent event] ∧
      event.eventType = "schema_violation" ∧ event.entityId = context.taskId

/-- The place misses an array or a nullable field, and this is its default. -/
def MissingField (issues : List ZodIssue) (path : List PathItem) (value : Json) : Prop :=
  exists issue, issue ∈ issues ∧ issue.path = path ∧
    (issue.code = .invalidType "array" "undefined" ∧ value = .array [] ∨
      issue.code = .invalidType "null" "undefined" ∧ value = .null)

/-- A validation returns a result.  It accepts exactly what may be accepted, and records one
failure and one violation of what it rejects.  Repair only adds fields that are missing. -/
structure Settles [DecidableEq N] (tools : ValidatorTools N) (deps : OutputValidatorDependencies)
    (source : WorkerOutputSource) (context : OutputValidationContext N) : Prop where
  returns : exists result, (validateOutput tools deps source context).outcome = .ok result
  accepts : forall packet,
    (exists repaired repairActions, (validateOutput tools deps source context).outcome =
      .ok (.accepted packet repaired repairActions)) <->
    Candidate tools source context packet ∧ Acceptable tools deps context packet
  rejects : forall packet reason errors profileDisabled consecutiveFailures,
    (validateOutput tools deps source context).outcome =
        .ok (.rejected packet reason errors profileDisabled consecutiveFailures) ->
      RecordsViolation context (validateOutput tools deps source context).calls
  kept : forall supplied,
    OnlyAdds supplied (repairedPacket tools.isDatetime context.expectedPacketType supplied)
  added : forall supplied path value,
    at? (repairedPacket tools.isDatetime context.expectedPacketType supplied) path =
        some value ->
      at? supplied path = none ->
        MissingField (issuesOf tools.isDatetime context.expectedPacketType supplied) path value

/-- The packet and its version can be read, and the registry inherits nothing under the name
of the expected type. -/
structure Readable (tools : ValidatorTools N) (context : OutputValidationContext N)
    (supplied : Json) : Prop where
  notNull : supplied ≠ .null
  version : forall version, schemaVersion? supplied = some version ->
    parseSchemaVersion version ≠ none
  type : HasMajorVersion tools context supplied ->
    context.expectedPacketType ∉ Merging.inheritedNames

/-- What is extracted can be read, and the references of the results of checks exist if the
packet passes with those of its own. -/
structure Safe (tools : ValidatorTools N) (deps : OutputValidatorDependencies)
    (source : WorkerOutputSource) (context : OutputValidationContext N) : Prop where
  readable : forall supplied packetSource,
    extractPacket tools.parse source = .found supplied packetSource ->
      Readable tools context supplied
  references : forall packet, Candidate tools source context packet ->
    Passes tools deps context artifactRefs packet ->
      Exist deps (checkArtifactRefs context.expectedPacketType packet)

/-!
## Repair
-/

section Repair

variable {isDatetime : String -> Bool} {expectedPacketType : String}

variable {issue : ZodIssue} {value : Json}

theorem repairOf_eq_some {repair : Repair} (h : repairOf issue = some repair) :
    repair.path = issue.path ∧
      (issue.code = .invalidType "array" "undefined" ∧ repair.value = .array [] ∨
        issue.code = .invalidType "null" "undefined" ∧ repair.value = .null) := by
  unfold repairOf at h
  split at h
  · rename_i expected received hcode
    split at h
    · cases h
    · rename_i hreceived
      rw [Decidable.not_not] at hreceived
      rw [hreceived] at hcode
      split at h
      · rename_i hexpected
        cases h
        exact ⟨rfl, Or.inl ⟨hexpected ▸ hcode, rfl⟩⟩
      · split at h
        · rename_i hexpected
          cases h
          exact ⟨rfl, Or.inr ⟨hexpected ▸ hcode, rfl⟩⟩
        · cases h
  · cases h

theorem isDefault_of_repairOf {repair : Repair} (h : repairOf issue = some repair) :
    IsDefault repair.value := by
  rcases (repairOf_eq_some h).2 with ⟨_, hvalue⟩ | ⟨_, hvalue⟩
  · exact Or.inl hvalue
  · exact Or.inr hvalue

theorem onlyAdds_applyRepairs {repaired : Json} {repairs : List Repair}
    (hrepairs : forall repair, repair ∈ repairs ->
      MissingAt (some supplied) repair.path ∧ IsDefault repair.value)
    (h : OnlyAdds supplied repaired) : OnlyAdds supplied (applyRepairs repaired repairs) := by
  induction repairs generalizing repaired with
  | nil =>
      exact h
  | cons repair rest ih =>
      rcases hrepairs repair List.mem_cons_self with ⟨hmissing, hdefault⟩
      apply ih
      · intro repair' hmem
        exact hrepairs repair' (List.mem_cons_of_mem repair hmem)
      · exact h.setNestedValue hmissing hdefault

theorem added_of_applyRepairs {data : Json} {path : List PathItem} {repairs : List Repair}
    (hdefaults : forall repair, repair ∈ repairs -> IsDefault repair.value)
    (h : at? (applyRepairs data repairs) path = some value) (hnone : at? data path = none) :
    exists repair, repair ∈ repairs ∧ repair.path = path ∧ repair.value = value := by
  induction repairs using List.reverseRecOn generalizing value with
  | nil =>
      rw [applyRepairs, List.foldl_nil, hnone] at h
      cases h
  | append_singleton rest repair ih =>
      have hlast : repair ∈ rest ++ [repair] :=
        List.mem_append_right rest List.mem_cons_self
      have hrest : forall repair', repair' ∈ rest -> IsDefault repair'.value := by
        intro repair' hmem
        exact hdefaults repair' (List.mem_append_left _ hmem)
      rw [applyRepairs, List.foldl_append, List.foldl_cons, List.foldl_nil] at h
      rcases at?_setNestedValue (hdefaults repair hlast) h with
        ⟨hpath, hvalue⟩ | ⟨value', hvalue', hsame⟩
      · exact ⟨repair, hlast, hpath.symm, hvalue.symm⟩
      · rcases ih hrest hvalue' with ⟨repair', hmem, hpath, heq⟩
        have hdefault := hrest repair' hmem
        rw [heq] at hdefault
        exact ⟨repair', List.mem_append_left _ hmem, hpath,
          heq.trans (eq_of_sameHead_default hdefault hsame).symm⟩

theorem missingAt_of_mem_issuesOf
    (hissue : issue ∈ issuesOf isDatetime expectedPacketType supplied) {expected : String}
    (hcode : issue.code = .invalidType expected "undefined") :
    MissingAt (some supplied) issue.path := by
  unfold issuesOf at hissue
  split at hissue
  · cases hissue
  · rename_i schema _
    exact Packets.missingAt_of_safeParse
      (fun _ h => Packets.custom_of_superRefine isDatetime schema supplied h) hissue hcode

/-- Repair never alters what the worker supplied. -/
theorem onlyAdds_repairedPacket (supplied : Json) :
    OnlyAdds supplied (repairedPacket isDatetime expectedPacketType supplied) := by
  apply onlyAdds_applyRepairs
  · intro repair hmem
    rcases List.mem_filterMap.mp hmem with ⟨issue, hissue, hrepair⟩
    rcases repairOf_eq_some hrepair with ⟨hpath, hcode⟩
    rw [hpath]
    refine ⟨?_, isDefault_of_repairOf hrepair⟩
    rcases hcode with ⟨hcode, _⟩ | ⟨hcode, _⟩
    · exact missingAt_of_mem_issuesOf hissue hcode
    · exact missingAt_of_mem_issuesOf hissue hcode
  · exact OnlyAdds.refl supplied

theorem missingField_of_repairedPacket {path : List PathItem}
    (h : at? (repairedPacket isDatetime expectedPacketType supplied) path = some value)
    (hnone : at? supplied path = none) :
    MissingField (issuesOf isDatetime expectedPacketType supplied) path value := by
  have hdefaults : forall repair,
      repair ∈ (issuesOf isDatetime expectedPacketType supplied).filterMap repairOf ->
        IsDefault repair.value := by
    intro repair hmem
    rcases List.mem_filterMap.mp hmem with ⟨issue, _, hrepair⟩
    exact isDefault_of_repairOf hrepair
  rcases added_of_applyRepairs hdefaults h hnone with ⟨repair, hmem, hpath, hvalue⟩
  rcases List.mem_filterMap.mp hmem with ⟨issue, hissue, hrepair⟩
  rcases repairOf_eq_some hrepair with ⟨hissuePath, hcode⟩
  rw [hvalue] at hcode
  exact ⟨issue, hissue, hissuePath.symm.trans hpath, hcode⟩

theorem validFor_iff {schema : PacketSchema} {packet : Json}
    (hschema : packetSchemaRegistry.lookup expectedPacketType = some schema) :
    ValidFor isDatetime expectedPacketType packet <->
      (Packets.zodOf isDatetime schema).safeParse packet = [] := by
  rw [Packets.safeParse_eq_nil_iff]
  constructor
  · intro ⟨schema', hlookup, haccepts⟩
    cases hschema.symm.trans hlookup
    exact haccepts
  · intro haccepts
    exact ⟨schema, hschema, haccepts⟩

theorem repairedPacket_of_validFor {packet : Json}
    (h : ValidFor isDatetime expectedPacketType packet) :
    repairedPacket isDatetime expectedPacketType packet = packet := by
  rcases h with ⟨schema, hschema, haccepts⟩
  unfold repairedPacket issuesOf
  rw [hschema]
  simp only
  rw [Packets.safeParse_eq_nil_iff.mpr haccepts]
  rfl

theorem eq_of_sameHead_of_not_isObject {other : Json} (h : SameHead value other)
    (hvalue : isObject value = false) : other = value := by
  cases h with
  | same =>
      rfl
  | array _ =>
      cases hvalue
  | object =>
      cases hvalue

theorem repairedPacket_of_not_isObject {packet : Json} (h : isObject packet = false) :
    repairedPacket isDatetime expectedPacketType packet = packet :=
  eq_of_sameHead_of_not_isObject (onlyAdds_repairedPacket packet).sameHead h

theorem validateSchema_spec (isDatetime : String -> Bool)
    (htype : expectedPacketType ∉ Merging.inheritedNames) (packet : Json) :
    exists validation, validateSchema isDatetime packet expectedPacketType = .ok validation ∧
      (validation.valid = true <-> ValidFor isDatetime expectedPacketType packet) ∧
      validation.issues = issuesOf isDatetime expectedPacketType packet := by
  unfold validateSchema issuesOf
  cases hschema : packetSchemaRegistry.lookup expectedPacketType with
  | none =>
      rw [if_neg htype]
      refine ⟨_, rfl, iff_of_false Bool.false_ne_true ?_, rfl⟩
      intro ⟨schema, hlookup, _⟩
      cases hschema.symm.trans hlookup
  | some schema =>
      refine ⟨_, rfl, ?_, rfl⟩
      rw [decide_eq_true_iff, validFor_iff hschema]

theorem attemptSchemaRepair_spec (htype : expectedPacketType ∉ Merging.inheritedNames)
    {packet : Json} (hinvalid : ¬ ValidFor isDatetime expectedPacketType packet) :
    exists repair,
      attemptSchemaRepair isDatetime packet (issuesOf isDatetime expectedPacketType packet)
          expectedPacketType = .ok repair ∧
        (repair.success = true <->
          ValidFor isDatetime expectedPacketType
            (repairedPacket isDatetime expectedPacketType packet)) ∧
        (repair.success = true ->
          repair.repairedData = repairedPacket isDatetime expectedPacketType packet) := by
  unfold attemptSchemaRepair
  split
  · rename_i hobject
    refine ⟨_, rfl, iff_of_false Bool.false_ne_true ?_, fun h => absurd h Bool.false_ne_true⟩
    rw [repairedPacket_of_not_isObject hobject]
    exact hinvalid
  · simp only
    split
    · rename_i hrepairs
      refine ⟨_, rfl, iff_of_false Bool.false_ne_true ?_,
        fun h => absurd h Bool.false_ne_true⟩
      rw [repairedPacket, hrepairs]
      exact hinvalid
    · rcases validateSchema_spec isDatetime htype
        (repairedPacket isDatetime expectedPacketType packet) with
        ⟨validation, hvalidation, hvalid, _⟩
      rw [repairedPacket] at hvalidation
      rw [hvalidation]
      refine ⟨_, rfl, hvalid, ?_⟩
      intro hsuccess
      exact if_pos hsuccess

theorem validateWithRepair_spec (isDatetime : String -> Bool)
    (htype : expectedPacketType ∉ Merging.inheritedNames) (packet : Json) :
    (exists final, validateWithRepair isDatetime packet expectedPacketType = .ok (.ok final) ∧
      final.packet = repairedPacket isDatetime expectedPacketType packet ∧
      ValidFor isDatetime expectedPacketType final.packet) ∨
    (exists errors, validateWithRepair isDatetime packet expectedPacketType =
        .ok (.error errors) ∧
      ¬ ValidFor isDatetime expectedPacketType
        (repairedPacket isDatetime expectedPacketType packet)) := by
  rcases validateSchema_spec isDatetime htype packet with
    ⟨validation, hvalidation, hvalid, hissues⟩
  unfold validateWithRepair
  rw [hvalidation]
  simp only
  split
  · rename_i hsuccess
    have hpacket := hvalid.mp hsuccess
    exact Or.inl ⟨_, rfl, (repairedPacket_of_validFor hpacket).symm, hpacket⟩
  · rename_i hfailure
    rcases attemptSchemaRepair_spec htype (mt hvalid.mpr hfailure) with
      ⟨repair, hrepair, hsuccess, hdata⟩
    rw [hissues, hrepair]
    simp only
    split
    · rename_i hrepaired
      refine Or.inl ⟨_, rfl, hdata hrepaired, ?_⟩
      rw [hdata hrepaired]
      exact hsuccess.mp hrepaired
    · rename_i hunrepaired
      exact Or.inr ⟨_, rfl, mt hsuccess.mpr hunrepaired⟩

theorem lookup_of_mem_inheritedNames {name : String} (h : name ∈ Merging.inheritedNames) :
    packetSchemaRegistry.lookup name = none := by
  have hnames : forall name, name ∈ Merging.inheritedNames ->
      (packetSchemaRegistry.lookup name).isNone = true := by
    decide
  exact Option.isNone_iff_eq_none.mp (hnames name h)

theorem validateWithRepair_of_inherited (isDatetime : String -> Bool)
    (h : expectedPacketType ∈ Merging.inheritedNames) (packet : Json) :
    exists message, validateWithRepair isDatetime packet expectedPacketType =
      .error message := by
  unfold validateWithRepair validateSchema
  rw [lookup_of_mem_inheritedNames h]
  simp only
  rw [if_pos h]
  exact ⟨_, rfl⟩

end Repair

/-!
## What the checks say
-/

variable {tools : ValidatorTools N} {deps : OutputValidatorDependencies}
  {context : OutputValidationContext N}

theorem verifyIds_eq_nil_iff {text : Option Json -> String} {packet : Json} :
    verifyIds text packet context = [] <-> MatchesIds context packet := by
  unfold verifyIds MatchesIds
  rw [List.map_eq_nil_iff, List.filter_eq_nil_iff]
  constructor
  · intro h field expected hmem
    simpa using h (field, expected) hmem
  · intro h id hmem
    simpa using h id.1 id.2 hmem

theorem verifyArtifacts_eq_nil_iff {packet : Json} :
    verifyArtifacts deps.artifactExists packet = [] <-> Exist deps (artifactRefs packet) := by
  unfold verifyArtifacts Exist
  rw [List.filter_eq_nil_iff]
  simp

theorem schemaVersion?_eq_some {packet : Json} :
    schemaVersion? packet = some version <->
      packet.field? "schema_version" = some (.string version) := by
  unfold schemaVersion?
  rw [Option.bind_eq_some_iff]
  constructor
  · intro ⟨value, hvalue, hstring⟩
    cases value with
    | string text =>
        cases hstring
        exact hvalue
    | null | boolean _ | number _ | array _ | object _ =>
        cases hstring
  · intro h
    exact ⟨.string version, h, rfl⟩

theorem hasMajorVersion_of_onlyAdds {repaired : Json} (h : OnlyAdds supplied repaired) :
    HasMajorVersion tools context repaired <-> HasMajorVersion tools context supplied := by
  have hversion : forall version,
      schemaVersion? repaired = some version <-> schemaVersion? supplied = some version := by
    intro version
    rw [schemaVersion?_eq_some, schemaVersion?_eq_some, ← at?_key, ← at?_key]
    exact h.string_iff
  unfold HasMajorVersion
  simp only [hversion]

theorem not_passes_of_version {artifacts : Json -> List String}
    (h : ¬ HasMajorVersion tools context supplied) :
    ¬ Passes tools deps context artifacts
      (repairedPacket tools.isDatetime context.expectedPacketType supplied) := by
  intro hpasses
  exact h ((hasMajorVersion_of_onlyAdds (onlyAdds_repairedPacket supplied)).mp hpasses.version)

theorem records_checks (refs : List String) (calls : List PortCall) :
    records (refs.map PortCall.artifactExists ++ calls) = records calls := by
  unfold records
  rw [List.filter_append, List.filter_map]
  simp

theorem recordsViolation_reject (refs : List String) (reason : OutputRejectionReason)
    (errors : List String) (packet : Option Json) :
    RecordsViolation context (refs.map PortCall.artifactExists ++
      (recordFailureAndReject deps context reason errors packet).calls) := by
  have hcalls := records_checks refs
    (recordFailureAndReject deps context reason errors packet).calls
  exact ⟨_, hcalls, rfl, rfl⟩

/-!
## Courses
-/

inductive Course (tools : ValidatorTools N) (deps : OutputValidatorDependencies)
    (context : OutputValidationContext N) (supplied : Json) (validation : Validation) :
    Prop where
  | throws (message : String) (hunreadable : ¬ Readable tools context supplied)
      (houtcome : validation.outcome = .error message)
  | rejects (hreadable : Readable tools context supplied)
      (hfails : ¬ Passes tools deps context artifactRefs
        (repairedPacket tools.isDatetime context.expectedPacketType supplied))
      (packet : Option Json) (reason : OutputRejectionReason) (errors : List String)
      (profileDisabled : Bool) (consecutiveFailures : Nat)
      (houtcome : validation.outcome =
        .ok (.rejected packet reason errors profileDisabled consecutiveFailures))
      (hrecords : RecordsViolation context validation.calls)
  | accepts (hreadable : Readable tools context supplied)
      (hpasses : Passes tools deps context artifactRefs
        (repairedPacket tools.isDatetime context.expectedPacketType supplied))
      (repaired : Bool) (repairActions : List String)
      (houtcome : validation.outcome =
        .ok (.accepted (repairedPacket tools.isDatetime context.expectedPacketType supplied)
          repaired repairActions))

theorem Course.reject (hreadable : Readable tools context supplied)
    (hfails : ¬ Passes tools deps context artifactRefs
      (repairedPacket tools.isDatetime context.expectedPacketType supplied))
    (reason : OutputRejectionReason) (errors : List String) (packet : Option Json) :
    Course tools deps context supplied
      (recordFailureAndReject deps context reason errors packet) :=
  Course.rejects hreadable hfails packet reason errors _ _ rfl
    (recordsViolation_reject [] reason errors packet)

theorem verifyPacket_course {final : FinalPacket} (hreadable : Readable tools context supplied)
    (hversion : HasMajorVersion tools context supplied)
    (hfinal : final.packet = repairedPacket tools.isDatetime context.expectedPacketType supplied)
    (hvalid : ValidFor tools.isDatetime context.expectedPacketType final.packet) :
    Course tools deps context supplied (verifyPacket tools deps context final) := by
  unfold verifyPacket
  split
  · rename_i mismatch mismatches hids
    apply Course.reject hreadable
    intro hpasses
    rw [← hfinal] at hpasses
    cases hids.symm.trans (verifyIds_eq_nil_iff.mpr hpasses.ids)
  · rename_i hids
    simp only
    split
    · rename_i missing others hartifacts
      apply Course.rejects hreadable _ _ _ _ _ _ rfl
      · exact recordsViolation_reject _ _ _ _
      · intro hpasses
        rw [← hfinal] at hpasses
        cases hartifacts.symm.trans (verifyArtifacts_eq_nil_iff.mpr hpasses.artifacts)
    · rename_i hartifacts
      have hpasses : Passes tools deps context artifactRefs final.packet :=
        { valid := hvalid
          version := by
            rw [hfinal, hasMajorVersion_of_onlyAdds (onlyAdds_repairedPacket supplied)]
            exact hversion
          ids := verifyIds_eq_nil_iff.mp hids
          artifacts := verifyArtifacts_eq_nil_iff.mp hartifacts }
      rw [hfinal] at hpasses
      apply Course.accepts hreadable hpasses final.repaired final.repairActions
      rw [hfinal]

variable [DecidableEq N]

theorem parse_of_isVersionCompatible_error {toNumber : Nat -> N} {message : String}
    {expectedMajor : N}
    (h : isVersionCompatible toNumber version expectedMajor = .error message) :
    parseSchemaVersion version = none := by
  unfold isVersionCompatible at h
  split at h
  · assumption
  · cases h

theorem parse_of_isVersionCompatible_ok {toNumber : Nat -> N} {expectedMajor : N}
    (h : isVersionCompatible toNumber version expectedMajor = .ok compatible) :
    exists parsed, parseSchemaVersion version = some parsed ∧
      (compatible = true <-> toNumber parsed.major = expectedMajor) := by
  unfold isVersionCompatible at h
  split at h
  · cases h
  · rename_i parsed hparsed
    cases h
    exact ⟨parsed, hparsed, decide_eq_true_iff⟩

theorem hasMajorVersion_iff (hversion : schemaVersion? supplied = some version)
    (h : isVersionCompatible tools.toNumber version context.expectedMajorVersion = .ok compatible) :
    HasMajorVersion tools context supplied <-> compatible = true := by
  rcases parse_of_isVersionCompatible_ok h with ⟨parsed, hparsed, hcompatible⟩
  rw [hcompatible]
  constructor
  · intro ⟨version', parsed', hversion', hparsed', hmajor⟩
    cases hversion.symm.trans hversion'
    cases hparsed.symm.trans hparsed'
    exact hmajor
  · intro hmajor
    exact ⟨version, parsed, hversion, hparsed, hmajor⟩

theorem readable_of_isVersionCompatible (hnull : supplied ≠ .null)
    (hversion : schemaVersion? supplied = some version)
    (hcompatible : isVersionCompatible tools.toNumber version context.expectedMajorVersion =
      .ok compatible)
    (htype : compatible = true -> context.expectedPacketType ∉ Merging.inheritedNames) :
    Readable tools context supplied where
  notNull := hnull
  version := by
    intro version' hversion' hnone
    rcases parse_of_isVersionCompatible_ok hcompatible with ⟨parsed, hparsed, _⟩
    cases hversion.symm.trans hversion'
    cases hparsed.symm.trans hnone
  type := fun hmajor => htype ((hasMajorVersion_iff hversion hcompatible).mp hmajor)

theorem validatePacket_course (supplied : Json) :
    Course tools deps context supplied (validatePacket tools deps context supplied) := by
  unfold validatePacket
  split
  · rename_i hnull
    exact Course.throws _ (fun hreadable => hreadable.notNull hnull) rfl
  · rename_i hnull
    split
    · rename_i hversion
      have hno : ¬ HasMajorVersion tools context supplied := by
        intro ⟨version, _, hversion', _⟩
        cases hversion.symm.trans hversion'
      apply Course.reject _ (not_passes_of_version hno)
      constructor
      · exact hnull
      · intro version hversion'
        cases hversion.symm.trans hversion'
      · exact fun hmajor => absurd hmajor hno
    · rename_i version hversion
      split
      · rename_i message hthrows
        apply Course.throws message _ rfl
        intro hreads
        exact hreads.version version hversion (parse_of_isVersionCompatible_error hthrows)
      · rename_i hincompatible
        have hno : ¬ HasMajorVersion tools context supplied := by
          rw [hasMajorVersion_iff hversion hincompatible]
          exact Bool.false_ne_true
        exact Course.reject
          (readable_of_isVersionCompatible hnull hversion hincompatible
            (fun h => absurd h Bool.false_ne_true))
          (not_passes_of_version hno) _ _ _
      · rename_i hcompatible
        have hmajor := (hasMajorVersion_iff hversion hcompatible).mpr rfl
        by_cases htype : context.expectedPacketType ∈ Merging.inheritedNames
        · rcases validateWithRepair_of_inherited tools.isDatetime htype supplied with
            ⟨message, hthrows⟩
          rw [hthrows]
          apply Course.throws message _ rfl
          intro hreads
          exact hreads.type hmajor htype
        · have hreads : Readable tools context supplied :=
            readable_of_isVersionCompatible hnull hversion hcompatible (fun _ => htype)
          rcases validateWithRepair_spec tools.isDatetime htype supplied with
            ⟨final, hfinal, hpacket, hvalid⟩ | ⟨errors, herrors, hinvalid⟩
          · rw [hfinal]
            exact verifyPacket_course hreads hmajor hpacket hvalid
          · rw [herrors]
            apply Course.reject hreads
            intro hpasses
            exact hinvalid hpasses.valid

/-!
## When a validation settles
-/

omit [DecidableEq N] in
/-- Of the packets that could be accepted only the repaired one can pass. -/
theorem eq_repairedPacket_of_passes {packet : Json} {packetSource : PacketSource}
    {artifacts : Json -> List String}
    (hextract : extractPacket tools.parse source = .found supplied packetSource)
    (hcandidate : Candidate tools source context packet)
    (hpasses : Passes tools deps context artifacts packet) :
    packet = repairedPacket tools.isDatetime context.expectedPacketType supplied := by
  rcases hcandidate with ⟨supplied', _, hextract', hpacket⟩
  cases hextract.symm.trans hextract'
  rcases hpacket with hpacket | hpacket
  · rw [← hpacket]
    exact (repairedPacket_of_validFor hpasses.valid).symm
  · exact hpacket

omit [DecidableEq N] in
theorem passes_iff_acceptable {packet : Json} :
    Acceptable tools deps context packet <->
      Passes tools deps context artifactRefs packet ∧
        Exist deps (checkArtifactRefs context.expectedPacketType packet) := by
  constructor
  · intro h
    refine ⟨⟨h.valid, h.version, h.ids, ?_⟩, ?_⟩
    · intro path hmem
      exact h.artifacts path (List.mem_append_left _ hmem)
    · intro path hmem
      exact h.artifacts path (List.mem_append_right _ hmem)
  · intro ⟨h, hchecks⟩
    refine ⟨h.valid, h.version, h.ids, ?_⟩
    intro path hmem
    rcases List.mem_append.mp hmem with hmem | hmem
    · exact h.artifacts path hmem
    · exact hchecks path hmem

theorem settles_of_rejected {packet : Option Json} {reason : OutputRejectionReason}
    {errors : List String} {profileDisabled : Bool} {consecutiveFailures : Nat}
    (houtcome : (validateOutput tools deps source context).outcome =
      .ok (.rejected packet reason errors profileDisabled consecutiveFailures))
    (hrecords : RecordsViolation context (validateOutput tools deps source context).calls)
    (hnone : forall packet, Candidate tools source context packet ->
      ¬ Acceptable tools deps context packet) :
    Settles tools deps source context where
  returns := ⟨_, houtcome⟩
  accepts := by
    intro packet
    constructor
    · intro ⟨_, _, haccepted⟩
      cases houtcome.symm.trans haccepted
    · intro ⟨hcandidate, hacceptable⟩
      exact absurd hacceptable (hnone packet hcandidate)
  rejects := fun _ _ _ _ _ _ => hrecords
  kept := onlyAdds_repairedPacket
  added := fun _ _ _ => missingField_of_repairedPacket

theorem settles_of_no_packet {reason : OutputRejectionReason} {errors : List String}
    (hvalidation : validateOutput tools deps source context =
      recordFailureAndReject deps context reason errors none)
    (hextract : forall supplied packetSource,
      extractPacket tools.parse source ≠ .found supplied packetSource) :
    Settles tools deps source context := by
  apply settles_of_rejected (by rw [hvalidation, recordFailureAndReject])
  · rw [hvalidation]
    exact recordsViolation_reject [] reason errors none
  · intro packet ⟨supplied, packetSource, hfound, _⟩
    exact absurd hfound (hextract supplied packetSource)

theorem settles_of_safe (h : Safe tools deps source context) :
    Settles tools deps source context := by
  cases hextract : extractPacket tools.parse source with
  | notFound =>
      apply settles_of_no_packet (by rw [validateOutput, hextract])
      intro supplied packetSource hfound
      cases hextract.symm.trans hfound
  | jsonParseError rawContent packetSource error =>
      apply settles_of_no_packet (by rw [validateOutput, hextract])
      intro supplied packetSource hfound
      cases hextract.symm.trans hfound
  | found supplied packetSource =>
      have hvalidation : validateOutput tools deps source context =
          validatePacket tools deps context supplied := by
        rw [validateOutput, hextract]
      have hcourse : Course tools deps context supplied
          (validateOutput tools deps source context) :=
        hvalidation ▸ validatePacket_course supplied
      cases hcourse with
      | throws message hunreadable _ =>
          exact absurd (h.readable supplied packetSource hextract) hunreadable
      | rejects _ hfails packet reason errors profileDisabled failures houtcome hrecords =>
          apply settles_of_rejected houtcome hrecords
          intro packet hcandidate hacceptable
          have hpasses := (passes_iff_acceptable.mp hacceptable).1
          rw [eq_repairedPacket_of_passes hextract hcandidate hpasses] at hpasses
          exact hfails hpasses
      | accepts _ hpasses repaired repairActions houtcome =>
          constructor
          · exact ⟨_, houtcome⟩
          · intro packet
            constructor
            · intro ⟨_, _, haccepted⟩
              cases houtcome.symm.trans haccepted
              have hcandidate : Candidate tools source context (repairedPacket
                  tools.isDatetime context.expectedPacketType supplied) :=
                ⟨supplied, packetSource, hextract, Or.inr rfl⟩
              exact ⟨hcandidate, passes_iff_acceptable.mpr
                ⟨hpasses, h.references _ hcandidate hpasses⟩⟩
            · intro ⟨hcandidate, hacceptable⟩
              rw [eq_repairedPacket_of_passes hextract hcandidate hacceptable]
              exact ⟨repaired, repairActions, houtcome⟩
          · intro packet reason errors profileDisabled failures hrejected
            cases houtcome.symm.trans hrejected
          · exact onlyAdds_repairedPacket
          · exact fun _ _ _ => missingField_of_repairedPacket

theorem safe_of_settles (h : Settles tools deps source context) :
    Safe tools deps source context := by
  have hcourse : forall supplied packetSource,
      extractPacket tools.parse source = .found supplied packetSource ->
        Course tools deps context supplied (validateOutput tools deps source context) := by
    intro supplied packetSource hextract
    rw [validateOutput, hextract]
    exact validatePacket_course supplied
  rcases h.returns with ⟨result, hresult⟩
  constructor
  · intro supplied packetSource hextract
    cases hcourse supplied packetSource hextract with
    | throws message _ houtcome =>
        cases hresult.symm.trans houtcome
    | rejects hreadable =>
        exact hreadable
    | accepts hreadable =>
        exact hreadable
  · intro packet hcandidate hpasses
    rcases hcandidate with ⟨supplied, packetSource, hextract, hpacket⟩
    have heq := eq_repairedPacket_of_passes hextract
      ⟨supplied, packetSource, hextract, hpacket⟩ hpasses
    rw [heq] at hpasses ⊢
    cases hcourse supplied packetSource hextract with
    | throws message _ houtcome =>
        cases hresult.symm.trans houtcome
    | rejects _ hfails =>
        exact absurd hpasses hfails
    | accepts _ _ repaired repairActions houtcome =>
        have hacceptable := ((h.accepts _).mp ⟨repaired, repairActions, houtcome⟩).2
        exact (passes_iff_acceptable.mp hacceptable).2

/-- A validation settles exactly if what is extracted can be read, and no packet passes whose
checks refer to an artifact that is missing. -/
theorem validation_settles_iff_safe (tools : ValidatorTools N)
    (deps : OutputValidatorDependencies) (source : WorkerOutputSource)
    (context : OutputValidationContext N) :
    Settles tools deps source context <-> Safe tools deps source context :=
  ⟨safe_of_settles, settles_of_safe⟩

/-!
## Outputs that do not settle
-/

def smallTools (output : String) (packet : Json) : ValidatorTools Nat where
  parse := fun text => if text = output then .ok packet else .error "Unexpected token"
  isDatetime := fun text => text = "2026-01-01T00:00:00Z"
  toNumber := id
  numberText := toString
  text := fun value => (value.bind Json.asString?).getD "undefined"

def smallDependencies : OutputValidatorDependencies where
  artifactExists := fun _ => false
  recordFailure := fun _ => 1

def smallContext : OutputValidationContext Nat where
  taskId := "task-1"
  repositoryId := "repo-1"
  validationRunId := some "run-1"
  expectedPacketType := "validation_result_packet"
  expectedMajorVersion := 1
  agentProfileId := "profile-1"

def fileOutput (output : String) : WorkerOutputSource where
  outputFileContent := some output
  stdoutContent := ""

def objectText (fields : String) : String :=
  "\x7b" ++ fields ++ "\x7d"

def shortVersionOutput : String :=
  objectText "\"schema_version\":\"1\""

def shortVersionPacket : Json :=
  .object [("schema_version", .string "1")]

def unstoredLogCheck : String :=
  objectText
    ("\"check_type\":\"test\",\"tool_name\":\"vitest\",\"command\":\"pnpm test\"," ++
      "\"status\":\"passed\",\"duration_ms\":5,\"summary\":\"done\"," ++
      "\"artifact_refs\":[\"test.log\"]")

def unstoredLogOutput : String :=
  objectText
    ("\"packet_type\":\"validation_result_packet\",\"schema_version\":\"1.0\"," ++
      "\"created_at\":\"2026-01-01T00:00:00Z\",\"task_id\":\"task-1\"," ++
      "\"repository_id\":\"repo-1\",\"validation_run_id\":\"run-1\"," ++
      "\"status\":\"success\",\"summary\":\"done\",\"details\":" ++
      objectText ("\"run_scope\":\"pre-dev\",\"checks\":[" ++ unstoredLogCheck ++ "]"))

def unstoredLogPacket : Json :=
  .object
    [("packet_type", .string "validation_result_packet"),
      ("schema_version", .string "1.0"),
      ("created_at", .string "2026-01-01T00:00:00Z"),
      ("task_id", .string "task-1"),
      ("repository_id", .string "repo-1"),
      ("validation_run_id", .string "run-1"),
      ("status", .string "success"),
      ("summary", .string "done"),
      ("details", .object
        [("run_scope", .string "pre-dev"),
          ("checks", .array
            [.object
              [("check_type", .string "test"),
                ("tool_name", .string "vitest"),
                ("command", .string "pnpm test"),
                ("status", .string "passed"),
                ("duration_ms", .number 5),
                ("summary", .string "done"),
                ("artifact_refs", .array [.string "test.log"])]])])]

/-- The text of an object begins and ends with a brace, so that nothing is trimmed. -/
theorem fileText_objectText (fields : String) :
    fileText (some (objectText fields)) = some (objectText fields) := by
  have htext : (objectText fields).toList = '\x7b' :: (fields.toList ++ ['\x7d']) := by
    simp [objectText]
  have hbegin : isSpace '\x7b' = false := by
    decide
  have hend : isSpace '\x7d' = false := by
    decide
  have htrim : trim (objectText fields).toList = (objectText fields).toList := by
    rw [htext, trim, List.dropWhile_cons, if_neg (by rw [hbegin]; exact Bool.false_ne_true),
      List.reverse_cons, List.reverse_append, List.reverse_singleton, List.singleton_append,
      List.cons_append, List.dropWhile_cons,
      if_neg (by rw [hend]; exact Bool.false_ne_true)]
    simp
  unfold fileText
  rw [Option.bind_some, htrim, String.ofList_toList]
  exact if_neg (by rw [htext]; exact List.cons_ne_nil _ _)

theorem parse_smallTools (output : String) (packet : Json) :
    (smallTools output packet).parse output = .ok packet :=
  if_pos rfl

theorem extractPacket_fileOutput {parse : String -> Except String Json} {output : String}
    {packet : Json} (htext : fileText (some output) = some output)
    (hparse : parse output = .ok packet) :
    extractPacket parse (fileOutput output) = .found packet .file := by
  unfold extractPacket fileOutput
  simp only [htext]
  exact parsedPacket_eq_found.mpr ⟨hparse, rfl⟩

theorem unstoredLogPacket_passes :
    Passes (smallTools unstoredLogOutput unstoredLogPacket) smallDependencies smallContext
      artifactRefs unstoredLogPacket where
  valid := ⟨.validationResult, by decide, by decide +kernel, rfl⟩
  version := ⟨"1.0", { major := 1, minor := 0 }, by decide, by decide, rfl⟩
  ids := by
    have hids : verifyIds (fun _ => "") unstoredLogPacket smallContext = [] := by
      decide +kernel
    exact verifyIds_eq_nil_iff.mp hids
  artifacts := by
    intro path hmem
    cases hmem

/-- The validation of null throws, and so does that of a version without a minor number; a
packet is accepted although a check refers to a log that does not exist. -/
theorem null_short_version_and_unstored_log_do_not_settle :
    ¬ Settles (smallTools "null" .null) smallDependencies (fileOutput "null") smallContext ∧
    ¬ Settles (smallTools shortVersionOutput shortVersionPacket) smallDependencies
        (fileOutput shortVersionOutput) smallContext ∧
    ¬ Settles (smallTools unstoredLogOutput unstoredLogPacket) smallDependencies
        (fileOutput unstoredLogOutput) smallContext := by
  refine ⟨?_, ?_, ?_⟩
  · intro h
    have htext : fileText (some "null") = some "null" := by
      decide +kernel
    have hextract := extractPacket_fileOutput htext (parse_smallTools "null" .null)
    exact ((safe_of_settles h).readable _ _ hextract).notNull rfl
  · intro h
    have hextract := extractPacket_fileOutput (fileText_objectText _)
      (parse_smallTools shortVersionOutput shortVersionPacket)
    have hreadable := (safe_of_settles h).readable _ _ hextract
    exact hreadable.version "1" (by decide) (by decide)
  · intro h
    have hextract := extractPacket_fileOutput (fileText_objectText _)
      (parse_smallTools unstoredLogOutput unstoredLogPacket)
    have hexist := (safe_of_settles h).references unstoredLogPacket
      ⟨_, _, hextract, Or.inl rfl⟩ unstoredLogPacket_passes
    have hlog := hexist "test.log" (by decide +kernel)
    cases hlog

end OutputValidation
end Automation
end CopilotFactory
