import CopilotFactory.Automation.OutputVerdicts

/-!
# Minor versions

Versions with the same major number count as compatible, and fields that a schema does not
know are ignored.  But every schema takes version 1.0 only, so that a later minor version
passes the check of its version and fails that of its schema.
-/

namespace CopilotFactory
namespace Automation
namespace OutputValidation

open Foundations
open Foundations.Zod
open Records

/-!
## Packets with a later version
-/

variable {fields fields' : List (String × Json)}

def topLevelFields (schema : PacketSchema) : List String :=
  match (Packets.zodOf (fun _ => false) schema).type with
  | .object shape => shape.map Prod.fst
  | _ => []

def relabelled (version : String) (fields added : List (String × Json)) :
    List (String × Json) :=
  setEntry "schema_version" (.string version) fields ++ added

def minorVersion (minor : Nat) : String :=
  "1." ++ minor.repr

inductive Verdict where
  | accepted
  | rejected (reason : OutputRejectionReason)
  | thrown
deriving DecidableEq

def Validation.verdict (validation : Validation) : Verdict :=
  match validation.outcome with
  | .ok (.accepted _ _ _) => .accepted
  | .ok (.rejected _ reason _ _ _) => .rejected reason
  | .error _ => .thrown

def adapterTools (isDatetime : String -> Bool) : PacketTools Json where
  parse := fun _ => none
  accepts := fun schema data => (Packets.zodOf isDatetime schema).safeParse data = []
  status := fun data => Packets.textOf data "status"

variable {N : Type}

/-- A valid packet of a registered type, and outputs with it and with the packet of a minor
version that has further fields. -/
structure TwoOutputs (tools : ValidatorTools N) (context : OutputValidationContext N) where
  schema : PacketSchema
  registered : packetSchemaRegistry.lookup context.expectedPacketType = some schema
  fields : List (String × Json)
  valid : ValidFor tools.isDatetime context.expectedPacketType (.object fields)
  minor : Nat
  added : List (String × Json)
  additional : forall key, key ∈ added.map Prod.fst ->
    key ∉ topLevelFields schema ∧ fields.lookup key = none
  original : WorkerOutputSource
  newer : WorkerOutputSource
  originalFound : exists packetSource, extractPacket tools.parse original =
    .found (.object fields) packetSource
  newerFound : exists packetSource, extractPacket tools.parse newer =
    .found (.object (relabelled (minorVersion minor) fields added)) packetSource

/-- Both pipelines judge both packets alike, and packets of another major version are
rejected as incompatible. -/
structure MinorCompatible [DecidableEq N] {tools : ValidatorTools N}
    {context : OutputValidationContext N} (deps : OutputValidatorDependencies)
    (outputs : TwoOutputs tools context) : Prop where
  validator : (validateOutput tools deps outputs.newer context).verdict =
    (validateOutput tools deps outputs.original context).verdict
  adapter :
    validatePacketSchema (adapterTools tools.isDatetime)
        (.object (relabelled (minorVersion outputs.minor) outputs.fields outputs.added))
        context.expectedPacketType =
      validatePacketSchema (adapterTools tools.isDatetime) (.object outputs.fields)
        context.expectedPacketType
  otherMajor : forall source packet packetSource version parsed,
    extractPacket tools.parse source = .found packet packetSource ->
      schemaVersion? packet = some version -> parseSchemaVersion version = some parsed ->
        parsed.major ≠ 1 ->
          (validateOutput tools deps source context).verdict = .rejected .versionIncompatible

/-!
## What schemas read
-/

theorem mem_of_acceptsShape {shape : List (String × ZodType)} {field : String × Schema}
    (h : field ∈ acceptsShape shape) : field.1 ∈ shape.map Prod.fst := by
  induction shape with
  | nil =>
      cases h
  | cons member rest ih =>
      rcases List.mem_cons.mp h with rfl | h
      · exact List.mem_cons_self
      · exact List.mem_cons_of_mem _ (ih h)

/-- An object type reads its own members only. -/
theorem accepts_congr {shape : List (String × ZodType)}
    (h : forall key, key ∈ shape.map Prod.fst -> fields.lookup key = fields'.lookup key) :
    accepts (.object shape) (some (.object fields)) =
      accepts (.object shape) (some (.object fields')) := by
  rw [Bool.eq_iff_iff]
  simp only [accepts, Schema.object, List.all_eq_true]
  exact forall₂_congr (fun field hfield => by rw [h field.1 (mem_of_acceptsShape hfield)])

theorem superRefine_congr {isDatetime : String -> Bool} {schema : PacketSchema}
    (h : forall key, key ∈ topLevelFields schema -> fields.lookup key = fields'.lookup key) :
    (Packets.zodOf isDatetime schema).superRefine (.object fields) =
      (Packets.zodOf isDatetime schema).superRefine (.object fields') := by
  have htext : forall key, key ∈ topLevelFields schema ->
      Packets.textOf (.object fields) key = Packets.textOf (.object fields') key :=
    fun key hkey => congrArg (Option.bind · Json.asString?) (h key hkey)
  have hcount : forall key, key ∈ topLevelFields schema ->
      Packets.countOf (.object fields) key = Packets.countOf (.object fields') key :=
    fun key hkey => congrArg (fun value => (Json.itemsOf value).length) (h key hkey)
  cases schema with
  | devResult | merge | validationResult =>
      rfl
  | review =>
      simp only [Packets.zodOf, Packets.reviewPacketSchema,
        htext "verdict" (by decide), hcount "blocking_issues" (by decide)]
  | leadReviewDecision =>
      simp only [Packets.zodOf, Packets.leadReviewDecisionPacketSchema,
        htext "decision" (by decide), hcount "blocking_issues" (by decide),
        hcount "follow_up_task_refs" (by decide)]
  | mergeAssist =>
      simp only [Packets.zodOf, Packets.mergeAssistPacketSchema,
        htext "confidence" (by decide), htext "recommendation" (by decide)]
  | postMergeAnalysis =>
      simp only [Packets.zodOf, Packets.postMergeAnalysisPacketSchema,
        htext "confidence" (by decide), htext "recommendation" (by decide)]

section Types

variable {isDatetime : String -> Bool} {expectedPacketType : String} {schema : PacketSchema}

theorem validFor_of_agree
    (hschema : packetSchemaRegistry.lookup expectedPacketType = some schema)
    (h : forall key, key ∈ topLevelFields schema -> fields.lookup key = fields'.lookup key)
    (hvalid : ValidFor isDatetime expectedPacketType (.object fields)) :
    ValidFor isDatetime expectedPacketType (.object fields') := by
  rcases hvalid with ⟨schema', hlookup, haccepts, hrefine⟩
  cases hschema.symm.trans hlookup
  have hsame : accepts (Packets.zodOf isDatetime schema).type (some (.object fields)) =
      accepts (Packets.zodOf isDatetime schema).type (some (.object fields')) := by
    cases schema <;> exact accepts_congr fun key hkey => h key hkey
  exact ⟨schema, hschema, hsame.symm.trans haccepts,
    (superRefine_congr h).symm.trans hrefine⟩

theorem version_of_validFor {packet : Json}
    (h : ValidFor isDatetime expectedPacketType packet) :
    packet.field? "schema_version" = some (.string "1.0") := by
  rcases h with ⟨schema, _, haccepts, _⟩
  cases schema <;>
    exact Schema.literal_eq_true.mp
      (Schema.field_of_object haccepts (List.mem_cons_of_mem _ List.mem_cons_self))

end Types

/-!
## Verdicts
-/

section Verdicts

variable [DecidableEq N] {tools : ValidatorTools N} {deps : OutputValidatorDependencies}
  {context : OutputValidationContext N}

theorem verdict_of_found {source : WorkerOutputSource} {packet : Json}
    (h : exists packetSource, extractPacket tools.parse source = .found packet packetSource) :
    (validateOutput tools deps source context).verdict =
      (validatePacket tools deps context packet).verdict := by
  rcases h with ⟨packetSource, hfound⟩
  rw [validateOutput, hfound]

omit [DecidableEq N] in
theorem verdict_verifyPacket (final : FinalPacket) :
    (verifyPacket tools deps context final).verdict =
      if verifyIds tools.text final.packet context = [] then
        if verifyArtifacts deps.artifactExists final.packet = [] then
          .accepted
        else
          .rejected .artifactsMissing
      else
        .rejected .idMismatch := by
  unfold verifyPacket
  cases verifyIds tools.text final.packet context with
  | cons _ _ =>
      rfl
  | nil =>
      cases verifyArtifacts deps.artifactExists final.packet with
      | cons _ _ =>
          simp [Validation.verdict, recordFailureAndReject]
      | nil =>
          simp [Validation.verdict]

theorem validatePacket_of_valid {schema : PacketSchema} {packet : Json}
    (hexpected : context.expectedMajorVersion = tools.toNumber 1)
    (hschema : packetSchemaRegistry.lookup context.expectedPacketType = some schema)
    (hvalid : ValidFor tools.isDatetime context.expectedPacketType packet) :
    validatePacket tools deps context packet = verifyPacket tools deps context
      { packet := packet, repaired := false, repairActions := [] } := by
  have hversion := version_of_validFor hvalid
  have hnull : packet ≠ .null := by
    intro hnull
    rw [hnull] at hversion
    cases hversion
  have hparse : parseSchemaVersion "1.0" = some { major := 1, minor := 0 } := by
    decide
  have hissues := (validFor_iff hschema).mp hvalid
  unfold validatePacket
  rw [if_neg hnull, hversion]
  simp [Json.asString?, isVersionCompatible, hparse, hexpected, validateWithRepair,
    validateSchema, hschema, hissues]

theorem verdict_of_otherMajor {packet : Json} {version : String}
    {parsed : ParsedSchemaVersion}
    (hexpected : context.expectedMajorVersion ≠ tools.toNumber parsed.major)
    (hversion : schemaVersion? packet = some version)
    (hparse : parseSchemaVersion version = some parsed) :
    (validatePacket tools deps context packet).verdict = .rejected .versionIncompatible := by
  have hnull : packet ≠ .null := by
    intro hnull
    rw [hnull] at hversion
    cases hversion
  rw [schemaVersion?] at hversion
  unfold validatePacket
  rw [if_neg hnull, hversion]
  simp [isVersionCompatible, hparse, hexpected.symm, Validation.verdict,
    recordFailureAndReject]

/-!
## Two outputs
-/

omit [DecidableEq N] in
theorem expectedIds_known {schema : PacketSchema} {id : String × String}
    (hschema : packetSchemaRegistry.lookup context.expectedPacketType = some schema)
    (h : id ∈ expectedIds context) : id.1 ∈ topLevelFields schema := by
  have hall : ((stageIds context schema).map Prod.fst).all (· ∈ topLevelFields schema) = true ∧
      "task_id" ∈ topLevelFields schema ∧ "repository_id" ∈ topLevelFields schema := by
    cases schema <;> exact ⟨rfl, by decide, by decide⟩
  rw [expectedIds, hschema, List.mem_append] at h
  rcases h with h | h
  · simp only [List.mem_cons, List.not_mem_nil, or_false] at h
    rcases h with rfl | rfl
    · exact hall.2.1
    · exact hall.2.2
  · rcases List.mem_filterMap.mp h with ⟨stage, hstage, hid⟩
    rcases Option.map_eq_some_iff.mp hid with ⟨_, _, rfl⟩
    exact of_decide_eq_true
      (List.all_eq_true.mp hall.1 stage.1 (List.mem_map_of_mem hstage))

namespace TwoOutputs

variable (outputs : TwoOutputs tools context)

omit [DecidableEq N] in
theorem lookup_added {key : String}
    (h : key ∈ topLevelFields outputs.schema ∨ outputs.fields.lookup key ≠ none) :
    outputs.added.lookup key = none := by
  rw [List.lookup_eq_none_iff]
  intro entry hentry
  rw [bne_iff_ne]
  rintro rfl
  rcases outputs.additional entry.1 (List.mem_map_of_mem hentry) with ⟨hunknown, hmissing⟩
  exact h.elim hunknown (fun hfound => hfound hmissing)

omit [DecidableEq N] in
theorem lookup_relabelled (version key : String) :
    (relabelled version outputs.fields outputs.added).lookup key =
      if key = "schema_version" then
        some (.string version)
      else
        (outputs.fields.lookup key).or (outputs.added.lookup key) := by
  rw [relabelled, List.lookup_append, lookup_setEntry]
  split <;> simp

omit [DecidableEq N] in
/-- With the same version both packets have the same top-level fields. -/
theorem agree {key : String} (h : key ∈ topLevelFields outputs.schema) :
    outputs.fields.lookup key =
      (relabelled "1.0" outputs.fields outputs.added).lookup key := by
  rw [lookup_relabelled, lookup_added outputs (Or.inl h), Option.or_none]
  split
  · rename_i hkey
    rw [hkey]
    exact version_of_validFor outputs.valid
  · rfl

omit [DecidableEq N] in
theorem artifactRefs_relabelled :
    (artifactRefs (.object (relabelled "1.0" outputs.fields outputs.added)) =
        artifactRefs (.object outputs.fields) ∧
      artifactRefs (.object outputs.added) = []) ∨
    (artifactRefs (.object (relabelled "1.0" outputs.fields outputs.added)) =
        artifactRefs (.object outputs.added) ∧
      artifactRefs (.object outputs.fields) = []) := by
  have hnew := outputs.lookup_relabelled "1.0" "artifact_refs"
  rw [if_neg (by decide)] at hnew
  unfold artifactRefs Json.field?
  simp only
  rw [hnew]
  cases hold : outputs.fields.lookup "artifact_refs" with
  | none =>
      exact Or.inr ⟨rfl, rfl⟩
  | some value =>
      have hadded : outputs.added.lookup "artifact_refs" = none :=
        outputs.lookup_added (Or.inr (by simp [hold]))
      rw [hadded]
      exact Or.inl ⟨rfl, rfl⟩

theorem verdict_original (hexpected : context.expectedMajorVersion = tools.toNumber 1) :
    (validateOutput tools deps outputs.original context).verdict =
      (verifyPacket tools deps context
        { packet := .object outputs.fields, repaired := false, repairActions := [] }).verdict := by
  rw [verdict_of_found outputs.originalFound,
    validatePacket_of_valid hexpected outputs.registered outputs.valid]

/-- A packet of version 1.0 gets another verdict exactly if its ids match and an added
reference does not exist. -/
theorem validator_alike_iff (hexpected : context.expectedMajorVersion = tools.toNumber 1)
    (hminor : outputs.minor = 0) :
    (validateOutput tools deps outputs.newer context).verdict =
        (validateOutput tools deps outputs.original context).verdict <->
      (MatchesIds context (.object outputs.fields) ->
        Exist deps (artifactRefs (.object outputs.added))) := by
  have hnewer := outputs.newerFound
  rw [hminor, show minorVersion 0 = "1.0" from rfl] at hnewer
  have hvalid := validFor_of_agree outputs.registered (fun _ => outputs.agree) outputs.valid
  have hids : MatchesIds context (.object (relabelled "1.0" outputs.fields outputs.added)) <->
      MatchesIds context (.object outputs.fields) := by
    unfold MatchesIds Json.field?
    refine forall₃_congr (fun field expected hmem => ?_)
    simp only
    rw [← outputs.agree (expectedIds_known outputs.registered hmem)]
  rw [verdict_original outputs hexpected, verdict_of_found hnewer,
    validatePacket_of_valid hexpected outputs.registered hvalid, verdict_verifyPacket,
    verdict_verifyPacket]
  by_cases hmatch : MatchesIds context (.object outputs.fields)
  · rw [if_pos (verifyIds_eq_nil_iff.mpr (hids.mpr hmatch)),
      if_pos (verifyIds_eq_nil_iff.mpr hmatch), ← verifyArtifacts_eq_nil_iff]
    unfold verifyArtifacts
    rcases outputs.artifactRefs_relabelled with ⟨hrefs, hnone⟩ | ⟨hrefs, hnone⟩
    · rw [hrefs, hnone]
      exact iff_of_true rfl (fun _ => rfl)
    · rw [hrefs, hnone, if_pos List.filter_nil]
      split
      · rename_i hexist
        exact iff_of_true rfl (fun _ => hexist)
      · rename_i hmissing
        exact iff_of_false Verdict.noConfusion (fun h => hmissing (h hmatch))
  · rw [if_neg (mt (fun h => hids.mp (verifyIds_eq_nil_iff.mp h)) hmatch),
      if_neg (mt verifyIds_eq_nil_iff.mp hmatch)]
    exact iff_of_true rfl (fun h => absurd h hmatch)

omit [DecidableEq N] in
theorem minor_eq_zero_of_valid
    (h : ValidFor tools.isDatetime context.expectedPacketType
      (.object (relabelled (minorVersion outputs.minor) outputs.fields outputs.added))) :
    outputs.minor = 0 := by
  have hversion := version_of_validFor h
  rw [Json.field?, lookup_relabelled, if_pos rfl, Option.some.injEq, Json.string.injEq] at hversion
  have hrepr : outputs.minor.repr = "0" := (String.append_right_inj "1.").mp hversion
  have hdigits : Nat.toDigits 10 outputs.minor = ['0'] := by
    rw [← Nat.toList_repr, hrepr]
    rfl
  rw [← @Nat.ofDigitChars_toDigits 10 outputs.minor (by decide) (by decide), hdigits]
  rfl

end TwoOutputs

/-- A later minor version is compatible exactly if it is none: every schema takes version 1.0
only.  At version 1.0 further fields are ignored, except that the references among them have to
exist in a packet whose ids match. -/
theorem minorCompatible_iff (deps : OutputValidatorDependencies)
    (outputs : TwoOutputs tools context)
    (hexpected : context.expectedMajorVersion = tools.toNumber 1)
    (hone : forall major, tools.toNumber major = tools.toNumber 1 -> major = 1) :
    MinorCompatible deps outputs <->
      outputs.minor = 0 ∧ (MatchesIds context (.object outputs.fields) ->
        Exist deps (artifactRefs (.object outputs.added))) := by
  have hissues := (validFor_iff outputs.registered).mp outputs.valid
  constructor
  · intro h
    have hnewer := h.adapter
    simp only [validatePacketSchema, outputs.registered, adapterTools, hissues,
      decide_true, decide_eq_true_eq] at hnewer
    have hminor :=
      outputs.minor_eq_zero_of_valid ((validFor_iff outputs.registered).mpr hnewer)
    exact ⟨hminor, (outputs.validator_alike_iff hexpected hminor).mp h.validator⟩
  · intro h
    refine ⟨(outputs.validator_alike_iff hexpected h.1).mpr h.2, ?_, ?_⟩
    · have hnewer := (validFor_iff outputs.registered).mp
        (validFor_of_agree outputs.registered (fun _ => outputs.agree) outputs.valid)
      simp only [validatePacketSchema, outputs.registered, adapterTools]
      rw [h.1, hissues, show minorVersion 0 = "1.0" from rfl, hnewer]
    · intro source packet packetSource version parsed hfound hversion hparse hmajor
      rw [verdict_of_found ⟨packetSource, hfound⟩]
      apply verdict_of_otherMajor _ hversion hparse
      rw [hexpected]
      exact fun heq => hmajor (hone parsed.major heq.symm)

end Verdicts

/-!
## A packet with a trace
-/

def unstoredLogFields : List (String × Json) :=
  match unstoredLogPacket with
  | .object fields => fields
  | _ => []

def traceFields : List (String × Json) :=
  [("trace_id", .string "trace-1")]

def tracedOutput (version : String) : String :=
  objectText
    ("\"packet_type\":\"validation_result_packet\",\"schema_version\":\"" ++ version ++
      "\",\"created_at\":\"2026-01-01T00:00:00Z\",\"task_id\":\"task-1\"," ++
      "\"repository_id\":\"repo-1\",\"validation_run_id\":\"run-1\"," ++
      "\"status\":\"success\",\"summary\":\"done\",\"details\":" ++
      objectText ("\"run_scope\":\"pre-dev\",\"checks\":[" ++ unstoredLogCheck ++ "]") ++
      ",\"trace_id\":\"trace-1\"")

def tracedTools (version : String) : ValidatorTools Nat :=
  { smallTools unstoredLogOutput unstoredLogPacket with
    parse := fun text =>
      if text = tracedOutput version then
        .ok (.object (relabelled version unstoredLogFields traceFields))
      else
        (smallTools unstoredLogOutput unstoredLogPacket).parse text }

def tracedOutputs (minor : Nat) (h : unstoredLogOutput ≠ tracedOutput (minorVersion minor)) :
    TwoOutputs (tracedTools (minorVersion minor)) smallContext where
  schema := .validationResult
  registered := by decide
  fields := unstoredLogFields
  valid := unstoredLogPacket_passes.valid
  minor := minor
  added := traceFields
  additional := by
    intro key hkey
    rcases List.mem_singleton.mp hkey with rfl
    decide
  original := fileOutput unstoredLogOutput
  newer := fileOutput (tracedOutput (minorVersion minor))
  originalFound := ⟨.file, extractPacket_fileOutput (fileText_objectText _)
    ((if_neg h).trans (parse_smallTools _ _))⟩
  newerFound := ⟨.file, extractPacket_fileOutput (fileText_objectText _) (if_pos rfl)⟩

theorem minorCompatible_traced :
    MinorCompatible smallDependencies (tracedOutputs 0 (by decide +kernel)) :=
  (minorCompatible_iff smallDependencies _ rfl (fun _ h => h)).mpr
    ⟨rfl, fun _ _ hpath => absurd hpath List.not_mem_nil⟩

/-- With version 1.1 the same packet is rejected. -/
theorem not_minorCompatible_traced :
    ¬ MinorCompatible smallDependencies (tracedOutputs 1 (by decide +kernel)) := by
  intro h
  have hverdicts := h.validator
  rw [verdict_of_found (tracedOutputs 1 _).newerFound,
    verdict_of_found (tracedOutputs 1 _).originalFound] at hverdicts
  exact absurd hverdicts (by decide +kernel)

end OutputValidation
end Automation
end CopilotFactory
