import CopilotFactory.Reviewing.ReviewRounds

/-!
# Rework context

A task that is sent back to development takes along why it was rejected: the cycle, the
blocking issues and the summary of the lead reviewer.  All of it is read from the stored
packets of the reviews.
-/

namespace CopilotFactory
namespace Reviewing

open Foundations
open Infrastructure
open Application

/-!
## Schemas
-/

variable {reviewCycleId : ReviewCycleId}

def issueSeveritySchema : Schema :=
  Schema.oneOf ["critical", "high", "medium", "low"]

def issueSchema : Schema :=
  Schema.object
    [("severity", issueSeveritySchema),
      ("code", Schema.nonEmptyString),
      ("title", Schema.nonEmptyString),
      ("description", Schema.nonEmptyString),
      ("file_path", Schema.optional (Schema.string fun _ => true)),
      ("line", Schema.optional Schema.positiveInteger),
      ("blocking", Schema.boolean)]

def rejectionContextSchema : Schema :=
  Schema.object
    [("prior_review_cycle_id", Schema.nonEmptyString),
      ("blocking_issues", Schema.nonEmptyArray issueSchema),
      ("lead_decision_summary", Schema.nonEmptyString)]

def issueKeys : List String :=
  ["severity", "code", "title", "description", "file_path", "line", "blocking"]

/-- The checks of the schema on an issue that the model has parsed. -/
structure Issue.Valid (issue : Issue) : Prop where
  code : issue.code ≠ ""
  title : issue.title ≠ ""
  description : issue.description ≠ ""
  line : forall line, issue.line = some line -> 0 < line

/-- The checks of the schema on the fields of a packet that the model has parsed. -/
structure LeadReviewDecisionPacket.Valid (packet : LeadReviewDecisionPacket) : Prop where
  taskId : packet.taskId ≠ ""
  reviewCycleId : packet.reviewCycleId ≠ ""
  summary : packet.summary ≠ ""
  blockingIssues : forall issue, issue ∈ packet.blockingIssues -> issue.Valid
  followUpTaskRefs : forall ref, ref ∈ packet.followUpTaskRefs -> ref ≠ ""

/-!
## The service
-/

structure RejectionContext where
  priorReviewCycleId : String
  blockingIssues : List Json
  leadDecisionSummary : String
deriving DecidableEq

def RejectionContext.toJson (context : RejectionContext) : Json :=
  .object
    [("prior_review_cycle_id", .string context.priorReviewCycleId),
      ("blocking_issues", .array context.blockingIssues),
      ("lead_decision_summary", .string context.leadDecisionSummary)]

structure BuildRejectionContextParams where
  taskId : TaskId
  reviewCycleId : Option ReviewCycleId := none
deriving DecidableEq

structure BuildRejectionContextResult where
  rejectionContext : RejectionContext
  reviewCycleId : ReviewCycleId
  priorUnresolvedIssues : List Json
deriving DecidableEq

inductive ReworkContextError where
  | entityNotFound (entityType entityId : String)
  | rejectionContextAssembly (taskId reviewCycleId reason : String)
deriving DecidableEq

/-- The queries of the repositories, and what the schema reports about a value that it
rejects. -/
structure ReworkPorts where
  findLatestRejectedByTaskId : ReviewTables -> TaskId -> Option ReviewCycle
  findLatestDevResult : ReviewTables -> TaskId -> Option Json
  schemaIssues : Json -> List SchemaIssue

/-- The documented query: the latest of the REJECTED cycles of a task, by the time of their
creation.  Rows are stored in the order of their creation. -/
def ReworkPorts.Documented (ports : ReworkPorts) : Prop :=
  forall r taskId,
    ports.findLatestRejectedByTaskId r taskId = (rejectedCycles r taskId).getLast?

def findDecisionByReviewCycleId (r : ReviewTables) (reviewCycleId : ReviewCycleId) :
    Option LeadReviewDecisionRecord :=
  r.leadReviewDecisions.rows.find? (fun decision => decision.reviewCycleId = reviewCycleId)

def extractBlockingIssuesFromDecision (decision : LeadReviewDecisionRecord) : List Json :=
  Json.itemsOf (decision.packetJson.field? "blocking_issues")

def extractDecisionSummary (decision : LeadReviewDecisionRecord) : String :=
  ((decision.packetJson.field? "summary").bind Json.asString?).getD decision.summary

def extractBlockingIssuesFromSpecialists (packets : List ReviewPacket) : List Json :=
  packets.flatMap (fun packet =>
    Json.itemsOf (packet.packetJson.bind (Json.field? "blocking_issues")))

def extractUnresolvedIssues (devResult : Option Json) : List Json :=
  Json.itemsOf ((devResult.bind (Json.field? "result")).bind (Json.field? "unresolved_issues"))

/-- The issues of the specialists count only if the lead reviewer has none. -/
def mergeBlockingIssues (leadIssues specialistIssues : List Json) : List Json :=
  if leadIssues ≠ [] then leadIssues else specialistIssues

/-- The cycle of a request: the given one, if its id is not empty, or the latest rejected. -/
def rejectedCycleOf (ports : ReworkPorts) (params : BuildRejectionContextParams)
    (r : ReviewTables) : Except ReworkContextError ReviewCycleId := do
  match params.reviewCycleId.filter (fun reviewCycleId => reviewCycleId ≠ "") with
  | some reviewCycleId =>
      let cycle ← orThrow (r.findCycle reviewCycleId)
        (.entityNotFound "ReviewCycle" reviewCycleId)
      ensure (cycle.taskId = params.taskId)
        (.entityNotFound "ReviewCycle"
          s!"{reviewCycleId} (not associated with task {params.taskId})")
      pure reviewCycleId
  | none =>
      let latestRejected ← orThrow (ports.findLatestRejectedByTaskId r params.taskId)
        (.entityNotFound "ReviewCycle" s!"latest rejected cycle for task {params.taskId}")
      pure latestRejected.reviewCycleId

def blockingIssuesOf (r : ReviewTables) (reviewCycleId : ReviewCycleId)
    (decision : LeadReviewDecisionRecord) : List Json :=
  mergeBlockingIssues (extractBlockingIssuesFromDecision decision)
    (extractBlockingIssuesFromSpecialists (r.findPacketsByCycle reviewCycleId))

def rawContext (r : ReviewTables) (reviewCycleId : ReviewCycleId)
    (decision : LeadReviewDecisionRecord) : RejectionContext where
  priorReviewCycleId := reviewCycleId
  blockingIssues := blockingIssuesOf r reviewCycleId decision
  leadDecisionSummary := extractDecisionSummary decision

def RejectionContext.parse (context : RejectionContext) : Option RejectionContext :=
  if rejectionContextSchema (some context.toJson) = true then
    some { context with blockingIssues := context.blockingIssues.map (Json.pick issueKeys) }
  else
    none

def buildRejectionContext (ports : ReworkPorts) (params : BuildRejectionContextParams)
    (r : ReviewTables) : Except ReworkContextError BuildRejectionContextResult := do
  let _ ← orThrow (r.store.findTask params.taskId) (.entityNotFound "Task" params.taskId)
  let reviewCycleId ← rejectedCycleOf ports params r
  let leadDecision ← orThrow (findDecisionByReviewCycleId r reviewCycleId)
    (.entityNotFound "LeadReviewDecision" s!"decision for review cycle {reviewCycleId}")
  let raw := rawContext r reviewCycleId leadDecision
  let rejectionContext ← orThrow raw.parse
    (.rejectionContextAssembly params.taskId reviewCycleId
      ("Schema validation failed: " ++
        "; ".intercalate ((ports.schemaIssues raw.toJson).map SchemaIssue.summary)))
  pure
    { rejectionContext := rejectionContext
      reviewCycleId := reviewCycleId
      priorUnresolvedIssues :=
        extractUnresolvedIssues (ports.findLatestDevResult r params.taskId) }

/-!
## Stored packets
-/

theorem issueSchema_toJson {issue : Issue} (h : issue.Valid) :
    issueSchema (some issue.toJson) = true := by
  rcases issue with ⟨severity, code, title, description, filePath, line, blocking⟩
  have hseverity : severity.label ∈ ["critical", "high", "medium", "low"] := by
    cases severity <;> decide
  have hcode : code ≠ "" := h.code
  have htitle : title ≠ "" := h.title
  have hdescription : description ≠ "" := h.description
  have hline : forall n, line = some n -> 0 < n := h.line
  cases filePath <;> cases line <;>
    simp_all [issueSchema, issueSeveritySchema, Issue.toJson, Schema.object, Schema.oneOf,
      Schema.string, Schema.nonEmptyString, Schema.optional, Schema.positiveInteger,
      Schema.boolean, List.lookup_cons]

theorem pick_issue_toJson (issue : Issue) :
    Json.pick issueKeys issue.toJson = issue.toJson := by
  rcases issue with ⟨severity, code, title, description, filePath, line, blocking⟩
  cases filePath <;> cases line <;>
    simp [issueKeys, Issue.toJson, Json.pick, List.lookup_cons]

structure RejectionContext.Complete (context : RejectionContext) : Prop where
  cycle : context.priorReviewCycleId ≠ ""
  issues : context.blockingIssues ≠ []
  valid : forall issue, issue ∈ context.blockingIssues -> issueSchema (some issue) = true
  summary : context.leadDecisionSummary ≠ ""

theorem rejectionContextSchema_toJson_iff (context : RejectionContext) :
    rejectionContextSchema (some context.toJson) = true <-> context.Complete := by
  rcases context with ⟨reviewCycleId, issues, summary⟩
  simp only [rejectionContextSchema, RejectionContext.toJson, Schema.object,
    Schema.nonEmptyString, Schema.string, Schema.nonEmptyArray, List.all_cons, List.all_nil,
    List.lookup_cons, Bool.and_true, Bool.and_eq_true, decide_eq_true_eq, List.all_eq_true,
    beq_self_eq_true, String.reduceBEq]
  constructor
  · intro h
    rcases h with ⟨hcycle, ⟨hissues, hvalid⟩, hsummary⟩
    exact ⟨hcycle, hissues, hvalid, hsummary⟩
  · intro h
    exact ⟨h.cycle, ⟨h.issues, h.valid⟩, h.summary⟩

theorem parse_eq_some_iff {context parsed : RejectionContext} :
    context.parse = some parsed <-> context.Complete ∧
      parsed =
        { context with blockingIssues := context.blockingIssues.map (Json.pick issueKeys) } := by
  unfold RejectionContext.parse
  rw [Option.ite_none_right_eq_some, rejectionContextSchema_toJson_iff, Option.some.injEq]
  constructor
  · intro h
    exact ⟨h.1, h.2.symm⟩
  · intro h
    exact ⟨h.1, h.2.symm⟩

theorem buildRejectionContext_eq_ok {ports : ReworkPorts}
    {params : BuildRejectionContextParams} {r : ReviewTables}
    {result : BuildRejectionContextResult} :
    buildRejectionContext ports params r = .ok result <->
      (r.store.findTask params.taskId).isSome = true ∧
      exists reviewCycleId decision, rejectedCycleOf ports params r = .ok reviewCycleId ∧
        findDecisionByReviewCycleId r reviewCycleId = some decision ∧
        (rawContext r reviewCycleId decision).Complete ∧
        result =
          { rejectionContext :=
              { rawContext r reviewCycleId decision with
                blockingIssues :=
                  (blockingIssuesOf r reviewCycleId decision).map (Json.pick issueKeys) }
            reviewCycleId := reviewCycleId
            priorUnresolvedIssues :=
              extractUnresolvedIssues (ports.findLatestDevResult r params.taskId) } := by
  simp only [buildRejectionContext, bind_eq_ok, orThrow_eq_ok, pure_eq_ok, parse_eq_some_iff,
    Option.isSome_iff_exists]
  constructor
  · intro h
    rcases h with ⟨task, htask, reviewCycleId, hcycle, decision, hdecision, parsed,
      ⟨hcomplete, hparsed⟩, hresult⟩
    refine ⟨⟨task, htask⟩, reviewCycleId, decision, hcycle, hdecision, hcomplete, ?_⟩
    rw [← hresult, hparsed]
    rfl
  · intro h
    rcases h with ⟨⟨task, htask⟩, reviewCycleId, decision, hcycle, hdecision, hcomplete,
      hresult⟩
    exact ⟨task, htask, reviewCycleId, hcycle, decision, hdecision, _, ⟨hcomplete, rfl⟩,
      hresult.symm⟩

theorem rejectedCycleOf_latest (ports : ReworkPorts) (taskId : TaskId) (r : ReviewTables)
    (reviewCycleId : ReviewCycleId) :
    rejectedCycleOf ports { taskId := taskId } r = .ok reviewCycleId <->
      exists cycle, ports.findLatestRejectedByTaskId r taskId = some cycle ∧
        cycle.reviewCycleId = reviewCycleId := by
  simp only [rejectedCycleOf, Option.filter_none, bind_eq_ok, orThrow_eq_ok, pure_eq_ok]

/-- A cycle that is named has to be one of the task.  Its status is not looked at. -/
theorem rejectedCycleOf_named (ports : ReworkPorts) (taskId : TaskId) (r : ReviewTables)
    {named : ReviewCycleId} (hnamed : named ≠ "") :
    rejectedCycleOf ports { taskId := taskId, reviewCycleId := some named } r =
        .ok reviewCycleId <->
      (exists cycle, r.findCycle named = some cycle ∧ cycle.taskId = taskId) ∧
        reviewCycleId = named := by
  simp only [rejectedCycleOf, Option.filter_some, hnamed, ne_eq, not_false_eq_true,
    decide_true, if_true, bind_eq_ok, orThrow_eq_ok, ensure_eq_ok, pure_eq_ok]
  constructor
  · intro h
    rcases h with ⟨cycle, hcycle, _, htask, hsame⟩
    exact ⟨⟨cycle, hcycle, htask⟩, hsame.symm⟩
  · intro h
    rcases h with ⟨⟨cycle, hcycle, htask⟩, hsame⟩
    exact ⟨cycle, hcycle, (), htask, hsame.symm⟩

/-!
### The packet of a decision
-/

theorem extractBlockingIssues_of_packet {decision : LeadReviewDecisionRecord}
    {packet : LeadReviewDecisionPacket} (h : decision.packetJson = packet.toJson) :
    extractBlockingIssuesFromDecision decision = packet.blockingIssues.map Issue.toJson := by
  unfold extractBlockingIssuesFromDecision
  rw [h]
  rfl

theorem extractDecisionSummary_of_packet {decision : LeadReviewDecisionRecord}
    {packet : LeadReviewDecisionPacket} (h : decision.packetJson = packet.toJson) :
    extractDecisionSummary decision = packet.summary := by
  unfold extractDecisionSummary
  rw [h]
  rfl

/-- The feedback that a decision gives: its cycle, its blocking issues and its summary. -/
def LeadReviewDecisionPacket.feedback (packet : LeadReviewDecisionPacket)
    (reviewCycleId : ReviewCycleId) : RejectionContext where
  priorReviewCycleId := reviewCycleId
  blockingIssues := packet.blockingIssues.map Issue.toJson
  leadDecisionSummary := packet.summary

theorem rawContext_of_packet {r : ReviewTables} {decision : LeadReviewDecisionRecord}
    {packet : LeadReviewDecisionPacket} (hpacket : decision.packetJson = packet.toJson)
    (hissues : packet.blockingIssues ≠ []) :
    rawContext r reviewCycleId decision = packet.feedback reviewCycleId := by
  have hsome : packet.blockingIssues.map Issue.toJson ≠ [] := by
    simpa using hissues
  unfold rawContext blockingIssuesOf mergeBlockingIssues
  rw [extractBlockingIssues_of_packet hpacket, extractDecisionSummary_of_packet hpacket,
    if_pos hsome]
  rfl

theorem feedback_complete {packet : LeadReviewDecisionPacket} (h : packet.Valid)
    (hissues : packet.blockingIssues ≠ []) (hcycle : reviewCycleId ≠ "") :
    (packet.feedback reviewCycleId).Complete where
  cycle := hcycle
  issues := by
    simpa [LeadReviewDecisionPacket.feedback] using hissues
  valid := by
    intro stored hstored
    rcases List.mem_map.mp hstored with ⟨issue, hissue, hjson⟩
    rw [← hjson]
    exact issueSchema_toJson (h.blockingIssues issue hissue)
  summary := h.summary

theorem pick_feedback (packet : LeadReviewDecisionPacket) :
    (packet.blockingIssues.map Issue.toJson).map (Json.pick issueKeys) =
      packet.blockingIssues.map Issue.toJson := by
  rw [List.map_map]
  apply List.map_congr_left
  intro issue _
  exact pick_issue_toJson issue

end Reviewing
end CopilotFactory
