import CopilotFactory.Automation.ResultPackets
import CopilotFactory.Foundations.Zod

/-!
# Packet schemas

The schemas of the packets that workers produce, with the issues that they report.
Whether a text is a timestamp is a parameter.
-/

namespace CopilotFactory
namespace Automation
namespace Packets

open Foundations
open Foundations.Zod

/-!
## Building blocks
-/

def nonEmpty (message : String) : ZodType :=
  .string [{ accepts := fun text => text ≠ "", code := .tooSmall, message := message }]

def named (field : String) : String × ZodType :=
  (field, nonEmpty (field ++ " must not be empty"))

/-- A string that must not be empty, with the message of the library. -/
def atLeastOne : ZodType :=
  nonEmpty "String must contain at least 1 character(s)"

def anyString : ZodType :=
  .string []

def int : Check Rat where
  accepts := fun value => value.den = 1
  code := .float
  message := "Expected integer, received float"

def nonnegative : Check Rat where
  accepts := fun value => 0 ≤ value.num
  code := .tooSmall
  message := "Number must be greater than or equal to 0"

def positive : Check Rat where
  accepts := fun value => 0 < value.num
  code := .tooSmall
  message := "Number must be greater than 0"

def datetime (isDatetime : String -> Bool) : ZodType :=
  .string
    [{ accepts := isDatetime, code := .invalidString, message := "created_at must be ISO 8601" }]

def fileChangeTypeSchema : ZodType :=
  .enumeration ["added", "modified", "deleted", "renamed"]

def issueSeveritySchema : ZodType :=
  .enumeration ["critical", "high", "medium", "low"]

def validationCheckTypeSchema : ZodType :=
  .enumeration ["test", "lint", "build", "typecheck", "policy", "schema", "security"]

def validationCheckStatusSchema : ZodType :=
  .enumeration ["passed", "failed", "skipped"]

def packetStatusSchema : ZodType :=
  .enumeration ["success", "failed", "partial", "blocked"]

def reviewVerdictSchema : ZodType :=
  .enumeration ["approved", "changes_requested", "escalated"]

def leadReviewDecisionEnumSchema : ZodType :=
  .enumeration ["approved", "approved_with_follow_up", "changes_requested", "escalated"]

def confidenceSchema : ZodType :=
  .enumeration ["high", "medium", "low"]

def mergeAssistRecommendationSchema : ZodType :=
  .enumeration ["auto_resolve", "reject_to_dev", "escalate"]

def postMergeAnalysisRecommendationSchema : ZodType :=
  .enumeration ["revert", "hotfix_task", "escalate", "pre_existing"]

def mergeStrategySchema : ZodType :=
  .enumeration ["rebase-and-merge", "squash", "merge-commit"]

def validationRunScopeSchema : ZodType :=
  .enumeration ["pre-dev", "during-dev", "pre-review", "pre-merge", "post-merge"]

def fileChangeSummarySchema : ZodType :=
  .object [named "path", ("change_type", fileChangeTypeSchema), named "summary"]

def issueSchema : ZodType :=
  .object
    [("severity", issueSeveritySchema),
      named "code",
      named "title",
      named "description",
      ("file_path", .optional anyString),
      ("line", .optional (.number [int, positive])),
      ("blocking", .boolean)]

def validationCheckResultSchema : ZodType :=
  .object
    [("check_type", validationCheckTypeSchema),
      named "tool_name",
      named "command",
      ("status", validationCheckStatusSchema),
      ("duration_ms", .number [int, nonnegative]),
      named "summary",
      ("artifact_refs", .optional (.array atLeastOne))]

/-!
## Packets
-/

/-- A schema with what is checked across the fields of a value that was not given up. -/
structure PacketZod where
  type : ZodType
  superRefine : Json -> List ZodIssue := fun _ => []

def PacketZod.safeParse (schema : PacketZod) (data : Json) : List ZodIssue :=
  let outcome := parse schema.type [] (some data)
  if outcome.aborted then
    outcome.issues
  else
    outcome.issues ++ schema.superRefine data

def PacketZod.accepts (schema : PacketZod) (data : Json) : Prop :=
  Zod.accepts schema.type (some data) = true ∧ schema.superRefine data = []

def packetFields (isDatetime : String -> Bool) (packetType : String) :
    List (String × ZodType) :=
  [("packet_type", .literal packetType),
    ("schema_version", .literal "1.0"),
    ("created_at", datetime isDatetime),
    named "task_id",
    named "repository_id"]

def textOf (packet : Json) (key : String) : Option String :=
  (packet.field? key).bind Json.asString?

def countOf (packet : Json) (key : String) : Nat :=
  (Json.itemsOf (packet.field? key)).length

def customIssue (field message : String) : ZodIssue where
  path := [.key field]
  code := .custom
  message := message

def devResultPacketResultSchema : ZodType :=
  .object
    [named "branch_name",
      named "commit_sha",
      ("files_changed", .array fileChangeSummarySchema),
      ("tests_added_or_updated", .array atLeastOne),
      ("validations_run", .array validationCheckResultSchema),
      ("assumptions", .array anyString),
      ("risks", .array anyString),
      ("unresolved_issues", .array anyString)]

def devResultPacketSchema (isDatetime : String -> Bool) : PacketZod where
  type := .object (packetFields isDatetime "dev_result_packet" ++
    [named "run_id",
      ("status", packetStatusSchema),
      named "summary",
      ("result", devResultPacketResultSchema),
      ("artifact_refs", .array atLeastOne)])

def reviewPacketSchema (isDatetime : String -> Bool) : PacketZod where
  type := .object (packetFields isDatetime "review_packet" ++
    [named "review_cycle_id",
      named "reviewer_pool_id",
      named "reviewer_type",
      ("verdict", reviewVerdictSchema),
      named "summary",
      ("blocking_issues", .array issueSchema),
      ("non_blocking_issues", .array issueSchema),
      ("confidence", confidenceSchema),
      ("follow_up_task_refs", .array atLeastOne),
      ("risks", .array anyString),
      ("open_questions", .array anyString)])
  superRefine := fun data =>
    if textOf data "verdict" = some "approved" ∧ 0 < countOf data "blocking_issues" then
      [customIssue "blocking_issues"
        ("blocking_issues must be empty when verdict is \"approved\" — an approved review " ++
          "cannot have unresolved blocking issues")]
    else
      []

def leadReviewDecisionPacketSchema (isDatetime : String -> Bool) : PacketZod where
  type := .object (packetFields isDatetime "lead_review_decision_packet" ++
    [named "review_cycle_id",
      ("decision", leadReviewDecisionEnumSchema),
      named "summary",
      ("blocking_issues", .array issueSchema),
      ("non_blocking_suggestions", .array anyString),
      ("deduplication_notes", .array anyString),
      ("follow_up_task_refs", .array atLeastOne),
      ("risks", .array anyString),
      ("open_questions", .array anyString)])
  superRefine := fun data =>
    (if textOf data "decision" = some "changes_requested" ∧
        countOf data "blocking_issues" = 0 then
      [customIssue "blocking_issues"
        ("blocking_issues must not be empty when decision is \"changes_requested\" — the " ++
          "developer needs actionable feedback for rework")]
    else
      []) ++
    (if textOf data "decision" = some "approved_with_follow_up" ∧
        countOf data "follow_up_task_refs" = 0 then
      [customIssue "follow_up_task_refs"
        ("follow_up_task_refs must not be empty when decision is " ++
          "\"approved_with_follow_up\" — follow-up tasks are required for this decision type")]
    else
      [])

def mergePacketDetailsSchema : ZodType :=
  .object
    [named "source_branch",
      named "target_branch",
      named "approved_commit_sha",
      named "merged_commit_sha",
      ("merge_strategy", mergeStrategySchema),
      ("rebase_performed", .boolean),
      ("validation_results", .array validationCheckResultSchema)]

def mergePacketSchema (isDatetime : String -> Bool) : PacketZod where
  type := .object (packetFields isDatetime "merge_packet" ++
    [named "merge_queue_item_id",
      ("status", packetStatusSchema),
      named "summary",
      ("details", mergePacketDetailsSchema),
      ("artifact_refs", .array atLeastOne)])

def mergeAssistFileAffectedSchema : ZodType :=
  .object [named "path", named "conflict_type", named "resolution_summary"]

def mergeAssistPacketSchema (isDatetime : String -> Bool) : PacketZod where
  type := .object (packetFields isDatetime "merge_assist_packet" ++
    [named "merge_queue_item_id",
      ("recommendation", mergeAssistRecommendationSchema),
      ("confidence", confidenceSchema),
      named "summary",
      named "resolution_strategy",
      ("files_affected", .array mergeAssistFileAffectedSchema),
      named "rationale",
      ("risks", .array anyString),
      ("open_questions", .array anyString)])
  superRefine := fun data =>
    if textOf data "confidence" = some "low" ∧
        textOf data "recommendation" ≠ some "reject_to_dev" ∧
        textOf data "recommendation" ≠ some "escalate" then
      [customIssue "recommendation"
        ("recommendation must be \"reject_to_dev\" or \"escalate\" when confidence is " ++
          "\"low\" — low-confidence auto-resolve is not permitted")]
    else
      []

def validationResultPacketDetailsSchema : ZodType :=
  .object
    [("run_scope", validationRunScopeSchema),
      ("checks", .array validationCheckResultSchema)]

def validationResultPacketSchema (isDatetime : String -> Bool) : PacketZod where
  type := .object (packetFields isDatetime "validation_result_packet" ++
    [named "validation_run_id",
      ("status", packetStatusSchema),
      named "summary",
      ("details", validationResultPacketDetailsSchema)])

def suggestedRevertScopeSchema : ZodType :=
  .object
    [("commits", .array (nonEmpty "commit SHA must not be empty")),
      ("files", .array (nonEmpty "file path must not be empty"))]

def postMergeAnalysisPacketSchema (isDatetime : String -> Bool) : PacketZod where
  type := .object (packetFields isDatetime "post_merge_analysis_packet" ++
    [named "merge_queue_item_id",
      named "validation_run_id",
      ("recommendation", postMergeAnalysisRecommendationSchema),
      ("confidence", confidenceSchema),
      named "summary",
      named "failure_attribution",
      named "rationale",
      ("suggested_revert_scope", .nullable suggestedRevertScopeSchema),
      ("follow_up_task_description", .nullable atLeastOne),
      ("risks", .array anyString),
      ("open_questions", .array anyString)])
  superRefine := fun data =>
    if textOf data "confidence" = some "low" ∧
        textOf data "recommendation" ≠ some "escalate" then
      [customIssue "recommendation"
        ("recommendation must be \"escalate\" when confidence is \"low\" — " ++
          "low-confidence automated remediation is not permitted")]
    else
      []

def zodOf (isDatetime : String -> Bool) : PacketSchema -> PacketZod
  | .devResult => devResultPacketSchema isDatetime
  | .review => reviewPacketSchema isDatetime
  | .leadReviewDecision => leadReviewDecisionPacketSchema isDatetime
  | .merge => mergePacketSchema isDatetime
  | .mergeAssist => mergeAssistPacketSchema isDatetime
  | .validationResult => validationResultPacketSchema isDatetime
  | .postMergeAnalysis => postMergeAnalysisPacketSchema isDatetime

/-!
## What is accepted
-/

theorem safeParse_eq_nil_iff {schema : PacketZod} {data : Json} :
    schema.safeParse data = [] <-> schema.accepts data := by
  have hissues := issues_eq_nil_iff schema.type [] (some data)
  unfold PacketZod.safeParse PacketZod.accepts
  simp only
  split
  · rename_i haborted
    have hreported := (parse schema.type [] (some data)).reported haborted
    exact iff_of_false hreported (fun h => hreported (hissues.mpr h.1))
  · rw [List.append_eq_nil_iff, hissues]

/-- What is required and not there is reported at a place of the packet that is missing. -/
theorem missingAt_of_safeParse {schema : PacketZod} {data : Json}
    (hrefine : forall issue, issue ∈ schema.superRefine data -> issue.code = .custom)
    {issue : ZodIssue} (hissue : issue ∈ schema.safeParse data) {expected : String}
    (hcode : issue.code = .invalidType expected "undefined") :
    MissingAt (some data) issue.path := by
  have hparse : issue ∈ (parse schema.type [] (some data)).issues := by
    unfold PacketZod.safeParse at hissue
    simp only at hissue
    split at hissue
    · exact hissue
    · rcases List.mem_append.mp hissue with hparse | hcustom
      · exact hparse
      · rw [hrefine issue hcustom] at hcode
        cases hcode
  rcases reportsMissing_parse schema.type [] (some data) issue hparse expected hcode
    with ⟨rest, hpath, hmissing⟩
  rw [hpath]
  exact hmissing

theorem custom_of_superRefine (isDatetime : String -> Bool) (packetSchema : PacketSchema)
    (data : Json) {issue : ZodIssue}
    (h : issue ∈ (zodOf isDatetime packetSchema).superRefine data) : issue.code = .custom := by
  have hone : forall {condition : Prop} [Decidable condition] {field message : String},
      issue ∈ (if condition then [customIssue field message] else []) ->
        issue.code = .custom := by
    intro condition _ field message hmem
    split at hmem
    · rw [List.mem_singleton.mp hmem]
      rfl
    · cases hmem
  cases packetSchema with
  | devResult | merge | validationResult =>
      cases h
  | review | mergeAssist | postMergeAnalysis =>
      exact hone h
  | leadReviewDecision =>
      rcases List.mem_append.mp h with h | h
      · exact hone h
      · exact hone h

end Packets
end Automation
end CopilotFactory
