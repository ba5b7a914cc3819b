import CopilotFactory.Foundations.OrderedSets
import CopilotFactory.Reviewing.ReviewerDispatchService
import Mathlib.Data.List.Perm.Basic

/-!
# Review router

Which reviewers a review needs follows from the changed files, the tags, the domain and
the risk level of the task.  The rules are looked at in three tiers, and a rule may stand
in several of them.  A reviewer that is required after it has been optional is taken off
the optional ones, and its optional rationale entry stays.
-/

namespace CopilotFactory
namespace Reviewing
namespace Routing

open Foundations

inductive RiskLevel where
  | high
  | medium
  | low
deriving DecidableEq

def RiskLevel.label : RiskLevel -> String
  | .high => "high"
  | .medium => "medium"
  | .low => "low"

structure ReviewRoutingCondition where
  changedPathMatches : Option (List String) := none
  taskTagIn : Option (List String) := none
  taskDomainIn : Option (List String) := none
  riskLevelIn : Option (List String) := none
deriving DecidableEq

structure ReviewRoutingRule where
  name : String
  when : ReviewRoutingCondition
  requireReviewers : Option (List String) := none
  optionalReviewers : Option (List String) := none
deriving DecidableEq

structure ReviewRoutingConfig where
  rules : List ReviewRoutingRule
deriving DecidableEq

structure ReviewRoutingInput where
  changedFilePaths : List String
  taskTags : List String
  taskDomain : Option String := none
  riskLevel : RiskLevel
  repositoryRequiredReviewers : List String
  routingConfig : ReviewRoutingConfig
deriving DecidableEq

inductive Requirement where
  | required
  | optional
deriving DecidableEq

structure RoutingRationaleEntry where
  reviewerType : String
  requirement : Requirement
  reason : String
deriving DecidableEq

structure RoutingDecision extends Reviewing.RoutingDecision where
  routingRationale : List RoutingRationaleEntry
deriving DecidableEq

/-!
## Conditions
-/

def generalReviewerType : String :=
  "general"

def hasField (field : Option (List String)) : Bool :=
  field ≠ none ∧ field.getD [] ≠ []

def rulesOut (field : Option (List String)) (anyMatches : List String -> Bool) : Bool :=
  hasField field && !anyMatches (field.getD [])

section

-- Whether a path matches a glob pattern: the pattern comes first.
variable (picomatch : String -> String -> Bool)

/-- A condition without any field never matches. -/
def evaluateCondition (condition : ReviewRoutingCondition) (input : ReviewRoutingInput) :
    Bool :=
  if rulesOut condition.changedPathMatches (fun patterns =>
      input.changedFilePaths.any (fun filePath =>
        patterns.any (fun pattern => picomatch pattern filePath))) then
    false
  else if rulesOut condition.taskTagIn (fun tags =>
      input.taskTags.any (fun tag => tag ∈ tags)) then
    false
  else if rulesOut condition.taskDomainIn (fun domains =>
      input.taskDomain.any (fun domain => domain ∈ domains)) then
    false
  else if rulesOut condition.riskLevelIn (fun levels => input.riskLevel.label ∈ levels) then
    false
  else
    hasField condition.changedPathMatches || hasField condition.taskTagIn ||
      hasField condition.taskDomainIn || hasField condition.riskLevelIn

/-!
## Categories
-/

def isPathBased (rule : ReviewRoutingRule) : Bool :=
  hasField rule.when.changedPathMatches

def isTagDomain (rule : ReviewRoutingRule) : Bool :=
  hasField rule.when.taskTagIn || hasField rule.when.taskDomainIn

def isRiskBased (rule : ReviewRoutingRule) : Bool :=
  hasField rule.when.riskLevelIn

structure RuleCategories where
  pathBased : List ReviewRoutingRule
  tagDomain : List ReviewRoutingRule
  riskBased : List ReviewRoutingRule

def categorizeRules (rules : List ReviewRoutingRule) : RuleCategories where
  pathBased := rules.filter isPathBased
  tagDomain := rules.filter isTagDomain
  riskBased := rules.filter isRiskBased

/-!
## Routing
-/

structure RoutingState where
  requiredSet : OrderedSet String
  optionalSet : OrderedSet String
  rationale : List RoutingRationaleEntry

namespace RoutingState

def requireByRepository (s : RoutingState) (reviewerType : String) : RoutingState :=
  if reviewerType ∈ s.requiredSet then
    s
  else
    { s with
      requiredSet := s.requiredSet.add reviewerType
      rationale := s.rationale ++
        [{ reviewerType := reviewerType
           requirement := .required
           reason := "Explicitly required by repository configuration" }] }

def requireByRule (reason : String) (s : RoutingState) (reviewerType : String) :
    RoutingState :=
  if reviewerType ∈ s.requiredSet then
    s
  else
    { requiredSet := s.requiredSet.add reviewerType
      optionalSet := s.optionalSet.delete reviewerType
      rationale := s.rationale ++
        [{ reviewerType := reviewerType, requirement := .required, reason := reason }] }

def suggestByRule (reason : String) (s : RoutingState) (reviewerType : String) :
    RoutingState :=
  if reviewerType ∉ s.requiredSet ∧ reviewerType ∉ s.optionalSet then
    { s with
      optionalSet := s.optionalSet.add reviewerType
      rationale := s.rationale ++
        [{ reviewerType := reviewerType, requirement := .optional, reason := reason }] }
  else
    s

end RoutingState

def ruleReason (rule : ReviewRoutingRule) (tierName : String) : String :=
  s!"Rule \"{rule.name}\" matched ({tierName})"

def evaluateRule (input : ReviewRoutingInput) (tierName : String) (s : RoutingState)
    (rule : ReviewRoutingRule) : RoutingState :=
  if evaluateCondition picomatch rule.when input then
    let s₁ := (rule.requireReviewers.getD []).foldl
      (RoutingState.requireByRule (ruleReason rule tierName)) s
    (rule.optionalReviewers.getD []).foldl
      (RoutingState.suggestByRule (ruleReason rule tierName)) s₁
  else
    s

def evaluateRuleTier (input : ReviewRoutingInput) (tierRules : List ReviewRoutingRule)
    (tierName : String) (s : RoutingState) : RoutingState :=
  tierRules.foldl (evaluateRule picomatch input tierName) s

/-- The general reviewer is always required. -/
def initialRouting : RoutingState where
  requiredSet := OrderedSet.empty.add generalReviewerType
  optionalSet := OrderedSet.empty
  rationale :=
    [{ reviewerType := generalReviewerType
       requirement := .required
       reason := "General reviewer is always required per V1 review policy (§9.9)" }]

def routeReview (input : ReviewRoutingInput) : RoutingDecision :=
  let categories := categorizeRules input.routingConfig.rules
  let s₁ := input.repositoryRequiredReviewers.foldl RoutingState.requireByRepository
    initialRouting
  let s₂ := evaluateRuleTier picomatch input categories.pathBased "path-based" s₁
  let s₃ := evaluateRuleTier picomatch input categories.tagDomain "tag/domain" s₂
  let s₄ := evaluateRuleTier picomatch input categories.riskBased "risk-based" s₃
  { requiredReviewers := s₄.requiredSet.items
    optionalReviewers := s₄.optionalSet.items
    routingRationale := s₄.rationale }

end

end Routing
end Reviewing
end CopilotFactory
