import CopilotFactory.Reviewing.ReviewRouterService

/-!
# Routed reviewers

The sets of required and of optional reviewers are those that the matching rules ask for,
in whatever order and in however many tiers the rules are looked at.
-/

namespace CopilotFactory
namespace Reviewing
namespace Routing

open Foundations

variable {picomatch : String -> String -> Bool} {input : ReviewRoutingInput}

/-!
## Matching rules
-/

variable {reviewersOf : ReviewRoutingRule -> Option (List String)} {r : String}
  {rules : List ReviewRoutingRule}

/-- Some field is there, and each one that is there fits the input. -/
structure ConditionHolds (picomatch : String -> String -> Bool)
    (condition : ReviewRoutingCondition) (input : ReviewRoutingInput) : Prop where
  someField : hasField condition.changedPathMatches = true ∨
    hasField condition.taskTagIn = true ∨ hasField condition.taskDomainIn = true ∨
    hasField condition.riskLevelIn = true
  path : forall patterns, condition.changedPathMatches = some patterns -> patterns ≠ [] ->
    exists filePath pattern, filePath ∈ input.changedFilePaths ∧ pattern ∈ patterns ∧
      picomatch pattern filePath = true
  tag : forall tags, condition.taskTagIn = some tags -> tags ≠ [] ->
    exists tag, tag ∈ input.taskTags ∧ tag ∈ tags
  domain : forall domains, condition.taskDomainIn = some domains -> domains ≠ [] ->
    exists domain, input.taskDomain = some domain ∧ domain ∈ domains
  risk : forall levels, condition.riskLevelIn = some levels -> levels ≠ [] ->
    input.riskLevel.label ∈ levels

theorem rulesOut_eq_false {field : Option (List String)} {anyMatches : List String -> Bool} :
    rulesOut field anyMatches = false <->
      forall values, field = some values -> values ≠ [] -> anyMatches values = true := by
  cases field with
  | none =>
      simp [rulesOut, hasField]
  | some values =>
      by_cases hvalues : values = []
      · simp [rulesOut, hasField, hvalues]
      · simp [rulesOut, hasField, hvalues]

theorem evaluateCondition_eq_true {condition : ReviewRoutingCondition} :
    evaluateCondition picomatch condition input = true <->
      ConditionHolds picomatch condition input := by
  unfold evaluateCondition
  constructor
  · intro h
    split at h
    · cases h
    · rename_i hpath
      split at h
      · cases h
      · rename_i htag
        split at h
        · cases h
        · rename_i hdomain
          split at h
          · cases h
          · rename_i hrisk
            rw [Bool.not_eq_true, rulesOut_eq_false] at hpath htag hdomain hrisk
            constructor
            · simpa [or_assoc] using h
            · intro patterns hpatterns hne
              rcases List.any_eq_true.mp (hpath patterns hpatterns hne) with
                ⟨filePath, hfilePath, hany⟩
              rcases List.any_eq_true.mp hany with ⟨pattern, hpattern, hmatches⟩
              exact ⟨filePath, pattern, hfilePath, hpattern, hmatches⟩
            · intro tags htags hne
              simpa using htag tags htags hne
            · intro domains hdomains hne
              simpa [Option.any_eq_true] using hdomain domains hdomains hne
            · intro levels hlevels hne
              simpa using hrisk levels hlevels hne
  · intro h
    have hpath := rulesOut_eq_false.mpr (fun patterns hpatterns hne => by
      rcases h.path patterns hpatterns hne with ⟨filePath, pattern, hfile, hpattern, hmatch⟩
      exact List.any_eq_true.mpr
        ⟨filePath, hfile, List.any_eq_true.mpr ⟨pattern, hpattern, hmatch⟩⟩)
    have htag := rulesOut_eq_false.mpr (fun tags htags hne => by
      rcases h.tag tags htags hne with ⟨tag, htag, hmem⟩
      exact List.any_eq_true.mpr ⟨tag, htag, decide_eq_true hmem⟩)
    have hdomain := rulesOut_eq_false.mpr (fun domains hdomains hne => by
      rcases h.domain domains hdomains hne with ⟨domain, hdomain, hmem⟩
      exact Option.any_eq_true _ _ |>.mpr ⟨domain, hdomain, decide_eq_true hmem⟩)
    have hrisk := rulesOut_eq_false.mpr (fun levels hlevels hne =>
      decide_eq_true (h.risk levels hlevels hne))
    rw [hpath, htag, hdomain, hrisk]
    simpa [or_assoc] using h.someField

theorem ConditionHolds.tier {rule : ReviewRoutingRule}
    (h : ConditionHolds picomatch rule.when input) :
    isPathBased rule = true ∨ isTagDomain rule = true ∨ isRiskBased rule = true := by
  rcases h.someField with hpath | htag | hdomain | hrisk
  · exact Or.inl hpath
  · exact Or.inr (Or.inl (by simp [isTagDomain, htag]))
  · exact Or.inr (Or.inl (by simp [isTagDomain, hdomain]))
  · exact Or.inr (Or.inr hrisk)

/-!
## What has been asked for
-/

def entryCount (requirement : Requirement) (reviewerType : String)
    (rationale : List RoutingRationaleEntry) : Nat :=
  rationale.countP (fun entry =>
    entry.reviewerType = reviewerType ∧ entry.requirement = requirement)

/-- The state of a routing in which certain reviewers have been required, and certain ones
suggested. -/
structure Asked (required suggested : String -> Prop) (s : RoutingState) : Prop where
  requiredSet : forall r, r ∈ s.requiredSet <-> required r
  optionalSet : forall r, r ∈ s.optionalSet <-> suggested r ∧ ¬ required r
  requiredOnce : forall r, required r -> entryCount .required r s.rationale = 1
  requiredNever : forall r, ¬ required r -> entryCount .required r s.rationale = 0
  optionalOnce : forall r, suggested r -> ¬ required r ->
    entryCount .optional r s.rationale = 1
  optionalNever : forall r, ¬ suggested r -> ¬ required r ->
    entryCount .optional r s.rationale = 0

theorem Asked.congr {required suggested required' suggested' : String -> Prop}
    {s : RoutingState} (h : Asked required suggested s)
    (hrequired : forall r, required r <-> required' r)
    (hsuggested : forall r, suggested r <-> suggested' r) : Asked required' suggested' s := by
  have hreq : required = required' := funext fun r => propext (hrequired r)
  have hsug : suggested = suggested' := funext fun r => propext (hsuggested r)
  rw [← hreq, ← hsug]
  exact h

theorem entryCount_append (requirement requirement' : Requirement) (r x reason : String)
    (rationale : List RoutingRationaleEntry) :
    entryCount requirement r (rationale ++
        [{ reviewerType := x, requirement := requirement', reason := reason }]) =
      entryCount requirement r rationale +
        if x = r ∧ requirement' = requirement then 1 else 0 := by
  simp [entryCount, List.countP_append, List.countP_cons]

variable {required suggested : String -> Prop} {s : RoutingState}

theorem asked_initialRouting : Asked (fun r => r = generalReviewerType) (fun _ => False)
    initialRouting where
  requiredSet := by
    intro r
    simp [initialRouting]
  optionalSet := by
    intro r
    simp [initialRouting]
  requiredOnce := by
    intro r hr
    rw [hr]
    rfl
  requiredNever := by
    intro r hr
    simp [initialRouting, entryCount, Ne.symm hr]
  optionalOnce := nofun
  optionalNever := by
    intro r _ _
    simp [initialRouting, entryCount]

theorem Asked.requireByRule (h : Asked required suggested s) (reason x : String) :
    Asked (fun r => required r ∨ r = x) suggested (s.requireByRule reason x) := by
  unfold RoutingState.requireByRule
  split
  · rename_i hx
    apply h.congr
    · intro r
      constructor
      · exact Or.inl
      · rintro (hr | rfl)
        · exact hr
        · exact (h.requiredSet r).mp hx
    · intro r
      rfl
  · rename_i hx
    have hnew : ¬ required x := by
      rwa [← h.requiredSet x]
    constructor
    · intro r
      simp [h.requiredSet r]
    · intro r
      simp [h.optionalSet r, and_assoc]
    · intro r hr
      rw [entryCount_append]
      rcases hr with hr | rfl
      · have hne : x ≠ r := by
          rintro rfl
          exact hnew hr
        simp [h.requiredOnce r hr, hne]
      · simp [h.requiredNever r hnew]
    · intro r hr
      rw [entryCount_append, h.requiredNever r (fun hreq => hr (Or.inl hreq))]
      have hne : x ≠ r := fun heq => hr (Or.inr heq.symm)
      simp [hne]
    · intro r hsug hr
      rw [entryCount_append, h.optionalOnce r hsug (fun hreq => hr (Or.inl hreq))]
      simp
    · intro r hsug hr
      rw [entryCount_append, h.optionalNever r hsug (fun hreq => hr (Or.inl hreq))]
      simp

theorem requireByRepository_eq (hempty : s.optionalSet = OrderedSet.empty) (x : String) :
    s.requireByRepository x =
      s.requireByRule "Explicitly required by repository configuration" x := by
  unfold RoutingState.requireByRepository RoutingState.requireByRule
  rw [hempty]
  rfl

theorem Asked.suggestByRule (h : Asked required suggested s) (reason x : String) :
    Asked required (fun r => suggested r ∨ r = x) (s.suggestByRule reason x) := by
  unfold RoutingState.suggestByRule
  split
  · rename_i hx
    have hrequired : ¬ required x := by
      rw [← h.requiredSet x]
      exact hx.1
    have hnew : ¬ suggested x := by
      intro hsug
      exact hx.2 ((h.optionalSet x).mpr ⟨hsug, hrequired⟩)
    constructor
    · exact h.requiredSet
    · intro r
      simp only [OrderedSet.mem_add, h.optionalSet r]
      constructor
      · rintro (⟨hsug, hreq⟩ | rfl)
        · exact ⟨Or.inl hsug, hreq⟩
        · exact ⟨Or.inr rfl, hrequired⟩
      · rintro ⟨hsug | rfl, hreq⟩
        · exact Or.inl ⟨hsug, hreq⟩
        · exact Or.inr rfl
    · intro r hr
      rw [entryCount_append, h.requiredOnce r hr]
      simp
    · intro r hr
      rw [entryCount_append, h.requiredNever r hr]
      simp
    · intro r hsug hr
      rw [entryCount_append]
      rcases hsug with hsug | rfl
      · have hne : x ≠ r := by
          rintro rfl
          exact hnew hsug
        simp [h.optionalOnce r hsug hr, hne]
      · simp [h.optionalNever r hnew hr]
    · intro r hsug hr
      rw [entryCount_append, h.optionalNever r (fun hold => hsug (Or.inl hold)) hr]
      have hne : x ≠ r := fun heq => hsug (Or.inr heq.symm)
      simp [hne]
  · rename_i hx
    have hold : required x ∨ suggested x := by
      by_cases hreq : required x
      · exact Or.inl hreq
      · right
        by_contra hsug
        apply hx
        rw [h.requiredSet x, h.optionalSet x]
        exact ⟨hreq, fun hboth => hsug hboth.1⟩
    constructor
    · exact h.requiredSet
    · intro r
      rw [h.optionalSet r]
      constructor
      · rintro ⟨hsug, hreq⟩
        exact ⟨Or.inl hsug, hreq⟩
      · rintro ⟨hsug | rfl, hreq⟩
        · exact ⟨hsug, hreq⟩
        · exact ⟨hold.resolve_left hreq, hreq⟩
    · exact h.requiredOnce
    · exact h.requiredNever
    · intro r hsug hr
      rcases hsug with hsug | rfl
      · exact h.optionalOnce r hsug hr
      · exact h.optionalOnce r (hold.resolve_left hr) hr
    · intro r hsug hr
      exact h.optionalNever r (fun hold => hsug (Or.inl hold)) hr

/-!
## The loops
-/

theorem Asked.foldl_requireByRule (h : Asked required suggested s) (reason : String)
    (reviewers : List String) :
    Asked (fun r => required r ∨ r ∈ reviewers) suggested
      (reviewers.foldl (RoutingState.requireByRule reason) s) := by
  induction reviewers generalizing required s with
  | nil =>
      apply h.congr <;> intro r <;> simp
  | cons x rest ih =>
      apply (ih (h.requireByRule reason x)).congr
      · intro r
        rw [List.mem_cons, or_assoc]
      · intro r
        rfl

theorem Asked.foldl_suggestByRule (h : Asked required suggested s) (reason : String)
    (reviewers : List String) :
    Asked required (fun r => suggested r ∨ r ∈ reviewers)
      (reviewers.foldl (RoutingState.suggestByRule reason) s) := by
  induction reviewers generalizing suggested s with
  | nil =>
      apply h.congr <;> intro r <;> simp
  | cons x rest ih =>
      apply (ih (h.suggestByRule reason x)).congr
      · intro r
        rfl
      · intro r
        rw [List.mem_cons, or_assoc]

theorem foldl_requireByRepository (reviewers : List String)
    (hempty : s.optionalSet = OrderedSet.empty) :
    reviewers.foldl RoutingState.requireByRepository s =
      reviewers.foldl
        (RoutingState.requireByRule "Explicitly required by repository configuration") s := by
  induction reviewers generalizing s with
  | nil =>
      rfl
  | cons x rest ih =>
      have hnext : (s.requireByRepository x).optionalSet = OrderedSet.empty := by
        unfold RoutingState.requireByRepository
        split <;> exact hempty
      rw [List.foldl_cons, List.foldl_cons, ih hnext, requireByRepository_eq hempty]

def AsksAmong (picomatch : String -> String -> Bool) (input : ReviewRoutingInput)
    (reviewersOf : ReviewRoutingRule -> Option (List String))
    (rules : List ReviewRoutingRule) (r : String) : Prop :=
  exists rule, rule ∈ rules ∧ ConditionHolds picomatch rule.when input ∧
    r ∈ (reviewersOf rule).getD []

theorem asksAmong_cons {rule : ReviewRoutingRule} {rest : List ReviewRoutingRule} :
    AsksAmong picomatch input reviewersOf (rule :: rest) r <->
      (ConditionHolds picomatch rule.when input ∧ r ∈ (reviewersOf rule).getD []) ∨
        AsksAmong picomatch input reviewersOf rest r := by
  simp only [AsksAmong, List.mem_cons, or_and_right, exists_or, exists_eq_left]

theorem Asked.evaluateRule (picomatch : String -> String -> Bool)
    (input : ReviewRoutingInput) (h : Asked required suggested s) (tierName : String)
    (rule : ReviewRoutingRule) :
    Asked
      (fun r => required r ∨
        (ConditionHolds picomatch rule.when input ∧ r ∈ rule.requireReviewers.getD []))
      (fun r => suggested r ∨
        (ConditionHolds picomatch rule.when input ∧ r ∈ rule.optionalReviewers.getD []))
      (evaluateRule picomatch input tierName s rule) := by
  unfold Routing.evaluateRule
  split
  · rename_i hmatch
    rw [evaluateCondition_eq_true] at hmatch
    apply ((h.foldl_requireByRule _ _).foldl_suggestByRule _ _).congr
    · intro r
      simp [hmatch]
    · intro r
      simp [hmatch]
  · rename_i hmatch
    rw [evaluateCondition_eq_true] at hmatch
    apply h.congr
    · intro r
      simp [hmatch]
    · intro r
      simp [hmatch]

theorem Asked.evaluateRuleTier (picomatch : String -> String -> Bool)
    (input : ReviewRoutingInput) (h : Asked required suggested s) (tierName : String)
    (rules : List ReviewRoutingRule) :
    Asked
      (fun r => required r ∨
        AsksAmong picomatch input ReviewRoutingRule.requireReviewers rules r)
      (fun r => suggested r ∨
        AsksAmong picomatch input ReviewRoutingRule.optionalReviewers rules r)
      (evaluateRuleTier picomatch input rules tierName s) := by
  unfold Routing.evaluateRuleTier
  induction rules generalizing required suggested s with
  | nil =>
      apply h.congr <;> intro r <;> simp [AsksAmong]
  | cons rule rest ih =>
      apply (ih (h.evaluateRule picomatch input tierName rule)).congr
      · intro r
        rw [asksAmong_cons, or_assoc]
      · intro r
        rw [asksAmong_cons, or_assoc]

/-- The tiers together ask for what the rules ask for. -/
theorem asksAmong_tiers :
    (AsksAmong picomatch input reviewersOf (categorizeRules rules).pathBased r ∨
      AsksAmong picomatch input reviewersOf (categorizeRules rules).tagDomain r ∨
      AsksAmong picomatch input reviewersOf (categorizeRules rules).riskBased r) <->
      AsksAmong picomatch input reviewersOf rules r := by
  constructor
  · rintro (⟨rule, hrule, h⟩ | ⟨rule, hrule, h⟩ | ⟨rule, hrule, h⟩)
    · exact ⟨rule, List.mem_of_mem_filter hrule, h⟩
    · exact ⟨rule, List.mem_of_mem_filter hrule, h⟩
    · exact ⟨rule, List.mem_of_mem_filter hrule, h⟩
  · rintro ⟨rule, hrule, hholds, hr⟩
    rcases hholds.tier with htier | htier | htier
    · exact Or.inl ⟨rule, List.mem_filter.mpr ⟨hrule, htier⟩, hholds, hr⟩
    · exact Or.inr (Or.inl ⟨rule, List.mem_filter.mpr ⟨hrule, htier⟩, hholds, hr⟩)
    · exact Or.inr (Or.inr ⟨rule, List.mem_filter.mpr ⟨hrule, htier⟩, hholds, hr⟩)

/-!
## The decision
-/

/-- The reviewer is the general one, or the repository or a matching rule requires it. -/
def IsRequired (picomatch : String -> String -> Bool) (input : ReviewRoutingInput)
    (r : String) : Prop :=
  r = generalReviewerType ∨ r ∈ input.repositoryRequiredReviewers ∨
    AsksAmong picomatch input ReviewRoutingRule.requireReviewers input.routingConfig.rules r

def IsSuggested (picomatch : String -> String -> Bool) (input : ReviewRoutingInput)
    (r : String) : Prop :=
  AsksAmong picomatch input ReviewRoutingRule.optionalReviewers input.routingConfig.rules r

theorem isRequired_by_tiers :
    (((r = generalReviewerType ∨ r ∈ input.repositoryRequiredReviewers) ∨
        AsksAmong picomatch input ReviewRoutingRule.requireReviewers
          (categorizeRules input.routingConfig.rules).pathBased r) ∨
        AsksAmong picomatch input ReviewRoutingRule.requireReviewers
          (categorizeRules input.routingConfig.rules).tagDomain r) ∨
        AsksAmong picomatch input ReviewRoutingRule.requireReviewers
          (categorizeRules input.routingConfig.rules).riskBased r <->
      IsRequired picomatch input r := by
  rw [or_assoc, or_assoc, or_assoc, asksAmong_tiers]
  rfl

theorem isSuggested_by_tiers :
    ((False ∨
        AsksAmong picomatch input ReviewRoutingRule.optionalReviewers
          (categorizeRules input.routingConfig.rules).pathBased r) ∨
        AsksAmong picomatch input ReviewRoutingRule.optionalReviewers
          (categorizeRules input.routingConfig.rules).tagDomain r) ∨
        AsksAmong picomatch input ReviewRoutingRule.optionalReviewers
          (categorizeRules input.routingConfig.rules).riskBased r <->
      IsSuggested picomatch input r := by
  rw [false_or, or_assoc, asksAmong_tiers]
  rfl

structure RoutedAsAsked (picomatch : String -> String -> Bool) (input : ReviewRoutingInput)
    (decision : RoutingDecision) : Prop where
  required : forall r, r ∈ decision.requiredReviewers <-> IsRequired picomatch input r
  optional : forall r, r ∈ decision.optionalReviewers <->
    IsSuggested picomatch input r ∧ ¬ IsRequired picomatch input r
  requiredNodup : decision.requiredReviewers.Nodup
  optionalNodup : decision.optionalReviewers.Nodup
  disjoint : decision.requiredReviewers.Disjoint decision.optionalReviewers
  requiredEntry : forall r, r ∈ decision.requiredReviewers ->
    entryCount .required r decision.routingRationale = 1
  optionalEntry : forall r, r ∈ decision.optionalReviewers ->
    entryCount .optional r decision.routingRationale = 1

/-- Two inputs with the same reviewers of the repository, and whose matching rules ask for
the same, whatever their order, their number and their conditions. -/
structure AskAlike (picomatch : String -> String -> Bool)
    (input other : ReviewRoutingInput) : Prop where
  repository : forall r, r ∈ other.repositoryRequiredReviewers <->
    r ∈ input.repositoryRequiredReviewers
  matching : forall requireReviewers optionalReviewers,
    (exists rule, rule ∈ other.routingConfig.rules ∧
      ConditionHolds picomatch rule.when other ∧
      rule.requireReviewers = requireReviewers ∧
      rule.optionalReviewers = optionalReviewers) <->
    (exists rule, rule ∈ input.routingConfig.rules ∧
      ConditionHolds picomatch rule.when input ∧
      rule.requireReviewers = requireReviewers ∧
      rule.optionalReviewers = optionalReviewers)

structure SameReviewers (decision other : RoutingDecision) : Prop where
  required : forall r, r ∈ other.requiredReviewers <-> r ∈ decision.requiredReviewers
  optional : forall r, r ∈ other.optionalReviewers <-> r ∈ decision.optionalReviewers

theorem routedAsAsked (picomatch : String -> String -> Bool) (input : ReviewRoutingInput) :
    RoutedAsAsked picomatch input (routeReview picomatch input) := by
  have hrepository := (asked_initialRouting.foldl_requireByRule
    "Explicitly required by repository configuration" input.repositoryRequiredReviewers)
  rw [← foldl_requireByRepository _ rfl] at hrepository
  have hpath := hrepository.evaluateRuleTier picomatch input "path-based"
    (categorizeRules input.routingConfig.rules).pathBased
  have htag := hpath.evaluateRuleTier picomatch input "tag/domain"
    (categorizeRules input.routingConfig.rules).tagDomain
  have hrisk := htag.evaluateRuleTier picomatch input "risk-based"
    (categorizeRules input.routingConfig.rules).riskBased
  have h := hrisk.congr (fun _ => isRequired_by_tiers) (fun _ => isSuggested_by_tiers)
  constructor
  · exact h.requiredSet
  · exact h.optionalSet
  · exact OrderedSet.nodup _
  · exact OrderedSet.nodup _
  · intro r hrequired hoptional
    exact ((h.optionalSet r).mp hoptional).2 ((h.requiredSet r).mp hrequired)
  · intro r hr
    exact h.requiredOnce r ((h.requiredSet r).mp hr)
  · intro r hr
    rcases (h.optionalSet r).mp hr with ⟨hsuggested, hrequired⟩
    exact h.optionalOnce r hsuggested hrequired

theorem AskAlike.asksAmong {other : ReviewRoutingInput} (h : AskAlike picomatch input other)
    (hreviewers : reviewersOf = ReviewRoutingRule.requireReviewers ∨
      reviewersOf = ReviewRoutingRule.optionalReviewers)
    (r : String) :
    AsksAmong picomatch other reviewersOf other.routingConfig.rules r <->
      AsksAmong picomatch input reviewersOf input.routingConfig.rules r := by
  constructor
  · rintro ⟨rule, hrule, hholds, hr⟩
    rcases (h.matching rule.requireReviewers rule.optionalReviewers).mp
      ⟨rule, hrule, hholds, rfl, rfl⟩ with ⟨rule', hrule', hholds', hrequire, hoptional⟩
    refine ⟨rule', hrule', hholds', ?_⟩
    rcases hreviewers with rfl | rfl
    · rwa [hrequire]
    · rwa [hoptional]
  · rintro ⟨rule, hrule, hholds, hr⟩
    rcases (h.matching rule.requireReviewers rule.optionalReviewers).mpr
      ⟨rule, hrule, hholds, rfl, rfl⟩ with ⟨rule', hrule', hholds', hrequire, hoptional⟩
    refine ⟨rule', hrule', hholds', ?_⟩
    rcases hreviewers with rfl | rfl
    · rwa [hrequire]
    · rwa [hoptional]

theorem AskAlike.sameReviewers {other : ReviewRoutingInput}
    (h : AskAlike picomatch input other) :
    SameReviewers (routeReview picomatch input) (routeReview picomatch other) := by
  have hrequired : forall r,
      IsRequired picomatch other r <-> IsRequired picomatch input r := by
    intro r
    rw [IsRequired, IsRequired, h.repository r, h.asksAmong (Or.inl rfl) r]
  have hsuggested : forall r,
      IsSuggested picomatch other r <-> IsSuggested picomatch input r :=
    h.asksAmong (Or.inr rfl)
  constructor
  · intro r
    rw [(routedAsAsked picomatch other).required, (routedAsAsked picomatch input).required,
      hrequired]
  · intro r
    rw [(routedAsAsked picomatch other).optional, (routedAsAsked picomatch input).optional,
      hrequired, hsuggested]

theorem conditionHolds_withRules {condition : ReviewRoutingCondition} :
    ConditionHolds picomatch condition { input with routingConfig := { rules := rules } } <->
      ConditionHolds picomatch condition input := by
  constructor
  · intro h
    exact ⟨h.someField, h.path, h.tag, h.domain, h.risk⟩
  · intro h
    exact ⟨h.someField, h.path, h.tag, h.domain, h.risk⟩

theorem askAlike_of_perm (h : rules.Perm input.routingConfig.rules) :
    AskAlike picomatch input { input with routingConfig := { rules := rules } } where
  repository := fun _ => Iff.rfl
  matching := by
    intro requireReviewers optionalReviewers
    constructor
    · rintro ⟨rule, hrule, hholds, hasks⟩
      exact ⟨rule, h.mem_iff.mp hrule,
        conditionHolds_withRules.mp hholds, hasks⟩
    · rintro ⟨rule, hrule, hholds, hasks⟩
      exact ⟨rule, h.mem_iff.mpr hrule, conditionHolds_withRules.mpr hholds, hasks⟩

/-- The reviewers are those that are asked for, each once and with one rationale entry for
what it is.  Neither the order of the rules nor their tiers make a difference to the
sets. -/
theorem reviewers_routed_as_asked (picomatch : String -> String -> Bool)
    (input : ReviewRoutingInput) :
    RoutedAsAsked picomatch input (routeReview picomatch input) ∧
      (forall rules, rules.Perm input.routingConfig.rules ->
        SameReviewers (routeReview picomatch input)
          (routeReview picomatch { input with routingConfig := { rules := rules } })) ∧
      (forall other, AskAlike picomatch input other ->
        SameReviewers (routeReview picomatch input) (routeReview picomatch other)) := by
  constructor
  · exact routedAsAsked picomatch input
  · constructor
    · intro rules hrules
      exact (askAlike_of_perm hrules).sameReviewers
    · intro other hother
      exact hother.sameReviewers

end Routing
end Reviewing
end CopilotFactory
