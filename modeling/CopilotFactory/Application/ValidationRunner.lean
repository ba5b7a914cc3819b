import CopilotFactory.Foundations.Collecting
import CopilotFactory.Foundations.Records
import CopilotFactory.Infrastructure.Rows
import CopilotFactory.Policies.ValidationPolicy

/-!
# Validation runs

A run of a validation profile executes the checks that have a command, one after another,
and reports what became of each of them.
-/

namespace CopilotFactory
namespace Application

open Foundations
open Infrastructure
open Policies

inductive CheckStatus where
  | passed
  | failed
  | skipped
  | error
deriving DecidableEq

def CheckStatus.label : CheckStatus -> String
  | .passed => "passed"
  | .failed => "failed"
  | .skipped => "skipped"
  | .error => "error"

structure ValidationCheckOutcome where
  checkName : String
  command : String
  status : CheckStatus
  durationMs : Millis
  output : Option String := none
deriving DecidableEq

inductive OverallStatus where
  | passed
  | failed
deriving DecidableEq

structure ValidationRunResult where
  profileName : String
  overallStatus : OverallStatus
  checkOutcomes : List ValidationCheckOutcome
  summary : String
deriving DecidableEq

/-!
## Checks

The commands of a profile are a plain object, so that the name of a check without a command
may be the name of an inherited member, which is no text.
-/

inductive CheckCategory where
  | required
  | optional
deriving DecidableEq

def CheckCategory.label : CheckCategory -> String
  | .required => "required"
  | .optional => "optional"

inductive CommandValue where
  | text (command : String)
  | inherited
deriving DecidableEq

structure PlannedCheck where
  checkName : String
  command : Records.Member String
  category : CheckCategory
deriving DecidableEq

structure ExecuteCheckParams where
  checkName : String
  command : CommandValue
  workspacePath : String
deriving DecidableEq

structure CheckExecutionResult where
  checkName : String
  command : CommandValue
  status : CheckStatus
  durationMs : Millis
  output : Option String := none
  errorMessage : Option String := none
deriving DecidableEq

structure CheckOutcome extends CheckExecutionResult where
  category : CheckCategory
deriving DecidableEq

/-- What executes a check, in a world that may be in any state. -/
abbrev CheckExecutorPort (σ : Type) :=
  ExecuteCheckParams -> σ -> CheckExecutionResult × σ

def resolveChecks (checkNames : List String) (commands : List (String × String))
    (category : CheckCategory) : List PlannedCheck :=
  checkNames.map fun checkName =>
    { checkName := checkName
      command := Records.member Records.inheritedMembers commands checkName
      category := category }

def plannedChecks (profile : ValidationProfile) : List PlannedCheck :=
  resolveChecks profile.requiredChecks profile.commands .required ++
    resolveChecks profile.optionalChecks profile.commands .optional

def PlannedCheck.params (workspacePath : String) (check : PlannedCheck) :
    Option ExecuteCheckParams :=
  match check.command with
  | .missing => none
  | .inherited => some ⟨check.checkName, .inherited, workspacePath⟩
  | .own command => some ⟨check.checkName, .text command, workspacePath⟩

def skippedOutcome (profileName : String) (check : PlannedCheck) : CheckOutcome where
  checkName := check.checkName
  command := .text ""
  category := check.category
  status := .skipped
  durationMs := 0
  errorMessage :=
    some s!"No command mapping found for check \"{check.checkName}\" in profile \"{profileName}\""

section

variable {σ : Type} (executor : CheckExecutorPort σ)

def runCheck (profileName workspacePath : String) (check : PlannedCheck) (s : σ) :
    CheckOutcome × σ :=
  match check.params workspacePath with
  | none => (skippedOutcome profileName check, s)
  | some params =>
      ({ (executor params s).1 with category := check.category }, (executor params s).2)

end

/-!
## The report
-/

structure RunValidationParams where
  taskId : TaskId
  profileName : String
  validationPolicy : ValidationPolicy
  workspacePath : String

structure ValidationRun where
  profileName : String
  overallStatus : OverallStatus
  checkOutcomes : List CheckOutcome
  summary : String
  totalDurationMs : Millis
  requiredPassedCount : Nat
  requiredFailedCount : Nat
  optionalPassedCount : Nat
  optionalFailedCount : Nat
  skippedCount : Nat
deriving DecidableEq

def ofCategory (category : CheckCategory) (outcomes : List CheckOutcome) : List CheckOutcome :=
  outcomes.filter (fun outcome => outcome.category = category)

def isFailing (outcome : CheckOutcome) : Bool :=
  outcome.status = .failed ∨ outcome.status = .error

def countStatus (status : CheckStatus) (outcomes : List CheckOutcome) : Nat :=
  outcomes.countP (fun outcome => outcome.status = status)

def computeOverallStatus (requiredFailedCount skippedRequiredCount : Nat)
    (failOnSkippedRequired : Bool) : OverallStatus :=
  if requiredFailedCount > 0 then
    .failed
  else if failOnSkippedRequired && skippedRequiredCount > 0 then
    .failed
  else
    .passed

def buildSummary (params : RunValidationParams) (overallStatus : OverallStatus)
    (requiredPassedCount requiredFailedCount skippedRequiredCount : Nat)
    (optionalPassedCount optionalFailedCount skippedCount : Nat) : String :=
  let statusLabel := if overallStatus = .passed then "PASSED" else "FAILED"
  let requiredTotal := requiredPassedCount + requiredFailedCount + skippedRequiredCount
  let optionalTotal := optionalPassedCount + optionalFailedCount
  " ".intercalate
    ([s!"Validation {statusLabel} for task {params.taskId} " ++
          s!"using profile \"{params.profileName}\".",
        s!"Required: {requiredPassedCount}/{requiredTotal} passed."] ++
      (if optionalTotal > 0 then [s!"Optional: {optionalPassedCount}/{optionalTotal} passed."]
        else []) ++
      (if skippedCount > 0 then [s!"{skippedCount} check(s) skipped."] else []))

def validationReport (params : RunValidationParams) (profile : ValidationProfile)
    (outcomes : List CheckOutcome) (totalDurationMs : Millis) : ValidationRun :=
  let requiredOutcomes := ofCategory .required outcomes
  let optionalOutcomes := ofCategory .optional outcomes
  let overallStatus := computeOverallStatus (requiredOutcomes.countP isFailing)
    (countStatus .skipped requiredOutcomes) profile.failOnSkippedRequiredCheck
  { profileName := params.profileName
    overallStatus := overallStatus
    checkOutcomes := outcomes
    summary := buildSummary params overallStatus (countStatus .passed requiredOutcomes)
      (requiredOutcomes.countP isFailing) (countStatus .skipped requiredOutcomes)
      (countStatus .passed optionalOutcomes) (optionalOutcomes.countP isFailing)
      (countStatus .skipped outcomes)
    totalDurationMs := totalDurationMs
    requiredPassedCount := countStatus .passed requiredOutcomes
    requiredFailedCount := requiredOutcomes.countP isFailing
    optionalPassedCount := countStatus .passed optionalOutcomes
    optionalFailedCount := optionalOutcomes.countP isFailing
    skippedCount := countStatus .skipped outcomes }

inductive RunValidationError where
  | missingProfile (error : MissingValidationProfileError)
  | typeError (message : String)

/-- The profiles are looked up as the commands are; an inherited member has no lists. -/
def runValidation {σ : Type} (executor : CheckExecutorPort σ) (now : σ -> Millis)
    (params : RunValidationParams) (s : σ) : Except RunValidationError (ValidationRun × σ) :=
  match Records.member Records.inheritedMembers params.validationPolicy.profiles
      params.profileName with
  | .missing =>
      .error (.missingProfile
        { profileName := params.profileName
          source := .taskOverride
          availableProfiles := params.validationPolicy.profiles.map Prod.fst })
  | .inherited => .error (.typeError "Cannot read properties of undefined (reading 'map')")
  | .own profile =>
      let made := collectOver (runCheck executor params.profileName params.workspacePath)
        (plannedChecks profile) s
      .ok (validationReport params profile made.1 (now made.2 - now s), made.2)

/-!
## What a report says
-/

theorem computeOverallStatus_eq_passed {requiredFailedCount skippedRequiredCount : Nat}
    {failOnSkippedRequired : Bool} :
    computeOverallStatus requiredFailedCount skippedRequiredCount failOnSkippedRequired = .passed <->
      requiredFailedCount = 0 ∧ (failOnSkippedRequired = false ∨ skippedRequiredCount = 0) := by
  unfold computeOverallStatus
  cases failOnSkippedRequired <;> grind

theorem overallStatus_passed_iff (params : RunValidationParams) (profile : ValidationProfile)
    (outcomes : List CheckOutcome) (totalDurationMs : Millis) :
    (validationReport params profile outcomes totalDurationMs).overallStatus = .passed <->
      forall outcome, outcome ∈ outcomes -> outcome.category = .required ->
        outcome.status = .passed ∨
          outcome.status = .skipped ∧ profile.failOnSkippedRequiredCheck = false := by
  unfold validationReport
  rw [computeOverallStatus_eq_passed, List.countP_eq_zero, countStatus, List.countP_eq_zero]
  simp only [ofCategory, isFailing, List.mem_filter, decide_eq_true_eq, not_or]
  constructor
  · rintro ⟨hfailing, hskipped⟩ outcome hmem hrequired
    have hnot := hfailing outcome ⟨hmem, hrequired⟩
    cases hstatus : outcome.status with
    | passed =>
        exact Or.inl rfl
    | failed =>
        exact absurd hstatus hnot.1
    | error =>
        exact absurd hstatus hnot.2
    | skipped =>
        rcases hskipped with hoff | hnone
        · exact Or.inr ⟨rfl, hoff⟩
        · exact absurd hstatus (hnone outcome ⟨hmem, hrequired⟩)
  · intro h
    constructor
    · rintro outcome ⟨hmem, hrequired⟩
      rcases h outcome hmem hrequired with hpassed | ⟨hskipped, _⟩
      · rw [hpassed]
        exact ⟨nofun, nofun⟩
      · rw [hskipped]
        exact ⟨nofun, nofun⟩
    · cases hflag : profile.failOnSkippedRequiredCheck with
      | false =>
          exact Or.inl rfl
      | true =>
          right
          rintro outcome ⟨hmem, hrequired⟩ hstatus
          rcases h outcome hmem hrequired with hpassed | ⟨_, hoff⟩
          · exact nomatch hpassed.symm.trans hstatus
          · exact nomatch hoff.symm.trans hflag

theorem runValidation_of_lookup {σ : Type} (executor : CheckExecutorPort σ) (now : σ -> Millis)
    {params : RunValidationParams} {profile : ValidationProfile}
    (hprofile : params.validationPolicy.profiles.lookup params.profileName = some profile)
    (s : σ) :
    runValidation executor now params s =
      let made := collectOver (runCheck executor params.profileName params.workspacePath)
        (plannedChecks profile) s
      .ok (validationReport params profile made.1 (now made.2 - now s), made.2) := by
  unfold runValidation Records.member
  rw [hprofile]

end Application
end CopilotFactory
