import CopilotFactory.Foundations.Result

/-!
# Validation policy

Named profiles say which checks a stage requires.  The name of the profile comes from the
first of four sources that names one, and the profile is looked up under that name.
-/

namespace CopilotFactory
namespace Policies

open Foundations

inductive ValidationStage where
  | development
  | merge
deriving DecidableEq

inductive ProfileSelectionSource where
  | taskOverride
  | workflowTemplate
  | taskTypeDefault
  | systemDefault
deriving DecidableEq

structure ValidationProfile where
  requiredChecks : List String
  optionalChecks : List String
  commands : List (String × String)
  failOnSkippedRequiredCheck : Bool
deriving DecidableEq

structure ValidationPolicy where
  profiles : List (String × ValidationProfile)
deriving DecidableEq

structure ProfileSelectionContext where
  taskProfileOverride : Option String := none
  workflowTemplateProfile : Option String := none
  taskTypeProfile : Option String := none
  stage : ValidationStage
deriving DecidableEq

structure ProfileSelectionResult where
  profile : ValidationProfile
  profileName : String
  source : ProfileSelectionSource
deriving DecidableEq

structure MissingValidationProfileError where
  profileName : String
  source : ProfileSelectionSource
  availableProfiles : List String
deriving DecidableEq

def ProfileSelectionSource.label : ProfileSelectionSource -> String
  | .taskOverride => "task_override"
  | .workflowTemplate => "workflow_template"
  | .taskTypeDefault => "task_type_default"
  | .systemDefault => "system_default"

def MissingValidationProfileError.message (error : MissingValidationProfileError) : String :=
  s!"Validation profile \"{error.profileName}\" " ++
    s!"(resolved from {error.source.label}) not found in policy. Available profiles: " ++
    (if error.availableProfiles = [] then "(none)" else ", ".intercalate error.availableProfiles)

/-!
## The default policy
-/

def defaultDevProfileName : String :=
  "default-dev"

def mergeGateProfileName : String :=
  "merge-gate"

def defaultDevProfile : ValidationProfile where
  requiredChecks := ["test", "lint"]
  optionalChecks := ["build"]
  commands := [("test", "pnpm test"), ("lint", "pnpm lint"), ("build", "pnpm build")]
  failOnSkippedRequiredCheck := true

def mergeGateProfile : ValidationProfile where
  requiredChecks := ["test", "build"]
  optionalChecks := ["lint"]
  commands := [("test", "pnpm test"), ("build", "pnpm build"), ("lint", "pnpm lint")]
  failOnSkippedRequiredCheck := true

def createDefaultValidationPolicy : ValidationPolicy where
  profiles :=
    [(defaultDevProfileName, defaultDevProfile), (mergeGateProfileName, mergeGateProfile)]

def getSystemDefaultProfileName : ValidationStage -> String
  | .development => defaultDevProfileName
  | .merge => mergeGateProfileName

/-!
## Selection
-/

/-- An empty name counts as none. -/
def resolveProfileName (context : ProfileSelectionContext) : String × ProfileSelectionSource :=
  match context.taskProfileOverride.filter (fun name => name ≠ "") with
  | some name => (name, .taskOverride)
  | none =>
      match context.workflowTemplateProfile.filter (fun name => name ≠ "") with
      | some name => (name, .workflowTemplate)
      | none =>
          match context.taskTypeProfile.filter (fun name => name ≠ "") with
          | some name => (name, .taskTypeDefault)
          | none => (getSystemDefaultProfileName context.stage, .systemDefault)

def selectProfile (policy : ValidationPolicy) (context : ProfileSelectionContext) :
    Except MissingValidationProfileError ProfileSelectionResult := do
  let (profileName, source) := resolveProfileName context
  -- The names that every JavaScript object inherits are left out.
  let profile ← orThrow (policy.profiles.lookup profileName)
    { profileName := profileName
      source := source
      availableProfiles := policy.profiles.map Prod.fst }
  pure { profile := profile, profileName := profileName, source := source }

theorem selectProfile_isOk_iff {policy : ValidationPolicy} {context : ProfileSelectionContext} :
    (exists result, selectProfile policy context = .ok result) <->
      (resolveProfileName context).1 ∈ policy.profiles.map Prod.fst := by
  have hlookup : (policy.profiles.lookup (resolveProfileName context).1).isSome = true <->
      (resolveProfileName context).1 ∈ policy.profiles.map Prod.fst := by
    rw [List.lookup_isSome_iff, List.mem_map]
    constructor
    · intro h
      rcases h with ⟨entry, hmem, hname⟩
      exact ⟨entry, hmem, (beq_iff_eq.mp hname).symm⟩
    · intro h
      rcases h with ⟨entry, hmem, hname⟩
      exact ⟨entry, hmem, beq_iff_eq.mpr hname.symm⟩
  rw [← hlookup, Option.isSome_iff_exists]
  unfold selectProfile
  simp only [bind_eq_ok, orThrow_eq_ok, pure_eq_ok]
  constructor
  · intro h
    rcases h with ⟨_, profile, hprofile, _⟩
    exact ⟨profile, hprofile⟩
  · intro h
    rcases h with ⟨profile, hprofile⟩
    exact ⟨_, profile, hprofile, rfl⟩

/-- A name in the packet of a task wins, whatever the repository and the stage ask for. -/
theorem resolveProfileName_of_override {context : ProfileSelectionContext} {name : String}
    (h : context.taskProfileOverride = some name) (hname : name ≠ "") :
    resolveProfileName context = (name, .taskOverride) := by
  unfold resolveProfileName
  rw [h, Option.filter_some, if_pos (by simpa using hname)]

end Policies
end CopilotFactory
