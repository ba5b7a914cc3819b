import CopilotFactory.Config.LayerPrecedence
import CopilotFactory.Config.PolicySnapshotService
import CopilotFactory.Domain.RecoveryPolicies

/-!
# Frozen policies

What the enforcement makes of a configuration is determined by its snapshot, with one
exception: the snapshot of the command policy leaves out the action on a violation.
-/

namespace CopilotFactory
namespace Config

open Foundations
open Policies

/-!
## Verdicts
-/

structure CommandVerdict where
  allowed : Bool
  reason : Option CommandViolationReason
  action : Option CommandViolationAction
  parsed : ParsedCommand
deriving DecidableEq

def commandVerdict (compile : RegExpCompiler) (rawCommand : String) (policy : CommandPolicy) :
    Except PolicyError CommandVerdict :=
  (evaluateCommandPolicy compile rawCommand policy).map (fun evaluation =>
    { allowed := evaluation.allowed
      reason := evaluation.reason
      action := evaluation.action
      parsed := evaluation.parsed })

def naturalOf (n : Rat) : Nat :=
  n.num.toNat

/-- The retry policy as the evaluation takes it, which knows one strategy only. -/
def RetryPolicy.enforced (policy : RetryPolicy) : Domain.RetryPolicy where
  maxAttempts := naturalOf policy.maxAttempts
  backoffStrategy := .exponential
  initialBackoffSeconds := naturalOf policy.initialBackoffSeconds
  maxBackoffSeconds := naturalOf policy.maxBackoffSeconds
  reuseSamePool := policy.reuseSamePool
  allowPoolChangeAfterFailure := policy.allowPoolChangeAfterFailure
  requireFailureSummaryPacket := policy.requireFailureSummaryPacket

def triggerKey : Domain.EscalationTrigger -> String
  | .maxRetryExceeded => "max_retry_exceeded"
  | .maxReviewRoundsExceeded => "max_review_rounds_exceeded"
  | .policyViolation => "policy_violation"
  | .mergeFailureAfterRetries => "merge_failure_after_retries"
  | .heartbeatTimeout => "heartbeat_timeout"
  | .schemaValidationFailure => "schema_validation_failure"
  | .repeatedSchemaFailures => "repeated_schema_failures"

structure EscalationVerdict where
  shouldEscalate : Bool
  action : String
  routeTo : String
  requireSummary : Bool
  reason : String
deriving DecidableEq

/-- The verdict on a failure.  The action is the configured text, whatever it is. -/
def escalationVerdict (context : Domain.EscalationEvaluationContext)
    (policy : EscalationPolicy) : EscalationVerdict :=
  let evaluation := Domain.shouldEscalate context
    { triggers := fun _ => none
      routeTo := policy.routeTo
      requireSummary := policy.requireSummary }
  { shouldEscalate := evaluation.shouldEscalate
    action := (policy.triggers.lookup (triggerKey context.trigger)).getD "escalate"
    routeTo := evaluation.routeTo
    requireSummary := evaluation.requireSummary
    reason := evaluation.reason }

def reviewVerdict (reviewRound : Nat) (values : FactoryConfig) : EscalationVerdict :=
  escalationVerdict
    { trigger := .maxReviewRoundsExceeded
      reviewRound := some reviewRound
      maxReviewRounds := some (naturalOf values.reviewPolicy.maxReviewRounds) }
    values.escalationPolicy

def retryVerdict (context : Domain.RetryEvaluationContext) (values : FactoryConfig) :
    Domain.RetryEvaluation × EscalationVerdict :=
  (Domain.shouldRetry context values.retryPolicy.enforced,
    escalationVerdict
      { trigger := .maxRetryExceeded
        retryCount := some context.retryCount
        maxAttempts := some (naturalOf values.retryPolicy.maxAttempts) }
      values.escalationPolicy)

/-- The enforcement cannot tell the two configurations apart. -/
structure EnforcedAlike (compile : RegExpCompiler) (values values' : FactoryConfig) :
    Prop where
  command : forall rawCommand, commandVerdict compile rawCommand values.commandPolicy =
    commandVerdict compile rawCommand values'.commandPolicy
  read : forall path, checkReadAccess path values.fileScopePolicy =
    checkReadAccess path values'.fileScopePolicy
  write : forall path, checkWriteAccess path values.fileScopePolicy =
    checkWriteAccess path values'.fileScopePolicy
  diff : forall paths, validatePostRunDiff paths values.fileScopePolicy =
    validatePostRunDiff paths values'.fileScopePolicy
  retry : forall context, retryVerdict context values = retryVerdict context values'
  escalation : forall context, escalationVerdict context values.escalationPolicy =
    escalationVerdict context values'.escalationPolicy
  review : forall reviewRound, reviewVerdict reviewRound values =
    reviewVerdict reviewRound values'

/-!
## Commands

The reasons of the patterns, which the snapshot leaves out, only show in the explanations.
-/

def withoutReasons (policy : CommandPolicy) : CommandPolicy :=
  { policy with
    deniedPatterns := policy.deniedPatterns.map (fun denied => { denied with reason := "" })
    forbiddenArgPatterns :=
      policy.forbiddenArgPatterns.map (fun forbidden => { forbidden with reason := "" }) }

theorem matchingDenied_withoutReasons (policy : CommandPolicy) (raw : String) :
    matchingDenied (withoutReasons policy) raw =
      (matchingDenied policy raw).map (fun denied => { denied with reason := "" }) := by
  unfold matchingDenied withoutReasons
  rw [List.find?_map]
  rfl

theorem allowlistViolation_withoutReasons (policy : CommandPolicy) (parsed : ParsedCommand) :
    allowlistViolation (withoutReasons policy) parsed = allowlistViolation policy parsed :=
  rfl

theorem matchingForbidden_withoutReasons (compile : RegExpCompiler) (args : List String)
    (patterns : List ForbiddenArgPattern) :
    matchingForbidden compile args
        (patterns.map (fun forbidden => { forbidden with reason := "" })) =
      (matchingForbidden compile args patterns).map (fun found =>
        found.map (fun (forbidden, arg) => ({ forbidden with reason := "" }, arg))) := by
  induction patterns with
  | nil => rfl
  | cons forbidden rest ih =>
      rw [List.map_cons]
      unfold matchingForbidden
      dsimp only
      cases compile forbidden.pattern with
      | none => rfl
      | some regex =>
          dsimp only
          cases args.find? regex with
          | some arg => rfl
          | none => exact ih

theorem commandVerdict_withoutReasons (compile : RegExpCompiler) (rawCommand : String)
    (policy : CommandPolicy) :
    commandVerdict compile rawCommand (withoutReasons policy) =
      commandVerdict compile rawCommand policy := by
  unfold commandVerdict evaluateCommandPolicy
  dsimp only
  split
  · rfl
  · have hops : (withoutReasons policy).allowShellOperators = policy.allowShellOperators := rfl
    rw [hops]
    split
    · rfl
    · rw [matchingDenied_withoutReasons, allowlistViolation_withoutReasons]
      cases matchingDenied policy (parseCommandString rawCommand).raw with
      | some denied => rfl
      | none =>
          dsimp only [Option.map_none]
          cases allowlistViolation policy (parseCommandString rawCommand) with
          | some violation => rfl
          | none =>
              dsimp only
              rw [show (withoutReasons policy).forbiddenArgPatterns =
                policy.forbiddenArgPatterns.map (fun forbidden =>
                  { forbidden with reason := "" }) from rfl,
                matchingForbidden_withoutReasons]
              cases matchingForbidden compile (parseCommandString rawCommand).args
                  policy.forbiddenArgPatterns with
              | error e => rfl
              | ok found =>
                  cases found with
                  | none => rfl
                  | some found => rfl

/-- The snapshot and the action on a violation determine the policy up to its reasons. -/
theorem withoutReasons_factorsThrough :
    withoutReasons.FactorsThrough (fun policy => (freezeCommandPolicy policy, policy.onViolation))
    := by
  intro policy policy' h
  rcases Prod.mk.inj h with ⟨hfrozen, haction⟩
  unfold freezeCommandPolicy at hfrozen
  rw [SnapshotCommandPolicy.mk.injEq] at hfrozen
  rcases hfrozen with ⟨hmode, hcommands, hdenied, hoperators, _, _, hforbidden⟩
  have hcommand : Function.Injective (fun cmd : AllowedCommand =>
      SnapshotAllowedCommand.mk cmd.command cmd.argPrefixes) := by
    intro cmd cmd' heq
    cases cmd
    cases cmd'
    simpa using heq
  unfold withoutReasons
  rw [CommandPolicy.mk.injEq]
  refine ⟨modeLabel_injective hmode, List.map_injective_iff.mpr hcommand hcommands, ?_, ?_,
    hoperators, haction⟩
  · simpa only [List.map_map, Function.comp_def] using
      congrArg (List.map (fun pattern => DeniedPattern.mk pattern "")) hdenied
  · simpa only [List.map_map, Function.comp_def] using
      congrArg (List.map (fun pattern => ForbiddenArgPattern.mk pattern "")) hforbidden

theorem commandVerdict_factorsThrough (compile : RegExpCompiler) (rawCommand : String) :
    (commandVerdict compile rawCommand).FactorsThrough
      (fun policy => (freezeCommandPolicy policy, policy.onViolation)) := by
  intro policy policy' h
  rw [← commandVerdict_withoutReasons, withoutReasons_factorsThrough h,
    commandVerdict_withoutReasons]

theorem freezeFileScopePolicy_injective : Function.Injective freezeFileScopePolicy := by
  intro policy policy' h
  cases policy
  cases policy'
  unfold freezeFileScopePolicy at h
  rw [SnapshotFileScopePolicy.mk.injEq] at h
  rcases h with ⟨hread, hwrite, hdeny, hreadOutside, hwriteOutside, haction⟩
  rw [FileScopePolicy.mk.injEq]
  exact ⟨hread, hwrite, hdeny, hreadOutside, hwriteOutside, violationLabel_injective haction⟩

theorem commandVerdict_empty (compile : RegExpCompiler) (policy : CommandPolicy) :
    commandVerdict compile "" policy =
      .ok
        { allowed := false
          reason := some .invalidCommand
          action := some policy.onViolation
          parsed := parseCommandString "" } := by
  have hparsed : (parseCommandString "").command = "" := by decide
  unfold commandVerdict evaluateCommandPolicy
  dsimp only
  rw [if_pos hparsed]
  rfl

/-!
## Equal snapshots
-/

theorem enforcedAlike_iff (compile : RegExpCompiler) {values values' : FactoryConfig}
    {policySetId policySetId' : String}
    (h : assembleSnapshot values policySetId = assembleSnapshot values' policySetId') :
    EnforcedAlike compile values values' <->
      values.commandPolicy.onViolation = values'.commandPolicy.onViolation := by
  unfold assembleSnapshot at h
  rw [PolicySnapshot.mk.injEq] at h
  rcases h with ⟨_, _, hcommand, hscope, _, hretry, hescalation, _, _, hreview⟩
  have hscope := freezeFileScopePolicy_injective hscope
  constructor
  · intro halike
    have hempty := halike.command ""
    rw [commandVerdict_empty, commandVerdict_empty] at hempty
    injection hempty with hverdict
    injection hverdict with _ _ haction
    injection haction
  · intro haction
    constructor
    · intro rawCommand
      exact commandVerdict_factorsThrough compile rawCommand (Prod.ext hcommand haction)
    · intro path
      rw [hscope]
    · intro path
      rw [hscope]
    · intro paths
      rw [hscope]
    · intro context
      unfold retryVerdict
      rw [hretry, hescalation]
    · intro context
      rw [hescalation]
    · intro reviewRound
      unfold reviewVerdict
      rw [hescalation, hreview]

/-- Two configurations with equal snapshots are enforced alike exactly when their command
policies have the same action on a violation. -/
theorem equal_snapshots_enforced_alike_iff (compile : RegExpCompiler)
    {deps deps' : PolicySnapshotServiceDependencies}
    {systemDefaults systemDefaults' : FactoryConfig} {context context' : PolicySnapshotContext}
    {result result' : GeneratePolicySnapshotResult}
    (h : generatePolicySnapshot deps systemDefaults context = .ok result)
    (h' : generatePolicySnapshot deps' systemDefaults' context' = .ok result')
    (hsnapshot : result.snapshot = result'.snapshot) :
    EnforcedAlike compile (extractValues result.resolvedConfig)
        (extractValues result'.resolvedConfig) <->
      (result.resolvedConfig .commandPolicy).value.onViolation =
        (result'.resolvedConfig .commandPolicy).value.onViolation := by
  rcases snapshot_of_generatePolicySnapshot h with ⟨_, policySetId, hfrozen⟩
  rcases snapshot_of_generatePolicySnapshot h' with ⟨_, policySetId', hfrozen'⟩
  rw [hfrozen, hfrozen'] at hsnapshot
  exact enforcedAlike_iff compile hsnapshot

def actionLayer (action : CommandViolationAction) : ConfigLayerEntry where
  layer := "organization"
  source := "project:demo"
  config := { commandPolicy := .value { onViolation := .value action } }

def loading (layers : List ConfigLayerEntry) : PolicySnapshotServiceDependencies where
  loadLayers := fun _ => .ok layers
  persist := fun runId _ => .ok (runId ++ "/policy-snapshot.json")

def demoRun : PolicySnapshotContext where
  taskId := "task-1"
  poolId := "pool-1"
  runId := "run-1"

def resolvedAction (action : CommandViolationAction) : GeneratePolicySnapshotResult where
  snapshot := assembleSnapshot bareDefaults "project:demo"
  artifactPath := "run-1/policy-snapshot.json"
  resolvedConfig := fun name =>
    resolveStep name (initialState bareDefaults name) (actionLayer action)
  layerCount := 1

theorem generatePolicySnapshot_actionLayer (action : CommandViolationAction) :
    generatePolicySnapshot (loading [actionLayer action]) bareDefaults demoRun =
      .ok (resolvedAction action) := by
  have hknown : Known (actionLayer action) := by
    unfold Known
    exact List.mem_of_getElem? (i := 2) rfl
  have hresolved : resolveConfig [actionLayer action] bareDefaults =
      .ok (resolvedAction action).resolvedConfig := by
    refine resolveConfig_eq_ok.mpr ⟨⟨?_, List.pairwise_singleton _ _, ?_⟩, rfl⟩
    · intro entry hentry
      rw [List.mem_singleton.mp hentry]
      exact hknown
    · intro entry hentry name
      rw [List.mem_singleton.mp hentry]
      cases name <;> exact (nomatch ·)
  have hissues : snapshotIssues (assembleSnapshot bareDefaults "project:demo") = [] := by
    decide
  have hvalid : validateSnapshot (assembleSnapshot bareDefaults "project:demo") =
      .ok (assembleSnapshot bareDefaults "project:demo") :=
    if_pos hissues
  have hassembled : assembleSnapshot (extractValues (resolvedAction action).resolvedConfig)
      (derivePolicySetId [actionLayer action]) = assembleSnapshot bareDefaults "project:demo" :=
    rfl
  unfold generatePolicySnapshot
  dsimp only [loading, Except.mapError, ok_bind]
  rw [hresolved]
  dsimp only [ok_bind]
  rw [hassembled, hvalid]
  rfl

theorem demo_projects_enforced_alike :
    EnforcedAlike (fun _ => none) (extractValues (resolvedAction .failRun).resolvedConfig)
        (extractValues (resolvedAction .failRun).resolvedConfig) <->
      CommandViolationAction.failRun = .failRun :=
  equal_snapshots_enforced_alike_iff (fun _ => none)
    (generatePolicySnapshot_actionLayer .failRun) (generatePolicySnapshot_actionLayer .failRun)
    rfl

/-- Two projects that differ in the action only have the same snapshot, though one of them
fails a run for a command that the other one only denies. -/
theorem action_lost_in_snapshot :
    generatePolicySnapshot (loading [actionLayer .failRun]) bareDefaults demoRun =
        .ok (resolvedAction .failRun) ∧
      generatePolicySnapshot (loading [actionLayer .denyCommand]) bareDefaults demoRun =
        .ok (resolvedAction .denyCommand) ∧
      (resolvedAction .failRun).snapshot = (resolvedAction .denyCommand).snapshot ∧
      commandVerdict (fun _ => none) "rm -rf /"
          (extractValues (resolvedAction .failRun).resolvedConfig).commandPolicy ≠
        commandVerdict (fun _ => none) "rm -rf /"
          (extractValues (resolvedAction .denyCommand).resolvedConfig).commandPolicy := by
  refine ⟨generatePolicySnapshot_actionLayer .failRun,
    generatePolicySnapshot_actionLayer .denyCommand, rfl, ?_⟩
  decide

end Config
end CopilotFactory
