import Mathlib.Logic.Function.Basic
import CopilotFactory.Config.PolicyKinds
import CopilotFactory.Foundations.Layers

/-!
# Configuration resolver

The layers of a configuration are applied to the system defaults in the order of their
precedence.  A merge function of its own computes the values of each policy, while one
rule for all policies records which layer has supplied each field.
-/

namespace CopilotFactory
namespace Config

open Policies

/-!
## Configurations
-/

inductive PolicyName where
  | commandPolicy
  | fileScopePolicy
  | validationPolicy
  | retryPolicy
  | escalationPolicy
  | leasePolicy
  | retentionPolicy
  | reviewPolicy
deriving DecidableEq

def policyNames : List PolicyName :=
  [.commandPolicy, .fileScopePolicy, .validationPolicy, .retryPolicy, .escalationPolicy,
    .leasePolicy, .retentionPolicy, .reviewPolicy]

theorem mem_policyNames (name : PolicyName) :
    name ∈ policyNames := by
  cases name <;> decide

theorem policyNames_nodup : policyNames.Nodup := by
  decide

def kindOf : PolicyName -> PolicyKind
  | .commandPolicy => commandPolicyKind
  | .fileScopePolicy => fileScopePolicyKind
  | .validationPolicy => validationPolicyKind
  | .retryPolicy => retryPolicyKind
  | .escalationPolicy => escalationPolicyKind
  | .leasePolicy => leasePolicyKind
  | .retentionPolicy => retentionPolicyKind
  | .reviewPolicy => reviewPolicyKind

structure FactoryConfig where
  commandPolicy : CommandPolicy
  fileScopePolicy : FileScopePolicy
  validationPolicy : ValidationPolicy
  retryPolicy : RetryPolicy
  escalationPolicy : EscalationPolicy
  leasePolicy : LeasePolicy
  retentionPolicy : RetentionPolicy
  reviewPolicy : ReviewPolicy

def FactoryConfig.policy (config : FactoryConfig) :
    (name : PolicyName) -> (kindOf name).Policy
  | .commandPolicy => config.commandPolicy
  | .fileScopePolicy => config.fileScopePolicy
  | .validationPolicy => config.validationPolicy
  | .retryPolicy => config.retryPolicy
  | .escalationPolicy => config.escalationPolicy
  | .leasePolicy => config.leasePolicy
  | .retentionPolicy => config.retentionPolicy
  | .reviewPolicy => config.reviewPolicy

theorem FactoryConfig.ext_policy {config config' : FactoryConfig}
    (h : forall name, config.policy name = config'.policy name) :
    config = config' := by
  cases config
  cases config'
  simp only [FactoryConfig.mk.injEq]
  exact ⟨h .commandPolicy, h .fileScopePolicy, h .validationPolicy, h .retryPolicy,
    h .escalationPolicy, h .leasePolicy, h .retentionPolicy, h .reviewPolicy⟩

structure PartialFactoryConfig where
  commandPolicy : Supplied CommandPolicyOverride := .undefined
  fileScopePolicy : Supplied FileScopePolicyOverride := .undefined
  validationPolicy : Supplied ValidationPolicyOverride := .undefined
  retryPolicy : Supplied RetryPolicyOverride := .undefined
  escalationPolicy : Supplied EscalationPolicyOverride := .undefined
  leasePolicy : Supplied LeasePolicyOverride := .undefined
  retentionPolicy : Supplied RetentionPolicyOverride := .undefined
  reviewPolicy : Supplied ReviewPolicyOverride := .undefined

def PartialFactoryConfig.override (config : PartialFactoryConfig) :
    (name : PolicyName) -> Supplied (kindOf name).Override
  | .commandPolicy => config.commandPolicy
  | .fileScopePolicy => config.fileScopePolicy
  | .validationPolicy => config.validationPolicy
  | .retryPolicy => config.retryPolicy
  | .escalationPolicy => config.escalationPolicy
  | .leasePolicy => config.leasePolicy
  | .retentionPolicy => config.retentionPolicy
  | .reviewPolicy => config.reviewPolicy

structure ConfigLayerEntry where
  layer : String
  source : String
  config : PartialFactoryConfig

structure ResolvedFieldSource where
  layer : String
  source : String
deriving DecidableEq

structure ResolvedPolicy (kind : PolicyKind) where
  value : kind.Policy
  fieldSources : kind.Field -> ResolvedFieldSource

abbrev ResolvedConfig : Type :=
  (name : PolicyName) -> ResolvedPolicy (kindOf name)

def configLayerPrecedence : List String :=
  ["system", "environment", "organization", "repository_workflow", "pool", "task_type",
    "task", "operator_override"]

inductive ConfigError where
  | unknownLayer (layer : String)
  | layerOrder (layer : String) (precedence lastPrecedence : Nat)
  /-- A property of null is read. -/
  | typeError
deriving DecidableEq

def ConfigError.message : ConfigError -> String
  | .unknownLayer layer => s!"Unknown configuration layer: {layer}"
  | .layerOrder layer precedence lastPrecedence =>
      "Configuration layers must be in non-decreasing precedence order. " ++
        s!"Layer \"{layer}\" (precedence {precedence}) appears after a " ++
        s!"layer with higher precedence ({lastPrecedence})."
  | .typeError => "Cannot read properties of null"

/-!
## Resolution
-/

def getLayerPrecedence (layer : String) : Except ConfigError Nat :=
  match configLayerPrecedence.idxOf? layer with
  | some index => .ok index
  | none => .error (.unknownLayer layer)

/-- The check of the layers after one of the last precedence.  It starts below the lowest. -/
def validateLayersFrom (lastPrecedence : Nat) : List ConfigLayerEntry -> Except ConfigError Unit
  | [] => .ok ()
  | entry :: rest => do
      let precedence ← getLayerPrecedence entry.layer
      if precedence < lastPrecedence then
        .error (.layerOrder entry.layer precedence lastPrecedence)
      else
        validateLayersFrom precedence rest

def validateLayerOrder (layers : List ConfigLayerEntry) : Except ConfigError Unit :=
  validateLayersFrom 0 layers

def systemSource : ResolvedFieldSource where
  layer := "system"
  source := "system-defaults"

def ConfigLayerEntry.layerSource (entry : ConfigLayerEntry) : ResolvedFieldSource where
  layer := entry.layer
  source := entry.source

def initialState (systemDefaults : FactoryConfig) : ResolvedConfig := fun name =>
  { value := systemDefaults.policy name
    fieldSources := fun _ => systemSource }

def updateFieldSources (kind : PolicyKind) (currentSources : kind.Field -> ResolvedFieldSource)
    (override : kind.Override) (newSource : ResolvedFieldSource) :
    kind.Field -> ResolvedFieldSource := fun field =>
  if (kind.supplied override field).isDefined then newSource else currentSources field

def applyOverride (kind : PolicyKind) (current : ResolvedPolicy kind)
    (override : kind.Override) (layerSource : ResolvedFieldSource) : ResolvedPolicy kind where
  value := kind.merge current.value override
  fieldSources := updateFieldSources kind current.fieldSources override layerSource

def applyPolicy (entry : ConfigLayerEntry) (state : ResolvedConfig) (name : PolicyName) :
    Except ConfigError ResolvedConfig :=
  match entry.config.override name with
  | .undefined => .ok state
  | .null => .error .typeError
  | .value override =>
      .ok (Function.update state name
        (applyOverride (kindOf name) (state name) override entry.layerSource))

def applyLayer (state : ResolvedConfig) (entry : ConfigLayerEntry) :
    Except ConfigError ResolvedConfig :=
  policyNames.foldlM (applyPolicy entry) state

def resolveConfig (layers : List ConfigLayerEntry) (systemDefaults : FactoryConfig) :
    Except ConfigError ResolvedConfig := do
  validateLayerOrder layers
  layers.foldlM applyLayer (initialState systemDefaults)

def extractValues (resolved : ResolvedConfig) : FactoryConfig where
  commandPolicy := (resolved .commandPolicy).value
  fileScopePolicy := (resolved .fileScopePolicy).value
  validationPolicy := (resolved .validationPolicy).value
  retryPolicy := (resolved .retryPolicy).value
  escalationPolicy := (resolved .escalationPolicy).value
  leasePolicy := (resolved .leasePolicy).value
  retentionPolicy := (resolved .retentionPolicy).value
  reviewPolicy := (resolved .reviewPolicy).value

@[simp] theorem extractValues_policy (resolved : ResolvedConfig) (name : PolicyName) :
    (extractValues resolved).policy name = (resolved name).value := by
  cases name <;> rfl

end Config
end CopilotFactory
