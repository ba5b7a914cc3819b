import CopilotFactory.Config.Resolver
import CopilotFactory.Foundations.Objects

/-!
# Resolution on objects

The resolver works on objects that it changes as it goes, and the objects of its input are
among those that it can reach: the state begins with the policies of the defaults
themselves.  It never changes these, and it ends as the resolver on values does.
-/

namespace CopilotFactory
namespace Config

open Foundations
open Foundations.Objects

variable {place : Nat}

inductive ConfigObject where
  | layers (entries : List ConfigLayerEntry)
  | factoryConfig (policies : PolicyName -> Nat)
  | policy (name : PolicyName) (value : (kindOf name).Policy)
  | fieldSources (name : PolicyName) (sources : (kindOf name).Field -> ResolvedFieldSource)
  | resolvedPolicy (value fieldSources : Nat)
  | resolvedConfig (policies : PolicyName -> Option Nat)

namespace ConfigObject

def asLayers : ConfigObject -> Option (List ConfigLayerEntry)
  | .layers entries => some entries
  | _ => none

def asFactoryConfig : ConfigObject -> Option (PolicyName -> Nat)
  | .factoryConfig policies => some policies
  | _ => none

def asPolicy (name : PolicyName) : ConfigObject -> Option (kindOf name).Policy
  | .policy name' value => if h : name' = name then some (h ▸ value) else none
  | _ => none

def asFieldSources (name : PolicyName) :
    ConfigObject -> Option ((kindOf name).Field -> ResolvedFieldSource)
  | .fieldSources name' sources => if h : name' = name then some (h ▸ sources) else none
  | _ => none

def asResolvedPolicy : ConfigObject -> Option (Nat × Nat)
  | .resolvedPolicy value sources => some (value, sources)
  | _ => none

def asResolvedConfig : ConfigObject -> Option (PolicyName -> Option Nat)
  | .resolvedConfig policies => some policies
  | _ => none

/-- The objects that the resolver changes after it has allocated them. -/
def isState : ConfigObject -> Bool
  | .resolvedPolicy _ _ => true
  | .resolvedConfig _ => true
  | _ => false

@[simp] theorem asLayers_layers (entries : List ConfigLayerEntry) :
    asLayers (.layers entries) = some entries :=
  rfl

@[simp] theorem asFactoryConfig_factoryConfig (policies : PolicyName -> Nat) :
    asFactoryConfig (.factoryConfig policies) = some policies :=
  rfl

@[simp] theorem asResolvedPolicy_resolvedPolicy (value sources : Nat) :
    asResolvedPolicy (.resolvedPolicy value sources) = some (value, sources) :=
  rfl

@[simp] theorem asResolvedConfig_resolvedConfig (policies : PolicyName -> Option Nat) :
    asResolvedConfig (.resolvedConfig policies) = some policies :=
  rfl

@[simp] theorem asPolicy_policy (name : PolicyName) (value : (kindOf name).Policy) :
    asPolicy name (.policy name value) = some value := by
  simp [asPolicy]

@[simp] theorem asFieldSources_fieldSources (name : PolicyName)
    (sources : (kindOf name).Field -> ResolvedFieldSource) :
    asFieldSources name (.fieldSources name sources) = some sources := by
  simp [asFieldSources]

end ConfigObject

open ConfigObject

/-!
## The resolver
-/

def initPolicy (state : Nat) (systemDefaults : PolicyName -> Nat) (name : PolicyName) :
    Process (List ConfigObject) ConfigError Unit := do
  let _ ← load (asPolicy name) .typeError (systemDefaults name)
  let sources ← allocate (.fieldSources name (fun _ => systemSource))
  let place ← allocate (.resolvedPolicy (systemDefaults name) sources)
  let policies ← load asResolvedConfig .typeError state
  store state (.resolvedConfig (Function.update policies name (some place)))

def overridePolicy (state : Nat) (entry : ConfigLayerEntry) (name : PolicyName) :
    Process (List ConfigObject) ConfigError Unit :=
  match entry.config.override name with
  | .undefined => pure ()
  | .null => Process.throw .typeError
  | .value override => do
      let policies ← load asResolvedConfig .typeError state
      let place ← load (fun _ => policies name) .typeError state
      let current ← load asResolvedPolicy .typeError place
      let base ← load (asPolicy name) .typeError current.1
      let merged ← allocate (.policy name ((kindOf name).merge base override))
      store place (.resolvedPolicy merged current.2)
      let currentSources ← load (asFieldSources name) .typeError current.2
      let sources ← allocate (.fieldSources name
        (updateFieldSources (kindOf name) currentSources override entry.layerSource))
      store place (.resolvedPolicy merged sources)

def resolveObjects (layers systemDefaults : Nat) :
    Process (List ConfigObject) ConfigError Nat := do
  let entries ← load asLayers .typeError layers
  Process.ofExcept (validateLayerOrder entries)
  let state ← allocate (.resolvedConfig (fun _ => none))
  let policies ← load asFactoryConfig .typeError systemDefaults
  Process.forEach (initPolicy state policies) policyNames
  Process.forEach
    (fun entry => Process.forEach (overridePolicy state entry) policyNames) entries
  pure state

/-!
## What the objects stand for
-/

def PolicyAt (heap : List ConfigObject) (name : PolicyName)
    (current : ResolvedPolicy (kindOf name)) (place : Nat) : Prop :=
  exists value sources, heap[place]? = some (.resolvedPolicy value sources) ∧
    heap[value]? = some (.policy name current.value) ∧
    heap[sources]? = some (.fieldSources name current.fieldSources)

/-- The state stands for what is resolved so far under the names, in objects of its own. -/
structure StateAt (before heap : List ConfigObject) (state : Nat)
    (policies : PolicyName -> Option Nat) (names : PolicyName -> Prop)
    (resolved : ResolvedConfig) : Prop where
  kept : before <+: heap
  fresh : before.length ≤ state
  object : heap[state]? = some (.resolvedConfig policies)
  policyAt : forall name, names name -> exists place, policies name = some place ∧
    before.length ≤ place ∧ PolicyAt heap name (resolved name) place
  apart : forall name name', names name -> names name' -> policies name = policies name' ->
    name = name'

theorem PolicyAt.append {heap : List ConfigObject} {name : PolicyName}
    {current : ResolvedPolicy (kindOf name)} (h : PolicyAt heap name current place)
    (object : ConfigObject) : PolicyAt (heap ++ [object]) name current place := by
  rcases h with ⟨value, sources, hplace, hvalue, hsources⟩
  exact ⟨value, sources, getElem?_append_of_some hplace object,
    getElem?_append_of_some hvalue object, getElem?_append_of_some hsources object⟩

theorem getElem?_set_of_state {heap : List ConfigObject} {changed : Nat}
    {object old new : ConfigObject} (hobject : heap[place]? = some object)
    (hold : heap[changed]? = some old) (hne : object.isState ≠ old.isState) :
    (heap.set changed new)[place]? = some object := by
  have hplace : changed ≠ place := by
    intro heq
    rw [heq, hobject] at hold
    cases hold
    exact hne rfl
  rw [List.getElem?_set_ne hplace, hobject]

theorem PolicyAt.set {heap : List ConfigObject} {name : PolicyName}
    {current : ResolvedPolicy (kindOf name)} {changed : Nat} {old : ConfigObject}
    (h : PolicyAt heap name current place) (hne : changed ≠ place)
    (hold : heap[changed]? = some old) (hstate : old.isState = true) (new : ConfigObject) :
    PolicyAt (heap.set changed new) name current place := by
  rcases h with ⟨value, sources, hplace, hvalue, hsources⟩
  refine ⟨value, sources, ?_, ?_, ?_⟩
  · rw [List.getElem?_set_ne hne, hplace]
  · apply getElem?_set_of_state hvalue hold
    rw [hstate]
    exact Bool.noConfusion
  · apply getElem?_set_of_state hsources hold
    rw [hstate]
    exact Bool.noConfusion

theorem getElem?_concat_of_length {heap : List ConfigObject} (h : heap.length = place)
    (object : ConfigObject) : (heap ++ [object])[place]? = some object := by
  rw [← h]
  exact List.getElem?_concat_length

theorem PolicyAt.lt_length {heap : List ConfigObject} {name : PolicyName}
    {current : ResolvedPolicy (kindOf name)} (h : PolicyAt heap name current place) :
    place < heap.length := by
  rcases h with ⟨value, sources, hplace, _, _⟩
  exact (List.getElem?_eq_some_iff.mp hplace).1

section StateAt

variable {before heap : List ConfigObject} {state : Nat}
  {policies : PolicyName -> Option Nat} {names : PolicyName -> Prop}
  {resolved : ResolvedConfig} {name : PolicyName}

theorem StateAt.append (h : StateAt before heap state policies names resolved)
    (object : ConfigObject) :
    StateAt before (heap ++ [object]) state policies names resolved where
  kept := prefix_append h.kept object
  fresh := h.fresh
  object := getElem?_append_of_some h.object object
  policyAt := by
    intro name hname
    rcases h.policyAt name hname with ⟨place, hplace, hle, hat⟩
    exact ⟨place, hplace, hle, hat.append object⟩
  apart := h.apart

theorem StateAt.enter (h : StateAt before heap state policies names resolved)
    (hle : before.length ≤ place) (hat : PolicyAt heap name (resolved name) place)
    (hnew : forall other, names other -> policies other ≠ some place) :
    StateAt before
      (heap.set state (.resolvedConfig (Function.update policies name (some place)))) state
      (Function.update policies name (some place)) (fun other => names other ∨ other = name)
      resolved where
  kept := prefix_set h.kept h.fresh _
  fresh := h.fresh
  object := List.getElem?_set_self (List.getElem?_eq_some_iff.mp h.object).1
  policyAt := by
    have hne : forall {other other'}, PolicyAt heap other (resolved other) other' ->
        state ≠ other' := by
      intro other other' hother heq
      rcases hother with ⟨_, _, hpair, _⟩
      rw [← heq, h.object] at hpair
      cases hpair
    intro other hother
    by_cases heq : other = name
    · subst heq
      rw [Function.update_self]
      exact ⟨place, rfl, hle, hat.set (hne hat) h.object rfl _⟩
    · rw [Function.update_of_ne heq]
      rcases h.policyAt other (hother.resolve_right heq) with ⟨place', hplace', hle', hat'⟩
      exact ⟨place', hplace', hle', hat'.set (hne hat') h.object rfl _⟩
  apart := by
    intro first second hfirst hsecond heq
    by_cases hfirstName : first = name
    · by_cases hsecondName : second = name
      · rw [hfirstName, hsecondName]
      · rw [hfirstName, Function.update_self, Function.update_of_ne hsecondName] at heq
        exact absurd heq.symm (hnew second (hsecond.resolve_right hsecondName))
    · by_cases hsecondName : second = name
      · rw [hsecondName, Function.update_self, Function.update_of_ne hfirstName] at heq
        exact absurd heq (hnew first (hfirst.resolve_right hfirstName))
      · rw [Function.update_of_ne hfirstName, Function.update_of_ne hsecondName] at heq
        exact h.apart first second (hfirst.resolve_right hfirstName)
          (hsecond.resolve_right hsecondName) heq

theorem StateAt.change (h : StateAt before heap state policies names resolved)
    (hname : names name) (hplace : policies name = some place)
    {current : ResolvedPolicy (kindOf name)} {value sources : Nat}
    (hvalue : heap[value]? = some (.policy name current.value))
    (hsources : heap[sources]? = some (.fieldSources name current.fieldSources)) :
    StateAt before (heap.set place (.resolvedPolicy value sources)) state policies names
      (Function.update resolved name current) := by
  rcases h.policyAt name hname with ⟨place', hplace', hle, old⟩
  rw [hplace, Option.some.injEq] at hplace'
  subst hplace'
  rcases old with ⟨oldValue, oldSources, hold, _, _⟩
  refine ⟨prefix_set h.kept hle _, h.fresh, ?_, ?_, h.apart⟩
  · have hne : place ≠ state := by
      intro heq
      rw [heq, h.object] at hold
      cases hold
    rw [List.getElem?_set_ne hne, h.object]
  · intro other hother
    by_cases heq : other = name
    · subst heq
      rw [Function.update_self]
      refine ⟨place, hplace, hle, value, sources, ?_, ?_, ?_⟩
      · exact List.getElem?_set_self (List.getElem?_eq_some_iff.mp hold).1
      · exact getElem?_set_of_state hvalue hold Bool.noConfusion
      · exact getElem?_set_of_state hsources hold Bool.noConfusion
    · rw [Function.update_of_ne heq]
      rcases h.policyAt other hother with ⟨place', hplace', hle', hat'⟩
      refine ⟨place', hplace', hle', hat'.set ?_ hold rfl _⟩
      intro hsame
      rw [← hsame, ← hplace] at hplace'
      exact heq (h.apart other name hother hname hplace')

/-!
## The start
-/

theorem initPolicy_run {systemDefaults : PolicyName -> Nat}
    (h : StateAt before heap state policies names resolved)
    (hdefault : before[systemDefaults name]? = some (.policy name (resolved name).value))
    (hsources : (resolved name).fieldSources = fun _ => systemSource) :
    exists heap' policies', initPolicy state systemDefaults name heap =
        { result := .ok ()
          state := heap'
          commits := [] } ∧
      StateAt before heap' state policies' (fun other => names other ∨ other = name)
        resolved := by
  have hvalue := getElem?_of_prefix h.kept hdefault
  have hsourced := h.append (.fieldSources name (fun _ => systemSource))
  have hpaired := hsourced.append (.resolvedPolicy (systemDefaults name) heap.length)
  have hat : PolicyAt (heap ++ [.fieldSources name (fun _ => systemSource)] ++
      [.resolvedPolicy (systemDefaults name) heap.length]) name (resolved name)
      (heap.length + 1) := by
    refine ⟨systemDefaults name, heap.length, ?_, ?_, ?_⟩
    · exact getElem?_concat_of_length List.length_append _
    · exact getElem?_append_of_some (getElem?_append_of_some hvalue _) _
    · rw [hsources]
      exact getElem?_append_of_some List.getElem?_concat_length _
  have hnew : forall other, names other -> policies other ≠ some (heap.length + 1) := by
    intro other hother heq
    rcases h.policyAt other hother with ⟨place, hplace, _, hold⟩
    rw [hplace, Option.some.injEq] at heq
    have hlt := hold.lt_length
    omega
  refine ⟨_, _, ?_, hpaired.enter (Nat.le_succ_of_le h.kept.length_le) hat hnew⟩
  unfold initPolicy
  rw [load_bind hvalue (asPolicy_policy name _), allocate_bind, allocate_bind,
    load_bind hpaired.object (asResolvedConfig_resolvedConfig policies), List.length_append]
  rfl

theorem forEach_initPolicy_run {systemDefaults : PolicyName -> Nat} {todo : List PolicyName}
    (h : StateAt before heap state policies names resolved)
    (hdefault : forall name, name ∈ todo ->
      before[systemDefaults name]? = some (.policy name (resolved name).value) ∧
        (resolved name).fieldSources = fun _ => systemSource) :
    exists heap' policies', Process.forEach (initPolicy state systemDefaults) todo heap =
        { result := .ok ()
          state := heap'
          commits := [] } ∧
      StateAt before heap' state policies' (fun other => names other ∨ other ∈ todo)
        resolved := by
  induction todo generalizing heap policies names with
  | nil =>
      refine ⟨heap, policies, rfl, ?_⟩
      simpa using h
  | cons name rest ih =>
      rcases hdefault name List.mem_cons_self with ⟨hvalue, hsources⟩
      rcases initPolicy_run h hvalue hsources with ⟨heap', policies', hrun, hstate⟩
      rcases ih hstate (fun other hother => hdefault other (List.mem_cons_of_mem name hother))
        with ⟨final, policies'', hrest, hfinal⟩
      refine ⟨final, policies'', ?_, ?_⟩
      · exact (bind_of_ok hrun _).trans hrest
      · simpa only [List.mem_cons, or_assoc] using hfinal

/-!
## The layers
-/

theorem overridePolicy_run (h : StateAt before heap state policies names resolved)
    (hname : names name) (entry : ConfigLayerEntry) :
    exists heap', before <+: heap' ∧
      match applyPolicy entry resolved name with
      | .ok resolved' =>
          overridePolicy state entry name heap =
            { result := .ok ()
              state := heap'
              commits := [] } ∧
          StateAt before heap' state policies names resolved'
      | .error e =>
          overridePolicy state entry name heap =
            { result := .error e
              state := heap'
              commits := [] } := by
  unfold applyPolicy overridePolicy
  cases entry.config.override name with
  | undefined => exact ⟨heap, h.kept, rfl, h⟩
  | null => exact ⟨heap, h.kept, rfl⟩
  | value override =>
      rcases h.policyAt name hname with ⟨place, hplace, hle, value, sources, hpair, hvalue,
        hsources⟩
      let current := applyOverride (kindOf name) (resolved name) override entry.layerSource
      -- The value is changed before the sources are.
      let halfway : ResolvedPolicy (kindOf name) :=
        { value := current.value
          fieldSources := (resolved name).fieldSources }
      have hmerged := h.append (.policy name current.value)
      have hpair' := getElem?_append_of_some hpair (.policy name current.value)
      have hhalfway : StateAt before _ state policies names
          (Function.update resolved name halfway) :=
        hmerged.change hname hplace (getElem?_concat_of_length rfl _)
          (getElem?_append_of_some hsources _)
      let middle :=
        (heap ++ [ConfigObject.policy name current.value]).set place
          (.resolvedPolicy heap.length sources)
      have hsources' : middle[sources]? =
          some (.fieldSources name (resolved name).fieldSources) :=
        getElem?_set_of_state (getElem?_append_of_some hsources _) hpair' Bool.noConfusion
      have hmergedAt : middle[heap.length]? = some (.policy name current.value) :=
        getElem?_set_of_state (getElem?_concat_of_length rfl _) hpair' Bool.noConfusion
      have hdone : StateAt before _ state policies names
          (Function.update (Function.update resolved name halfway) name current) :=
        (hhalfway.append (.fieldSources name current.fieldSources)).change hname hplace
          (getElem?_append_of_some hmergedAt _) (getElem?_concat_of_length rfl _)
      rw [Function.update_idem] at hdone
      refine ⟨_, hdone.kept, ?_, hdone⟩
      dsimp only
      rw [load_bind h.object (asResolvedConfig_resolvedConfig policies),
        load_bind h.object hplace, load_bind hpair (asResolvedPolicy_resolvedPolicy _ _),
        load_bind hvalue (asPolicy_policy name _), allocate_bind, store_bind]
      exact load_bind hsources' (asFieldSources_fieldSources name _) _

theorem forEach_run {α : Type} {step : ResolvedConfig -> α -> Except ConfigError ResolvedConfig}
    {body : α -> Process (List ConfigObject) ConfigError Unit} {rounds : List α}
    (hbody : forall a, a ∈ rounds -> forall {heap resolved},
      StateAt before heap state policies names resolved ->
      exists heap', before <+: heap' ∧
        match step resolved a with
        | .ok resolved' =>
            body a heap = Ending.mk (.ok ()) heap' [] ∧
            StateAt before heap' state policies names resolved'
        | .error e => body a heap = Ending.mk (.error e) heap' [])
    (h : StateAt before heap state policies names resolved) :
    exists heap', before <+: heap' ∧
      match rounds.foldlM step resolved with
      | .ok resolved' =>
          Process.forEach body rounds heap = Ending.mk (.ok ()) heap' [] ∧
          StateAt before heap' state policies names resolved'
      | .error e => Process.forEach body rounds heap = Ending.mk (.error e) heap' [] := by
  induction rounds generalizing heap resolved with
  | nil => exact ⟨heap, h.kept, rfl, h⟩
  | cons a rest ih =>
      rcases hbody a List.mem_cons_self h with ⟨middle, hmiddle, hround⟩
      rw [List.foldlM_cons]
      cases hstep : step resolved a with
      | error e =>
          rw [hstep] at hround
          exact ⟨middle, hmiddle, bind_of_error hround _⟩
      | ok resolved' =>
          rw [hstep] at hround
          rcases ih (fun b hb => hbody b (List.mem_cons_of_mem a hb)) hround.2 with
            ⟨final, hfinal, hrest⟩
          refine ⟨final, hfinal, ?_⟩
          have hrun : Process.forEach body (a :: rest) heap =
              Process.forEach body rest middle :=
            bind_of_ok hround.1 _
          rw [hrun]
          exact hrest

end StateAt

structure InputsAt (heap : List ConfigObject) (layersPlace defaultsPlace : Nat)
    (layers : List ConfigLayerEntry) (systemDefaults : FactoryConfig) : Prop where
  layers : heap[layersPlace]? = some (.layers layers)
  defaults : exists policies, heap[defaultsPlace]? = some (.factoryConfig policies) ∧
    forall name, heap[policies name]? = some (.policy name (systemDefaults.policy name))

def ResolvedAt (heap : List ConfigObject) (state : Nat) (resolved : ResolvedConfig) : Prop :=
  exists policies, heap[state]? = some (.resolvedConfig policies) ∧
    forall name, exists place, policies name = some place ∧
      PolicyAt heap name (resolved name) place

theorem initialState_run {before : List ConfigObject} {systemDefaults : FactoryConfig}
    {defaults : PolicyName -> Nat}
    (h : forall name, before[defaults name]? = some (.policy name (systemDefaults.policy name))) :
    exists heap policies,
      Process.forEach (initPolicy before.length defaults) policyNames
        (before ++ [.resolvedConfig (fun _ => none)]) = Ending.mk (.ok ()) heap [] ∧
      StateAt before heap before.length policies (fun _ => True)
        (initialState systemDefaults) := by
  have hempty : StateAt before (before ++ [.resolvedConfig (fun _ => none)]) before.length
      (fun _ => none) (fun _ => False) (initialState systemDefaults) := by
    refine ⟨List.prefix_append _ _, Nat.le_refl _, List.getElem?_concat_length, ?_, ?_⟩
    · intro name hname
      exact hname.elim
    · intro name name' hname
      exact hname.elim
  rcases forEach_initPolicy_run hempty (fun name _ => ⟨h name, rfl⟩) with
    ⟨heap, policies, hrun, hstate⟩
  refine ⟨heap, policies, hrun, ?_⟩
  have hnames : (fun other => False ∨ other ∈ policyNames) = (fun _ => True) := by
    funext other
    exact eq_true (Or.inr (mem_policyNames other))
  rw [hnames] at hstate
  exact hstate

/-- The resolver on objects ends as the one on values, and leaves all objects that were there
before as they were. -/
theorem resolveObjects_run {before : List ConfigObject} {layersPlace defaultsPlace : Nat}
    {layers : List ConfigLayerEntry} {systemDefaults : FactoryConfig}
    (h : InputsAt before layersPlace defaultsPlace layers systemDefaults) :
    exists heap, before <+: heap ∧
      match resolveConfig layers systemDefaults with
      | .ok resolved =>
          exists state, resolveObjects layersPlace defaultsPlace before =
            Ending.mk (.ok state) heap [] ∧ ResolvedAt heap state resolved
      | .error e =>
          resolveObjects layersPlace defaultsPlace before = Ending.mk (.error e) heap [] := by
  rcases h.defaults with ⟨defaults, hdefaults, hpolicies⟩
  unfold resolveConfig
  cases hvalid : validateLayerOrder layers with
  | error e =>
      refine ⟨before, List.prefix_refl before, ?_⟩
      unfold resolveObjects
      rw [load_bind h.layers (asLayers_layers layers), hvalid]
      rfl
  | ok _ =>
      rcases initialState_run hpolicies with ⟨heap, policies, hinit, hstate⟩
      have hlayers : exists final, before <+: final ∧
          match layers.foldlM applyLayer (initialState systemDefaults) with
          | .ok resolved' =>
              Process.forEach (fun entry => Process.forEach
                (overridePolicy before.length entry) policyNames) layers heap =
                  Ending.mk (.ok ()) final [] ∧
              StateAt before final before.length policies (fun _ => True) resolved'
          | .error e =>
              Process.forEach (fun entry => Process.forEach
                (overridePolicy before.length entry) policyNames) layers heap =
                  Ending.mk (.error e) final [] :=
        forEach_run (fun entry _ _ _ hstate => forEach_run (fun name _ _ _ hstate =>
          overridePolicy_run hstate trivial entry) hstate) hstate
      rcases hlayers with ⟨final, hkept, hrun⟩
      have hstart : (before ++ [ConfigObject.resolvedConfig (fun _ => none)])[defaultsPlace]? =
          some (.factoryConfig defaults) :=
        getElem?_append_of_some hdefaults _
      have hresult : resolveObjects layersPlace defaultsPlace before =
          (Process.forEach (fun entry => Process.forEach (overridePolicy before.length entry)
            policyNames) layers >>= fun _ => pure before.length) heap := by
        unfold resolveObjects
        rw [load_bind h.layers (asLayers_layers layers), hvalid]
        exact (load_bind hstart (asFactoryConfig_factoryConfig defaults) _).trans
          (bind_of_ok hinit _)
      refine ⟨final, hkept, ?_⟩
      rw [ok_bind]
      cases hpure : layers.foldlM applyLayer (initialState systemDefaults) with
      | error e =>
          rw [hpure] at hrun
          exact hresult.trans (bind_of_error hrun _)
      | ok resolved =>
          rw [hpure] at hrun
          refine ⟨before.length, hresult.trans (bind_of_ok hrun.1 _), policies,
            hrun.2.object, ?_⟩
          intro name
          rcases hrun.2.policyAt name trivial with ⟨place, hplace, _, hat⟩
          exact ⟨place, hplace, hat⟩

end Config
end CopilotFactory
