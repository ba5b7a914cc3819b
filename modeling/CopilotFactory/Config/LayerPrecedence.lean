import CopilotFactory.Config.ConfigObjects

/-!
# Precedence of layers

The merge functions take null for no value, while the recorded sources take it for one.
Each field has the value of the last layer that gives one.  It names that layer, unless a
null stands in its place somewhere, which the types exclude.
-/

namespace CopilotFactory
namespace Config

open Foundations
open Policies

variable {entry : ConfigLayerEntry} {name : PolicyName}

def ConfigLayerEntry.NoNullPolicy (entry : ConfigLayerEntry) : Prop :=
  forall name, entry.config.override name ≠ .null

def ConfigLayerEntry.NoNullField (name : PolicyName) (field : (kindOf name).Field)
    (entry : ConfigLayerEntry) : Prop :=
  forall override, entry.config.override name = .value override ->
    (kindOf name).supplied override field ≠ .null

def ConfigLayerEntry.given (name : PolicyName) (field : (kindOf name).Field)
    (entry : ConfigLayerEntry) : Option ((kindOf name).Value field) :=
  match entry.config.override name with
  | .value override => ((kindOf name).supplied override field).given
  | _ => none

/-- The source that a layer leaves at a field, if it has anything under it. -/
def ConfigLayerEntry.sourceGiven (name : PolicyName) (field : (kindOf name).Field)
    (entry : ConfigLayerEntry) : Option ResolvedFieldSource :=
  match entry.config.override name with
  | .value override =>
      if ((kindOf name).supplied override field).isDefined then some entry.layerSource
      else none
  | _ => none

/-!
## One layer
-/

def resolveStep (name : PolicyName) (current : ResolvedPolicy (kindOf name))
    (entry : ConfigLayerEntry) : ResolvedPolicy (kindOf name) :=
  match entry.config.override name with
  | .value override => applyOverride (kindOf name) current override entry.layerSource
  | _ => current

theorem applyPolicy_eq (h : entry.NoNullPolicy) (state : ResolvedConfig) (name : PolicyName) :
    applyPolicy entry state name =
      .ok (Function.update state name (resolveStep name (state name) entry)) := by
  unfold applyPolicy resolveStep
  cases hoverride : entry.config.override name with
  | undefined =>
      dsimp only
      rw [Function.update_eq_self]
  | null => exact absurd hoverride (h name)
  | value override => rfl

theorem foldlM_applyPolicy (h : entry.NoNullPolicy) {names : List PolicyName}
    (hnames : names.Nodup) (state : ResolvedConfig) :
    exists state', names.foldlM (applyPolicy entry) state = .ok state' ∧
      (forall name, name ∈ names -> state' name = resolveStep name (state name) entry) ∧
      forall name, name ∉ names -> state' name = state name := by
  induction names generalizing state with
  | nil =>
      exact ⟨state, rfl, fun name hname => absurd hname List.not_mem_nil, fun _ _ => rfl⟩
  | cons first rest ih =>
      rw [List.nodup_cons] at hnames
      rcases ih hnames.2 (Function.update state first (resolveStep first (state first) entry))
        with ⟨state', hrun, hchanged, hsame⟩
      refine ⟨state', ?_, ?_, ?_⟩
      · rw [List.foldlM_cons, applyPolicy_eq h]
        exact hrun
      · intro name hname
        rcases List.mem_cons.mp hname with hname | hname
        · rw [hname, hsame first hnames.1, Function.update_self]
        · have hne : name ≠ first := by
            intro heq
            rw [heq] at hname
            exact hnames.1 hname
          rw [hchanged name hname, Function.update_of_ne hne]
      · intro name hname
        rw [List.mem_cons, not_or] at hname
        rw [hsame name hname.2, Function.update_of_ne hname.1]

theorem applyLayer_eq (h : entry.NoNullPolicy) (state : ResolvedConfig) :
    applyLayer state entry = .ok (fun name => resolveStep name (state name) entry) := by
  rcases foldlM_applyPolicy h policyNames_nodup state with ⟨state', hrun, hchanged, _⟩
  rw [applyLayer, hrun]
  exact congrArg Except.ok (funext fun name => hchanged name (mem_policyNames name))

/-- The layers make of each policy what they make of it alone. -/
theorem foldlM_applyLayer {layers : List ConfigLayerEntry}
    (h : forall entry, entry ∈ layers -> entry.NoNullPolicy) (state : ResolvedConfig) :
    layers.foldlM applyLayer state =
      .ok (fun name => layers.foldl (resolveStep name) (state name)) := by
  induction layers generalizing state with
  | nil => rfl
  | cons entry rest ih =>
      rw [List.foldlM_cons, applyLayer_eq (h entry List.mem_cons_self)]
      exact ih (fun other hother => h other (List.mem_cons_of_mem entry hother)) _

/-!
## One field
-/

theorem get_resolveStep (name : PolicyName) (field : (kindOf name).Field)
    (current : ResolvedPolicy (kindOf name)) (entry : ConfigLayerEntry) :
    (kindOf name).get (resolveStep name current entry).value field =
      overlay (ConfigLayerEntry.given name field)
        ((kindOf name).get current.value field) entry := by
  unfold resolveStep overlay ConfigLayerEntry.given
  cases entry.config.override name with
  | undefined => rfl
  | null => rfl
  | value override =>
      exact ((kindOf name).get_merge current.value override field).trans
        (Supplied.coalesce_eq _ _)

theorem fieldSources_resolveStep (name : PolicyName) (field : (kindOf name).Field)
    (current : ResolvedPolicy (kindOf name)) (entry : ConfigLayerEntry) :
    (resolveStep name current entry).fieldSources field =
      overlay (ConfigLayerEntry.sourceGiven name field) (current.fieldSources field)
        entry := by
  unfold resolveStep overlay ConfigLayerEntry.sourceGiven
  cases entry.config.override name with
  | undefined => rfl
  | null => rfl
  | value override =>
      dsimp only [applyOverride, updateFieldSources]
      split
      · rfl
      · rfl

theorem get_foldl (name : PolicyName) (field : (kindOf name).Field)
    (layers : List ConfigLayerEntry) (current : ResolvedPolicy (kindOf name)) :
    (kindOf name).get (layers.foldl (resolveStep name) current).value field =
      layers.foldl (overlay (ConfigLayerEntry.given name field))
        ((kindOf name).get current.value field) := by
  induction layers generalizing current with
  | nil => rfl
  | cons entry rest ih =>
      rw [List.foldl_cons, List.foldl_cons, ih, get_resolveStep]

theorem fieldSources_foldl (name : PolicyName) (field : (kindOf name).Field)
    (layers : List ConfigLayerEntry) (current : ResolvedPolicy (kindOf name)) :
    (layers.foldl (resolveStep name) current).fieldSources field =
      layers.foldl (overlay (ConfigLayerEntry.sourceGiven name field))
        (current.fieldSources field) := by
  induction layers generalizing current with
  | nil => rfl
  | cons entry rest ih =>
      rw [List.foldl_cons, List.foldl_cons, ih, fieldSources_resolveStep]

/-- Without a null the layer leaves its source where it gives a value, and only there. -/
theorem sourceGiven_eq {field : (kindOf name).Field} (h : entry.NoNullField name field) :
    entry.sourceGiven name field =
      (entry.given name field).map (fun _ => entry.layerSource) := by
  unfold ConfigLayerEntry.sourceGiven ConfigLayerEntry.given
  cases hoverride : entry.config.override name with
  | undefined => rfl
  | null => rfl
  | value override =>
      have hnull := h override hoverride
      dsimp only
      cases hsupplied : (kindOf name).supplied override field with
      | undefined => rfl
      | null => exact absurd hsupplied hnull
      | value value => rfl

/-!
## The order of the layers
-/

def precedenceOf (entry : ConfigLayerEntry) : Option Nat :=
  configLayerPrecedence.idxOf? entry.layer

def Known (entry : ConfigLayerEntry) : Prop :=
  entry.layer ∈ configLayerPrecedence

def InOrder (layers : List ConfigLayerEntry) : Prop :=
  layers.Pairwise (fun earlier later => forall p q, precedenceOf earlier = some p ->
    precedenceOf later = some q -> p ≤ q)

theorem known_iff : Known entry <-> exists p, precedenceOf entry = some p := by
  unfold Known precedenceOf
  rw [← Option.isSome_iff_exists, List.isSome_idxOf?]

theorem getLayerPrecedence_eq_ok {p : Nat} :
    getLayerPrecedence entry.layer = .ok p <-> precedenceOf entry = some p := by
  unfold getLayerPrecedence precedenceOf
  cases configLayerPrecedence.idxOf? entry.layer with
  | none => simp
  | some index => simp

theorem validateLayersFrom_eq_ok {layers : List ConfigLayerEntry} {last : Nat} :
    validateLayersFrom last layers = .ok () <->
      (forall entry, entry ∈ layers -> Known entry ∧
        forall p, precedenceOf entry = some p -> last ≤ p) ∧ InOrder layers := by
  induction layers generalizing last with
  | nil => simp [validateLayersFrom, InOrder]
  | cons entry rest ih =>
      simp only [validateLayersFrom, bind_eq_ok, getLayerPrecedence_eq_ok]
      constructor
      · intro h
        rcases h with ⟨p, hp, h⟩
        split at h
        · cases h
        · rename_i hle
          rcases ih.mp h with ⟨hrest, horder⟩
          refine ⟨?_, List.pairwise_cons.mpr ⟨?_, horder⟩⟩
          · intro other hother
            rcases List.mem_cons.mp hother with hother | hother
            · rw [hother]
              refine ⟨known_iff.mpr ⟨p, hp⟩, ?_⟩
              intro q hq
              rw [hp] at hq
              cases hq
              exact Nat.not_lt.mp hle
            · refine ⟨(hrest other hother).1, ?_⟩
              intro q hq
              exact Nat.le_trans (Nat.not_lt.mp hle) ((hrest other hother).2 q hq)
          · intro other hother p' q hp' hq
            rw [hp] at hp'
            cases hp'
            exact (hrest other hother).2 q hq
      · intro h
        rcases h with ⟨hall, horder⟩
        rcases List.pairwise_cons.mp horder with ⟨hfirst, hrest⟩
        rcases hall entry List.mem_cons_self with ⟨hknown, hlast⟩
        rcases known_iff.mp hknown with ⟨p, hp⟩
        refine ⟨p, hp, ?_⟩
        rw [if_neg (Nat.not_lt.mpr (hlast p hp))]
        refine ih.mpr ⟨?_, hrest⟩
        intro other hother
        exact ⟨(hall other (List.mem_cons_of_mem entry hother)).1,
          fun q hq => hfirst other hother p q hp hq⟩

theorem validateLayerOrder_eq_ok {layers : List ConfigLayerEntry} :
    validateLayerOrder layers = .ok () <->
      (forall entry, entry ∈ layers -> Known entry) ∧ InOrder layers := by
  unfold validateLayerOrder
  rw [validateLayersFrom_eq_ok]
  refine and_congr_left' (forall₂_congr fun entry _ => ?_)
  exact and_iff_left (fun p _ => Nat.zero_le p)

theorem noNullPolicy_of_applyLayer {state state' : ResolvedConfig}
    (h : applyLayer state entry = .ok state') : entry.NoNullPolicy := by
  intro name hnull
  rcases foldlM_ok_round h (mem_policyNames name) with ⟨before, after, hround⟩
  rw [applyPolicy, hnull] at hround
  cases hround

theorem resolveConfig_eq_ok {layers : List ConfigLayerEntry} {systemDefaults : FactoryConfig}
    {resolved : ResolvedConfig} :
    resolveConfig layers systemDefaults = .ok resolved <->
      ((forall entry, entry ∈ layers -> Known entry) ∧ InOrder layers ∧
        forall entry, entry ∈ layers -> entry.NoNullPolicy) ∧
        resolved = fun name =>
          layers.foldl (resolveStep name) (initialState systemDefaults name) := by
  unfold resolveConfig
  rw [bind_eq_ok]
  constructor
  · intro h
    rcases h with ⟨_, hvalid, hrun⟩
    rcases validateLayerOrder_eq_ok.mp hvalid with ⟨hknown, horder⟩
    have hnull : forall entry, entry ∈ layers -> entry.NoNullPolicy := by
      intro entry hentry
      rcases foldlM_ok_round hrun hentry with ⟨before, after, hround⟩
      exact noNullPolicy_of_applyLayer hround
    rw [foldlM_applyLayer hnull, Except.ok.injEq] at hrun
    exact ⟨⟨hknown, horder, hnull⟩, hrun.symm⟩
  · intro h
    rcases h with ⟨⟨hknown, horder, hnull⟩, hresolved⟩
    refine ⟨(), validateLayerOrder_eq_ok.mpr ⟨hknown, horder⟩, ?_⟩
    rw [foldlM_applyLayer hnull, hresolved]

/-!
## The resolution of the layers
-/

section Resolution

variable {layers : List ConfigLayerEntry} {systemDefaults : FactoryConfig}
  {resolved : ResolvedConfig}

/-- The value and the source of a field are those of the last layer that gives a value, or
else those of the defaults. -/
structure FieldResolved (layers : List ConfigLayerEntry) (systemDefaults : FactoryConfig)
    (resolved : ResolvedConfig) (name : PolicyName) (field : (kindOf name).Field) : Prop where
  of_last : forall entry value,
    LastGives (ConfigLayerEntry.given name field) layers entry value ->
      (kindOf name).get (resolved name).value field = value ∧
        (resolved name).fieldSources field = entry.layerSource
  of_none : (forall entry, entry ∈ layers -> entry.given name field = none) ->
    (kindOf name).get (resolved name).value field =
        (kindOf name).get (systemDefaults.policy name) field ∧
      (resolved name).fieldSources field = systemSource

theorem lastGives_sourceGiven {field : (kindOf name).Field}
    (hnull : forall entry, entry ∈ layers -> entry.NoNullField name field)
    {value : (kindOf name).Value field}
    (h : LastGives (ConfigLayerEntry.given name field) layers entry value) :
    LastGives (ConfigLayerEntry.sourceGiven name field) layers entry entry.layerSource := by
  rcases h.last with ⟨front, back, hlayers, hback⟩
  refine ⟨?_, front, back, hlayers, ?_⟩
  · have hentry : entry ∈ layers := by
      rw [hlayers]
      exact List.mem_append_right front List.mem_cons_self
    rw [sourceGiven_eq (hnull entry hentry), h.gives]
    rfl
  · intro other hother
    have hlayer : other ∈ layers := by
      rw [hlayers]
      exact List.mem_append_right front (List.mem_cons_of_mem entry hother)
    rw [sourceGiven_eq (hnull other hlayer), hback other hother]
    rfl

theorem fieldResolved (h : resolveConfig layers systemDefaults = .ok resolved)
    {field : (kindOf name).Field}
    (hnull : forall entry, entry ∈ layers -> entry.NoNullField name field) :
    FieldResolved layers systemDefaults resolved name field := by
  rw [(resolveConfig_eq_ok.mp h).2]
  constructor
  · intro entry value hlast
    rw [get_foldl, fieldSources_foldl]
    exact ⟨foldl_overlay_of_last hlast _,
      foldl_overlay_of_last (lastGives_sourceGiven hnull hlast) _⟩
  · intro hnone
    rw [get_foldl, fieldSources_foldl]
    refine ⟨foldl_overlay_of_none hnone _, foldl_overlay_of_none ?_ _⟩
    intro entry hentry
    rw [sourceGiven_eq (hnull entry hentry), hnone entry hentry]
    rfl

/-- The later layers, applied to the values that the earlier ones leave, give the same values,
and the same sources where they have anything. -/
structure ResolvedInTwo (front back : List ConfigLayerEntry) (systemDefaults : FactoryConfig)
    (resolved first second : ResolvedConfig) : Prop where
  front_ok : resolveConfig front systemDefaults = .ok first
  back_ok : resolveConfig back (extractValues first) = .ok second
  values : extractValues second = extractValues resolved
  sources : forall name field,
    (exists entry, entry ∈ back ∧ entry.sourceGiven name field ≠ none) ->
      (second name).fieldSources field = (resolved name).fieldSources field

theorem resolvedInTwo {front back : List ConfigLayerEntry}
    (h : resolveConfig (front ++ back) systemDefaults = .ok resolved) :
    exists first second, ResolvedInTwo front back systemDefaults resolved first second := by
  rcases resolveConfig_eq_ok.mp h with ⟨⟨hknown, horder, hnull⟩, hresolved⟩
  rcases List.pairwise_append.mp horder with ⟨hfront, hback, _⟩
  refine ⟨_, _, resolveConfig_eq_ok.mpr ⟨⟨?_, hfront, ?_⟩, rfl⟩,
    resolveConfig_eq_ok.mpr ⟨⟨?_, hback, ?_⟩, rfl⟩, ?_, ?_⟩
  · exact fun entry hentry => hknown entry (List.mem_append_left back hentry)
  · exact fun entry hentry => hnull entry (List.mem_append_left back hentry)
  · exact fun entry hentry => hknown entry (List.mem_append_right front hentry)
  · exact fun entry hentry => hnull entry (List.mem_append_right front hentry)
  · apply FactoryConfig.ext_policy
    intro name
    apply (kindOf name).ext
    intro field
    rw [extractValues_policy, extractValues_policy, hresolved]
    dsimp only
    rw [List.foldl_append, get_foldl, get_foldl]
    dsimp only [initialState]
    rw [extractValues_policy]
  · intro name field hgiven
    rcases hgiven with ⟨entry, hentry, hgiven⟩
    rw [hresolved]
    dsimp only
    rw [List.foldl_append, fieldSources_foldl, fieldSources_foldl]
    exact foldl_overlay_congr hentry hgiven _ _

theorem resolveConfig_eq_error :
    (exists e, resolveConfig layers systemDefaults = .error e) <->
      (exists entry, entry ∈ layers ∧ ¬ Known entry) ∨ ¬ InOrder layers ∨
        exists entry, entry ∈ layers ∧ exists name, entry.config.override name = .null := by
  have hok : (exists e, resolveConfig layers systemDefaults = .error e) <->
      ¬ exists resolved, resolveConfig layers systemDefaults = .ok resolved := by
    cases resolveConfig layers systemDefaults with
    | error e => simp
    | ok resolved => simp
  rw [hok]
  simp only [resolveConfig_eq_ok, exists_and_left, exists_eq, and_true, not_and_or, not_forall,
    ConfigLayerEntry.NoNullPolicy, not_not, exists_prop]

end Resolution

/-- The resolver throws exactly when a layer is unknown, the layers are out of order, or null
stands in the place of a policy.  Otherwise each field, in whose place no layer has null, has
the value of the last layer that gives one and names that layer, layers can be applied in two
parts, and no object of the input is changed. -/
theorem resolveConfig_by_precedence (layers : List ConfigLayerEntry)
    (systemDefaults : FactoryConfig) :
    ((exists e, resolveConfig layers systemDefaults = .error e) <->
      (exists entry, entry ∈ layers ∧ ¬ Known entry) ∨ ¬ InOrder layers ∨
        exists entry, entry ∈ layers ∧ exists name, entry.config.override name = .null) ∧
    (forall resolved, resolveConfig layers systemDefaults = .ok resolved ->
      (forall name field,
        (forall entry, entry ∈ layers -> entry.NoNullField name field) ->
          FieldResolved layers systemDefaults resolved name field) ∧
      forall front back, layers = front ++ back ->
        exists first second, ResolvedInTwo front back systemDefaults resolved first second) ∧
    forall before layersPlace defaultsPlace,
      InputsAt before layersPlace defaultsPlace layers systemDefaults ->
        exists heap, before <+: heap ∧
          match resolveConfig layers systemDefaults with
          | .ok resolved =>
              exists state, resolveObjects layersPlace defaultsPlace before =
                Ending.mk (.ok state) heap [] ∧ ResolvedAt heap state resolved
          | .error e =>
              resolveObjects layersPlace defaultsPlace before =
                Ending.mk (.error e) heap [] := by
  refine ⟨resolveConfig_eq_error, ?_, ?_⟩
  · intro resolved h
    refine ⟨fun name field hnull => fieldResolved h hnull, ?_⟩
    intro front back hlayers
    rw [hlayers] at h
    exact resolvedInTwo h
  · intro before layersPlace defaultsPlace h
    exact resolveObjects_run h

def bareDefaults : FactoryConfig where
  commandPolicy := CommandPolicy.mk .allowlist [] [] [] false .denyCommand
  fileScopePolicy := FileScopePolicy.mk [] [] [] false false .failRun
  validationPolicy := { profiles := [] }
  retryPolicy := RetryPolicy.mk 2 "exponential" 60 900 true true true
  escalationPolicy := EscalationPolicy.mk [] "operator" true
  leasePolicy := LeasePolicy.mk 1800 30 2 15 "mark_timed_out_and_requeue"
  retentionPolicy := RetentionPolicy.mk 24 30 true true
  reviewPolicy := ReviewPolicy.mk 3 ["general"] [] true

def nullAttempts : ConfigLayerEntry where
  layer := "task"
  source := "task:1"
  config := { retryPolicy := .value { maxAttempts := .null } }

def nullPolicy : ConfigLayerEntry where
  layer := "task"
  source := "task:1"
  config := { retryPolicy := .null }

/-- A null field names its layer and keeps the default, and a null policy throws although its
layer is known and alone. -/
theorem null_overrides_break_precedence :
    (exists resolved, resolveConfig [nullAttempts] bareDefaults = .ok resolved ∧
      (resolved .retryPolicy).value.maxAttempts = 2 ∧
      (resolved .retryPolicy).fieldSources .maxAttempts = nullAttempts.layerSource) ∧
    Known nullPolicy ∧ InOrder [nullPolicy] ∧
    resolveConfig [nullPolicy] bareDefaults = .error .typeError := by
  have hknown : Known nullPolicy := by
    unfold Known
    decide
  exact ⟨⟨_, rfl, rfl, rfl⟩, hknown, List.pairwise_singleton _ _, rfl⟩

end Config
end CopilotFactory
