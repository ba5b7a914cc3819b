import CopilotFactory.Dependencies.FollowUpTaskService

/-!
# The dependency graph stays acyclic

The operations that write dependencies, together with all requests of the
control plane, as a transition system.  Adding a dependency, removing one and
creating follow-ups keep the graph acyclic.  An import does exactly when each row
that it inserts would have passed the check of `addDependency`.
-/

namespace CopilotFactory
namespace Dependencies

open Relation
open Foundations
open Infrastructure
open Application
open ControlPlane

/-!
## Requests
-/

variable {g : TaskGraph} {c : Catalog}

inductive PlanRequest where
  | controlPlane (request : Request)
  | createTask (dto : CreateTaskDto) (externalRef : Option String)
  | updateTask (taskId : TaskId) (dto : UpdateTaskDto)
      (externalRef : Option (Option String))
  | addDependency (taskDependencyId : TaskDependencyId) (params : AddDependencyParams)
  | removeDependency (taskDependencyId : TaskDependencyId)
  | execute (request : ExecuteRequest)
  | createFollowUpTasks (params : CreateFollowUpTasksParams)

def Catalog.updateExternalRef (c : Catalog) (taskId : TaskId) :
    Option (Option String) -> Catalog
  | none => c
  | some externalRef =>
      if (c.graph.store.findTask taskId).isSome then
        c.setExternalRef taskId externalRef
      else
        c

theorem updateExternalRef_graph (c : Catalog) (taskId : TaskId)
    (externalRef : Option (Option String)) :
    (c.updateExternalRef taskId externalRef).graph = c.graph := by
  cases externalRef with
  | none =>
      rfl
  | some externalRef =>
      simp only [Catalog.updateExternalRef]
      split
      · rfl
      · rfl

def plan (c : Catalog) : PlanRequest -> Except ServiceError Catalog
  | .controlPlane request => do
      let graph ← c.graph.perform request
      pure { c with graph := graph }
  | .createTask dto externalRef => c.createTask (newTask dto) externalRef
  | .updateTask taskId dto externalRef => do
      let graph ← c.graph.perform (.updateTask taskId dto)
      pure ({ c with graph := graph }.updateExternalRef taskId externalRef)
  | .addDependency taskDependencyId params => do
      let (graph, _) ← addDependency taskDependencyId params c.graph
      pure { c with graph := graph }
  | .removeDependency taskDependencyId =>
      .ok { c with graph := (removeDependency taskDependencyId c.graph).1 }
  | .execute request => (execute request c).map Prod.fst
  | .createFollowUpTasks params => do
      let (graph, _) ← createFollowUpTasks params c.graph
      pure { c with graph := graph }

def planning : TransitionSystem Catalog PlanRequest ServiceError where
  step := plan

structure SoundDependencies (g : TaskGraph) : Prop where
  acyclic : Acyclic g.Edge
  noSelfLoop : forall taskId, ¬ g.Edge taskId taskId
  noDuplicate : (g.taskDependencies.rows.map TaskDependency.pair).Nodup

theorem soundDependencies_iff : SoundDependencies g <-> Acyclic g.Edge := by
  constructor
  · intro h
    exact h.acyclic
  · intro h
    exact ⟨h, h.irrefl, g.uniquePairs⟩

/-!
## Rows that pass the check of `addDependency`
-/

/-- What `addDependency` checks before it inserts: the task does not wait for itself, and
no path leads back from the prerequisite. -/
def PassesCheck (g : TaskGraph) (d : TaskDependency) : Prop :=
  d.taskId ≠ d.dependsOnTaskId ∧ detectCycle d.dependsOnTaskId d.taskId g = none

theorem passesCheck_iff {d : TaskDependency} :
    PassesCheck g d <-> ¬ ReflTransGen g.Edge d.dependsOnTaskId d.taskId := by
  unfold PassesCheck
  constructor
  · intro h
    rcases h with ⟨hne, hcycle⟩
    exact (detectCycle_eq_none_iff hne.symm).mp hcycle
  · intro h
    have hne : d.taskId ≠ d.dependsOnTaskId := by
      intro heq
      rw [heq] at h
      exact h ReflTransGen.refl
    exact ⟨hne, (detectCycle_eq_none_iff hne.symm).mpr h⟩

/-- An inserted row keeps the graph acyclic exactly when it passes the check. -/
theorem acyclic_createDependency_iff {g' : TaskGraph} {d : TaskDependency}
    (h : g.createDependency d = .ok g') :
    Acyclic g'.Edge <-> Acyclic g.Edge ∧ PassesCheck g d := by
  rw [TaskGraph.edge_createDependency h, acyclic_addEdge_iff, passesCheck_iff]

/-- Insert rows one after the other, leaving out those that violate a key. -/
def insertRows (g : TaskGraph) (rows : List TaskDependency) : TaskGraph :=
  rows.foldl (fun g d => (g.createDependency d).toOption.getD g) g

def InsertsChecked : TaskGraph -> List TaskDependency -> Prop
  | _, [] => True
  | g, d :: rest =>
      match g.createDependency d with
      | .ok g' => PassesCheck g d ∧ InsertsChecked g' rest
      | .error _ => InsertsChecked g rest

theorem acyclic_of_insertRows {rows : List TaskDependency}
    (h : Acyclic (insertRows g rows).Edge) : Acyclic g.Edge := by
  induction rows generalizing g with
  | nil =>
      exact h
  | cons d rest ih =>
      have hrest := ih h
      cases hcreate : g.createDependency d with
      | error e =>
          simpa [hcreate, Except.toOption] using hrest
      | ok g' =>
          simp only [hcreate, Except.toOption, Option.getD_some] at hrest
          exact ((acyclic_createDependency_iff hcreate).mp hrest).1

theorem acyclic_insertRows_iff {rows : List TaskDependency} (hg : Acyclic g.Edge) :
    Acyclic (insertRows g rows).Edge <-> InsertsChecked g rows := by
  induction rows generalizing g with
  | nil =>
      exact iff_of_true hg trivial
  | cons d rest ih =>
      unfold InsertsChecked
      cases hcreate : g.createDependency d with
      | error e =>
          have hstep : insertRows g (d :: rest) = insertRows g rest := by
            simp [insertRows, hcreate, Except.toOption]
          rw [hstep]
          exact ih hg
      | ok g' =>
          have hstep : insertRows g (d :: rest) = insertRows g' rest := by
            simp [insertRows, hcreate, Except.toOption]
          rw [hstep]
          constructor
          · intro h
            have hg' := acyclic_of_insertRows h
            exact ⟨((acyclic_createDependency_iff hcreate).mp hg').2, (ih hg').mp h⟩
          · intro h
            have hg' := (acyclic_createDependency_iff hcreate).mpr ⟨hg, h.1⟩
            exact (ih hg').mpr h.2

/-!
## What an import inserts
-/

/-- The rows of the dependencies that a task of an import names and that are found. -/
def namedDependencies (refs : ExternalRefs) (importedTask : ImportedTask) :
    List TaskDependency :=
  match wiringTask refs importedTask with
  | none => []
  | some (_, taskId) =>
      importedTask.dependencies.filterMap (fun dependency =>
        (truthy (refs.lookup dependency.ref)).map (fun depTaskId =>
          wiredDependency taskId depTaskId dependency))

theorem insertRows_append (g : TaskGraph) (rows rows' : List TaskDependency) :
    insertRows g (rows ++ rows') = insertRows (insertRows g rows) rows' := by
  simp [insertRows, List.foldl_append]

theorem wireDependency_graph (refs : ExternalRefs) (ref : String) (taskId : TaskId)
    (dependencies : List ImportedDependency) (progress : TaskGraph × List String) :
    (dependencies.foldl (wireDependency refs ref taskId) progress).1 =
      insertRows progress.1 (dependencies.filterMap (fun dependency =>
        (truthy (refs.lookup dependency.ref)).map (fun depTaskId =>
          wiredDependency taskId depTaskId dependency))) := by
  induction dependencies generalizing progress with
  | nil =>
      rfl
  | cons dependency rest ih =>
      rw [List.foldl_cons, ih, List.filterMap_cons]
      unfold wireDependency
      cases hlookup : truthy (refs.lookup dependency.ref) with
      | none =>
          simp only [Option.map_none]
      | some depTaskId =>
          simp only [Option.map_some, insertRows, List.foldl_cons]
          cases hcreate : progress.1.createDependency
              (wiredDependency taskId depTaskId dependency) with
          | error e =>
              simp only [Except.toOption, Option.getD_none]
          | ok graph =>
              simp only [Except.toOption, Option.getD_some]

theorem wireTask_graph (refs : ExternalRefs) (tasks : List ImportedTask)
    (progress : TaskGraph × List String) :
    (tasks.foldl (wireTask refs) progress).1 =
      insertRows progress.1 (tasks.flatMap (namedDependencies refs)) := by
  induction tasks generalizing progress with
  | nil =>
      rfl
  | cons importedTask rest ih =>
      rw [List.foldl_cons, ih, List.flatMap_cons, insertRows_append]
      have hfirst : (wireTask refs progress importedTask).1 =
          insertRows progress.1 (namedDependencies refs importedTask) := by
        unfold wireTask namedDependencies
        cases wiringTask refs importedTask with
        | none =>
            rfl
        | some found =>
            exact wireDependency_graph refs found.1 found.2 _ progress
      rw [hfirst]

def ImportChecked (request : ExecuteRequest) (c : Catalog) : Prop :=
  forall prepared, prepareImport request c = .ok prepared ->
    InsertsChecked prepared.progress.catalog.graph
      (request.tasks.flatMap
        (namedDependencies prepared.progress.externalRefToTaskId))

/-- Only imports are constrained. -/
def CycleChecked (c : Catalog) : PlanRequest -> Prop
  | .execute request => ImportChecked request c
  | _ => True

/-!
## One request
-/

/-- A task that did not exist waits for one that did: no path leads back. -/
theorem createFollowUps_acyclic {params : CreateFollowUpTasksParams} {sourceTask : Task}
    {n : Nat} {blueprints : List FollowUpTaskBlueprint} {g' : TaskGraph}
    {followUps : List CreatedFollowUp}
    (hsource : (g.store.findTask params.sourceTaskId).isSome = true) (hg : Acyclic g.Edge)
    (h : createFollowUps params sourceTask n blueprints g = .ok (g', followUps)) :
    Acyclic g'.Edge := by
  induction blueprints generalizing n g followUps with
  | nil =>
      cases h
      exact hg
  | cons blueprint rest ih =>
      simp only [createFollowUps, bind_eq_ok, pure_eq_ok, Prod.mk.injEq] at h
      rcases h with ⟨⟨g₁, followUp⟩, hfirst, ⟨g₂, others⟩, hrest, hg₂, _⟩
      rcases createFollowUp_spec hfirst with ⟨taskId, hnew, hsource₁, hedge⟩
      have hback : ¬ ReflTransGen g.Edge params.sourceTaskId taskId := by
        intro hpath
        rcases ReflTransGen.cases_tail hpath with heq | ⟨_, _, hlast⟩
        · rw [← heq, hnew] at hsource
          cases hsource
        · have hexists := (TaskGraph.exists_of_edge hlast).2
          rw [hnew] at hexists
          cases hexists
      have hg₁ : Acyclic g₁.Edge := by
        rw [hedge]
        exact acyclic_addEdge_iff.mpr ⟨hg, hback⟩
      dsimp only at hg₂
      rw [hg₂] at hrest
      exact ih hsource₁ hg₁ hrest

theorem acyclic_of_plan {c' : Catalog} {r : PlanRequest}
    (hr : forall request, r ≠ .execute request) (hc : Acyclic c.graph.Edge)
    (h : plan c r = .ok c') : Acyclic c'.graph.Edge := by
  have hkept : forall g : TaskGraph, g.taskDependencies = c.graph.taskDependencies ->
      Acyclic g.Edge := by
    intro g hg
    rw [TaskGraph.edge_of_taskDependencies_eq hg]
    exact hc
  cases r with
  | controlPlane request =>
      simp only [plan, bind_eq_ok, pure_eq_ok] at h
      rcases h with ⟨graph, hgraph, hc'⟩
      rw [← hc']
      exact hkept graph (TaskGraph.perform_spec hgraph).2
  | createTask dto externalRef =>
      exact hkept c'.graph (Catalog.createTask_graph h)
  | updateTask taskId dto externalRef =>
      simp only [plan, bind_eq_ok, pure_eq_ok] at h
      rcases h with ⟨graph, hgraph, hc'⟩
      rw [← hc', updateExternalRef_graph]
      exact hkept graph (TaskGraph.perform_spec hgraph).2
  | addDependency taskDependencyId params =>
      simp only [plan, bind_eq_ok, pure_eq_ok] at h
      rcases h with ⟨⟨graph, dependency⟩, hadd, hc'⟩
      rcases addDependency_spec hadd with ⟨_, hback, htask, hprerequisite, hcreate⟩
      rw [← hc', TaskGraph.edge_createDependency hcreate, htask, hprerequisite]
      exact acyclic_addEdge_iff.mpr ⟨hc, hback⟩
  | removeDependency taskDependencyId =>
      cases h
      exact hc.mono (fun _ _ hedge => TaskGraph.edge_deleteDependency hedge)
  | execute request =>
      exact absurd rfl (hr request)
  | createFollowUpTasks params =>
      simp only [plan, createFollowUpTasks, bind_eq_ok, orThrow_eq_ok, pure_eq_ok] at h
      rcases h with ⟨⟨graph, followUps⟩, ⟨sourceTask, hsource, hcreate⟩, hc'⟩
      have hsome : (c.graph.store.findTask params.sourceTaskId).isSome = true := by
        rw [hsource]
        rfl
      rw [← hc']
      exact createFollowUps_acyclic hsome hc hcreate

/-- An import keeps the graph acyclic exactly when the rows that it inserts pass the
check. -/
theorem acyclic_execute_iff {request : ExecuteRequest} (hc : Acyclic c.graph.Edge) :
    Acyclic (planning.next c (.execute request)).graph.Edge <->
      ImportChecked request c := by
  unfold ImportChecked
  cases hprepare : prepareImport request c with
  | error e =>
      have hnext : planning.next c (.execute request) = c := by
        apply planning.next_of_error (e := e)
        simp [planning, plan, execute, hprepare, Except.map]
      rw [hnext]
      simp [hc]
  | ok prepared =>
      have hdependencies : Acyclic prepared.progress.catalog.graph.Edge := by
        rw [TaskGraph.edge_of_taskDependencies_eq (prepareImport_taskDependencies hprepare)]
        exact hc
      have hnext : (planning.next c (.execute request)).graph =
          insertRows prepared.progress.catalog.graph
            (request.tasks.flatMap
              (namedDependencies prepared.progress.externalRefToTaskId)) := by
        rw [← wireTask_graph prepared.progress.externalRefToTaskId request.tasks
          (prepared.progress.catalog.graph, [])]
        simp [TransitionSystem.next, planning, plan, execute, hprepare, Except.map]
      rw [hnext, acyclic_insertRows_iff hdependencies]
      simp

theorem acyclic_next_iff {r : PlanRequest} (hc : Acyclic c.graph.Edge) :
    Acyclic (planning.next c r).graph.Edge <-> CycleChecked c r := by
  by_cases hr : exists request, r = .execute request
  · rcases hr with ⟨request, hr⟩
    rw [hr]
    exact acyclic_execute_iff hc
  · have hr' : forall request, r ≠ .execute request := by
      intro request heq
      exact hr ⟨request, heq⟩
    apply iff_of_true
    · refine planning.next_cases hc ?_
      intro c' hstep
      exact acyclic_of_plan hr' hc hstep
    · cases r with
      | execute request =>
          exact absurd rfl (hr' request)
      | _ =>
          trivial

/-!
## All runs
-/

theorem acyclic_empty_catalog : Acyclic Catalog.empty.graph.Edge := by
  have hnone : forall x y, Catalog.empty.graph.Edge x y -> False := by
    intro x y hedge
    rcases hedge with ⟨d, hd, _⟩
    exact Table.not_mem_empty d hd
  exact acyclic_empty.mono hnone

/-- From an empty database, the stored dependencies are sound in every state of a run
exactly when each row that an import of the run inserts passes the check of
`addDependency`. -/
theorem sound_dependencies_iff_imports_checked (requests : List PlanRequest) :
    (forall c, c ∈ planning.states Catalog.empty requests ->
        SoundDependencies c.graph) <->
      forall x, x ∈ planning.arrivals Catalog.empty requests -> CycleChecked x.1 x.2 := by
  simp only [soundDependencies_iff]
  apply TransitionSystem.states_iff_arrivals (fun _ => True) (fun _ => True)
    (fun c : Catalog => Acyclic c.graph.Edge) CycleChecked
  · intro _ _ _ _ _ _
    trivial
  · intro c r _ _ hc
    exact acyclic_next_iff hc
  · intro _ _
    trivial
  · trivial
  · exact acyclic_empty_catalog

def mutualImport : ExecuteRequest where
  tasks :=
    [{ taskId := "task-1"
       taskType := "feature"
       externalRef := some "T001"
       dependencies := [{ ref := "T002", taskDependencyId := "dependency-1" }] },
     { taskId := "task-2"
       taskType := "feature"
       externalRef := some "T002"
       dependencies := [{ ref := "T001", taskDependencyId := "dependency-2" }] }]
  projectName := "factory"
  newProjectId := "project-1"
  newRepositoryId := "repository-1"

/-- An import from an empty database that leaves a cycle behind. -/
theorem mutual_import_closes_cycle :
    ¬ forall requests c, c ∈ planning.states Catalog.empty requests ->
        SoundDependencies c.graph := by
  intro h
  have hsound := h [.execute mutualImport] _ (planning.run_mem_states _ _)
  have hfirst : (planning.run Catalog.empty [.execute mutualImport]).graph.Edge
      "task-1" "task-2" := by
    refine ⟨wiredDependency "task-1" "task-2"
      { ref := "T002", taskDependencyId := "dependency-1" }, ?_, rfl, rfl⟩
    rw [Table.mem_def]
    decide +kernel
  have hsecond : (planning.run Catalog.empty [.execute mutualImport]).graph.Edge
      "task-2" "task-1" := by
    refine ⟨wiredDependency "task-2" "task-1"
      { ref := "T001", taskDependencyId := "dependency-2" }, ?_, rfl, rfl⟩
    rw [Table.mem_def]
    decide +kernel
  exact hsound.acyclic "task-1" (TransGen.head hfirst (TransGen.single hsecond))

end Dependencies
end CopilotFactory
