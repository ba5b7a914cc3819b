import CopilotFactory.Dependencies.AcyclicDependencies

/-!
# The search for a cycle

Before a dependency is inserted, a depth-first search looks for a way back from the
prerequisite to the task.  The search ends on every graph, also on a cyclic one, and it
finds a way back exactly if there is one.  The path that it reports is a chain of stored
dependencies, with its last task entered twice.
-/

namespace CopilotFactory
namespace Dependencies

open Relation
open Foundations
open Infrastructure
open Application

variable {g g' : TaskGraph} {taskDependencyId : TaskDependencyId}
  {params : AddDependencyParams}

/-!
## The search is the one of the source
-/

variable {d : TaskDependency} {path : List TaskId}

/-- A run of the search from a start, without a bound on its depth. -/
def SearchesFrom (g : TaskGraph) (startTaskId targetTaskId : TaskId)
    (result : Except (List TaskId) (List TaskId)) : Prop :=
  Searches (dependenciesOf g) targetTaskId [startTaskId] (dependenciesOf g startTaskId)
    [startTaskId] result

/-- What the search reports: its path if it has met the target, and otherwise nothing. -/
def reported : Except (List TaskId) (List TaskId) -> Option (List TaskId)
  | .ok _ => none
  | .error pathStack => some pathStack

theorem searchesFrom_detectCycle (g : TaskGraph) (startTaskId targetTaskId : TaskId) :
    exists result, SearchesFrom g startTaskId targetTaskId result ∧
      detectCycle startTaskId targetTaskId g = reported result := by
  have hsearch : SearchesFrom g startTaskId targetTaskId
      ((dependenciesOf g startTaskId).foldlM
        (fun visited next => dfs (dependenciesOf g) targetTaskId (searchFuel g)
          ([startTaskId] ++ [next]) next visited) [startTaskId]) :=
    searches_foldlM (fun _ => mem_waitingTasks) (unvisited_lt_searchFuel g _)
  refine ⟨_, hsearch, ?_⟩
  unfold detectCycle reported
  rfl

/-!
## What a call returns
-/

/-- Both tasks exist and differ, and no dependency between them is stored. -/
structure Addable (g : TaskGraph) (params : AddDependencyParams) : Prop where
  distinct : params.taskId ≠ params.dependsOnTaskId
  task : (g.store.findTask params.taskId).isSome = true
  prerequisite : (g.store.findTask params.dependsOnTaskId).isSome = true
  new : g.findByTaskIdPair params.taskId params.dependsOnTaskId = none

def addedDependency (taskDependencyId : TaskDependencyId) (params : AddDependencyParams) :
    TaskDependency where
  taskDependencyId := taskDependencyId
  taskId := params.taskId
  dependsOnTaskId := params.dependsOnTaskId
  dependencyType := params.dependencyType
  isHardBlock := params.resolvedIsHardBlock

/-- The table either refuses a row for one of its keys, or puts it at its end. -/
theorem createDependency_cases (d : TaskDependency) (g : TaskGraph) :
    (exists table columns, g.createDependency d = .error (.constraintViolation table columns)) ∨
      exists g', g.createDependency d = .ok g' ∧
        g'.taskDependencies.rows = g.taskDependencies.rows ++ [d] := by
  unfold TaskGraph.createDependency
  split
  · split
    · split
      · split
        · exact Or.inr ⟨_, rfl, rfl⟩
        · exact Or.inl ⟨_, _, rfl⟩
      · exact Or.inl ⟨_, _, rfl⟩
    · exact Or.inl ⟨_, _, rfl⟩
  · exact Or.inl ⟨_, _, rfl⟩

theorem createDependency_error {e : ServiceError} (h : g.createDependency d = .error e) :
    exists table columns, e = .constraintViolation table columns := by
  rcases createDependency_cases d g with ⟨table, columns, hrefused⟩ | ⟨g', hcreated, _⟩
  · rw [hrefused] at h
    cases h
    exact ⟨table, columns, rfl⟩
  · rw [hcreated] at h
    cases h

theorem detectCycle_of_rejected
    (h : addDependency taskDependencyId params g =
      .error (.cyclicDependency params.taskId params.dependsOnTaskId path)) :
    params.taskId ≠ params.dependsOnTaskId ∧
      detectCycle params.dependsOnTaskId params.taskId g = some path := by
  unfold addDependency at h
  rcases bind_eq_error.mp h with h | ⟨_, hdistinct, h⟩
  · unfold ensure at h
    split at h <;> cases h
  rw [ensure_eq_ok] at hdistinct
  refine ⟨hdistinct, ?_⟩
  rcases bind_eq_error.mp h with h | ⟨_, _, h⟩
  · unfold ensure at h
    split at h <;> cases h
  rcases bind_eq_error.mp h with h | ⟨_, _, h⟩
  · unfold ensure at h
    split at h <;> cases h
  rcases bind_eq_error.mp h with h | ⟨_, _, h⟩
  · unfold refuse at h
    split at h <;> cases h
  rcases bind_eq_error.mp h with h | ⟨_, _, h⟩
  · unfold refuse at h
    split at h
    · rename_i found hfound
      cases h
      exact hfound
    · cases h
  · rcases bind_eq_error.mp h with h | ⟨_, _, h⟩
    · rcases createDependency_error h with ⟨_, _, he⟩
      cases he
    · cases h

theorem createDependency_accepts (hid : g.taskDependencies.find? d.taskDependencyId = none)
    (hnew : g.findByTaskIdPair d.taskId d.dependsOnTaskId = none)
    (htask : (g.store.findTask d.taskId).isSome = true)
    (hprerequisite : (g.store.findTask d.dependsOnTaskId).isSome = true) :
    exists g', g.createDependency d = .ok g' := by
  unfold TaskGraph.createDependency
  rw [dif_pos hid, dif_pos hnew, dif_pos htask, dif_pos hprerequisite]
  exact ⟨_, rfl⟩

theorem Addable.rejected (h : Addable g params)
    (hcycle : detectCycle params.dependsOnTaskId params.taskId g = some path) :
    addDependency taskDependencyId params g =
      .error (.cyclicDependency params.taskId params.dependsOnTaskId path) := by
  unfold addDependency
  rw [ensure_of h.distinct, ensure_of h.task, ensure_of h.prerequisite, h.new, hcycle]
  rfl

theorem Addable.accepted (h : Addable g params)
    (hcycle : detectCycle params.dependsOnTaskId params.taskId g = none)
    (hid : g.taskDependencies.find? taskDependencyId = none) :
    exists g' dependency,
      addDependency taskDependencyId params g = .ok (g', dependency) := by
  have hcreate : exists g', g.createDependency (addedDependency taskDependencyId params) =
      .ok g' :=
    createDependency_accepts hid h.new h.task h.prerequisite
  rcases hcreate with ⟨g', hcreate⟩
  refine ⟨g', addedDependency taskDependencyId params, ?_⟩
  unfold addDependency
  rw [ensure_of h.distinct, ensure_of h.task, ensure_of h.prerequisite, h.new, hcycle]
  simp only [refuse, ok_bind]
  exact bind_eq_ok.mpr ⟨g', hcreate, rfl⟩

theorem rows_createDependency (h : g.createDependency d = .ok g') :
    g'.taskDependencies.rows = g.taskDependencies.rows ++ [d] := by
  rcases createDependency_cases d g with ⟨_, _, hrefused⟩ | ⟨g₁, hcreated, hrows⟩
  · rw [hrefused] at h
    cases h
  · rw [hcreated] at h
    cases h
    exact hrows

theorem addDependency_rows {dependency : TaskDependency}
    (h : addDependency taskDependencyId params g = .ok (g', dependency)) :
    dependency = addedDependency taskDependencyId params ∧ g'.store = g.store ∧
      g'.taskDependencies.rows = g.taskDependencies.rows ++ [dependency] := by
  have hrow := h
  simp only [addDependency, bind_eq_ok, pure_eq_ok, Prod.mk.injEq] at hrow
  rcases hrow with ⟨_, _, _, _, _, _, _, _, _, _, _, _, _, hdependency⟩
  rcases addDependency_spec h with ⟨_, _, _, _, hcreate⟩
  exact ⟨hdependency.symm, (TaskGraph.createDependency_spec hcreate).2.1,
    rows_createDependency hcreate⟩

/-- A dependency between two existing distinct tasks is rejected as cyclic exactly if the
prerequisite reaches the task, and is inserted as one row otherwise.  A call that fails
leaves the database as it was, and the search ends on every graph. -/
theorem addDependency_cyclic_iff (c : Catalog) (taskDependencyId : TaskDependencyId)
    (params : AddDependencyParams) :
    (Addable c.graph params ->
      ((exists path, addDependency taskDependencyId params c.graph =
          .error (.cyclicDependency params.taskId params.dependsOnTaskId path)) <->
        ReflTransGen c.graph.Edge params.dependsOnTaskId params.taskId) ∧
      (¬ ReflTransGen c.graph.Edge params.dependsOnTaskId params.taskId ->
        c.graph.taskDependencies.find? taskDependencyId = none ->
        exists g' dependency,
          addDependency taskDependencyId params c.graph = .ok (g', dependency))) ∧
    (forall g' dependency,
      addDependency taskDependencyId params c.graph = .ok (g', dependency) ->
        dependency = addedDependency taskDependencyId params ∧ g'.store = c.graph.store ∧
        g'.taskDependencies.rows = c.graph.taskDependencies.rows ++ [dependency]) ∧
    (forall e, addDependency taskDependencyId params c.graph = .error e ->
      planning.next c (.addDependency taskDependencyId params) = c) ∧
    forall startTaskId targetTaskId, exists result,
      SearchesFrom c.graph startTaskId targetTaskId result ∧
      (forall result', SearchesFrom c.graph startTaskId targetTaskId result' ->
        result' = result) ∧
      detectCycle startTaskId targetTaskId c.graph = reported result := by
  refine ⟨?_, ?_, ?_, ?_⟩
  · intro h
    have hnone := detectCycle_eq_none_iff (g := c.graph) h.distinct.symm
    constructor
    · constructor
      · intro hrejected
        rcases hrejected with ⟨path, hrejected⟩
        rcases detectCycle_of_rejected hrejected with ⟨_, hcycle⟩
        by_contra hunreachable
        rw [hnone.mpr hunreachable] at hcycle
        cases hcycle
      · intro hreaches
        cases hcycle : detectCycle params.dependsOnTaskId params.taskId c.graph with
        | some path =>
            exact ⟨path, h.rejected hcycle⟩
        | none =>
            exact absurd hreaches (hnone.mp hcycle)
    · intro hunreachable hid
      exact h.accepted (hnone.mpr hunreachable) hid
  · intro g' dependency h
    exact addDependency_rows h
  · intro e he
    apply planning.next_of_error (e := e)
    show plan c (.addDependency taskDependencyId params) = .error e
    exact bind_eq_error.mpr (Or.inl he)
  · intro startTaskId targetTaskId
    rcases searchesFrom_detectCycle c.graph startTaskId targetTaskId with
      ⟨result, hsearch, hdetect⟩
    exact ⟨result, hsearch, fun _ hsearch' => hsearch'.unique hsearch, hdetect⟩

/-!
## The path that is reported
-/

theorem chain_of_detectCycle (hdistinct : params.taskId ≠ params.dependsOnTaskId)
    (h : detectCycle params.dependsOnTaskId params.taskId g = some path) :
    exists chain, SimpleChain g.Edge params.dependsOnTaskId params.taskId chain ∧
      path = chain ++ [params.taskId] := by
  rw [← adjacent_dependenciesOf]
  unfold detectCycle at h
  dsimp only at h
  split at h
  · cases h
  · rename_i pathStack hfound
    cases h
    have hstart : KeepsOff params.taskId [params.dependsOnTaskId]
        [params.dependsOnTaskId] := by
      refine ⟨fun x hx => hx, ?_⟩
      rw [List.mem_singleton]
      exact hdistinct
    rcases foldlM_error_of_keeps
      (P := KeepsOff params.taskId [params.dependsOnTaskId])
      (fun _ _ _ hb hround => keepsOff_of_dfs_ok hb hround) hstart hfound with
      ⟨next, hnext, visited, ⟨hkeeps, hoff⟩, hdfs⟩
    rcases chain_of_dfs_error hoff hdfs with ⟨tail, hpath, hchain, hunvisited⟩
    refine ⟨params.dependsOnTaskId :: next :: tail, ?_, by simpa using hpath⟩
    apply hchain.cons hnext
    intro hmem
    exact hunvisited _ hmem (hkeeps _ (List.mem_singleton_self _))

/-- The path of a rejected call is a chain of stored dependencies from the prerequisite to
the task, with the task entered once more, so that it is never such a chain itself. -/
theorem reported_path_ends_twice {path : List TaskId}
    (h : addDependency taskDependencyId params g =
      .error (.cyclicDependency params.taskId params.dependsOnTaskId path)) :
    ¬ SimpleChain g.Edge params.dependsOnTaskId params.taskId path ∧
      exists chain, SimpleChain g.Edge params.dependsOnTaskId params.taskId chain ∧
        path = chain ++ [params.taskId] := by
  rcases detectCycle_of_rejected h with ⟨hdistinct, hcycle⟩
  have hchain : exists chain,
      SimpleChain g.Edge params.dependsOnTaskId params.taskId chain ∧
        path = chain ++ [params.taskId] :=
    chain_of_detectCycle hdistinct hcycle
  refine ⟨?_, hchain⟩
  intro hgenuine
  rcases hchain with ⟨chain, hchain, hpath⟩
  have hmem : params.taskId ∈ chain := List.mem_of_getLast? hchain.ends
  have hnodup := hgenuine.nodup
  rw [hpath] at hnodup
  exact (List.nodup_append.mp hnodup).2.2 _ hmem _ (List.mem_singleton_self _) rfl

def waitingPair : TaskGraph :=
  (planning.run Catalog.empty
    [.createTask
      { taskId := "task-1", repositoryId := "repo-1", taskType := "feature",
        priority := "high" } none,
     .createTask
      { taskId := "task-2", repositoryId := "repo-1", taskType := "feature",
        priority := "high" } none,
     .addDependency "dependency-1"
      { taskId := "task-1", dependsOnTaskId := "task-2", dependencyType := .blocks }]).graph

def backwards : AddDependencyParams where
  taskId := "task-2"
  dependsOnTaskId := "task-1"
  dependencyType := .blocks

theorem waitingPair_acyclic : Acyclic waitingPair.Edge := by
  have hrows : waitingPair.taskDependencies.rows.map TaskDependency.pair =
      [("task-1", "task-2")] := by
    decide +kernel
  have hedge : forall x y, waitingPair.Edge x y -> x = "task-1" ∧ y = "task-2" := by
    intro x y h
    rcases h with ⟨d, hd, hx, hy⟩
    have hpair : d.pair ∈ waitingPair.taskDependencies.rows.map TaskDependency.pair :=
      List.mem_map_of_mem hd
    rw [hrows, List.mem_singleton] at hpair
    rw [← hx, ← hy]
    exact Prod.mk.inj hpair
  intro v hcycle
  rcases TransGen.head'_iff.mp hcycle with ⟨_, hout, _⟩
  rcases TransGen.tail'_iff.mp hcycle with ⟨_, _, hin⟩
  have hsame := (hedge _ _ hout).1.symm.trans (hedge _ _ hin).2
  exact absurd hsame (by decide)

theorem backwards_rejected :
    addDependency "dependency-2" backwards waitingPair =
      .error (.cyclicDependency "task-2" "task-1" ["task-1", "task-2", "task-2"]) := by
  have haddable : Addable waitingPair backwards :=
    ⟨by decide, by decide +kernel, by decide +kernel, by decide +kernel⟩
  exact haddable.rejected (by decide +kernel)

/-- The reported path enters its last task twice. -/
theorem reported_path_repeats_task :
    ¬ (forall (g : TaskGraph) taskDependencyId params path, Acyclic g.Edge ->
      addDependency taskDependencyId params g =
        .error (.cyclicDependency params.taskId params.dependsOnTaskId path) ->
      SimpleChain g.Edge params.dependsOnTaskId params.taskId path) := by
  intro h
  have hchain := h waitingPair "dependency-2" backwards _ waitingPair_acyclic
    backwards_rejected
  exact absurd hchain.nodup (by decide)

/-- The pair of tasks again, with the theorem on the path that is reported. -/
theorem reported_path_ends_twice_backwards :
    ¬ SimpleChain waitingPair.Edge "task-1" "task-2" ["task-1", "task-2", "task-2"] ∧
      exists chain, SimpleChain waitingPair.Edge "task-1" "task-2" chain ∧
        ["task-1", "task-2", "task-2"] = chain ++ ["task-2"] :=
  reported_path_ends_twice backwards_rejected

end Dependencies
end CopilotFactory
