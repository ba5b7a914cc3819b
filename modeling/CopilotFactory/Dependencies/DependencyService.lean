import CopilotFactory.Dependencies.TaskGraph

/-!
# Dependency service

A dependency is added after a depth-first search has found no way back from the
prerequisite to the waiting task, in the transaction that inserts it.
-/

namespace CopilotFactory
namespace Dependencies

open Relation
open Foundations
open Infrastructure
open Application

def dependenciesOf (g : TaskGraph) (taskId : TaskId) : List TaskId :=
  (g.findByTaskId taskId).map TaskDependency.dependsOnTaskId

/-- More steps than there are rows: no search goes deeper. -/
def searchFuel (g : TaskGraph) : Nat :=
  g.taskDependencies.rows.length + 1

/-- The path from the start to the target along dependencies, if there is one. -/
def detectCycle (startTaskId targetTaskId : TaskId) (g : TaskGraph) :
    Option (List TaskId) :=
  let found := (dependenciesOf g startTaskId).foldlM
    (fun visited next =>
      dfs (dependenciesOf g) targetTaskId (searchFuel g) [startTaskId, next] next visited)
    [startTaskId]
  match found with
  | .ok _ => none
  | .error pathStack => some pathStack

structure AddDependencyParams where
  taskId : TaskId
  dependsOnTaskId : TaskId
  dependencyType : DependencyType
  isHardBlock : Option Bool := none

/-- Dependencies that block do so hard unless told otherwise. -/
def AddDependencyParams.resolvedIsHardBlock (params : AddDependencyParams) : Bool :=
  params.isHardBlock.getD (params.dependencyType = .blocks)

def addDependency (taskDependencyId : TaskDependencyId) (params : AddDependencyParams)
    (g : TaskGraph) : Except ServiceError (TaskGraph × TaskDependency) := do
  ensure (params.taskId ≠ params.dependsOnTaskId) (.selfDependency params.taskId)
  ensure ((g.store.findTask params.taskId).isSome = true)
    (.entityNotFound "Task" params.taskId)
  ensure ((g.store.findTask params.dependsOnTaskId).isSome = true)
    (.entityNotFound "Task" params.dependsOnTaskId)
  refuse (g.findByTaskIdPair params.taskId params.dependsOnTaskId)
    (fun _ => .duplicateDependency params.taskId params.dependsOnTaskId)
  refuse (detectCycle params.dependsOnTaskId params.taskId g)
    (.cyclicDependency params.taskId params.dependsOnTaskId)
  let dependency : TaskDependency :=
    { taskDependencyId := taskDependencyId
      taskId := params.taskId
      dependsOnTaskId := params.dependsOnTaskId
      dependencyType := params.dependencyType
      isHardBlock := params.resolvedIsHardBlock }
  let g' ← g.createDependency dependency
  pure (g', dependency)

def removeDependency (taskDependencyId : TaskDependencyId) (g : TaskGraph) :
    TaskGraph × Bool :=
  g.deleteDependency taskDependencyId

/-!
## The search decides whether a path exists
-/

theorem adjacent_dependenciesOf (g : TaskGraph) :
    Adjacent (dependenciesOf g) = g.Edge := by
  funext x y
  apply propext
  unfold Adjacent dependenciesOf
  rw [List.mem_map]
  constructor
  · intro h
    rcases h with ⟨d, hd, hy⟩
    rcases TaskGraph.mem_findByTaskId.mp hd with ⟨hmem, hx⟩
    exact ⟨d, hmem, hx, hy⟩
  · intro h
    rcases h with ⟨d, hmem, hx, hy⟩
    exact ⟨d, TaskGraph.mem_findByTaskId.mpr ⟨hmem, hx⟩, hy⟩

def waitingTasks (g : TaskGraph) : List TaskId :=
  g.taskDependencies.rows.map TaskDependency.taskId

theorem mem_waitingTasks {g : TaskGraph} {taskId : TaskId}
    (h : dependenciesOf g taskId ≠ []) :
    taskId ∈ waitingTasks g := by
  rcases List.exists_mem_of_ne_nil _ h with ⟨next, hnext⟩
  rcases List.mem_map.mp hnext with ⟨d, hd, _⟩
  rcases TaskGraph.mem_findByTaskId.mp hd with ⟨hmem, hx⟩
  exact List.mem_map.mpr ⟨d, hmem, hx⟩

theorem unvisited_lt_searchFuel (g : TaskGraph) (visited : List TaskId) :
    (unvisited (waitingTasks g) visited).length < searchFuel g := by
  have hle : (unvisited (waitingTasks g) visited).length ≤ (waitingTasks g).length :=
    List.length_filter_le _ _
  have hlength : (waitingTasks g).length = g.taskDependencies.rows.length :=
    List.length_map _
  unfold searchFuel
  omega

/-- The search for a cycle finds nothing exactly when no path leads from the start to
the target. -/
theorem detectCycle_eq_none_iff {g : TaskGraph} {startTaskId targetTaskId : TaskId}
    (hne : startTaskId ≠ targetTaskId) :
    detectCycle startTaskId targetTaskId g = none <->
      ¬ ReflTransGen g.Edge startTaskId targetTaskId := by
  rw [← adjacent_dependenciesOf]
  unfold detectCycle
  cases hfound : (dependenciesOf g startTaskId).foldlM
      (fun visited next => dfs (dependenciesOf g) targetTaskId (searchFuel g)
        [startTaskId, next] next visited) [startTaskId] with
  | error path =>
      simp only [reduceCtorEq, false_iff, not_not]
      rcases foldlM_error hfound with ⟨next, hnext, _, hdfs⟩
      exact (reaches_of_dfs_error hdfs).head hnext
  | ok visited =>
      simp only [true_iff]
      intro hpath
      rcases explored_foldlM
        (fun next => dfs (dependenciesOf g) targetTaskId (searchFuel g)
          [startTaskId, next] next)
        (fun hfuel hdfs => explored_of_dfs_ok (fun _ => mem_waitingTasks) hfuel hdfs)
        (unvisited_lt_searchFuel g [startTaskId]) hfound with ⟨hexplored, hnexts⟩
      have hclosed : forall x y, x ∈ visited -> Adjacent (dependenciesOf g) x y ->
          y ∈ visited := by
        intro x y hx hy
        rcases hexplored.closed x hx with hx | ⟨_, hedges⟩
        · rw [List.mem_singleton] at hx
          rw [hx] at hy
          exact hnexts y hy
        · exact hedges y hy
      have hstart : startTaskId ∈ visited := hexplored.keeps _ List.mem_cons_self
      have htarget : targetTaskId ∈ visited := reaches_closed hclosed hstart hpath
      rcases hexplored.closed _ htarget with hmem | ⟨hnot, _⟩
      · exact hne (List.mem_singleton.mp hmem).symm
      · exact hnot rfl

/-- An accepted dependency is not one on the task itself, and closes no cycle. -/
theorem addDependency_spec {taskDependencyId : TaskDependencyId}
    {params : AddDependencyParams} {g g' : TaskGraph} {dependency : TaskDependency}
    (h : addDependency taskDependencyId params g = .ok (g', dependency)) :
    params.taskId ≠ params.dependsOnTaskId ∧
      ¬ ReflTransGen g.Edge params.dependsOnTaskId params.taskId ∧
      dependency.taskId = params.taskId ∧
      dependency.dependsOnTaskId = params.dependsOnTaskId ∧
      g.createDependency dependency = .ok g' := by
  simp only [addDependency, bind_eq_ok, ensure_eq_ok, refuse_eq_ok, pure_eq_ok,
    Prod.mk.injEq] at h
  rcases h with ⟨_, hne, _, _, _, _, _, _, _, hcycle, g₁, hcreate, hg, hdependency⟩
  rw [detectCycle_eq_none_iff hne.symm] at hcycle
  rw [← hdependency, ← hg]
  exact ⟨hne, hcycle, rfl, rfl, hcreate⟩

end Dependencies
end CopilotFactory
