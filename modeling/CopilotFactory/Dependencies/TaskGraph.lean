import CopilotFactory.ControlPlane.TaskEffects
import CopilotFactory.Foundations.DirectedGraph

/-!
# The task dependency table

A dependency row says that its task waits for another one.  The unique index on
the pair of tasks and both foreign keys are part of the type.  The directed graph
of the rows has an edge from each waiting task to its prerequisite.
-/

namespace CopilotFactory
namespace Dependencies

open Foundations
open Infrastructure
open Application
open ControlPlane

variable {s' : Store}

inductive DependencyType where
  | blocks
  | relatesTo
  | parentChild
deriving DecidableEq

abbrev TaskDependencyId := String

structure TaskDependency where
  taskDependencyId : TaskDependencyId
  taskId : TaskId
  dependsOnTaskId : TaskId
  dependencyType : DependencyType
  isHardBlock : Bool
deriving DecidableEq

/-- The columns of the unique index. -/
def TaskDependency.pair (d : TaskDependency) : TaskId × TaskId :=
  (d.taskId, d.dependsOnTaskId)

/-- The store together with the dependencies between its tasks. -/
structure TaskGraph where
  store : Store
  taskDependencies :
    Table TaskDependencyId TaskDependency TaskDependency.taskDependencyId
  uniquePairs : (taskDependencies.rows.map TaskDependency.pair).Nodup
  waitingTask : forall d, d ∈ taskDependencies -> (store.findTask d.taskId).isSome = true
  prerequisiteTask : forall d, d ∈ taskDependencies ->
    (store.findTask d.dependsOnTaskId).isSome = true

def KeepsTasks (s s' : Store) : Prop :=
  forall taskId, (s.findTask taskId).isSome = true -> (s'.findTask taskId).isSome = true

theorem keepsTasks_of_createTask {s : Store} {task : Task} (h : s.createTask task = .ok s') :
    KeepsTasks s s' := by
  rcases Store.createTask_spec h with ⟨_, _, hself, hother⟩
  intro taskId hsome
  by_cases hid : taskId = task.taskId
  · rw [hid, hself]
    rfl
  · rw [hother taskId hid]
    exact hsome

namespace TaskGraph

def empty : TaskGraph where
  store := Store.empty
  taskDependencies := Table.empty
  uniquePairs := by simp [Table.empty]
  waitingTask := by
    intro d h
    exact absurd h (Table.not_mem_empty d)
  prerequisiteTask := by
    intro d h
    exact absurd h (Table.not_mem_empty d)

def withStore (g : TaskGraph) (s' : Store) (h : KeepsTasks g.store s') : TaskGraph :=
  { g with
    store := s'
    waitingTask := fun d hd => h d.taskId (g.waitingTask d hd)
    prerequisiteTask := fun d hd => h d.dependsOnTaskId (g.prerequisiteTask d hd) }

@[simp] theorem withStore_store (g : TaskGraph) (s' : Store) (h : KeepsTasks g.store s') :
    (g.withStore s' h).store = s' :=
  rfl

/-- Run a transaction on the store that removes no task. -/
def onStore (g : TaskGraph) (call : Store -> Except ServiceError Store)
    (hcall : forall s', call g.store = .ok s' -> KeepsTasks g.store s') :
    Except ServiceError TaskGraph :=
  match h : call g.store with
  | .error e => .error e
  | .ok s' => .ok (g.withStore s' (hcall s' h))

variable {g g' : TaskGraph}

theorem onStore_spec {call : Store -> Except ServiceError Store}
    {hcall : forall s', call g.store = .ok s' -> KeepsTasks g.store s'}
    (h : g.onStore call hcall = .ok g') :
    call g.store = .ok g'.store ∧ g'.taskDependencies = g.taskDependencies := by
  unfold onStore at h
  split at h
  · cases h
  · rename_i s' hs'
    cases h
    exact ⟨hs', rfl⟩

theorem onStore_of_ok {call : Store -> Except ServiceError Store}
    {hcall : forall s', call g.store = .ok s' -> KeepsTasks g.store s'}
    (h : call g.store = .ok s') : g.onStore call hcall = .ok (g.withStore s' (hcall s' h)) := by
  unfold onStore
  split
  · rename_i e he
    cases h.symm.trans he
  · rename_i s'' hs''
    cases h.symm.trans hs''
    rfl

def createTask (g : TaskGraph) (task : Task) : Except ServiceError TaskGraph :=
  g.onStore (fun s => s.createTask task) (fun _ h => keepsTasks_of_createTask h)

def perform (g : TaskGraph) (request : Request) :
    Except ServiceError TaskGraph :=
  g.onStore (fun s => ControlPlane.perform s request)
    (fun _ h => (taskEffect_of_perform h).2.keeps)

theorem perform_spec {request : Request} (h : g.perform request = .ok g') :
    ControlPlane.perform g.store request = .ok g'.store ∧
      g'.taskDependencies = g.taskDependencies :=
  onStore_spec h

theorem perform_of_ok {request : Request} (h : ControlPlane.perform g.store request = .ok s') :
    exists hkeeps, g.perform request = .ok (g.withStore s' hkeeps) :=
  ⟨(taskEffect_of_perform h).2.keeps, onStore_of_ok h⟩

/-!
## The repository of dependencies
-/

/-- The dependencies of a task: the edges to what it waits for. -/
def findByTaskId (g : TaskGraph) (taskId : TaskId) : List TaskDependency :=
  g.taskDependencies.rows.filter (fun d => d.taskId = taskId)

def findByDependsOnTaskId (g : TaskGraph) (dependsOnTaskId : TaskId) :
    List TaskDependency :=
  g.taskDependencies.rows.filter (fun d => d.dependsOnTaskId = dependsOnTaskId)

def findByTaskIdPair (g : TaskGraph) (taskId dependsOnTaskId : TaskId) :
    Option TaskDependency :=
  g.taskDependencies.rows.find? (fun d => d.pair = (taskId, dependsOnTaskId))

variable {d : TaskDependency}

theorem mem_findByTaskId {taskId : TaskId} :
    d ∈ g.findByTaskId taskId <-> d ∈ g.taskDependencies ∧ d.taskId = taskId := by
  simp [findByTaskId, Table.mem_def]

theorem mem_findByDependsOnTaskId {taskId : TaskId} :
    d ∈ g.findByDependsOnTaskId taskId <->
      d ∈ g.taskDependencies ∧ d.dependsOnTaskId = taskId := by
  simp [findByDependsOnTaskId, Table.mem_def]

theorem findByTaskIdPair_eq_none_iff {taskId dependsOnTaskId : TaskId} :
    g.findByTaskIdPair taskId dependsOnTaskId = none <->
      forall d, d ∈ g.taskDependencies -> d.pair ≠ (taskId, dependsOnTaskId) := by
  unfold findByTaskIdPair
  rw [List.find?_eq_none]
  constructor
  · intro h d hd
    simpa using h d hd
  · intro h d hd
    simpa using h d hd

/-- The unique index: a new pair is not that of a stored row. -/
theorem pair_not_mem (h : g.findByTaskIdPair d.taskId d.dependsOnTaskId = none) :
    d.pair ∉ g.taskDependencies.rows.map TaskDependency.pair := by
  intro hmem
  rcases List.mem_map.mp hmem with ⟨d', hd', hpair⟩
  exact findByTaskIdPair_eq_none_iff.mp h d' hd' hpair

/-- Insert a row, subject to the keys of the table. -/
def createDependency (g : TaskGraph) (d : TaskDependency) :
    Except ServiceError TaskGraph :=
  if hnew : g.taskDependencies.find? d.taskDependencyId = none then
    if hpair : g.findByTaskIdPair d.taskId d.dependsOnTaskId = none then
      if htask : (g.store.findTask d.taskId).isSome = true then
        if hprerequisite : (g.store.findTask d.dependsOnTaskId).isSome = true then
          .ok { g with
            taskDependencies := g.taskDependencies.insert d hnew
            uniquePairs := by
              have hpairs := pair_not_mem hpair
              simp only [Table.insert, List.map_append, List.map_cons, List.map_nil]
              exact List.nodup_append.mpr ⟨g.uniquePairs, List.nodup_singleton _, by
                intro p hp q hq heq
                rw [List.mem_singleton.mp hq] at heq
                exact hpairs (heq ▸ hp)⟩
            waitingTask := by
              intro d' hd'
              rcases (Table.mem_insert hnew).mp hd' with hd' | hd'
              · exact g.waitingTask d' hd'
              · rw [hd']
                exact htask
            prerequisiteTask := by
              intro d' hd'
              rcases (Table.mem_insert hnew).mp hd' with hd' | hd'
              · exact g.prerequisiteTask d' hd'
              · rw [hd']
                exact hprerequisite }
        else
          .error (.constraintViolation "task_dependency" "depends_on_task_id")
      else
        .error (.constraintViolation "task_dependency" "task_id")
    else
      .error (.constraintViolation "task_dependency" "task_id, depends_on_task_id")
  else
    .error (.constraintViolation "task_dependency" "task_dependency_id")

theorem createDependency_spec (h : g.createDependency d = .ok g') :
    g.findByTaskIdPair d.taskId d.dependsOnTaskId = none ∧ g'.store = g.store ∧
      forall d', d' ∈ g'.taskDependencies <-> d' ∈ g.taskDependencies ∨ d' = d := by
  unfold createDependency at h
  split at h
  · rename_i hnew
    split at h
    · rename_i hpair
      split at h
      · split at h
        · cases h
          exact ⟨hpair, rfl, fun d' => Table.mem_insert hnew⟩
        · cases h
      · cases h
    · cases h
  · cases h

def deleteDependency (g : TaskGraph) (taskDependencyId : TaskDependencyId) :
    TaskGraph × Bool :=
  ({ g with
      taskDependencies := g.taskDependencies.delete taskDependencyId
      uniquePairs := (List.filter_sublist.map TaskDependency.pair).nodup g.uniquePairs
      waitingTask := fun d hd => g.waitingTask d (Table.mem_delete.mp hd).1
      prerequisiteTask := fun d hd => g.prerequisiteTask d (Table.mem_delete.mp hd).1 },
    (g.taskDependencies.find? taskDependencyId).isSome)

/-!
## The graph of the rows
-/

/-- The task waits for the prerequisite, under whatever kind of dependency. -/
def Edge (g : TaskGraph) (taskId dependsOnTaskId : TaskId) : Prop :=
  exists d, d ∈ g.taskDependencies ∧ d.taskId = taskId ∧
    d.dependsOnTaskId = dependsOnTaskId

theorem exists_of_edge {taskId dependsOnTaskId : TaskId} (h : g.Edge taskId dependsOnTaskId) :
    (g.store.findTask taskId).isSome = true ∧
      (g.store.findTask dependsOnTaskId).isSome = true := by
  rcases h with ⟨d, hd, htask, hprerequisite⟩
  rw [← htask, ← hprerequisite]
  exact ⟨g.waitingTask d hd, g.prerequisiteTask d hd⟩

theorem edge_of_taskDependencies_eq (h : g'.taskDependencies = g.taskDependencies) :
    g'.Edge = g.Edge := by
  unfold Edge
  rw [h]

theorem edge_createDependency (h : g.createDependency d = .ok g') :
    g'.Edge = AddEdge g.Edge d.taskId d.dependsOnTaskId := by
  rcases createDependency_spec h with ⟨_, _, hmem⟩
  funext x y
  apply propext
  constructor
  · intro hedge
    rcases hedge with ⟨d', hd', hx, hy⟩
    rcases (hmem d').mp hd' with hd' | hd'
    · exact Or.inl ⟨d', hd', hx, hy⟩
    · rw [hd'] at hx hy
      exact Or.inr ⟨hx.symm, hy.symm⟩
  · intro hedge
    rcases hedge with ⟨d', hd', hx, hy⟩ | ⟨hx, hy⟩
    · exact ⟨d', (hmem d').mpr (Or.inl hd'), hx, hy⟩
    · exact ⟨d, (hmem d).mpr (Or.inr rfl), hx.symm, hy.symm⟩

theorem edge_deleteDependency {id : TaskDependencyId} {x y : TaskId}
    (h : (g.deleteDependency id).1.Edge x y) : g.Edge x y := by
  rcases h with ⟨d, hd, hx, hy⟩
  exact ⟨d, (Table.mem_delete.mp hd).1, hx, hy⟩

end TaskGraph

end Dependencies
end CopilotFactory
