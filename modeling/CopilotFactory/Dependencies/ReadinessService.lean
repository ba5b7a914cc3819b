import CopilotFactory.Foundations.Process
import CopilotFactory.Dependencies.TaskGraph

/-!
# Readiness service

A task is ready when all its hard-block prerequisites are DONE.  The service only
answers; whoever asks acts on the answer in a transaction of its own.
-/

namespace CopilotFactory
namespace Dependencies

open Foundations
open Domain
open Infrastructure
open Application
open ControlPlane

variable {g : TaskGraph}

structure BlockingReason where
  dependsOnTaskId : TaskId
  prerequisiteStatus : TaskStatus
  dependencyType : DependencyType
  taskDependencyId : TaskDependencyId
deriving DecidableEq

inductive ReadinessResult where
  | ready (taskId : TaskId)
  | blocked (taskId : TaskId) (blockingReasons : List BlockingReason)
deriving DecidableEq

/-- Only `blocks` edges that are hard affect readiness. -/
def isReadinessBlockingEdge (edge : TaskDependency) : Bool :=
  edge.dependencyType = .blocks && edge.isHardBlock

/-- Why an edge blocks.  A prerequisite that does not exist blocks as well. -/
def blockingReason (g : TaskGraph) (edge : TaskDependency) : Option BlockingReason :=
  match g.store.findTask edge.dependsOnTaskId with
  | none =>
      some
        { dependsOnTaskId := edge.dependsOnTaskId
          prerequisiteStatus := .backlog
          dependencyType := edge.dependencyType
          taskDependencyId := edge.taskDependencyId }
  | some prerequisite =>
      if prerequisite.status ≠ .done then
        some
          { dependsOnTaskId := edge.dependsOnTaskId
            prerequisiteStatus := prerequisite.status
            dependencyType := edge.dependencyType
            taskDependencyId := edge.taskDependencyId }
      else
        none

def hardBlockEdges (g : TaskGraph) (taskId : TaskId) : List TaskDependency :=
  (g.findByTaskId taskId).filter isReadinessBlockingEdge

def computeReadiness (taskId : TaskId) (g : TaskGraph) :
    Except ServiceError ReadinessResult := do
  let _task ← orThrow (g.store.findTask taskId) (.entityNotFound "Task" taskId)
  match hardBlockEdges g taskId with
  | [] => pure (.ready taskId)
  | edges =>
      match edges.filterMap (blockingReason g) with
      | [] => pure (.ready taskId)
      | blockingReasons => pure (.blocked taskId blockingReasons)

/-!
## Children
-/

structure ChildBlockingReason where
  childTaskId : TaskId
  childStatus : TaskStatus
  taskDependencyId : TaskDependencyId
deriving DecidableEq

inductive ParentReadinessResult where
  | complete (parentTaskId : TaskId)
  | incomplete (parentTaskId : TaskId) (incompleteChildren : List ChildBlockingReason)
deriving DecidableEq

def isParentChildEdge (edge : TaskDependency) : Bool :=
  edge.dependencyType = .parentChild

/-- Why a child keeps its parent open.  One that does not exist does so as well. -/
def childBlockingReason (g : TaskGraph) (edge : TaskDependency) :
    Option ChildBlockingReason :=
  match g.store.findTask edge.dependsOnTaskId with
  | none =>
      some
        { childTaskId := edge.dependsOnTaskId
          childStatus := .backlog
          taskDependencyId := edge.taskDependencyId }
  | some child =>
      if child.status ≠ .done ∧ child.status ≠ .cancelled then
        some
          { childTaskId := edge.dependsOnTaskId
            childStatus := child.status
            taskDependencyId := edge.taskDependencyId }
      else
        none

/-- The edges of a parent: it waits for its children. -/
def childEdges (g : TaskGraph) (parentTaskId : TaskId) : List TaskDependency :=
  (g.findByTaskId parentTaskId).filter isParentChildEdge

def checkParentChildReadiness (parentTaskId : TaskId) (g : TaskGraph) :
    Except ServiceError ParentReadinessResult := do
  let _parent ← orThrow (g.store.findTask parentTaskId) (.entityNotFound "Task" parentTaskId)
  match childEdges g parentTaskId with
  | [] => pure (.complete parentTaskId)
  | edges =>
      match edges.filterMap (childBlockingReason g) with
      | [] => pure (.complete parentTaskId)
      | incompleteChildren => pure (.incomplete parentTaskId incompleteChildren)

/-!
## What readiness means
-/

def TaskGraph.IsDone (g : TaskGraph) (taskId : TaskId) : Prop :=
  exists task, g.store.findTask taskId = some task ∧ task.status = .done

/-- The task waits, by a hard `blocks` dependency, for a task that is not DONE. -/
def TaskGraph.Unmet (g : TaskGraph) (taskId : TaskId) : Prop :=
  exists d, d ∈ g.taskDependencies ∧ d.taskId = taskId ∧
    isReadinessBlockingEdge d = true ∧ ¬ g.IsDone d.dependsOnTaskId

theorem blockingReason_eq_none_iff {edge : TaskDependency} :
    blockingReason g edge = none <-> g.IsDone edge.dependsOnTaskId := by
  unfold blockingReason TaskGraph.IsDone
  cases hfind : g.store.findTask edge.dependsOnTaskId with
  | none =>
      simp
  | some prerequisite =>
      by_cases hstatus : prerequisite.status = .done
      · simp [hstatus]
      · simp [hstatus]

theorem blockingReasons_eq_nil_iff {taskId : TaskId} :
    (hardBlockEdges g taskId).filterMap (blockingReason g) = [] <->
      ¬ g.Unmet taskId := by
  rw [List.filterMap_eq_nil_iff]
  constructor
  · intro h hunmet
    rcases hunmet with ⟨d, hd, htask, hhard, hnot⟩
    have hmem : d ∈ hardBlockEdges g taskId :=
      List.mem_filter.mpr ⟨TaskGraph.mem_findByTaskId.mpr ⟨hd, htask⟩, hhard⟩
    exact hnot (blockingReason_eq_none_iff.mp (h d hmem))
  · intro h d hmem
    rcases List.mem_filter.mp hmem with ⟨hedge, hhard⟩
    rcases TaskGraph.mem_findByTaskId.mp hedge with ⟨hd, htask⟩
    rw [blockingReason_eq_none_iff]
    by_contra hnot
    exact h ⟨d, hd, htask, hhard, hnot⟩

/-- A task is READY exactly when no hard-block prerequisite is unmet. -/
theorem computeReadiness_of_met {taskId : TaskId} {task : Task}
    (htask : g.store.findTask taskId = some task) (hmet : ¬ g.Unmet taskId) :
    computeReadiness taskId g = .ok (.ready taskId) := by
  have hnil := blockingReasons_eq_nil_iff.mpr hmet
  simp only [computeReadiness, htask, orThrow_some, ok_bind]
  split
  · rfl
  · rw [hnil]
    rfl

theorem computeReadiness_of_unmet {taskId : TaskId} {task : Task}
    (htask : g.store.findTask taskId = some task) (hunmet : g.Unmet taskId) :
    exists blockingReasons,
      computeReadiness taskId g = .ok (.blocked taskId blockingReasons) := by
  have hne : (hardBlockEdges g taskId).filterMap (blockingReason g) ≠ [] := by
    intro hnil
    exact blockingReasons_eq_nil_iff.mp hnil hunmet
  simp only [computeReadiness, htask, orThrow_some, ok_bind]
  split
  · rename_i hedges
    rw [hedges] at hne
    exact absurd rfl hne
  · split
    · rename_i hnil
      exact absurd hnil hne
    · exact ⟨_, rfl⟩

theorem not_unmet_of_ready {taskId found : TaskId}
    (h : computeReadiness taskId g = .ok (.ready found)) : ¬ g.Unmet taskId := by
  intro hunmet
  have hstart := h
  rw [computeReadiness, bind_eq_ok] at hstart
  rcases hstart with ⟨task, htask, _⟩
  rcases computeReadiness_of_unmet (orThrow_eq_ok.mp htask) hunmet with ⟨reasons, hblocked⟩
  rw [h] at hblocked
  cases hblocked

/-- A child of the task exists that is neither DONE nor CANCELLED. -/
def TaskGraph.HasOpenChild (g : TaskGraph) (taskId : TaskId) : Prop :=
  exists d child, d ∈ g.taskDependencies ∧ d.taskId = taskId ∧
    d.dependencyType = .parentChild ∧
    g.store.findTask d.dependsOnTaskId = some child ∧
    child.status ≠ .done ∧ child.status ≠ .cancelled

theorem childBlockingReasons_eq_nil_iff {taskId : TaskId} :
    (childEdges g taskId).filterMap (childBlockingReason g) = [] <->
      ¬ g.HasOpenChild taskId := by
  rw [List.filterMap_eq_nil_iff]
  constructor
  · intro h hopen
    rcases hopen with ⟨d, child, hd, htask, htype, hchild, hstatus⟩
    have hmem : d ∈ childEdges g taskId := by
      apply List.mem_filter.mpr ⟨TaskGraph.mem_findByTaskId.mpr ⟨hd, htask⟩, _⟩
      simpa [isParentChildEdge] using htype
    have hnone := h d hmem
    unfold childBlockingReason at hnone
    rw [hchild] at hnone
    simp only [if_pos hstatus] at hnone
    cases hnone
  · intro h d hmem
    rcases List.mem_filter.mp hmem with ⟨hedge, htype⟩
    rcases TaskGraph.mem_findByTaskId.mp hedge with ⟨hd, htask⟩
    rcases Option.isSome_iff_exists.mp (g.prerequisiteTask d hd) with ⟨child, hchild⟩
    unfold childBlockingReason
    rw [hchild]
    apply if_neg
    intro hstatus
    apply h
    refine ⟨d, child, hd, htask, ?_, hchild, hstatus⟩
    simpa [isParentChildEdge] using htype

theorem checkParentChildReadiness_iff {taskId : TaskId} {task : Task}
    (htask : g.store.findTask taskId = some task) :
    checkParentChildReadiness taskId g = .ok (.complete taskId) <->
      ¬ g.HasOpenChild taskId := by
  rw [← childBlockingReasons_eq_nil_iff]
  simp only [checkParentChildReadiness, htask, orThrow_some, ok_bind]
  split
  · rename_i hedges
    rw [hedges]
    exact iff_of_true rfl rfl
  · split
    · rename_i hnil
      exact iff_of_true rfl hnil
    · rename_i hne
      constructor
      · intro h
        cases h
      · intro h
        exact absurd h hne

/-!
## Acting on the answer
-/

def onRequest (request : Request) : Process TaskGraph ServiceError Unit :=
  Process.transaction (fun _ g => g) id
    (fun g => (g.perform request).map (fun g' => (g', ())))

def query {α : Type} (call : TaskGraph -> Except ServiceError α) :
    Process TaskGraph ServiceError α := do
  let g ← Process.read
  Process.ofExcept (call g)

/-- The context with which a task that is ready leaves BACKLOG or BLOCKED. -/
def readyContext : TransitionContext where
  allDependenciesResolved := some true
  hasPolicyBlockers := some false

end Dependencies
end CopilotFactory
