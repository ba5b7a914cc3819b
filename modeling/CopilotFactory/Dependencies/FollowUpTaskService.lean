import CopilotFactory.Dependencies.ImportService

/-!
# Follow-up task service

A review, a failed validation after the merge or an analysis leads to new tasks.
Each of them relates to the task that it follows up, which does not block it.
-/

namespace CopilotFactory
namespace Dependencies

open Foundations
open Domain
open Infrastructure
open Application

inductive FollowUpSource where
  | review (followUpTaskRefs : List String) (reviewCycleId : String)
  | revert (severity : String)
  | diagnostic (failedChecks : List String)
  | hotfix (failureAttribution : String)

def FollowUpSource.type : FollowUpSource -> String
  | .review _ _ => "review"
  | .revert _ => "revert"
  | .diagnostic _ => "diagnostic"
  | .hotfix _ => "hotfix"

structure FollowUpTaskBlueprint where
  taskType : String
  priority : String

def buildBlueprints : FollowUpSource -> List FollowUpTaskBlueprint
  | .review followUpTaskRefs _ =>
      followUpTaskRefs.map (fun _ => { taskType := "chore", priority := "medium" })
  | .revert _ => [{ taskType := "bug_fix", priority := "critical" }]
  | .diagnostic _ => [{ taskType := "chore", priority := "low" }]
  | .hotfix _ => [{ taskType := "bug_fix", priority := "high" }]

structure CreateFollowUpTasksParams where
  sourceTaskId : TaskId
  source : FollowUpSource
  actor : ActorInfo
  /-- The ids drawn for the task and the dependency of each follow-up. -/
  idGenerator : Nat -> TaskId × TaskDependencyId

structure CreatedFollowUp where
  task : Task
  dependency : TaskDependency
  auditEvent : AuditEvent

def followUpRow (sourceTask : Task) (taskId : TaskId) (blueprint : FollowUpTaskBlueprint) :
    Task where
  taskId := taskId
  repositoryId := sourceTask.repositoryId
  taskType := blueprint.taskType
  priority := blueprint.priority
  status := .backlog
  version := 1
  retryCount := 0
  currentLeaseId := none
  currentReviewCycleId := none
  mergeQueueItemId := none
  completedAt := none

def followUpDependency (sourceTaskId taskId : TaskId)
    (taskDependencyId : TaskDependencyId) : TaskDependency where
  taskDependencyId := taskDependencyId
  taskId := taskId
  dependsOnTaskId := sourceTaskId
  dependencyType := .relatesTo
  isHardBlock := false

def followUpAudit (params : CreateFollowUpTasksParams) (taskId : TaskId) : AuditEvent :=
  let type := params.source.type
  { entityType := "task"
    entityId := taskId
    eventType := s!"task.follow-up-created.{type}"
    actorType := params.actor.type
    actorId := params.actor.id
    oldState := none
    newState := some (.plain TaskStatus.backlog.label) }

theorem keepsTasks_appendAudit (s : Store) (event : AuditEvent) :
    KeepsTasks s (s.appendAudit event) :=
  fun _ h => h

def TaskGraph.appendAudit (g : TaskGraph) (event : AuditEvent) : TaskGraph :=
  g.withStore (g.store.appendAudit event) (keepsTasks_appendAudit g.store event)

def createFollowUp (params : CreateFollowUpTasksParams) (sourceTask : Task) (n : Nat)
    (blueprint : FollowUpTaskBlueprint) (g : TaskGraph) :
    Except ServiceError (TaskGraph × CreatedFollowUp) := do
  let taskId := (params.idGenerator n).1
  let task := followUpRow sourceTask taskId blueprint
  let g₁ ← g.createTask task
  let dependency := followUpDependency params.sourceTaskId taskId (params.idGenerator n).2
  let g₂ ← g₁.createDependency dependency
  let auditEvent := followUpAudit params taskId
  pure (g₂.appendAudit auditEvent,
    { task := task
      dependency := dependency
      auditEvent := auditEvent })

def createFollowUps (params : CreateFollowUpTasksParams) (sourceTask : Task) :
    Nat -> List FollowUpTaskBlueprint -> TaskGraph ->
      Except ServiceError (TaskGraph × List CreatedFollowUp)
  | _, [], g => .ok (g, [])
  | n, blueprint :: rest, g => do
      let (g₁, followUp) ← createFollowUp params sourceTask n blueprint g
      let (g₂, followUps) ← createFollowUps params sourceTask (n + 1) rest g₁
      pure (g₂, followUp :: followUps)

def createFollowUpTasks (params : CreateFollowUpTasksParams) (g : TaskGraph) :
    Except ServiceError (TaskGraph × List CreatedFollowUp) := do
  let sourceTask ← orThrow (g.store.findTask params.sourceTaskId)
    (.entityNotFound "Task" params.sourceTaskId)
  createFollowUps params sourceTask 0 (buildBlueprints params.source) g

theorem createFollowUp_spec {params : CreateFollowUpTasksParams} {sourceTask : Task}
    {n : Nat} {blueprint : FollowUpTaskBlueprint} {g g' : TaskGraph}
    {followUp : CreatedFollowUp}
    (h : createFollowUp params sourceTask n blueprint g = .ok (g', followUp)) :
    exists taskId, g.store.findTask taskId = none ∧
      (g'.store.findTask params.sourceTaskId).isSome = true ∧
      g'.Edge = AddEdge g.Edge taskId params.sourceTaskId := by
  simp only [createFollowUp, bind_eq_ok, pure_eq_ok, Prod.mk.injEq] at h
  rcases h with ⟨g₁, htask, g₂, hdependency, hg, _⟩
  rcases TaskGraph.onStore_spec htask with ⟨hcreate, hkept⟩
  have hnew := (Store.createTask_spec hcreate).1
  have hedge := TaskGraph.edge_createDependency hdependency
  rw [TaskGraph.edge_of_taskDependencies_eq hkept] at hedge
  have hend : g₂.Edge (params.idGenerator n).1 params.sourceTaskId := by
    rw [hedge]
    exact Or.inr ⟨rfl, rfl⟩
  rw [← hg]
  exact ⟨(params.idGenerator n).1, hnew, (TaskGraph.exists_of_edge hend).2, hedge⟩

end Dependencies
end CopilotFactory
