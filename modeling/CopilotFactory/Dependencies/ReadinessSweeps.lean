import CopilotFactory.Application.ReconciliationSweep
import CopilotFactory.Automation.WorkerSupervisorService
import CopilotFactory.Dependencies.ReadinessService

/-!
# Sweeps over waiting tasks

The reconciliation sweep looks at every BLOCKED task, and the readiness cycle of
the automation at every task in BACKLOG or BLOCKED, whatever has completed.
-/

namespace CopilotFactory
namespace Dependencies

open Foundations
open Domain
open Infrastructure
open Application
open Automation

def tasksInStatus (status : TaskStatus) (g : TaskGraph) : List Task :=
  g.store.tasks.rows.filter (fun task => task.status = status)

/-!
## The sweep over BLOCKED tasks
-/

inductive ReadinessRecalcOutcome where
  | transitionedToReady
  | stillBlocked
  | error (text : String)
deriving DecidableEq

structure ReadinessRecalcAction where
  taskId : TaskId
  outcome : ReadinessRecalcOutcome
deriving DecidableEq

def sweepBlockedTask (taskId : TaskId) :
    Process TaskGraph ServiceError ReadinessRecalcOutcome := do
  match ← query (computeReadiness taskId) with
  | .blocked _ _ => pure .stillBlocked
  | .ready _ => do
      onRequest (.transitionTask taskId .ready readyContext sweepActor)
      pure .transitionedToReady

/-- Whatever goes wrong with one task is recorded, and the sweep goes on. -/
def sweepBlockedTaskAction (blocked : Task) :
    Process TaskGraph ServiceError ReadinessRecalcAction := do
  match ← Process.attempt (sweepBlockedTask blocked.taskId) with
  | .ok outcome =>
      pure
        { taskId := blocked.taskId
          outcome := outcome }
  | .error e =>
      pure
        { taskId := blocked.taskId
          outcome := .error e.message }

def sweepBlockedTasks : Process TaskGraph ServiceError (List ReadinessRecalcAction) := do
  let blockedTasks ← query (fun g => .ok (tasksInStatus .blocked g))
  Process.collect sweepBlockedTaskAction blockedTasks

/-!
## The readiness cycle of the automation
-/

def isExpectedSkip : ServiceError -> Bool
  | .entityNotFound _ _ => true
  | .invalidTransition _ _ _ _ _ => true
  | .versionConflict _ _ _ => true
  | _ => false

def tryTransitionTask (taskId : TaskId) (targetStatus : TaskStatus)
    (context : TransitionContext) : Process TaskGraph ServiceError Bool := do
  match ← Process.attempt
      (onRequest (.transitionTask taskId targetStatus context automationActor)) with
  | .ok _ => pure true
  | .error e =>
      if isExpectedSkip e then
        pure false
      else
        Process.throw e

structure ReadinessReconciliationResult where
  evaluatedCount : Nat
  transitionedToReady : Nat
  transitionedToBlocked : Nat

inductive ReadinessMove where
  | toReady
  | toBlocked
  | none
deriving DecidableEq

def reconcileCandidate (task : Task) : Process TaskGraph ServiceError ReadinessMove := do
  match task.status, ← query (computeReadiness task.taskId) with
  | .backlog, .ready _ => do
      let moved ← tryTransitionTask task.taskId .ready readyContext
      pure (if moved then .toReady else .none)
  | .backlog, .blocked _ _ => do
      let moved ← tryTransitionTask task.taskId .blocked { hasBlockers := some true }
      pure (if moved then .toBlocked else .none)
  | .blocked, .ready _ => do
      let moved ← tryTransitionTask task.taskId .ready readyContext
      pure (if moved then .toReady else .none)
  | _, _ => pure .none

def reconcileTaskReadiness :
    Process TaskGraph ServiceError ReadinessReconciliationResult := do
  let candidates ← query (fun g =>
    .ok (tasksInStatus .backlog g ++ tasksInStatus .blocked g))
  let moves ← Process.collect reconcileCandidate candidates
  pure
    { evaluatedCount := candidates.length
      transitionedToReady := moves.count .toReady
      transitionedToBlocked := moves.count .toBlocked }

end Dependencies
end CopilotFactory
