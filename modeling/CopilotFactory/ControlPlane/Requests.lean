import CopilotFactory.Foundations.TransitionSystem
import CopilotFactory.Application.LeaseService
import CopilotFactory.Application.HeartbeatService
import CopilotFactory.Application.LeaseReclaimService
import CopilotFactory.ControlPlane.OperatorActions

/-!
# The control plane as a transition system

Each request is one service call, executed as one transaction: it commits a new
store or fails and leaves the store as it was.  Clock readings and fresh ids are
part of the request, since the environment chooses them.
-/

namespace CopilotFactory
namespace ControlPlane

open Foundations
open Domain
open Infrastructure
open Application

/-!
## Task records

Creating a task and editing its metadata.  An edit names the version it was made
against and is refused at any other version, so an accepted edit raises the
version without touching the status.
-/

structure CreateTaskDto where
  taskId : TaskId
  repositoryId : String
  taskType : String
  priority : String
  requiredCapabilities : List String := []

def newTask (dto : CreateTaskDto) : Task where
  taskId := dto.taskId
  repositoryId := dto.repositoryId
  taskType := dto.taskType
  priority := dto.priority
  requiredCapabilities := dto.requiredCapabilities
  status := .backlog
  version := 1
  retryCount := 0
  currentLeaseId := none
  currentReviewCycleId := none
  mergeQueueItemId := none
  completedAt := none

def createTask (dto : CreateTaskDto) (s : Store) : Except ServiceError Store :=
  s.createTask (newTask dto)

structure UpdateTaskDto where
  version : Nat
  priority : Option String := none
  requiredCapabilities : Option (List String) := none

def editedColumns (dto : UpdateTaskDto) : TaskUpdate where
  priority := dto.priority
  requiredCapabilities := dto.requiredCapabilities

def updateTask (taskId : TaskId) (dto : UpdateTaskDto)
    (s : Store) : Except ServiceError (Store × Option Task) :=
  match s.findTask taskId with
  | none => .ok (s, none)
  | some task =>
      match s.updateTask taskId dto.version (editedColumns dto) with
      | .ok s' => .ok (s', some ((editedColumns dto).apply (dto.version + 1) task))
      | .error _ =>
          .error (.conflictException
            (s!"Task \"{taskId}\" was modified concurrently. " ++
              s!"Expected version {dto.version} but the task was already updated. " ++
              "Re-read and retry."))

theorem updateTask_spec {taskId : TaskId} {dto : UpdateTaskDto} {s s' : Store}
    {result : Option Task} (h : updateTask taskId dto s = .ok (s', result)) :
    s' = s ∨
      exists task, s.findTask taskId = some task ∧ task.version = dto.version ∧
        s' = s.writeTask taskId (task.version + 1) (editedColumns dto) := by
  unfold updateTask at h
  cases htask : s.findTask taskId with
  | none =>
      rw [htask] at h
      cases h
      exact Or.inl rfl
  | some task =>
      rw [htask] at h
      dsimp only at h
      cases hupdate : s.updateTask taskId dto.version (editedColumns dto) with
      | error e =>
          rw [hupdate] at h
          cases h
      | ok s₁ =>
          rw [hupdate] at h
          cases h
          rcases Store.updateTask_eq_ok.mp hupdate with ⟨t, ht, hversion, hs'⟩
          rw [htask] at ht
          cases ht
          exact Or.inr ⟨task, rfl, hversion, by rw [hs', hversion]⟩

inductive Request where
  | createWorkerPool (pool : WorkerPool)
  | createTask (dto : CreateTaskDto)
  | updateTask (taskId : TaskId) (dto : UpdateTaskDto)
  | acquireLease (now : Millis) (leaseId : LeaseId) (params : AcquireLeaseParams)
  | transitionLease (leaseId : LeaseId) (targetStatus : WorkerLeaseStatus)
      (context : WorkerLeaseTransitionContext) (actor : ActorInfo)
  | receiveHeartbeat (now : Millis) (params : ReceiveHeartbeatParams)
  | reclaimLease (params : ReclaimLeaseParams)
  | transitionTask (taskId : TaskId) (targetStatus : TaskStatus)
      (context : TransitionContext) (actor : ActorInfo)
  | pause (taskId : TaskId) (actorId : String)
  | resume (taskId : TaskId) (actorId : String)
  | requeue (taskId : TaskId) (actorId : String)
  | forceUnblock (taskId : TaskId) (actorId reason : String)
  | cancel (taskId : TaskId) (actorId : String) (acknowledgeInProgressWork : Bool)
  | resolveEscalation (taskId : TaskId) (dto : ResolveEscalationDto)
  | changePriority (taskId : TaskId) (priority actorId : String)
  | rerunReview (taskId : TaskId) (actorId : String)
  | reopen (taskId : TaskId) (actorId : String)

def committed {α : Type} (call : Except ServiceError (Store × α)) :
    Except ServiceError Store :=
  call.map Prod.fst

def perform (s : Store) : Request -> Except ServiceError Store
  | .createWorkerPool pool => s.createWorkerPool pool
  | .createTask dto => createTask dto s
  | .updateTask taskId dto => committed (updateTask taskId dto s)
  | .acquireLease now leaseId params => committed (acquireLease now leaseId params s)
  | .transitionLease leaseId targetStatus context actor =>
      committed (transitionLease leaseId targetStatus context actor s)
  | .receiveHeartbeat now params => committed (receiveHeartbeat now params s)
  | .reclaimLease params => committed (reclaimLease params s)
  | .transitionTask taskId targetStatus context actor =>
      committed (transitionTask taskId targetStatus context actor s)
  | .pause taskId actorId => committed (pause taskId actorId s)
  | .resume taskId actorId => committed (resume taskId actorId s)
  | .requeue taskId actorId => committed (requeue taskId actorId s)
  | .forceUnblock taskId actorId reason =>
      committed (forceUnblock taskId actorId reason s)
  | .cancel taskId actorId acknowledge => committed (cancel taskId actorId acknowledge s)
  | .resolveEscalation taskId dto => committed (resolveEscalation taskId dto s)
  | .changePriority taskId priority actorId =>
      committed (changePriority taskId priority actorId s)
  | .rerunReview taskId actorId => committed (rerunReview taskId actorId s)
  | .reopen taskId actorId => committed (reopen taskId actorId s)

def controlPlane : TransitionSystem Store Request ServiceError where
  step := perform

theorem committed_eq_ok {α : Type} {call : Except ServiceError (Store × α)} {s' : Store} :
    committed call = .ok s' <-> exists result, call = .ok (s', result) := by
  cases call with
  | error e =>
      simp [committed, Except.map]
  | ok r =>
      rcases r with ⟨s₁, result⟩
      simp [committed, Except.map]

end ControlPlane
end CopilotFactory
