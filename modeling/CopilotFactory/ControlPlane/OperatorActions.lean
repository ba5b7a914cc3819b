import CopilotFactory.Application.TransitionService

/-!
# Operator actions

Operators pause, resume, requeue, cancel, resolve, rerun and reopen tasks.  Most
actions go through the transition service, with a context that the action fills
in itself.  The two overrides, rerunning a review and reopening a task, write the
status directly.
-/

namespace CopilotFactory
namespace ControlPlane

open Foundations
open Domain
open Infrastructure
open Application

variable {targetStatus : TaskStatus} {context : TransitionContext} {s s' : Store}

structure OperatorActionResult where
  task : Task
  auditEvent : AuditEvent

/-!
## Texts
-/

def taskNotFound (taskId : TaskId) : ServiceError :=
  .notFoundException s!"Task with ID \"{taskId}\" not found"

def isWhitespace (c : Char) : Bool :=
  c.toNat ∈ [0x09, 0x0A, 0x0B, 0x0C, 0x0D, 0x20, 0xA0, 0x1680, 0x2028, 0x2029, 0x202F,
    0x205F, 0x3000, 0xFEFF] ||
  (0x2000 ≤ c.toNat && c.toNat ≤ 0x200A)

def isBlank (text : String) : Bool :=
  text.toList.all isWhitespace

def operatorActor (actorId : String) : ActorInfo where
  type := "operator"
  id := actorId

/-!
## Guards

A guard that does not find the task passes, and leaves the missing task to the
service.
-/

def guardForceUnblock (s : Store) (taskId : TaskId) (reason : String) :
    Except ServiceError Unit := do
  ensure (isBlank reason = false)
    (.badRequestException ("force_unblock requires a non-empty reason explaining why " ++
      "the dependency is being bypassed. This is a sensitive action that " ++
      "will be logged with elevated audit severity."))
  match s.findTask taskId with
  | none => .ok ()
  | some task =>
      ensure (task.status = .blocked)
        (.badRequestException
          (s!"Cannot force-unblock task \"{taskId}\" in state \"{task.status.label}\". " ++
            s!"Task must be in BLOCKED state. Current state: {task.status.label}."))

def guardReopen (s : Store) (taskId : TaskId) : Except ServiceError Unit :=
  match s.findTask taskId with
  | none => .ok ()
  | some task => do
      ensure (task.status ∈ [TaskStatus.done, .failed, .cancelled])
        (.badRequestException
          (s!"Cannot reopen task \"{taskId}\" in state \"{task.status.label}\". " ++
            "Task must be in a terminal state (DONE, FAILED, CANCELLED)."))
      refuse (s.findActiveByTaskId taskId) (fun activeLease =>
        .badRequestException
          (s!"Cannot reopen task \"{taskId}\" because it has an active lease " ++
            s!"(lease ID: \"{activeLease.leaseId}\", " ++
            s!"status: \"{activeLease.status.label}\"). " ++
            "The lease must reach a terminal state (COMPLETED, TIMED_OUT, CRASHED, " ++
            "or RECLAIMED) before the task can be reopened. This prevents " ++
            "inconsistent state where a worker holds a lease on a BACKLOG task."))

def inProgressStates : List TaskStatus :=
  [.inDevelopment, .merging]

def guardCancel (s : Store) (taskId : TaskId) (acknowledgeInProgressWork : Bool) :
    Except ServiceError Unit :=
  match s.findTask taskId with
  | none => .ok ()
  | some task => do
      ensure (task.status ≠ .merging)
        (.badRequestException
          (s!"Cannot cancel task \"{taskId}\" while it is in MERGING state. " ++
            "A merge operation is actively in progress. Wait for the merge " ++
            "to complete or fail before cancelling. Cancelling during a merge " ++
            "could leave the repository in an inconsistent state."))
      ensure (¬ (task.status ∈ inProgressStates ∧ acknowledgeInProgressWork = false))
        (.badRequestException
          (s!"Task \"{taskId}\" is in \"{task.status.label}\" state with active work " ++
            "in progress. Set \"acknowledgeInProgressWork: true\" in the request " ++
            "body to confirm you want to cancel this task and discard the " ++
            "in-progress work."))

inductive EscalationResolutionType where
  | retry
  | cancel
  | markDone
deriving DecidableEq

def guardResolveEscalation (s : Store) (taskId : TaskId)
    (resolutionType : EscalationResolutionType) (evidence : Option String) :
    Except ServiceError Unit :=
  match s.findTask taskId with
  | none => .ok ()
  | some task => do
      ensure (task.status = .escalated)
        (.badRequestException
          (s!"Cannot resolve escalation for task \"{taskId}\" in state " ++
            s!"\"{task.status.label}\". Task must be in ESCALATED state."))
      ensure (¬ (resolutionType = .markDone ∧ isBlank (evidence.getD "") = true))
        (.badRequestException
          ("resolve_escalation with \"mark_done\" requires non-empty evidence " ++
            "explaining how the task was completed externally. This is a sensitive " ++
            "action that bypasses normal quality checks and will be logged with " ++
            "elevated audit severity."))

/-!
## Actions through the transition service
-/

def translateError (taskId : TaskId) (e : ServiceError) : ServiceError :=
  match e with
  | .entityNotFound _ _ => taskNotFound taskId
  | .invalidTransition _ _ _ _ _ => .badRequestException e.message
  | .versionConflict _ _ _ =>
      .badRequestException
        s!"Task \"{taskId}\" was modified concurrently. Re-read and retry."
  | _ => e

def executeTransitionAction (taskId : TaskId) (targetStatus : TaskStatus)
    (context : TransitionContext) (actor : ActorInfo)
    (s : Store) : Except ServiceError (Store × OperatorActionResult) := do
  let (s', auditEvent) ←
    (transitionTask taskId targetStatus context actor s).mapError (translateError taskId)
  let fullTask ← orThrow (s'.findTask taskId) (taskNotFound taskId)
  pure (s', { task := fullTask, auditEvent := auditEvent })

def pause (taskId : TaskId) (actorId : String)
    (s : Store) : Except ServiceError (Store × OperatorActionResult) :=
  executeTransitionAction taskId .escalated { isOperator := some true }
    (operatorActor actorId) s

/-- Resume asserts `leaseAcquired` itself; no lease is looked up or created. -/
def resume (taskId : TaskId) (actorId : String)
    (s : Store) : Except ServiceError (Store × OperatorActionResult) := do
  let task ← orThrow (s.findTask taskId) (taskNotFound taskId)
  ensure (task.status = .escalated)
    (.badRequestException
      (s!"Cannot resume task \"{taskId}\" in state \"{task.status.label}\". " ++
        "Task must be in ESCALATED state."))
  executeTransitionAction taskId .assigned
    { isOperator := some true, leaseAcquired := some true } (operatorActor actorId) s

def requeue (taskId : TaskId) (actorId : String)
    (s : Store) : Except ServiceError (Store × OperatorActionResult) :=
  executeTransitionAction taskId .ready { leaseReclaimedRetryEligible := some true }
    (operatorActor actorId) s

def forceUnblock (taskId : TaskId) (actorId reason : String)
    (s : Store) : Except ServiceError (Store × OperatorActionResult) := do
  guardForceUnblock s taskId reason
  executeTransitionAction taskId .ready
    { allDependenciesResolved := some true, hasPolicyBlockers := some false }
    (operatorActor actorId) s

def cancel (taskId : TaskId) (actorId : String) (acknowledgeInProgressWork : Bool)
    (s : Store) : Except ServiceError (Store × OperatorActionResult) := do
  guardCancel s taskId acknowledgeInProgressWork
  executeTransitionAction taskId .cancelled { isOperator := some true }
    (operatorActor actorId) s

structure ResolveEscalationDto where
  resolutionType : EscalationResolutionType
  actorId : String
  evidence : Option String := none
  poolId : Option PoolId := none

/-- The audit event of a pool reassignment requested with a retry. -/
def reassignPoolAudit (taskId : TaskId) (poolId : PoolId) (actorId : String) :
    AuditEvent where
  entityType := "task"
  entityId := taskId
  eventType := "task.operator.reassign_pool"
  actorType := "operator"
  actorId := actorId
  oldState := none
  newState := some (.object [("poolId", .text poolId)])

/-- Record the requested pool, if any: an empty pool id counts as none. -/
def recordPool (taskId : TaskId) (dto : ResolveEscalationDto) (s : Store) : Store :=
  match dto.poolId with
  | none => s
  | some poolId =>
      if poolId = "" then s else s.appendAudit (reassignPoolAudit taskId poolId dto.actorId)

def resolveEscalation (taskId : TaskId) (dto : ResolveEscalationDto)
    (s : Store) : Except ServiceError (Store × OperatorActionResult) := do
  guardResolveEscalation s taskId dto.resolutionType dto.evidence
  match dto.resolutionType with
  | .retry =>
      let (s', result) ← executeTransitionAction taskId .assigned
        { isOperator := some true, leaseAcquired := some true }
        (operatorActor dto.actorId) s
      pure (recordPool taskId dto s', result)
  | .cancel =>
      executeTransitionAction taskId .cancelled { isOperator := some true }
        (operatorActor dto.actorId) s
  | .markDone =>
      executeTransitionAction taskId .done { isOperator := some true }
        (operatorActor dto.actorId) s

/-!
## Overrides and metadata edits
-/

/-- The columns an override sets: going back to BACKLOG forgets the earlier work. -/
def overrideUpdate (targetStatus : TaskStatus) : TaskUpdate :=
  if targetStatus = .backlog then
    { status := some targetStatus
      completedAt := some none
      currentLeaseId := some none
      currentReviewCycleId := some none
      mergeQueueItemId := some none }
  else
    { status := some targetStatus }

def executeOverrideAction (taskId : TaskId) (targetStatus : TaskStatus)
    (validSourceStates : List TaskStatus) (actorId action : String)
    (s : Store) : Except ServiceError (Store × OperatorActionResult) := do
  let task ← orThrow (s.findTask taskId) (taskNotFound taskId)
  ensure (task.status ∈ validSourceStates)
    (.badRequestException
      (s!"Cannot perform \"{action}\" on task \"{taskId}\" in state " ++
        s!"\"{task.status.label}\". Valid source states: " ++
        (", ".intercalate (validSourceStates.map TaskStatus.label)) ++ "."))
  let s₁ ← s.updateTask taskId task.version (overrideUpdate targetStatus)
  let updated := (overrideUpdate targetStatus).apply (task.version + 1) task
  let auditEvent : AuditEvent :=
    { entityType := "task"
      entityId := taskId
      eventType := s!"task.operator.{action}"
      actorType := "operator"
      actorId := actorId
      oldState := some (auditStatusVersion task.status task.version)
      newState := some (auditStatusVersion targetStatus updated.version) }
  pure (s₁.appendAudit auditEvent, { task := updated, auditEvent := auditEvent })

def rerunReview (taskId : TaskId) (actorId : String)
    (s : Store) : Except ServiceError (Store × OperatorActionResult) :=
  executeOverrideAction taskId .devComplete [.approved, .inReview] actorId
    "rerun_review" s

def reopen (taskId : TaskId) (actorId : String)
    (s : Store) : Except ServiceError (Store × OperatorActionResult) := do
  guardReopen s taskId
  executeOverrideAction taskId .backlog [.done, .failed, .cancelled] actorId "reopen" s

def changePriority (taskId : TaskId) (priority actorId : String)
    (s : Store) : Except ServiceError (Store × OperatorActionResult) := do
  let task ← orThrow (s.findTask taskId) (taskNotFound taskId)
  let s₁ ← s.updateTask taskId task.version { priority := some priority }
  let updated := TaskUpdate.apply { priority := some priority } (task.version + 1) task
  let auditEvent : AuditEvent :=
    { entityType := "task"
      entityId := taskId
      eventType := "task.operator.change_priority"
      actorType := "operator"
      actorId := actorId
      oldState := some (.object [("priority", .text task.priority)])
      newState := some (.object [("priority", .text priority)]) }
  pure (s₁.appendAudit auditEvent, { task := updated, auditEvent := auditEvent })

/-!
## What the actions do

An action through the transition service changes the status and the version of
its task, and nothing else of tasks and leases.
-/

variable {result : OperatorActionResult}

theorem executeTransitionAction_spec {taskId : TaskId} {actor : ActorInfo}
    (h : executeTransitionAction taskId targetStatus context actor s = .ok (s', result)) :
    exists auditEvent,
      transitionTask taskId targetStatus context actor s = .ok (s', auditEvent) := by
  unfold executeTransitionAction at h
  rcases bind_eq_ok.mp h with ⟨⟨s₁, auditEvent⟩, htransition, h⟩
  rw [mapError_eq_ok] at htransition
  simp only [bind_eq_ok, orThrow_eq_ok, pure_eq_ok, Prod.mk.injEq] at h
  rcases h with ⟨_, _, hs₁, _⟩
  rw [hs₁] at htransition
  exact ⟨auditEvent, htransition⟩

theorem executeTransitionAction_of_transition {taskId : TaskId} {actor : ActorInfo}
    {auditEvent : AuditEvent}
    (h : transitionTask taskId targetStatus context actor s = .ok (s', auditEvent)) :
    exists result,
      executeTransitionAction taskId targetStatus context actor s = .ok (s', result) := by
  rcases transitionTask_eq_ok.mp h with ⟨task, htask, _, hs', _⟩
  have hfind : s'.findTask taskId =
      some (TaskUpdate.apply { status := some targetStatus } (task.version + 1) task) := by
    rw [hs', Store.appendAudit_findTask, Store.findTask_writeTask_self, htask]
    rfl
  simp only [executeTransitionAction, mapError_eq_ok.mpr h, ok_bind, hfind, orThrow_some]
  exact ⟨_, rfl⟩

theorem executeTransitionAction_accepts {taskId : TaskId} (actor : ActorInfo) {task : Task}
    (htask : s.findTask taskId = some task)
    (hvalid : validateTransition task.status targetStatus context = .valid) :
    exists s' result,
      executeTransitionAction taskId targetStatus context actor s = .ok (s', result) ∧
      s'.mergeQueueItems = s.mergeQueueItems ∧
      s'.tasks = (s.writeTask taskId (task.version + 1)
        { status := some targetStatus }).tasks := by
  rcases transitionTask_accepts actor htask hvalid with ⟨s', event, h⟩
  rcases executeTransitionAction_of_transition h with ⟨result, haction⟩
  rcases transitionTask_eq_ok.mp h with ⟨found, hfound, _, hs', _⟩
  rw [htask] at hfound
  cases hfound
  refine ⟨s', result, haction, ?_, ?_⟩
  · rw [hs']
    rfl
  · rw [hs']
    rfl

theorem executeOverrideAction_spec {taskId : TaskId} {validSourceStates : List TaskStatus}
    {actorId action : String}
    (h : executeOverrideAction taskId targetStatus validSourceStates actorId action s =
      .ok (s', result)) :
    exists task,
      s.findTask taskId = some task ∧
      task.status ∈ validSourceStates ∧
      s' = (s.writeTask taskId (task.version + 1)
        (overrideUpdate targetStatus)).appendAudit result.auditEvent ∧
      result.auditEvent.oldState = some (auditStatusVersion task.status task.version) := by
  simp only [executeOverrideAction, bind_eq_ok, orThrow_eq_ok, ensure_eq_ok, pure_eq_ok,
    Prod.mk.injEq] at h
  rcases h with ⟨task, htask, _, hsource, s₁, hupdate, hs', hresult⟩
  rw [Store.updateTask_of_find htask] at hupdate
  cases hupdate
  refine ⟨task, htask, hsource, ?_, ?_⟩
  · rw [← hs', ← hresult]
  · rw [← hresult]

theorem changePriority_spec {taskId : TaskId} {priority actorId : String}
    (h : changePriority taskId priority actorId s = .ok (s', result)) :
    exists task,
      s.findTask taskId = some task ∧
      s' = (s.writeTask taskId (task.version + 1)
        { priority := some priority }).appendAudit result.auditEvent := by
  simp only [changePriority, bind_eq_ok, orThrow_eq_ok, pure_eq_ok, Prod.mk.injEq] at h
  rcases h with ⟨task, htask, s₁, hupdate, hs', hresult⟩
  rw [Store.updateTask_of_find htask] at hupdate
  cases hupdate
  exact ⟨task, htask, by rw [← hs', ← hresult]⟩

theorem recordPool_tasks (taskId : TaskId) (dto : ResolveEscalationDto) (s : Store) :
    (recordPool taskId dto s).tasks = s.tasks := by
  unfold recordPool
  split
  · rfl
  · split <;> rfl

/-- A resolution runs one transition, to the status of its kind, and a retry may record
a pool afterwards. -/
theorem resolveEscalation_spec {taskId : TaskId} {dto : ResolveEscalationDto}
    (h : resolveEscalation taskId dto s = .ok (s', result)) :
    (dto.resolutionType = .retry ∧ exists s₁ result₁,
      executeTransitionAction taskId .assigned
        { isOperator := some true, leaseAcquired := some true }
        (operatorActor dto.actorId) s = .ok (s₁, result₁) ∧
      s' = recordPool taskId dto s₁) ∨
    (dto.resolutionType ≠ .retry ∧ exists target,
      (target = .cancelled ∨ target = .done) ∧
      executeTransitionAction taskId target { isOperator := some true }
        (operatorActor dto.actorId) s = .ok (s', result)) := by
  unfold resolveEscalation at h
  rcases bind_eq_ok.mp h with ⟨_, _, h⟩
  cases htype : dto.resolutionType with
  | retry =>
      rw [htype] at h
      rcases bind_eq_ok.mp h with ⟨⟨s₁, result₁⟩, htransition, h⟩
      cases h
      exact Or.inl ⟨rfl, s₁, result, htransition, rfl⟩
  | cancel =>
      rw [htype] at h
      exact Or.inr ⟨by simp, .cancelled, Or.inl rfl, h⟩
  | markDone =>
      rw [htype] at h
      exact Or.inr ⟨by simp, .done, Or.inr rfl, h⟩

end ControlPlane
end CopilotFactory
