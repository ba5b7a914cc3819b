import CopilotFactory.ControlPlane.Requests

/-!
# What a request does to worker pools

No request but the creation of a pool touches the pool table.
-/

namespace CopilotFactory
namespace ControlPlane

open Foundations
open Domain
open Infrastructure
open Application

variable {s s' : Store} {actor : ActorInfo} {result : OperatorActionResult}

theorem acquireLease_workerPools {now : Millis} {leaseId : LeaseId}
    {params : AcquireLeaseParams} {result : LeaseAcquisitionResult}
    (h : acquireLease now leaseId params s = .ok (s', result)) :
    s'.workerPools = s.workerPools := by
  simp only [acquireLease, bind_eq_ok, pure_eq_ok, Prod.mk.injEq] at h
  rcases h with ⟨_, _, _, _, _, _, _, _, s₁, hcreate, s₂, hupdate, hs', _⟩
  rcases Store.updateTask_eq_ok.mp hupdate with ⟨_, _, _, hs₂⟩
  rw [← hs', hs₂]
  exact (Store.createLease_tables hcreate).2.1

theorem transitionLease_workerPools {leaseId : LeaseId} {targetStatus : WorkerLeaseStatus}
    {context : WorkerLeaseTransitionContext} {auditEvent : AuditEvent}
    (h : transitionLease leaseId targetStatus context actor s = .ok (s', auditEvent)) :
    s'.workerPools = s.workerPools := by
  simp only [transitionLease, bind_eq_ok, orThrow_eq_ok, pure_eq_ok, Prod.mk.injEq] at h
  rcases h with ⟨lease, hlease, _, _, s₁, hupdate, hs', _⟩
  rw [Store.updateLease_of_find hlease] at hupdate
  cases hupdate
  rw [← hs']
  rfl

theorem receiveHeartbeat_workerPools {now : Millis} {params : ReceiveHeartbeatParams}
    {result : ReceiveHeartbeatResult} (h : receiveHeartbeat now params s = .ok (s', result)) :
    s'.workerPools = s.workerPools := by
  simp only [receiveHeartbeat, bind_eq_ok, orThrow_eq_ok, pure_eq_ok, Prod.mk.injEq] at h
  rcases h with ⟨lease, hlease, _, _, _, _, s₁, hupdate, hs', _⟩
  rw [Store.updateLease_of_find hlease] at hupdate
  cases hupdate
  rw [← hs']
  rfl

theorem transitionTask_workerPools {taskId : TaskId} {target : TaskStatus}
    {context : TransitionContext} {event : AuditEvent}
    (h : transitionTask taskId target context actor s = .ok (s', event)) :
    s'.workerPools = s.workerPools := by
  rcases transitionTask_eq_ok.mp h with ⟨_, _, _, hs', _⟩
  rw [hs']
  rfl

theorem executeTransitionAction_workerPools {taskId : TaskId} {target : TaskStatus}
    {context : TransitionContext}
    (h : executeTransitionAction taskId target context actor s = .ok (s', result)) :
    s'.workerPools = s.workerPools := by
  rcases executeTransitionAction_spec h with ⟨_, htransition⟩
  exact transitionTask_workerPools htransition

theorem executeOverrideAction_workerPools {taskId : TaskId} {target : TaskStatus}
    {sources : List TaskStatus} {actorId action : String}
    (h : executeOverrideAction taskId target sources actorId action s = .ok (s', result)) :
    s'.workerPools = s.workerPools := by
  rcases executeOverrideAction_spec h with ⟨_, _, _, hs', _⟩
  rw [hs']
  rfl

theorem resolveEscalation_workerPools {taskId : TaskId} {dto : ResolveEscalationDto}
    (h : resolveEscalation taskId dto s = .ok (s', result)) : s'.workerPools = s.workerPools := by
  have hrecord : forall t : Store, (recordPool taskId dto t).workerPools = t.workerPools := by
    intro t
    unfold recordPool
    split
    · rfl
    · split <;> rfl
  rcases resolveEscalation_spec h with
    ⟨_, s₁, _, htransition, hs'⟩ | ⟨_, target, _, htransition⟩
  · rw [hs', hrecord]
    exact executeTransitionAction_workerPools htransition
  · exact executeTransitionAction_workerPools htransition

theorem perform_workerPools {r : Request} (h : perform s r = .ok s')
    (hr : forall pool, r ≠ .createWorkerPool pool) : s'.workerPools = s.workerPools := by
  cases r with
  | createWorkerPool pool =>
      exact absurd rfl (hr pool)
  | createTask dto =>
      exact Store.createTask_workerPools h
  | updateTask taskId dto =>
      rcases committed_eq_ok.mp h with ⟨result, h⟩
      rcases updateTask_spec h with hs' | ⟨_, _, _, hs'⟩
      · rw [hs']
      · rw [hs']
        rfl
  | acquireLease now leaseId params =>
      rcases committed_eq_ok.mp h with ⟨result, h⟩
      exact acquireLease_workerPools h
  | transitionLease leaseId target context actor =>
      rcases committed_eq_ok.mp h with ⟨result, h⟩
      exact transitionLease_workerPools h
  | receiveHeartbeat now params =>
      rcases committed_eq_ok.mp h with ⟨result, h⟩
      exact receiveHeartbeat_workerPools h
  | reclaimLease params =>
      rcases committed_eq_ok.mp h with ⟨result, h⟩
      exact (reclaimLease_tables h).2
  | transitionTask taskId target context actor =>
      rcases committed_eq_ok.mp h with ⟨result, h⟩
      exact transitionTask_workerPools h
  | pause taskId actorId | requeue taskId actorId =>
      rcases committed_eq_ok.mp h with ⟨result, h⟩
      exact executeTransitionAction_workerPools h
  | resume taskId actorId =>
      rcases committed_eq_ok.mp h with ⟨result, h⟩
      rcases bind_eq_ok.mp h with ⟨_, _, h⟩
      rcases bind_eq_ok.mp h with ⟨_, _, h⟩
      exact executeTransitionAction_workerPools h
  | forceUnblock taskId actorId reason | cancel taskId actorId acknowledge =>
      rcases committed_eq_ok.mp h with ⟨result, h⟩
      rcases bind_eq_ok.mp h with ⟨_, _, h⟩
      exact executeTransitionAction_workerPools h
  | resolveEscalation taskId dto =>
      rcases committed_eq_ok.mp h with ⟨result, h⟩
      exact resolveEscalation_workerPools h
  | changePriority taskId priority actorId =>
      rcases committed_eq_ok.mp h with ⟨result, h⟩
      rcases changePriority_spec h with ⟨_, _, hs'⟩
      rw [hs']
      rfl
  | rerunReview taskId actorId =>
      rcases committed_eq_ok.mp h with ⟨result, h⟩
      exact executeOverrideAction_workerPools h
  | reopen taskId actorId =>
      rcases committed_eq_ok.mp h with ⟨result, h⟩
      rcases bind_eq_ok.mp h with ⟨_, _, h⟩
      exact executeOverrideAction_workerPools h

end ControlPlane
end CopilotFactory
