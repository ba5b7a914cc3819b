import CopilotFactory.ControlPlane.Requests

/-!
# What a request does to leases and tasks

Whatever the request, the lease table is left alone, gains one LEASED lease of a
task that had no active one, or has the status of one lease moved along the
worker lease state machine.  All facts about leases are derived from this.
-/

namespace CopilotFactory
namespace Leasing

open Foundations
open Domain
open Infrastructure
open Application
open ControlPlane

variable {actor : ActorInfo} {s s' : Store} {result : OperatorActionResult}

/-- A request that moves a lease to COMPLETING: a completing heartbeat, or an explicit
transition, that finds its lease in a status from which this is accepted. -/
def CompletesLease (s : Store) : Request -> Prop
  | .receiveHeartbeat _ params =>
      params.completing = true ∧
        exists lease, s.findLease params.leaseId = some lease ∧
          lease.status ∈ heartbeatReceivableStates
  | .transitionLease leaseId targetStatus context _ =>
      targetStatus = .completing ∧
        exists lease, s.findLease leaseId = some lease ∧
          validateWorkerLeaseTransition lease.status .completing context = .valid
  | _ => False

def OperatesOn (leaseId : LeaseId) : Request -> Prop
  | .receiveHeartbeat _ params => params.leaseId = leaseId
  | .transitionLease id _ _ _ => id = leaseId
  | .reclaimLease params => params.leaseId = leaseId
  | _ => False

instance (leaseId : LeaseId) : DecidablePred (OperatesOn leaseId) := by
  intro r
  cases r <;> unfold OperatesOn <;> infer_instance

inductive LeaseEffect (s s' : Store) (r : Request) : Prop where
  | unchanged (h : s'.taskLeases = s.taskLeases)
  | created (lease : TaskLease)
      (hnew : s.findLease lease.leaseId = none)
      (hfree : s.findActiveByTaskId lease.taskId = none)
      (hstatus : lease.status = .leased)
      (hself : s'.findLease lease.leaseId = some lease)
      (hother : forall id, id ≠ lease.leaseId -> s'.findLease id = s.findLease id)
  | moved (leaseId : LeaseId) (lease : TaskLease) (target : WorkerLeaseStatus)
      (data : TaskLeaseUpdate)
      (hlease : s.findLease leaseId = some lease)
      (hguard : (WorkerLease.transitionGuards lease.status target).isSome = true)
      (hdata : data.status = some target)
      (hcompletes : target = .completing -> CompletesLease s r)
      (hoperates : OperatesOn leaseId r)
      (h : s'.taskLeases = (s.writeLease leaseId data).taskLeases)

/-!
## One lemma for each kind of request
-/

theorem transitionTask_taskLeases {taskId : TaskId} {target : TaskStatus}
    {context : TransitionContext} {event : AuditEvent}
    (h : transitionTask taskId target context actor s = .ok (s', event)) :
    s'.taskLeases = s.taskLeases := by
  rcases transitionTask_eq_ok.mp h with ⟨_, _, _, hs', _⟩
  rw [hs']
  rfl

theorem executeTransitionAction_taskLeases {taskId : TaskId} {target : TaskStatus}
    {context : TransitionContext}
    (h : executeTransitionAction taskId target context actor s = .ok (s', result)) :
    s'.taskLeases = s.taskLeases := by
  rcases executeTransitionAction_spec h with ⟨_, htransition⟩
  exact transitionTask_taskLeases htransition

theorem executeOverrideAction_taskLeases {taskId : TaskId} {target : TaskStatus}
    {sources : List TaskStatus} {actorId action : String}
    (h : executeOverrideAction taskId target sources actorId action s = .ok (s', result)) :
    s'.taskLeases = s.taskLeases := by
  rcases executeOverrideAction_spec h with ⟨_, _, _, hs', _⟩
  rw [hs']
  rfl

theorem recordPool_taskLeases (taskId : TaskId) (dto : ResolveEscalationDto) (s : Store) :
    (recordPool taskId dto s).taskLeases = s.taskLeases := by
  unfold recordPool
  split
  · rfl
  · split <;> rfl

theorem resolveEscalation_taskLeases {taskId : TaskId} {dto : ResolveEscalationDto}
    (h : resolveEscalation taskId dto s = .ok (s', result)) : s'.taskLeases = s.taskLeases := by
  rcases resolveEscalation_spec h with
    ⟨_, s₁, _, htransition, hs'⟩ | ⟨_, target, _, htransition⟩
  · rw [hs', recordPool_taskLeases]
    exact executeTransitionAction_taskLeases htransition
  · exact executeTransitionAction_taskLeases htransition

theorem acquireLease_effect {now : Millis} {leaseId : LeaseId} {params : AcquireLeaseParams}
    {result : LeaseAcquisitionResult} (h : acquireLease now leaseId params s = .ok (s', result))
    (r : Request) : LeaseEffect s s' r := by
  rcases acquireLease_spec h with ⟨_, s₁, _, _, hfree, hcreate, _, hleases⟩
  rcases Store.createLease_spec hcreate with ⟨hnew, _, hself, hother, _⟩
  have hfind := Store.findLease_of_leases_eq hleases
  apply LeaseEffect.created (newLease now leaseId params) hnew hfree rfl
  · rw [hfind]
    exact hself
  · intro id hid
    rw [hfind]
    exact hother id hid

theorem receiveHeartbeat_effect {now : Millis} {params : ReceiveHeartbeatParams}
    {result : ReceiveHeartbeatResult} (h : receiveHeartbeat now params s = .ok (s', result)) :
    LeaseEffect s s' (.receiveHeartbeat now params) := by
  rcases receiveHeartbeat_spec h with ⟨lease, hlease, hstatus, _, hleases⟩
  apply LeaseEffect.moved params.leaseId lease
    (computeTargetStatus lease.status params.completing)
    (heartbeatUpdate now params lease) hlease
  · exact WorkerLease.step_of_validate (validate_heartbeat hstatus params.completing)
  · rfl
  · intro htarget
    refine ⟨?_, lease, hlease, hstatus⟩
    cases hcompleting : params.completing with
    | true =>
        rfl
    | false =>
        rw [hcompleting] at htarget
        simp only [heartbeatReceivableStates, List.mem_cons, List.not_mem_nil,
          or_false] at hstatus
        rcases hstatus with e | e | e <;> rw [e] at htarget <;> cases htarget
  · rfl
  · exact hleases

theorem reclaimLease_effect {params : ReclaimLeaseParams} {result : ReclaimLeaseResult}
    (h : reclaimLease params s = .ok (s', result)) : LeaseEffect s s' (.reclaimLease params) := by
  rcases reclaimLease_spec h with ⟨lease, _, hlease, hstatus, _, hleases, _⟩
  apply LeaseEffect.moved params.leaseId lease (determineLeaseTargetState params.reason)
    (reclaimUpdate params.reason) hlease
  · exact WorkerLease.step_of_validate (validate_reclaim hstatus params.reason)
  · rfl
  · intro htarget
    cases hreason : params.reason <;> rw [hreason] at htarget <;> cases htarget
  · rfl
  · exact hleases

theorem transitionLease_effect {leaseId : LeaseId} {target : WorkerLeaseStatus}
    {context : WorkerLeaseTransitionContext} {event : AuditEvent}
    (h : transitionLease leaseId target context actor s = .ok (s', event)) :
    LeaseEffect s s' (.transitionLease leaseId target context actor) := by
  rcases transitionLease_spec h with ⟨lease, hlease, hvalid, _, hleases⟩
  apply LeaseEffect.moved leaseId lease target { status := some target } hlease
  · exact WorkerLease.step_of_validate hvalid
  · rfl
  · intro htarget
    rw [htarget] at hvalid
    exact ⟨htarget, lease, hlease, hvalid⟩
  · rfl
  · exact hleases

/-!
## Every request
-/

def TouchesLeases : Request -> Prop
  | .acquireLease _ _ _ => True
  | .transitionLease _ _ _ _ => True
  | .receiveHeartbeat _ _ => True
  | .reclaimLease _ => True
  | _ => False

theorem perform_taskLeases {r : Request} (h : perform s r = .ok s') (hr : ¬ TouchesLeases r) :
    s'.taskLeases = s.taskLeases := by
  cases r with
  | createWorkerPool pool =>
      exact (Store.createWorkerPool_spec h).2
  | createTask dto =>
      exact (Store.createTask_spec h).2.1
  | updateTask taskId dto =>
      rcases committed_eq_ok.mp h with ⟨result, h⟩
      rcases updateTask_spec h with hs' | ⟨_, _, _, hs'⟩
      · rw [hs']
      · rw [hs']
        rfl
  | transitionTask taskId target context actor =>
      rcases committed_eq_ok.mp h with ⟨result, h⟩
      exact transitionTask_taskLeases h
  | pause taskId actorId | requeue taskId actorId =>
      rcases committed_eq_ok.mp h with ⟨result, h⟩
      exact executeTransitionAction_taskLeases h
  | resume taskId actorId =>
      rcases committed_eq_ok.mp h with ⟨result, h⟩
      rcases bind_eq_ok.mp h with ⟨_, _, h⟩
      rcases bind_eq_ok.mp h with ⟨_, _, h⟩
      exact executeTransitionAction_taskLeases h
  | forceUnblock taskId actorId reason | cancel taskId actorId acknowledge =>
      rcases committed_eq_ok.mp h with ⟨result, h⟩
      rcases bind_eq_ok.mp h with ⟨_, _, h⟩
      exact executeTransitionAction_taskLeases h
  | resolveEscalation taskId dto =>
      rcases committed_eq_ok.mp h with ⟨result, h⟩
      exact resolveEscalation_taskLeases h
  | changePriority taskId priority actorId =>
      rcases committed_eq_ok.mp h with ⟨result, h⟩
      rcases changePriority_spec h with ⟨_, _, hs'⟩
      rw [hs']
      rfl
  | rerunReview taskId actorId =>
      rcases committed_eq_ok.mp h with ⟨result, h⟩
      exact executeOverrideAction_taskLeases h
  | reopen taskId actorId =>
      rcases committed_eq_ok.mp h with ⟨result, h⟩
      rcases bind_eq_ok.mp h with ⟨_, _, h⟩
      exact executeOverrideAction_taskLeases h
  | _ =>
      exact absurd trivial hr

theorem leaseEffect_of_perform {r : Request} (h : perform s r = .ok s') : LeaseEffect s s' r := by
  by_cases hr : TouchesLeases r
  · cases r with
    | acquireLease now leaseId params =>
        rcases committed_eq_ok.mp h with ⟨result, h⟩
        exact acquireLease_effect h _
    | transitionLease leaseId target context actor =>
        rcases committed_eq_ok.mp h with ⟨result, h⟩
        exact transitionLease_effect h
    | receiveHeartbeat now params =>
        rcases committed_eq_ok.mp h with ⟨result, h⟩
        exact receiveHeartbeat_effect h
    | reclaimLease params =>
        rcases committed_eq_ok.mp h with ⟨result, h⟩
        exact reclaimLease_effect h
    | _ =>
        cases hr
  · exact .unchanged (perform_taskLeases h hr)

end Leasing
end CopilotFactory
