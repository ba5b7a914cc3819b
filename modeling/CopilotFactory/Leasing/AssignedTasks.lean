import CopilotFactory.Leasing.Exclusivity

/-!
# Assigned tasks and their leases

A task in ASSIGNED or IN_DEVELOPMENT should be worked on under a lease: its
current lease should be an active lease of that task.  The state machine trusts
the `leaseAcquired` flag of its caller, and two operator paths set the flag
without a lease.
-/

namespace CopilotFactory
namespace Leasing

open Foundations
open Domain
open Infrastructure
open Application
open ControlPlane

variable {context : TransitionContext} {s s' : Store} {leaseId : LeaseId} {actor : ActorInfo}
  {result : OperatorActionResult}

/-- The current lease of the task is an active lease of that task. -/
def LeaseBacked (s : Store) (task : Task) : Prop :=
  exists leaseId lease,
    task.currentLeaseId = some leaseId ∧ s.findLease leaseId = some lease ∧
      lease.taskId = task.taskId ∧ Active lease.status

def Working (status : TaskStatus) : Prop :=
  status = .assigned ∨ status = .inDevelopment

def AssignedTasksBacked (s : Store) : Prop :=
  forall taskId task, s.findTask taskId = some task -> Working task.status ->
    LeaseBacked s task

/-!
## The transitions that the automation requests

The readiness cycle, the processing of a worker's result and the reconciliation
sweep, each with the context it fills in.
-/

def automationTransitions : List (TaskStatus × TransitionContext) :=
  [(.ready, { allDependenciesResolved := some true, hasPolicyBlockers := some false }),
    (.blocked, { hasBlockers := some true }),
    (.inDevelopment, { hasHeartbeat := some true }),
    (.devComplete,
      { hasDevResultPacket := some true, requiredValidationsPassed := some true }),
    (.ready, { leaseReclaimedRetryEligible := some true })]

/-- The requests of the automation, of the workers and of the operators.  The
automation transitions tasks only as listed, and explicit lease transitions are the
supervisor's LEASED → STARTING. -/
def RoutineRequest : Request -> Prop
  | .transitionTask _ targetStatus context _ =>
      (targetStatus, context) ∈ automationTransitions
  | .transitionLease _ targetStatus _ _ => targetStatus = .starting
  | _ => True

instance : DecidablePred RoutineRequest := fun r =>
  match r with
  | .transitionTask _ targetStatus context _ =>
      inferInstanceAs (Decidable ((targetStatus, context) ∈ automationTransitions))
  | .transitionLease _ targetStatus _ _ =>
      inferInstanceAs (Decidable (targetStatus = .starting))
  | .createWorkerPool _ | .createTask _ | .updateTask _ _ | .acquireLease _ _ _
  | .receiveHeartbeat _ _ | .reclaimLease _ | .pause _ _ | .resume _ _ | .requeue _ _
  | .forceUnblock _ _ _ | .cancel _ _ _ | .resolveEscalation _ _ | .changePriority _ _ _
  | .rerunReview _ _ | .reopen _ _ =>
      .isTrue trivial

theorem leaseAcquired_not_asserted {target : TaskStatus}
    (h : (target, context) ∈ automationTransitions) : context.leaseAcquired ≠ some true := by
  have hall : forall x, x ∈ automationTransitions -> x.2.leaseAcquired ≠ some true := by
    decide
  exact hall _ h

/-!
## Leases that stay active
-/

theorem leaseBacked_iff_holdings {task : Task} :
    LeaseBacked s task <->
      exists leaseId, task.currentLeaseId = some leaseId ∧
        holdings s leaseId = some (task.taskId, true) := by
  constructor
  · intro h
    rcases h with ⟨leaseId, lease, hcurrent, hlease, htask, hactive⟩
    exact ⟨leaseId, hcurrent,
      holdings_eq_some_iff.mpr ⟨lease, hlease, htask, decide_eq_true hactive⟩⟩
  · intro h
    rcases h with ⟨leaseId, hcurrent, hheld⟩
    rcases holdings_eq_some_iff.mp hheld with ⟨lease, hlease, htask, hactive⟩
    exact ⟨leaseId, lease, hcurrent, hlease, htask, of_decide_eq_true hactive⟩

def KeepsHoldings (s s' : Store) : Prop :=
  forall leaseId taskId, holdings s leaseId = some (taskId, true) ->
    holdings s' leaseId = some (taskId, true)

theorem LeaseBacked.keep {task : Task} (h : LeaseBacked s task) (hkeep : KeepsHoldings s s') :
    LeaseBacked s' task := by
  rcases leaseBacked_iff_holdings.mp h with ⟨leaseId, hcurrent, hheld⟩
  exact leaseBacked_iff_holdings.mpr ⟨leaseId, hcurrent, hkeep _ _ hheld⟩

theorem keepsHoldings_of_leases_eq (h : s'.taskLeases = s.taskLeases) : KeepsHoldings s s' := by
  intro leaseId taskId hheld
  simpa [holdings, Store.findLease, h] using hheld

theorem keepsHoldings_of_moved {lease : TaskLease} {data : TaskLeaseUpdate}
    {target : WorkerLeaseStatus} (hlease : s.findLease leaseId = some lease)
    (hdata : data.status = some target) (htarget : Active target)
    (h : s'.taskLeases = (s.writeLease leaseId data).taskLeases) : KeepsHoldings s s' := by
  intro id taskId hheld
  rcases holdings_eq_some_iff.mp hheld with ⟨l, hl, htask, hactive⟩
  rw [holdings_eq_some_iff, findLease_moved hlease h]
  by_cases hid : id = leaseId
  · rw [hid, hlease] at hl
    cases hl
    rw [if_pos hid]
    exact ⟨_, rfl, htask, by simpa [hdata] using htarget⟩
  · rw [if_neg hid]
    exact ⟨l, hl, htask, hactive⟩

theorem keepsHoldings_of_created (hnew : s.findLease leaseId = none)
    (hother : forall id, id ≠ leaseId -> s'.findLease id = s.findLease id) :
    KeepsHoldings s s' := by
  intro id taskId hheld
  rcases holdings_eq_some_iff.mp hheld with ⟨l, hl, htask, hactive⟩
  have hid : id ≠ leaseId := by
    intro e
    rw [e, hnew] at hl
    cases hl
  rw [holdings_eq_some_iff, hother id hid]
  exact ⟨l, hl, htask, hactive⟩

/-!
## Writes to the task table
-/

theorem backed_of_tasks_eq (hs : AssignedTasksBacked s) (hkeep : KeepsHoldings s s')
    (h : s'.tasks = s.tasks) : AssignedTasksBacked s' := by
  intro taskId task hfind hworking
  rw [Store.findTask_of_tasks_eq h] at hfind
  exact (hs taskId task hfind hworking).keep hkeep

theorem backed_of_write {taskId : TaskId} {task : Task} {version : Nat} {data : TaskUpdate}
    (hs : AssignedTasksBacked s) (hkeep : KeepsHoldings s s')
    (htask : s.findTask taskId = some task)
    (h : s'.tasks = (s.writeTask taskId version data).tasks)
    (hwritten : Working (data.apply version task).status ->
      LeaseBacked s' (data.apply version task)) :
    AssignedTasksBacked s' := by
  intro id t hfind hworking
  rw [Store.findTask_of_tasks_eq h] at hfind
  by_cases hid : id = taskId
  · rw [hid, Store.findTask_writeTask_self, htask] at hfind
    cases hfind
    exact hwritten hworking
  · rw [Store.findTask_writeTask_of_ne hid] at hfind
    exact (hs id t hfind hworking).keep hkeep

theorem not_working {status : TaskStatus} (h₁ : status ≠ .assigned)
    (h₂ : status ≠ .inDevelopment) : ¬ Working status := by
  intro h
  rcases h with h | h
  · exact h₁ h
  · exact h₂ h

/-- A transition whose caller asserts no lease keeps every working task backed. -/
theorem transitionTask_backed {taskId : TaskId} {target : TaskStatus} {event : AuditEvent}
    (hs : AssignedTasksBacked s) (hcontext : context.leaseAcquired ≠ some true)
    (h : transitionTask taskId target context actor s = .ok (s', event)) :
    AssignedTasksBacked s' := by
  have hkeep := keepsHoldings_of_leases_eq (transitionTask_taskLeases h)
  rcases transitionTask_eq_ok.mp h with ⟨task, htask, hvalid, hs', _⟩
  apply backed_of_write hs hkeep htask (by rw [hs']; rfl)
  intro hworking
  rcases hworking with htarget | htarget
  · change target = .assigned at htarget
    rw [htarget] at hvalid
    exact absurd (TaskState.leaseAcquired_of_validate_assigned hvalid).1 hcontext
  · -- IN_DEVELOPMENT is entered from ASSIGNED and keeps the current lease.
    change target = .inDevelopment at htarget
    rw [htarget] at hvalid
    have hassigned := TaskState.assigned_of_validate_inDevelopment hvalid
    exact (hs taskId task htask (Or.inl hassigned)).keep hkeep

theorem executeTransitionAction_backed {taskId : TaskId} {target : TaskStatus}
    (hs : AssignedTasksBacked s) (hcontext : context.leaseAcquired ≠ some true)
    (h : executeTransitionAction taskId target context actor s = .ok (s', result)) :
    AssignedTasksBacked s' := by
  rcases executeTransitionAction_spec h with ⟨event, htransition⟩
  exact transitionTask_backed hs hcontext htransition

theorem executeOverrideAction_backed {taskId : TaskId} {target : TaskStatus}
    {sources : List TaskStatus} {actorId action : String} (hs : AssignedTasksBacked s)
    (htarget : ¬ Working target)
    (h : executeOverrideAction taskId target sources actorId action s = .ok (s', result)) :
    AssignedTasksBacked s' := by
  have hkeep := keepsHoldings_of_leases_eq (executeOverrideAction_taskLeases h)
  rcases executeOverrideAction_spec h with ⟨task, htask, _, hs', _⟩
  apply backed_of_write hs hkeep htask (by rw [hs']; rfl)
  intro hworking
  have hstatus : ((overrideUpdate target).apply (task.version + 1) task).status =
      target := by
    unfold overrideUpdate
    split <;> rfl
  rw [hstatus] at hworking
  exact absurd hworking htarget

theorem acquireLease_backed {now : Millis} {params : AcquireLeaseParams}
    {result : LeaseAcquisitionResult} (hs : AssignedTasksBacked s)
    (h : acquireLease now leaseId params s = .ok (s', result)) : AssignedTasksBacked s' := by
  rcases acquireLease_spec h with ⟨task, s₁, htask, _, _, hcreate, htasks, hleases⟩
  rcases Store.createLease_spec hcreate with ⟨hnew, _, hself, hother, _⟩
  have hfind := Store.findLease_of_leases_eq hleases
  have hkeep : KeepsHoldings s s' :=
    keepsHoldings_of_created hnew (fun id hid => (hfind id).trans (hother id hid))
  apply backed_of_write hs hkeep htask htasks
  intro _
  have hactive : Active .leased := by decide
  refine ⟨leaseId, newLease now leaseId params, rfl, ?_, ?_, hactive⟩
  · rw [hfind]
    exact hself
  · exact (Store.taskId_of_findTask htask).symm

theorem reclaimLease_backed {params : ReclaimLeaseParams} {result : ReclaimLeaseResult}
    (hs : AssignedTasksBacked s) (h : reclaimLease params s = .ok (s', result)) :
    AssignedTasksBacked s' := by
  rcases reclaimLease_spec h with ⟨lease, task, hlease, _, htask, hleases, htasks⟩
  intro id t hfind hworking
  by_cases hid : id = lease.taskId
  · rcases htasks with ⟨hnot, htasks⟩ | ⟨_, htasks⟩
    · -- The task had already moved on, and is left as it was.
      rw [Store.findTask_of_tasks_eq htasks, hid, htask] at hfind
      cases hfind
      apply absurd _ hnot
      rcases hworking with e | e <;> rw [e] <;> decide
    · rw [Store.findTask_of_tasks_eq htasks, hid, Store.findTask_writeTask_self,
        htask] at hfind
      cases hfind
      have htarget := evaluateTaskOutcome_targetStatus task params.retryPolicy
        params.escalationPolicy params.hasFailureSummary
      simp only [List.mem_cons, List.not_mem_nil, or_false] at htarget
      simp only [TaskUpdate.apply_status, reclaimTaskUpdate, Option.getD_some] at hworking
      rcases htarget with e | e | e <;> rw [e] at hworking <;>
        rcases hworking with hw | hw <;> cases hw
  · have hfind' : s.findTask id = some t := by
      rcases htasks with ⟨_, htasks⟩ | ⟨_, htasks⟩
      · rw [Store.findTask_of_tasks_eq htasks] at hfind
        exact hfind
      · rw [Store.findTask_of_tasks_eq htasks,
          Store.findTask_writeTask_of_ne hid] at hfind
        exact hfind
    rcases hs id t hfind' hworking with ⟨leaseId, l, hcurrent, hl, hltask, hactive⟩
    have hne : leaseId ≠ params.leaseId := by
      intro e
      rw [e, hlease] at hl
      cases hl
      exact hid (hltask.trans (Store.taskId_of_findTask hfind')).symm
    refine ⟨leaseId, l, hcurrent, ?_, hltask, hactive⟩
    rw [findLease_moved hlease hleases, if_neg hne]
    exact hl

/-!
## Operators who assert a lease

Resuming a task, and resolving its escalation by a retry, put an ESCALATED task
back to ASSIGNED with `leaseAcquired` set.  The task keeps whatever lease it named
before.
-/

/-- The lease that the request asserts is there: the ESCALATED task it puts back to
ASSIGNED still names an active lease of its own. -/
def AssertedLeaseHeld (s : Store) : Request -> Prop
  | .resume taskId _ =>
      forall task, s.findTask taskId = some task -> task.status = .escalated ->
        LeaseBacked s task
  | .resolveEscalation taskId dto =>
      dto.resolutionType = .retry ->
        forall task, s.findTask taskId = some task -> task.status = .escalated ->
          LeaseBacked s task
  | _ => True

def assertLease : TransitionContext :=
  { isOperator := some true, leaseAcquired := some true }

theorem reassign_accepted {taskId : TaskId} (actor : ActorInfo) {task : Task}
    (htask : s.findTask taskId = some task) (hstatus : task.status = .escalated) :
    exists s' result,
      executeTransitionAction taskId .assigned assertLease actor s = .ok (s', result) := by
  have hvalid : validateTransition task.status .assigned assertLease = .valid := by
    rw [hstatus]
    rfl
  rcases executeTransitionAction_accepts actor htask hvalid with ⟨s', result, h, _⟩
  exact ⟨_, result, h⟩

/-- Putting a task back to ASSIGNED keeps every working task backed exactly when the
task's own lease is still active. -/
theorem reassign_backed_iff {taskId : TaskId} {task : Task} (hs : AssignedTasksBacked s)
    (htask : s.findTask taskId = some task)
    (h : executeTransitionAction taskId .assigned assertLease actor s = .ok (s', result)) :
    AssignedTasksBacked s' <-> LeaseBacked s task := by
  have hleases := executeTransitionAction_taskLeases h
  have hkeep := keepsHoldings_of_leases_eq hleases
  rcases executeTransitionAction_spec h with ⟨event, htransition⟩
  rcases transitionTask_eq_ok.mp htransition with ⟨t, ht, _, hs', _⟩
  rw [htask] at ht
  cases ht
  constructor
  · intro hafter
    have hfind : s'.findTask taskId = some
        (TaskUpdate.apply { status := some .assigned } (task.version + 1) task) := by
      rw [hs', Store.appendAudit_findTask, Store.findTask_writeTask_self, htask]
      rfl
    have hbacked := hafter taskId _ hfind (Or.inl rfl)
    have hback : KeepsHoldings s' s := keepsHoldings_of_leases_eq hleases.symm
    exact hbacked.keep hback
  · intro hbacked
    apply backed_of_write hs hkeep htask (by rw [hs']; rfl)
    intro _
    exact hbacked.keep hkeep

/-!
## One request
-/

theorem backed_of_perform {r : Request} (hr : RoutineRequest r)
    (hresume : forall taskId actorId, r ≠ .resume taskId actorId)
    (hretry : forall taskId dto, r = .resolveEscalation taskId dto -> dto.resolutionType ≠ .retry)
    (hs : AssignedTasksBacked s) (h : perform s r = .ok s') : AssignedTasksBacked s' := by
  cases r with
  | createWorkerPool pool =>
      rcases Store.createWorkerPool_spec h with ⟨htasks, hleases⟩
      exact backed_of_tasks_eq hs (keepsHoldings_of_leases_eq hleases) htasks
  | createTask dto =>
      rcases Store.createTask_spec h with ⟨_, hleases, hself, hother⟩
      intro taskId task hfind hworking
      by_cases hid : taskId = (newTask dto).taskId
      · rw [hid, hself] at hfind
        cases hfind
        rcases hworking with e | e <;> cases e
      · rw [hother taskId hid] at hfind
        exact (hs taskId task hfind hworking).keep (keepsHoldings_of_leases_eq hleases)
  | updateTask taskId dto =>
      rcases committed_eq_ok.mp h with ⟨result, h⟩
      rcases updateTask_spec h with hs' | ⟨task, htask, _, hs'⟩
      · rw [hs']
        exact hs
      · have hkeep : KeepsHoldings s s' := keepsHoldings_of_leases_eq (by rw [hs']; rfl)
        apply backed_of_write hs hkeep htask (by rw [hs'])
        intro hworking
        exact (hs taskId task htask hworking).keep hkeep
  | acquireLease now leaseId params =>
      rcases committed_eq_ok.mp h with ⟨result, h⟩
      exact acquireLease_backed hs h
  | transitionLease leaseId target context actor =>
      rcases committed_eq_ok.mp h with ⟨result, h⟩
      rcases transitionLease_spec h with ⟨lease, hlease, _, htasks, hleases⟩
      have htarget : target = .starting := hr
      have hactive : Active target := by
        rw [htarget]
        decide
      exact backed_of_tasks_eq hs (keepsHoldings_of_moved hlease rfl hactive hleases) htasks
  | receiveHeartbeat now params =>
      rcases committed_eq_ok.mp h with ⟨result, h⟩
      rcases receiveHeartbeat_spec h with ⟨lease, hlease, hstatus, htasks, hleases⟩
      have hactive : Active (computeTargetStatus lease.status params.completing) := by
        simp only [heartbeatReceivableStates, List.mem_cons, List.not_mem_nil,
          or_false] at hstatus
        rcases hstatus with e | e | e <;> rw [e] <;> cases params.completing <;> decide
      exact backed_of_tasks_eq hs (keepsHoldings_of_moved hlease rfl hactive hleases) htasks
  | reclaimLease params =>
      rcases committed_eq_ok.mp h with ⟨result, h⟩
      exact reclaimLease_backed hs h
  | transitionTask taskId target context actor =>
      rcases committed_eq_ok.mp h with ⟨event, h⟩
      exact transitionTask_backed hs (leaseAcquired_not_asserted hr) h
  | pause taskId actorId =>
      rcases committed_eq_ok.mp h with ⟨result, h⟩
      exact executeTransitionAction_backed hs (by decide) h
  | resume taskId actorId =>
      exact absurd rfl (hresume taskId actorId)
  | requeue taskId actorId =>
      rcases committed_eq_ok.mp h with ⟨result, h⟩
      exact executeTransitionAction_backed hs (by decide) h
  | forceUnblock taskId actorId reason =>
      rcases committed_eq_ok.mp h with ⟨result, h⟩
      rcases bind_eq_ok.mp h with ⟨_, _, h⟩
      exact executeTransitionAction_backed hs (by decide) h
  | cancel taskId actorId acknowledge =>
      rcases committed_eq_ok.mp h with ⟨result, h⟩
      rcases bind_eq_ok.mp h with ⟨_, _, h⟩
      exact executeTransitionAction_backed hs (by decide) h
  | resolveEscalation taskId dto =>
      rcases committed_eq_ok.mp h with ⟨result, h⟩
      rcases resolveEscalation_spec h with ⟨hretry', _⟩ | ⟨_, target, _, h⟩
      · exact absurd hretry' (hretry taskId dto rfl)
      · exact executeTransitionAction_backed hs (by decide) h
  | changePriority taskId priority actorId =>
      rcases committed_eq_ok.mp h with ⟨result, h⟩
      rcases changePriority_spec h with ⟨task, htask, hs'⟩
      have hkeep : KeepsHoldings s s' := keepsHoldings_of_leases_eq (by rw [hs']; rfl)
      apply backed_of_write hs hkeep htask (by rw [hs']; rfl)
      intro hworking
      exact (hs taskId task htask hworking).keep hkeep
  | rerunReview taskId actorId =>
      rcases committed_eq_ok.mp h with ⟨result, h⟩
      exact executeOverrideAction_backed hs (not_working (by decide) (by decide)) h
  | reopen taskId actorId =>
      rcases committed_eq_ok.mp h with ⟨result, h⟩
      rcases bind_eq_ok.mp h with ⟨_, _, h⟩
      exact executeOverrideAction_backed hs (not_working (by decide) (by decide)) h

theorem resume_backed_iff {taskId : TaskId} {actorId : String} (hs : AssignedTasksBacked s) :
    AssignedTasksBacked (controlPlane.next s (.resume taskId actorId)) <->
      AssertedLeaseHeld s (.resume taskId actorId) := by
  constructor
  · intro hnext task htask hstatus
    rcases reassign_accepted (operatorActor actorId) htask hstatus with
      ⟨s', result, haccepted⟩
    have hstep : controlPlane.step s (.resume taskId actorId) = .ok s' := by
      apply committed_eq_ok.mpr
      refine ⟨result, ?_⟩
      unfold resume
      rw [htask, orThrow_some, ok_bind, ensure_of hstatus, ok_bind]
      exact haccepted
    rw [controlPlane.next_of_ok hstep] at hnext
    exact (reassign_backed_iff hs htask haccepted).mp hnext
  · intro hheld
    refine controlPlane.next_cases hs ?_
    intro s' h
    rcases committed_eq_ok.mp h with ⟨result, h⟩
    simp only [resume, bind_eq_ok, orThrow_eq_ok, ensure_eq_ok] at h
    rcases h with ⟨task, htask, _, hstatus, h⟩
    exact (reassign_backed_iff hs htask h).mpr (hheld task htask hstatus)

theorem resolveEscalation_backed_iff {taskId : TaskId} {dto : ResolveEscalationDto}
    (hs : AssignedTasksBacked s) :
    AssignedTasksBacked (controlPlane.next s (.resolveEscalation taskId dto)) <->
      AssertedLeaseHeld s (.resolveEscalation taskId dto) := by
  have hrecord : forall s', AssignedTasksBacked (recordPool taskId dto s') <->
      AssignedTasksBacked s' := by
    intro s'
    have hleases := recordPool_taskLeases taskId dto s'
    have htasks := recordPool_tasks taskId dto s'
    constructor
    · intro h
      exact backed_of_tasks_eq h (keepsHoldings_of_leases_eq hleases.symm) htasks.symm
    · intro h
      exact backed_of_tasks_eq h (keepsHoldings_of_leases_eq hleases) htasks
  constructor
  · intro hnext hretry task htask hstatus
    rcases reassign_accepted (operatorActor dto.actorId) htask hstatus with
      ⟨s', result, haccepted⟩
    have hstep : controlPlane.step s (.resolveEscalation taskId dto) =
        .ok (recordPool taskId dto s') := by
      apply committed_eq_ok.mpr
      refine ⟨result, ?_⟩
      have hguard : guardResolveEscalation s taskId dto.resolutionType dto.evidence =
          .ok () := by
        simp [guardResolveEscalation, htask, hstatus, hretry, ensure_of]
      unfold resolveEscalation
      rw [hguard, ok_bind, hretry]
      change (executeTransitionAction taskId .assigned assertLease
        (operatorActor dto.actorId) s >>= _) = _
      rw [haccepted]
      rfl
    rw [controlPlane.next_of_ok hstep, hrecord] at hnext
    exact (reassign_backed_iff hs htask haccepted).mp hnext
  · intro hheld
    refine controlPlane.next_cases hs ?_
    intro s' h
    rcases committed_eq_ok.mp h with ⟨result, h⟩
    rcases resolveEscalation_spec h with
      ⟨hretry, s₁, result₁, htransition, hs'⟩ | ⟨_, target, _, htransition⟩
    · rcases executeTransitionAction_spec htransition with ⟨event, hevent⟩
      rcases transitionTask_eq_ok.mp hevent with ⟨task, htask, _, _, _⟩
      have hguard := h
      unfold resolveEscalation at hguard
      rcases bind_eq_ok.mp hguard with ⟨_, hguard, _⟩
      simp only [guardResolveEscalation, htask, bind_eq_ok, ensure_eq_ok] at hguard
      rcases hguard with ⟨_, hstatus, _⟩
      rw [hs', hrecord]
      exact (reassign_backed_iff hs htask htransition).mpr
        (hheld hretry task htask hstatus)
    · exact executeTransitionAction_backed hs (by decide) htransition

theorem assignedTasksBacked_next_iff (s : Store) (r : Request) (hr : RoutineRequest r)
    (hs : AssignedTasksBacked s) :
    AssignedTasksBacked (controlPlane.next s r) <-> AssertedLeaseHeld s r := by
  cases r with
  | resume taskId actorId =>
      exact resume_backed_iff hs
  | resolveEscalation taskId dto =>
      exact resolveEscalation_backed_iff hs
  | _ =>
      constructor
      · intro _
        trivial
      · intro _
        refine controlPlane.next_cases hs ?_
        intro s' h
        apply backed_of_perform hr _ _ hs h
        · intro _ _ e
          cases e
        · intro _ _ e
          cases e

/-!
## Runs
-/

theorem assignedTasksBacked_empty : AssignedTasksBacked Store.empty := by
  intro taskId task h
  cases h

/-- Throughout a run, every ASSIGNED or IN_DEVELOPMENT task is backed by an active lease
of its own exactly when each resume and each retry of the run finds such a lease. -/
theorem assigned_tasks_backed_iff_asserted_leases_held (requests : List Request)
    (hroutine : forall r, r ∈ requests -> RoutineRequest r) :
    (forall s, s ∈ controlPlane.states Store.empty requests -> AssignedTasksBacked s) <->
      forall x, x ∈ controlPlane.arrivals Store.empty requests ->
        AssertedLeaseHeld x.1 x.2 := by
  apply TransitionSystem.states_iff_arrivals RoutineRequest (fun _ => True)
    AssignedTasksBacked AssertedLeaseHeld
  · intro _ _ _ _ _ _
    trivial
  · intro s r hr _ hs
    exact assignedTasksBacked_next_iff s r hr hs
  · exact hroutine
  · trivial
  · exact assignedTasksBacked_empty

/-- A worker's task is paused and resumed while its lease is still active: the condition
and the property both hold. -/
def pausedAndResumed : List Request :=
  [.createWorkerPool { workerPoolId := "pool-1", maxConcurrency := 1 },
    .createTask
      { taskId := "task-1", repositoryId := "repo-1", taskType := "feature",
        priority := "high" },
    .transitionTask "task-1" .ready
      { allDependenciesResolved := some true, hasPolicyBlockers := some false }
      { type := "system", id := "automation" },
    .acquireLease 0 "lease-1"
      { taskId := "task-1", workerId := "worker-1", poolId := "pool-1", ttlSeconds := 3600,
        actor := { type := "system", id := "scheduler" } },
    .pause "task-1" "operator-1",
    .resume "task-1" "operator-1"]

theorem assigned_tasks_backed_pausedAndResumed :
    (forall s, s ∈ controlPlane.states Store.empty pausedAndResumed ->
      AssignedTasksBacked s) <->
      forall x, x ∈ controlPlane.arrivals Store.empty pausedAndResumed ->
        AssertedLeaseHeld x.1 x.2 :=
  assigned_tasks_backed_iff_asserted_leases_held pausedAndResumed (by decide)

/-- A task that never had a lease is paused and resumed: it becomes ASSIGNED with no
lease at all. -/
def resumedWithoutLease : List Request :=
  [.createTask
      { taskId := "task-1", repositoryId := "repo-1", taskType := "feature",
        priority := "high" },
    .pause "task-1" "operator-1",
    .resume "task-1" "operator-1"]

theorem resumed_task_without_lease :
    ¬ (forall s, s ∈ controlPlane.states Store.empty resumedWithoutLease ->
      AssignedTasksBacked s) := by
  intro h
  have hlast := h _ (controlPlane.run_mem_states Store.empty resumedWithoutLease)
  have htask :
      (controlPlane.run Store.empty resumedWithoutLease).findTask "task-1" = some
        { taskId := "task-1", repositoryId := "repo-1", taskType := "feature",
          priority := "high", status := .assigned, version := 3, retryCount := 0, currentLeaseId := none,
          currentReviewCycleId := none, mergeQueueItemId := none, completedAt := none } := by
    decide
  rcases hlast "task-1" _ htask (Or.inl rfl) with ⟨leaseId, _, hcurrent, _⟩
  cases hcurrent

end Leasing
end CopilotFactory
