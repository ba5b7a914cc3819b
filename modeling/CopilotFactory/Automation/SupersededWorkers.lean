import CopilotFactory.Application.ReconciliationSweep
import CopilotFactory.Automation.DevelopmentEvidence
import CopilotFactory.Automation.DispatchedWork
import CopilotFactory.ControlPlane.TaskColumns
import CopilotFactory.Leasing.AssignedTasks

/-!
# Workers of superseded leases

A lease whose worker falls silent is reclaimed, and the task is leased again.  The
worker may still be there.  Its heartbeats and its reclaims name its own lease and
come to nothing, but its result names the task alone.
-/

namespace CopilotFactory
namespace Automation

open Foundations
open Domain
open Infrastructure
open Application
open ControlPlane

def Developed (status : TaskStatus) : Prop :=
  status = .inDevelopment ∨ status = .devComplete

def Develops (s : Store) (x : WorkStep) (taskId : TaskId) : Prop :=
  statusOf (dispatchedWork.next s x) taskId ≠ statusOf s taskId ∧
    exists status, statusOf (dispatchedWork.next s x) taskId = some status ∧
      Developed status

def HoldsTask (s : Store) (payload : DispatchPayload) (taskId : TaskId) : Prop :=
  exists task, s.findTask taskId = some task ∧
    task.currentLeaseId = some payload.leaseId

/-- Once a task that has an earlier lease is leased again, nothing that the worker of
the earlier lease does changes the status of the task or the later lease. -/
def SupersededInert (steps : List WorkStep) : Prop :=
  forall before now leaseId params after result earlier lease,
    steps = before ++ .others (.acquireLease now leaseId params) :: after ->
    acquireLease now leaseId params (dispatchedWork.run Store.empty before) = .ok result ->
    (dispatchedWork.run Store.empty before).findLease earlier = some lease ->
    lease.taskId = params.taskId ->
    forall x, x ∈ dispatchedWork.arrivals
        (dispatchedWork.next (dispatchedWork.run Store.empty before)
          (.others (.acquireLease now leaseId params))) after ->
      forall payload action, x.2 = .worker payload action -> payload.leaseId = earlier ->
        statusOf (dispatchedWork.next x.1 x.2) params.taskId =
            statusOf x.1 params.taskId ∧
          (dispatchedWork.next x.1 x.2).findLease leaseId = x.1.findLease leaseId

/-- A task is moved to IN_DEVELOPMENT or DEV_COMPLETE by the worker of its current lease
only, and by operators who rerun its review. -/
def OnlyHolderDevelops (steps : List WorkStep) : Prop :=
  forall x, x ∈ dispatchedWork.arrivals Store.empty steps ->
    forall taskId, Develops x.1 x.2 taskId ->
      (exists payload action, x.2 = .worker payload action ∧
        HoldsTask x.1 payload taskId) ∨
      exists id actorId, x.2 = .others (.rerunReview id actorId)

/-- The worker's result is processed while its task is in the status from which this
moves it on. -/
def ResultDue (s : Store) (payload : DispatchPayload) : WorkerAction -> Prop
  | .beginDevelopment => statusOf s payload.taskId = some .assigned
  | .completeDevelopment => statusOf s payload.taskId = some .inDevelopment
  | _ => False

def ResultOfHolder (s : Store) : WorkStep -> Prop
  | .worker payload action =>
      ResultDue s payload action -> HoldsTask s payload payload.taskId
  | .others _ => True

def AsksForDevelopment : Request -> Prop
  | .transitionTask _ targetStatus _ _ => Developed targetStatus
  | _ => False

/-!
## One action of a worker
-/

theorem statusOf_of_tasks_eq {s s' : Store} (h : s'.tasks = s.tasks) (taskId : TaskId) :
    statusOf s' taskId = statusOf s taskId := by
  unfold statusOf
  rw [Store.findTask_of_tasks_eq h]

theorem findLease_of_written {s s' : Store} {leaseId id : LeaseId} {data : TaskLeaseUpdate}
    (h : s'.taskLeases = (s.writeLease leaseId data).taskLeases) (hid : id ≠ leaseId) :
    s'.findLease id = s.findLease id := by
  rw [Store.findLease_of_leases_eq h, Store.findLease_writeLease_of_ne hid]

def ReclaimDue (s : Store) (payload : DispatchPayload) (action : WorkerAction) : Prop :=
  action = .reclaim ∧ exists lease, s.findLease payload.leaseId = some lease ∧
    lease.status ∈ reclaimableStates

section Action

variable {s s' : Store} {payload : DispatchPayload} {action : WorkerAction}

theorem worker_keeps_leases (h : perform s (action.request payload) = .ok s')
    {id : LeaseId} (hid : id ≠ payload.leaseId) :
    s'.findLease id = s.findLease id := by
  cases action with
  | start =>
      rcases committed_eq_ok.mp h with ⟨_, h⟩
      rcases transitionLease_spec h with ⟨_, _, _, _, hleases⟩
      exact findLease_of_written hleases hid
  | heartbeat isTerminal now =>
      rcases committed_eq_ok.mp h with ⟨_, h⟩
      rcases receiveHeartbeat_spec h with ⟨_, _, _, _, hleases⟩
      exact findLease_of_written hleases hid
  | reclaim =>
      rcases committed_eq_ok.mp h with ⟨_, h⟩
      rcases reclaimLease_spec h with ⟨_, _, _, _, _, hleases, _⟩
      exact findLease_of_written hleases hid
  | beginDevelopment | completeDevelopment =>
      rcases committed_eq_ok.mp h with ⟨_, h⟩
      exact Store.findLease_of_leases_eq (Leasing.transitionTask_taskLeases h) id

theorem worker_keeps_status (h : perform s (action.request payload) = .ok s')
    (hreclaim : ¬ ReclaimDue s payload action) {taskId : TaskId}
    (hresult : ¬ (ResultDue s payload action ∧ taskId = payload.taskId)) :
    statusOf s' taskId = statusOf s taskId := by
  cases action with
  | start =>
      rcases committed_eq_ok.mp h with ⟨_, h⟩
      rcases transitionLease_spec h with ⟨_, _, _, htasks, _⟩
      exact statusOf_of_tasks_eq htasks taskId
  | heartbeat isTerminal now =>
      rcases committed_eq_ok.mp h with ⟨_, h⟩
      rcases receiveHeartbeat_spec h with ⟨_, _, _, htasks, _⟩
      exact statusOf_of_tasks_eq htasks taskId
  | reclaim =>
      rcases committed_eq_ok.mp h with ⟨_, h⟩
      rcases reclaimLease_spec h with ⟨lease, _, hlease, hstatus, _⟩
      exact absurd ⟨rfl, lease, hlease, hstatus⟩ hreclaim
  | beginDevelopment =>
      rcases committed_eq_ok.mp h with ⟨_, h⟩
      apply (statusOf_of_transitionTask h).2
      intro htask
      rcases transitionTask_eq_ok.mp h with ⟨task, hfind, hvalid, _⟩
      apply hresult
      refine ⟨?_, htask⟩
      show statusOf s payload.taskId = some .assigned
      unfold statusOf
      rw [hfind, Option.map_some, TaskState.assigned_of_validate_inDevelopment hvalid]
  | completeDevelopment =>
      rcases committed_eq_ok.mp h with ⟨_, h⟩
      apply (statusOf_of_transitionTask h).2
      intro htask
      rcases transitionTask_eq_ok.mp h with ⟨task, hfind, hvalid, _⟩
      apply hresult
      refine ⟨?_, htask⟩
      show statusOf s payload.taskId = some .inDevelopment
      unfold statusOf
      rw [hfind, Option.map_some, (TaskState.evidence_of_validate_devComplete hvalid).1]

/-- A result that is due moves its task on. -/
theorem develops_of_resultDue (h : ResultDue s payload action) :
    Develops s (.worker payload action) payload.taskId := by
  have hmoves : forall (source target : TaskStatus) (context : TransitionContext),
      statusOf s payload.taskId = some source ->
      validateTransition source target context = .valid -> source ≠ target ->
      Developed target ->
      action.request payload =
        .transitionTask payload.taskId target context automationActor ->
      Develops s (.worker payload action) payload.taskId := by
    intro source target context hsource hvalid hne htarget hrequest
    rcases Option.map_eq_some_iff.mp hsource with ⟨task, htask, hstatus⟩
    rw [← hstatus] at hvalid
    rcases transitionTask_accepts automationActor htask hvalid with ⟨s₁, event, haccepted⟩
    have hstep : dispatchedWork.step s (.worker payload action) = .ok s₁ := by
      show perform s (action.request payload) = .ok s₁
      rw [hrequest]
      exact committed_eq_ok.mpr ⟨event, haccepted⟩
    have hafter := (statusOf_of_transitionTask haccepted).1
    unfold Develops
    rw [dispatchedWork.next_of_ok hstep, hafter, hsource]
    refine ⟨?_, target, rfl, htarget⟩
    intro hsame
    cases hsame
    exact hne rfl
  cases action with
  | beginDevelopment =>
      exact hmoves .assigned .inDevelopment _ h rfl (by decide) (Or.inl rfl) rfl
  | completeDevelopment =>
      exact hmoves .inDevelopment .devComplete _ h rfl (by decide) (Or.inr rfl) rfl
  | _ =>
      cases h

end Action

/-!
## A superseded lease
-/

/-- A lease of the task that is closed, and not the task's current one. -/
structure Superseded (s : Store) (leaseId : LeaseId) (taskId : TaskId) : Prop where
  idle : Leasing.NoIdleLease s
  released : Leasing.holdings s leaseId = some (taskId, false)
  replaced : forall task, s.findTask taskId = some task ->
    task.currentLeaseId ≠ some leaseId

theorem superseded_preserved (leaseId : LeaseId) (taskId : TaskId) :
    controlPlane.Preserves (fun _ => True)
      (fun s => Superseded s leaseId taskId) := by
  intro s r s' hr hs h
  have hreleased := Leasing.released_preserved leaseId taskId s r s' hr
    ⟨hs.idle, hs.released⟩ h
  refine ⟨hreleased.1, hreleased.2, ?_⟩
  intro task htask hcurrent
  rcases (columns_of_perform h htask).2 with ⟨old, hold, hsame⟩ | hfresh
  · exact hs.replaced old hold (hsame.trans hcurrent)
  · rcases Leasing.holdings_eq_some_iff.mp hs.released with ⟨lease, hlease, _⟩
    rw [hfresh leaseId hcurrent] at hlease
    cases hlease

theorem superseded_of_acquireLease {now : Millis} {leaseId earlier : LeaseId}
    {params : AcquireLeaseParams} {s s' : Store} {result : LeaseAcquisitionResult}
    {lease : TaskLease} (hidle : Leasing.NoIdleLease s)
    (h : acquireLease now leaseId params s = .ok (s', result))
    (hlease : s.findLease earlier = some lease) (htask : lease.taskId = params.taskId) :
    Superseded s' earlier params.taskId ∧ leaseId ≠ earlier := by
  rcases acquireLease_spec h with ⟨task, s₁, hfind, _, hfree, hcreate, htasks, _⟩
  have hnew : s.findLease leaseId = none := (Store.createLease_spec hcreate).1
  have hne : leaseId ≠ earlier := by
    intro hsame
    rw [hsame, hlease] at hnew
    cases hnew
  have hinactive : ¬ Leasing.Active lease.status := by
    intro hactive
    apply Leasing.free_of_findActive_none hfree earlier
    exact Leasing.holdings_eq_some_iff.mpr ⟨lease, hlease, htask, decide_eq_true hactive⟩
  have hreleased : Leasing.holdings s earlier = some (params.taskId, false) :=
    Leasing.holdings_eq_some_iff.mpr ⟨lease, hlease, htask, decide_eq_false hinactive⟩
  have hstep : controlPlane.step s (.acquireLease now leaseId params) = .ok s' :=
    committed_eq_ok.mpr ⟨result, h⟩
  rcases Leasing.released_preserved earlier params.taskId s _ s' trivial
    ⟨hidle, hreleased⟩ hstep with ⟨hidle', hreleased'⟩
  refine ⟨⟨hidle', hreleased', ?_⟩, hne⟩
  intro after hafter hcurrent
  have hwritten : s'.findTask params.taskId =
      some ((assignToLease leaseId).apply (task.version + 1) task) := by
    rw [Store.findTask_of_tasks_eq htasks, Store.findTask_writeTask_self, hfind]
    rfl
  rw [hwritten] at hafter
  cases hafter
  cases hcurrent
  exact hne rfl

theorem Superseded.not_reclaimDue {s : Store} {taskId : TaskId} {payload : DispatchPayload}
    {action : WorkerAction} (h : Superseded s payload.leaseId taskId) :
    ¬ ReclaimDue s payload action := by
  intro hdue
  rcases hdue with ⟨_, lease, hlease, hstatus⟩
  rcases Leasing.holdings_eq_some_iff.mp h.released with ⟨held, hheld, _, hinactive⟩
  rw [hlease] at hheld
  cases hheld
  apply of_decide_eq_false hinactive
  have hactive : forall status, status ∈ reclaimableStates -> Leasing.Active status := by
    decide
  exact hactive _ hstatus

/-- The worker of a superseded lease changes nothing, as long as no result of it is due. -/
theorem Superseded.inert {s : Store} {taskId : TaskId} {payload : DispatchPayload}
    {action : WorkerAction} (h : Superseded s payload.leaseId taskId)
    (hresult : ResultOfHolder s (.worker payload action)) :
    statusOf (dispatchedWork.next s (.worker payload action)) taskId = statusOf s taskId ∧
      forall id, id ≠ payload.leaseId ->
        (dispatchedWork.next s (.worker payload action)).findLease id = s.findLease id := by
  refine dispatchedWork.next_cases ⟨rfl, fun _ _ => rfl⟩ ?_
  intro s' hstep
  constructor
  · apply worker_keeps_status hstep h.not_reclaimDue
    intro hdue
    rcases hresult hdue.1 with ⟨task, htask, hcurrent⟩
    rw [← hdue.2] at htask
    exact h.replaced task htask hcurrent
  · intro id hid
    exact worker_keeps_leases hstep hid

/-!
## Runs
-/

theorem target_of_develops {s : Store} {x : WorkStep} {taskId : TaskId}
    (h : Develops s x taskId) :
    (exists s', perform s x.request = .ok s' ∧ statusOf s' taskId ≠ statusOf s taskId) ∧
      exists status, status ∈ x.request.targets ∧ Developed status := by
  rcases h with ⟨hmoved, status, hafter, hdeveloped⟩
  cases hstep : dispatchedWork.step s x with
  | error e =>
      rw [dispatchedWork.next_of_error hstep] at hmoved
      exact absurd rfl hmoved
  | ok s' =>
      rw [dispatchedWork.next_of_ok hstep] at hmoved hafter
      refine ⟨⟨s', hstep, hmoved⟩, status, ?_, hdeveloped⟩
      rcases Option.map_eq_some_iff.mp hafter with ⟨task, htask, hstatus⟩
      rw [← hstatus]
      rcases (columns_of_perform hstep htask).1 with ⟨old, hold, hsame⟩ | htarget
      · apply absurd _ hmoved
        rw [hafter]
        unfold statusOf
        rw [hold, Option.map_some, hsame, hstatus]
      · exact htarget

theorem rerun_of_target {r : Request} {status : TaskStatus} (htarget : status ∈ r.targets)
    (hdeveloped : Developed status) (hr : ¬ AsksForDevelopment r) :
    exists id actorId, r = .rerunReview id actorId := by
  cases r with
  | rerunReview id actorId =>
      exact ⟨id, actorId, rfl⟩
  | transitionTask id target context actor =>
      rw [List.mem_singleton.mp htarget] at hdeveloped
      exact absurd hdeveloped hr
  | _ =>
      exfalso
      rcases hdeveloped with hstatus | hstatus <;>
        simp [Request.targets, hstatus] at htarget

theorem onlyHolderDevelops_iff {steps : List WorkStep}
    (hothers : forall r, .others r ∈ steps -> ¬ AsksForDevelopment r) :
    OnlyHolderDevelops steps <->
      forall x, x ∈ dispatchedWork.arrivals Store.empty steps -> ResultOfHolder x.1 x.2 := by
  constructor
  · intro h x hx
    rcases x with ⟨s, step⟩
    cases step with
    | others r =>
        trivial
    | worker payload action =>
        intro hdue
        rcases h _ hx payload.taskId (develops_of_resultDue hdue) with
          ⟨_, _, hworker, hholds⟩ | ⟨_, _, hother⟩
        · cases hworker
          exact hholds
        · cases hother
  · intro h x hx taskId hdevelops
    rcases target_of_develops hdevelops with
      ⟨⟨s', hperform, hmoved⟩, status, htarget, hdeveloped⟩
    rcases x with ⟨s, step⟩
    cases step with
    | others r =>
        right
        have hr := hothers r (dispatchedWork.mem_of_mem_arrivals hx)
        rcases rerun_of_target htarget hdeveloped hr with ⟨id, actorId, hrerun⟩
        exact ⟨id, actorId, congrArg WorkStep.others hrerun⟩
    | worker payload action =>
        left
        refine ⟨payload, action, rfl, ?_⟩
        have hreclaim : ¬ ReclaimDue s payload action := by
          intro hdue
          rw [hdue.1] at htarget
          change status ∈ [TaskStatus.ready, .failed, .escalated] at htarget
          rcases hdeveloped with hstatus | hstatus <;> simp [hstatus] at htarget
        by_cases hresult : ResultDue s payload action ∧ taskId = payload.taskId
        · rw [hresult.2]
          exact h _ hx hresult.1
        · exact absurd (worker_keeps_status hperform hreclaim hresult) hmoved

theorem supersededInert_of_results {steps : List WorkStep}
    (h : forall x, x ∈ dispatchedWork.arrivals Store.empty steps ->
      ResultOfHolder x.1 x.2) :
    SupersededInert steps := by
  intro before now leaseId params after result earlier lease hsteps hacquire hlease htask
    x hx payload action hworker hearlier
  have hidle : Leasing.NoIdleLease (dispatchedWork.run Store.empty before) :=
    Leasing.noIdleLease_preserved.named.run (fun _ _ => trivial) Leasing.noIdleLease_empty
  rcases superseded_of_acquireLease hidle hacquire hlease htask with ⟨hsuperseded, hne⟩
  have hstep : dispatchedWork.step (dispatchedWork.run Store.empty before)
      (.others (.acquireLease now leaseId params)) = .ok result.1 :=
    committed_eq_ok.mpr ⟨result.2, hacquire⟩
  have harrives : x ∈ dispatchedWork.arrivals Store.empty steps := by
    rw [hsteps, dispatchedWork.arrivals_append]
    exact List.mem_append_right _ (List.mem_cons_of_mem _ hx)
  rw [dispatchedWork.next_of_ok hstep] at hx
  have hkeeps : forall s a, Superseded s earlier params.taskId -> True ->
      Superseded (dispatchedWork.next s a) earlier params.taskId :=
    fun _ _ hs _ => (superseded_preserved earlier params.taskId).named.next trivial hs
  have hkept : Superseded x.1 earlier params.taskId :=
    (TransitionSystem.run_of_arrivals hkeeps hsuperseded (fun _ _ => trivial)).1 x hx
  have hresult := h x harrives
  rw [hworker] at hresult ⊢
  rw [← hearlier] at hkept hne
  rcases hkept.inert hresult with ⟨hstatus, hleases⟩
  exact ⟨hstatus, hleases leaseId hne⟩

/-- Superseded workers are inert, and only the worker of the current lease takes a task
through its development, exactly in the runs in which no other worker's result is
processed while the task waits for one. -/
theorem superseded_workers_inert_iff (steps : List WorkStep)
    (hothers : forall r, .others r ∈ steps -> ¬ AsksForDevelopment r) :
    SupersededInert steps ∧ OnlyHolderDevelops steps <->
      forall x, x ∈ dispatchedWork.arrivals Store.empty steps -> ResultOfHolder x.1 x.2 := by
  constructor
  · intro h
    exact (onlyHolderDevelops_iff hothers).mp h.2
  · intro h
    exact ⟨supersededInert_of_results h, (onlyHolderDevelops_iff hothers).mpr h⟩

def timelySteps : List WorkStep :=
  dispatchSetup.map .others ++
    [.others (.acquireLease 0 "lease-1" scheduledLease),
      .worker (dispatchPayload "lease-1" scheduledLease) .start,
      .worker (dispatchPayload "lease-1" scheduledLease) (.heartbeat true 5000),
      .worker (dispatchPayload "lease-1" scheduledLease) .beginDevelopment,
      .worker (dispatchPayload "lease-1" scheduledLease) .completeDevelopment]

theorem superseded_workers_inert_timelySteps :
    SupersededInert timelySteps ∧ OnlyHolderDevelops timelySteps <->
      forall x, x ∈ dispatchedWork.arrivals Store.empty timelySteps ->
        ResultOfHolder x.1 x.2 := by
  apply superseded_workers_inert_iff timelySteps
  intro r hr
  simp only [timelySteps, dispatchSetup, List.map_cons, List.map_nil, List.cons_append,
    List.nil_append, List.mem_cons, List.not_mem_nil, or_false, reduceCtorEq,
    WorkStep.others.injEq] at hr
  rcases hr with hr | hr | hr | hr <;> rw [hr] <;> simp [AsksForDevelopment, Developed]

/-!
## A worker that comes back

The task of `worker-1` is requeued and its lease times out.  The task is leased to
`worker-2`, which has not started yet when `worker-1` ends its run after all.
-/

def firstPayload : DispatchPayload :=
  dispatchPayload "lease-1" scheduledLease

def retakenLease : AcquireLeaseParams :=
  { scheduledLease with workerId := "worker-2" }

def givenUpSteps : List WorkStep :=
  dispatchSetup.map .others ++
    [.others (.acquireLease 0 "lease-1" scheduledLease),
      .worker firstPayload .start,
      .worker firstPayload (.heartbeat false 5000),
      .others (.requeue "task-1" "operator-1"),
      .others (.reclaimLease
        { leaseId := "lease-1", reason := .missedHeartbeats,
          retryPolicy := defaultRetryPolicy, escalationPolicy := defaultEscalationPolicy,
          actor := sweepActor })]

def retake : WorkStep :=
  .others (.acquireLease 100000 "lease-2" retakenLease)

def lateSteps : List WorkStep :=
  givenUpSteps ++ retake ::
    ([.worker firstPayload (.heartbeat true 120000)] ++
      .worker firstPayload .beginDevelopment ::
        [.worker firstPayload .completeDevelopment])

/-- The late result moves the task to DEV_COMPLETE under the lease of `worker-2`. -/
theorem superseded_worker_develops :
    ¬ SupersededInert lateSteps ∧ ¬ OnlyHolderDevelops lateSteps := by
  constructor
  · intro h
    have hacquired : exists result, acquireLease 100000 "lease-2" retakenLease
        (dispatchedWork.run Store.empty givenUpSteps) = .ok result :=
      ⟨_, rfl⟩
    have hearlier : ((dispatchedWork.run Store.empty givenUpSteps).findLease
        "lease-1").map TaskLease.taskId = some "task-1" := by
      decide +kernel
    rcases hacquired with ⟨result, hacquired⟩
    rcases Option.map_eq_some_iff.mp hearlier with ⟨lease, hlease, htask⟩
    have harrives := dispatchedWork.mem_arrivals_append
      (dispatchedWork.next (dispatchedWork.run Store.empty givenUpSteps) retake)
      [.worker firstPayload (.heartbeat true 120000)]
      (.worker firstPayload .beginDevelopment)
      [.worker firstPayload .completeDevelopment]
    have hinert := (h givenUpSteps 100000 "lease-2" retakenLease _ result "lease-1" lease rfl
      hacquired hlease htask _ harrives firstPayload .beginDevelopment rfl rfl).1
    exact absurd hinert (by decide +kernel)
  · intro h
    have harrives := dispatchedWork.mem_arrivals_append Store.empty
      (givenUpSteps ++ [retake, .worker firstPayload (.heartbeat true 120000)])
      (.worker firstPayload .beginDevelopment) [.worker firstPayload .completeDevelopment]
    have hdevelops : Develops
        (dispatchedWork.run Store.empty
          (givenUpSteps ++ [retake, .worker firstPayload (.heartbeat true 120000)]))
        (.worker firstPayload .beginDevelopment) "task-1" := by
      apply develops_of_resultDue
      show statusOf _ "task-1" = some .assigned
      decide +kernel
    rcases h _ harrives "task-1" hdevelops with ⟨payload, action, hworker, hholds⟩ | hrerun
    · cases hworker
      rcases hholds with ⟨task, hfind, hcurrent⟩
      have hactual : ((dispatchedWork.run Store.empty
          (givenUpSteps ++ [retake, .worker firstPayload (.heartbeat true 120000)])).findTask
            "task-1").map Task.currentLeaseId = some (some "lease-2") := by
        decide +kernel
      rw [hfind, Option.map_some, hcurrent] at hactual
      exact absurd hactual (by decide)
    · rcases hrerun with ⟨_, _, hrerun⟩
      cases hrerun

end Automation
end CopilotFactory
