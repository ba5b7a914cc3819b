import CopilotFactory.Application.ReconciliationSweep
import CopilotFactory.ControlPlane.TaskColumns

/-!
# Retry limits

A reclaim returns its task to READY only while the retry policy permits it, and counts
the retry.  The sweep of stuck tasks returns a task without asking the policy and
without counting.
-/

namespace CopilotFactory
namespace Leasing

open Foundations
open Domain
open Infrastructure
open Application
open ControlPlane

/-!
## Runs with stuck-task sweeps
-/

variable {s : Store} {maxAttempts : Nat}

/-- A request of the control plane, or one transaction of a sweep of stuck tasks. -/
inductive RecoveryStep where
  | request (r : Request)
  | sweepStuckTask (taskId : TaskId)

def RecoveryStep.toRequest : RecoveryStep -> Request
  | .request r => r
  | .sweepStuckTask taskId => .transitionTask taskId .ready stuckTaskContext sweepActor

def recovery : TransitionSystem Store RecoveryStep ServiceError :=
  controlPlane.named RecoveryStep.toRequest

theorem recovery_next_sweepStuckTask (taskId : TaskId) (s : Store) :
    recovery.next s (.sweepStuckTask taskId) = (sweepStuckTask taskId s).1 := by
  have hstep : recovery.step s (.sweepStuckTask taskId) =
      committed (transitionTask taskId .ready stuckTaskContext sweepActor s) :=
    rfl
  unfold sweepStuckTask
  cases htransition : transitionTask taskId .ready stuckTaskContext sweepActor s with
  | error e =>
      rw [htransition] at hstep
      exact recovery.next_of_error hstep
  | ok r =>
      rw [htransition] at hstep
      exact recovery.next_of_ok hstep

theorem sweepStuckTasks_run (stuckTasks : List TaskId) (s : Store) :
    (sweepStuckTasks stuckTasks s).1 =
      recovery.run s (stuckTasks.map RecoveryStep.sweepStuckTask) := by
  induction stuckTasks generalizing s with
  | nil =>
      rfl
  | cons taskId rest ih =>
      rw [List.map_cons, TransitionSystem.run_cons, recovery_next_sweepStuckTask, ← ih]
      rfl

/-- The reclaims go by one limit.  Apart from reclaims and operators, only the sweep
vouches for a retry. -/
def LimitedRetries (maxAttempts : Nat) : RecoveryStep -> Prop
  | .request (.reclaimLease params) => params.retryPolicy.maxAttempts = maxAttempts
  | .request (.transitionTask _ _ context _) =>
      context.leaseReclaimedRetryEligible ≠ some true
  | _ => True

def RecoveryStep.isAutomated : RecoveryStep -> Bool
  | .request (.requeue _ _) => false
  | _ => true

/-- Whether a step returns the task to READY from ASSIGNED or IN_DEVELOPMENT without an
operator. -/
def returnsTask (taskId : TaskId) (s : Store) (x : RecoveryStep) : Bool :=
  x.isAutomated &&
    match s.findTask taskId, (recovery.next s x).findTask taskId with
    | some task, some after =>
        task.status ∈ reclaimEligibleTaskStates && after.status = .ready
    | _, _ => false

def timesReturned (taskId : TaskId) (s : Store) (steps : List RecoveryStep) : Nat :=
  (recovery.arrivals s steps).countP (fun x => returnsTask taskId x.1 x.2)

def CountsRetry (taskId : TaskId) (s s' : Store) : Prop :=
  forall task after, s.findTask taskId = some task -> s'.findTask taskId = some after ->
    after.retryCount = task.retryCount + 1

def AvoidsSweep (taskId : TaskId) (s : Store) (x : RecoveryStep) : Prop :=
  x = .sweepStuckTask taskId ->
    forall task, s.findTask taskId = some task -> task.status ∉ reclaimEligibleTaskStates

/-!
## One step
-/

variable {x : RecoveryStep}

theorem returnsTask_eq_true_iff {taskId : TaskId} {task after : Task}
    (htask : s.findTask taskId = some task)
    (hafter : (recovery.next s x).findTask taskId = some after) :
    returnsTask taskId s x = true <->
      x.isAutomated = true ∧ task.status ∈ reclaimEligibleTaskStates ∧
        after.status = .ready := by
  simp [returnsTask, htask, hafter]

theorem returnsTask_of_same {taskId : TaskId} {task after : Task}
    (htask : s.findTask taskId = some task)
    (hafter : (recovery.next s x).findTask taskId = some after)
    (hsame : after.status = task.status) : returnsTask taskId s x = false := by
  rw [Bool.eq_false_iff]
  intro hreturns
  rcases (returnsTask_eq_true_iff htask hafter).mp hreturns with ⟨_, hworking, hready⟩
  rw [← hsame, hready] at hworking
  exact absurd hworking (by decide)

theorem vouched_of_valid {status : TaskStatus} {context : TransitionContext}
    (hworking : status ∈ reclaimEligibleTaskStates)
    (hvalid : validateTransition status .ready context = .valid) :
    context.leaseReclaimedRetryEligible = some true := by
  simp only [reclaimEligibleTaskStates, List.mem_cons, List.not_mem_nil, or_false] at hworking
  rcases hworking with hstatus | hstatus
  · rw [hstatus] at hvalid
    exact requireFlag_eq_valid.mp hvalid
  · rw [hstatus] at hvalid
    exact requireFlag_eq_valid.mp hvalid

/-- From ASSIGNED and IN_DEVELOPMENT only these requests lead to READY. -/
theorem writes_ready {r : Request} {taskId : TaskId} {task : Task} {data : TaskUpdate}
    (h : r.Writes taskId task data) (hworking : task.status ∈ reclaimEligibleTaskStates)
    (hready : data.status = some .ready) :
    (exists params, r = .reclaimLease params) ∨
    (exists actorId, r = .requeue taskId actorId) ∨
    exists context actor, r = .transitionTask taskId .ready context actor ∧
      context.leaseReclaimedRetryEligible = some true := by
  have htargets := h.status_mem_targets hready
  cases r with
  | reclaimLease params =>
      exact Or.inl ⟨params, rfl⟩
  | transitionTask id target context actor =>
      rcases h with ⟨hid, hvalid, _⟩
      have htarget : target = .ready := (List.mem_singleton.mp htargets).symm
      rw [htarget] at hvalid ⊢
      rw [hid]
      exact Or.inr (Or.inr ⟨context, actor, rfl, vouched_of_valid hworking hvalid⟩)
  | requeue id actorId =>
      rw [h.1]
      exact Or.inr (Or.inl ⟨actorId, rfl⟩)
  | forceUnblock id actorId reason =>
      rw [h.2.1] at hworking
      exact absurd hworking (by decide)
  | _ =>
      simp [Request.targets] at htargets

structure RetryStep (taskId : TaskId) (maxAttempts : Nat) (s : Store) (x : RecoveryStep)
    (task after : Task) : Prop where
  found : (recovery.next s x).findTask taskId = some after
  counted : after.retryCount = task.retryCount + if returnsTask taskId s x then 1 else 0
  limited : returnsTask taskId s x = true -> task.retryCount < maxAttempts

theorem RetryStep.of_kept {taskId : TaskId} {task after : Task}
    (hafter : (recovery.next s x).findTask taskId = some after)
    (hcount : after.retryCount = task.retryCount) (hreturns : returnsTask taskId s x = false) :
    RetryStep taskId maxAttempts s x task after where
  found := hafter
  counted := by
    rw [hreturns]
    exact hcount
  limited := by
    intro h
    rw [hreturns] at h
    cases h

theorem not_returned_of_writes {taskId : TaskId} {task after : Task} {data : TaskUpdate}
    (hx : LimitedRetries maxAttempts x) (hsweep : AvoidsSweep taskId s x)
    (htask : s.findTask taskId = some task)
    (hafter : (recovery.next s x).findTask taskId = some after)
    (hwrites : x.toRequest.Writes taskId task data)
    (hstatus : after.status = data.status.getD task.status)
    (hreclaim : forall params, x.toRequest ≠ .reclaimLease params) :
    returnsTask taskId s x = false := by
  rw [Bool.eq_false_iff]
  intro hreturns
  rcases (returnsTask_eq_true_iff htask hafter).mp hreturns with
    ⟨hautomated, hworking, hready⟩
  have hdata : data.status = some .ready := by
    cases hdata : data.status with
    | none =>
        rw [hdata, Option.getD_none] at hstatus
        rw [← hstatus, hready] at hworking
        exact absurd hworking (by decide)
    | some status =>
        rw [hdata, Option.getD_some, hready] at hstatus
        rw [hstatus]
  rcases writes_ready hwrites hworking hdata with
    ⟨params, hr⟩ | ⟨actorId, hr⟩ | ⟨context, actor, hr, hvouched⟩
  · exact hreclaim params hr
  · cases x with
    | request r =>
        change r = .requeue taskId actorId at hr
        rw [hr] at hautomated
        cases hautomated
    | sweepStuckTask id =>
        cases hr
  · cases x with
    | request r =>
        change r = .transitionTask taskId .ready context actor at hr
        rw [hr] at hx
        exact hx hvouched
    | sweepStuckTask id =>
        cases hr
        exact hsweep rfl task htask hworking

/-- A reclaim returns the task exactly if it counts a retry, within the limit. -/
theorem retryStep_of_reclaim {params : ReclaimLeaseParams} {taskId : TaskId} {task after : Task}
    (htask : s.findTask taskId = some task)
    (hafter : (recovery.next s (.request (.reclaimLease params))).findTask taskId = some after)
    (hworking : task.status ∈ reclaimEligibleTaskStates)
    (hwritten : after = (reclaimTaskUpdate (evaluateTaskOutcome task params.retryPolicy
      params.escalationPolicy params.hasFailureSummary)).apply (task.version + 1) task) :
    RetryStep taskId params.retryPolicy.maxAttempts s (.request (.reclaimLease params)) task
      after := by
  have hiff := returnsTask_eq_true_iff htask hafter
  rcases evaluateTaskOutcome_retry task params.retryPolicy params.escalationPolicy
      params.hasFailureSummary with ⟨htarget, hcount, hlimit⟩ | ⟨htarget, hcount⟩
  · have hreturns : returnsTask taskId s (.request (.reclaimLease params)) = true := by
      apply hiff.mpr
      refine ⟨rfl, hworking, ?_⟩
      rw [hwritten]
      exact htarget
    refine ⟨hafter, ?_, fun _ => hlimit⟩
    rw [hreturns, hwritten]
    exact hcount
  · apply RetryStep.of_kept hafter
    · rw [hwritten]
      exact hcount
    · rw [Bool.eq_false_iff]
      intro hreturns
      apply htarget
      have hready := (hiff.mp hreturns).2.2
      rw [hwritten] at hready
      exact hready

theorem retryStep_of_avoidsSweep {taskId : TaskId} {task : Task}
    (hx : LimitedRetries maxAttempts x) (hsweep : AvoidsSweep taskId s x)
    (htask : s.findTask taskId = some task) :
    exists after, RetryStep taskId maxAttempts s x task after := by
  cases hstep : recovery.step s x with
  | error e =>
      have hafter : (recovery.next s x).findTask taskId = some task := by
        rw [recovery.next_of_error hstep]
        exact htask
      exact ⟨task, .of_kept hafter rfl (returnsTask_of_same htask hafter rfl)⟩
  | ok s' =>
      have hperform : perform s x.toRequest = .ok s' := hstep
      have hnext := recovery.next_of_ok hstep
      have hkept : (s'.findTask taskId).isSome = true :=
        (taskEffect_of_perform hperform).2.keeps taskId (by rw [htask]; rfl)
      rcases Option.isSome_iff_exists.mp hkept with ⟨after, hfind⟩
      have hafter : (recovery.next s x).findTask taskId = some after := by
        rw [hnext]
        exact hfind
      refine ⟨after, ?_⟩
      rcases task_after_perform hperform hfind with
        hsame | ⟨dto, _, hnone, _⟩ | ⟨old, data, hold, hwrites, hwritten⟩
      · rw [htask] at hsame
        cases hsame
        exact .of_kept hafter rfl (returnsTask_of_same htask hafter rfl)
      · rw [htask] at hnone
        cases hnone
      · rw [htask] at hold
        cases hold
        rcases hwrites.retryCount with hcount | ⟨params, hreclaim⟩
        · have hother : forall params, x.toRequest ≠ .reclaimLease params := by
            intro params hreclaim
            rw [hreclaim] at hwrites
            rw [hwrites.2] at hcount
            cases hcount
          apply RetryStep.of_kept hafter
          · rw [hwritten, TaskUpdate.apply_retryCount, hcount, Option.getD_none]
          · apply not_returned_of_writes hx hsweep htask hafter hwrites _ hother
            rw [hwritten, TaskUpdate.apply_status]
        · cases x with
          | request r =>
              change r = .reclaimLease params at hreclaim
              rw [hreclaim] at hx hafter hwrites ⊢
              rw [← hx]
              apply retryStep_of_reclaim htask hafter hwrites.1
              rw [hwritten, hwrites.2]
          | sweepStuckTask id =>
              cases hreclaim

theorem returned_by_sweep {taskId : TaskId} {task : Task}
    (htask : s.findTask taskId = some task) (hworking : task.status ∈ reclaimEligibleTaskStates) :
    exists after, (recovery.next s (.sweepStuckTask taskId)).findTask taskId = some after ∧
      returnsTask taskId s (.sweepStuckTask taskId) = true ∧
      after.retryCount = task.retryCount := by
  have hvalid : validateTransition task.status .ready stuckTaskContext = .valid := by
    simp only [reclaimEligibleTaskStates, List.mem_cons, List.not_mem_nil, or_false]
      at hworking
    rcases hworking with hstatus | hstatus
    · rw [hstatus]
      rfl
    · rw [hstatus]
      rfl
  rcases transitionTask_accepts sweepActor htask hvalid with ⟨s', event, htransition⟩
  have hnext : recovery.next s (.sweepStuckTask taskId) = s' := by
    rw [recovery_next_sweepStuckTask, sweepStuckTask, htransition]
  rcases transitionTask_eq_ok.mp htransition with ⟨found, hfound, _, hs', _⟩
  rw [htask] at hfound
  cases hfound
  have hafter : (recovery.next s (.sweepStuckTask taskId)).findTask taskId =
      some (TaskUpdate.apply { status := some .ready } (task.version + 1) task) := by
    rw [hnext, hs', Store.appendAudit_findTask, Store.findTask_writeTask_self, htask]
    rfl
  refine ⟨_, hafter, ?_, rfl⟩
  exact (returnsTask_eq_true_iff htask hafter).mpr ⟨rfl, hworking, rfl⟩

/-!
## Runs
-/

/-- The task is stored, and its retries are within the limit. -/
def WithinLimit (taskId : TaskId) (maxAttempts : Nat) (s : Store) : Prop :=
  exists task, s.findTask taskId = some task ∧ task.retryCount ≤ maxAttempts

def retryCountOf (taskId : TaskId) (s : Store) : Nat :=
  ((s.findTask taskId).map Task.retryCount).getD 0

theorem retryCountOf_of_find {taskId : TaskId} {task : Task} (h : s.findTask taskId = some task) :
    retryCountOf taskId s = task.retryCount := by
  simp [retryCountOf, h]

/-- In a step that no sweep takes part in, the counter goes up by one if the task is
returned, and stays within the limit. -/
theorem withinLimit_step {taskId : TaskId} (hs : WithinLimit taskId maxAttempts s)
    (hx : LimitedRetries maxAttempts x) (hsweep : AvoidsSweep taskId s x) :
    WithinLimit taskId maxAttempts (recovery.next s x) ∧
      retryCountOf taskId (recovery.next s x) =
        retryCountOf taskId s + if returnsTask taskId s x then 1 else 0 := by
  rcases hs with ⟨task, htask, hlimit⟩
  rcases retryStep_of_avoidsSweep hx hsweep htask with ⟨after, h⟩
  rw [retryCountOf_of_find htask, retryCountOf_of_find h.found]
  refine ⟨⟨after, h.found, ?_⟩, h.counted⟩
  rw [h.counted]
  cases hreturns : returnsTask taskId s x with
  | true =>
      exact h.limited hreturns
  | false =>
      exact hlimit

/-- The returns of a task are counted and at most as many as the policy allows, exactly
if no sweep of stuck tasks finds the task at work. -/
theorem returns_within_maxAttempts_iff {s : Store} {taskId : TaskId} {task : Task}
    {maxAttempts : Nat} {steps : List RecoveryStep} (htask : s.findTask taskId = some task)
    (hzero : task.retryCount = 0) (hsteps : forall x, x ∈ steps -> LimitedRetries maxAttempts x) :
    (timesReturned taskId s steps ≤ maxAttempts ∧
      forall x, x ∈ recovery.arrivals s steps -> returnsTask taskId x.1 x.2 = true ->
        CountsRetry taskId x.1 (recovery.next x.1 x.2)) <->
    forall x, x ∈ recovery.arrivals s steps -> AvoidsSweep taskId x.1 x.2 := by
  constructor
  · intro h x hx hstep found hfound hworking
    rcases returned_by_sweep hfound hworking with ⟨after, hafter, hreturns, hcount⟩
    have hcounts := h.2 x hx
    rw [hstep] at hcounts
    have hraised := hcounts hreturns found after hfound hafter
    omega
  · intro hsweep
    have hC : forall x, x ∈ recovery.arrivals s steps ->
        LimitedRetries maxAttempts x.2 ∧ AvoidsSweep taskId x.1 x.2 :=
      fun x hx => ⟨hsteps x.2 (recovery.mem_of_mem_arrivals hx), hsweep x hx⟩
    have hstart : WithinLimit taskId maxAttempts s :=
      ⟨task, htask, by rw [hzero]; exact Nat.zero_le _⟩
    have hstep : forall s x, WithinLimit taskId maxAttempts s ->
        LimitedRetries maxAttempts x ∧ AvoidsSweep taskId s x ->
        WithinLimit taskId maxAttempts (recovery.next s x) ∧
          retryCountOf taskId (recovery.next s x) =
            retryCountOf taskId s + if returnsTask taskId s x then 1 else 0 :=
      fun s x hs hx => withinLimit_step hs hx.1 hx.2
    have hcount : retryCountOf taskId (recovery.run s steps) =
        retryCountOf taskId s + timesReturned taskId s steps :=
      TransitionSystem.run_count (retryCountOf taskId) (returnsTask taskId)
        (fun s x hs hx => (hstep s x hs hx).1) (fun s x hs hx => (hstep s x hs hx).2)
        hstart hC
    rcases TransitionSystem.run_of_arrivals (fun s x hs hx => (hstep s x hs hx).1) hstart
        hC with ⟨hwithin, last, hlast, hlimit⟩
    constructor
    · rw [retryCountOf_of_find htask, retryCountOf_of_find hlast, hzero] at hcount
      omega
    · intro x hx hreturns before after hbefore hafter
      have hraised := (hstep x.1 x.2 (hwithin x hx) (hC x hx)).2
      rw [retryCountOf_of_find hbefore, retryCountOf_of_find hafter, hreturns] at hraised
      exact hraised

def readyTask : Store :=
  controlPlane.run .empty
    [ .createWorkerPool { workerPoolId := "pool-1", maxConcurrency := 1 },
      .createTask
        { taskId := "task-1"
          repositoryId := "repository-1"
          taskType := "feature"
          priority := "medium" },
      .transitionTask "task-1" .ready { allDependenciesResolved := some true } sweepActor ]

def startWork (leaseId : LeaseId) : List RecoveryStep :=
  [ .request (.acquireLease 0 leaseId
      { taskId := "task-1"
        workerId := "worker-1"
        poolId := "pool-1"
        ttlSeconds := 1800
        actor := sweepActor }),
    .request (.transitionLease leaseId .starting { workerProcessSpawned := some true }
      sweepActor) ]

def reclaimWork (leaseId : LeaseId) : RecoveryStep :=
  .request (.reclaimLease
    { leaseId := leaseId
      reason := .workerCrashed
      retryPolicy := { defaultRetryPolicy with maxAttempts := 1 }
      escalationPolicy := defaultEscalationPolicy
      hasFailureSummary := true
      actor := sweepActor })

def sweepWork (leaseId : LeaseId) : List RecoveryStep :=
  [ .request (.transitionLease leaseId .crashed { workerCrashed := some true } sweepActor),
    .sweepStuckTask "task-1" ]

def reclaimedRounds : List RecoveryStep :=
  startWork "lease-1" ++ [reclaimWork "lease-1"] ++ startWork "lease-2" ++
    [reclaimWork "lease-2"]

def sweptRounds : List RecoveryStep :=
  startWork "lease-1" ++ sweepWork "lease-1" ++ startWork "lease-2" ++ sweepWork "lease-2"

theorem returns_within_maxAttempts_reclaimed :
    timesReturned "task-1" readyTask reclaimedRounds ≤ 1 ∧
      forall x, x ∈ recovery.arrivals readyTask reclaimedRounds ->
        returnsTask "task-1" x.1 x.2 = true ->
        CountsRetry "task-1" x.1 (recovery.next x.1 x.2) := by
  have htask : ((readyTask.findTask "task-1").map Task.retryCount) = some 0 := by
    decide +kernel
  rcases Option.map_eq_some_iff.mp htask with ⟨task, hfind, hzero⟩
  apply (returns_within_maxAttempts_iff hfind hzero _).mpr
  · intro x hx hsweep
    have hmem := recovery.mem_of_mem_arrivals hx
    rw [hsweep] at hmem
    simp [reclaimedRounds, startWork, reclaimWork] at hmem
  · simp [reclaimedRounds, startWork, reclaimWork, LimitedRetries, or_imp, forall_and]

/-- Two returns with a limit of one retry, and none of them is counted. -/
theorem returned_beyond_maxAttempts :
    ¬ forall (s : Store) (taskId : TaskId) (task : Task) (maxAttempts : Nat)
        (steps : List RecoveryStep),
      s.findTask taskId = some task -> task.retryCount = 0 ->
      (forall x, x ∈ steps -> LimitedRetries maxAttempts x) ->
      timesReturned taskId s steps ≤ maxAttempts ∧
        forall x, x ∈ recovery.arrivals s steps -> returnsTask taskId x.1 x.2 = true ->
          CountsRetry taskId x.1 (recovery.next x.1 x.2) := by
  intro h
  have htask : ((readyTask.findTask "task-1").map Task.retryCount) = some 0 := by
    decide +kernel
  have hreturned : timesReturned "task-1" readyTask sweptRounds = 2 := by
    decide +kernel
  rcases Option.map_eq_some_iff.mp htask with ⟨task, hfind, hzero⟩
  have hlimit := (h readyTask "task-1" task 1 sweptRounds hfind hzero (by
    simp [sweptRounds, startWork, sweepWork, LimitedRetries, or_imp, forall_and])).1
  rw [hreturned] at hlimit
  exact absurd hlimit (by decide)

end Leasing
end CopilotFactory
