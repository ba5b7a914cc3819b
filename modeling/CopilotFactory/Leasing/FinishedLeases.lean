import CopilotFactory.Leasing.Exclusivity

/-!
# Finished leases

Three lists say when a lease is finished: the terminal states of the state
machine, the terminal statuses of the lease repository and the active statuses
of the scheduler.  They disagree on COMPLETING, which the state machine can never
leave and which the other two lists count as active.
-/

namespace CopilotFactory
namespace Leasing

open Foundations
open Domain
open Infrastructure
open Application
open ControlPlane

variable {s : Store}

/-- A finished lease neither blocks its task nor counts against its pool. -/
def FinishedLeasesReleased (s : Store) : Prop :=
  forall lease, lease ∈ s.taskLeases -> isTerminalWorkerLeaseState lease.status = true ->
    (forall taskId, s.findActiveByTaskId taskId ≠ some lease) ∧
      (forall poolId, ¬ lease ∈ s.countedLeases poolId)

/-- A task that awaits a lease, and whose leases are all over, can be leased as far as
exclusivity is concerned. -/
def ReworkNotBlocked (s : Store) : Prop :=
  forall now leaseId (params : AcquireLeaseParams) task,
    s.findTask params.taskId = some task ->
    task.status = .changesRequested ∨ task.status = .ready ∨
      (task.status = .escalated ∧ params.actor.type = "operator") ->
    (forall lease, lease ∈ s.taskLeases -> lease.taskId = params.taskId ->
      isTerminalWorkerLeaseState lease.status = true ∨ lease.status = .timedOut ∨
        lease.status = .crashed ∨ lease.status = .reclaimed) ->
    forall taskId existing,
      acquireLease now leaseId params s ≠ .error (.exclusivityViolation taskId existing)

def NoCompletingLease (s : Store) : Prop :=
  forall lease, lease ∈ s.taskLeases -> lease.status ≠ .completing

/-!
## One state

Both properties come down to the absence of COMPLETING leases.
-/

theorem finishedLeasesReleased_iff : FinishedLeasesReleased s <-> NoCompletingLease s := by
  constructor
  · intro h lease hlease hcompleting
    have hterminal : isTerminalWorkerLeaseState lease.status = true := by
      rw [hcompleting]
      rfl
    have huncounted := (h lease hlease hterminal).2 lease.poolId
    apply huncounted
    rw [Store.mem_countedLeases, hcompleting]
    exact ⟨hlease, by decide, rfl⟩
  · intro h lease hlease hterminal
    have hreclaimed : lease.status = .reclaimed := by
      cases hstatus : lease.status with
      | reclaimed =>
          rfl
      | completing =>
          exact absurd hstatus (h lease hlease)
      | _ =>
          rw [hstatus] at hterminal
          cases hterminal
    constructor
    · intro taskId hactive
      have hlisted := (Store.findActiveByTaskId_some hactive).2.2
      rw [Store.label_mem_terminal_iff] at hlisted
      exact hlisted (Or.inr (Or.inr hreclaimed))
    · intro poolId hcounted
      have hactive := (Store.mem_countedLeases.mp hcounted).2.1
      rw [hreclaimed] at hactive
      exact absurd hactive (by decide)

theorem reworkNotBlocked_of_noCompleting (h : NoCompletingLease s) : ReworkNotBlocked s := by
  intro now leaseId params task _ _ hover taskId existing hviolation
  rcases acquireLease_exclusivity_iff.mp hviolation with ⟨_, active, _, _, hactive, _⟩
  rcases Store.findActiveByTaskId_some hactive with ⟨hmem, htask, hlisted⟩
  rw [Store.label_mem_terminal_iff] at hlisted
  rcases hover active hmem htask with hterminal | hterminal
  · have hreleased := (finishedLeasesReleased_iff.mpr h active hmem hterminal).1
    exact hreleased params.taskId hactive
  · exact hlisted hterminal

/-!
## Runs
-/

theorem noCompletingLease_iff_find :
    NoCompletingLease s <->
      forall id lease, s.findLease id = some lease -> lease.status ≠ .completing := by
  constructor
  · intro h id lease hfind
    exact h lease (Store.mem_of_findLease hfind)
  · intro h lease hlease
    exact h lease.leaseId lease (Table.find?_key_of_mem hlease)

theorem noCompletingLease_of_effect {s' : Store} {r : Request} (heffect : LeaseEffect s s' r)
    (hs : NoCompletingLease s) (hr : ¬ CompletesLease s r) : NoCompletingLease s' := by
  rw [noCompletingLease_iff_find] at hs ⊢
  intro id lease hfind
  cases heffect with
  | unchanged heq =>
      apply hs id lease
      rw [Store.findLease_of_leases_eq heq] at hfind
      exact hfind
  | created new _ _ hstatus hself hother =>
      by_cases hid : id = new.leaseId
      · rw [hid, hself] at hfind
        cases hfind
        rw [hstatus]
        simp
      · rw [hother id hid] at hfind
        exact hs id lease hfind
  | moved leaseId old target data hold _ hdata hcompletes _ heq =>
      rw [findLease_moved hold heq] at hfind
      by_cases hid : id = leaseId
      · rw [if_pos hid] at hfind
        cases hfind
        rw [TaskLeaseUpdate.apply_status, hdata]
        intro htarget
        exact hr (hcompletes htarget)
      · rw [if_neg hid] at hfind
        exact hs id lease hfind

theorem completing_of_completesLease {r : Request} (hr : CompletesLease s r) :
    exists id lease, (controlPlane.next s r).findLease id = some lease ∧
      lease.status = .completing := by
  cases r with
  | receiveHeartbeat now params =>
      rcases hr with ⟨hcompleting, hfound⟩
      rcases receiveHeartbeat_accepted_iff.mpr hfound with ⟨⟨s', result⟩, haccepted⟩
      rcases receiveHeartbeat_spec haccepted with ⟨lease, hlease, _, _, hleases⟩
      have hstep : controlPlane.step s (.receiveHeartbeat now params) = .ok s' :=
        committed_eq_ok.mpr ⟨result, haccepted⟩
      refine ⟨params.leaseId, (heartbeatUpdate now params lease).apply lease, ?_, ?_⟩
      · rw [controlPlane.next_of_ok hstep, findLease_moved hlease hleases, if_pos rfl]
      · simp [heartbeatUpdate, hcompleting, computeTargetStatus]
  | transitionLease leaseId target context actor =>
      rcases hr with ⟨htarget, lease, hlease, hvalid⟩
      have haccepted : exists s' event,
          transitionLease leaseId target context actor s = .ok (s', event) := by
        simp only [transitionLease, hlease, orThrow_some, ok_bind, htarget, hvalid,
          commitTransition, Store.updateLease_of_find hlease]
        exact ⟨_, _, rfl⟩
      rcases haccepted with ⟨s', event, haccepted⟩
      rcases transitionLease_spec haccepted with ⟨old, hold, _, _, hleases⟩
      have hstep : controlPlane.step s (.transitionLease leaseId target context actor) =
          .ok s' :=
        committed_eq_ok.mpr ⟨event, haccepted⟩
      refine ⟨leaseId, TaskLeaseUpdate.apply { status := some target } old, ?_, ?_⟩
      · rw [controlPlane.next_of_ok hstep, findLease_moved hold hleases, if_pos rfl]
      · simp [htarget]
  | _ =>
      exact absurd hr id

theorem noCompletingLease_next_iff (s : Store) (r : Request) (hs : NoCompletingLease s) :
    NoCompletingLease (controlPlane.next s r) <-> ¬ CompletesLease s r := by
  constructor
  · intro hnext hr
    rcases completing_of_completesLease hr with ⟨id, lease, hfind, hcompleting⟩
    exact noCompletingLease_iff_find.mp hnext id lease hfind hcompleting
  · intro hr
    refine controlPlane.next_cases hs ?_
    intro s' hstep
    exact noCompletingLease_of_effect (leaseEffect_of_perform hstep) hs hr

theorem noCompletingLease_empty : NoCompletingLease Store.empty := by
  intro lease hlease
  exact absurd hlease (Table.not_mem_empty lease)

/-- Finished leases release their task and their pool throughout a run exactly when the
run completes no lease. -/
theorem finished_leases_released_iff_none_completes (requests : List Request) :
    (forall s, s ∈ controlPlane.states Store.empty requests ->
      FinishedLeasesReleased s ∧ ReworkNotBlocked s) <->
        forall x, x ∈ controlPlane.arrivals Store.empty requests ->
          ¬ CompletesLease x.1 x.2 := by
  have hstate : forall s, FinishedLeasesReleased s ∧ ReworkNotBlocked s <->
      NoCompletingLease s := by
    intro s
    constructor
    · intro h
      exact finishedLeasesReleased_iff.mp h.1
    · intro h
      exact ⟨finishedLeasesReleased_iff.mpr h, reworkNotBlocked_of_noCompleting h⟩
  simp only [hstate]
  apply TransitionSystem.states_iff_arrivals (fun _ => True) (fun _ => True)
    NoCompletingLease (fun s r => ¬ CompletesLease s r)
  · intro _ _ _ _ _ _
    trivial
  · intro s r _ _ hs
    exact noCompletingLease_next_iff s r hs
  · intro _ _
    trivial
  · trivial
  · exact noCompletingLease_empty

/-!
## A rework cycle that cannot start

The worker of `lease-1` completes, the review asks for changes, and the second
acquisition is refused because of the finished lease.
-/

def scheduler : ActorInfo where
  type := "system"
  id := "scheduler"

def acquireParams (workerId : WorkerId) : AcquireLeaseParams where
  taskId := "task-1"
  workerId := workerId
  poolId := "pool-1"
  ttlSeconds := 3600
  actor := scheduler

def reworkRun : List Request :=
  [.createWorkerPool { workerPoolId := "pool-1", maxConcurrency := 1 },
    .createTask
      { taskId := "task-1", repositoryId := "repo-1", taskType := "feature",
        priority := "high" },
    .transitionTask "task-1" .ready
      { allDependenciesResolved := some true, hasPolicyBlockers := some false } scheduler,
    .acquireLease 0 "lease-1" (acquireParams "worker-1"),
    .transitionLease "lease-1" .starting { workerProcessSpawned := some true } scheduler,
    .receiveHeartbeat 1000 { leaseId := "lease-1", actor := scheduler },
    .receiveHeartbeat 2000
      { leaseId := "lease-1", completing := true, actor := scheduler },
    .transitionTask "task-1" .inDevelopment { hasHeartbeat := some true } scheduler,
    .transitionTask "task-1" .devComplete
      { hasDevResultPacket := some true, requiredValidationsPassed := some true } scheduler,
    .transitionTask "task-1" .inReview { hasReviewRoutingDecision := some true } scheduler,
    .transitionTask "task-1" .changesRequested
      { leadReviewDecision := some .changesRequested } scheduler]

/-- After the rework run the task awaits a lease, its only lease is finished, and the
acquisition is refused. -/
theorem rework_blocked_by_finished_lease :
    ¬ (forall s, s ∈ controlPlane.states Store.empty reworkRun ->
      FinishedLeasesReleased s ∧ ReworkNotBlocked s) ∧
    acquireLease 3000 "lease-2" (acquireParams "worker-2")
        (controlPlane.run Store.empty reworkRun) =
      .error (.exclusivityViolation "task-1" "lease-1") := by
  constructor
  · intro h
    have hlast := (h _ (controlPlane.run_mem_states Store.empty reworkRun)).1
    have hnone := noCompletingLease_iff_find.mp (finishedLeasesReleased_iff.mp hlast)
    exact hnone "lease-1"
      { leaseId := "lease-1", taskId := "task-1", workerId := "worker-1",
        poolId := "pool-1", status := .completing, leasedAt := 0, expiresAt := 3600,
        heartbeatAt := some 2, reclaimReason := none } (by decide) rfl
  · rfl

end Leasing
end CopilotFactory
