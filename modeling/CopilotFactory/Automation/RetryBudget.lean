import CopilotFactory.Application.ReconciliationSweep
import CopilotFactory.Automation.WorkerSupervisorService
import CopilotFactory.ControlPlane.TaskWrites

/-!
# The retry budget of automated reclaims

The supervisor and the sweep reclaim under the default policies.  The default retry policy
grants a retry only if a failure summary is present, and neither of them ever says that
one is: no automated reclaim returns its task.
-/

namespace CopilotFactory
namespace Automation

open Foundations
open Domain
open Infrastructure
open Application
open ControlPlane

/-!
## Runs with automated reclaims
-/

/-- A request of others, or one of the two automated reclaims. -/
inductive AutomationStep where
  | request (r : Request)
  | supervisorReclaim (leaseId : LeaseId)
  | sweepReclaim (staleInfo : StaleLeaseInfo)

def AutomationStep.automatedReclaim : AutomationStep -> Option ReclaimLeaseParams
  | .request _ => none
  | .supervisorReclaim leaseId => some (Automation.supervisorReclaim leaseId)
  | .sweepReclaim staleInfo => some (sweepReclaimParams staleInfo)

def AutomationStep.toRequest : AutomationStep -> Request
  | .request r => r
  | .supervisorReclaim leaseId => .reclaimLease (Automation.supervisorReclaim leaseId)
  | .sweepReclaim staleInfo => .reclaimLease (sweepReclaimParams staleInfo)

def automation : TransitionSystem Store AutomationStep ServiceError :=
  controlPlane.named AutomationStep.toRequest

variable {x : AutomationStep}

theorem toRequest_of_automatedReclaim {params : ReclaimLeaseParams}
    (h : x.automatedReclaim = some params) : x.toRequest = .reclaimLease params := by
  cases x with
  | request r =>
      cases h
  | supervisorReclaim leaseId =>
      cases h
      rfl
  | sweepReclaim staleInfo =>
      cases h
      rfl

theorem automation_next_sweepReclaim (staleInfo : StaleLeaseInfo) (s : Store) :
    automation.next s (.sweepReclaim staleInfo) = (sweepStaleLease staleInfo s).1 := by
  have hstep : automation.step s (.sweepReclaim staleInfo) =
      committed (reclaimLease (sweepReclaimParams staleInfo) s) :=
    rfl
  unfold sweepStaleLease
  cases hreclaim : reclaimLease (sweepReclaimParams staleInfo) s with
  | error e =>
      rw [hreclaim] at hstep
      exact automation.next_of_error hstep
  | ok r =>
      rw [hreclaim] at hstep
      exact automation.next_of_ok hstep

theorem sweepDetected_run (detected : List StaleLeaseInfo) (s : Store) :
    (sweepDetected detected s).1 =
      automation.run s (detected.map AutomationStep.sweepReclaim) := by
  induction detected generalizing s with
  | nil =>
      rfl
  | cons staleInfo rest ih =>
      rw [List.map_cons, TransitionSystem.run_cons, automation_next_sweepReclaim, ← ih]
      rfl

/-!
## The budget
-/

/-- The trigger that stands for a reason: only a lost heartbeat has one. -/
def reasonTrigger : ReclaimReason -> Option EscalationTrigger
  | .missedHeartbeats => some .heartbeatTimeout
  | .ttlExpired => some .heartbeatTimeout
  | .workerCrashed => none

/-- An escalation trigger that is configured for the reason of the reclaim fires. -/
def TriggerFires (params : ReclaimLeaseParams) (task : Task) : Prop :=
  exists trigger, reasonTrigger params.reason = some trigger ∧
    (params.escalationPolicy.triggers trigger).isSome = true ∧
    (shouldEscalate
      { trigger := trigger
        retryCount := some task.retryCount
        maxAttempts := some params.retryPolicy.maxAttempts }
      params.escalationPolicy).shouldEscalate = true

/-- An automated reclaim that is accepted returns a task that has retries left and counts
the retry, and fails or escalates a task only for want of retries or on a trigger. -/
def KeepsRetryBudget (s : Store) (x : AutomationStep) : Prop :=
  forall params s' lease task after, x.automatedReclaim = some params ->
    automation.step s x = .ok s' -> s.findLease params.leaseId = some lease ->
    s.findTask lease.taskId = some task -> s'.findTask lease.taskId = some after ->
      (task.retryCount < params.retryPolicy.maxAttempts ->
        after.status = .ready ∧ after.retryCount = task.retryCount + 1) ∧
      (after.status ≠ task.status ->
        after.status = .failed ∨ after.status = .escalated ->
        params.retryPolicy.maxAttempts ≤ task.retryCount ∨ TriggerFires params task)

def FindsBudgetSpent (s : Store) (x : AutomationStep) : Prop :=
  forall params lease task, x.automatedReclaim = some params ->
    s.findLease params.leaseId = some lease -> lease.status ∈ reclaimableStates ->
    s.findTask lease.taskId = some task ->
      params.retryPolicy.maxAttempts ≤ task.retryCount

/-!
## No automated reclaim returns its task
-/

theorem automatedReclaim_policies {params : ReclaimLeaseParams}
    (h : x.automatedReclaim = some params) :
    params.retryPolicy = defaultRetryPolicy ∧
      params.escalationPolicy = defaultEscalationPolicy ∧
      params.hasFailureSummary = false := by
  cases x with
  | request r =>
      cases h
  | supervisorReclaim leaseId =>
      cases h
      exact ⟨rfl, rfl, rfl⟩
  | sweepReclaim staleInfo =>
      cases h
      exact ⟨rfl, rfl, rfl⟩

theorem not_eligible_without_summary (retryCount : Nat) :
    (shouldRetry { retryCount := retryCount, hasFailureSummary := false }
      defaultRetryPolicy).eligible = false := by
  rw [Bool.eq_false_iff]
  intro heligible
  have hsummary := ((shouldRetry_eligible_iff _ _).mp heligible).2 rfl
  cases hsummary

theorem evaluateTaskOutcome_default (task : Task) :
    (evaluateTaskOutcome task defaultRetryPolicy defaultEscalationPolicy false).targetStatus =
        .escalated ∧
      (evaluateTaskOutcome task defaultRetryPolicy defaultEscalationPolicy
        false).newRetryCount = task.retryCount := by
  unfold evaluateTaskOutcome
  dsimp only
  rw [not_eligible_without_summary]
  exact ⟨rfl, rfl⟩

/-- An automated reclaim escalates its task if the task is at work, and leaves it alone
otherwise.  It never counts a retry. -/
theorem task_after_automatedReclaim {s s' : Store} {params : ReclaimLeaseParams}
    {lease : TaskLease} {task after : Task} (hx : x.automatedReclaim = some params)
    (hstep : automation.step s x = .ok s') (hlease : s.findLease params.leaseId = some lease)
    (htask : s.findTask lease.taskId = some task)
    (hafter : s'.findTask lease.taskId = some after) :
    after.retryCount = task.retryCount ∧
      ((task.status ∈ reclaimEligibleTaskStates ∧ after.status = .escalated) ∨
        (task.status ∉ reclaimEligibleTaskStates ∧ after = task)) := by
  have hperform : perform s x.toRequest = .ok s' := hstep
  rw [toRequest_of_automatedReclaim hx] at hperform
  rcases committed_eq_ok.mp hperform with ⟨result, h⟩
  rcases reclaimLease_spec h with ⟨found, foundTask, hfound, _, hfoundTask, _, hcases⟩
  rw [hlease] at hfound
  cases hfound
  rw [htask] at hfoundTask
  cases hfoundTask
  rcases hcases with ⟨hnot, htasks⟩ | ⟨hworking, htasks⟩
  · rw [Store.findTask_of_tasks_eq htasks, htask] at hafter
    cases hafter
    exact ⟨rfl, Or.inr ⟨hnot, rfl⟩⟩
  · rw [Store.findTask_of_tasks_eq htasks, Store.findTask_writeTask_self, htask] at hafter
    cases hafter
    rcases automatedReclaim_policies hx with ⟨hretry, hescalation, hsummary⟩
    rw [hretry, hescalation, hsummary]
    rcases evaluateTaskOutcome_default task with ⟨htarget, hcount⟩
    exact ⟨hcount, Or.inl ⟨hworking, htarget⟩⟩

theorem keepsRetryBudget_iff (s : Store) (x : AutomationStep) :
    KeepsRetryBudget s x <-> FindsBudgetSpent s x := by
  constructor
  · intro h params lease task hx hlease hstatus htask
    have haccepted : exists s', automation.step s x = .ok s' := by
      rcases (reclaimLease_accepted_iff params s).mpr ⟨lease, hlease, hstatus⟩ with
        ⟨⟨s', result⟩, hreclaim⟩
      refine ⟨s', ?_⟩
      change perform s x.toRequest = .ok s'
      rw [toRequest_of_automatedReclaim hx]
      exact committed_eq_ok.mpr ⟨result, hreclaim⟩
    rcases haccepted with ⟨s', hstep⟩
    have hkept : (s'.findTask lease.taskId).isSome = true :=
      (taskEffect_of_perform (show perform s x.toRequest = .ok s' from hstep)).2.keeps
        lease.taskId (by rw [htask]; rfl)
    rcases Option.isSome_iff_exists.mp hkept with ⟨after, hafter⟩
    by_contra hleft
    -- With retries left the reclaim should have counted one.
    have hreturned := (h params s' lease task after hx hstep hlease htask hafter).1
      (Nat.lt_of_not_le hleft)
    have hcount := (task_after_automatedReclaim hx hstep hlease htask hafter).1
    omega
  · intro h params s' lease task after hx hstep hlease htask hafter
    have hperform : perform s x.toRequest = .ok s' := hstep
    rw [toRequest_of_automatedReclaim hx] at hperform
    rcases committed_eq_ok.mp hperform with ⟨result, hreclaim⟩
    rcases (reclaimLease_accepted_iff params s).mp ⟨_, hreclaim⟩ with
      ⟨found, hfound, hstatus⟩
    rw [hlease] at hfound
    cases hfound
    have hspent := h params lease task hx hlease hstatus htask
    refine ⟨?_, fun _ _ => Or.inl hspent⟩
    intro hleft
    exact absurd hleft (Nat.not_lt_of_le hspent)

/-- In every run the automated reclaims leave the retry budget available exactly if each
of them finds the budget of its task spent. -/
theorem retry_budget_available_iff (s : Store) (steps : List AutomationStep) :
    (forall x, x ∈ automation.arrivals s steps -> KeepsRetryBudget x.1 x.2) <->
      forall x, x ∈ automation.arrivals s steps -> FindsBudgetSpent x.1 x.2 := by
  constructor
  · intro h x hx
    exact (keepsRetryBudget_iff x.1 x.2).mp (h x hx)
  · intro h x hx
    exact (keepsRetryBudget_iff x.1 x.2).mpr (h x hx)

/-!
## A worker that crashes once
-/

def crashedOnce : List AutomationStep :=
  [.request (.createWorkerPool { workerPoolId := "pool-1", maxConcurrency := 1 }),
    .request (.createTask
      { taskId := "task-1", repositoryId := "repo-1", taskType := "feature",
        priority := "high" }),
    .request (.transitionTask "task-1" .ready
      { allDependenciesResolved := some true, hasPolicyBlockers := some false }
      automationActor),
    .request (.acquireLease 0 "lease-1"
      { taskId := "task-1", workerId := "worker-1", poolId := "pool-1", ttlSeconds := 1800,
        actor := automationActor }),
    .request (.transitionLease "lease-1" .starting { workerProcessSpawned := some true }
      automationActor)]

/-- The first loss of a worker escalates the task, with both retries unused. -/
theorem first_crash_escalates :
    ¬ forall x, x ∈ automation.arrivals Store.empty
        (crashedOnce ++ [.supervisorReclaim "lease-1"]) -> KeepsRetryBudget x.1 x.2 := by
  intro h
  have hspent := (keepsRetryBudget_iff _ _).mp
    (h _ (automation.mem_arrivals_append Store.empty crashedOnce
      (.supervisorReclaim "lease-1") []))
  have hlease : ((automation.run Store.empty crashedOnce).findLease "lease-1").map
      (fun lease => (lease.taskId, lease.status)) = some ("task-1", .starting) := by
    decide +kernel
  have htask : ((automation.run Store.empty crashedOnce).findTask "task-1").map
      Task.retryCount = some 0 := by
    decide +kernel
  rcases Option.map_eq_some_iff.mp hlease with ⟨lease, hfind, hstarted⟩
  rcases Option.map_eq_some_iff.mp htask with ⟨task, hfindTask, hzero⟩
  simp only [Prod.mk.injEq] at hstarted
  rw [← hstarted.1] at hfindTask
  have hmax := hspent (supervisorReclaim "lease-1") lease task rfl hfind
    (by rw [hstarted.2]; decide) hfindTask
  rw [hzero] at hmax
  exact absurd hmax (by decide)

end Automation
end CopilotFactory
