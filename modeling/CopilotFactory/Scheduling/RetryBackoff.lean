import CopilotFactory.Scheduling.PoolCapacity

/-!
# Retry backoff

A reclaim that returns its task to READY computes how long the next attempt should
wait.  The delay is reported and stored nowhere, and nothing that comes after it looks
at the clock: the next call of a scheduler may try the task at once.
-/

namespace CopilotFactory
namespace Scheduling

open Foundations
open Domain
open Infrastructure
open Application

/-!
## The computed delay
-/

variable {s s' : Store}

theorem retryEvaluation_of_eligible {params : ReclaimLeaseParams} {result : ReclaimLeaseResult}
    (h : reclaimLease params s = .ok (s', result))
    (heligible : result.retryEvaluation.eligible = true) :
    exists context, result.retryEvaluation = shouldRetry context params.retryPolicy := by
  simp only [reclaimLease, bind_eq_ok, orThrow_eq_ok, ensure_eq_ok,
    commitTransition_eq_ok] at h
  rcases h with ⟨_, _, _, _, _, _, _, _, task, _, h⟩
  split at h
  · simp only [pure_eq_ok, Prod.mk.injEq] at h
    rw [← h.2] at heligible
    cases heligible
  · simp only [bind_eq_ok, commitTransition_eq_ok, pure_eq_ok, Prod.mk.injEq] at h
    rcases h with ⟨_, _, _, _, _, hresult⟩
    refine ⟨{ retryCount := task.retryCount, hasFailureSummary := params.hasFailureSummary },
      ?_⟩
    rw [← hresult]
    unfold evaluateTaskOutcome
    dsimp only
    split
    · rfl
    · rfl

theorem backoffSeconds_of_eligible {params : ReclaimLeaseParams} {result : ReclaimLeaseResult}
    (h : reclaimLease params s = .ok (s', result))
    (heligible : result.retryEvaluation.eligible = true) :
    result.retryEvaluation.backoffSeconds =
      min (params.retryPolicy.initialBackoffSeconds *
        2 ^ (result.retryEvaluation.nextAttempt - 1)) params.retryPolicy.maxBackoffSeconds := by
  rcases retryEvaluation_of_eligible h heligible with ⟨context, hevaluation⟩
  rw [hevaluation] at heligible ⊢
  exact shouldRetry_backoffSeconds heligible

def nextAttemptDue (reclaimedAt : Millis) (evaluation : RetryEvaluation) : Millis :=
  reclaimedAt + evaluation.backoffSeconds * 1000

/-!
## Leases acquired by a scheduler
-/

def AddsLease (taskId : TaskId) (s s' : Store) : Prop :=
  exists lease, lease ∈ s'.taskLeases ∧ lease.taskId = taskId ∧ lease ∉ s.taskLeases

def AcquiresBefore (due : Millis) (taskId : TaskId) (w : Schedulers) :
    SchedulerStep -> Prop
  | .tryNext pid now leaseId workerId =>
      now < due ∧ AddsLease taskId w.shared.store
        (schedulers.next w (.tryNext pid now leaseId workerId)).shared.store
  | _ => False

/-- A scheduler comes to the task before the time, with a pool for it, and the task can be
leased. -/
def TriesBefore (due : Millis) (taskId : TaskId) (w : Schedulers) : SchedulerStep -> Prop
  | .tryNext pid now leaseId workerId =>
      now < due ∧ exists task rest pools evaluated anyPoolHadCapacity pool,
        w.phase pid = .trying (task :: rest) pools evaluated anyPoolHadCapacity ∧
        task.taskId = taskId ∧ chosenPool task pools = some pool ∧
        Acquirable w.shared.store leaseId (assignmentParams task pool workerId)
  | _ => False

theorem addsLease_of_acquired {now : Millis} {leaseId : LeaseId} {params : AcquireLeaseParams}
    {result : LeaseAcquisitionResult} (h : acquireLease now leaseId params s = .ok (s', result))
    {taskId : TaskId} : AddsLease taskId s s' <-> params.taskId = taskId := by
  rcases acquireLease_spec h with ⟨_, s₁, _, _, _, hcreate, _, hleases⟩
  rcases Store.createLease_spec hcreate with ⟨hnew, _, _, _, hmem⟩
  unfold AddsLease
  rw [hleases]
  constructor
  · intro hadds
    rcases hadds with ⟨lease, hlease, htask, hnot⟩
    rcases (hmem lease).mp hlease with hold | hsame
    · exact absurd hold hnot
    · rw [hsame] at htask
      exact htask
  · intro htask
    refine ⟨newLease now leaseId params, (hmem _).mpr (Or.inr rfl), htask, ?_⟩
    intro hold
    have hfound : s.findLease (newLease now leaseId params).leaseId =
        some (newLease now leaseId params) :=
      Table.find?_key_of_mem hold
    rw [hnew] at hfound
    cases hfound

theorem addsLease_of_new {taskId : TaskId} {s s' : Store} {leaseId : LeaseId}
    (hbefore : s.findLease leaseId = none)
    (hafter : (s'.findLease leaseId).map TaskLease.taskId = some taskId) :
    AddsLease taskId s s' := by
  rcases Option.map_eq_some_iff.mp hafter with ⟨lease, hlease, htask⟩
  refine ⟨lease, Table.mem_of_find? hlease, htask, ?_⟩
  intro hold
  have hfound : s.findLease lease.leaseId = some lease := Table.find?_key_of_mem hold
  rw [Table.key_of_find? hlease, hbefore] at hfound
  cases hfound

theorem not_addsLease_of_same {taskId : TaskId} : ¬ AddsLease taskId s s := by
  intro h
  rcases h with ⟨lease, hlease, _, hnot⟩
  exact hnot hlease

/-- A scheduler acquires a lease of the task exactly if it comes to the task with a pool
while the task can be leased. -/
theorem acquiresBefore_iff {due : Millis} {taskId : TaskId} {w : Schedulers}
    {x : SchedulerStep} :
    AcquiresBefore due taskId w x <-> TriesBefore due taskId w x := by
  cases x with
  | tryNext pid now leaseId workerId =>
      apply and_congr_right
      intro _
      by_cases hphase : exists task rest pools evaluated anyPoolHadCapacity,
          w.phase pid = .trying (task :: rest) pools evaluated anyPoolHadCapacity
      · rcases hphase with ⟨task, rest, pools, evaluated, any, hphase⟩
        rw [next_tryNext hphase]
        rcases tryCandidate_store w pid task rest pools evaluated any now leaseId workerId
          with ⟨pool, s', result, hpool, hacquire, hstore⟩ | ⟨hrefused, hstore⟩
        · rw [hstore, addsLease_of_acquired hacquire]
          constructor
          · intro htask
            exact ⟨task, rest, pools, evaluated, any, pool, hphase, htask, hpool,
              acquireLease_accepted_iff.mp ⟨_, hacquire⟩⟩
          · intro htries
            rcases htries with ⟨task', _, _, _, _, _, hphase', htask, _⟩
            rw [hphase] at hphase'
            cases hphase'
            exact htask
        · rw [hstore]
          constructor
          · intro hadds
            exact absurd hadds not_addsLease_of_same
          · intro htries
            rcases htries with ⟨task', _, _, _, _, pool, hphase', _, hpool, hacquirable⟩
            rw [hphase] at hphase'
            cases hphase'
            exact absurd (acquireLease_accepted_iff.mpr hacquirable) (hrefused pool hpool)
      · have hnot : forall task rest pools evaluated anyPoolHadCapacity,
            w.phase pid ≠ .trying (task :: rest) pools evaluated anyPoolHadCapacity :=
          fun task rest pools evaluated any h =>
            hphase ⟨task, rest, pools, evaluated, any, h⟩
        rw [next_tryNext_of_not hnot]
        constructor
        · intro hadds
          exact absurd hadds not_addsLease_of_same
        · intro htries
          rcases htries with ⟨task, rest, pools, evaluated, any, _, hphase', _⟩
          exact absurd hphase' (hnot task rest pools evaluated any)
  | _ =>
      exact Iff.rfl

/-- After an eligible reclaim the backoff grows with the attempts.  No lease of the task
is acquired until it is over, exactly if until then no scheduler comes to the task with
a pool while the task can be leased. -/
theorem backoff_respected_iff {w : Schedulers} {params : ReclaimLeaseParams} {s' : Store}
    {result : ReclaimLeaseResult} (reclaimedAt : Millis) (steps : List SchedulerStep)
    (h : reclaimLease params w.shared.store = .ok (s', result))
    (heligible : result.retryEvaluation.eligible = true) :
    result.retryEvaluation.backoffSeconds =
        min (params.retryPolicy.initialBackoffSeconds *
          2 ^ (result.retryEvaluation.nextAttempt - 1)) params.retryPolicy.maxBackoffSeconds ∧
      ((forall x, x ∈ schedulers.arrivals
          (schedulers.next w (.request (.reclaimLease params))) steps ->
        ¬ AcquiresBefore (nextAttemptDue reclaimedAt result.retryEvaluation)
          result.task.taskId x.1 x.2) <->
      forall x, x ∈ schedulers.arrivals
          (schedulers.next w (.request (.reclaimLease params))) steps ->
        ¬ TriesBefore (nextAttemptDue reclaimedAt result.retryEvaluation)
          result.task.taskId x.1 x.2) := by
  refine ⟨backoffSeconds_of_eligible h heligible, ?_⟩
  simp only [acquiresBefore_iff]

/-!
## A task that is tried again

Its first worker crashes, and with the default policy the next attempt is due after a
minute.
-/

def firstAttempt : List SchedulerStep :=
  .request (.createWorkerPool { workerPoolId := "pool-1", maxConcurrency := 1 }) ::
    (readyTask "task-1" ++ readTables 1 ++
      [.tryNext 1 0 "lease-1" "worker-1", .dispatch 1 0 "job-1",
        .request (.transitionLease "lease-1" .starting { workerProcessSpawned := some true }
          schedulerActor)])

def crashReclaim : ReclaimLeaseParams where
  leaseId := "lease-1"
  reason := .workerCrashed
  retryPolicy := defaultRetryPolicy
  escalationPolicy := defaultEscalationPolicy
  hasFailureSummary := true
  actor := schedulerActor

def nextAttempt (now : Millis) : List SchedulerStep :=
  readTables 1 ++ [.tryNext 1 now "lease-2" "worker-2"]

theorem crashReclaim_eligible :
    exists s' result,
      reclaimLease crashReclaim (schedulers.run noSchedulers firstAttempt).shared.store =
        .ok (s', result) ∧
      result.retryEvaluation =
        { eligible := true, backoffSeconds := 60, nextAttempt := 1 } ∧
      result.task.taskId = "task-1" := by
  have hcomputed :
      (reclaimLease crashReclaim
        (schedulers.run noSchedulers firstAttempt).shared.store).toOption.map
          (fun r => (r.2.retryEvaluation, r.2.task.taskId)) =
        some ({ eligible := true, backoffSeconds := 60, nextAttempt := 1 }, "task-1") := by
    decide +kernel
  rcases Option.map_eq_some_iff.mp hcomputed with ⟨⟨s', result⟩, hreclaim, hresult⟩
  rcases Prod.mk.inj hresult with ⟨hevaluation, htask⟩
  exact ⟨s', result, toOption_eq_some.mp hreclaim, hevaluation, htask⟩

theorem backoff_respected_by_late_attempt :
    exists s' result,
      reclaimLease crashReclaim (schedulers.run noSchedulers firstAttempt).shared.store =
        .ok (s', result) ∧
      forall x, x ∈ schedulers.arrivals
          (schedulers.next (schedulers.run noSchedulers firstAttempt)
            (.request (.reclaimLease crashReclaim))) (nextAttempt 60000) ->
        ¬ AcquiresBefore (nextAttemptDue 0 result.retryEvaluation) result.task.taskId x.1
          x.2 := by
  rcases crashReclaim_eligible with ⟨s', result, hreclaim, hevaluation, _⟩
  refine ⟨s', result, hreclaim, ?_⟩
  have heligible : result.retryEvaluation.eligible = true := by
    rw [hevaluation]
  apply (backoff_respected_iff 0 (nextAttempt 60000) hreclaim heligible).2.mpr
  intro x hx htries
  have hmem := schedulers.mem_of_mem_arrivals hx
  simp only [nextAttempt, readTables, List.cons_append, List.nil_append, List.mem_cons,
    List.not_mem_nil, or_false] at hmem
  rcases hmem with hstep | hstep | hstep
  · rw [hstep] at htries
    exact htries
  · rw [hstep] at htries
    exact htries
  · rw [hstep] at htries
    have hearly := htries.1
    rw [hevaluation] at hearly
    exact absurd hearly (by decide)

/-- Half a minute before the next attempt is due, a scheduler makes it. -/
theorem backoff_ignored :
    ¬ forall (steps : List SchedulerStep) (params : ReclaimLeaseParams) (s' : Store)
        (result : ReclaimLeaseResult) (reclaimedAt : Millis) (rest : List SchedulerStep),
      reclaimLease params (schedulers.run noSchedulers steps).shared.store =
        .ok (s', result) ->
      result.retryEvaluation.eligible = true ->
      forall x, x ∈ schedulers.arrivals
          (schedulers.next (schedulers.run noSchedulers steps)
            (.request (.reclaimLease params))) rest ->
        ¬ AcquiresBefore (nextAttemptDue reclaimedAt result.retryEvaluation)
          result.task.taskId x.1 x.2 := by
  intro h
  rcases crashReclaim_eligible with ⟨s', result, hreclaim, hevaluation, htask⟩
  have heligible : result.retryEvaluation.eligible = true := by
    rw [hevaluation]
  apply h firstAttempt crashReclaim s' result 0 (nextAttempt 30000) hreclaim heligible _
    (schedulers.mem_arrivals_append _ (readTables 1) (.tryNext 1 30000 "lease-2" "worker-2")
      [])
  rw [hevaluation, htask]
  refine ⟨by decide, ?_⟩
  apply @addsLease_of_new _ _ _ "lease-2"
  · decide +kernel
  · decide +kernel

end Scheduling
end CopilotFactory
