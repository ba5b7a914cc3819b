import CopilotFactory.Application.SchedulerService
import CopilotFactory.ControlPlane.PoolEffects
import CopilotFactory.Foundations.Instances
import CopilotFactory.Leasing.Exclusivity

/-!
# Pool capacity

A call of the scheduler reads the pools once and acquires its lease later, in a
transaction that looks at the task but not at the pool.  A pool therefore stays
within its capacity exactly as long as every lease is acquired while its pool
still has a free slot.
-/

namespace CopilotFactory
namespace Scheduling

open Foundations
open Domain
open Infrastructure
open Application
open ControlPlane
open Leasing

/-!
## Calls of the scheduler, side by side

Each step is one transaction of one call, or a request of anyone else.  What a
call has read stays in its phase.
-/

variable {s s' : Store} {leaseId : LeaseId} {now : Millis} {result : LeaseAcquisitionResult}

structure SchedulerTables where
  store : Store
  jobs : JobTable

inductive SchedulerPhase where
  | idle
  /-- The candidates are read. -/
  | candidates (tasks : List SchedulableTask)
  /-- The pools are read, and these candidates are left. -/
  | trying (tasks : List SchedulableTask) (pools : List SchedulablePool)
      (candidatesEvaluated : Nat) (anyPoolHadCapacity : Bool)
  /-- The lease is acquired. -/
  | dispatching (task : SchedulableTask) (pool : SchedulablePool) (leaseId : LeaseId)
      (workerId : WorkerId)

abbrev Schedulers := Instances SchedulerTables SchedulerPhase

inductive SchedulerStep where
  | request (r : Request)
  | readTasks (pid : InstanceId) (candidateLimit : Nat)
  | readPools (pid : InstanceId)
  | tryNext (pid : InstanceId) (now : Millis) (leaseId : LeaseId) (workerId : WorkerId)
  | dispatch (pid : InstanceId) (now : Millis) (jobId : JobId)
  /-- The process stops. -/
  | interrupt (pid : InstanceId)

/-- The compatible pool that a call chooses for a task. -/
def chosenPool (task : SchedulableTask) (pools : List SchedulablePool) :
    Option SchedulablePool :=
  selectBestPool (pools.filter (isPoolCompatible task))

/-- The errors of an acquisition that are expected races. -/
def isContention : ServiceError -> Bool
  | .exclusivityViolation _ _ => true
  | .taskNotReadyForLease _ _ => true
  | _ => false

def tryCandidate (w : Schedulers) (pid : InstanceId) (task : SchedulableTask)
    (rest : List SchedulableTask) (pools : List SchedulablePool) (evaluated : Nat)
    (anyPoolHadCapacity : Bool) (now : Millis) (leaseId : LeaseId) (workerId : WorkerId) :
    Schedulers :=
  match chosenPool task pools with
  | none =>
      w.advance pid w.shared (.trying rest pools (evaluated + 1) anyPoolHadCapacity)
  | some pool =>
      match acquireLease now leaseId (assignmentParams task pool workerId)
          w.shared.store with
      | .ok (s', _) =>
          w.advance pid { w.shared with store := s' }
            (.dispatching task pool leaseId workerId)
      | .error e =>
          if isContention e = true then
            w.advance pid w.shared (.trying rest pools (evaluated + 1) true)
          else
            w.advance pid w.shared .idle

/-- The next state, and the result of the call if the step completes it. -/
def schedule (w : Schedulers) :
    SchedulerStep -> Except ServiceError (Schedulers × Option ScheduleResult)
  | .request r => do
      let s' ← perform w.shared.store r
      pure ({ w with shared := { w.shared with store := s' } }, none)
  | .readTasks pid candidateLimit =>
      match w.phase pid with
      | .idle =>
          match findReadyByPriority candidateLimit w.shared.store with
          | [] => pure (w, some (.notAssigned .noReadyTasks 0))
          | tasks => pure (w.advance pid w.shared (.candidates tasks), none)
      | _ => pure (w, none)
  | .readPools pid =>
      match w.phase pid with
      | .candidates tasks =>
          match findEnabledByType assignmentPoolType w.shared.store with
          | [] =>
              pure (w.advance pid w.shared .idle, some (.notAssigned .noCompatiblePools 0))
          | pools => pure (w.advance pid w.shared (.trying tasks pools 0 false), none)
      | _ => pure (w, none)
  | .tryNext pid now leaseId workerId =>
      match w.phase pid with
      | .trying [] _ evaluated anyPoolHadCapacity =>
          pure (w.advance pid w.shared .idle,
            some (.notAssigned
              (if anyPoolHadCapacity then .allCandidatesContended else .allPoolsAtCapacity)
              evaluated))
      | .trying (task :: rest) pools evaluated anyPoolHadCapacity =>
          pure (tryCandidate w pid task rest pools evaluated anyPoolHadCapacity now leaseId
            workerId, none)
      | _ => pure (w, none)
  | .dispatch pid now jobId =>
      match w.phase pid with
      | .dispatching task pool leaseId workerId =>
          match createJob now jobId (dispatchJobData task pool leaseId workerId)
              w.shared.jobs with
          | .ok (jobs, job) =>
              pure (w.advance pid { w.shared with jobs := jobs } .idle,
                some (.assigned task pool leaseId job.jobId))
          | .error _ => pure (w.advance pid w.shared .idle, none)
      | _ => pure (w, none)
  | .interrupt pid => pure (w.advance pid w.shared .idle, none)

def schedulers : TransitionSystem Schedulers SchedulerStep ServiceError where
  step := fun w a => (schedule w a).map Prod.fst

def noSchedulers : Schedulers where
  shared := { store := .empty, jobs := .empty }
  phase := fun _ => .idle

def ByScheduler : SchedulerStep -> Prop
  | .request (.acquireLease _ _ _) => False
  | _ => True

def WithinCapacity (s : Store) : Prop :=
  forall pool, pool ∈ s.workerPools ->
    s.activeLeaseCount pool.workerPoolId ≤ pool.maxConcurrency

def Acquirable (s : Store) (leaseId : LeaseId) (params : AcquireLeaseParams) : Prop :=
  (exists task, s.findTask params.taskId = some task ∧
    Assignable task.status params.actor) ∧
  s.findActiveByTaskId params.taskId = none ∧ s.findLease leaseId = none ∧
  (s.workerPools.find? params.poolId).isSome = true

/-- If the step acquires a lease, the pool of the lease has a free slot. -/
def TakesFreeSlot (w : Schedulers) : SchedulerStep -> Prop
  | .tryNext pid _ leaseId workerId =>
      forall task rest pools evaluated anyPoolHadCapacity pool row,
        w.phase pid = .trying (task :: rest) pools evaluated anyPoolHadCapacity ->
        chosenPool task pools = some pool ->
        Acquirable w.shared.store leaseId (assignmentParams task pool workerId) ->
        w.shared.store.workerPools.find? pool.poolId = some row ->
        w.shared.store.activeLeaseCount pool.poolId < row.maxConcurrency
  | _ => True

/-!
## Counting active leases
-/

theorem activeLeaseCount_of_leases_eq (h : s'.taskLeases = s.taskLeases) (poolId : PoolId) :
    s'.activeLeaseCount poolId = s.activeLeaseCount poolId := by
  unfold Store.activeLeaseCount Store.countedLeases
  rw [h]

theorem activeLeaseCount_moved {lease : TaskLease} {target : WorkerLeaseStatus}
    {data : TaskLeaseUpdate} (hnoIdle : NoIdleLease s)
    (hlease : s.findLease leaseId = some lease)
    (hguard : (WorkerLease.transitionGuards lease.status target).isSome = true)
    (hdata : data.status = some target)
    (h : s'.taskLeases = (s.writeLease leaseId data).taskLeases) (poolId : PoolId) :
    s'.activeLeaseCount poolId ≤ s.activeLeaseCount poolId := by
  unfold Store.activeLeaseCount Store.countedLeases
  rw [h]
  show ((s.taskLeases.rows.map (fun row =>
    if row.leaseId = leaseId then data.apply row else row)).filter _).length ≤ _
  rw [List.filter_map, List.length_map, ← List.countP_eq_length_filter,
    ← List.countP_eq_length_filter]
  apply List.countP_mono_left
  intro row hrow hcounted
  by_cases hid : row.leaseId = leaseId
  · have hsame : row = lease := by
      have hfind : s.findLease leaseId = some row := by
        rw [← hid]
        exact Table.find?_key_of_mem hrow
      rw [hlease] at hfind
      exact (Option.some.inj hfind).symm
    rw [hsame] at hcounted ⊢
    rw [hsame] at hid
    simp only [Function.comp_apply, if_pos hid, decide_eq_true_eq,
      TaskLeaseUpdate.apply_status, TaskLeaseUpdate.apply_poolId, hdata,
      Option.getD_some] at hcounted ⊢
    exact ⟨active_of_active_target hguard (hnoIdle leaseId lease hlease) hcounted.1,
      hcounted.2⟩
  · simp only [Function.comp_apply, if_neg hid] at hcounted
    exact hcounted

theorem activeLeaseCount_acquired {params : AcquireLeaseParams}
    (h : acquireLease now leaseId params s = .ok (s', result)) (poolId : PoolId) :
    s'.activeLeaseCount poolId =
      s.activeLeaseCount poolId + if params.poolId = poolId then 1 else 0 := by
  rcases acquireLease_spec h with ⟨_, s₁, _, _, _, hcreate, _, hleases⟩
  unfold Store.activeLeaseCount Store.countedLeases
  rw [hleases, (Store.createLease_tables hcreate).1, List.filter_append, List.length_append]
  congr 1
  by_cases hpool : params.poolId = poolId
  · simp [newLease, hpool, Store.activeLeaseStatuses]
  · simp [newLease, hpool]

theorem activeLeaseCount_of_perform {r : Request} (hnoIdle : NoIdleLease s)
    (h : perform s r = .ok s') (hr : ByScheduler (.request r)) (poolId : PoolId) :
    s'.activeLeaseCount poolId ≤ s.activeLeaseCount poolId := by
  by_cases htouches : TouchesLeases r
  · cases r with
    | acquireLease now leaseId params =>
        cases hr
    | transitionLease leaseId target context actor =>
        rcases committed_eq_ok.mp h with ⟨event, h⟩
        rcases transitionLease_spec h with ⟨lease, hlease, hvalid, _, hleases⟩
        exact activeLeaseCount_moved hnoIdle hlease (WorkerLease.step_of_validate hvalid) rfl
          hleases poolId
    | receiveHeartbeat now params =>
        rcases committed_eq_ok.mp h with ⟨result, h⟩
        rcases receiveHeartbeat_spec h with ⟨lease, hlease, hstatus, _, hleases⟩
        exact activeLeaseCount_moved hnoIdle hlease
          (WorkerLease.step_of_validate (validate_heartbeat hstatus params.completing)) rfl
          hleases poolId
    | reclaimLease params =>
        rcases committed_eq_ok.mp h with ⟨result, h⟩
        rcases reclaimLease_spec h with ⟨lease, _, hlease, hstatus, _, hleases, _⟩
        exact activeLeaseCount_moved hnoIdle hlease
          (WorkerLease.step_of_validate (validate_reclaim hstatus params.reason)) rfl
          hleases poolId
    | _ =>
        cases htouches
  · exact Nat.le_of_eq (activeLeaseCount_of_leases_eq (perform_taskLeases h htouches) poolId)

/-!
## One step
-/

theorem activeLeaseCount_of_new {poolId : PoolId} (h : s.workerPools.find? poolId = none) :
    s.activeLeaseCount poolId = 0 := by
  unfold Store.activeLeaseCount
  rw [List.length_eq_zero_iff, List.eq_nil_iff_forall_not_mem]
  intro lease hcounted
  rcases Store.mem_countedLeases.mp hcounted with ⟨hmem, _, hpool⟩
  have hexists := s.leasePool lease hmem
  rw [hpool, h] at hexists
  cases hexists

theorem withinCapacity_request {r : Request} (hnoIdle : NoIdleLease s) (hs : WithinCapacity s)
    (h : perform s r = .ok s') (hr : ByScheduler (.request r)) : WithinCapacity s' := by
  intro pool hpool
  apply Nat.le_trans (activeLeaseCount_of_perform hnoIdle h hr pool.workerPoolId)
  by_cases hcreates : exists new, r = .createWorkerPool new
  · rcases hcreates with ⟨new, hnew⟩
    rw [hnew] at h
    simp only [perform, Store.createWorkerPool] at h
    split at h
    · rename_i hfresh
      cases h
      rcases (Table.mem_insert hfresh).mp hpool with hold | hself
      · exact hs pool hold
      · rw [hself, activeLeaseCount_of_new hfresh]
        exact Nat.zero_le _
    · cases h
  · rw [perform_workerPools h (fun new hnew => hcreates ⟨new, hnew⟩)] at hpool
    exact hs pool hpool

theorem withinCapacity_acquired_iff {params : AcquireLeaseParams} (hs : WithinCapacity s)
    (h : acquireLease now leaseId params s = .ok (s', result)) :
    WithinCapacity s' <->
      forall row, s.workerPools.find? params.poolId = some row ->
        s.activeLeaseCount params.poolId < row.maxConcurrency := by
  have hpools := acquireLease_workerPools h
  constructor
  · intro hwithin row hrow
    have hid : row.workerPoolId = params.poolId := Table.key_of_find? hrow
    have hmem : row ∈ s'.workerPools := by
      rw [hpools]
      exact Table.mem_of_find? hrow
    have hcount := hwithin row hmem
    rw [activeLeaseCount_acquired h, if_pos hid.symm, hid] at hcount
    exact hcount
  · intro hfree pool hpool
    rw [hpools] at hpool
    rw [activeLeaseCount_acquired h]
    by_cases hid : params.poolId = pool.workerPoolId
    · rw [if_pos hid, ← hid]
      apply hfree pool
      rw [hid]
      exact Table.find?_key_of_mem hpool
    · rw [if_neg hid]
      exact hs pool hpool

variable {w : Schedulers} {a : SchedulerStep}

theorem next_of_schedule {w' : Schedulers} {result : Option ScheduleResult}
    (h : schedule w a = .ok (w', result)) : schedulers.next w a = w' := by
  apply schedulers.next_of_ok
  show (schedule w a).map Prod.fst = .ok w'
  rw [h]
  rfl

theorem next_request (w : Schedulers) (r : Request) :
    (schedulers.next w (.request r)).shared.store = controlPlane.next w.shared.store r := by
  cases hperform : perform w.shared.store r with
  | error e =>
      have hstep : schedulers.step w (.request r) = .error e := by
        show (schedule w (.request r)).map Prod.fst = .error e
        simp only [schedule, hperform]
        rfl
      rw [schedulers.next_of_error hstep, controlPlane.next_of_error hperform]
  | ok s' =>
      have hstep : schedule w (.request r) =
          .ok ({ w with shared := { w.shared with store := s' } }, none) := by
        simp only [schedule, hperform]
        rfl
      rw [next_of_schedule hstep, controlPlane.next_of_ok hperform]

theorem next_store (hrequest : forall r, a ≠ .request r)
    (htry : forall pid now leaseId workerId, a ≠ .tryNext pid now leaseId workerId) :
    (schedulers.next w a).shared.store = w.shared.store := by
  cases a with
  | request r =>
      exact absurd rfl (hrequest r)
  | tryNext pid now leaseId workerId =>
      exact absurd rfl (htry pid now leaseId workerId)
  | readTasks pid candidateLimit =>
      have hstep : exists w' result, schedule w (.readTasks pid candidateLimit) =
          .ok (w', result) ∧ w'.shared = w.shared := by
        simp only [schedule]
        split
        · split <;> exact ⟨_, _, rfl, rfl⟩
        · exact ⟨_, _, rfl, rfl⟩
      rcases hstep with ⟨w', result, hstep, hshared⟩
      rw [next_of_schedule hstep, hshared]
  | readPools pid =>
      have hstep : exists w' result, schedule w (.readPools pid) =
          .ok (w', result) ∧ w'.shared = w.shared := by
        simp only [schedule]
        split
        · split <;> exact ⟨_, _, rfl, rfl⟩
        · exact ⟨_, _, rfl, rfl⟩
      rcases hstep with ⟨w', result, hstep, hshared⟩
      rw [next_of_schedule hstep, hshared]
  | dispatch pid now jobId =>
      have hstep : exists w' result, schedule w (.dispatch pid now jobId) =
          .ok (w', result) ∧ w'.shared.store = w.shared.store := by
        simp only [schedule]
        split
        · split <;> exact ⟨_, _, rfl, rfl⟩
        · exact ⟨_, _, rfl, rfl⟩
      rcases hstep with ⟨w', result, hstep, hstore⟩
      rw [next_of_schedule hstep, hstore]
  | interrupt pid =>
      rw [next_of_schedule (w := w) (a := .interrupt pid) rfl]
      rfl

theorem tryCandidate_store (w : Schedulers) (pid : InstanceId) (task : SchedulableTask)
    (rest : List SchedulableTask) (pools : List SchedulablePool) (evaluated : Nat)
    (anyPoolHadCapacity : Bool) (now : Millis) (leaseId : LeaseId) (workerId : WorkerId) :
    (exists pool s' result, chosenPool task pools = some pool ∧
      acquireLease now leaseId (assignmentParams task pool workerId) w.shared.store =
        .ok (s', result) ∧
      (tryCandidate w pid task rest pools evaluated anyPoolHadCapacity now leaseId
        workerId).shared.store = s') ∨
    ((forall pool, chosenPool task pools = some pool ->
      ¬ exists r, acquireLease now leaseId (assignmentParams task pool workerId)
        w.shared.store = .ok r) ∧
      (tryCandidate w pid task rest pools evaluated anyPoolHadCapacity now leaseId
        workerId).shared.store = w.shared.store) := by
  unfold tryCandidate
  cases hpool : chosenPool task pools with
  | none =>
      refine Or.inr ⟨?_, rfl⟩
      intro pool h
      cases h
  | some pool =>
      cases hacquire : acquireLease now leaseId (assignmentParams task pool workerId)
          w.shared.store with
      | ok r =>
          exact Or.inl ⟨pool, r.1, r.2, rfl, hacquire, by simp only [hacquire]; rfl⟩
      | error e =>
          refine Or.inr ⟨?_, ?_⟩
          · intro pool' h hok
            cases h
            rcases hok with ⟨r, hok⟩
            rw [hacquire] at hok
            cases hok
          · simp only [hacquire]
            split <;> rfl

theorem next_tryNext {pid : InstanceId} {task : SchedulableTask} {rest : List SchedulableTask}
    {pools : List SchedulablePool} {evaluated : Nat} {anyPoolHadCapacity : Bool}
    (hphase : w.phase pid = .trying (task :: rest) pools evaluated anyPoolHadCapacity)
    (now : Millis) (leaseId : LeaseId) (workerId : WorkerId) :
    schedulers.next w (.tryNext pid now leaseId workerId) =
      tryCandidate w pid task rest pools evaluated anyPoolHadCapacity now leaseId
        workerId := by
  apply next_of_schedule
  simp only [schedule, hphase]
  rfl

/-- A call without candidates left, or that is elsewhere, leaves the store alone. -/
theorem next_tryNext_of_not {pid : InstanceId}
    (h : forall task rest pools evaluated anyPoolHadCapacity,
      w.phase pid ≠ .trying (task :: rest) pools evaluated anyPoolHadCapacity)
    (now : Millis) (leaseId : LeaseId) (workerId : WorkerId) :
    (schedulers.next w (.tryNext pid now leaseId workerId)).shared.store =
      w.shared.store := by
  have hstep : exists w' result, schedule w (.tryNext pid now leaseId workerId) =
      .ok (w', result) ∧ w'.shared = w.shared := by
    simp only [schedule]
    split
    · exact ⟨_, _, rfl, rfl⟩
    · rename_i hphase
      exact absurd hphase (h _ _ _ _ _)
    · exact ⟨_, _, rfl, rfl⟩
  rcases hstep with ⟨w', result, hstep, hshared⟩
  rw [next_of_schedule hstep, hshared]

theorem noIdleLease_acquired {params : AcquireLeaseParams} (hs : NoIdleLease s)
    (h : acquireLease now leaseId params s = .ok (s', result)) : NoIdleLease s' :=
  noIdleLease_preserved s (.acquireLease now leaseId params) s' trivial hs
    (committed_eq_ok.mpr ⟨result, h⟩)

theorem noIdleLease_next (hw : NoIdleLease w.shared.store) (a : SchedulerStep) :
    NoIdleLease (schedulers.next w a).shared.store := by
  by_cases hrequest : exists r, a = .request r
  · rcases hrequest with ⟨r, hr⟩
    rw [hr, next_request]
    exact noIdleLease_preserved.next trivial hw
  · by_cases htry : exists pid now leaseId workerId, a = .tryNext pid now leaseId workerId
    · rcases htry with ⟨pid, now, leaseId, workerId, ha⟩
      rw [ha]
      by_cases hphase : exists task rest pools evaluated anyPoolHadCapacity,
          w.phase pid = .trying (task :: rest) pools evaluated anyPoolHadCapacity
      · rcases hphase with ⟨task, rest, pools, evaluated, any, hphase⟩
        rw [next_tryNext hphase]
        rcases tryCandidate_store w pid task rest pools evaluated any now leaseId workerId
          with ⟨pool, s', result, _, hacquire, hstore⟩ | ⟨_, hstore⟩
        · rw [hstore]
          exact noIdleLease_acquired hw hacquire
        · rw [hstore]
          exact hw
      · rw [next_tryNext_of_not (fun task rest pools evaluated any h =>
          hphase ⟨task, rest, pools, evaluated, any, h⟩)]
        exact hw
    · rw [next_store (fun r hr => hrequest ⟨r, hr⟩)
        (fun pid now leaseId workerId ha => htry ⟨pid, now, leaseId, workerId, ha⟩)]
      exact hw

/-- A step of a call that tries its next candidate keeps all pools within their capacity
exactly if the lease that it acquires, if any, takes a free slot. -/
theorem withinCapacity_tryNext_iff (hw : WithinCapacity w.shared.store) (pid : InstanceId)
    (now : Millis) (leaseId : LeaseId) (workerId : WorkerId) :
    WithinCapacity (schedulers.next w (.tryNext pid now leaseId workerId)).shared.store <->
      TakesFreeSlot w (.tryNext pid now leaseId workerId) := by
  by_cases hphase : exists task rest pools evaluated anyPoolHadCapacity,
      w.phase pid = .trying (task :: rest) pools evaluated anyPoolHadCapacity
  · rcases hphase with ⟨task, rest, pools, evaluated, any, hphase⟩
    rw [next_tryNext hphase]
    rcases tryCandidate_store w pid task rest pools evaluated any now leaseId workerId
      with ⟨pool, s', result, hpool, hacquire, hstore⟩ | ⟨hrefused, hstore⟩
    · rw [hstore, withinCapacity_acquired_iff hw hacquire]
      constructor
      · intro hfree task' rest' pools' evaluated' any' pool' row hphase' hpool' _ hrow
        rw [hphase] at hphase'
        cases hphase'
        rw [hpool] at hpool'
        cases hpool'
        exact hfree row hrow
      · intro hfree row hrow
        exact hfree task rest pools evaluated any pool row hphase hpool
          (acquireLease_accepted_iff.mp ⟨_, hacquire⟩) hrow
    · rw [hstore]
      constructor
      · intro _ task' rest' pools' evaluated' any' pool' row hphase' hpool' hacquirable _
        rw [hphase] at hphase'
        cases hphase'
        exact absurd (acquireLease_accepted_iff.mpr hacquirable) (hrefused pool' hpool')
      · intro _
        exact hw
  · have hnot : forall task rest pools evaluated anyPoolHadCapacity,
        w.phase pid ≠ .trying (task :: rest) pools evaluated anyPoolHadCapacity :=
      fun task rest pools evaluated any h => hphase ⟨task, rest, pools, evaluated, any, h⟩
    rw [next_tryNext_of_not hnot]
    constructor
    · intro _ task rest pools evaluated any pool row h
      exact absurd h (hnot task rest pools evaluated any)
    · intro _
      exact hw

theorem withinCapacity_next_iff (ha : ByScheduler a) (hnoIdle : NoIdleLease w.shared.store)
    (hw : WithinCapacity w.shared.store) :
    WithinCapacity (schedulers.next w a).shared.store <-> TakesFreeSlot w a := by
  cases a with
  | tryNext pid now leaseId workerId =>
      exact withinCapacity_tryNext_iff hw pid now leaseId workerId
  | request r =>
      refine ⟨fun _ => trivial, fun _ => ?_⟩
      rw [next_request]
      refine controlPlane.next_cases hw ?_
      intro s' hperform
      exact withinCapacity_request hnoIdle hw hperform ha
  | readTasks pid candidateLimit | readPools pid | dispatch pid now jobId | interrupt pid =>
      refine ⟨fun _ => trivial, fun _ => ?_⟩
      rw [next_store (fun r h => by cases h) (fun pid now leaseId workerId h => by cases h)]
      exact hw

/-!
## Every run
-/

theorem withinCapacity_empty : WithinCapacity Store.empty := by
  intro pool hpool
  exact absurd hpool (Table.not_mem_empty pool)

/-- Whatever the interleaving, all pools stay within their capacity exactly if every lease
is acquired while its pool has a free slot. -/
theorem pools_within_capacity_iff (steps : List SchedulerStep)
    (h : forall a, a ∈ steps -> ByScheduler a) :
    (forall w, w ∈ schedulers.states noSchedulers steps -> WithinCapacity w.shared.store) <->
      forall x, x ∈ schedulers.arrivals noSchedulers steps -> TakesFreeSlot x.1 x.2 := by
  apply TransitionSystem.states_iff_arrivals ByScheduler
    (fun w : Schedulers => NoIdleLease w.shared.store)
    (fun w : Schedulers => WithinCapacity w.shared.store) TakesFreeSlot
  · intro w a w' _ hnoIdle hstep
    have hnext := noIdleLease_next hnoIdle a
    rw [schedulers.next_of_ok hstep] at hnext
    exact hnext
  · intro w a ha hnoIdle hw
    exact withinCapacity_next_iff ha hnoIdle hw
  · exact h
  · exact noIdleLease_empty
  · exact withinCapacity_empty

/-!
## A pool with one slot

With two ready tasks.  When two calls read the pool before either of them
acquires a lease, the second call finds the first task taken and goes on to the
second one, with the counts it has read.
-/

def readyTask (taskId : TaskId) : List SchedulerStep :=
  [.request (.createTask
      { taskId := taskId, repositoryId := "repo-1", taskType := "feature",
        priority := "high" }),
    .request (.transitionTask taskId .ready
      { allDependenciesResolved := some true, hasPolicyBlockers := some false }
      schedulerActor)]

def oneSlotPool : List SchedulerStep :=
  .request (.createWorkerPool { workerPoolId := "pool-1", maxConcurrency := 1 }) ::
    (readyTask "task-1" ++ readyTask "task-2")

def readTables (pid : InstanceId) : List SchedulerStep :=
  [.readTasks pid 50, .readPools pid]

def oneCall : List SchedulerStep :=
  oneSlotPool ++
    (readTables 1 ++ [.tryNext 1 0 "lease-1" "worker-1", .dispatch 1 0 "job-1"])

theorem one_call_within_capacity :
    (forall w, w ∈ schedulers.states noSchedulers oneCall ->
      WithinCapacity w.shared.store) ∧
    ((schedulers.run noSchedulers oneCall).shared.store.findLease "lease-1").isSome =
      true := by
  constructor
  · apply (pools_within_capacity_iff _ _).mpr
    · intro x hx
      rw [oneCall, TransitionSystem.arrivals_append, TransitionSystem.arrivals_append,
        ← List.append_assoc, List.mem_append] at hx
      rcases hx with hx | hx
      · simp only [oneSlotPool, readyTask, readTables, List.cons_append, List.nil_append,
          TransitionSystem.arrivals, List.mem_cons, List.not_mem_nil, or_false] at hx
        rcases hx with hx | hx | hx | hx | hx | hx | hx <;> rw [hx] <;> trivial
      · simp only [TransitionSystem.arrivals, List.mem_cons, List.not_mem_nil, or_false] at hx
        rcases hx with hx | hx
        · rw [hx]
          intro task rest pools evaluated any pool row _ _ _ hrow
          have hfree : (schedulers.run (schedulers.run noSchedulers oneSlotPool)
              (readTables 1)).shared.store.taskLeases.rows = [] := by
            decide +kernel
          have hslots : forall r,
              r ∈ (schedulers.run (schedulers.run noSchedulers oneSlotPool)
                (readTables 1)).shared.store.workerPools.rows -> 0 < r.maxConcurrency := by
            decide +kernel
          have hcount : (schedulers.run (schedulers.run noSchedulers oneSlotPool)
              (readTables 1)).shared.store.activeLeaseCount pool.poolId = 0 := by
            unfold Store.activeLeaseCount Store.countedLeases
            rw [hfree]
            rfl
          rw [hcount]
          exact hslots row (Table.mem_of_find? hrow)
        · rw [hx]
          trivial
    · intro a ha
      simp only [oneCall, oneSlotPool, readyTask, readTables, List.cons_append,
        List.nil_append, List.mem_cons, List.not_mem_nil, or_false] at ha
      rcases ha with ha | ha | ha | ha | ha | ha | ha | ha | ha <;> rw [ha] <;> trivial
  · decide +kernel

def overlappingCalls : List SchedulerStep :=
  oneSlotPool ++ (readTables 1 ++ readTables 2) ++
    [.tryNext 1 0 "lease-1" "worker-1", .tryNext 2 0 "lease-2" "worker-2",
      .tryNext 2 0 "lease-3" "worker-3"]

theorem overlapping_calls_exceed_capacity :
    ¬ forall w, w ∈ schedulers.states noSchedulers overlappingCalls ->
      WithinCapacity w.shared.store := by
  intro h
  have hlast := h _ (schedulers.run_mem_states noSchedulers overlappingCalls)
  have hcount : (schedulers.run noSchedulers overlappingCalls).shared.store.activeLeaseCount
      "pool-1" = 2 := by
    decide +kernel
  have hpool : (schedulers.run noSchedulers overlappingCalls).shared.store.workerPools.find?
      "pool-1" = some { workerPoolId := "pool-1", maxConcurrency := 1 } := by
    decide +kernel
  have hwithin := hlast _ (Table.mem_of_find? hpool)
  rw [hcount] at hwithin
  exact absurd hwithin (by decide)

end Scheduling
end CopilotFactory
