import CopilotFactory.Scheduling.PoolCapacity
import CopilotFactory.Scheduling.RecurringJobs

/-!
# Scheduler tick

A tick calls the scheduler again and again until a call assigns nothing.  Here the calls
run one after the other, with nobody else between their transactions.
-/

namespace CopilotFactory
namespace Scheduling

open Foundations
open Infrastructure
open Application

/-!
## A call of the scheduler
-/

variable {w : Schedulers} {pid : InstanceId} {t' : SchedulerTables} {attempts : Nat}

/-- What the clock and the id generators give to one attempt to assign a task. -/
structure Readings where
  now : Millis
  leaseId : LeaseId
  workerId : WorkerId
  jobId : JobId

def tryCandidates (readings : Nat -> Readings) (pools : List SchedulablePool) :
    List SchedulableTask -> Nat -> Bool -> Nat -> SchedulerTables ->
      Except ServiceError (SchedulerTables × Nat × ScheduleResult)
  | [], evaluated, anyPoolHadCapacity, attempts, w =>
      .ok (w, attempts, .notAssigned
        (if anyPoolHadCapacity then .allCandidatesContended else .allPoolsAtCapacity)
        evaluated)
  | task :: rest, evaluated, anyPoolHadCapacity, attempts, w =>
      match chosenPool task pools with
      | none =>
          tryCandidates readings pools rest (evaluated + 1) anyPoolHadCapacity attempts w
      | some pool =>
          let reading := readings attempts
          match acquireLease reading.now reading.leaseId
              (assignmentParams task pool reading.workerId) w.store with
          | .ok (s', _) => do
              let (jobs, job) ← createJob reading.now reading.jobId
                (dispatchJobData task pool reading.leaseId reading.workerId) w.jobs
              pure ({ store := s', jobs := jobs }, attempts + 1,
                .assigned task pool reading.leaseId job.jobId)
          | .error e =>
              if isContention e = true then
                tryCandidates readings pools rest (evaluated + 1) true (attempts + 1) w
              else
                .error e

def scheduleNext (readings : Nat -> Readings) (candidateLimit attempts : Nat)
    (w : SchedulerTables) : Except ServiceError (SchedulerTables × Nat × ScheduleResult) :=
  match findReadyByPriority candidateLimit w.store with
  | [] => .ok (w, attempts, .notAssigned .noReadyTasks 0)
  | tasks =>
      match findEnabledByType assignmentPoolType w.store with
      | [] => .ok (w, attempts, .notAssigned .noCompatiblePools 0)
      | pools => tryCandidates readings pools tasks 0 false attempts w

/-!
## A tick
-/

structure TickAssignmentSummary where
  assignmentCount : Nat
  stopReason : ScheduleSkipReason
deriving DecidableEq

/-- The loop ends with the first call that assigns nothing.  `none` when the fuel does not
last so long. -/
def runSchedulingLoop (readings : Nat -> Readings) (candidateLimit : Nat) :
    Nat -> Nat -> Nat -> SchedulerTables ->
      Option (Except ServiceError (SchedulerTables × TickAssignmentSummary))
  | 0, _, _, _ => none
  | fuel + 1, assignmentCount, attempts, w =>
      match scheduleNext readings candidateLimit attempts w with
      | .error e => some (.error e)
      | .ok (w', attempts', .assigned _ _ _ _) =>
          runSchedulingLoop readings candidateLimit fuel (assignmentCount + 1) attempts' w'
      | .ok (w', _, .notAssigned reason _) =>
          some (.ok (w', { assignmentCount := assignmentCount, stopReason := reason }))

def readyCount (s : Store) : Nat :=
  s.tasks.rows.countP (fun task => task.status = .ready)

inductive ProcessTickResult where
  | notProcessed
  | processed (tickJobId : JobId) (summary : TickAssignmentSummary) (nextTickJobId : JobId)
deriving DecidableEq

/-- The tick is claimed at one time, and the next one is planned and created at others. -/
def processTick (config : SchedulerTickConfig) (candidateLimit : Nat)
    (readings : Nat -> Readings) (claimedAt reading createdAt : Millis) (nextTickJobId : JobId)
    (w : SchedulerTables) : Option (Except ServiceError (SchedulerTables × ProcessTickResult)) :=
  let service := schedulerTickService config
  match claimJob service.jobType service.leaseOwner claimedAt w.jobs with
  | none => some (.ok (w, .notProcessed))
  | some (jobs, job) =>
      match runSchedulingLoop readings candidateLimit (readyCount w.store + 1) 0 0
          { w with jobs := jobs } with
      | none => none
      | some loop => some (do
          let (w, summary) ← loop
          let (jobs, _) ← completeJob job.jobId w.jobs
          let (jobs, next) ← createJob createdAt nextTickJobId (nextJob service reading) jobs
          pure ({ w with jobs := jobs }, .processed job.jobId summary next.jobId))

/-!
## A call is a run of its transactions
-/

def SchedulerStep.CallOf (pid : InstanceId) : SchedulerStep -> Prop
  | .readTasks other _ => other = pid
  | .readPools other => other = pid
  | .tryNext other _ _ _ => other = pid
  | .dispatch other _ _ => other = pid
  | _ => False

/-- With steps of its own calls the instance leaves the tables behind, and is idle. -/
def Leaves (w : Schedulers) (pid : InstanceId) (t' : SchedulerTables) : Prop :=
  exists steps, (forall x, x ∈ steps -> SchedulerStep.CallOf pid x) ∧
    schedulers.run w steps = w.advance pid t' .idle

theorem leaves_append {t : SchedulerTables} {phase : SchedulerPhase}
    (first : List SchedulerStep) (hfirst : forall x, x ∈ first -> SchedulerStep.CallOf pid x)
    (hrun : schedulers.run w first = w.advance pid t phase)
    (h : Leaves (w.advance pid t phase) pid t') : Leaves w pid t' := by
  rcases h with ⟨steps, hsteps, hend⟩
  refine ⟨first ++ steps, List.forall_mem_append.mpr ⟨hfirst, hsteps⟩, ?_⟩
  rw [TransitionSystem.run_append, hrun, hend, Instances.advance_advance]

variable {readings : Nat -> Readings}

/-- An instance whose phase holds the candidates goes on as the loop does. -/
theorem tryCandidates_run {pools : List SchedulablePool} {tasks : List SchedulableTask}
    {evaluated attempts' : Nat} {anyPoolHadCapacity : Bool} {t : SchedulerTables}
    {result : ScheduleResult}
    (h : tryCandidates readings pools tasks evaluated anyPoolHadCapacity attempts t =
      .ok (t', attempts', result))
    (hshared : w.shared = t)
    (hphase : w.phase pid = .trying tasks pools evaluated anyPoolHadCapacity) :
    Leaves w pid t' := by
  induction tasks generalizing evaluated anyPoolHadCapacity attempts w t with
  | nil =>
      cases h
      refine ⟨[.tryNext pid 0 "" ""], by simp [SchedulerStep.CallOf], ?_⟩
      rw [TransitionSystem.run_cons, TransitionSystem.run_nil, ← hshared]
      apply next_of_schedule
      simp only [schedule, hphase]
      rfl
  | cons task rest ih =>
      have hskip : forall evaluated anyPoolHadCapacity attempts now leaseId workerId,
          schedulers.next w (.tryNext pid now leaseId workerId) =
            w.advance pid w.shared (.trying rest pools evaluated anyPoolHadCapacity) ->
          tryCandidates readings pools rest evaluated anyPoolHadCapacity attempts t =
            .ok (t', attempts', result) ->
          Leaves w pid t' := by
        intro evaluated anyPoolHadCapacity attempts now leaseId workerId hnext hrest
        apply leaves_append [.tryNext pid now leaseId workerId] _ hnext
        · apply ih hrest
          · exact hshared
          · exact Instances.advance_phase_self w pid w.shared _
        · simp [SchedulerStep.CallOf]
      unfold tryCandidates at h
      cases hpool : chosenPool task pools with
      | none =>
          rw [hpool] at h
          apply hskip _ _ _ 0 "" "" _ h
          rw [next_tryNext hphase]
          simp only [tryCandidate, hpool]
      | some pool =>
          simp only [hpool] at h
          have hnext := next_tryNext hphase (readings attempts).now
            (readings attempts).leaseId (readings attempts).workerId
          simp only [tryCandidate, hpool, hshared] at hnext
          split at h
          · rename_i s' acquired hacquire
            rcases bind_eq_ok.mp h with ⟨⟨jobs, job⟩, hcreate, h⟩
            cases h
            rw [hacquire] at hnext
            refine ⟨[.tryNext pid (readings attempts).now (readings attempts).leaseId
                (readings attempts).workerId,
              .dispatch pid (readings attempts).now (readings attempts).jobId],
              by simp [SchedulerStep.CallOf], ?_⟩
            rw [TransitionSystem.run_cons, hnext, TransitionSystem.run_cons,
              TransitionSystem.run_nil]
            apply next_of_schedule
            simp only [schedule, Instances.advance_phase_self, Instances.advance_shared,
              hcreate]
            rw [Instances.advance_advance]
            rfl
          · rename_i e hacquire
            rw [hacquire] at hnext
            split at h
            · rename_i hcontention
              apply hskip _ _ _ (readings attempts).now (readings attempts).leaseId
                (readings attempts).workerId _ h
              rw [hnext]
              simp only [if_pos hcontention, hshared]
            · cases h

theorem scheduleNext_run {candidateLimit attempts' : Nat} {result : ScheduleResult}
    (hphase : w.phase pid = .idle)
    (h : scheduleNext readings candidateLimit attempts w.shared = .ok (t', attempts', result)) :
    Leaves w pid t' := by
  unfold scheduleNext at h
  cases hread : findReadyByPriority candidateLimit w.shared.store with
  | nil =>
      rw [hread] at h
      cases h
      refine ⟨[], by simp, ?_⟩
      rw [TransitionSystem.run_nil, ← hphase, Instances.advance_self]
  | cons task rest =>
      simp only [hread] at h
      have htasks : schedulers.next w (.readTasks pid candidateLimit) =
          w.advance pid w.shared (.candidates (task :: rest)) := by
        apply next_of_schedule
        simp only [schedule, hphase, hread]
        rfl
      apply leaves_append [.readTasks pid candidateLimit]
        (by simp [SchedulerStep.CallOf]) htasks
      cases henabled : findEnabledByType assignmentPoolType w.shared.store with
      | nil =>
          rw [henabled] at h
          cases h
          refine ⟨[.readPools pid], by simp [SchedulerStep.CallOf], ?_⟩
          apply next_of_schedule
          simp only [schedule, Instances.advance_phase_self, Instances.advance_shared, henabled]
          rfl
      | cons pool others =>
          simp only [henabled] at h
          let reading := w.advance pid w.shared (.candidates (task :: rest))
          have hpools : schedulers.next reading (.readPools pid) = reading.advance pid w.shared
              (.trying (task :: rest) (pool :: others) 0 false) := by
            apply next_of_schedule
            simp only [schedule, reading, Instances.advance_phase_self,
              Instances.advance_shared, henabled]
            rfl
          apply leaves_append [.readPools pid] (by simp [SchedulerStep.CallOf]) hpools
          exact tryCandidates_run h rfl (Instances.advance_phase_self reading pid w.shared _)

/-- The calls of a tick, one after the other, are a run in which nobody else takes a step. -/
theorem runSchedulingLoop_run {candidateLimit fuel : Nat} {assignmentCount : Nat}
    {summary : TickAssignmentSummary} (hphase : w.phase pid = .idle)
    (h : runSchedulingLoop readings candidateLimit fuel assignmentCount attempts w.shared =
      some (.ok (t', summary))) :
    Leaves w pid t' := by
  induction fuel generalizing assignmentCount attempts w with
  | zero =>
      cases h
  | succ fuel ih =>
      unfold runSchedulingLoop at h
      split at h
      · cases h
      · rename_i between attempts' _ _ _ _ hcall
        rcases scheduleNext_run hphase hcall with ⟨steps, hsteps, hrun⟩
        apply leaves_append steps hsteps hrun
        exact ih (Instances.advance_phase_self w pid between _) h
      · rename_i hcall
        cases h
        exact scheduleNext_run hphase hcall

/-- The tick assigns one of two tasks to the one slot. -/
theorem runSchedulingLoop_run_oneSlot : exists t',
    Leaves (schedulers.run noSchedulers oneSlotPool) 1 t' := by
  let w := schedulers.run noSchedulers oneSlotPool
  let readings (n : Nat) : Readings :=
    { now := 0, leaseId := s!"lease-{n}", workerId := "worker-1", jobId := s!"job-{n}" }
  have hloop : ((runSchedulingLoop readings 50 3 0 0 w.shared).bind
      Except.toOption).map (fun r => r.2.assignmentCount) = some 1 := by
    decide +kernel
  rcases Option.map_eq_some_iff.mp hloop with ⟨⟨t', summary⟩, hsome, _⟩
  rcases Option.bind_eq_some_iff.mp hsome with ⟨outcome, houtcome, hok⟩
  rw [toOption_eq_some] at hok
  rw [hok] at houtcome
  exact ⟨t', runSchedulingLoop_run rfl houtcome⟩

end Scheduling
end CopilotFactory
