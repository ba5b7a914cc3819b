import CopilotFactory.Application.WorkspaceReconciliation
import CopilotFactory.Foundations.Instances
import CopilotFactory.Foundations.TransitionSystem

/-!
# Recurring jobs

The scheduler tick, the reconciliation sweep and the workspace reconciliation
keep themselves going in the same way: a run claims a job, does its work,
completes the job and creates the next one.  Each of these is a transaction of
its own, and so are the two halves of the initialization.
-/

namespace CopilotFactory
namespace Scheduling

open Foundations
open Infrastructure
open Application

variable {pid : InstanceId} {jobs : JobTable}

/-- What the work of a run may do to the job table: `scheduleNext` creates the dispatch
job of an assignment, and the reconciliation sweep fails orphaned jobs. -/
inductive JobWork where
  | dispatch (now : Millis) (jobId : JobId) (payload : DispatchPayload)
  | failOrphan (jobId : JobId)

structure RecurringService where
  jobType : JobType
  leaseOwner : String
  intervalMs : Millis
  /-- Whether the work of a run does this. -/
  works : JobWork -> Bool
  /-- A service never queues its own jobs as dispatch jobs. -/
  notDispatch : jobType ≠ .workerDispatch

/-!
## The three services
-/

structure SchedulerTickConfig where
  tickIntervalMs : Millis := 5000
  leaseOwner : String := "scheduler-tick"

def schedulerTickService (config : SchedulerTickConfig) : RecurringService where
  jobType := .schedulerTick
  leaseOwner := config.leaseOwner
  intervalMs := config.tickIntervalMs
  works := fun work =>
    match work with
    | .dispatch _ _ _ => true
    | .failOrphan _ => false
  notDispatch := by decide

structure ReconciliationSweepConfig where
  sweepIntervalMs : Millis := 60000
  leaseOwner : String := "reconciliation-sweep"

def reconciliationSweepService (config : ReconciliationSweepConfig) : RecurringService where
  jobType := .reconciliationSweep
  leaseOwner := config.leaseOwner
  intervalMs := config.sweepIntervalMs
  works := fun work =>
    match work with
    | .dispatch _ _ _ => false
    | .failOrphan _ => true
  notDispatch := by decide

def workspaceReconciliationService (config : WorkspaceReconciliationConfig) :
    RecurringService where
  jobType := .cleanup
  leaseOwner := config.leaseOwner
  intervalMs := config.reconciliationIntervalMs
  works := fun _ => false
  notDispatch := by decide

/-!
## The calls
-/

def jobNonTerminalStatuses : List JobStatus :=
  [.pending, .claimed, .running]

def liveJobs (jobType : JobType) (jobs : JobTable) : List Job :=
  jobs.rows.filter (fun job => job.jobType = jobType ∧ job.status ∈ jobNonTerminalStatuses)

def countNonTerminalByType (jobType : JobType) (jobs : JobTable) : Nat :=
  (liveJobs jobType jobs).length

inductive CallResult where
  | initialized (jobId : Option JobId)
  | skipped
  | processed (jobId nextJobId : JobId)
deriving DecidableEq

def firstJob (service : RecurringService) : CreateJobData where
  jobType := service.jobType

/-- The next job of a chain, due an interval after the reading of the clock. -/
def nextJob (service : RecurringService) (reading : Millis) : CreateJobData where
  jobType := service.jobType
  runAfter := some (reading + service.intervalMs)

def initializeChain (service : RecurringService) (now : Millis) (jobId : JobId)
    (jobs : JobTable) : Except ServiceError (JobTable × CallResult) :=
  if 0 < countNonTerminalByType service.jobType jobs then
    .ok (jobs, .initialized none)
  else do
    let (jobs, job) ← createJob now jobId (firstJob service) jobs
    pure (jobs, .initialized (some job.jobId))

/-- What the work of a run does to the job table.  The errors of `failJob` are dropped,
those of `createJob` are thrown. -/
def JobWork.run (jobs : JobTable) : JobWork -> Except ServiceError JobTable
  | .dispatch now jobId payload =>
      (createJob now jobId { jobType := .workerDispatch, payload := some payload } jobs).map
        Prod.fst
  | .failOrphan jobId =>
      match failJob jobId jobs with
      | .ok (jobs, _) => .ok jobs
      | .error _ => .ok jobs

def runWork : List JobWork -> JobTable -> Except ServiceError JobTable
  | [], jobs => .ok jobs
  | work :: rest, jobs => do
      let jobs ← work.run jobs
      runWork rest jobs

/-- `processTick`, `processSweep` and `processReconciliation`, as far as jobs go. -/
def processChain (service : RecurringService) (claimedAt : Millis) (work : List JobWork)
    (reading now : Millis) (nextJobId : JobId) (jobs : JobTable) :
    Except ServiceError (JobTable × CallResult) :=
  match claimJob service.jobType service.leaseOwner claimedAt jobs with
  | none => .ok (jobs, .skipped)
  | some (jobs, job) => do
      let jobs ← runWork work jobs
      let (jobs, _) ← completeJob job.jobId jobs
      let (jobs, next) ← createJob now nextJobId (nextJob service reading) jobs
      pure (jobs, .processed job.jobId next.jobId)

/-!
## Calls that interleave

An instance is in one call at a time, and each step is one of its transactions.
A call that throws, and a process that stops, leave the instance idle and
everything that is committed as it is.
-/

inductive Phase where
  | idle
  /-- `initialize` has counted no job and is about to create one. -/
  | seeding
  /-- A job is claimed and the work is under way. -/
  | working (jobId : JobId)
  /-- The job is completed and the next one is about to be created. -/
  | renewing (jobId : JobId)
deriving DecidableEq

inductive CallStep where
  | count (pid : InstanceId)
  | seed (pid : InstanceId) (now : Millis) (jobId : JobId)
  | claim (pid : InstanceId) (now : Millis)
  | work (pid : InstanceId) (work : JobWork)
  | complete (pid : InstanceId)
  | renew (pid : InstanceId) (reading now : Millis) (jobId : JobId)
  /-- The process stops, or what it does next throws. -/
  | interrupt (pid : InstanceId)

abbrev Chain := Instances JobTable Phase

/-- The next state, and the result of the call if the step completes it. -/
def perform (service : RecurringService) (w : Chain) : CallStep -> Chain × Option CallResult
  | .count pid =>
      match w.phase pid with
      | .idle =>
          if 0 < countNonTerminalByType service.jobType w.shared then
            (w, some (.initialized none))
          else
            (w.advance pid w.shared .seeding, none)
      | _ => (w, none)
  | .seed pid now jobId =>
      match w.phase pid with
      | .seeding =>
          match createJob now jobId (firstJob service) w.shared with
          | .ok (jobs, job) => (w.advance pid jobs .idle, some (.initialized (some job.jobId)))
          | .error _ => (w.advance pid w.shared .idle, none)
      | _ => (w, none)
  | .claim pid now =>
      match w.phase pid with
      | .idle =>
          match claimJob service.jobType service.leaseOwner now w.shared with
          | some (jobs, job) => (w.advance pid jobs (.working job.jobId), none)
          | none => (w, some .skipped)
      | _ => (w, none)
  | .work pid work =>
      match w.phase pid with
      | .working jobId =>
          if service.works work = true then
            match work.run w.shared with
            | .ok jobs => (w.advance pid jobs (.working jobId), none)
            | .error _ => (w.advance pid w.shared .idle, none)
          else
            (w, none)
      | _ => (w, none)
  | .complete pid =>
      match w.phase pid with
      | .working jobId =>
          match completeJob jobId w.shared with
          | .ok (jobs, _) => (w.advance pid jobs (.renewing jobId), none)
          | .error _ => (w.advance pid w.shared .idle, none)
      | _ => (w, none)
  | .renew pid reading now nextJobId =>
      match w.phase pid with
      | .renewing jobId =>
          match createJob now nextJobId (nextJob service reading) w.shared with
          | .ok (jobs, next) =>
              (w.advance pid jobs .idle, some (.processed jobId next.jobId))
          | .error _ => (w.advance pid w.shared .idle, none)
      | _ => (w, none)
  | .interrupt pid => (w.advance pid w.shared .idle, none)

def callSystem (service : RecurringService) : TransitionSystem Chain CallStep Empty where
  step := fun w a => .ok (perform service w a).1

/-- An empty job table, and no call under way. -/
def start : Chain where
  shared := .empty
  phase := fun _ => .idle

@[simp] theorem next_eq (service : RecurringService) (w : Chain) (a : CallStep) :
    (callSystem service).next w a = (perform service w a).1 :=
  rfl

/-!
## Calls that nobody interrupts

The steps of a call, one after the other, are the call.
-/

variable {service : RecurringService} {w : Chain}

theorem run_initializeChain (hidle : w.phase pid = .idle) {now : Millis} {jobId : JobId}
    {result : CallResult} (h : initializeChain service now jobId w.shared = .ok (jobs, result)) :
    ((callSystem service).run w [.count pid, .seed pid now jobId]).shared = jobs := by
  unfold initializeChain at h
  simp only [TransitionSystem.run_cons, TransitionSystem.run_nil, next_eq, perform, hidle]
  by_cases hcount : 0 < countNonTerminalByType service.jobType w.shared
  · rw [if_pos hcount] at h ⊢
    cases h
    simp only [hidle]
  · rw [if_neg hcount] at h ⊢
    rcases bind_eq_ok.mp h with ⟨⟨created, job⟩, hcreate, h⟩
    cases h
    simp only [Instances.advance_phase_self, Instances.advance_shared, hcreate]

theorem run_work {jobId : JobId} (hworking : w.phase pid = .working jobId) {work : List JobWork}
    (hallowed : forall op, op ∈ work -> service.works op = true)
    (h : runWork work w.shared = .ok jobs) :
    (callSystem service).run w (work.map (CallStep.work pid)) =
      w.advance pid jobs (.working jobId) := by
  induction work generalizing w with
  | nil =>
      cases h
      rw [← hworking, Instances.advance_self]
      rfl
  | cons op rest ih =>
      rcases bind_eq_ok.mp h with ⟨jobs₁, hop, hrest⟩
      have hnext : (callSystem service).next w (.work pid op) =
          w.advance pid jobs₁ (.working jobId) := by
        simp only [next_eq, perform, hworking, hallowed op List.mem_cons_self, hop, if_pos]
      rw [List.map_cons, TransitionSystem.run_cons, hnext,
        ih (Instances.advance_phase_self _ _ _ _)
          (fun op' hop' => hallowed op' (List.mem_cons_of_mem op hop')) hrest,
        Instances.advance_advance]

theorem run_processChain (hidle : w.phase pid = .idle) {claimedAt reading now : Millis}
    {work : List JobWork} (hallowed : forall op, op ∈ work -> service.works op = true)
    {nextJobId : JobId} {job : JobId} {next : JobId}
    (h : processChain service claimedAt work reading now nextJobId w.shared =
      .ok (jobs, .processed job next)) :
    ((callSystem service).run w
      (.claim pid claimedAt :: work.map (CallStep.work pid) ++
        [.complete pid, .renew pid reading now nextJobId])).shared = jobs := by
  unfold processChain at h
  cases hclaim : claimJob service.jobType service.leaseOwner claimedAt w.shared with
  | none =>
      rw [hclaim] at h
      cases h
  | some claimed =>
      rw [hclaim] at h
      rcases bind_eq_ok.mp h with ⟨jobs₂, hwork, h⟩
      rcases bind_eq_ok.mp h with ⟨⟨jobs₃, _⟩, hcomplete, h⟩
      rcases bind_eq_ok.mp h with ⟨⟨jobs₄, created⟩, hcreate, h⟩
      cases h
      have hfirst : (callSystem service).next w (.claim pid claimedAt) =
          w.advance pid claimed.1 (.working claimed.2.jobId) := by
        simp only [next_eq, perform, hidle, hclaim]
      rw [List.cons_append, TransitionSystem.run_cons, hfirst, TransitionSystem.run_append,
        run_work (Instances.advance_phase_self _ _ _ _) hallowed hwork]
      simp only [TransitionSystem.run_cons, TransitionSystem.run_nil, next_eq, perform,
        Instances.advance_phase_self, Instances.advance_shared, hcomplete, hcreate]

theorem processReconciliation_jobs (ports : ReconciliationPorts)
    (config : WorkspaceReconciliationConfig) (now : Millis) (nextJobId : JobId)
    (jobs : JobTable) :
    (processReconciliation ports config now nextJobId jobs).result.map Prod.fst =
      (processChain (workspaceReconciliationService config) now [] now now nextJobId
        jobs).map Prod.fst := by
  unfold processReconciliation processChain
  change _ = ((match claimJob .cleanup config.leaseOwner now jobs with
    | none => .ok (jobs, .skipped)
    | some (jobs, job) => _) : Except ServiceError (JobTable × CallResult)).map Prod.fst
  cases claimJob .cleanup config.leaseOwner now jobs with
  | none =>
      rfl
  | some claimed =>
      change (completeJob claimed.2.jobId claimed.1 >>= fun r => _).map Prod.fst =
        (completeJob claimed.2.jobId claimed.1 >>= fun r => _).map Prod.fst
      cases completeJob claimed.2.jobId claimed.1 with
      | error e =>
          rfl
      | ok completed =>
          change (createJob now nextJobId (nextJob (workspaceReconciliationService config) now)
              completed.1 >>= fun r => _).map Prod.fst =
            (createJob now nextJobId (nextJob (workspaceReconciliationService config) now)
              completed.1 >>= fun r => _).map Prod.fst
          cases createJob now nextJobId (nextJob (workspaceReconciliationService config) now)
              completed.1 with
          | error e =>
              rfl
          | ok created =>
              rfl

end Scheduling
end CopilotFactory
