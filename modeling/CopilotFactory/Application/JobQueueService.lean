import CopilotFactory.Infrastructure.Store

/-!
# Job queue

Background work is queued as jobs.  A worker claims the oldest pending job of a
type whose dependencies are over, and completes or fails it afterwards.
-/

namespace CopilotFactory
namespace Application

open Foundations
open Infrastructure

variable {now : Millis} {leaseOwner verb : String} {jobId : JobId}

inductive JobType where
  | schedulerTick
  | workerDispatch
  | reviewerDispatch
  | leadReviewConsolidation
  | mergeDispatch
  | validationExecution
  | reconciliationSweep
  | cleanup
deriving DecidableEq

inductive JobStatus where
  | pending
  | claimed
  | running
  | completed
  | failed
  | cancelled
deriving DecidableEq

def JobStatus.label : JobStatus -> String
  | .pending => "pending"
  | .claimed => "claimed"
  | .running => "running"
  | .completed => "completed"
  | .failed => "failed"
  | .cancelled => "cancelled"

structure DispatchPayload where
  taskId : TaskId
  leaseId : LeaseId
  poolId : PoolId
  workerId : WorkerId
deriving DecidableEq

/-- What the reviewer dispatch writes into the jobs of a review cycle.  The role is the
constructor. -/
inductive ReviewPayload where
  | reviewer (reviewCycleId : ReviewCycleId) (taskId : TaskId) (reviewerType : String)
      (isRequired : Bool)
  | leadReviewer (reviewCycleId : ReviewCycleId) (taskId : TaskId)
deriving DecidableEq

structure Job where
  jobId : JobId
  jobType : JobType
  payload : Option DispatchPayload
  status : JobStatus
  attemptCount : Nat
  runAfter : Option Seconds
  leaseOwner : Option String
  /-- A null column is read as an empty list. -/
  dependsOnJobIds : List JobId
  createdAt : Seconds
  jobGroupId : Option String := none
  /-- The payload column of a review job. -/
  reviewPayload : Option ReviewPayload := none
deriving DecidableEq

abbrev JobTable := Table JobId Job Job.jobId

structure CreateJobData where
  jobType : JobType
  payload : Option DispatchPayload := none
  runAfter : Option Millis := none
  dependsOnJobIds : List JobId := []
  jobGroupId : Option String := none
  reviewPayload : Option ReviewPayload := none

def newJob (now : Millis) (jobId : JobId) (data : CreateJobData) : Job where
  jobId := jobId
  jobType := data.jobType
  payload := data.payload
  status := .pending
  attemptCount := 0
  runAfter := data.runAfter.map toColumn
  leaseOwner := none
  dependsOnJobIds := data.dependsOnJobIds
  createdAt := toColumn now
  jobGroupId := data.jobGroupId
  reviewPayload := data.reviewPayload

def createJob (now : Millis) (jobId : JobId) (data : CreateJobData)
    (jobs : JobTable) : Except ServiceError (JobTable × Job) :=
  let job := newJob now jobId data
  if h : jobs.find? job.jobId = none then
    .ok (jobs.insert job h, job)
  else
    .error (.constraintViolation "job" "job_id")

def jobDependencyTerminalStatuses : List JobStatus :=
  [.completed, .failed]

/-- Every dependency is a job that is over.  A missing one is not met. -/
def dependenciesMet (jobs : JobTable) (job : Job) : Bool :=
  job.dependsOnJobIds.all (fun dependencyId =>
    match jobs.find? dependencyId with
    | some dependency => dependency.status ∈ jobDependencyTerminalStatuses
    | none => false)

/-- A job without a start time, or whose start time has come. -/
def isDue (runAfter : Option Seconds) (now : Millis) : Bool :=
  match runAfter with
  | none => true
  | some t => ofColumn t ≤ now

/-- The pending jobs of a type that are due, oldest first. -/
def claimCandidates (jobType : JobType) (now : Millis) (jobs : JobTable) : List Job :=
  (jobs.rows.filter (fun job =>
    job.status = .pending ∧ job.jobType = jobType ∧ isDue job.runAfter now)).mergeSort
    (fun left right => left.createdAt ≤ right.createdAt)

def claimedJob (leaseOwner : String) (job : Job) : Job :=
  { job with
    status := .claimed
    leaseOwner := some leaseOwner
    attemptCount := job.attemptCount + 1 }

@[simp] theorem claimedJob_jobId (leaseOwner : String) (job : Job) :
    (claimedJob leaseOwner job).jobId = job.jobId :=
  rfl

def withStatus (status : JobStatus) (job : Job) : Job :=
  { job with status := status }

@[simp] theorem withStatus_jobId (status : JobStatus) (job : Job) :
    (withStatus status job).jobId = job.jobId :=
  rfl

def claimJob (jobType : JobType) (leaseOwner : String) (now : Millis)
    (jobs : JobTable) : Option (JobTable × Job) :=
  match (claimCandidates jobType now jobs).find? (dependenciesMet jobs) with
  | none => none
  | some candidate =>
      some (jobs.modify candidate.jobId (claimedJob leaseOwner) (claimedJob_jobId leaseOwner),
        claimedJob leaseOwner candidate)

def runnableStatuses : List JobStatus :=
  [.claimed]

def startJob (jobId : JobId) (jobs : JobTable) : Except ServiceError (JobTable × Job) := do
  let existing ← orThrow (jobs.find? jobId) (.entityNotFound "Job" jobId)
  ensure (existing.status ∈ runnableStatuses)
    (.invalidTransition "Job" jobId existing.status.label JobStatus.running.label
      s!"Job must be in CLAIMED status to start running, but is {existing.status.label}")
  pure (jobs.modify jobId (withStatus .running) (withStatus_jobId .running),
    withStatus .running existing)

def finishableStatuses : List JobStatus :=
  [.claimed, .running]

/-- The transition that completing and failing a job share. -/
def finishJob (target : JobStatus) (verb : String) (jobId : JobId)
    (jobs : JobTable) : Except ServiceError (JobTable × Job) := do
  let existing ← orThrow (jobs.find? jobId) (.entityNotFound "Job" jobId)
  ensure (existing.status ∈ finishableStatuses)
    (.invalidTransition "Job" jobId existing.status.label target.label
      (s!"Job must be in CLAIMED or RUNNING status to {verb}, " ++
        s!"but is {existing.status.label}"))
  pure (jobs.modify jobId (withStatus target) (withStatus_jobId target),
    withStatus target existing)

def completeJob (jobId : JobId) (jobs : JobTable) :
    Except ServiceError (JobTable × Job) :=
  finishJob .completed "complete" jobId jobs

def failJob (jobId : JobId) (jobs : JobTable) : Except ServiceError (JobTable × Job) :=
  finishJob .failed "fail" jobId jobs

/-!
## Queries
-/

/-- The statuses in which the service considers a dependency satisfied. -/
def terminalStatuses : List JobStatus :=
  [.completed, .failed]

structure JobDependencies where
  met : Bool
  pendingDependencyIds : List JobId
  missingDependencyIds : List JobId
deriving DecidableEq

def missingDependencies (jobs : JobTable) (dependencyIds : List JobId) : List JobId :=
  dependencyIds.filter (fun dependencyId => (jobs.find? dependencyId).isNone)

def pendingDependencies (jobs : JobTable) (dependencyIds : List JobId) : List JobId :=
  dependencyIds.filter (fun dependencyId =>
    match jobs.find? dependencyId with
    | some dependency => dependency.status ∉ terminalStatuses
    | none => false)

def areJobDependenciesMet (jobId : JobId) (jobs : JobTable) :
    Except ServiceError JobDependencies := do
  let job ← orThrow (jobs.find? jobId) (.entityNotFound "Job" jobId)
  if job.dependsOnJobIds = [] then
    pure { met := true, pendingDependencyIds := [], missingDependencyIds := [] }
  else
    let missing := missingDependencies jobs job.dependsOnJobIds
    let pending := pendingDependencies jobs job.dependsOnJobIds
    pure
      { met := pending.isEmpty && missing.isEmpty
        pendingDependencyIds := pending
        missingDependencyIds := missing }

def findJobsByGroup (groupId : String) (jobs : JobTable) : List Job :=
  jobs.rows.filter (fun job => job.jobGroupId = some groupId)

/-!
## What the queue operations do
-/

/-- A pending job of the type that is due and whose dependencies are met. -/
def Eligible (jobType : JobType) (now : Millis) (jobs : JobTable) (job : Job) : Prop :=
  job ∈ jobs ∧ job.status = .pending ∧ job.jobType = jobType ∧
    isDue job.runAfter now = true ∧ dependenciesMet jobs job = true

variable {jobs : JobTable} {job : Job}

theorem dependenciesMet_iff :
    dependenciesMet jobs job = true <->
      forall dependencyId, dependencyId ∈ job.dependsOnJobIds ->
        exists dependency, jobs.find? dependencyId = some dependency ∧
          (dependency.status = .completed ∨ dependency.status = .failed) := by
  unfold dependenciesMet
  rw [List.all_eq_true]
  apply forall₂_congr
  intro dependencyId _
  cases jobs.find? dependencyId with
  | none =>
      simp
  | some dependency =>
      simp [jobDependencyTerminalStatuses]

theorem isDue_iff {runAfter : Option Seconds} :
    isDue runAfter now = true <->
      forall t, runAfter = some t -> ofColumn t ≤ now := by
  cases runAfter with
  | none =>
      simp [isDue]
  | some t =>
      simp [isDue]

variable {jobType : JobType}

theorem mem_claimCandidates :
    job ∈ claimCandidates jobType now jobs <->
      job ∈ jobs ∧ job.status = .pending ∧ job.jobType = jobType ∧
        isDue job.runAfter now = true := by
  rw [claimCandidates, List.mem_mergeSort, List.mem_filter]
  simp only [decide_eq_true_eq, Table.mem_def]

theorem eligible_iff :
    Eligible jobType now jobs job <->
      job ∈ claimCandidates jobType now jobs ∧ dependenciesMet jobs job = true := by
  rw [mem_claimCandidates]
  unfold Eligible
  tauto

theorem claimCandidates_sorted (jobType : JobType) (now : Millis) (jobs : JobTable) :
    (claimCandidates jobType now jobs).Pairwise
      (fun left right => left.createdAt ≤ right.createdAt) := by
  have h := @List.pairwise_mergeSort Job
    (fun left right => decide (left.createdAt ≤ right.createdAt))
    (by
      intro a b c hab hbc
      simp only [decide_eq_true_eq] at *
      lia)
    (by
      intro a b
      simp only [Bool.or_eq_true, decide_eq_true_eq]
      lia)
    (jobs.rows.filter (fun job =>
      job.status = .pending ∧ job.jobType = jobType ∧ isDue job.runAfter now))
  unfold claimCandidates
  simpa using h

theorem find?_least {jobs : List Job} {p : Job -> Bool} {other : Job}
    (hsorted : jobs.Pairwise (fun left right => left.createdAt ≤ right.createdAt))
    (hfind : jobs.find? p = some job) (hmem : other ∈ jobs) (hp : p other = true) :
    job.createdAt ≤ other.createdAt := by
  induction jobs with
  | nil =>
      cases hfind
  | cons first rest ih =>
      rw [List.pairwise_cons] at hsorted
      by_cases hfirst : p first = true
      · rw [List.find?_cons_of_pos hfirst] at hfind
        cases hfind
        rcases List.mem_cons.mp hmem with hother | hother
        · exact Int.le_of_eq (congrArg Job.createdAt hother.symm)
        · exact hsorted.1 other hother
      · rw [List.find?_cons_of_neg hfirst] at hfind
        rcases List.mem_cons.mp hmem with hother | hother
        · rw [hother] at hp
          exact absurd hp hfirst
        · exact ih hsorted.2 hfind hother

variable {jobs' : JobTable}

theorem claimJob_eligible (h : claimJob jobType leaseOwner now jobs = some (jobs', job)) :
    exists candidate,
      Eligible jobType now jobs candidate ∧
      (forall other, Eligible jobType now jobs other ->
        candidate.createdAt ≤ other.createdAt) ∧
      job = claimedJob leaseOwner candidate ∧
      jobs' = jobs.modify candidate.jobId (claimedJob leaseOwner)
        (claimedJob_jobId leaseOwner) := by
  unfold claimJob at h
  cases hcandidate : (claimCandidates jobType now jobs).find? (dependenciesMet jobs) with
  | none =>
      rw [hcandidate] at h
      cases h
  | some candidate =>
      rw [hcandidate] at h
      cases h
      refine ⟨candidate, ?_, ?_, rfl, rfl⟩
      · exact eligible_iff.mpr
          ⟨List.mem_of_find?_eq_some hcandidate, List.find?_some hcandidate⟩
      · intro other hother
        rcases eligible_iff.mp hother with ⟨hmem, hmet⟩
        exact find?_least (claimCandidates_sorted jobType now jobs) hcandidate hmem hmet

theorem claimJob_spec (h : claimJob jobType leaseOwner now jobs = some (jobs', job)) :
    exists candidate,
      candidate ∈ jobs ∧ candidate.status = .pending ∧ candidate.jobType = jobType ∧
      job = claimedJob leaseOwner candidate ∧
      jobs' = jobs.modify candidate.jobId (claimedJob leaseOwner)
        (claimedJob_jobId leaseOwner) := by
  rcases claimJob_eligible h with ⟨candidate, ⟨hmem, hpending, htype, _⟩, _, hjob, hjobs'⟩
  exact ⟨candidate, hmem, hpending, htype, hjob, hjobs'⟩

theorem claimJob_eq_none_iff :
    claimJob jobType leaseOwner now jobs = none <->
      forall job, ¬ Eligible jobType now jobs job := by
  have hnone : claimJob jobType leaseOwner now jobs = none <->
      (claimCandidates jobType now jobs).find? (dependenciesMet jobs) = none := by
    unfold claimJob
    cases (claimCandidates jobType now jobs).find? (dependenciesMet jobs) with
    | none =>
        simp
    | some candidate =>
        simp
  rw [hnone, List.find?_eq_none]
  apply forall_congr'
  intro job
  rw [eligible_iff]
  tauto

theorem startJob_spec (h : startJob jobId jobs = .ok (jobs', job)) :
    exists existing, jobs.find? jobId = some existing ∧ existing.status = .claimed ∧
      jobs' = jobs.modify jobId (withStatus .running) (withStatus_jobId .running) := by
  simp only [startJob, bind_eq_ok, orThrow_eq_ok, ensure_eq_ok, pure_eq_ok,
    Prod.mk.injEq] at h
  rcases h with ⟨existing, hfind, _, hstatus, hjobs, _⟩
  exact ⟨existing, hfind, List.mem_singleton.mp hstatus, hjobs.symm⟩

/-- The check of the service agrees with the one of the claim. -/
theorem areJobDependenciesMet_met_iff (h : jobs.find? jobId = some job) :
    exists r, areJobDependenciesMet jobId jobs = .ok r ∧
      (r.met = true <-> dependenciesMet jobs job = true) := by
  unfold areJobDependenciesMet
  rw [h, orThrow_some, ok_bind]
  by_cases hnone : job.dependsOnJobIds = []
  · rw [if_pos hnone]
    refine ⟨_, rfl, ?_⟩
    simp [dependenciesMet, hnone]
  · rw [if_neg hnone]
    refine ⟨_, rfl, ?_⟩
    rw [dependenciesMet_iff, Bool.and_eq_true, List.isEmpty_iff, List.isEmpty_iff]
    unfold pendingDependencies missingDependencies
    rw [List.filter_eq_nil_iff, List.filter_eq_nil_iff, ← forall₂_and]
    apply forall₂_congr
    intro dependencyId _
    cases jobs.find? dependencyId with
    | none =>
        simp
    | some dependency =>
        simp [terminalStatuses]
        exact or_iff_not_imp_left.symm

/-- A pending job that is due and depends on no other lets some job be claimed. -/
theorem claimJob_of_due (leaseOwner : String) (hmem : job ∈ jobs)
    (hstatus : job.status = .pending) (htype : job.jobType = jobType)
    (hdue : isDue job.runAfter now = true) (hfree : job.dependsOnJobIds = []) :
    (claimJob jobType leaseOwner now jobs).isSome = true := by
  have hcandidate : job ∈ claimCandidates jobType now jobs := by
    rw [claimCandidates, List.mem_mergeSort, List.mem_filter]
    refine ⟨hmem, ?_⟩
    simp only [decide_eq_true_eq]
    exact ⟨hstatus, htype, hdue⟩
  have hmet : dependenciesMet jobs job = true := by
    unfold dependenciesMet
    rw [hfree]
    rfl
  have hfound : ((claimCandidates jobType now jobs).find? (dependenciesMet jobs)).isSome =
      true := by
    rw [List.find?_isSome]
    exact ⟨job, hcandidate, hmet⟩
  rcases Option.isSome_iff_exists.mp hfound with ⟨candidate, hfind⟩
  unfold claimJob
  rw [hfind]
  rfl

theorem createJob_spec {data : CreateJobData}
    (h : createJob now jobId data jobs = .ok (jobs', job)) :
    job = newJob now jobId data ∧ jobs'.rows = jobs.rows ++ [job] := by
  simp only [createJob] at h
  split at h
  · cases h
    exact ⟨rfl, rfl⟩
  · cases h

theorem createJob_of_fresh (now : Millis) (data : CreateJobData) (h : jobs.find? jobId = none) :
    exists r, createJob now jobId data jobs = .ok r := by
  have hnew : jobs.find? (newJob now jobId data).jobId = none := h
  simp only [createJob, dif_pos hnew]
  exact ⟨_, rfl⟩

theorem finishJob_spec {target : JobStatus}
    (h : finishJob target verb jobId jobs = .ok (jobs', job)) :
    jobs' = jobs.modify jobId (withStatus target) (withStatus_jobId target) := by
  simp only [finishJob, bind_eq_ok, orThrow_eq_ok, ensure_eq_ok, pure_eq_ok,
    Prod.mk.injEq] at h
  rcases h with ⟨existing, _, _, _, hjobs, _⟩
  exact hjobs.symm

theorem finishJob_from {target : JobStatus}
    (h : finishJob target verb jobId jobs = .ok (jobs', job)) :
    exists existing, jobs.find? jobId = some existing ∧
      existing.status ∈ finishableStatuses := by
  simp only [finishJob, bind_eq_ok, orThrow_eq_ok, ensure_eq_ok, pure_eq_ok,
    Prod.mk.injEq] at h
  rcases h with ⟨existing, hfind, _, hstatus, _, _⟩
  exact ⟨existing, hfind, hstatus⟩

theorem finishJob_of_claimed {target : JobStatus} (h : jobs.find? jobId = some job)
    (hstatus : job.status = .claimed) : exists r, finishJob target verb jobId jobs = .ok r := by
  have hfinishable : job.status ∈ finishableStatuses := by
    rw [hstatus]
    decide
  simp only [finishJob, h, orThrow_some, ok_bind, ensure_of hfinishable]
  exact ⟨_, rfl⟩

theorem failJob_error_of_completeJob_error {e : ServiceError}
    (h : completeJob jobId jobs = .error e) : exists e', failJob jobId jobs = .error e' := by
  unfold completeJob failJob finishJob at *
  cases hjob : jobs.find? jobId with
  | none =>
      rw [orThrow_none]
      exact ⟨_, rfl⟩
  | some job =>
      rw [hjob, orThrow_some, ok_bind] at h
      rw [orThrow_some, ok_bind]
      by_cases hstatus : job.status ∈ finishableStatuses
      · rw [ensure_of hstatus, ok_bind] at h
        cases h
      · rw [ensure_of_not hstatus]
        exact ⟨_, rfl⟩

end Application
end CopilotFactory
