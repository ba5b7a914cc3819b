import Mathlib.Logic.Relation
import CopilotFactory.Application.JobQueueService
import CopilotFactory.Foundations.TransitionSystem

/-!
# The job queue

Any number of workers create, claim, start, complete and fail jobs, each call in a
transaction of its own.  A job is handed out once, its status moves forward, and the
queue hands out the oldest job that may be claimed.
-/

namespace CopilotFactory
namespace Scheduling

open Foundations
open Infrastructure
open Application

variable {jobs jobs' : JobTable} {jobId : JobId} {job : Job}

inductive JobRequest where
  | createJob (now : Millis) (jobId : JobId) (data : CreateJobData)
  | claimJob (jobType : JobType) (leaseOwner : String) (now : Millis)
  | startJob (jobId : JobId)
  | completeJob (jobId : JobId)
  | failJob (jobId : JobId)

/-- The table after a request, and the job that is returned. -/
def performJobRequest (jobs : JobTable) :
    JobRequest -> Except ServiceError (JobTable × Option Job)
  | .createJob now jobId data => (createJob now jobId data jobs).map (Prod.map id some)
  | .claimJob jobType leaseOwner now =>
      match claimJob jobType leaseOwner now jobs with
      | none => .ok (jobs, none)
      | some (jobs', job) => .ok (jobs', some job)
  | .startJob jobId => (startJob jobId jobs).map (Prod.map id some)
  | .completeJob jobId => (completeJob jobId jobs).map (Prod.map id some)
  | .failJob jobId => (failJob jobId jobs).map (Prod.map id some)

def jobQueue : TransitionSystem JobTable JobRequest ServiceError where
  step := fun jobs request => (performJobRequest jobs request).map Prod.fst

def handedOut (jobs : JobTable) : JobRequest -> Option JobId
  | .claimJob jobType leaseOwner now =>
      (claimJob jobType leaseOwner now jobs).map (fun claimed => claimed.2.jobId)
  | _ => none

def handOuts (jobs : JobTable) (requests : List JobRequest) : List JobId :=
  (jobQueue.arrivals jobs requests).filterMap (fun x => handedOut x.1 x.2)

/-!
## Moves of a status
-/

/-- The statuses that a status may change to.  A job may be completed or failed without
having been started. -/
def successors : JobStatus -> List JobStatus
  | .pending => [.claimed]
  | .claimed => [.running, .completed, .failed]
  | .running => [.completed, .failed]
  | .completed => []
  | .failed => []
  | .cancelled => []

def Moves (source target : JobStatus) : Prop :=
  target ∈ successors source

instance (source target : JobStatus) : Decidable (Moves source target) :=
  inferInstanceAs (Decidable (target ∈ successors source))

theorem not_moves_pending (source : JobStatus) :
    ¬ Moves source .pending := by
  cases source <;> decide

def Forward : JobStatus -> JobStatus -> Prop :=
  Relation.ReflTransGen Moves

theorem Forward.not_pending {source target : JobStatus} (h : Forward source target)
    (hsource : source ≠ .pending) :
    target ≠ .pending := by
  induction h with
  | refl =>
      exact hsource
  | tail _ hmove _ =>
      intro hpending
      rw [hpending] at hmove
      exact not_moves_pending _ hmove

theorem find?_modify_forward {moved : JobId} {f : Job -> Job}
    (hf : forall job, (f job).jobId = job.jobId)
    (hmove : forall existing, jobs.find? moved = some existing ->
      Moves existing.status (f existing).status)
    (h : jobs.find? jobId = some job) :
    exists job', (jobs.modify moved f hf).find? jobId = some job' ∧
      Forward job.status job'.status := by
  by_cases hsame : jobId = moved
  · rw [hsame] at h ⊢
    rw [Table.find?_modify_self, h]
    exact ⟨f job, rfl, Relation.ReflTransGen.single (hmove job h)⟩
  · rw [Table.find?_modify_of_ne hf hsame]
    exact ⟨job, h, Relation.ReflTransGen.refl⟩

theorem moves_of_finishable {status target : JobStatus} (h : status ∈ finishableStatuses)
    (htarget : target = .completed ∨ target = .failed) :
    Moves status target := by
  rcases htarget with htarget | htarget
  · rw [htarget]
    cases status <;> revert h <;> decide
  · rw [htarget]
    cases status <;> revert h <;> decide

structure SameJob (job job' : Job) : Prop where
  jobId : job'.jobId = job.jobId
  jobType : job'.jobType = job.jobType
  runAfter : job'.runAfter = job.runAfter
  dependsOnJobIds : job'.dependsOnJobIds = job.dependsOnJobIds
  jobGroupId : job'.jobGroupId = job.jobGroupId
  reviewPayload : job'.reviewPayload = job.reviewPayload

theorem SameJob.refl (job : Job) : SameJob job job :=
  ⟨rfl, rfl, rfl, rfl, rfl, rfl⟩

/-- A request leaves the jobs alone, creates one, or moves the status of one. -/
inductive JobEffect (request : JobRequest) (jobs jobs' : JobTable) : Prop where
  | unchanged (hjobs : jobs' = jobs)
  | created (now : Millis) (jobId : JobId) (data : CreateJobData)
      (hrequest : request = .createJob now jobId data)
      (hnew : jobs.find? jobId = none)
      (hrows : jobs'.rows = jobs.rows ++ [newJob now jobId data])
  | moved (moved : JobId) (f : Job -> Job) (hf : forall job, (f job).jobId = job.jobId)
      (hsame : forall job, SameJob job (f job))
      (hmove : forall existing, jobs.find? moved = some existing ->
        Moves existing.status (f existing).status)
      (hjobs : jobs' = jobs.modify moved f hf)

theorem jobEffect_of_finishJob {request : JobRequest} {target : JobStatus} {verb : String}
    {finished : JobId} {result : Job}
    (hstep : finishJob target verb finished jobs = .ok (jobs', result))
    (htarget : target = .completed ∨ target = .failed) : JobEffect request jobs jobs' := by
  rcases finishJob_from hstep with ⟨existing, hexisting, hstatus⟩
  apply JobEffect.moved finished (withStatus target) (withStatus_jobId target)
  · intro job
    exact ⟨rfl, rfl, rfl, rfl, rfl, rfl⟩
  · intro existing' hexisting'
    rw [hexisting] at hexisting'
    cases hexisting'
    exact moves_of_finishable hstatus htarget
  · exact finishJob_spec hstep

theorem jobEffect_of_step {request : JobRequest}
    (hstep : jobQueue.step jobs request = .ok jobs') : JobEffect request jobs jobs' := by
  rcases map_eq_ok.mp hstep with ⟨⟨table, result⟩, hperform, htable⟩
  rw [← htable]
  cases request with
  | createJob now jobId data =>
      rcases map_eq_ok.mp hperform with ⟨⟨created, row⟩, hcreate, heq⟩
      cases heq
      rcases createJob_spec hcreate with ⟨hrow, hrows⟩
      apply JobEffect.created now jobId data rfl
      · simp only [createJob] at hcreate
        split at hcreate
        · assumption
        · cases hcreate
      · rw [← hrow]
        exact hrows
  | claimJob jobType leaseOwner now =>
      simp only [performJobRequest] at hperform
      cases hclaim : claimJob jobType leaseOwner now jobs with
      | none =>
          rw [hclaim] at hperform
          cases hperform
          exact .unchanged rfl
      | some claimed =>
          rw [hclaim] at hperform
          cases hperform
          rcases claimJob_spec hclaim with ⟨candidate, hmem, hpending, _, _, htable'⟩
          apply JobEffect.moved candidate.jobId (claimedJob leaseOwner)
            (claimedJob_jobId leaseOwner)
          · intro job
            exact ⟨rfl, rfl, rfl, rfl, rfl, rfl⟩
          · intro existing hexisting
            rw [Table.find?_key_of_mem hmem] at hexisting
            cases hexisting
            rw [hpending]
            exact List.mem_singleton_self _
          · exact htable'
  | startJob started =>
      rcases map_eq_ok.mp hperform with ⟨⟨table', row⟩, hstart, heq⟩
      cases heq
      rcases startJob_spec hstart with ⟨existing, hexisting, hclaimed, htable'⟩
      apply JobEffect.moved started (withStatus .running) (withStatus_jobId .running)
      · intro job
        exact ⟨rfl, rfl, rfl, rfl, rfl, rfl⟩
      · intro existing' hexisting'
        rw [hexisting] at hexisting'
        cases hexisting'
        rw [hclaimed]
        exact List.mem_cons_self
      · exact htable'
  | completeJob finished =>
      rcases map_eq_ok.mp hperform with ⟨⟨table', row⟩, hfinish, heq⟩
      cases heq
      exact jobEffect_of_finishJob hfinish (Or.inl rfl)
  | failJob finished =>
      rcases map_eq_ok.mp hperform with ⟨⟨table', row⟩, hfinish, heq⟩
      cases heq
      exact jobEffect_of_finishJob hfinish (Or.inr rfl)

theorem step_forward {request : JobRequest} (hstep : jobQueue.step jobs request = .ok jobs')
    (h : jobs.find? jobId = some job) :
    exists job', jobs'.find? jobId = some job' ∧ Forward job.status job'.status := by
  cases jobEffect_of_step hstep with
  | unchanged hjobs =>
      rw [hjobs]
      exact ⟨job, h, Relation.ReflTransGen.refl⟩
  | created now newId data _ _ hrows =>
      rcases Table.find?_eq_some_iff.mp h with ⟨hmem, hid⟩
      refine ⟨job, Table.find?_eq_some_iff.mpr ⟨?_, hid⟩, Relation.ReflTransGen.refl⟩
      rw [Table.mem_def, hrows]
      exact List.mem_append_left _ hmem
  | moved moved f hf _ hmove hjobs =>
      rw [hjobs]
      exact find?_modify_forward hf hmove h

theorem next_forward (jobs : JobTable) (request : JobRequest) (h : jobs.find? jobId = some job) :
    exists job', (jobQueue.next jobs request).find? jobId = some job' ∧
      Forward job.status job'.status := by
  refine jobQueue.next_cases ⟨job, h, Relation.ReflTransGen.refl⟩ ?_
  intro jobs' hstep
  exact step_forward hstep h

theorem run_forward (jobs : JobTable) (requests : List JobRequest)
    (h : jobs.find? jobId = some job) :
    exists job', (jobQueue.run jobs requests).find? jobId = some job' ∧
      Forward job.status job'.status := by
  induction requests generalizing jobs job with
  | nil =>
      exact ⟨job, h, Relation.ReflTransGen.refl⟩
  | cons request rest ih =>
      rcases next_forward jobs request h with ⟨middle, hmiddle, hfirst⟩
      rcases ih (jobQueue.next jobs request) hmiddle with ⟨job', hjob', hrest⟩
      exact ⟨job', hjob', hfirst.trans hrest⟩

/-!
## Hand-outs
-/

/-- A job that is handed out was pending, and is claimed afterwards. -/
theorem handedOut_spec {request : JobRequest} (h : handedOut jobs request = some jobId) :
    (exists job, jobs.find? jobId = some job ∧ job.status = .pending) ∧
      exists job', (jobQueue.next jobs request).find? jobId = some job' ∧
        job'.status = .claimed := by
  cases request with
  | claimJob jobType leaseOwner now =>
      rcases Option.map_eq_some_iff.mp h with ⟨⟨jobs', job⟩, hclaim, hid⟩
      rcases claimJob_spec hclaim with ⟨candidate, hmem, hpending, _, hjob, hjobs'⟩
      have hkey : candidate.jobId = jobId := by
        rw [← hid, hjob]
        rfl
      have hfind : jobs.find? jobId = some candidate := by
        rw [← hkey]
        exact Table.find?_key_of_mem hmem
      have hnext : jobQueue.next jobs (.claimJob jobType leaseOwner now) = jobs' := by
        apply jobQueue.next_of_ok
        simp only [jobQueue, performJobRequest, hclaim]
        rfl
      refine ⟨⟨candidate, hfind, hpending⟩, claimedJob leaseOwner candidate, ?_, rfl⟩
      rw [hnext, hjobs', hkey, Table.find?_modify_self, hfind]
      rfl
  | createJob now newId data =>
      cases h
  | startJob started =>
      cases h
  | completeJob finished =>
      cases h
  | failJob finished =>
      cases h

theorem handOuts_nodup (jobs : JobTable) (requests : List JobRequest) :
    (handOuts jobs requests).Nodup := by
  apply TransitionSystem.nodup_acts (fun jobId jobs =>
    exists job, jobs.find? jobId = some job ∧ job.status ≠ .pending)
  · intro jobs request jobId hout
    rcases handedOut_spec hout with ⟨⟨job, hjob, hpending⟩, job', hjob', hclaimed⟩
    constructor
    · intro hspent
      rcases hspent with ⟨other, hother, hne⟩
      rw [hjob] at hother
      cases hother
      exact hne hpending
    · refine ⟨job', hjob', ?_⟩
      rw [hclaimed]
      decide
  · intro jobs request jobId hspent
    rcases hspent with ⟨job, hjob, hne⟩
    rcases next_forward jobs request hjob with ⟨job', hjob', hforward⟩
    exact ⟨job', hjob', hforward.not_pending hne⟩

/-!
## Eligibility
-/

def DependenciesOver (jobs : JobTable) (job : Job) : Prop :=
  forall dependencyId, dependencyId ∈ job.dependsOnJobIds ->
    exists dependency, jobs.find? dependencyId = some dependency ∧
      (dependency.status = .completed ∨ dependency.status = .failed)

structure MayBeClaimed (jobType : JobType) (now : Millis) (jobs : JobTable)
    (job : Job) : Prop where
  present : job ∈ jobs
  pending : job.status = .pending
  type_eq : job.jobType = jobType
  due : forall t, job.runAfter = some t -> ofColumn t ≤ now
  dependencies : DependenciesOver jobs job

theorem mayBeClaimed_iff {jobType : JobType} {now : Millis} :
    MayBeClaimed jobType now jobs job <-> Eligible jobType now jobs job := by
  unfold Eligible
  rw [isDue_iff, dependenciesMet_iff]
  constructor
  · intro h
    exact ⟨h.present, h.pending, h.type_eq, h.due, h.dependencies⟩
  · intro h
    rcases h with ⟨hpresent, hpending, htype, hdue, hdependencies⟩
    exact ⟨hpresent, hpending, htype, hdue, hdependencies⟩

def ClaimsOldest (jobs : JobTable) : Prop :=
  forall jobType leaseOwner now jobs' job,
    claimJob jobType leaseOwner now jobs = some (jobs', job) ->
      exists candidate, MayBeClaimed jobType now jobs candidate ∧
        job = claimedJob leaseOwner candidate ∧
        forall other, MayBeClaimed jobType now jobs other ->
          candidate.createdAt ≤ other.createdAt

/-- Nothing is claimed only if nothing may be. -/
def ClaimsIfAny (jobs : JobTable) : Prop :=
  forall jobType leaseOwner now, claimJob jobType leaseOwner now jobs = none ->
    forall job, ¬ MayBeClaimed jobType now jobs job

/-- The query about a job's dependencies agrees with what the claim asks of them. -/
def DependencyChecksAgree (jobs : JobTable) : Prop :=
  forall jobId job, jobs.find? jobId = some job ->
    exists r, areJobDependenciesMet jobId jobs = .ok r ∧
      (r.met = true <-> DependenciesOver jobs job)

theorem claimsOldest (jobs : JobTable) :
    ClaimsOldest jobs := by
  intro jobType leaseOwner now jobs' job h
  rcases claimJob_eligible h with ⟨candidate, heligible, hleast, hjob, _⟩
  refine ⟨candidate, mayBeClaimed_iff.mpr heligible, hjob, ?_⟩
  intro other hother
  exact hleast other (mayBeClaimed_iff.mp hother)

theorem claimsIfAny (jobs : JobTable) :
    ClaimsIfAny jobs := by
  intro jobType leaseOwner now h job hjob
  exact claimJob_eq_none_iff.mp h job (mayBeClaimed_iff.mp hjob)

theorem dependencyChecksAgree (jobs : JobTable) :
    DependencyChecksAgree jobs := by
  intro jobId job h
  rcases areJobDependenciesMet_met_iff h with ⟨r, hr, hmet⟩
  exact ⟨r, hr, hmet.trans dependenciesMet_iff⟩

/-- In every run of the queue, from any set of jobs: no job is handed out twice, statuses
move forward, and in every state the queue hands out the oldest job that may be claimed,
if there is one. -/
theorem jobQueue_handsOutInOrder (jobs : JobTable) (requests : List JobRequest) :
    (handOuts jobs requests).Nodup ∧
    (forall first second, requests = first ++ second -> forall jobId job,
      (jobQueue.run jobs first).find? jobId = some job ->
        exists job', (jobQueue.run jobs requests).find? jobId = some job' ∧
          Forward job.status job'.status) ∧
    forall t, t ∈ jobQueue.states jobs requests ->
      ClaimsOldest t ∧ ClaimsIfAny t ∧ DependencyChecksAgree t := by
  refine ⟨handOuts_nodup jobs requests, ?_, ?_⟩
  · intro first second happ jobId job hjob
    rw [happ, jobQueue.run_append]
    exact run_forward (jobQueue.run jobs first) second hjob
  · intro t _
    exact ⟨claimsOldest t, claimsIfAny t, dependencyChecksAgree t⟩

end Scheduling
end CopilotFactory
