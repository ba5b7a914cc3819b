import CopilotFactory.Reviewing.ReviewRequests

/-!
# The jobs of a review cycle

A dispatch creates a job for each specialist, in the group of the cycle, and a job for
the lead reviewer that depends on all of them.  Whatever becomes of the jobs
afterwards, the specialists of a group are the jobs on which its lead reviewer waits.
-/

namespace CopilotFactory
namespace Reviewing

open Foundations
open Domain
open Infrastructure
open Application
open Scheduling

variable {reviewCycleId : ReviewCycleId} {job : Job}

def reviewJobTypes : List JobType :=
  [.reviewerDispatch, .leadReviewConsolidation]

/-- A request of the review services, or whatever else sets the status of a job: nothing
in the services cancels one. -/
inductive FanInStep where
  | review (request : ReviewRequest)
  | setStatus (jobId : JobId) (status : JobStatus)

def performFanIn (port : FollowUpTaskPort) (r : ReviewTables) :
    FanInStep -> Except ServiceError ReviewTables
  | .review request => performReview port r request
  | .setStatus jobId status =>
      .ok (r.withJobs
        (r.jobs.modify jobId (Application.withStatus status) (withStatus_jobId status)))

def fanIn (port : FollowUpTaskPort) : TransitionSystem ReviewTables FanInStep ServiceError where
  step := performFanIn port

/-- Only a dispatch creates review jobs. -/
def DispatchedJobs : FanInStep -> Prop
  | .review (.job (.createJob _ _ data)) => data.jobType ∉ reviewJobTypes
  | _ => True

def IsSpecialist (reviewCycleId : ReviewCycleId) (job : Job) : Prop :=
  job.jobType = .reviewerDispatch ∧ job.jobGroupId = some reviewCycleId

/-- The jobs and the cycles belong together as the dispatches have created them. -/
structure FansIn (r : ReviewTables) : Prop where
  grouped : forall job, job ∈ r.jobs -> job.jobType ∈ reviewJobTypes ->
    exists reviewCycleId, job.jobGroupId = some reviewCycleId ∧
      (r.findCycle reviewCycleId).isSome = true
  lead : forall lead, lead ∈ r.jobs -> lead.jobType = .leadReviewConsolidation ->
    lead.runAfter = none ∧
      forall reviewCycleId, lead.jobGroupId = some reviewCycleId ->
        forall jobId, jobId ∈ lead.dependsOnJobIds <->
          exists job, job ∈ r.jobs ∧ job.jobId = jobId ∧ IsSpecialist reviewCycleId job
  required : forall cycle, cycle ∈ r.reviewCycles ->
    forall reviewerType, reviewerType ∈ cycle.requiredReviewers ->
      exists job, job ∈ r.jobs ∧ IsSpecialist cycle.reviewCycleId job ∧
        job.reviewPayload =
          some (.reviewer cycle.reviewCycleId cycle.taskId reviewerType true)

theorem fansIn_empty : FansIn ReviewTables.empty where
  grouped := by
    intro job hjob
    exact absurd hjob (Table.not_mem_empty job)
  lead := by
    intro lead hlead
    exact absurd hlead (Table.not_mem_empty lead)
  required := by
    intro cycle hcycle
    exact absurd hcycle (Table.not_mem_empty cycle)

/-!
## What leaves the jobs and the cycles as they were created
-/

structure SameJobs (jobs jobs' : JobTable) : Prop where
  back : forall job', job' ∈ jobs' -> exists job, job ∈ jobs ∧ SameJob job job'
  forth : forall job, job ∈ jobs -> exists job', job' ∈ jobs' ∧ SameJob job job'

theorem SameJobs.refl (jobs : JobTable) : SameJobs jobs jobs :=
  ⟨fun job h => ⟨job, h, SameJob.refl job⟩, fun job h => ⟨job, h, SameJob.refl job⟩⟩

theorem sameJobs_modify {jobs : JobTable} {jobId : JobId} {f : Job -> Job}
    (hf : forall job, (f job).jobId = job.jobId) (hsame : forall job, SameJob job (f job)) :
    SameJobs jobs (jobs.modify jobId f hf) := by
  have heither : forall job : Job, SameJob job (if job.jobId = jobId then f job else job) := by
    intro job
    split
    · exact hsame job
    · exact SameJob.refl job
  constructor
  · intro job' hjob'
    rcases (Table.mem_modify hf).mp hjob' with ⟨job, hjob, heq⟩
    rw [heq]
    exact ⟨job, hjob, heither job⟩
  · intro job hjob
    exact ⟨_, (Table.mem_modify hf).mpr ⟨job, hjob, rfl⟩, heither job⟩

/-- The cycles of the one state are those of the other, but for their status. -/
structure SameCycles (r r' : ReviewTables) : Prop where
  back : forall cycle', cycle' ∈ r'.reviewCycles ->
    exists cycle, cycle ∈ r.reviewCycles ∧ cycle'.reviewCycleId = cycle.reviewCycleId ∧
      cycle'.taskId = cycle.taskId ∧ cycle'.requiredReviewers = cycle.requiredReviewers
  forth : forall reviewCycleId, (r.findCycle reviewCycleId).isSome = true ->
    (r'.findCycle reviewCycleId).isSome = true

theorem sameCycles_of_eq {r r' : ReviewTables} (h : r'.reviewCycles = r.reviewCycles) :
    SameCycles r r' := by
  constructor
  · intro cycle' hcycle'
    rw [h] at hcycle'
    exact ⟨cycle', hcycle', rfl, rfl, rfl⟩
  · intro reviewCycleId hsome
    unfold ReviewTables.findCycle
    rw [h]
    exact hsome

theorem sameCycles_of_move {r r' : ReviewTables} {status : ReviewCycleStatus}
    (h : r'.reviewCycles = (r.writeCycle reviewCycleId status).reviewCycles) :
    SameCycles r r' := by
  constructor
  · intro cycle' hcycle'
    rw [h] at hcycle'
    rcases ReviewTables.mem_writeCycle.mp hcycle' with ⟨cycle, hcycle, heq⟩
    refine ⟨cycle, hcycle, ?_⟩
    rw [heq]
    split <;> exact ⟨rfl, rfl, rfl⟩
  · intro id hsome
    unfold ReviewTables.findCycle
    rw [h, ReviewTables.writeCycle_reviewCycles, Table.find?_modify_isSome]
    exact hsome

variable {r r' : ReviewTables}

theorem IsSpecialist.of_same {job' : Job} (h : IsSpecialist reviewCycleId job)
    (hsame : SameJob job job') : IsSpecialist reviewCycleId job' :=
  ⟨hsame.jobType.trans h.1, hsame.jobGroupId.trans h.2⟩

theorem IsSpecialist.to_same {job' : Job} (h : IsSpecialist reviewCycleId job')
    (hsame : SameJob job job') : IsSpecialist reviewCycleId job :=
  ⟨hsame.jobType.symm.trans h.1, hsame.jobGroupId.symm.trans h.2⟩

theorem FansIn.of_same (h : FansIn r) (hjobs : SameJobs r.jobs r'.jobs)
    (hcycles : SameCycles r r') :
    FansIn r' where
  grouped := by
    intro job' hjob' htype
    rcases hjobs.back job' hjob' with ⟨job, hjob, hsame⟩
    rw [hsame.jobType] at htype
    rcases h.grouped job hjob htype with ⟨reviewCycleId, hgroup, hcycle⟩
    exact ⟨reviewCycleId, hsame.jobGroupId.trans hgroup, hcycles.forth _ hcycle⟩
  lead := by
    intro lead' hlead' htype
    rcases hjobs.back lead' hlead' with ⟨lead, hlead, hsame⟩
    rw [hsame.jobType] at htype
    rcases h.lead lead hlead htype with ⟨hafter, hspecialists⟩
    refine ⟨hsame.runAfter.trans hafter, ?_⟩
    intro reviewCycleId hgroup jobId
    rw [hsame.jobGroupId] at hgroup
    rw [hsame.dependsOnJobIds, hspecialists reviewCycleId hgroup jobId]
    constructor
    · intro hjob
      rcases hjob with ⟨job, hmem, hid, hspecialist⟩
      rcases hjobs.forth job hmem with ⟨job', hmem', hsame'⟩
      exact ⟨job', hmem', hsame'.jobId.trans hid, hspecialist.of_same hsame'⟩
    · intro hjob'
      rcases hjob' with ⟨job', hmem', hid, hspecialist⟩
      rcases hjobs.back job' hmem' with ⟨job, hmem, hsame'⟩
      exact ⟨job, hmem, hsame'.jobId.symm.trans hid, hspecialist.to_same hsame'⟩
  required := by
    intro cycle' hcycle' reviewerType hrequired
    rcases hcycles.back cycle' hcycle' with ⟨cycle, hcycle, hid, htask, hreviewers⟩
    rw [hreviewers] at hrequired
    rcases h.required cycle hcycle reviewerType hrequired with
      ⟨job, hmem, hspecialist, hpayload⟩
    rcases hjobs.forth job hmem with ⟨job', hmem', hsame⟩
    rw [hid, htask]
    exact ⟨job', hmem', hspecialist.of_same hsame, hsame.reviewPayload.trans hpayload⟩

theorem FansIn.of_new_job (h : FansIn r) {now : Millis} {newId : JobId} {data : CreateJobData}
    (htype : data.jobType ∉ reviewJobTypes)
    (hrows : r'.jobs.rows = r.jobs.rows ++ [newJob now newId data])
    (hcycles : r'.reviewCycles = r.reviewCycles) :
    FansIn r' := by
  have hmem : forall job, job ∈ r'.jobs <-> job ∈ r.jobs ∨ job = newJob now newId data := by
    intro job
    rw [Table.mem_def, hrows, List.mem_append, List.mem_singleton, Table.mem_def]
  have hold : forall job, job ∈ r'.jobs -> job.jobType ∈ reviewJobTypes -> job ∈ r.jobs := by
    intro job hjob hreview
    rcases (hmem job).mp hjob with hjob | hjob
    · exact hjob
    · rw [hjob] at hreview
      exact absurd hreview htype
  constructor
  · intro job hjob hreview
    rcases h.grouped job (hold job hjob hreview) hreview with ⟨reviewCycleId, hgroup, hcycle⟩
    refine ⟨reviewCycleId, hgroup, ?_⟩
    exact (sameCycles_of_eq hcycles).forth _ hcycle
  · intro lead hlead hlead'
    have hreview : lead.jobType ∈ reviewJobTypes := by
      rw [hlead']
      decide
    rcases h.lead lead (hold lead hlead hreview) hlead' with ⟨hafter, hspecialists⟩
    refine ⟨hafter, ?_⟩
    intro reviewCycleId hgroup jobId
    rw [hspecialists reviewCycleId hgroup jobId]
    constructor
    · intro hjob
      rcases hjob with ⟨job, hjob, hrest⟩
      exact ⟨job, (hmem job).mpr (Or.inl hjob), hrest⟩
    · intro hjob
      rcases hjob with ⟨job, hjob, hid, hspecialist⟩
      refine ⟨job, hold job hjob ?_, hid, hspecialist⟩
      rw [hspecialist.1]
      decide
  · intro cycle hcycle reviewerType hrequired
    rw [hcycles] at hcycle
    rcases h.required cycle hcycle reviewerType hrequired with ⟨job, hjob, hrest⟩
    exact ⟨job, (hmem job).mpr (Or.inl hjob), hrest⟩

/-!
## A dispatch
-/

section Dispatch

variable {now : Millis} {ids : DispatchIds} {params : DispatchReviewersParams} {task : Task}

theorem mem_jobs_of_dispatched (h : Dispatched now ids params task r r') :
    job ∈ r'.jobs <->
      job ∈ r.jobs ∨
      (exists row, row ∈ specialistJobs ids params ∧ newJob now row.1 row.2 = job) ∨
      job = newJob now ids.leadReviewJobId (leadReviewJob ids params) := by
  rw [Table.mem_def, h.jobs, List.mem_append, List.mem_append, List.mem_singleton, newJobs,
    List.mem_map, or_assoc]
  exact Iff.rfl

theorem specialist_of_row {row : JobId × CreateJobData}
    (hrow : row ∈ specialistJobs ids params) :
    row.1 ∈ ids.specialistJobIds ∧
      exists reviewerType, row.2 = specialistJob ids.reviewCycleId params reviewerType := by
  have hzip : (row.1, row.2) ∈ ids.specialistJobIds.zip
      (params.routingDecision.allSpecialists.map (specialistJob ids.reviewCycleId params)) :=
    hrow
  rcases List.of_mem_zip hzip with ⟨hid, hdata⟩
  rcases List.mem_map.mp hdata with ⟨reviewerType, _, heq⟩
  exact ⟨hid, reviewerType, heq.symm⟩

theorem isSpecialist_of_row {row : JobId × CreateJobData}
    (hrow : row ∈ specialistJobs ids params) :
    IsSpecialist ids.reviewCycleId (newJob now row.1 row.2) := by
  rcases (specialist_of_row hrow).2 with ⟨reviewerType, hdata⟩
  rw [hdata]
  exact ⟨rfl, rfl⟩

theorem row_of_specialist
    (hdata : (specialistJobs ids params).map Prod.snd =
      params.routingDecision.allSpecialists.map (specialistJob ids.reviewCycleId params))
    {reviewerType : String} (hmem : reviewerType ∈ params.routingDecision.allSpecialists) :
    exists row, row ∈ specialistJobs ids params ∧
      row.2 = specialistJob ids.reviewCycleId params reviewerType := by
  apply List.mem_map.mp
  rw [hdata]
  exact List.mem_map_of_mem hmem

theorem findCycle_of_dispatched (h : Dispatched now ids params task r r') :
    (r'.findCycle reviewCycleId).isSome = true <->
      (r.findCycle reviewCycleId).isSome = true ∨ reviewCycleId = ids.reviewCycleId := by
  simp only [Option.isSome_iff_exists, ReviewTables.findCycle, Table.find?_eq_some_iff,
    h.cycles]
  constructor
  · intro hcycle
    rcases hcycle with ⟨cycle, hcycle | hcycle, hid⟩
    · exact Or.inl ⟨cycle, hcycle, hid⟩
    · right
      rw [← hid, hcycle]
      rfl
  · intro hcycle
    rcases hcycle with ⟨cycle, hcycle, hid⟩ | hid
    · exact ⟨cycle, Or.inl hcycle, hid⟩
    · exact ⟨_, Or.inr rfl, hid.symm⟩

theorem not_specialist_of_old (hin : FansIn r) (h : Dispatched now ids params task r r')
    (hjob : job ∈ r.jobs) : ¬ IsSpecialist ids.reviewCycleId job := by
  intro hspecialist
  rcases hin.grouped job hjob (by rw [hspecialist.1]; decide) with
    ⟨reviewCycleId, hgroup, hcycle⟩
  rw [hspecialist.2] at hgroup
  cases hgroup
  rw [h.newCycle] at hcycle
  cases hcycle

theorem specialists_of_old_cycle (h : Dispatched now ids params task r r')
    (hold : reviewCycleId ≠ ids.reviewCycleId) (jobId : JobId) :
    (exists job, job ∈ r.jobs ∧ job.jobId = jobId ∧ IsSpecialist reviewCycleId job) <->
      exists job, job ∈ r'.jobs ∧ job.jobId = jobId ∧ IsSpecialist reviewCycleId job := by
  constructor
  · intro hjob
    rcases hjob with ⟨job, hjob, hrest⟩
    exact ⟨job, (mem_jobs_of_dispatched h).mpr (Or.inl hjob), hrest⟩
  · intro hjob
    rcases hjob with ⟨job, hjob, hid, hspecialist⟩
    rcases (mem_jobs_of_dispatched h).mp hjob with hjob | ⟨row, hrow, hjob⟩ | hjob
    · exact ⟨job, hjob, hid, hspecialist⟩
    · have hgroup : (newJob now row.1 row.2).jobGroupId = some ids.reviewCycleId :=
        (isSpecialist_of_row hrow).2
      rw [hjob, hspecialist.2] at hgroup
      exact absurd (Option.some.inj hgroup) hold
    · rw [hjob] at hspecialist
      cases hspecialist.1

/-- The specialists of the new cycle are those that the dispatch has created. -/
theorem specialists_of_new_cycle (hin : FansIn r) (h : Dispatched now ids params task r r')
    (hids : (specialistJobs ids params).map Prod.fst = ids.specialistJobIds)
    (jobId : JobId) :
    jobId ∈ ids.specialistJobIds <->
      exists job, job ∈ r'.jobs ∧ job.jobId = jobId ∧ IsSpecialist ids.reviewCycleId job := by
  constructor
  · intro hid
    rw [← hids] at hid
    rcases List.mem_map.mp hid with ⟨row, hrow, hrowId⟩
    exact ⟨newJob now row.1 row.2,
      (mem_jobs_of_dispatched h).mpr (Or.inr (Or.inl ⟨row, hrow, rfl⟩)), hrowId,
      isSpecialist_of_row hrow⟩
  · intro hjob
    rcases hjob with ⟨job, hjob, hid, hspecialist⟩
    rcases (mem_jobs_of_dispatched h).mp hjob with hjob | ⟨row, hrow, hjob⟩ | hjob
    · exact absurd hspecialist (not_specialist_of_old hin h hjob)
    · rw [← hid, ← hjob]
      exact (specialist_of_row hrow).1
    · rw [hjob] at hspecialist
      cases hspecialist.1

theorem FansIn.of_dispatched (hin : FansIn r) (h : Dispatched now ids params task r r')
    (hids : (specialistJobs ids params).map Prod.fst = ids.specialistJobIds)
    (hdata : (specialistJobs ids params).map Prod.snd =
      params.routingDecision.allSpecialists.map (specialistJob ids.reviewCycleId params)) :
    FansIn r' where
  grouped := by
    intro job hjob htype
    rcases (mem_jobs_of_dispatched h).mp hjob with hjob | ⟨row, hrow, hjob⟩ | hjob
    · rcases hin.grouped job hjob htype with ⟨reviewCycleId, hgroup, hcycle⟩
      exact ⟨reviewCycleId, hgroup, (findCycle_of_dispatched h).mpr (Or.inl hcycle)⟩
    · rw [← hjob]
      exact ⟨ids.reviewCycleId, (isSpecialist_of_row hrow).2,
        (findCycle_of_dispatched h).mpr (Or.inr rfl)⟩
    · rw [hjob]
      exact ⟨ids.reviewCycleId, rfl, (findCycle_of_dispatched h).mpr (Or.inr rfl)⟩
  lead := by
    intro lead hlead htype
    rcases (mem_jobs_of_dispatched h).mp hlead with hlead | ⟨row, hrow, hlead⟩ | hlead
    · rcases hin.lead lead hlead htype with ⟨hafter, hspecialists⟩
      refine ⟨hafter, ?_⟩
      intro reviewCycleId hgroup jobId
      -- The group of an old lead job is that of an old cycle.
      have hold : reviewCycleId ≠ ids.reviewCycleId := by
        intro hsame
        rcases hin.grouped lead hlead (by rw [htype]; decide) with ⟨id, hid, hcycle⟩
        rw [hgroup] at hid
        cases hid
        rw [hsame, h.newCycle] at hcycle
        cases hcycle
      rw [hspecialists reviewCycleId hgroup jobId]
      exact specialists_of_old_cycle h hold jobId
    · rw [← hlead] at htype
      rw [(isSpecialist_of_row hrow).1] at htype
      cases htype
    · rw [hlead]
      refine ⟨rfl, ?_⟩
      intro reviewCycleId hgroup jobId
      cases hgroup
      exact specialists_of_new_cycle hin h hids jobId
  required := by
    intro cycle hcycle reviewerType hrequired
    rcases (h.cycles cycle).mp hcycle with hcycle | hcycle
    · rcases hin.required cycle hcycle reviewerType hrequired with ⟨job, hjob, hrest⟩
      exact ⟨job, (mem_jobs_of_dispatched h).mpr (Or.inl hjob), hrest⟩
    · rw [hcycle] at hrequired ⊢
      have hmem : reviewerType ∈ params.routingDecision.allSpecialists :=
        List.mem_append_left _ hrequired
      rcases row_of_specialist hdata hmem with ⟨row, hrow, hrowData⟩
      refine ⟨newJob now row.1 row.2,
        (mem_jobs_of_dispatched h).mpr (Or.inr (Or.inl ⟨row, hrow, rfl⟩)),
        isSpecialist_of_row hrow, ?_⟩
      have hisRequired : decide (reviewerType ∈ params.routingDecision.requiredReviewers) =
          true :=
        decide_eq_true hrequired
      rw [hrowData]
      simp only [newJob, specialistJob, hisRequired]
      rfl

end Dispatch

/-!
## Every run
-/

theorem fansIn_of_review {port : FollowUpTaskPort} {q : ReviewRequest}
    (hq : DispatchedJobs (.review q)) (hin : FansIn r) (h : performReview port r q = .ok r') :
    FansIn r' := by
  have hsameJobs : r'.jobs = r.jobs -> SameJobs r.jobs r'.jobs := by
    intro hjobs
    rw [hjobs]
    exact SameJobs.refl r.jobs
  cases q with
  | dispatchReviewers now idGenerator params =>
      rcases committedReview_eq_ok.mp h with ⟨result, h⟩
      rcases dispatchReviewers_spec h with ⟨task, hdispatched⟩
      exact hin.of_dispatched hdispatched (specialistJobs_ids idGenerator params)
        (specialistJobs_data idGenerator params)
  | assembleLeadReviewContext params =>
      rcases committedReview_eq_ok.mp h with ⟨result, h⟩
      rcases assembleLeadReviewContext_spec h with ⟨cycle, hconsolidated⟩
      exact hin.of_same (hsameJobs hconsolidated.kept.2)
        (sameCycles_of_move hconsolidated.cycles)
  | applyDecision idGenerator params =>
      rcases committedReview_eq_ok.mp h with ⟨result, h⟩
      rcases applyDecision_spec h with ⟨packet, task, cycle, hdecided⟩
      exact hin.of_same (hsameJobs hdecided.jobs) (sameCycles_of_move hdecided.cycles)
  | transitionReviewCycle reviewCycleId targetStatus context actor =>
      rcases committedReview_eq_ok.mp h with ⟨event, h⟩
      rcases transitionReviewCycle_spec h with ⟨cycle, _, _, _, hr'⟩
      have hcycles : r'.reviewCycles =
          (r.writeCycle reviewCycleId targetStatus).reviewCycles := by
        rw [hr']
        rfl
      apply hin.of_same _ (sameCycles_of_move hcycles)
      apply hsameJobs
      rw [hr']
      rfl
  | createPacket packet =>
      rcases ReviewTables.createPacket_spec h with ⟨_, hjobs, hcycles, _⟩
      exact hin.of_same (hsameJobs hjobs) (sameCycles_of_eq hcycles)
  | job q =>
      rcases job_spec h with ⟨jobs, hstep, hr'⟩
      rw [hr']
      cases jobEffect_of_step hstep with
      | unchanged hjobs =>
          rw [hjobs]
          exact hin.of_same (SameJobs.refl r.jobs) (sameCycles_of_eq rfl)
      | created now jobId data hrequest _ hrows =>
          rw [hrequest] at hq
          exact hin.of_new_job hq hrows rfl
      | moved moved f hf hsame _ hjobs =>
          rw [hjobs]
          exact hin.of_same (sameJobs_modify hf hsame) (sameCycles_of_eq rfl)
  | request q =>
      rcases request_spec h with ⟨_, hsame⟩
      exact hin.of_same (hsameJobs hsame.jobs) (sameCycles_of_eq hsame.cycles)

theorem fansIn_preserved (port : FollowUpTaskPort) :
    (fanIn port).Preserves DispatchedJobs FansIn := by
  intro r step r' hclass hin hstep
  cases step with
  | review q =>
      exact fansIn_of_review hclass hin hstep
  | setStatus jobId status =>
      cases hstep
      apply hin.of_same
      · exact sameJobs_modify (withStatus_jobId status)
          (fun job => ⟨rfl, rfl, rfl, rfl, rfl, rfl⟩)
      · exact sameCycles_of_eq rfl

/-!
## The two completion checks

The queue lets the lead reviewer wait until the specialists are completed or failed.
The consolidation also takes a cancelled one for complete.
-/

theorem allTerminal_group_iff :
    (checkSpecialistJobsCompletion (findJobsByGroup reviewCycleId r.jobs)).allTerminal = true <->
      forall job, job ∈ r.jobs -> IsSpecialist reviewCycleId job ->
        job.status ∈ terminalJobStatuses := by
  rw [allTerminal_iff]
  constructor
  · intro h job hjob hspecialist
    exact h job (mem_findJobsByGroup.mpr ⟨hjob, hspecialist.2⟩) hspecialist.1
  · intro h job hjob htype
    rcases mem_findJobsByGroup.mp hjob with ⟨hmem, hgroup⟩
    exact h job hmem ⟨htype, hgroup⟩

/-- The job of the lead reviewer of a cycle that nobody has claimed yet. -/
structure Waiting (r : ReviewTables) (reviewCycleId : ReviewCycleId) (lead : Job) : Prop where
  present : lead ∈ r.jobs
  type_eq : lead.jobType = .leadReviewConsolidation
  group : lead.jobGroupId = some reviewCycleId
  pending : lead.status = .pending

theorem eligible_lead_iff (hin : FansIn r) {lead : Job} (hlead : Waiting r reviewCycleId lead)
    (now : Millis) :
    Eligible .leadReviewConsolidation now r.jobs lead <->
      forall job, job ∈ r.jobs -> IsSpecialist reviewCycleId job ->
        job.status = .completed ∨ job.status = .failed := by
  rcases hin.lead lead hlead.present hlead.type_eq with ⟨hafter, hspecialists⟩
  have hdue : isDue lead.runAfter now = true := by
    rw [hafter]
    rfl
  unfold Eligible
  rw [dependenciesMet_iff]
  constructor
  · intro h job hjob hspecialist
    rcases h with ⟨_, _, _, _, hmet⟩
    have hdepends := (hspecialists reviewCycleId hlead.group job.jobId).mpr
      ⟨job, hjob, rfl, hspecialist⟩
    rcases hmet job.jobId hdepends with ⟨dependency, hfind, hover⟩
    rw [Table.find?_key_of_mem hjob] at hfind
    cases hfind
    exact hover
  · intro h
    refine ⟨hlead.present, hlead.pending, hlead.type_eq, hdue, ?_⟩
    intro dependencyId hdepends
    rcases (hspecialists reviewCycleId hlead.group dependencyId).mp hdepends with
      ⟨job, hjob, hid, hspecialist⟩
    exact ⟨job, Table.find?_eq_some_iff.mpr ⟨hjob, hid⟩, h job hjob hspecialist⟩

/-- No specialist of the cycle is cancelled, or some are still at work. -/
def NoneCancelled (r : ReviewTables) (reviewCycleId : ReviewCycleId) : Prop :=
  (forall job, job ∈ r.jobs -> IsSpecialist reviewCycleId job -> job.status ≠ .cancelled) ∨
    exists job, job ∈ r.jobs ∧ IsSpecialist reviewCycleId job ∧
      job.status ∉ terminalJobStatuses

theorem mem_terminalJobStatuses {status : JobStatus} :
    status ∈ terminalJobStatuses <->
      (status = .completed ∨ status = .failed) ∨ status = .cancelled := by
  cases status <;> decide

/-- In every state of every run, the job of a lead reviewer may be claimed as soon as the
specialists count as complete, and not before, exactly if none of them is cancelled when
all are over. -/
theorem fanIn_checks_agree_iff (port : FollowUpTaskPort) (r : ReviewTables)
    (steps : List FanInStep) (hsteps : forall step, step ∈ steps -> DispatchedJobs step)
    (hin : FansIn r) (t : ReviewTables) (ht : t ∈ (fanIn port).states r steps)
    (reviewCycleId : ReviewCycleId) (lead : Job) (hlead : Waiting t reviewCycleId lead)
    (now : Millis) :
    (Eligible .leadReviewConsolidation now t.jobs lead <->
      (checkSpecialistJobsCompletion
        (findJobsByGroup reviewCycleId t.jobs)).allTerminal = true) <->
      NoneCancelled t reviewCycleId := by
  have hfans : FansIn t := (fansIn_preserved port).states hsteps hin ht
  rw [eligible_lead_iff hfans hlead now, allTerminal_group_iff]
  constructor
  · intro hagree
    by_cases hall : forall job, job ∈ t.jobs -> IsSpecialist reviewCycleId job ->
        job.status ∈ terminalJobStatuses
    · left
      intro job hjob hspecialist hcancelled
      rcases hagree.mpr hall job hjob hspecialist with hstatus | hstatus
      · rw [hcancelled] at hstatus
        cases hstatus
      · rw [hcancelled] at hstatus
        cases hstatus
    · right
      simp only [not_forall, exists_prop] at hall
      exact hall
  · intro hnone
    constructor
    · intro hover job hjob hspecialist
      exact mem_terminalJobStatuses.mpr (Or.inl (hover job hjob hspecialist))
    · intro hall job hjob hspecialist
      rcases hnone with hnone | ⟨other, hother, hspecialist', hpending⟩
      · rcases mem_terminalJobStatuses.mp (hall job hjob hspecialist) with hover | hcancelled
        · exact hover
        · exact absurd hcancelled (hnone job hjob hspecialist)
      · exact absurd (hall other hother hspecialist') hpending

def sampleLead : Job :=
  newJob 0 "a1"
    (leadReviewJob (generateIds (sampleIds "a") reviewParams.routingDecision.allSpecialists)
      reviewParams)

def endedSpecialists (first second : JobStatus) : List FanInStep :=
  firstReview.map .review ++ [.setStatus "a2" first, .setStatus "a3" second]

def afterSpecialists (first second : JobStatus) : ReviewTables :=
  (fanIn plainFollowUps).run ReviewTables.empty (endedSpecialists first second)

theorem endedSpecialists_dispatched (first second : JobStatus) :
    forall step, step ∈ endedSpecialists first second -> DispatchedJobs step := by
  simp [endedSpecialists, firstReview, developedTask, DispatchedJobs]

theorem waiting_sampleLead {first second : JobStatus}
    (h : (afterSpecialists first second).jobs.find? "a1" = some sampleLead) :
    Waiting (afterSpecialists first second) "a0" sampleLead where
  present := Table.mem_of_find? h
  type_eq := rfl
  group := by decide +kernel
  pending := rfl

theorem fanIn_checks_agree_failed_reviewer :
    (Eligible .leadReviewConsolidation 60000 (afterSpecialists .completed .failed).jobs
        sampleLead <->
      (checkSpecialistJobsCompletion
        (findJobsByGroup "a0" (afterSpecialists .completed .failed).jobs)).allTerminal =
          true) <->
      NoneCancelled (afterSpecialists .completed .failed) "a0" :=
  fanIn_checks_agree_iff plainFollowUps ReviewTables.empty
    (endedSpecialists .completed .failed) (endedSpecialists_dispatched _ _) fansIn_empty
    (afterSpecialists .completed .failed) ((fanIn plainFollowUps).run_mem_states _ _) "a0"
    sampleLead (waiting_sampleLead (by decide +kernel)) 60000

/-- All specialists are over, one of them cancelled, and the lead reviewer is not called. -/
theorem cancelled_reviewer_hangs_fanIn :
    (forall step, step ∈ endedSpecialists .completed .cancelled -> DispatchedJobs step) ∧
      Waiting (afterSpecialists .completed .cancelled) "a0" sampleLead ∧
      ¬ (Eligible .leadReviewConsolidation 60000
          (afterSpecialists .completed .cancelled).jobs sampleLead <->
        (checkSpecialistJobsCompletion
          (findJobsByGroup "a0" (afterSpecialists .completed .cancelled).jobs)).allTerminal =
            true) := by
  refine ⟨endedSpecialists_dispatched _ _, waiting_sampleLead (by decide +kernel), ?_⟩
  intro hagree
  have hterminal : (checkSpecialistJobsCompletion
      (findJobsByGroup "a0" (afterSpecialists .completed .cancelled).jobs)).allTerminal =
        true := by
    decide +kernel
  have hmet : dependenciesMet (afterSpecialists .completed .cancelled).jobs sampleLead =
      false := by
    decide +kernel
  rcases hagree.mpr hterminal with ⟨_, _, _, _, hmet'⟩
  rw [hmet] at hmet'
  cases hmet'

end Reviewing
end CopilotFactory
