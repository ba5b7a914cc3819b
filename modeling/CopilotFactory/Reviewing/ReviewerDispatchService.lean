import CopilotFactory.Reviewing.ReviewTables

/-!
# Reviewer dispatch

A task whose development is complete is sent to review: a routed cycle, one job for
each specialist, a job for the lead reviewer that waits for them, and the transition of
the task, in one transaction.
-/

namespace CopilotFactory
namespace Reviewing

open Foundations
open Domain
open Infrastructure
open Application

variable {now : Millis} {r r' : ReviewTables}

structure RoutingDecision where
  requiredReviewers : List String
  optionalReviewers : List String
deriving DecidableEq

def RoutingDecision.allSpecialists (decision : RoutingDecision) : List String :=
  decision.requiredReviewers ++ decision.optionalReviewers

structure DispatchReviewersParams where
  taskId : TaskId
  routingDecision : RoutingDecision
  actor : ActorInfo

structure DispatchIds where
  reviewCycleId : ReviewCycleId
  leadReviewJobId : JobId
  specialistJobIds : List JobId
deriving DecidableEq

def generateIds (idGenerator : Nat -> String) (specialists : List String) : DispatchIds where
  reviewCycleId := idGenerator 0
  leadReviewJobId := idGenerator 1
  specialistJobIds := (List.range specialists.length).map (fun i => idGenerator (i + 2))

structure DispatchReviewersResult where
  ids : DispatchIds
  task : Task
  auditEvents : List AuditEvent

/-!
## The rows
-/

def newCycle (now : Millis) (reviewCycleId : ReviewCycleId)
    (params : DispatchReviewersParams) : ReviewCycle where
  reviewCycleId := reviewCycleId
  taskId := params.taskId
  status := .notStarted
  requiredReviewers := params.routingDecision.requiredReviewers
  optionalReviewers := params.routingDecision.optionalReviewers
  startedAt := toColumn now

def specialistJob (reviewCycleId : ReviewCycleId) (params : DispatchReviewersParams)
    (reviewerType : String) : CreateJobData where
  jobType := .reviewerDispatch
  jobGroupId := some reviewCycleId
  reviewPayload := some
    (.reviewer reviewCycleId params.taskId reviewerType
      (reviewerType ∈ params.routingDecision.requiredReviewers))

/-- Without specialists the column is null, which is read as an empty list. -/
def leadReviewJob (ids : DispatchIds) (params : DispatchReviewersParams) :
    CreateJobData where
  jobType := .leadReviewConsolidation
  dependsOnJobIds := ids.specialistJobIds
  jobGroupId := some ids.reviewCycleId
  reviewPayload := some (.leadReviewer ids.reviewCycleId params.taskId)

def specialistJobs (ids : DispatchIds) (params : DispatchReviewersParams) :
    List (JobId × CreateJobData) :=
  ids.specialistJobIds.zip
    (params.routingDecision.allSpecialists.map (specialistJob ids.reviewCycleId params))

def createJobs (now : Millis) (data : List (JobId × CreateJobData))
    (jobs : JobTable) : Except ServiceError JobTable :=
  data.foldlM (fun table row => (createJob now row.1 row.2 table).map Prod.fst) jobs

def reviewUpdate (reviewCycleId : ReviewCycleId) : TaskUpdate where
  status := some .inReview
  currentReviewCycleId := some (some reviewCycleId)

def cycleCreatedAudit (reviewCycleId : ReviewCycleId) (actor : ActorInfo) : AuditEvent where
  entityType := "review-cycle"
  entityId := reviewCycleId
  eventType := "review-cycle.created-and-routed"
  actorType := actor.type
  actorId := actor.id
  oldState := none
  newState := some (.plain ReviewCycleStatus.routed.label)

def taskInReviewAudit (taskId : TaskId) (actor : ActorInfo) : AuditEvent where
  entityType := "task"
  entityId := taskId
  eventType := "task.transitioned"
  actorType := actor.type
  actorId := actor.id
  oldState := some (.plain TaskStatus.devComplete.label)
  newState := some (.plain TaskStatus.inReview.label)

/-!
## The transaction
-/

def dispatchReviewers (now : Millis) (idGenerator : Nat -> String)
    (params : DispatchReviewersParams)
    (r : ReviewTables) : Except ServiceError (ReviewTables × DispatchReviewersResult) := do
  let ids := generateIds idGenerator params.routingDecision.allSpecialists
  let task ← orThrow (r.store.findTask params.taskId) (.entityNotFound "Task" params.taskId)
  ensure (task.status = .devComplete)
    (.invalidTransition "Task" params.taskId task.status.label TaskStatus.inReview.label
      s!"Task must be in DEV_COMPLETE state, but is {task.status.label}")
  commitTransition "Task" params.taskId task.status.label TaskStatus.inReview.label
    (validateTransition task.status .inReview { hasReviewRoutingDecision := some true })
  let r₁ ← r.createCycle (newCycle now ids.reviewCycleId params)
  commitTransition "ReviewCycle" ids.reviewCycleId ReviewCycleStatus.notStarted.label
    ReviewCycleStatus.routed.label
    (validateReviewCycleTransition .notStarted .routed
      { routingDecisionEmitted := some true })
  let r₂ ← orThrow (r₁.updateCycleStatus ids.reviewCycleId .notStarted .routed)
    (.invalidTransition "ReviewCycle" ids.reviewCycleId ReviewCycleStatus.notStarted.label
      ReviewCycleStatus.routed.label
      "Status update failed — concurrent modification detected")
  let jobs₁ ← createJobs now (specialistJobs ids params) r₂.jobs
  let (jobs₂, _) ← createJob now ids.leadReviewJobId (leadReviewJob ids params) jobs₁
  let r₃ ← (r₂.withJobs jobs₂).updateTask params.taskId task.version
    (reviewUpdate ids.reviewCycleId)
  let cycleAudit := cycleCreatedAudit ids.reviewCycleId params.actor
  let taskAudit := taskInReviewAudit params.taskId params.actor
  pure ((r₃.appendAudit cycleAudit).appendAudit taskAudit,
    { ids := ids
      task := (reviewUpdate ids.reviewCycleId).apply (task.version + 1) task
      auditEvents := [cycleAudit, taskAudit] })

/-!
## What a dispatch does
-/

def newJobs (now : Millis) (data : List (JobId × CreateJobData)) : List Job :=
  data.map (fun row => newJob now row.1 row.2)

theorem createJobs_spec {data : List (JobId × CreateJobData)} {jobs jobs' : JobTable}
    (h : createJobs now data jobs = .ok jobs') : jobs'.rows = jobs.rows ++ newJobs now data := by
  induction data generalizing jobs with
  | nil =>
      cases h
      simp [newJobs]
  | cons row rest ih =>
      unfold createJobs at h
      rw [List.foldlM_cons] at h
      rcases bind_eq_ok.mp h with ⟨middle, hfirst, hrest⟩
      rcases map_eq_ok.mp hfirst with ⟨⟨table, job⟩, hcreate, htable⟩
      rcases createJob_spec hcreate with ⟨hjob, hrows⟩
      have hmiddle : middle.rows = jobs.rows ++ [newJob now row.1 row.2] := by
        rw [← htable, ← hjob]
        exact hrows
      rw [ih hrest, hmiddle, List.append_assoc]
      rfl

def routedCycle (now : Millis) (reviewCycleId : ReviewCycleId)
    (params : DispatchReviewersParams) : ReviewCycle :=
  ReviewTables.withStatus .routed (newCycle now reviewCycleId params)

structure Dispatched (now : Millis) (ids : DispatchIds) (params : DispatchReviewersParams)
    (task : Task) (r r' : ReviewTables) : Prop where
  found : r.store.findTask params.taskId = some task
  devComplete : task.status = .devComplete
  newCycle : r.findCycle ids.reviewCycleId = none
  store : r'.store = ((r.store.writeTask params.taskId (task.version + 1)
    (reviewUpdate ids.reviewCycleId)).appendAudit
      (cycleCreatedAudit ids.reviewCycleId params.actor)).appendAudit
        (taskInReviewAudit params.taskId params.actor)
  cycles : forall c, c ∈ r'.reviewCycles <->
    c ∈ r.reviewCycles ∨ c = routedCycle now ids.reviewCycleId params
  jobs : r'.jobs.rows = r.jobs.rows ++ newJobs now (specialistJobs ids params) ++
    [newJob now ids.leadReviewJobId (leadReviewJob ids params)]
  packets : r'.reviewPackets = r.reviewPackets
  decisions : r'.leadReviewDecisions = r.leadReviewDecisions

theorem dispatchReviewers_spec {idGenerator : Nat -> String} {params : DispatchReviewersParams}
    {result : DispatchReviewersResult}
    (h : dispatchReviewers now idGenerator params r = .ok (r', result)) :
    exists task, Dispatched now
      (generateIds idGenerator params.routingDecision.allSpecialists) params task r r' := by
  simp only [dispatchReviewers, bind_eq_ok, orThrow_eq_ok, ensure_eq_ok,
    commitTransition_eq_ok, pure_eq_ok, Prod.mk.injEq, Prod.exists] at h
  generalize generateIds idGenerator params.routingDecision.allSpecialists = ids at h ⊢
  rcases h with ⟨task, htask, _, hstatus, _, _, r₁, hcreate, _, _, r₂, hroute, jobs₁,
    hspecialists, jobs₂, lead, hlead, r₃, hupdate, hr', _⟩
  rcases ReviewTables.createCycle_spec hcreate with
    ⟨hnew, hstore₁, hjobs₁, hpackets₁, hdecisions₁, hcycles₁⟩
  rcases ReviewTables.updateCycleStatus_eq_some.mp hroute with ⟨_, _, _, hr₂⟩
  rcases ReviewTables.updateTask_eq_ok.mp hupdate with ⟨_, _, _, hr₃⟩
  rcases createJob_spec hlead with ⟨hleadJob, hrows⟩
  have hother : forall c, c ∈ r.reviewCycles -> c.reviewCycleId ≠ ids.reviewCycleId :=
    Table.find?_eq_none_iff.mp hnew
  refine ⟨task, htask, hstatus, hnew, ?_, ?_, ?_, ?_, ?_⟩
  · rw [← hr', hr₃, hr₂]
    show ((r₁.store.writeTask _ _ _).appendAudit _).appendAudit _ = _
    rw [hstore₁]
  · intro c
    rw [← hr', hr₃, hr₂]
    show c ∈ (r₁.writeCycle _ .routed).reviewCycles <-> _
    rw [ReviewTables.mem_writeCycle]
    constructor
    · intro hc
      rcases hc with ⟨old, hold, hc⟩
      rcases (hcycles₁ old).mp hold with hold | hold
      · left
        rw [hc, if_neg (hother old hold)]
        exact hold
      · right
        rw [hc, hold]
        exact if_pos rfl
    · intro hc
      rcases hc with hc | hc
      · exact ⟨c, (hcycles₁ c).mpr (Or.inl hc), (if_neg (hother c hc)).symm⟩
      · refine ⟨_, (hcycles₁ _).mpr (Or.inr rfl), ?_⟩
        rw [hc]
        exact (if_pos rfl).symm
  · rw [← hr', hr₃]
    show jobs₂.rows = _
    rw [hrows, createJobs_spec hspecialists, hleadJob, hr₂]
    show r₁.jobs.rows ++ _ ++ _ = _
    rw [hjobs₁]
  · rw [← hr', hr₃, hr₂]
    exact hpackets₁
  · rw [← hr', hr₃, hr₂]
    exact hdecisions₁

theorem dispatchReviewers_cycleRows {idGenerator : Nat -> String}
    {params : DispatchReviewersParams} {result : DispatchReviewersResult}
    (h : dispatchReviewers now idGenerator params r = .ok (r', result)) :
    r'.reviewCycles.rows = r.reviewCycles.rows ++
      [routedCycle now
        (generateIds idGenerator params.routingDecision.allSpecialists).reviewCycleId
        params] := by
  simp only [dispatchReviewers, bind_eq_ok, orThrow_eq_ok, ensure_eq_ok,
    commitTransition_eq_ok, pure_eq_ok, Prod.mk.injEq, Prod.exists] at h
  generalize generateIds idGenerator params.routingDecision.allSpecialists = ids at h ⊢
  rcases h with ⟨_, _, _, _, _, _, r₁, hcreate, _, _, r₂, hroute, jobs₁, _, jobs₂, _, _,
    r₃, hupdate, hr', _⟩
  rcases ReviewTables.updateCycleStatus_eq_some.mp hroute with ⟨_, _, _, hr₂⟩
  rcases ReviewTables.updateTask_eq_ok.mp hupdate with ⟨_, _, _, hr₃⟩
  have hother : forall c, c ∈ r.reviewCycles.rows -> c.reviewCycleId ≠ ids.reviewCycleId :=
    Table.find?_eq_none_iff.mp (ReviewTables.createCycle_spec hcreate).1
  have hrows : (r₁.writeCycle ids.reviewCycleId .routed).reviewCycles.rows =
      r.reviewCycles.rows ++ [routedCycle now ids.reviewCycleId params] := by
    show r₁.reviewCycles.rows.map _ = _
    rw [ReviewTables.createCycle_rows hcreate, List.map_append]
    congr 1
    · apply (List.map_congr_left _).trans (List.map_id _)
      intro c hc
      exact if_neg (hother c hc)
    · show [_] = [_]
      congr 1
      exact if_pos rfl
  rw [← hr', hr₃, hr₂]
  exact hrows

/-!
## When a dispatch is accepted
-/

/-- The ids are new and differ from each other, as those of a generator do. -/
structure FreshIds (ids : DispatchIds) (r : ReviewTables) : Prop where
  cycle : r.findCycle ids.reviewCycleId = none
  distinct : (ids.specialistJobIds ++ [ids.leadReviewJobId]).Nodup
  jobs : forall jobId, jobId ∈ ids.specialistJobIds ++ [ids.leadReviewJobId] ->
    r.jobs.find? jobId = none

theorem createJobs_of_fresh (now : Millis) {data : List (JobId × CreateJobData)}
    {jobs : JobTable} (hdistinct : (data.map Prod.fst).Nodup)
    (hfresh : forall row, row ∈ data -> jobs.find? row.1 = none) :
    exists jobs', createJobs now data jobs = .ok jobs' := by
  induction data generalizing jobs with
  | nil =>
      exact ⟨jobs, rfl⟩
  | cons row rest ih =>
      rw [List.map_cons, List.nodup_cons] at hdistinct
      rcases createJob_of_fresh now row.2 (hfresh row List.mem_cons_self) with
        ⟨⟨middle, job⟩, hcreate⟩
      have hkept : forall other, other ∈ rest -> middle.find? other.1 = none := by
        intro other hother
        have hnone := hfresh other (List.mem_cons_of_mem row hother)
        rw [Table.find?_eq_none_iff] at hnone ⊢
        intro stored hstored hid
        rcases createJob_spec hcreate with ⟨hjob, hrows⟩
        rw [Table.mem_def, hrows, List.mem_append, List.mem_singleton] at hstored
        rcases hstored with hstored | hstored
        · exact hnone stored hstored hid
        · rw [hstored, hjob] at hid
          apply hdistinct.1
          rw [show row.1 = other.1 from hid]
          exact List.mem_map_of_mem hother
      rcases ih hdistinct.2 hkept with ⟨jobs', hjobs'⟩
      refine ⟨jobs', ?_⟩
      unfold createJobs
      rw [List.foldlM_cons, hcreate]
      exact hjobs'

theorem specialistJobs_ids (idGenerator : Nat -> String) (params : DispatchReviewersParams) :
    (specialistJobs (generateIds idGenerator params.routingDecision.allSpecialists)
      params).map Prod.fst =
        (generateIds idGenerator params.routingDecision.allSpecialists).specialistJobIds := by
  unfold specialistJobs
  rw [List.map_fst_zip]
  simp [generateIds]

theorem specialistJobs_data (idGenerator : Nat -> String) (params : DispatchReviewersParams) :
    (specialistJobs (generateIds idGenerator params.routingDecision.allSpecialists)
      params).map Prod.snd =
        params.routingDecision.allSpecialists.map (specialistJob (idGenerator 0) params) := by
  unfold specialistJobs
  rw [List.map_snd_zip]
  · rfl
  · simp [generateIds]

theorem Dispatched.freshIds {ids : DispatchIds} {params : DispatchReviewersParams} {task : Task}
    (h : Dispatched now ids params task r r')
    (hids : (specialistJobs ids params).map Prod.fst = ids.specialistJobIds) :
    FreshIds ids r := by
  have hkeys : (r.jobs.rows.map Job.jobId ++
      (ids.specialistJobIds ++ [ids.leadReviewJobId])).Nodup := by
    have hnodup := r'.jobs.nodup
    rw [h.jobs, List.append_assoc, List.map_append, List.map_append] at hnodup
    have hnew : (newJobs now (specialistJobs ids params)).map Job.jobId =
        ids.specialistJobIds := by
      rw [← hids, newJobs, List.map_map]
      rfl
    rw [hnew] at hnodup
    exact hnodup
  rw [List.nodup_append] at hkeys
  refine ⟨h.newCycle, hkeys.2.1, ?_⟩
  intro jobId hjobId
  rw [Table.find?_eq_none_iff]
  intro job hjob
  exact hkeys.2.2 job.jobId (List.mem_map_of_mem hjob) jobId hjobId

theorem FreshIds.createJobs {ids : DispatchIds} {params : DispatchReviewersParams}
    (h : FreshIds ids r) (now : Millis)
    (hids : (specialistJobs ids params).map Prod.fst = ids.specialistJobIds) :
    exists jobs₁ jobs₂ lead,
      Reviewing.createJobs now (specialistJobs ids params) r.jobs = .ok jobs₁ ∧
      createJob now ids.leadReviewJobId (leadReviewJob ids params) jobs₁ =
        .ok (jobs₂, lead) := by
  have hdistinct := List.nodup_append.mp h.distinct
  have hnodup : ((specialistJobs ids params).map Prod.fst).Nodup := by
    rw [hids]
    exact hdistinct.1
  have hunused : forall row, row ∈ specialistJobs ids params ->
      r.jobs.find? row.1 = none := by
    intro row hrow
    apply h.jobs
    apply List.mem_append_left
    rw [← hids]
    exact List.mem_map_of_mem hrow
  rcases createJobs_of_fresh now hnodup hunused with ⟨jobs₁, hspecialists⟩
  have hlead : jobs₁.find? ids.leadReviewJobId = none := by
    have hold := h.jobs ids.leadReviewJobId
      (List.mem_append_right _ (List.mem_singleton_self _))
    rw [Table.find?_eq_none_iff] at hold ⊢
    intro job hjob hid
    rw [Table.mem_def, createJobs_spec hspecialists, List.mem_append] at hjob
    rcases hjob with hjob | hjob
    · exact hold job hjob hid
    · rcases List.mem_map.mp hjob with ⟨row, hrow, hnewJob⟩
      rw [← hnewJob] at hid
      refine hdistinct.2.2 row.1 ?_ ids.leadReviewJobId (List.mem_singleton_self _) hid
      rw [← hids]
      exact List.mem_map_of_mem hrow
  rcases createJob_of_fresh now (leadReviewJob ids params) hlead with
    ⟨⟨jobs₂, lead⟩, hleadJob⟩
  exact ⟨jobs₁, jobs₂, lead, hspecialists, hleadJob⟩

/-- A dispatch is accepted if its task's development is complete and its ids are new. -/
theorem dispatchReviewers_accepted_iff (now : Millis) (idGenerator : Nat -> String)
    (params : DispatchReviewersParams) (r : ReviewTables) :
    (exists result, dispatchReviewers now idGenerator params r = .ok result) <->
      (exists task, r.store.findTask params.taskId = some task ∧
        task.status = .devComplete) ∧
      FreshIds (generateIds idGenerator params.routingDecision.allSpecialists) r := by
  have hspecialistIds := specialistJobs_ids idGenerator params
  constructor
  · intro h
    rcases h with ⟨⟨r', result⟩, h⟩
    rcases dispatchReviewers_spec h with ⟨task, hdispatched⟩
    exact ⟨⟨task, hdispatched.found, hdispatched.devComplete⟩,
      hdispatched.freshIds hspecialistIds⟩
  · intro h
    rcases h with ⟨⟨task, htask, hstatus⟩, hfresh⟩
    simp only [dispatchReviewers, htask, orThrow_some, ok_bind, ensure_of hstatus]
    generalize generateIds idGenerator params.routingDecision.allSpecialists = ids at *
    have hvalid : validateTransition task.status .inReview
        { hasReviewRoutingDecision := some true } = .valid := by
      rw [hstatus]
      rfl
    have hrouted : validateReviewCycleTransition .notStarted .routed
        { routingDecisionEmitted := some true } = .valid :=
      rfl
    have hsome : (r.store.findTask params.taskId).isSome = true := by
      rw [htask]
      rfl
    rcases ReviewTables.createCycle_of_new (newCycle now ids.reviewCycleId params)
      hfresh.cycle hsome with ⟨r₁, hcreate, hfind⟩
    rcases ReviewTables.createCycle_spec hcreate with ⟨_, hstore₁, hjobs₁, _⟩
    have hroute : r₁.updateCycleStatus ids.reviewCycleId .notStarted .routed =
        some (r₁.writeCycle ids.reviewCycleId .routed) :=
      ReviewTables.updateCycleStatus_eq_some.mpr ⟨_, hfind, rfl, rfl⟩
    rcases hfresh.createJobs now hspecialistIds with
      ⟨jobs₁, jobs₂, lead, hspecialists, hleadJob⟩
    have hupdate : ((r₁.writeCycle ids.reviewCycleId .routed).withJobs jobs₂).updateTask
        params.taskId task.version (reviewUpdate ids.reviewCycleId) =
          .ok (((r₁.writeCycle ids.reviewCycleId .routed).withJobs jobs₂).writeTask
            params.taskId (task.version + 1) (reviewUpdate ids.reviewCycleId)) := by
      apply ReviewTables.updateTask_eq_ok.mpr
      refine ⟨task, ?_, rfl, rfl⟩
      show r₁.store.findTask params.taskId = some task
      rw [hstore₁]
      exact htask
    simp only [hvalid, hrouted, commitTransition, ok_bind, hcreate, hroute, orThrow_some,
      ReviewTables.writeCycle_jobs, hjobs₁, hspecialists, hleadJob, hupdate]
    exact ⟨_, rfl⟩

end Reviewing
end CopilotFactory
