import CopilotFactory.Reviewing.ReviewTables

/-!
# Lead review consolidation

Once the specialist jobs of a cycle are over, the cycle is consolidated: the lead
reviewer gets the packets of the cycle and those of the earlier ones.  Whether a
required reviewer has handed in a packet is not asked.
-/

namespace CopilotFactory
namespace Reviewing

open Foundations
open Domain
open Infrastructure
open Application

variable {cycle : ReviewCycle} {r r' : ReviewTables}

/-- The statuses in which a specialist job counts as complete. -/
def terminalJobStatuses : List JobStatus :=
  [.completed, .failed, .cancelled]

structure AssembleLeadReviewContextParams where
  taskId : TaskId
  reviewCycleId : ReviewCycleId
  actor : ActorInfo

structure ReviewCycleHistoryEntry where
  cycle : ReviewCycle
  specialistPackets : List ReviewPacket
deriving DecidableEq

structure AssembleLeadReviewContextResult where
  reviewCycle : ReviewCycle
  specialistPackets : List ReviewPacket
  reviewHistory : List ReviewCycleHistoryEntry
  specialistJobs : List Job
  auditEvents : List AuditEvent

def getConsolidationSourceStatus (cycle : ReviewCycle) : Option ReviewCycleStatus :=
  if cycle.status = .inProgress ∨ cycle.status = .awaitingRequiredReviews then
    some cycle.status
  else
    none

structure SpecialistCompletion where
  allTerminal : Bool
  specialistJobs : List Job
  pendingJobIds : List JobId

def checkSpecialistJobsCompletion (jobs : List Job) : SpecialistCompletion :=
  let specialistJobs := jobs.filter (fun job => job.jobType = .reviewerDispatch)
  let pendingJobIds :=
    (specialistJobs.filter (fun job => job.status ∉ terminalJobStatuses)).map Job.jobId
  { allTerminal := pendingJobIds.isEmpty
    specialistJobs := specialistJobs
    pendingJobIds := pendingJobIds }

/-- The other cycles of the task, the oldest first. -/
def buildReviewHistory (allCycles : List ReviewCycle) (currentCycleId : ReviewCycleId)
    (getPackets : ReviewCycleId -> List ReviewPacket) : List ReviewCycleHistoryEntry :=
  ((allCycles.filter (fun cycle => cycle.reviewCycleId ≠ currentCycleId)).mergeSort
    (fun left right => left.startedAt ≤ right.startedAt)).map (fun cycle =>
      { cycle := cycle, specialistPackets := getPackets cycle.reviewCycleId })

def consolidationAudit (params : AssembleLeadReviewContextParams)
    (sourceStatus : ReviewCycleStatus) : AuditEvent where
  entityType := "review-cycle"
  entityId := params.reviewCycleId
  eventType := "review-cycle.consolidation-started"
  actorType := params.actor.type
  actorId := params.actor.id
  oldState := some (.plain sourceStatus.label)
  newState := some (.plain ReviewCycleStatus.consolidating.label)

def notConsolidated (params : AssembleLeadReviewContextParams)
    (status : ReviewCycleStatus) (reason : String) : ServiceError :=
  .invalidTransition "ReviewCycle" params.reviewCycleId status.label
    ReviewCycleStatus.consolidating.label reason

def assembleLeadReviewContext (params : AssembleLeadReviewContextParams)
    (r : ReviewTables) :
    Except ServiceError (ReviewTables × AssembleLeadReviewContextResult) := do
  let _ ← orThrow (r.store.findTask params.taskId) (.entityNotFound "Task" params.taskId)
  let cycle ← orThrow (r.findCycle params.reviewCycleId)
    (.entityNotFound "ReviewCycle" params.reviewCycleId)
  ensure (cycle.taskId = params.taskId)
    (.entityNotFound "ReviewCycle"
      s!"{params.reviewCycleId} (not associated with task {params.taskId})")
  let sourceStatus ← orThrow (getConsolidationSourceStatus cycle)
    (notConsolidated params cycle.status
      (s!"ReviewCycle must be in IN_PROGRESS or AWAITING_REQUIRED_REVIEWS state, " ++
        s!"but is {cycle.status.label}"))
  let completion := checkSpecialistJobsCompletion
    (findJobsByGroup params.reviewCycleId r.jobs)
  ensure (completion.allTerminal = true)
    (notConsolidated params cycle.status
      ("Cannot consolidate: specialist jobs not yet complete. Pending: [" ++
        ", ".intercalate completion.pendingJobIds ++ "]"))
  commitTransition "ReviewCycle" params.reviewCycleId sourceStatus.label
    ReviewCycleStatus.consolidating.label
    (validateReviewCycleTransition sourceStatus .consolidating
      { allRequiredReviewsComplete := some true })
  let reviewHistory := buildReviewHistory (r.findCyclesByTaskId params.taskId)
    params.reviewCycleId r.findPacketsByCycle
  let r₁ ← orThrow (r.updateCycleStatus params.reviewCycleId sourceStatus .consolidating)
    (notConsolidated params sourceStatus
      "Status update failed — concurrent modification detected")
  let auditEvent := consolidationAudit params sourceStatus
  pure (r₁.appendAudit auditEvent,
    { reviewCycle := ReviewTables.withStatus .consolidating cycle
      specialistPackets := r.findPacketsByCycle params.reviewCycleId
      reviewHistory := reviewHistory
      specialistJobs := completion.specialistJobs
      auditEvents := [auditEvent] })

/-!
## What a consolidation does
-/

theorem mem_findJobsByGroup {groupId : String} {jobs : JobTable} {job : Job} :
    job ∈ findJobsByGroup groupId jobs <-> job ∈ jobs ∧ job.jobGroupId = some groupId := by
  simp [findJobsByGroup, Table.mem_def]

theorem allTerminal_iff {jobs : List Job} :
    (checkSpecialistJobsCompletion jobs).allTerminal = true <->
      forall job, job ∈ jobs -> job.jobType = .reviewerDispatch ->
        job.status ∈ terminalJobStatuses := by
  simp only [checkSpecialistJobsCompletion, List.isEmpty_iff, List.map_eq_nil_iff,
    List.filter_eq_nil_iff, List.mem_filter, decide_eq_true_eq, not_not, and_imp]

structure Consolidated (params : AssembleLeadReviewContextParams) (cycle : ReviewCycle)
    (r r' : ReviewTables) : Prop where
  found : r.findCycle params.reviewCycleId = some cycle
  task : cycle.taskId = params.taskId
  source : cycle.status = .inProgress ∨ cycle.status = .awaitingRequiredReviews
  terminal : (checkSpecialistJobsCompletion
    (findJobsByGroup params.reviewCycleId r.jobs)).allTerminal = true
  written : r' = (r.writeCycle params.reviewCycleId .consolidating).appendAudit
    (consolidationAudit params cycle.status)

theorem Consolidated.notOver {params : AssembleLeadReviewContextParams}
    (h : Consolidated params cycle r r') : isTerminalReviewCycleState cycle.status = false := by
  rcases h.source with hstatus | hstatus
  · rw [hstatus]
    rfl
  · rw [hstatus]
    rfl

theorem Consolidated.cycles {params : AssembleLeadReviewContextParams}
    (h : Consolidated params cycle r r') :
    r'.reviewCycles =
      (r.writeCycle params.reviewCycleId .consolidating).reviewCycles := by
  rw [h.written]
  rfl

theorem Consolidated.kept {params : AssembleLeadReviewContextParams}
    (h : Consolidated params cycle r r') : r'.store.tasks = r.store.tasks ∧ r'.jobs = r.jobs := by
  rw [h.written]
  exact ⟨rfl, rfl⟩

theorem assembleLeadReviewContext_spec {params : AssembleLeadReviewContextParams}
    {result : AssembleLeadReviewContextResult}
    (h : assembleLeadReviewContext params r = .ok (r', result)) :
    exists cycle, Consolidated params cycle r r' := by
  simp only [assembleLeadReviewContext, bind_eq_ok, orThrow_eq_ok, ensure_eq_ok,
    commitTransition_eq_ok, pure_eq_ok, Prod.mk.injEq] at h
  rcases h with ⟨_, _, cycle, hcycle, _, htask, source, hsource, _, hterminal, _, _, r₁,
    hupdate, hr', _⟩
  unfold getConsolidationSourceStatus at hsource
  split at hsource
  · rename_i hstatus
    cases hsource
    rcases ReviewTables.updateCycleStatus_eq_some.mp hupdate with ⟨_, _, _, hr₁⟩
    exact ⟨cycle, hcycle, htask, hstatus, hterminal, by rw [← hr', hr₁]⟩
  · cases hsource

end Reviewing
end CopilotFactory
