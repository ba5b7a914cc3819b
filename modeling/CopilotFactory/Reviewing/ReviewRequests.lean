import CopilotFactory.Reviewing.LeadReviewConsolidationService
import CopilotFactory.Reviewing.ReviewDecisionService
import CopilotFactory.Reviewing.ReviewerDispatchService
import CopilotFactory.Scheduling.JobQueue

/-!
# The review services as a transition system

The dispatch of reviewers, the consolidation and the decision, the moves of a cycle in
between, the jobs and the packets of the reviewers, and the requests of the control
plane.  Each is one transaction.
-/

namespace CopilotFactory
namespace Reviewing

open Foundations
open Domain
open Infrastructure
open Application
open ControlPlane

variable {r r' : ReviewTables} {port : FollowUpTaskPort}

def transitionReviewCycle (reviewCycleId : ReviewCycleId) (targetStatus : ReviewCycleStatus)
    (context : ReviewCycleTransitionContext) (actor : ActorInfo)
    (r : ReviewTables) : Except ServiceError (ReviewTables × AuditEvent) := do
  let cycle ← orThrow (r.findCycle reviewCycleId)
    (.entityNotFound "ReviewCycle" reviewCycleId)
  commitTransition "ReviewCycle" reviewCycleId cycle.status.label targetStatus.label
    (validateReviewCycleTransition cycle.status targetStatus context)
  let r₁ ← orThrow (r.updateCycleStatus reviewCycleId cycle.status targetStatus)
    (.versionConflict "ReviewCycle" reviewCycleId cycle.status.label)
  let auditEvent : AuditEvent :=
    { entityType := "review-cycle"
      entityId := reviewCycleId
      eventType := s!"review-cycle.transition.{cycle.status.label}.to.{targetStatus.label}"
      actorType := actor.type
      actorId := actor.id
      oldState := some (.object [("status", .text cycle.status.label)])
      newState := some (.object [("status", .text targetStatus.label)]) }
  pure (r₁.appendAudit auditEvent, auditEvent)

theorem transitionReviewCycle_spec {reviewCycleId : ReviewCycleId}
    {targetStatus : ReviewCycleStatus} {context : ReviewCycleTransitionContext}
    {actor : ActorInfo} {event : AuditEvent}
    (h : transitionReviewCycle reviewCycleId targetStatus context actor r = .ok (r', event)) :
    exists cycle, r.findCycle reviewCycleId = some cycle ∧
      validateReviewCycleTransition cycle.status targetStatus context = .valid ∧
      event.entityType = "review-cycle" ∧
      r' = (r.writeCycle reviewCycleId targetStatus).appendAudit event := by
  simp only [transitionReviewCycle, bind_eq_ok, orThrow_eq_ok, commitTransition_eq_ok,
    pure_eq_ok, Prod.mk.injEq] at h
  rcases h with ⟨cycle, hcycle, _, hvalid, r₁, hupdate, hr', hevent⟩
  rcases ReviewTables.updateCycleStatus_eq_some.mp hupdate with ⟨_, _, _, hr₁⟩
  refine ⟨cycle, hcycle, hvalid, ?_, ?_⟩
  · rw [← hevent]
  · rw [← hr', hr₁, hevent]

inductive ReviewRequest where
  | dispatchReviewers (now : Millis) (idGenerator : Nat -> String)
      (params : DispatchReviewersParams)
  | assembleLeadReviewContext (params : AssembleLeadReviewContextParams)
  | applyDecision (idGenerator : Nat -> String) (params : ApplyReviewDecisionParams)
  | transitionReviewCycle (reviewCycleId : ReviewCycleId) (targetStatus : ReviewCycleStatus)
      (context : ReviewCycleTransitionContext) (actor : ActorInfo)
  | createPacket (packet : ReviewPacket)
  | job (request : Scheduling.JobRequest)
  | request (request : Request)

/-- The tables that a call commits, without its result. -/
def committedReview {α : Type} (call : Except ServiceError (ReviewTables × α)) :
    Except ServiceError ReviewTables :=
  call.map Prod.fst

def performReview (port : FollowUpTaskPort) (r : ReviewTables) :
    ReviewRequest -> Except ServiceError ReviewTables
  | .dispatchReviewers now idGenerator params =>
      committedReview (dispatchReviewers now idGenerator params r)
  | .assembleLeadReviewContext params => committedReview (assembleLeadReviewContext params r)
  | .applyDecision idGenerator params =>
      committedReview (applyDecision port idGenerator params r)
  | .transitionReviewCycle reviewCycleId targetStatus context actor =>
      committedReview (transitionReviewCycle reviewCycleId targetStatus context actor r)
  | .createPacket packet => r.createPacket packet
  | .job request => (Scheduling.jobQueue.step r.jobs request).map r.withJobs
  | .request request =>
      r.onStore (fun s => perform s request) (fun _ h => (taskEffect_of_perform h).2.keeps)

def reviews (port : FollowUpTaskPort) :
    TransitionSystem ReviewTables ReviewRequest ServiceError where
  step := performReview port

theorem request_spec {q : Request} (h : performReview port r (.request q) = .ok r') :
    perform r.store q = .ok r'.store ∧ SameReviews r r' := by
  simp only [performReview] at h
  rcases ReviewTables.onStore_eq_ok.mp h with ⟨s', hs', hperform, hr'⟩
  rw [hr']
  exact ⟨hperform, sameReviews_withStore r s' hs'⟩

theorem job_spec {q : Scheduling.JobRequest} (h : performReview port r (.job q) = .ok r') :
    exists jobs, Scheduling.jobQueue.step r.jobs q = .ok jobs ∧ r' = r.withJobs jobs := by
  rcases map_eq_ok.mp h with ⟨jobs, hstep, hr'⟩
  exact ⟨jobs, hstep, hr'.symm⟩

theorem committedReview_eq_ok {α : Type} {call : Except ServiceError (ReviewTables × α)} :
    committedReview call = .ok r' <-> exists result, call = .ok (r', result) := by
  unfold committedReview
  rw [map_eq_ok, Prod.exists]
  constructor
  · intro h
    rcases h with ⟨r₁, result, hcall, hr₁⟩
    exact ⟨result, by rw [hcall, ← hr₁]⟩
  · intro h
    rcases h with ⟨result, hcall⟩
    exact ⟨r', result, hcall, rfl⟩

/-- A request leaves the cycles alone, routes a new one, or moves one that is not over. -/
inductive CycleEffect (r r' : ReviewTables) : Prop where
  | unchanged (hcycles : r'.reviewCycles = r.reviewCycles)
  | routed (cycle : ReviewCycle)
      (hnew : r.findCycle cycle.reviewCycleId = none)
      (hcycles : forall c, c ∈ r'.reviewCycles <-> c ∈ r.reviewCycles ∨ c = cycle)
  | moved (reviewCycleId : ReviewCycleId) (cycle : ReviewCycle) (target : ReviewCycleStatus)
      (hfind : r.findCycle reviewCycleId = some cycle)
      (hopen : isTerminalReviewCycleState cycle.status = false)
      (hcycles : r'.reviewCycles = (r.writeCycle reviewCycleId target).reviewCycles)

theorem cycleEffect_of_review {q : ReviewRequest} (h : performReview port r q = .ok r') :
    CycleEffect r r' := by
  cases q with
  | dispatchReviewers now idGenerator params =>
      rcases committedReview_eq_ok.mp h with ⟨result, h⟩
      rcases dispatchReviewers_spec h with ⟨task, hdispatched⟩
      exact .routed _ hdispatched.newCycle hdispatched.cycles
  | assembleLeadReviewContext params =>
      rcases committedReview_eq_ok.mp h with ⟨result, h⟩
      rcases assembleLeadReviewContext_spec h with ⟨cycle, hconsolidated⟩
      exact .moved _ cycle _ hconsolidated.found hconsolidated.notOver hconsolidated.cycles
  | applyDecision idGenerator params =>
      rcases committedReview_eq_ok.mp h with ⟨result, h⟩
      rcases applyDecision_spec h with ⟨packet, task, cycle, hdecided⟩
      exact .moved _ cycle _ hdecided.foundCycle hdecided.notOver hdecided.cycles
  | transitionReviewCycle reviewCycleId targetStatus context actor =>
      rcases committedReview_eq_ok.mp h with ⟨event, h⟩
      rcases transitionReviewCycle_spec h with ⟨cycle, hfind, hvalid, _, hr'⟩
      apply CycleEffect.moved reviewCycleId cycle targetStatus hfind
        (reviewCycle_not_terminal_of_validate hvalid)
      rw [hr']
      rfl
  | createPacket packet =>
      exact .unchanged (ReviewTables.createPacket_spec h).2.2.1
  | job q =>
      rcases job_spec h with ⟨jobs, _, hr'⟩
      apply CycleEffect.unchanged
      rw [hr']
      rfl
  | request q =>
      exact .unchanged (request_spec h).2.cycles

theorem findCycle_of_over {q : ReviewRequest} (h : performReview port r q = .ok r')
    {reviewCycleId : ReviewCycleId} {cycle : ReviewCycle}
    (hfind : r.findCycle reviewCycleId = some cycle)
    (hover : isTerminalReviewCycleState cycle.status = true) :
    r'.findCycle reviewCycleId = some cycle := by
  cases cycleEffect_of_review h with
  | unchanged hcycles =>
      unfold ReviewTables.findCycle
      rw [hcycles]
      exact hfind
  | routed new hnew hcycles =>
      rcases Table.find?_eq_some_iff.mp hfind with ⟨hmem, hid⟩
      exact Table.find?_eq_some_iff.mpr ⟨(hcycles cycle).mpr (Or.inl hmem), hid⟩
  | moved movedId moved target hmoved hopen hcycles =>
      unfold ReviewTables.findCycle
      rw [hcycles, ReviewTables.writeCycle_reviewCycles, Table.find?_modify_of_ne]
      · exact hfind
      · intro hsame
        rw [← hsame, hfind] at hmoved
        cases hmoved
        rw [hover] at hopen
        cases hopen

/-!
## A task under review
-/

/-- A follow-up task that takes nothing over but its id. -/
def plainFollowUps : FollowUpTaskPort where
  skeleton := fun data =>
    newTask
      { taskId := data.id
        repositoryId := "repo-1"
        taskType := "feature"
        priority := "medium" }
  skeleton_taskId := fun _ => rfl
  skeleton_status := fun _ => rfl
  skeleton_currentReviewCycleId := fun _ => rfl
  skeleton_reviewRoundCount := fun _ => rfl

def reviewActor : ActorInfo where
  type := "system"
  id := "review-worker"

def developedTask : List ReviewRequest :=
  [.request (.createTask
      { taskId := "task-1", repositoryId := "repo-1", taskType := "feature",
        priority := "high" }),
    .request (.transitionTask "task-1" .ready
      { allDependenciesResolved := some true, hasPolicyBlockers := some false } reviewActor),
    .request (.transitionTask "task-1" .assigned { leaseAcquired := some true } reviewActor),
    .request (.transitionTask "task-1" .inDevelopment { hasHeartbeat := some true }
      reviewActor),
    .request (.transitionTask "task-1" .devComplete
      { hasDevResultPacket := some true, requiredValidationsPassed := some true }
      reviewActor)]

def sampleIds (name : String) (n : Nat) : String :=
  name ++ toString n

def reviewParams : DispatchReviewersParams where
  taskId := "task-1"
  routingDecision :=
    { requiredReviewers := ["security"]
      optionalReviewers := ["style"] }
  actor := reviewActor

def firstReview : List ReviewRequest :=
  developedTask ++ [.dispatchReviewers 0 (sampleIds "a") reviewParams]

end Reviewing
end CopilotFactory
