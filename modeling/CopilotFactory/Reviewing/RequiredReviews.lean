import CopilotFactory.Reviewing.ReviewFanIn

/-!
# What a consolidation knows about the required reviews

A consolidation asserts that all required reviews are complete.  It has looked at the
jobs of the reviewers and not at their packets: a job that failed or was cancelled is
over too, and the lead reviewer goes by what there is.
-/

namespace CopilotFactory
namespace Reviewing

open Foundations
open Infrastructure

def HandedIn (r : ReviewTables) (reviewCycleId : ReviewCycleId) (reviewerType : String) :
    Prop :=
  exists packet, packet ∈ r.reviewPackets ∧ packet.reviewCycleId = reviewCycleId ∧
    packet.reviewerType = reviewerType

/-- The reviewer was given a job of the cycle, and it is over. -/
def JobOver (r : ReviewTables) (cycle : ReviewCycle) (reviewerType : String) : Prop :=
  exists job, job ∈ r.jobs ∧ IsSpecialist cycle.reviewCycleId job ∧
    job.reviewPayload = some (.reviewer cycle.reviewCycleId cycle.taskId reviewerType true) ∧
    (job.status = .completed ∨ job.status = .failed ∨ job.status = .cancelled)

/-- In every state of every run, an accepted consolidation takes its cycle to CONSOLIDATING
when the jobs of all its reviewers are over, and each required reviewer has had one. -/
theorem consolidates_when_reviewers_over (port : FollowUpTaskPort) (r : ReviewTables)
    (steps : List FanInStep) (hsteps : forall step, step ∈ steps -> DispatchedJobs step)
    (hin : FansIn r) (t : ReviewTables) (ht : t ∈ (fanIn port).states r steps)
    (params : AssembleLeadReviewContextParams) (t' : ReviewTables)
    (haccepted : performReview port t (.assembleLeadReviewContext params) = .ok t') :
    exists cycle, t.findCycle params.reviewCycleId = some cycle ∧
      t'.findCycle params.reviewCycleId =
        some (ReviewTables.withStatus .consolidating cycle) ∧
      (forall job, job ∈ t.jobs -> IsSpecialist params.reviewCycleId job ->
        job.status ∈ terminalJobStatuses) ∧
      forall reviewerType, reviewerType ∈ cycle.requiredReviewers ->
        JobOver t cycle reviewerType := by
  have hfans : FansIn t := (fansIn_preserved port).states hsteps hin ht
  rcases committedReview_eq_ok.mp haccepted with ⟨result, h⟩
  rcases assembleLeadReviewContext_spec h with ⟨cycle, hconsolidated⟩
  have hover := allTerminal_group_iff.mp hconsolidated.terminal
  refine ⟨cycle, hconsolidated.found, ?_, hover, ?_⟩
  · rw [hconsolidated.written]
    show (t.writeCycle _ _).findCycle _ = _
    rw [ReviewTables.findCycle_writeCycle_self, hconsolidated.found]
    rfl
  · intro reviewerType hrequired
    rcases Table.find?_eq_some_iff.mp hconsolidated.found with ⟨hmem, hid⟩
    rcases hfans.required cycle hmem reviewerType hrequired with
      ⟨job, hjob, hspecialist, hpayload⟩
    refine ⟨job, hjob, hspecialist, hpayload, ?_⟩
    rw [hid] at hspecialist
    rcases mem_terminalJobStatuses.mp (hover job hjob hspecialist) with
      (hstatus | hstatus) | hstatus
    · exact Or.inl hstatus
    · exact Or.inr (Or.inl hstatus)
    · exact Or.inr (Or.inr hstatus)

/-!
## A required reviewer that failed
-/

def consolidationParams : AssembleLeadReviewContextParams where
  taskId := "task-1"
  reviewCycleId := "a0"
  actor := reviewActor

/-- The review is under way, and the required reviewer has failed. -/
def failedReviewer : List FanInStep :=
  endedSpecialists .failed .completed ++
    [.review (.transitionReviewCycle "a0" .inProgress { reviewStarted := some true }
      reviewActor)]

def afterFailedReviewer : ReviewTables :=
  (fanIn plainFollowUps).run ReviewTables.empty failedReviewer

def consolidatedReview : ReviewTables :=
  (reviews plainFollowUps).next afterFailedReviewer
    (.assembleLeadReviewContext consolidationParams)

theorem consolidated_review_accepted :
    performReview plainFollowUps afterFailedReviewer
      (.assembleLeadReviewContext consolidationParams) = .ok consolidatedReview := by
  have haccepted : ((reviews plainFollowUps).step afterFailedReviewer
      (.assembleLeadReviewContext consolidationParams)).toOption.isSome = true := by
    decide +kernel
  exact (reviews plainFollowUps).step_eq_ok_next haccepted

theorem failedReviewer_dispatched :
    forall step, step ∈ failedReviewer -> DispatchedJobs step := by
  simp [failedReviewer, endedSpecialists, firstReview, developedTask, DispatchedJobs]

theorem consolidates_when_reviewers_over_failed :
    exists cycle, afterFailedReviewer.findCycle "a0" = some cycle ∧
      consolidatedReview.findCycle "a0" =
        some (ReviewTables.withStatus .consolidating cycle) ∧
      (forall job, job ∈ afterFailedReviewer.jobs -> IsSpecialist "a0" job ->
        job.status ∈ terminalJobStatuses) ∧
      forall reviewerType, reviewerType ∈ cycle.requiredReviewers ->
        JobOver afterFailedReviewer cycle reviewerType :=
  consolidates_when_reviewers_over plainFollowUps ReviewTables.empty failedReviewer
    failedReviewer_dispatched fansIn_empty afterFailedReviewer
    ((fanIn plainFollowUps).run_mem_states _ _) consolidationParams consolidatedReview
    consolidated_review_accepted

/-- The cycle is consolidated without the packet of its required reviewer. -/
theorem consolidated_without_required_packet :
    (forall step, step ∈ failedReviewer -> DispatchedJobs step) ∧
      performReview plainFollowUps afterFailedReviewer
        (.assembleLeadReviewContext consolidationParams) = .ok consolidatedReview ∧
      exists cycle, consolidatedReview.findCycle "a0" = some cycle ∧
        cycle.status = .consolidating ∧ "security" ∈ cycle.requiredReviewers ∧
        ¬ HandedIn consolidatedReview "a0" "security" := by
  refine ⟨failedReviewer_dispatched, consolidated_review_accepted, ?_⟩
  have hfound : consolidatedReview.findCycle "a0" =
      some
        { reviewCycleId := "a0"
          taskId := "task-1"
          status := .consolidating
          requiredReviewers := ["security"]
          optionalReviewers := ["style"]
          startedAt := 0 } := by
    decide +kernel
  refine ⟨_, hfound, rfl, List.mem_cons_self, ?_⟩
  intro hhanded
  rcases hhanded with ⟨packet, hpacket, _⟩
  have hnone : consolidatedReview.reviewPackets.rows = [] := by
    decide +kernel
  rw [Table.mem_def, hnone] at hpacket
  cases hpacket

end Reviewing
end CopilotFactory
