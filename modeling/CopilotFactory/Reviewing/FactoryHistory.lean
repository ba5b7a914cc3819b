import CopilotFactory.Reviewing.ReworkFeedback

/-!
# The history of a run

Whatever the services do, nothing of the past is rewritten, and a task is merged only after
a decision has approved it.
-/

namespace CopilotFactory
namespace Reviewing

open Foundations
open Domain
open Infrastructure
open Application
open ControlPlane
open Dependencies
open Merging
open Auditing

variable {r r' : ReviewTables} {taskId : TaskId} {port : FollowUpTaskPort}
  {queries : QueueQueries} {w w' : Factory}

/-!
## What is never taken back
-/

/-- The later database has the past of the earlier one: its audit trail begins with the
earlier one, a task that is not the same has a later version, a lease is still one of its
task, and a review cycle that was over is as it was. -/
structure KeepsPast (r r' : ReviewTables) : Prop where
  auditEvents : r.store.auditEvents <+: r'.store.auditEvents
  tasks : AdvancesTasks r.store r'.store
  leases : KeepsLeases r.store r'.store
  cycles : forall reviewCycleId cycle, r.findCycle reviewCycleId = some cycle ->
    isTerminalReviewCycleState cycle.status = true ->
      r'.findCycle reviewCycleId = some cycle

theorem KeepsPast.refl (r : ReviewTables) : KeepsPast r r where
  auditEvents := List.prefix_rfl
  tasks := advancesTasks_of_tasks_eq rfl
  leases := keepsLeases_of_leases_eq rfl
  cycles := fun _ _ hfind _ => hfind

theorem KeepsPast.trans {r₁ : ReviewTables} (h : KeepsPast r r₁) (h₁ : KeepsPast r₁ r') :
    KeepsPast r r' where
  auditEvents := h.auditEvents.trans h₁.auditEvents
  tasks := by
    intro taskId task htask
    rcases h.tasks taskId task htask with ⟨between, hbetween, hlater⟩
    rcases h₁.tasks taskId between hbetween with ⟨task', htask', hlater'⟩
    refine ⟨task', htask', ?_⟩
    rcases hlater with hsame | hlater
    · rw [← hsame]
      exact hlater'
    · rcases hlater' with hsame' | hlater'
      · rw [hsame']
        exact Or.inr hlater
      · exact Or.inr (hlater.trans hlater')
  leases := by
    intro leaseId lease hlease
    rcases h.leases leaseId lease hlease with ⟨between, hbetween, htask⟩
    rcases h₁.leases leaseId between hbetween with ⟨lease', hlease', htask'⟩
    exact ⟨lease', hlease', htask'.trans htask⟩
  cycles := by
    intro reviewCycleId cycle hfind hover
    exact h₁.cycles reviewCycleId cycle (h.cycles reviewCycleId cycle hfind hover) hover

theorem keepsPast_of_onStore {call : Store -> Except ServiceError Store}
    {hcall : forall s', call r.store = .ok s' -> KeepsTasks r.store s'}
    (h : r.onStore call hcall = .ok r')
    (hrecords : forall s', call r.store = .ok s' ->
      exists events, RecordsChanges "task" events r.store s') : KeepsPast r r' := by
  rcases ReviewTables.onStore_eq_ok.mp h with ⟨s', _, hs', hr⟩
  rcases hrecords s' hs' with ⟨events, hevents⟩
  rw [hr]
  exact ⟨⟨events, hevents.auditEvents.symm⟩, hevents.tasks, hevents.leases,
    fun _ _ hfind _ => hfind⟩

/-- A turn of a merge appends to the trail, and leaves the leases alone. -/
def AppendsOnly (s s' : Store) : Prop :=
  s.auditEvents <+: s'.auditEvents ∧ s'.taskLeases = s.taskLeases

section Turns

variable {params : ExecuteMergeParams} {moved : MergeProgress} {s s' : Store}

theorem appendsOnly_of_moveItem {move : ItemMove} {progress : MergeProgress}
    (h : moveItem params move progress s = .ok (s', moved)) : AppendsOnly s s' := by
  rcases moveItem_eq_ok.mp h with ⟨_, _, _, hs', _⟩
  rw [hs']
  exact ⟨List.prefix_append _ _, rfl⟩

theorem appendsOnly_of_moveItemAndTask {move : ItemMove} {taskMove : TaskMove}
    {expectedVersion : Store -> Except ServiceError Nat} {auditEvents : List AuditEvent}
    (h : moveItemAndTask params move taskMove taskId expectedVersion auditEvents s =
      .ok (s', moved)) : AppendsOnly s s' := by
  rcases moveItemAndTask_eq_ok.mp h with ⟨_, _, _, _, _, _, hs', _⟩
  rw [hs']
  exact ⟨(List.prefix_append _ _).trans (List.prefix_append _ _), rfl⟩

theorem appendsOnly_of_mergeStep {step : MergeStep}
    (h : step.perform params s = .ok (s', moved)) : AppendsOnly s s' := by
  cases step with
  | startRebase task =>
      unfold MergeStep.perform startRebase at h
      exact appendsOnly_of_moveItemAndTask h
  | settleConflict classification completedAt progress =>
      unfold MergeStep.perform settleConflict at h
      exact appendsOnly_of_moveItemAndTask h
  | startValidation | failValidation | startPush | failPush =>
      exact appendsOnly_of_moveItem h
  | finishMerge completedAt progress =>
      unfold MergeStep.perform finishMerge at h
      exact appendsOnly_of_moveItemAndTask h

end Turns

theorem keepsPast_of_step {q : FactoryStep}
    (h : (factory port queries).step w q = .ok w') :
    KeepsPast w.shared w'.shared := by
  cases q with
  | review request =>
      rcases bind_eq_ok.mp h with ⟨r, hperform, h⟩
      cases h
      rcases performReview_records hperform with ⟨events, hrecords⟩
      exact ⟨⟨events, hrecords.auditEvents.symm⟩, hrecords.tasks, hrecords.leases,
        fun _ _ hfind hover => findCycle_of_over hperform hfind hover⟩
  | enqueueForMerge now itemId params =>
      rcases bind_eq_ok.mp h with ⟨r, honStore, h⟩
      cases h
      apply keepsPast_of_onStore honStore
      intro s' hcall
      exact enqueueForMerge_records (committed_eq_ok.mp hcall).choose_spec
  | dequeueNext now params =>
      rcases bind_eq_ok.mp h with ⟨r, honStore, h⟩
      cases h
      apply keepsPast_of_onStore honStore
      intro s' hcall
      exact dequeueNext_records (committed_eq_ok.mp hcall).choose_spec
  | loadMerge pid params =>
      rcases bind_eq_ok.mp h with ⟨_, _, h⟩
      cases h
      exact .refl _
  | mergeTurn pid turn =>
      rcases takeTurn_eq_ok h with hsame | ⟨plan, progress, s', hs', hplan, hperform, hw'⟩
      · rw [hsame]
        exact .refl _
      · rw [hw']
        rcases appendsOnly_of_mergeStep hperform with ⟨hevents, hleases⟩
        exact ⟨hevents, (taskEffect_of_mergeStep hperform).advancesTasks,
          keepsLeases_of_leases_eq hleases, fun _ _ hfind _ => hfind⟩
  | endMerge pid =>
      cases h
      exact .refl _

/-- Whatever the services do, nothing of the past is rewritten. -/
theorem keepsPast_run (port : FollowUpTaskPort) (queries : QueueQueries)
    (before after : List FactoryStep) :
    KeepsPast ((factory port queries).run Factory.start before).shared
      ((factory port queries).run Factory.start (before ++ after)).shared := by
  rw [TransitionSystem.run_append]
  have hpreserves : (factory port queries).Preserves (fun _ => True)
      (fun w => KeepsPast ((factory port queries).run Factory.start before).shared w.shared) := by
    intro w q w' _ hw hstep
    exact hw.trans (keepsPast_of_step hstep)
  exact hpreserves.run (fun _ _ => trivial) (.refl _)

/-!
## The approval of a merge
-/

/-- The task is approved, and perhaps queued or merging. -/
def OnMergePath (taskId : TaskId) (r : ReviewTables) : Prop :=
  exists task, r.store.findTask taskId = some task ∧
    task.status ∈ [TaskStatus.approved, .queuedForMerge, .merging]

theorem onMergePath_of_kept (h : OnMergePath taskId r')
    (htask : forall task, r'.store.findTask taskId = some task ->
      KeepsTask (r.store.findTask taskId) task) :
    OnMergePath taskId r := by
  rcases h with ⟨task, hfind, hmerge⟩
  have hrework : task.status ∈ reworkStatuses := by
    revert hmerge
    cases task.status <;> decide
  rcases htask task hfind hrework with ⟨old, hold, hmove, _⟩
  refine ⟨old, hold, ?_⟩
  rcases hmove with hsame | hmove
  · rw [← hsame]
    exact hmerge
  · revert hmove hmerge
    cases old.status <;> cases task.status <;> decide

/-- An accepted decision approved the task, which has been on its way to a merge since. -/
def ApprovedByDecision (port : FollowUpTaskPort) (queries : QueueQueries) (taskId : TaskId)
    (steps : List FactoryStep) : Prop :=
  exists before idGenerator params packet accepted after,
    steps = before ++ .review (.applyDecision idGenerator params) :: after ∧
    params.taskId = taskId ∧ params.packet = .ok packet ∧
    packet.decision ∈ [LeadReviewDecision.approved, .approvedWithFollowUp] ∧
    applyDecision port idGenerator params
      ((factory port queries).run Factory.start before).shared = .ok accepted ∧
    forall w, w ∈ (factory port queries).states ((factory port queries).run Factory.start
        (before ++ [.review (.applyDecision idGenerator params)])) after ->
      OnMergePath taskId w.shared

theorem approves_of_taskTarget {params : ApplyReviewDecisionParams} {task : Task}
    {decision : LeadReviewDecision}
    (h : taskTarget params task decision ∈
      [TaskStatus.approved, .queuedForMerge, .merging]) :
    decision ∈ [LeadReviewDecision.approved, .approvedWithFollowUp] := by
  unfold taskTarget at h
  revert h
  generalize evaluatePolicyEscalation params task decision = escalates
  cases decision <;> cases escalates <;> decide

theorem approves_of_request {q : ReviewRequest}
    (hq : ReworkRequest taskId q) (hr : DecisionsStored r)
    (h : performReview port r q = .ok r') (hnot : ¬ OnMergePath taskId r)
    (hpath : OnMergePath taskId r') :
    exists idGenerator params packet accepted, q = .applyDecision idGenerator params ∧
      params.taskId = taskId ∧ params.packet = .ok packet ∧
      packet.decision ∈ [LeadReviewDecision.approved, .approvedWithFollowUp] ∧
      applyDecision port idGenerator params r = .ok accepted := by
  rcases hpath with ⟨moved, hmoved, hmerge⟩
  cases reworkEffect_of_review hq h with
  | kept _ htask =>
      exact absurd (onMergePath_of_kept ⟨moved, hmoved, hmerge⟩ htask) hnot
  | dispatched _ _ _ _ _ hcurrent =>
      rw [(hcurrent moved hmoved).1] at hmerge
      exact absurd hmerge (by decide)
  | decided params packet record task cycle htask hdecides =>
      rcases decidesNothing_or_decided hq h with
        hnothing | ⟨idGenerator, taken, stored, _, old, _, hq, htaken⟩
      · -- The cycle of a stored decision is over.
        have hrecord := (hdecides.decided.decisions record).mpr (Or.inr rfl)
        rw [hnothing.decisions] at hrecord
        rcases hr.ended record hrecord with ⟨found, hfound, hover⟩
        rw [hdecides.decided.decisionCycle, hdecides.decided.foundCycle] at hfound
        cases hfound
        rw [hdecides.decided.notOver] at hover
        cases hover
      · have hid : taken.taskId = taskId := by
          by_contra hother
          have hfound := hdecides.decided.foundTask
          rw [htask] at hfound
          have hkept := htaken.decided.keptTasks taskId task (Ne.symm hother) hfound
          rw [hmoved] at hkept
          cases hkept
          rw [hdecides.decided.inReview] at hmerge
          exact absurd hmerge (by decide)
        have hstatus := (statusOf_of_decided htaken.decided).2
        unfold statusOf at hstatus
        rw [hid, hmoved, Option.map_some, Option.some.injEq] at hstatus
        rw [hstatus] at hmerge
        rw [hq] at h
        rcases committedReview_eq_ok.mp h with ⟨result, h⟩
        exact ⟨idGenerator, taken, stored, _, hq, hid, htaken.decided.packet_eq.1,
          approves_of_taskTarget hmerge, h⟩

/-- A task that is approved, queued or merging was approved by an accepted decision. -/
theorem approvedByDecision_of_onMergePath {steps : List FactoryStep}
    (hsteps : forall q, q ∈ steps -> ReworkStep taskId q)
    (h : OnMergePath taskId ((factory port queries).run Factory.start steps).shared) :
    ApprovedByDecision port queries taskId steps := by
  have hstart : ¬ OnMergePath taskId Factory.start.shared := by
    intro hpath
    rcases hpath with ⟨task, hfind, _⟩
    cases hfind
  rcases (factory port queries).exists_last_entry
      (P := fun w => OnMergePath taskId w.shared) hstart h with
    ⟨before, q, after, hsplit, hnot, hsince⟩
  have hq : ReworkStep taskId q := by
    apply hsteps q
    rw [hsplit]
    exact List.mem_append_right before List.mem_cons_self
  have hbefore : ReworkInvariant taskId ((factory port queries).run Factory.start before) := by
    apply reworkInvariant_run
    intro x hx
    apply hsteps x
    rw [hsplit]
    exact List.mem_append_left _ hx
  have hpath := hsince _ ((factory port queries).self_mem_states _ after)
  cases hstep : (factory port queries).step
      ((factory port queries).run Factory.start before) q with
  | error e =>
      rw [(factory port queries).next_of_error hstep] at hpath
      exact absurd hpath hnot
  | ok w' =>
      rw [(factory port queries).next_of_ok hstep] at hpath
      rcases review_or_leaves taskId hbefore.remembers hstep with
        ⟨request, hrequest, hperform⟩ | hleaves
      · rw [hrequest] at hq
        rcases approves_of_request hq hbefore.decisions hperform hnot hpath with
          ⟨idGenerator, params, packet, accepted, hdecision, hid, hpacket, happroves,
            haccepted⟩
        rw [hrequest, hdecision] at hsplit hsince
        refine ⟨before, idGenerator, params, packet, accepted, after, hsplit, hid, hpacket,
          happroves, haccepted, ?_⟩
        rw [TransitionSystem.run_append]
        exact hsince
      · exact absurd (onMergePath_of_kept hpath hleaves.task) hnot

theorem approvedByDecision_of_onMergePath_rework :
    ApprovedByDecision plainFollowUps arrivalOrder "task-1" mergingRework := by
  apply approvedByDecision_of_onMergePath
  · intro q hq
    exact conflictedRework_steps q (List.mem_append_left _ hq)
  · have hstatus : statusOf ((factory plainFollowUps arrivalOrder).run Factory.start
        mergingRework).shared "task-1" = some .merging := by
      decide +kernel
    rcases Option.map_eq_some_iff.mp hstatus with ⟨task, hfind, hmerging⟩
    exact ⟨task, hfind, by rw [hmerging]; decide⟩

end Reviewing
end CopilotFactory
