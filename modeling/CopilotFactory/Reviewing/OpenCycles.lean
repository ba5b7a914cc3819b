import CopilotFactory.ControlPlane.TaskColumns
import CopilotFactory.Reviewing.ReviewRequests

/-!
# Open review cycles

A task should have one review cycle at a time that is not over, and while it is in
review that one should be its current cycle.  Nothing closes the cycle of a task that
an operator takes out of review, and a dispatch does not look for one.
-/

namespace CopilotFactory
namespace Reviewing

open Foundations
open Domain
open Infrastructure
open ControlPlane

variable {c : ReviewCycle}

def isOpen (taskId : TaskId) (cycle : ReviewCycle) : Bool :=
  cycle.taskId = taskId ∧ isTerminalReviewCycleState cycle.status = false

def openCycles (r : ReviewTables) (taskId : TaskId) : List ReviewCycle :=
  r.reviewCycles.rows.filter (isOpen taskId)

structure CyclesInOrder (r : ReviewTables) : Prop where
  atMostOne : forall taskId, (openCycles r taskId).length ≤ 1
  inReview : forall taskId task, r.store.findTask taskId = some task ->
    task.status = .inReview ->
    exists cycle, cycle ∈ openCycles r taskId ∧
      task.currentReviewCycleId = some cycle.reviewCycleId

theorem mem_openCycles {r : ReviewTables} {taskId : TaskId} {cycle : ReviewCycle} :
    cycle ∈ openCycles r taskId <->
      cycle ∈ r.reviewCycles ∧ cycle.taskId = taskId ∧
        isTerminalReviewCycleState cycle.status = false := by
  simp [openCycles, isOpen, Table.mem_def]

theorem length_openCycles_le_one_iff {r : ReviewTables} {taskId : TaskId} :
    (openCycles r taskId).length ≤ 1 <->
      forall c c', c ∈ openCycles r taskId -> c' ∈ openCycles r taskId -> c = c' := by
  unfold openCycles
  rw [Table.length_filter_le_one_iff]
  simp only [List.mem_filter, Table.mem_def]
  constructor
  · intro h c c' hc hc'
    exact h c c' hc.1 hc'.1 hc.2 hc'.2
  · intro h c c' hc hc' hp hp'
    exact h c c' ⟨hc, hp⟩ ⟨hc', hp'⟩

theorem openCycles_of_cycles_eq {r r' : ReviewTables} (h : r'.reviewCycles = r.reviewCycles)
    (taskId : TaskId) :
    openCycles r' taskId = openCycles r taskId := by
  unfold openCycles
  rw [h]

/-!
## Moves of one cycle
-/

variable {r r' : ReviewTables} {reviewCycleId : ReviewCycleId} {cycle : ReviewCycle}
  {target : ReviewCycleStatus}

theorem mem_openCycles_of_move (hfind : r.findCycle reviewCycleId = some cycle)
    (hopen : isTerminalReviewCycleState cycle.status = false)
    (hcycles : r'.reviewCycles = (r.writeCycle reviewCycleId target).reviewCycles)
    {taskId : TaskId} (hc : c ∈ openCycles r' taskId) :
    exists old, old ∈ openCycles r taskId ∧
      c = if old.reviewCycleId = reviewCycleId then
        ReviewTables.withStatus target old else old := by
  rcases mem_openCycles.mp hc with ⟨hmem, htask, hstatus⟩
  rw [hcycles] at hmem
  rcases ReviewTables.mem_writeCycle.mp hmem with ⟨old, hold, heq⟩
  refine ⟨old, mem_openCycles.mpr ⟨hold, ?_, ?_⟩, heq⟩
  · rw [← htask, heq]
    split <;> rfl
  · by_cases hid : old.reviewCycleId = reviewCycleId
    · have hsame : old = cycle :=
        Table.eq_of_key hold (Table.mem_of_find? hfind)
          (hid.trans (Table.key_of_find? hfind).symm)
      rw [hsame]
      exact hopen
    · rw [if_neg hid] at heq
      rw [← heq]
      exact hstatus

theorem atMostOne_of_move (hfind : r.findCycle reviewCycleId = some cycle)
    (hopen : isTerminalReviewCycleState cycle.status = false)
    (hcycles : r'.reviewCycles = (r.writeCycle reviewCycleId target).reviewCycles)
    (h : forall taskId, (openCycles r taskId).length ≤ 1) (taskId : TaskId) :
    (openCycles r' taskId).length ≤ 1 := by
  rw [length_openCycles_le_one_iff]
  intro c c' hc hc'
  rcases mem_openCycles_of_move hfind hopen hcycles hc with ⟨old, hold, heq⟩
  rcases mem_openCycles_of_move hfind hopen hcycles hc' with ⟨old', hold', heq'⟩
  have hsame := length_openCycles_le_one_iff.mp (h taskId) old old' hold hold'
  rw [heq, heq', hsame]

theorem mem_openCycles_of_other
    (hcycles : r'.reviewCycles = (r.writeCycle reviewCycleId target).reviewCycles)
    {taskId : TaskId} (hc : c ∈ openCycles r taskId) (hid : c.reviewCycleId ≠ reviewCycleId) :
    c ∈ openCycles r' taskId := by
  rcases mem_openCycles.mp hc with ⟨hmem, hrest⟩
  refine mem_openCycles.mpr ⟨?_, hrest⟩
  rw [hcycles]
  exact ReviewTables.mem_writeCycle.mpr ⟨c, hmem, (if_neg hid).symm⟩

theorem mem_openCycles_of_open_target (htarget : isTerminalReviewCycleState target = false)
    (hcycles : r'.reviewCycles = (r.writeCycle reviewCycleId target).reviewCycles)
    {taskId : TaskId} (hc : c ∈ openCycles r taskId) :
    exists c', c' ∈ openCycles r' taskId ∧ c'.reviewCycleId = c.reviewCycleId := by
  by_cases hid : c.reviewCycleId = reviewCycleId
  · rcases mem_openCycles.mp hc with ⟨hmem, htask, _⟩
    refine ⟨ReviewTables.withStatus target c, mem_openCycles.mpr ⟨?_, htask, htarget⟩, rfl⟩
    rw [hcycles]
    exact ReviewTables.mem_writeCycle.mpr ⟨c, hmem, (if_pos hid).symm⟩
  · exact ⟨c, mem_openCycles_of_other hcycles hc hid, rfl⟩

/-!
## Order is kept
-/

/-- A task in review was in review before, and its open cycles are still there. -/
def ReviewKept (r r' : ReviewTables) : Prop :=
  forall taskId task, r'.store.findTask taskId = some task -> task.status = .inReview ->
    exists old, r.store.findTask taskId = some old ∧ old.status = .inReview ∧
      old.currentReviewCycleId = task.currentReviewCycleId ∧
      forall c, c ∈ openCycles r taskId ->
        exists c', c' ∈ openCycles r' taskId ∧ c'.reviewCycleId = c.reviewCycleId

theorem CyclesInOrder.of_kept (h : CyclesInOrder r)
    (hone : forall taskId, (openCycles r' taskId).length ≤ 1) (hkept : ReviewKept r r') :
    CyclesInOrder r' where
  atMostOne := hone
  inReview := by
    intro taskId task htask hstatus
    rcases hkept taskId task htask hstatus with ⟨old, hold, holdStatus, hcurrent, hopen⟩
    rcases h.inReview taskId old hold holdStatus with ⟨c, hc, hid⟩
    rcases hopen c hc with ⟨c', hc', hid'⟩
    refine ⟨c', hc', ?_⟩
    rw [← hcurrent, hid, hid']

theorem CyclesInOrder.of_cycles_eq (h : CyclesInOrder r)
    (hcycles : r'.reviewCycles = r.reviewCycles)
    (htasks : forall taskId task, r'.store.findTask taskId = some task ->
      task.status = .inReview ->
        exists old, r.store.findTask taskId = some old ∧ old.status = .inReview ∧
          old.currentReviewCycleId = task.currentReviewCycleId) :
    CyclesInOrder r' := by
  apply h.of_kept
  · intro taskId
    rw [openCycles_of_cycles_eq hcycles]
    exact h.atMostOne taskId
  · intro taskId task htask hstatus
    rcases htasks taskId task htask hstatus with ⟨old, hold, holdStatus, hcurrent⟩
    refine ⟨old, hold, holdStatus, hcurrent, ?_⟩
    intro c hc
    rw [openCycles_of_cycles_eq hcycles]
    exact ⟨c, hc, rfl⟩

theorem CyclesInOrder.of_open_move (h : CyclesInOrder r)
    (hfind : r.findCycle reviewCycleId = some cycle)
    (hopen : isTerminalReviewCycleState cycle.status = false)
    (htarget : isTerminalReviewCycleState target = false)
    (hcycles : r'.reviewCycles = (r.writeCycle reviewCycleId target).reviewCycles)
    (htasks : r'.store.tasks = r.store.tasks) :
    CyclesInOrder r' := by
  apply h.of_kept
  · exact atMostOne_of_move hfind hopen hcycles h.atMostOne
  · intro taskId task htask hstatus
    rw [Store.findTask_of_tasks_eq htasks] at htask
    exact ⟨task, htask, hstatus, rfl,
      fun c hc => mem_openCycles_of_open_target htarget hcycles hc⟩

/-!
## The steps
-/

theorem inOrder_of_consolidated {params : AssembleLeadReviewContextParams}
    (hin : CyclesInOrder r) (h : Consolidated params cycle r r') :
    CyclesInOrder r' :=
  hin.of_open_move h.found h.notOver rfl h.cycles h.kept.1

theorem taskTarget_ne_inReview (params : ApplyReviewDecisionParams) (task : Task)
    (decision : LeadReviewDecision) :
    taskTarget params task decision ≠ .inReview := by
  unfold taskTarget
  generalize evaluatePolicyEscalation params task decision = escalates
  cases decision <;> cases escalates <;> decide

/-- A decision ends the cycle of a task that it takes out of review. -/
theorem inOrder_of_decided {params : ApplyReviewDecisionParams}
    {packet : LeadReviewDecisionPacket} {record : LeadReviewDecisionRecord} {task : Task}
    (hin : CyclesInOrder r) (h : Decided params packet record task cycle r r') :
    CyclesInOrder r' := by
  apply hin.of_kept
  · exact atMostOne_of_move h.foundCycle h.notOver h.cycles hin.atMostOne
  · intro taskId t ht hstatus
    by_cases hid : taskId = params.taskId
    · rcases h.movedTask with ⟨version, _, hmoved⟩
      rw [hid, hmoved] at ht
      cases ht
      exact absurd hstatus (taskTarget_ne_inReview params task packet.decision)
    · cases hold : r.store.findTask taskId with
      | none =>
          rw [(h.newTasks taskId t ht hold).status] at hstatus
          cases hstatus
      | some old =>
          have hkept := h.keptTasks taskId old hid hold
          rw [ht] at hkept
          cases hkept
          refine ⟨t, rfl, hstatus, rfl, ?_⟩
          intro c hc
          refine ⟨c, mem_openCycles_of_other h.cycles hc ?_, rfl⟩
          -- The cycle that ended is a cycle of another task.
          intro hsame
          rcases mem_openCycles.mp hc with ⟨hmem, htask, _⟩
          have hcycle : c = cycle :=
            Table.eq_of_key hmem (Table.mem_of_find? h.foundCycle)
              (hsame.trans (Table.key_of_find? h.foundCycle).symm)
          rw [hcycle, h.cycleTask] at htask
          exact hid htask.symm

/-- The requests that a review meets: a cycle ends only by a decision, and a task is
sent to review only by a dispatch. -/
def ReviewStep : ReviewRequest -> Prop
  | .transitionReviewCycle _ targetStatus _ _ =>
      isTerminalReviewCycleState targetStatus = false
  | .request (.transitionTask _ targetStatus _ _) => targetStatus ≠ .inReview
  | _ => True

theorem inOrder_of_request {port : FollowUpTaskPort} {q : Request}
    (hq : ReviewStep (.request q)) (hin : CyclesInOrder r)
    (h : performReview port r (.request q) = .ok r') :
    CyclesInOrder r' := by
  rcases request_spec h with ⟨hperform, hsame⟩
  apply hin.of_cycles_eq hsame.cycles
  intro taskId task htask hstatus
  rcases task_after_perform hperform htask with
    hold | ⟨dto, _, _, hnew⟩ | ⟨old, data, hold, hwrites, hwritten⟩
  · exact ⟨task, hold, hstatus, rfl⟩
  · rw [hnew] at hstatus
    cases hstatus
  · rw [hwritten, TaskUpdate.apply_status] at hstatus
    cases hdata : data.status with
    | some status =>
        rw [hdata] at hstatus
        cases hstatus
        rcases hwrites.inReview hdata with ⟨context, actor, hr⟩
        rw [hr] at hq
        exact absurd rfl hq
    | none =>
        rw [hdata] at hstatus
        refine ⟨old, hold, hstatus, ?_⟩
        rcases hwrites.currentReviewCycleId with hcurrent | hbacklog
        · rw [hwritten, TaskUpdate.apply_currentReviewCycleId, hcurrent]
          rfl
        · rw [hdata] at hbacklog
          cases hbacklog

/-!
## Dispatches
-/

section Dispatches

variable {now : Millis} {ids : DispatchIds} {params : DispatchReviewersParams} {task : Task}

theorem mem_openCycles_of_dispatched (h : Dispatched now ids params task r r') {taskId : TaskId} :
    c ∈ openCycles r' taskId <->
      c ∈ openCycles r taskId ∨
        (taskId = params.taskId ∧ c = routedCycle now ids.reviewCycleId params) := by
  constructor
  · intro hc
    rcases mem_openCycles.mp hc with ⟨hmem, htask, hopen⟩
    rcases (h.cycles c).mp hmem with hmem | hmem
    · exact Or.inl (mem_openCycles.mpr ⟨hmem, htask, hopen⟩)
    · refine Or.inr ⟨?_, hmem⟩
      rw [← htask, hmem]
      rfl
  · intro hc
    rcases hc with hc | ⟨htask, hc⟩
    · rcases mem_openCycles.mp hc with ⟨hmem, hrest⟩
      exact mem_openCycles.mpr ⟨(h.cycles c).mpr (Or.inl hmem), hrest⟩
    · refine mem_openCycles.mpr ⟨(h.cycles c).mpr (Or.inr hc), ?_, ?_⟩
      · rw [htask, hc]
        rfl
      · rw [hc]
        rfl

theorem findTask_of_dispatched (h : Dispatched now ids params task r r') (taskId : TaskId) :
    r'.store.findTask taskId =
      (r.store.writeTask params.taskId (task.version + 1)
        (reviewUpdate ids.reviewCycleId)).findTask taskId := by
  rw [h.store]
  rfl

theorem inOrder_of_dispatched (hin : CyclesInOrder r)
    (h : Dispatched now ids params task r r') (hnone : openCycles r params.taskId = []) :
    CyclesInOrder r' where
  atMostOne := by
    intro taskId
    rw [length_openCycles_le_one_iff]
    intro c c' hc hc'
    rw [mem_openCycles_of_dispatched h] at hc hc'
    by_cases hid : taskId = params.taskId
    · rw [hid, hnone] at hc hc'
      rcases hc with hc | ⟨_, hc⟩
      · cases hc
      · rcases hc' with hc' | ⟨_, hc'⟩
        · cases hc'
        · rw [hc, hc']
    · rcases hc with hc | ⟨htask, _⟩
      · rcases hc' with hc' | ⟨htask, _⟩
        · exact length_openCycles_le_one_iff.mp (hin.atMostOne taskId) c c' hc hc'
        · exact absurd htask hid
      · exact absurd htask hid
  inReview := by
    intro taskId t ht hstatus
    rw [findTask_of_dispatched h] at ht
    by_cases hid : taskId = params.taskId
    · rw [hid, Store.findTask_writeTask_self, h.found] at ht
      cases ht
      exact ⟨_, (mem_openCycles_of_dispatched h).mpr (Or.inr ⟨hid, rfl⟩), rfl⟩
    · rw [Store.findTask_writeTask_of_ne hid] at ht
      rcases hin.inReview taskId t ht hstatus with ⟨c, hc, hcurrent⟩
      exact ⟨c, (mem_openCycles_of_dispatched h).mpr (Or.inl hc), hcurrent⟩

/-- A dispatch leaves an open cycle of its task next to the new one. -/
theorem not_inOrder_of_dispatched (h : Dispatched now ids params task r r')
    (hopen : openCycles r params.taskId ≠ []) :
    ¬ CyclesInOrder r' := by
  intro hin
  rcases List.exists_mem_of_ne_nil _ hopen with ⟨c, hc⟩
  have hsame := length_openCycles_le_one_iff.mp (hin.atMostOne params.taskId) c
    (routedCycle now ids.reviewCycleId params)
    ((mem_openCycles_of_dispatched h).mpr (Or.inl hc))
    ((mem_openCycles_of_dispatched h).mpr (Or.inr ⟨rfl, rfl⟩))
  have hnew := Table.find?_eq_none_iff.mp h.newCycle c (mem_openCycles.mp hc).1
  rw [hsame] at hnew
  exact hnew rfl

end Dispatches

/-- A dispatch that is accepted finds no open cycle of its task. -/
def NoOpenCycle (r : ReviewTables) : ReviewRequest -> Prop
  | .dispatchReviewers _ idGenerator params =>
      (exists task, r.store.findTask params.taskId = some task ∧ task.status = .devComplete) ->
      FreshIds (generateIds idGenerator params.routingDecision.allSpecialists) r ->
        openCycles r params.taskId = []
  | _ => True

theorem inOrder_next_iff (port : FollowUpTaskPort) (r : ReviewTables) (q : ReviewRequest)
    (hq : ReviewStep q) (hin : CyclesInOrder r) :
    CyclesInOrder ((reviews port).next r q) <-> NoOpenCycle r q := by
  cases hstep : (reviews port).step r q with
  | error e =>
      rw [(reviews port).next_of_error hstep]
      refine ⟨fun _ => ?_, fun _ => hin⟩
      cases q with
      | dispatchReviewers now idGenerator params =>
          intro htask hfresh
          rcases (dispatchReviewers_accepted_iff now idGenerator params r).mpr
            ⟨htask, hfresh⟩ with ⟨result, hok⟩
          have hcommitted : (reviews port).step r
              (.dispatchReviewers now idGenerator params) = .ok result.1 :=
            committedReview_eq_ok.mpr ⟨result.2, hok⟩
          rw [hcommitted] at hstep
          cases hstep
      | _ =>
          trivial
  | ok r' =>
      rw [(reviews port).next_of_ok hstep]
      cases q with
      | dispatchReviewers now idGenerator params =>
          rcases committedReview_eq_ok.mp hstep with ⟨result, h⟩
          rcases dispatchReviewers_spec h with ⟨task, hdispatched⟩
          rcases (dispatchReviewers_accepted_iff now idGenerator params r).mp ⟨_, h⟩ with
            ⟨htask, hfresh⟩
          constructor
          · intro hin' _ _
            by_contra hopen
            exact not_inOrder_of_dispatched hdispatched hopen hin'
          · intro hnone
            exact inOrder_of_dispatched hin hdispatched (hnone htask hfresh)
      | assembleLeadReviewContext params =>
          rcases committedReview_eq_ok.mp hstep with ⟨result, h⟩
          rcases assembleLeadReviewContext_spec h with ⟨cycle, hconsolidated⟩
          exact iff_of_true (inOrder_of_consolidated hin hconsolidated) trivial
      | applyDecision idGenerator params =>
          rcases committedReview_eq_ok.mp hstep with ⟨result, h⟩
          rcases applyDecision_spec h with ⟨packet, task, cycle, hdecided⟩
          exact iff_of_true (inOrder_of_decided hin hdecided) trivial
      | transitionReviewCycle reviewCycleId targetStatus context actor =>
          rcases committedReview_eq_ok.mp hstep with ⟨event, h⟩
          rcases transitionReviewCycle_spec h with ⟨cycle, hfind, hvalid, _, hr'⟩
          refine iff_of_true ?_ trivial
          apply hin.of_open_move hfind (reviewCycle_not_terminal_of_validate hvalid) hq
          · rw [hr']
            rfl
          · rw [hr']
            rfl
      | createPacket packet =>
          rcases ReviewTables.createPacket_spec hstep with ⟨hstore, _, hcycles, _⟩
          refine iff_of_true (hin.of_cycles_eq hcycles ?_) trivial
          intro taskId task htask hstatus
          rw [hstore] at htask
          exact ⟨task, htask, hstatus, rfl⟩
      | job q =>
          have h : performReview port r (.job q) = .ok r' := hstep
          rcases job_spec h with ⟨jobs, _, hr'⟩
          rw [hr']
          exact iff_of_true
            (hin.of_cycles_eq rfl (fun taskId task htask hstatus => ⟨task, htask, hstatus, rfl⟩))
            trivial
      | request q =>
          have h : performReview port r (.request q) = .ok r' := hstep
          exact iff_of_true (inOrder_of_request hq hin h) trivial

/-- The cycles of a run are in order in every state exactly if no dispatch finds an open
cycle of its task. -/
theorem cyclesInOrder_iff_noOpenCycle (port : FollowUpTaskPort) (r : ReviewTables)
    (requests : List ReviewRequest) (hrequests : forall q, q ∈ requests -> ReviewStep q)
    (hin : CyclesInOrder r) :
    (forall t, t ∈ (reviews port).states r requests -> CyclesInOrder t) <->
      forall x, x ∈ (reviews port).arrivals r requests -> NoOpenCycle x.1 x.2 := by
  apply TransitionSystem.states_iff_arrivals ReviewStep (fun _ => True) CyclesInOrder
    NoOpenCycle
  · intro _ _ _ _ _ _
    trivial
  · intro s q hq _ hs
    exact inOrder_next_iff port s q hq hs
  · exact hrequests
  · trivial
  · exact hin

theorem cyclesInOrder_empty : CyclesInOrder ReviewTables.empty where
  atMostOne := fun _ => Nat.zero_le 1
  inReview := by
    intro taskId task htask
    cases htask

theorem cyclesInOrder_iff_noOpenCycle_firstReview :
    (forall t, t ∈ (reviews plainFollowUps).states ReviewTables.empty firstReview ->
        CyclesInOrder t) <->
      forall x, x ∈ (reviews plainFollowUps).arrivals ReviewTables.empty firstReview ->
        NoOpenCycle x.1 x.2 :=
  cyclesInOrder_iff_noOpenCycle plainFollowUps ReviewTables.empty firstReview
    (by simp [firstReview, developedTask, ReviewStep]) cyclesInOrder_empty

def secondReview : List ReviewRequest :=
  firstReview ++
    [.request (.rerunReview "task-1" "operator-1"),
      .dispatchReviewers 60000 (sampleIds "b") reviewParams]

theorem rerun_leaves_cycle_open :
    (forall q, q ∈ secondReview -> ReviewStep q) ∧
      ¬ forall t, t ∈ (reviews plainFollowUps).states ReviewTables.empty secondReview ->
        CyclesInOrder t := by
  refine ⟨by simp [secondReview, firstReview, developedTask, ReviewStep], ?_⟩
  intro h
  have hone := (h _ ((reviews plainFollowUps).run_mem_states _ _)).atMostOne "task-1"
  have htwo : (openCycles ((reviews plainFollowUps).run ReviewTables.empty secondReview)
      "task-1").length = 2 := by
    decide +kernel
  rw [htwo] at hone
  omega

end Reviewing
end CopilotFactory
