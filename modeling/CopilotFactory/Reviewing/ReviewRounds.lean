import CopilotFactory.ControlPlane.TaskColumns
import CopilotFactory.Reviewing.ReviewRequests

/-!
# Review rounds

A task goes through rounds of review.  A round ends with the decision on its cycle,
which moves the task in the same transaction.  Rejected rounds are counted, and the one
that reaches the limit escalates the task.
-/

namespace CopilotFactory
namespace Reviewing

open Foundations
open Domain
open Infrastructure
open ControlPlane

variable {reviewCycleId : ReviewCycleId} {q : ReviewRequest} {data : TaskUpdate}
  {port : FollowUpTaskPort} {cycleEnd : ReviewCycleStatus} {taskEnd : TaskStatus}

def rejectedCycles (r : ReviewTables) (taskId : TaskId) : List ReviewCycle :=
  r.reviewCycles.rows.filter (fun cycle => cycle.taskId = taskId ∧ cycle.status = .rejected)

def statusOf (r : ReviewTables) (taskId : TaskId) : Option TaskStatus :=
  (r.store.findTask taskId).map Task.status

/-- The ends of a cycle, each with the status to which the task moves. -/
def reviewEnds : List (ReviewCycleStatus × TaskStatus) :=
  [(.approved, .approved), (.rejected, .changesRequested), (.escalated, .escalated)]

/-- The requests of a review of the task, with the limit of its rounds: a cycle ends only by
a decision, and only dispatches and decisions take the task to review and out of it. -/
def RoundStep (taskId : TaskId) (maxReviewRounds : Nat) : ReviewRequest -> Prop
  | .applyDecision _ params =>
      params.taskId = taskId -> params.maxReviewRounds = maxReviewRounds
  | .transitionReviewCycle _ targetStatus _ _ =>
      isTerminalReviewCycleState targetStatus = false
  | .request (.transitionTask id targetStatus _ _) =>
      id = taskId ->
        targetStatus ∉ [TaskStatus.inReview, .approved, .changesRequested, .escalated]
  | .request (.pause id _) => id ≠ taskId
  | _ => True

/-!
## Rejected cycles
-/

theorem mem_rejectedCycles {r : ReviewTables} {taskId : TaskId} {cycle : ReviewCycle} :
    cycle ∈ rejectedCycles r taskId <->
      cycle ∈ r.reviewCycles ∧ cycle.taskId = taskId ∧ cycle.status = .rejected := by
  simp [rejectedCycles, Table.mem_def]

theorem nodup_rejectedCycles (r : ReviewTables) (taskId : TaskId) :
    (rejectedCycles r taskId).Nodup :=
  (List.Nodup.of_map ReviewCycle.reviewCycleId r.reviewCycles.nodup).filter _

variable {r r' : ReviewTables} {taskId : TaskId}

theorem length_rejectedCycles_of_same
    (h : forall c, c ∈ rejectedCycles r' taskId <-> c ∈ rejectedCycles r taskId) :
    (rejectedCycles r' taskId).length = (rejectedCycles r taskId).length :=
  ((List.perm_ext_iff_of_nodup (nodup_rejectedCycles r' taskId)
    (nodup_rejectedCycles r taskId)).mpr h).length_eq

theorem length_rejectedCycles_of_new (cycle : ReviewCycle)
    (hnew : cycle ∉ rejectedCycles r taskId)
    (h : forall c, c ∈ rejectedCycles r' taskId <->
      c = cycle ∨ c ∈ rejectedCycles r taskId) :
    (rejectedCycles r' taskId).length = (rejectedCycles r taskId).length + 1 := by
  have hperm : (rejectedCycles r' taskId).Perm (cycle :: rejectedCycles r taskId) := by
    apply (List.perm_ext_iff_of_nodup (nodup_rejectedCycles r' taskId) _).mpr
    · intro c
      rw [List.mem_cons]
      exact h c
    · exact List.nodup_cons.mpr ⟨hnew, nodup_rejectedCycles r taskId⟩
  rw [hperm.length_eq, List.length_cons]

theorem mem_rejectedCycles_of_move {cycle : ReviewCycle} {target : ReviewCycleStatus}
    (hfind : r.findCycle reviewCycleId = some cycle)
    (hopen : isTerminalReviewCycleState cycle.status = false)
    (hcycles : r'.reviewCycles = (r.writeCycle reviewCycleId target).reviewCycles)
    (c : ReviewCycle) :
    c ∈ rejectedCycles r' taskId <->
      (c = ReviewTables.withStatus target cycle ∧ cycle.taskId = taskId ∧
        target = .rejected) ∨
      c ∈ rejectedCycles r taskId := by
  rcases Table.find?_eq_some_iff.mp hfind with ⟨hcycle, hid⟩
  have hsame : forall old, old ∈ r.reviewCycles -> old.reviewCycleId = reviewCycleId ->
      old = cycle :=
    fun old hold holdId => Table.eq_of_key hold hcycle (holdId.trans hid.symm)
  rw [mem_rejectedCycles, mem_rejectedCycles, hcycles, ReviewTables.mem_writeCycle]
  constructor
  · intro h
    rcases h with ⟨⟨old, hold, hc⟩, htask, hstatus⟩
    by_cases holdId : old.reviewCycleId = reviewCycleId
    · rw [if_pos holdId, hsame old hold holdId] at hc
      rw [hc] at htask hstatus
      exact Or.inl ⟨hc, htask, hstatus⟩
    · rw [if_neg holdId] at hc
      rw [hc] at htask hstatus ⊢
      exact Or.inr ⟨hold, htask, hstatus⟩
  · intro h
    rcases h with ⟨hc, htask, htarget⟩ | ⟨hmem, htask, hstatus⟩
    · rw [hc]
      exact ⟨⟨cycle, hcycle, (if_pos hid).symm⟩, htask, htarget⟩
    · refine ⟨⟨c, hmem, (if_neg ?_).symm⟩, htask, hstatus⟩
      intro hcId
      rw [hsame c hmem hcId] at hstatus
      rw [hstatus] at hopen
      cases hopen

theorem rejectedCycles_of_other_move {cycle : ReviewCycle} {target : ReviewCycleStatus}
    (hfind : r.findCycle reviewCycleId = some cycle)
    (hopen : isTerminalReviewCycleState cycle.status = false)
    (hcycles : r'.reviewCycles = (r.writeCycle reviewCycleId target).reviewCycles)
    (hother : ¬ (cycle.taskId = taskId ∧ target = .rejected)) (c : ReviewCycle) :
    c ∈ rejectedCycles r' taskId <-> c ∈ rejectedCycles r taskId := by
  rw [mem_rejectedCycles_of_move hfind hopen hcycles]
  constructor
  · intro h
    rcases h with ⟨_, hends⟩ | h
    · exact absurd hends hother
    · exact h
  · intro h
    exact Or.inr h

/-!
## Steps that end no round
-/

/-- A task after a step that ends no round of it, given the row before, if any. -/
structure SameRound (before : Option Task) (task : Task) : Prop where
  rounds : task.reviewRoundCount = (before.map Task.reviewRoundCount).getD 0
  review : before.map Task.status = some .inReview ->
    task.status ∉ [TaskStatus.approved, .changesRequested, .escalated]
  rework : task.status = .changesRequested ->
    before.map Task.status = some .changesRequested
  current : task.status = .inReview ->
    task.currentReviewCycleId ≠ none ∨
      exists old, before = some old ∧ old.status = .inReview ∧
        old.currentReviewCycleId = task.currentReviewCycleId

theorem SameRound.refl (task : Task) :
    SameRound (some task) task where
  rounds := rfl
  review := by
    intro hstatus
    rw [Option.some.inj hstatus]
    decide
  rework := fun hstatus => congrArg some hstatus
  current := fun hstatus => Or.inr ⟨task, rfl, hstatus, rfl⟩

theorem sameRound_of_new {task : Task} (hstatus : task.status = .backlog)
    (hcount : task.reviewRoundCount = 0) :
    SameRound none task where
  rounds := hcount
  review := by
    intro hreview
    cases hreview
  rework := by
    intro hrework
    rw [hstatus] at hrework
    cases hrework
  current := by
    intro hreview
    rw [hstatus] at hreview
    cases hreview

structure EndsNoRound (taskId : TaskId) (r r' : ReviewTables) : Prop where
  rejected : forall c, c ∈ rejectedCycles r' taskId <-> c ∈ rejectedCycles r taskId
  cycles : forall cycle, cycle ∈ r.reviewCycles -> cycle.taskId = taskId ->
    exists cycle', r'.findCycle cycle.reviewCycleId = some cycle' ∧
      (cycle'.status = cycle.status ∨ isTerminalReviewCycleState cycle'.status = false)
  task : forall task, r'.store.findTask taskId = some task ->
    SameRound (r.store.findTask taskId) task

theorem EndsNoRound.of_cycles_eq (hcycles : r'.reviewCycles = r.reviewCycles)
    (htask : forall task, r'.store.findTask taskId = some task ->
      SameRound (r.store.findTask taskId) task) :
    EndsNoRound taskId r r' where
  rejected := by
    intro c
    rw [mem_rejectedCycles, mem_rejectedCycles, hcycles]
  cycles := by
    intro cycle hcycle _
    refine ⟨cycle, ?_, Or.inl rfl⟩
    unfold ReviewTables.findCycle
    rw [hcycles]
    exact Table.find?_key_of_mem hcycle
  task := htask

theorem EndsNoRound.of_move {cycle : ReviewCycle} {target : ReviewCycleStatus}
    (hfind : r.findCycle reviewCycleId = some cycle)
    (hopen : isTerminalReviewCycleState cycle.status = false)
    (hcycles : r'.reviewCycles = (r.writeCycle reviewCycleId target).reviewCycles)
    (hends : cycle.taskId = taskId -> isTerminalReviewCycleState target = false)
    (htask : forall task, r'.store.findTask taskId = some task ->
      SameRound (r.store.findTask taskId) task) :
    EndsNoRound taskId r r' where
  rejected := by
    apply rejectedCycles_of_other_move hfind hopen hcycles
    intro hrejected
    have hterminal := hends hrejected.1
    rw [hrejected.2] at hterminal
    cases hterminal
  cycles := by
    intro c hc hcTask
    unfold ReviewTables.findCycle
    rw [hcycles, ReviewTables.writeCycle_reviewCycles, Table.find?_modify,
      Table.find?_key_of_mem hc, Option.map_some]
    by_cases hid : c.reviewCycleId = reviewCycleId
    · rw [if_pos hid]
      refine ⟨_, rfl, Or.inr (hends ?_)⟩
      have hsame : c = cycle :=
        Table.eq_of_key hc (Table.mem_of_find? hfind)
          (hid.trans (Table.key_of_find? hfind).symm)
      rw [← hsame]
      exact hcTask
    · rw [if_neg hid]
      exact ⟨c, rfl, Or.inl rfl⟩
  task := htask

theorem sameRound_of_tasks_eq (htasks : r'.store.tasks = r.store.tasks) {task : Task}
    (htask : r'.store.findTask taskId = some task) :
    SameRound (r.store.findTask taskId) task := by
  rw [Store.findTask_of_tasks_eq htasks] at htask
  rw [htask]
  exact SameRound.refl task

theorem endsNoRound_of_consolidated {params : AssembleLeadReviewContextParams}
    {cycle : ReviewCycle} (h : Consolidated params cycle r r') :
    EndsNoRound taskId r r' :=
  EndsNoRound.of_move h.found h.notOver h.cycles (fun _ => rfl)
    (fun _ htask => sameRound_of_tasks_eq h.kept.1 htask)

theorem endsNoRound_of_dispatched {now : Millis} {ids : DispatchIds}
    {params : DispatchReviewersParams} {task : Task}
    (h : Dispatched now ids params task r r') :
    EndsNoRound taskId r r' where
  rejected := by
    intro c
    rw [mem_rejectedCycles, mem_rejectedCycles, h.cycles]
    constructor
    · intro hc
      rcases hc with ⟨hc | hc, hrest⟩
      · exact ⟨hc, hrest⟩
      · rw [hc] at hrest
        cases hrest.2
    · intro hc
      exact ⟨Or.inl hc.1, hc.2⟩
  cycles := by
    intro cycle hcycle _
    exact ⟨cycle, Table.find?_key_of_mem ((h.cycles cycle).mpr (Or.inl hcycle)), Or.inl rfl⟩
  task := by
    intro t ht
    have hfind : r'.store.findTask taskId =
        (r.store.writeTask params.taskId (task.version + 1)
          (reviewUpdate ids.reviewCycleId)).findTask taskId := by
      rw [h.store]
      rfl
    rw [hfind] at ht
    by_cases hid : taskId = params.taskId
    · rw [hid, Store.findTask_writeTask_self, h.found] at ht
      cases ht
      rw [hid, h.found]
      constructor
      · rfl
      · intro hstatus
        rw [Option.map_some, h.devComplete] at hstatus
        cases hstatus
      · intro hstatus
        cases hstatus
      · intro _
        left
        exact Option.some_ne_none _
    · rw [Store.findTask_writeTask_of_ne hid] at ht
      rw [ht]
      exact SameRound.refl t

theorem endsNoRound_of_decided {params : ApplyReviewDecisionParams}
    {packet : LeadReviewDecisionPacket} {record : LeadReviewDecisionRecord} {task : Task}
    {cycle : ReviewCycle} (h : Decided params packet record task cycle r r')
    (hother : params.taskId ≠ taskId) :
    EndsNoRound taskId r r' := by
  apply EndsNoRound.of_move h.foundCycle h.notOver h.cycles
  · intro hcycle
    exact absurd (h.cycleTask.symm.trans hcycle) hother
  · intro t ht
    cases hold : r.store.findTask taskId with
    | some old =>
        have hkept := h.keptTasks taskId old (Ne.symm hother) hold
        rw [ht] at hkept
        cases hkept
        exact SameRound.refl t
    | none =>
        have hnew := h.newTasks taskId t ht hold
        exact sameRound_of_new hnew.status hnew.reviewRoundCount

theorem request_of_review_end {q : Request} {task : Task} {status : TaskStatus}
    (h : q.Writes taskId task data) (hreview : task.status = .inReview)
    (hstatus : data.status = some status)
    (hend : status ∈ [TaskStatus.approved, .changesRequested, .escalated]) :
    (exists context actor, q = .transitionTask taskId status context actor) ∨
      exists actorId, q = .pause taskId actorId := by
  have htargets := h.status_mem_targets hstatus
  cases q with
  | transitionTask id target context actor =>
      rw [h.1, List.mem_singleton.mp htargets]
      exact Or.inl ⟨context, actor, rfl⟩
  | pause id actorId =>
      rw [h.1]
      exact Or.inr ⟨actorId, rfl⟩
  | reclaimLease params =>
      have hsource := h.1
      rw [hreview] at hsource
      exact absurd hsource (by decide)
  | _ =>
      grind [Request.targets]

theorem sameRound_of_edit {q : Request} {old : Task} (hwrites : q.Writes taskId old data)
    (hdata : data.status = none) : SameRound (some old) (data.apply (old.version + 1) old) := by
  have hcurrent : data.currentReviewCycleId = none := by
    rcases hwrites.currentReviewCycleId with hcurrent | hbacklog
    · exact hcurrent
    · rw [hdata] at hbacklog
      cases hbacklog
  constructor
  · simp [hwrites.reviewRoundCount]
  · intro hstatus
    rw [TaskUpdate.apply_status, hdata, Option.getD_none, Option.some.inj hstatus]
    decide
  · intro hstatus
    rw [TaskUpdate.apply_status, hdata] at hstatus
    exact congrArg some hstatus
  · intro hstatus
    rw [TaskUpdate.apply_status, hdata] at hstatus
    refine Or.inr ⟨old, rfl, hstatus, ?_⟩
    rw [TaskUpdate.apply_currentReviewCycleId, hcurrent]
    rfl

theorem sameRound_of_move {maxReviewRounds : Nat} {q : Request}
    (hq : RoundStep taskId maxReviewRounds (.request q)) {old : Task}
    (hwrites : q.Writes taskId old data) {status : TaskStatus}
    (hdata : data.status = some status) :
    SameRound (some old) (data.apply (old.version + 1) old) := by
  have hmoved : (data.apply (old.version + 1) old).status = status := by
    rw [TaskUpdate.apply_status, hdata]
    rfl
  have htransition : forall context actor,
      q = .transitionTask taskId status context actor ->
        status ∉ [TaskStatus.inReview, .approved, .changesRequested, .escalated] := by
    intro context actor hr
    rw [hr] at hq
    exact hq rfl
  constructor
  · simp [hwrites.reviewRoundCount]
  · intro hreview
    rw [hmoved]
    intro hend
    rcases request_of_review_end hwrites (Option.some.inj hreview) hdata hend with
      ⟨context, actor, hr⟩ | ⟨actorId, hr⟩
    · exact htransition context actor hr (List.mem_cons_of_mem _ hend)
    · rw [hr] at hq
      exact hq rfl
  · intro hrework
    rw [hmoved] at hrework
    have htargets := hwrites.status_mem_targets hdata
    rw [hrework] at htargets htransition
    cases q with
    | transitionTask id target context actor =>
        have htarget : target = .changesRequested :=
          (List.mem_singleton.mp htargets).symm
        rw [hwrites.1, htarget] at htransition
        exact absurd (by decide) (htransition context actor rfl)
    | _ =>
        simp [Request.targets] at htargets
  · intro hreview
    rw [hmoved] at hreview
    rw [hreview] at hdata htransition
    rcases hwrites.inReview hdata with ⟨context, actor, hr⟩
    exact absurd (by decide) (htransition context actor hr)

theorem sameRound_of_request {maxReviewRounds : Nat} {q : Request}
    (hq : RoundStep taskId maxReviewRounds (.request q)) {s s' : Store}
    (h : perform s q = .ok s') {task : Task} (htask : s'.findTask taskId = some task) :
    SameRound (s.findTask taskId) task := by
  rcases task_after_perform h htask with
    hold | ⟨dto, _, hnone, hnew⟩ | ⟨old, data, hold, hwrites, hwritten⟩
  · rw [hold]
    exact SameRound.refl task
  · rw [hnone, hnew]
    exact sameRound_of_new rfl rfl
  · rw [hold, hwritten]
    cases hdata : data.status with
    | none =>
        exact sameRound_of_edit hwrites hdata
    | some status =>
        exact sameRound_of_move hq hwrites hdata

/-- A step ends no round of the task, or is the decision on one. -/
theorem endsNoRound_or_decided {maxReviewRounds : Nat} (hq : RoundStep taskId maxReviewRounds q)
    (h : performReview port r q = .ok r') :
    EndsNoRound taskId r r' ∨
      exists idGenerator params packet record task cycle,
        q = .applyDecision idGenerator params ∧ params.taskId = taskId ∧
        params.maxReviewRounds = maxReviewRounds ∧
        Decided params packet record task cycle r r' := by
  cases q with
  | dispatchReviewers now idGenerator params =>
      rcases committedReview_eq_ok.mp h with ⟨result, h⟩
      rcases dispatchReviewers_spec h with ⟨task, hdispatched⟩
      exact Or.inl (endsNoRound_of_dispatched hdispatched)
  | assembleLeadReviewContext params =>
      rcases committedReview_eq_ok.mp h with ⟨result, h⟩
      rcases assembleLeadReviewContext_spec h with ⟨cycle, hconsolidated⟩
      exact Or.inl (endsNoRound_of_consolidated hconsolidated)
  | applyDecision idGenerator params =>
      rcases committedReview_eq_ok.mp h with ⟨result, h⟩
      rcases applyDecision_spec h with ⟨packet, task, cycle, hdecided⟩
      by_cases htask : params.taskId = taskId
      · exact Or.inr ⟨idGenerator, params, packet, _, task, cycle, rfl, htask, hq htask,
          hdecided⟩
      · exact Or.inl (endsNoRound_of_decided hdecided htask)
  | transitionReviewCycle reviewCycleId targetStatus context actor =>
      rcases committedReview_eq_ok.mp h with ⟨event, h⟩
      rcases transitionReviewCycle_spec h with ⟨cycle, hfind, hvalid, _, hr'⟩
      have hcycles : r'.reviewCycles =
          (r.writeCycle reviewCycleId targetStatus).reviewCycles := by
        rw [hr']
        rfl
      left
      apply EndsNoRound.of_move hfind (reviewCycle_not_terminal_of_validate hvalid) hcycles
      · intro _
        exact hq
      · intro task htask
        apply sameRound_of_tasks_eq _ htask
        rw [hr']
        rfl
  | createPacket packet =>
      rcases ReviewTables.createPacket_spec h with ⟨hstore, _, hcycles, _⟩
      left
      apply EndsNoRound.of_cycles_eq hcycles
      intro task htask
      apply sameRound_of_tasks_eq _ htask
      rw [hstore]
  | job q =>
      rcases job_spec h with ⟨jobs, _, hr'⟩
      have hcycles : r'.reviewCycles = r.reviewCycles := by
        rw [hr']
        rfl
      left
      apply EndsNoRound.of_cycles_eq hcycles
      intro task htask
      apply sameRound_of_tasks_eq _ htask
      rw [hr']
      rfl
  | request q =>
      rcases request_spec h with ⟨hperform, hsame⟩
      left
      apply EndsNoRound.of_cycles_eq hsame.cycles
      intro task htask
      exact sameRound_of_request hq hperform htask

/-!
## The decision on a round
-/

section Decision

variable {params : ApplyReviewDecisionParams} {packet : LeadReviewDecisionPacket}
  {record : LeadReviewDecisionRecord} {task : Task} {cycle : ReviewCycle}

theorem targets_mem_reviewEnds (params : ApplyReviewDecisionParams) (task : Task)
    (decision : LeadReviewDecision) :
    (cycleTarget params task decision, taskTarget params task decision) ∈ reviewEnds := by
  unfold cycleTarget taskTarget
  generalize evaluatePolicyEscalation params task decision = escalates
  cases decision <;> cases escalates <;> decide

theorem reviewEnds_injective {cycleEnd' : ReviewCycleStatus} {taskEnd' : TaskStatus}
    (h : (cycleEnd, taskEnd) ∈ reviewEnds) (h' : (cycleEnd', taskEnd') ∈ reviewEnds) :
    cycleEnd = cycleEnd' <-> taskEnd = taskEnd' := by
  simp only [reviewEnds, List.mem_cons, List.not_mem_nil, or_false, Prod.mk.injEq] at h h'
  rcases h with ⟨hc, ht⟩ | ⟨hc, ht⟩ | ⟨hc, ht⟩ <;>
    rcases h' with ⟨hc', ht'⟩ | ⟨hc', ht'⟩ | ⟨hc', ht'⟩ <;>
      rw [hc, ht, hc', ht'] <;> decide

theorem terminal_of_reviewEnd (h : (cycleEnd, taskEnd) ∈ reviewEnds) :
    isTerminalReviewCycleState cycleEnd = true ∧ taskEnd ≠ .inReview ∧
      taskEnd ∈ [TaskStatus.approved, .changesRequested, .escalated] := by
  simp only [reviewEnds, List.mem_cons, List.not_mem_nil, or_false, Prod.mk.injEq] at h
  rcases h with ⟨hc, ht⟩ | ⟨hc, ht⟩ | ⟨hc, ht⟩ <;> rw [hc, ht] <;> decide

theorem findCycle_of_decided (h : Decided params packet record task cycle r r')
    {c : ReviewCycle} (hc : c ∈ r.reviewCycles) :
    r'.findCycle c.reviewCycleId =
      some (if c.reviewCycleId = params.reviewCycleId then
        ReviewTables.withStatus (cycleTarget params task packet.decision) c else c) := by
  unfold ReviewTables.findCycle
  rw [h.cycles, ReviewTables.writeCycle_reviewCycles, Table.find?_modify,
    Table.find?_key_of_mem hc]
  rfl

theorem statusOf_of_decided (h : Decided params packet record task cycle r r') :
    statusOf r params.taskId = some .inReview ∧
      statusOf r' params.taskId = some (taskTarget params task packet.decision) := by
  rcases h.movedTask with ⟨version, _, hmoved⟩
  unfold statusOf
  rw [h.foundTask, hmoved, Option.map_some, Option.map_some, h.inReview]
  exact ⟨rfl, rfl⟩

theorem length_rejectedCycles_of_decided
    (h : Decided params packet record task cycle r r') :
    (rejectedCycles r' params.taskId).length =
      (rejectedCycles r params.taskId).length +
        if countsRound params task packet.decision then 1 else 0 := by
  by_cases hcounts : countsRound params task packet.decision = true
  · rw [if_pos hcounts]
    have htarget := (cycleTarget_eq_rejected_iff params task packet.decision).mpr hcounts
    apply length_rejectedCycles_of_new
      (ReviewTables.withStatus (cycleTarget params task packet.decision) cycle)
    · intro hmem
      rcases mem_rejectedCycles.mp hmem with ⟨hmem, _, _⟩
      have hsame := Table.eq_of_key hmem (Table.mem_of_find? h.foundCycle) rfl
      have hstatus : cycleTarget params task packet.decision = cycle.status :=
        congrArg ReviewCycle.status hsame
      rw [htarget, h.consolidating] at hstatus
      cases hstatus
    · intro c
      rw [mem_rejectedCycles_of_move h.foundCycle h.notOver h.cycles]
      constructor
      · intro hc
        rcases hc with ⟨hc, _⟩ | hc
        · exact Or.inl hc
        · exact Or.inr hc
      · intro hc
        rcases hc with hc | hc
        · exact Or.inl ⟨hc, h.cycleTask, htarget⟩
        · exact Or.inr hc
  · rw [if_neg hcounts, Nat.add_zero]
    apply length_rejectedCycles_of_same
    apply rejectedCycles_of_other_move h.foundCycle h.notOver h.cycles
    intro hrejected
    exact hcounts ((cycleTarget_eq_rejected_iff params task packet.decision).mp hrejected.2)

end Decision

/-!
## The count of the rounds
-/

/-- The rounds of the task are counted, and stay below the limit; in review it has a current
cycle. -/
structure RoundsCounted (taskId : TaskId) (maxReviewRounds : Nat) (r : ReviewTables) :
    Prop where
  counted : forall task, r.store.findTask taskId = some task ->
    task.reviewRoundCount = (rejectedCycles r taskId).length
  bounded : (rejectedCycles r taskId).length ≤ maxReviewRounds - 1
  current : forall task, r.store.findTask taskId = some task -> task.status = .inReview ->
    task.currentReviewCycleId ≠ none

theorem rejectedCycles_of_no_task (hnone : r.store.findTask taskId = none) :
    rejectedCycles r taskId = [] := by
  apply List.eq_nil_iff_forall_not_mem.mpr
  intro cycle hcycle
  rcases mem_rejectedCycles.mp hcycle with ⟨hmem, htask, _⟩
  have hsome := r.cycleTask cycle hmem
  rw [htask, hnone] at hsome
  cases hsome

theorem roundsCounted_of_no_task (maxReviewRounds : Nat)
    (hnone : r.store.findTask taskId = none) :
    RoundsCounted taskId maxReviewRounds r where
  counted := by
    intro task htask
    rw [hnone] at htask
    cases htask
  bounded := by
    rw [rejectedCycles_of_no_task hnone]
    exact Nat.zero_le _
  current := by
    intro task htask
    rw [hnone] at htask
    cases htask

variable {maxReviewRounds : Nat}

theorem roundsCounted_of_sameRound (hin : RoundsCounted taskId maxReviewRounds r)
    (h : EndsNoRound taskId r r') :
    RoundsCounted taskId maxReviewRounds r' := by
  have hlength := length_rejectedCycles_of_same h.rejected
  constructor
  · intro task htask
    have hsame := h.task task htask
    rw [hsame.rounds, hlength]
    cases hbefore : r.store.findTask taskId with
    | none =>
        rw [rejectedCycles_of_no_task hbefore]
        rfl
    | some old =>
        exact hin.counted old hbefore
  · rw [hlength]
    exact hin.bounded
  · intro task htask hstatus
    rcases (h.task task htask).current hstatus with hcurrent | ⟨old, hold, holdStatus, hsame⟩
    · exact hcurrent
    · rw [← hsame]
      exact hin.current old hold holdStatus

theorem roundsCounted_of_decided {params : ApplyReviewDecisionParams}
    {packet : LeadReviewDecisionPacket} {record : LeadReviewDecisionRecord} {task : Task}
    {cycle : ReviewCycle} (hlimit : params.maxReviewRounds = maxReviewRounds)
    (hin : RoundsCounted params.taskId maxReviewRounds r)
    (h : Decided params packet record task cycle r r') :
    RoundsCounted params.taskId maxReviewRounds r' := by
  have hlength := length_rejectedCycles_of_decided h
  have hbefore := hin.counted task h.foundTask
  rcases h.movedTask with ⟨version, _, hmoved⟩
  constructor
  · intro t ht
    rw [hmoved] at ht
    cases ht
    rw [TaskUpdate.apply_reviewRoundCount, hlength, ← hbefore]
    unfold decidedUpdate
    split <;> rfl
  · rw [hlength]
    by_cases hcounts : countsRound params task packet.decision = true
    · rw [if_pos hcounts]
      -- The round is counted because it is not the last one allowed.
      unfold countsRound at hcounts
      rw [Bool.and_eq_true, Bool.not_eq_true', decide_eq_true_eq] at hcounts
      have hbelow : ¬ params.maxReviewRounds ≤ task.reviewRoundCount + 1 := by
        intro hreached
        have hescalates := (evaluatePolicyEscalation_iff params task packet.decision).mpr
          ⟨hcounts.1, hreached⟩
        rw [hcounts.2] at hescalates
        cases hescalates
      rw [hlimit, hbefore] at hbelow
      omega
    · rw [if_neg hcounts]
      exact hin.bounded
  · intro t ht hstatus
    have hmovedStatus := (statusOf_of_decided h).2
    unfold statusOf at hmovedStatus
    rw [ht, Option.map_some, hstatus] at hmovedStatus
    exact absurd (Option.some.inj hmovedStatus).symm
      (terminal_of_reviewEnd (targets_mem_reviewEnds params task packet.decision)).2.1

theorem roundsCounted_preserved (port : FollowUpTaskPort) (taskId : TaskId)
    (maxReviewRounds : Nat) :
    (reviews port).Preserves (RoundStep taskId maxReviewRounds)
      (RoundsCounted taskId maxReviewRounds) := by
  intro r q r' hq hin hstep
  rcases endsNoRound_or_decided hq hstep with
    hnone | ⟨_, params, packet, record, task, cycle, _, htask, hlimit, hdecided⟩
  · exact roundsCounted_of_sameRound hin hnone
  · rw [← htask] at hin ⊢
    exact roundsCounted_of_decided hlimit hin hdecided

/-!
## The returns of the task
-/

def sentBack (port : FollowUpTaskPort) (taskId : TaskId) (r : ReviewTables)
    (q : ReviewRequest) : Bool :=
  statusOf r taskId ≠ some .changesRequested ∧
    statusOf ((reviews port).next r q) taskId = some .changesRequested

def timesSentBack (port : FollowUpTaskPort) (taskId : TaskId) (r : ReviewTables)
    (requests : List ReviewRequest) : Nat :=
  ((reviews port).arrivals r requests).countP (fun x => sentBack port taskId x.1 x.2)

theorem EndsNoRound.refl (taskId : TaskId) (r : ReviewTables) : EndsNoRound taskId r r := by
  apply EndsNoRound.of_cycles_eq rfl
  intro task htask
  rw [htask]
  exact SameRound.refl task

theorem next_endsNoRound_or_decided (hq : RoundStep taskId maxReviewRounds q) :
    EndsNoRound taskId r ((reviews port).next r q) ∨
      exists idGenerator params packet record task cycle,
        q = .applyDecision idGenerator params ∧ params.taskId = taskId ∧
        params.maxReviewRounds = maxReviewRounds ∧
        Decided params packet record task cycle r ((reviews port).next r q) := by
  refine (reviews port).next_cases (Or.inl (EndsNoRound.refl taskId r)) ?_
  intro r' hstep
  exact endsNoRound_or_decided hq hstep

/-- A task is sent back exactly when one of its cycles is rejected. -/
theorem length_rejectedCycles_next (hq : RoundStep taskId maxReviewRounds q) :
    (rejectedCycles ((reviews port).next r q) taskId).length =
      (rejectedCycles r taskId).length + if sentBack port taskId r q then 1 else 0 := by
  rcases next_endsNoRound_or_decided hq with
    hnone | ⟨_, params, packet, record, task, cycle, _, htask, _, hdecided⟩
  · have hkept : sentBack port taskId r q = false := by
      apply Bool.eq_false_iff.mpr
      intro hsent
      simp only [sentBack, ne_eq, decide_eq_true_eq] at hsent
      rcases Option.map_eq_some_iff.mp hsent.2 with ⟨moved, hmoved, hstatus⟩
      exact hsent.1 ((hnone.task moved hmoved).rework hstatus)
    rw [length_rejectedCycles_of_same hnone.rejected, hkept]
    rfl
  · rw [← htask, length_rejectedCycles_of_decided hdecided]
    rcases statusOf_of_decided hdecided with ⟨hbefore, hafter⟩
    have hsent : sentBack port params.taskId r q =
        countsRound params task packet.decision := by
      apply Bool.eq_iff_iff.mpr
      rw [← taskTarget_eq_changesRequested_iff]
      simp only [sentBack, ne_eq, decide_eq_true_eq, hbefore, hafter, Option.some.injEq]
      simp
    rw [hsent]

theorem length_rejectedCycles_run (port : FollowUpTaskPort) {r : ReviewTables}
    {requests : List ReviewRequest}
    (hrequests : forall q, q ∈ requests -> RoundStep taskId maxReviewRounds q) :
    (rejectedCycles ((reviews port).run r requests) taskId).length =
      (rejectedCycles r taskId).length + timesSentBack port taskId r requests := by
  apply TransitionSystem.run_count (I := fun _ => True)
    (C := fun _ q => RoundStep taskId maxReviewRounds q)
    (fun r => (rejectedCycles r taskId).length) (sentBack port taskId)
  · intro _ _ _ _
    trivial
  · intro _ q _ hq
    exact length_rejectedCycles_next hq
  · trivial
  · intro x hx
    exact hrequests x.2 ((reviews port).mem_of_mem_arrivals hx)

/-!
## Decisions
-/

def decidedCycle (port : FollowUpTaskPort) (r : ReviewTables) :
    ReviewRequest -> Option ReviewCycleId
  | .applyDecision idGenerator params =>
      if (applyDecision port idGenerator params r).toOption.isSome then
        some params.reviewCycleId
      else
        none
  | _ => none

def decidedCycles (port : FollowUpTaskPort) (r : ReviewTables)
    (requests : List ReviewRequest) : List ReviewCycleId :=
  ((reviews port).arrivals r requests).filterMap (fun x => decidedCycle port x.1 x.2)

theorem decidedCycle_eq_some (h : decidedCycle port r q = some reviewCycleId) :
    exists params packet record task cycle, params.reviewCycleId = reviewCycleId ∧
      Decided params packet record task cycle r ((reviews port).next r q) := by
  cases q with
  | applyDecision idGenerator params =>
      simp only [decidedCycle] at h
      split at h
      · rename_i haccepted
        rcases Option.isSome_iff_exists.mp haccepted with ⟨⟨r', result⟩, hsome⟩
        have hdecision := toOption_eq_some.mp hsome
        rcases applyDecision_spec hdecision with ⟨packet, task, cycle, hdecided⟩
        have hnext : (reviews port).next r (.applyDecision idGenerator params) = r' :=
          (reviews port).next_of_ok (committedReview_eq_ok.mpr ⟨result, hdecision⟩)
        rw [hnext]
        exact ⟨params, packet, _, task, cycle, Option.some.inj h, hdecided⟩
      · cases h
  | _ =>
      cases h

theorem decidedCycles_nodup (port : FollowUpTaskPort) (r : ReviewTables)
    (requests : List ReviewRequest) :
    (decidedCycles port r requests).Nodup := by
  apply TransitionSystem.nodup_acts (fun reviewCycleId r =>
    exists cycle, r.findCycle reviewCycleId = some cycle ∧
      isTerminalReviewCycleState cycle.status = true)
  · intro r q reviewCycleId hdecides
    rcases decidedCycle_eq_some hdecides with
      ⟨params, packet, record, task, cycle, hid, hdecided⟩
    rw [← hid]
    rcases Table.find?_eq_some_iff.mp hdecided.foundCycle with ⟨hmem, hcycleId⟩
    constructor
    · intro hover
      rcases hover with ⟨found, hfound, hterminal⟩
      rw [hdecided.foundCycle] at hfound
      cases hfound
      rw [hdecided.notOver] at hterminal
      cases hterminal
    · have hafter := findCycle_of_decided hdecided hmem
      rw [hcycleId, if_pos rfl] at hafter
      exact ⟨_, hafter,
        (terminal_of_reviewEnd (targets_mem_reviewEnds params task packet.decision)).1⟩
  · intro r q reviewCycleId hover
    rcases hover with ⟨cycle, hfind, hterminal⟩
    refine ⟨cycle, ?_, hterminal⟩
    refine (reviews port).next_cases hfind ?_
    intro r' hstep
    exact findCycle_of_over hstep hfind hterminal

/-!
## The laws of a review
-/

def CycleEnds (taskId : TaskId) (cycleEnd : ReviewCycleStatus) (r r' : ReviewTables) : Prop :=
  exists cycle cycle', cycle ∈ r.reviewCycles ∧ cycle.taskId = taskId ∧
    cycle.status ≠ cycleEnd ∧ r'.findCycle cycle.reviewCycleId = some cycle' ∧
    cycle'.status = cycleEnd

def TaskMoves (taskId : TaskId) (taskEnd : TaskStatus) (r r' : ReviewTables) : Prop :=
  statusOf r taskId = some .inReview ∧ statusOf r' taskId = some taskEnd

/-- A decision on the task is taken on its current cycle, while it consolidates. -/
def DecidesOnCurrent (port : FollowUpTaskPort) (taskId : TaskId) (r : ReviewTables)
    (q : ReviewRequest) : Prop :=
  forall idGenerator params r', q = .applyDecision idGenerator params ->
    params.taskId = taskId -> performReview port r q = .ok r' ->
      exists task cycle, r.store.findTask taskId = some task ∧
        task.currentReviewCycleId = some params.reviewCycleId ∧
        r.findCycle params.reviewCycleId = some cycle ∧ cycle.taskId = taskId ∧
        cycle.status = .consolidating

/-- A change request sends the task back, or escalates it in the last round allowed. -/
def EscalatesAtLimit (port : FollowUpTaskPort) (taskId : TaskId) (maxReviewRounds : Nat)
    (r : ReviewTables) (q : ReviewRequest) : Prop :=
  forall idGenerator params packet r', q = .applyDecision idGenerator params ->
    params.taskId = taskId -> validatePacket params.packet = .ok packet ->
    packet.decision = .changesRequested -> performReview port r q = .ok r' ->
      statusOf r' taskId =
        some (if maxReviewRounds ≤ (rejectedCycles r taskId).length + 1 then .escalated
          else .changesRequested)

theorem decidesOnCurrent (hin : RoundsCounted taskId maxReviewRounds r) :
    DecidesOnCurrent port taskId r q := by
  intro idGenerator params r' hr htask hstep
  rw [hr] at hstep
  rcases committedReview_eq_ok.mp hstep with ⟨result, h⟩
  rcases applyDecision_spec h with ⟨packet, task, cycle, hdecided⟩
  have hfound := hdecided.foundTask
  rw [htask] at hfound
  refine ⟨task, cycle, hfound, ?_, hdecided.foundCycle, hdecided.cycleTask.trans htask,
    hdecided.consolidating⟩
  cases hcurrent : task.currentReviewCycleId with
  | none =>
      exact absurd hcurrent (hin.current task hfound hdecided.inReview)
  | some current =>
      have hsame := hdecided.current
      rw [hcurrent] at hsame
      exact congrArg some hsame

theorem escalatesAtLimit (hq : RoundStep taskId maxReviewRounds q)
    (hin : RoundsCounted taskId maxReviewRounds r) :
    EscalatesAtLimit port taskId maxReviewRounds r q := by
  intro idGenerator params packet r' hr htask hvalid hdecision hstep
  rw [hr] at hstep hq
  rcases committedReview_eq_ok.mp hstep with ⟨result, h⟩
  rcases applyDecision_spec h with ⟨packet', task, cycle, hdecided⟩
  have hpacket := hdecided.valid
  rw [hvalid] at hpacket
  cases hpacket
  have hafter := (statusOf_of_decided hdecided).2
  have hfound := hdecided.foundTask
  rw [htask] at hafter hfound
  have hescalates := evaluatePolicyEscalation_iff params task packet.decision
  rw [hq htask, hin.counted task hfound] at hescalates
  rw [hafter]
  congr 1
  unfold taskTarget
  by_cases hlimit : maxReviewRounds ≤ (rejectedCycles r taskId).length + 1
  · rw [if_pos hlimit, hescalates.mpr ⟨hdecision, hlimit⟩, hdecision]
    rfl
  · have hbelow : evaluatePolicyEscalation params task packet.decision = false := by
      apply Bool.eq_false_iff.mpr
      intro hyes
      exact hlimit (hescalates.mp hyes).2
    rw [if_neg hlimit, hbelow, hdecision]
    rfl

theorem cycleEnds_iff_taskMoves (hq : RoundStep taskId maxReviewRounds q)
    (hend : (cycleEnd, taskEnd) ∈ reviewEnds) :
    CycleEnds taskId cycleEnd r ((reviews port).next r q) <->
      TaskMoves taskId taskEnd r ((reviews port).next r q) := by
  rcases terminal_of_reviewEnd hend with ⟨hterminal, _, hendTask⟩
  rcases next_endsNoRound_or_decided hq with
    hnone | ⟨_, params, packet, record, task, cycle, _, htask, _, hdecided⟩
  · constructor
    · intro hends
      rcases hends with ⟨c, c', hmem, hcTask, hne, hfind, hstatus⟩
      rcases hnone.cycles c hmem hcTask with ⟨c'', hfind', hkept⟩
      rw [hfind] at hfind'
      cases hfind'
      rcases hkept with hkept | hkept
      · exact absurd (hkept.symm.trans hstatus) hne
      · rw [hstatus, hterminal] at hkept
        cases hkept
    · intro hmoves
      rcases Option.map_eq_some_iff.mp hmoves.2 with ⟨moved, hmoved, hstatus⟩
      have hreview := (hnone.task moved hmoved).review hmoves.1
      rw [hstatus] at hreview
      exact absurd hendTask hreview
  · rw [← htask]
    rcases statusOf_of_decided hdecided with ⟨hbefore, hafter⟩
    have hmoves : TaskMoves params.taskId taskEnd r ((reviews port).next r q) <->
        taskTarget params task packet.decision = taskEnd := by
      unfold TaskMoves
      rw [hafter, Option.some.injEq]
      exact and_iff_right hbefore
    rw [hmoves,
      ← reviewEnds_injective (targets_mem_reviewEnds params task packet.decision) hend]
    rcases Table.find?_eq_some_iff.mp hdecided.foundCycle with ⟨hcycle, hcycleId⟩
    constructor
    · intro hends
      rcases hends with ⟨c, c', hmem, _, hne, hfind, hstatus⟩
      rw [findCycle_of_decided hdecided hmem] at hfind
      have hc' := Option.some.inj hfind
      split at hc'
      · rw [← hstatus, ← hc']
        rfl
      · rw [← hc'] at hstatus
        exact absurd hstatus hne
    · intro htarget
      have hfind := findCycle_of_decided hdecided hcycle
      rw [if_pos hcycleId] at hfind
      refine ⟨cycle, _, hcycle, hdecided.cycleTask, ?_, hfind, htarget⟩
      rw [hdecided.consolidating]
      intro hsame
      rw [← hsame] at hterminal
      cases hterminal

/-- In every run of the reviews of a task, from before it is created: no cycle is decided on
twice, and only the current one is; the rejected rounds are counted; the task is sent back
less often than the limit says, and the change request that reaches it escalates; a cycle
ends exactly when its task moves; and a rejected request changes nothing. -/
theorem review_rounds_in_step (port : FollowUpTaskPort) (taskId : TaskId)
    (maxReviewRounds : Nat) (r : ReviewTables) (requests : List ReviewRequest)
    (hnone : r.store.findTask taskId = none)
    (hrequests : forall q, q ∈ requests -> RoundStep taskId maxReviewRounds q) :
    (decidedCycles port r requests).Nodup ∧
    (forall t task, t ∈ (reviews port).states r requests ->
      t.store.findTask taskId = some task ->
        task.reviewRoundCount = (rejectedCycles t taskId).length) ∧
    timesSentBack port taskId r requests ≤ maxReviewRounds - 1 ∧
    forall x, x ∈ (reviews port).arrivals r requests ->
      DecidesOnCurrent port taskId x.1 x.2 ∧
      EscalatesAtLimit port taskId maxReviewRounds x.1 x.2 ∧
      (forall cycleEnd taskEnd, (cycleEnd, taskEnd) ∈ reviewEnds ->
        (CycleEnds taskId cycleEnd x.1 ((reviews port).next x.1 x.2) <->
          TaskMoves taskId taskEnd x.1 ((reviews port).next x.1 x.2))) ∧
      forall e, performReview port x.1 x.2 = .error e ->
        (reviews port).next x.1 x.2 = x.1 := by
  have hpreserved := roundsCounted_preserved port taskId maxReviewRounds
  have hstart : RoundsCounted taskId maxReviewRounds r :=
    roundsCounted_of_no_task maxReviewRounds hnone
  refine ⟨decidedCycles_nodup port r requests, ?_, ?_, ?_⟩
  · intro t task ht htask
    exact (hpreserved.states hrequests hstart ht).counted task htask
  · have hend := (hpreserved.run hrequests hstart).bounded
    rw [length_rejectedCycles_run port hrequests, rejectedCycles_of_no_task hnone] at hend
    simpa using hend
  · intro x hx
    have hq : RoundStep taskId maxReviewRounds x.2 :=
      hrequests x.2 (TransitionSystem.mem_of_mem_arrivals _ hx)
    rcases TransitionSystem.run_of_arrivals
      (C := fun _ q => RoundStep taskId maxReviewRounds q)
      (fun _ _ hs ha => hpreserved.next ha hs) hstart
      (fun y hy => hrequests y.2 (TransitionSystem.mem_of_mem_arrivals _ hy)) with
      ⟨harrivals, _⟩
    have hin := harrivals x hx
    exact ⟨decidesOnCurrent hin, escalatesAtLimit hq hin,
      fun _ _ hend => cycleEnds_iff_taskMoves hq hend,
      fun _ herror => (reviews port).next_of_error herror⟩

def changesRequestedParams : ApplyReviewDecisionParams where
  packet := .ok
    { taskId := "task-1"
      reviewCycleId := "a0"
      decision := .changesRequested
      summary := "one issue"
      blockingIssues :=
        [{ severity := .high, code := "SEC-1", title := "injection",
           description := "input is not escaped", blocking := true }]
      nonBlockingSuggestions := []
      followUpTaskRefs := [] }
  taskId := "task-1"
  reviewCycleId := "a0"
  escalationPolicy := defaultEscalationPolicy
  maxReviewRounds := 2
  actor := reviewActor

def rejectedReview : List ReviewRequest :=
  firstReview ++
    [.transitionReviewCycle "a0" .inProgress { reviewStarted := some true } reviewActor,
      .job (.claimJob .reviewerDispatch "reviewer-1" 1000),
      .job (.claimJob .reviewerDispatch "reviewer-2" 1000),
      .job (.completeJob "a2"),
      .job (.failJob "a3"),
      .assembleLeadReviewContext
        { taskId := "task-1", reviewCycleId := "a0", actor := reviewActor },
      .applyDecision (sampleIds "d") changesRequestedParams]

theorem review_rounds_in_step_rejected :
    (decidedCycles plainFollowUps ReviewTables.empty rejectedReview).Nodup ∧
    (forall t task, t ∈ (reviews plainFollowUps).states ReviewTables.empty rejectedReview ->
      t.store.findTask "task-1" = some task ->
        task.reviewRoundCount = (rejectedCycles t "task-1").length) ∧
    timesSentBack plainFollowUps "task-1" ReviewTables.empty rejectedReview ≤ 2 - 1 ∧
    forall x, x ∈ (reviews plainFollowUps).arrivals ReviewTables.empty rejectedReview ->
      DecidesOnCurrent plainFollowUps "task-1" x.1 x.2 ∧
      EscalatesAtLimit plainFollowUps "task-1" 2 x.1 x.2 ∧
      (forall cycleEnd taskEnd, (cycleEnd, taskEnd) ∈ reviewEnds ->
        (CycleEnds "task-1" cycleEnd x.1 ((reviews plainFollowUps).next x.1 x.2) <->
          TaskMoves "task-1" taskEnd x.1 ((reviews plainFollowUps).next x.1 x.2))) ∧
      forall e, performReview plainFollowUps x.1 x.2 = .error e ->
        (reviews plainFollowUps).next x.1 x.2 = x.1 :=
  review_rounds_in_step plainFollowUps "task-1" 2 ReviewTables.empty rejectedReview rfl
    (by simp [rejectedReview, firstReview, developedTask, RoundStep,
      changesRequestedParams, isTerminalReviewCycleState])

end Reviewing
end CopilotFactory
