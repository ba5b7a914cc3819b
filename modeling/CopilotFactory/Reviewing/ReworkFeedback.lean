import CopilotFactory.Auditing.AuditTrail
import CopilotFactory.Reviewing.ReworkContextService

/-!
# The feedback of a rework

A decision or a merge conflict sends a task back to development.  After a decision the
rework context tells what that decision said.  After a merge conflict it tells what an
earlier decision said, and a cycle that is asked for by its id need not be rejected.
-/

namespace CopilotFactory
namespace Reviewing

open Foundations
open Domain
open Infrastructure
open Application
open ControlPlane
open Merging
open Auditing

variable {reviewCycleId : ReviewCycleId} {s s' : Store} {found : Task} {w' : Factory}

/-- The requests of a review whose decisions are schema-valid: a cycle ends only by a
decision, and no transition takes the task to review or to where a review ends. -/
def ReworkRequest (taskId : TaskId) : ReviewRequest -> Prop
  | .applyDecision _ params => forall packet, params.packet = .ok packet -> packet.Valid
  | .transitionReviewCycle _ targetStatus _ _ =>
      isTerminalReviewCycleState targetStatus = false
  | .request (.transitionTask id targetStatus _ _) =>
      id = taskId -> targetStatus ∉ [TaskStatus.inReview, .approved, .changesRequested]
  | _ => True

def ReworkStep (taskId : TaskId) : FactoryStep -> Prop
  | .review request => ReworkRequest taskId request
  | _ => True

variable {r r' : ReviewTables} {taskId : TaskId}

/-!
## The stored decisions
-/

/-- The cycles that are over are those with a decision, which is the only one and whose
packet is stored.  A rejecting one has blocking issues. -/
structure DecisionsStored (r : ReviewTables) : Prop where
  ended : forall decision, decision ∈ r.leadReviewDecisions ->
    exists cycle, r.findCycle decision.reviewCycleId = some cycle ∧
      isTerminalReviewCycleState cycle.status = true
  once : forall decision other, decision ∈ r.leadReviewDecisions ->
    other ∈ r.leadReviewDecisions -> decision.reviewCycleId = other.reviewCycleId ->
      decision = other
  stored : forall cycle, cycle ∈ r.reviewCycles ->
    isTerminalReviewCycleState cycle.status = true ->
      exists decision packet, decision ∈ r.leadReviewDecisions ∧
        decision.reviewCycleId = cycle.reviewCycleId ∧
        decision.packetJson = LeadReviewDecisionPacket.toJson packet ∧ packet.Valid ∧
        packet.reviewCycleId = cycle.reviewCycleId ∧
        (cycle.status = .rejected -> packet.blockingIssues ≠ [])

theorem decisionsStored_empty : DecisionsStored ReviewTables.empty where
  ended := fun decision h => absurd h (Table.not_mem_empty decision)
  once := fun decision _ h => absurd h (Table.not_mem_empty decision)
  stored := fun cycle h => absurd h (Table.not_mem_empty cycle)

structure DecidesNothing (r r' : ReviewTables) : Prop where
  decisions : r'.leadReviewDecisions = r.leadReviewDecisions
  kept : forall reviewCycleId cycle, r.findCycle reviewCycleId = some cycle ->
    isTerminalReviewCycleState cycle.status = true ->
      r'.findCycle reviewCycleId = some cycle
  ended : forall cycle, cycle ∈ r'.reviewCycles ->
    isTerminalReviewCycleState cycle.status = true -> cycle ∈ r.reviewCycles

theorem decidesNothing_of_eq (hdecisions : r'.leadReviewDecisions = r.leadReviewDecisions)
    (hcycles : r'.reviewCycles = r.reviewCycles) :
    DecidesNothing r r' where
  decisions := hdecisions
  kept := by
    intro reviewCycleId cycle hfind _
    unfold ReviewTables.findCycle
    rw [hcycles]
    exact hfind
  ended := by
    intro cycle hcycle _
    rw [← hcycles]
    exact hcycle

theorem decidesNothing_of_new (hdecisions : r'.leadReviewDecisions = r.leadReviewDecisions)
    {new : ReviewCycle} (hopen : isTerminalReviewCycleState new.status = false)
    (hcycles : forall cycle, cycle ∈ r'.reviewCycles <->
      cycle ∈ r.reviewCycles ∨ cycle = new) :
    DecidesNothing r r' where
  decisions := hdecisions
  kept := by
    intro reviewCycleId cycle hfind _
    rcases Table.find?_eq_some_iff.mp hfind with ⟨hmem, hid⟩
    exact Table.find?_eq_some_iff.mpr ⟨(hcycles cycle).mpr (Or.inl hmem), hid⟩
  ended := by
    intro cycle hcycle hover
    rcases (hcycles cycle).mp hcycle with hmem | hnew
    · exact hmem
    · rw [hnew, hopen] at hover
      cases hover

theorem decidesNothing_of_move (hdecisions : r'.leadReviewDecisions = r.leadReviewDecisions)
    {moved : ReviewCycle} {target : ReviewCycleStatus}
    (hfind : r.findCycle reviewCycleId = some moved)
    (hopen : isTerminalReviewCycleState moved.status = false)
    (htarget : isTerminalReviewCycleState target = false)
    (hcycles : r'.reviewCycles = (r.writeCycle reviewCycleId target).reviewCycles) :
    DecidesNothing r r' where
  decisions := hdecisions
  kept := by
    intro id cycle hcycle hover
    unfold ReviewTables.findCycle
    rw [hcycles, ReviewTables.writeCycle_reviewCycles, Table.find?_modify_of_ne]
    · exact hcycle
    · intro hid
      rw [hid, hfind] at hcycle
      cases hcycle
      rw [hover] at hopen
      cases hopen
  ended := by
    intro cycle hcycle hover
    rw [hcycles, ReviewTables.mem_writeCycle] at hcycle
    rcases hcycle with ⟨old, hold, hcycle⟩
    split at hcycle
    · rw [hcycle] at hover
      rw [show isTerminalReviewCycleState target = true from hover] at htarget
      cases htarget
    · rw [hcycle]
      exact hold

theorem decisionsStored_of_nothing (h : DecisionsStored r) (hstep : DecidesNothing r r') :
    DecisionsStored r' where
  ended := by
    intro decision hdecision
    rw [hstep.decisions] at hdecision
    rcases h.ended decision hdecision with ⟨cycle, hcycle, hover⟩
    exact ⟨cycle, hstep.kept _ _ hcycle hover, hover⟩
  once := by
    intro decision other hdecision hother
    rw [hstep.decisions] at hdecision hother
    exact h.once decision other hdecision hother
  stored := by
    intro cycle hcycle hover
    rw [hstep.decisions]
    exact h.stored cycle (hstep.ended cycle hcycle hover) hover

section Decision

variable {params : ApplyReviewDecisionParams} {packet : LeadReviewDecisionPacket}
  {record : LeadReviewDecisionRecord} {task : Task} {cycle : ReviewCycle}

theorem Decided.packet_eq (h : Decided params packet record task cycle r r') :
    params.packet = .ok packet ∧ crossFieldIssues packet = [] := by
  have hvalid := h.valid
  unfold validatePacket at hvalid
  split at hvalid
  · cases hvalid
  · rename_i accepted haccepted
    split at hvalid
    · rename_i hissues
      cases hvalid
      exact ⟨haccepted, hissues⟩
    · cases hvalid

theorem blockingIssues_of_changesRequested (hissues : crossFieldIssues packet = [])
    (hdecision : packet.decision = .changesRequested) :
    packet.blockingIssues ≠ [] := by
  intro hnone
  simp [crossFieldIssues, hdecision, hnone] at hissues

theorem changesRequested_of_rejected (params : ApplyReviewDecisionParams) (task : Task)
    {decision : LeadReviewDecision} (h : cycleTarget params task decision = .rejected) :
    decision = .changesRequested := by
  rw [cycleTarget_eq_rejected_iff] at h
  simp only [countsRound, Bool.and_eq_true, decide_eq_true_eq] at h
  exact h.1

theorem terminal_cycleTarget (params : ApplyReviewDecisionParams) (task : Task)
    (decision : LeadReviewDecision) :
    isTerminalReviewCycleState (cycleTarget params task decision) = true :=
  (terminal_of_reviewEnd (targets_mem_reviewEnds params task decision)).1

theorem decisionsStored_of_decided (h : DecisionsStored r)
    (hdecided : Decided params packet record task cycle r r') (hvalid : packet.Valid)
    (hpacket : packet.reviewCycleId = params.reviewCycleId)
    (hrecord : record.packetJson = packet.toJson) :
    DecisionsStored r' := by
  rcases Table.find?_eq_some_iff.mp hdecided.foundCycle with ⟨hmem, hid⟩
  have hfree : forall decision, decision ∈ r.leadReviewDecisions ->
      decision.reviewCycleId ≠ params.reviewCycleId := by
    intro decision hdecision hsame
    rcases h.ended decision hdecision with ⟨found, hfound, hover⟩
    rw [hsame, hdecided.foundCycle] at hfound
    cases hfound
    rw [hdecided.notOver] at hover
    cases hover
  have hended := terminal_cycleTarget params task packet.decision
  constructor
  · intro decision hdecision
    rcases (hdecided.decisions decision).mp hdecision with hold | hnew
    · rcases h.ended decision hold with ⟨found, hfound, hover⟩
      have hfoundId := Table.find?_eq_some_iff.mp hfound
      refine ⟨found, ?_, hover⟩
      have hafter := findCycle_of_decided hdecided hfoundId.1
      have hfoundId' : found.reviewCycleId = decision.reviewCycleId := hfoundId.2
      rw [if_neg, hfoundId'] at hafter
      · exact hafter
      · rw [hfoundId']
        exact hfree decision hold
    · have hafter := findCycle_of_decided hdecided hmem
      rw [hid, if_pos rfl] at hafter
      rw [hnew, hdecided.decisionCycle]
      exact ⟨_, hafter, hended⟩
  · intro decision other hdecision hother hsame
    rcases (hdecided.decisions decision).mp hdecision with hold | hnew
    · rcases (hdecided.decisions other).mp hother with hotherOld | hotherNew
      · exact h.once decision other hold hotherOld hsame
      · rw [hotherNew, hdecided.decisionCycle] at hsame
        exact absurd hsame (hfree decision hold)
    · rcases (hdecided.decisions other).mp hother with hotherOld | hotherNew
      · rw [hnew, hdecided.decisionCycle] at hsame
        exact absurd hsame.symm (hfree other hotherOld)
      · rw [hnew, hotherNew]
  · intro c hc hover
    rw [hdecided.cycles, ReviewTables.mem_writeCycle] at hc
    rcases hc with ⟨old, hold, hc⟩
    by_cases holdId : old.reviewCycleId = params.reviewCycleId
    · rw [if_pos holdId] at hc
      refine ⟨record, packet, (hdecided.decisions record).mpr (Or.inr rfl), ?_, hrecord,
        hvalid, ?_, ?_⟩
      · rw [hdecided.decisionCycle, hc]
        exact holdId.symm
      · rw [hpacket, hc]
        exact holdId.symm
      · intro hrejected
        rw [hc] at hrejected
        exact blockingIssues_of_changesRequested hdecided.packet_eq.2
          (changesRequested_of_rejected params task hrejected)
    · rw [if_neg holdId] at hc
      rw [hc] at hover ⊢
      rcases h.stored old hold hover with ⟨decision, stored, hdecision, hrest⟩
      exact ⟨decision, stored, (hdecided.decisions decision).mpr (Or.inl hdecision), hrest⟩

structure DecidesOn (params : ApplyReviewDecisionParams) (packet : LeadReviewDecisionPacket)
    (record : LeadReviewDecisionRecord) (task : Task) (cycle : ReviewCycle)
    (r r' : ReviewTables) : Prop where
  decided : Decided params packet record task cycle r r'
  packetValid : packet.Valid
  packetCycle : packet.reviewCycleId = params.reviewCycleId
  packetJson : record.packetJson = packet.toJson

theorem decidesOn_of_applyDecision {port : FollowUpTaskPort} {idGenerator : Nat -> String}
    {result : ApplyReviewDecisionResult}
    (hparams : forall packet, params.packet = .ok packet -> packet.Valid)
    (h : applyDecision port idGenerator params r = .ok (r', result)) :
    exists packet task cycle, DecidesOn params packet
      (decisionRecord (idGenerator 0) params packet) task cycle r r' := by
  rcases applyDecision_spec h with ⟨packet, task, cycle, hdecided⟩
  simp only [applyDecision, applyDecisionInTransaction, bind_eq_ok, orThrow_eq_ok,
    ensure_eq_ok, Prod.exists] at h
  rcases h with ⟨packet', hvalid, _, _, _, _, _, _, _, _, _, _, _, _, _, _, _, hcycle, _⟩
  have hsame := hdecided.valid
  rw [hvalid] at hsame
  cases hsame
  exact ⟨packet, task, cycle, hdecided, hparams packet hdecided.packet_eq.1, hcycle, rfl⟩

end Decision

theorem decidesNothing_or_decided {port : FollowUpTaskPort} {q : ReviewRequest}
    (hq : ReworkRequest taskId q) (h : performReview port r q = .ok r') :
    DecidesNothing r r' ∨ exists idGenerator params packet record task cycle,
      q = .applyDecision idGenerator params ∧
        DecidesOn params packet record task cycle r r' := by
  cases q with
  | dispatchReviewers now idGenerator params =>
      rcases committedReview_eq_ok.mp h with ⟨result, h⟩
      rcases dispatchReviewers_spec h with ⟨task, hdispatched⟩
      exact Or.inl (decidesNothing_of_new hdispatched.decisions rfl hdispatched.cycles)
  | assembleLeadReviewContext params =>
      rcases committedReview_eq_ok.mp h with ⟨result, h⟩
      rcases assembleLeadReviewContext_spec h with ⟨cycle, hconsolidated⟩
      left
      apply decidesNothing_of_move _ hconsolidated.found hconsolidated.notOver rfl
        hconsolidated.cycles
      rw [hconsolidated.written]
      rfl
  | applyDecision idGenerator params =>
      rcases committedReview_eq_ok.mp h with ⟨result, h⟩
      rcases decidesOn_of_applyDecision hq h with ⟨packet, task, cycle, hdecides⟩
      exact Or.inr ⟨idGenerator, params, packet, _, task, cycle, rfl, hdecides⟩
  | transitionReviewCycle reviewCycleId targetStatus context actor =>
      rcases committedReview_eq_ok.mp h with ⟨event, h⟩
      rcases transitionReviewCycle_spec h with ⟨cycle, hfind, hvalid, _, hr'⟩
      left
      apply decidesNothing_of_move _ hfind
        (reviewCycle_not_terminal_of_validate hvalid) hq
      · rw [hr']
        rfl
      · rw [hr']
        rfl
  | createPacket packet =>
      rcases ReviewTables.createPacket_spec h with ⟨_, _, hcycles, hdecisions, _⟩
      exact Or.inl (decidesNothing_of_eq hdecisions hcycles)
  | job q =>
      rcases job_spec h with ⟨jobs, _, hr'⟩
      rw [hr']
      exact Or.inl (decidesNothing_of_eq rfl rfl)
  | request q =>
      have hsame := (request_spec h).2
      exact Or.inl (decidesNothing_of_eq hsame.decisions hsame.cycles)

theorem decisionsStored_of_review {port : FollowUpTaskPort} {q : ReviewRequest}
    (hq : ReworkRequest taskId q) (hr : DecisionsStored r)
    (h : performReview port r q = .ok r') :
    DecisionsStored r' := by
  rcases decidesNothing_or_decided hq h with
    hnothing | ⟨_, params, packet, record, task, cycle, _, hdecides⟩
  · exact decisionsStored_of_nothing hr hnothing
  · exact decisionsStored_of_decided hr hdecides.decided hdecides.packetValid
      hdecides.packetCycle hdecides.packetJson

/-!
## The last cycle of a task
-/

def lastCycle (r : ReviewTables) (taskId : TaskId) : Option ReviewCycle :=
  (r.findCyclesByTaskId taskId).getLast?

theorem findCyclesByTaskId_of_rows {r r' : ReviewTables} {new : ReviewCycle}
    (h : r'.reviewCycles.rows = r.reviewCycles.rows ++ [new]) (taskId : TaskId) :
    r'.findCyclesByTaskId taskId =
      r.findCyclesByTaskId taskId ++ if new.taskId = taskId then [new] else [] := by
  unfold ReviewTables.findCyclesByTaskId
  rw [h, List.filter_append]
  congr 1
  by_cases htask : new.taskId = taskId
  · simp [htask]
  · simp [htask]

theorem findCyclesByTaskId_of_move {target : ReviewCycleStatus}
    (h : r'.reviewCycles = (r.writeCycle reviewCycleId target).reviewCycles) (taskId : TaskId) :
    r'.findCyclesByTaskId taskId = (r.findCyclesByTaskId taskId).map (fun cycle =>
      if cycle.reviewCycleId = reviewCycleId then ReviewTables.withStatus target cycle
      else cycle) := by
  unfold ReviewTables.findCyclesByTaskId
  rw [h]
  show (r.reviewCycles.rows.map _).filter _ = _
  rw [List.filter_map]
  congr 1
  apply List.filter_congr
  intro cycle _
  simp only [Function.comp_apply]
  split <;> rfl

def reworkStatuses : List TaskStatus :=
  [.inReview, .approved, .queuedForMerge, .merging, .changesRequested]

/-- The moves between these statuses that are no dispatch and no decision. -/
def reworkMoves : List (TaskStatus × TaskStatus) :=
  [(.approved, .queuedForMerge), (.queuedForMerge, .merging), (.merging, .changesRequested)]

/-- A task in one of these statuses was in it before, or in the one that precedes it. -/
def KeepsTask (before : Option Task) (task : Task) : Prop :=
  task.status ∈ reworkStatuses -> exists old, before = some old ∧
    (task.status = old.status ∨ (old.status, task.status) ∈ reworkMoves) ∧
    (task.status = .inReview -> task.currentReviewCycleId = old.currentReviewCycleId)

theorem keepsTask_refl (task : Task) : KeepsTask (some task) task :=
  fun _ => ⟨task, rfl, Or.inl rfl, fun _ => rfl⟩

/-- The last cycle stays the last, and stays as it is when it is over. -/
def KeepsLast (taskId : TaskId) (r r' : ReviewTables) : Prop :=
  forall cycle, lastCycle r taskId = some cycle -> exists cycle',
    lastCycle r' taskId = some cycle' ∧ cycle'.reviewCycleId = cycle.reviewCycleId ∧
    (isTerminalReviewCycleState cycle.status = true -> cycle' = cycle)

theorem keepsLast_of_eq (h : r'.findCyclesByTaskId taskId = r.findCyclesByTaskId taskId) :
    KeepsLast taskId r r' := by
  intro cycle hlast
  refine ⟨cycle, ?_, rfl, fun _ => rfl⟩
  unfold lastCycle
  rw [h]
  exact hlast

theorem keepsLast_of_cycles_eq (h : r'.reviewCycles = r.reviewCycles) :
    KeepsLast taskId r r' := by
  apply keepsLast_of_eq
  unfold ReviewTables.findCyclesByTaskId
  rw [h]

theorem mem_of_lastCycle {cycle : ReviewCycle} (h : lastCycle r taskId = some cycle) :
    cycle ∈ r.reviewCycles ∧ cycle.taskId = taskId := by
  have hmem := List.mem_of_getLast? h
  unfold ReviewTables.findCyclesByTaskId at hmem
  rw [List.mem_filter, decide_eq_true_eq] at hmem
  exact hmem

theorem keepsLast_of_move {moved : ReviewCycle} {target : ReviewCycleStatus}
    (hfind : r.findCycle reviewCycleId = some moved)
    (hopen : isTerminalReviewCycleState moved.status = false)
    (hcycles : r'.reviewCycles = (r.writeCycle reviewCycleId target).reviewCycles) :
    KeepsLast taskId r r' := by
  intro cycle hlast
  have hmoved : lastCycle r' taskId = some (if cycle.reviewCycleId = reviewCycleId then
      ReviewTables.withStatus target cycle else cycle) := by
    unfold lastCycle at hlast ⊢
    rw [findCyclesByTaskId_of_move hcycles, List.getLast?_map, hlast]
    rfl
  refine ⟨_, hmoved, ?_, ?_⟩
  · split <;> rfl
  · intro hover
    apply if_neg
    intro hid
    rcases Table.find?_eq_some_iff.mp hfind with ⟨hmem, hmovedId⟩
    have hsame := Table.eq_of_key (mem_of_lastCycle hlast).1 hmem (hid.trans hmovedId.symm)
    rw [hsame, hopen] at hover
    cases hover

/-!
## What a step does to the task and its last cycle
-/

inductive ReworkEffect (taskId : TaskId) (r r' : ReviewTables) : Prop where
  | kept (hlast : KeepsLast taskId r r')
      (htask : forall task, r'.store.findTask taskId = some task ->
        KeepsTask (r.store.findTask taskId) task)
  | dispatched (task : Task) (new : ReviewCycle)
      (htask : r.store.findTask taskId = some task)
      (hstatus : task.status = .devComplete)
      (hlast : lastCycle r' taskId = some new)
      (hcurrent : forall task', r'.store.findTask taskId = some task' ->
        task'.status = .inReview ∧ task'.currentReviewCycleId = some new.reviewCycleId)
  | decided (params : ApplyReviewDecisionParams) (packet : LeadReviewDecisionPacket)
      (record : LeadReviewDecisionRecord) (task : Task) (cycle : ReviewCycle)
      (htask : params.taskId = taskId)
      (hdecides : DecidesOn params packet record task cycle r r')

theorem keepsTask_of_tasks_eq (htasks : r'.store.tasks = r.store.tasks) {task : Task}
    (htask : r'.store.findTask taskId = some task) :
    KeepsTask (r.store.findTask taskId) task := by
  rw [Store.findTask_of_tasks_eq htasks] at htask
  rw [htask]
  exact keepsTask_refl task

theorem keepsTask_of_untouched {task : Task} (h : Untouched task)
    (before : Option Task) :
    KeepsTask before task := by
  intro hstatus
  rw [h.status] at hstatus
  exact absurd hstatus (by decide)

theorem reworkEffect_of_dispatch {now : Millis} {idGenerator : Nat -> String}
    {params : DispatchReviewersParams} {result : DispatchReviewersResult}
    (h : dispatchReviewers now idGenerator params r = .ok (r', result)) :
    ReworkEffect taskId r r' := by
  rcases dispatchReviewers_spec h with ⟨task, hdispatched⟩
  have hrows := findCyclesByTaskId_of_rows (dispatchReviewers_cycleRows h) taskId
  generalize generateIds idGenerator params.routingDecision.allSpecialists = ids at *
  have hfind : r'.store.findTask taskId =
      (r.store.writeTask params.taskId (task.version + 1)
        (reviewUpdate ids.reviewCycleId)).findTask taskId := by
    rw [hdispatched.store]
    rfl
  by_cases hid : taskId = params.taskId
  · rw [if_pos (show (routedCycle now ids.reviewCycleId params).taskId = taskId from
      hid.symm)] at hrows
    have hlast : lastCycle r' taskId = some (routedCycle now ids.reviewCycleId params) := by
      unfold lastCycle
      rw [hrows, List.getLast?_append, List.getLast?_singleton, Option.some_or]
    refine .dispatched task _ ?_ hdispatched.devComplete hlast ?_
    · rw [hid]
      exact hdispatched.found
    · intro task' htask'
      rw [hfind, hid, Store.findTask_writeTask_self, hdispatched.found] at htask'
      cases htask'
      exact ⟨rfl, rfl⟩
  · rw [if_neg (show (routedCycle now ids.reviewCycleId params).taskId ≠ taskId from
      fun htask => hid htask.symm), List.append_nil] at hrows
    apply ReworkEffect.kept (keepsLast_of_eq hrows)
    intro task' htask'
    rw [hfind, Store.findTask_writeTask_of_ne hid] at htask'
    rw [htask']
    exact keepsTask_refl task'

theorem reworkEffect_of_other_decision {params : ApplyReviewDecisionParams}
    {packet : LeadReviewDecisionPacket} {record : LeadReviewDecisionRecord} {task : Task}
    {cycle : ReviewCycle} (h : Decided params packet record task cycle r r')
    (hother : params.taskId ≠ taskId) :
    ReworkEffect taskId r r' := by
  apply ReworkEffect.kept (keepsLast_of_move h.foundCycle h.notOver h.cycles)
  intro t ht
  cases hold : r.store.findTask taskId with
  | some old =>
      have hkept := h.keptTasks taskId old (Ne.symm hother) hold
      rw [ht] at hkept
      cases hkept
      exact keepsTask_refl t
  | none =>
      exact keepsTask_of_untouched (h.newTasks taskId t ht hold) none

theorem reworkMove_of_validate {source target : TaskStatus} {context : TransitionContext}
    (h : validateTransition source target context = .valid)
    (htarget : target = .queuedForMerge ∨ target = .merging) :
    (source, target) ∈ reworkMoves := by
  rcases htarget with htarget | htarget
  · rw [htarget] at h ⊢
    cases source with
    | approved =>
        decide
    | _ =>
        cases h
  · rw [htarget] at h ⊢
    cases source with
    | queuedForMerge =>
        decide
    | _ =>
        cases h

theorem transition_of_reworkTarget {q : Request} {status : TaskStatus}
    (htarget : status ∈ q.targets) (hstatus : status ∈ reworkStatuses) :
    exists id context actor, q = .transitionTask id status context actor := by
  cases q with
  | transitionTask id target context actor =>
      rw [List.mem_singleton.mp htarget]
      exact ⟨id, context, actor, rfl⟩
  | _ =>
      exfalso
      revert htarget hstatus
      cases status <;> simp [Request.targets, reworkStatuses]

theorem keepsTask_of_request {q : Request} (hq : ReworkRequest taskId (.request q))
    (h : perform s q = .ok s') {task : Task} (htask : s'.findTask taskId = some task) :
    KeepsTask (s.findTask taskId) task := by
  rcases task_after_perform h htask with
    hold | ⟨dto, _, _, hnew⟩ | ⟨old, data, hold, hwrites, hwritten⟩
  · rw [hold]
    exact keepsTask_refl task
  · intro hstatus
    rw [hnew, show (newTask dto).status = .backlog from rfl] at hstatus
    exact absurd hstatus (by decide)
  · intro hstatus
    refine ⟨old, hold, ?_⟩
    rw [hwritten, TaskUpdate.apply_status] at hstatus
    rw [hwritten, TaskUpdate.apply_status, TaskUpdate.apply_currentReviewCycleId]
    cases hdata : data.status with
    | none =>
        refine ⟨Or.inl rfl, ?_⟩
        intro _
        rcases hwrites.currentReviewCycleId with hcurrent | hbacklog
        · rw [hcurrent]
          rfl
        · rw [hdata] at hbacklog
          cases hbacklog
    | some status =>
        rw [hdata, Option.getD_some] at hstatus
        rcases transition_of_reworkTarget (hwrites.status_mem_targets hdata) hstatus with
          ⟨id, context, actor, htransition⟩
        rw [htransition] at hq hwrites
        rcases hwrites with ⟨hid, hvalid, _⟩
        have hnot := hq hid.symm
        have hmerge : status = .queuedForMerge ∨ status = .merging := by
          clear hdata hvalid htransition hq
          revert hstatus hnot
          cases status <;> decide
        refine ⟨Or.inr (reworkMove_of_validate hvalid hmerge), ?_⟩
        intro hreview
        exact absurd (by simp [show status = .inReview from hreview]) hnot

theorem reworkEffect_of_review {port : FollowUpTaskPort} {q : ReviewRequest}
    (hq : ReworkRequest taskId q) (h : performReview port r q = .ok r') :
    ReworkEffect taskId r r' := by
  cases q with
  | dispatchReviewers now idGenerator params =>
      rcases committedReview_eq_ok.mp h with ⟨result, h⟩
      exact reworkEffect_of_dispatch h
  | assembleLeadReviewContext params =>
      rcases committedReview_eq_ok.mp h with ⟨result, h⟩
      rcases assembleLeadReviewContext_spec h with ⟨cycle, hconsolidated⟩
      apply ReworkEffect.kept
        (keepsLast_of_move hconsolidated.found hconsolidated.notOver hconsolidated.cycles)
      intro task htask
      exact keepsTask_of_tasks_eq hconsolidated.kept.1 htask
  | applyDecision idGenerator params =>
      rcases committedReview_eq_ok.mp h with ⟨result, h⟩
      rcases decidesOn_of_applyDecision hq h with ⟨packet, task, cycle, hdecides⟩
      by_cases htask : params.taskId = taskId
      · exact .decided params packet _ task cycle htask hdecides
      · exact reworkEffect_of_other_decision hdecides.decided htask
  | transitionReviewCycle reviewCycleId targetStatus context actor =>
      rcases committedReview_eq_ok.mp h with ⟨event, h⟩
      rcases transitionReviewCycle_spec h with ⟨cycle, hfind, hvalid, _, hr'⟩
      rw [hr']
      apply ReworkEffect.kept
      · exact keepsLast_of_move hfind (reviewCycle_not_terminal_of_validate hvalid) rfl
      · intro task htask
        exact keepsTask_of_tasks_eq rfl htask
  | createPacket packet =>
      rcases ReviewTables.createPacket_spec h with ⟨hstore, _, hcycles, _⟩
      apply ReworkEffect.kept (keepsLast_of_cycles_eq hcycles)
      intro task htask
      apply keepsTask_of_tasks_eq _ htask
      rw [hstore]
  | job q =>
      rcases job_spec h with ⟨jobs, _, hr'⟩
      rw [hr']
      apply ReworkEffect.kept
      · exact keepsLast_of_cycles_eq rfl
      · intro task htask
        exact keepsTask_of_tasks_eq rfl htask
  | request q =>
      rcases request_spec h with ⟨hperform, hsame⟩
      apply ReworkEffect.kept (keepsLast_of_cycles_eq hsame.cycles)
      intro task htask
      exact keepsTask_of_request hq hperform htask

theorem keepsTask_of_write {id : TaskId} {task : Task} {target : TaskStatus}
    (hfind : s.findTask id = some task)
    (htasks : s'.tasks = (s.writeTask id (task.version + 1) { status := some target }).tasks)
    (hmove : target ∉ reworkStatuses ∨ (task.status, target) ∈ reworkMoves)
    (hfound : s'.findTask taskId = some found) : KeepsTask (s.findTask taskId) found := by
  rw [Store.findTask_of_tasks_eq htasks] at hfound
  by_cases hid : taskId = id
  · rw [hid, Store.findTask_writeTask_self, hfind] at hfound
    cases hfound
    rw [hid, hfind]
    intro hstatus
    refine ⟨task, rfl, ?_, fun _ => rfl⟩
    rcases hmove with hleaves | hmove
    · exact absurd hstatus hleaves
    · exact Or.inr hmove
  · rw [Store.findTask_writeTask_of_ne hid] at hfound
    rw [hfound]
    exact keepsTask_refl found

theorem keepsTask_of_mergeMove {params : ExecuteMergeParams} {move : ItemMove}
    {taskMove : TaskMove} {id : TaskId} {expectedVersion : Store -> Except ServiceError Nat}
    {auditEvents : List AuditEvent} {moved : MergeProgress}
    (h : moveItemAndTask params move taskMove id expectedVersion auditEvents s = .ok (s', moved))
    (hmove : forall task, s.findTask id = some task -> taskMove.target ∉ reworkStatuses ∨
      (task.status, taskMove.target) ∈ reworkMoves)
    (hfound : s'.findTask taskId = some found) : KeepsTask (s.findTask taskId) found := by
  rcases moveItemAndTask_eq_ok.mp h with ⟨_, task, _, _, hfind, _, hs', _⟩
  apply keepsTask_of_write hfind _ (hmove task hfind) hfound
  rw [hs']
  rfl

/-- What a merge remembers of its task is still true when its version is. -/
theorem keepsTask_of_plan {phase : MergePhase} {turn : MergeTurn} {plan : MergePlan}
    {progress : MergeProgress} (hplan : phase.plan turn = some plan)
    (h : plan.step.perform plan.params s = .ok (s', progress)) (hphase : Remembers s phase)
    (hfound : s'.findTask taskId = some found) : KeepsTask (s.findTask taskId) found := by
  cases hplan using MergePhase.plan_cases with
  | startRebase params task =>
      unfold MergeStep.perform startRebase at h
      apply keepsTask_of_mergeMove h _ hfound
      intro stored hstored
      rw [source_of_remembered hphase.1 hphase.2 h stored hstored]
      exact Or.inr (by decide)
  | settleConflict params remembered classification completedAt =>
      unfold MergeStep.perform settleConflict at h
      apply keepsTask_of_mergeMove h _ hfound
      intro stored hstored
      rw [source_of_remembered hphase.1 hphase.2 h stored hstored]
      cases classification with
      | reworkable =>
          exact Or.inr (by decide)
      | nonReworkable =>
          exact Or.inl (by decide)
  | startValidation | failValidation | startPush | failPush =>
      have htasks : s'.tasks = s.tasks := by
        rcases moveItem_eq_ok.mp h with ⟨_, _, _, hs', _⟩
        rw [hs']
        rfl
      rw [Store.findTask_of_tasks_eq htasks] at hfound
      rw [hfound]
      exact keepsTask_refl found
  | finishMerge params remembered completedAt =>
      unfold MergeStep.perform finishMerge at h
      apply keepsTask_of_mergeMove h _ hfound
      intro _ _
      exact Or.inl (by decide)

/-!
## Every step of the factory
-/

/-- A step that is no request of a review leaves the cycles and the decisions alone, and
moves tasks along at most. -/
structure LeavesReviews (taskId : TaskId) (r r' : ReviewTables) : Prop where
  cycles : r'.reviewCycles = r.reviewCycles
  decisions : r'.leadReviewDecisions = r.leadReviewDecisions
  task : forall task, r'.store.findTask taskId = some task ->
    KeepsTask (r.store.findTask taskId) task

theorem leavesReviews_refl (taskId : TaskId) (r : ReviewTables) :
    LeavesReviews taskId r r :=
  ⟨rfl, rfl, fun _ htask => keepsTask_of_tasks_eq rfl htask⟩

theorem review_or_leaves (taskId : TaskId) {port : FollowUpTaskPort} {queries : QueueQueries}
    {w : Factory} {q : FactoryStep} (hw : RemembersTasks w)
    (h : (factory port queries).step w q = .ok w') :
    (exists request, q = .review request ∧
      performReview port w.shared request = .ok w'.shared) ∨
    LeavesReviews taskId w.shared w'.shared := by
  cases q with
  | review request =>
      rcases bind_eq_ok.mp h with ⟨r, hperform, h⟩
      cases h
      exact Or.inl ⟨request, rfl, hperform⟩
  | enqueueForMerge now itemId params =>
      rcases bind_eq_ok.mp h with ⟨r, honStore, h⟩
      cases h
      rcases ReviewTables.onStore_eq_ok.mp honStore with ⟨s', _, hcall, hr⟩
      rcases committed_eq_ok.mp hcall with ⟨result, hcall⟩
      rcases enqueueForMerge_spec hcall with ⟨old, _, hfind, hstatus, _, _, _, htasks⟩
      rw [hr]
      refine Or.inr ⟨rfl, rfl, ?_⟩
      intro task htask
      apply keepsTask_of_write hfind htasks _ htask
      rw [hstatus]
      exact Or.inr (by decide)
  | dequeueNext now params =>
      rcases bind_eq_ok.mp h with ⟨r, honStore, h⟩
      cases h
      rcases ReviewTables.onStore_eq_ok.mp honStore with ⟨s', _, hcall, hr⟩
      rcases committed_eq_ok.mp hcall with ⟨result, hcall⟩
      rw [hr]
      refine Or.inr ⟨rfl, rfl, ?_⟩
      intro task htask
      exact keepsTask_of_tasks_eq (dequeueNext_tasks hcall) htask
  | loadMerge pid params =>
      rcases bind_eq_ok.mp h with ⟨_, _, h⟩
      cases h
      exact Or.inr (leavesReviews_refl taskId _)
  | mergeTurn pid turn =>
      right
      rcases takeTurn_eq_ok h with hsame | ⟨plan, progress, s', hs', hplan, hperform, hw'⟩
      · rw [hsame]
        exact leavesReviews_refl taskId _
      · rw [hw']
        refine ⟨rfl, rfl, ?_⟩
        intro task htask
        exact keepsTask_of_plan hplan hperform (hw pid) htask
  | endMerge pid =>
      cases h
      exact Or.inr (leavesReviews_refl taskId _)

theorem reworkEffect_of_step {port : FollowUpTaskPort} {queries : QueueQueries} {w : Factory}
    {q : FactoryStep} (hq : ReworkStep taskId q) (hw : RemembersTasks w)
    (h : (factory port queries).step w q = .ok w') : ReworkEffect taskId w.shared w'.shared := by
  rcases review_or_leaves taskId hw h with ⟨request, hrequest, hperform⟩ | hleaves
  · rw [hrequest] at hq
    exact reworkEffect_of_review hq hperform
  · exact .kept (keepsLast_of_cycles_eq hleaves.cycles) hleaves.task

theorem decisionsStored_of_step {port : FollowUpTaskPort} {queries : QueueQueries} {w : Factory}
    {q : FactoryStep} (hq : ReworkStep taskId q) (hw : RemembersTasks w)
    (hr : DecisionsStored w.shared) (h : (factory port queries).step w q = .ok w') :
    DecisionsStored w'.shared := by
  rcases review_or_leaves taskId hw h with ⟨request, hrequest, hperform⟩ | hleaves
  · rw [hrequest] at hq
    exact decisionsStored_of_review hq hr hperform
  · exact decisionsStored_of_nothing hr
      (decidesNothing_of_eq hleaves.decisions hleaves.cycles)

/-!
## The cause of a return
-/

/-- A task in review is reviewed in its last cycle.  On its way to a merge that cycle was
approved, and a task that is sent back had it rejected or approved. -/
structure LastCycleDecides (taskId : TaskId) (r : ReviewTables) : Prop where
  inReview : forall task, r.store.findTask taskId = some task -> task.status = .inReview ->
    exists cycle, lastCycle r taskId = some cycle ∧
      task.currentReviewCycleId = some cycle.reviewCycleId
  approved : forall task, r.store.findTask taskId = some task ->
    task.status ∈ [TaskStatus.approved, .queuedForMerge, .merging] ->
      exists cycle, lastCycle r taskId = some cycle ∧ cycle.status = .approved
  sentBack : forall task, r.store.findTask taskId = some task ->
    task.status = .changesRequested ->
      exists cycle, lastCycle r taskId = some cycle ∧
        (cycle.status = .rejected ∨ cycle.status = .approved)

theorem lastCycle_of_decided {params : ApplyReviewDecisionParams}
    {packet : LeadReviewDecisionPacket} {record : LeadReviewDecisionRecord} {task : Task}
    {cycle : ReviewCycle} (hlast : LastCycleDecides params.taskId r)
    (h : Decided params packet record task cycle r r') :
    lastCycle r' params.taskId =
      some (ReviewTables.withStatus (cycleTarget params task packet.decision) cycle) := by
  rcases hlast.inReview task h.foundTask h.inReview with ⟨last, hfound, hcurrent⟩
  have hsame := h.current
  rw [hcurrent, Option.getD_some] at hsame
  rcases Table.find?_eq_some_iff.mp h.foundCycle with ⟨hmem, hid⟩
  have heq : last = cycle :=
    Table.eq_of_key (mem_of_lastCycle hfound).1 hmem (hsame.trans hid.symm)
  unfold lastCycle at hfound ⊢
  rw [findCyclesByTaskId_of_move h.cycles, List.getLast?_map, hfound, heq, Option.map_some,
    if_pos hid]

theorem lastCycleDecides_of_kept (hlast : LastCycleDecides taskId r)
    (hkept : KeepsLast taskId r r')
    (htask : forall task, r'.store.findTask taskId = some task ->
      KeepsTask (r.store.findTask taskId) task) :
    LastCycleDecides taskId r' := by
  constructor
  · intro t ht hreview
    rcases htask t ht (by rw [hreview]; decide) with ⟨old, hold, hmove, hcurrent⟩
    have holdReview : old.status = .inReview := by
      rw [hreview] at hmove
      rcases hmove with hsame | hmove
      · exact hsame.symm
      · simp [reworkMoves] at hmove
    rcases hlast.inReview old hold holdReview with ⟨cycle, hcycle, hid⟩
    rcases hkept cycle hcycle with ⟨cycle', hcycle', hid', _⟩
    refine ⟨cycle', hcycle', ?_⟩
    rw [hcurrent hreview, hid, hid']
  · intro t ht hmerge
    have hrework : t.status ∈ reworkStatuses := by
      revert hmerge
      cases t.status <;> decide
    rcases htask t ht hrework with ⟨old, hold, hmove, _⟩
    have holdMerge : old.status ∈ [TaskStatus.approved, .queuedForMerge, .merging] := by
      rcases hmove with hsame | hmove
      · rw [← hsame]
        exact hmerge
      · revert hmove hmerge
        cases old.status <;> cases t.status <;> decide
    rcases hlast.approved old hold holdMerge with ⟨cycle, hcycle, hstatus⟩
    rcases hkept cycle hcycle with ⟨cycle', hcycle', _, hover⟩
    rw [hover (by rw [hstatus]; rfl)] at hcycle'
    exact ⟨cycle, hcycle', hstatus⟩
  · intro t ht hback
    rcases htask t ht (by rw [hback]; decide) with ⟨old, hold, hmove, _⟩
    have hcause : exists cycle, lastCycle r taskId = some cycle ∧
        (cycle.status = .rejected ∨ cycle.status = .approved) := by
      rw [hback] at hmove
      rcases hmove with hsame | hmove
      · exact hlast.sentBack old hold hsame.symm
      · have holdMerging : old.status = .merging := by
          simpa [reworkMoves] using hmove
        rcases hlast.approved old hold (by rw [holdMerging]; decide) with
          ⟨cycle, hcycle, hstatus⟩
        exact ⟨cycle, hcycle, Or.inr hstatus⟩
    rcases hcause with ⟨cycle, hcycle, hstatus⟩
    rcases hkept cycle hcycle with ⟨cycle', hcycle', _, hover⟩
    have hterminal : isTerminalReviewCycleState cycle.status = true := by
      rcases hstatus with hstatus | hstatus <;> rw [hstatus] <;> rfl
    rw [hover hterminal] at hcycle'
    exact ⟨cycle, hcycle', hstatus⟩

theorem lastCycleDecides_of_decided {params : ApplyReviewDecisionParams}
    {packet : LeadReviewDecisionPacket} {record : LeadReviewDecisionRecord} {task : Task}
    {cycle : ReviewCycle} (hlast : LastCycleDecides params.taskId r)
    (h : Decided params packet record task cycle r r') :
    LastCycleDecides params.taskId r' := by
  have hcycle := lastCycle_of_decided hlast h
  have hstatus : forall t, r'.store.findTask params.taskId = some t ->
      t.status = taskTarget params task packet.decision := by
    intro t ht
    have hafter := (statusOf_of_decided h).2
    unfold statusOf at hafter
    rw [ht] at hafter
    exact Option.some.inj hafter
  have hends := targets_mem_reviewEnds params task packet.decision
  simp only [reviewEnds, List.mem_cons, List.not_mem_nil, or_false, Prod.mk.injEq] at hends
  constructor
  · intro t ht hreview
    rw [hstatus t ht] at hreview
    exact absurd hreview
      (terminal_of_reviewEnd (targets_mem_reviewEnds params task packet.decision)).2.1
  · intro t ht hmerge
    rw [hstatus t ht] at hmerge
    rcases hends with ⟨hcycleEnd, _⟩ | ⟨_, htaskEnd⟩ | ⟨_, htaskEnd⟩
    · exact ⟨_, hcycle, hcycleEnd⟩
    · rw [htaskEnd] at hmerge
      exact absurd hmerge (by decide)
    · rw [htaskEnd] at hmerge
      exact absurd hmerge (by decide)
  · intro t ht hback
    rw [hstatus t ht, taskTarget_eq_changesRequested_iff, ← cycleTarget_eq_rejected_iff]
      at hback
    exact ⟨_, hcycle, Or.inl hback⟩

theorem lastCycleDecides_of_effect (hlast : LastCycleDecides taskId r)
    (h : ReworkEffect taskId r r') :
    LastCycleDecides taskId r' := by
  cases h with
  | kept hkept htask =>
      exact lastCycleDecides_of_kept hlast hkept htask
  | dispatched task new htask hstatus hnew hcurrent =>
      constructor
      · intro t ht _
        exact ⟨new, hnew, (hcurrent t ht).2⟩
      · intro t ht hmerge
        rw [(hcurrent t ht).1] at hmerge
        exact absurd hmerge (by decide)
      · intro t ht hback
        rw [(hcurrent t ht).1] at hback
        cases hback
  | decided params packet record task cycle htask hdecides =>
      rw [← htask] at hlast ⊢
      exact lastCycleDecides_of_decided hlast hdecides.decided

/-!
## Runs
-/

structure ReworkInvariant (taskId : TaskId) (w : Factory) : Prop where
  remembers : RemembersTasks w
  decisions : DecisionsStored w.shared
  last : LastCycleDecides taskId w.shared

theorem reworkInvariant_start (taskId : TaskId) : ReworkInvariant taskId Factory.start where
  remembers := remembersTasks_start
  decisions := decisionsStored_empty
  last :=
    { inReview := by
        intro _ htask
        cases htask
      approved := by
        intro _ htask
        cases htask
      sentBack := by
        intro _ htask
        cases htask }

theorem reworkInvariant_preserved (port : FollowUpTaskPort) (queries : QueueQueries)
    (taskId : TaskId) :
    (factory port queries).Preserves (ReworkStep taskId) (ReworkInvariant taskId) := by
  intro w q w' hq hw h
  exact
    { remembers := remembersTasks_of_step hw.remembers h
      decisions := decisionsStored_of_step hq hw.remembers hw.decisions h
      last := lastCycleDecides_of_effect hw.last (reworkEffect_of_step hq hw.remembers h) }

section Runs

variable {port : FollowUpTaskPort} {queries : QueueQueries} {w : Factory} {q : FactoryStep}
  {steps : List FactoryStep}

/-- No new cycle comes while the task waits for its rework, and the last one is over. -/
theorem lastCycle_next (hq : ReworkStep taskId q) (hw : ReworkInvariant taskId w)
    (hback : statusOf w.shared taskId = some .changesRequested) {cycle : ReviewCycle}
    (hlast : lastCycle w.shared taskId = some cycle) :
    lastCycle ((factory port queries).next w q).shared taskId = some cycle := by
  rcases Option.map_eq_some_iff.mp hback with ⟨task, htask, hstatus⟩
  have hover : isTerminalReviewCycleState cycle.status = true := by
    rcases hw.last.sentBack task htask hstatus with ⟨found, hfound, hends⟩
    rw [hlast] at hfound
    cases hfound
    rcases hends with hends | hends <;> rw [hends] <;> rfl
  refine (factory port queries).next_cases hlast ?_
  intro w' h
  cases reworkEffect_of_step hq hw.remembers h with
  | kept hkept _ =>
      rcases hkept cycle hlast with ⟨cycle', hcycle', _, hsame⟩
      rw [hsame hover] at hcycle'
      exact hcycle'
  | dispatched old new hfound hdevComplete _ _ =>
      rw [htask] at hfound
      cases hfound
      rw [hstatus] at hdevComplete
      cases hdevComplete
  | decided params packet record old cycle' hid hdecides =>
      have hfound := hdecides.decided.foundTask
      rw [hid, htask] at hfound
      cases hfound
      have hreview := hdecides.decided.inReview
      rw [hstatus] at hreview
      cases hreview

theorem lastCycle_run (hsteps : forall q, q ∈ steps -> ReworkStep taskId q)
    (hw : ReworkInvariant taskId w)
    (hback : forall t, t ∈ (factory port queries).states w steps ->
      statusOf t.shared taskId = some .changesRequested) {cycle : ReviewCycle}
    (hlast : lastCycle w.shared taskId = some cycle) :
    lastCycle ((factory port queries).run w steps).shared taskId = some cycle := by
  induction steps generalizing w with
  | nil =>
      exact hlast
  | cons q rest ih =>
      have hq := hsteps q List.mem_cons_self
      have hnow := hback w List.mem_cons_self
      exact ih (fun other hother => hsteps other (List.mem_cons_of_mem q hother))
        ((reworkInvariant_preserved port queries taskId).next hq hw)
        (fun t ht => hback t (List.mem_cons_of_mem w ht)) (lastCycle_next hq hw hnow hlast)

theorem decision_preserved (port : FollowUpTaskPort) (queries : QueueQueries)
    (taskId : TaskId) (decision : LeadReviewDecisionRecord) :
    (factory port queries).Preserves (ReworkStep taskId) (fun w =>
      ReworkInvariant taskId w ∧ decision ∈ w.shared.leadReviewDecisions) := by
  intro w q w' hq hw h
  refine ⟨reworkInvariant_preserved port queries taskId w q w' hq hw.1 h, ?_⟩
  rcases review_or_leaves taskId hw.1.remembers h with
    ⟨request, hrequest, hperform⟩ | hleaves
  · rw [hrequest] at hq
    rcases decidesNothing_or_decided hq hperform with
      hnothing | ⟨_, params, packet, record, task, cycle, _, hdecides⟩
    · rw [hnothing.decisions]
      exact hw.2
    · exact (hdecides.decided.decisions decision).mpr (Or.inl hw.2)
  · rw [hleaves.decisions]
    exact hw.2

end Runs

/-!
## The feedback
-/

/-- A step of the run, since which the task has been in CHANGES_REQUESTED. -/
def PutBackBy (port : FollowUpTaskPort) (queries : QueueQueries) (taskId : TaskId)
    (steps before : List FactoryStep) (step : FactoryStep) : Prop :=
  exists after, steps = before ++ step :: after ∧
    forall w, w ∈ (factory port queries).states
        ((factory port queries).run Factory.start (before ++ [step])) after ->
      statusOf w.shared taskId = some .changesRequested

def SentBackByDecision (port : FollowUpTaskPort) (queries : QueueQueries) (taskId : TaskId)
    (steps : List FactoryStep) (params : ApplyReviewDecisionParams)
    (packet : LeadReviewDecisionPacket) : Prop :=
  exists before idGenerator accepted,
    PutBackBy port queries taskId steps before
      (.review (.applyDecision idGenerator params)) ∧
    params.taskId = taskId ∧ params.packet = .ok packet ∧
    applyDecision port idGenerator params
      ((factory port queries).run Factory.start before).shared = .ok accepted

def settledTask (w : Factory) : FactoryStep -> Option TaskId
  | .mergeTurn pid turn =>
      match (w.phase pid).plan turn with
      | some ⟨params, .settleConflict classification completedAt progress, _⟩ =>
          (settleConflict params classification completedAt progress
            w.shared.store).toOption.map (fun _ => progress.task.taskId)
      | _ => none
  | _ => none

def SentBackByConflict (port : FollowUpTaskPort) (queries : QueueQueries) (taskId : TaskId)
    (steps : List FactoryStep) : Prop :=
  exists before step, PutBackBy port queries taskId steps before step ∧
    settledTask ((factory port queries).run Factory.start before) step = some taskId

def ApprovedSince (r : ReviewTables) (taskId : TaskId) (reviewCycleId : ReviewCycleId) :
    Prop :=
  exists before cycle after later, r.findCyclesByTaskId taskId = before ++ cycle :: after ∧
    cycle.reviewCycleId = reviewCycleId ∧ later ∈ after ∧ later.status = .approved

/-- The feedback that a task in CHANGES_REQUESTED can be given: that of the decision that
put it there, nothing stale after a merge conflict, and nothing of a cycle that is not
rejected. -/
structure FeedbackSound (ports : ReworkPorts) (port : FollowUpTaskPort)
    (queries : QueueQueries) (taskId : TaskId) (steps : List FactoryStep) : Prop where
  current : forall params packet,
    SentBackByDecision port queries taskId steps params packet ->
      exists result, buildRejectionContext ports { taskId := taskId }
          ((factory port queries).run Factory.start steps).shared = .ok result ∧
        result.rejectionContext = packet.feedback params.reviewCycleId
  notStale : SentBackByConflict port queries taskId steps ->
    forall result, buildRejectionContext ports { taskId := taskId }
        ((factory port queries).run Factory.start steps).shared = .ok result ->
      ¬ ApprovedSince ((factory port queries).run Factory.start steps).shared taskId
        result.rejectionContext.priorReviewCycleId
  rejected :
    statusOf ((factory port queries).run Factory.start steps).shared taskId =
        some .changesRequested ->
      forall reviewCycleId result, buildRejectionContext ports
          { taskId := taskId, reviewCycleId := some reviewCycleId }
          ((factory port queries).run Factory.start steps).shared = .ok result ->
        exists cycle, ((factory port queries).run Factory.start steps).shared.findCycle
            result.reviewCycleId = some cycle ∧
          cycle.status = .rejected

/-- The decision on the cycle has blocking issues, or else its specialists have, and the
schema accepts them. -/
def CarriesIssues (r : ReviewTables) (cycle : ReviewCycle) : Prop :=
  exists decision, findDecisionByReviewCycleId r cycle.reviewCycleId = some decision ∧
    blockingIssuesOf r cycle.reviewCycleId decision ≠ [] ∧
    forall issue, issue ∈ blockingIssuesOf r cycle.reviewCycleId decision ->
      issueSchema (some issue) = true

/-- No cycle was rejected before a merge conflict, and no cycle that ended otherwise has
blocking issues. -/
structure LeavesNoOldIssues (port : FollowUpTaskPort) (queries : QueueQueries)
    (taskId : TaskId) (steps : List FactoryStep) : Prop where
  conflict : SentBackByConflict port queries taskId steps ->
    rejectedCycles ((factory port queries).run Factory.start steps).shared taskId = []
  named :
    statusOf ((factory port queries).run Factory.start steps).shared taskId =
        some .changesRequested ->
      forall cycle,
        cycle ∈ ((factory port queries).run Factory.start steps).shared.findCyclesByTaskId
          taskId ->
        cycle.status ≠ .rejected ->
          ¬ CarriesIssues ((factory port queries).run Factory.start steps).shared cycle

/-!
### One state
-/

section State

variable {ports : ReworkPorts}

theorem mem_findCyclesByTaskId {cycle : ReviewCycle} :
    cycle ∈ r.findCyclesByTaskId taskId <->
      cycle ∈ r.reviewCycles ∧ cycle.taskId = taskId := by
  simp [ReviewTables.findCyclesByTaskId, Table.mem_def]

theorem rejectedCycles_eq_filter (r : ReviewTables) (taskId : TaskId) :
    rejectedCycles r taskId =
      (r.findCyclesByTaskId taskId).filter (fun cycle => cycle.status = .rejected) := by
  unfold rejectedCycles ReviewTables.findCyclesByTaskId
  rw [List.filter_filter]
  apply List.filter_congr
  intro cycle _
  simp [Bool.and_comm]

theorem latestRejected_of_last {cycle : ReviewCycle} (hlast : lastCycle r taskId = some cycle)
    (hstatus : cycle.status = .rejected) :
    (rejectedCycles r taskId).getLast? = some cycle := by
  rcases List.getLast?_eq_some_iff.mp hlast with ⟨earlier, heq⟩
  rw [rejectedCycles_eq_filter, heq, List.filter_append,
    List.filter_cons_of_pos (by simpa using hstatus), List.filter_nil, List.getLast?_concat]

theorem approvedSince_of_last {last cycle : ReviewCycle}
    (hlast : lastCycle r taskId = some last) (hstatus : last.status = .approved)
    (hcycle : cycle ∈ rejectedCycles r taskId) :
    ApprovedSince r taskId cycle.reviewCycleId := by
  rcases List.getLast?_eq_some_iff.mp hlast with ⟨earlier, heq⟩
  rcases mem_rejectedCycles.mp hcycle with ⟨hmem, htask, hrejected⟩
  have hfound := mem_findCyclesByTaskId.mpr ⟨hmem, htask⟩
  rw [heq, List.mem_append, List.mem_singleton] at hfound
  rcases hfound with hearlier | hsame
  · rcases List.append_of_mem hearlier with ⟨before, after, hsplit⟩
    refine ⟨before, cycle, after ++ [last], last, ?_, rfl, ?_, hstatus⟩
    · rw [heq, hsplit, List.append_assoc, List.cons_append]
    · exact List.mem_append_right after List.mem_cons_self
  · rw [hsame, hstatus] at hrejected
    cases hrejected

theorem findDecision_of_mem (h : DecisionsStored r) {decision : LeadReviewDecisionRecord}
    (hdecision : decision ∈ r.leadReviewDecisions) :
    findDecisionByReviewCycleId r decision.reviewCycleId = some decision := by
  unfold findDecisionByReviewCycleId
  cases hfind : r.leadReviewDecisions.rows.find?
      (fun other => other.reviewCycleId = decision.reviewCycleId) with
  | none =>
      have hnone := List.find?_eq_none.mp hfind decision hdecision
      simp at hnone
  | some found =>
      have hmem : found ∈ r.leadReviewDecisions := List.mem_of_find?_eq_some hfind
      have hid : found.reviewCycleId = decision.reviewCycleId := by
        simpa using List.find?_some hfind
      rw [h.once found decision hmem hdecision hid]

theorem mem_of_findDecision {decision : LeadReviewDecisionRecord}
    (h : findDecisionByReviewCycleId r reviewCycleId = some decision) :
    decision ∈ r.leadReviewDecisions ∧ decision.reviewCycleId = reviewCycleId :=
  ⟨List.mem_of_find?_eq_some h, by simpa using List.find?_some h⟩

theorem build_of_feedback (ports : ReworkPorts) (params : BuildRejectionContextParams)
    {decision : LeadReviewDecisionRecord} {packet : LeadReviewDecisionPacket}
    (htask : (r.store.findTask params.taskId).isSome = true)
    (hcycle : rejectedCycleOf ports params r = .ok reviewCycleId)
    (hdecision : findDecisionByReviewCycleId r reviewCycleId = some decision)
    (hpacket : decision.packetJson = packet.toJson) (hvalid : packet.Valid)
    (hid : packet.reviewCycleId = reviewCycleId) (hissues : packet.blockingIssues ≠ []) :
    exists result, buildRejectionContext ports params r = .ok result ∧
      result.rejectionContext = packet.feedback reviewCycleId := by
  have hraw : rawContext r reviewCycleId decision = packet.feedback reviewCycleId :=
    rawContext_of_packet hpacket hissues
  have hblocking : blockingIssuesOf r reviewCycleId decision =
      packet.blockingIssues.map Issue.toJson :=
    congrArg RejectionContext.blockingIssues hraw
  have hcomplete : (rawContext r reviewCycleId decision).Complete := by
    rw [hraw]
    apply feedback_complete hvalid hissues
    rw [← hid]
    exact hvalid.reviewCycleId
  refine ⟨_, buildRejectionContext_eq_ok.mpr
    ⟨htask, reviewCycleId, decision, hcycle, hdecision, hcomplete, rfl⟩, ?_⟩
  show RejectionContext.mk _ ((blockingIssuesOf r reviewCycleId decision).map _) _ = _
  rw [hblocking, pick_feedback, hraw]
  rfl

theorem build_of_latest (hports : ports.Documented) (h : DecisionsStored r)
    {cycle : ReviewCycle} (hlatest : (rejectedCycles r taskId).getLast? = some cycle) :
    exists packet result, buildRejectionContext ports { taskId := taskId } r = .ok result ∧
      result.rejectionContext =
        LeadReviewDecisionPacket.feedback packet cycle.reviewCycleId := by
  rcases mem_rejectedCycles.mp (List.mem_of_getLast? hlatest) with ⟨hmem, htask, hrejected⟩
  rcases h.stored cycle hmem (by rw [hrejected]; rfl) with
    ⟨decision, packet, hdecision, hid, hpacket, hvalid, hpacketId, hissues⟩
  have hfind := findDecision_of_mem h hdecision
  rw [hid] at hfind
  have hsome := r.cycleTask cycle hmem
  rw [htask] at hsome
  rcases build_of_feedback ports { taskId := taskId } hsome
    ((rejectedCycleOf_latest ports taskId r cycle.reviewCycleId).mpr
      ⟨cycle, (hports r taskId).trans hlatest, rfl⟩) hfind hpacket hvalid hpacketId
    (hissues hrejected) with ⟨result, hbuild, hcontext⟩
  exact ⟨packet, result, hbuild, hcontext⟩

theorem build_of_carries (ports : ReworkPorts) (h : DecisionsStored r) {cycle : ReviewCycle}
    (hcycle : cycle ∈ r.findCyclesByTaskId taskId) (hcarries : CarriesIssues r cycle) :
    exists result, buildRejectionContext ports
        { taskId := taskId, reviewCycleId := some cycle.reviewCycleId } r = .ok result ∧
      result.reviewCycleId = cycle.reviewCycleId := by
  rcases mem_findCyclesByTaskId.mp hcycle with ⟨hmem, htask⟩
  rcases hcarries with ⟨decision, hdecision, hissues, haccepted⟩
  have hfind := Table.find?_key_of_mem hmem
  rcases mem_of_findDecision hdecision with ⟨hdecisionMem, hdecisionId⟩
  rcases h.ended decision hdecisionMem with ⟨found, hfound, hover⟩
  rw [hdecisionId, show r.findCycle cycle.reviewCycleId = some cycle from hfind] at hfound
  cases hfound
  rcases h.stored cycle hmem hover with
    ⟨other, packet, hother, hotherId, hpacket, hvalid, hpacketId, _⟩
  rw [h.once other decision hother hdecisionMem (hotherId.trans hdecisionId.symm)] at hpacket
  have hnamed : cycle.reviewCycleId ≠ "" := by
    rw [← hpacketId]
    exact hvalid.reviewCycleId
  have hsome := r.cycleTask cycle hmem
  rw [htask] at hsome
  have hcomplete : (rawContext r cycle.reviewCycleId decision).Complete :=
    { cycle := hnamed
      issues := hissues
      valid := haccepted
      summary := by
        show extractDecisionSummary decision ≠ ""
        rw [extractDecisionSummary_of_packet hpacket]
        exact hvalid.summary }
  exact ⟨_, buildRejectionContext_eq_ok.mpr ⟨hsome, cycle.reviewCycleId, decision,
    (rejectedCycleOf_named ports taskId r hnamed).mpr ⟨⟨cycle, hfind, htask⟩, rfl⟩,
    hdecision, hcomplete, rfl⟩, rfl⟩

/-- A context that is built for a named cycle is that of a rejected cycle, or of a cycle of
the task with blocking issues. -/
theorem cycle_of_build (hports : ports.Documented) {result : BuildRejectionContextResult}
    (hbuild : buildRejectionContext ports
      { taskId := taskId, reviewCycleId := some reviewCycleId } r = .ok result) :
    exists cycle, r.findCycle result.reviewCycleId = some cycle ∧
      (cycle.status = .rejected ∨
        cycle ∈ r.findCyclesByTaskId taskId ∧ CarriesIssues r cycle) := by
  rcases buildRejectionContext_eq_ok.mp hbuild with
    ⟨_, id, decision, hcycle, hdecision, hcomplete, hresult⟩
  have hid : result.reviewCycleId = id := by
    rw [hresult]
  rw [hid]
  by_cases hnamed : reviewCycleId = ""
  · -- An empty id counts as none.
    have hlatest : rejectedCycleOf ports { taskId := taskId } r = .ok id := by
      rw [hnamed] at hcycle
      exact hcycle
    rcases (rejectedCycleOf_latest ports taskId r id).mp hlatest with ⟨cycle, hfound, heq⟩
    rw [hports r taskId] at hfound
    rcases mem_rejectedCycles.mp (List.mem_of_getLast? hfound) with ⟨hmem, _, hstatus⟩
    refine ⟨cycle, ?_, Or.inl hstatus⟩
    rw [← heq]
    exact Table.find?_key_of_mem hmem
  · rcases (rejectedCycleOf_named ports taskId r hnamed).mp hcycle with
      ⟨⟨cycle, hfind, htask⟩, hsame⟩
    rcases Table.find?_eq_some_iff.mp hfind with ⟨hmem, hcycleId⟩
    rw [hsame]
    refine ⟨cycle, hfind, Or.inr ⟨mem_findCyclesByTaskId.mpr ⟨hmem, htask⟩, decision, ?_⟩⟩
    have hkey : cycle.reviewCycleId = id := hcycleId.trans hsame.symm
    rw [hkey]
    exact ⟨hdecision, hcomplete.issues, hcomplete.valid⟩

end State

/-!
### The state after a return
-/

section Returns

variable {port : FollowUpTaskPort} {queries : QueueQueries} {steps : List FactoryStep}

theorem reworkInvariant_run (port : FollowUpTaskPort) (queries : QueueQueries)
    (hsteps : forall q, q ∈ steps -> ReworkStep taskId q) :
    ReworkInvariant taskId ((factory port queries).run Factory.start steps) :=
  (reworkInvariant_preserved port queries taskId).run hsteps (reworkInvariant_start taskId)

/-- The run up to the step that puts the task back, and from then on. -/
structure ReturnedRun (port : FollowUpTaskPort) (queries : QueueQueries) (taskId : TaskId)
    (w : Factory) (step : FactoryStep) (after : List FactoryStep) : Prop where
  before : ReworkInvariant taskId w
  taken : ReworkStep taskId step
  returned : ReworkInvariant taskId ((factory port queries).next w step)
  later : forall q, q ∈ after -> ReworkStep taskId q
  back : forall t, t ∈ (factory port queries).states ((factory port queries).next w step)
      after -> statusOf t.shared taskId = some .changesRequested

theorem returnedRun_of_putBack (hsteps : forall q, q ∈ steps -> ReworkStep taskId q)
    {before : List FactoryStep} {step : FactoryStep}
    (hput : PutBackBy port queries taskId steps before step) :
    exists after, ReturnedRun port queries taskId
        ((factory port queries).run Factory.start before) step after ∧
      (factory port queries).run Factory.start steps = (factory port queries).run
        ((factory port queries).next ((factory port queries).run Factory.start before) step)
        after := by
  rcases hput with ⟨after, happ, hback⟩
  rw [TransitionSystem.run_append] at hback
  have hstep : ReworkStep taskId step := by
    apply hsteps step
    rw [happ]
    exact List.mem_append_right _ List.mem_cons_self
  have hbefore : ReworkInvariant taskId ((factory port queries).run Factory.start before) := by
    apply reworkInvariant_run
    intro q hq
    apply hsteps q
    rw [happ]
    exact List.mem_append_left _ hq
  refine ⟨after, ⟨hbefore, hstep, ?_, ?_, hback⟩, ?_⟩
  · exact (reworkInvariant_preserved port queries taskId).next hstep hbefore
  · intro q hq
    apply hsteps q
    rw [happ]
    exact List.mem_append_right _ (List.mem_cons_of_mem step hq)
  · rw [happ, TransitionSystem.run_append]
    rfl

section ReturnedRun

variable {w : Factory} {step : FactoryStep} {after : List FactoryStep}

theorem ReturnedRun.lastCycle (h : ReturnedRun port queries taskId w step after)
    {cycle : ReviewCycle}
    (hlast : Reviewing.lastCycle ((factory port queries).next w step).shared taskId =
      some cycle) :
    Reviewing.lastCycle ((factory port queries).run ((factory port queries).next w step)
      after).shared taskId = some cycle :=
  lastCycle_run h.later h.returned h.back hlast

theorem ReturnedRun.decision (h : ReturnedRun port queries taskId w step after)
    {decision : LeadReviewDecisionRecord}
    (hdecision : decision ∈
      ((factory port queries).next w step).shared.leadReviewDecisions) :
    decision ∈ ((factory port queries).run ((factory port queries).next w step)
      after).shared.leadReviewDecisions :=
  ((decision_preserved port queries taskId decision).run h.later
    ⟨h.returned, hdecision⟩).2

theorem ReturnedRun.invariant (h : ReturnedRun port queries taskId w step after) :
    ReworkInvariant taskId ((factory port queries).run
      ((factory port queries).next w step) after) :=
  (reworkInvariant_preserved port queries taskId).run h.later h.returned

theorem merging_of_settledTask (hw : RemembersTasks w)
    (h : settledTask w step = some taskId) :
    (exists pid turn, step = .mergeTurn pid turn) ∧
      exists task, w.shared.store.findTask taskId = some task ∧ task.status = .merging := by
  cases step with
  | mergeTurn pid turn =>
      refine ⟨⟨pid, turn, rfl⟩, ?_⟩
      have hremembers := hw pid
      simp only [settledTask] at h
      split at h
      · rename_i params classification completedAt progress next hplan
        rcases Option.map_eq_some_iff.mp h with ⟨⟨s', moved⟩, hsettled, htask⟩
        have hphase : w.phase pid = .rebasing params progress := by
          revert hplan
          cases w.phase pid <;> cases turn <;> simp [MergePhase.plan]
          intro hparams _ _ hprogress _
          exact ⟨hparams, hprogress⟩
        rw [hphase] at hremembers
        rw [toOption_eq_some] at hsettled
        have hmerging := source_of_remembered hremembers.1 hremembers.2 hsettled
        rcases moveItemAndTask_eq_ok.mp hsettled with ⟨_, stored, _, _, hstored, _⟩
        rw [htask] at hstored
        exact ⟨stored, hstored, hmerging stored (by rw [htask]; exact hstored)⟩
      · cases h
  | _ =>
      cases h

theorem ReturnedRun.last_of_conflict (h : ReturnedRun port queries taskId w step after)
    (hsettles : settledTask w step = some taskId) :
    exists cycle, Reviewing.lastCycle ((factory port queries).run
        ((factory port queries).next w step) after).shared taskId = some cycle ∧
      cycle.status = .approved := by
  rcases merging_of_settledTask h.before.remembers hsettles with
    ⟨⟨pid, turn, hstep⟩, task, htask, hmerging⟩
  rcases h.before.last.approved task htask (by rw [hmerging]; decide) with
    ⟨cycle, hlast, happroved⟩
  refine ⟨cycle, h.lastCycle ?_, happroved⟩
  refine (factory port queries).next_cases hlast ?_
  intro w' hok
  rcases review_or_leaves taskId h.before.remembers hok with
    ⟨_, hreview, _⟩ | hleaves
  · rw [hstep] at hreview
    cases hreview
  · unfold Reviewing.lastCycle ReviewTables.findCyclesByTaskId
    rw [hleaves.cycles]
    exact hlast

section Decision

variable {idGenerator : Nat -> String} {params : ApplyReviewDecisionParams}
  {packet : LeadReviewDecisionPacket} {record : LeadReviewDecisionRecord} {task : Task}
  {cycle : ReviewCycle}

theorem ReturnedRun.rejects
    (h : ReturnedRun port queries taskId w (.review (.applyDecision idGenerator params)) after)
    (htask : params.taskId = taskId)
    (hdecided : Decided params packet record task cycle w.shared
      ((factory port queries).next w (.review (.applyDecision idGenerator params))).shared) :
    cycleTarget params task packet.decision = .rejected := by
  have hnow := h.back _ ((factory port queries).self_mem_states _ after)
  have hafter := (statusOf_of_decided hdecided).2
  rw [htask, hnow, Option.some.injEq] at hafter
  rw [cycleTarget_eq_rejected_iff, ← taskTarget_eq_changesRequested_iff]
  exact hafter.symm

/-- The cycle that was decided on is the last one, and rejected. -/
theorem ReturnedRun.last_of_decision
    (h : ReturnedRun port queries taskId w (.review (.applyDecision idGenerator params)) after)
    (htask : params.taskId = taskId)
    (hdecided : Decided params packet record task cycle w.shared
      ((factory port queries).next w (.review (.applyDecision idGenerator params))).shared) :
    Reviewing.lastCycle ((factory port queries).run ((factory port queries).next w
      (.review (.applyDecision idGenerator params))) after).shared taskId =
        some (ReviewTables.withStatus .rejected cycle) := by
  have hbefore := h.before.last
  rw [← htask] at hbefore
  have hlast := lastCycle_of_decided hbefore hdecided
  rw [htask, h.rejects htask hdecided] at hlast
  exact h.lastCycle hlast

end Decision

end ReturnedRun

theorem last_of_conflict (hsteps : forall q, q ∈ steps -> ReworkStep taskId q)
    (h : SentBackByConflict port queries taskId steps) :
    exists cycle, lastCycle ((factory port queries).run Factory.start steps).shared taskId =
        some cycle ∧
      cycle.status = .approved := by
  rcases h with ⟨before, step, hput, hsettles⟩
  rcases returnedRun_of_putBack hsteps hput with ⟨after, hreturned, hrun⟩
  rw [hrun]
  exact hreturned.last_of_conflict hsettles

theorem decidesOn_next (queries : QueueQueries) {w : Factory} {idGenerator : Nat -> String}
    {params : ApplyReviewDecisionParams} {packet : LeadReviewDecisionPacket}
    (hstep : ReworkStep taskId (.review (.applyDecision idGenerator params)))
    (hpacket : params.packet = .ok packet)
    {accepted : ReviewTables × ApplyReviewDecisionResult}
    (haccepted : applyDecision port idGenerator params w.shared = .ok accepted) :
    exists task cycle, DecidesOn params packet
      (decisionRecord (idGenerator 0) params packet) task cycle w.shared
      ((factory port queries).next w
        (.review (.applyDecision idGenerator params))).shared := by
  rcases accepted with ⟨r', result⟩
  rcases decidesOn_of_applyDecision hstep haccepted with ⟨packet', task, cycle, hdecides⟩
  have hsame := hdecides.decided.packet_eq.1
  rw [hpacket] at hsame
  cases hsame
  have hnext : (factory port queries).next w (.review (.applyDecision idGenerator params)) =
      { w with shared := r' } := by
    apply (factory port queries).next_of_ok
    exact bind_eq_ok.mpr ⟨r', committedReview_eq_ok.mpr ⟨result, haccepted⟩, rfl⟩
  rw [hnext]
  exact ⟨task, cycle, hdecides⟩

theorem feedback_of_decision {ports : ReworkPorts} (hports : ports.Documented)
    (hsteps : forall q, q ∈ steps -> ReworkStep taskId q)
    {params : ApplyReviewDecisionParams} {packet : LeadReviewDecisionPacket}
    (h : SentBackByDecision port queries taskId steps params packet) :
    exists result, buildRejectionContext ports { taskId := taskId }
        ((factory port queries).run Factory.start steps).shared = .ok result ∧
      result.rejectionContext = packet.feedback params.reviewCycleId := by
  rcases h with ⟨before, idGenerator, accepted, hput, htask, hpacket, haccepted⟩
  rcases returnedRun_of_putBack hsteps hput with ⟨after, hreturned, hrun⟩
  rcases decidesOn_next queries hreturned.taken hpacket haccepted with
    ⟨task, cycle, hdecides⟩
  have hlast := hreturned.last_of_decision htask hdecides.decided
  have hrecord := hreturned.decision ((hdecides.decided.decisions _).mpr (Or.inr rfl))
  have hend := hreturned.invariant
  rw [← hrun] at hlast hrecord hend
  have hmem := (mem_of_lastCycle hlast).1
  have hid : cycle.reviewCycleId = params.reviewCycleId :=
    Table.key_of_find? hdecides.decided.foundCycle
  have hcycle := (rejectedCycleOf_latest ports taskId
    ((factory port queries).run Factory.start steps).shared params.reviewCycleId).mpr
      ⟨_, (hports _ taskId).trans (latestRejected_of_last hlast rfl), hid⟩
  have hfind := findDecision_of_mem hend.decisions hrecord
  have hissues : packet.blockingIssues ≠ [] :=
    blockingIssues_of_changesRequested hdecides.decided.packet_eq.2
      (changesRequested_of_rejected params task (hreturned.rejects htask hdecides.decided))
  have hsome := ((factory port queries).run Factory.start steps).shared.cycleTask _ hmem
  rw [(mem_of_lastCycle hlast).2] at hsome
  exact build_of_feedback ports { taskId := taskId } hsome hcycle hfind
    hdecides.packetJson hdecides.packetValid hdecides.packetCycle hissues

end Returns

/-- In every run the feedback of the task is sound exactly if no issues of an old cycle are
left to be found. -/
theorem feedback_sound_iff {ports : ReworkPorts} (hports : ports.Documented)
    (port : FollowUpTaskPort) (queries : QueueQueries) (taskId : TaskId)
    (steps : List FactoryStep) (hsteps : forall q, q ∈ steps -> ReworkStep taskId q) :
    FeedbackSound ports port queries taskId steps <->
      LeavesNoOldIssues port queries taskId steps := by
  have hend := reworkInvariant_run port queries hsteps
  constructor
  · intro h
    constructor
    · intro hconflict
      rcases last_of_conflict hsteps hconflict with ⟨last, hlast, happroved⟩
      rw [← List.getLast?_eq_none_iff]
      apply Option.eq_none_iff_forall_ne_some.mpr
      intro cycle hlatest
      rcases build_of_latest hports hend.decisions hlatest with
        ⟨packet, result, hbuild, hcontext⟩
      apply h.notStale hconflict result hbuild
      rw [hcontext]
      exact approvedSince_of_last hlast happroved (List.mem_of_getLast? hlatest)
    · intro hback cycle hcycle hnotRejected hcarries
      rcases build_of_carries ports hend.decisions hcycle hcarries with
        ⟨result, hbuild, hid⟩
      rcases h.rejected hback _ result hbuild with ⟨found, hfound, hrejected⟩
      have hsame := Table.find?_key_of_mem (mem_findCyclesByTaskId.mp hcycle).1
      rw [hid] at hfound
      cases hsame.symm.trans hfound
      exact hnotRejected hrejected
  · intro h
    constructor
    · intro params packet hdecision
      exact feedback_of_decision hports hsteps hdecision
    · intro hconflict result hbuild
      -- Without a rejected cycle there is nothing to build a context from.
      rcases buildRejectionContext_eq_ok.mp hbuild with ⟨_, id, _, hcycle, _⟩
      rcases (rejectedCycleOf_latest ports taskId _ id).mp hcycle with ⟨cycle, hlatest, _⟩
      rw [hports, h.conflict hconflict] at hlatest
      cases hlatest
    · intro hback reviewCycleId result hbuild
      rcases cycle_of_build hports hbuild with ⟨cycle, hfind, hrejected | ⟨hcycle, hcarries⟩⟩
      · exact ⟨cycle, hfind, hrejected⟩
      · refine ⟨cycle, hfind, ?_⟩
        by_contra hnotRejected
        exact h.named hback cycle hcycle hnotRejected hcarries

/-!
## A task that is rejected, approved and in conflict
-/

/-- The repositories as documented, without a result of the developer. -/
def documentedPorts : ReworkPorts where
  findLatestRejectedByTaskId := fun r taskId => (rejectedCycles r taskId).getLast?
  findLatestDevResult := fun _ _ => none
  schemaIssues := fun _ => []

theorem documentedPorts_documented : documentedPorts.Documented :=
  fun _ _ => rfl

theorem changesRequestedParams_valid :
    forall packet, changesRequestedParams.packet = .ok packet -> packet.Valid := by
  intro packet hpacket
  cases hpacket
  constructor
  · decide
  · decide
  · decide
  · intro issue hissue
    rw [List.mem_singleton.mp hissue]
    constructor
    · decide
    · decide
    · decide
    · intro line hline
      cases hline
  · intro ref href
    cases href

def reviewed (reviewCycleId : ReviewCycleId) : List FactoryStep :=
  [ .review (.transitionReviewCycle reviewCycleId .inProgress
      { reviewStarted := some true } reviewActor),
    .review (.transitionReviewCycle reviewCycleId .consolidating
      { allRequiredReviewsComplete := some true } reviewActor) ]

def rejectedTask : List FactoryStep :=
  firstReview.map .review ++ reviewed "a0" ++
    [.review (.applyDecision (sampleIds "d") changesRequestedParams)]

theorem rejectedTask_steps :
    forall q, q ∈ rejectedTask -> ReworkStep "task-1" q := by
  have hdecision : ReworkStep "task-1"
      (.review (.applyDecision (sampleIds "d") changesRequestedParams)) :=
    changesRequestedParams_valid
  simp only [rejectedTask, List.forall_mem_append, List.forall_mem_singleton]
  refine ⟨⟨?_, ?_⟩, hdecision⟩
  · simp [firstReview, developedTask, ReworkStep, ReworkRequest]
  · simp [reviewed, ReworkStep, ReworkRequest, isTerminalReviewCycleState]

theorem feedback_sound_iff_rejected :
    FeedbackSound documentedPorts plainFollowUps arrivalOrder "task-1" rejectedTask <->
      LeavesNoOldIssues plainFollowUps arrivalOrder "task-1" rejectedTask :=
  feedback_sound_iff documentedPorts_documented plainFollowUps arrivalOrder "task-1"
    rejectedTask rejectedTask_steps

def approvedParams : ApplyReviewDecisionParams where
  packet := .ok
    { taskId := "task-1"
      reviewCycleId := "b0"
      decision := .approved
      summary := "fixed"
      blockingIssues := []
      nonBlockingSuggestions := []
      followUpTaskRefs := [] }
  taskId := "task-1"
  reviewCycleId := "b0"
  escalationPolicy := defaultEscalationPolicy
  maxReviewRounds := 2
  actor := reviewActor

theorem approvedParams_valid :
    forall packet, approvedParams.packet = .ok packet -> packet.Valid := by
  intro packet hpacket
  cases hpacket
  constructor
  · decide
  · decide
  · decide
  · intro issue hissue
    cases hissue
  · intro ref href
    cases href

def rework : List FactoryStep :=
  [ .review (.request (.transitionTask "task-1" .assigned { leaseAcquired := some true }
      reviewActor)),
    .review (.request (.transitionTask "task-1" .inDevelopment { hasHeartbeat := some true }
      reviewActor)),
    .review (.request (.transitionTask "task-1" .devComplete
      { hasDevResultPacket := some true, requiredValidationsPassed := some true }
      reviewActor)),
    .review (.dispatchReviewers 0 (sampleIds "b") reviewParams) ]

def mergingRework : List FactoryStep :=
  rejectedTask ++ rework ++ reviewed "b0" ++
    [ .review (.applyDecision (sampleIds "e") approvedParams),
      .enqueueForMerge 1000 "item-1"
        { taskId := "task-1", approvedCommitSha := some "a1", actor := systemActor },
      .dequeueNext 2000 { repositoryId := "repo-1", actor := systemActor },
      .loadMerge 1 mergeParams,
      .mergeTurn 1 .startRebase ]

def conflictedRework : List FactoryStep :=
  mergingRework ++ [.mergeTurn 1 (.settleConflict .reworkable 3000)]

theorem conflictedRework_steps :
    forall q, q ∈ conflictedRework -> ReworkStep "task-1" q := by
  have hdecision : ReworkStep "task-1"
      (.review (.applyDecision (sampleIds "e") approvedParams)) :=
    approvedParams_valid
  simp only [conflictedRework, mergingRework, List.forall_mem_append, List.forall_mem_cons]
  refine ⟨⟨⟨⟨rejectedTask_steps, ?_⟩, ?_⟩, hdecision, ?_⟩, ?_⟩
  · simp [rework, ReworkStep, ReworkRequest]
  · simp [reviewed, ReworkStep, ReworkRequest, isTerminalReviewCycleState]
  · simp [ReworkStep]
  · simp [ReworkStep]

/-- After the conflict the task is told the issues of its first review once more. -/
theorem stale_feedback_after_conflict :
    (forall q, q ∈ conflictedRework -> ReworkStep "task-1" q) ∧
      ¬ FeedbackSound documentedPorts plainFollowUps arrivalOrder "task-1"
        conflictedRework := by
  refine ⟨conflictedRework_steps, ?_⟩
  intro h
  let system := factory plainFollowUps arrivalOrder
  let r := (system.run Factory.start conflictedRework).shared
  have hconflict : SentBackByConflict plainFollowUps arrivalOrder "task-1"
      conflictedRework := by
    refine ⟨mergingRework, .mergeTurn 1 (.settleConflict .reworkable 3000),
      ⟨[], rfl, ?_⟩, ?_⟩
    · intro w hw
      rw [List.mem_singleton.mp hw]
      decide +kernel
    · decide +kernel
  have hbuilt : (buildRejectionContext documentedPorts { taskId := "task-1" } r).toOption.map
      (fun result => result.rejectionContext.priorReviewCycleId) = some "a0" := by
    decide +kernel
  have hlast : (lastCycle r "task-1").map ReviewCycle.status = some .approved := by
    decide +kernel
  have hrejected : (rejectedCycles r "task-1").map ReviewCycle.reviewCycleId = ["a0"] := by
    decide +kernel
  rcases Option.map_eq_some_iff.mp hbuilt with ⟨result, hresult, hprior⟩
  rcases Option.map_eq_some_iff.mp hlast with ⟨last, hfound, happroved⟩
  rcases List.mem_map.mp (hrejected ▸ List.mem_singleton_self "a0") with ⟨cycle, hcycle, hid⟩
  apply h.notStale hconflict result (toOption_eq_some.mp hresult)
  rw [hprior, ← hid]
  exact approvedSince_of_last hfound happroved hcycle

end Reviewing
end CopilotFactory
