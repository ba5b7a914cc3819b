import CopilotFactory.Reopening.AlikeRequests
import CopilotFactory.Reviewing.ReviewRequests

/-!
# Reviews of two alike databases

The review tables of two alike databases differ in the review cycles, packets and
decisions of an earlier life of a task.  The review services keep them alike, if they are
not asked about a review of the earlier life that is still open.
-/

namespace CopilotFactory
namespace Reopening

open Foundations
open Domain
open Infrastructure
open Application
open Reviewing

variable {reviewCycleId : ReviewCycleId} {idGenerator : Nat -> String}

/-- The reviews of the earlier life are in the one database only. -/
structure AlikeReviews (policies : FixedPolicies) (remains : Remains)
    (r q : ReviewTables) : Prop where
  store : AlikeStores policies remains r.store q.store
  jobs : r.jobs = q.jobs
  cycles : AlikeTables (fun reviewCycleId => reviewCycleId ∈ remains.cycles) Eq
    r.reviewCycles q.reviewCycles
  ended : forall cycle, cycle ∈ r.reviewCycles -> cycle.reviewCycleId ∈ remains.cycles ->
    cycle.reviewCycleId ∉ remains.openCycles ->
      isTerminalReviewCycleState cycle.status = true
  gone : forall cycle, cycle ∈ q.reviewCycles -> cycle.reviewCycleId ∉ remains.cycles
  packets : AlikeTables (fun reviewPacketId => reviewPacketId ∈ remains.packets) Eq
    r.reviewPackets q.reviewPackets
  decisions : AlikeTables (fun decisionId => decisionId ∈ remains.decisions) Eq
    r.leadReviewDecisions q.leadReviewDecisions

def AlikeReviewCommits (policies : FixedPolicies) (remains : Remains) {α : Type}
    (x y : ReviewTables × α) : Prop :=
  AlikeReviews policies remains x.1 y.1

variable {policies : FixedPolicies} {remains : Remains} {r q : ReviewTables}
  {task task' : Task}

namespace AlikeReviews

theorem withStore (h : AlikeReviews policies remains r q) {s t : Store}
    (hstore : AlikeStores policies remains s t) (hs : Dependencies.KeepsTasks r.store s)
    (ht : Dependencies.KeepsTasks q.store t) :
    AlikeReviews policies remains (r.withStore s hs) (q.withStore t ht) :=
  ⟨hstore, h.jobs, h.cycles, h.ended, h.gone, h.packets, h.decisions⟩

theorem withJobs (h : AlikeReviews policies remains r q) (jobs : JobTable) :
    AlikeReviews policies remains (r.withJobs jobs) (q.withJobs jobs) :=
  ⟨h.store, rfl, h.cycles, h.ended, h.gone, h.packets, h.decisions⟩

theorem appendAudit (h : AlikeReviews policies remains r q) (event event' : AuditEvent) :
    AlikeReviews policies remains (r.appendAudit event) (q.appendAudit event') :=
  h.withStore (h.store.appendAudit event event') _ _

theorem onStore (h : AlikeReviews policies remains r q)
    {call call' : Store -> Except ServiceError Store}
    {hcall : forall s, call r.store = .ok s -> Dependencies.KeepsTasks r.store s}
    {hcall' : forall s, call' q.store = .ok s -> Dependencies.KeepsTasks q.store s}
    (hstores : Lockstep (AlikeStores policies remains) (call r.store) (call' q.store)) :
    Lockstep (AlikeReviews policies remains) (r.onStore call hcall)
      (q.onStore call' hcall') := by
  unfold ReviewTables.onStore
  split
  · rename_i e he
    split
    · trivial
    · rename_i t ht
      rw [he, ht] at hstores
      exact hstores.elim
  · rename_i s hs
    split
    · rename_i e he
      rw [hs, he] at hstores
      exact hstores.elim
    · rename_i t ht
      rw [hs, ht] at hstores
      exact lockstep_ok (h.withStore hstores _ _)

theorem createTask (h : AlikeReviews policies remains r q) (task : Task) :
    Lockstep (AlikeReviews policies remains) (r.createTask task) (q.createTask task) :=
  h.onStore (h.store.createTask task)

theorem updateTask (h : AlikeReviews policies remains r q) {taskId : TaskId}
    {data data' : TaskUpdate} (hr : r.store.findTask taskId = some task)
    (hq : q.store.findTask taskId = some task')
    (hdata : SameTask policies (data.apply (task.version + 1) task)
      (data'.apply (task'.version + 1) task')) :
    Lockstep (AlikeReviews policies remains) (r.updateTask taskId task.version data)
      (q.updateTask taskId task'.version data') := by
  have hstores := h.store.updateTask hr hq hdata
  unfold ReviewTables.updateTask
  rw [Store.updateTask_of_find hr, Store.updateTask_of_find hq] at hstores ⊢
  exact lockstep_ok (h.withStore hstores _ _)

theorem findCycle_eq (h : AlikeReviews policies remains r q)
    (hnew : reviewCycleId ∉ remains.cycles) :
    r.findCycle reviewCycleId = q.findCycle reviewCycleId :=
  h.cycles.find?_eq hnew

theorem findCycle_old (h : AlikeReviews policies remains r q)
    (hold : reviewCycleId ∈ remains.cycles) (hnotOpen : reviewCycleId ∉ remains.openCycles) :
    (forall cycle, r.findCycle reviewCycleId = some cycle ->
      isTerminalReviewCycleState cycle.status = true) ∧
      q.findCycle reviewCycleId = none := by
  constructor
  · intro cycle hcycle
    have hid := Table.key_of_find? hcycle
    apply h.ended cycle (Table.mem_of_find? hcycle)
    · rw [hid]
      exact hold
    · rw [hid]
      exact hnotOpen
  · apply Table.find?_eq_none_iff.mpr
    intro cycle hcycle hid
    apply h.gone cycle hcycle
    rw [hid]
    exact hold

theorem refused (h : AlikeReviews policies remains r q) (hold : reviewCycleId ∈ remains.cycles)
    (hnotOpen : reviewCycleId ∉ remains.openCycles) {α : Type} {P : α -> α -> Prop}
    {call : ReviewTables -> Except ServiceError α}
    (hcall : forall r a, call r = .ok a -> exists cycle,
      r.findCycle reviewCycleId = some cycle ∧
        isTerminalReviewCycleState cycle.status = false) :
    Lockstep P (call r) (call q) := by
  rcases h.findCycle_old hold hnotOpen with ⟨hover, hgone⟩
  apply lockstep_of_refused
  · intro a hok
    rcases hcall r a hok with ⟨cycle, hcycle, hopen⟩
    rw [hover cycle hcycle] at hopen
    cases hopen
  · intro a hok
    rcases hcall q a hok with ⟨cycle, hcycle, _⟩
    rw [hgone] at hcycle
    cases hcycle

theorem createCycle (h : AlikeReviews policies remains r q) {cycle : ReviewCycle}
    (hnew : cycle.reviewCycleId ∉ remains.cycles) :
    Lockstep (AlikeReviews policies remains) (r.createCycle cycle)
      (q.createCycle cycle) := by
  unfold ReviewTables.createCycle
  apply lockstep_dite
  · rw [show r.reviewCycles.find? _ = _ from h.findCycle_eq hnew]
    rfl
  · intro hr hq
    apply lockstep_dite (h.store.task_isSome_iff cycle.taskId)
    · intro _ _
      refine lockstep_ok ⟨h.store, h.jobs, h.cycles.insert hr hq rfl rfl, ?_, ?_, h.packets,
        h.decisions⟩
      · intro c hc hold hnotOpen
        rcases (Table.mem_insert hr).mp hc with hc | hc
        · exact h.ended c hc hold hnotOpen
        · rw [hc] at hold
          exact absurd hold hnew
      · intro c hc
        rcases (Table.mem_insert hq).mp hc with hc | hc
        · exact h.gone c hc
        · rw [hc]
          exact hnew
    · intro _ _
      trivial
  · intro _ _
    trivial

theorem writeCycle (h : AlikeReviews policies remains r q)
    (hnew : reviewCycleId ∉ remains.cycles) (status : ReviewCycleStatus) :
    AlikeReviews policies remains (r.writeCycle reviewCycleId status)
      (q.writeCycle reviewCycleId status) where
  store := h.store
  jobs := h.jobs
  cycles := h.cycles.modify (ReviewTables.withStatus_reviewCycleId status)
    (ReviewTables.withStatus_reviewCycleId status)
    (fun _ _ _ _ heq => congrArg (ReviewTables.withStatus status) heq)
  ended := by
    intro c hc hold hnotOpen
    rcases ReviewTables.mem_writeCycle.mp hc with ⟨c₀, hc₀, heq⟩
    by_cases hid : c₀.reviewCycleId = reviewCycleId
    · rw [if_pos hid] at heq
      rw [heq, ReviewTables.withStatus_reviewCycleId, hid] at hold
      exact absurd hold hnew
    · rw [if_neg hid] at heq
      rw [heq] at hold hnotOpen ⊢
      exact h.ended c₀ hc₀ hold hnotOpen
  gone := by
    intro c hc
    rcases ReviewTables.mem_writeCycle.mp hc with ⟨c₀, hc₀, heq⟩
    by_cases hid : c₀.reviewCycleId = reviewCycleId
    · rw [if_pos hid] at heq
      rw [heq, ReviewTables.withStatus_reviewCycleId, hid]
      exact hnew
    · rw [if_neg hid] at heq
      rw [heq]
      exact h.gone c₀ hc₀
  packets := h.packets
  decisions := h.decisions

theorem updateCycleStatus (h : AlikeReviews policies remains r q)
    (hnew : reviewCycleId ∉ remains.cycles) (expectedStatus newStatus : ReviewCycleStatus) :
    Option.Rel (AlikeReviews policies remains)
      (r.updateCycleStatus reviewCycleId expectedStatus newStatus)
      (q.updateCycleStatus reviewCycleId expectedStatus newStatus) := by
  unfold ReviewTables.updateCycleStatus
  rw [h.findCycle_eq hnew]
  cases q.findCycle reviewCycleId with
  | none =>
      exact .none
  | some cycle =>
      dsimp only
      split
      · exact .some (h.writeCycle hnew newStatus)
      · exact .none

theorem createPacket (h : AlikeReviews policies remains r q) {packet : ReviewPacket}
    (hnew : packet.reviewPacketId ∉ remains.packets)
    (hcycle : packet.reviewCycleId ∉ remains.cycles) :
    Lockstep (AlikeReviews policies remains) (r.createPacket packet)
      (q.createPacket packet) := by
  unfold ReviewTables.createPacket
  refine (lockstep_ensure (h.store.task_isSome_iff packet.taskId)).bind ?_
  intro _ _ _
  refine (lockstep_ensure (by rw [h.findCycle_eq hcycle])).bind ?_
  intro _ _ _
  apply lockstep_dite
  · rw [h.packets.find?_eq hnew]
  · intro hr hq
    exact lockstep_ok ⟨h.store, h.jobs, h.cycles, h.ended, h.gone,
      h.packets.insert hr hq rfl rfl, h.decisions⟩
  · intro _ _
    trivial

theorem createDecision (h : AlikeReviews policies remains r q)
    (record : LeadReviewDecisionRecord)
    (hnew : record.leadReviewDecisionId ∉ remains.decisions)
    (hcycle : record.reviewCycleId ∉ remains.cycles) :
    Lockstep (AlikeReviews policies remains) (r.createDecision record)
      (q.createDecision record) := by
  unfold ReviewTables.createDecision
  refine (lockstep_ensure (h.store.task_isSome_iff record.taskId)).bind ?_
  intro _ _ _
  refine (lockstep_ensure (by rw [h.findCycle_eq hcycle])).bind ?_
  intro _ _ _
  apply lockstep_dite
  · rw [h.decisions.find?_eq hnew]
  · intro hr hq
    exact lockstep_ok ⟨h.store, h.jobs, h.cycles, h.ended, h.gone, h.packets,
      h.decisions.insert hr hq rfl rfl⟩
  · intro _ _
    trivial

end AlikeReviews

theorem lockstep_committedReview {α : Type} {x y : Except ServiceError (ReviewTables × α)}
    (h : Lockstep (AlikeReviewCommits policies remains) x y) :
    Lockstep (AlikeReviews policies remains) (committedReview x) (committedReview y) :=
  h.map (fun _ _ hcommits => hcommits)

/-!
## Cycles
-/

theorem lockstep_transitionReviewCycle (h : AlikeReviews policies remains r q)
    (hnotOpen : reviewCycleId ∉ remains.openCycles) (targetStatus : ReviewCycleStatus)
    (context : ReviewCycleTransitionContext) (actor : ActorInfo) :
    Lockstep (AlikeReviewCommits policies remains)
      (transitionReviewCycle reviewCycleId targetStatus context actor r)
      (transitionReviewCycle reviewCycleId targetStatus context actor q) := by
  by_cases hold : reviewCycleId ∈ remains.cycles
  · apply h.refused hold hnotOpen
    rintro r ⟨r', event⟩ hok
    rcases transitionReviewCycle_spec hok with ⟨cycle, hcycle, hvalid, _⟩
    exact ⟨cycle, hcycle, reviewCycle_not_terminal_of_validate hvalid⟩
  · unfold transitionReviewCycle
    refine (lockstep_orThrow (h.cycles reviewCycleId hold)).bind ?_
    rintro cycle _ ⟨_, _, rfl⟩
    refine (lockstep_commitTransition rfl).bind ?_
    intro _ _ _
    refine (lockstep_orThrow (h.updateCycleStatus hold cycle.status targetStatus)).bind ?_
    rintro r₁ q₁ ⟨_, _, h₁⟩
    exact lockstep_pure (h₁.appendAudit _ _)

theorem lockstep_assembleLeadReviewContext (h : AlikeReviews policies remains r q)
    {params : AssembleLeadReviewContextParams}
    (hnotOpen : params.reviewCycleId ∉ remains.openCycles) :
    Lockstep (AlikeReviewCommits policies remains) (assembleLeadReviewContext params r)
      (assembleLeadReviewContext params q) := by
  by_cases hold : params.reviewCycleId ∈ remains.cycles
  · apply h.refused hold hnotOpen
    rintro r ⟨r', result⟩ hok
    rcases assembleLeadReviewContext_spec hok with ⟨cycle, hconsolidated⟩
    exact ⟨cycle, hconsolidated.found, hconsolidated.notOver⟩
  · unfold assembleLeadReviewContext
    refine (lockstep_orThrow (h.store.findTask_rel params.taskId)).bind ?_
    intro _ _ _
    refine (lockstep_orThrow (h.cycles params.reviewCycleId hold)).bind ?_
    rintro cycle _ ⟨_, _, rfl⟩
    refine (lockstep_ensure Iff.rfl).bind ?_
    intro _ _ _
    refine (lockstep_self (orThrow (getConsolidationSourceStatus cycle) _)).bind ?_
    rintro sourceStatus _ rfl
    rw [h.jobs]
    refine (lockstep_ensure Iff.rfl).bind ?_
    intro _ _ _
    refine (lockstep_commitTransition rfl).bind ?_
    intro _ _ _
    refine (lockstep_orThrow (h.updateCycleStatus hold sourceStatus .consolidating)).bind ?_
    rintro r₁ q₁ ⟨_, _, h₁⟩
    exact lockstep_pure (h₁.appendAudit _ _)

/-!
## Dispatch
-/

theorem lockstep_dispatchReviewers (h : AlikeReviews policies remains r q) (now : Millis)
    (hnew : idGenerator 0 ∉ remains.cycles) (params : DispatchReviewersParams) :
    Lockstep (AlikeReviewCommits policies remains)
      (dispatchReviewers now idGenerator params r)
      (dispatchReviewers now idGenerator params q) := by
  unfold dispatchReviewers
  refine (lockstep_orThrow (h.store.findTask_rel params.taskId)).bind ?_
  rintro task task' ⟨hr, hq, hsame⟩
  refine (lockstep_ensure (by rw [hsame.status])).bind ?_
  intro _ _ _
  refine (lockstep_commitTransition (by rw [hsame.status])).bind ?_
  intro _ _ _
  refine (h.createCycle hnew).told.bind ?_
  rintro r₁ q₁ ⟨hr₁, hq₁, h₁⟩
  refine (lockstep_commitTransition rfl).bind ?_
  intro _ _ _
  refine (lockstep_orThrow (h₁.updateCycleStatus hnew _ _)).bind ?_
  rintro r₂ q₂ ⟨hr₂, hq₂, h₂⟩
  have hfind : r₂.store.findTask params.taskId = some task := by
    rcases ReviewTables.updateCycleStatus_eq_some.mp hr₂ with ⟨_, _, _, heq⟩
    rw [heq, ReviewTables.writeCycle_store, (ReviewTables.createCycle_spec hr₁).2.1]
    exact hr
  have hfind' : q₂.store.findTask params.taskId = some task' := by
    rcases ReviewTables.updateCycleStatus_eq_some.mp hq₂ with ⟨_, _, _, heq⟩
    rw [heq, ReviewTables.writeCycle_store, (ReviewTables.createCycle_spec hq₁).2.1]
    exact hq
  rw [h₂.jobs]
  refine (lockstep_self (createJobs now _ q₂.jobs)).bind ?_
  rintro jobs₁ _ rfl
  refine (lockstep_self (createJob now _ _ jobs₁)).bind ?_
  rintro ⟨jobs₂, lead⟩ _ rfl
  refine ((h₂.withJobs jobs₂).updateTask hfind hfind' (hsame.apply_uncounted rfl rfl)).bind ?_
  intro r₃ q₃ h₃
  exact lockstep_pure ((h₃.appendAudit _ _).appendAudit _ _)

/-!
## Decisions
-/

theorem evaluatePolicyEscalation_same (h : SameTask policies task task')
    {params : ApplyReviewDecisionParams}
    (hlimit : params.maxReviewRounds = policies.maxReviewRounds)
    (decision : LeadReviewDecision) :
    evaluatePolicyEscalation params task decision =
      evaluatePolicyEscalation params task' decision := by
  apply Bool.eq_iff_iff.mpr
  rw [evaluatePolicyEscalation_iff, evaluatePolicyEscalation_iff, hlimit]
  rcases h.counters.rounds with hequal | hone
  · rw [hequal]
  · have hreached : forall n, policies.maxReviewRounds ≤ n + 1 :=
      fun n => Nat.le_trans hone (Nat.le_add_left 1 n)
    simp only [hreached]

def countUpdate (task : Task) : TaskUpdate where
  reviewRoundCount := some (task.reviewRoundCount + 1)

def roundCounted (task : Task) : Task :=
  (countUpdate task).apply (task.version + 1) task

theorem SameTask.countRound (h : SameTask policies task task') :
    SameTask policies (roundCounted task) (roundCounted task') := by
  have hcolumns : uncountedUpdate (countUpdate task) = uncountedUpdate (countUpdate task') :=
    rfl
  apply h.apply hcolumns
  constructor
  · exact h.counters.retries
  · exact h.counters.rounds.imp_left (congrArg (· + 1))

theorem findTask_of_updateTask {taskId : TaskId} {data : TaskUpdate} {r₁ : ReviewTables}
    (hr : r.store.findTask taskId = some task)
    (hupdate : (r.updateTask taskId task.version data).toOption = some r₁) :
    r₁.store.findTask taskId = some (data.apply (task.version + 1) task) := by
  rcases ReviewTables.updateTask_eq_ok.mp (toOption_eq_some.mp hupdate) with ⟨_, _, _, hr₁⟩
  rw [hr₁, ReviewTables.writeTask_store, Store.findTask_writeTask_self, hr]
  rfl

theorem lockstep_moveReviewedTask (h : AlikeReviews policies remains r q)
    {params : ApplyReviewDecisionParams} (hr : r.store.findTask params.taskId = some task)
    (hq : q.store.findTask params.taskId = some task') (hsame : SameTask policies task task')
    (countsRound : Bool) (target : TaskStatus) :
    Lockstep (AlikeReviewCommits policies remains)
      (moveReviewedTask params task countsRound target r)
      (moveReviewedTask params task' countsRound target q) := by
  unfold moveReviewedTask
  apply lockstep_ite Iff.rfl
  · intro _ _
    have hcounted := hsame.countRound
    refine (lockstep_orThrow (h.updateTask hr hq hcounted).toOption).bind ?_
    rintro r₁ q₁ ⟨hr₁, hq₁, h₁⟩
    have hfind := findTask_of_updateTask hr hr₁
    have hfind' := findTask_of_updateTask hq hq₁
    have hmove : SameTask policies
        (TaskUpdate.apply { status := some target } (task.version + 2) (roundCounted task))
        (TaskUpdate.apply { status := some target } (task'.version + 2)
          (roundCounted task')) :=
      hcounted.apply_uncounted rfl rfl
    refine (lockstep_orThrow (h₁.updateTask hfind hfind' hmove).toOption).bind ?_
    rintro r₂ q₂ ⟨_, _, h₂⟩
    exact lockstep_pure h₂
  · intro _ _
    have hmove : SameTask policies
        (TaskUpdate.apply { status := some target } (task.version + 1) task)
        (TaskUpdate.apply { status := some target } (task'.version + 1) task') :=
      hsame.apply_uncounted rfl rfl
    refine (lockstep_orThrow (h.updateTask hr hq hmove).toOption).bind ?_
    rintro r₁ q₁ ⟨_, _, h₁⟩
    exact lockstep_pure h₁

theorem lockstep_applyDecisionInTransaction (port : FollowUpTaskPort)
    (h : AlikeReviews policies remains r q) (hnew : idGenerator 0 ∉ remains.decisions)
    {params : ApplyReviewDecisionParams}
    (hlimit : params.maxReviewRounds = policies.maxReviewRounds)
    (hcycle : params.reviewCycleId ∉ remains.cycles) (packet : LeadReviewDecisionPacket) :
    Lockstep (AlikeReviewCommits policies remains)
      (applyDecisionInTransaction port idGenerator params packet r)
      (applyDecisionInTransaction port idGenerator params packet q) := by
  unfold applyDecisionInTransaction
  refine (lockstep_orThrow (h.store.findTask_rel params.taskId)).bind ?_
  rintro task task' ⟨hr, hq, hsame⟩
  refine (lockstep_ensure (by rw [hsame.status])).bind ?_
  intro _ _ _
  refine (lockstep_orThrow (h.cycles params.reviewCycleId hcycle)).bind ?_
  rintro cycle _ ⟨_, _, rfl⟩
  refine (lockstep_ensure Iff.rfl).bind ?_
  intro _ _ _
  refine (lockstep_ensure Iff.rfl).bind ?_
  intro _ _ _
  refine (lockstep_ensure (by rw [hsame.currentReviewCycleId])).bind ?_
  intro _ _ _
  refine (lockstep_ensure Iff.rfl).bind ?_
  intro _ _ _
  refine (lockstep_ensure Iff.rfl).bind ?_
  intro _ _ _
  rw [evaluatePolicyEscalation_same hsame hlimit packet.decision]
  refine (lockstep_commitTransition rfl).bind ?_
  intro _ _ _
  refine (lockstep_commitTransition rfl).bind ?_
  intro _ _ _
  refine (h.createDecision (decisionRecord (idGenerator 0) params packet) hnew
    hcycle).told.bind ?_
  rintro r₁ q₁ ⟨hr₁, hq₁, h₁⟩
  refine (lockstep_orThrow (h₁.updateCycleStatus hcycle _ _)).bind ?_
  rintro r₂ q₂ ⟨hr₂, hq₂, h₂⟩
  have hfind : r₂.store.findTask params.taskId = some task := by
    rcases ReviewTables.updateCycleStatus_eq_some.mp hr₂ with ⟨_, _, _, heq⟩
    rw [heq, ReviewTables.writeCycle_store, (ReviewTables.createDecision_spec hr₁).1]
    exact hr
  have hfind' : q₂.store.findTask params.taskId = some task' := by
    rcases ReviewTables.updateCycleStatus_eq_some.mp hq₂ with ⟨_, _, _, heq⟩
    rw [heq, ReviewTables.writeCycle_store, (ReviewTables.createDecision_spec hq₁).1]
    exact hq
  refine (lockstep_moveReviewedTask h₂ hfind hfind' hsame _ _).bind ?_
  rintro ⟨r₃, moved⟩ ⟨q₃, moved'⟩ h₃
  have hfollowUps := lockstep_foldlM
    (fun _ _ data (hrel : AlikeReviews policies remains _ _) =>
      hrel.createTask (port.skeleton data))
    (followUpTasks idGenerator params.taskId packet) h₃
  refine hfollowUps.bind ?_
  intro r₄ q₄ h₄
  exact lockstep_pure ((h₄.appendAudit _ _).appendAudit _ _)

theorem lockstep_applyDecision (port : FollowUpTaskPort) (h : AlikeReviews policies remains r q)
    (hnew : idGenerator 0 ∉ remains.decisions) {params : ApplyReviewDecisionParams}
    (hlimit : params.maxReviewRounds = policies.maxReviewRounds)
    (hnotOpen : params.reviewCycleId ∉ remains.openCycles) :
    Lockstep (AlikeReviewCommits policies remains) (applyDecision port idGenerator params r)
      (applyDecision port idGenerator params q) := by
  by_cases hold : params.reviewCycleId ∈ remains.cycles
  · apply h.refused hold hnotOpen
    rintro r ⟨r', result⟩ hok
    rcases applyDecision_spec hok with ⟨packet, task, cycle, hdecided⟩
    exact ⟨cycle, hdecided.foundCycle, hdecided.notOver⟩
  · unfold applyDecision
    refine (lockstep_self (validatePacket params.packet)).bind ?_
    rintro packet _ rfl
    exact lockstep_applyDecisionInTransaction port h hnew hlimit hold packet

/-!
## All requests
-/

/-- A request that is made alike of both tasks: the policies are the fixed ones, the ids
of its rows are new, and it asks nothing of an open review of the earlier life. -/
def AlikeReviewRequest (policies : FixedPolicies) (remains : Remains) :
    ReviewRequest -> Prop
  | .dispatchReviewers _ idGenerator _ => idGenerator 0 ∉ remains.cycles
  | .assembleLeadReviewContext params => params.reviewCycleId ∉ remains.openCycles
  | .applyDecision idGenerator params =>
      idGenerator 0 ∉ remains.decisions ∧
        params.maxReviewRounds = policies.maxReviewRounds ∧
        params.reviewCycleId ∉ remains.openCycles
  | .transitionReviewCycle reviewCycleId _ _ _ => reviewCycleId ∉ remains.openCycles
  | .createPacket packet =>
      packet.reviewPacketId ∉ remains.packets ∧ packet.reviewCycleId ∉ remains.cycles
  | .job _ => True
  | .request request => AlikeRequest policies remains request

theorem lockstep_performReview (port : FollowUpTaskPort)
    (h : AlikeReviews policies remains r q) {request : ReviewRequest}
    (hrequest : AlikeReviewRequest policies remains request) :
    Lockstep (AlikeReviews policies remains) (performReview port r request)
      (performReview port q request) := by
  cases request with
  | dispatchReviewers now idGenerator params =>
      exact lockstep_committedReview (lockstep_dispatchReviewers h now hrequest params)
  | assembleLeadReviewContext params =>
      exact lockstep_committedReview (lockstep_assembleLeadReviewContext h hrequest)
  | applyDecision idGenerator params =>
      rcases hrequest with ⟨hnew, hlimit, hnotOpen⟩
      exact lockstep_committedReview (lockstep_applyDecision port h hnew hlimit hnotOpen)
  | transitionReviewCycle reviewCycleId targetStatus context actor =>
      exact lockstep_committedReview
        (lockstep_transitionReviewCycle h hrequest targetStatus context actor)
  | createPacket packet =>
      exact h.createPacket hrequest.1 hrequest.2
  | job request =>
      unfold performReview
      rw [h.jobs]
      refine (lockstep_self (Scheduling.jobQueue.step q.jobs request)).map ?_
      rintro jobs _ rfl
      exact h.withJobs jobs
  | request request =>
      unfold performReview
      apply h.onStore
      exact lockstep_perform h.store hrequest

end Reopening
end CopilotFactory
