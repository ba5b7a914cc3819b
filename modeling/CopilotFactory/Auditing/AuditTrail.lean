import CopilotFactory.Auditing.RecordedServices
import CopilotFactory.Foundations.Instances
import CopilotFactory.Merging.MergeQueue

/-!
# The audit trail of a task

The services of the control plane, of the reviews and of the merges run on one database,
one transaction at a time.  Any number of merges are under way, and each remembers the
task that it has read or written last.
-/

namespace CopilotFactory
namespace Auditing

open Foundations
open Domain
open Infrastructure
open Application
open ControlPlane
open Dependencies
open Reviewing
open Merging

/-!
## Merges under way
-/

variable {progress : MergeProgress} {queries : QueueQueries} {port : FollowUpTaskPort}

inductive MergePhase where
  | idle
  | loaded (params : ExecuteMergeParams) (task : Task)
  | rebasing (params : ExecuteMergeParams) (progress : MergeProgress)
  | validating (params : ExecuteMergeParams) (progress : MergeProgress)
  | merging (params : ExecuteMergeParams) (progress : MergeProgress)

/-- Which transaction comes next, as the awaited operations turn out. -/
inductive MergeTurn where
  | startRebase
  | settleConflict (classification : ConflictClassification) (completedAt : Millis)
  | startValidation
  | failValidation (completedAt : Millis)
  | startPush
  | failPush (completedAt : Millis)
  | finishMerge (completedAt : Millis)

structure MergePlan where
  params : ExecuteMergeParams
  step : MergeStep
  next : MergeProgress -> MergePhase

def MergePhase.plan : MergePhase -> MergeTurn -> Option MergePlan
  | .loaded params task, .startRebase =>
      some ⟨params, .startRebase task, .rebasing params⟩
  | .rebasing params progress, .settleConflict classification completedAt =>
      some ⟨params, .settleConflict classification completedAt progress, fun _ => .idle⟩
  | .rebasing params progress, .startValidation =>
      some ⟨params, .startValidation progress, .validating params⟩
  | .validating params progress, .failValidation completedAt =>
      some ⟨params, .failValidation completedAt progress, fun _ => .idle⟩
  | .validating params progress, .startPush =>
      some ⟨params, .startPush progress, .merging params⟩
  | .merging params progress, .failPush completedAt =>
      some ⟨params, .failPush completedAt progress, fun _ => .idle⟩
  | .merging params progress, .finishMerge completedAt =>
      some ⟨params, .finishMerge completedAt progress, fun _ => .idle⟩
  | _, _ => none

/-- The transactions that a merge can have planned, one case for each. -/
@[elab_as_elim]
theorem MergePhase.plan_cases
    {motive : forall (phase : MergePhase) (turn : MergeTurn) (plan : MergePlan),
      phase.plan turn = some plan -> Prop}
    (startRebase : forall params task,
      motive (.loaded params task) .startRebase
        ⟨params, .startRebase task, .rebasing params⟩ rfl)
    (settleConflict : forall params remembered classification completedAt,
      motive (.rebasing params remembered) (.settleConflict classification completedAt)
        ⟨params, .settleConflict classification completedAt remembered, fun _ => .idle⟩ rfl)
    (startValidation : forall params remembered,
      motive (.rebasing params remembered) .startValidation
        ⟨params, .startValidation remembered, .validating params⟩ rfl)
    (failValidation : forall params remembered completedAt,
      motive (.validating params remembered) (.failValidation completedAt)
        ⟨params, .failValidation completedAt remembered, fun _ => .idle⟩ rfl)
    (startPush : forall params remembered,
      motive (.validating params remembered) .startPush
        ⟨params, .startPush remembered, .merging params⟩ rfl)
    (failPush : forall params remembered completedAt,
      motive (.merging params remembered) (.failPush completedAt)
        ⟨params, .failPush completedAt remembered, fun _ => .idle⟩ rfl)
    (finishMerge : forall params remembered completedAt,
      motive (.merging params remembered) (.finishMerge completedAt)
        ⟨params, .finishMerge completedAt remembered, fun _ => .idle⟩ rfl)
    {phase : MergePhase} {turn : MergeTurn} {plan : MergePlan}
    (h : phase.plan turn = some plan) :
    motive phase turn plan h := by
  cases phase with
  | idle =>
      cases h
  | loaded params task =>
      cases turn <;> cases h
      exact startRebase params task
  | rebasing params remembered =>
      cases turn <;> cases h
      · exact settleConflict params remembered _ _
      · exact startValidation params remembered
  | validating params remembered =>
      cases turn <;> cases h
      · exact failValidation params remembered _
      · exact startPush params remembered
  | merging params remembered =>
      cases turn <;> cases h
      · exact failPush params remembered _
      · exact finishMerge params remembered _

theorem taskEffect_of_moveItem {params : ExecuteMergeParams} {move : ItemMove}
    {moved : MergeProgress} {s s' : Store}
    (h : moveItem params move progress s = .ok (s', moved)) :
    TaskEffect s s' ∧ moved.task = progress.task := by
  rcases moveItem_eq_ok.mp h with ⟨_, _, _, hs', hmoved⟩
  rw [hs', hmoved]
  exact ⟨.unchanged rfl, rfl⟩

theorem taskEffect_of_moveItemAndTask {params : ExecuteMergeParams} {move : ItemMove}
    {taskMove : TaskMove} {taskId : TaskId}
    {expectedVersion : Store -> Except ServiceError Nat} {auditEvents : List AuditEvent}
    {moved : MergeProgress} {s s' : Store}
    (h : moveItemAndTask params move taskMove taskId expectedVersion auditEvents s =
      .ok (s', moved)) :
    TaskEffect s s' := by
  rcases moveItemAndTask_eq_ok.mp h with ⟨_, task, _, _, hfind, _, hs', _⟩
  apply TaskEffect.written taskId task taskMove.update hfind
  rw [hs']
  rfl

theorem taskEffect_of_mergeStep {params : ExecuteMergeParams} {step : MergeStep}
    {moved : MergeProgress} {s s' : Store} (h : step.perform params s = .ok (s', moved)) :
    TaskEffect s s' := by
  cases step with
  | startRebase task =>
      unfold MergeStep.perform startRebase at h
      exact taskEffect_of_moveItemAndTask h
  | settleConflict classification completedAt progress =>
      unfold MergeStep.perform settleConflict at h
      exact taskEffect_of_moveItemAndTask h
  | startValidation progress =>
      exact (taskEffect_of_moveItem h).1
  | failValidation completedAt progress =>
      exact (taskEffect_of_moveItem h).1
  | startPush progress =>
      exact (taskEffect_of_moveItem h).1
  | failPush completedAt progress =>
      exact (taskEffect_of_moveItem h).1
  | finishMerge completedAt progress =>
      unfold MergeStep.perform finishMerge at h
      exact taskEffect_of_moveItemAndTask h

theorem taskEffect_of_enqueue {now : Millis} {itemId : MergeQueueItemId}
    {params : EnqueueForMergeParams} {s s' : Store} {result : EnqueueForMergeResult}
    (h : enqueueForMerge queries now itemId params s = .ok (s', result)) : TaskEffect s s' := by
  rcases enqueueForMerge_spec h with ⟨task, _, hfind, _, _, _, _, htasks⟩
  exact .written params.taskId task _ hfind htasks

theorem taskEffect_of_dequeue {now : Millis} {params : DequeueNextParams} {s s' : Store}
    {result : Option DequeueNextResult}
    (h : dequeueNext queries now params s = .ok (s', result)) : TaskEffect s s' :=
  .unchanged (dequeueNext_tasks h)

/-!
## The factory as a transition system
-/

abbrev Factory := Instances ReviewTables MergePhase

def Factory.start : Factory where
  shared := ReviewTables.empty
  phase := fun _ => .idle

inductive FactoryStep where
  | review (request : ReviewRequest)
  | enqueueForMerge (now : Millis) (itemId : MergeQueueItemId)
      (params : EnqueueForMergeParams)
  | dequeueNext (now : Millis) (params : DequeueNextParams)
  | loadMerge (pid : InstanceId) (params : ExecuteMergeParams)
  | mergeTurn (pid : InstanceId) (turn : MergeTurn)
  | endMerge (pid : InstanceId)

def takeTurn (w : Factory) (pid : InstanceId) (turn : MergeTurn) :
    Except ServiceError Factory :=
  match (w.phase pid).plan turn with
  | none => .ok w
  | some plan =>
      match h : plan.step.perform plan.params w.shared.store with
      | .error e => .error e
      | .ok (s', progress) =>
          .ok (w.advance pid
            (w.shared.withStore s' (taskEffect_of_mergeStep h).keeps)
            (plan.next progress))

/-- A merge that throws, in a transaction or in between, can end in any phase. -/
def stepFactory (port : FollowUpTaskPort) (queries : QueueQueries) (w : Factory) :
    FactoryStep -> Except ServiceError Factory
  | .review request => do
      let r ← performReview port w.shared request
      pure { w with shared := r }
  | .enqueueForMerge now itemId params => do
      let r ← w.shared.onStore
        (fun s => committed (enqueueForMerge queries now itemId params s))
        (fun _ h => (taskEffect_of_enqueue (committed_eq_ok.mp h).choose_spec).keeps)
      pure { w with shared := r }
  | .dequeueNext now params => do
      let r ← w.shared.onStore (fun s => committed (dequeueNext queries now params s))
        (fun _ h => (taskEffect_of_dequeue (committed_eq_ok.mp h).choose_spec).keeps)
      pure { w with shared := r }
  | .loadMerge pid params => do
      let (_, (_, task)) ← loadMerge params.mergeQueueItemId w.shared.store
      pure (w.advance pid w.shared (.loaded params task))
  | .mergeTurn pid turn => takeTurn w pid turn
  | .endMerge pid => .ok (w.advance pid w.shared .idle)

def factory (port : FollowUpTaskPort) (queries : QueueQueries) :
    TransitionSystem Factory FactoryStep ServiceError where
  step := stepFactory port queries

def FactoryStep.entity : FactoryStep -> String
  | .review request => reviewedEntity request
  | _ => "task"

/-- A merge that finishes finds its task MERGING: nobody has moved it on meanwhile. -/
def FinishesMerging (w : Factory) : FactoryStep -> Prop
  | .mergeTurn pid turn =>
      match (w.phase pid).plan turn with
      | some ⟨_, .finishMerge _ progress, _⟩ =>
          (w.shared.store.findTask progress.task.taskId).all
            (fun task => task.status = .merging) = true
      | _ => True
  | _ => True

instance (w : Factory) : DecidablePred (FinishesMerging w) := by
  intro q
  unfold FinishesMerging
  split
  · split <;> infer_instance
  · infer_instance

variable {w w' : Factory}

theorem queueCall_eq_ok {α : Type} {call : Store -> Except ServiceError (Store × α)}
    {hcall : forall s', committed (call w.shared.store) = .ok s' -> KeepsTasks w.shared.store s'}
    (h : (do
      let r ← w.shared.onStore (fun s => committed (call s)) hcall
      pure { w with shared := r }) = .ok w') :
    exists r result, call w.shared.store = .ok (r.store, result) ∧
      w' = { w with shared := r } := by
  rcases bind_eq_ok.mp h with ⟨r, honStore, h⟩
  cases h
  rcases ReviewTables.onStore_eq_ok.mp honStore with ⟨s', _, hcommitted, hr⟩
  rcases committed_eq_ok.mp hcommitted with ⟨result, hresult⟩
  rw [hr]
  exact ⟨_, result, hresult, rfl⟩

variable {turn : MergeTurn}

theorem takeTurn_eq_ok {pid : InstanceId} (h : takeTurn w pid turn = .ok w') :
    w' = w ∨ exists plan progress s' hs', (w.phase pid).plan turn = some plan ∧
      plan.step.perform plan.params w.shared.store = .ok (s', progress) ∧
      w' = w.advance pid (w.shared.withStore s' hs') (plan.next progress) := by
  unfold takeTurn at h
  split at h
  · cases h
    exact Or.inl rfl
  · rename_i plan hplan
    split at h
    · cases h
    · rename_i s' progress hperform
      cases h
      exact Or.inr ⟨plan, progress, s', _, hplan, hperform, rfl⟩

/-!
## What a merge remembers
-/

/-- The task that a merge has loaded was QUEUED_FOR_MERGE; the task that it works on was
MERGING. -/
def Remembers (s : Store) : MergePhase -> Prop
  | .idle => True
  | .loaded _ task => ReadBefore task s ∧ task.status = .queuedForMerge
  | .rebasing _ progress => ReadBefore progress.task s ∧ progress.task.status = .merging
  | .validating _ progress => ReadBefore progress.task s ∧ progress.task.status = .merging
  | .merging _ progress => ReadBefore progress.task s ∧ progress.task.status = .merging

variable {phase : MergePhase}

theorem Remembers.advance {s s' : Store} (h : Remembers s phase)
    (hadvances : AdvancesTasks s s') : Remembers s' phase := by
  cases phase with
  | idle =>
      trivial
  | loaded params task =>
      exact ⟨h.1.advance hadvances, h.2⟩
  | rebasing params progress =>
      exact ⟨h.1.advance hadvances, h.2⟩
  | validating params progress =>
      exact ⟨h.1.advance hadvances, h.2⟩
  | merging params progress =>
      exact ⟨h.1.advance hadvances, h.2⟩

section Moves

variable {params : ExecuteMergeParams} {move : ItemMove} {taskMove : TaskMove}
  {auditEvents : List AuditEvent} {moved : MergeProgress} {s s' : Store}

theorem source_of_remembered {remembered : Task} (hread : ReadBefore remembered s)
    (hsource : remembered.status = taskMove.source)
    (h : moveItemAndTask params move taskMove remembered.taskId
      (fun _ => .ok remembered.version) auditEvents s = .ok (s', moved)) :
    forall task, s.findTask remembered.taskId = some task ->
      task.status = taskMove.source := by
  rcases moveItemAndTask_eq_ok.mp h with ⟨_, stored, _, _, hstored, hversion, _, _⟩
  intro task htask
  rw [hstored] at htask
  cases htask
  have hsame : stored = remembered := hread.find hstored (Except.ok.inj hversion).symm
  rw [hsame]
  exact hsource

theorem remembers_moved {taskId : TaskId}
    {expectedVersion : Store -> Except ServiceError Nat}
    (h : moveItemAndTask params move taskMove taskId expectedVersion auditEvents s =
      .ok (s', moved)) :
    ReadBefore moved.task s' ∧ moved.task.status = taskMove.target := by
  rcases moveItemAndTask_eq_ok.mp h with ⟨_, task, _, _, hfind, _, hs', hmoved⟩
  have hstored : s'.findTask taskId = some moved.task := by
    rw [hs', hmoved, Store.appendAudit_findTask, Store.appendAudit_findTask,
      Store.findTask_writeTask_self, Store.writeItem_findTask, hfind]
    rfl
  refine ⟨readBefore_of_find hstored, ?_⟩
  rw [hmoved]
  rfl

end Moves

/-- After each of its turns a merge remembers the task as it is stored then. -/
theorem plan_remembers {plan : MergePlan} {s s' : Store} (hplan : phase.plan turn = some plan)
    (h : plan.step.perform plan.params s = .ok (s', progress)) (hphase : Remembers s phase) :
    Remembers s' (plan.next progress) := by
  have hlater := hphase.advance (taskEffect_of_mergeStep h).advancesTasks
  cases hplan using MergePhase.plan_cases with
  | startRebase params task =>
      unfold MergeStep.perform startRebase at h
      exact remembers_moved h
  | startValidation params remembered | startPush params remembered =>
      show ReadBefore progress.task s' ∧ progress.task.status = .merging
      rw [(taskEffect_of_moveItem h).2]
      exact hlater
  | settleConflict | failValidation | failPush | finishMerge =>
      trivial

theorem plan_records {plan : MergePlan} {s s' : Store} (hplan : phase.plan turn = some plan)
    (h : plan.step.perform plan.params s = .ok (s', progress)) (hphase : Remembers s phase)
    (hfinish : forall completedAt remembered,
      plan.step = .finishMerge completedAt remembered ->
      (s.findTask remembered.task.taskId).all (fun task => task.status = .merging) = true) :
    exists events, RecordsChanges "task" events s s' := by
  cases hplan using MergePhase.plan_cases with
  | startRebase params task =>
      unfold MergeStep.perform startRebase at h
      exact moveItemAndTask_records h (source_of_remembered hphase.1 hphase.2 h)
  | settleConflict params remembered classification completedAt =>
      unfold MergeStep.perform settleConflict at h
      exact moveItemAndTask_records h (source_of_remembered hphase.1 hphase.2 h)
  | startValidation | failValidation | startPush | failPush =>
      exact moveItem_records h
  | finishMerge params remembered completedAt =>
      -- The stored version is read again, so nothing is known of the stored status.
      have hmerging := hfinish _ _ rfl
      unfold MergeStep.perform finishMerge at h
      apply moveItemAndTask_records h
      intro task htask
      rw [htask, Option.all_some, decide_eq_true_eq] at hmerging
      exact hmerging

/-!
## Every step
-/

def RemembersTasks (w : Factory) : Prop :=
  forall pid, Remembers w.shared.store (w.phase pid)

theorem RemembersTasks.shared (h : RemembersTasks w) {r : ReviewTables}
    (hadvances : AdvancesTasks w.shared.store r.store) : RemembersTasks { w with shared := r } :=
  fun pid => (h pid).advance hadvances

theorem RemembersTasks.moved (h : RemembersTasks w) {pid : InstanceId} {r : ReviewTables}
    (hadvances : AdvancesTasks w.shared.store r.store) (hphase : Remembers r.store phase) :
    RemembersTasks (w.advance pid r phase) :=
  Instances.forall_advance_phase r (fun other => (h other).advance hadvances) hphase

variable {q : FactoryStep}

/-- A step records what it changes, unless a merge finishes on a task that was moved. -/
theorem step_records (hw : RemembersTasks w) (hq : FinishesMerging w q)
    (h : (factory port queries).step w q = .ok w') :
    exists events, RecordsChanges q.entity events w.shared.store w'.shared.store := by
  cases q with
  | review request =>
      rcases bind_eq_ok.mp h with ⟨r, hperform, h⟩
      cases h
      exact performReview_records hperform
  | enqueueForMerge now itemId params =>
      rcases queueCall_eq_ok h with ⟨r, result, henqueue, hw'⟩
      rw [hw']
      exact enqueueForMerge_records henqueue
  | dequeueNext now params =>
      rcases queueCall_eq_ok h with ⟨r, result, hdequeue, hw'⟩
      rw [hw']
      exact dequeueNext_records hdequeue
  | loadMerge pid params =>
      rcases bind_eq_ok.mp h with ⟨_, _, h⟩
      cases h
      exact ⟨[], recordsChanges_refl _ _⟩
  | mergeTurn pid turn =>
      rcases takeTurn_eq_ok h with hsame | ⟨plan, progress, s', hs', hplan, hperform, hw'⟩
      · rw [hsame]
        exact ⟨[], recordsChanges_refl _ _⟩
      · have hfinish : forall completedAt remembered,
            plan.step = .finishMerge completedAt remembered ->
            (w.shared.store.findTask remembered.task.taskId).all
              (fun task => task.status = .merging) = true := by
          intro completedAt remembered hstep
          rcases plan with ⟨params, step, next⟩
          cases hstep
          simp only [FinishesMerging, hplan] at hq
          exact hq
        rw [hw']
        exact plan_records hplan hperform (hw pid) hfinish
  | endMerge pid =>
      cases h
      exact ⟨[], recordsChanges_refl _ _⟩

theorem advancesTasks_of_step (hw : RemembersTasks w)
    (h : (factory port queries).step w q = .ok w') :
    AdvancesTasks w.shared.store w'.shared.store := by
  cases q with
  | mergeTurn pid turn =>
      rcases takeTurn_eq_ok h with hsame | ⟨plan, progress, s', hs', _, hperform, hw'⟩
      · rw [hsame]
        exact advancesTasks_of_tasks_eq rfl
      · rw [hw']
        exact (taskEffect_of_mergeStep hperform).advancesTasks
  | _ =>
      rcases step_records hw (by exact trivial) h with ⟨_, hrecords⟩
      exact hrecords.tasks

theorem remembersTasks_of_step (hw : RemembersTasks w)
    (h : (factory port queries).step w q = .ok w') : RemembersTasks w' := by
  have hadvances := advancesTasks_of_step hw h
  cases q with
  | review _ | enqueueForMerge _ _ _ | dequeueNext _ _ =>
      rcases bind_eq_ok.mp h with ⟨r, _, h⟩
      cases h
      exact hw.shared hadvances
  | loadMerge pid params =>
      rcases bind_eq_ok.mp h with ⟨⟨s', item, task⟩, hload, h⟩
      cases h
      rcases loadMerge_eq_ok.mp hload with ⟨_, hstartable⟩
      apply hw.moved hadvances
      exact ⟨readBefore_of_find hstartable.findTask, hstartable.queued⟩
  | mergeTurn pid turn =>
      rcases takeTurn_eq_ok h with hsame | ⟨plan, progress, s', hs', hplan, hperform, hw'⟩
      · rw [hsame]
        exact hw
      · rw [hw'] at hadvances ⊢
        exact hw.moved hadvances (plan_remembers hplan hperform (hw pid))
  | endMerge pid =>
      cases h
      exact hw.moved hadvances trivial

theorem remembersTasks_preserved (port : FollowUpTaskPort) (queries : QueueQueries) :
    (factory port queries).Preserves (fun _ => True) RemembersTasks :=
  fun _ _ _ _ hw h => remembersTasks_of_step hw h

theorem remembersTasks_start :
    RemembersTasks Factory.start :=
  fun _ => trivial

/-!
## The trail
-/

/-- An event keeps its meaning, since every lease stays a lease of its task. -/
theorem statusRecord_of_keepsLeases {s s' : Store} {event : AuditEvent} {taskId : TaskId}
    (hleases : KeepsLeases s s') (hstored : OfStoredLease s event) :
    statusRecord s' taskId event = statusRecord s taskId event := by
  unfold statusRecord
  by_cases htype : event.entityType = "task-lease"
  · rcases Option.isSome_iff_exists.mp (hstored htype) with ⟨lease, hlease⟩
    rcases hleases _ lease hlease with ⟨lease', hlease', hsame⟩
    rw [hlease, hlease', Option.map_some, Option.map_some, hsame]
  · simp [htype]

/-- The trail of each task leads from BACKLOG to its stored status. -/
structure Audited (w : Factory) : Prop where
  ofStoredLease : forall event, event ∈ w.shared.store.auditEvents ->
    OfStoredLease w.shared.store event
  trail : forall taskId, Leads TaskStatus.backlog.label (statusTrail w.shared.store taskId)
    (storedLabel w.shared.store taskId)
  remembers : RemembersTasks w

theorem audited_start :
    Audited Factory.start where
  ofStoredLease := fun _ h => absurd h List.not_mem_nil
  trail := fun _ => rfl
  remembers := remembersTasks_start

theorem RecordsChanges.trail {entity : String} {events : List AuditEvent} {s s' : Store}
    (h : RecordsChanges entity events s s') {taskId : TaskId}
    (hstored : forall event, event ∈ s.auditEvents -> OfStoredLease s event)
    (htrail : Leads TaskStatus.backlog.label (statusTrail s taskId) (storedLabel s taskId)) :
    Leads TaskStatus.backlog.label (statusTrail s' taskId) (storedLabel s' taskId) := by
  have hread : statusTrail s' taskId =
      statusTrail s taskId ++ events.filterMap (statusRecord s taskId) := by
    unfold statusTrail
    rw [h.auditEvents, List.filterMap_append]
    congr 1
    · exact List.filterMap_congr
        (fun e he => statusRecord_of_keepsLeases h.leases (hstored e he))
    · exact List.filterMap_congr
        (fun e he => statusRecord_of_keepsLeases h.leases (h.ofStoredLease e he))
  rw [hread]
  exact htrail.log (h.changes taskId)

theorem audited_next (w : Factory) (q : FactoryStep) (hw : Audited w) (hq : FinishesMerging w q) :
    Audited ((factory port queries).next w q) := by
  refine (factory port queries).next_cases hw ?_
  intro w' hstep
  rcases step_records hw.remembers hq hstep with ⟨events, hrecords⟩
  constructor
  · intro event hevent hlease
    have hstored : OfStoredLease w.shared.store event := by
      rw [hrecords.auditEvents] at hevent
      rcases List.mem_append.mp hevent with hevent | hevent
      · exact hw.ofStoredLease event hevent
      · exact hrecords.ofStoredLease event hevent
    rcases Option.isSome_iff_exists.mp (hstored hlease) with ⟨lease, hfind⟩
    rcases hrecords.leases _ lease hfind with ⟨lease', hfind', _⟩
    rw [hfind']
    rfl
  · intro taskId
    exact hrecords.trail hw.ofStoredLease (hw.trail taskId)
  · exact remembersTasks_of_step hw.remembers hstep

/-- The transaction adds events to the trail.  If it changes the status of a task, exactly
one of them tells what its stored status was and is, and this is an event of the entity. -/
def TellsEveryChange (entity : String) (s s' : Store) : Prop :=
  exists events, s'.auditEvents = s.auditEvents ++ events ∧
    forall taskId task task', s.findTask taskId = some task ->
      s'.findTask taskId = some task' -> task'.status ≠ task.status ->
      exists before event after, events = before ++ event :: after ∧
        event.entityType = entity ∧
        statusRecord s taskId event = some (task.status.label, task'.status.label) ∧
        forall other, other ∈ before ++ after -> statusRecord s taskId other = none

theorem RecordsChanges.tellsEveryChange {entity : String} {events : List AuditEvent}
    {s s' : Store} (h : RecordsChanges entity events s s') :
    TellsEveryChange entity s s' := by
  refine ⟨events, h.auditEvents, ?_⟩
  intro taskId task task' htask htask' hne
  have hlogs := h.changes taskId
  rw [storedLabel_of_find htask, storedLabel_of_find htask'] at hlogs
  have hlabels : task'.status.label ≠ task.status.label :=
    fun hsame => hne (TaskStatus.label_injective hsame)
  rcases hlogs.event hlabels with ⟨before, event, after, hevents, hevent, hothers⟩
  refine ⟨before, event, after, hevents, ?_, hevent, hothers⟩
  apply h.entity event _ taskId
  · rw [hevent]
    exact Option.some_ne_none _
  · rw [hevents]
    exact List.mem_append_right _ List.mem_cons_self

/-- Whatever the services do in between, a transaction tells every change of a status in
one event, with the stored statuses, and one that fails leaves no event; only a merge that
finishes has to find its task MERGING for that.  If all of them do, what is told of a task
leads from BACKLOG to its stored status. -/
theorem statusTrail_leads (port : FollowUpTaskPort) (queries : QueueQueries)
    (steps : List FactoryStep) :
    (forall w q, (w, q) ∈ (factory port queries).arrivals Factory.start steps ->
      (forall w', (factory port queries).step w q = .ok w' -> FinishesMerging w q ->
        TellsEveryChange q.entity w.shared.store w'.shared.store) ∧
      forall e, (factory port queries).step w q = .error e ->
        (factory port queries).next w q = w) ∧
    ((forall x, x ∈ (factory port queries).arrivals Factory.start steps ->
        FinishesMerging x.1 x.2) ->
      forall taskId task,
        ((factory port queries).run Factory.start steps).shared.store.findTask taskId =
          some task ->
        Leads TaskStatus.backlog.label
          (statusTrail ((factory port queries).run Factory.start steps).shared.store taskId)
          task.status.label) := by
  constructor
  · intro w q hx
    constructor
    · intro w' hstep hq
      have hremembers : RemembersTasks w :=
        (remembersTasks_preserved port queries).arrivals (fun _ _ => trivial)
          remembersTasks_start _ hx
      rcases step_records hremembers hq hstep with ⟨events, hrecords⟩
      exact hrecords.tellsEveryChange
    · intro e hstep
      exact (factory port queries).next_of_error hstep
  · intro hfinish taskId task htask
    rcases TransitionSystem.run_of_arrivals audited_next audited_start hfinish with
      ⟨_, hend⟩
    rw [← storedLabel_of_find htask]
    exact hend.trail taskId

def mergedTask : List FactoryStep :=
  developedTask.map .review ++
    [ .review (.request (.transitionTask "task-1" .inReview
        { hasReviewRoutingDecision := some true } reviewActor)),
      .review (.request (.transitionTask "task-1" .approved
        { leadReviewDecision := some .approved } reviewActor)),
      .enqueueForMerge 1000 "item-1"
        { taskId := "task-1", approvedCommitSha := some "a1", actor := systemActor },
      .dequeueNext 2000 { repositoryId := "repo-1", actor := systemActor },
      .loadMerge 1 mergeParams,
      .mergeTurn 1 .startRebase,
      .mergeTurn 1 .startValidation,
      .mergeTurn 1 .startPush,
      .mergeTurn 1 (.finishMerge 3000) ]

theorem statusTrail_leads_merged :
    Leads TaskStatus.backlog.label
      (statusTrail ((factory plainFollowUps arrivalOrder).run Factory.start
        mergedTask).shared.store "task-1")
      TaskStatus.postMergeValidation.label := by
  have hstatus : (((factory plainFollowUps arrivalOrder).run Factory.start
      mergedTask).shared.store.findTask "task-1").map Task.status =
        some .postMergeValidation := by
    decide +kernel
  have hfinish : forall x, x ∈ (factory plainFollowUps arrivalOrder).arrivals Factory.start
      mergedTask -> FinishesMerging x.1 x.2 := by
    decide +kernel
  rcases Option.map_eq_some_iff.mp hstatus with ⟨task, htask, hmerged⟩
  rw [← hmerged]
  exact (statusTrail_leads plainFollowUps arrivalOrder mergedTask).2 hfinish "task-1" task
    htask

/-!
## A reclaimed task
-/

def startedTask : List FactoryStep :=
  [ .review (.request (.createWorkerPool { workerPoolId := "pool-1", maxConcurrency := 1 })),
    .review (.request (.createTask
      { taskId := "task-1", repositoryId := "repo-1", taskType := "feature",
        priority := "high" })),
    .review (.request (.transitionTask "task-1" .ready
      { allDependenciesResolved := some true } systemActor)),
    .review (.request (.acquireLease 0 "lease-1"
      { taskId := "task-1"
        workerId := "worker-1"
        poolId := "pool-1"
        ttlSeconds := 1800
        actor := systemActor })),
    .review (.request (.transitionLease "lease-1" .starting
      { workerProcessSpawned := some true } systemActor)) ]

def reclaimTask : FactoryStep :=
  .review (.request (.reclaimLease
    { leaseId := "lease-1"
      reason := .workerCrashed
      retryPolicy := defaultRetryPolicy
      escalationPolicy := defaultEscalationPolicy
      hasFailureSummary := true
      actor := systemActor }))

/-- The reclaim takes the task back to READY, and its one event is not one of the task. -/
theorem reclaim_untold_by_task :
    ¬ forall (steps : List FactoryStep) (w w' : Factory) (q : FactoryStep),
      (w, q) ∈ (factory plainFollowUps arrivalOrder).arrivals Factory.start steps ->
      (factory plainFollowUps arrivalOrder).step w q = .ok w' ->
      forall taskId task task', w.shared.store.findTask taskId = some task ->
        w'.shared.store.findTask taskId = some task' -> task'.status ≠ task.status ->
        exists event,
          event ∈ w'.shared.store.auditEvents.drop w.shared.store.auditEvents.length ∧
          event.entityType = "task" ∧ event.entityId = taskId ∧
          recordedChange "status" event = some (task.status.label, task'.status.label) := by
  intro h
  let system := factory plainFollowUps arrivalOrder
  let w := system.run Factory.start startedTask
  have hbefore : (w.shared.store.findTask "task-1").map Task.status = some .assigned := by
    decide +kernel
  have hafter : ((system.next w reclaimTask).shared.store.findTask "task-1").map Task.status =
      some .ready := by
    decide +kernel
  have hevents : ((system.next w reclaimTask).shared.store.auditEvents.drop
      w.shared.store.auditEvents.length).map AuditEvent.entityType = ["task-lease"] := by
    decide +kernel
  have hstep : system.step w reclaimTask = .ok (system.next w reclaimTask) := by
    apply system.step_eq_ok_next
    decide +kernel
  rcases Option.map_eq_some_iff.mp hbefore with ⟨task, htask, hassigned⟩
  rcases Option.map_eq_some_iff.mp hafter with ⟨task', htask', hready⟩
  have hne : task'.status ≠ task.status := by
    rw [hassigned, hready]
    decide
  rcases h _ w _ reclaimTask (system.mem_arrivals_append _ startedTask reclaimTask []) hstep
    "task-1" task task' htask htask' hne with ⟨event, hevent, htype, _⟩
  have hmem := List.mem_map_of_mem (f := AuditEvent.entityType) hevent
  rw [hevents, htype] at hmem
  exact absurd hmem (by decide)

end Auditing
end CopilotFactory
