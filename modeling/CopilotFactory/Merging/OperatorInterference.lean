import CopilotFactory.ControlPlane.OperatorEffects
import CopilotFactory.Merging.MergeRuns

/-!
# Operators during a merge

While the executor awaits its ports, operators act on the task that is being
merged.  A conflict is settled at a remembered version, so it fails when the task
has been changed.  The last transaction reads the stored version again and looks
at no status: it overwrites whatever a pause has left there.
-/

namespace CopilotFactory
namespace Merging

open Foundations
open Domain
open Infrastructure
open Application
open ControlPlane

/-!
## Faithful commits
-/

/-- The event names the stored status of its entity as the old one. -/
structure RecordsStored (s : Store) (event : AuditEvent) : Prop where
  ofTask : event.entityType = "task" ->
    exists task, s.findTask event.entityId = some task ∧
      event.oldState = some (.plain task.status.label)
  ofItem : event.entityType = "merge-queue-item" ->
    exists item, s.findItem event.entityId = some item ∧
      event.oldState = some (.plain item.status.label)

/-- A task is written only by a transition that is legal from its stored status, and
never when an operator has escalated or cancelled it; the events of the commit record
the stored statuses. -/
structure FaithfulWrite (before after : Store) : Prop where
  writes : forall taskId task task',
    before.findTask taskId = some task -> after.findTask taskId = some task' ->
    task' ≠ task ->
      task.status ≠ .escalated ∧ task.status ≠ .cancelled ∧
      exists context, validateTransition task.status task'.status context = .valid
  audits : forall event,
    event ∈ after.auditEvents.drop before.auditEvents.length -> RecordsStored before event

section Commits

variable {params : ExecuteMergeParams} {s s' : Store}

variable {move : ItemMove}

theorem faithfulWrite_refl (s : Store) : FaithfulWrite s s := by
  constructor
  · intro taskId task task' htask htask' hne
    rw [htask] at htask'
    cases htask'
    exact absurd rfl hne
  · intro event hevent
    rw [List.drop_length] at hevent
    cases hevent

theorem recordsStored_itemAudit {taskId : TaskId} (h : ItemIn params taskId move.source s) :
    RecordsStored s (itemAudit params move) := by
  rcases h with ⟨item, hitem, _, hstatus⟩
  constructor
  · intro htype
    exact absurd htype (by simp [itemAudit, stateTransition])
  · intro _
    refine ⟨item, hitem, ?_⟩
    rw [hstatus]
    rfl

theorem recordsStored_taskAudit_iff {move : TaskMove} {taskId : TaskId} {task : Task}
    (h : s.findTask taskId = some task) :
    RecordsStored s (taskAudit params taskId move) <-> task.status = move.source := by
  constructor
  · intro hrecords
    rcases hrecords.ofTask rfl with ⟨found, hfound, hold⟩
    have hfound' : s.findTask taskId = some found := hfound
    rw [h] at hfound'
    cases hfound'
    simp only [taskAudit, stateTransition, Option.some.injEq, AuditState.plain.injEq] at hold
    exact (TaskStatus.label_injective hold).symm
  · intro hstatus
    constructor
    · intro _
      refine ⟨task, h, ?_⟩
      rw [hstatus]
      rfl
    · intro htype
      exact absurd htype (by simp [taskAudit, stateTransition])

theorem moveItem_faithful {taskId : TaskId} {progress moved : MergeProgress}
    (hitem : ItemIn params taskId move.source s)
    (h : moveItem params move progress s = .ok (s', moved)) : FaithfulWrite s s' := by
  rcases moveItem_eq_ok.mp h with ⟨_, _, _, hs', _⟩
  rw [hs']
  constructor
  · intro id task task' htask htask' hne
    rw [Store.appendAudit_findTask, Store.writeItem_findTask, htask] at htask'
    cases htask'
    exact absurd rfl hne
  · intro event hevent
    rw [Store.appendAudit_auditEvents, Store.writeItem_auditEvents, List.drop_left] at hevent
    rw [List.mem_singleton.mp hevent]
    exact recordsStored_itemAudit hitem

theorem moveItemAndTask_faithful_iff {taskMove : TaskMove} {taskId : TaskId}
    {expectedVersion : Store -> Except ServiceError Nat} {auditEvents : List AuditEvent}
    {task : Task} {moved : MergeProgress} (hitem : ItemIn params taskId move.source s)
    (htask : s.findTask taskId = some task)
    (hsource : isTerminalState taskMove.source = false ∧ taskMove.source ≠ .escalated)
    (h : moveItemAndTask params move taskMove taskId expectedVersion auditEvents s =
      .ok (s', moved)) :
    FaithfulWrite s s' <-> task.status = taskMove.source := by
  rcases moveItemAndTask_eq_ok.mp h with ⟨_, stored, _, _, hstored, _, hs', _⟩
  rw [htask] at hstored
  cases hstored
  have hevents : s'.auditEvents.drop s.auditEvents.length =
      [itemAudit params move, taskAudit params taskId taskMove] := by
    rw [hs', Store.appendAudit_auditEvents, Store.appendAudit_auditEvents,
      Store.writeTask_auditEvents, Store.writeItem_auditEvents, List.append_assoc,
      List.drop_left]
    rfl
  constructor
  · intro hfaithful
    have hrecords : RecordsStored s (taskAudit params taskId taskMove) := by
      apply hfaithful.audits
      rw [hevents]
      exact List.mem_cons_of_mem _ (List.mem_singleton_self _)
    exact (recordsStored_taskAudit_iff htask).mp hrecords
  · intro hstatus
    constructor
    · intro id other other' hother hother' hne
      rw [hs', Store.appendAudit_findTask, Store.appendAudit_findTask] at hother'
      by_cases hid : id = taskId
      · rw [hid, Store.findTask_writeTask_self, Store.writeItem_findTask, htask] at hother'
        cases hother'
        rw [hid, htask] at hother
        cases hother
        rw [hstatus]
        refine ⟨hsource.2, ?_, taskMove.context, taskMove.valid⟩
        intro hcancelled
        rw [hcancelled] at hsource
        cases hsource.1
      · rw [Store.findTask_writeTask_of_ne hid, Store.writeItem_findTask, hother] at hother'
        cases hother'
        exact absurd rfl hne
    · intro event hevent
      rw [hevents] at hevent
      rcases List.mem_cons.mp hevent with hevent | hevent
      · rw [hevent]
        exact recordsStored_itemAudit hitem
      · rw [List.mem_singleton.mp hevent]
        exact (recordsStored_taskAudit_iff htask).mpr hstatus

end Commits

/-!
## The task while the executor awaits
-/

/-- The stored task has left MERGING exactly if the condition holds; at the version that
the executor remembers it is still MERGING. -/
def StoredSince (task : Task) (paused : Prop) (s : Store) : Prop :=
  exists current,
    s.findTask task.taskId = some current ∧
    task.version ≤ current.version ∧
    (current.version = task.version -> current.status = .merging) ∧
    (current.status = .merging <-> ¬ paused)

structure Awaiting (params : ExecuteMergeParams) (task : Task)
    (status : MergeQueueItemStatus) (paused : Prop) (s : Store) : Prop where
  item : ItemIn params task.taskId status s
  stored : StoredSince task paused s

section Awaiting

variable {params : ExecuteMergeParams} {task : Task} {status : MergeQueueItemStatus}
  {paused : Prop} {s s' : Store}

theorem StoredSince.of_tasks_eq (h : StoredSince task paused s)
    (htasks : s'.tasks = s.tasks) :
    StoredSince task paused s' := by
  rcases h with ⟨current, hcurrent, hrest⟩
  refine ⟨current, ?_, hrest⟩
  rw [Store.findTask_of_tasks_eq htasks]
  exact hcurrent

/-- A write of the task leaves it at a later version than the remembered one. -/
theorem storedSince_of_write {current : Task} {data : TaskUpdate}
    (hcurrent : s.findTask task.taskId = some current)
    (hle : task.version ≤ current.version)
    (hstatus : data.status.getD current.status = .merging <-> ¬ paused) :
    StoredSince task paused (s.writeTask task.taskId (current.version + 1) data) := by
  refine ⟨data.apply (current.version + 1) current, ?_, Nat.le_succ_of_le hle, ?_, hstatus⟩
  · rw [Store.findTask_writeTask_self, hcurrent]
    rfl
  · intro hversion
    exact absurd hversion (Nat.ne_of_gt (Nat.lt_succ_of_le hle))

theorem storedSince_of_write_other {taskId : TaskId} {version : Nat} {data : TaskUpdate}
    (h : StoredSince task paused s) (hne : task.taskId ≠ taskId) :
    StoredSince task paused (s.writeTask taskId version data) := by
  rcases h with ⟨current, hcurrent, hrest⟩
  refine ⟨current, ?_, hrest⟩
  rw [Store.findTask_writeTask_of_ne hne]
  exact hcurrent

theorem pause_accepted {taskId : TaskId} {current : Task} (actorId : String)
    (hfind : s.findTask taskId = some current) (hstatus : current.status = .merging) :
    exists s', controlPlane.step s (.pause taskId actorId) = .ok s' ∧
      s'.mergeQueueItems = s.mergeQueueItems ∧
      s'.tasks = (s.writeTask taskId (current.version + 1)
        { status := some .escalated }).tasks := by
  have hvalid : validateTransition current.status .escalated { isOperator := some true } =
      .valid := by
    rw [hstatus]
    rfl
  rcases executeTransitionAction_accepts (operatorActor actorId) hfind hvalid with
    ⟨s', result, haction, hmoved⟩
  exact ⟨s', committed_eq_ok.mpr ⟨result, haction⟩, hmoved⟩

/-- A request of an operator takes the task out of MERGING exactly if it pauses it. -/
theorem Awaiting.next (h : Awaiting params task status paused s) {r : Request}
    (hr : OperatorRequest r) :
    Awaiting params task status (paused ∨ Pauses task.taskId r) (controlPlane.next s r) := by
  rcases h with ⟨hitem, current, hcurrent, hle, hsame, hmerging⟩
  by_cases hpause : current.status = .merging ∧ Pauses task.taskId r
  · rcases hpause with ⟨hstatus, actorId, hr'⟩
    rcases pause_accepted actorId hcurrent hstatus with ⟨s', hstep, hitems, htasks⟩
    rw [hr', controlPlane.next_of_ok hstep]
    refine ⟨hitem.of_items_eq hitems, StoredSince.of_tasks_eq ?_ htasks⟩
    apply storedSince_of_write hcurrent hle
    constructor
    · intro hescalated
      cases hescalated
    · intro hno
      exact absurd (Or.inr ⟨actorId, rfl⟩) hno
  · -- Nothing else changes whether the task is MERGING.
    have hiff : current.status = .merging <-> ¬ (paused ∨ Pauses task.taskId r) := by
      rw [hmerging]
      constructor
      · intro hno hor
        rcases hor with hpaused | hpauses
        · exact hno hpaused
        · exact hpause ⟨hmerging.mpr hno, hpauses⟩
      · intro hno hpaused
        exact hno (Or.inl hpaused)
    have hstored : StoredSince task (paused ∨ Pauses task.taskId r) s :=
      ⟨current, hcurrent, hle, hsame, hiff⟩
    refine controlPlane.next_cases ⟨hitem, hstored⟩ ?_
    intro s' hstep
    rcases operatorEffect_of_perform hr hstep with ⟨hitems, heffect⟩
    refine ⟨hitem.of_items_eq hitems, ?_⟩
    cases heffect with
    | unchanged htasks =>
        exact hstored.of_tasks_eq htasks
    | edited id found data hfind hdata htasks =>
        apply StoredSince.of_tasks_eq _ htasks
        by_cases hid : task.taskId = id
        · rw [← hid] at hfind ⊢
          rw [hcurrent] at hfind
          cases hfind
          apply storedSince_of_write hcurrent hle
          rw [hdata]
          exact hiff
        · exact storedSince_of_write_other hstored hid
    | moved id found data target hfind hdata htarget hpauses htasks =>
        apply StoredSince.of_tasks_eq _ htasks
        by_cases hid : task.taskId = id
        · rw [← hid] at hfind hpauses ⊢
          rw [hcurrent] at hfind
          cases hfind
          apply storedSince_of_write hcurrent hle
          rw [hdata]
          constructor
          · intro hstatus
            exact absurd hstatus htarget
          · intro hno
            exact absurd (Or.inr (hpauses (hiff.mpr hno))) hno
        · exact storedSince_of_write_other hstored hid

theorem Awaiting.run {requests : List Request}
    (hrequests : forall r, r ∈ requests -> OperatorRequest r)
    (h : Awaiting params task status paused s) :
    Awaiting params task status (paused ∨ exists r, r ∈ requests ∧ Pauses task.taskId r)
      (controlPlane.run s requests) :=
  TransitionSystem.run_of_told (fun _ _ _ hr hs => hs.next hr) hrequests h

end Awaiting

/-!
## Which commits are faithful
-/

section Pipeline

variable {γ : Type} {params : ExecuteMergeParams} {task : Task}
  {status : MergeQueueItemStatus} {paused : Prop}

def FaithfulCommit (before after : World γ) : Prop :=
  FaithfulWrite before.store after.store

def PausedBy (taskId : TaskId) (requests : List Request) : Prop :=
  exists r, r ∈ requests ∧ Pauses taskId r

theorem pausedBy_append {taskId : TaskId} {first second : List Request} :
    PausedBy taskId (first ++ second) <-> PausedBy taskId first ∨ PausedBy taskId second := by
  unfold PausedBy
  simp [or_and_right, exists_or]

theorem await_awaiting {α : Type} {call : Call α}
    (hothers : forall r, r ∈ call.others -> OperatorRequest r) :
    Process.Triple FaithfulCommit
      (fun w : World γ => Awaiting params task status paused w.store) call.await
      (fun r w => r = call.outcome.mapError .port ∧
        Awaiting params task status (paused ∨ PausedBy task.taskId call.others) w.store) :=
  Process.Triple.await (fun _ hw => ⟨rfl, hw.run hothers⟩)

theorem moveItem_awaiting (move : ItemMove) (progress : MergeProgress) :
    Process.Triple FaithfulCommit
      (fun w : World γ => Awaiting params task move.source paused w.store)
      (onStore (moveItem params move progress))
      (fun r w => (exists moved, r = .ok moved ∧ moved.task = progress.task) ∧
        Awaiting params task move.target paused w.store) := by
  apply Process.Triple.transaction
  · intro w s' moved hw hcall
    rcases moveItem_spec hw.item hcall with ⟨hitem, htasks, htask⟩
    refine ⟨⟨⟨moved, rfl, htask⟩, hitem, hw.stored.of_tasks_eq htasks⟩, ?_⟩
    exact moveItem_faithful hw.item hcall
  · intro w e hw hcall
    rcases moveItem_accepts progress hw.item with ⟨s', moved, haccepts⟩
    rw [haccepts] at hcall
    cases hcall

theorem finishMerge_decides {completedAt : Millis} {progress : MergeProgress}
    (htask : progress.task = task) :
    Process.Decides FaithfulCommit
      (fun w : World γ => Awaiting params task .merging paused w.store)
      (onStore (finishMerge params completedAt progress)) (¬ paused) := by
  intro w hw
  rcases hw with ⟨hitem, current, hcurrent, _, _, hmerging⟩
  rw [← htask] at hitem hcurrent
  rcases @finishMerge_accepts params w.store completedAt progress current hitem hcurrent with
    ⟨s', moved, hfinish⟩
  have hfaithful : FaithfulWrite w.store s' <-> current.status = .merging :=
    moveItemAndTask_faithful_iff hitem hcurrent ⟨rfl, by decide⟩ hfinish
  rw [onStore_of_ok hfinish, ← hmerging, ← hfaithful]
  simp [FaithfulCommit]

theorem recordMerge_guarantee {C : World γ -> World γ -> Prop} (calls : MergeCalls)
    (packet : MergePacket) (progress : MergeProgress) (mergedCommitSha : String) :
    Process.Guarantees C
      (recordMerge calls.ports params packet progress mergedCommitSha) := by
  unfold recordMerge
  split
  · exact Process.Guarantees.await.bind (fun _ => Process.Guarantees.pure _)
  · exact Process.Guarantees.pure _

variable {calls : MergeCalls} {approvedCommitSha : Option String} {sourceBranch : String}
  {validationResult : ValidationRunResult} {progress : MergeProgress}

/-- The outcomes after the push, and a pause in time, that spoil the last transaction. -/
def ConcludesPaused (calls : MergeCalls) (params : ExecuteMergeParams) (taskId : TaskId)
    (paused : Prop) : Prop :=
  (exists sha, (calls.getHeadSha params.workspacePath).outcome = .ok sha) ∧
    (paused ∨ PausedBy taskId (calls.getHeadSha params.workspacePath).others)

theorem concludeMerge_decides (hcalls : calls.Serve OperatorRequest)
    (htask : progress.task = task) :
    Process.Decides FaithfulCommit
      (fun w : World γ => Awaiting params task .merging paused w.store)
      (concludeMerge calls.ports params approvedCommitSha sourceBranch validationResult
        progress)
      (¬ ConcludesPaused calls params task.taskId paused) := by
  apply Call.decides_await (await_awaiting (hcalls.getHeadSha params.workspacePath))
  · intro sha hsha
    have hfinish : Process.Decides FaithfulCommit
        (fun w : World γ => Awaiting params task .merging
          (paused ∨ PausedBy task.taskId (calls.getHeadSha params.workspacePath).others)
            w.store)
        (onStore (finishMerge params calls.completedAt progress))
        (¬ ConcludesPaused calls params task.taskId paused) := by
      apply (finishMerge_decides htask).congr
      apply not_congr
      constructor
      · intro hpaused
        exact ⟨⟨sha, hsha⟩, hpaused⟩
      · intro hconcludes
        exact hconcludes.2
    exact hfinish.bind_guarantees (fun _ => recordMerge_guarantee calls _ _ _)
  · intro message hmessage hconcludes
    rcases hconcludes.1 with ⟨sha, hsha⟩
    rw [hmessage] at hsha
    cases hsha

def PushesPaused (calls : MergeCalls) (params : ExecuteMergeParams) (taskId : TaskId)
    (sourceBranch : String) (paused : Prop) : Prop :=
  (calls.pushCall params sourceBranch).outcome = .ok () ∧
    ConcludesPaused calls params taskId
      (paused ∨ PausedBy taskId (calls.pushCall params sourceBranch).others)

theorem settlePush_decides (hcalls : calls.Serve OperatorRequest)
    (htask : progress.task = task) :
    Process.Decides FaithfulCommit
      (fun w : World γ => Awaiting params task .merging
        (paused ∨ PausedBy task.taskId (calls.pushCall params sourceBranch).others) w.store)
      (settlePush calls.ports params approvedCommitSha sourceBranch validationResult progress
        ((calls.pushCall params sourceBranch).outcome.mapError .port))
      (¬ PushesPaused calls params task.taskId sourceBranch paused) := by
  cases houtcome : (calls.pushCall params sourceBranch).outcome with
  | ok u =>
      apply (concludeMerge_decides hcalls htask).congr
      apply not_congr
      constructor
      · intro hconcludes
        exact ⟨houtcome, hconcludes⟩
      · intro hpushes
        exact hpushes.2
  | error message =>
      have hfail := (@moveItem_awaiting γ params task
        (paused ∨ PausedBy task.taskId (calls.pushCall params sourceBranch).others)
        (pushFailedMove calls.completedAt) progress).bind_pure
          (fun moved => ExecuteMergeResult.pushFailed moved message)
      apply hfail.decides
      intro hpushes
      have hpushed := hpushes.1
      rw [houtcome] at hpushed
      cases hpushed

theorem pushMerge_decides (hcalls : calls.Serve OperatorRequest)
    (htask : progress.task = task) :
    Process.Decides FaithfulCommit
      (fun w : World γ => Awaiting params task .validating paused w.store)
      (pushMerge calls.ports params approvedCommitSha sourceBranch validationResult progress)
      (¬ PushesPaused calls params task.taskId sourceBranch paused) := by
  apply Process.Decides.bind (moveItem_awaiting mergingMove progress)
  · intro moved
    apply Process.Decides.of_pure
    intro hknown
    rcases hknown with ⟨_, hmoved, hmovedTask⟩
    cases hmoved
    exact Call.decides_attempt (await_awaiting (hcalls.push _ _ _))
      (settlePush_decides hcalls (hmovedTask.trans htask))
  · intro e w hw
    rcases hw with ⟨⟨_, hmoved, _⟩, _⟩
    cases hmoved

def ValidatesPaused (calls : MergeCalls) (params : ExecuteMergeParams) (taskId : TaskId)
    (sourceBranch : String) (paused : Prop) : Prop :=
  (exists result,
    (calls.runMergeGateValidation taskId params.workspacePath).outcome = .ok result ∧
    result.overallStatus = .passed) ∧
    PushesPaused calls params taskId sourceBranch
      (paused ∨ PausedBy taskId
        (calls.runMergeGateValidation taskId params.workspacePath).others)

theorem validateMerge_decides (hcalls : calls.Serve OperatorRequest)
    (htask : progress.task = task) :
    Process.Decides FaithfulCommit
      (fun w : World γ => Awaiting params task .rebasing paused w.store)
      (validateMerge calls.ports params approvedCommitSha sourceBranch progress)
      (¬ ValidatesPaused calls params task.taskId sourceBranch paused) := by
  apply Process.Decides.bind (moveItem_awaiting validatingMove progress)
  · intro moved
    apply Process.Decides.of_pure
    intro hknown
    rcases hknown with ⟨_, hmoved, hmovedTask⟩
    cases hmoved
    have hid : moved.task.taskId = task.taskId := by
      rw [hmovedTask, htask]
    rw [hid]
    apply Call.decides_await (await_awaiting (hcalls.runMergeGateValidation _ _))
    · intro result hresult
      cases hoverall : result.overallStatus with
      | failed =>
          have hfail := (@moveItem_awaiting γ params task
            (paused ∨ PausedBy task.taskId (calls.runMergeGateValidation task.taskId
              params.workspacePath).others)
            (validationFailedMove calls.completedAt) moved).bind_pure
              (fun failed => ExecuteMergeResult.validationFailed failed result)
          apply hfail.decides
          intro hvalidates
          rcases hvalidates.1 with ⟨passed, hpassed, hstatus⟩
          rw [hresult] at hpassed
          cases hpassed
          rw [hoverall] at hstatus
          cases hstatus
      | passed =>
          apply (pushMerge_decides hcalls (hmovedTask.trans htask)).congr
          apply not_congr
          constructor
          · intro hpushes
            exact ⟨⟨result, hresult, hoverall⟩, hpushes⟩
          · intro hvalidates
            exact hvalidates.2
    · intro message hmessage hvalidates
      rcases hvalidates.1 with ⟨result, hresult, _⟩
      rw [hmessage] at hresult
      cases hresult
  · intro e w hw
    rcases hw with ⟨⟨_, hmoved, _⟩, _⟩
    cases hmoved

theorem settleConflict_guarantee {classification : ConflictClassification}
    {completedAt : Millis} (htask : progress.task = task) :
    Process.Triple FaithfulCommit
      (fun w : World γ => Awaiting params task .rebasing paused w.store)
      (onStore (settleConflict params classification completedAt progress))
      (fun _ _ => True) := by
  apply Process.Triple.transaction
  · intro w s' moved hw hcall
    refine ⟨trivial, ?_⟩
    rcases hw with ⟨hitem, current, hcurrent, _, hsame, _⟩
    unfold settleConflict at hcall
    rw [htask] at hcall
    have hversion := (moveItemAndTask_spec hitem hcurrent hcall).1
    simp only [Except.ok.injEq] at hversion
    have hsource : (conflictTaskMove classification).source ≠ .escalated := by
      simp [conflictTaskMove]
    exact (moveItemAndTask_faithful_iff hitem hcurrent ⟨rfl, hsource⟩ hcall).mpr
      (hsame hversion.symm)
  · intro _ _ _ _
    trivial

theorem rejectConflict_guarantee {conflictFiles : List String}
    (hcalls : calls.Serve OperatorRequest) (htask : progress.task = task) :
    Process.Triple FaithfulCommit
      (fun w : World γ => Awaiting params task .rebasing paused w.store)
      (rejectConflict calls.ports params conflictFiles progress) (fun _ _ => True) := by
  apply Process.Triple.bind (await_awaiting (hcalls.classify conflictFiles))
  · intro classification w hw
    exact ((settleConflict_guarantee htask).bind_pure
      (fun settled => ExecuteMergeResult.rebaseConflict settled conflictFiles
        classification)) w hw.2
  · intro _ _ _
    trivial

/-- The outcomes and the pause that spoil a merge whose first transaction is done. -/
def PausedBeforeEnd (calls : MergeCalls) (params : ExecuteMergeParams) (taskId : TaskId) :
    Prop :=
  exists sourceBranch, calls.Integrates params taskId sourceBranch ∧
    PausedBy taskId (calls.meanwhile params taskId sourceBranch)

theorem performMerge_decides (hcalls : calls.Serve OperatorRequest)
    (htask : progress.task = task) :
    Process.Decides FaithfulCommit
      (fun w : World γ => Awaiting params task .rebasing False w.store)
      (performMerge calls.ports params approvedCommitSha progress)
      (¬ PausedBeforeEnd calls params task.taskId) := by
  apply Call.decides_await (await_awaiting (hcalls.fetch params.workspacePath "origin"))
  · intro fetched hfetched
    apply Call.decides_await (await_awaiting (hcalls.getCurrentBranch params.workspacePath))
    · intro sourceBranch hbranch
      rw [MergeCalls.mergeOperation_ports]
      apply Call.decides_await (await_awaiting (hcalls.operation params sourceBranch))
      · intro result hresult
        cases hsuccess : result.success with
        | false =>
            apply (rejectConflict_guarantee hcalls htask).decides
            intro hpaused
            rcases hpaused with ⟨branch, hintegrates, _⟩
            have hsame := hintegrates.onBranch
            rw [hbranch] at hsame
            cases hsame
            rcases hintegrates.merged with ⟨merged, hmerged, htrue⟩
            rw [hresult] at hmerged
            cases hmerged
            rw [hsuccess] at htrue
            cases htrue
        | true =>
            apply (validateMerge_decides hcalls htask).congr
            apply not_congr
            constructor
            · intro hvalidates
              rcases hvalidates with ⟨hvalidated, hpushed, hhead, hpaused⟩
              refine ⟨sourceBranch, ⟨hfetched, hbranch, ⟨result, hresult, hsuccess⟩,
                hvalidated, hpushed, hhead⟩, ?_⟩
              unfold MergeCalls.meanwhile
              simp only [pausedBy_append]
              simp only [false_or] at hpaused
              exact hpaused
            · intro hpaused
              rcases hpaused with ⟨branch, hintegrates, hpaused⟩
              have hsame := hintegrates.onBranch
              rw [hbranch] at hsame
              cases hsame
              unfold MergeCalls.meanwhile at hpaused
              simp only [pausedBy_append] at hpaused
              refine ⟨hintegrates.validated, hintegrates.pushed, hintegrates.headKnown, ?_⟩
              simp only [false_or]
              exact hpaused
      · intro message hmessage hpaused
        rcases hpaused with ⟨branch, hintegrates, _⟩
        have hsame := hintegrates.onBranch
        rw [hbranch] at hsame
        cases hsame
        rcases hintegrates.merged with ⟨merged, hmerged, _⟩
        rw [hmessage] at hmerged
        cases hmerged
    · intro message hmessage hpaused
      rcases hpaused with ⟨branch, hintegrates, _⟩
      have hsame := hintegrates.onBranch
      rw [hmessage] at hsame
      cases hsame
  · intro message hmessage hpaused
    rcases hpaused with ⟨branch, hintegrates, _⟩
    have hfetched := hintegrates.fetched
    rw [hmessage] at hfetched
    cases hfetched

/-- The merge is started, gets to its last transaction, and its task is paused on the
way. -/
def PausedDuringMerge (calls : MergeCalls) (params : ExecuteMergeParams) (s : Store) :
    Prop :=
  exists item task, Startable params item task s ∧
    PausedBeforeEnd calls params task.taskId

/-- The first transaction is faithful, and leaves the task MERGING. -/
theorem startRebase_awaiting {item : MergeQueueItem} {w₀ : World γ}
    (h : Startable params item task w₀.store) :
    Process.Triple FaithfulCommit (fun w => w = w₀) (onStore (startRebase params task))
      (fun r w => exists progress, r = .ok progress ∧ progress.task = mergingTask task ∧
        Awaiting params (mergingTask task) .rebasing False w.store) := by
  rcases startRebase_accepts h with ⟨s₁, progress₁, hstart, hmoved, hitem, hstored⟩
  apply Process.Triple.transaction
  · intro w s' progress hw hcall
    rw [hw] at hcall ⊢
    rw [hstart] at hcall
    cases hcall
    refine ⟨⟨progress₁, rfl, hmoved, hitem, mergingTask task, hstored, Nat.le_refl _, ?_, ?_⟩,
      ?_⟩
    · intro _
      rfl
    · constructor
      · intro _
        exact not_false
      · intro _
        rfl
    · exact (moveItemAndTask_faithful_iff h.itemIn h.findTask ⟨rfl, by decide⟩ hstart).mpr
        h.queued
  · intro w e hw hcall
    rw [hw, hstart] at hcall
    cases hcall

theorem pausedDuringMerge_iff {item : MergeQueueItem} {s : Store}
    (h : Startable params item task s) :
    PausedDuringMerge calls params s <-> PausedBeforeEnd calls params task.taskId := by
  constructor
  · intro hpaused
    rcases hpaused with ⟨item', task', h', hpaused⟩
    rw [(h.unique h').2]
    exact hpaused
  · intro hpaused
    exact ⟨item, task, h, hpaused⟩

/-- With any requests of operators served while it awaits, and any outcomes of its
ports, all commits of a merge are faithful exactly if the merge does not get to its last
transaction with the task paused on the way. -/
theorem merge_commits_faithful_iff (hcalls : calls.Serve OperatorRequest)
    (params : ExecuteMergeParams) (w₀ : World γ) :
    (forall c, c ∈ (executeMerge calls.ports params w₀).commits ->
      FaithfulCommit c.1 c.2) <->
      ¬ PausedDuringMerge calls params w₀.store := by
  have hdecides : Process.Decides FaithfulCommit (fun w => w = w₀)
      (executeMerge calls.ports params) (¬ PausedDuringMerge calls params w₀.store) := by
    apply Process.Decides.bind (loadMerge_triple (fun w => faithfulWrite_refl w.store) _ _)
    · intro found w hw
      rcases hw with ⟨hw, ⟨item, task, hfound, hstartable⟩ | ⟨⟨_, hfound⟩, _⟩⟩
      · cases hfound
        have hrest : Process.Decides FaithfulCommit (fun w => w = w₀)
            (do
              let progress ← onStore (startRebase params task)
              performMerge calls.ports params item.approvedCommitSha progress)
            (¬ PausedBeforeEnd calls params task.taskId) := by
          apply Process.Decides.bind (startRebase_awaiting hstartable)
          · intro progress w hw
            rcases hw with ⟨_, hprogress, htask, hw⟩
            cases hprogress
            exact performMerge_decides hcalls htask w hw
          · intro e w hw
            rcases hw with ⟨_, hprogress, _⟩
            cases hprogress
        rw [pausedDuringMerge_iff hstartable]
        exact hrest w hw
      · cases hfound
    · intro e w hw
      rcases hw with ⟨_, ⟨_, _, hfound, _⟩ | ⟨_, hnone⟩⟩
      · cases hfound
      · intro hpaused
        rcases hpaused with ⟨item, task, hstartable, _⟩
        exact hnone item task hstartable
  exact hdecides w₀ rfl

end Pipeline

/-!
## A pause during the push
-/

def pausedCalls : MergeCalls :=
  { calmCalls with
    push := fun _ _ _ =>
      { others := [.pause "task-1" "operator-1"]
        outcome := .ok () } }

theorem pausedCalls_serve : pausedCalls.Serve OperatorRequest := by
  have hcalm := calmCalls_serve OperatorRequest
  refine { hcalm with push := ?_ }
  intro _ _ _ r hr
  rw [List.mem_singleton.mp hr]
  trivial

theorem merge_commits_faithful_pausedCalls :
    (forall c, c ∈ (executeMerge pausedCalls.ports mergeParams preparedWorld).commits ->
      FaithfulCommit c.1 c.2) <->
      ¬ PausedDuringMerge pausedCalls mergeParams preparedWorld.store :=
  merge_commits_faithful_iff pausedCalls_serve mergeParams preparedWorld

/-- The pause succeeds, and the last transaction overwrites the status it has left. -/
theorem paused_task_overwritten :
    ¬ (forall c, c ∈ (executeMerge pausedCalls.ports mergeParams preparedWorld).commits ->
      FaithfulCommit c.1 c.2) := by
  intro h
  have hoverwritten : exists c,
      c ∈ (executeMerge pausedCalls.ports mergeParams preparedWorld).commits ∧
        (c.1.store.findTask "task-1").map Task.status = some .escalated ∧
        (c.2.store.findTask "task-1").map Task.status = some .postMergeValidation := by
    decide +kernel
  rcases hoverwritten with ⟨c, hc, hbefore, hafter⟩
  rcases Option.map_eq_some_iff.mp hbefore with ⟨task, htask, hescalated⟩
  rcases Option.map_eq_some_iff.mp hafter with ⟨task', htask', hwritten⟩
  have hne : task' ≠ task := by
    intro heq
    rw [heq, hescalated] at hwritten
    cases hwritten
  exact ((h c hc).writes "task-1" task task' htask htask' hne).1 hescalated

end Merging
end CopilotFactory
