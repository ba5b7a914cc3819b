import CopilotFactory.Merging.MergeRuns

/-!
# Merges that strand their task

A merge should not end with its task in MERGING and nothing left that moves it.
Only two transactions take the task out of MERGING: the one that finishes the
merge, and the one that settles a conflict, which is refused when the metadata of
the task has been edited since the merge started.  Every other way to end leaves
the task behind.
-/

namespace CopilotFactory
namespace Merging

open Foundations
open Domain
open Infrastructure
open Application
open ControlPlane

/-!
## Edits while the executor awaits
-/

def EditRequest (r : Request) : Prop :=
  exists taskId dto, r = .updateTask taskId dto

def EditsAt (taskId : TaskId) (version : Nat) (r : Request) : Prop :=
  exists dto : UpdateTaskDto, r = .updateTask taskId dto ∧ dto.version = version

def EditedBy (taskId : TaskId) (version : Nat) (requests : List Request) : Prop :=
  exists r, r ∈ requests ∧ EditsAt taskId version r

theorem editedBy_append {taskId : TaskId} {version : Nat} {first second : List Request} :
    EditedBy taskId version (first ++ second) <->
      EditedBy taskId version first ∨ EditedBy taskId version second := by
  unfold EditedBy
  simp [or_and_right, exists_or]

/-- The item is in the status and its task MERGING, at the version that the executor
remembers unless it has been edited. -/
structure AwaitingEdits (params : ExecuteMergeParams) (task : Task)
    (status : MergeQueueItemStatus) (edited : Prop) (s : Store) : Prop where
  item : ItemIn params task.taskId status s
  stored : exists current,
    s.findTask task.taskId = some current ∧
    current.status = .merging ∧
    task.version ≤ current.version ∧
    (current.version = task.version <-> ¬ edited)

def TaskMoved (params : ExecuteMergeParams) (taskId : TaskId) (s : Store) : Prop :=
  (exists status, ItemIn params taskId status s) ∧
    exists current, s.findTask taskId = some current ∧ current.status ≠ .merging

section Edits

variable {params : ExecuteMergeParams} {task : Task} {status : MergeQueueItemStatus}
  {edited : Prop} {s s' : Store}

theorem edit_next (s : Store) (taskId : TaskId) (dto : UpdateTaskDto) :
    (controlPlane.next s (.updateTask taskId dto) = s ∧
      forall current, s.findTask taskId = some current -> current.version ≠ dto.version) ∨
    exists current data,
      s.findTask taskId = some current ∧
      current.version = dto.version ∧
      data.status = none ∧
      controlPlane.next s (.updateTask taskId dto) =
        s.writeTask taskId (current.version + 1) data := by
  cases hstep : controlPlane.step s (.updateTask taskId dto) with
  | error e =>
      refine Or.inl ⟨controlPlane.next_of_error hstep, ?_⟩
      intro current hcurrent hversion
      have hupdate := Store.updateTask_of_find hcurrent (editedColumns dto)
      rw [hversion] at hupdate
      have haccepted : exists s' result, updateTask taskId dto s = .ok (s', result) := by
        unfold updateTask
        simp only [hcurrent, hupdate]
        exact ⟨_, _, rfl⟩
      rcases haccepted with ⟨s', result, haccepted⟩
      have hok : controlPlane.step s (.updateTask taskId dto) = .ok s' :=
        committed_eq_ok.mpr ⟨result, haccepted⟩
      rw [hok] at hstep
      cases hstep
  | ok s' =>
      rw [controlPlane.next_of_ok hstep]
      rcases committed_eq_ok.mp hstep with ⟨result, h⟩
      cases hcurrent : s.findTask taskId with
      | none =>
          simp only [updateTask, hcurrent] at h
          cases h
          refine Or.inl ⟨rfl, ?_⟩
          intro current hfound
          cases hfound
      | some current =>
          right
          simp only [updateTask, hcurrent] at h
          split at h
          · rename_i written hwritten
            cases h
            rcases Store.updateTask_eq_ok.mp hwritten with ⟨found, hfound, hversion, hs'⟩
            rw [hcurrent] at hfound
            cases hfound
            exact ⟨current, (editedColumns dto), rfl, hversion, rfl,
              by rw [hs', hversion]⟩
          · cases h

theorem AwaitingEdits.next (h : AwaitingEdits params task status edited s) {r : Request}
    (hr : EditRequest r) :
    AwaitingEdits params task status (edited ∨ EditsAt task.taskId task.version r)
      (controlPlane.next s r) := by
  rcases h with ⟨hitem, current, hcurrent, hstatus, hle, hversion⟩
  rcases hr with ⟨taskId, dto, hr⟩
  rw [hr]
  rcases edit_next s taskId dto with
    ⟨hnext, hrefused⟩ | ⟨found, data, hfound, hdto, hdata, hnext⟩
  · rw [hnext]
    refine ⟨hitem, current, hcurrent, hstatus, hle, ?_⟩
    rw [hversion]
    constructor
    · intro hno hor
      rcases hor with hedited | ⟨dto', heq, hat⟩
      · exact hno hedited
      · cases heq
        exact hrefused current hcurrent ((hversion.mpr hno).trans hat.symm)
    · intro hno hedited
      exact hno (Or.inl hedited)
  · rw [hnext]
    refine ⟨hitem.of_items_eq rfl, ?_⟩
    by_cases hid : task.taskId = taskId
    · rw [hid] at hcurrent
      rw [hcurrent] at hfound
      cases hfound
      refine ⟨data.apply (current.version + 1) current, ?_, ?_, Nat.le_succ_of_le hle, ?_⟩
      · rw [hid, Store.findTask_writeTask_self, hcurrent]
        rfl
      · rw [TaskUpdate.apply_status, hdata]
        exact hstatus
      · constructor
        · intro hsame
          exact absurd hsame (Nat.ne_of_gt (Nat.lt_succ_of_le hle))
        · intro hno
          -- The edit was made at the remembered version, or one came before it.
          exfalso
          apply hno
          by_cases hat : current.version = task.version
          · exact Or.inr ⟨dto, by rw [hid], hdto.symm.trans hat⟩
          · left
            by_contra hedited
            exact hat (hversion.mpr hedited)
    · refine ⟨current, ?_, hstatus, hle, ?_⟩
      · rw [Store.findTask_writeTask_of_ne hid]
        exact hcurrent
      · rw [hversion]
        constructor
        · intro hno hor
          rcases hor with hedited | ⟨dto', heq, _⟩
          · exact hno hedited
          · cases heq
            exact hid rfl
        · intro hno hedited
          exact hno (Or.inl hedited)

theorem AwaitingEdits.run {requests : List Request}
    (hrequests : forall r, r ∈ requests -> EditRequest r)
    (h : AwaitingEdits params task status edited s) :
    AwaitingEdits params task status
      (edited ∨ EditedBy task.taskId task.version requests)
      (controlPlane.run s requests) :=
  TransitionSystem.run_of_told (fun _ _ _ hr hs => hs.next hr) hrequests h

theorem taskMoved_preserved (params : ExecuteMergeParams) (taskId : TaskId) :
    controlPlane.Preserves EditRequest (TaskMoved params taskId) := by
  intro s r s' hr h hstep
  rcases h with ⟨⟨status, hitem⟩, current, hcurrent, hstatus⟩
  rcases hr with ⟨id, dto, hr⟩
  rw [hr] at hstep
  have hs' := controlPlane.next_of_ok hstep
  rcases edit_next s id dto with ⟨hnext, _⟩ | ⟨found, data, hfound, _, hdata, hnext⟩
  · rw [hnext] at hs'
    rw [← hs']
    exact ⟨⟨status, hitem⟩, current, hcurrent, hstatus⟩
  · rw [hnext] at hs'
    rw [← hs']
    refine ⟨⟨status, hitem.of_items_eq rfl⟩, ?_⟩
    by_cases hid : taskId = id
    · rw [hid] at hcurrent ⊢
      rw [hcurrent] at hfound
      cases hfound
      refine ⟨data.apply (current.version + 1) current, ?_, ?_⟩
      · rw [Store.findTask_writeTask_self, hcurrent]
        rfl
      · rw [TaskUpdate.apply_status, hdata]
        exact hstatus
    · refine ⟨current, ?_, hstatus⟩
      rw [Store.findTask_writeTask_of_ne hid]
      exact hcurrent

end Edits

/-!
## Consistent endings
-/

/-- The item is over for now and its task is still MERGING. -/
def Stranded (params : ExecuteMergeParams) (s : Store) : Prop :=
  exists item task,
    s.findItem params.mergeQueueItemId = some item ∧
    s.findTask item.taskId = some task ∧
    (isTerminalMergeQueueItemState item.status = true ∨ item.status = .requeued) ∧
    task.status = .merging

def UnderWay (params : ExecuteMergeParams) (s : Store) : Prop :=
  exists item task,
    s.findItem params.mergeQueueItemId = some item ∧
    s.findTask item.taskId = some task ∧
    item.status ∈ [MergeQueueItemStatus.rebasing, .validating, .merging] ∧
    task.status = .merging

/-- How a run may end: its task is not left in MERGING once the item is over, nor when
the run has thrown after the merge was started. -/
structure ConsistentEnd (params : ExecuteMergeParams) (started : Prop)
    (r : Except Thrown ExecuteMergeResult) (s : Store) : Prop where
  settled : ¬ Stranded params s
  thrown : started -> (exists e, r = .error e) -> ¬ UnderWay params s

section Endings

variable {params : ExecuteMergeParams} {task : Task} {status : MergeQueueItemStatus}
  {edited started : Prop} {r : Except Thrown ExecuteMergeResult} {s : Store}

theorem consistentEnd_of_moved {taskId : TaskId} (h : TaskMoved params taskId s) :
    ConsistentEnd params started r s := by
  rcases h with ⟨⟨_, item, hitem, htaskId, _⟩, current, hcurrent, hstatus⟩
  have hnone : forall item' task', s.findItem params.mergeQueueItemId = some item' ->
      s.findTask item'.taskId = some task' -> task'.status ≠ .merging := by
    intro item' task' hitem' htask'
    rw [hitem] at hitem'
    cases hitem'
    rw [htaskId, hcurrent] at htask'
    cases htask'
    exact hstatus
  constructor
  · intro hstranded
    rcases hstranded with ⟨item', task', hitem', htask', _, hmerging⟩
    exact hnone item' task' hitem' htask' hmerging
  · intro _ _ hunderWay
    rcases hunderWay with ⟨item', task', hitem', htask', _, hmerging⟩
    exact hnone item' task' hitem' htask' hmerging

theorem not_consistentEnd_of_over (h : AwaitingEdits params task status edited s)
    (hover : isTerminalMergeQueueItemState status = true) :
    ¬ ConsistentEnd params started r s := by
  intro hend
  rcases h with ⟨⟨item, hitem, htaskId, hstatus⟩, current, hcurrent, hmerging, _⟩
  apply hend.settled
  refine ⟨item, current, hitem, ?_, Or.inl ?_, hmerging⟩
  · rw [htaskId]
    exact hcurrent
  · rw [hstatus]
    exact hover

theorem not_consistentEnd_of_thrown (h : AwaitingEdits params task status edited s)
    (hunderWay : status ∈ [MergeQueueItemStatus.rebasing, .validating, .merging])
    (hr : exists e, r = .error e) :
    ¬ ConsistentEnd params True r s := by
  intro hend
  rcases h with ⟨⟨item, hitem, htaskId, hstatus⟩, current, hcurrent, hmerging, _⟩
  apply hend.thrown trivial hr
  refine ⟨item, current, hitem, ?_, ?_, hmerging⟩
  · rw [htaskId]
    exact hcurrent
  · rw [hstatus]
    exact hunderWay

end Endings

/-!
## How a started merge ends
-/

section Pipeline

variable {γ : Type} {params : ExecuteMergeParams} {task : Task}
  {status : MergeQueueItemStatus} {edited : Prop}

/-- A started run ends consistently exactly under the condition. -/
def EndsIf (params : ExecuteMergeParams) (X : Prop)
    (r : Except Thrown ExecuteMergeResult) (w : World γ) : Prop :=
  ConsistentEnd params True r w.store <-> X

theorem await_edits {α : Type} {call : Call α}
    (hothers : forall r, r ∈ call.others -> EditRequest r) :
    Process.Triple Process.AnyCommit
      (fun w : World γ => AwaitingEdits params task status edited w.store) call.await
      (fun r w => r = call.outcome.mapError .port ∧
        AwaitingEdits params task status
          (edited ∨ EditedBy task.taskId task.version call.others) w.store) :=
  Process.Triple.await (fun _ hw => ⟨rfl, hw.run hothers⟩)

theorem moveItem_edits (move : ItemMove) (progress : MergeProgress) :
    Process.Triple Process.AnyCommit
      (fun w : World γ => AwaitingEdits params task move.source edited w.store)
      (onStore (moveItem params move progress))
      (fun r w => (exists moved, r = .ok moved ∧ moved.task = progress.task) ∧
        AwaitingEdits params task move.target edited w.store) := by
  apply Process.Triple.transaction
  · intro w s' moved hw hcall
    rcases moveItem_spec hw.item hcall with ⟨hitem, htasks, htask⟩
    rcases hw.stored with ⟨current, hcurrent, hrest⟩
    refine ⟨⟨⟨moved, rfl, htask⟩, hitem, current, ?_, hrest⟩, trivial⟩
    rw [Store.findTask_of_tasks_eq htasks]
    exact hcurrent
  · intro w e hw hcall
    rcases moveItem_accepts progress hw.item with ⟨s', moved, haccepts⟩
    rw [haccepts] at hcall
    cases hcall

theorem moveItem_strands (move : ItemMove) {X : Prop} {progress : MergeProgress}
    (hover : isTerminalMergeQueueItemState move.target = true) (hX : ¬ X)
    (f : MergeProgress -> ExecuteMergeResult) :
    Process.Triple Process.AnyCommit
      (fun w : World γ => AwaitingEdits params task move.source edited w.store)
      (onStore (moveItem params move progress) >>= fun moved => pure (f moved))
      (EndsIf params X) := by
  apply Process.Triple.bind (moveItem_edits move progress)
  · intro moved
    apply Process.Triple.pure
    intro w hw
    constructor
    · intro hend
      exact absurd hend (not_consistentEnd_of_over hw.2 hover)
    · intro hx
      exact absurd hx hX
  · intro e w hw
    rcases hw.1 with ⟨_, hmoved, _⟩
    cases hmoved

theorem endsIf_of_thrown {X : Prop} {e : Thrown} {w : World γ}
    (h : AwaitingEdits params task status edited w.store)
    (hunderWay : status ∈ [MergeQueueItemStatus.rebasing, .validating, .merging])
    (hX : ¬ X) :
    EndsIf params X (.error e) w := by
  constructor
  · intro hend
    exact absurd hend (not_consistentEnd_of_thrown h hunderWay ⟨e, rfl⟩)
  · intro hx
    exact absurd hx hX

variable {calls : MergeCalls} {approvedCommitSha : Option String} {sourceBranch : String}
  {validationResult : ValidationRunResult} {progress : MergeProgress}

theorem recordMerge_moved (hcalls : calls.Serve EditRequest) (taskId : TaskId)
    (packet : MergePacket) (progress : MergeProgress) (mergedCommitSha : String) :
    Process.Triple Process.AnyCommit (fun w : World γ => TaskMoved params taskId w.store)
      (recordMerge calls.ports params packet progress mergedCommitSha)
      (fun _ w => TaskMoved params taskId w.store) := by
  unfold recordMerge
  split
  · have hpersist : Process.Triple Process.AnyCommit
        (fun w : World γ => TaskMoved params taskId w.store)
        (calls.persistMergePacket params.mergeQueueItemId packet).await
        (fun _ w => TaskMoved params taskId w.store) := by
      apply Process.Triple.await
      intro w hw
      exact (taskMoved_preserved params taskId).run (hcalls.persistMergePacket _ _) hw
    apply Process.Triple.bind hpersist
    · intro _
      exact Process.Triple.pure (fun _ hw => hw)
    · intro _ _ hw
      exact hw
  · exact Process.Triple.pure (fun _ hw => hw)

/-- The last transaction always takes the task out of MERGING. -/
theorem finishMerge_moves {completedAt : Millis} (htask : progress.task = task) :
    Process.Triple Process.AnyCommit
      (fun w : World γ => AwaitingEdits params task .merging edited w.store)
      (onStore (finishMerge params completedAt progress))
      (fun r w => (exists moved, r = .ok moved) ∧ TaskMoved params task.taskId w.store) := by
  apply Process.Triple.transaction
  · intro w s' moved hw hcall
    rcases hw with ⟨hitem, current, hcurrent, _⟩
    unfold finishMerge at hcall
    rw [htask] at hcall
    rcases moveItemAndTask_spec hitem hcurrent hcall with ⟨_, hitem', hcurrent', _⟩
    refine ⟨⟨⟨moved, rfl⟩, ⟨_, hitem'⟩, _, hcurrent', ?_⟩, trivial⟩
    intro hstatus
    cases hstatus
  · intro w e hw hcall
    rcases hw with ⟨hitem, current, hcurrent, _⟩
    rw [← htask] at hitem hcurrent
    rcases @finishMerge_accepts params w.store completedAt progress current hitem hcurrent with
      ⟨s', moved, haccepts⟩
    rw [haccepts] at hcall
    cases hcall

theorem concludeMerge_ends (hcalls : calls.Serve EditRequest)
    (htask : progress.task = task) :
    Process.Triple Process.AnyCommit
      (fun w : World γ => AwaitingEdits params task .merging edited w.store)
      (concludeMerge calls.ports params approvedCommitSha sourceBranch validationResult
        progress)
      (EndsIf params
        (exists sha, (calls.getHeadSha params.workspacePath).outcome = .ok sha)) := by
  apply Call.bind_await (await_edits (hcalls.getHeadSha params.workspacePath))
  · intro sha hsha
    apply Process.Triple.bind_returns
      ((finishMerge_moves htask).post (fun _ _ h => ⟨h.1, h.2⟩))
    intro finished
    apply (recordMerge_moved hcalls task.taskId _ _ _).post
    intro r w hw
    constructor
    · intro _
      exact ⟨sha, hsha⟩
    · intro _
      exact consistentEnd_of_moved hw
  · intro message hmessage w hw
    apply endsIf_of_thrown hw (by simp)
    intro hhead
    rcases hhead with ⟨sha, hsha⟩
    rw [hmessage] at hsha
    cases hsha

def PushSettles (calls : MergeCalls) (params : ExecuteMergeParams)
    (sourceBranch : String) : Prop :=
  (calls.pushCall params sourceBranch).outcome = .ok () ∧
    exists sha, (calls.getHeadSha params.workspacePath).outcome = .ok sha

theorem settlePush_ends (hcalls : calls.Serve EditRequest) (htask : progress.task = task) :
    Process.Triple Process.AnyCommit
      (fun w : World γ => AwaitingEdits params task .merging edited w.store)
      (settlePush calls.ports params approvedCommitSha sourceBranch validationResult progress
        ((calls.pushCall params sourceBranch).outcome.mapError .port))
      (EndsIf params (PushSettles calls params sourceBranch)) := by
  cases houtcome : (calls.pushCall params sourceBranch).outcome with
  | ok u =>
      apply (concludeMerge_ends hcalls htask).post
      intro r w hends
      unfold EndsIf at hends ⊢
      rw [hends]
      constructor
      · intro hhead
        exact ⟨houtcome, hhead⟩
      · intro hsettles
        exact hsettles.2
  | error message =>
      apply moveItem_strands (pushFailedMove calls.completedAt) rfl
      intro hsettles
      have hpushed := hsettles.1
      rw [houtcome] at hpushed
      cases hpushed

theorem pushMerge_ends (hcalls : calls.Serve EditRequest) (htask : progress.task = task) :
    Process.Triple Process.AnyCommit
      (fun w : World γ => AwaitingEdits params task .validating edited w.store)
      (pushMerge calls.ports params approvedCommitSha sourceBranch validationResult progress)
      (EndsIf params (PushSettles calls params sourceBranch)) := by
  apply Process.Triple.bind (moveItem_edits mergingMove progress)
  · intro moved
    apply Process.Triple.of_pure
    intro hknown
    rcases hknown with ⟨_, hmoved, hmovedTask⟩
    cases hmoved
    apply Process.Triple.bind_attempt (await_edits (hcalls.push _ _ _))
    intro pushed w hw
    rcases hw with ⟨hpushed, hw⟩
    rw [hpushed]
    exact settlePush_ends hcalls (hmovedTask.trans htask) w hw
  · intro e w hw
    rcases hw.1 with ⟨_, hmoved, _⟩
    cases hmoved

def ValidationSettles (calls : MergeCalls) (params : ExecuteMergeParams) (taskId : TaskId)
    (sourceBranch : String) : Prop :=
  (exists result,
    (calls.runMergeGateValidation taskId params.workspacePath).outcome = .ok result ∧
    result.overallStatus = .passed) ∧
    PushSettles calls params sourceBranch

theorem validateMerge_ends (hcalls : calls.Serve EditRequest)
    (htask : progress.task = task) :
    Process.Triple Process.AnyCommit
      (fun w : World γ => AwaitingEdits params task .rebasing edited w.store)
      (validateMerge calls.ports params approvedCommitSha sourceBranch progress)
      (EndsIf params (ValidationSettles calls params task.taskId sourceBranch)) := by
  apply Process.Triple.bind (moveItem_edits validatingMove progress)
  · intro moved
    apply Process.Triple.of_pure
    intro hknown
    rcases hknown with ⟨_, hmoved, hmovedTask⟩
    cases hmoved
    have hid : moved.task.taskId = task.taskId := by
      rw [hmovedTask, htask]
    rw [hid]
    apply Call.bind_await (await_edits (hcalls.runMergeGateValidation _ _))
    · intro result hresult
      cases hoverall : result.overallStatus with
      | failed =>
          apply moveItem_strands (validationFailedMove calls.completedAt) rfl
          intro hsettles
          rcases hsettles.1 with ⟨passed, hpassed, hstatus⟩
          rw [hresult] at hpassed
          cases hpassed
          rw [hoverall] at hstatus
          cases hstatus
      | passed =>
          apply (pushMerge_ends hcalls (hmovedTask.trans htask)).post
          intro r w hends
          unfold EndsIf at hends ⊢
          rw [hends]
          constructor
          · intro hpush
            exact ⟨⟨result, hresult, hoverall⟩, hpush⟩
          · intro hsettles
            exact hsettles.2
    · intro message hmessage w hw
      apply endsIf_of_thrown hw (by simp [validatingMove])
      intro hsettles
      rcases hsettles.1 with ⟨result, hresult, _⟩
      rw [hmessage] at hresult
      cases hresult
  · intro e w hw
    rcases hw.1 with ⟨_, hmoved, _⟩
    cases hmoved

/-- A conflict is classified, and the task is not edited before that is settled. -/
def ConflictSettles (calls : MergeCalls) (task : Task) (edited : Prop)
    (conflictFiles : List String) : Prop :=
  (exists classification, (calls.classify conflictFiles).outcome = .ok classification) ∧
    ¬ (edited ∨ EditedBy task.taskId task.version (calls.classify conflictFiles).others)

theorem settleConflict_ends {classification : ConflictClassification} {completedAt : Millis}
    (conflictFiles : List String) (htask : progress.task = task) :
    Process.Triple Process.AnyCommit
      (fun w : World γ => AwaitingEdits params task .rebasing edited w.store)
      (onStore (settleConflict params classification completedAt progress) >>= fun settled =>
        pure (.rebaseConflict settled conflictFiles classification))
      (EndsIf params (¬ edited)) := by
  have hsettle : Process.Triple Process.AnyCommit
      (fun w : World γ => AwaitingEdits params task .rebasing edited w.store)
      (onStore (settleConflict params classification completedAt progress))
      (fun r w => ((exists moved, r = .ok moved) ∧ ¬ edited ∧
          TaskMoved params task.taskId w.store) ∨
        ((exists e, r = .error e) ∧ edited ∧
          AwaitingEdits params task .rebasing edited w.store)) := by
    apply Process.Triple.transaction
    · intro w s' moved hw hcall
      rcases hw with ⟨hitem, current, hcurrent, _, _, hversion⟩
      unfold settleConflict at hcall
      rw [htask] at hcall
      rcases moveItemAndTask_spec hitem hcurrent hcall with ⟨hsame, hitem', hcurrent', _⟩
      simp only [Except.ok.injEq] at hsame
      refine ⟨Or.inl ⟨⟨moved, rfl⟩, hversion.mp hsame.symm, ⟨_, hitem'⟩, _, hcurrent', ?_⟩,
        trivial⟩
      cases classification with
      | reworkable =>
          intro hstatus
          cases hstatus
      | nonReworkable =>
          intro hstatus
          cases hstatus
    · intro w e hw hcall
      refine Or.inr ⟨⟨_, rfl⟩, ?_, hw⟩
      rcases hw with ⟨hitem, current, hcurrent, _, _, hversion⟩
      by_contra hedited
      have hsame : Except.ok progress.task.version =
          (Except.ok current.version : Except ServiceError Nat) := by
        rw [htask, hversion.mpr hedited]
      rw [← htask] at hitem hcurrent
      have haccepts : exists s' moved,
          settleConflict params classification completedAt progress w.store =
            .ok (s', moved) :=
        moveItemAndTask_accepts progress.auditEvents hitem hcurrent hsame
      rcases haccepts with ⟨s', moved, haccepts⟩
      rw [haccepts] at hcall
      cases hcall
  apply Process.Triple.bind hsettle
  · intro settled
    apply Process.Triple.pure
    intro w hw
    rcases hw with ⟨_, hedited, hmoved⟩ | ⟨⟨_, hr⟩, _⟩
    · constructor
      · intro _
        exact hedited
      · intro _
        exact consistentEnd_of_moved hmoved
    · cases hr
  · intro e w hw
    rcases hw with ⟨⟨_, hr⟩, _⟩ | ⟨_, hedited, hw⟩
    · cases hr
    · exact endsIf_of_thrown hw (by simp) (fun hno => hno hedited)

theorem rejectConflict_ends {conflictFiles : List String}
    (hcalls : calls.Serve EditRequest) (htask : progress.task = task) :
    Process.Triple Process.AnyCommit
      (fun w : World γ => AwaitingEdits params task .rebasing edited w.store)
      (rejectConflict calls.ports params conflictFiles progress)
      (EndsIf params (ConflictSettles calls task edited conflictFiles)) := by
  apply Call.bind_await (await_edits (hcalls.classify conflictFiles))
  · intro classification hclassified
    apply (settleConflict_ends conflictFiles htask).post
    intro r w hends
    unfold EndsIf at hends ⊢
    rw [hends]
    constructor
    · intro hno
      exact ⟨⟨classification, hclassified⟩, hno⟩
    · intro hsettles
      exact hsettles.2
  · intro message hmessage w hw
    apply endsIf_of_thrown hw (by simp)
    intro hsettles
    rcases hsettles.1 with ⟨classification, hclassified⟩
    rw [hmessage] at hclassified
    cases hclassified

/-- The ways through the pipeline that take the task out of MERGING: a merge that gets
to its last transaction, and a conflict that is settled before any edit. -/
def MergeSettles (calls : MergeCalls) (params : ExecuteMergeParams) (task : Task) : Prop :=
  (calls.fetch params.workspacePath "origin").outcome = .ok () ∧
    exists sourceBranch result,
      (calls.getCurrentBranch params.workspacePath).outcome = .ok sourceBranch ∧
      (calls.operation params sourceBranch).outcome = .ok result ∧
      ((result.success = true ∧
          ValidationSettles calls params task.taskId sourceBranch) ∨
        (result.success = false ∧
          ConflictSettles calls task
            (EditedBy task.taskId task.version
              ((calls.fetch params.workspacePath "origin").others ++
                (calls.getCurrentBranch params.workspacePath).others ++
                (calls.operation params sourceBranch).others))
            result.conflictFiles))

/-- What is left of the condition once the operation has reported. -/
theorem mergeSettles_iff {result : RebaseResult}
    (hfetched : (calls.fetch params.workspacePath "origin").outcome = .ok ())
    (hbranch : (calls.getCurrentBranch params.workspacePath).outcome = .ok sourceBranch)
    (hresult : (calls.operation params sourceBranch).outcome = .ok result) :
    MergeSettles calls params task <->
      ((result.success = true ∧
          ValidationSettles calls params task.taskId sourceBranch) ∨
        (result.success = false ∧
          ConflictSettles calls task
            (EditedBy task.taskId task.version
              ((calls.fetch params.workspacePath "origin").others ++
                (calls.getCurrentBranch params.workspacePath).others ++
                (calls.operation params sourceBranch).others))
            result.conflictFiles)) := by
  constructor
  · intro h
    rcases h with ⟨_, branch, reported, hbranch', hreported, h⟩
    rw [hbranch] at hbranch'
    cases hbranch'
    rw [hresult] at hreported
    cases hreported
    exact h
  · intro h
    exact ⟨hfetched, sourceBranch, result, hbranch, hresult, h⟩

theorem performMerge_ends (hcalls : calls.Serve EditRequest) (htask : progress.task = task) :
    Process.Triple Process.AnyCommit
      (fun w : World γ => AwaitingEdits params task .rebasing False w.store)
      (performMerge calls.ports params approvedCommitSha progress)
      (EndsIf params (MergeSettles calls params task)) := by
  apply Call.bind_await (await_edits (hcalls.fetch params.workspacePath "origin"))
  · intro fetched hfetched
    apply Call.bind_await (await_edits (hcalls.getCurrentBranch params.workspacePath))
    · intro sourceBranch hbranch
      rw [MergeCalls.mergeOperation_ports]
      apply Call.bind_await (await_edits (hcalls.operation params sourceBranch))
      · intro result hresult
        have hiff := @mergeSettles_iff params task calls sourceBranch result hfetched hbranch
          hresult
        cases hsuccess : result.success with
        | true =>
            apply (validateMerge_ends hcalls htask).post
            intro r w hends
            unfold EndsIf at hends ⊢
            rw [hends, hiff, hsuccess]
            simp
        | false =>
            apply (rejectConflict_ends hcalls htask).post
            intro r w hends
            unfold EndsIf at hends ⊢
            rw [hends, hiff, hsuccess]
            simp only [Bool.false_eq_true, false_and, true_and, false_or, editedBy_append]
      · intro message hmessage w hw
        apply endsIf_of_thrown hw (by simp)
        intro hsettles
        rcases hsettles with ⟨_, branch, reported, hbranch', hreported, _⟩
        rw [hbranch] at hbranch'
        cases hbranch'
        rw [hmessage] at hreported
        cases hreported
    · intro message hmessage w hw
      apply endsIf_of_thrown hw (by simp)
      intro hsettles
      rcases hsettles with ⟨_, branch, _, hbranch, _⟩
      rw [hmessage] at hbranch
      cases hbranch
  · intro message hmessage w hw
    apply endsIf_of_thrown hw (by simp)
    intro hsettles
    have hfetched := hsettles.1
    rw [hmessage] at hfetched
    cases hfetched

theorem startRebase_edits {item : MergeQueueItem} {w₀ : World γ}
    (h : Startable params item task w₀.store) :
    Process.Triple Process.AnyCommit (fun w => w = w₀) (onStore (startRebase params task))
      (fun r w => exists progress, r = .ok progress ∧ progress.task = mergingTask task ∧
        AwaitingEdits params (mergingTask task) .rebasing False w.store) := by
  rcases startRebase_accepts h with ⟨s₁, progress₁, hstart, hmoved, hitem, hstored⟩
  apply Process.Triple.transaction
  · intro w s' progress hw hcall
    rw [hw] at hcall
    rw [hstart] at hcall
    cases hcall
    refine ⟨⟨progress₁, rfl, hmoved, hitem, mergingTask task, hstored, rfl, Nat.le_refl _,
      ?_⟩, trivial⟩
    constructor
    · intro _
      exact not_false
    · intro _
      rfl
  · intro w e hw hcall
    rw [hw, hstart] at hcall
    cases hcall

def Starts (params : ExecuteMergeParams) (s : Store) : Prop :=
  exists item task, Startable params item task s

/-- The merge is started and settles its task, or it is refused and the stored task was
not stranded before. -/
def EndsWell (calls : MergeCalls) (params : ExecuteMergeParams) (s : Store) : Prop :=
  (exists item task, Startable params item task s ∧
    MergeSettles calls params (mergingTask task)) ∨
  (¬ Starts params s ∧ ¬ Stranded params s)

/-- With any outcomes of the ports, and any edits of metadata while they are awaited, a
run ends consistently exactly in the two ways that settle the task, or by refusing a
merge whose task was not stranded before. -/
theorem merge_ends_consistently_iff (hcalls : calls.Serve EditRequest)
    (params : ExecuteMergeParams) (w₀ : World γ) :
    ConsistentEnd params (Starts params w₀.store)
        (executeMerge calls.ports params w₀).result
        (executeMerge calls.ports params w₀).state.store <->
      EndsWell calls params w₀.store := by
  have hends : Process.Triple Process.AnyCommit (fun w => w = w₀)
      (executeMerge calls.ports params)
      (fun r w => ConsistentEnd params (Starts params w₀.store) r w.store <->
        EndsWell calls params w₀.store) := by
    apply Process.Triple.bind (loadMerge_triple (fun _ => trivial) _ _)
    · intro found w hw
      rcases hw with ⟨hw, ⟨item, task, hfound, hstartable⟩ | ⟨⟨_, hfound⟩, _⟩⟩
      · cases hfound
        have hrest : Process.Triple Process.AnyCommit (fun w => w = w₀)
            (do
              let progress ← onStore (startRebase params task)
              performMerge calls.ports params item.approvedCommitSha progress)
            (EndsIf params (MergeSettles calls params (mergingTask task))) := by
          apply Process.Triple.bind (startRebase_edits hstartable)
          · intro progress w hw
            rcases hw with ⟨_, hprogress, htask, hw⟩
            cases hprogress
            exact performMerge_ends hcalls htask w hw
          · intro e w hw
            rcases hw with ⟨_, hprogress, _⟩
            cases hprogress
        have hstarts : Starts params w₀.store := ⟨item, task, hstartable⟩
        have hiff : EndsWell calls params w₀.store <->
            MergeSettles calls params (mergingTask task) := by
          constructor
          · intro hwell
            rcases hwell with ⟨item', task', h', hsettles⟩ | ⟨hno, _⟩
            · rw [(hstartable.unique h').2]
              exact hsettles
            · exact absurd hstarts hno
          · intro hsettles
            exact Or.inl ⟨item, task, hstartable, hsettles⟩
        rw [hiff]
        simp only [hstarts]
        exact hrest w hw
      · cases hfound
    · intro e w hw
      rcases hw with ⟨hw, ⟨_, _, hfound, _⟩ | ⟨_, hnone⟩⟩
      · cases hfound
      · have hno : ¬ Starts params w₀.store := by
          intro hstarts
          rcases hstarts with ⟨item, task, hstartable⟩
          exact hnone item task hstartable
        rw [hw]
        constructor
        · intro hend
          exact Or.inr ⟨hno, hend.settled⟩
        · intro hwell
          rcases hwell with ⟨item, task, hstartable, _⟩ | ⟨_, hstranded⟩
          · exact absurd hstartable (hnone item task)
          · exact ⟨hstranded, fun hstarts => absurd hstarts hno⟩
  exact (hends w₀ rfl).1

end Pipeline

/-!
## A merge whose validation fails
-/

def failedValidationCalls : MergeCalls :=
  { calmCalls with
    runMergeGateValidation := fun _ _ =>
      { outcome := .ok { passedValidation with overallStatus := .failed } } }

theorem failedValidationCalls_serve (A : Request -> Prop) : failedValidationCalls.Serve A := by
  have hcalm := calmCalls_serve A
  refine { hcalm with runMergeGateValidation := ?_ }
  intro _ _ r hr
  cases hr

theorem merge_ends_consistently_failedValidation :
    ConsistentEnd mergeParams (Starts mergeParams preparedWorld.store)
        (executeMerge failedValidationCalls.ports mergeParams preparedWorld).result
        (executeMerge failedValidationCalls.ports mergeParams preparedWorld).state.store <->
      EndsWell failedValidationCalls mergeParams preparedWorld.store :=
  merge_ends_consistently_iff (failedValidationCalls_serve EditRequest) mergeParams
    preparedWorld

/-- The item becomes FAILED, and its task stays MERGING. -/
theorem failed_validation_strands_task :
    ¬ ConsistentEnd mergeParams (Starts mergeParams preparedWorld.store)
      (executeMerge failedValidationCalls.ports mergeParams preparedWorld).result
      (executeMerge failedValidationCalls.ports mergeParams preparedWorld).state.store := by
  intro hend
  apply hend.settled
  have hitem : ((executeMerge failedValidationCalls.ports mergeParams
      preparedWorld).state.store.findItem "item-1").map
        (fun item => (item.taskId, item.status)) = some ("task-1", .failed) := by
    decide +kernel
  have htask : ((executeMerge failedValidationCalls.ports mergeParams
      preparedWorld).state.store.findTask "task-1").map Task.status = some .merging := by
    decide +kernel
  rcases Option.map_eq_some_iff.mp hitem with ⟨item, hitem, hfields⟩
  rcases Option.map_eq_some_iff.mp htask with ⟨task, htask, hstatus⟩
  simp only [Prod.mk.injEq] at hfields
  refine ⟨item, task, hitem, ?_, Or.inl ?_, hstatus⟩
  · rw [hfields.1]
    exact htask
  · rw [hfields.2]
    rfl

end Merging
end CopilotFactory
