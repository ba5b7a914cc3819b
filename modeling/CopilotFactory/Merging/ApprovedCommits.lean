import CopilotFactory.ControlPlane.TaskEffects
import CopilotFactory.Merging.MergeRuns

/-!
# Approved commits

An item carries the commit that was approved.  What is integrated is the head of
the source branch when the command of the strategy is run.  The executor is run
here on a workspace to whose source branch others commit, before it and while it
awaits its ports.
-/

namespace CopilotFactory
namespace Merging

open Foundations
open Domain
open Infrastructure
open Application
open ControlPlane

/-- The head of the source branch, and the head that was rebased, squashed or merged. -/
structure SourceBranch where
  head : String
  integrated : Option String

def headAfter (commits : List String) (head : String) : String :=
  commits.foldl (fun _ commit => commit) head

def SourceBranch.commit (commits : List String) (branch : SourceBranch) : SourceBranch :=
  { branch with head := headAfter commits branch.head }

/-- A call of a port: what others request and commit while it is awaited, and its
outcome. -/
structure BranchCall (α : Type) where
  others : List Request := []
  commits : List String := []
  outcome : Except String α

def BranchCall.await {α : Type} (call : BranchCall α) :
    Process (World SourceBranch) Thrown α :=
  Process.await
    (fun w =>
      { store := controlPlane.run w.store call.others
        outer := w.outer.commit call.commits })
    (call.outcome.mapError .port)

structure BranchCalls where
  fetch : BranchCall Unit
  getCurrentBranch : BranchCall String
  operation : BranchCall MergeOperationResult
  runMergeGateValidation : BranchCall ValidationRunResult
  push : BranchCall Unit
  getHeadSha : BranchCall String
  classify : BranchCall ConflictClassification
  persistMergePacket : BranchCall String
  completedAt : Millis
  createdAt : Millis

namespace BranchCalls

/-- The command works on the head that it finds; what it makes of the branch is not read
again. -/
def runOperation (calls : BranchCalls) :
    Process (World SourceBranch) Thrown MergeOperationResult := do
  let result ← calls.operation.await
  onOuter (fun _ branch => .ok ({ branch with integrated := some branch.head }, result))

def ports (calls : BranchCalls) : MergeExecutorPorts SourceBranch where
  fetch := fun _ _ => calls.fetch.await
  rebase := fun _ _ => calls.runOperation
  squashMerge := fun _ _ _ _ => calls.runOperation
  mergeCommit := fun _ _ _ => calls.runOperation
  push := fun _ _ _ => calls.push.await
  getHeadSha := fun _ => calls.getHeadSha.await
  getCurrentBranch := fun _ => calls.getCurrentBranch.await
  runMergeGateValidation := fun _ _ => calls.runMergeGateValidation.await
  classify := fun _ => calls.classify.await
  persistMergePacket := fun _ _ => calls.persistMergePacket.await
  completedAt := calls.completedAt
  createdAt := calls.createdAt

theorem mergeOperation_ports (calls : BranchCalls) (params : ExecuteMergeParams)
    (sourceBranch : String) :
    mergeOperation calls.ports params sourceBranch = calls.runOperation := by
  unfold mergeOperation
  cases params.mergeStrategy <;> rfl

def commitsBefore (calls : BranchCalls) : List String :=
  calls.fetch.commits ++ calls.getCurrentBranch.commits ++ calls.operation.commits

end BranchCalls

/-!
## The store while the executor awaits
-/

structure Pending (params : ExecuteMergeParams) (task : Task)
    (status : MergeQueueItemStatus) (s : Store) : Prop where
  item : ItemIn params task.taskId status s
  stored : exists current, s.findTask task.taskId = some current ∧
    current.repositoryId = task.repositoryId

section Pending

variable {params : ExecuteMergeParams} {task : Task} {status : MergeQueueItemStatus}
  {s s' : Store}

theorem Pending.of_tasks_eq {status' : MergeQueueItemStatus}
    (h : Pending params task status s) (hitem : ItemIn params task.taskId status' s')
    (htasks : s'.tasks = s.tasks) :
    Pending params task status' s' := by
  refine ⟨hitem, ?_⟩
  rw [Store.findTask_of_tasks_eq htasks]
  exact h.stored

theorem Pending.perform (h : Pending params task status s) {r : Request}
    (hperform : ControlPlane.perform s r = .ok s') :
    Pending params task status s' := by
  rcases taskEffect_of_perform hperform with ⟨hitems, heffect⟩
  have hitem := h.item.of_items_eq hitems
  cases heffect with
  | unchanged htasks =>
      exact h.of_tasks_eq hitem htasks
  | created new hnew _ _ hother =>
      rcases h.stored with ⟨current, hcurrent, hrepository⟩
      have hne : task.taskId ≠ new.taskId := by
        intro heq
        rw [heq, hnew] at hcurrent
        cases hcurrent
      refine ⟨hitem, current, ?_, hrepository⟩
      rw [hother task.taskId hne]
      exact hcurrent
  | written taskId found data hfind htasks =>
      rcases h.stored with ⟨current, hcurrent, hrepository⟩
      refine ⟨hitem, ?_⟩
      rw [Store.findTask_of_tasks_eq htasks]
      by_cases hid : task.taskId = taskId
      · rw [← hid] at hfind ⊢
        rw [hcurrent, Option.some.injEq] at hfind
        rw [← hfind]
        refine ⟨data.apply (current.version + 1) current, ?_, hrepository⟩
        rw [Store.findTask_writeTask_self, hcurrent]
        rfl
      · refine ⟨current, ?_, hrepository⟩
        rw [Store.findTask_writeTask_of_ne hid]
        exact hcurrent

theorem Pending.run (h : Pending params task status s) (requests : List Request) :
    Pending params task status (controlPlane.run s requests) := by
  have hpreserved : controlPlane.Preserves (fun _ => True) (Pending params task status) :=
    fun _ _ _ _ hs hstep => hs.perform hstep
  exact hpreserved.run (fun _ _ => trivial) h

structure Remembers (progress : MergeProgress) (task : Task) : Prop where
  taskId : progress.task.taskId = task.taskId
  repositoryId : progress.task.repositoryId = task.repositoryId

theorem moveItem_pending {move : ItemMove} (progress : MergeProgress)
    (h : Pending params task move.source s) (hremembers : Remembers progress task) :
    exists s' moved, moveItem params move progress s = .ok (s', moved) ∧
      Pending params task move.target s' ∧ Remembers moved task := by
  rcases moveItem_accepts progress h.item with ⟨s', moved, hmove⟩
  rcases moveItem_spec h.item hmove with ⟨hitem, htasks, hmoved⟩
  refine ⟨s', moved, hmove, h.of_tasks_eq hitem htasks, ?_⟩
  constructor
  · rw [hmoved]
    exact hremembers.taskId
  · rw [hmoved]
    exact hremembers.repositoryId

theorem finishMerge_pending {completedAt : Millis} {progress : MergeProgress}
    (h : Pending params task .merging s) (hremembers : Remembers progress task) :
    exists s' moved, finishMerge params completedAt progress s = .ok (s', moved) ∧
      Remembers moved task := by
  rcases h.stored with ⟨current, hcurrent, hrepository⟩
  have hitem := h.item
  rw [← hremembers.taskId] at hitem hcurrent
  have hfinish : exists s' moved,
      finishMerge params completedAt progress s = .ok (s', moved) :=
    finishMerge_accepts hitem hcurrent
  rcases hfinish with ⟨s', moved, hfinish⟩
  rcases moveItemAndTask_spec hitem hcurrent hfinish with ⟨_, _, _, hmoved⟩
  refine ⟨s', moved, hfinish, ?_⟩
  constructor
  · rw [hmoved, ← hremembers.taskId]
    exact (Store.taskId_of_findTask hcurrent : current.taskId = progress.task.taskId)
  · rw [hmoved, ← hrepository]
    rfl

theorem startRebase_pending {item : MergeQueueItem} (h : Startable params item task s) :
    exists s' progress, startRebase params task s = .ok (s', progress) ∧
      Pending params task .rebasing s' ∧ Remembers progress task := by
  rcases startRebase_accepts h with ⟨s', progress, hstart, hmoved, hitem, htask⟩
  refine ⟨s', progress, hstart, ⟨hitem, mergingTask task, htask, rfl⟩, ?_⟩
  constructor
  · rw [hmoved]
    rfl
  · rw [hmoved]
    rfl

end Pending

/-!
## Merges that are reported
-/

/-- The run reports a merge, and leaves this as the head that was integrated. -/
def Reports (p : Process (World SourceBranch) Thrown ExecuteMergeResult)
    (w : World SourceBranch) (integrated : Option String) : Prop :=
  exists progress packet artifactPath mergedCommitSha w',
    Process.Returns p w (.merged progress packet artifactPath mergedCommitSha) w' ∧
    w'.outer.integrated = integrated

def BranchCall.worldAfter {α : Type} (call : BranchCall α) (w : World SourceBranch) :
    World SourceBranch :=
  { store := controlPlane.run w.store call.others
    outer := w.outer.commit call.commits }

section Reported

variable {calls : BranchCalls} {params : ExecuteMergeParams} {w : World SourceBranch}
  {integrated : Option String} {task : Task} {progress : MergeProgress} {α : Type}
  {approvedCommitSha : Option String} {sourceBranch : String}
  {validationResult : ValidationRunResult}

variable {f : α -> Process (World SourceBranch) Thrown ExecuteMergeResult}

theorem reports_bind {p : Process (World SourceBranch) Thrown α} :
    Reports (p >>= f) w integrated <->
      exists a w', Process.Returns p w a w' ∧ Reports (f a) w' integrated := by
  unfold Reports
  simp only [Process.returns_bind]
  constructor
  · intro h
    rcases h with ⟨progress, packet, path, sha, w'', ⟨a, w', hp, hf⟩, hends⟩
    exact ⟨a, w', hp, progress, packet, path, sha, w'', hf, hends⟩
  · intro h
    rcases h with ⟨a, w', hp, progress, packet, path, sha, w'', hf, hends⟩
    exact ⟨progress, packet, path, sha, w'', ⟨a, w', hp, hf⟩, hends⟩

theorem reports_onStore {call : Store -> Except ServiceError (Store × α)} {s' : Store} {a : α}
    (h : call w.store = .ok (s', a)) :
    Reports (onStore call >>= f) w integrated <->
      Reports (f a) { w with store := s' } integrated := by
  rw [reports_bind]
  exact exists_returns_onStore h

theorem returns_branchCall {call : BranchCall α} {a : α} {w' : World SourceBranch} :
    Process.Returns call.await w a w' <->
      call.outcome = .ok a ∧ w' = call.worldAfter w := by
  unfold BranchCall.await
  rw [Process.returns_await, mapError_eq_ok]
  rfl

theorem reports_await {call : BranchCall α} :
    Reports (call.await >>= f) w integrated <->
      exists a, call.outcome = .ok a ∧ Reports (f a) (call.worldAfter w) integrated := by
  rw [reports_bind]
  simp only [returns_branchCall]
  constructor
  · intro h
    rcases h with ⟨a, w', ⟨houtcome, hw'⟩, hf⟩
    rw [hw'] at hf
    exact ⟨a, houtcome, hf⟩
  · intro h
    rcases h with ⟨a, houtcome, hf⟩
    exact ⟨a, _, ⟨houtcome, rfl⟩, hf⟩

theorem not_reports_pure {p : Process (World SourceBranch) Thrown α}
    {f : α -> ExecuteMergeResult}
    (hf : forall a progress packet path merged, f a ≠ .merged progress packet path merged) :
    ¬ Reports (p >>= fun a => pure (f a)) w integrated := by
  intro h
  rcases reports_bind.mp h with ⟨a, w', _, progress, packet, path, sha, w'', hpure, _⟩
  exact hf a progress packet path sha (Process.returns_pure.mp hpure).1.symm

def PacketStored (calls : BranchCalls) (packet : MergePacket) : Prop :=
  mergePacketSchema packet = true ->
    exists artifactPath, calls.persistMergePacket.outcome = .ok artifactPath

theorem recordMerge_reports {packet : MergePacket} {mergedCommitSha : String} :
    Reports (recordMerge calls.ports params packet progress mergedCommitSha) w integrated <->
      PacketStored calls packet ∧ integrated = w.outer.integrated := by
  unfold recordMerge PacketStored
  cases hschema : mergePacketSchema packet with
  | true =>
      simp only [if_true, BranchCalls.ports]
      rw [reports_await]
      unfold Reports
      simp only [Process.returns_pure]
      constructor
      · intro h
        rcases h with ⟨path, houtcome, _, _, _, _, w', ⟨_, hw'⟩, hends⟩
        rw [hw'] at hends
        exact ⟨fun _ => ⟨path, houtcome⟩, hends.symm⟩
      · intro h
        rcases h with ⟨hstored, hintegrated⟩
        rcases hstored trivial with ⟨path, houtcome⟩
        exact ⟨path, houtcome, _, _, _, _, _, ⟨rfl, rfl⟩, hintegrated.symm⟩
  | false =>
      simp only [Bool.false_eq_true, if_false, Reports, Process.returns_pure]
      constructor
      · intro h
        rcases h with ⟨_, _, _, _, w', ⟨_, hw'⟩, hends⟩
        rw [hw'] at hends
        exact ⟨fun hno => absurd hno id, hends.symm⟩
      · intro h
        exact ⟨_, _, _, _, _, ⟨rfl, rfl⟩, h.2.symm⟩

theorem mergePacketData_congr {task' : Task} (h : task'.taskId = task.taskId)
    (h' : task'.repositoryId = task.repositoryId) (mergedCommitSha : String) :
    mergePacketData calls.ports params approvedCommitSha sourceBranch validationResult task'
        mergedCommitSha =
      mergePacketData calls.ports params approvedCommitSha sourceBranch validationResult task
        mergedCommitSha := by
  unfold mergePacketData
  rw [h, h']

/-- The calls after the validation succeed, and the packet is stored. -/
structure Concludes (calls : BranchCalls) (params : ExecuteMergeParams)
    (approvedCommitSha : Option String) (sourceBranch : String)
    (validationResult : ValidationRunResult) (task : Task) : Prop where
  recorded : exists mergedCommitSha,
    calls.getHeadSha.outcome = .ok mergedCommitSha ∧
    PacketStored calls (mergePacketData calls.ports params approvedCommitSha sourceBranch
      validationResult task mergedCommitSha)

theorem concludeMerge_reports (h : Pending params task .merging w.store)
    (hremembers : Remembers progress task) :
    Reports (concludeMerge calls.ports params approvedCommitSha sourceBranch
        validationResult progress) w integrated <->
      Concludes calls params approvedCommitSha sourceBranch validationResult task ∧
        integrated = w.outer.integrated := by
  have hpending := h.run calls.getHeadSha.others
  rcases @finishMerge_pending params task (calls.getHeadSha.worldAfter w).store
    calls.completedAt progress hpending hremembers with ⟨s', moved, hfinish, hmoved⟩
  change Reports (calls.getHeadSha.await >>= _) w integrated <-> _
  rw [reports_await]
  constructor
  · intro hreports
    rcases hreports with ⟨merged, houtcome, hreports⟩
    have hrecord := (reports_onStore hfinish).mp hreports
    rw [mergePacketData_congr hmoved.taskId hmoved.repositoryId, recordMerge_reports]
      at hrecord
    exact ⟨⟨merged, houtcome, hrecord.1⟩, hrecord.2⟩
  · intro hconcludes
    rcases hconcludes with ⟨⟨merged, houtcome, hstored⟩, hintegrated⟩
    refine ⟨merged, houtcome, (reports_onStore hfinish).mpr ?_⟩
    rw [mergePacketData_congr hmoved.taskId hmoved.repositoryId, recordMerge_reports]
    exact ⟨hstored, hintegrated⟩

theorem reports_attempt {call : BranchCall α}
    {f : Except Thrown α -> Process (World SourceBranch) Thrown ExecuteMergeResult}
    (herror : forall e w', ¬ Reports (f (.error e)) w' integrated) :
    Reports (Process.attempt call.await >>= f) w integrated <->
      exists a, call.outcome = .ok a ∧
        Reports (f (.ok a)) (call.worldAfter w) integrated := by
  unfold Reports
  simp only [Process.returns_attempt_bind, returns_branchCall]
  constructor
  · intro h
    rcases h with ⟨progress, packet, path, sha, w'', ⟨a, w', ⟨houtcome, hw'⟩, hf⟩ |
      ⟨e, _, hf⟩, hends⟩
    · rw [hw'] at hf
      exact ⟨a, houtcome, progress, packet, path, sha, w'', hf, hends⟩
    · exact absurd ⟨progress, packet, path, sha, w'', hf, hends⟩ (herror e _)
  · intro h
    rcases h with ⟨a, houtcome, progress, packet, path, sha, w'', hf, hends⟩
    exact ⟨progress, packet, path, sha, w'', Or.inl ⟨a, _, ⟨houtcome, rfl⟩, hf⟩, hends⟩

theorem pushMerge_reports (h : Pending params task .validating w.store)
    (hremembers : Remembers progress task) :
    Reports (pushMerge calls.ports params approvedCommitSha sourceBranch validationResult
        progress) w integrated <->
      calls.push.outcome = .ok () ∧
        Concludes calls params approvedCommitSha sourceBranch validationResult task ∧
        integrated = w.outer.integrated := by
  have hmove : exists s' moved, startPush params progress w.store = .ok (s', moved) ∧
      Pending params task .merging s' ∧ Remembers moved task :=
    moveItem_pending progress h hremembers
  rcases hmove with ⟨s', moved, hmove, hpending, hmoved⟩
  unfold pushMerge
  rw [reports_onStore hmove]
  change Reports (Process.attempt calls.push.await >>= _) _ integrated <-> _
  rw [reports_attempt (fun e w' => not_reports_pure (by simp))]
  have hconclude : Reports (concludeMerge calls.ports params approvedCommitSha sourceBranch
      validationResult moved) (calls.push.worldAfter { w with store := s' }) integrated <->
      _ :=
    concludeMerge_reports (hpending.run calls.push.others) hmoved
  constructor
  · intro hreports
    rcases hreports with ⟨_, houtcome, hreports⟩
    exact ⟨houtcome, hconclude.mp hreports⟩
  · intro hreports
    exact ⟨(), hreports.1, hconclude.mpr hreports.2⟩

theorem validateMerge_reports (h : Pending params task .rebasing w.store)
    (hremembers : Remembers progress task) :
    Reports (validateMerge calls.ports params approvedCommitSha sourceBranch progress) w
        integrated <->
      exists validation, calls.runMergeGateValidation.outcome = .ok validation ∧
        validation.overallStatus = .passed ∧
        calls.push.outcome = .ok () ∧
        Concludes calls params approvedCommitSha sourceBranch validation task ∧
        integrated = w.outer.integrated := by
  have hmove : exists s' moved,
      startValidation params progress w.store = .ok (s', moved) ∧
      Pending params task .validating s' ∧ Remembers moved task :=
    moveItem_pending progress h hremembers
  rcases hmove with ⟨s', moved, hmove, hpending, hmoved⟩
  unfold validateMerge
  rw [reports_onStore hmove]
  change Reports (calls.runMergeGateValidation.await >>= _) _ integrated <-> _
  rw [reports_await]
  have hpush : forall validation, Reports (pushMerge calls.ports params approvedCommitSha
      sourceBranch validation moved)
      (calls.runMergeGateValidation.worldAfter { w with store := s' }) integrated <-> _ :=
    fun validation =>
      pushMerge_reports (hpending.run calls.runMergeGateValidation.others) hmoved
  constructor
  · intro hreports
    rcases hreports with ⟨validation, houtcome, hreports⟩
    cases hoverall : validation.overallStatus with
    | failed =>
        simp only [hoverall] at hreports
        exact absurd hreports (not_reports_pure (by simp))
    | passed =>
        simp only [hoverall] at hreports
        exact ⟨validation, houtcome, hoverall, (hpush validation).mp hreports⟩
  · intro hreports
    rcases hreports with ⟨validation, houtcome, hoverall, hrest⟩
    refine ⟨validation, houtcome, ?_⟩
    simp only [hoverall]
    exact (hpush validation).mpr hrest

theorem not_reports_rejectConflict {conflictFiles : List String} :
    ¬ Reports (rejectConflict calls.ports params conflictFiles progress) w integrated := by
  intro h
  rcases reports_bind.mp h with ⟨classification, w', _, hrest⟩
  exact absurd hrest (not_reports_pure (by simp))

def BranchCalls.worldIntegrated (calls : BranchCalls) (w : World SourceBranch) :
    World SourceBranch :=
  let w' := calls.operation.worldAfter w
  { w' with outer := { w'.outer with integrated := some w'.outer.head } }

theorem reports_operation
    {f : MergeOperationResult -> Process (World SourceBranch) Thrown ExecuteMergeResult} :
    Reports (calls.runOperation >>= f) w integrated <->
      exists result, calls.operation.outcome = .ok result ∧
        Reports (f result) (calls.worldIntegrated w) integrated := by
  rw [reports_bind]
  unfold BranchCalls.runOperation onOuter
  simp only [Process.returns_bind, returns_branchCall, Process.returns_transaction,
    Except.ok.injEq, Prod.mk.injEq]
  constructor
  · intro h
    rcases h with ⟨result, w'', ⟨found, w', ⟨houtcome, hw'⟩, outer, ⟨houter, hresult⟩, hw''⟩,
      hf⟩
    rw [hw'', ← houter, hw'] at hf
    rw [hresult] at houtcome
    exact ⟨result, houtcome, hf⟩
  · intro h
    rcases h with ⟨result, houtcome, hf⟩
    exact ⟨result, _, ⟨result, _, ⟨houtcome, rfl⟩, _, ⟨rfl, rfl⟩, rfl⟩, hf⟩

/-- Every call succeeds, the operation is clean and the validation passes. -/
structure MergeCompletes (calls : BranchCalls) (params : ExecuteMergeParams)
    (item : MergeQueueItem) (task : Task) : Prop where
  fetched : calls.fetch.outcome = .ok ()
  integrated : exists result, calls.operation.outcome = .ok result ∧ result.success = true
  pushed : calls.push.outcome = .ok ()
  concluded : exists sourceBranch validation,
    calls.getCurrentBranch.outcome = .ok sourceBranch ∧
    calls.runMergeGateValidation.outcome = .ok validation ∧
    validation.overallStatus = .passed ∧
    Concludes calls params item.approvedCommitSha sourceBranch validation task

theorem headAfter_append (first second : List String) (head : String) :
    headAfter (first ++ second) head = headAfter second (headAfter first head) := by
  unfold headAfter
  exact List.foldl_append

theorem worldIntegrated_integrated (w : World SourceBranch) :
    (calls.worldIntegrated (calls.getCurrentBranch.worldAfter
      (calls.fetch.worldAfter w))).outer.integrated =
      some (headAfter calls.commitsBefore w.outer.head) := by
  unfold BranchCalls.commitsBefore
  rw [headAfter_append, headAfter_append]
  rfl

theorem performMerge_reports {item : MergeQueueItem}
    (h : Pending params task .rebasing w.store) (hremembers : Remembers progress task) :
    Reports (performMerge calls.ports params item.approvedCommitSha progress) w
        integrated <->
      MergeCompletes calls params item task ∧
        integrated = some (headAfter calls.commitsBefore w.outer.head) := by
  have hpending := ((h.run calls.fetch.others).run calls.getCurrentBranch.others).run
    calls.operation.others
  have hvalidate : forall name, Reports (validateMerge calls.ports params
      item.approvedCommitSha name progress)
      (calls.worldIntegrated (calls.getCurrentBranch.worldAfter (calls.fetch.worldAfter w)))
      integrated <-> _ :=
    fun name => validateMerge_reports hpending hremembers
  unfold performMerge
  simp only [BranchCalls.mergeOperation_ports]
  change Reports (calls.fetch.await >>= fun _ => calls.getCurrentBranch.await >>=
    fun sourceBranch => calls.runOperation >>= _) w integrated <-> _
  constructor
  · intro hreports
    rcases reports_await.mp hreports with ⟨_, hfetched, hreports⟩
    rcases reports_await.mp hreports with ⟨name, hname, hreports⟩
    rcases reports_operation.mp hreports with ⟨result, hresult, hreports⟩
    cases hsuccess : result.success with
    | false =>
        simp only [hsuccess] at hreports
        exact absurd hreports not_reports_rejectConflict
    | true =>
        simp only [hsuccess] at hreports
        rcases (hvalidate name).mp hreports with
          ⟨validation, hvalidated, hpassed, hpushed, hconcludes, hintegrated⟩
        rw [worldIntegrated_integrated] at hintegrated
        exact ⟨⟨hfetched, ⟨result, hresult, hsuccess⟩, hpushed,
          ⟨name, validation, hname, hvalidated, hpassed, hconcludes⟩⟩, hintegrated⟩
  · intro hcompletes
    rcases hcompletes with ⟨⟨hfetched, ⟨result, hresult, hsuccess⟩, hpushed,
      ⟨name, validation, hname, hvalidated, hpassed, hconcludes⟩⟩, hintegrated⟩
    refine reports_await.mpr ⟨(), hfetched, ?_⟩
    refine reports_await.mpr ⟨name, hname, ?_⟩
    refine reports_operation.mpr ⟨result, hresult, ?_⟩
    simp only [hsuccess]
    rw [← worldIntegrated_integrated] at hintegrated
    exact (hvalidate name).mpr
      ⟨validation, hvalidated, hpassed, hpushed, hconcludes, hintegrated⟩

/-- A merge is reported exactly for a startable item and calls that all succeed, and what
was integrated is the head that the last commit before has left. -/
theorem executeMerge_reports :
    Reports (executeMerge calls.ports params) w integrated <->
      exists item task, Startable params item task w.store ∧
        MergeCompletes calls params item task ∧
        integrated = some (headAfter calls.commitsBefore w.outer.head) := by
  have hrest : forall item task, Startable params item task w.store ->
      (Reports (onStore (startRebase params task) >>= fun progress =>
          performMerge calls.ports params item.approvedCommitSha progress) w integrated <->
        MergeCompletes calls params item task ∧
          integrated = some (headAfter calls.commitsBefore w.outer.head)) := by
    intro item task hstartable
    rcases startRebase_pending hstartable with ⟨s', progress, hstart, hpending, hremembers⟩
    rw [reports_onStore hstart]
    exact @performMerge_reports calls params { w with store := s' } integrated task progress
      item hpending hremembers
  unfold executeMerge
  rw [reports_bind]
  constructor
  · intro h
    rcases h with ⟨⟨item, task⟩, w', hload, h⟩
    rcases Process.returns_transaction.mp hload with ⟨s', hload, hw'⟩
    rcases loadMerge_eq_ok.mp hload with ⟨hs', hstartable⟩
    rw [hw', hs'] at h
    exact ⟨item, task, hstartable, (hrest item task hstartable).mp h⟩
  · intro h
    rcases h with ⟨item, task, hstartable, hrun⟩
    refine ⟨(item, task), w, ?_, (hrest item task hstartable).mpr hrun⟩
    exact Process.returns_transaction.mpr
      ⟨w.store, loadMerge_eq_ok.mpr ⟨rfl, hstartable⟩, rfl⟩

end Reported

/-!
## Only what was approved
-/

/-- When a merge is reported for an item with an approved commit, this is the head that
was integrated. -/
def IntegratesApproved (calls : BranchCalls) (params : ExecuteMergeParams)
    (w : World SourceBranch) : Prop :=
  forall item approved, w.store.findItem params.mergeQueueItemId = some item ->
    item.approvedCommitSha = some approved ->
    forall integrated, Reports (executeMerge calls.ports params) w integrated ->
      integrated = some approved

/-- For every strategy, every head of the source branch, and whatever others request and
commit in between: only what was approved is integrated exactly if in a run that
completes no commit was added to it before the command of the strategy. -/
theorem integrates_approved_iff (calls : BranchCalls) (params : ExecuteMergeParams)
    (w : World SourceBranch) :
    IntegratesApproved calls params w <->
      forall item task approved, Startable params item task w.store ->
        item.approvedCommitSha = some approved -> MergeCompletes calls params item task ->
        headAfter calls.commitsBefore w.outer.head = approved := by
  constructor
  · intro h item task approved hstartable happroved hcompletes
    have hreports := executeMerge_reports.mpr ⟨item, task, hstartable, hcompletes, rfl⟩
    exact Option.some.inj (h item approved hstartable.hitem happroved _ hreports)
  · intro h item approved hitem happroved integrated hreports
    rcases executeMerge_reports.mp hreports with
      ⟨found, task, hstartable, hcompletes, hintegrated⟩
    have hfound := hstartable.hitem
    rw [hitem] at hfound
    cases hfound
    rw [hintegrated, h item task approved hstartable happroved hcompletes]

def lateCommitCalls : BranchCalls where
  fetch := { commits := ["b2"], outcome := .ok () }
  getCurrentBranch := { outcome := .ok "factory/task-1" }
  operation := { outcome := .ok { success := true, conflictFiles := [] } }
  runMergeGateValidation := { outcome := .ok passedValidation }
  push := { outcome := .ok () }
  getHeadSha := { outcome := .ok "b3" }
  classify := { outcome := .ok .reworkable }
  persistMergePacket := { outcome := .ok "/artifacts/item-1.json" }
  completedAt := 1000
  createdAt := 1000

def approvedWorld : World SourceBranch where
  store := preparedStore
  outer :=
    { head := "a1"
      integrated := none }

def reportsMerged : Except Thrown ExecuteMergeResult -> Bool
  | .ok (.merged _ _ _ _) => true
  | _ => false

/-- The commit b2 is integrated, and a1 was approved. -/
theorem late_commit_integrated :
    ¬ IntegratesApproved lateCommitCalls mergeParams approvedWorld := by
  intro h
  have hitem : approvedWorld.store.findItem mergeParams.mergeQueueItemId =
      some preparingItem := by
    decide +kernel
  have hmerged : reportsMerged (executeMerge lateCommitCalls.ports mergeParams
      approvedWorld).result = true := by
    decide +kernel
  have hintegrated : (executeMerge lateCommitCalls.ports mergeParams
      approvedWorld).state.outer.integrated = some "b2" := by
    decide +kernel
  have hreports : Reports (executeMerge lateCommitCalls.ports mergeParams) approvedWorld
      (some "b2") := by
    unfold reportsMerged at hmerged
    split at hmerged
    · rename_i progress packet path sha hresult
      exact ⟨progress, packet, path, sha, _, ⟨hresult, rfl⟩, hintegrated⟩
    · cases hmerged
  have heq := h preparingItem "a1" hitem rfl (some "b2") hreports
  exact absurd heq (by decide)

end Merging
end CopilotFactory
