import CopilotFactory.Foundations.Git
import CopilotFactory.Merging.MergeRuns

/-!
# What reaches the target branch

The executor is run on a clone of a repository, with ports that are the git
commands of their contract, while others push to the remote.  The merge it
reports should be on the target branch of the remote.  The commit is made as it
should be, but the push that follows takes the source branch of a rebase, and the
local target branch of a squash or a merge commit, which was merged into as a
detached HEAD only.
-/

namespace CopilotFactory
namespace Merging

open Foundations
open Infrastructure
open Application
open ControlPlane

/-!
## The ports
-/

/-- The clone of the workspace, and the commit that was last validated. -/
structure GitWorld where
  clone : Clone String
  validated : Option String

structure GitStep (α : Type) where
  pushes : List (String × String) := []
  outcome : Except String α

/-- The steps of a run.  A git command either fails before it does anything, or is run. -/
structure GitScript where
  fetch : GitStep Unit
  getCurrentBranch : GitStep Unit
  operation : GitStep Unit
  runMergeGateValidation : GitStep ValidationRunResult
  push : GitStep Unit
  getHeadSha : GitStep Unit
  classify : GitStep ConflictClassification
  persistMergePacket : GitStep String
  completedAt : Millis
  createdAt : Millis

section Ports

variable {α : Type} (git : Git String)

def withClone (w : World GitWorld) (clone : Clone String) : World GitWorld :=
  { w with outer := { w.outer with clone := clone } }

def receivePushes (pushes : List (String × String)) (w : World GitWorld) : World GitWorld :=
  withClone w (w.outer.clone.receive git pushes)

def GitStep.await (step : GitStep α) : Process (World GitWorld) Thrown α :=
  Process.await (receivePushes git step.pushes) (step.outcome.mapError .port)

/-- A command that has failed may have changed the clone. -/
def onClone (command : Clone String -> Clone String × Except String α) :
    Process (World GitWorld) Thrown (Except String α) :=
  Process.transaction withClone .service (fun w => .ok (command w.outer.clone))

def gitCommand (step : GitStep Unit)
    (command : Clone String -> Clone String × Except String α) :
    Process (World GitWorld) Thrown α := do
  step.await git
  let report ← onClone command
  Process.ofExcept (report.mapError .port)

def mergeOperationResult : CombineReport -> MergeOperationResult
  | .clean =>
      { success := true
        conflictFiles := [] }
  | .conflicts files =>
      { success := false
        conflictFiles := files }

def combineCommand (step : GitStep Unit)
    (command : Clone String -> Clone String × Except String CombineReport) :
    Process (World GitWorld) Thrown MergeOperationResult := do
  let report ← gitCommand git step command
  pure (mergeOperationResult report)

def fetchCommand (clone : Clone String) : Clone String × Except String Unit :=
  (clone.fetch, .ok ())

def symbolicRef (clone : Clone String) : Clone String × Except String String :=
  (clone, clone.currentBranch)

def revParseHead (clone : Clone String) : Clone String × Except String String :=
  match clone.headCommit with
  | some sha => (clone, .ok sha)
  | none => (clone, .error "fatal: ambiguous argument 'HEAD': unknown revision")

def validateWorkspace (step : GitStep ValidationRunResult) :
    Process (World GitWorld) Thrown ValidationRunResult := do
  let result ← step.await git
  Process.transaction (fun w outer => { w with outer := outer }) .service
    (fun w => .ok ({ w.outer with validated := w.outer.clone.headCommit }, result))

def GitScript.ports (script : GitScript) : MergeExecutorPorts GitWorld where
  fetch := fun _ _ => gitCommand git script.fetch fetchCommand
  rebase := fun _ onto => combineCommand git script.operation (Clone.rebase git onto)
  squashMerge := fun _ sourceBranch targetBranch commitMessage =>
    combineCommand git script.operation
      (Clone.squashMerge git sourceBranch targetBranch commitMessage)
  mergeCommit := fun _ sourceBranch targetBranch =>
    combineCommand git script.operation
      (Clone.mergeNoFastForward git sourceBranch targetBranch)
  push := fun _ _ branch => gitCommand git script.push (Clone.push git branch)
  getHeadSha := fun _ => gitCommand git script.getHeadSha revParseHead
  getCurrentBranch := fun _ => gitCommand git script.getCurrentBranch symbolicRef
  runMergeGateValidation := fun _ _ => validateWorkspace git script.runMergeGateValidation
  classify := fun _ => script.classify.await git
  persistMergePacket := fun _ _ => script.persistMergePacket.await git
  completedAt := script.completedAt
  createdAt := script.createdAt

def strategyCommand (params : ExecuteMergeParams) (sourceBranch : String) :
    Clone String -> Clone String × Except String CombineReport :=
  match params.mergeStrategy with
  | .rebaseAndMerge => Clone.rebase git s!"origin/{params.targetBranch}"
  | .squash =>
      Clone.squashMerge git sourceBranch s!"origin/{params.targetBranch}"
        s!"squash: merge {sourceBranch} into {params.targetBranch}"
  | .mergeCommit =>
      Clone.mergeNoFastForward git sourceBranch s!"origin/{params.targetBranch}"

theorem mergeOperation_gitPorts (script : GitScript) (params : ExecuteMergeParams)
    (sourceBranch : String) :
    mergeOperation (script.ports git) params sourceBranch =
      combineCommand git script.operation (strategyCommand git params sourceBranch) := by
  unfold mergeOperation strategyCommand
  cases params.mergeStrategy <;> rfl

end Ports

/-!
## Integrations

What the command of the strategy makes of the source branch and the target.
-/

section Integrations

variable {git : Git String} {params : ExecuteMergeParams} {sourceBranch : LocalBranch}
  {source onto tip : String} {clone clone' : Clone String}

def IsIntegration (git : Git String) (params : ExecuteMergeParams) (sourceBranch : String)
    (source onto tip : String) : Prop :=
  match params.mergeStrategy with
  | .rebaseAndMerge => git.rebase source onto = .ok tip
  | .squash =>
      git.squash source onto s!"squash: merge {sourceBranch} into {params.targetBranch}" =
        .ok (some tip)
  | .mergeCommit => git.merge source onto = .ok tip

theorem IsIntegration.contains {name : String}
    (h : IsIntegration git params name source onto tip) :
    git.Contains tip onto := by
  unfold IsIntegration at h
  cases hstrategy : params.mergeStrategy with
  | rebaseAndMerge =>
      rw [hstrategy] at h
      exact git.rebase_reaches h
  | squash =>
      rw [hstrategy] at h
      apply Git.contains_of_parent
      rw [git.squash_parents h]
      exact List.mem_singleton_self onto
  | mergeCommit =>
      rw [hstrategy] at h
      rcases git.merge_parents h with hparents | ⟨htip, _⟩
      · apply Git.contains_of_parent
        rw [hparents]
        exact List.mem_cons_self
      · rw [htip]
        exact git.contains_refl onto

/-- The clone with an integration: on the source branch if that was rebased, and on no
branch otherwise. -/
def integrated (params : ExecuteMergeParams) (clone : Clone String) (tip : String) :
    Clone String :=
  if params.mergeStrategy = .rebaseAndMerge then
    clone.moveHead tip
  else
    { clone with head := .detached tip }

theorem integrated_remote (params : ExecuteMergeParams) (clone : Clone String)
    (tip : String) :
    (integrated params clone tip).remote = clone.remote := by
  unfold integrated
  split
  · exact Clone.moveHead_remote _ _
  · rfl

theorem integrated_headCommit (hhead : clone.head = .branch sourceBranch) :
    (integrated params clone tip).headCommit = some tip := by
  unfold integrated
  split
  · unfold Clone.moveHead
    rw [hhead]
    exact Function.update_self _ _ _
  · rfl

def pushedCommit (params : ExecuteMergeParams) (clone : Clone String) (tip : String) :
    Option String :=
  if params.mergeStrategy = .rebaseAndMerge then
    some tip
  else
    clone.localCommit params.targetBranch

theorem integrated_pushBranch (hhead : clone.head = .branch sourceBranch) :
    (integrated params clone tip).localCommit (pushBranch params sourceBranch.val) =
      pushedCommit params clone tip := by
  unfold integrated pushBranch pushedCommit
  split
  · unfold Clone.moveHead
    rw [hhead, Clone.localCommit_val]
    exact Function.update_self _ _ _
  · rfl

theorem strategyCommand_eq_clean (hhead : clone.head = .branch sourceBranch) :
    strategyCommand git params sourceBranch.val clone = (clone', .ok .clean) <->
      exists source onto tip,
        clone.branches sourceBranch = some source ∧
        clone.tracking params.targetBranch = some onto ∧
        IsIntegration git params sourceBranch.val source onto tip ∧
        clone' = integrated params clone tip := by
  unfold strategyCommand IsIntegration integrated
  cases params.mergeStrategy with
  | rebaseAndMerge =>
      have hsource : clone.headCommit = clone.branches sourceBranch := by
        unfold Clone.headCommit
        rw [hhead]
      simp only [Clone.rebase_eq_clean, Clone.resolve_origin, hsource, if_true]
  | squash =>
      simp only [Clone.squashMerge, Clone.combineInto_origin_eq_clean, reduceCtorEq, if_false]
  | mergeCommit =>
      simp only [Clone.mergeNoFastForward, Clone.combineInto_origin_eq_clean, reduceCtorEq,
        if_false, map_eq_ok, Option.some.injEq, exists_eq_right]

theorem strategyCommand_remote (git : Git String) (params : ExecuteMergeParams)
    (sourceBranch : String) (clone : Clone String) :
    (strategyCommand git params sourceBranch clone).1.remote = clone.remote := by
  unfold strategyCommand
  cases params.mergeStrategy with
  | rebaseAndMerge =>
      exact Clone.rebase_remote _ _ _
  | squash =>
      exact Clone.combineInto_remote _ _ _ _
  | mergeCommit =>
      exact Clone.combineInto_remote _ _ _ _

end Integrations

/-!
## Merges that are reported

What a run that reports a merge leaves on the remote, and the commit that it has
validated.
-/

def MergesTo (p : Process (World GitWorld) Thrown ExecuteMergeResult)
    (w : World GitWorld) (sha : String) (remote : String -> Option String)
    (validated : Option String) : Prop :=
  exists progress packet artifactPath w',
    Process.Returns p w (.merged progress packet artifactPath sha) w' ∧
    w'.outer.clone.remote = remote ∧
    w'.outer.validated = validated

def reportedSha : Except Thrown ExecuteMergeResult -> Option String
  | .ok (.merged _ _ _ mergedCommitSha) => some mergedCommitSha
  | _ => none

theorem reportedSha_eq_some {r : Except Thrown ExecuteMergeResult} {sha : String} :
    reportedSha r = some sha <->
      exists progress packet artifactPath,
        r = .ok (.merged progress packet artifactPath sha) := by
  constructor
  · intro h
    unfold reportedSha at h
    split at h
    · cases h
      exact ⟨_, _, _, rfl⟩
    · cases h
  · intro h
    rcases h with ⟨progress, packet, artifactPath, hr⟩
    rw [hr]
    rfl

section Reported

variable {git : Git String} {script : GitScript} {params : ExecuteMergeParams}
  {w : World GitWorld} {sha : String} {remote : String -> Option String}
  {validated : Option String} {α : Type}

theorem mergesTo_bind {p : Process (World GitWorld) Thrown α}
    {f : α -> Process (World GitWorld) Thrown ExecuteMergeResult} :
    MergesTo (p >>= f) w sha remote validated <->
      exists a w', Process.Returns p w a w' ∧ MergesTo (f a) w' sha remote validated := by
  unfold MergesTo
  simp only [Process.returns_bind]
  constructor
  · intro h
    rcases h with ⟨progress, packet, path, w'', ⟨a, w', hp, hf⟩, hends⟩
    exact ⟨a, w', hp, progress, packet, path, w'', hf, hends⟩
  · intro h
    rcases h with ⟨a, w', hp, progress, packet, path, w'', hf, hends⟩
    exact ⟨progress, packet, path, w'', ⟨a, w', hp, hf⟩, hends⟩

theorem mergesTo_onStore {call : Store -> Except ServiceError (Store × α)}
    {f : α -> Process (World GitWorld) Thrown ExecuteMergeResult} {s' : Store} {a : α}
    (h : call w.store = .ok (s', a)) :
    MergesTo (onStore call >>= f) w sha remote validated <->
      MergesTo (f a) { w with store := s' } sha remote validated := by
  rw [mergesTo_bind]
  exact exists_returns_onStore h

theorem returns_gitCommand {step : GitStep Unit}
    {command : Clone String -> Clone String × Except String α} {a : α}
    {w' : World GitWorld} :
    Process.Returns (gitCommand git step command) w a w' <->
      step.outcome = .ok () ∧
      exists clone',
        command (w.outer.clone.receive git step.pushes) = (clone', .ok a) ∧
        w' = withClone w clone' := by
  simp only [gitCommand, Process.returns_bind, GitStep.await, Process.returns_await,
    mapError_eq_ok, onClone, Process.returns_transaction, Process.returns_ofExcept,
    Except.ok.injEq]
  constructor
  · intro h
    rcases h with ⟨_, _, ⟨houtcome, hw₁⟩, report, w₂, ⟨clone', hcommand, hw₂⟩, hreport, hw'⟩
    rw [hw₁] at hcommand hw₂
    rw [hreport] at hcommand
    refine ⟨houtcome, clone', hcommand, ?_⟩
    rw [hw', hw₂]
    rfl
  · intro h
    rcases h with ⟨houtcome, clone', hcommand, hw'⟩
    exact ⟨(), _, ⟨houtcome, rfl⟩, _, _, ⟨clone', hcommand, rfl⟩, rfl, hw'⟩

theorem mergesTo_gitCommand {step : GitStep Unit}
    {command : Clone String -> Clone String × Except String α}
    {f : α -> Process (World GitWorld) Thrown ExecuteMergeResult} :
    MergesTo (gitCommand git step command >>= f) w sha remote validated <->
      step.outcome = .ok () ∧
      exists a clone',
        command (w.outer.clone.receive git step.pushes) = (clone', .ok a) ∧
        MergesTo (f a) (withClone w clone') sha remote validated := by
  simp only [mergesTo_bind, returns_gitCommand]
  constructor
  · intro h
    rcases h with ⟨a, w', ⟨houtcome, clone', hcommand, hw'⟩, hf⟩
    rw [hw'] at hf
    exact ⟨houtcome, a, clone', hcommand, hf⟩
  · intro h
    rcases h with ⟨houtcome, a, clone', hcommand, hf⟩
    exact ⟨a, _, ⟨houtcome, clone', hcommand, rfl⟩, hf⟩

theorem revParseHead_eq_ok {clone clone' : Clone String} :
    revParseHead clone = (clone', .ok sha) <-> clone.headCommit = some sha ∧ clone' = clone := by
  unfold revParseHead
  cases clone.headCommit with
  | none =>
      simp
  | some commit =>
      simp [eq_comm, and_comm]

def Recorded (script : GitScript) (packet : MergePacket) : Prop :=
  mergePacketSchema packet = true ->
    exists artifactPath, script.persistMergePacket.outcome = .ok artifactPath

def GitScript.recordPushes (script : GitScript) (packet : MergePacket) :
    List (String × String) :=
  if mergePacketSchema packet then script.persistMergePacket.pushes else []

theorem recordMerge_mergesTo {packet : MergePacket} {progress : MergeProgress}
    {mergedCommitSha : String} :
    MergesTo (recordMerge (script.ports git) params packet progress mergedCommitSha) w sha
        remote validated <->
      sha = mergedCommitSha ∧
      Recorded script packet ∧
      remote = git.receiveAll w.outer.clone.remote (script.recordPushes packet) ∧
      validated = w.outer.validated := by
  unfold recordMerge Recorded GitScript.recordPushes
  cases hschema : mergePacketSchema packet with
  | true =>
      simp only [if_true, MergesTo, GitScript.ports, GitStep.await, Process.returns_bind,
        Process.returns_await, Process.returns_pure, mapError_eq_ok]
      constructor
      · intro h
        rcases h with ⟨_, _, _, w', ⟨_, w₁, ⟨hpath, hw₁⟩, hresult, hw'⟩, hremote,
          hvalidated⟩
        cases hresult
        rw [hw', hw₁] at hremote hvalidated
        exact ⟨rfl, fun _ => ⟨_, hpath⟩, hremote.symm, hvalidated.symm⟩
      · intro h
        rcases h with ⟨hsha, hrecorded, hremote, hvalidated⟩
        rcases hrecorded trivial with ⟨path, hpath⟩
        rw [hsha]
        exact ⟨_, _, _, _, ⟨path, _, ⟨hpath, rfl⟩, rfl, rfl⟩, hremote.symm, hvalidated.symm⟩
  | false =>
      simp only [Bool.false_eq_true, if_false, MergesTo, Process.returns_pure]
      constructor
      · intro h
        rcases h with ⟨_, _, _, w', ⟨hresult, hw'⟩, hremote, hvalidated⟩
        cases hresult
        rw [hw'] at hremote hvalidated
        exact ⟨rfl, fun hno => absurd hno id, hremote.symm, hvalidated.symm⟩
      · intro h
        rcases h with ⟨hsha, _, hremote, hvalidated⟩
        rw [hsha]
        exact ⟨_, _, _, _, ⟨rfl, rfl⟩, hremote.symm, hvalidated.symm⟩

variable {progress : MergeProgress} {approvedCommitSha : Option String} {name : String}
  {validationResult : ValidationRunResult}

def packetOf (git : Git String) (script : GitScript) (params : ExecuteMergeParams)
    (approvedCommitSha : Option String) (sourceBranch : String)
    (validationResult : ValidationRunResult) (task : Task) (sha : String) : MergePacket :=
  mergePacketData (script.ports git) params approvedCommitSha sourceBranch validationResult
    task sha

def GitScript.pushesAfter (script : GitScript) (packet : MergePacket) :
    List (String × String) :=
  script.getHeadSha.pushes ++ script.recordPushes packet

theorem concludeMerge_mergesTo
    (hitem : ItemIn params progress.task.taskId .merging w.store)
    (htask : w.store.findTask progress.task.taskId = some progress.task) :
    MergesTo (concludeMerge (script.ports git) params approvedCommitSha name
        validationResult progress) w sha remote validated <->
      script.getHeadSha.outcome = .ok () ∧
      w.outer.clone.headCommit = some sha ∧
      Recorded script (packetOf git script params approvedCommitSha name validationResult
        progress.task sha) ∧
      remote = git.receiveAll w.outer.clone.remote
        (script.pushesAfter (packetOf git script params approvedCommitSha name
          validationResult progress.task sha)) ∧
      validated = w.outer.validated := by
  have hfinish : exists s' moved,
      finishMerge params script.completedAt progress w.store = .ok (s', moved) :=
    finishMerge_accepts hitem htask
  rcases hfinish with ⟨s', moved, hfinish⟩
  rcases moveItemAndTask_spec hitem htask hfinish with ⟨_, _, _, hmoved⟩
  have hpacket : forall merged,
      mergePacketData (script.ports git) params approvedCommitSha name validationResult
          moved.task merged =
        packetOf git script params approvedCommitSha name validationResult progress.task
          merged := by
    intro merged
    rw [hmoved]
    rfl
  have hstep : forall merged clone',
      MergesTo (do
          let progress ← onStore (finishMerge params script.completedAt progress)
          let packet := mergePacketData (script.ports git) params approvedCommitSha name
            validationResult progress.task merged
          recordMerge (script.ports git) params packet progress merged)
        (withClone w clone') sha remote validated <->
      sha = merged ∧
      Recorded script (packetOf git script params approvedCommitSha name validationResult
        progress.task merged) ∧
      remote = git.receiveAll clone'.remote
        (script.recordPushes (packetOf git script params approvedCommitSha name
          validationResult progress.task merged)) ∧
      validated = w.outer.validated := by
    intro merged clone'
    rw [@mergesTo_onStore (withClone w clone') sha remote validated _ _ _ s' moved hfinish]
    dsimp only
    rw [hpacket, recordMerge_mergesTo]
    rfl
  change MergesTo (gitCommand git script.getHeadSha revParseHead >>= _) w sha remote
    validated <-> _
  rw [mergesTo_gitCommand]
  constructor
  · intro h
    rcases h with ⟨houtcome, merged, clone', hhead, hrest⟩
    rcases revParseHead_eq_ok.mp hhead with ⟨hsha, hclone'⟩
    rcases (hstep merged clone').mp hrest with ⟨hmerged, hrecorded, hremote, hvalidated⟩
    rw [← hmerged] at hsha hrecorded hremote
    rw [hclone'] at hremote
    refine ⟨houtcome, hsha, hrecorded, ?_, hvalidated⟩
    rw [GitScript.pushesAfter, Git.receiveAll_append]
    exact hremote
  · intro h
    rcases h with ⟨houtcome, hsha, hrecorded, hremote, hvalidated⟩
    refine ⟨houtcome, sha, _, revParseHead_eq_ok.mpr ⟨hsha, rfl⟩,
      (hstep sha _).mpr ⟨rfl, hrecorded, ?_, hvalidated⟩⟩
    rw [GitScript.pushesAfter, Git.receiveAll_append] at hremote
    exact hremote

theorem not_mergesTo_pure {p : Process (World GitWorld) Thrown α}
    {f : α -> ExecuteMergeResult}
    (hf : forall a progress packet path merged, f a ≠ .merged progress packet path merged) :
    ¬ MergesTo (p >>= fun a => pure (f a)) w sha remote validated := by
  intro h
  rcases mergesTo_bind.mp h with ⟨a, w', _, progress, packet, path, w'', hpure, _⟩
  exact hf a progress packet path sha (Process.returns_pure.mp hpure).1.symm

theorem mergesTo_attempt {p : Process (World GitWorld) Thrown α}
    {f : Except Thrown α -> Process (World GitWorld) Thrown ExecuteMergeResult}
    (herror : forall e w', ¬ MergesTo (f (.error e)) w' sha remote validated) :
    MergesTo (Process.attempt p >>= f) w sha remote validated <->
      exists a w', Process.Returns p w a w' ∧
        MergesTo (f (.ok a)) w' sha remote validated := by
  constructor
  · intro h
    rcases h with ⟨progress, packet, path, w'', hreturns, hends⟩
    rcases Process.returns_attempt_bind.mp hreturns with
      ⟨a, w', hp, hf⟩ | ⟨e, _, hf⟩
    · exact ⟨a, w', hp, progress, packet, path, w'', hf, hends⟩
    · exact absurd ⟨progress, packet, path, w'', hf, hends⟩ (herror e _)
  · intro h
    rcases h with ⟨a, w', hp, progress, packet, path, w'', hf, hends⟩
    exact ⟨progress, packet, path, w'',
      Process.returns_attempt_bind.mpr (Or.inl ⟨a, w', hp, hf⟩), hends⟩

structure Publishes (git : Git String) (script : GitScript) (params : ExecuteMergeParams)
    (sourceBranch : String) (packet : MergePacket) (clone : Clone String)
    (pushed : String) : Prop where
  pushRun : script.push.outcome = .ok ()
  found : clone.localCommit (pushBranch params sourceBranch) = some pushed
  accepted : git.accepts
    (git.receiveAll clone.remote script.push.pushes (pushBranch params sourceBranch))
    pushed = true
  headRun : script.getHeadSha.outcome = .ok ()
  recorded : Recorded script packet

theorem pushMerge_mergesTo
    (hitem : ItemIn params progress.task.taskId .validating w.store)
    (htask : w.store.findTask progress.task.taskId = some progress.task) :
    MergesTo (pushMerge (script.ports git) params approvedCommitSha name
        validationResult progress) w sha remote validated <->
      exists pushed,
        Publishes git script params name
          (packetOf git script params approvedCommitSha name validationResult progress.task
            sha) w.outer.clone pushed ∧
        w.outer.clone.headCommit = some sha ∧
        remote = git.receiveAll w.outer.clone.remote
          (script.push.pushes ++ (pushBranch params name, pushed) ::
            script.pushesAfter (packetOf git script params approvedCommitSha name
              validationResult progress.task sha)) ∧
        validated = w.outer.validated := by
  rcases moveItem_remembered mergingMove hitem htask with
    ⟨s', moved, hmove, hitem', htask', hmoved⟩
  have hstart : startPush params progress w.store = .ok (s', moved) := hmove
  unfold pushMerge
  rw [mergesTo_onStore hstart, mergesTo_attempt (fun e w' => not_mergesTo_pure (by simp))]
  have hconclude : forall clone',
      MergesTo (concludeMerge (script.ports git) params approvedCommitSha name
          validationResult moved)
        (withClone { w with store := s' } clone') sha remote validated <-> _ :=
    fun clone' => concludeMerge_mergesTo hitem' htask'
  simp only [GitScript.ports, returns_gitCommand, settlePush]
  constructor
  · intro h
    rcases h with ⟨_, w', ⟨hrun, clone', hpush, hw'⟩, hrest⟩
    rcases Clone.push_eq_ok.mp hpush with ⟨pushed, hpushed, haccepted, hclone'⟩
    rw [hw'] at hrest
    rcases (hconclude clone').mp hrest with
      ⟨hheadRun, hhead, hrecorded, hremote, hvalidated⟩
    rw [hmoved] at hrecorded hremote
    rw [hclone'] at hhead hremote
    refine ⟨pushed, ⟨hrun, hpushed, haccepted, hheadRun, hrecorded⟩, hhead, ?_, hvalidated⟩
    rw [Git.receiveAll_append, Git.receiveAll_cons]
    exact hremote
  · intro h
    rcases h with ⟨pushed, ⟨hrun, hpushed, haccepted, hheadRun, hrecorded⟩, hhead, hremote,
      hvalidated⟩
    refine ⟨(), _, ⟨hrun, _, Clone.push_eq_ok.mpr ⟨pushed, hpushed, haccepted, rfl⟩, rfl⟩,
      (hconclude _).mpr ⟨hheadRun, hhead, ?_, ?_, hvalidated⟩⟩
    · rw [hmoved]
      exact hrecorded
    · rw [hmoved]
      rw [Git.receiveAll_append, Git.receiveAll_cons] at hremote
      exact hremote

theorem returns_validateWorkspace {step : GitStep ValidationRunResult}
    {result : ValidationRunResult} {w' : World GitWorld} :
    Process.Returns (validateWorkspace git step) w result w' <->
      step.outcome = .ok result ∧
      w' =
        { w with
          outer :=
            { clone := w.outer.clone.receive git step.pushes
              validated := w.outer.clone.headCommit } } := by
  simp only [validateWorkspace, Process.returns_bind, GitStep.await, Process.returns_await,
    mapError_eq_ok, Process.returns_transaction, Except.ok.injEq, Prod.mk.injEq]
  constructor
  · intro h
    rcases h with ⟨found, w₁, ⟨houtcome, hw₁⟩, outer, ⟨houter, hfound⟩, hw'⟩
    rw [hfound] at houtcome
    refine ⟨houtcome, ?_⟩
    rw [hw', ← houter, hw₁]
    rfl
  · intro h
    rcases h with ⟨houtcome, hw'⟩
    exact ⟨result, _, ⟨houtcome, rfl⟩, _, ⟨rfl, rfl⟩, hw'⟩

theorem validateMerge_mergesTo
    (hitem : ItemIn params progress.task.taskId .rebasing w.store)
    (htask : w.store.findTask progress.task.taskId = some progress.task) :
    MergesTo (validateMerge (script.ports git) params approvedCommitSha name progress) w sha
        remote validated <->
      exists result pushed,
        script.runMergeGateValidation.outcome = .ok result ∧
        result.overallStatus = .passed ∧
        Publishes git script params name
          (packetOf git script params approvedCommitSha name result progress.task sha)
          (w.outer.clone.receive git script.runMergeGateValidation.pushes) pushed ∧
        w.outer.clone.headCommit = some sha ∧
        remote = git.receiveAll w.outer.clone.remote
          (script.runMergeGateValidation.pushes ++ (script.push.pushes ++
            (pushBranch params name, pushed) ::
              script.pushesAfter (packetOf git script params approvedCommitSha name result
                progress.task sha))) ∧
        validated = some sha := by
  rcases moveItem_remembered validatingMove hitem htask with
    ⟨s', moved, hmove, hitem', htask', hmoved⟩
  have hstart : startValidation params progress w.store = .ok (s', moved) := hmove
  unfold validateMerge
  rw [mergesTo_onStore hstart, mergesTo_bind]
  simp only [GitScript.ports, returns_validateWorkspace]
  constructor
  · intro h
    rcases h with ⟨result, w', ⟨houtcome, hw'⟩, hrest⟩
    cases hoverall : result.overallStatus with
    | failed =>
        simp only [hoverall] at hrest
        exact absurd hrest (not_mergesTo_pure (by simp))
    | passed =>
        simp only [hoverall] at hrest
        rw [hw'] at hrest
        rcases (pushMerge_mergesTo hitem' htask').mp hrest with
          ⟨pushed, hpublishes, hhead, hremote, hvalidated⟩
        rw [hmoved] at hpublishes hremote
        refine ⟨result, pushed, houtcome, hoverall, hpublishes, hhead, ?_, ?_⟩
        · rw [Git.receiveAll_append]
          exact hremote
        · rw [hvalidated]
          exact hhead
  · intro h
    rcases h with ⟨result, pushed, houtcome, hoverall, hpublishes, hhead, hremote,
      hvalidated⟩
    refine ⟨result, _, ⟨houtcome, rfl⟩, ?_⟩
    simp only [hoverall]
    rw [← hmoved] at hpublishes hremote
    rw [Git.receiveAll_append] at hremote
    refine (pushMerge_mergesTo hitem' htask').mpr ⟨pushed, hpublishes, hhead, hremote, ?_⟩
    rw [hvalidated]
    exact hhead.symm

end Reported

/-!
## Complete runs
-/

structure MergeRun where
  item : MergeQueueItem
  task : Task
  sourceBranch : LocalBranch
  source : String
  onto : String
  tip : String
  validation : ValidationRunResult
  pushed : String

def MergeRun.packet (git : Git String) (script : GitScript) (params : ExecuteMergeParams)
    (run : MergeRun) : MergePacket :=
  packetOf git script params run.item.approvedCommitSha run.sourceBranch.val run.validation
    run.task run.tip

def GitScript.pushesBefore (script : GitScript) : List (String × String) :=
  script.fetch.pushes ++ (script.getCurrentBranch.pushes ++ (script.operation.pushes ++
    (script.runMergeGateValidation.pushes ++ script.push.pushes)))

def fetchedClone (git : Git String) (script : GitScript) (clone : Clone String) :
    Clone String :=
  (clone.receive git script.fetch.pushes).fetch

def operationClone (git : Git String) (script : GitScript) (clone : Clone String) :
    Clone String :=
  ((fetchedClone git script clone).receive git script.getCurrentBranch.pushes).receive git
    script.operation.pushes

/-- The branch that is checked out is integrated into the target as it was fetched. -/
structure IntegrationMade (git : Git String) (script : GitScript)
    (params : ExecuteMergeParams) (clone : Clone String) (sourceBranch : LocalBranch)
    (source onto tip : String) : Prop where
  fetchRun : script.fetch.outcome = .ok ()
  branchRun : script.getCurrentBranch.outcome = .ok ()
  operationRun : script.operation.outcome = .ok ()
  onBranch : clone.head = .branch sourceBranch
  sourceTip : clone.branches sourceBranch = some source
  target : (fetchedClone git script clone).tracking params.targetBranch = some onto
  integration : IsIntegration git params sourceBranch.val source onto tip

/-- Every step succeeds: on the branches of the clone, on the remote as others have left
it, and with the outcomes that the script has. -/
structure Completes (git : Git String) (script : GitScript) (params : ExecuteMergeParams)
    (clone : Clone String) (run : MergeRun) : Prop where
  made : IntegrationMade git script params clone run.sourceBranch run.source run.onto run.tip
  validated : script.runMergeGateValidation.outcome = .ok run.validation
  passed : run.validation.overallStatus = .passed
  pushRun : script.push.outcome = .ok ()
  found : pushedCommit params clone run.tip = some run.pushed
  accepted : git.accepts
    (git.receiveAll clone.remote script.pushesBefore
      (pushBranch params run.sourceBranch.val)) run.pushed = true
  headRun : script.getHeadSha.outcome = .ok ()
  recorded : Recorded script (run.packet git script params)

/-- The remote after the run: the executor's push is one among those of the others. -/
def remoteAfter (git : Git String) (script : GitScript) (params : ExecuteMergeParams)
    (clone : Clone String) (run : MergeRun) : String -> Option String :=
  git.receiveAll clone.remote
    (script.pushesBefore ++ (pushBranch params run.sourceBranch.val, run.pushed) ::
      script.pushesAfter (run.packet git script params))

section Complete

variable {git : Git String} {script : GitScript} {params : ExecuteMergeParams}
  {w : World GitWorld} {sha : String} {remote : String -> Option String}
  {validated : Option String} {progress : MergeProgress}

theorem publishes_iff {clone : Clone String} {sourceBranch : LocalBranch}
    {packet : MergePacket} {tip pushed : String}
    (hhead : clone.head = .branch sourceBranch) :
    Publishes git script params sourceBranch.val packet
        ((integrated params (operationClone git script clone) tip).receive git
          script.runMergeGateValidation.pushes) pushed <->
      script.push.outcome = .ok () ∧
      pushedCommit params clone tip = some pushed ∧
      git.accepts
        (git.receiveAll clone.remote script.pushesBefore
          (pushBranch params sourceBranch.val)) pushed = true ∧
      script.getHeadSha.outcome = .ok () ∧
      Recorded script packet := by
  have hoperation : (operationClone git script clone).head = .branch sourceBranch := hhead
  have hfound : ((integrated params (operationClone git script clone) tip).receive git
        script.runMergeGateValidation.pushes).localCommit
          (pushBranch params sourceBranch.val) =
      pushedCommit params clone tip :=
    integrated_pushBranch hoperation
  have hremote : git.receiveAll
        ((integrated params (operationClone git script clone) tip).receive git
          script.runMergeGateValidation.pushes).remote script.push.pushes =
      git.receiveAll clone.remote script.pushesBefore := by
    simp only [Clone.receive, integrated_remote, operationClone, fetchedClone, Clone.fetch,
      GitScript.pushesBefore, Git.receiveAll_append]
  constructor
  · intro h
    rcases h with ⟨hpush, hpushed, haccepted, hheadRun, hrecorded⟩
    rw [hfound] at hpushed
    rw [hremote] at haccepted
    exact ⟨hpush, hpushed, haccepted, hheadRun, hrecorded⟩
  · intro h
    rcases h with ⟨hpush, hpushed, haccepted, hheadRun, hrecorded⟩
    rw [← hfound] at hpushed
    rw [← hremote] at haccepted
    exact ⟨hpush, hpushed, haccepted, hheadRun, hrecorded⟩

theorem not_mergesTo_rejectConflict {conflictFiles : List String} :
    ¬ MergesTo (rejectConflict (script.ports git) params conflictFiles progress) w sha remote
      validated := by
  intro h
  rcases mergesTo_bind.mp h with ⟨classification, w', _, hrest⟩
  exact absurd hrest (not_mergesTo_pure (by simp))

theorem mergesTo_operation {step : GitStep Unit}
    {command : Clone String -> Clone String × Except String CombineReport}
    {f : MergeOperationResult -> Process (World GitWorld) Thrown ExecuteMergeResult} :
    MergesTo (combineCommand git step command >>= f) w sha remote validated <->
      step.outcome = .ok () ∧
      exists report clone',
        command (w.outer.clone.receive git step.pushes) = (clone', .ok report) ∧
        MergesTo (f (mergeOperationResult report)) (withClone w clone') sha remote
          validated := by
  simp only [combineCommand, mergesTo_bind, Process.returns_bind, Process.returns_pure,
    returns_gitCommand]
  constructor
  · intro h
    rcases h with ⟨result, w', ⟨report, w₁, ⟨houtcome, clone', hcommand, hw₁⟩, hresult, hw'⟩,
      hf⟩
    rw [hresult, hw', hw₁] at hf
    exact ⟨houtcome, report, clone', hcommand, hf⟩
  · intro h
    rcases h with ⟨houtcome, report, clone', hcommand, hf⟩
    exact ⟨_, _, ⟨report, _, ⟨houtcome, clone', hcommand, rfl⟩, rfl, rfl⟩, hf⟩

theorem performMerge_integrates {approvedCommitSha : Option String} :
    MergesTo (performMerge (script.ports git) params approvedCommitSha progress) w sha
        remote validated <->
      exists sourceBranch source onto tip,
        IntegrationMade git script params w.outer.clone sourceBranch source onto tip ∧
        MergesTo
          (validateMerge (script.ports git) params approvedCommitSha sourceBranch.val
            progress)
          (withClone w (integrated params (operationClone git script w.outer.clone) tip)) sha
          remote validated := by
  unfold performMerge
  simp only [mergeOperation_gitPorts]
  change MergesTo (gitCommand git script.fetch fetchCommand >>= fun _ =>
    gitCommand git script.getCurrentBranch symbolicRef >>= fun sourceBranch =>
      combineCommand git script.operation (strategyCommand git params sourceBranch) >>= _) w
    sha remote validated <-> _
  constructor
  · intro h
    rcases mergesTo_gitCommand.mp h with ⟨hfetchRun, _, fetched, hfetched, h⟩
    cases hfetched
    rcases mergesTo_gitCommand.mp h with ⟨hbranchRun, name, clone₁, hbranch, h⟩
    simp only [symbolicRef, Prod.mk.injEq] at hbranch
    rcases hbranch with ⟨hclone₁, hbranch⟩
    rcases Clone.currentBranch_eq_ok.mp hbranch with ⟨sourceBranch, hhead, hname⟩
    rw [← hclone₁, ← hname] at h
    rcases mergesTo_operation.mp h with ⟨hoperationRun, report, clone₂, hoperation, h⟩
    change strategyCommand git params sourceBranch.val
      (operationClone git script w.outer.clone) = _ at hoperation
    cases report with
    | conflicts files =>
        exact absurd h not_mergesTo_rejectConflict
    | clean =>
        have hhead' : (operationClone git script w.outer.clone).head =
            .branch sourceBranch :=
          hhead
        rcases (strategyCommand_eq_clean hhead').mp hoperation with
          ⟨source, onto, tip, hsource, honto, hintegration, hclone₂⟩
        rw [hclone₂] at h
        exact ⟨sourceBranch, source, onto, tip,
          ⟨hfetchRun, hbranchRun, hoperationRun, hhead, hsource, honto, hintegration⟩, h⟩
  · intro h
    rcases h with ⟨sourceBranch, source, onto, tip,
      ⟨hfetchRun, hbranchRun, hoperationRun, hhead, hsource, honto, hintegration⟩, h⟩
    have hhead' : (operationClone git script w.outer.clone).head = .branch sourceBranch :=
      hhead
    have hbranch : (fetchedClone git script w.outer.clone).currentBranch =
        .ok sourceBranch.val :=
      Clone.currentBranch_eq_ok.mpr ⟨sourceBranch, hhead, rfl⟩
    refine mergesTo_gitCommand.mpr ⟨hfetchRun, (), _, rfl, ?_⟩
    refine mergesTo_gitCommand.mpr ⟨hbranchRun, sourceBranch.val, _,
      Prod.ext rfl hbranch, ?_⟩
    exact mergesTo_operation.mpr ⟨hoperationRun, .clean, _,
      (strategyCommand_eq_clean hhead').mpr
        ⟨source, onto, tip, hsource, honto, hintegration, rfl⟩, h⟩

/-- The pipeline reports a merge exactly for a complete run. -/
theorem performMerge_mergesTo {item : MergeQueueItem} {task : Task}
    (hprogress : progress.task = mergingTask task)
    (hitem : ItemIn params progress.task.taskId .rebasing w.store)
    (htask : w.store.findTask progress.task.taskId = some progress.task) :
    MergesTo (performMerge (script.ports git) params item.approvedCommitSha progress) w sha
        remote validated <->
      exists run,
        run.item = item ∧
        run.task = task ∧
        Completes git script params w.outer.clone run ∧
        sha = run.tip ∧
        remote = remoteAfter git script params w.outer.clone run ∧
        validated = some run.tip := by
  have hpacket : forall name result,
      packetOf git script params item.approvedCommitSha name result progress.task sha =
        packetOf git script params item.approvedCommitSha name result task sha := by
    intro name result
    rw [hprogress]
    rfl
  have hremote : forall tip pushes,
      git.receiveAll (integrated params (operationClone git script w.outer.clone) tip).remote
          (script.runMergeGateValidation.pushes ++ (script.push.pushes ++ pushes)) =
        git.receiveAll w.outer.clone.remote (script.pushesBefore ++ pushes) := by
    intro tip pushes
    simp only [integrated_remote, operationClone, fetchedClone, Clone.receive, Clone.fetch,
      GitScript.pushesBefore, Git.receiveAll_append]
  have hheadCommit : forall sourceBranch tip, w.outer.clone.head = .branch sourceBranch ->
      (integrated params (operationClone git script w.outer.clone) tip).headCommit =
        some tip :=
    fun sourceBranch tip hhead => @integrated_headCommit params sourceBranch tip _ hhead
  have hvalidate : forall name clone,
      MergesTo (validateMerge (script.ports git) params item.approvedCommitSha name progress)
        (withClone w clone) sha remote validated <-> _ :=
    fun name clone => validateMerge_mergesTo hitem htask
  rw [performMerge_integrates]
  simp only [hvalidate, hpacket]
  constructor
  · intro h
    rcases h with ⟨sourceBranch, source, onto, tip, hmade, result, pushed, hresult, hpassed,
      hpublishes, hhead, hremote', hvalidated⟩
    change (integrated params (operationClone git script w.outer.clone) tip).headCommit =
      some sha at hhead
    rw [hheadCommit sourceBranch tip hmade.onBranch] at hhead
    cases hhead
    rcases (publishes_iff hmade.onBranch).mp hpublishes with
      ⟨hpush, hfound, haccepted, hheadRun, hrecorded⟩
    refine ⟨⟨item, task, sourceBranch, source, onto, sha, result, pushed⟩, rfl, rfl,
      ⟨hmade, hresult, hpassed, hpush, hfound, haccepted, hheadRun, hrecorded⟩, rfl, ?_,
      hvalidated⟩
    rw [hremote']
    exact hremote sha _
  · intro h
    rcases h with ⟨run, hitem', htask', ⟨hmade, hresult, hpassed, hpush, hfound, haccepted,
      hheadRun, hrecorded⟩, hsha, hremote', hvalidated⟩
    rw [← hitem', ← htask', hsha]
    refine ⟨run.sourceBranch, run.source, run.onto, run.tip, hmade, run.validation,
      run.pushed, hresult, hpassed,
      (publishes_iff hmade.onBranch).mpr ⟨hpush, hfound, haccepted, hheadRun, hrecorded⟩,
      hheadCommit run.sourceBranch run.tip hmade.onBranch, ?_, hvalidated⟩
    rw [hremote']
    exact (hremote run.tip _).symm

theorem executeMerge_mergesTo :
    MergesTo (executeMerge (script.ports git) params) w sha remote validated <->
      exists run,
        Startable params run.item run.task w.store ∧
        Completes git script params w.outer.clone run ∧
        sha = run.tip ∧
        remote = remoteAfter git script params w.outer.clone run ∧
        validated = some run.tip := by
  have hrest : forall item task, Startable params item task w.store ->
      (MergesTo (onStore (startRebase params task) >>= fun progress =>
          performMerge (script.ports git) params item.approvedCommitSha progress) w sha remote
          validated <->
        exists run,
          run.item = item ∧
          run.task = task ∧
          Completes git script params w.outer.clone run ∧
          sha = run.tip ∧
          remote = remoteAfter git script params w.outer.clone run ∧
          validated = some run.tip) := by
    intro item task hstartable
    rcases startRebase_accepts hstartable with ⟨s', progress, hstart, hmoved, hitem, htask⟩
    have hitem' : ItemIn params progress.task.taskId .rebasing s' := by
      rw [hmoved]
      exact hitem
    have htask' : s'.findTask progress.task.taskId = some progress.task := by
      rw [hmoved]
      exact htask
    rw [mergesTo_onStore hstart]
    exact performMerge_mergesTo hmoved hitem' htask'
  unfold executeMerge
  rw [mergesTo_bind]
  constructor
  · intro h
    rcases h with ⟨⟨item, task⟩, w', hload, h⟩
    rcases Process.returns_transaction.mp hload with ⟨s', hload, hw'⟩
    rcases loadMerge_eq_ok.mp hload with ⟨hs', hstartable⟩
    rw [hw', hs'] at h
    rcases (hrest item task hstartable).mp h with ⟨run, hitem, htask, hrun⟩
    refine ⟨run, ?_, hrun⟩
    rw [hitem, htask]
    exact hstartable
  · intro h
    rcases h with ⟨run, hstartable, hrun⟩
    refine ⟨(run.item, run.task), w, ?_, ?_⟩
    · exact Process.returns_transaction.mpr
        ⟨w.store, loadMerge_eq_ok.mpr ⟨rfl, hstartable⟩, rfl⟩
    · exact (hrest run.item run.task hstartable).mpr ⟨run, rfl, rfl, hrun⟩

end Complete

/-!
## Runs that report no merge
-/

section Unmerged

variable {git : Git String} {script : GitScript} {params : ExecuteMergeParams} {α : Type}

def KeepsRemote (w w' : World GitWorld) : Prop :=
  w'.outer.clone.remote = w.outer.clone.remote

def Unmerged (r : Except Thrown ExecuteMergeResult) : Prop :=
  (exists result, r = .ok result) ∧ reportedSha r = none

theorem onStore_keepsRemote (call : Store -> Except ServiceError (Store × α)) :
    Process.Guarantees KeepsRemote (onStore call) :=
  Process.Guarantees.transaction (fun _ _ _ _ => rfl)

theorem ofExcept_keepsRemote (r : Except Thrown α) :
    Process.Guarantees KeepsRemote (Process.ofExcept r) := by
  cases r with
  | ok a =>
      exact Process.Guarantees.pure a
  | error e =>
      exact Process.Guarantees.throw e

theorem gitCommand_keepsRemote {step : GitStep Unit}
    {command : Clone String -> Clone String × Except String α}
    (h : forall clone, (command clone).1.remote = clone.remote) :
    Process.Guarantees KeepsRemote (gitCommand git step command) := by
  have hclone : Process.Guarantees KeepsRemote (onClone command) := by
    apply Process.Guarantees.transaction
    intro w clone' report hcommand
    have hremote := h w.outer.clone
    rw [Except.ok.inj hcommand] at hremote
    exact hremote
  exact Process.Guarantees.await.bind
    (fun _ => hclone.bind (fun report => ofExcept_keepsRemote _))

theorem mergeOperation_keepsRemote (sourceBranch : String) :
    Process.Guarantees KeepsRemote
      (mergeOperation (script.ports git) params sourceBranch) := by
  rw [mergeOperation_gitPorts]
  exact (gitCommand_keepsRemote (strategyCommand_remote git params sourceBranch)).bind
    (fun _ => Process.Guarantees.pure _)

theorem rejectConflict_keepsRemote (conflictFiles : List String) (progress : MergeProgress) :
    Process.Guarantees KeepsRemote
      (rejectConflict (script.ports git) params conflictFiles progress) :=
  Process.Guarantees.await.bind (fun _ =>
    (onStore_keepsRemote _).bind (fun _ => Process.Guarantees.pure _))

theorem onClone_eq (command : Clone String -> Clone String × Except String α)
    (w : World GitWorld) :
    onClone command w =
      { result := .ok (command w.outer.clone).2
        state := withClone w (command w.outer.clone).1
        commits := [(w, withClone w (command w.outer.clone).1)] } :=
  rfl

/-- A command that throws has kept the remote, if it does so when it fails. -/
theorem gitCommand_keepsRemote_thrown {step : GitStep Unit}
    {command : Clone String -> Clone String × Except String α}
    (h : forall clone clone' message, command clone = (clone', .error message) ->
      clone'.remote = clone.remote) :
    Process.GuaranteesWhen (fun r => exists e, r = .error e) KeepsRemote
      (gitCommand git step command) := by
  have hcommand : Process.GuaranteesWhen (fun r => exists e, r = .error e) KeepsRemote
      (onClone command >>= fun report => Process.ofExcept (report.mapError .port)) := by
    intro w hthrown c hc
    rcases Process.mem_commits_bind.mp hc with hc | ⟨report, _, hc⟩
    · rw [onClone_eq] at hc
      rw [List.mem_singleton.mp hc]
      have hresult : (onClone command w).result = .ok (command w.outer.clone).2 := rfl
      rw [Process.bind_result_of_ok hresult] at hthrown
      cases hreport : (command w.outer.clone).2 with
      | ok a =>
          rw [hreport] at hthrown
          rcases hthrown with ⟨e, he⟩
          cases he
      | error message =>
          exact h _ _ message (Prod.ext rfl hreport)
    · exact (ofExcept_keepsRemote _ _ trivial).2 c hc
  exact Process.Guarantees.bind_when Process.Guarantees.await (fun _ => hcommand)

theorem not_unmerged_merged {progress : MergeProgress} {packet : MergePacket}
    {artifactPath mergedCommitSha : String} :
    ¬ Unmerged (.ok (.merged progress packet artifactPath mergedCommitSha)) := by
  intro h
  cases h.2

theorem not_unmerged_error {e : Thrown} : ¬ Unmerged (.error e) := by
  intro h
  rcases h.1 with ⟨result, hresult⟩
  cases hresult

theorem concludeMerge_merges (approvedCommitSha : Option String) (sourceBranch : String)
    (validationResult : ValidationRunResult) (progress : MergeProgress)
    (w : World GitWorld) :
    ¬ Unmerged (concludeMerge (script.ports git) params approvedCommitSha sourceBranch
      validationResult progress w).result := by
  have hrecord : forall packet progress merged,
      Process.Triple Process.AnyCommit (fun _ => True)
        (recordMerge (script.ports git) params packet progress merged)
        (fun r _ => ¬ Unmerged r) := by
    intro packet progress merged
    unfold recordMerge
    split
    · exact (Process.Guarantees.any _).then
        (fun _ => Process.Triple.pure (fun _ _ => not_unmerged_merged))
        (fun _ _ => not_unmerged_error)
    · exact Process.Triple.pure (fun _ _ => not_unmerged_merged)
  have hconclude : Process.Triple Process.AnyCommit (fun _ => True)
      (concludeMerge (script.ports git) params approvedCommitSha sourceBranch
        validationResult progress)
      (fun r _ => ¬ Unmerged r) :=
    (Process.Guarantees.any _).then
      (fun _ => (Process.Guarantees.any _).then (fun _ => hrecord _ _ _)
        (fun _ _ => not_unmerged_error))
      (fun _ _ => not_unmerged_error)
  exact (hconclude w trivial).1

theorem pushMerge_keepsRemote (approvedCommitSha : Option String) (sourceBranch : String)
    (validationResult : ValidationRunResult) (progress : MergeProgress) :
    Process.GuaranteesWhen Unmerged KeepsRemote
      (pushMerge (script.ports git) params approvedCommitSha sourceBranch validationResult
        progress) := by
  apply Process.Guarantees.bind_when (onStore_keepsRemote _)
  intro moved
  apply Process.GuaranteesWhen.bind_attempt
    (gitCommand_keepsRemote_thrown (fun _ _ _ => Clone.push_remote_of_error))
  · intro _ w
    exact concludeMerge_merges approvedCommitSha sourceBranch validationResult moved w
  · intro e
    exact ((onStore_keepsRemote _).bind (fun _ => Process.Guarantees.pure _)).when

theorem validateWorkspace_keepsRemote :
    Process.Guarantees KeepsRemote
      (validateWorkspace git script.runMergeGateValidation) := by
  apply Process.Guarantees.await.bind
  intro result
  apply Process.Guarantees.transaction
  intro w outer found hvalidate
  rw [← (Prod.mk.inj (Except.ok.inj hvalidate)).1]
  rfl

theorem validateMerge_keepsRemote (approvedCommitSha : Option String)
    (sourceBranch : String) (progress : MergeProgress) :
    Process.GuaranteesWhen Unmerged KeepsRemote
      (validateMerge (script.ports git) params approvedCommitSha sourceBranch progress) := by
  apply Process.Guarantees.bind_when (onStore_keepsRemote _)
  intro moved
  apply Process.Guarantees.bind_when validateWorkspace_keepsRemote
  intro result
  cases result.overallStatus with
  | failed =>
      exact ((onStore_keepsRemote _).bind (fun _ => Process.Guarantees.pure _)).when
  | passed =>
      exact pushMerge_keepsRemote approvedCommitSha sourceBranch result moved

theorem executeMerge_keepsRemote :
    Process.GuaranteesWhen Unmerged KeepsRemote
      (executeMerge (script.ports git) params) := by
  apply Process.Guarantees.bind_when (onStore_keepsRemote _)
  intro found
  apply Process.Guarantees.bind_when (onStore_keepsRemote _)
  intro progress
  apply Process.Guarantees.bind_when (gitCommand_keepsRemote (fun _ => rfl))
  intro _
  apply Process.Guarantees.bind_when (gitCommand_keepsRemote (fun _ => rfl))
  intro sourceBranch
  apply Process.Guarantees.bind_when (mergeOperation_keepsRemote sourceBranch)
  intro result
  cases result.success with
  | true =>
      exact validateMerge_keepsRemote _ sourceBranch progress
  | false =>
      exact (rejectConflict_keepsRemote _ progress).when

end Unmerged

/-!
## Merged means integrated
-/

section Integrity

variable {git : Git String} {script : GitScript} {params : ExecuteMergeParams}

/-- The commit of a merge that is reported is the validated integration of the source
branch into the fetched target, and the target branch of the remote has it.  A run that
returns something else has not moved the target branch. -/
structure MergedIsIntegrated (git : Git String) (script : GitScript)
    (params : ExecuteMergeParams) (clone : Clone String)
    (ending : Ending (World GitWorld) Thrown ExecuteMergeResult) : Prop where
  reached : forall sha, reportedSha ending.result = some sha ->
    git.BranchContains ending.state.outer.clone.remote params.targetBranch sha
  integrated : forall sha, reportedSha ending.result = some sha ->
    exists sourceBranch source onto,
      clone.head = .branch sourceBranch ∧
      clone.branches sourceBranch = some source ∧
      (fetchedClone git script clone).tracking params.targetBranch = some onto ∧
      IsIntegration git params sourceBranch.val source onto sha ∧
      git.Contains sha onto ∧
      ending.state.outer.validated = some sha
  untouched : Unmerged ending.result -> forall c, c ∈ ending.commits ->
    c.2.outer.clone.remote params.targetBranch = c.1.outer.clone.remote params.targetBranch

/-- A rebase is pushed to its own branch, so the target branch gets it from there only if
it is the same, and otherwise from others.  After a squash or a merge commit the local
target branch is pushed as it was before. -/
def ReachesTarget (git : Git String) (script : GitScript) (params : ExecuteMergeParams)
    (clone : Clone String) (run : MergeRun) : Prop :=
  if params.mergeStrategy = .rebaseAndMerge then
    run.sourceBranch.val = params.targetBranch ∨
      git.BranchContains
        (git.receiveAll clone.remote
          (script.pushesBefore ++ script.pushesAfter (run.packet git script params)))
        params.targetBranch run.tip
  else
    exists stale,
      clone.localCommit params.targetBranch = some stale ∧
      git.BranchContains
        (git.receiveAll clone.remote
          (script.pushesBefore ++ (params.targetBranch, stale) ::
            script.pushesAfter (run.packet git script params)))
        params.targetBranch run.tip

theorem pushed_reaches {clone : Clone String} {run : MergeRun}
    (h : Completes git script params clone run) :
    git.BranchContains (remoteAfter git script params clone run)
      (pushBranch params run.sourceBranch.val) run.pushed := by
  unfold remoteAfter
  rw [Git.receiveAll_append, Git.receiveAll_cons]
  apply Git.BranchContains.receiveAll
  exact ⟨run.pushed, Git.receive_of_accepts h.accepted, git.contains_refl run.pushed⟩

theorem reachesTarget_iff {clone : Clone String} {run : MergeRun}
    (h : Completes git script params clone run) :
    ReachesTarget git script params clone run <->
      git.BranchContains (remoteAfter git script params clone run) params.targetBranch
        run.tip := by
  have hfound := h.found
  have hpushed := pushed_reaches h
  unfold ReachesTarget
  unfold pushedCommit at hfound
  unfold remoteAfter pushBranch at *
  split
  · rename_i hrebase
    rw [if_pos hrebase] at hfound hpushed
    rw [← Option.some.inj hfound] at hpushed ⊢
    by_cases hsame : params.targetBranch = run.sourceBranch.val
    · constructor
      · intro _
        rw [hsame]
        exact hpushed
      · intro _
        exact Or.inl hsame.symm
    · rw [Git.branchContains_congr (Git.receiveAll_insert hsame _ _)]
      constructor
      · intro hreaches
        rcases hreaches with hsource | hothers
        · exact absurd hsource.symm hsame
        · exact hothers
      · intro hothers
        exact Or.inr hothers
  · rename_i hstrategy
    rw [if_neg hstrategy] at hfound
    constructor
    · intro hreaches
      rcases hreaches with ⟨stale, hstale, hcontains⟩
      rw [hfound] at hstale
      rw [Option.some.inj hstale]
      exact hcontains
    · intro hcontains
      exact ⟨run.pushed, hfound, hcontains⟩

/-- With any history of the branches, any pushes of others and any outcomes, a merge that
is reported means that it is integrated exactly if the complete run reaches the target
branch. -/
theorem merged_is_integrated_iff (git : Git String) (script : GitScript)
    (params : ExecuteMergeParams) (w : World GitWorld) :
    MergedIsIntegrated git script params w.outer.clone
        (executeMerge (script.ports git) params w) <->
      forall run,
        Startable params run.item run.task w.store ->
        Completes git script params w.outer.clone run ->
        ReachesTarget git script params w.outer.clone run := by
  have hmerges : forall sha,
      reportedSha (executeMerge (script.ports git) params w).result = some sha ->
      exists run,
        Startable params run.item run.task w.store ∧
        Completes git script params w.outer.clone run ∧
        sha = run.tip ∧
        (executeMerge (script.ports git) params w).state.outer.clone.remote =
          remoteAfter git script params w.outer.clone run ∧
        (executeMerge (script.ports git) params w).state.outer.validated = some run.tip := by
    intro sha hsha
    rcases reportedSha_eq_some.mp hsha with ⟨progress, packet, artifactPath, hresult⟩
    exact executeMerge_mergesTo.mp
      ⟨progress, packet, artifactPath, _, ⟨hresult, rfl⟩, rfl, rfl⟩
  constructor
  · intro h run hstartable hcompletes
    rcases executeMerge_mergesTo.mpr ⟨run, hstartable, hcompletes, rfl, rfl, rfl⟩ with
      ⟨progress, packet, artifactPath, w', ⟨hresult, hw'⟩, hremote, _⟩
    have hreached := h.reached _
      (reportedSha_eq_some.mpr ⟨progress, packet, artifactPath, hresult⟩)
    rw [hw', hremote] at hreached
    exact (reachesTarget_iff hcompletes).mpr hreached
  · intro h
    constructor
    · intro sha hreported
      rcases hmerges sha hreported with ⟨run, hstartable, hcompletes, hsha, hremote, _⟩
      rw [hremote, hsha]
      exact (reachesTarget_iff hcompletes).mp (h run hstartable hcompletes)
    · intro sha hreported
      rcases hmerges sha hreported with ⟨run, _, hcompletes, hsha, _, hvalidated⟩
      have hmade := hcompletes.made
      rw [hsha]
      exact ⟨run.sourceBranch, run.source, run.onto, hmade.onBranch, hmade.sourceTip,
        hmade.target, hmade.integration, hmade.integration.contains, hvalidated⟩
    · intro hunmerged c hc
      exact congrFun (executeMerge_keepsRemote w hunmerged c hc) params.targetBranch

end Integrity

/-!
## A rebase that stays on its branch
-/

def starParents (commit : String) : List String :=
  if commit = "c0" then [] else ["c0"]

def starIsAncestor (commit tip : String) : Bool :=
  commit = tip || commit = "c0"

theorem starIsAncestor_iff (commit tip : String) :
    starIsAncestor commit tip = true <-> Reaches starParents tip commit := by
  unfold starIsAncestor
  simp only [Bool.or_eq_true, decide_eq_true_eq]
  constructor
  · intro h
    rcases h with hsame | hfirst
    · rw [hsame]
      exact Relation.ReflTransGen.refl
    · rw [hfirst]
      by_cases htip : tip = "c0"
      · rw [htip]
        exact Relation.ReflTransGen.refl
      · apply Relation.ReflTransGen.single
        simp [starParents, htip]
  · intro h
    cases h with
    | refl =>
        exact Or.inl rfl
    | tail _ hparent =>
        right
        unfold starParents at hparent
        split at hparent
        · cases hparent
        · exact List.mem_singleton.mp hparent

def starGit : Git String where
  parents := starParents
  isAncestor := starIsAncestor
  isAncestor_iff := starIsAncestor_iff
  rebase := fun source onto =>
    if starIsAncestor onto source then .ok source else .error ["README.md"]
  rebase_reaches := by
    intro source onto tip h
    split at h
    · rename_i hancestor
      cases h
      exact (starIsAncestor_iff onto source).mp hancestor
    · cases h
  squash := fun _ onto _ => if onto = "c0" then .ok (some "q1") else .error ["README.md"]
  squash_parents := by
    intro source onto message tip h
    split at h
    · rename_i honto
      cases h
      rw [honto]
      rfl
    · cases h
  merge := fun source onto =>
    if starIsAncestor source onto then .ok onto else .error ["README.md"]
  merge_parents := by
    intro source onto tip h
    split at h
    · rename_i hancestor
      cases h
      exact Or.inr ⟨rfl, (starIsAncestor_iff source onto).mp hancestor⟩
    · cases h

def taskBranch : LocalBranch :=
  ⟨"factory/task-1", by decide +kernel⟩

def taskClone : Clone String where
  head := .branch taskBranch
  branches := fun branch => if branch = taskBranch then some "s1" else some "c0"
  tracking := fun branch => if branch = "main" then some "c0" else none
  remote := fun branch => if branch = "main" then some "c0" else none

def taskWorld : World GitWorld where
  store := preparedStore
  outer :=
    { clone := taskClone
      validated := none }

def calmScript : GitScript where
  fetch := { outcome := .ok () }
  getCurrentBranch := { outcome := .ok () }
  operation := { outcome := .ok () }
  runMergeGateValidation := { outcome := .ok passedValidation }
  push := { outcome := .ok () }
  getHeadSha := { outcome := .ok () }
  classify := { outcome := .ok .reworkable }
  persistMergePacket := { outcome := .ok "/artifacts/item-1.json" }
  completedAt := 1000
  createdAt := 1000

/-- The merge of s1 is reported, and main is still at c0. -/
theorem reported_merge_not_on_target :
    ¬ MergedIsIntegrated starGit calmScript mergeParams taskClone
      (executeMerge (calmScript.ports starGit) mergeParams taskWorld) := by
  intro h
  have hsha : reportedSha (executeMerge (calmScript.ports starGit) mergeParams
      taskWorld).result = some "s1" := by
    decide +kernel
  have hmain : (executeMerge (calmScript.ports starGit) mergeParams
      taskWorld).state.outer.clone.remote "main" = some "c0" := by
    decide +kernel
  rcases h.reached "s1" hsha with ⟨tip, htip, hcontains⟩
  rw [show mergeParams.targetBranch = "main" from rfl, hmain] at htip
  cases htip
  have hancestor : starIsAncestor "s1" "c0" = true :=
    (starIsAncestor_iff "s1" "c0").mpr hcontains
  revert hancestor
  decide

end Merging
end CopilotFactory
