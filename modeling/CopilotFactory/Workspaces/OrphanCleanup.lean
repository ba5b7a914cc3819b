import CopilotFactory.Workspaces.Cleanup
import CopilotFactory.Workspaces.WorkspaceManager

/-!
# Which directories an orphan cleanup acts on

The reconciliation hands the path of an orphaned directory to the workspace manager
as the path of a repository, and the manager computes the directory to remove from
the base name of that path, which is the name of the task.
-/

namespace CopilotFactory
namespace Workspaces

open Foundations
open Domain
open Infrastructure
open Application

/-!
## A reconciliation that changes files
-/

/-- The ports of a reconciliation over a state that cleaning up changes. -/
structure WorkspacePorts (σ : Type) where
  findTasksInTerminalStates : List ExpiredWorkspaceRecord
  listWorkspaceDirectories : σ -> Except String (List WorkspaceDirectoryEntry)
  cleanupWorkspace : CleanupRequest -> σ -> Except String Unit × σ

variable {σ : Type}

def cleanExpired (ports : WorkspacePorts σ) (policy : WorkspaceRetentionPolicy)
    (now : Millis) : List ExpiredWorkspaceRecord -> σ -> List CleanupAction × σ
  | [], s => ([], s)
  | task :: rest, s =>
      if (eligibilityOf policy now task).eligible then
        let cleaned := ports.cleanupWorkspace (expiredRequest task) s
        let others := cleanExpired ports policy now rest cleaned.2
        ({ taskId := task.taskId
           place := task.projectId
           outcome := cleanupOutcome cleaned.1 } :: others.1, others.2)
      else
        let others := cleanExpired ports policy now rest s
        ({ taskId := task.taskId
           place := task.projectId
           outcome := .skipped (eligibilityOf policy now task).reason } :: others.1, others.2)

def cleanOrphans (ports : WorkspacePorts σ) (knownTaskIds : List TaskId) :
    List WorkspaceDirectoryEntry -> σ -> List CleanupAction × σ
  | [], s => ([], s)
  | entry :: rest, s =>
      if entry.taskId ∈ knownTaskIds then
        cleanOrphans ports knownTaskIds rest s
      else
        let cleaned := ports.cleanupWorkspace (orphanRequest entry) s
        let others := cleanOrphans ports knownTaskIds rest cleaned.2
        ({ taskId := entry.taskId
           place := entry.absolutePath
           outcome := cleanupOutcome cleaned.1 } :: others.1, others.2)

/-- The directories are listed after the expired workspaces have been cleaned up. -/
def cleanOrphaned (ports : WorkspacePorts σ) (knownTaskIds : List TaskId) (s : σ) :
    List CleanupAction × σ :=
  match ports.listWorkspaceDirectories s with
  | .error text =>
      ([{ taskId := "unknown"
          place := "unknown"
          outcome := .error s!"Scanner failed: {text}" }], s)
  | .ok entries => cleanOrphans ports knownTaskIds entries s

/-- The state that a reconciliation leaves behind, and how it ended. -/
structure Reconciled (σ : Type) where
  state : σ
  result : Except ServiceError (JobTable × ProcessReconciliationResult)

def Reconciled.orphanedWorkspaceActions (run : Reconciled σ) : List CleanupAction :=
  match run.result with
  | .ok (_, .processed _ _ orphanedWorkspaceActions _) => orphanedWorkspaceActions
  | _ => []

def reconcile (ports : WorkspacePorts σ) (config : WorkspaceReconciliationConfig)
    (now : Millis) (nextJobId : JobId) (jobs : JobTable) (s : σ) : Reconciled σ :=
  match claimJob .cleanup config.leaseOwner now jobs with
  | none =>
      { state := s
        result := .ok (jobs, .skipped) }
  | some (jobs₁, job) =>
      let terminalTasks := ports.findTasksInTerminalStates
      let expired := cleanExpired ports config.retentionPolicy now terminalTasks s
      let knownTaskIds := terminalTasks.map ExpiredWorkspaceRecord.taskId
      let orphaned := cleanOrphaned ports knownTaskIds expired.2
      { state := orphaned.2
        result := do
          let (jobs₂, _) ← completeJob job.jobId jobs₁
          let (jobs₃, nextJob) ← createJob now nextJobId
            { jobType := .cleanup
              runAfter := some (now + config.reconciliationIntervalMs) } jobs₂
          pure (jobs₃, .processed job.jobId expired.1 orphaned.1 nextJob.jobId) }

/-!
## The workspace manager as a port
-/

variable {γ : Type}

def cleanupOptions (request : CleanupRequest) : CleanupWorkspaceOptions where
  taskId := request.taskId
  repoPath := request.repoPath
  deleteBranch := some request.deleteBranch
  forceBranchDelete := some request.forceBranchDelete

/-- The adapter passes no name of a repository on. -/
def createWorkspaceProviderAdapter (git : GitOperations γ) (workspacesRoot : String)
    (request : CleanupRequest) (host : Host γ) : Except String Unit × Host γ :=
  let cleaned := cleanupWorkspace git workspacesRoot (cleanupOptions request) host
  ((cleaned.1.mapError WorkspaceError.message).map (fun _ => ()), cleaned.2)

/-- The ports over the workspace manager, for given terminal tasks and a scanner. -/
def managedPorts (git : GitOperations γ) (workspacesRoot : String)
    (tasks : List ExpiredWorkspaceRecord)
    (scan : Host γ -> Except String (List WorkspaceDirectoryEntry)) :
    WorkspacePorts (Host γ) where
  findTasksInTerminalStates := tasks
  listWorkspaceDirectories := scan
  cleanupWorkspace := createWorkspaceProviderAdapter git workspacesRoot

def orphanPath (workspacesRoot : String) (entry : WorkspaceDirectoryEntry) : String :=
  cleanupPath workspacesRoot (cleanupOptions (orphanRequest entry))

/-- The entry is the directory of its task below that of the repository. -/
structure LiesIn (workspacesRoot repoId : String) (entry : WorkspaceDirectoryEntry) :
    Prop where
  repository : Path.IsName repoId
  task : Path.IsName entry.taskId
  path : entry.absolutePath = Path.join [workspacesRoot, repoId, entry.taskId]

def CleanedOrphan (entry : WorkspaceDirectoryEntry) (actions : List CleanupAction) : Prop :=
  { taskId := entry.taskId, place := entry.absolutePath, outcome := .cleaned } ∈ actions

instance (entry : WorkspaceDirectoryEntry) (actions : List CleanupAction) :
    Decidable (CleanedOrphan entry actions) :=
  inferInstanceAs (Decidable (_ ∈ _))

/-- The cleanup of an entry acts on it, and it is gone afterwards. -/
def ReallyCleaned (workspacesRoot : String) (entry : WorkspaceDirectoryEntry)
    (host : Host γ) : Prop :=
  orphanPath workspacesRoot entry = entry.absolutePath ∧
    host.files.has entry.absolutePath = false

section Paths

variable {workspacesRoot repoId : String} {entry : WorkspaceDirectoryEntry}

theorem orphanPath_eq (h : LiesIn workspacesRoot repoId entry) :
    orphanPath workspacesRoot entry =
      Path.join [workspacesRoot, entry.taskId, entry.taskId] := by
  have hbase : Path.basename entry.absolutePath = entry.taskId := by
    rw [h.path]
    exact Path.basename_join [workspacesRoot, repoId] h.task
  show Path.join [workspacesRoot, Path.basename entry.absolutePath, entry.taskId] = _
  rw [hbase]

theorem locate_orphanPath (h : LiesIn workspacesRoot repoId entry)
    (files : FileSystem String) :
    files.locate (orphanPath workspacesRoot entry) =
      files.locate workspacesRoot ++ [entry.taskId, entry.taskId] := by
  rw [orphanPath_eq h]
  unfold FileSystem.locate
  rw [Path.locate_join]
  intro name hname
  simp only [List.mem_cons, List.not_mem_nil, or_false, or_self] at hname
  rw [hname]
  exact h.task

theorem locate_entry (h : LiesIn workspacesRoot repoId entry) (files : FileSystem String) :
    files.locate entry.absolutePath = files.locate workspacesRoot ++ [repoId, entry.taskId] := by
  rw [h.path]
  unfold FileSystem.locate
  rw [Path.locate_join]
  intro name hname
  simp only [List.mem_cons, List.not_mem_nil, or_false] at hname
  rcases hname with hname | hname
  · rw [hname]
    exact h.repository
  · rw [hname]
    exact h.task

theorem orphanPath_eq_iff (h : LiesIn workspacesRoot repoId entry) (files : FileSystem String) :
    orphanPath workspacesRoot entry = entry.absolutePath <-> repoId = entry.taskId := by
  constructor
  · intro heq
    have hlocations := locate_orphanPath h files
    rw [heq, locate_entry h files] at hlocations
    simp only [List.append_cancel_left_eq, List.cons.injEq, and_true] at hlocations
    exact hlocations
  · intro heq
    rw [orphanPath_eq h, h.path, heq]

end Paths

/-!
## What is left of an orphaned directory
-/

section Runs

variable {git : GitOperations γ} {workspacesRoot : String}
  {tasks : List ExpiredWorkspaceRecord}
  {scan : Host γ -> Except String (List WorkspaceDirectoryEntry)}

variable {host : Host γ}

theorem adapter_removes (hgit : git.OnlyRemoves) (request : CleanupRequest) (host : Host γ) :
    FileSystem.RemovedBelow (cleanupPath workspacesRoot (cleanupOptions request)) host.files
      (createWorkspaceProviderAdapter git workspacesRoot request host).2.files :=
  (cleanupWorkspace_removes workspacesRoot hgit (cleanupOptions request) host).1

theorem gone_of_cleaned (hgit : git.OnlyRemoves) {entry : WorkspaceDirectoryEntry}
    (h : cleanupOutcome (createWorkspaceProviderAdapter git workspacesRoot
      (orphanRequest entry) host).1 = .cleaned) :
    (createWorkspaceProviderAdapter git workspacesRoot (orphanRequest entry) host).2.files.has
      (orphanPath workspacesRoot entry) = false := by
  unfold createWorkspaceProviderAdapter at h
  cases hcleaned : (cleanupWorkspace git workspacesRoot
      (cleanupOptions (orphanRequest entry)) host).1 with
  | error e =>
      simp only [hcleaned] at h
      cases h
  | ok result =>
      exact (cleanupWorkspace_removes workspacesRoot hgit _ host).2 result hcleaned

theorem cleanOrphans_gone (hgit : git.OnlyRemoves) {known : List TaskId} {path : String}
    (entries : List WorkspaceDirectoryEntry) (h : host.files.has path = false) :
    (cleanOrphans (managedPorts git workspacesRoot tasks scan) known entries
      host).2.files.has path = false := by
  induction entries generalizing host with
  | nil =>
      exact h
  | cons entry rest ih =>
      unfold cleanOrphans
      split
      · exact ih h
      · exact ih ((adapter_removes hgit (orphanRequest entry) host).has_eq_false h)

theorem gone_of_cleanOrphans (hgit : git.OnlyRemoves) {known : List TaskId}
    {entry : WorkspaceDirectoryEntry} (entries : List WorkspaceDirectoryEntry)
    (h : CleanedOrphan entry
      (cleanOrphans (managedPorts git workspacesRoot tasks scan) known entries host).1) :
    (cleanOrphans (managedPorts git workspacesRoot tasks scan) known entries
      host).2.files.has (orphanPath workspacesRoot entry) = false := by
  induction entries generalizing host with
  | nil =>
      cases h
  | cons first rest ih =>
      unfold CleanedOrphan cleanOrphans at h
      unfold cleanOrphans
      split at h
      · rename_i hknown
        rw [if_pos hknown]
        exact ih h
      · rename_i hunknown
        rw [if_neg hunknown]
        rcases List.mem_cons.mp h with h | h
        · have hfirst : entry = first := by
            cases entry
            cases first
            simp only [CleanupAction.mk.injEq] at h
            rw [h.1, h.2.1]
          rw [hfirst]
          simp only [CleanupAction.mk.injEq] at h
          exact cleanOrphans_gone hgit rest (gone_of_cleaned hgit h.2.2.symm)
        · exact ih h

/-- What is reported was found, and cleaned up, in the state that is left behind. -/
theorem cleanOrphaned_of_reported {ports : WorkspacePorts (Host γ)}
    {config : WorkspaceReconciliationConfig} {now : Millis} {nextJobId : JobId}
    {jobs : JobTable} {entry : WorkspaceDirectoryEntry}
    (h : CleanedOrphan entry
      (reconcile ports config now nextJobId jobs host).orphanedWorkspaceActions) :
    exists known entries before,
      CleanedOrphan entry (cleanOrphans ports known entries before).1 ∧
        (reconcile ports config now nextJobId jobs host).state =
          (cleanOrphans ports known entries before).2 := by
  unfold Reconciled.orphanedWorkspaceActions at h
  split at h
  · rename_i hresult
    unfold reconcile at hresult ⊢
    cases hclaim : claimJob .cleanup config.leaseOwner now jobs with
    | none =>
        rw [hclaim] at hresult
        cases hresult
    | some claimed =>
        rw [hclaim] at hresult
        simp only [bind_eq_ok, pure_eq_ok, Prod.mk.injEq,
          ProcessReconciliationResult.processed.injEq] at hresult
        rcases hresult with ⟨_, _, _, _, _, _, _, hactions, _⟩
        rw [← hactions] at h
        dsimp only
        unfold cleanOrphaned at h ⊢
        split at h
        · simp [CleanedOrphan] at h
        · rename_i entries _
          exact ⟨_, entries, _, h, rfl⟩
  · cases h

/-- An orphaned directory that a reconciliation reports as cleaned is the one acted on,
and gone, exactly if its repository has the name of its task. -/
theorem orphan_cleaned_iff (hgit : git.OnlyRemoves) {repoId : String}
    {entry : WorkspaceDirectoryEntry} (hentry : LiesIn workspacesRoot repoId entry)
    {config : WorkspaceReconciliationConfig} {now : Millis} {nextJobId : JobId}
    {jobs : JobTable} {host : Host γ}
    (hcleaned : CleanedOrphan entry
      (reconcile (managedPorts git workspacesRoot tasks scan) config now nextJobId jobs
        host).orphanedWorkspaceActions) :
    ReallyCleaned workspacesRoot entry
        (reconcile (managedPorts git workspacesRoot tasks scan) config now nextJobId jobs
          host).state <->
      repoId = entry.taskId := by
  constructor
  · intro h
    exact (orphanPath_eq_iff hentry host.files).mp h.1
  · intro h
    have hpath := (orphanPath_eq_iff hentry host.files).mpr h
    rcases cleanOrphaned_of_reported hcleaned with ⟨known, entries, before, hreported, hstate⟩
    refine ⟨hpath, ?_⟩
    rw [hstate, ← hpath]
    exact gone_of_cleanOrphans hgit entries hreported

end Runs

/-!
## A directory below a repository

No repository is found at or above the directories of the workspaces, so that git
fails in them.
-/

def noRepository : GitOperations Unit where
  getDefaultBranch := fun _ _ => .error "fatal: not a git repository"
  addWorktree := fun _ _ _ _ host => (.error "fatal: not a git repository", host)
  branchExists := fun _ _ _ => false
  isCleanWorkingTree := fun _ _ => .error "fatal: not a git repository"
  getCurrentBranch := fun _ _ => none
  removeWorktree := fun _ _ host => (.error "fatal: not a git repository", host)
  deleteBranch := fun _ _ _ host => (.error "fatal: not a git repository", host)

theorem noRepository_onlyRemoves : noRepository.OnlyRemoves where
  removeWorktree _ _ _ := FileSystem.RemovedBelow.refl _ _
  deleteBranch _ _ _ _ := rfl

def directoriesOf (repoId : String) (taskId : TaskId) : Host Unit where
  files :=
    { workingDirectory := []
      entry := fun location =>
        if location <+: ["workspaces", repoId, taskId] then some .directory else none }
  repositories := ()

def entryOf (repoId : String) (taskId : TaskId) : WorkspaceDirectoryEntry where
  taskId := taskId
  absolutePath := Path.join ["/workspaces", repoId, taskId]

def scanFor (entry : WorkspaceDirectoryEntry) (host : Host Unit) :
    Except String (List WorkspaceDirectoryEntry) :=
  .ok (if host.files.has entry.absolutePath then [entry] else [])

theorem entryOf_liesIn {repoId : String} {taskId : TaskId} (hrepo : Path.IsName repoId)
    (htask : Path.IsName taskId) :
    LiesIn "/workspaces" repoId (entryOf repoId taskId) where
  repository := hrepo
  task := htask
  path := rfl

def sweepOf (repoId : String) (taskId : TaskId) : Reconciled (Host Unit) :=
  reconcile
    (managedPorts noRepository "/workspaces" [] (scanFor (entryOf repoId taskId)))
    {} 1000 "job-2" cleanupJobs (directoriesOf repoId taskId)

theorem isName_task9 : Path.IsName "task-9" where
  noSlash := by decide
  ne_empty := by decide
  ne_dot := by decide
  ne_dots := by decide

theorem isName_repo1 : Path.IsName "repo-1" where
  noSlash := by decide
  ne_empty := by decide
  ne_dot := by decide
  ne_dots := by decide

theorem orphan_cleaned_same_name :
    ReallyCleaned "/workspaces" (entryOf "task-9" "task-9") (sweepOf "task-9" "task-9").state <->
      "task-9" = (entryOf "task-9" "task-9").taskId :=
  orphan_cleaned_iff noRepository_onlyRemoves (entryOf_liesIn isName_task9 isName_task9)
    (by decide +kernel)

/-- An entry below repo-1 is reported as cleaned and still there. -/
theorem orphan_reported_and_kept :
    LiesIn "/workspaces" "repo-1" (entryOf "repo-1" "task-9") ∧
      CleanedOrphan (entryOf "repo-1" "task-9")
        (sweepOf "repo-1" "task-9").orphanedWorkspaceActions ∧
      ¬ ReallyCleaned "/workspaces" (entryOf "repo-1" "task-9")
        (sweepOf "repo-1" "task-9").state := by
  refine ⟨entryOf_liesIn isName_repo1 isName_task9, by decide +kernel, ?_⟩
  intro h
  have hkept : (sweepOf "repo-1" "task-9").state.files.has
      (entryOf "repo-1" "task-9").absolutePath = true := by
    decide +kernel
  rw [h.2] at hkept
  cases hkept

end Workspaces
end CopilotFactory
