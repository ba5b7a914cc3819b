import CopilotFactory.Foundations.FileSystem
import CopilotFactory.Infrastructure.Rows

/-!
# Workspace manager

A workspace is the directory of a task below that of its repository, with a git
worktree in it.  The worktree is on a branch that is named after the task, and on a
retry also after the number of the attempt.  The git commands are a parameter.
-/

namespace CopilotFactory
namespace Workspaces

open Foundations
open Infrastructure

structure WorkspaceLayout where
  rootPath : String
  worktreePath : String
  logsPath : String
  outputsPath : String
deriving DecidableEq

structure WorkspaceResult where
  layout : WorkspaceLayout
  branchName : String
  reused : Bool
deriving DecidableEq

structure CreateWorkspaceOptions where
  taskId : TaskId
  repoPath : String
  baseBranch : Option String := none
  attempt : Option Nat := none
  repoId : Option String := none

structure CleanupWorkspaceOptions where
  taskId : TaskId
  repoPath : String
  repoId : Option String := none
  deleteBranch : Option Bool := none
  forceBranchDelete : Option Bool := none

structure CleanupWorkspaceResult where
  worktreeRemoved : Bool
  directoryRemoved : Bool
  branchDeleted : Bool
deriving DecidableEq

inductive WorkspaceError where
  | branchExists (branchName : String) (taskId : TaskId)
  | dirty (worktreePath : String) (taskId : TaskId)
  | gitOperation (message : String)
  | fileSystem (message : String)
deriving DecidableEq

def WorkspaceError.message : WorkspaceError -> String
  | .branchExists branchName taskId =>
      s!"Branch \"{branchName}\" already exists for task \"{taskId}\". " ++
        "Use an attempt number to create a retry branch, or clean up the existing workspace."
  | .dirty worktreePath taskId =>
      s!"Workspace at \"{worktreePath}\" for task \"{taskId}\" has uncommitted changes " ++
        "and cannot be reused. Clean or remove the workspace before retrying."
  | .gitOperation message => message
  | .fileSystem message => message

/-- The files, and the repositories with what else git keeps. -/
structure Host (γ : Type) where
  files : FileSystem String
  repositories : γ

/-- The git commands.  The first path is the directory in which a command runs; a command
that fails may have done a part of its work. -/
structure GitOperations (γ : Type) where
  getDefaultBranch : (repoPath : String) -> Host γ -> Except String String
  addWorktree : (repoPath worktreePath branchName startPoint : String) -> Host γ ->
    Except String Unit × Host γ
  branchExists : (repoPath branchName : String) -> Host γ -> Bool
  isCleanWorkingTree : (worktreePath : String) -> Host γ -> Except String Bool
  getCurrentBranch : (worktreePath : String) -> Host γ -> Option String
  /-- A worktree that is gone already is no error. -/
  removeWorktree : (repoPath worktreePath : String) -> Host γ -> Except String Unit × Host γ
  /-- A branch that is not found is no error. -/
  deleteBranch : (repoPath branchName : String) -> (force : Bool) -> Host γ ->
    Except String Unit × Host γ

variable {γ : Type} (git : GitOperations γ) (workspacesRoot : String)

/-!
## Names
-/

def isRetry (attempt : Option Nat) : Bool :=
  match attempt with
  | none => false
  | some n => 1 ≤ n

def computeBranchName (taskId : TaskId) (attempt : Option Nat) : String :=
  match attempt with
  | none => s!"factory/{taskId}"
  | some n => if 1 ≤ n then s!"factory/{taskId}/r{n}" else s!"factory/{taskId}"

def computeLayout (repoId : String) (taskId : TaskId) : WorkspaceLayout :=
  let rootPath := Path.join [workspacesRoot, repoId, taskId]
  { rootPath := rootPath
    worktreePath := Path.join [rootPath, "worktree"]
    logsPath := Path.join [rootPath, "logs"]
    outputsPath := Path.join [rootPath, "outputs"] }

/-!
## Creation
-/

def baseBranchOf (options : CreateWorkspaceOptions) (host : Host γ) :
    Except WorkspaceError String :=
  match options.baseBranch with
  | some baseBranch => .ok baseBranch
  | none => (git.getDefaultBranch options.repoPath host).mapError .gitOperation

/-- A worktree that is there is used again if it is clean. -/
def tryReuseWorkspace (layout : WorkspaceLayout) (taskId : TaskId) (host : Host γ) :
    Except WorkspaceError (Option WorkspaceResult) :=
  if host.files.has layout.worktreePath then
    match git.isCleanWorkingTree layout.worktreePath host with
    | .error message => .error (.gitOperation message)
    | .ok false => .error (.dirty layout.worktreePath taskId)
    | .ok true =>
        .ok (some
          { layout := layout
            branchName := (git.getCurrentBranch layout.worktreePath host).getD "HEAD"
            reused := true })
  else
    .ok none

def mkdirs : List String -> FileSystem String ->
    Except WorkspaceError Unit × FileSystem String
  | [], files => (.ok (), files)
  | path :: rest, files =>
      match files.mkdir path with
      | .error message => (.error (.fileSystem message), files)
      | .ok made => mkdirs rest made

def createDirectoryStructure (layout : WorkspaceLayout) (host : Host γ) :
    Except WorkspaceError Unit × Host γ :=
  let made := mkdirs [layout.rootPath, layout.logsPath, layout.outputsPath] host.files
  (made.1, { host with files := made.2 })

def provisionWorkspace (options : CreateWorkspaceOptions) (layout : WorkspaceLayout)
    (baseBranch : String) (host : Host γ) :
    Except WorkspaceError WorkspaceResult × Host γ :=
  let branchName := computeBranchName options.taskId options.attempt
  if git.branchExists options.repoPath branchName host then
    (.error (.branchExists branchName options.taskId), host)
  else
    match createDirectoryStructure layout host with
    | (.error e, made) => (.error e, made)
    | (.ok _, made) =>
        match git.addWorktree options.repoPath layout.worktreePath branchName baseBranch
            made with
        | (.error message, added) => (.error (.gitOperation message), added)
        | (.ok _, added) =>
            (.ok { layout := layout, branchName := branchName, reused := false }, added)

def createWorkspace (options : CreateWorkspaceOptions) (host : Host γ) :
    Except WorkspaceError WorkspaceResult × Host γ :=
  let repoId := options.repoId.getD (Path.basename options.repoPath)
  match baseBranchOf git options host with
  | .error e => (.error e, host)
  | .ok baseBranch =>
      let layout := computeLayout workspacesRoot repoId options.taskId
      if isRetry options.attempt then
        match tryReuseWorkspace git layout options.taskId host with
        | .error e => (.error e, host)
        | .ok (some result) => (.ok result, host)
        | .ok none => provisionWorkspace git options layout baseBranch host
      else
        provisionWorkspace git options layout baseBranch host

/-- The branch of a created workspace: a new one is named after the attempt, and in a
worktree that is used again it is the one that is checked out. -/
def CreatedBranch (options : CreateWorkspaceOptions) (host : Host γ)
    (result : WorkspaceResult) : Prop :=
  if result.reused then
    result.branchName = (git.getCurrentBranch result.layout.worktreePath host).getD "HEAD"
  else
    result.branchName = computeBranchName options.taskId options.attempt

variable {host : Host γ} {result : WorkspaceResult}

theorem provisionWorkspace_branch {options : CreateWorkspaceOptions} {layout : WorkspaceLayout}
    {baseBranch : String}
    (h : (provisionWorkspace git options layout baseBranch host).1 = .ok result) :
    CreatedBranch git options host result := by
  unfold provisionWorkspace at h
  dsimp only at h
  split at h
  · cases h
  · split at h
    · cases h
    · split at h
      · cases h
      · cases h
        rfl

theorem tryReuseWorkspace_spec {layout : WorkspaceLayout} {taskId : TaskId}
    (h : tryReuseWorkspace git layout taskId host = .ok (some result)) :
    host.files.has layout.worktreePath = true ∧ result =
      { layout := layout
        branchName := (git.getCurrentBranch layout.worktreePath host).getD "HEAD"
        reused := true } := by
  unfold tryReuseWorkspace at h
  split at h
  · rename_i hthere
    refine ⟨hthere, ?_⟩
    split at h
    · cases h
    · cases h
    · cases h
      rfl
  · cases h

theorem createWorkspace_branch {options : CreateWorkspaceOptions}
    (h : (createWorkspace git workspacesRoot options host).1 = .ok result) :
    CreatedBranch git options host result := by
  unfold createWorkspace at h
  dsimp only at h
  split at h
  · cases h
  · split at h
    · split at h
      · cases h
      · rename_i reused hreuse
        cases h
        rw [(tryReuseWorkspace_spec git hreuse).2]
        rfl
      · exact provisionWorkspace_branch git h
    · exact provisionWorkspace_branch git h

/-!
## Cleanup
-/

def removeWorktreeIfExists (repoPath worktreePath : String) (host : Host γ) :
    Except WorkspaceError Bool × Host γ :=
  if host.files.has worktreePath then
    match git.removeWorktree repoPath worktreePath host with
    | (.error message, removed) => (.error (.gitOperation message), removed)
    | (.ok _, removed) => (.ok true, removed)
  else
    (.ok false, host)

def removeDirectoryIfExists (dirPath : String) (host : Host γ) : Bool × Host γ :=
  if host.files.has dirPath then
    (true, { host with files := host.files.rm dirPath })
  else
    (false, host)

def deleteBranchIfExists (repoPath branchName : String) (force : Bool) (host : Host γ) :
    Except WorkspaceError Bool × Host γ :=
  if git.branchExists repoPath branchName host then
    match git.deleteBranch repoPath branchName force host with
    | (.error message, deleted) => (.error (.gitOperation message), deleted)
    | (.ok _, deleted) => (.ok true, deleted)
  else
    (.ok false, host)

def cleanupPath (options : CleanupWorkspaceOptions) : String :=
  (computeLayout workspacesRoot (options.repoId.getD (Path.basename options.repoPath))
    options.taskId).rootPath

/-- Only the branch of a first attempt is deleted. -/
def cleanupWorkspace (options : CleanupWorkspaceOptions) (host : Host γ) :
    Except WorkspaceError CleanupWorkspaceResult × Host γ :=
  let repoId := options.repoId.getD (Path.basename options.repoPath)
  let layout := computeLayout workspacesRoot repoId options.taskId
  match removeWorktreeIfExists git options.repoPath layout.worktreePath host with
  | (.error e, host₁) => (.error e, host₁)
  | (.ok worktreeRemoved, host₁) =>
      let directory := removeDirectoryIfExists layout.rootPath host₁
      if options.deleteBranch.getD true then
        let branch := deleteBranchIfExists git options.repoPath
          (computeBranchName options.taskId none) (options.forceBranchDelete.getD false)
          directory.2
        (branch.1.map (fun branchDeleted =>
            { worktreeRemoved := worktreeRemoved
              directoryRemoved := directory.1
              branchDeleted := branchDeleted }),
          branch.2)
      else
        (.ok
          { worktreeRemoved := worktreeRemoved
            directoryRemoved := directory.1
            branchDeleted := false },
          directory.2)

/-!
## What a cleanup takes away
-/

/-- Cleaning up takes away nothing but worktrees, and deleting branches no files. -/
structure GitOperations.OnlyRemoves (git : GitOperations γ) : Prop where
  removeWorktree : forall repoPath worktreePath host,
    FileSystem.RemovedBelow worktreePath host.files
      (git.removeWorktree repoPath worktreePath host).2.files
  deleteBranch : forall repoPath branchName force host,
    (git.deleteBranch repoPath branchName force host).2.files = host.files

variable {git}

theorem isName_worktree : Path.IsName "worktree" where
  noSlash := by decide
  ne_empty := by decide
  ne_dot := by decide
  ne_dots := by decide

theorem isName_logs : Path.IsName "logs" where
  noSlash := by decide
  ne_empty := by decide
  ne_dot := by decide
  ne_dots := by decide

theorem isName_outputs : Path.IsName "outputs" where
  noSlash := by decide
  ne_empty := by decide
  ne_dot := by decide
  ne_dots := by decide

theorem locate_layout (files : FileSystem String) (repoId : String) (taskId : TaskId) :
    files.locate (computeLayout workspacesRoot repoId taskId).worktreePath =
        files.locate (computeLayout workspacesRoot repoId taskId).rootPath ++ ["worktree"] ∧
      files.locate (computeLayout workspacesRoot repoId taskId).logsPath =
        files.locate (computeLayout workspacesRoot repoId taskId).rootPath ++ ["logs"] ∧
      files.locate (computeLayout workspacesRoot repoId taskId).outputsPath =
        files.locate (computeLayout workspacesRoot repoId taskId).rootPath ++ ["outputs"] := by
  simp only [computeLayout]
  exact ⟨files.locate_join isName_worktree, files.locate_join isName_logs,
    files.locate_join isName_outputs⟩

theorem removeWorktreeIfExists_removes (hgit : git.OnlyRemoves) (repoPath repoId : String)
    (taskId : TaskId) (host : Host γ) :
    FileSystem.RemovedBelow (computeLayout workspacesRoot repoId taskId).rootPath host.files
      (removeWorktreeIfExists git repoPath
        (computeLayout workspacesRoot repoId taskId).worktreePath host).2.files := by
  have hbelow : host.files.locate (computeLayout workspacesRoot repoId taskId).rootPath <+:
      host.files.locate (computeLayout workspacesRoot repoId taskId).worktreePath := by
    rw [(locate_layout workspacesRoot host.files repoId taskId).1]
    exact List.prefix_append _ _
  have hremoved := (hgit.removeWorktree repoPath
    (computeLayout workspacesRoot repoId taskId).worktreePath host).widen hbelow
  unfold removeWorktreeIfExists
  split
  · split
    · rename_i heq
      rw [heq] at hremoved
      exact hremoved
    · rename_i heq
      rw [heq] at hremoved
      exact hremoved
  · exact FileSystem.RemovedBelow.refl _ _

theorem removeDirectoryIfExists_removes (dirPath : String) (host : Host γ) :
    FileSystem.RemovedBelow dirPath host.files (removeDirectoryIfExists dirPath host).2.files ∧
      (removeDirectoryIfExists dirPath host).2.files.has dirPath = false := by
  unfold removeDirectoryIfExists
  split
  · exact ⟨FileSystem.removedBelow_rm _ _, FileSystem.has_rm_self _ _⟩
  · rename_i h
    exact ⟨FileSystem.RemovedBelow.refl _ _, by simpa using h⟩

theorem files_of_deleteBranchIfExists (hgit : git.OnlyRemoves) (repoPath branchName : String)
    (force : Bool) (host : Host γ) :
    (deleteBranchIfExists git repoPath branchName force host).2.files = host.files := by
  have hdeleted := hgit.deleteBranch repoPath branchName force host
  unfold deleteBranchIfExists
  split
  · split
    · rename_i heq
      rw [heq] at hdeleted
      exact hdeleted
    · rename_i heq
      rw [heq] at hdeleted
      exact hdeleted
  · rfl

/-- A cleanup takes away nothing but the directory it acts on, and when it returns the
directory is gone. -/
theorem cleanupWorkspace_removes (hgit : git.OnlyRemoves) (options : CleanupWorkspaceOptions)
    (host : Host γ) :
    FileSystem.RemovedBelow (cleanupPath workspacesRoot options) host.files
        (cleanupWorkspace git workspacesRoot options host).2.files ∧
      forall result, (cleanupWorkspace git workspacesRoot options host).1 = .ok result ->
        (cleanupWorkspace git workspacesRoot options host).2.files.has
          (cleanupPath workspacesRoot options) = false := by
  have hfirst := removeWorktreeIfExists_removes workspacesRoot hgit
    options.repoPath (options.repoId.getD (Path.basename options.repoPath)) options.taskId host
  unfold cleanupWorkspace cleanupPath
  dsimp only
  split
  · rename_i heq
    rw [heq] at hfirst
    refine ⟨hfirst, ?_⟩
    intro result hresult
    cases hresult
  · rename_i worktreeRemoved host₁ heq
    rw [heq] at hfirst
    rcases removeDirectoryIfExists_removes
      (computeLayout workspacesRoot (options.repoId.getD (Path.basename options.repoPath))
        options.taskId).rootPath host₁ with ⟨hsecond, hgone⟩
    split
    · rw [files_of_deleteBranchIfExists hgit]
      exact ⟨hfirst.trans hsecond, fun _ _ => hgone⟩
    · exact ⟨hfirst.trans hsecond, fun _ _ => hgone⟩

end Workspaces
end CopilotFactory
