import CopilotFactory.Foundations.TransitionSystem
import CopilotFactory.Foundations.Worktrees
import CopilotFactory.Workspaces.WorkspaceManager

/-!
# The branches of a workspace

A cleanup deletes the branch of a first attempt.  The branch of a retry is never
deleted, and as it lies below the name of the first one, git refuses the branch of a
first attempt as long as it is there.
-/

namespace CopilotFactory
namespace Workspaces

open Foundations
open Infrastructure

/-!
## Names of branches
-/

variable {baseBranch : Option String} {name : String}

def firstBranch (taskId : TaskId) : String :=
  s!"factory/{taskId}"

def retryBranch (taskId : TaskId) (n : Nat) : String :=
  s!"factory/{taskId}/r{n}"

theorem computeBranchName_cases (taskId : TaskId) (attempt : Option Nat) :
    (isRetry attempt = false ∧ computeBranchName taskId attempt = firstBranch taskId) ∨
      exists n, 1 ≤ n ∧ isRetry attempt = true ∧
        computeBranchName taskId attempt = retryBranch taskId n := by
  cases attempt with
  | none =>
      exact Or.inl ⟨rfl, rfl⟩
  | some n =>
      unfold isRetry computeBranchName
      by_cases h : 1 ≤ n
      · right
        refine ⟨n, h, by simpa using h, ?_⟩
        dsimp only
        rw [if_pos h]
        rfl
      · left
        refine ⟨by simpa using h, ?_⟩
        dsimp only
        rw [if_neg h]
        rfl

theorem toList_retryBranch (taskId : TaskId) (n : Nat) :
    (retryBranch taskId n).toList =
      (firstBranch taskId).toList ++ '/' :: 'r' :: Nat.toDigits 10 n := by
  have hsuffix : (toString "/r").toList = ['/', 'r'] := by
    decide
  simp [retryBranch, firstBranch, hsuffix]

theorem firstBranch_conflicts (taskId : TaskId) (n : Nat) :
    refsConflict (firstBranch taskId) (retryBranch taskId n) = true ∧
      refsConflict (retryBranch taskId n) (firstBranch taskId) = true := by
  have hrefs : isRefPrefix (firstBranch taskId) (retryBranch taskId n) = true := by
    unfold isRefPrefix
    rw [toList_retryBranch, String.toList_append, List.isPrefixOf_iff_prefix,
      List.prefix_append_right_inj]
    exact ⟨'r' :: Nat.toDigits 10 n, rfl⟩
  unfold refsConflict
  rw [hrefs]
  exact ⟨rfl, Bool.or_true _⟩

theorem retryBranch_not_isRefPrefix (taskId : TaskId) (m n : Nat) :
    isRefPrefix (retryBranch taskId m) (retryBranch taskId n) = false := by
  rw [Bool.eq_false_iff]
  unfold isRefPrefix
  rw [toList_retryBranch, String.toList_append, toList_retryBranch]
  intro h
  rw [List.isPrefixOf_iff_prefix, List.append_assoc, List.prefix_append_right_inj,
    List.cons_append, List.cons_append, List.cons_prefix_cons, List.cons_prefix_cons] at h
  have hmem : '/' ∈ Nat.toDigits 10 n := h.2.2.subset (by simp)
  have hdigit := Nat.isDigit_of_mem_toDigits (by decide) (by decide) hmem
  exact absurd hdigit (by decide)

theorem retryBranches_apart (taskId : TaskId) (m n : Nat) :
    refsConflict (retryBranch taskId m) (retryBranch taskId n) = false := by
  unfold refsConflict
  rw [retryBranch_not_isRefPrefix, retryBranch_not_isRefPrefix]
  rfl

theorem retryBranch_ne_firstBranch (taskId : TaskId) (n : Nat) :
    retryBranch taskId n ≠ firstBranch taskId := by
  intro h
  have hlists := congrArg String.toList h
  rw [toList_retryBranch] at hlists
  simp at hlists

/-- The branch is none of the task's, and git keeps it beside each of them. -/
def Apart (taskId : TaskId) (name : String) : Prop :=
  forall attempt, name ≠ computeBranchName taskId attempt ∧
    refsConflict name (computeBranchName taskId attempt) = false

/-!
## The git commands over a repository
-/

variable {κ : Type}

def repositoryGit (isAncestor : (commit tip : κ) -> Bool) :
    GitOperations (GitRepository κ) where
  getDefaultBranch := fun _ host => host.repositories.symbolicRef
  addWorktree := fun _ worktreePath branchName startPoint host =>
    match host.repositories.addWorktree worktreePath branchName startPoint host.files with
    | .error message => (.error message, host)
    | .ok (repo, files) => (.ok (), { files := files, repositories := repo })
  branchExists := fun _ branchName host => host.repositories.branchExists branchName
  isCleanWorkingTree := fun worktreePath host =>
    match host.repositories.worktreeAt (host.files.locate worktreePath) with
    | none => .error "fatal: not a git repository"
    | some worktree => .ok worktree.clean
  getCurrentBranch := fun worktreePath host =>
    (host.repositories.worktreeAt (host.files.locate worktreePath)).bind Worktree.branch
  removeWorktree := fun _ worktreePath host =>
    match host.repositories.removeWorktree worktreePath host.files with
    | .error _ => (.ok (), host)
    | .ok (repo, files) => (.ok (), { files := files, repositories := repo })
  deleteBranch := fun _ branchName force host =>
    if host.repositories.branchExists branchName then
      match host.repositories.deleteBranch isAncestor force branchName with
      | .error message => (.error message, host)
      | .ok repo => (.ok (), { host with repositories := repo })
    else
      (.ok (), host)

/-- A task, the repository it is worked on in, and where its workspace belongs. -/
structure TaskPlace where
  workspacesRoot : String
  repoPath : String
  repoId : Option String
  taskId : TaskId

namespace TaskPlace

variable (place : TaskPlace)

def layout : WorkspaceLayout :=
  computeLayout place.workspacesRoot
    (place.repoId.getD (Path.basename place.repoPath)) place.taskId

def createOptions (attempt : Option Nat) (baseBranch : Option String) :
    CreateWorkspaceOptions where
  taskId := place.taskId
  repoPath := place.repoPath
  baseBranch := baseBranch
  attempt := attempt
  repoId := place.repoId

def cleanupOptions (force : Bool) : CleanupWorkspaceOptions where
  taskId := place.taskId
  repoPath := place.repoPath
  repoId := place.repoId
  deleteBranch := some true
  forceBranchDelete := some force

end TaskPlace

inductive WorkspaceStep (κ : Type) where
  | create (attempt : Option Nat) (baseBranch : Option String)
  /-- The worker commits, and leaves uncommitted changes behind or not. -/
  | work (commit : Option κ) (clean : Bool)
  | cleanup (force : Bool)

variable (isAncestor : (commit tip : κ) -> Bool) (place : TaskPlace)

def created (attempt : Option Nat) (baseBranch : Option String)
    (host : Host (GitRepository κ)) :
    Except WorkspaceError WorkspaceResult × Host (GitRepository κ) :=
  createWorkspace (repositoryGit isAncestor) place.workspacesRoot
    (place.createOptions attempt baseBranch) host

def cleanedUp (force : Bool) (host : Host (GitRepository κ)) :
    Except WorkspaceError CleanupWorkspaceResult × Host (GitRepository κ) :=
  cleanupWorkspace (repositoryGit isAncestor) place.workspacesRoot
    (place.cleanupOptions force) host

def performWorkspace (host : Host (GitRepository κ)) :
    WorkspaceStep κ -> Host (GitRepository κ)
  | .create attempt baseBranch => (created isAncestor place attempt baseBranch host).2
  | .work commit clean =>
      { host with
        repositories :=
          host.repositories.work (host.files.locate place.layout.worktreePath) commit clean }
  | .cleanup force => (cleanedUp isAncestor place force host).2

/-- No step is undone: what a call has done before it fails stays. -/
def workspaces : TransitionSystem (Host (GitRepository κ)) (WorkspaceStep κ) Empty where
  step := fun host step => .ok (performWorkspace isAncestor place host step)

/-!
## Hosts that the steps lead to
-/

/-- The repository and the directories are as the workspace manager leaves them. -/
structure InOrder (host : Host (GitRepository κ)) : Prop where
  default : exists name, host.repositories.head = .branch name ∧
    host.repositories.branchExists name = true ∧ Apart place.taskId name
  branches : forall branch, branch ∈ host.repositories.branches ->
    (exists attempt, branch.name = computeBranchName place.taskId attempt) ∨
      Apart place.taskId branch.name
  worktrees : forall worktree, worktree ∈ host.repositories.worktrees ->
    worktree.location = host.files.locate place.layout.worktreePath ∨
      (¬ host.files.locate place.layout.rootPath <+: worktree.location ∧
        forall name, worktree.branch = some name -> Apart place.taskId name)
  registered : host.files.has place.layout.worktreePath =
    (host.repositories.worktreeAt (host.files.locate place.layout.worktreePath)).isSome
  passable : forall path,
    path ∈ [place.layout.rootPath, place.layout.logsPath, place.layout.outputsPath,
      place.layout.worktreePath] -> host.files.Passable path

def HasRetryBranch (host : Host (GitRepository κ)) : Prop :=
  exists n, 1 ≤ n ∧ host.repositories.branchExists (retryBranch place.taskId n) = true

def BaseKnown (host : Host (GitRepository κ)) (baseBranch : Option String) : Prop :=
  forall name, baseBranch = some name -> host.repositories.branchExists name = true

/-- A workspace is created for a retry while there is neither a worktree to use again nor
the branch of a first attempt. -/
def MakesRetryBranch (host : Host (GitRepository κ)) (step : WorkspaceStep κ) : Prop :=
  exists attempt baseBranch, step = .create attempt baseBranch ∧ isRetry attempt = true ∧
    host.files.has place.layout.worktreePath = false ∧
    host.repositories.branchExists (firstBranch place.taskId) = false ∧
    BaseKnown host baseBranch

section Steps

variable {place} {host : Host (GitRepository κ)}

def withStructure (layout : WorkspaceLayout) (files : FileSystem String) :
    FileSystem String :=
  ((files.withDirectories layout.rootPath).withDirectories layout.logsPath).withDirectories
    layout.outputsPath

theorem noNewFiles_withStructure (layout : WorkspaceLayout) (files : FileSystem String) :
    FileSystem.NoNewFiles files (withStructure layout files) :=
  ((FileSystem.noNewFiles_withDirectories files layout.rootPath).trans
    (FileSystem.noNewFiles_withDirectories _ layout.logsPath)).trans
      (FileSystem.noNewFiles_withDirectories _ layout.outputsPath)

theorem createDirectoryStructure_eq (h : InOrder place host) :
    createDirectoryStructure place.layout host =
      (.ok (), { host with files := withStructure place.layout host.files }) := by
  have hroot : host.files.Passable place.layout.rootPath :=
    h.passable _ (by simp)
  have hlogs : (host.files.withDirectories place.layout.rootPath).Passable
      place.layout.logsPath :=
    (FileSystem.noNewFiles_withDirectories _ _).passable (h.passable _ (by simp))
  have houtputs : ((host.files.withDirectories place.layout.rootPath).withDirectories
      place.layout.logsPath).Passable place.layout.outputsPath :=
    ((FileSystem.noNewFiles_withDirectories _ _).trans
      (FileSystem.noNewFiles_withDirectories _ _)).passable (h.passable _ (by simp))
  unfold createDirectoryStructure
  simp only [mkdirs, FileSystem.mkdir_of_passable hroot, FileSystem.mkdir_of_passable hlogs,
    FileSystem.mkdir_of_passable houtputs]
  rfl

theorem has_withStructure (files : FileSystem String) :
    (withStructure place.layout files).has place.layout.worktreePath =
      files.has place.layout.worktreePath := by
  rcases locate_layout place.workspacesRoot files
    (place.repoId.getD (Path.basename place.repoPath)) place.taskId with
    ⟨hworktree, hlogs, houtputs⟩
  change files.locate place.layout.worktreePath =
    files.locate place.layout.rootPath ++ ["worktree"] at hworktree
  change files.locate place.layout.logsPath =
    files.locate place.layout.rootPath ++ ["logs"] at hlogs
  change files.locate place.layout.outputsPath =
    files.locate place.layout.rootPath ++ ["outputs"] at houtputs
  have hroot : ¬ files.locate place.layout.worktreePath <+:
      files.locate place.layout.rootPath := by
    intro h
    rw [hworktree] at h
    have hlength := h.length_le
    rw [List.length_append, List.length_singleton] at hlength
    exact Nat.not_succ_le_self _ hlength
  have hnotLogs : ¬ files.locate place.layout.worktreePath <+:
      files.locate place.layout.logsPath := by
    rw [hworktree, hlogs, List.prefix_append_right_inj]
    decide
  have hnotOutputs : ¬ files.locate place.layout.worktreePath <+:
      files.locate place.layout.outputsPath := by
    rw [hworktree, houtputs, List.prefix_append_right_inj]
    decide
  unfold withStructure
  simp only [FileSystem.has_withDirectories]
  change (decide (files.locate place.layout.worktreePath <+:
      files.locate place.layout.outputsPath) ||
    (decide (files.locate place.layout.worktreePath <+: files.locate place.layout.logsPath) ||
      (decide (files.locate place.layout.worktreePath <+:
        files.locate place.layout.rootPath) || _))) = _
  simp [hroot, hnotLogs, hnotOutputs]

/-- The call changes nothing in the repository, and makes directories at most. -/
structure NothingAdded (place : TaskPlace) (host host' : Host (GitRepository κ)) : Prop where
  repositories : host'.repositories = host.repositories
  noNewFiles : FileSystem.NoNewFiles host.files host'.files
  has : host'.files.has place.layout.worktreePath = host.files.has place.layout.worktreePath

theorem nothingAdded_refl (host : Host (GitRepository κ)) : NothingAdded place host host where
  repositories := rfl
  noNewFiles := FileSystem.NoNewFiles.refl _
  has := rfl

theorem InOrder.of_nothingAdded {host' : Host (GitRepository κ)} (h : InOrder place host)
    (hsame : NothingAdded place host host') :
    InOrder place host' := by
  have hlocate : forall path, host'.files.locate path = host.files.locate path := by
    intro path
    unfold FileSystem.locate
    rw [hsame.noNewFiles.workingDirectory]
  constructor
  · rw [hsame.repositories]
    exact h.default
  · rw [hsame.repositories]
    exact h.branches
  · rw [hsame.repositories]
    intro worktree hmem
    rw [hlocate, hlocate]
    exact h.worktrees worktree hmem
  · rw [hsame.has, hsame.repositories, hlocate]
    exact h.registered
  · intro path hpath
    exact hsame.noNewFiles.passable (h.passable path hpath)

def withWorktree (place : TaskPlace) (name : String) (commit : κ)
    (host : Host (GitRepository κ)) : Host (GitRepository κ) where
  files := (withStructure place.layout host.files).withDirectories place.layout.worktreePath
  repositories :=
    host.repositories.added (host.files.locate place.layout.worktreePath) name commit

theorem provision_of_canAdd (h : InOrder place host) {attempt : Option Nat}
    (baseBranch : Option String) {start : String}
    (hadd : host.repositories.CanAdd host.files place.layout.worktreePath
      (computeBranchName place.taskId attempt) start) :
    exists commit,
      provisionWorkspace (repositoryGit isAncestor) (place.createOptions attempt baseBranch)
          place.layout start host =
        (.ok
          { layout := place.layout
            branchName := computeBranchName place.taskId attempt
            reused := false },
          withWorktree place (computeBranchName place.taskId attempt) commit host) := by
  have hnoNewFiles := noNewFiles_withStructure place.layout host.files
  have hpassable : (withStructure place.layout host.files).Passable
      place.layout.worktreePath :=
    hnoNewFiles.passable (h.passable _ (by simp))
  have hadd' : host.repositories.CanAdd (withStructure place.layout host.files)
      place.layout.worktreePath (computeBranchName place.taskId attempt) start :=
    ⟨hadd.start, by rw [has_withStructure]; exact hadd.free, hadd.unregistered, hadd.new,
      hadd.noConflict⟩
  rcases GitRepository.addWorktree_of_canAdd hadd' (FileSystem.mkdir_of_passable hpassable) with
    ⟨commit, hadded⟩
  refine ⟨commit, ?_⟩
  unfold provisionWorkspace
  show (if host.repositories.branchExists (computeBranchName place.taskId attempt) = true then _
    else _) = _
  rw [hadd.new, createDirectoryStructure_eq h]
  simp only [Bool.false_eq_true, if_false, repositoryGit, TaskPlace.createOptions, hadded]
  rfl

theorem provision_of_not_canAdd (h : InOrder place host) {attempt : Option Nat}
    (baseBranch : Option String) {start : String}
    (hadd : ¬ host.repositories.CanAdd host.files place.layout.worktreePath
      (computeBranchName place.taskId attempt) start) :
    exists e host',
      provisionWorkspace (repositoryGit isAncestor) (place.createOptions attempt baseBranch)
        place.layout start host = (.error e, host') ∧ NothingAdded place host host' := by
  unfold provisionWorkspace
  show exists e host', (if host.repositories.branchExists
    (computeBranchName place.taskId attempt) = true then _ else _) = _ ∧ _
  split
  · exact ⟨_, host, rfl, nothingAdded_refl host⟩
  · have hmade : NothingAdded place host
        { host with files := withStructure place.layout host.files } :=
      ⟨rfl, noNewFiles_withStructure place.layout host.files, has_withStructure host.files⟩
    rw [createDirectoryStructure_eq h]
    simp only [repositoryGit, TaskPlace.createOptions]
    cases hadded : host.repositories.addWorktree place.layout.worktreePath
        (computeBranchName place.taskId attempt) start
        (withStructure place.layout host.files) with
    | error message =>
        exact ⟨_, _, rfl, hmade⟩
    | ok result =>
        rcases GitRepository.addWorktree_eq_ok hadded with ⟨hcan, _⟩
        have hfree := hcan.free
        rw [has_withStructure] at hfree
        exact absurd ⟨hcan.start, hfree, hcan.unregistered, hcan.new, hcan.noConflict⟩ hadd

theorem baseBranchOf_eq (h : InOrder place host) (attempt : Option Nat)
    (baseBranch : Option String) :
    exists start,
      baseBranchOf (repositoryGit isAncestor) (place.createOptions attempt baseBranch) host =
          .ok start ∧
        (BaseKnown host baseBranch <-> host.repositories.branchExists start = true) := by
  cases baseBranch with
  | some name =>
      refine ⟨name, rfl, ?_⟩
      constructor
      · intro hknown
        exact hknown name rfl
      · intro hexists other hother
        cases hother
        exact hexists
  | none =>
      rcases h.default with ⟨name, hhead, hexists, _⟩
      refine ⟨name, ?_, ?_⟩
      · unfold baseBranchOf
        simp only [TaskPlace.createOptions, repositoryGit, GitRepository.symbolicRef, hhead]
        rfl
      · constructor
        · intro _
          exact hexists
        · intro _ other hother
          cases hother

/-- A new worktree is added where that is possible, or nothing is added. -/
def AddedOrNothing (place : TaskPlace) (host : Host (GitRepository κ))
    (attempt : Option Nat) (baseBranch : Option String)
    (outcome : Except WorkspaceError WorkspaceResult × Host (GitRepository κ)) : Prop :=
  (NothingAdded place host outcome.2 ∧
    forall result, outcome.1 = .ok result -> result.reused = true) ∨
  exists start commit,
    host.repositories.CanAdd host.files place.layout.worktreePath
        (computeBranchName place.taskId attempt) start ∧
      (BaseKnown host baseBranch <-> host.repositories.branchExists start = true) ∧
      outcome =
        (.ok
          { layout := place.layout
            branchName := computeBranchName place.taskId attempt
            reused := false },
          withWorktree place (computeBranchName place.taskId attempt) commit host)

theorem provision_addedOrNothing (h : InOrder place host) {attempt : Option Nat}
    {start : String}
    (hknown : BaseKnown host baseBranch <-> host.repositories.branchExists start = true) :
    AddedOrNothing place host attempt baseBranch
      (provisionWorkspace (repositoryGit isAncestor) (place.createOptions attempt baseBranch)
        place.layout start host) := by
  by_cases hadd : host.repositories.CanAdd host.files place.layout.worktreePath
      (computeBranchName place.taskId attempt) start
  · rcases provision_of_canAdd isAncestor h baseBranch hadd
      with ⟨commit, hcommit⟩
    exact Or.inr ⟨start, commit, hadd, hknown, hcommit⟩
  · rcases provision_of_not_canAdd isAncestor h baseBranch
      hadd with ⟨e, host', hfailed, hnothing⟩
    left
    rw [hfailed]
    exact ⟨hnothing, fun result hresult => absurd hresult (by simp)⟩

theorem created_eq {attempt : Option Nat} {start : String}
    (hbase : baseBranchOf (repositoryGit isAncestor) (place.createOptions attempt baseBranch)
      host = .ok start) :
    created isAncestor place attempt baseBranch host =
      if isRetry attempt then
        match tryReuseWorkspace (repositoryGit isAncestor) place.layout place.taskId host with
        | .error e => (.error e, host)
        | .ok (some result) => (.ok result, host)
        | .ok none =>
            provisionWorkspace (repositoryGit isAncestor)
              (place.createOptions attempt baseBranch) place.layout start host
      else
        provisionWorkspace (repositoryGit isAncestor)
          (place.createOptions attempt baseBranch) place.layout start host := by
  unfold created createWorkspace
  rw [hbase]
  rfl

theorem created_addedOrNothing (h : InOrder place host) (attempt : Option Nat)
    (baseBranch : Option String) :
    AddedOrNothing place host attempt baseBranch
      (created isAncestor place attempt baseBranch host) := by
  rcases baseBranchOf_eq isAncestor h attempt baseBranch with
    ⟨start, hbase, hknown⟩
  rw [created_eq isAncestor hbase]
  split
  · split
    · exact Or.inl ⟨nothingAdded_refl host, fun result hresult => absurd hresult (by simp)⟩
    · rename_i result hreuse
      left
      refine ⟨nothingAdded_refl host, ?_⟩
      intro result' hresult
      cases hresult
      rw [(tryReuseWorkspace_spec _ hreuse).2]
    · exact provision_addedOrNothing isAncestor h hknown
  · exact provision_addedOrNothing isAncestor h hknown

/-- With nothing in its way, a new workspace is created. -/
theorem created_of_clear (h : InOrder place host) {attempt : Option Nat}
    (hknown : BaseKnown host baseBranch)
    (hfree : host.files.has place.layout.worktreePath = false)
    (hnew : host.repositories.branchExists (computeBranchName place.taskId attempt) = false)
    (hconflict : forall branch, branch ∈ host.repositories.branches ->
      refsConflict branch.name (computeBranchName place.taskId attempt) = false) :
    exists commit,
      created isAncestor place attempt baseBranch host =
        (.ok
          { layout := place.layout
            branchName := computeBranchName place.taskId attempt
            reused := false },
          withWorktree place (computeBranchName place.taskId attempt) commit host) := by
  rcases baseBranchOf_eq isAncestor h attempt baseBranch with
    ⟨start, hbase, hstart⟩
  have hunregistered := h.registered
  rw [hfree] at hunregistered
  have hadd : host.repositories.CanAdd host.files place.layout.worktreePath
      (computeBranchName place.taskId attempt) start :=
    ⟨hstart.mp hknown, hfree, hunregistered.symm, hnew, hconflict⟩
  rcases provision_of_canAdd isAncestor h baseBranch hadd
    with ⟨commit, hcommit⟩
  refine ⟨commit, ?_⟩
  have hreuse : tryReuseWorkspace (repositoryGit isAncestor) place.layout place.taskId host =
      .ok none := by
    unfold tryReuseWorkspace
    rw [hfree]
    rfl
  rw [created_eq isAncestor hbase, hreuse]
  split
  · exact hcommit
  · exact hcommit

/-!
## What a step keeps
-/

theorem has_withWorktree (name : String) (commit : κ) :
    (withWorktree place name commit host).files.has place.layout.worktreePath = true := by
  show FileSystem.has (FileSystem.withDirectories _ _) _ = true
  rw [FileSystem.has_withDirectories]
  simp

theorem inOrder_withWorktree (h : InOrder place host) (attempt : Option Nat) (commit : κ) :
    InOrder place
      (withWorktree place (computeBranchName place.taskId attempt) commit host) := by
  have hnoNewFiles : FileSystem.NoNewFiles host.files
      (withWorktree place (computeBranchName place.taskId attempt) commit host).files :=
    (noNewFiles_withStructure place.layout host.files).trans
      (FileSystem.noNewFiles_withDirectories _ _)
  have hlocate : forall path,
      (withWorktree place (computeBranchName place.taskId attempt) commit host).files.locate
        path = host.files.locate path := by
    intro path
    unfold FileSystem.locate
    rw [hnoNewFiles.workingDirectory]
  constructor
  · rcases h.default with ⟨name, hhead, hexists, hapart⟩
    refine ⟨name, hhead, ?_, hapart⟩
    rcases GitRepository.branchExists_iff.mp hexists with ⟨branch, hmem, hname⟩
    exact GitRepository.branchExists_iff.mpr ⟨branch, List.mem_cons_of_mem _ hmem, hname⟩
  · intro branch hmem
    rcases List.mem_cons.mp hmem with hmem | hmem
    · rw [hmem]
      exact Or.inl ⟨attempt, rfl⟩
    · exact h.branches branch hmem
  · intro worktree hmem
    rw [hlocate, hlocate]
    rcases GitRepository.mem_worktrees_added.mp hmem with hmem | hmem
    · left
      rw [hmem]
    · exact h.worktrees worktree hmem
  · rw [has_withWorktree, hlocate]
    show true = ((host.repositories.added _ _ _).worktreeAt _).isSome
    rw [GitRepository.worktreeAt_added]
    rfl
  · intro path hpath
    exact hnoNewFiles.passable (h.passable path hpath)

theorem inOrder_created (h : InOrder place host) (attempt : Option Nat)
    (baseBranch : Option String) :
    InOrder place (created isAncestor place attempt baseBranch host).2 := by
  rcases created_addedOrNothing isAncestor h attempt baseBranch with
    ⟨hnothing, _⟩ | ⟨_, commit, _, _, hcreated⟩
  · exact h.of_nothingAdded hnothing
  · rw [hcreated]
    exact inOrder_withWorktree h attempt commit

theorem inOrder_work (h : InOrder place host) (commit : Option κ) (clean : Bool) :
    InOrder place (performWorkspace isAncestor place host (.work commit clean)) := by
  have hnames := GitRepository.names_work host.repositories
    (host.files.locate place.layout.worktreePath) commit clean
  have hplaces := GitRepository.places_work host.repositories
    (host.files.locate place.layout.worktreePath) commit clean
  show InOrder place { host with repositories := _ }
  constructor
  · rcases h.default with ⟨name, hhead, hexists, hapart⟩
    refine ⟨name, ?_, ?_, hapart⟩
    · rw [← hhead]
      exact GitRepository.head_work _ _ _ _
    · rw [← hexists]
      exact GitRepository.branchExists_work _ _ _ _ _
  · intro branch hmem
    have hname : branch.name ∈ host.repositories.branches.map Branch.name := by
      rw [← hnames]
      exact List.mem_map_of_mem hmem
    rcases List.mem_map.mp hname with ⟨before, hbefore, heq⟩
    rw [← heq]
    exact h.branches before hbefore
  · intro worktree hmem
    have hplace : (worktree.location, worktree.branch) ∈
        host.repositories.worktrees.map
          (fun worktree => (worktree.location, worktree.branch)) := by
      rw [← hplaces]
      exact List.mem_map.mpr ⟨worktree, hmem, rfl⟩
    rcases List.mem_map.mp hplace with ⟨before, hbefore, heq⟩
    simp only [Prod.mk.injEq] at heq
    rw [← heq.1, ← heq.2]
    exact h.worktrees before hbefore
  · show host.files.has place.layout.worktreePath =
      ((host.repositories.work _ commit clean).worktreeAt _).isSome
    rw [GitRepository.worktreeAt_work_isSome]
    exact h.registered
  · exact h.passable

theorem repositoryGit_onlyRemoves : (repositoryGit isAncestor).OnlyRemoves where
  removeWorktree _ worktreePath host := by
    unfold repositoryGit GitRepository.removeWorktree
    dsimp only
    split
    · exact FileSystem.RemovedBelow.refl _ _
    · rename_i repo files hremoved
      split at hremoved
      · cases hremoved
        exact FileSystem.removedBelow_rm _ _
      · cases hremoved
  deleteBranch _ branchName force host := by
    unfold repositoryGit
    dsimp only
    split
    · split
      · rfl
      · rfl
    · rfl

/-- The worktree of the task is gone, registered or not. -/
structure WorktreeGone (place : TaskPlace) (host host' : Host (GitRepository κ)) : Prop where
  head : host'.repositories.head = host.repositories.head
  branches : host'.repositories.branches = host.repositories.branches
  worktrees : host'.repositories.worktrees = host.repositories.worktrees.filter
    (fun worktree => worktree.location ≠ host.files.locate place.layout.worktreePath)
  has : host'.files.has place.layout.worktreePath = false

theorem removeWorktreeIfExists_gone (h : InOrder place host) :
    exists worktreeRemoved host',
      removeWorktreeIfExists (repositoryGit isAncestor) place.repoPath
          place.layout.worktreePath host = (.ok worktreeRemoved, host') ∧
        WorktreeGone place host host' := by
  have hregistered := h.registered
  unfold removeWorktreeIfExists
  cases hhas : host.files.has place.layout.worktreePath with
  | true =>
      rw [hhas] at hregistered
      simp only [if_true, repositoryGit,
        GitRepository.removeWorktree_of_registered hregistered.symm]
      exact ⟨true, _, rfl, rfl, rfl, rfl, FileSystem.has_rm_self _ _⟩
  | false =>
      rw [hhas] at hregistered
      refine ⟨false, host, rfl, rfl, rfl, ?_, hhas⟩
      exact (GitRepository.filter_worktrees_of_unregistered hregistered.symm).symm

/-- A deletion takes the branch away, or changes nothing and does not return. -/
theorem deleteBranchIfExists_cases (place : TaskPlace) (name : String) (force : Bool)
    (host : Host (GitRepository κ)) :
    (deleteBranchIfExists (repositoryGit isAncestor) place.repoPath name force host).2 =
        { host with
          repositories :=
            { host.repositories with
              branches :=
                host.repositories.branches.filter (fun branch => branch.name ≠ name) } } ∨
      ((deleteBranchIfExists (repositoryGit isAncestor) place.repoPath name force host).2 =
          host ∧
        forall deleted, (deleteBranchIfExists (repositoryGit isAncestor) place.repoPath name
          force host).1 ≠ .ok deleted) := by
  unfold deleteBranchIfExists
  cases hexists : host.repositories.branchExists name with
  | false =>
      left
      simp only [repositoryGit, hexists, Bool.false_eq_true, if_false,
        GitRepository.filter_branches_of_missing hexists]
  | true =>
      simp only [repositoryGit, hexists, if_true]
      cases hdeleted : host.repositories.deleteBranch isAncestor force name with
      | error message =>
          exact Or.inr ⟨rfl, fun deleted h => by cases h⟩
      | ok repo =>
          left
          simp only [GitRepository.deleteBranch_eq_ok hdeleted]

/-- After a cleanup the worktree is gone, and the branch of a first attempt too when the
cleanup returns. -/
structure CleanedUp (place : TaskPlace) (host host' : Host (GitRepository κ)) : Prop where
  head : host'.repositories.head = host.repositories.head
  worktrees : host'.repositories.worktrees = host.repositories.worktrees.filter
    (fun worktree => worktree.location ≠ host.files.locate place.layout.worktreePath)
  has : host'.files.has place.layout.worktreePath = false
  removed : FileSystem.RemovedBelow place.layout.rootPath host.files host'.files
  branches : host'.repositories.branches = host.repositories.branches ∨
    host'.repositories.branches = host.repositories.branches.filter
      (fun branch => branch.name ≠ firstBranch place.taskId)

theorem cleanedUp_eq {force : Bool} {worktreeRemoved : Bool} {host₁ : Host (GitRepository κ)}
    (hfirst : removeWorktreeIfExists (repositoryGit isAncestor) place.repoPath
      place.layout.worktreePath host = (.ok worktreeRemoved, host₁)) :
    cleanedUp isAncestor place force host =
      ((deleteBranchIfExists (repositoryGit isAncestor) place.repoPath
          (firstBranch place.taskId) force
          (removeDirectoryIfExists place.layout.rootPath host₁).2).1.map (fun branchDeleted =>
            { worktreeRemoved := worktreeRemoved
              directoryRemoved := (removeDirectoryIfExists place.layout.rootPath host₁).1
              branchDeleted := branchDeleted }),
        (deleteBranchIfExists (repositoryGit isAncestor) place.repoPath
          (firstBranch place.taskId) force
          (removeDirectoryIfExists place.layout.rootPath host₁).2).2) := by
  have hfirst' : removeWorktreeIfExists (repositoryGit isAncestor)
      (place.cleanupOptions force).repoPath
      (computeLayout place.workspacesRoot
        ((place.cleanupOptions force).repoId.getD
          (Path.basename (place.cleanupOptions force).repoPath))
        (place.cleanupOptions force).taskId).worktreePath host =
      (.ok worktreeRemoved, host₁) :=
    hfirst
  unfold cleanedUp cleanupWorkspace
  dsimp only
  rw [hfirst']
  rfl

theorem repositories_of_removeDirectoryIfExists (dirPath : String)
    (host : Host (GitRepository κ)) :
    (removeDirectoryIfExists dirPath host).2.repositories = host.repositories := by
  unfold removeDirectoryIfExists
  split
  · rfl
  · rfl

theorem cleanedUp_cases (h : InOrder place host) (force : Bool) :
    CleanedUp place host (cleanedUp isAncestor place force host).2 ∧
      forall result, (cleanedUp isAncestor place force host).1 = .ok result ->
        (cleanedUp isAncestor place force host).2.repositories.branches =
          host.repositories.branches.filter
            (fun branch => branch.name ≠ firstBranch place.taskId) := by
  have hremoved : FileSystem.RemovedBelow place.layout.rootPath host.files
      (cleanedUp isAncestor place force host).2.files :=
    (cleanupWorkspace_removes place.workspacesRoot (repositoryGit_onlyRemoves isAncestor)
      (place.cleanupOptions force) host).1
  rcases removeWorktreeIfExists_gone isAncestor h with
    ⟨worktreeRemoved, host₁, hfirst, hgone⟩
  have hhas := (removeDirectoryIfExists_removes place.layout.rootPath host₁).1.has_eq_false
    hgone.has
  have hsame := repositories_of_removeDirectoryIfExists place.layout.rootPath host₁
  rw [cleanedUp_eq isAncestor hfirst] at hremoved ⊢
  generalize (removeDirectoryIfExists place.layout.rootPath host₁).1 = directoryRemoved at *
  generalize (removeDirectoryIfExists place.layout.rootPath host₁).2 = host₂ at *
  have hhead : host₂.repositories.head = host.repositories.head := by
    rw [hsame, hgone.head]
  have hbranches : host₂.repositories.branches = host.repositories.branches := by
    rw [hsame, hgone.branches]
  have hworktrees := hgone.worktrees
  rw [← hsame] at hworktrees
  rcases deleteBranchIfExists_cases isAncestor place
    (firstBranch place.taskId) force host₂ with hdeleted | ⟨hkept, herror⟩
  · rw [hdeleted] at hremoved ⊢
    rw [hbranches] at hremoved ⊢
    exact ⟨⟨hhead, hworktrees, hhas, hremoved, Or.inr rfl⟩, fun _ _ => rfl⟩
  · rw [hkept] at hremoved ⊢
    refine ⟨⟨hhead, hworktrees, hhas, hremoved, Or.inl hbranches⟩, ?_⟩
    intro result hresult
    rcases map_eq_ok.mp hresult with ⟨deleted, hdeleted, _⟩
    exact absurd hdeleted (herror deleted)

theorem inOrder_cleanedUp (h : InOrder place host) (force : Bool) :
    InOrder place (cleanedUp isAncestor place force host).2 := by
  rcases cleanedUp_cases isAncestor h force with ⟨hcleaned, _⟩
  have hsubset : forall branch,
      branch ∈ (cleanedUp isAncestor place force host).2.repositories.branches ->
        branch ∈ host.repositories.branches := by
    intro branch hmem
    rcases hcleaned.branches with hsame | hfiltered
    · rw [← hsame]
      exact hmem
    · rw [hfiltered] at hmem
      exact (List.mem_filter.mp hmem).1
  have hlocate := hcleaned.removed.locate
  constructor
  · rcases h.default with ⟨name, hhead, hexists, hapart⟩
    refine ⟨name, hcleaned.head.trans hhead, ?_, hapart⟩
    rcases GitRepository.branchExists_iff.mp hexists with ⟨branch, hmem, hname⟩
    refine GitRepository.branchExists_iff.mpr ⟨branch, ?_, hname⟩
    rcases hcleaned.branches with hsame | hfiltered
    · rw [hsame]
      exact hmem
    · rw [hfiltered, List.mem_filter]
      refine ⟨hmem, ?_⟩
      have hne : name ≠ firstBranch place.taskId := (hapart none).1
      rw [hname]
      simpa using hne
  · intro branch hmem
    exact h.branches branch (hsubset branch hmem)
  · intro worktree hmem
    rw [hcleaned.worktrees] at hmem
    rw [hlocate, hlocate]
    exact h.worktrees worktree (List.mem_filter.mp hmem).1
  · rw [hcleaned.has, hlocate]
    symm
    rw [Bool.eq_false_iff]
    intro hsome
    rcases GitRepository.worktreeAt_isSome.mp hsome with ⟨worktree, hmem, hlocation⟩
    rw [hcleaned.worktrees, List.mem_filter] at hmem
    exact absurd hlocation (by simpa using hmem.2)
  · intro path hpath
    exact hcleaned.removed.noNewFiles.passable (h.passable path hpath)

theorem inOrder_preserved :
    (workspaces isAncestor place).Preserves (fun _ => True) (InOrder place) := by
  intro host step host' _ h hstep
  cases hstep
  cases step with
  | create attempt baseBranch =>
      exact inOrder_created isAncestor h attempt baseBranch
  | work commit clean =>
      exact inOrder_work isAncestor h commit clean
  | cleanup force =>
      exact inOrder_cleanedUp isAncestor h force

/-!
## Branches of retries
-/

theorem branchExists_withWorktree {other : String} {commit : κ} :
    (withWorktree place name commit host).repositories.branchExists other = true <->
      other = name ∨ host.repositories.branchExists other = true := by
  show (host.repositories.added _ name commit).branchExists other = true <-> _
  simp only [GitRepository.branchExists_iff, GitRepository.branches_added, List.mem_cons]
  constructor
  · intro h
    rcases h with ⟨branch, hbranch | hmem, hname⟩
    · rw [hbranch] at hname
      exact Or.inl hname.symm
    · exact Or.inr ⟨branch, hmem, hname⟩
  · intro h
    rcases h with hname | ⟨branch, hmem, hname⟩
    · exact ⟨_, Or.inl rfl, hname.symm⟩
    · exact ⟨branch, Or.inr hmem, hname⟩

theorem created_of_new_branch (h : InOrder place host) {step : WorkspaceStep κ}
    (hafter : (performWorkspace isAncestor place host step).repositories.branchExists name = true) :
    host.repositories.branchExists name = true ∨
      exists attempt baseBranch result, step = .create attempt baseBranch ∧
        (created isAncestor place attempt baseBranch host).1 = .ok result ∧
        result.reused = false ∧ result.branchName = name := by
  cases step with
  | create attempt baseBranch =>
      change (created isAncestor place attempt baseBranch host).2.repositories.branchExists
        name = true at hafter
      rcases created_addedOrNothing isAncestor h attempt baseBranch with
        ⟨hnothing, _⟩ | ⟨_, commit, _, _, hcreated⟩
      · rw [hnothing.repositories] at hafter
        exact Or.inl hafter
      · rw [hcreated] at hafter
        rcases branchExists_withWorktree.mp hafter with hname | hexists
        · exact Or.inr ⟨attempt, baseBranch, _, rfl, by rw [hcreated], rfl, hname.symm⟩
        · exact Or.inl hexists
  | work commit clean =>
      left
      change (host.repositories.work _ commit clean).branchExists name = true at hafter
      rw [GitRepository.branchExists_work] at hafter
      exact hafter
  | cleanup force =>
      left
      change (cleanedUp isAncestor place force host).2.repositories.branchExists name =
        true at hafter
      rcases GitRepository.branchExists_iff.mp hafter with ⟨branch, hmem, hname⟩
      refine GitRepository.branchExists_iff.mpr ⟨branch, ?_, hname⟩
      rcases (cleanedUp_cases isAncestor h force).1.branches with
        hsame | hfiltered
      · rw [← hsame]
        exact hmem
      · rw [hfiltered] at hmem
        exact (List.mem_filter.mp hmem).1

theorem retryBranch_stays (h : InOrder place host) (step : WorkspaceStep κ) {n : Nat}
    (hexists : host.repositories.branchExists (retryBranch place.taskId n) = true) :
    (performWorkspace isAncestor place host step).repositories.branchExists
      (retryBranch place.taskId n) = true := by
  cases step with
  | create attempt baseBranch =>
      show (created isAncestor place attempt baseBranch host).2.repositories.branchExists _ = _
      rcases created_addedOrNothing isAncestor h attempt baseBranch with
        ⟨hnothing, _⟩ | ⟨_, commit, _, _, hcreated⟩
      · rw [hnothing.repositories]
        exact hexists
      · rw [hcreated]
        exact branchExists_withWorktree.mpr (Or.inr hexists)
  | work commit clean =>
      show (host.repositories.work _ commit clean).branchExists _ = true
      rw [GitRepository.branchExists_work]
      exact hexists
  | cleanup force =>
      show (cleanedUp isAncestor place force host).2.repositories.branchExists _ = true
      rcases GitRepository.branchExists_iff.mp hexists with ⟨branch, hmem, hname⟩
      refine GitRepository.branchExists_iff.mpr ⟨branch, ?_, hname⟩
      rcases (cleanedUp_cases isAncestor h force).1.branches with
        hsame | hfiltered
      · rw [hsame]
        exact hmem
      · rw [hfiltered, List.mem_filter]
        refine ⟨hmem, ?_⟩
        rw [hname]
        simpa using retryBranch_ne_firstBranch place.taskId n

theorem makesRetryBranch_of_canAdd {attempt : Option Nat} {start : String} {n : Nat}
    (hadd : host.repositories.CanAdd host.files place.layout.worktreePath
      (computeBranchName place.taskId attempt) start)
    (hknown : BaseKnown host baseBranch <-> host.repositories.branchExists start = true)
    (hname : computeBranchName place.taskId attempt = retryBranch place.taskId n) :
    MakesRetryBranch place host (.create attempt baseBranch) := by
  refine ⟨attempt, baseBranch, rfl, ?_, hadd.free, ?_, hknown.mpr hadd.start⟩
  · rcases computeBranchName_cases place.taskId attempt with ⟨_, hfirst⟩ | ⟨_, _, hretry, _⟩
    · rw [hfirst] at hname
      exact absurd hname.symm (retryBranch_ne_firstBranch place.taskId n)
    · exact hretry
  · rw [Bool.eq_false_iff]
    intro hfirst
    rcases GitRepository.branchExists_iff.mp hfirst with ⟨branch, hmem, hbranch⟩
    have hconflict := hadd.noConflict branch hmem
    rw [hbranch, hname, (firstBranch_conflicts place.taskId n).1] at hconflict
    cases hconflict

theorem clear_of_none (h : InOrder place host) {attempt : Option Nat}
    (hretry : isRetry attempt = true)
    (hfirst : host.repositories.branchExists (firstBranch place.taskId) = false)
    (hnone : ¬ HasRetryBranch place host) :
    host.repositories.branchExists (computeBranchName place.taskId attempt) = false ∧
      forall branch, branch ∈ host.repositories.branches ->
        refsConflict branch.name (computeBranchName place.taskId attempt) = false := by
  rcases computeBranchName_cases place.taskId attempt with ⟨hno, _⟩ | ⟨n, hn, _, hname⟩
  · rw [hretry] at hno
    cases hno
  · refine ⟨?_, ?_⟩
    · rw [hname, Bool.eq_false_iff]
      intro hexists
      exact hnone ⟨n, hn, hexists⟩
    · intro branch hmem
      rcases h.branches branch hmem with ⟨other, hother⟩ | hapart
      · rcases computeBranchName_cases place.taskId other with ⟨_, hbranch⟩ | ⟨m, _, _, hbranch⟩
        · have hexists := GitRepository.branchExists_iff.mpr
            ⟨branch, hmem, hother.trans hbranch⟩
          rw [hfirst] at hexists
          cases hexists
        · rw [hother, hbranch, hname]
          exact retryBranches_apart place.taskId m n
      · exact (hapart attempt).2

/-- The branch of a retry is there after a step if it was before, or if a workspace was
created for a retry with nothing in the way. -/
theorem hasRetryBranch_next (h : InOrder place host) (step : WorkspaceStep κ) :
    HasRetryBranch place (performWorkspace isAncestor place host step) <->
      HasRetryBranch place host ∨ MakesRetryBranch place host step := by
  constructor
  · intro hafter
    rcases hafter with ⟨n, hn, hexists⟩
    cases step with
    | create attempt baseBranch =>
        change (created isAncestor place attempt baseBranch host).2.repositories.branchExists
          (retryBranch place.taskId n) = true at hexists
        rcases created_addedOrNothing isAncestor h attempt baseBranch with
          ⟨hnothing, _⟩ | ⟨_, commit, hadd, hknown, hcreated⟩
        · rw [hnothing.repositories] at hexists
          exact Or.inl ⟨n, hn, hexists⟩
        · rw [hcreated] at hexists
          rcases branchExists_withWorktree.mp hexists with hname | hbefore
          · exact Or.inr (makesRetryBranch_of_canAdd hadd hknown hname.symm)
          · exact Or.inl ⟨n, hn, hbefore⟩
    | work commit clean =>
        rcases created_of_new_branch isAncestor h hexists with hbefore | ⟨_, _, _, hstep, _⟩
        · exact Or.inl ⟨n, hn, hbefore⟩
        · cases hstep
    | cleanup force =>
        rcases created_of_new_branch isAncestor h hexists with hbefore | ⟨_, _, _, hstep, _⟩
        · exact Or.inl ⟨n, hn, hbefore⟩
        · cases hstep
  · intro hbefore
    by_cases hnone : HasRetryBranch place host
    · rcases hnone with ⟨n, hn, hexists⟩
      exact ⟨n, hn, retryBranch_stays isAncestor h step hexists⟩
    · rcases hbefore with hhas | ⟨attempt, baseBranch, hstep, hretry, hfree, hfirst, hknown⟩
      · exact absurd hhas hnone
      · rcases clear_of_none h hretry hfirst hnone with ⟨hnew, hconflict⟩
        rcases created_of_clear isAncestor h hknown hfree hnew hconflict with
          ⟨commit, hcreated⟩
        rcases computeBranchName_cases place.taskId attempt with ⟨hno, _⟩ | ⟨n, hn, _, hname⟩
        · rw [hretry] at hno
          cases hno
        · refine ⟨n, hn, ?_⟩
          rw [hstep]
          show (created isAncestor place attempt baseBranch host).2.repositories.branchExists
            _ = true
          rw [hcreated]
          exact branchExists_withWorktree.mpr (Or.inl hname.symm)

end Steps

/-!
## Runs
-/

def CreatedIn (start : Host (GitRepository κ)) (steps : List (WorkspaceStep κ))
    (name : String) : Prop :=
  exists x, x ∈ (workspaces isAncestor place).arrivals start steps ∧
    exists attempt baseBranch result, x.2 = .create attempt baseBranch ∧
      (created isAncestor place attempt baseBranch x.1).1 = .ok result ∧
      result.reused = false ∧ result.branchName = name

/-- No branch that the run has created is there, and any call creates a workspace with a
clean worktree. -/
def LeavesNoTrace (start : Host (GitRepository κ)) (steps : List (WorkspaceStep κ))
    (host : Host (GitRepository κ)) : Prop :=
  (forall name, CreatedIn isAncestor place start steps name ->
    host.repositories.branchExists name = false) ∧
  forall attempt baseBranch, BaseKnown host baseBranch ->
    exists result, (created isAncestor place attempt baseBranch host).1 = .ok result ∧
      (repositoryGit isAncestor).isCleanWorkingTree result.layout.worktreePath
        (created isAncestor place attempt baseBranch host).2 = .ok true

section Runs

variable {place} {start : Host (GitRepository κ)}

theorem hasRetryBranch_run (h : InOrder place start) (steps : List (WorkspaceStep κ)) :
    HasRetryBranch place ((workspaces isAncestor place).run start steps) <->
      HasRetryBranch place start ∨
        exists x, x ∈ (workspaces isAncestor place).arrivals start steps ∧
          MakesRetryBranch place x.1 x.2 := by
  induction steps generalizing start with
  | nil =>
      simp [TransitionSystem.arrivals]
  | cons step rest ih =>
      have hnext : InOrder place ((workspaces isAncestor place).next start step) :=
        (inOrder_preserved isAncestor).next trivial h
      have hstep := hasRetryBranch_next isAncestor h step
      rw [TransitionSystem.run_cons, ih hnext]
      simp only [TransitionSystem.arrivals, List.mem_cons, exists_eq_or_imp]
      rw [← or_assoc]
      exact or_congr_left hstep

theorem createdIn_of_run (h : InOrder place start) {steps : List (WorkspaceStep κ)}
    (hexists : ((workspaces isAncestor place).run start steps).repositories.branchExists name =
      true) :
    start.repositories.branchExists name = true ∨
      CreatedIn isAncestor place start steps name := by
  induction steps generalizing start with
  | nil =>
      exact Or.inl hexists
  | cons step rest ih =>
      have hnext : InOrder place ((workspaces isAncestor place).next start step) :=
        (inOrder_preserved isAncestor).next trivial h
      rcases ih hnext hexists with hbefore | ⟨x, hx, hcreated⟩
      · have hafter : (performWorkspace isAncestor place start step).repositories.branchExists
            name = true :=
          hbefore
        rcases created_of_new_branch isAncestor h hafter with hstart | hcreated
        · exact Or.inl hstart
        · exact Or.inr ⟨(start, step), List.mem_cons_self, hcreated⟩
      · exact Or.inr ⟨x, List.mem_cons_of_mem _ hx, hcreated⟩

theorem name_of_createdIn (h : InOrder place start) {steps : List (WorkspaceStep κ)}
    (hcreated : CreatedIn isAncestor place start steps name) :
    exists attempt, name = computeBranchName place.taskId attempt := by
  rcases hcreated with ⟨x, hx, attempt, baseBranch, result, _, hok, hreused, hname⟩
  have hx' := (inOrder_preserved isAncestor).arrivals (fun _ (_ : _ ∈ steps) => trivial) h x hx
  rcases created_addedOrNothing isAncestor hx' attempt baseBranch with
    ⟨_, hall⟩ | ⟨_, _, _, _, houtcome⟩
  · rw [hall result hok] at hreused
    cases hreused
  · rw [houtcome] at hok
    cases hok
    exact ⟨attempt, hname.symm⟩

theorem isClean_withWorktree {host : Host (GitRepository κ)} (name : String) (commit : κ) :
    (repositoryGit isAncestor).isCleanWorkingTree place.layout.worktreePath
      (withWorktree place name commit host) = .ok true := by
  have hlocate : (withWorktree place name commit host).files.locate place.layout.worktreePath =
      host.files.locate place.layout.worktreePath := by
    unfold FileSystem.locate
    rfl
  have hworktree : (withWorktree place name commit host).repositories.worktreeAt
      (host.files.locate place.layout.worktreePath) =
      some
        { location := host.files.locate place.layout.worktreePath
          branch := some name
          clean := true } :=
    GitRepository.worktreeAt_added _ _ _ _
  simp only [repositoryGit, hlocate, hworktree]

theorem created_clean {host : Host (GitRepository κ)} (h : InOrder place host)
    (hfree : host.files.has place.layout.worktreePath = false)
    (hnone : forall attempt,
      host.repositories.branchExists (computeBranchName place.taskId attempt) = false)
    {attempt : Option Nat} (hknown : BaseKnown host baseBranch) :
    exists result, (created isAncestor place attempt baseBranch host).1 = .ok result ∧
      (repositoryGit isAncestor).isCleanWorkingTree result.layout.worktreePath
        (created isAncestor place attempt baseBranch host).2 = .ok true := by
  have hconflict : forall branch, branch ∈ host.repositories.branches ->
      refsConflict branch.name (computeBranchName place.taskId attempt) = false := by
    intro branch hmem
    rcases h.branches branch hmem with ⟨other, hother⟩ | hapart
    · have hexists := GitRepository.branchExists_iff.mpr ⟨branch, hmem, hother⟩
      rw [hnone other] at hexists
      cases hexists
    · exact (hapart attempt).2
  rcases created_of_clear isAncestor h hknown hfree (hnone attempt) hconflict
    with ⟨commit, hcreated⟩
  have hclean : (repositoryGit isAncestor).isCleanWorkingTree place.layout.worktreePath
      (withWorktree place (computeBranchName place.taskId attempt) commit host) = .ok true :=
    isClean_withWorktree isAncestor _ commit
  rw [hcreated]
  exact ⟨{ layout := place.layout
           branchName := computeBranchName place.taskId attempt
           reused := false }, rfl, hclean⟩

variable {isAncestor}

/-- After a cleanup that returns, nothing of the task is left and any workspace can be
created, exactly if no workspace was ever created for a retry with neither a worktree nor
the branch of a first attempt there. -/
theorem cleanup_leaves_no_trace_iff (h : InOrder place start)
    (hfresh : forall attempt,
      start.repositories.branchExists (computeBranchName place.taskId attempt) = false)
    (steps : List (WorkspaceStep κ)) (force : Bool) {result : CleanupWorkspaceResult}
    (hreturns : (cleanedUp isAncestor place force
      ((workspaces isAncestor place).run start steps)).1 = .ok result) :
    LeavesNoTrace isAncestor place start steps
        (cleanedUp isAncestor place force
          ((workspaces isAncestor place).run start steps)).2 <->
      forall x, x ∈ (workspaces isAncestor place).arrivals start steps ->
        ¬ MakesRetryBranch place x.1 x.2 := by
  have hrun : InOrder place ((workspaces isAncestor place).run start steps) :=
    (inOrder_preserved isAncestor).run (fun _ _ => trivial) h
  have hretries := hasRetryBranch_run isAncestor h steps
  constructor
  · intro hleaves x hx hmakes
    rcases hretries.mpr (Or.inr ⟨x, hx, hmakes⟩) with ⟨n, hn, hexists⟩
    have hcreated : CreatedIn isAncestor place start steps (retryBranch place.taskId n) := by
      rcases createdIn_of_run isAncestor h hexists with hstart | hcreated
      · have hnot := hfresh (some n)
        have hname : computeBranchName place.taskId (some n) = retryBranch place.taskId n := by
          unfold computeBranchName
          dsimp only
          rw [if_pos hn]
          rfl
        rw [hname, hstart] at hnot
        cases hnot
      · exact hcreated
    have hstays := retryBranch_stays isAncestor hrun (.cleanup force) hexists
    have hgone := hleaves.1 _ hcreated
    change (cleanedUp isAncestor place force _).2.repositories.branchExists _ = true at hstays
    rw [hgone] at hstays
    cases hstays
  · intro hnever
    have hnoRetry : ¬ HasRetryBranch place ((workspaces isAncestor place).run start steps) := by
      intro hhas
      rcases hretries.mp hhas with ⟨n, hn, hexists⟩ | ⟨x, hx, hmakes⟩
      · have hnot := hfresh (some n)
        unfold computeBranchName at hnot
        dsimp only at hnot
        rw [if_pos hn] at hnot
        change start.repositories.branchExists (retryBranch place.taskId n) = false at hnot
        rw [hexists] at hnot
        cases hnot
      · exact hnever x hx hmakes
    rcases cleanedUp_cases isAncestor hrun force with ⟨hcleaned, hbranches⟩
    have hnone : forall attempt, (cleanedUp isAncestor place force
        ((workspaces isAncestor place).run start steps)).2.repositories.branchExists
          (computeBranchName place.taskId attempt) = false := by
      intro attempt
      rw [Bool.eq_false_iff]
      intro hexists
      rcases GitRepository.branchExists_iff.mp hexists with ⟨branch, hmem, hname⟩
      rw [hbranches result hreturns, List.mem_filter] at hmem
      rcases computeBranchName_cases place.taskId attempt with ⟨_, hfirst⟩ | ⟨n, hn, _, hretry⟩
      · rw [hfirst] at hname
        exact absurd hname (by simpa using hmem.2)
      · exact hnoRetry ⟨n, hn, GitRepository.branchExists_iff.mpr
          ⟨branch, hmem.1, hname.trans hretry⟩⟩
    constructor
    · intro name hname
      rcases name_of_createdIn isAncestor h hname with ⟨attempt, hattempt⟩
      rw [hattempt]
      exact hnone attempt
    · intro attempt baseBranch hknown
      have horder := inOrder_cleanedUp isAncestor hrun force
      exact created_clean isAncestor horder hcleaned.has hnone hknown

end Runs

/-!
## A retry without a worktree

The dispatcher counts attempts from one, so that already the first workspace of a task
is created as a retry.
-/

theorem computeBranchName_head (taskId : TaskId) (attempt : Option Nat) :
    exists rest, (computeBranchName taskId attempt).toList = 'f' :: rest := by
  have hfirst : exists rest, (firstBranch taskId).toList = 'f' :: rest := by
    have hprefix : (toString "factory/").toList = 'f' :: "actory/".toList := by
      decide
    unfold firstBranch
    rw [String.toList_append, hprefix]
    exact ⟨_, rfl⟩
  rcases hfirst with ⟨rest, hrest⟩
  rcases computeBranchName_cases taskId attempt with ⟨_, hname⟩ | ⟨n, _, _, hname⟩
  · rw [hname]
    exact ⟨rest, hrest⟩
  · rw [hname, toList_retryBranch, hrest]
    exact ⟨_, rfl⟩

/-- Names that begin otherwise are apart. -/
theorem apart_of_head {taskId : TaskId} {name : String} {c : Char} {cs : List Char}
    (hname : name.toList = c :: cs) (hc : c ≠ 'f') :
    Apart taskId name := by
  intro attempt
  rcases computeBranchName_head taskId attempt with ⟨rest, hrest⟩
  constructor
  · intro heq
    rw [heq, hrest] at hname
    cases hname
    exact hc rfl
  · unfold refsConflict isRefPrefix
    rw [String.toList_append, String.toList_append, hname, hrest]
    simp [List.isPrefixOf, hc, hc.symm]

def appPlace : TaskPlace where
  workspacesRoot := "/workspaces"
  repoPath := "/repositories/app"
  repoId := none
  taskId := "task-1"

def newHost : Host (GitRepository Nat) where
  files :=
    { workingDirectory := []
      entry := fun location => if location <+: ["workspaces"] then some .directory else none }
  repositories :=
    { head := .branch "main"
      branches := [{ name := "main", tip := 0 }]
      worktrees := [] }

theorem main_apart : Apart "task-1" "main" := by
  have hname : "main".toList = 'm' :: ['a', 'i', 'n'] := by
    decide
  exact apart_of_head hname (by decide)

theorem newHost_inOrder : InOrder appPlace newHost where
  default := ⟨"main", rfl, by decide, main_apart⟩
  branches := by
    intro branch hmem
    rw [List.mem_singleton.mp hmem]
    exact Or.inr main_apart
  worktrees := by
    intro worktree hmem
    cases hmem
  registered := by
    decide +kernel
  passable := by
    intro path _ location _
    unfold FileSystem.isFile newHost
    dsimp only
    by_cases h : location <+: ["workspaces"]
    · rw [if_pos h]
    · rw [if_neg h]

theorem newHost_fresh (attempt : Option Nat) :
    newHost.repositories.branchExists (computeBranchName appPlace.taskId attempt) = false := by
  rw [Bool.eq_false_iff]
  intro hexists
  rcases GitRepository.branchExists_iff.mp hexists with ⟨branch, hmem, hname⟩
  rw [List.mem_singleton.mp hmem] at hname
  exact (main_apart attempt).1 hname

/-- One commit is an ancestor of another if it was made earlier. -/
def madeEarlier (commit tip : Nat) : Bool :=
  commit ≤ tip

def cleanedUpAfter (steps : List (WorkspaceStep Nat)) :
    Except WorkspaceError CleanupWorkspaceResult × Host (GitRepository Nat) :=
  cleanedUp madeEarlier appPlace true ((workspaces madeEarlier appPlace).run newHost steps)

theorem cleanup_leaves_no_trace_of_first :
    LeavesNoTrace madeEarlier appPlace newHost [.create none none, .work (some 1) true]
        (cleanedUpAfter [.create none none, .work (some 1) true]).2 <->
      forall x, x ∈ (workspaces madeEarlier appPlace).arrivals newHost
          [.create none none, .work (some 1) true] ->
        ¬ MakesRetryBranch appPlace x.1 x.2 := by
  have hreturned : (cleanedUpAfter [.create none none, .work (some 1) true]).1 =
      .ok { worktreeRemoved := true, directoryRemoved := true, branchDeleted := true } := by
    decide +kernel
  exact cleanup_leaves_no_trace_iff newHost_inOrder newHost_fresh
    [.create none none, .work (some 1) true] true hreturned

/-- The branch of the first attempt that the dispatcher asks for is left. -/
theorem retry_branch_left_behind :
    (cleanedUpAfter [.create (some 1) none, .work (some 1) true]).1 =
        .ok { worktreeRemoved := true, directoryRemoved := true, branchDeleted := false } ∧
      ¬ LeavesNoTrace madeEarlier appPlace newHost [.create (some 1) none, .work (some 1) true]
        (cleanedUpAfter [.create (some 1) none, .work (some 1) true]).2 := by
  refine ⟨by decide +kernel, ?_⟩
  intro h
  have hcreated : CreatedIn madeEarlier appPlace newHost
      [.create (some 1) none, .work (some 1) true] "factory/task-1/r1" := by
    refine ⟨(newHost, .create (some 1) none), List.mem_cons_self, some 1, none,
      { layout := appPlace.layout, branchName := "factory/task-1/r1", reused := false },
      rfl, by decide +kernel, rfl, rfl⟩
  have hgone := h.1 _ hcreated
  have hleft : (cleanedUpAfter [.create (some 1) none,
      .work (some 1) true]).2.repositories.branchExists "factory/task-1/r1" = true := by
    decide +kernel
  rw [hleft] at hgone
  cases hgone

end Workspaces
end CopilotFactory
