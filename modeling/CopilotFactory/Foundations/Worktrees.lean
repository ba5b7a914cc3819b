import CopilotFactory.Foundations.FileSystem

/-!
# Git worktrees

A repository with its local branches and the worktrees that are registered with it.
Branches are kept as files below refs/heads, so no name of a branch may be a
directory on the way to another one.
-/

namespace CopilotFactory
namespace Foundations

inductive MainHead (κ : Type) where
  | branch (name : String)
  | detached (commit : κ)
deriving DecidableEq

structure Branch (κ : Type) where
  name : String
  tip : κ
deriving DecidableEq

structure Worktree where
  location : List String
  /-- The branch that is checked out, unless HEAD is detached. -/
  branch : Option String
  clean : Bool
deriving DecidableEq

structure GitRepository (κ : Type) where
  head : MainHead κ
  branches : List (Branch κ)
  worktrees : List Worktree
deriving DecidableEq

/-- The first name is a directory on the way to the second. -/
def isRefPrefix (first second : String) : Bool :=
  (first ++ "/").toList.isPrefixOf second.toList

/-- Branches of both names cannot be there together. -/
def refsConflict (first second : String) : Bool :=
  isRefPrefix first second || isRefPrefix second first

namespace GitRepository

variable {κ α : Type}

variable {name path : String} {files : FileSystem α}

def branchExists (repo : GitRepository κ) (name : String) : Bool :=
  repo.branches.any (fun branch => branch.name == name)

def tip (repo : GitRepository κ) (name : String) : Option κ :=
  (repo.branches.find? (fun branch => branch.name == name)).map Branch.tip

def headCommit (repo : GitRepository κ) : Option κ :=
  match repo.head with
  | .branch name => repo.tip name
  | .detached commit => some commit

/-- git symbolic-ref --short HEAD -/
def symbolicRef (repo : GitRepository κ) : Except String String :=
  match repo.head with
  | .branch name => .ok name
  | .detached _ => .error "fatal: ref HEAD is not a symbolic ref"

def worktreeAt (repo : GitRepository κ) (location : List String) : Option Worktree :=
  repo.worktrees.find? (fun worktree => worktree.location == location)

def isCheckedOut (repo : GitRepository κ) (name : String) : Bool :=
  (match repo.head with
    | .branch current => current == name
    | .detached _ => false) ||
    repo.worktrees.any (fun worktree => worktree.branch == some name)

/-- git worktree add path -b branch start: the path is taken, the branch created at the
start and checked out. -/
def addWorktree (path name start : String) (repo : GitRepository κ) (files : FileSystem α) :
    Except String (GitRepository κ × FileSystem α) :=
  match repo.tip start with
  | none => .error s!"fatal: invalid reference: {start}"
  | some commit =>
      if files.has path then
        .error s!"fatal: '{path}' already exists"
      else if (repo.worktreeAt (files.locate path)).isSome then
        .error s!"fatal: '{path}' is a missing but already registered worktree"
      else if repo.branchExists name then
        .error s!"fatal: a branch named '{name}' already exists"
      else if repo.branches.any (fun branch => refsConflict branch.name name) then
        .error s!"fatal: cannot lock ref 'refs/heads/{name}'"
      else do
        let made ← files.mkdir path
        pure
          ({ repo with
              branches := { name := name, tip := commit } :: repo.branches
              worktrees :=
                { location := files.locate path
                  branch := some name
                  clean := true } :: repo.worktrees },
            made)

def removeWorktree (path : String) (repo : GitRepository κ) (files : FileSystem α) :
    Except String (GitRepository κ × FileSystem α) :=
  if (repo.worktreeAt (files.locate path)).isSome then
    .ok
      ({ repo with
          worktrees :=
            repo.worktrees.filter
              (fun worktree => worktree.location ≠ files.locate path) },
        files.rm path)
  else
    .error s!"fatal: '{path}' is not a working tree"

/-- git branch -d, or -D when forced: a branch that is not merged into HEAD is only
deleted by force. -/
def deleteBranch (isAncestor : (commit tip : κ) -> Bool) (force : Bool) (name : String)
    (repo : GitRepository κ) : Except String (GitRepository κ) :=
  match repo.tip name with
  | none => .error s!"error: branch '{name}' not found"
  | some commit =>
      if repo.isCheckedOut name then
        .error s!"error: cannot delete branch '{name}' used by worktree"
      else if force || repo.headCommit.any (isAncestor commit) then
        .ok { repo with
              branches := repo.branches.filter (fun branch => branch.name ≠ name) }
      else
        .error s!"error: the branch '{name}' is not fully merged"

/-- Work in the worktree at a location: the branch that is checked out moves to a new
commit, if there is one, and files are left behind that are committed or not. -/
def work (location : List String) (commit : Option κ) (clean : Bool)
    (repo : GitRepository κ) : GitRepository κ :=
  match repo.worktreeAt location with
  | none => repo
  | some worktree =>
      { repo with
        branches := repo.branches.map (fun branch =>
          if worktree.branch = some branch.name then
            { branch with tip := commit.getD branch.tip }
          else
            branch)
        worktrees := repo.worktrees.map (fun other =>
          if other.location = location then { other with clean := clean } else other) }

/-!
## Branches
-/

theorem branchExists_iff {repo : GitRepository κ} :
    repo.branchExists name = true <->
      exists branch, branch ∈ repo.branches ∧ branch.name = name := by
  simp [branchExists]

theorem branchExists_eq_any (repo : GitRepository κ) (name : String) :
    repo.branchExists name = (repo.branches.map Branch.name).any (fun n => n == name) := by
  simp [branchExists, List.any_map, Function.comp_def]

theorem tip_isSome (repo : GitRepository κ) (name : String) :
    (repo.tip name).isSome = repo.branchExists name := by
  unfold tip branchExists
  rw [Option.isSome_map, List.isSome_find?]

theorem exists_tip {repo : GitRepository κ} (h : repo.branchExists name = true) :
    exists commit, repo.tip name = some commit := by
  rw [← tip_isSome] at h
  exact Option.isSome_iff_exists.mp h

theorem worktreeAt_isSome {repo : GitRepository κ} {location : List String} :
    (repo.worktreeAt location).isSome = true <->
      exists worktree, worktree ∈ repo.worktrees ∧ worktree.location = location := by
  simp [worktreeAt]

theorem worktreeAt_isSome_eq_any (repo : GitRepository κ) (location : List String) :
    (repo.worktreeAt location).isSome =
      (repo.worktrees.map (fun worktree => (worktree.location, worktree.branch))).any
        (fun place => place.1 == location) := by
  simp [worktreeAt, List.isSome_find?, List.any_map, Function.comp_def]

structure CanAdd (repo : GitRepository κ) (files : FileSystem α) (path name start : String) :
    Prop where
  start : repo.branchExists start = true
  free : files.has path = false
  unregistered : (repo.worktreeAt (files.locate path)).isSome = false
  new : repo.branchExists name = false
  noConflict : forall branch, branch ∈ repo.branches -> refsConflict branch.name name = false

def added (repo : GitRepository κ) (location : List String) (name : String) (commit : κ) :
    GitRepository κ :=
  { repo with
    branches := { name := name, tip := commit } :: repo.branches
    worktrees := { location := location, branch := some name, clean := true } :: repo.worktrees }

@[simp] theorem branches_added (repo : GitRepository κ) (location : List String)
    (name : String) (commit : κ) :
    (repo.added location name commit).branches =
      { name := name, tip := commit } :: repo.branches :=
  rfl

theorem mem_worktrees_added {repo : GitRepository κ} {location : List String} {commit : κ}
    {worktree : Worktree} :
    worktree ∈ (repo.added location name commit).worktrees <->
      worktree = { location := location, branch := some name, clean := true } ∨
        worktree ∈ repo.worktrees :=
  List.mem_cons

theorem worktreeAt_added (repo : GitRepository κ) (location : List String) (name : String)
    (commit : κ) :
    (repo.added location name commit).worktreeAt location =
      some { location := location, branch := some name, clean := true } := by
  simp [worktreeAt, added]

theorem addWorktree_of_canAdd {repo : GitRepository κ} {made : FileSystem α} {start : String}
    (h : repo.CanAdd files path name start) (hmade : files.mkdir path = .ok made) :
    exists commit, repo.addWorktree path name start files =
      .ok (repo.added (files.locate path) name commit, made) := by
  rcases exists_tip h.start with ⟨commit, hcommit⟩
  have hnone : repo.branches.any (fun branch => refsConflict branch.name name) = false := by
    simpa using h.noConflict
  refine ⟨commit, ?_⟩
  unfold addWorktree added
  rw [hcommit]
  simp [h.free, h.unregistered, h.new, hnone, hmade, bind, Except.bind, pure, Except.pure]

theorem addWorktree_eq_ok {repo repo' : GitRepository κ} {files' : FileSystem α}
    {start : String} (h : repo.addWorktree path name start files = .ok (repo', files')) :
    repo.CanAdd files path name start ∧ files.mkdir path = .ok files' ∧
      exists commit, repo' = repo.added (files.locate path) name commit := by
  unfold addWorktree at h
  cases hcommit : repo.tip start with
  | none =>
      rw [hcommit] at h
      cases h
  | some commit =>
      rw [hcommit] at h
      dsimp only at h
      split at h
      · cases h
      · rename_i hfree
        split at h
        · cases h
        · rename_i hunregistered
          split at h
          · cases h
          · rename_i hnew
            split at h
            · cases h
            · rename_i hconflict
              cases hmade : files.mkdir path with
              | error message =>
                  rw [hmade] at h
                  cases h
              | ok made =>
                  rw [hmade] at h
                  cases h
                  refine ⟨⟨?_, ?_, ?_, ?_, ?_⟩, rfl, commit, rfl⟩
                  · rw [← tip_isSome, hcommit]
                    rfl
                  · simpa using hfree
                  · simpa using hunregistered
                  · exact Bool.eq_false_iff.mpr hnew
                  · simpa using hconflict

/-!
## Removals
-/

theorem removeWorktree_of_registered {repo : GitRepository κ}
    (h : (repo.worktreeAt (files.locate path)).isSome = true) :
    repo.removeWorktree path files =
      .ok
        ({ repo with
            worktrees :=
              repo.worktrees.filter (fun worktree => worktree.location ≠ files.locate path) },
          files.rm path) := by
  unfold removeWorktree
  rw [if_pos h]

theorem filter_worktrees_of_unregistered {repo : GitRepository κ} {location : List String}
    (h : (repo.worktreeAt location).isSome = false) :
    repo.worktrees.filter (fun worktree => worktree.location ≠ location) = repo.worktrees := by
  apply List.filter_eq_self.mpr
  intro worktree hmem
  have hnot : worktree.location ≠ location := by
    intro hlocation
    have hsome := worktreeAt_isSome.mpr ⟨worktree, hmem, hlocation⟩
    rw [h] at hsome
    cases hsome
  simpa using hnot

theorem deleteBranch_eq_ok {isAncestor : (commit tip : κ) -> Bool} {force : Bool}
    {repo repo' : GitRepository κ} (h : repo.deleteBranch isAncestor force name = .ok repo') :
    repo' =
      { repo with branches := repo.branches.filter (fun branch => branch.name ≠ name) } := by
  unfold deleteBranch at h
  split at h
  · cases h
  · split at h
    · cases h
    · split at h
      · cases h
        rfl
      · cases h

theorem filter_branches_of_missing {repo : GitRepository κ} (h : repo.branchExists name = false) :
    repo.branches.filter (fun branch => branch.name ≠ name) = repo.branches := by
  apply List.filter_eq_self.mpr
  intro branch hmem
  have hnot : branch.name ≠ name := by
    intro hname
    have hsome := branchExists_iff.mpr ⟨branch, hmem, hname⟩
    rw [h] at hsome
    cases hsome
  simpa using hnot

/-!
## Work in a worktree
-/

variable (repo : GitRepository κ) (location : List String) (commit : Option κ) (clean : Bool)

@[simp] theorem head_work : (repo.work location commit clean).head = repo.head := by
  unfold work
  split
  · rfl
  · rfl

theorem names_work :
    (repo.work location commit clean).branches.map Branch.name =
      repo.branches.map Branch.name := by
  unfold work
  split
  · rfl
  · rw [List.map_map]
    apply List.map_congr_left
    intro branch _
    simp only [Function.comp_apply]
    split
    · rfl
    · rfl

theorem places_work :
    (repo.work location commit clean).worktrees.map
        (fun worktree => (worktree.location, worktree.branch)) =
      repo.worktrees.map (fun worktree => (worktree.location, worktree.branch)) := by
  unfold work
  split
  · rfl
  · rw [List.map_map]
    apply List.map_congr_left
    intro worktree _
    simp only [Function.comp_apply]
    split
    · rfl
    · rfl

theorem branchExists_work (name : String) :
    (repo.work location commit clean).branchExists name = repo.branchExists name := by
  rw [branchExists_eq_any, branchExists_eq_any, names_work]

theorem worktreeAt_work_isSome (other : List String) :
    ((repo.work location commit clean).worktreeAt other).isSome =
      (repo.worktreeAt other).isSome := by
  rw [worktreeAt_isSome_eq_any, worktreeAt_isSome_eq_any, places_work]

end GitRepository
end Foundations
end CopilotFactory
