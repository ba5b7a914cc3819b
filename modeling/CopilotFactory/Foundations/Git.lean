import Mathlib.Logic.Function.Basic
import Mathlib.Logic.Relation

/-!
# Git repositories

Commits with their parents, a clone with its branches and its HEAD, and the
branches of the remote it was cloned from.  What a rebase, a squash or a merge
makes of two commits is a parameter, with the parents that git gives the result.
The remote accepts a push only if it is a fast-forward.
-/

namespace CopilotFactory
namespace Foundations

/-!
## Commits
-/

def Reaches {κ : Type} (parents : κ -> List κ) (tip commit : κ) : Prop :=
  Relation.ReflTransGen (fun child parent => parent ∈ parents child) tip commit

/-- The commits that there are, and what the commands make of them: a new tip, or the
files in conflict. -/
structure Git (κ : Type) where
  parents : κ -> List κ
  isAncestor : (commit tip : κ) -> Bool
  isAncestor_iff : forall commit tip,
    isAncestor commit tip = true <-> Reaches parents tip commit
  rebase : (source onto : κ) -> Except (List String) κ
  rebase_reaches : forall {source onto tip},
    rebase source onto = .ok tip -> Reaches parents tip onto
  /-- Nothing when there is nothing to commit. -/
  squash : (source onto : κ) -> (message : String) -> Except (List String) (Option κ)
  squash_parents : forall {source onto message tip},
    squash source onto message = .ok (some tip) -> parents tip = [onto]
  merge : (source onto : κ) -> Except (List String) κ
  /-- A source that is merged already makes no commit. -/
  merge_parents : forall {source onto tip}, merge source onto = .ok tip ->
    parents tip = [onto, source] ∨ (tip = onto ∧ Reaches parents onto source)

namespace Git

variable {κ : Type} (git : Git κ)

def Contains (tip commit : κ) : Prop :=
  Reaches git.parents tip commit

theorem contains_refl (commit : κ) : git.Contains commit commit :=
  Relation.ReflTransGen.refl

variable {git}

theorem contains_of_parent {tip commit : κ} (h : commit ∈ git.parents tip) :
    git.Contains tip commit :=
  Relation.ReflTransGen.single h

/-!
## The remote
-/

variable (git)

/-- A push that creates the branch or moves it forward. -/
def accepts (current : Option κ) (commit : κ) : Bool :=
  match current with
  | none => true
  | some tip => git.isAncestor tip commit

def receive (remote : String -> Option κ) (push : String × κ) : String -> Option κ :=
  if git.accepts (remote push.1) push.2 then
    Function.update remote push.1 (some push.2)
  else
    remote

def receiveAll (remote : String -> Option κ) (pushes : List (String × κ)) :
    String -> Option κ :=
  pushes.foldl git.receive remote

def BranchContains (remote : String -> Option κ) (branch : String) (commit : κ) : Prop :=
  exists tip, remote branch = some tip ∧ git.Contains tip commit

variable {git} {remote remote' : String -> Option κ} {branch : String} {commit : κ}

theorem receive_of_accepts {push : String × κ}
    (h : git.accepts (remote push.1) push.2 = true) :
    git.receive remote push push.1 = some push.2 := by
  unfold receive
  rw [if_pos h, Function.update_self]

theorem receive_of_ne {push : String × κ} (h : branch ≠ push.1) :
    git.receive remote push branch = remote branch := by
  unfold receive
  split
  · exact Function.update_of_ne h _ _
  · rfl

theorem BranchContains.receive (h : git.BranchContains remote branch commit)
    (push : String × κ) :
    git.BranchContains (git.receive remote push) branch commit := by
  rcases h with ⟨tip, htip, hcontains⟩
  by_cases hbranch : branch = push.1
  · unfold Git.receive
    split
    · rename_i haccepts
      rw [← hbranch, htip] at haccepts
      refine ⟨push.2, ?_, ?_⟩
      · rw [hbranch, Function.update_self]
      · exact ((git.isAncestor_iff tip push.2).mp haccepts).trans hcontains
    · exact ⟨tip, htip, hcontains⟩
  · refine ⟨tip, ?_, hcontains⟩
    rw [receive_of_ne hbranch]
    exact htip

theorem BranchContains.receiveAll (h : git.BranchContains remote branch commit)
    (pushes : List (String × κ)) :
    git.BranchContains (git.receiveAll remote pushes) branch commit := by
  induction pushes generalizing remote with
  | nil =>
      exact h
  | cons push rest ih =>
      exact ih (h.receive push)

theorem receive_congr (h : remote branch = remote' branch) (push : String × κ) :
    git.receive remote push branch = git.receive remote' push branch := by
  by_cases hbranch : branch = push.1
  · unfold receive
    rw [← hbranch, h]
    split
    · rw [Function.update_self, Function.update_self]
    · exact h
  · rw [receive_of_ne hbranch, receive_of_ne hbranch]
    exact h

theorem receiveAll_congr (h : remote branch = remote' branch)
    (pushes : List (String × κ)) :
    git.receiveAll remote pushes branch = git.receiveAll remote' pushes branch := by
  induction pushes generalizing remote remote' with
  | nil =>
      exact h
  | cons push rest ih =>
      exact ih (receive_congr h push)

theorem receiveAll_append (first second : List (String × κ)) :
    git.receiveAll remote (first ++ second) =
      git.receiveAll (git.receiveAll remote first) second := by
  unfold receiveAll
  exact List.foldl_append

theorem receiveAll_cons (push : String × κ) (rest : List (String × κ)) :
    git.receiveAll remote (push :: rest) =
      git.receiveAll (git.receive remote push) rest :=
  rfl

/-- A push to another branch could as well be left out. -/
theorem receiveAll_insert {push : String × κ} (h : branch ≠ push.1)
    (first second : List (String × κ)) :
    git.receiveAll remote (first ++ push :: second) branch =
      git.receiveAll remote (first ++ second) branch := by
  rw [receiveAll_append, receiveAll_append, receiveAll_cons]
  exact receiveAll_congr (receive_of_ne h) second

theorem branchContains_congr (h : remote branch = remote' branch) :
    git.BranchContains remote branch commit <->
      git.BranchContains remote' branch commit := by
  unfold BranchContains
  rw [h]

end Git

/-!
## Names of branches

Names with the prefix of the remote are those of remote-tracking branches, so a
local branch never has such a name.
-/

def originPrefix : List Char :=
  "origin/".toList

/-- The branch of the remote that a name such as origin/main tracks. -/
def trackedBranch (name : String) : Option String :=
  if originPrefix.isPrefixOf name.toList then
    some (String.ofList (name.toList.drop originPrefix.length))
  else
    none

theorem trackedBranch_origin (branch : String) :
    trackedBranch s!"origin/{branch}" = some branch := by
  have hname : (s!"origin/{branch}").toList = originPrefix ++ branch.toList :=
    String.toList_append
  have hprefix : originPrefix.isPrefixOf (originPrefix ++ branch.toList) = true :=
    List.isPrefixOf_iff_prefix.mpr (List.prefix_append _ _)
  unfold trackedBranch
  rw [hname, if_pos hprefix, List.drop_left, String.ofList_toList]

abbrev LocalBranch : Type :=
  { name : String // trackedBranch name = none }

def LocalBranch.named (name : String) : Option LocalBranch :=
  if h : trackedBranch name = none then some ⟨name, h⟩ else none

@[simp] theorem LocalBranch.named_val (branch : LocalBranch) :
    LocalBranch.named branch.val = some branch := by
  unfold named
  rw [dif_pos branch.property]

/-!
## A clone and its remote
-/

inductive Head (κ : Type) where
  | branch (name : LocalBranch)
  | detached (commit : κ)
deriving DecidableEq

structure Clone (κ : Type) where
  head : Head κ
  branches : LocalBranch -> Option κ
  /-- The remote-tracking branches, by the names that the remote has for them. -/
  tracking : String -> Option κ
  remote : String -> Option κ

/-- How a command that combines two commits ends when it does not fail. -/
inductive CombineReport where
  | clean
  | conflicts (files : List String)
deriving DecidableEq

namespace Clone

variable {κ : Type}

def headCommit (clone : Clone κ) : Option κ :=
  match clone.head with
  | .branch name => clone.branches name
  | .detached commit => some commit

def localCommit (clone : Clone κ) (name : String) : Option κ :=
  (LocalBranch.named name).bind clone.branches

def resolve (clone : Clone κ) (name : String) : Option κ :=
  match trackedBranch name with
  | some branch => clone.tracking branch
  | none => clone.localCommit name

def receive (git : Git κ) (clone : Clone κ) (pushes : List (String × κ)) : Clone κ :=
  { clone with remote := git.receiveAll clone.remote pushes }

def fetch (clone : Clone κ) : Clone κ :=
  { clone with tracking := fun branch => (clone.remote branch).or (clone.tracking branch) }

def currentBranch (clone : Clone κ) : Except String String :=
  match clone.head with
  | .branch name => .ok name.val
  | .detached _ => .error "fatal: ref HEAD is not a symbolic ref"

/-- A remote-tracking branch is checked out as a detached HEAD. -/
def checkout (clone : Clone κ) (name : String) : Option (Clone κ) :=
  match trackedBranch name with
  | some branch =>
      (clone.tracking branch).map (fun commit => { clone with head := .detached commit })
  | none =>
      (LocalBranch.named name).bind (fun branch =>
        (clone.branches branch).map (fun _ => { clone with head := .branch branch }))

/-- Move the branch that is checked out, or HEAD itself when none is. -/
def moveHead (clone : Clone κ) (commit : κ) : Clone κ :=
  match clone.head with
  | .branch name =>
      { clone with branches := Function.update clone.branches name (some commit) }
  | .detached _ => { clone with head := .detached commit }

/-- A rebase with conflicts is aborted. -/
def rebase (git : Git κ) (onto : String) (clone : Clone κ) :
    Clone κ × Except String CombineReport :=
  match clone.headCommit, clone.resolve onto with
  | some source, some target =>
      match git.rebase source target with
      | .ok tip => (clone.moveHead tip, .ok .clean)
      | .error files => (clone, .ok (.conflicts files))
  | _, _ => (clone, .error s!"fatal: invalid upstream '{onto}'")

def combine (combined : (source onto : κ) -> Except (List String) (Option κ))
    (sourceBranch : String) (clone : Clone κ) :
    Clone κ × Except String CombineReport :=
  match clone.headCommit, clone.resolve sourceBranch with
  | some onto, some source =>
      match combined source onto with
      | .ok (some tip) => (clone.moveHead tip, .ok .clean)
      | .ok none => (clone, .error "nothing to commit, working tree clean")
      | .error files => (clone, .ok (.conflicts files))
  | _, _ => (clone, .error s!"merge: {sourceBranch} - not something we can merge")

def combineInto (combined : (source onto : κ) -> Except (List String) (Option κ))
    (sourceBranch targetBranch : String) (clone : Clone κ) :
    Clone κ × Except String CombineReport :=
  match clone.checkout targetBranch with
  | some checkedOut => checkedOut.combine combined sourceBranch
  | none =>
      (clone, .error s!"error: pathspec '{targetBranch}' did not match any file(s) known to git")

def squashMerge (git : Git κ) (sourceBranch targetBranch message : String) :
    Clone κ -> Clone κ × Except String CombineReport :=
  combineInto (fun source onto => git.squash source onto message) sourceBranch targetBranch

def mergeNoFastForward (git : Git κ) (sourceBranch targetBranch : String) :
    Clone κ -> Clone κ × Except String CombineReport :=
  combineInto (fun source onto => (git.merge source onto).map some) sourceBranch targetBranch

/-- The local branch of the name is pushed, whatever is checked out. -/
def push (git : Git κ) (branch : String) (clone : Clone κ) :
    Clone κ × Except String Unit :=
  match clone.localCommit branch with
  | none => (clone, .error s!"error: src refspec {branch} does not match any")
  | some commit =>
      if git.accepts (clone.remote branch) commit then
        ({ clone with
            tracking := Function.update clone.tracking branch (some commit)
            remote := git.receive clone.remote (branch, commit) }, .ok ())
      else
        (clone, .error s!"error: failed to push some refs to 'origin' ({branch})")

/-!
## What the commands do
-/

variable {git : Git κ} {clone clone' : Clone κ}

@[simp] theorem localCommit_val (clone : Clone κ) (branch : LocalBranch) :
    clone.localCommit branch.val = clone.branches branch := by
  unfold localCommit
  rw [LocalBranch.named_val]
  rfl

@[simp] theorem resolve_val (clone : Clone κ) (branch : LocalBranch) :
    clone.resolve branch.val = clone.branches branch := by
  unfold resolve
  rw [branch.property]
  exact localCommit_val clone branch

@[simp] theorem resolve_origin (clone : Clone κ) (branch : String) :
    clone.resolve s!"origin/{branch}" = clone.tracking branch := by
  unfold resolve
  rw [trackedBranch_origin]

@[simp] theorem checkout_origin (clone : Clone κ) (branch : String) :
    clone.checkout s!"origin/{branch}" =
      (clone.tracking branch).map (fun commit => { clone with head := .detached commit }) := by
  unfold checkout
  rw [trackedBranch_origin]

theorem currentBranch_eq_ok {name : String} :
    clone.currentBranch = .ok name <->
      exists branch : LocalBranch, clone.head = .branch branch ∧ branch.val = name := by
  unfold currentBranch
  cases clone.head with
  | branch branch =>
      simp
  | detached commit =>
      simp

@[simp] theorem moveHead_remote (clone : Clone κ) (commit : κ) :
    (clone.moveHead commit).remote = clone.remote := by
  unfold moveHead
  split <;> rfl

theorem rebase_eq_clean {onto : String} :
    clone.rebase git onto = (clone', .ok .clean) <->
      exists source target tip,
        clone.headCommit = some source ∧
        clone.resolve onto = some target ∧
        git.rebase source target = .ok tip ∧
        clone' = clone.moveHead tip := by
  unfold rebase
  cases clone.headCommit with
  | none =>
      simp
  | some source =>
      cases clone.resolve onto with
      | none =>
          simp
      | some target =>
          cases hrebase : git.rebase source target with
          | error files =>
              simp [hrebase]
          | ok tip =>
              simp [hrebase, eq_comm]

theorem combine_eq_clean {combined : (source onto : κ) -> Except (List String) (Option κ)}
    {sourceBranch : String} :
    clone.combine combined sourceBranch = (clone', .ok .clean) <->
      exists onto source tip,
        clone.headCommit = some onto ∧
        clone.resolve sourceBranch = some source ∧
        combined source onto = .ok (some tip) ∧
        clone' = clone.moveHead tip := by
  unfold combine
  cases clone.headCommit with
  | none =>
      simp
  | some onto =>
      cases clone.resolve sourceBranch with
      | none =>
          simp
      | some source =>
          cases hcombined : combined source onto with
          | error files =>
              simp [hcombined]
          | ok made =>
              cases made with
              | none =>
                  simp [hcombined]
              | some tip =>
                  simp [hcombined, eq_comm]

/-- A merge into a remote-tracking branch leaves the result on a detached HEAD, and every
branch where it was. -/
theorem combineInto_origin_eq_clean
    {combined : (source onto : κ) -> Except (List String) (Option κ)}
    {sourceBranch : LocalBranch} {targetBranch : String} :
    clone.combineInto combined sourceBranch.val s!"origin/{targetBranch}" =
        (clone', .ok .clean) <->
      exists source onto tip,
        clone.branches sourceBranch = some source ∧
        clone.tracking targetBranch = some onto ∧
        combined source onto = .ok (some tip) ∧
        clone' = { clone with head := .detached tip } := by
  unfold combineInto
  rw [checkout_origin]
  cases hfetched : clone.tracking targetBranch with
  | none =>
      simp
  | some target =>
      change combine combined sourceBranch.val { clone with head := .detached target } =
        (clone', .ok .clean) <-> _
      rw [combine_eq_clean]
      simp only [resolve_val]
      constructor
      · intro h
        rcases h with ⟨onto, source, tip, honto, hsource, hcombined, hclone'⟩
        cases honto
        exact ⟨source, target, tip, hsource, rfl, hcombined, hclone'⟩
      · intro h
        rcases h with ⟨source, onto, tip, hsource, honto, hcombined, hclone'⟩
        cases honto
        exact ⟨target, source, tip, rfl, hsource, hcombined, hclone'⟩

theorem push_eq_ok {branch : String} :
    clone.push git branch = (clone', .ok ()) <->
      exists commit,
        clone.localCommit branch = some commit ∧
        git.accepts (clone.remote branch) commit = true ∧
        clone' =
          { clone with
            tracking := Function.update clone.tracking branch (some commit)
            remote := git.receive clone.remote (branch, commit) } := by
  unfold push
  cases clone.localCommit branch with
  | none =>
      constructor
      · intro h
        cases h
      · intro h
        rcases h with ⟨commit, hcommit, _⟩
        cases hcommit
  | some commit =>
      simp only [Option.some.injEq, exists_eq_left']
      split
      · rename_i haccepts
        simp [haccepts, eq_comm]
      · rename_i hrefuses
        simp [hrefuses]

theorem push_remote_of_error {branch message : String}
    (h : clone.push git branch = (clone', .error message)) :
    clone'.remote = clone.remote := by
  unfold push at h
  split at h
  · cases h
    rfl
  · split at h
    · cases h
    · cases h
      rfl

theorem rebase_remote (git : Git κ) (onto : String) (clone : Clone κ) :
    (clone.rebase git onto).1.remote = clone.remote := by
  unfold rebase
  split
  · split
    · exact moveHead_remote _ _
    · rfl
  · rfl

theorem combine_remote (combined : (source onto : κ) -> Except (List String) (Option κ))
    (sourceBranch : String) (clone : Clone κ) :
    (clone.combine combined sourceBranch).1.remote = clone.remote := by
  unfold combine
  split
  · split
    · exact moveHead_remote _ _
    · rfl
    · rfl
  · rfl

theorem checkout_remote {name : String} (h : clone.checkout name = some clone') :
    clone'.remote = clone.remote := by
  unfold checkout at h
  split at h
  · rcases Option.map_eq_some_iff.mp h with ⟨_, _, hclone'⟩
    rw [← hclone']
  · rcases Option.bind_eq_some_iff.mp h with ⟨_, _, h⟩
    rcases Option.map_eq_some_iff.mp h with ⟨_, _, hclone'⟩
    rw [← hclone']

theorem combineInto_remote (combined : (source onto : κ) -> Except (List String) (Option κ))
    (sourceBranch targetBranch : String) (clone : Clone κ) :
    (clone.combineInto combined sourceBranch targetBranch).1.remote = clone.remote := by
  unfold combineInto
  split
  · rename_i checkedOut hcheckout
    rw [combine_remote]
    exact checkout_remote hcheckout
  · rfl

end Clone

end Foundations
end CopilotFactory
