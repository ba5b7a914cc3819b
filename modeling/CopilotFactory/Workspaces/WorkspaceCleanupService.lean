import CopilotFactory.ControlPlane.Requests
import CopilotFactory.Foundations.Paths
import CopilotFactory.Workspaces.Cleanup

/-!
# The workspaces removed at startup

When the control plane starts, it removes the workspace directories that are old and
whose tasks have no lease other than finished ones.  It does not look at the tasks,
so that it also takes away the workspace of a task that waits for its review.
-/

namespace CopilotFactory
namespace Workspaces

open Foundations
open Domain
open Infrastructure
open Application
open ControlPlane

/-!
## Directories
-/

variable {repoId workspacesRoot : String}

/-- What the file system tells of an entry, and how it fails to. -/
structure FileAttributes where
  mtimeMs : Rat
  size : Nat := 0
  statError : Option String := none
  readError : Option String := none

inductive FileNode where
  | file (attributes : FileAttributes)
  | directory (attributes : FileAttributes) (entries : List (String × FileNode))
  /-- Neither a file nor a directory. -/
  | other

def FileNode.readdir : FileNode -> Except String (List (String × FileNode))
  | .directory attributes entries =>
      match attributes.readError with
      | some message => .error message
      | none => .ok entries
  | _ => .error "ENOTDIR: not a directory, scandir"

/-- The workspaces root, if it exists, and the removals that fail, by path. -/
structure CleanupFileSystem where
  root : Option FileNode
  removeError : String -> Option String := fun _ => none

def msPerDay : Rat :=
  24 * 60 * 60 * 1000

def defaultRetentionDays : Rat :=
  7

structure WorkspaceCleanupOptions where
  workspacesRoot : String := "./data/workspaces"
  retentionDays : Rat := defaultRetentionDays
  now : Millis

structure WorkspaceEntry where
  repoId : String
  taskId : TaskId
  absolutePath : String
  mtime : Millis
deriving DecidableEq

inductive WorkspaceCleanupOutcome where
  | deleted (freedBytes : Nat)
  | pending (daysRemaining : Int)
  | activeLease
  | error (errorMessage : String)
deriving DecidableEq

structure WorkspaceCleanupAction where
  entry : WorkspaceEntry
  outcome : WorkspaceCleanupOutcome
deriving DecidableEq

structure WorkspaceCleanupResult where
  scannedCount : Nat
  deletedCount : Nat
  pendingCount : Nat
  activeLeaseCount : Nat
  errorCount : Nat
  totalFreedBytes : Nat
  actions : List WorkspaceCleanupAction
deriving DecidableEq

/-!
## The scan
-/

mutual

/-- The bytes in the files below, as far as they can be read. -/
def estimateDirectorySize : FileNode -> Nat
  | .directory attributes entries =>
      if attributes.readError.isSome then 0 else estimateEntries entries
  | _ => 0

def estimateEntries : List (String × FileNode) -> Nat
  | [] => 0
  | (_, .file attributes) :: rest =>
      (if attributes.statError.isSome then 0 else attributes.size) + estimateEntries rest
  | (_, node) :: rest => estimateDirectorySize node + estimateEntries rest

end

def terminalLeaseStatuses : List WorkerLeaseStatus :=
  [.completing, .reclaimed]

def hasActiveLeaseForTask (s : Store) (taskId : TaskId) : Bool :=
  0 < s.taskLeases.rows.countP (fun lease =>
    lease.taskId = taskId && lease.status ∉ terminalLeaseStatuses)

/-- A date keeps whole milliseconds. -/
def dateOf (mtimeMs : Rat) : Millis :=
  if 0 ≤ mtimeMs then mtimeMs.floor else mtimeMs.ceil

def scanTaskDirectory (repoId repoPath : String) (taskDir : String × FileNode) :
    Option WorkspaceEntry :=
  match taskDir.2 with
  | .directory attributes _ =>
      match attributes.statError with
      | some _ => none
      | none =>
          some
            { repoId := repoId
              taskId := taskDir.1
              absolutePath := Path.join [repoPath, taskDir.1]
              mtime := dateOf attributes.mtimeMs }
  | _ => none

def scanRepoDirectory (workspacesRoot : String) (repoDir : String × FileNode) :
    List WorkspaceEntry :=
  match repoDir.2 with
  | .directory _ _ =>
      match repoDir.2.readdir with
      | .error _ => []
      | .ok taskDirs =>
          taskDirs.filterMap
            (scanTaskDirectory repoDir.1 (Path.join [workspacesRoot, repoDir.1]))
  | _ => []

def scanWorkspaceDirectories (workspacesRoot : String) (tree : FileNode) :
    List WorkspaceEntry :=
  match tree.readdir with
  | .error _ => []
  | .ok repoDirs => repoDirs.flatMap (scanRepoDirectory workspacesRoot)

/-!
## Removals
-/

def FileNode.mapEntries (f : List (String × FileNode) -> List (String × FileNode)) :
    FileNode -> FileNode
  | .directory attributes entries => .directory attributes (f entries)
  | node => node

def FileNode.child (node : FileNode) (name : String) : Option FileNode :=
  match node with
  | .directory _ entries => entries.lookup name
  | _ => none

def removeWorkspace (repoId : String) (taskId : TaskId) (tree : FileNode) : FileNode :=
  tree.mapEntries (fun repoDirs => repoDirs.map (fun repoDir =>
    if repoDir.1 = repoId then
      (repoDir.1, repoDir.2.mapEntries (fun taskDirs =>
        taskDirs.filter (fun taskDir => taskDir.1 ≠ taskId)))
    else
      repoDir))

def ageMs (options : WorkspaceCleanupOptions) (entry : WorkspaceEntry) : Rat :=
  options.now - entry.mtime

def retentionMs (options : WorkspaceCleanupOptions) : Rat :=
  options.retentionDays * msPerDay

/-- The age of the directory is what decides, once its task has no active lease. -/
def cleanEntry (s : Store) (fs : CleanupFileSystem) (options : WorkspaceCleanupOptions)
    (entry : WorkspaceEntry) (tree : FileNode) : WorkspaceCleanupOutcome × FileNode :=
  if hasActiveLeaseForTask s entry.taskId then
    (.activeLease, tree)
  else if ageMs options entry ≥ retentionMs options then
    match fs.removeError entry.absolutePath with
    | some message => (.error message, tree)
    | none =>
        (.deleted
            (((tree.child entry.repoId).bind (fun repoDir =>
              repoDir.child entry.taskId)).elim 0 estimateDirectorySize),
          removeWorkspace entry.repoId entry.taskId tree)
  else
    (.pending ((retentionMs options - ageMs options entry) / msPerDay).ceil, tree)

def cleanEntries (s : Store) (fs : CleanupFileSystem) (options : WorkspaceCleanupOptions) :
    List WorkspaceEntry -> FileNode -> List WorkspaceCleanupAction × FileNode
  | [], tree => ([], tree)
  | entry :: rest, tree =>
      let cleaned := cleanEntry s fs options entry tree
      let others := cleanEntries s fs options rest cleaned.2
      ({ entry := entry, outcome := cleaned.1 } :: others.1, others.2)

def isEmptyDirectory (node : FileNode) : Bool :=
  match node.readdir with
  | .ok [] => true
  | _ => false

def cleanEmptyRepoDirectories (fs : CleanupFileSystem) (workspacesRoot : String)
    (tree : FileNode) : FileNode :=
  match tree.readdir with
  | .error _ => tree
  | .ok _ =>
      tree.mapEntries (fun repoDirs => repoDirs.filter (fun repoDir =>
        !(isEmptyDirectory repoDir.2 &&
          (fs.removeError (Path.join [workspacesRoot, repoDir.1])).isNone)))

def isDeleted (action : WorkspaceCleanupAction) : Bool :=
  match action.outcome with
  | .deleted _ => true
  | _ => false

def freedBytesOf (action : WorkspaceCleanupAction) : Nat :=
  match action.outcome with
  | .deleted freedBytes => freedBytes
  | _ => 0

def summarize (entries : List WorkspaceEntry) (actions : List WorkspaceCleanupAction) :
    WorkspaceCleanupResult where
  scannedCount := entries.length
  deletedCount := actions.countP isDeleted
  pendingCount := actions.countP (fun action =>
    match action.outcome with
    | .pending _ => true
    | _ => false)
  activeLeaseCount := actions.countP (fun action => action.outcome = .activeLease)
  errorCount := actions.countP (fun action =>
    match action.outcome with
    | .error _ => true
    | _ => false)
  totalFreedBytes := ((actions.filter isDeleted).map freedBytesOf).sum
  actions := actions

/-- The result, and what is left below the workspaces root. -/
def cleanOrphanedWorkspaces (s : Store) (fs : CleanupFileSystem)
    (options : WorkspaceCleanupOptions) : WorkspaceCleanupResult × Option FileNode :=
  match fs.root with
  | none => (summarize [] [], none)
  | some tree =>
      let entries := scanWorkspaceDirectories options.workspacesRoot tree
      let cleaned := cleanEntries s fs options entries tree
      (summarize entries cleaned.1,
        some (cleanEmptyRepoDirectories fs options.workspacesRoot cleaned.2))

/-!
## What is found
-/

def FileNode.entries : FileNode -> List (String × FileNode)
  | .directory _ entries => entries
  | _ => []

def FileNode.isDirectory : FileNode -> Bool
  | .directory _ _ => true
  | _ => false

def HasWorkspace (tree : FileNode) (repoId : String) (taskId : TaskId) : Prop :=
  exists repoDir taskDir, (repoId, repoDir) ∈ tree.entries ∧
    (taskId, taskDir) ∈ repoDir.entries ∧ taskDir.isDirectory = true

/-- The directory of the task is there, and the file system tells when it was changed. -/
def Scanned (tree : FileNode) (repoId : String) (taskId : TaskId) (mtimeMs : Rat) : Prop :=
  exists repoDirs repoDir taskDirs attributes entries, tree.readdir = .ok repoDirs ∧
    (repoId, repoDir) ∈ repoDirs ∧ repoDir.readdir = .ok taskDirs ∧
    (taskId, FileNode.directory attributes entries) ∈ taskDirs ∧
    attributes.statError = none ∧ attributes.mtimeMs = mtimeMs

def workspaceEntry (workspacesRoot repoId : String) (taskId : TaskId) (mtimeMs : Rat) :
    WorkspaceEntry where
  repoId := repoId
  taskId := taskId
  absolutePath := Path.join [Path.join [workspacesRoot, repoId], taskId]
  mtime := dateOf mtimeMs

theorem entries_of_readdir {node : FileNode} {entries : List (String × FileNode)}
    (h : node.readdir = .ok entries) :
    node.entries = entries ∧ node.isDirectory = true := by
  unfold FileNode.readdir at h
  split at h
  · split at h
    · cases h
    · cases h
      exact ⟨rfl, rfl⟩
  · cases h

variable {entry : WorkspaceEntry}

theorem scanTaskDirectory_eq_some {repoPath : String} {taskDir : String × FileNode} :
    scanTaskDirectory repoId repoPath taskDir = some entry <->
      exists attributes entries, taskDir.2 = .directory attributes entries ∧
        attributes.statError = none ∧
        entry =
          { repoId := repoId
            taskId := taskDir.1
            absolutePath := Path.join [repoPath, taskDir.1]
            mtime := dateOf attributes.mtimeMs } := by
  unfold scanTaskDirectory
  cases hnode : taskDir.2 with
  | file attributes =>
      simp
  | other =>
      simp
  | directory attributes entries =>
      cases hstat : attributes.statError with
      | some message =>
          simp [hstat]
      | none =>
          simp only [hstat]
          constructor
          · intro h
            cases h
            exact ⟨attributes, entries, rfl, hstat, rfl⟩
          · intro h
            rcases h with ⟨_, _, hdir, _, hentry⟩
            cases hdir
            rw [hentry]

theorem mem_scanRepoDirectory {repoDir : String × FileNode} :
    entry ∈ scanRepoDirectory workspacesRoot repoDir <->
      exists taskDirs attributes entries taskId, repoDir.2.readdir = .ok taskDirs ∧
        (taskId, FileNode.directory attributes entries) ∈ taskDirs ∧
        attributes.statError = none ∧
        entry = workspaceEntry workspacesRoot repoDir.1 taskId attributes.mtimeMs := by
  unfold scanRepoDirectory
  cases hnode : repoDir.2 with
  | file attributes =>
      simp [FileNode.readdir]
  | other =>
      simp [FileNode.readdir]
  | directory attributes entries =>
      dsimp only
      cases hread : (FileNode.directory attributes entries).readdir with
      | error message =>
          simp
      | ok taskDirs =>
          simp only [List.mem_filterMap, scanTaskDirectory_eq_some]
          constructor
          · intro h
            rcases h with ⟨taskDir, hmem, attributes', entries', hdir, hstat, hentry⟩
            refine ⟨taskDirs, attributes', entries', taskDir.1, rfl, ?_, hstat, hentry⟩
            rw [← hdir]
            exact hmem
          · intro h
            rcases h with ⟨_, attributes', entries', taskId, hdirs, hmem, hstat, hentry⟩
            cases hdirs
            exact ⟨_, hmem, attributes', entries', rfl, hstat, hentry⟩

variable {tree : FileNode}

theorem mem_scanWorkspaceDirectories :
    entry ∈ scanWorkspaceDirectories workspacesRoot tree <->
      exists repoId taskId mtimeMs, Scanned tree repoId taskId mtimeMs ∧
        entry = workspaceEntry workspacesRoot repoId taskId mtimeMs := by
  unfold scanWorkspaceDirectories Scanned
  cases hread : tree.readdir with
  | error message =>
      simp
  | ok repoDirs =>
      simp only [List.mem_flatMap, mem_scanRepoDirectory]
      constructor
      · intro h
        rcases h with ⟨repoDir, hrepo, taskDirs, attributes, entries, taskId, hdirs, hmem,
          hstat, hentry⟩
        exact ⟨repoDir.1, taskId, attributes.mtimeMs,
          ⟨repoDirs, repoDir.2, taskDirs, attributes, entries, rfl, hrepo, hdirs, hmem, hstat,
            rfl⟩, hentry⟩
      · intro h
        rcases h with ⟨repoId, taskId, mtimeMs, ⟨_, repoDir, taskDirs, attributes, entries,
          hroot, hrepo, hdirs, hmem, hstat, hmtime⟩, hentry⟩
        cases hroot
        rw [← hmtime] at hentry
        exact ⟨(repoId, repoDir), hrepo, taskDirs, attributes, entries, taskId, hdirs, hmem,
          hstat, hentry⟩

theorem hasWorkspace_of_scanned {taskId : TaskId} {mtimeMs : Rat}
    (h : Scanned tree repoId taskId mtimeMs) : HasWorkspace tree repoId taskId := by
  rcases h with ⟨repoDirs, repoDir, taskDirs, attributes, entries, hroot, hrepo, hdirs, hmem,
    _, _⟩
  refine ⟨repoDir, .directory attributes entries, ?_, ?_, rfl⟩
  · rw [(entries_of_readdir hroot).1]
    exact hrepo
  · rw [(entries_of_readdir hdirs).1]
    exact hmem

/-!
## What is removed
-/

theorem mem_entries_mapEntries {node : FileNode}
    {f : List (String × FileNode) -> List (String × FileNode)} (hf : f [] = []) :
    (node.mapEntries f).entries = f node.entries := by
  cases node with
  | file attributes =>
      exact hf.symm
  | other =>
      exact hf.symm
  | directory attributes entries =>
      rfl

theorem hasWorkspace_removeWorkspace {repoId' : String} {taskId taskId' : TaskId} :
    HasWorkspace (removeWorkspace repoId taskId tree) repoId' taskId' <->
      HasWorkspace tree repoId' taskId' ∧ ¬ (repoId = repoId' ∧ taskId = taskId') := by
  unfold HasWorkspace removeWorkspace
  rw [mem_entries_mapEntries (by rfl)]
  constructor
  · intro h
    rcases h with ⟨repoDir, taskDir, hrepo, htask, hdir⟩
    rcases List.mem_map.mp hrepo with ⟨before, hbefore, heq⟩
    split at heq
    · rename_i hname
      cases heq
      rw [mem_entries_mapEntries (by rfl), List.mem_filter] at htask
      refine ⟨⟨before.2, taskDir, hbefore, htask.1, hdir⟩, ?_⟩
      intro hboth
      exact absurd hboth.2.symm (by simpa using htask.2)
    · rename_i hname
      rw [heq] at hname hbefore
      refine ⟨⟨repoDir, taskDir, hbefore, htask, hdir⟩, ?_⟩
      intro hboth
      exact hname hboth.1.symm
  · intro h
    rcases h with ⟨⟨repoDir, taskDir, hrepo, htask, hdir⟩, hother⟩
    by_cases hname : repoId' = repoId
    · refine ⟨repoDir.mapEntries (fun taskDirs =>
        taskDirs.filter (fun taskDir => taskDir.1 ≠ taskId)), taskDir, ?_, ?_, hdir⟩
      · exact List.mem_map.mpr ⟨(repoId', repoDir), hrepo, if_pos hname⟩
      · rw [mem_entries_mapEntries (by rfl), List.mem_filter]
        refine ⟨htask, ?_⟩
        simpa using fun heq => hother ⟨hname.symm, Eq.symm heq⟩
    · refine ⟨repoDir, taskDir, ?_, htask, hdir⟩
      exact List.mem_map.mpr ⟨(repoId', repoDir), hrepo, if_neg hname⟩

/-- The directory is old enough, its task has no active lease, and the file system lets it
be removed. -/
structure Removes (s : Store) (fs : CleanupFileSystem) (options : WorkspaceCleanupOptions)
    (entry : WorkspaceEntry) : Prop where
  inactive : hasActiveLeaseForTask s entry.taskId = false
  old : retentionMs options ≤ ageMs options entry
  removable : fs.removeError entry.absolutePath = none

section Cleaning

variable {s : Store} {fs : CleanupFileSystem} {options : WorkspaceCleanupOptions}

theorem cleanEntry_of_removes (h : Removes s fs options entry) (tree : FileNode) :
    (cleanEntry s fs options entry tree).2 =
      removeWorkspace entry.repoId entry.taskId tree := by
  unfold cleanEntry
  rw [if_neg (by simp [h.inactive]), if_pos h.old, h.removable]

theorem cleanEntry_of_not_removes (h : ¬ Removes s fs options entry) (tree : FileNode) :
    (cleanEntry s fs options entry tree).2 = tree := by
  unfold cleanEntry
  split
  · rfl
  · rename_i hinactive
    split
    · rename_i hold
      split
      · rfl
      · rename_i hremovable
        exact absurd ⟨by simpa using hinactive, hold, hremovable⟩ h
    · rfl

theorem hasWorkspace_cleanEntries {entries : List WorkspaceEntry} {taskId : TaskId} :
    HasWorkspace (cleanEntries s fs options entries tree).2 repoId taskId <->
      HasWorkspace tree repoId taskId ∧
        ¬ exists entry, entry ∈ entries ∧ Removes s fs options entry ∧
          entry.repoId = repoId ∧ entry.taskId = taskId := by
  induction entries generalizing tree with
  | nil =>
      simp [cleanEntries]
  | cons entry rest ih =>
      show HasWorkspace (cleanEntries s fs options rest
        (cleanEntry s fs options entry tree).2).2 repoId taskId <-> _
      rw [ih]
      by_cases h : Removes s fs options entry
      · rw [cleanEntry_of_removes h, hasWorkspace_removeWorkspace]
        simp only [List.mem_cons, exists_eq_or_imp, h, true_and, not_or]
        exact and_assoc
      · rw [cleanEntry_of_not_removes h]
        simp [h]

theorem hasWorkspace_cleanEmpty {taskId : TaskId} :
    HasWorkspace (cleanEmptyRepoDirectories fs workspacesRoot tree) repoId taskId <->
      HasWorkspace tree repoId taskId := by
  unfold cleanEmptyRepoDirectories
  split
  · exact Iff.rfl
  · unfold HasWorkspace
    rw [mem_entries_mapEntries (by rfl)]
    constructor
    · intro h
      rcases h with ⟨repoDir, taskDir, hrepo, htask, hdir⟩
      exact ⟨repoDir, taskDir, (List.mem_filter.mp hrepo).1, htask, hdir⟩
    · intro h
      rcases h with ⟨repoDir, taskDir, hrepo, htask, hdir⟩
      refine ⟨repoDir, taskDir, List.mem_filter.mpr ⟨hrepo, ?_⟩, htask, hdir⟩
      have hfull : isEmptyDirectory repoDir = false := by
        rw [Bool.eq_false_iff]
        intro hempty
        unfold isEmptyDirectory at hempty
        split at hempty
        · rename_i hread
          rw [(entries_of_readdir hread).1] at htask
          cases htask
        · cases hempty
      simp [hfull]

end Cleaning

/-!
## Agreement with the retention policy
-/

def Expendable (s : Store) (policy : WorkspaceRetentionPolicy) (now : Millis)
    (taskId : TaskId) : Prop :=
  Removable s policy now taskId ∧
    (s.findTask taskId = none ∨ hasActiveLeaseForTask s taskId = false)

def WorkspaceRemoved (before after : Option FileNode) (repoId : String)
    (taskId : TaskId) : Prop :=
  (exists tree, before = some tree ∧ HasWorkspace tree repoId taskId) ∧
    ¬ exists tree, after = some tree ∧ HasWorkspace tree repoId taskId

/-- A workspace that is found is old, may be removed, and its task has no lease but
finished ones. -/
def OldAndUnleased (s : Store) (fs : CleanupFileSystem) (options : WorkspaceCleanupOptions)
    (repoId : String) (taskId : TaskId) : Prop :=
  exists tree mtimeMs, fs.root = some tree ∧ Scanned tree repoId taskId mtimeMs ∧
    Removes s fs options (workspaceEntry options.workspacesRoot repoId taskId mtimeMs)

theorem workspaceRemoved_iff {s : Store} {fs : CleanupFileSystem}
    {options : WorkspaceCleanupOptions} {taskId : TaskId} :
    WorkspaceRemoved fs.root (cleanOrphanedWorkspaces s fs options).2 repoId taskId <->
      OldAndUnleased s fs options repoId taskId := by
  unfold WorkspaceRemoved OldAndUnleased cleanOrphanedWorkspaces
  cases hroot : fs.root with
  | none =>
      simp
  | some tree =>
      simp only [Option.some.injEq, exists_eq_left', hasWorkspace_cleanEmpty,
        hasWorkspace_cleanEntries, not_and, not_not]
      constructor
      · intro h
        rcases h.2 h.1 with ⟨entry, hmem, hremoves, hrepo, htask⟩
        rcases mem_scanWorkspaceDirectories.mp hmem with
          ⟨repoId', taskId', mtimeMs, hscanned, hentry⟩
        rw [hentry] at hrepo htask hremoves
        change repoId' = repoId at hrepo
        change taskId' = taskId at htask
        rw [hrepo, htask] at hscanned hremoves
        exact ⟨tree, mtimeMs, rfl, hscanned, hremoves⟩
      · intro h
        rcases h with ⟨tree', mtimeMs, htree, hscanned, hremoves⟩
        rw [← htree] at hscanned
        refine ⟨hasWorkspace_of_scanned hscanned, fun _ => ?_⟩
        exact ⟨_, mem_scanWorkspaceDirectories.mpr
          ⟨repoId, taskId, mtimeMs, hscanned, rfl⟩, hremoves, rfl, rfl⟩

def developer : ActorInfo where
  type := "worker"
  id := "worker-1"

def untilReview : List Request :=
  [.createWorkerPool { workerPoolId := "pool-1", maxConcurrency := 1 },
    .createTask
      { taskId := "task-1", repositoryId := "repo-1", taskType := "feature",
        priority := "high" },
    .transitionTask "task-1" .ready
      { allDependenciesResolved := some true, hasPolicyBlockers := some false } developer,
    .acquireLease 0 "lease-1"
      { taskId := "task-1", workerId := "worker-1", poolId := "pool-1", ttlSeconds := 3600,
        actor := developer },
    .transitionLease "lease-1" .starting { workerProcessSpawned := some true } developer,
    .receiveHeartbeat 1000 { leaseId := "lease-1", actor := developer },
    .receiveHeartbeat 2000 { leaseId := "lease-1", completing := true, actor := developer },
    .transitionTask "task-1" .inDevelopment { hasHeartbeat := some true } developer,
    .transitionTask "task-1" .devComplete
      { hasDevResultPacket := some true, requiredValidationsPassed := some true } developer,
    .transitionTask "task-1" .inReview { hasReviewRoutingDecision := some true } developer]

def storeInReview : Store :=
  controlPlane.run Store.empty untilReview

def oldWorkspace : CleanupFileSystem where
  root := some (.directory { mtimeMs := 2000 }
    [("app", .directory { mtimeMs := 2000 }
      [("task-1", .directory { mtimeMs := 2000 }
        [("worktree", .directory { mtimeMs := 2000 }
          [("notes.md", .file { mtimeMs := 2000, size := 120 })])])])])

def eightDaysLater : WorkspaceCleanupOptions where
  workspacesRoot := "/workspaces"
  now := 8 * 86400000

end Workspaces
end CopilotFactory
