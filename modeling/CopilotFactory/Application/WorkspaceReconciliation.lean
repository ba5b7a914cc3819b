import CopilotFactory.Application.JobQueueService
import Mathlib.Data.Rat.Floor

/-!
# Workspace reconciliation

A cleanup job removes the workspaces of tasks that are over and whose retention
period has passed, and then the workspace directories that belong to no known
task.  Each removal forces the worktree and the branch away.
-/

namespace CopilotFactory
namespace Domain

/-!
## Workspace cleanup policy

A workspace may be removed once its task is over and the retention period has
passed.
-/

structure WorkspaceRetentionPolicy where
  workspaceRetentionHours : Rat
  retainFailedWorkspaces : Bool
  retainEscalatedWorkspaces : Bool

structure WorkspaceCleanupInput where
  taskStatus : TaskStatus
  retentionPolicy : WorkspaceRetentionPolicy
  terminalStateAt : Int
  now : Int

structure WorkspaceCleanupEligibility where
  eligible : Bool
  reason : String

def msPerHour : Rat :=
  60 * 60 * 1000

def isWorkspaceCleanupEligible
    (input : WorkspaceCleanupInput) : WorkspaceCleanupEligibility :=
  let retentionMs := input.retentionPolicy.workspaceRetentionHours * msPerHour
  let elapsedMs : Rat := input.now - input.terminalStateAt
  if input.taskStatus = .escalated then
    { eligible := false
      reason := "Escalated workspaces are retained until operator resolution" }
  else if isTerminalState input.taskStatus = false then
    { eligible := false
      reason := s!"Task is in non-terminal state: {input.taskStatus.label}" }
  else if input.taskStatus = .failed ∧ input.retentionPolicy.retainFailedWorkspaces then
    { eligible := false
      reason := "Failed workspaces are retained per retention policy" }
  else if elapsedMs < retentionMs then
    { eligible := false
      reason := s!"Retention period not elapsed " ++
        s!"({Int.ceil ((retentionMs - elapsedMs) / msPerHour)}h remaining)" }
  else
    { eligible := true
      reason := "Workspace eligible for cleanup: terminal state and retention " ++
        "period elapsed" }

theorem isTerminalState_of_eligible {input : WorkspaceCleanupInput}
    (h : (isWorkspaceCleanupEligible input).eligible = true) :
    isTerminalState input.taskStatus = true := by
  unfold isWorkspaceCleanupEligible at h
  dsimp only at h
  split at h
  · cases h
  · split at h
    · cases h
    · rename_i hterminal
      simpa using hterminal

end Domain
end CopilotFactory

namespace CopilotFactory
namespace Application

open Domain
open Infrastructure

structure ExpiredWorkspaceRecord where
  taskId : TaskId
  projectId : String
  repoPath : String
  status : TaskStatus
  terminalStateAt : Millis
deriving DecidableEq

structure WorkspaceDirectoryEntry where
  taskId : TaskId
  absolutePath : String
deriving DecidableEq

structure CleanupRequest where
  taskId : TaskId
  repoPath : String
  deleteBranch : Bool
  forceBranchDelete : Bool
deriving DecidableEq

structure ReconciliationPorts where
  findTasksInTerminalStates : List ExpiredWorkspaceRecord
  listWorkspaceDirectories : Except String (List WorkspaceDirectoryEntry)
  /-- Carries a request out, or fails with the text of its error. -/
  cleanupWorkspace : CleanupRequest -> Except String Unit

structure WorkspaceReconciliationConfig where
  reconciliationIntervalMs : Millis := 60 * 60000
  leaseOwner : String := "workspace-reconciliation"
  retentionPolicy : WorkspaceRetentionPolicy :=
    { workspaceRetentionHours := 24
      retainFailedWorkspaces := true
      retainEscalatedWorkspaces := true }

inductive CleanupOutcome where
  | cleaned
  | skipped (reason : String)
  | error (text : String)
deriving DecidableEq

structure CleanupAction where
  taskId : TaskId
  /-- The project of an expired workspace, or the path of an orphaned one. -/
  place : String
  outcome : CleanupOutcome
deriving DecidableEq

def cleanupOutcome (result : Except String Unit) : CleanupOutcome :=
  match result with
  | .ok _ => .cleaned
  | .error text => .error text

def eligibilityOf (policy : WorkspaceRetentionPolicy) (now : Millis)
    (task : ExpiredWorkspaceRecord) : WorkspaceCleanupEligibility :=
  isWorkspaceCleanupEligible
    { taskStatus := task.status
      retentionPolicy := policy
      terminalStateAt := task.terminalStateAt
      now := now }

def expiredRequest (task : ExpiredWorkspaceRecord) : CleanupRequest where
  taskId := task.taskId
  repoPath := task.repoPath
  deleteBranch := true
  forceBranchDelete := true

def orphanRequest (entry : WorkspaceDirectoryEntry) : CleanupRequest where
  taskId := entry.taskId
  repoPath := entry.absolutePath
  deleteBranch := true
  forceBranchDelete := true

def cleanupExpiredWorkspaces (ports : ReconciliationPorts)
    (policy : WorkspaceRetentionPolicy) (now : Millis) :
    List CleanupAction × List CleanupRequest :=
  let tasks := ports.findTasksInTerminalStates
  (tasks.map (fun task =>
      { taskId := task.taskId
        place := task.projectId
        outcome :=
          if (eligibilityOf policy now task).eligible then
            cleanupOutcome (ports.cleanupWorkspace (expiredRequest task))
          else
            .skipped (eligibilityOf policy now task).reason }),
    (tasks.filter (fun task => (eligibilityOf policy now task).eligible)).map
      expiredRequest)

def cleanupOrphanedWorkspaces (ports : ReconciliationPorts)
    (knownTaskIds : List TaskId) : List CleanupAction × List CleanupRequest :=
  match ports.listWorkspaceDirectories with
  | .error text =>
      ([{ taskId := "unknown"
          place := "unknown"
          outcome := .error s!"Scanner failed: {text}" }], [])
  | .ok entries =>
      let orphans := entries.filter (fun entry => entry.taskId ∉ knownTaskIds)
      (orphans.map (fun entry =>
          { taskId := entry.taskId
            place := entry.absolutePath
            outcome := cleanupOutcome (ports.cleanupWorkspace (orphanRequest entry)) }),
        orphans.map orphanRequest)

inductive ProcessReconciliationResult where
  | skipped
  | processed (cleanupJobId : JobId)
      (expiredWorkspaceActions orphanedWorkspaceActions : List CleanupAction)
      (nextCleanupJobId : JobId)

/-- A run of the reconciliation: the requests it made and how it ended. -/
structure ReconciliationRun where
  requests : List CleanupRequest
  result : Except ServiceError (JobTable × ProcessReconciliationResult)

def processReconciliation (ports : ReconciliationPorts)
    (config : WorkspaceReconciliationConfig) (now : Millis) (nextJobId : JobId)
    (jobs : JobTable) : ReconciliationRun :=
  match claimJob .cleanup config.leaseOwner now jobs with
  | none =>
      { requests := []
        result := .ok (jobs, .skipped) }
  | some (jobs₁, job) =>
      let terminalTasks := ports.findTasksInTerminalStates
      let expired := cleanupExpiredWorkspaces ports config.retentionPolicy now
      -- The known tasks are those of the query for expired workspaces.
      let knownTaskIds := terminalTasks.map ExpiredWorkspaceRecord.taskId
      let orphaned := cleanupOrphanedWorkspaces ports knownTaskIds
      { requests := expired.2 ++ orphaned.2
        result := do
          let (jobs₂, _) ← completeJob job.jobId jobs₁
          let (jobs₃, nextJob) ← createJob now nextJobId
            { jobType := .cleanup
              runAfter := some (now + config.reconciliationIntervalMs) } jobs₂
          pure (jobs₃, .processed job.jobId expired.1 orphaned.1 nextJob.jobId) }

/-!
## The requests of a run
-/

theorem mem_expired_requests {ports : ReconciliationPorts}
    {policy : WorkspaceRetentionPolicy} {now : Millis} {request : CleanupRequest} :
    request ∈ (cleanupExpiredWorkspaces ports policy now).2 <->
      exists task, task ∈ ports.findTasksInTerminalStates ∧
        (eligibilityOf policy now task).eligible = true ∧
        request = expiredRequest task := by
  simp only [cleanupExpiredWorkspaces, List.mem_map, List.mem_filter]
  constructor
  · intro h
    rcases h with ⟨task, ⟨hmem, heligible⟩, hrequest⟩
    exact ⟨task, hmem, heligible, hrequest.symm⟩
  · intro h
    rcases h with ⟨task, hmem, heligible, hrequest⟩
    exact ⟨task, ⟨hmem, heligible⟩, hrequest.symm⟩

theorem mem_orphan_requests {ports : ReconciliationPorts} {knownTaskIds : List TaskId}
    {request : CleanupRequest} :
    request ∈ (cleanupOrphanedWorkspaces ports knownTaskIds).2 <->
      exists entries entry, ports.listWorkspaceDirectories = .ok entries ∧
        entry ∈ entries ∧ entry.taskId ∉ knownTaskIds ∧
        request = orphanRequest entry := by
  unfold cleanupOrphanedWorkspaces
  cases ports.listWorkspaceDirectories with
  | error text =>
      simp
  | ok entries =>
      simp only [List.mem_map, List.mem_filter, decide_eq_true_eq, Except.ok.injEq]
      constructor
      · intro h
        rcases h with ⟨entry, ⟨hmem, hunknown⟩, hrequest⟩
        exact ⟨entries, entry, rfl, hmem, hunknown, hrequest.symm⟩
      · intro h
        rcases h with ⟨_, entry, rfl, hmem, hunknown, hrequest⟩
        exact ⟨entry, ⟨hmem, hunknown⟩, hrequest.symm⟩

theorem mem_requests {ports : ReconciliationPorts} {config : WorkspaceReconciliationConfig}
    {now : Millis} {nextJobId : JobId} {jobs : JobTable} {request : CleanupRequest} :
    request ∈ (processReconciliation ports config now nextJobId jobs).requests <->
      claimJob .cleanup config.leaseOwner now jobs ≠ none ∧
        (request ∈ (cleanupExpiredWorkspaces ports config.retentionPolicy now).2 ∨
          request ∈ (cleanupOrphanedWorkspaces ports
            (ports.findTasksInTerminalStates.map ExpiredWorkspaceRecord.taskId)).2) := by
  unfold processReconciliation
  cases claimJob .cleanup config.leaseOwner now jobs with
  | none =>
      simp
  | some claimed =>
      simp

end Application
end CopilotFactory
