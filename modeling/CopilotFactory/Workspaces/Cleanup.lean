import CopilotFactory.Application.WorkspaceReconciliation

/-!
# Which workspaces are removed

A workspace should be removed only if no task owns it, or if its task is over and
past the retention period.  The reconciliation takes the tasks it knows from the
query for expired workspaces, which returns finished tasks only, so the
workspace of a task that is still being worked on counts as orphaned.
-/

namespace CopilotFactory
namespace Workspaces

open Foundations
open Domain
open Infrastructure
open Application

/-- The documented result of the query: the tasks in a terminal state whose terminal
timestamp is set, with their current status and timestamp. -/
structure TerminalTaskQuery (s : Store) (records : List ExpiredWorkspaceRecord) : Prop where
  sound : forall r, r ∈ records ->
    exists task t, s.findTask r.taskId = some task ∧
      isTerminalState task.status = true ∧ task.completedAt = some t ∧
      r.status = task.status ∧ r.terminalStateAt = ofColumn t
  complete : forall task t, task ∈ s.tasks -> isTerminalState task.status = true ->
    task.completedAt = some t -> exists r, r ∈ records ∧ r.taskId = task.taskId

def Removable (s : Store) (policy : WorkspaceRetentionPolicy) (now : Millis)
    (taskId : TaskId) : Prop :=
  s.findTask taskId = none ∨
    exists task t, s.findTask taskId = some task ∧ task.completedAt = some t ∧
      (isWorkspaceCleanupEligible
        { taskStatus := task.status
          retentionPolicy := policy
          terminalStateAt := ofColumn t
          now := now }).eligible = true

/-- Every scanned directory of a stored task belongs to a finished one. -/
def ScannedTasksFinished (s : Store) (ports : ReconciliationPorts) : Prop :=
  forall entries entry task, ports.listWorkspaceDirectories = .ok entries ->
    entry ∈ entries -> s.findTask entry.taskId = some task ->
      isTerminalState task.status = true ∧ task.completedAt ≠ none

theorem removable_of_expired {s : Store} {ports : ReconciliationPorts}
    (hquery : TerminalTaskQuery s ports.findTasksInTerminalStates)
    {policy : WorkspaceRetentionPolicy} {now : Millis} {request : CleanupRequest}
    (h : request ∈ (cleanupExpiredWorkspaces ports policy now).2) :
    Removable s policy now request.taskId := by
  rcases mem_expired_requests.mp h with ⟨record, hrecord, heligible, hrequest⟩
  rcases hquery.sound record hrecord with ⟨task, t, htask, _, hcompleted, hstatus, htime⟩
  rw [hrequest]
  refine Or.inr ⟨task, t, htask, hcompleted, ?_⟩
  rw [← hstatus, ← htime]
  exact heligible

theorem known_iff {s : Store} {records : List ExpiredWorkspaceRecord}
    (hquery : TerminalTaskQuery s records) {task : Task} {taskId : TaskId}
    (htask : s.findTask taskId = some task) :
    taskId ∈ records.map ExpiredWorkspaceRecord.taskId <->
      isTerminalState task.status = true ∧ task.completedAt ≠ none := by
  constructor
  · intro h
    rcases List.mem_map.mp h with ⟨record, hrecord, hid⟩
    rcases hquery.sound record hrecord with ⟨task', t, htask', hterminal, hcompleted, _⟩
    rw [hid, htask] at htask'
    cases htask'
    exact ⟨hterminal, by simp [hcompleted]⟩
  · intro h
    rcases h with ⟨hterminal, hcompleted⟩
    rcases Option.ne_none_iff_exists'.mp hcompleted with ⟨t, ht⟩
    rcases hquery.complete task t (Table.mem_of_find? htask) hterminal ht with
      ⟨record, hrecord, hid⟩
    rw [Store.taskId_of_findTask htask] at hid
    exact List.mem_map.mpr ⟨record, hrecord, hid⟩

/-- The requests of a reconciliation are all for removable workspaces exactly when no
cleanup job is due or every scanned directory of a stored task belongs to a task in a
terminal state with its timestamp set. -/
theorem cleanup_requests_removable_iff {s : Store} {ports : ReconciliationPorts}
    (hquery : TerminalTaskQuery s ports.findTasksInTerminalStates)
    (config : WorkspaceReconciliationConfig) (now : Millis) (nextJobId : JobId)
    (jobs : JobTable) :
    (forall request,
      request ∈ (processReconciliation ports config now nextJobId jobs).requests ->
        Removable s config.retentionPolicy now request.taskId) <->
      claimJob .cleanup config.leaseOwner now jobs = none ∨
        ScannedTasksFinished s ports := by
  constructor
  · intro h
    by_cases hclaim : claimJob .cleanup config.leaseOwner now jobs = none
    · exact Or.inl hclaim
    · refine Or.inr ?_
      intro entries entry task hscan hentry htask
      by_contra hunfinished
      have horphan := mem_orphan_requests.mpr
        ⟨entries, entry, hscan, hentry,
          fun hknown => hunfinished ((known_iff hquery htask).mp hknown), rfl⟩
      rcases h (orphanRequest entry) (mem_requests.mpr ⟨hclaim, Or.inr horphan⟩) with
        hnone | ⟨task', t, htask', hcompleted, heligible⟩
      · change s.findTask entry.taskId = none at hnone
        rw [htask] at hnone
        cases hnone
      · change s.findTask entry.taskId = some task' at htask'
        rw [htask] at htask'
        cases htask'
        exact hunfinished ⟨isTerminalState_of_eligible heligible, by simp [hcompleted]⟩
  · intro h request hrequest
    rcases mem_requests.mp hrequest with ⟨hclaim, hexpired | horphan⟩
    · exact removable_of_expired hquery hexpired
    · rcases h with h | h
      · exact absurd h hclaim
      · rcases mem_orphan_requests.mp horphan with
          ⟨entries, entry, hscan, hentry, hunknown, rfl⟩
        left
        cases htask : s.findTask entry.taskId with
        | none =>
            exact htask
        | some task =>
            exact absurd ((known_iff hquery htask).mpr (h entries entry task hscan hentry
              htask)) hunknown

/-!
## An answer to the query

The query as a filter over the task table, for given repository paths.
-/

def finishedRecord (repoPath : String) (task : Task) (t : Seconds) :
    ExpiredWorkspaceRecord where
  taskId := task.taskId
  projectId := task.repositoryId
  repoPath := repoPath
  status := task.status
  terminalStateAt := ofColumn t

def terminalTaskRecord (repoPath : String) (task : Task) : Option ExpiredWorkspaceRecord :=
  match task.completedAt with
  | none => none
  | some t =>
      if isTerminalState task.status then
        some (finishedRecord repoPath task t)
      else
        none

def terminalTaskRecords (repoPath : String) (s : Store) : List ExpiredWorkspaceRecord :=
  s.tasks.rows.filterMap (terminalTaskRecord repoPath)

theorem terminalTaskRecord_eq_some {repoPath : String} {task : Task}
    {record : ExpiredWorkspaceRecord} (h : terminalTaskRecord repoPath task = some record) :
    exists t, task.completedAt = some t ∧ isTerminalState task.status = true ∧
      record.taskId = task.taskId ∧ record.status = task.status ∧
      record.terminalStateAt = ofColumn t := by
  unfold terminalTaskRecord at h
  split at h
  · cases h
  · rename_i t hcompleted
    split at h
    · rename_i hterminal
      cases h
      exact ⟨t, hcompleted, hterminal, rfl, rfl, rfl⟩
    · cases h

theorem terminalTaskRecords_query (repoPath : String) (s : Store) :
    TerminalTaskQuery s (terminalTaskRecords repoPath s) := by
  constructor
  · intro r hr
    rcases List.mem_filterMap.mp hr with ⟨task, hmem, hrecord⟩
    rcases terminalTaskRecord_eq_some hrecord with
      ⟨t, hcompleted, hterminal, hid, hstatus, htime⟩
    refine ⟨task, t, ?_, hterminal, hcompleted, hstatus, htime⟩
    rw [hid]
    exact Table.find?_key_of_mem hmem
  · intro task t hmem hterminal hcompleted
    refine ⟨finishedRecord repoPath task t, ?_, rfl⟩
    apply List.mem_filterMap.mpr
    refine ⟨task, hmem, ?_⟩
    simp [terminalTaskRecord, hcompleted, hterminal]

/-!
## The workspace of a task in development
-/

def taskInDevelopment : Task where
  taskId := "task-1"
  repositoryId := "repo-1"
  taskType := "feature"
  priority := "high"
  status := .inDevelopment
  version := 4
  retryCount := 0
  currentLeaseId := some "lease-1"
  currentReviewCycleId := none
  mergeQueueItemId := none
  completedAt := none

def storeOfTask (task : Task) : Store :=
  { Store.empty with
    tasks := Table.empty.insert task (Table.find?_empty _)
    leaseTask := by
      intro l h
      exact absurd h (Table.not_mem_empty l)
    itemTask := by
      intro i h
      exact absurd h (Table.not_mem_empty i) }

def cleanupJobs : JobTable :=
  Table.empty.insert (newJob 0 "job-1" { jobType := .cleanup }) (Table.find?_empty _)

def portsOf (s : Store) (entries : List WorkspaceDirectoryEntry) :
    ReconciliationPorts where
  findTasksInTerminalStates := terminalTaskRecords "/repo" s
  listWorkspaceDirectories := .ok entries
  cleanupWorkspace := fun _ => .ok ()

theorem cleanup_requests_removable_unknown_task :
    (forall request,
      request ∈ (processReconciliation
          (portsOf (storeOfTask taskInDevelopment)
            [{ taskId := "task-9", absolutePath := "/workspaces/repo-1/task-9" }])
          {} 1000 "job-2" cleanupJobs).requests ->
        Removable (storeOfTask taskInDevelopment)
          ({} : WorkspaceReconciliationConfig).retentionPolicy 1000 request.taskId) <->
      claimJob .cleanup ({} : WorkspaceReconciliationConfig).leaseOwner 1000 cleanupJobs =
          none ∨
        ScannedTasksFinished (storeOfTask taskInDevelopment)
          (portsOf (storeOfTask taskInDevelopment)
            [{ taskId := "task-9", absolutePath := "/workspaces/repo-1/task-9" }]) :=
  cleanup_requests_removable_iff (terminalTaskRecords_query "/repo" _) {} 1000 "job-2"
    cleanupJobs

/-- The removal of the workspace of a task in IN_DEVELOPMENT is requested. -/
theorem cleanup_requested_in_development :
    ¬ forall request,
      request ∈ (processReconciliation
          (portsOf (storeOfTask taskInDevelopment)
            [{ taskId := "task-1", absolutePath := "/workspaces/repo-1/task-1" }])
          {} 1000 "job-2" cleanupJobs).requests ->
        Removable (storeOfTask taskInDevelopment)
          ({} : WorkspaceReconciliationConfig).retentionPolicy 1000 request.taskId := by
  intro h
  have hrequest := h
    (orphanRequest { taskId := "task-1", absolutePath := "/workspaces/repo-1/task-1" })
    (by decide +kernel)
  have hfind : (storeOfTask taskInDevelopment).findTask "task-1" =
      some taskInDevelopment := by
    decide
  rcases hrequest with hnone | ⟨task, t, htask, hcompleted, _⟩
  · change (storeOfTask taskInDevelopment).findTask "task-1" = none at hnone
    rw [hfind] at hnone
    cases hnone
  · change (storeOfTask taskInDevelopment).findTask "task-1" = some task at htask
    rw [hfind] at htask
    cases htask
    cases hcompleted

end Workspaces
end CopilotFactory
