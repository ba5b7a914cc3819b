import CopilotFactory.Automation.SweptRuns
import CopilotFactory.Leasing.StalenessWindow

/-!
# Startup diagnostics

At startup three queries count what the reconciliation sweep will have to recover.  The
counts of jobs and tasks restate the conditions of the sweep.  The count of leases names
statuses that no lease has, so stranded leases never reach the summary.
-/

namespace CopilotFactory
namespace Recovery

open Foundations
open Domain
open Infrastructure
open Application
open Automation

variable {rows : StampedRows} {now : Millis}

def defaultStaleLeaseWindowMs : Millis := 75000

def defaultOrphanedJobTimeoutMs : Millis := 10 * 60000

def defaultStuckTaskTimeoutMs : Millis := 5 * 60000

/-- The policy that a sweep uses when it is given none. -/
def defaultStalenessPolicy : StalenessPolicy where
  heartbeatIntervalSeconds := 30
  missedHeartbeatThreshold := 2
  gracePeriodSeconds := 15

structure StartupDiagnosticsResult where
  staleLeases : Nat
  orphanedJobs : Nat
  stuckTasks : Nat
  needsRecovery : Bool
deriving DecidableEq

/-!
## The three counts

Statuses are compared as the texts that the columns hold.
-/

/-- A heartbeat that is NULL is before no deadline. -/
def countStaleLeases (now : Millis) (rows : StampedRows) : Nat :=
  let deadlineEpoch := toColumn (now - defaultStaleLeaseWindowMs)
  rows.store.taskLeases.rows.countP (fun lease =>
    lease.status.label ∈ ["active", "heartbeating"] ∧
      lease.heartbeatAt.any (fun heartbeatAt => heartbeatAt < deadlineEpoch))

def countOrphanedJobs (now : Millis) (rows : StampedRows) : Nat :=
  let deadlineEpoch := toColumn (now - defaultOrphanedJobTimeoutMs)
  rows.jobs.rows.countP (fun job =>
    job.status.label ∈ ["claimed", "running"] ∧
      rows.jobUpdatedAt job.jobId < deadlineEpoch)

def countStuckTasks (now : Millis) (rows : StampedRows) : Nat :=
  let deadlineEpoch := toColumn (now - defaultStuckTaskTimeoutMs)
  rows.store.tasks.rows.countP (fun task =>
    task.status.label = "ASSIGNED" ∧ rows.taskUpdatedAt task.taskId < deadlineEpoch)

def checkRecoveryStatus (now : Millis) (rows : StampedRows) : StartupDiagnosticsResult :=
  let staleLeases := countStaleLeases now rows
  let orphanedJobs := countOrphanedJobs now rows
  let stuckTasks := countStuckTasks now rows
  { staleLeases := staleLeases
    orphanedJobs := orphanedJobs
    stuckTasks := stuckTasks
    needsRecovery := staleLeases > 0 || orphanedJobs > 0 || stuckTasks > 0 }

/-!
## What a sweep would detect
-/

structure ReturnOnce (queries : SweepQueries) : Prop where
  orphaned : forall rows statuses updatedBefore,
    (queries.findOrphanedJobs rows statuses updatedBefore).Nodup
  stuck : forall rows updatedBefore,
    (queries.findStuckAssignedTasks rows updatedBefore).Nodup

def detectedLeases (rows : StampedRows) (now : Millis) : Nat :=
  (detectStaleLeases now defaultStalenessPolicy rows.store).length

def detectedJobs (queries : SweepQueries) (rows : StampedRows) (now : Millis) : Nat :=
  (queries.findOrphanedJobs rows orphanedJobStatuses
    (now - defaultOrphanedJobTimeoutMs)).length

def detectedTasks (queries : SweepQueries) (rows : StampedRows) (now : Millis) : Nat :=
  (queries.findStuckAssignedTasks rows (now - defaultStuckTaskTimeoutMs)).length

def UpToASecond (reported : Nat) (detected : Millis -> Nat) (now : Millis) : Prop :=
  detected (now - 1000) ≤ reported ∧ reported ≤ detected (now + 1000)

/-- The summary has the numbers of the sweep, and it is silent only if the sweep finds
nothing. -/
structure AgreesWithSweep (queries : SweepQueries) (rows : StampedRows) (now : Millis) :
    Prop where
  staleLeases :
    UpToASecond (checkRecoveryStatus now rows).staleLeases (detectedLeases rows) now
  orphanedJobs :
    UpToASecond (checkRecoveryStatus now rows).orphanedJobs (detectedJobs queries rows) now
  stuckTasks :
    UpToASecond (checkRecoveryStatus now rows).stuckTasks (detectedTasks queries rows) now
  silent : (checkRecoveryStatus now rows).needsRecovery = false ->
    detectedLeases rows (now - 1000) = 0 ∧ detectedJobs queries rows (now - 1000) = 0 ∧
      detectedTasks queries rows (now - 1000) = 0

/-!
## Leases
-/

def Stale (now : Millis) (lease : TaskLease) : Prop :=
  (lease.status ∈ heartbeatWatchedStatuses ∧
      lease.heartbeatAt.getD lease.leasedAt <
        toColumn (now - defaultStaleLeaseWindowMs)) ∨
    (lease.status ∈ ttlWatchedStatuses ∧ lease.expiresAt < toColumn now)

instance (now : Millis) (lease : TaskLease) : Decidable (Stale now lease) :=
  inferInstanceAs (Decidable (_ ∨ _))

theorem label_not_mem (status : WorkerLeaseStatus) :
    status.label ∉ ["active", "heartbeating"] := by
  cases status <;> decide

theorem countStaleLeases_eq_zero (now : Millis) (rows : StampedRows) :
    countStaleLeases now rows = 0 := by
  unfold countStaleLeases
  rw [List.countP_eq_zero]
  intro lease _ hcounted
  exact label_not_mem lease.status (of_decide_eq_true hcounted).1

theorem detectedLeases_eq_zero_iff :
    detectedLeases rows now = 0 <->
      forall lease, lease ∈ rows.store.taskLeases -> ¬ Stale now lease := by
  unfold detectedLeases detectStaleLeases
  rw [List.length_map, List.length_eq_zero_iff, List.eq_nil_iff_forall_not_mem]
  exact forall_congr' (fun lease => by rw [mem_findStaleLeases, not_and]; rfl)

/-- The count of leases is right exactly when there is nothing to count. -/
theorem leases_upToASecond_iff :
    UpToASecond (countStaleLeases now rows) (detectedLeases rows) now <->
      forall lease, lease ∈ rows.store.taskLeases -> ¬ Stale (now - 1000) lease := by
  unfold UpToASecond
  rw [countStaleLeases_eq_zero, ← detectedLeases_eq_zero_iff]
  simp

/-!
## Jobs
-/

theorem lt_toColumn_of_second {column : Seconds} {deadline : Millis}
    (h : ofColumn column < deadline - 1000) : column < toColumn deadline := by
  unfold ofColumn at h
  unfold toColumn
  lia

theorem ofColumn_lt_of_column {column : Seconds} {deadline : Millis}
    (h : column < toColumn deadline) : ofColumn column < deadline := by
  unfold toColumn at h
  unfold ofColumn
  lia

theorem claimed_or_running_iff (status : JobStatus) :
    status.label ∈ ["claimed", "running"] <-> status ∈ orphanedJobStatuses := by
  cases status <;> decide

/-- A query that finds the selected rows, once each, finds as many as a count. -/
theorem length_eq_countP {A B : Type} (key : A -> B) {found : List B} {items : List A}
    {selected : A -> Bool} (hfound : found.Nodup) (hkeys : (items.map key).Nodup)
    (hmem : forall b, b ∈ found <-> exists a, a ∈ items ∧ selected a = true ∧ key a = b) :
    found.length = items.countP selected := by
  have hselected : ((items.filter selected).map key).Nodup :=
    (List.filter_sublist.map key).nodup hkeys
  have hperm : found.Perm ((items.filter selected).map key) := by
    rw [List.perm_ext_iff_of_nodup hfound hselected]
    intro b
    rw [hmem b, List.mem_map]
    simp only [List.mem_filter, and_assoc]
  rw [hperm.length_eq, List.length_map, List.countP_eq_length_filter]

section

variable {queries : SweepQueries} {isHeartbeating : WorkerLeaseStatus -> Bool}

theorem detectedJobs_eq (hdocumented : queries.Documented isHeartbeating)
    (honce : ReturnOnce queries) (rows : StampedRows) (now : Millis) :
    detectedJobs queries rows now =
      rows.jobs.rows.countP (fun job => job.status ∈ orphanedJobStatuses ∧
        ofColumn (rows.jobUpdatedAt job.jobId) < now - defaultOrphanedJobTimeoutMs) := by
  refine length_eq_countP id (honce.orphaned _ _ _) ?_ ?_
  · rw [List.map_id]
    exact List.Nodup.of_map Job.jobId rows.jobs.nodup
  · intro job
    rw [hdocumented.orphaned, Table.mem_def]
    simp

theorem jobs_upToASecond (hdocumented : queries.Documented isHeartbeating)
    (honce : ReturnOnce queries) (rows : StampedRows) (now : Millis) :
    UpToASecond (countOrphanedJobs now rows) (detectedJobs queries rows) now := by
  unfold UpToASecond countOrphanedJobs
  rw [detectedJobs_eq hdocumented honce, detectedJobs_eq hdocumented honce]
  simp only [claimed_or_running_iff]
  constructor
  · refine List.countP_mono_left (fun job _ hjob => ?_)
    have hold := of_decide_eq_true hjob
    exact decide_eq_true ⟨hold.1, lt_toColumn_of_second (by lia)⟩
  · refine List.countP_mono_left (fun job _ hjob => ?_)
    have hold := of_decide_eq_true hjob
    have hbefore := ofColumn_lt_of_column hold.2
    exact decide_eq_true ⟨hold.1, by lia⟩

/-!
## Tasks
-/

def CountedAsStuck (rows : StampedRows) (now : Millis) (task : Task) : Prop :=
  task.status = .assigned ∧
    rows.taskUpdatedAt task.taskId < toColumn (now - defaultStuckTaskTimeoutMs)

def DetectedAsStuck (isHeartbeating : WorkerLeaseStatus -> Bool) (rows : StampedRows)
    (now : Millis) (task : Task) : Prop :=
  task.status = .assigned ∧
    ofColumn (rows.taskUpdatedAt task.taskId) < now - defaultStuckTaskTimeoutMs ∧
    ¬ Heartbeating isHeartbeating task rows.store

instance (rows : StampedRows) (now : Millis) : DecidablePred (CountedAsStuck rows now) :=
  fun _ => inferInstanceAs (Decidable (_ ∧ _))

instance (rows : StampedRows) (now : Millis) :
    DecidablePred (DetectedAsStuck isHeartbeating rows now) :=
  fun _ => inferInstanceAs (Decidable (_ ∧ _ ∧ _))

theorem countStuckTasks_eq (now : Millis) (rows : StampedRows) :
    countStuckTasks now rows = rows.store.tasks.rows.countP (CountedAsStuck rows now) := by
  have hlabel : forall status : TaskStatus,
      status.label = "ASSIGNED" <-> status = .assigned := by
    intro status
    cases status <;> decide
  unfold countStuckTasks CountedAsStuck
  simp only [hlabel]
  rfl

theorem detectedTasks_eq (hdocumented : queries.Documented isHeartbeating)
    (honce : ReturnOnce queries) (rows : StampedRows) (now : Millis) :
    detectedTasks queries rows now =
      rows.store.tasks.rows.countP (DetectedAsStuck isHeartbeating rows now) := by
  refine length_eq_countP Task.taskId (honce.stuck _ _) rows.store.tasks.nodup ?_
  intro taskId
  rw [hdocumented.stuck]
  simp only [decide_eq_true_eq]
  constructor
  · intro h
    rcases h with ⟨task, htask, hstatus, hold, hquiet⟩
    have hid : task.taskId = taskId := Store.taskId_of_findTask htask
    refine ⟨task, Table.mem_of_find? htask, ⟨hstatus, ?_, hquiet⟩, hid⟩
    rw [hid]
    exact hold
  · intro h
    rcases h with ⟨task, hmem, ⟨hstatus, hold, hquiet⟩, rfl⟩
    exact ⟨task, Table.find?_key_of_mem hmem, hstatus, hold, hquiet⟩

theorem countP_split {A : Type} (items : List A) (p q : A -> Prop) [DecidablePred p]
    [DecidablePred q] :
    items.countP p =
      items.countP (fun a => p a ∧ q a) + items.countP (fun a => p a ∧ ¬ q a) := by
  rw [List.countP_eq_countP_filter_add items _ (fun a => q a), List.countP_filter,
    List.countP_filter]
  simp

theorem detected_and_counted_iff {task : Task} :
    DetectedAsStuck isHeartbeating rows (now + 1000) task ∧ CountedAsStuck rows now task <->
      CountedAsStuck rows now task ∧ ¬ Heartbeating isHeartbeating task rows.store := by
  constructor
  · intro h
    exact ⟨h.2, h.1.2.2⟩
  · intro h
    have hbefore := ofColumn_lt_of_column h.1.2
    exact ⟨⟨h.1.1, by lia, h.2⟩, h.1⟩

/-- The count of tasks never misses one that the sweep detects.  It counts those with a
heartbeat too, and is right as long as no fewer become stuck within the second. -/
theorem tasks_upToASecond_iff (hdocumented : queries.Documented isHeartbeating)
    (honce : ReturnOnce queries) (rows : StampedRows) (now : Millis) :
    UpToASecond (countStuckTasks now rows) (detectedTasks queries rows) now <->
      rows.store.tasks.rows.countP (fun task =>
          CountedAsStuck rows now task ∧ Heartbeating isHeartbeating task rows.store) ≤
        rows.store.tasks.rows.countP (fun task =>
          DetectedAsStuck isHeartbeating rows (now + 1000) task ∧
            ¬ CountedAsStuck rows now task) := by
  unfold UpToASecond
  rw [detectedTasks_eq hdocumented honce, detectedTasks_eq hdocumented honce,
    countStuckTasks_eq]
  have hcounted := countP_split rows.store.tasks.rows (CountedAsStuck rows now)
    (fun task => Heartbeating isHeartbeating task rows.store)
  have hdetected := countP_split rows.store.tasks.rows
    (DetectedAsStuck isHeartbeating rows (now + 1000)) (CountedAsStuck rows now)
  simp only [detected_and_counted_iff] at hdetected
  have hearlier : rows.store.tasks.rows.countP
        (DetectedAsStuck isHeartbeating rows (now - 1000)) ≤
      rows.store.tasks.rows.countP (CountedAsStuck rows now) := by
    refine List.countP_mono_left (fun task _ htask => ?_)
    rcases of_decide_eq_true htask with ⟨hstatus, hold, _⟩
    exact decide_eq_true ⟨hstatus, lt_toColumn_of_second (by lia)⟩
  constructor
  · intro h
    have hcounts := h.2
    lia
  · intro h
    exact ⟨hearlier, by lia⟩

/-!
## The summary and the sweep
-/

/-- Startup diagnostics agree with the sweep exactly when no lease is stale, and no more
ASSIGNED tasks with a heartbeat are counted than tasks without one become stuck within the
second. -/
theorem agreesWithSweep_iff (hdocumented : queries.Documented isHeartbeating)
    (honce : ReturnOnce queries) (rows : StampedRows) (now : Millis) :
    AgreesWithSweep queries rows now <->
      (forall lease, lease ∈ rows.store.taskLeases -> ¬ Stale (now - 1000) lease) ∧
        rows.store.tasks.rows.countP (fun task =>
            CountedAsStuck rows now task ∧ Heartbeating isHeartbeating task rows.store) ≤
          rows.store.tasks.rows.countP (fun task =>
            DetectedAsStuck isHeartbeating rows (now + 1000) task ∧
              ¬ CountedAsStuck rows now task) := by
  rw [← leases_upToASecond_iff, ← tasks_upToASecond_iff hdocumented honce]
  have hjobs := jobs_upToASecond hdocumented honce rows now
  constructor
  · intro h
    exact ⟨h.staleLeases, h.stuckTasks⟩
  · intro h
    refine ⟨h.1, hjobs, h.2, ?_⟩
    intro hsilent
    simp only [checkRecoveryStatus, gt_iff_lt, Bool.or_eq_false_iff, decide_eq_false_iff_not,
      Nat.not_lt, Nat.le_zero] at hsilent
    rcases hsilent with ⟨⟨hleases, horphaned⟩, hstuck⟩
    exact ⟨Nat.le_zero.mp (hleases ▸ h.1.1), Nat.le_zero.mp (horphaned ▸ hjobs.1),
      Nat.le_zero.mp (hstuck ▸ h.2.1)⟩

end

/-!
## A worker that fell silent before a restart
-/

def silentRows : StampedRows where
  store := Leasing.silentWorker
  jobs := Table.empty
  jobUpdatedAt := fun _ => 0
  taskUpdatedAt := fun _ => 0

theorem rowQueries_returnOnce (isHeartbeating : WorkerLeaseStatus -> Bool) :
    ReturnOnce (rowQueries isHeartbeating) where
  orphaned := fun rows _ _ => (List.Nodup.of_map Job.jobId rows.jobs.nodup).filter _
  stuck := fun rows _ => (List.filter_sublist.map _).nodup rows.store.tasks.nodup

/-- Before the worker falls silent the two agree. -/
theorem agreesWithSweep_silentRows :
    AgreesWithSweep (rowQueries (fun _ => false)) silentRows 100000 :=
  (agreesWithSweep_iff (rowQueries_documented _) (rowQueries_returnOnce _) silentRows
    100000).mpr ⟨by
      intro lease hlease
      rcases List.mem_singleton.mp hlease with rfl
      decide, by decide⟩

/-- A minute and a half later the sweep reclaims its lease, and the summary announces a
clean start. -/
theorem not_agreesWithSweep_silentRows :
    ¬ AgreesWithSweep (rowQueries (fun _ => false)) silentRows 200900 := by
  intro h
  have hone : detectedLeases silentRows (200900 - 1000) = 1 := by decide
  have hclean :
      (checkRecoveryStatus 200900 silentRows).needsRecovery = false := by decide
  rw [(h.silent hclean).1] at hone
  exact absurd hone (by decide)

end Recovery
end CopilotFactory
