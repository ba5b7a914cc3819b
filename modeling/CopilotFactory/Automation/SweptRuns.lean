import CopilotFactory.Application.ReconciliationSweep
import CopilotFactory.Automation.FailedDispatches

/-!
# Sweeps during a live run

While a worker runs, its dispatch job stays claimed and its task ASSIGNED.  A sweep fails
the job and puts the task back when their rows have not been written for long enough; it
never asks whether the worker still sends heartbeats.  A run comes through exactly the
sweeps that find its rows young.
-/

namespace CopilotFactory
namespace Automation

open Foundations
open Domain
open Infrastructure
open Application
open ControlPlane
open Leasing

/-!
## Rows and the queries of the sweep
-/

variable {s s' : Store}

/-- The tables that a sweep reads, with the columns `updated_at`. -/
structure StampedRows where
  store : Store
  jobs : JobTable
  jobUpdatedAt : JobId -> Seconds
  taskUpdatedAt : TaskId -> Seconds

namespace StampedRows

def commitStore (rows : StampedRows) (now : Millis) (s : Store) : StampedRows :=
  { rows with
    store := s
    taskUpdatedAt := fun taskId =>
      if s.findTask taskId = rows.store.findTask taskId then
        rows.taskUpdatedAt taskId
      else
        toColumn now }

def commitJobs (rows : StampedRows) (now : Millis) (jobs : JobTable) : StampedRows :=
  { rows with
    jobs := jobs
    jobUpdatedAt := fun jobId =>
      if jobs.find? jobId = rows.jobs.find? jobId then
        rows.jobUpdatedAt jobId
      else
        toColumn now }

end StampedRows

structure SweepQueries where
  findOrphanedJobs : StampedRows -> List JobStatus -> Millis -> List Job
  findStuckAssignedTasks : StampedRows -> Millis -> List TaskId

/-- The current lease of the task is in a status that counts as heartbeating. -/
def Heartbeating (isHeartbeating : WorkerLeaseStatus -> Bool) (task : Task) (s : Store) :
    Prop :=
  exists leaseId lease, task.currentLeaseId = some leaseId ∧
    s.findLease leaseId = some lease ∧ isHeartbeating lease.status = true

theorem heartbeating_iff {isHeartbeating : WorkerLeaseStatus -> Bool} {task : Task} :
    Heartbeating isHeartbeating task s <->
      (task.currentLeaseId.bind s.findLease).any (fun lease => isHeartbeating lease.status) =
        true := by
  unfold Heartbeating
  cases task.currentLeaseId with
  | none =>
      simp
  | some leaseId =>
      cases hlease : s.findLease leaseId with
      | none =>
          simp [hlease]
      | some lease =>
          simp [hlease]

instance (isHeartbeating : WorkerLeaseStatus -> Bool) (task : Task) (s : Store) :
    Decidable (Heartbeating isHeartbeating task s) :=
  decidable_of_iff _ heartbeating_iff.symm

/-- What the ports promise.  Which statuses count as heartbeating is left open, and
none may. -/
structure SweepQueries.Documented (queries : SweepQueries)
    (isHeartbeating : WorkerLeaseStatus -> Bool) : Prop where
  orphaned : forall rows statuses updatedBefore job,
    job ∈ queries.findOrphanedJobs rows statuses updatedBefore <->
      job ∈ rows.jobs ∧ job.status ∈ statuses ∧
        ofColumn (rows.jobUpdatedAt job.jobId) < updatedBefore
  stuck : forall rows updatedBefore taskId,
    taskId ∈ queries.findStuckAssignedTasks rows updatedBefore <->
      exists task, rows.store.findTask taskId = some task ∧ task.status = .assigned ∧
        ofColumn (rows.taskUpdatedAt taskId) < updatedBefore ∧
        ¬ Heartbeating isHeartbeating task rows.store

def rowQueries (isHeartbeating : WorkerLeaseStatus -> Bool) : SweepQueries where
  findOrphanedJobs := fun rows statuses updatedBefore =>
    rows.jobs.rows.filter (fun job =>
      job.status ∈ statuses ∧ ofColumn (rows.jobUpdatedAt job.jobId) < updatedBefore)
  findStuckAssignedTasks := fun rows updatedBefore =>
    (rows.store.tasks.rows.filter (fun task =>
      task.status = .assigned ∧
        ofColumn (rows.taskUpdatedAt task.taskId) < updatedBefore ∧
        ¬ Heartbeating isHeartbeating task rows.store)).map Task.taskId

theorem rowQueries_documented (isHeartbeating : WorkerLeaseStatus -> Bool) :
    (rowQueries isHeartbeating).Documented isHeartbeating where
  orphaned := by
    intro rows statuses updatedBefore job
    simp [rowQueries, Table.mem_def]
  stuck := by
    intro rows updatedBefore taskId
    simp only [rowQueries, List.mem_map, List.mem_filter, decide_eq_true_eq]
    constructor
    · intro h
      rcases h with ⟨task, ⟨hmem, hstatus, hold, hquiet⟩, hid⟩
      refine ⟨task, ?_, hstatus, hid ▸ hold, hquiet⟩
      rw [← hid]
      exact Table.find?_key_of_mem hmem
    · intro h
      rcases h with ⟨task, htask, hstatus, hold, hquiet⟩
      have hid : task.taskId = taskId := Store.taskId_of_findTask htask
      exact ⟨task, ⟨Table.mem_of_find? htask, hstatus, by rw [hid]; exact hold, hquiet⟩, hid⟩

/-!
## A run and the sweeps between its steps
-/

inductive RunStage where
  /-- The job is claimed and its worker is being prepared. -/
  | preparing
  | running
  /-- The worker has finished with success and has sent its terminal heartbeat. -/
  | settled
  /-- The dispatch has resolved as dispatched. -/
  | dispatched
  | developing
  /-- The result of the worker has been processed. -/
  | processed
  /-- The dispatch has thrown, has resolved as not dispatched, or its result was
  dropped. -/
  | failed
deriving DecidableEq

structure SweptRun where
  rows : StampedRows
  stage : RunStage

/-- The transactions of a successful run, and the parts of a sweep. -/
inductive RunEvent where
  | startWorker (now : Millis)
  | heartbeat (now : Millis)
  | settle (now : Millis)
  | completeJob (now : Millis)
  | beginDevelopment (now : Millis)
  | completeDevelopment (now : Millis)
  | sweepStaleLeases (now : Millis) (stalenessPolicy : StalenessPolicy)
  | sweepOrphanedJobs (now : Millis) (orphanedJobTimeoutMs : Millis)
  | sweepStuckTasks (now : Millis) (stuckTaskTimeoutMs : Millis)

def RunEvent.isSweep : RunEvent -> Bool
  | .sweepStaleLeases _ _ => true
  | .sweepOrphanedJobs _ _ => true
  | .sweepStuckTasks _ _ => true
  | _ => false

section Run

variable (queries : SweepQueries) (jobId : JobId) (payload : DispatchPayload)

def storeAfter {α : Type} (call : Store -> Except ServiceError (Store × α)) (s : Store) :
    Store :=
  match call s with
  | .ok (s', _) => s'
  | .error _ => s

/-- The handlers of a dispatch that throws: the lease is reclaimed and the job failed. -/
def failRun (now : Millis) (rows : StampedRows) : SweptRun :=
  let rows := rows.commitStore now
    (storeAfter (reclaimLease (supervisorReclaim payload.leaseId)) rows.store)
  match failJob jobId rows.jobs with
  | .ok (jobs, _) => { rows := rows.commitJobs now jobs, stage := .failed }
  | .error _ => { rows := rows, stage := .failed }

/-- Heartbeat errors are dropped. -/
def heartbeatStore (completing : Bool) (now : Millis) (s : Store) : Store :=
  storeAfter (receiveHeartbeat now
    { leaseId := payload.leaseId, completing := completing, actor := supervisorActor }) s

/-- The end of `processDispatch`: an error of `completeJob` is caught by the handler that
fails the job. -/
def completeRun (now : Millis) (rows : StampedRows) : SweptRun :=
  match completeJob jobId rows.jobs with
  | .ok (jobs, _) => { rows := rows.commitJobs now jobs, stage := .dispatched }
  | .error _ =>
      match failJob jobId rows.jobs with
      | .ok (jobs, _) => { rows := rows.commitJobs now jobs, stage := .failed }
      | .error _ => { rows := rows, stage := .failed }

def beginRun (now : Millis) (rows : StampedRows) : SweptRun :=
  match transitionTask payload.taskId .inDevelopment { hasHeartbeat := some true }
      automationActor rows.store with
  | .ok (s, _) => { rows := rows.commitStore now s, stage := .developing }
  | .error e =>
      -- an expected error still leads to the second transition
      if isExpected (.service e) then
        { rows := rows, stage := .developing }
      else
        { rows := rows, stage := .failed }

/-- One event.  A step of the run outside its stage does not happen. -/
def sweptStep (w : SweptRun) : RunEvent -> Except Unit SweptRun
  | .startWorker now => do
      ensure (w.stage = .preparing) ()
      match transitionLease payload.leaseId .starting { workerProcessSpawned := some true }
          automationActor w.rows.store with
      | .ok (s, _) => pure { rows := w.rows.commitStore now s, stage := .running }
      | .error _ => pure (failRun jobId payload now w.rows)
  | .heartbeat now => do
      ensure (w.stage = .running) ()
      pure { w with
        rows := w.rows.commitStore now (heartbeatStore payload false now w.rows.store) }
  | .settle now => do
      ensure (w.stage = .running) ()
      pure
        { rows := w.rows.commitStore now (heartbeatStore payload true now w.rows.store)
          stage := .settled }
  | .completeJob now => do
      ensure (w.stage = .settled) ()
      pure (completeRun jobId now w.rows)
  | .beginDevelopment now => do
      ensure (w.stage = .dispatched) ()
      pure (beginRun payload now w.rows)
  | .completeDevelopment now => do
      ensure (w.stage = .developing) ()
      pure
        { rows := w.rows.commitStore now
            (storeAfter (transitionTask payload.taskId .devComplete
              { hasDevResultPacket := some true, requiredValidationsPassed := some true }
              automationActor) w.rows.store)
          stage := .processed }
  | .sweepStaleLeases now stalenessPolicy =>
      .ok { w with
        rows := w.rows.commitStore now
          (sweepStaleLeases now stalenessPolicy w.rows.store).1 }
  | .sweepOrphanedJobs now orphanedJobTimeoutMs =>
      .ok { w with
        rows := w.rows.commitJobs now
          (sweepOrphanedJobs (queries.findOrphanedJobs w.rows orphanedJobStatuses
            (now - orphanedJobTimeoutMs)) w.rows.jobs).1 }
  | .sweepStuckTasks now stuckTaskTimeoutMs =>
      .ok { w with
        rows := w.rows.commitStore now
          (sweepStuckTasks (queries.findStuckAssignedTasks w.rows
            (now - stuckTaskTimeoutMs)) w.rows.store).1 }

def sweptRun : TransitionSystem SweptRun RunEvent Unit where
  step := sweptStep queries jobId payload

end Run

/-!
## What a sweep leaves alone
-/

def SameRows (payload : DispatchPayload) (s s' : Store) : Prop :=
  s'.findLease payload.leaseId = s.findLease payload.leaseId ∧
    s'.findTask payload.taskId = s.findTask payload.taskId

variable {payload : DispatchPayload} {jobId : JobId} {queries : SweepQueries}
  {isHeartbeating : WorkerLeaseStatus -> Bool}

theorem SameRows.refl (s : Store) : SameRows payload s s :=
  ⟨rfl, rfl⟩

theorem SameRows.trans {s'' : Store} (h : SameRows payload s s') (h' : SameRows payload s' s'') :
    SameRows payload s s'' :=
  ⟨h'.1.trans h.1, h'.2.trans h.2⟩

def Holds (payload : DispatchPayload) (s : Store) : Prop :=
  exists lease, s.findLease payload.leaseId = some lease ∧ lease.taskId = payload.taskId ∧
    Active lease.status

theorem Holds.of_sameRows (h : Holds payload s) (hsame : SameRows payload s s') :
    Holds payload s' := by
  rcases h with ⟨lease, hlease, htask, hactive⟩
  exact ⟨lease, hsame.1.trans hlease, htask, hactive⟩

/-- The reclaim of another lease is that of another task, since a task has one active
lease. -/
theorem sweepStaleLease_sameRows {info : StaleLeaseInfo} (hexclusive : ExclusiveLeases s)
    (hholds : Holds payload s) (hother : info.lease.leaseId ≠ payload.leaseId) :
    SameRows payload s (sweepStaleLease info s).1 ∧
      ExclusiveLeases (sweepStaleLease info s).1 := by
  unfold sweepStaleLease
  cases hreclaim : reclaimLease (sweepReclaimParams info) s with
  | error e =>
      exact ⟨SameRows.refl s, hexclusive⟩
  | ok r =>
      rcases r with ⟨s', result⟩
      have hstep : controlPlane.step s (.reclaimLease (sweepReclaimParams info)) =
          .ok s' :=
        committed_eq_ok.mpr ⟨result, hreclaim⟩
      refine ⟨⟨?_, ?_⟩, exclusiveLeases_preserved s _ s' trivial hexclusive hstep⟩
      · rcases reclaimLease_spec hreclaim with ⟨lease, _, hlease, _, _, hleases, _⟩
        exact (findLease_moved hlease hleases payload.leaseId).trans (if_neg hother.symm)
      · rcases reclaimLease_spec hreclaim with ⟨lease, task, hlease, hstatus, _, _, htasks⟩
        have htask : payload.taskId ≠ lease.taskId := by
          intro htask
          rcases hholds with ⟨held, hheld, hheldTask, hactive⟩
          have hreclaimable : Active lease.status := by
            simp only [reclaimableStates, List.mem_cons, List.not_mem_nil, or_false] at hstatus
            rcases hstatus with e | e | e <;> rw [e] <;> decide
          have hsame : held = lease :=
            oneActiveLease_of_exclusive hexclusive.2 held lease
              (Store.mem_of_findLease hheld) (Store.mem_of_findLease hlease)
              (hheldTask.trans htask) hactive hreclaimable
          have hid : lease.leaseId = info.lease.leaseId := Table.key_of_find? hlease
          have hheldId : held.leaseId = payload.leaseId := Table.key_of_find? hheld
          rw [hsame] at hheldId
          exact hother (hid.symm.trans hheldId)
        rcases htasks with ⟨_, htasks⟩ | ⟨_, htasks⟩
        · exact Store.findTask_of_tasks_eq htasks _
        · rw [Store.findTask_of_tasks_eq htasks, Store.findTask_writeTask_of_ne htask]

theorem sweepDetected_sameRows (infos : List StaleLeaseInfo) (hexclusive : ExclusiveLeases s)
    (hholds : Holds payload s)
    (hother : forall info, info ∈ infos -> info.lease.leaseId ≠ payload.leaseId) :
    SameRows payload s (sweepDetected infos s).1 ∧
      ExclusiveLeases (sweepDetected infos s).1 := by
  induction infos generalizing s with
  | nil =>
      exact ⟨SameRows.refl s, hexclusive⟩
  | cons info rest ih =>
      rcases sweepStaleLease_sameRows hexclusive hholds (hother info List.mem_cons_self) with
        ⟨hfirst, hexclusive'⟩
      rcases ih hexclusive' (hholds.of_sameRows hfirst)
        (fun i hi => hother i (List.mem_cons_of_mem info hi)) with ⟨hrest, hend⟩
      exact ⟨hfirst.trans hrest, hend⟩

theorem sweepStuckTask_sameRows {taskId : TaskId} (hexclusive : ExclusiveLeases s)
    (hother : taskId ≠ payload.taskId) :
    SameRows payload s (sweepStuckTask taskId s).1 ∧
      ExclusiveLeases (sweepStuckTask taskId s).1 := by
  unfold sweepStuckTask
  cases htransition : transitionTask taskId .ready stuckTaskContext sweepActor s with
  | error e =>
      exact ⟨SameRows.refl s, hexclusive⟩
  | ok r =>
      rcases r with ⟨s', event⟩
      have hstep : controlPlane.step s
          (.transitionTask taskId .ready stuckTaskContext sweepActor) = .ok s' :=
        committed_eq_ok.mpr ⟨event, htransition⟩
      refine ⟨⟨?_, ?_⟩, exclusiveLeases_preserved s _ s' trivial hexclusive hstep⟩
      · exact Store.findLease_of_leases_eq (transitionTask_taskLeases htransition) _
      · rcases transitionTask_eq_ok.mp htransition with ⟨_, _, _, hs', _⟩
        rw [hs', Store.appendAudit_findTask, Store.findTask_writeTask_of_ne hother.symm]

theorem sweepStuckTasks_sameRows (taskIds : List TaskId) (hexclusive : ExclusiveLeases s)
    (hother : forall taskId, taskId ∈ taskIds -> taskId ≠ payload.taskId) :
    SameRows payload s (sweepStuckTasks taskIds s).1 ∧
      ExclusiveLeases (sweepStuckTasks taskIds s).1 := by
  induction taskIds generalizing s with
  | nil =>
      exact ⟨SameRows.refl s, hexclusive⟩
  | cons taskId rest ih =>
      have hstep : SameRows payload s (sweepStuckTask taskId s).1 ∧
          ExclusiveLeases (sweepStuckTask taskId s).1 :=
        sweepStuckTask_sameRows hexclusive (hother taskId List.mem_cons_self)
      rcases hstep with ⟨hfirst, hexclusive'⟩
      rcases ih hexclusive' (fun i hi => hother i (List.mem_cons_of_mem taskId hi)) with
        ⟨hrest, hend⟩
      exact ⟨hfirst.trans hrest, hend⟩

/-!
## The sweeps that a run comes through
-/

/-- The start of the window in which the policy expects a heartbeat. -/
def heartbeatDeadline (now : Millis) (policy : StalenessPolicy) : Millis :=
  now - (policy.heartbeatIntervalSeconds * policy.missedHeartbeatThreshold +
    policy.gracePeriodSeconds) * 1000

/-- The run keeps sending heartbeats within its time to live: where a sweep looks for
stale leases, the lease has not expired, and after the first heartbeat the last one is in
the window. -/
def KeepsHeartbeating (payload : DispatchPayload) (w : SweptRun) : RunEvent -> Prop
  | .sweepStaleLeases now policy =>
      forall lease, w.rows.store.findLease payload.leaseId = some lease ->
        toColumn now ≤ lease.expiresAt ∧
          ((lease.status = .running ∨ lease.status = .heartbeating) ->
            toColumn (heartbeatDeadline now policy) ≤
              lease.heartbeatAt.getD lease.leasedAt)
  | _ => True

/-- The sweep finds the rows of the run young: its claimed job, its ASSIGNED task unless
the lease counts as heartbeating, and a lease that still waits for its first heartbeat. -/
def FindsYoung (isHeartbeating : WorkerLeaseStatus -> Bool) (jobId : JobId)
    (payload : DispatchPayload) (w : SweptRun) : RunEvent -> Prop
  | .sweepStaleLeases now policy =>
      forall lease, w.rows.store.findLease payload.leaseId = some lease ->
        lease.status = .starting ->
          toColumn (heartbeatDeadline now policy) ≤
            lease.heartbeatAt.getD lease.leasedAt
  | .sweepOrphanedJobs now orphanedJobTimeoutMs =>
      forall job, w.rows.jobs.find? jobId = some job -> job.status ∈ orphanedJobStatuses ->
        now - orphanedJobTimeoutMs ≤ ofColumn (w.rows.jobUpdatedAt jobId)
  | .sweepStuckTasks now stuckTaskTimeoutMs =>
      forall task, w.rows.store.findTask payload.taskId = some task ->
        task.status = .assigned -> ¬ Heartbeating isHeartbeating task w.rows.store ->
          now - stuckTaskTimeoutMs ≤ ofColumn (w.rows.taskUpdatedAt payload.taskId)
  | _ => True

def Undisturbed (jobId : JobId) (payload : DispatchPayload) (rows rows' : StampedRows) :
    Prop :=
  rows'.jobs.find? jobId = rows.jobs.find? jobId ∧
    SameRows payload rows.store rows'.store

variable {w : SweptRun}

theorem staleLeases_spared {now : Millis} {policy : StalenessPolicy}
    (hbeats : KeepsHeartbeating payload w (.sweepStaleLeases now policy))
    (hyoung : FindsYoung isHeartbeating jobId payload w (.sweepStaleLeases now policy))
    {info : StaleLeaseInfo} (hinfo : info ∈ detectStaleLeases now policy w.rows.store) :
    info.lease.leaseId ≠ payload.leaseId := by
  intro hid
  rcases List.mem_map.mp hinfo with ⟨lease, hlease, hrecord⟩
  have hsame : info.lease = lease := by
    rw [← hrecord]
    rfl
  rw [hsame] at hid
  rcases mem_findStaleLeases.mp hlease with ⟨hmem, hstale⟩
  have hfind : w.rows.store.findLease payload.leaseId = some lease := by
    rw [← hid]
    exact Table.find?_key_of_mem hmem
  rcases hbeats lease hfind with ⟨hexpires, hwindow⟩
  rcases hstale with ⟨hwatched, hlate⟩ | ⟨_, hexpired⟩
  · have hfresh : toColumn (heartbeatDeadline now policy) ≤
        lease.heartbeatAt.getD lease.leasedAt := by
      simp only [heartbeatWatchedStatuses, List.mem_cons, List.not_mem_nil,
        or_false] at hwatched
      rcases hwatched with hstatus | hstatus
      · exact hyoung lease hfind hstatus
      · exact hwindow hstatus
    exact absurd hlate (Int.not_lt.mpr hfresh)
  · exact absurd hexpired (Int.not_lt.mpr hexpires)

/-!
## A run that comes through
-/

def RunStage.jobStatus : RunStage -> JobStatus
  | .preparing => .claimed
  | .running => .claimed
  | .settled => .claimed
  | _ => .completed

def RunStage.taskStatus : RunStage -> TaskStatus
  | .developing => .inDevelopment
  | .processed => .devComplete
  | _ => .assigned

def RunStage.leaseStatuses : RunStage -> List WorkerLeaseStatus
  | .preparing => [.leased]
  | .running => heartbeatReceivableStates
  | _ => [.completing]

/-- The rows are those of a run that has come to its stage without being disturbed. -/
structure Underway (jobId : JobId) (payload : DispatchPayload) (w : SweptRun) : Prop where
  stage : w.stage ≠ .failed
  exclusive : ExclusiveLeases w.rows.store
  job : exists job, w.rows.jobs.find? jobId = some job ∧ job.status = w.stage.jobStatus
  task : exists task, w.rows.store.findTask payload.taskId = some task ∧
    task.status = w.stage.taskStatus
  lease : exists lease, w.rows.store.findLease payload.leaseId = some lease ∧
    lease.taskId = payload.taskId ∧ lease.status ∈ w.stage.leaseStatuses

variable {stage : RunStage}

theorem active_of_leaseStatuses {status : WorkerLeaseStatus} (h : status ∈ stage.leaseStatuses) :
    Active status := by
  have hall : forall stage : RunStage, forall status, status ∈ stage.leaseStatuses ->
      status ∈ Store.activeLeaseStatuses := by
    intro stage
    cases stage <;> decide
  exact hall stage status h

theorem Underway.holds (h : Underway jobId payload w) : Holds payload w.rows.store := by
  rcases h.lease with ⟨lease, hlease, htask, hstatus⟩
  exact ⟨lease, hlease, htask, active_of_leaseStatuses hstatus⟩

variable {w' : SweptRun}

theorem Underway.of_undisturbed (h : Underway jobId payload w) (hstage : w'.stage = w.stage)
    (hexclusive : ExclusiveLeases w'.rows.store)
    (hsame : Undisturbed jobId payload w.rows w'.rows) : Underway jobId payload w' := by
  rcases hsame with ⟨hjob, hlease, htask⟩
  exact
    { stage := hstage ▸ h.stage
      exclusive := hexclusive
      job := by rw [hjob, hstage]; exact h.job
      task := by rw [htask, hstage]; exact h.task
      lease := by rw [hlease, hstage]; exact h.lease }

variable {e : RunEvent}

/-- A sweep that finds the rows young leaves them alone. -/
theorem sweep_undisturbed (hqueries : queries.Documented isHeartbeating)
    (h : Underway jobId payload w) (hsweep : e.isSweep = true)
    (hbeats : KeepsHeartbeating payload w e)
    (hyoung : FindsYoung isHeartbeating jobId payload w e)
    (hstep : (sweptRun queries jobId payload).step w e = .ok w') :
    w'.stage = w.stage ∧ ExclusiveLeases w'.rows.store ∧
      Undisturbed jobId payload w.rows w'.rows := by
  cases e with
  | sweepStaleLeases now policy =>
      cases hstep
      have hswept := sweepDetected_sameRows (detectStaleLeases now policy w.rows.store)
        h.exclusive h.holds (fun info hinfo => staleLeases_spared hbeats hyoung hinfo)
      exact ⟨rfl, hswept.2, rfl, hswept.1⟩
  | sweepOrphanedJobs now orphanedJobTimeoutMs =>
      cases hstep
      refine ⟨rfl, h.exclusive, ?_, SameRows.refl _⟩
      apply sweepOrphanedJobs_find?
      intro orphan horphan hid
      rcases (hqueries.orphaned _ _ _ _).mp horphan with ⟨hmem, hstatus, hold⟩
      have hfind : w.rows.jobs.find? jobId = some orphan := by
        rw [← hid]
        exact Table.find?_key_of_mem hmem
      rw [hid] at hold
      exact absurd hold (Int.not_lt.mpr (hyoung orphan hfind hstatus))
  | sweepStuckTasks now stuckTaskTimeoutMs =>
      cases hstep
      have hswept : SameRows payload w.rows.store _ ∧ ExclusiveLeases _ :=
        sweepStuckTasks_sameRows
          (queries.findStuckAssignedTasks w.rows (now - stuckTaskTimeoutMs)) h.exclusive (by
            intro taskId htaskId hid
            rcases (hqueries.stuck _ _ _).mp htaskId with
              ⟨task, htask, hstatus, hold, hquiet⟩
            rw [hid] at htask hold
            exact absurd hold (Int.not_lt.mpr (hyoung task htask hstatus hquiet)))
      exact ⟨rfl, hswept.2, rfl, hswept.1⟩
  | _ =>
      cases hsweep

/-!
## The run's own steps
-/

def RunStage.after : RunStage -> RunEvent -> RunStage
  | .preparing, .startWorker _ => .running
  | .running, .settle _ => .settled
  | .settled, .completeJob _ => .dispatched
  | .dispatched, .beginDevelopment _ => .developing
  | .developing, .completeDevelopment _ => .processed
  | stage, _ => stage

theorem Underway.commitStore (h : Underway jobId payload w) {r : Request}
    (hstep : controlPlane.step w.rows.store r = .ok s') (now : Millis)
    (hstage : stage ≠ .failed) (hjob : stage.jobStatus = w.stage.jobStatus)
    (htask : exists task, s'.findTask payload.taskId = some task ∧ task.status = stage.taskStatus)
    (hlease : exists lease, s'.findLease payload.leaseId = some lease ∧
      lease.taskId = payload.taskId ∧ lease.status ∈ stage.leaseStatuses) :
    Underway jobId payload { rows := w.rows.commitStore now s', stage := stage } where
  stage := hstage
  exclusive := exclusiveLeases_preserved _ r s' trivial h.exclusive hstep
  job := by rw [hjob]; exact h.job
  task := htask
  lease := hlease

theorem startWorker_underway (h : Underway jobId payload w) (hstage : w.stage = .preparing)
    (now : Millis) :
    exists s event,
      transitionLease payload.leaseId .starting { workerProcessSpawned := some true }
        automationActor w.rows.store = .ok (s, event) ∧
      Underway jobId payload { rows := w.rows.commitStore now s, stage := .running } := by
  rcases h.lease with ⟨lease, hlease, htask, hstatus⟩
  rw [hstage] at hstatus
  have hvalid : validateWorkerLeaseTransition lease.status .starting
      { workerProcessSpawned := some true } = .valid := by
    rw [List.mem_singleton.mp hstatus]
    rfl
  have haccepted : exists s event, transitionLease payload.leaseId .starting
      { workerProcessSpawned := some true } automationActor w.rows.store = .ok (s, event) := by
    simp only [transitionLease, hlease, orThrow_some, ok_bind, hvalid, commitTransition,
      Store.updateLease_of_find hlease]
    exact ⟨_, _, rfl⟩
  rcases haccepted with ⟨s, event, hcall⟩
  refine ⟨s, event, hcall, ?_⟩
  have hstep : controlPlane.step w.rows.store
      (.transitionLease payload.leaseId .starting { workerProcessSpawned := some true }
        automationActor) = .ok s :=
    committed_eq_ok.mpr ⟨event, hcall⟩
  rcases transitionLease_spec hcall with ⟨lease', hlease', _, htasks, hleases⟩
  have hjobStatus : RunStage.running.jobStatus = w.stage.jobStatus := by
    rw [hstage]
    rfl
  apply h.commitStore hstep now (by decide) hjobStatus
  · rw [Store.findTask_of_tasks_eq htasks]
    have htaskOf := h.task
    rw [hstage] at htaskOf
    exact htaskOf
  · rw [hlease] at hlease'
    cases hlease'
    refine ⟨({ status := some .starting } : TaskLeaseUpdate).apply lease, ?_, htask, ?_⟩
    · rw [findLease_moved hlease hleases, if_pos rfl]
    · rw [TaskLeaseUpdate.apply_status]
      exact List.mem_cons_self

theorem heartbeat_underway (h : Underway jobId payload w) (hstage : w.stage = .running)
    (completing : Bool) (now : Millis)
    (htarget : forall status, status ∈ heartbeatReceivableStates ->
      computeTargetStatus status completing ∈ stage.leaseStatuses)
    (hnot : stage ≠ .failed) (hjob : stage.jobStatus = RunStage.running.jobStatus)
    (htask : stage.taskStatus = RunStage.running.taskStatus) :
    Underway jobId payload
      { rows := w.rows.commitStore now (heartbeatStore payload completing now w.rows.store)
        stage := stage } := by
  rcases h.lease with ⟨lease, hlease, hleaseTask, hstatus⟩
  rw [hstage] at hstatus
  have haccepted : exists r, receiveHeartbeat now
      { leaseId := payload.leaseId, completing := completing, actor := supervisorActor }
      w.rows.store = .ok r :=
    receiveHeartbeat_accepted_iff.mpr ⟨lease, hlease, hstatus⟩
  rcases haccepted with ⟨⟨s, result⟩, hcall⟩
  have hstore : heartbeatStore payload completing now w.rows.store = s := by
    unfold heartbeatStore storeAfter
    rw [hcall]
  rw [hstore]
  rcases receiveHeartbeat_spec hcall with ⟨lease', hlease', _, htasks, hleases⟩
  have hstep : controlPlane.step w.rows.store (.receiveHeartbeat now
      { leaseId := payload.leaseId, completing := completing, actor := supervisorActor }) =
      .ok s :=
    committed_eq_ok.mpr ⟨result, hcall⟩
  apply h.commitStore hstep now hnot (by rw [hjob, hstage])
  · rw [Store.findTask_of_tasks_eq htasks, htask, ← hstage]
    exact h.task
  · have hsame : lease = lease' := Option.some.inj (hlease.symm.trans hlease')
    refine ⟨(heartbeatUpdate now
      { leaseId := payload.leaseId, completing := completing, actor := supervisorActor }
      lease').apply lease', ?_, ?_, ?_⟩
    · exact (findLease_moved hlease' hleases _).trans (if_pos rfl)
    · rw [← hsame]
      exact hleaseTask
    · rw [TaskLeaseUpdate.apply_status, ← hsame]
      exact htarget lease.status hstatus

theorem completeRun_underway (h : Underway jobId payload w) (hstage : w.stage = .settled)
    (now : Millis) :
    Underway jobId payload (completeRun jobId now w.rows) ∧
      (completeRun jobId now w.rows).stage = .dispatched := by
  rcases h.job with ⟨job, hjob, hstatus⟩
  rw [hstage] at hstatus
  have haccepted : exists r, completeJob jobId w.rows.jobs = .ok r :=
    finishJob_of_claimed hjob hstatus
  rcases haccepted with ⟨⟨jobs, completed⟩, hcall⟩
  have hjobs := finishJob_spec hcall
  have hrun : completeRun jobId now w.rows =
      { rows := w.rows.commitJobs now jobs, stage := .dispatched } := by
    unfold completeRun
    rw [hcall]
  rw [hrun]
  refine ⟨?_, rfl⟩
  have htask := h.task
  have hlease := h.lease
  rw [hstage] at htask hlease
  exact
    { stage := by simp
      exclusive := h.exclusive
      job := by
        refine ⟨withStatus .completed job, ?_, rfl⟩
        show jobs.find? jobId = _
        rw [hjobs, Table.find?_modify_self, hjob]
        rfl
      task := htask
      lease := hlease }

theorem transition_underway (h : Underway jobId payload w) {target : TaskStatus}
    {context : TransitionContext}
    (hvalid : validateTransition w.stage.taskStatus target context = .valid)
    (hnot : stage ≠ .failed) (hjob : stage.jobStatus = w.stage.jobStatus)
    (htarget : target = stage.taskStatus)
    (hleases : stage.leaseStatuses = w.stage.leaseStatuses) (now : Millis) :
    exists s event,
      transitionTask payload.taskId target context automationActor w.rows.store =
        .ok (s, event) ∧
      Underway jobId payload { rows := w.rows.commitStore now s, stage := stage } := by
  rcases h.task with ⟨task, htask, hstatus⟩
  rw [← hstatus] at hvalid
  rcases transitionTask_accepts automationActor htask hvalid with ⟨s, event, hcall⟩
  refine ⟨s, event, hcall, ?_⟩
  have hstep : controlPlane.step w.rows.store
      (.transitionTask payload.taskId target context automationActor) = .ok s :=
    committed_eq_ok.mpr ⟨event, hcall⟩
  apply h.commitStore hstep now hnot hjob
  · rcases transitionTask_eq_ok.mp hcall with ⟨task', htask', _, hs, _⟩
    refine ⟨({ status := some target } : TaskUpdate).apply (task'.version + 1) task', ?_, ?_⟩
    · rw [hs, Store.appendAudit_findTask, Store.findTask_writeTask_self, htask']
      rfl
    · exact htarget
  · rw [hleases, Store.findLease_of_leases_eq (transitionTask_taskLeases hcall)]
    exact h.lease

/-- A step of the run that happens leads an undisturbed run to its next stage. -/
theorem runStep_underway (h : Underway jobId payload w) (hrun : e.isSweep = false)
    (hstep : (sweptRun queries jobId payload).step w e = .ok w') :
    Underway jobId payload w' ∧ w'.stage = w.stage.after e := by
  cases e with
  | startWorker now =>
      simp only [sweptRun, sweptStep, bind_eq_ok, ensure_eq_ok] at hstep
      rcases hstep with ⟨_, hstage, hstep⟩
      rcases startWorker_underway h hstage now with ⟨s, event, hcall, hunderway⟩
      rw [hcall] at hstep
      cases hstep
      rw [hstage]
      exact ⟨hunderway, rfl⟩
  | heartbeat now =>
      simp only [sweptRun, sweptStep, bind_eq_ok, ensure_eq_ok, pure_eq_ok] at hstep
      rcases hstep with ⟨_, hstage, hw'⟩
      rw [← hw', hstage]
      exact ⟨heartbeat_underway h hstage false now (by decide) (by decide) rfl rfl, rfl⟩
  | settle now =>
      simp only [sweptRun, sweptStep, bind_eq_ok, ensure_eq_ok, pure_eq_ok] at hstep
      rcases hstep with ⟨_, hstage, hw'⟩
      rw [← hw', hstage]
      exact ⟨heartbeat_underway h hstage true now (by decide) (by decide) rfl rfl, rfl⟩
  | completeJob now =>
      simp only [sweptRun, sweptStep, bind_eq_ok, ensure_eq_ok, pure_eq_ok] at hstep
      rcases hstep with ⟨_, hstage, hw'⟩
      rw [← hw', hstage]
      exact completeRun_underway h hstage now
  | beginDevelopment now =>
      simp only [sweptRun, sweptStep, bind_eq_ok, ensure_eq_ok, pure_eq_ok] at hstep
      rcases hstep with ⟨_, hstage, hw'⟩
      have hvalid : validateTransition w.stage.taskStatus .inDevelopment
          { hasHeartbeat := some true } = .valid := by
        rw [hstage]
        rfl
      rcases transition_underway h hvalid (by decide : RunStage.developing ≠ .failed)
        (by rw [hstage]; rfl) rfl (by rw [hstage]; rfl) now with ⟨s, event, hcall, hunderway⟩
      have hbegin : beginRun payload now w.rows =
          { rows := w.rows.commitStore now s, stage := .developing } := by
        unfold beginRun
        rw [hcall]
      rw [← hw', hbegin, hstage]
      exact ⟨hunderway, rfl⟩
  | completeDevelopment now =>
      simp only [sweptRun, sweptStep, bind_eq_ok, ensure_eq_ok, pure_eq_ok] at hstep
      rcases hstep with ⟨_, hstage, hw'⟩
      have hvalid : validateTransition w.stage.taskStatus .devComplete
          { hasDevResultPacket := some true, requiredValidationsPassed := some true } =
          .valid := by
        rw [hstage]
        rfl
      rcases transition_underway h hvalid (by decide : RunStage.processed ≠ .failed)
        (by rw [hstage]; rfl) rfl (by rw [hstage]; rfl) now with ⟨s, event, hcall, hunderway⟩
      have hstore : storeAfter (transitionTask payload.taskId .devComplete
          { hasDevResultPacket := some true, requiredValidationsPassed := some true }
          automationActor) w.rows.store = s := by
        unfold storeAfter
        rw [hcall]
      rw [← hw', hstore, hstage]
      exact ⟨hunderway, rfl⟩
  | _ =>
      cases hrun

/-!
## The whole run
-/

/-- What an event must find for the run to come through it. -/
def Spared (isHeartbeating : WorkerLeaseStatus -> Bool) (jobId : JobId)
    (payload : DispatchPayload) (w : SweptRun) (e : RunEvent) : Prop :=
  KeepsHeartbeating payload w e ∧ FindsYoung isHeartbeating jobId payload w e

theorem after_of_sweep (h : e.isSweep = true) (stage : RunStage) : stage.after e = stage := by
  cases e with
  | sweepStaleLeases now policy =>
      cases stage <;> rfl
  | sweepOrphanedJobs now timeout =>
      cases stage <;> rfl
  | sweepStuckTasks now timeout =>
      cases stage <;> rfl
  | _ =>
      cases h

theorem after_of_refused {u : Unit} (h : (sweptRun queries jobId payload).step w e = .error u) :
    w.stage.after e = w.stage := by
  cases e with
  | startWorker now | heartbeat now | settle now | completeJob now | beginDevelopment now
  | completeDevelopment now =>
      rcases bind_eq_error.mp h with hstage | ⟨_, _, hcommit⟩
      · -- only the stage of the step itself could lead on
        cases hw : w.stage <;> first | rfl | (rw [hw] at hstage; cases hstage)
      · first
          | cases hcommit
          | (split at hcommit <;> cases hcommit)
  | _ =>
      cases h

theorem next_underway (hqueries : queries.Documented isHeartbeating)
    (h : Underway jobId payload w) (hspared : Spared isHeartbeating jobId payload w e) :
    Underway jobId payload ((sweptRun queries jobId payload).next w e) ∧
      ((sweptRun queries jobId payload).next w e).stage = w.stage.after e := by
  cases hstep : (sweptRun queries jobId payload).step w e with
  | error u =>
      rw [TransitionSystem.next_of_error _ hstep]
      exact ⟨h, (after_of_refused hstep).symm⟩
  | ok w' =>
      rw [TransitionSystem.next_of_ok _ hstep]
      cases hsweep : e.isSweep with
      | false =>
          exact runStep_underway h hsweep hstep
      | true =>
          rcases sweep_undisturbed hqueries h hsweep hspared.1 hspared.2 hstep with
            ⟨hstage, hexclusive, hsame⟩
          rw [after_of_sweep hsweep]
          exact ⟨h.of_undisturbed hstage hexclusive hsame, hstage⟩

theorem stage_of_run (hqueries : queries.Documented isHeartbeating) {events : List RunEvent}
    (h : Underway jobId payload w)
    (hspared : forall x, x ∈ (sweptRun queries jobId payload).arrivals w events ->
      Spared isHeartbeating jobId payload x.1 x.2) :
    ((sweptRun queries jobId payload).run w events).stage =
      events.foldl RunStage.after w.stage := by
  induction events generalizing w with
  | nil =>
      rfl
  | cons e rest ih =>
      rcases next_underway hqueries h (hspared (w, e) List.mem_cons_self) with
        ⟨hnext, hstage⟩
      rw [TransitionSystem.run_cons, List.foldl_cons, ← hstage]
      exact ih hnext (fun x hx => hspared x (List.mem_cons_of_mem _ hx))

/-- The job has just been claimed, for a task that is ASSIGNED under the lease of the
job. -/
structure JustClaimed (jobId : JobId) (payload : DispatchPayload) (w : SweptRun) :
    Prop where
  stage : w.stage = .preparing
  store : exists requests, w.rows.store = controlPlane.run Store.empty requests
  job : exists job, w.rows.jobs.find? jobId = some job ∧ job.status = .claimed ∧
    job.payload = some payload
  task : exists task, w.rows.store.findTask payload.taskId = some task ∧
    task.status = .assigned ∧ task.currentLeaseId = some payload.leaseId
  lease : exists lease, w.rows.store.findLease payload.leaseId = some lease ∧
    lease.taskId = payload.taskId ∧ lease.status = .leased

theorem JustClaimed.underway (h : JustClaimed jobId payload w) : Underway jobId payload w := by
  rcases h.store with ⟨requests, hstore⟩
  rcases h.job with ⟨job, hjob, hjobStatus, _⟩
  rcases h.task with ⟨task, htask, htaskStatus, _⟩
  rcases h.lease with ⟨lease, hlease, hleaseTask, hleaseStatus⟩
  have hstage := h.stage
  exact
    { stage := by rw [hstage]; decide
      exclusive := by
        rw [hstore]
        exact exclusiveLeases_preserved.run (fun _ _ => trivial) exclusiveLeases_empty
      job := ⟨job, hjob, by rw [hjobStatus, hstage]; rfl⟩
      task := ⟨task, htask, by rw [htaskStatus, hstage]; rfl⟩
      lease := ⟨lease, hlease, hleaseTask, by
        rw [hleaseStatus, hstage]
        exact List.mem_singleton_self _⟩ }

def Live (payload : DispatchPayload) (s : Store) : Prop :=
  exists lease, s.findLease payload.leaseId = some lease ∧ lease.status ∈ ttlWatchedStatuses

/-- No sweep disturbs the job, the lease or the task while the lease is live.  Once all
steps of the run have been taken, the dispatch has resolved with its job COMPLETED, and
the result of the worker has advanced the task. -/
structure LiveWorkKept (queries : SweepQueries) (jobId : JobId) (payload : DispatchPayload)
    (w : SweptRun) (events : List RunEvent) : Prop where
  undisturbed : forall x, x ∈ (sweptRun queries jobId payload).arrivals w events ->
    x.2.isSweep = true -> Live payload x.1.rows.store ->
      Undisturbed jobId payload x.1.rows ((sweptRun queries jobId payload).next x.1 x.2).rows
  resolves : forall w', w' ∈ (sweptRun queries jobId payload).states w events ->
    w'.stage ≠ .failed
  finishes : events.foldl RunStage.after w.stage = .processed ->
    let last := (sweptRun queries jobId payload).run w events
    last.stage = .processed ∧
      (exists job, last.rows.jobs.find? jobId = some job ∧ job.status = .completed) ∧
      exists task, last.rows.store.findTask payload.taskId = some task ∧
        task.status = .devComplete

/-- A run comes through sweeps that all find its rows young. -/
theorem live_work_kept (hqueries : queries.Documented isHeartbeating) {w : SweptRun}
    (hclaimed : JustClaimed jobId payload w) (events : List RunEvent)
    (hbeats : forall x, x ∈ (sweptRun queries jobId payload).arrivals w events ->
      KeepsHeartbeating payload x.1 x.2)
    (hyoung : forall x, x ∈ (sweptRun queries jobId payload).arrivals w events ->
      FindsYoung isHeartbeating jobId payload x.1 x.2) :
    LiveWorkKept queries jobId payload w events := by
  have hstart := hclaimed.underway
  have hspared : forall x, x ∈ (sweptRun queries jobId payload).arrivals w events ->
      Spared isHeartbeating jobId payload x.1 x.2 :=
    fun x hx => ⟨hbeats x hx, hyoung x hx⟩
  have hstep : forall w e, Underway jobId payload w ->
      Spared isHeartbeating jobId payload w e ->
        Underway jobId payload ((sweptRun queries jobId payload).next w e) :=
    fun w e h hs => (next_underway hqueries h hs).1
  have hstage := stage_of_run hqueries hstart hspared
  have hall := TransitionSystem.run_of_arrivals hstep hstart hspared
  refine ⟨?_, ?_, ?_⟩
  · intro x hx hsweep _
    have hx' := hall.1 x hx
    cases hnext : (sweptRun queries jobId payload).step x.1 x.2 with
    | error u =>
        rw [TransitionSystem.next_of_error _ hnext]
        exact ⟨rfl, SameRows.refl _⟩
    | ok w' =>
        rw [TransitionSystem.next_of_ok _ hnext]
        exact (sweep_undisturbed hqueries hx' hsweep (hbeats x hx) (hyoung x hx) hnext).2.2
  · intro w' hw'
    exact (TransitionSystem.states_of_arrivals hstep hstart hspared w' hw').stage
  · intro hfinished
    rw [← hstage] at hfinished
    have hend := hall.2
    have hjob := hend.job
    have htask := hend.task
    rw [hfinished] at hjob htask
    exact ⟨hfinished, hjob, htask⟩

/-!
## Two runs of one job
-/

def watched (status : WorkerLeaseStatus) : Bool :=
  status ∈ heartbeatWatchedStatuses

def scheduledPayload : DispatchPayload :=
  dispatchPayload "lease-1" scheduledLease

def claimedRun : SweptRun where
  rows :=
    { store := scheduledStore
      jobs := Table.empty.insert (claimedJob "worker-dispatch" scheduledJob)
        (Table.find?_empty _)
      jobUpdatedAt := fun _ => 0
      taskUpdatedAt := fun _ => 0 }
  stage := .preparing

theorem claimedRun_justClaimed : JustClaimed "job-1" scheduledPayload claimedRun where
  stage := rfl
  store := ⟨_, rfl⟩
  job := ⟨_, rfl, rfl, rfl⟩
  task := ⟨_, rfl, rfl, rfl⟩
  lease := ⟨_, rfl, rfl, rfl⟩

def shortRun : List RunEvent :=
  [.startWorker 1000, .heartbeat 2000, .sweepOrphanedJobs 3000 600000,
    .sweepStuckTasks 3000 300000, .settle 4000, .completeJob 4000, .beginDevelopment 5000,
    .completeDevelopment 5000]

theorem shortRun_findsYoung :
    forall x, x ∈ (sweptRun (rowQueries watched) "job-1" scheduledPayload).arrivals
        claimedRun shortRun ->
      FindsYoung watched "job-1" scheduledPayload x.1 x.2 := by
  intro x hx
  simp only [shortRun, TransitionSystem.arrivals, List.mem_cons, List.not_mem_nil,
    or_false] at hx
  rcases hx with rfl | rfl | rfl | rfl | rfl | rfl | rfl | rfl
  · trivial
  · trivial
  · intro _ _ _
    decide +kernel
  · intro _ _ _ _
    decide +kernel
  all_goals trivial

theorem live_work_kept_shortRun :
    LiveWorkKept (rowQueries watched) "job-1" scheduledPayload claimedRun shortRun := by
  apply live_work_kept (rowQueries_documented watched) claimedRun_justClaimed shortRun
  · intro x hx
    have hkind : x.2 ∈ shortRun := TransitionSystem.mem_of_mem_arrivals _ hx
    simp only [shortRun, List.mem_cons, List.not_mem_nil, or_false] at hkind
    rcases hkind with h | h | h | h | h | h | h | h <;> rw [h] <;> trivial
  · exact shortRun_findsYoung

def longRun : List RunEvent :=
  .startWorker 1000 :: (List.range 11).map (fun minute => .heartbeat (60000 * minute + 2000))

/-- With the default timeouts, the eleventh minute of a run costs it its job. -/
theorem sweep_fails_live_job :
    ¬ forall (queries : SweepQueries) (isHeartbeating : WorkerLeaseStatus -> Bool)
        (jobId : JobId) (payload : DispatchPayload) (w : SweptRun)
        (events : List RunEvent),
      queries.Documented isHeartbeating -> JustClaimed jobId payload w ->
      (forall x, x ∈ (sweptRun queries jobId payload).arrivals w events ->
        KeepsHeartbeating payload x.1 x.2) ->
      LiveWorkKept queries jobId payload w events := by
  intro hclaim
  have hbeats : forall x, x ∈ (sweptRun (rowQueries watched) "job-1" scheduledPayload).arrivals
      claimedRun (longRun ++ [.sweepOrphanedJobs 605000 600000]) ->
      KeepsHeartbeating scheduledPayload x.1 x.2 := by
    intro x hx
    have hkind := TransitionSystem.mem_of_mem_arrivals _ hx
    simp only [longRun, List.mem_append, List.mem_cons, List.mem_map, List.not_mem_nil,
      or_false] at hkind
    rcases hkind with (h | ⟨minute, _, h⟩) | h
    · rw [h]
      trivial
    · rw [← h]
      trivial
    · rw [h]
      trivial
  have h := hclaim _ _ "job-1" scheduledPayload claimedRun _ (rowQueries_documented watched)
    claimedRun_justClaimed hbeats
  have hlive : Live scheduledPayload ((sweptRun (rowQueries watched) "job-1"
      scheduledPayload).run claimedRun longRun).rows.store := by
    refine ⟨_, rfl, ?_⟩
    decide +kernel
  have hsame := (h.undisturbed _ (TransitionSystem.mem_arrivals_append _ claimedRun longRun
    (.sweepOrphanedJobs 605000 600000) []) rfl hlive).1
  revert hsame
  decide +kernel

end Automation
end CopilotFactory
