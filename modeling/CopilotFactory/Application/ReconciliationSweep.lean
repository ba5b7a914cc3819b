import CopilotFactory.Application.HeartbeatService
import CopilotFactory.Application.JobQueueService
import CopilotFactory.Application.LeaseReclaimService
import CopilotFactory.Application.TransitionService

/-!
# Reconciliation sweep: stale leases, orphaned jobs and stuck tasks

The sweep detects the stale leases once and then reclaims them one by one.  After that
it fails the jobs that look orphaned, and it puts tasks that are stuck in ASSIGNED back to
READY.  Each reclaim, each failed job and each transition is its own transaction, and an
error of one is recorded and skipped.
-/

namespace CopilotFactory
namespace Application

open Foundations
open Domain
open Infrastructure

def sweepActor : ActorInfo where
  type := "system"
  id := "reconciliation-sweep"

def toReclaimReason (staleInfo : StaleLeaseInfo) : ReclaimReason :=
  if staleInfo.reason = .ttlExpired then .ttlExpired else .missedHeartbeats

structure StaleLeaseSweepAction where
  leaseId : LeaseId
  taskId : TaskId
  reason : ReclaimReason
  /-- The text of the error of a failed reclaim. -/
  error : Option String

def sweepReclaimParams (staleInfo : StaleLeaseInfo) : ReclaimLeaseParams where
  leaseId := staleInfo.lease.leaseId
  reason := toReclaimReason staleInfo
  retryPolicy := defaultRetryPolicy
  escalationPolicy := defaultEscalationPolicy
  actor := sweepActor

def sweepStaleLease (staleInfo : StaleLeaseInfo) (s : Store) :
    Store × StaleLeaseSweepAction :=
  match reclaimLease (sweepReclaimParams staleInfo) s with
  | .ok (s', _) =>
      (s',
        { leaseId := staleInfo.lease.leaseId
          taskId := staleInfo.lease.taskId
          reason := toReclaimReason staleInfo
          error := none })
  | .error e =>
      (s,
        { leaseId := staleInfo.lease.leaseId
          taskId := staleInfo.lease.taskId
          reason := toReclaimReason staleInfo
          error := some e.message })

/-- Reclaim the detected leases in order, collecting what was done. -/
def sweepDetected : List StaleLeaseInfo -> Store -> Store × List StaleLeaseSweepAction
  | [], s => (s, [])
  | staleInfo :: rest, s =>
      let (s₁, action) := sweepStaleLease staleInfo s
      let (s₂, actions) := sweepDetected rest s₁
      (s₂, action :: actions)

def sweepStaleLeases (now : Millis) (stalenessPolicy : StalenessPolicy) (s : Store) :
    Store × List StaleLeaseSweepAction :=
  sweepDetected (detectStaleLeases now stalenessPolicy s) s

theorem toReclaimReason_target (staleInfo : StaleLeaseInfo) :
    determineLeaseTargetState (toReclaimReason staleInfo) = .timedOut := by
  unfold toReclaimReason
  split <;> rfl

/-!
## Orphaned jobs
-/

def orphanedJobStatuses : List JobStatus :=
  [.claimed, .running]

structure OrphanedJobSweepAction where
  jobId : JobId
  jobType : JobType
  /-- The text of the error if the job could not be failed. -/
  error : Option String

def sweepOrphanedJob (orphan : Job) (jobs : JobTable) :
    JobTable × OrphanedJobSweepAction :=
  match failJob orphan.jobId jobs with
  | .ok (jobs', _) =>
      (jobs', { jobId := orphan.jobId, jobType := orphan.jobType, error := none })
  | .error e =>
      (jobs, { jobId := orphan.jobId, jobType := orphan.jobType, error := some e.message })

def sweepOrphanedJobs : List Job -> JobTable -> JobTable × List OrphanedJobSweepAction
  | [], jobs => (jobs, [])
  | orphan :: rest, jobs =>
      let (jobs₁, action) := sweepOrphanedJob orphan jobs
      let (jobs₂, actions) := sweepOrphanedJobs rest jobs₁
      (jobs₂, action :: actions)

theorem sweepOrphanedJobs_find? (orphans : List Job) (jobs : JobTable) {jobId : JobId}
    (h : forall orphan, orphan ∈ orphans -> orphan.jobId ≠ jobId) :
    (sweepOrphanedJobs orphans jobs).1.find? jobId = jobs.find? jobId := by
  induction orphans generalizing jobs with
  | nil =>
      rfl
  | cons orphan rest ih =>
      have hrest := ih (sweepOrphanedJob orphan jobs).1
        (fun other hother => h other (List.mem_cons_of_mem orphan hother))
      refine hrest.trans ?_
      unfold sweepOrphanedJob
      cases hfail : failJob orphan.jobId jobs with
      | error e =>
          rfl
      | ok r =>
          have hjobs := finishJob_spec hfail
          dsimp only
          rw [hjobs]
          exact Table.find?_modify_of_ne _ (h orphan List.mem_cons_self).symm

/-!
## Stuck tasks
-/

structure StuckTaskSweepAction where
  taskId : TaskId
  /-- The text of the error of a failed transition. -/
  error : Option String

/-- The sweep vouches for the retry: it asks no policy. -/
def stuckTaskContext : TransitionContext where
  leaseReclaimedRetryEligible := some true

def sweepStuckTask (taskId : TaskId) (s : Store) : Store × StuckTaskSweepAction :=
  match transitionTask taskId .ready stuckTaskContext sweepActor s with
  | .ok (s', _) => (s', { taskId := taskId, error := none })
  | .error e => (s, { taskId := taskId, error := some e.message })

def sweepStuckTasks : List TaskId -> Store -> Store × List StuckTaskSweepAction
  | [], s => (s, [])
  | taskId :: rest, s =>
      let (s₁, action) := sweepStuckTask taskId s
      let (s₂, actions) := sweepStuckTasks rest s₁
      (s₂, action :: actions)

end Application
end CopilotFactory
