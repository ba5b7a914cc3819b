import CopilotFactory.Application.GracefulCompletionService
import CopilotFactory.ControlPlane.Requests

/-!
# The audit trail of result submissions

Every submission of a result should be recorded, whether it is accepted or rejected.  A
rejection throws: the event of a result that comes too late is rolled back with its
transaction, and other rejections write none.
-/

namespace CopilotFactory
namespace Auditing

open Infrastructure
open Application
open ControlPlane

def TellsField (event : AuditEvent) (field : String) (value : AuditValue) : Prop :=
  exists fields, event.newState = some (.object fields) ∧ (field, value) ∈ fields

structure RecordsSubmission (params : AcceptResultParams)
    (outcome : Except ServiceError AcceptResultResult) (event : AuditEvent) : Prop where
  entity : event.entityType = "task-lease" ∧ event.entityId = params.leaseId
  actor : event.actorType = params.actor.type ∧ event.actorId = params.actor.id
  accepted : forall result, outcome = .ok result -> TellsField event "accepted" (.flag true)
  rejected : forall e, outcome = .error e ->
    exists reason, TellsField event "reason" (.text reason)

/-- After the call one more event is stored, and it records the submission.  A rejection
changes nothing else. -/
def SubmissionAudited (now : Millis) (params : AcceptResultParams) (s : Store) : Prop :=
  exists s' outcome event,
    writeTransaction (acceptResultBody now params) s = (s', outcome) ∧
    RecordsSubmission params outcome event ∧
    s'.auditEvents = s.auditEvents ++ [event] ∧
    forall e, outcome = .error e -> s' = s.appendAudit event

theorem acceptanceAudit_records (now : Millis) (params : AcceptResultParams)
    (lease : TaskLease) (result : AcceptResultResult) :
    RecordsSubmission params (.ok result) (acceptanceAudit now params lease) where
  entity := ⟨rfl, rfl⟩
  actor := ⟨rfl, rfl⟩
  accepted := by
    intro _ _
    exact ⟨_, rfl, List.mem_cons_self⟩
  rejected := by
    intro e he
    cases he

/-- The submission of a result for a stored lease is audited exactly if its worker holds
the lease, the lease is COMPLETING or TIMED_OUT, and its deadline has not passed. -/
theorem submission_audited_iff {now : Millis} {params : AcceptResultParams} {s : Store}
    {lease : TaskLease} (hlease : s.findLease params.leaseId = some lease) :
    SubmissionAudited now params s <-> Acceptable now params lease := by
  constructor
  · intro h
    rcases h with ⟨s', outcome, event, hcall, _, hevents, _⟩
    rw [writeTransaction_acceptResultBody] at hcall
    cases haccepted : acceptResult now params s with
    | ok r =>
        rcases acceptResult_accepted_iff.mp ⟨r, haccepted⟩ with ⟨found, hfound, hacceptable⟩
        rw [hlease] at hfound
        cases hfound
        exact hacceptable
    | error e =>
        -- A rejected call leaves the events as they were.
        rw [haccepted] at hcall
        cases hcall
        have hlength := congrArg List.length hevents
        simp at hlength
  · intro h
    let event := acceptanceAudit now params lease
    let result : AcceptResultResult :=
      { lease := lease
        lateAcceptance := lease.status = .timedOut
        auditEvent := event }
    have haccepted : acceptResult now params s = .ok (s.appendAudit event, result) :=
      acceptResult_eq_ok.mpr ⟨lease, hlease, h, rfl, rfl⟩
    refine ⟨s.appendAudit event, .ok result, event, ?_,
      acceptanceAudit_records now params lease result, ?_, ?_⟩
    · rw [writeTransaction_acceptResultBody, haccepted]
    · rfl
    · intro e he
      cases he

/-!
## A late submission

The completing heartbeat extends the expiry of the lease to 1215 seconds.  The result
comes after 1200 seconds, or only after 2000.
-/

def worker : ActorInfo where
  type := "worker"
  id := "worker-1"

def workUntilCompletion : List Request :=
  [.createWorkerPool { workerPoolId := "pool-1", maxConcurrency := 1 },
    .createTask
      { taskId := "task-1", repositoryId := "repo-1", taskType := "feature",
        priority := "high" },
    .transitionTask "task-1" .ready
      { allDependenciesResolved := some true, hasPolicyBlockers := some false } worker,
    .acquireLease 0 "lease-1"
      { taskId := "task-1", workerId := "worker-1", poolId := "pool-1", ttlSeconds := 600,
        actor := worker },
    .transitionLease "lease-1" .starting { workerProcessSpawned := some true } worker,
    .receiveHeartbeat 60000 { leaseId := "lease-1", actor := worker },
    .receiveHeartbeat 1200000
      { leaseId := "lease-1", completing := true, gracePeriodSeconds := some 15,
        actor := worker }]

def completedWork : Store :=
  controlPlane.run Store.empty workUntilCompletion

def completingLease : TaskLease where
  leaseId := "lease-1"
  taskId := "task-1"
  workerId := "worker-1"
  poolId := "pool-1"
  status := .completing
  leasedAt := 0
  expiresAt := 1215
  heartbeatAt := some 1200
  reclaimReason := none

def submission : AcceptResultParams where
  leaseId := "lease-1"
  workerId := "worker-1"
  gracePeriodSeconds := 15
  actor := worker

theorem findLease_completedWork :
    completedWork.findLease submission.leaseId = some completingLease := by
  decide +kernel

theorem submission_audited_in_time :
    SubmissionAudited 1200000 submission completedWork <->
      Acceptable 1200000 submission completingLease :=
  submission_audited_iff findLease_completedWork

theorem late_submission_not_audited :
    completedWork.findLease submission.leaseId = some completingLease ∧
      ¬ SubmissionAudited 2000000 submission completedWork := by
  refine ⟨findLease_completedWork, ?_⟩
  intro h
  rcases h with ⟨s', outcome, event, hcall, _, hevents, _⟩
  have hkept : (writeTransaction (acceptResultBody 2000000 submission)
      completedWork).1.auditEvents.length = completedWork.auditEvents.length := by
    decide +kernel
  rw [hcall, hevents] at hkept
  simp at hkept

end Auditing
end CopilotFactory
