import CopilotFactory.Infrastructure.Store

/-!
# Heartbeats and staleness

A worker that holds a lease sends heartbeats.  The first moves the lease to
RUNNING, later ones to HEARTBEATING, and a terminal one to COMPLETING.  A lease
whose heartbeats are overdue, or whose time to live has passed, is stale.
-/

namespace CopilotFactory
namespace Application

open Foundations
open Domain
open Infrastructure

variable {now : Millis} {s : Store}

def heartbeatReceivableStates : List WorkerLeaseStatus :=
  [.starting, .running, .heartbeating]

structure ReceiveHeartbeatParams where
  leaseId : LeaseId
  completing : Bool := false
  gracePeriodSeconds : Option Int := none
  actor : ActorInfo

structure ReceiveHeartbeatResult where
  lease : TaskLease
  previousStatus : WorkerLeaseStatus
  auditEvent : AuditEvent

def computeTargetStatus (currentStatus : WorkerLeaseStatus)
    (completing : Bool) : WorkerLeaseStatus :=
  if completing then
    .completing
  else
    match currentStatus with
    | .starting => .running
    | .running => .heartbeating
    | .heartbeating => .heartbeating
    | _ => currentStatus

def buildTransitionContext
    (currentStatus targetStatus : WorkerLeaseStatus) : WorkerLeaseTransitionContext :=
  if targetStatus = .completing then
    { completionSignalReceived := some true }
  else if currentStatus = .starting ∧ targetStatus = .running then
    { firstHeartbeatReceived := some true }
  else
    { heartbeatReceived := some true }

/-- The extended expiry of a terminal heartbeat with a positive grace period. -/
def graceExpiry (now expiresAt : Millis) (completing : Bool)
    (gracePeriodSeconds : Option Int) : Option Millis :=
  match gracePeriodSeconds with
  | none => none
  | some grace =>
      if completing = true ∧ grace > 0 then
        let graceDeadline := now + grace * 1000
        some (if graceDeadline > expiresAt then graceDeadline else expiresAt)
      else
        none

/-- The date that a nullable timestamp column is read back as. -/
def auditDate (stored : Option Seconds) : AuditValue :=
  match stored with
  | some t => .date (ofColumn t)
  | none => .null

def heartbeatUpdate (now : Millis) (params : ReceiveHeartbeatParams)
    (lease : TaskLease) : TaskLeaseUpdate where
  status := some (computeTargetStatus lease.status params.completing)
  heartbeatAt := some (toColumn now)
  expiresAt :=
    (graceExpiry now (ofColumn lease.expiresAt) params.completing
      params.gracePeriodSeconds).map toColumn

def auditHeartbeat (lease : TaskLease) : AuditState :=
  .object
    [("status", .text lease.status.label),
      ("heartbeatAt", auditDate lease.heartbeatAt),
      ("expiresAt", .date (ofColumn lease.expiresAt))]

def receiveHeartbeat (now : Millis) (params : ReceiveHeartbeatParams)
    (s : Store) : Except ServiceError (Store × ReceiveHeartbeatResult) := do
  let lease ← orThrow (s.findLease params.leaseId)
    (.entityNotFound "TaskLease" params.leaseId)
  ensure (lease.status ∈ heartbeatReceivableStates)
    (.leaseNotActive params.leaseId lease.status.label)
  let targetStatus := computeTargetStatus lease.status params.completing
  commitTransition "TaskLease" params.leaseId lease.status.label targetStatus.label
    (validateWorkerLeaseTransition lease.status targetStatus
      (buildTransitionContext lease.status targetStatus))
  let s₁ ← s.updateLease params.leaseId lease.status (heartbeatUpdate now params lease)
  let updatedLease := (heartbeatUpdate now params lease).apply lease
  let auditEvent : AuditEvent :=
    { entityType := "task-lease"
      entityId := params.leaseId
      eventType := if params.completing then "lease.completing" else "lease.heartbeat"
      actorType := params.actor.type
      actorId := params.actor.id
      oldState := some (auditHeartbeat lease)
      newState := some (auditHeartbeat updatedLease) }
  pure (s₁.appendAudit auditEvent,
    { lease := updatedLease, previousStatus := lease.status, auditEvent := auditEvent })

/-!
## What a heartbeat does
-/

theorem validate_heartbeat {status : WorkerLeaseStatus}
    (h : status ∈ heartbeatReceivableStates) (completing : Bool) :
    validateWorkerLeaseTransition status (computeTargetStatus status completing)
      (buildTransitionContext status (computeTargetStatus status completing)) =
        .valid := by
  simp only [heartbeatReceivableStates, List.mem_cons, List.not_mem_nil, or_false] at h
  rcases h with rfl | rfl | rfl <;> cases completing <;> rfl

theorem receiveHeartbeat_spec {params : ReceiveHeartbeatParams} {s' : Store}
    {result : ReceiveHeartbeatResult} (h : receiveHeartbeat now params s = .ok (s', result)) :
    exists lease,
      s.findLease params.leaseId = some lease ∧
      lease.status ∈ heartbeatReceivableStates ∧
      s'.tasks = s.tasks ∧
      s'.taskLeases =
        (s.writeLease params.leaseId (heartbeatUpdate now params lease)).taskLeases := by
  simp only [receiveHeartbeat, bind_eq_ok, orThrow_eq_ok, ensure_eq_ok,
    commitTransition_eq_ok, pure_eq_ok, Prod.mk.injEq] at h
  rcases h with ⟨lease, hlease, _, hstatus, _, _, s₁, hupdate, hs', _⟩
  rw [Store.updateLease_of_find hlease] at hupdate
  cases hupdate
  refine ⟨lease, hlease, hstatus, ?_, ?_⟩
  · rw [← hs']
    rfl
  · rw [← hs']
    rfl

theorem receiveHeartbeat_accepted_iff {params : ReceiveHeartbeatParams} :
    (exists r, receiveHeartbeat now params s = .ok r) <->
      exists lease, s.findLease params.leaseId = some lease ∧
        lease.status ∈ heartbeatReceivableStates := by
  constructor
  · intro h
    rcases h with ⟨⟨s', result⟩, h⟩
    rcases receiveHeartbeat_spec h with ⟨lease, hlease, hstatus, _⟩
    exact ⟨lease, hlease, hstatus⟩
  · intro h
    rcases h with ⟨lease, hlease, hstatus⟩
    simp only [receiveHeartbeat, hlease, orThrow_some, ok_bind, ensure_of hstatus,
      validate_heartbeat hstatus, commitTransition, Store.updateLease_of_find hlease]
    exact ⟨_, rfl⟩

/-!
## Staleness
-/

structure StalenessPolicy where
  heartbeatIntervalSeconds : Int
  missedHeartbeatThreshold : Int
  gracePeriodSeconds : Int

inductive StalenessReason where
  | missedHeartbeats
  | ttlExpired
deriving DecidableEq

structure StaleLeaseInfo where
  lease : TaskLease
  reason : StalenessReason
deriving DecidableEq

def heartbeatWatchedStatuses : List WorkerLeaseStatus :=
  [.starting, .running, .heartbeating]

def ttlWatchedStatuses : List WorkerLeaseStatus :=
  [.leased, .starting, .running, .heartbeating]

/-- The UNION of the two staleness queries: overdue heartbeats and passed expiry.  A row
that both queries return is returned once. -/
def findStaleLeases (heartbeatDeadline ttlDeadline : Millis) (s : Store) :
    List TaskLease :=
  let heartbeatDeadlineSec := toColumn heartbeatDeadline
  let ttlDeadlineSec := toColumn ttlDeadline
  s.taskLeases.rows.filter (fun lease =>
    (lease.status ∈ heartbeatWatchedStatuses ∧
        lease.heartbeatAt.getD lease.leasedAt < heartbeatDeadlineSec) ∨
      (lease.status ∈ ttlWatchedStatuses ∧ lease.expiresAt < ttlDeadlineSec))

def classifyStaleRecord (now : Millis) (record : TaskLease) : StaleLeaseInfo where
  lease := record
  reason := if ofColumn record.expiresAt < now then .ttlExpired else .missedHeartbeats

def detectStaleLeases (now : Millis) (policy : StalenessPolicy) (s : Store) :
    List StaleLeaseInfo :=
  let stalenessWindowMs :=
    (policy.heartbeatIntervalSeconds * policy.missedHeartbeatThreshold +
      policy.gracePeriodSeconds) * 1000
  let heartbeatDeadline := now - stalenessWindowMs
  (findStaleLeases heartbeatDeadline now s).map (classifyStaleRecord now)

theorem mem_findStaleLeases {heartbeatDeadline ttlDeadline : Millis} {lease : TaskLease} :
    lease ∈ findStaleLeases heartbeatDeadline ttlDeadline s <->
      lease ∈ s.taskLeases ∧
        ((lease.status ∈ heartbeatWatchedStatuses ∧
            lease.heartbeatAt.getD lease.leasedAt < toColumn heartbeatDeadline) ∨
          (lease.status ∈ ttlWatchedStatuses ∧
            lease.expiresAt < toColumn ttlDeadline)) := by
  simp [findStaleLeases, Table.mem_def]

theorem mem_detectStaleLeases {policy : StalenessPolicy} {info : StaleLeaseInfo}
    (h : info ∈ detectStaleLeases now policy s) :
    info.lease ∈ s.taskLeases ∧ info.lease.status ∈ ttlWatchedStatuses := by
  rcases List.mem_map.mp h with ⟨lease, hlease, hinfo⟩
  rw [← hinfo]
  rcases mem_findStaleLeases.mp hlease with ⟨hmem, hstale⟩
  rcases hstale with ⟨hwatched, _⟩ | ⟨hwatched, _⟩
  · exact ⟨hmem, List.mem_cons_of_mem _ hwatched⟩
  · exact ⟨hmem, hwatched⟩

end Application
end CopilotFactory
