import CopilotFactory.Infrastructure.Store

/-!
# Graceful completion service

A worker that has finished submits its result.  The lease manager accepts it up
to a deadline: the expiry of a COMPLETING lease, which the terminal heartbeat has
extended, and a grace period after the expiry of a lease that is TIMED_OUT.
-/

namespace CopilotFactory
namespace Application

open Foundations
open Domain
open Infrastructure

def resultAcceptingStates : List WorkerLeaseStatus :=
  [.completing, .timedOut]

structure AcceptResultParams where
  leaseId : LeaseId
  workerId : WorkerId
  gracePeriodSeconds : Int
  actor : ActorInfo

structure AcceptResultResult where
  lease : TaskLease
  lateAcceptance : Bool
  auditEvent : AuditEvent
deriving DecidableEq

def computeGraceDeadline (lease : TaskLease) (gracePeriodSeconds : Int) : Millis :=
  if lease.status = .completing then
    ofColumn lease.expiresAt
  else
    ofColumn lease.expiresAt + gracePeriodSeconds * 1000

def acceptanceAudit (now : Millis) (params : AcceptResultParams)
    (lease : TaskLease) : AuditEvent where
  entityType := "task-lease"
  entityId := params.leaseId
  eventType :=
    if lease.status = .timedOut then "lease.result-accepted-late"
    else "lease.result-accepted"
  actorType := params.actor.type
  actorId := params.actor.id
  oldState := some (.object
    [("status", .text lease.status.label),
      ("expiresAt", .date (ofColumn lease.expiresAt))])
  newState := some (.object
    [("accepted", .flag true),
      ("lateAcceptance", .flag (lease.status = .timedOut)),
      ("graceDeadline", .date (computeGraceDeadline lease params.gracePeriodSeconds)),
      ("receivedAt", .date now)])

/-- The audit event of a result that comes too late is rolled back with its transaction. -/
def acceptResult (now : Millis) (params : AcceptResultParams)
    (s : Store) : Except ServiceError (Store × AcceptResultResult) := do
  let lease ← orThrow (s.findLease params.leaseId)
    (.entityNotFound "TaskLease" params.leaseId)
  ensure (lease.workerId = params.workerId)
    (.workerMismatch params.leaseId lease.workerId params.workerId)
  ensure (lease.status ∈ resultAcceptingStates)
    (.leaseNotAcceptingResults params.leaseId lease.status.label)
  let graceDeadline := computeGraceDeadline lease params.gracePeriodSeconds
  ensure (now ≤ graceDeadline) (.gracePeriodExpired params.leaseId graceDeadline now)
  let auditEvent := acceptanceAudit now params lease
  pure (s.appendAudit auditEvent,
    { lease := lease
      lateAcceptance := lease.status = .timedOut
      auditEvent := auditEvent })

/-- The lease is held by the worker, accepts results, and its deadline has not passed. -/
structure Acceptable (now : Millis) (params : AcceptResultParams)
    (lease : TaskLease) : Prop where
  holder : lease.workerId = params.workerId
  accepting : lease.status ∈ resultAcceptingStates
  inTime : now ≤ computeGraceDeadline lease params.gracePeriodSeconds

/-- A result is accepted on account of its lease and the clock alone, and only recorded. -/
theorem acceptResult_eq_ok {now : Millis} {params : AcceptResultParams} {s s' : Store}
    {result : AcceptResultResult} :
    acceptResult now params s = .ok (s', result) <->
      exists lease, s.findLease params.leaseId = some lease ∧ Acceptable now params lease ∧
        s' = s.appendAudit (acceptanceAudit now params lease) ∧
        result =
          { lease := lease
            lateAcceptance := lease.status = .timedOut
            auditEvent := acceptanceAudit now params lease } := by
  simp only [acceptResult, bind_eq_ok, orThrow_eq_ok, ensure_eq_ok, pure_eq_ok,
    Prod.mk.injEq]
  constructor
  · intro h
    rcases h with ⟨lease, hlease, _, hholder, _, haccepting, _, hinTime, hs', hresult⟩
    exact ⟨lease, hlease, ⟨hholder, haccepting, hinTime⟩, hs'.symm, hresult.symm⟩
  · intro h
    rcases h with ⟨lease, hlease, ⟨hholder, haccepting, hinTime⟩, hs', hresult⟩
    exact ⟨lease, hlease, (), hholder, (), haccepting, (), hinTime, hs'.symm, hresult.symm⟩

theorem acceptResult_accepted_iff {now : Millis} {params : AcceptResultParams}
    {s : Store} :
    (exists r, acceptResult now params s = .ok r) <->
      exists lease, s.findLease params.leaseId = some lease ∧
        Acceptable now params lease := by
  constructor
  · intro h
    rcases h with ⟨⟨s', result⟩, h⟩
    rcases acceptResult_eq_ok.mp h with ⟨lease, hlease, hacceptable, _⟩
    exact ⟨lease, hlease, hacceptable⟩
  · intro h
    rcases h with ⟨lease, hlease, hacceptable⟩
    exact ⟨_, acceptResult_eq_ok.mpr ⟨lease, hlease, hacceptable, rfl, rfl⟩⟩

/-!
## The transaction with its writes

A result that comes too late is recorded and the error is thrown then, in one write
transaction.  What the body of a transaction has written counts only if it returns.
-/

abbrev TransactionBody (α : Type) : Type :=
  Store -> Store × Except ServiceError α

/-- The store after a write transaction: a body that throws is rolled back. -/
def writeTransaction {α : Type} (body : TransactionBody α) : TransactionBody α := fun s =>
  match body s with
  | (s', .ok a) => (s', .ok a)
  | (_, .error e) => (s, .error e)

def rejectionAudit (now : Millis) (params : AcceptResultParams)
    (lease : TaskLease) : AuditEvent where
  entityType := "task-lease"
  entityId := params.leaseId
  eventType := "lease.result-rejected"
  actorType := params.actor.type
  actorId := params.actor.id
  oldState := some (.object
    [("status", .text lease.status.label),
      ("expiresAt", .date (ofColumn lease.expiresAt))])
  newState := some (.object
    [("graceDeadline", .date (computeGraceDeadline lease params.gracePeriodSeconds)),
      ("receivedAt", .date now),
      ("reason", .text "grace_period_expired")])

def acceptResultBody (now : Millis) (params : AcceptResultParams) :
    TransactionBody AcceptResultResult := fun s =>
  match s.findLease params.leaseId with
  | none => (s, .error (.entityNotFound "TaskLease" params.leaseId))
  | some lease =>
      if lease.workerId ≠ params.workerId then
        (s, .error (.workerMismatch params.leaseId lease.workerId params.workerId))
      else if lease.status ∉ resultAcceptingStates then
        (s, .error (.leaseNotAcceptingResults params.leaseId lease.status.label))
      else
        let graceDeadline := computeGraceDeadline lease params.gracePeriodSeconds
        if now > graceDeadline then
          (s.appendAudit (rejectionAudit now params lease),
            .error (.gracePeriodExpired params.leaseId graceDeadline now))
        else
          let auditEvent := acceptanceAudit now params lease
          (s.appendAudit auditEvent,
            .ok
              { lease := lease
                lateAcceptance := lease.status = .timedOut
                auditEvent := auditEvent })

theorem writeTransaction_acceptResultBody (now : Millis) (params : AcceptResultParams)
    (s : Store) :
    writeTransaction (acceptResultBody now params) s =
      match acceptResult now params s with
      | .ok (s', result) => (s', .ok result)
      | .error e => (s, .error e) := by
  unfold writeTransaction acceptResultBody acceptResult
  cases hlease : s.findLease params.leaseId with
  | none =>
      rfl
  | some lease =>
      rw [orThrow_some, ok_bind]
      by_cases hholder : lease.workerId = params.workerId
      · by_cases haccepting : lease.status ∈ resultAcceptingStates
        · by_cases hinTime : now ≤ computeGraceDeadline lease params.gracePeriodSeconds
          · simp [hholder, haccepting, hinTime, ensure_of, Int.not_lt.mpr hinTime, pure,
              Except.pure]
          · simp [hholder, haccepting, hinTime, ensure_of, ensure_of_not,
              Int.not_le.mp hinTime]
        · simp [hholder, haccepting, ensure_of, ensure_of_not]
      · simp [hholder, ensure_of_not]

end Application
end CopilotFactory
