import CopilotFactory.Application.HeartbeatService
import Mathlib.Data.List.Dedup

/-!
# Detection up to one second

A lease is written with dates in milliseconds and stored in whole seconds, and
the deadlines of a detection are floored to seconds too.  Neither loses more
than a second: what is overdue by a second is reported, once, and what is
reported is overdue.
-/

namespace CopilotFactory
namespace Leasing

open Foundations
open Infrastructure
open Application

/-!
## The two queries
-/

variable {lease : TaskLease} {now : Millis} {s : Store}

def heartbeatQuery (heartbeatDeadlineSec : Seconds) (s : Store) : List TaskLease :=
  s.taskLeases.rows.filter (fun lease =>
    lease.status ∈ heartbeatWatchedStatuses ∧
      lease.heartbeatAt.getD lease.leasedAt < heartbeatDeadlineSec)

def ttlQuery (ttlDeadlineSec : Seconds) (s : Store) : List TaskLease :=
  s.taskLeases.rows.filter (fun lease =>
    lease.status ∈ ttlWatchedStatuses ∧ lease.expiresAt < ttlDeadlineSec)

/-- The UNION of two results: a row that is in both is returned once. -/
def unionOf (rows rows' : List TaskLease) : List TaskLease :=
  (rows ++ rows').dedup

theorem findStaleLeases_nodup (heartbeatDeadline ttlDeadline : Millis) (s : Store) :
    ((findStaleLeases heartbeatDeadline ttlDeadline s).map TaskLease.leaseId).Nodup := by
  have hsub :
      ((findStaleLeases heartbeatDeadline ttlDeadline s).map TaskLease.leaseId).Sublist
        (s.taskLeases.rows.map TaskLease.leaseId) :=
    List.Sublist.map _ List.filter_sublist
  exact s.taskLeases.nodup.sublist hsub

/-- One pass over the table returns the rows of the UNION. -/
theorem findStaleLeases_perm_union (heartbeatDeadline ttlDeadline : Millis) (s : Store) :
    (findStaleLeases heartbeatDeadline ttlDeadline s).Perm
      (unionOf (heartbeatQuery (toColumn heartbeatDeadline) s)
        (ttlQuery (toColumn ttlDeadline) s)) := by
  have hnodup : (findStaleLeases heartbeatDeadline ttlDeadline s).Nodup :=
    List.Nodup.of_map _ (findStaleLeases_nodup heartbeatDeadline ttlDeadline s)
  refine (List.perm_ext_iff_of_nodup hnodup (List.nodup_dedup _)).mpr ?_
  intro lease
  rw [List.mem_dedup, List.mem_append, mem_findStaleLeases, Table.mem_def]
  simp only [heartbeatQuery, ttlQuery, List.mem_filter, decide_eq_true_eq]
  exact and_or_left

/-!
## Dates in milliseconds
-/

structure LeaseDates where
  leasedAt : Millis
  heartbeatAt : Option Millis
  expiresAt : Millis

variable {dates : LeaseDates}

namespace LeaseDates

structure StoredIn (dates : LeaseDates) (lease : TaskLease) : Prop where
  leasedAt : lease.leasedAt = toColumn dates.leasedAt
  heartbeatAt : lease.heartbeatAt = dates.heartbeatAt.map toColumn
  expiresAt : lease.expiresAt = toColumn dates.expiresAt

/-- How long ago the worker was last heard of, or the lease was handed out. -/
def silentFor (dates : LeaseDates) (now : Millis) : Millis :=
  now - dates.heartbeatAt.getD dates.leasedAt

def expiredFor (dates : LeaseDates) (now : Millis) : Millis :=
  now - dates.expiresAt

theorem StoredIn.lastHeartbeat (h : dates.StoredIn lease) :
    lease.heartbeatAt.getD lease.leasedAt =
      toColumn (dates.heartbeatAt.getD dates.leasedAt) := by
  rw [h.heartbeatAt, h.leasedAt]
  cases dates.heartbeatAt with
  | none => rfl
  | some heartbeatAt => rfl

end LeaseDates

def stalenessWindow (policy : StalenessPolicy) : Millis :=
  (policy.heartbeatIntervalSeconds * policy.missedHeartbeatThreshold +
    policy.gracePeriodSeconds) * 1000

def ReportedOnce (report : List StaleLeaseInfo) (lease : TaskLease) : Prop :=
  report.countP (fun info => info.lease.leaseId = lease.leaseId) = 1 ∧
    exists info, info ∈ report ∧ info.lease = lease

/-!
## What truncation keeps of an order
-/

theorem lt_of_toColumn_lt {date deadline : Millis} (h : toColumn date < toColumn deadline) :
    date < deadline := by
  unfold toColumn at h
  lia

theorem toColumn_lt_of_second {date deadline : Millis} (h : date + 1000 ≤ deadline) :
    toColumn date < toColumn deadline := by
  unfold toColumn
  lia

/-!
## The report
-/

theorem mem_detectStaleLeases_iff {policy : StalenessPolicy} {info : StaleLeaseInfo} :
    info ∈ detectStaleLeases now policy s <->
      info = classifyStaleRecord now info.lease ∧
        info.lease ∈ findStaleLeases (now - stalenessWindow policy) now s := by
  constructor
  · intro h
    rcases List.mem_map.mp h with ⟨lease, hlease, rfl⟩
    exact ⟨rfl, hlease⟩
  · intro h
    rw [h.1]
    exact List.mem_map_of_mem h.2

theorem reportedOnce_of_found {policy : StalenessPolicy}
    (h : lease ∈ findStaleLeases (now - stalenessWindow policy) now s) :
    ReportedOnce (detectStaleLeases now policy s) lease := by
  refine ⟨?_, classifyStaleRecord now lease,
    mem_detectStaleLeases_iff.mpr ⟨rfl, h⟩, rfl⟩
  have hids : (detectStaleLeases now policy s).map (fun info => info.lease.leaseId) =
      (findStaleLeases (now - stalenessWindow policy) now s).map TaskLease.leaseId := by
    unfold detectStaleLeases
    rw [List.map_map]
    rfl
  have hcount :
      ((detectStaleLeases now policy s).map (fun info => info.lease.leaseId)).count
        lease.leaseId = 1 := by
    rw [hids]
    exact List.count_eq_one_of_mem (findStaleLeases_nodup _ _ s) (List.mem_map_of_mem h)
  rw [List.count, List.countP_map] at hcount
  rw [← hcount]
  exact List.countP_congr (fun info _ => by simp)

theorem found_of_silent {policy : StalenessPolicy} (hlease : lease ∈ s.taskLeases)
    (hdates : dates.StoredIn lease) (hstatus : lease.status ∈ heartbeatWatchedStatuses)
    (hsilent : stalenessWindow policy + 1000 ≤ dates.silentFor now) :
    lease ∈ findStaleLeases (now - stalenessWindow policy) now s := by
  refine mem_findStaleLeases.mpr ⟨hlease, Or.inl ⟨hstatus, ?_⟩⟩
  rw [hdates.lastHeartbeat]
  apply toColumn_lt_of_second
  unfold LeaseDates.silentFor at hsilent
  lia

theorem found_of_expired {policy : StalenessPolicy} (hlease : lease ∈ s.taskLeases)
    (hdates : dates.StoredIn lease) (hstatus : lease.status ∈ ttlWatchedStatuses)
    (hexpired : 1000 ≤ dates.expiredFor now) :
    lease ∈ findStaleLeases (now - stalenessWindow policy) now s := by
  refine mem_findStaleLeases.mpr ⟨hlease, Or.inr ⟨hstatus, ?_⟩⟩
  rw [hdates.expiresAt]
  apply toColumn_lt_of_second
  unfold LeaseDates.expiredFor at hexpired
  lia

/-- A row that the queries return is overdue in milliseconds too. -/
theorem overdue_of_found {policy : StalenessPolicy} (hdates : dates.StoredIn lease)
    (h : lease ∈ findStaleLeases (now - stalenessWindow policy) now s) :
    (lease.status ∈ heartbeatWatchedStatuses ∧
        stalenessWindow policy < dates.silentFor now) ∨
      (lease.status ∈ ttlWatchedStatuses ∧ 0 < dates.expiredFor now) := by
  rcases (mem_findStaleLeases.mp h).2 with ⟨hstatus, hbefore⟩ | ⟨hstatus, hbefore⟩
  · left
    rw [hdates.lastHeartbeat] at hbefore
    have hlt := lt_of_toColumn_lt hbefore
    refine ⟨hstatus, ?_⟩
    unfold LeaseDates.silentFor
    lia
  · right
    rw [hdates.expiresAt] at hbefore
    have hlt := lt_of_toColumn_lt hbefore
    refine ⟨hstatus, ?_⟩
    unfold LeaseDates.expiredFor
    lia

theorem reason_of_expired (hdates : dates.StoredIn lease) (hexpired : 0 < dates.expiredFor now) :
    (classifyStaleRecord now lease).reason = .ttlExpired := by
  have hback : ofColumn lease.expiresAt ≤ dates.expiresAt := by
    rw [hdates.expiresAt]
    exact (ofColumn_toColumn dates.expiresAt).1
  have hbefore : ofColumn lease.expiresAt < now := by
    unfold LeaseDates.expiredFor at hexpired
    lia
  unfold classifyStaleRecord
  rw [if_pos hbefore]

/-- Whatever dates the leases of a table were written with, every lease that is overdue by
a second is reported once, no lease is reported that is not overdue, and an expired one is
reported as expired. -/
theorem detectStaleLeases_up_to_a_second (now : Millis) (policy : StalenessPolicy)
    (s : Store) (dates : LeaseId -> LeaseDates)
    (hdates : forall lease, lease ∈ s.taskLeases ->
      (dates lease.leaseId).StoredIn lease) :
    (forall lease, lease ∈ s.taskLeases -> lease.status ∈ heartbeatWatchedStatuses ->
      stalenessWindow policy + 1000 ≤ (dates lease.leaseId).silentFor now ->
        ReportedOnce (detectStaleLeases now policy s) lease) ∧
    (forall lease, lease ∈ s.taskLeases -> lease.status ∈ ttlWatchedStatuses ->
      1000 ≤ (dates lease.leaseId).expiredFor now ->
        ReportedOnce (detectStaleLeases now policy s) lease) ∧
    (forall info, info ∈ detectStaleLeases now policy s ->
      info.lease ∈ s.taskLeases ∧
        ((info.lease.status ∈ heartbeatWatchedStatuses ∧
            stalenessWindow policy < (dates info.lease.leaseId).silentFor now) ∨
          (info.lease.status ∈ ttlWatchedStatuses ∧
            0 < (dates info.lease.leaseId).expiredFor now))) ∧
    (forall info, info ∈ detectStaleLeases now policy s ->
      0 < (dates info.lease.leaseId).expiredFor now -> info.reason = .ttlExpired) := by
  refine ⟨?_, ?_, ?_, ?_⟩
  · intro lease hlease hstatus hsilent
    exact reportedOnce_of_found (found_of_silent hlease (hdates lease hlease) hstatus hsilent)
  · intro lease hlease hstatus hexpired
    exact reportedOnce_of_found
      (found_of_expired hlease (hdates lease hlease) hstatus hexpired)
  · intro info hinfo
    have hfound := (mem_detectStaleLeases_iff.mp hinfo).2
    have hlease := (mem_findStaleLeases.mp hfound).1
    exact ⟨hlease, overdue_of_found (hdates info.lease hlease) hfound⟩
  · intro info hinfo hexpired
    rcases mem_detectStaleLeases_iff.mp hinfo with ⟨hclass, hfound⟩
    have hlease := (mem_findStaleLeases.mp hfound).1
    rw [hclass]
    exact reason_of_expired (hdates info.lease hlease) hexpired

/-!
## A worker that fell silent

Its last heartbeat came 60.4 seconds after the lease was handed out, and the check is made
140.5 seconds later, with 75 seconds of silence allowed.
-/

def silentLease : TaskLease where
  leaseId := "lease-1"
  taskId := "task-1"
  workerId := "worker-1"
  poolId := "pool-1"
  status := .running
  leasedAt := 0
  expiresAt := 1800
  heartbeatAt := some 60
  reclaimReason := none

def silentDates : LeaseDates where
  leasedAt := 250
  heartbeatAt := some 60400
  expiresAt := 1800250

def silentWorker : Store where
  tasks.rows :=
    [{ taskId := "task-1", repositoryId := "repo-1", taskType := "feature",
       priority := "high", status := .inDevelopment, version := 3, retryCount := 0,
       currentLeaseId := some "lease-1", currentReviewCycleId := none,
       mergeQueueItemId := none, completedAt := none }]
  tasks.nodup := List.nodup_singleton _
  taskLeases.rows := [silentLease]
  taskLeases.nodup := List.nodup_singleton _
  workerPools.rows := [{ workerPoolId := "pool-1", maxConcurrency := 1 }]
  workerPools.nodup := List.nodup_singleton _
  mergeQueueItems := Table.empty
  auditEvents := []
  leaseTask := by
    intro l h
    rcases List.mem_singleton.mp h with rfl
    rfl
  leasePool := by
    intro l h
    rcases List.mem_singleton.mp h with rfl
    rfl
  itemTask := by
    intro i h
    exact absurd h (Table.not_mem_empty i)

def patience : StalenessPolicy where
  heartbeatIntervalSeconds := 30
  missedHeartbeatThreshold := 2
  gracePeriodSeconds := 15

theorem silentDates_stored (lease : TaskLease) (h : lease ∈ silentWorker.taskLeases) :
    silentDates.StoredIn lease := by
  have hlease : lease = silentLease := List.mem_singleton.mp h
  rw [hlease]
  exact ⟨rfl, rfl, rfl⟩

theorem silentWorker_reported :
    ReportedOnce (detectStaleLeases 200900 patience silentWorker) silentLease :=
  (detectStaleLeases_up_to_a_second 200900 patience silentWorker (fun _ => silentDates)
    silentDates_stored).1 silentLease List.mem_cons_self (by decide) (by decide)

end Leasing
end CopilotFactory
