import CopilotFactory.Application.ReconciliationSweep
import CopilotFactory.Leasing.Exclusivity

/-!
# Stale leases and their reclaim

Detection watches the expiry of LEASED leases too, while a reclaim accepts only
STARTING, RUNNING and HEARTBEATING ones.  A worker that never started leaves a
lease that is reported stale in every sweep and is never reclaimed.
-/

namespace CopilotFactory
namespace Leasing

open Foundations
open Domain
open Infrastructure
open Application

variable {s : Store} {info : StaleLeaseInfo} {now : Millis}

def LeaseIn (s : Store) (leaseId : LeaseId) (status : WorkerLeaseStatus) : Prop :=
  exists lease, s.findLease leaseId = some lease ∧ lease.status = status

theorem LeaseIn.unique {leaseId : LeaseId} {status status' : WorkerLeaseStatus}
    (h : LeaseIn s leaseId status) (h' : LeaseIn s leaseId status') : status = status' := by
  rcases h with ⟨lease, hlease, hstatus⟩
  rcases h' with ⟨lease', hlease', hstatus'⟩
  rw [hlease] at hlease'
  cases hlease'
  exact hstatus.symm.trans hstatus'

/-- The reclaim of a detected lease, for the reason the sweep derives. -/
def staleReclaim (info : StaleLeaseInfo) (retryPolicy : RetryPolicy)
    (escalationPolicy : EscalationPolicy) (hasFailureSummary : Bool)
    (actor : ActorInfo) : ReclaimLeaseParams where
  leaseId := info.lease.leaseId
  reason := toReclaimReason info
  retryPolicy := retryPolicy
  escalationPolicy := escalationPolicy
  hasFailureSummary := hasFailureSummary
  actor := actor

/-- A stale lease of the store can be reclaimed at once, under any policies, and the
reclaim leaves it TIMED_OUT. -/
def Reclaimable (s : Store) (info : StaleLeaseInfo) : Prop :=
  forall retryPolicy escalationPolicy hasFailureSummary actor,
    exists s' result,
      reclaimLease (staleReclaim info retryPolicy escalationPolicy hasFailureSummary actor)
        s = .ok (s', result) ∧
      LeaseIn s' info.lease.leaseId .timedOut

/-- Every detected lease can be reclaimed, and after one sweep none of them is active. -/
def SweepClearsStaleLeases (now : Millis) (policy : StalenessPolicy) (s : Store) : Prop :=
  (forall info, info ∈ detectStaleLeases now policy s -> Reclaimable s info) ∧
    (forall info lease, info ∈ detectStaleLeases now policy s ->
      (sweepStaleLeases now policy s).1.findLease info.lease.leaseId = some lease ->
        ¬ Active lease.status)

def NoExpiredUnstartedLease (now : Millis) (s : Store) : Prop :=
  forall lease, lease ∈ s.taskLeases -> lease.status = .leased ->
    toColumn now ≤ lease.expiresAt

/-!
## One reclaim
-/

theorem timedOut_of_reclaim {params : ReclaimLeaseParams} {s' : Store}
    {result : ReclaimLeaseResult} (h : reclaimLease params s = .ok (s', result))
    (hreason : params.reason = toReclaimReason info) : LeaseIn s' params.leaseId .timedOut := by
  rcases reclaimLease_spec h with ⟨lease, _, hlease, _, _, hleases, _⟩
  refine ⟨(reclaimUpdate params.reason).apply lease, ?_, ?_⟩
  · rw [findLease_moved hlease hleases, if_pos rfl]
  · simp [reclaimUpdate, hreason, toReclaimReason_target]

theorem reclaimable_iff (info : StaleLeaseInfo) (hmem : info.lease ∈ s.taskLeases) :
    Reclaimable s info <-> info.lease.status ∈ reclaimableStates := by
  have hfind : s.findLease info.lease.leaseId = some info.lease :=
    Table.find?_key_of_mem hmem
  constructor
  · intro h
    rcases h defaultRetryPolicy defaultEscalationPolicy false sweepActor with
      ⟨s', result, haccepted, _⟩
    rcases (reclaimLease_accepted_iff _ s).mp ⟨_, haccepted⟩ with
      ⟨lease, hlease, hstatus⟩
    change s.findLease info.lease.leaseId = some lease at hlease
    rw [hfind] at hlease
    cases hlease
    exact hstatus
  · intro h retryPolicy escalationPolicy hasFailureSummary actor
    rcases (reclaimLease_accepted_iff
      (staleReclaim info retryPolicy escalationPolicy hasFailureSummary actor) s).mpr
        ⟨info.lease, hfind, h⟩ with ⟨⟨s', result⟩, haccepted⟩
    exact ⟨s', result, haccepted, timedOut_of_reclaim haccepted rfl⟩

/-!
## The sweep

Every reclaim of the sweep leaves its own lease TIMED_OUT and no other lease
changed, so a TIMED_OUT lease stays so until the sweep ends.
-/

theorem sweepStaleLease_timedOut {status : WorkerLeaseStatus}
    (h : LeaseIn s info.lease.leaseId status) (hstatus : status ∈ reclaimableStates) :
    LeaseIn (sweepStaleLease info s).1 info.lease.leaseId .timedOut := by
  rcases h with ⟨lease, hlease, rfl⟩
  rcases (reclaimLease_accepted_iff (sweepReclaimParams info) s).mpr
    ⟨lease, hlease, hstatus⟩ with ⟨⟨s', result⟩, haccepted⟩
  unfold sweepStaleLease
  rw [haccepted]
  exact timedOut_of_reclaim haccepted rfl

theorem sweepStaleLease_leaseIn (info : StaleLeaseInfo) {id : LeaseId}
    {status : WorkerLeaseStatus} (h : LeaseIn s id status) :
    LeaseIn (sweepStaleLease info s).1 id status ∨
      LeaseIn (sweepStaleLease info s).1 id .timedOut := by
  unfold sweepStaleLease
  cases hreclaim : reclaimLease (sweepReclaimParams info) s with
  | error e =>
      exact Or.inl h
  | ok r =>
      rcases r with ⟨s', result⟩
      by_cases hid : id = info.lease.leaseId
      · rw [hid]
        exact Or.inr (timedOut_of_reclaim hreclaim rfl)
      · rcases reclaimLease_spec hreclaim with ⟨lease, _, hlease, _, _, hleases, _⟩
        rcases h with ⟨l, hl, hstatus⟩
        refine Or.inl ⟨l, ?_, hstatus⟩
        rw [findLease_moved hlease hleases]
        exact (if_neg hid).trans hl

theorem sweepDetected_timedOut_stays {infos : List StaleLeaseInfo} {id : LeaseId}
    (h : LeaseIn s id .timedOut) : LeaseIn (sweepDetected infos s).1 id .timedOut := by
  induction infos generalizing s with
  | nil =>
      exact h
  | cons info rest ih =>
      apply ih
      rcases sweepStaleLease_leaseIn info h with h | h
      · exact h
      · exact h

theorem sweepDetected_timedOut (infos : List StaleLeaseInfo) (s : Store)
    (h : forall info, info ∈ infos ->
      (exists status, LeaseIn s info.lease.leaseId status ∧ status ∈ reclaimableStates) ∨
        LeaseIn s info.lease.leaseId .timedOut) :
    forall info, info ∈ infos ->
      LeaseIn (sweepDetected infos s).1 info.lease.leaseId .timedOut := by
  induction infos generalizing s with
  | nil =>
      intro info hinfo
      cases hinfo
  | cons first rest ih =>
      have hrest : forall info, info ∈ rest ->
          (exists status, LeaseIn (sweepStaleLease first s).1 info.lease.leaseId status ∧
            status ∈ reclaimableStates) ∨
          LeaseIn (sweepStaleLease first s).1 info.lease.leaseId .timedOut := by
        intro info hinfo
        rcases h info (List.mem_cons_of_mem first hinfo) with ⟨status, hin, hstatus⟩ | hin
        · rcases sweepStaleLease_leaseIn first hin with hkept | hout
          · exact Or.inl ⟨status, hkept, hstatus⟩
          · exact Or.inr hout
        · rcases sweepStaleLease_leaseIn first hin with hout | hout
          · exact Or.inr hout
          · exact Or.inr hout
      intro info hinfo
      rcases List.mem_cons.mp hinfo with rfl | hinfo
      · change LeaseIn (sweepDetected rest (sweepStaleLease info s).1).1 _ _
        apply sweepDetected_timedOut_stays
        rcases h info List.mem_cons_self with ⟨status, hin, hstatus⟩ | hin
        · exact sweepStaleLease_timedOut hin hstatus
        · rcases sweepStaleLease_leaseIn info hin with hout | hout
          · exact hout
          · exact hout
      · exact ih _ hrest info hinfo

/-!
## What the sweep clears
-/

theorem detected_reclaimable_or_leased {policy : StalenessPolicy}
    (h : info ∈ detectStaleLeases now policy s) :
    info.lease.status ∈ reclaimableStates ∨
      (info.lease.status = .leased ∧ info.lease.expiresAt < toColumn now) := by
  rcases List.mem_map.mp h with ⟨lease, hlease, hinfo⟩
  have hsame : info.lease = lease := by
    rw [← hinfo]
    rfl
  rw [hsame]
  rcases (mem_findStaleLeases.mp hlease).2 with ⟨hwatched, _⟩ | ⟨hwatched, hexpired⟩
  · exact Or.inl hwatched
  · simp only [ttlWatchedStatuses, List.mem_cons, List.not_mem_nil, or_false] at hwatched
    rcases hwatched with e | e | e | e
    · exact Or.inr ⟨e, hexpired⟩
    · exact Or.inl (by rw [e]; decide)
    · exact Or.inl (by rw [e]; decide)
    · exact Or.inl (by rw [e]; decide)

theorem detected_of_expired_unstarted (policy : StalenessPolicy) {lease : TaskLease}
    (hmem : lease ∈ s.taskLeases) (hstatus : lease.status = .leased)
    (hexpired : lease.expiresAt < toColumn now) :
    classifyStaleRecord now lease ∈ detectStaleLeases now policy s := by
  apply List.mem_map_of_mem
  rw [mem_findStaleLeases]
  refine ⟨hmem, Or.inr ⟨?_, hexpired⟩⟩
  rw [hstatus]
  decide

theorem noExpiredUnstarted_of_clears {policy : StalenessPolicy}
    (h : SweepClearsStaleLeases now policy s) : NoExpiredUnstartedLease now s := by
  intro lease hmem hstatus
  by_contra hlate
  have hexpired : lease.expiresAt < toColumn now := Int.not_le.mp hlate
  have hdetected := detected_of_expired_unstarted policy hmem hstatus hexpired
  have hreclaimable := (reclaimable_iff (classifyStaleRecord now lease) hmem).mp
    (h.1 _ hdetected)
  change lease.status ∈ reclaimableStates at hreclaimable
  rw [hstatus] at hreclaimable
  exact absurd hreclaimable (by decide)

/-- Every detected lease can be reclaimed, and one sweep clears them all, exactly when no
expired lease is still LEASED. -/
theorem sweep_clears_stale_leases_iff (now : Millis) (policy : StalenessPolicy)
    (s : Store) :
    SweepClearsStaleLeases now policy s <-> NoExpiredUnstartedLease now s := by
  constructor
  · exact noExpiredUnstarted_of_clears
  · intro h
    have hstates : forall info, info ∈ detectStaleLeases now policy s ->
        info.lease.status ∈ reclaimableStates := by
      intro info hinfo
      rcases detected_reclaimable_or_leased hinfo with hstatus | ⟨hstatus, hexpired⟩
      · exact hstatus
      · have hmem := (mem_detectStaleLeases hinfo).1
        exact absurd (h info.lease hmem hstatus) (Int.not_le.mpr hexpired)
    constructor
    · intro info hinfo
      exact (reclaimable_iff info (mem_detectStaleLeases hinfo).1).mpr (hstates info hinfo)
    · intro info lease hinfo hlease
      have hall := sweepDetected_timedOut (detectStaleLeases now policy s) s
        (fun i hi => Or.inl ⟨i.lease.status,
          ⟨i.lease, Table.find?_key_of_mem (mem_detectStaleLeases hi).1, rfl⟩,
          hstates i hi⟩)
      have hout : lease.status = .timedOut :=
        LeaseIn.unique ⟨lease, hlease, rfl⟩ (hall info hinfo)
      rw [hout]
      decide

/-!
## A worker that never started
-/

/-- A lease that expired at second 3600 and whose worker was never spawned. -/
def unstartedRun : List ControlPlane.Request :=
  [.createWorkerPool { workerPoolId := "pool-1", maxConcurrency := 1 },
    .createTask
      { taskId := "task-1", repositoryId := "repo-1", taskType := "feature",
        priority := "high" },
    .transitionTask "task-1" .ready
      { allDependenciesResolved := some true, hasPolicyBlockers := some false }
      { type := "system", id := "automation" },
    .acquireLease 0 "lease-1"
      { taskId := "task-1", workerId := "worker-1", poolId := "pool-1", ttlSeconds := 3600,
        actor := { type := "system", id := "scheduler" } }]

theorem unstarted_lease_never_cleared :
    ¬ SweepClearsStaleLeases 4000000
      { heartbeatIntervalSeconds := 30, missedHeartbeatThreshold := 2,
        gracePeriodSeconds := 15 }
      (ControlPlane.controlPlane.run Store.empty unstartedRun) := by
  intro h
  have hexpiry := noExpiredUnstarted_of_clears h
  have hlease : (ControlPlane.controlPlane.run Store.empty unstartedRun).findLease
      "lease-1" = some
        { leaseId := "lease-1", taskId := "task-1", workerId := "worker-1",
          poolId := "pool-1", status := .leased, leasedAt := 0, expiresAt := 3600,
          heartbeatAt := none, reclaimReason := none } := by
    decide
  exact absurd (hexpiry _ (Store.mem_of_findLease hlease) rfl) (by decide)

end Leasing
end CopilotFactory
