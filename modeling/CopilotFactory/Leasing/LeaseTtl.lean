import CopilotFactory.Leasing.Exclusivity

/-!
# The time to live of a lease

A lease expires a fixed time after it was acquired, and only its completing heartbeat
moves the expiry.  No heartbeat is compared with it: until a sweep has found the lease,
its worker goes on after the expiry, and a completing heartbeat counts the grace period
from its own arrival.
-/

namespace CopilotFactory
namespace Leasing

open Foundations
open Domain
open Infrastructure
open Application
open ControlPlane

variable {s : Store} {r : Request} {leaseId : LeaseId} {now : Millis}

/-- When a lease was acquired and for how long, with the grace period of the policy. -/
structure LeaseTerms where
  leasedAt : Seconds
  leaseTtlSeconds : Int
  gracePeriodSeconds : Int

def LeaseTerms.deadline (terms : LeaseTerms) : Seconds :=
  terms.leasedAt + terms.leaseTtlSeconds

def termsOf (now : Millis) (params : AcquireLeaseParams)
    (gracePeriodSeconds : Int) : LeaseTerms where
  leasedAt := toColumn now
  leaseTtlSeconds := params.ttlSeconds
  gracePeriodSeconds := gracePeriodSeconds

def GraceWithin (gracePeriodSeconds : Int) (leaseId : LeaseId) : Request -> Prop
  | .receiveHeartbeat _ params =>
      params.leaseId = leaseId ->
        forall grace, params.gracePeriodSeconds = some grace -> grace ≤ gracePeriodSeconds
  | _ => True

/-!
## The bound
-/

def ExpiryBounded (terms : LeaseTerms) (leaseId : LeaseId) (s : Store) : Prop :=
  forall lease, s.findLease leaseId = some lease ->
    lease.expiresAt ≤ lease.leasedAt + terms.leaseTtlSeconds + terms.gracePeriodSeconds

def RegularKeepsExpiry (leaseId : LeaseId) (s : Store) (r : Request) : Prop :=
  forall now params lease lease', r = .receiveHeartbeat now params ->
    params.leaseId = leaseId -> params.completing = false ->
    s.findLease leaseId = some lease ->
    (controlPlane.next s r).findLease leaseId = some lease' ->
      lease'.expiresAt = lease.expiresAt

def NoneAfterExpiry (leaseId : LeaseId) (s : Store) (r : Request) : Prop :=
  forall now params lease, r = .receiveHeartbeat now params -> params.leaseId = leaseId ->
    (exists s', perform s r = .ok s') -> s.findLease leaseId = some lease ->
      now ≤ ofColumn lease.expiresAt

/-- A heartbeat that finds the lease STARTING, RUNNING or HEARTBEATING has come within
the time to live. -/
def ComesInTime (terms : LeaseTerms) (leaseId : LeaseId) (s : Store) (r : Request) : Prop :=
  forall now params lease, r = .receiveHeartbeat now params -> params.leaseId = leaseId ->
    s.findLease leaseId = some lease -> lease.status ∈ heartbeatReceivableStates ->
      now ≤ ofColumn terms.deadline

/-!
## One request
-/

def openLeaseStatuses : List WorkerLeaseStatus :=
  [.idle, .leased, .starting, .running, .heartbeating]

theorem open_of_open_target {current target : WorkerLeaseStatus}
    (h : (WorkerLease.transitionGuards current target).isSome = true)
    (htarget : target ∈ openLeaseStatuses) :
    current ∈ openLeaseStatuses := by
  cases current with
  | completing | timedOut | crashed | reclaimed =>
      cases target <;> first | exact absurd htarget (by decide) | cases h
  | _ =>
      decide

theorem open_of_receivable {status : WorkerLeaseStatus}
    (h : status ∈ heartbeatReceivableStates) :
    status ∈ openLeaseStatuses := by
  cases status <;> first | decide | exact absurd h (by decide)

def Heartbeat (leaseId : LeaseId) (lease : TaskLease) (data : TaskLeaseUpdate)
    (r : Request) : Prop :=
  exists now params, r = .receiveHeartbeat now params ∧ params.leaseId = leaseId ∧
    lease.status ∈ heartbeatReceivableStates ∧ data = heartbeatUpdate now params lease

theorem lease_after {s' : Store} {lease : TaskLease} (h : perform s r = .ok s')
    (hlease : s.findLease leaseId = some lease) :
    exists data : TaskLeaseUpdate, s'.findLease leaseId = some (data.apply lease) ∧
      ((data.apply lease).status ∈ openLeaseStatuses -> lease.status ∈ openLeaseStatuses) ∧
      (data.expiresAt = none ∨ Heartbeat leaseId lease data r) := by
  have hkept : s'.findLease leaseId = s.findLease leaseId ->
      exists data : TaskLeaseUpdate, s'.findLease leaseId = some (data.apply lease) ∧
        ((data.apply lease).status ∈ openLeaseStatuses ->
          lease.status ∈ openLeaseStatuses) ∧
        (data.expiresAt = none ∨ Heartbeat leaseId lease data r) := by
    intro hsame
    rw [hsame, hlease]
    exact ⟨{}, rfl, fun hopen => hopen, Or.inl rfl⟩
  by_cases hr : OperatesOn leaseId r
  · cases r with
    | transitionLease id target context actor =>
        cases hr
        rcases committed_eq_ok.mp h with ⟨event, h⟩
        rcases transitionLease_spec h with ⟨found, hfound, hvalid, _, hleases⟩
        rw [hlease] at hfound
        cases hfound
        refine ⟨{ status := some target }, ?_, ?_, Or.inl rfl⟩
        · rw [findLease_moved hlease hleases, if_pos rfl]
        · exact open_of_open_target (WorkerLease.step_of_validate hvalid)
    | receiveHeartbeat now params =>
        cases hr
        rcases committed_eq_ok.mp h with ⟨result, h⟩
        rcases receiveHeartbeat_spec h with ⟨found, hfound, hstatus, _, hleases⟩
        rw [hlease] at hfound
        cases hfound
        refine ⟨heartbeatUpdate now params lease, ?_, ?_, ?_⟩
        · rw [findLease_moved hlease hleases, if_pos rfl]
        · exact fun _ => open_of_receivable hstatus
        · exact Or.inr ⟨now, params, rfl, rfl, hstatus, rfl⟩
    | reclaimLease params =>
        cases hr
        rcases committed_eq_ok.mp h with ⟨result, h⟩
        rcases reclaimLease_spec h with ⟨found, _, hfound, hstatus, _, hleases, _⟩
        rw [hlease] at hfound
        cases hfound
        refine ⟨reclaimUpdate params.reason, ?_, ?_, Or.inl rfl⟩
        · rw [findLease_moved hlease hleases, if_pos rfl]
        · exact open_of_open_target
            (WorkerLease.step_of_validate (validate_reclaim hstatus params.reason))
    | _ =>
        cases hr
  · cases leaseEffect_of_perform h with
    | unchanged heq =>
        exact hkept (Store.findLease_of_leases_eq heq leaseId)
    | created created hnew hfree hstatus hself hother =>
        apply hkept
        apply hother
        intro hid
        rw [← hid, hlease] at hnew
        cases hnew
    | moved id moved target data hmoved hguard hdata hcompletes hoperates heq =>
        apply hkept
        rw [findLease_moved hmoved heq, if_neg]
        intro hid
        exact hr (by rw [hid]; exact hoperates)

/-!
## What holds of a lease along a run
-/

/-- The lease keeps its acquisition time, and its expiry as long as it is open. -/
structure OnTerms (terms : LeaseTerms) (lease : TaskLease) : Prop where
  leasedAt : lease.leasedAt = terms.leasedAt
  expiresAt : lease.status ∈ openLeaseStatuses -> lease.expiresAt = terms.deadline

def StoredOnTerms (terms : LeaseTerms) (leaseId : LeaseId) (s : Store) : Prop :=
  exists lease, s.findLease leaseId = some lease ∧ OnTerms terms lease

theorem computeTargetStatus_completing {status : WorkerLeaseStatus} {completing : Bool}
    (h : computeTargetStatus status completing ∈ openLeaseStatuses) :
    completing = false := by
  cases completing with
  | false =>
      rfl
  | true =>
      simp [computeTargetStatus, openLeaseStatuses] at h

theorem graceExpiry_regular (now expiresAt : Millis) (gracePeriodSeconds : Option Int) :
    graceExpiry now expiresAt false gracePeriodSeconds = none := by
  unfold graceExpiry
  cases gracePeriodSeconds <;> simp

theorem storedOnTerms_preserved (terms : LeaseTerms) (leaseId : LeaseId) :
    controlPlane.Preserves (fun _ => True) (StoredOnTerms terms leaseId) := by
  intro s r s' _ hs h
  rcases hs with ⟨lease, hlease, honTerms⟩
  rcases lease_after h hlease with ⟨data, hafter, hopen, hexpiry⟩
  refine ⟨data.apply lease, hafter, honTerms.leasedAt, ?_⟩
  intro hstatus
  have hbefore : lease.expiresAt = terms.deadline := honTerms.expiresAt (hopen hstatus)
  rcases hexpiry with hnone | ⟨now, params, _, _, _, hdata⟩
  · simp [TaskLeaseUpdate.apply, hnone, hbefore]
  · -- The target of a completing heartbeat is not open, so this one is regular.
    rw [hdata] at hstatus ⊢
    have hregular : params.completing = false := computeTargetStatus_completing hstatus
    simp [TaskLeaseUpdate.apply, heartbeatUpdate, hregular, graceExpiry_regular, hbefore]

theorem newLease_onTerms (now : Millis) (leaseId : LeaseId) (params : AcquireLeaseParams)
    (gracePeriodSeconds : Int) :
    OnTerms (termsOf now params gracePeriodSeconds) (newLease now leaseId params) := by
  constructor
  · rfl
  · intro _
    simp only [newLease, LeaseTerms.deadline, termsOf, toColumn]
    lia

theorem findLease_of_acquireLease {s₁ : Store} {params : AcquireLeaseParams}
    (h : perform s (.acquireLease now leaseId params) = .ok s₁) :
    s₁.findLease leaseId = some (newLease now leaseId params) := by
  rcases committed_eq_ok.mp h with ⟨result, h⟩
  rcases acquireLease_spec h with ⟨_, s₂, _, _, _, hcreate, _, hleases⟩
  rcases Store.createLease_spec hcreate with ⟨_, _, hself, _, _⟩
  rw [Store.findLease_of_leases_eq hleases]
  exact hself

theorem expiryBounded_of_acquireLease {s₁ : Store} {params : AcquireLeaseParams}
    (h : perform s (.acquireLease now leaseId params) = .ok s₁) {gracePeriodSeconds : Int}
    (hpolicy : 0 ≤ gracePeriodSeconds) :
    ExpiryBounded (termsOf now params gracePeriodSeconds) leaseId s₁ := by
  intro lease hlease
  rw [findLease_of_acquireLease h] at hlease
  cases hlease
  rw [(newLease_onTerms now leaseId params gracePeriodSeconds).expiresAt
    (by decide : WorkerLeaseStatus.leased ∈ openLeaseStatuses)]
  change toColumn now + params.ttlSeconds ≤
    toColumn now + params.ttlSeconds + gracePeriodSeconds
  lia

/-- A heartbeat that comes within the time to live leaves the lease within the bound. -/
theorem graceExpiry_le {deadline : Seconds} {completing : Bool} {gracePeriod? : Option Int}
    {gracePeriodSeconds : Int} {expiry : Millis}
    (h : graceExpiry now (ofColumn deadline) completing gracePeriod? = some expiry)
    (hgrace : forall grace, gracePeriod? = some grace -> grace ≤ gracePeriodSeconds)
    (hpolicy : 0 ≤ gracePeriodSeconds) (hnow : now ≤ ofColumn deadline) :
    toColumn expiry ≤ deadline + gracePeriodSeconds := by
  unfold graceExpiry at h
  cases gracePeriod? with
  | none =>
      cases h
  | some grace =>
      have hle : grace ≤ gracePeriodSeconds := hgrace grace rfl
      dsimp only at h
      split at h
      · cases h
        unfold ofColumn at hnow ⊢
        unfold toColumn
        split <;> lia
      · cases h

theorem expiryBounded_next {terms : LeaseTerms} (hpolicy : 0 ≤ terms.gracePeriodSeconds)
    (hgrace : GraceWithin terms.gracePeriodSeconds leaseId r)
    (hs : StoredOnTerms terms leaseId s) (hbounded : ExpiryBounded terms leaseId s)
    (hintime : ComesInTime terms leaseId s r) :
    ExpiryBounded terms leaseId (controlPlane.next s r) := by
  refine controlPlane.next_cases hbounded ?_
  intro s' hstep
  rcases hs with ⟨lease, hlease, honTerms⟩
  rcases lease_after hstep hlease with ⟨data, hafter, _, hexpiry⟩
  intro lease' hlease'
  rw [hafter] at hlease'
  cases hlease'
  rcases hexpiry with hnone | ⟨now, params, hr, hid, hstatus, hdata⟩
  · simpa [TaskLeaseUpdate.apply, hnone] using hbounded lease hlease
  · have hnow : now ≤ ofColumn terms.deadline :=
      hintime now params lease hr hid hlease hstatus
    have hdeadline : lease.expiresAt = terms.deadline :=
      honTerms.expiresAt (open_of_receivable hstatus)
    rw [hr] at hgrace
    rw [hdata]
    simp only [TaskLeaseUpdate.apply, heartbeatUpdate, hdeadline, honTerms.leasedAt]
    cases hextended : graceExpiry now (ofColumn terms.deadline) params.completing
        params.gracePeriodSeconds with
    | none =>
        simp only [Option.map_none, Option.getD_none, LeaseTerms.deadline]
        lia
    | some expiry =>
        exact graceExpiry_le hextended (hgrace hid) hpolicy hnow

theorem regularKeepsExpiry (leaseId : LeaseId) (s : Store) (r : Request) :
    RegularKeepsExpiry leaseId s r := by
  intro now params lease lease' hr hid hregular hlease hlease'
  cases hstep : controlPlane.step s r with
  | error e =>
      rw [controlPlane.next_of_error hstep, hlease] at hlease'
      cases hlease'
      rfl
  | ok s' =>
      rw [controlPlane.next_of_ok hstep] at hlease'
      rcases lease_after hstep hlease with ⟨data, hafter, _, hexpiry⟩
      rw [hafter] at hlease'
      cases hlease'
      rcases hexpiry with hnone | ⟨now', params', hr', _, _, hdata⟩
      · simp [TaskLeaseUpdate.apply, hnone]
      · rw [hr] at hr'
        cases hr'
        rw [hdata]
        simp [TaskLeaseUpdate.apply, heartbeatUpdate, hregular, graceExpiry_regular]

theorem noneAfterExpiry_iff {terms : LeaseTerms} (hs : StoredOnTerms terms leaseId s) :
    NoneAfterExpiry leaseId s r <-> ComesInTime terms leaseId s r := by
  rcases hs with ⟨stored, hstored, honTerms⟩
  constructor
  · intro h now params lease hr hid hlease hstatus
    have haccepted : exists s', perform s r = .ok s' := by
      rw [hr]
      rcases receiveHeartbeat_accepted_iff.mpr ⟨lease, by rw [hid]; exact hlease, hstatus⟩ with
        ⟨⟨s', result⟩, hok⟩
      exact ⟨s', committed_eq_ok.mpr ⟨result, hok⟩⟩
    have hnow := h now params lease hr hid haccepted hlease
    rw [hstored] at hlease
    cases hlease
    rw [honTerms.expiresAt (open_of_receivable hstatus)] at hnow
    exact hnow
  · intro h now params lease hr hid haccepted hlease
    rcases haccepted with ⟨s', hok⟩
    rw [hr] at hok
    rcases committed_eq_ok.mp hok with ⟨result, hok⟩
    rcases receiveHeartbeat_accepted_iff.mp ⟨_, hok⟩ with ⟨found, hfound, hstatus⟩
    rw [hid, hlease] at hfound
    cases hfound
    have hnow := h now params lease hr hid hlease hstatus
    rw [hstored] at hlease
    cases hlease
    rw [honTerms.expiresAt (open_of_receivable hstatus)]
    exact hnow

/-!
## Runs
-/

/-- In every run after the acquisition of a lease, the lease is within its bound, regular
heartbeats leave its expiry alone and no heartbeat is accepted after it, exactly if every
heartbeat that finds the lease STARTING, RUNNING or HEARTBEATING comes within the time to
live. -/
theorem ttl_is_absolute_iff {s s₁ : Store} {now : Millis} {leaseId : LeaseId}
    {params : AcquireLeaseParams}
    (hacquired : perform s (.acquireLease now leaseId params) = .ok s₁)
    {gracePeriodSeconds : Int} (hpolicy : 0 ≤ gracePeriodSeconds) (requests : List Request)
    (hgrace : forall r, r ∈ requests -> GraceWithin gracePeriodSeconds leaseId r) :
    ((forall t, t ∈ controlPlane.states s₁ requests ->
        ExpiryBounded (termsOf now params gracePeriodSeconds) leaseId t) ∧
      forall x, x ∈ controlPlane.arrivals s₁ requests ->
        RegularKeepsExpiry leaseId x.1 x.2 ∧ NoneAfterExpiry leaseId x.1 x.2) <->
      forall x, x ∈ controlPlane.arrivals s₁ requests ->
        ComesInTime (termsOf now params gracePeriodSeconds) leaseId x.1 x.2 := by
  have hstart : StoredOnTerms (termsOf now params gracePeriodSeconds) leaseId s₁ :=
    ⟨_, findLease_of_acquireLease hacquired,
      newLease_onTerms now leaseId params gracePeriodSeconds⟩
  have harrives := (storedOnTerms_preserved (termsOf now params gracePeriodSeconds)
    leaseId).arrivals (fun _ (_ : _ ∈ requests) => trivial) hstart
  constructor
  · intro h x hx
    exact (noneAfterExpiry_iff (harrives x hx)).mp (h.2 x hx).2
  · intro h
    constructor
    · intro t ht
      exact (TransitionSystem.states_of_arrivals
        (I := fun t => StoredOnTerms (termsOf now params gracePeriodSeconds) leaseId t ∧
          ExpiryBounded (termsOf now params gracePeriodSeconds) leaseId t)
        (C := fun t r => GraceWithin gracePeriodSeconds leaseId r ∧
          ComesInTime (termsOf now params gracePeriodSeconds) leaseId t r)
        (fun t r ht hr => ⟨(storedOnTerms_preserved _ leaseId).next trivial ht.1,
          expiryBounded_next hpolicy hr.1 ht.1 ht.2 hr.2⟩)
        ⟨hstart, expiryBounded_of_acquireLease hacquired hpolicy⟩
        (fun x hx => ⟨hgrace x.2 (controlPlane.mem_of_mem_arrivals hx), h x hx⟩) t ht).2
    · intro x hx
      exact ⟨regularKeepsExpiry leaseId x.1 x.2,
        (noneAfterExpiry_iff (harrives x hx)).mpr (h x hx)⟩

/-!
## A worker that goes on

A lease for 1800 seconds is acquired at 0.  No sweep finds it, and the worker sends a
regular heartbeat after 5000 seconds and its completing one after 10000 seconds.
-/

def grantActor : ActorInfo where
  type := "system"
  id := "scheduler"

def taskToLease : List Request :=
  [.createWorkerPool { workerPoolId := "pool-1", maxConcurrency := 1 },
    .createTask
      { taskId := "task-1", repositoryId := "repo-1", taskType := "feature",
        priority := "high" },
    .transitionTask "task-1" .ready
      { allDependenciesResolved := some true, hasPolicyBlockers := some false } grantActor]

def halfAnHour : AcquireLeaseParams where
  taskId := "task-1"
  workerId := "worker-1"
  poolId := "pool-1"
  ttlSeconds := 1800
  actor := grantActor

def leasedForHalfAnHour : Store :=
  controlPlane.run Store.empty (taskToLease ++ [.acquireLease 0 "lease-1" halfAnHour])

theorem leasedForHalfAnHour_acquired :
    perform (controlPlane.run Store.empty taskToLease)
        (.acquireLease 0 "lease-1" halfAnHour) = .ok leasedForHalfAnHour := by
  have hrun : leasedForHalfAnHour = controlPlane.next
      (controlPlane.run Store.empty taskToLease) (.acquireLease 0 "lease-1" halfAnHour) := by
    unfold leasedForHalfAnHour
    rw [controlPlane.run_append]
    rfl
  have haccepted : (controlPlane.step (controlPlane.run Store.empty taskToLease)
      (.acquireLease 0 "lease-1" halfAnHour)).toOption.isSome = true := by
    decide +kernel
  rw [hrun]
  exact controlPlane.step_eq_ok_next haccepted

def heartbeatAt (now : Millis) (completing : Bool) : Request :=
  .receiveHeartbeat now
    { leaseId := "lease-1", completing := completing, gracePeriodSeconds := some 15,
      actor := grantActor }

def workerAt (first last : Millis) : List Request :=
  [.transitionLease "lease-1" .starting { workerProcessSpawned := some true } grantActor,
    heartbeatAt first false, heartbeatAt last true]

theorem workerAt_graceWithin (first last : Millis) :
    forall r, r ∈ workerAt first last -> GraceWithin 15 "lease-1" r := by
  intro r hr
  simp only [workerAt, List.mem_cons, List.not_mem_nil, or_false] at hr
  rcases hr with rfl | rfl | rfl
  · trivial
  · intro _ grace hgrace
    cases hgrace
    exact Int.le_refl 15
  · intro _ grace hgrace
    cases hgrace
    exact Int.le_refl 15

theorem ttl_is_absolute_in_time :
    ((forall t, t ∈ controlPlane.states leasedForHalfAnHour (workerAt 60000 120000) ->
        ExpiryBounded (termsOf 0 halfAnHour 15) "lease-1" t) ∧
      forall x, x ∈ controlPlane.arrivals leasedForHalfAnHour (workerAt 60000 120000) ->
        RegularKeepsExpiry "lease-1" x.1 x.2 ∧ NoneAfterExpiry "lease-1" x.1 x.2) <->
      forall x, x ∈ controlPlane.arrivals leasedForHalfAnHour (workerAt 60000 120000) ->
        ComesInTime (termsOf 0 halfAnHour 15) "lease-1" x.1 x.2 :=
  ttl_is_absolute_iff leasedForHalfAnHour_acquired (by decide) (workerAt 60000 120000)
    (workerAt_graceWithin 60000 120000)

/-- The lease expires 10015 seconds after it was acquired, and not within 1815. -/
theorem ttl_extended_by_late_heartbeat :
    perform (controlPlane.run Store.empty taskToLease)
        (.acquireLease 0 "lease-1" halfAnHour) = .ok leasedForHalfAnHour ∧
      (forall r, r ∈ workerAt 5000000 10000000 -> GraceWithin 15 "lease-1" r) ∧
      ¬ ((forall t, t ∈ controlPlane.states leasedForHalfAnHour
            (workerAt 5000000 10000000) ->
          ExpiryBounded (termsOf 0 halfAnHour 15) "lease-1" t) ∧
        forall x, x ∈ controlPlane.arrivals leasedForHalfAnHour
            (workerAt 5000000 10000000) ->
          RegularKeepsExpiry "lease-1" x.1 x.2 ∧ NoneAfterExpiry "lease-1" x.1 x.2) := by
  refine ⟨leasedForHalfAnHour_acquired, workerAt_graceWithin 5000000 10000000, ?_⟩
  intro h
  have hfind : ((controlPlane.run leasedForHalfAnHour (workerAt 5000000 10000000)).findLease
      "lease-1").map (fun lease => (lease.leasedAt, lease.expiresAt)) = some (0, 10015) := by
    decide +kernel
  rcases Option.map_eq_some_iff.mp hfind with ⟨lease, hlease, htimes⟩
  have hbound := h.1 _ (controlPlane.run_mem_states _ _) lease hlease
  simp only [Prod.mk.injEq] at htimes
  rw [htimes.1, htimes.2] at hbound
  exact absurd hbound (by decide)

end Leasing
end CopilotFactory
