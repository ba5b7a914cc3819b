import CopilotFactory.Application.GracefulCompletionService
import CopilotFactory.Leasing.StaleLeases

/-!
# When the result of a lease is accepted

The acceptance of a result looks at the lease and at the clock, and records an
audit event.  The deadline is therefore fixed from the moment at which the lease
became COMPLETING or TIMED_OUT, and it counts from the expiry of the lease, not
from that moment.  Neither earlier acceptances nor other leases of the task play
a part.
-/

namespace CopilotFactory
namespace Leasing

open Foundations
open Domain
open Infrastructure
open Application
open ControlPlane

variable {s s' : Store} {lease : TaskLease} {now : Millis}

def atTime (clock : Millis) : Request -> Request
  | .acquireLease _ leaseId params => .acquireLease clock leaseId params
  | .receiveHeartbeat _ params => .receiveHeartbeat clock params
  | r => r

inductive CompletionStep where
  | request (clock : Millis) (r : Request)
  | acceptResult (now : Millis) (params : AcceptResultParams)

def CompletionStep.perform (s : Store) : CompletionStep -> Except ServiceError Store
  | .request clock r => ControlPlane.perform s (atTime clock r)
  | .acceptResult now params => committed (Application.acceptResult now params s)

/-- The control plane together with the graceful completion service. -/
def completions : TransitionSystem Store CompletionStep ServiceError where
  step := CompletionStep.perform

def accepts (leaseId : LeaseId) : Store × CompletionStep -> Bool
  | (s, .acceptResult now params) =>
      decide (params.leaseId = leaseId) && (Application.acceptResult now params s).isOk
  | _ => false

/-!
## Results accepted once and in time

These are three things that one could expect of a run.
-/

def AcceptedOnce (steps : List CompletionStep) : Prop :=
  forall leaseId, (completions.arrivals Store.empty steps).countP (accepts leaseId) ≤ 1

/-- No result of a TIMED_OUT lease is accepted while its task is assigned to another. -/
def NoneAfterNextLease (steps : List CompletionStep) : Prop :=
  forall x, x ∈ completions.arrivals Store.empty steps ->
    forall lease task other, accepts lease.leaseId x = true ->
      x.1.findLease lease.leaseId = some lease -> lease.status = .timedOut ->
      x.1.findTask lease.taskId = some task -> task.currentLeaseId = some other ->
      other = lease.leaseId

/-- No result is accepted later than a grace period after its lease was marked
TIMED_OUT. -/
def AcceptedWithinGrace (steps : List CompletionStep) : Prop :=
  forall first clock r second now params,
    steps = first ++ .request clock r :: second ->
    ¬ LeaseIn (completions.run Store.empty first) params.leaseId .timedOut ->
    LeaseIn (completions.run Store.empty (first ++ [.request clock r])) params.leaseId
      .timedOut ->
    forall s, (s, CompletionStep.acceptResult now params) ∈ completions.arrivals
        (completions.run Store.empty (first ++ [.request clock r])) second ->
      accepts params.leaseId (s, .acceptResult now params) = true ->
      now ≤ clock + params.gracePeriodSeconds * 1000

/-!
## How a lease comes to accept results
-/

theorem reclaimable_of_accepting_target {current target : WorkerLeaseStatus}
    (h : (WorkerLease.transitionGuards current target).isSome = true)
    (htarget : target ∈ resultAcceptingStates) :
    current ∈ reclaimableStates := by
  simp only [resultAcceptingStates, List.mem_cons, List.not_mem_nil, or_false] at htarget
  rcases htarget with e | e
  · rw [e] at h
    cases current <;> first | decide | cases h
  · rw [e] at h
    cases current <;> first | decide | cases h

theorem not_timedOut_of_heartbeat {status : WorkerLeaseStatus}
    (h : status ∈ heartbeatReceivableStates) (completing : Bool) :
    computeTargetStatus status completing ≠ .timedOut := by
  simp only [heartbeatReceivableStates, List.mem_cons, List.not_mem_nil, or_false] at h
  rcases h with rfl | rfl | rfl <;> cases completing <;> decide

theorem expiresAt_of_timedOut {r : Request} {leaseId : LeaseId} {before : TaskLease}
    (h : perform s r = .ok s') (hr : OperatesOn leaseId r)
    (hbefore : s.findLease leaseId = some before) (hlease : s'.findLease leaseId = some lease)
    (hstatus : lease.status = .timedOut) : before.expiresAt = lease.expiresAt := by
  cases r with
  | transitionLease id target context actor =>
      cases hr
      rcases committed_eq_ok.mp h with ⟨event, h⟩
      rcases transitionLease_spec h with ⟨found, hfound, _, _, hleases⟩
      rw [findLease_moved hfound hleases, if_pos rfl] at hlease
      rw [hbefore] at hfound
      cases hfound
      cases hlease
      rfl
  | receiveHeartbeat now params =>
      cases hr
      rcases committed_eq_ok.mp h with ⟨result, h⟩
      rcases receiveHeartbeat_spec h with ⟨found, hfound, hreceivable, _, hleases⟩
      rw [findLease_moved hfound hleases, if_pos rfl] at hlease
      cases hlease
      exact absurd hstatus (not_timedOut_of_heartbeat hreceivable params.completing)
  | reclaimLease params =>
      cases hr
      rcases committed_eq_ok.mp h with ⟨result, h⟩
      rcases reclaimLease_spec h with ⟨found, _, hfound, _, _, hleases, _⟩
      rw [findLease_moved hfound hleases, if_pos rfl] at hlease
      rw [hbefore] at hfound
      cases hfound
      cases hlease
      rfl
  | _ =>
      cases hr

/-- A request after which a lease accepts results, and before which it was another row,
found the lease STARTING, RUNNING or HEARTBEATING. -/
theorem settled_of_perform {r : Request} (h : perform s r = .ok s')
    (hnot : s.findLease lease.leaseId ≠ some lease)
    (hlease : s'.findLease lease.leaseId = some lease)
    (haccepting : lease.status ∈ resultAcceptingStates) :
    exists before, s.findLease lease.leaseId = some before ∧
      before.status ∈ reclaimableStates ∧
      (lease.status = .timedOut -> before.expiresAt = lease.expiresAt) := by
  cases leaseEffect_of_perform h with
  | unchanged heq =>
      apply absurd _ hnot
      rw [Store.findLease_of_leases_eq heq] at hlease
      exact hlease
  | created new _ _ hstatus hself hother =>
      by_cases hid : lease.leaseId = new.leaseId
      · rw [hid, hself] at hlease
        cases hlease
        rw [hstatus] at haccepting
        exact absurd haccepting (by decide)
      · rw [hother _ hid] at hlease
        exact absurd hlease hnot
  | moved id before target data hbefore hguard hdata _ hoperates heq =>
      by_cases hid : lease.leaseId = id
      · rw [← hid] at hbefore hoperates heq
        refine ⟨before, hbefore, ?_, ?_⟩
        · have hmoved : some (data.apply before) = some lease := by
            rw [findLease_moved hbefore heq, if_pos rfl] at hlease
            exact hlease
          have htarget : lease.status = target := by
            rw [← Option.some.inj hmoved, TaskLeaseUpdate.apply_status, hdata]
            rfl
          rw [htarget] at haccepting
          exact reclaimable_of_accepting_target hguard haccepting
        · exact expiresAt_of_timedOut h hoperates hbefore hlease
      · rw [findLease_moved hbefore heq, if_neg hid] at hlease
        exact absurd hlease hnot

/-- The lease was given its status by the request that arrived at the time `clock`, and
has been the same since then.  A TIMED_OUT lease still has the expiry of before. -/
def SettledAt (steps : List CompletionStep) (lease : TaskLease) (clock : Millis) : Prop :=
  exists first r second before,
    steps = first ++ .request clock r :: second ∧
    (completions.run Store.empty first).findLease lease.leaseId = some before ∧
    before.status ∈ reclaimableStates ∧
    (lease.status = .timedOut -> before.expiresAt = lease.expiresAt) ∧
    forall t, t ∈ completions.states
        (completions.run Store.empty (first ++ [.request clock r])) second ->
      t.findLease lease.leaseId = some lease

theorem findLease_acceptResult {params : AcceptResultParams} {result : AcceptResultResult}
    (h : Application.acceptResult now params s = .ok (s', result)) (id : LeaseId) :
    s'.findLease id = s.findLease id := by
  rcases acceptResult_eq_ok.mp h with ⟨_, _, _, hs', _⟩
  rw [hs']
  rfl

theorem settledAt_of_accepting {steps : List CompletionStep}
    (hlease : (completions.run Store.empty steps).findLease lease.leaseId = some lease)
    (haccepting : lease.status ∈ resultAcceptingStates) :
    exists clock, SettledAt steps lease clock := by
  have hstart : ¬ Store.empty.findLease lease.leaseId = some lease := by
    intro h
    cases h
  rcases completions.exists_last_entry
    (P := fun s => s.findLease lease.leaseId = some lease) hstart hlease with
    ⟨first, a, second, hsplit, hnot, hsince⟩
  have hentered := hsince _ (completions.self_mem_states _ second)
  cases hstep : completions.step (completions.run Store.empty first) a with
  | error e =>
      rw [completions.next_of_error hstep] at hentered
      exact absurd hentered hnot
  | ok s' =>
      have hs' : s'.findLease lease.leaseId = some lease := by
        rw [completions.next_of_ok hstep] at hentered
        exact hentered
      cases a with
      | acceptResult now params =>
          rcases committed_eq_ok.mp hstep with ⟨result, h⟩
          rw [findLease_acceptResult h] at hs'
          exact absurd hs' hnot
      | request clock r =>
          rcases settled_of_perform hstep hnot hs' haccepting with
            ⟨before, hbefore, hstatus, hexpiry⟩
          refine ⟨clock, first, r, second, before, hsplit, hbefore, hstatus, hexpiry, ?_⟩
          rw [completions.run_append]
          exact hsince

/-!
## What is accepted
-/

/-- The acceptance records the audit event and changes nothing else. -/
def OnlyRecorded (s s' : Store) (event : AuditEvent) : Prop :=
  s' = s.appendAudit event

theorem accepted_again {later : Millis} {params : AcceptResultParams}
    {result : AcceptResultResult} (h : Application.acceptResult now params s = .ok (s', result))
    (hlater : later ≤ computeGraceDeadline result.lease params.gracePeriodSeconds) :
    exists r, Application.acceptResult later params s' = .ok r := by
  rcases acceptResult_eq_ok.mp h with ⟨lease, hlease, hacceptable, _, hresult⟩
  apply acceptResult_accepted_iff.mpr
  refine ⟨lease, ?_, hacceptable.holder, hacceptable.accepting, ?_⟩
  · rw [findLease_acceptResult h]
    exact hlease
  · rw [hresult] at hlater
    exact hlater

theorem inTime_of_marked_after_expiry {clock : Millis} {params : AcceptResultParams}
    (h : Acceptable now params lease) (hstatus : lease.status = .timedOut)
    (hexpired : ofColumn lease.expiresAt ≤ clock) :
    now ≤ clock + params.gracePeriodSeconds * 1000 := by
  have hdeadline := h.inTime
  rw [computeGraceDeadline, if_neg (by rw [hstatus]; decide)] at hdeadline
  lia

/-- After any steps, a result is accepted exactly if its worker holds the lease, the lease
is COMPLETING or TIMED_OUT, and its deadline has not passed.  It is then only recorded,
and would be accepted again until the deadline.  The deadline has been the same since the
lease got its status, and it is no later than a grace period after that if the lease was
TIMED_OUT no earlier than its expiry. -/
theorem results_accepted_until_deadline (steps : List CompletionStep) (now : Millis)
    (params : AcceptResultParams) :
    ((exists r, Application.acceptResult now params (completions.run Store.empty steps) =
        .ok r) <->
      exists lease,
        (completions.run Store.empty steps).findLease params.leaseId = some lease ∧
          Acceptable now params lease) ∧
      forall s' result,
        Application.acceptResult now params (completions.run Store.empty steps) =
          .ok (s', result) ->
        OnlyRecorded (completions.run Store.empty steps) s' result.auditEvent ∧
        (forall later, later ≤ computeGraceDeadline result.lease params.gracePeriodSeconds ->
          exists r, Application.acceptResult later params s' = .ok r) ∧
        exists clock, SettledAt steps result.lease clock ∧
          (result.lease.status = .timedOut -> ofColumn result.lease.expiresAt ≤ clock ->
            now ≤ clock + params.gracePeriodSeconds * 1000) := by
  constructor
  · exact acceptResult_accepted_iff
  · intro s' result h
    refine ⟨?_, fun later hlater => accepted_again h hlater, ?_⟩
    · rcases acceptResult_eq_ok.mp h with ⟨lease, _, _, hs', hresult⟩
      rw [hresult]
      exact hs'
    · rcases acceptResult_eq_ok.mp h with ⟨lease, hlease, hacceptable, _, hresult⟩
      rw [hresult]
      have hid : lease.leaseId = params.leaseId := Table.key_of_find? hlease
      rw [← hid] at hlease
      rcases settledAt_of_accepting hlease hacceptable.accepting with ⟨clock, hsettled⟩
      exact ⟨clock, hsettled, inTime_of_marked_after_expiry hacceptable⟩

/-!
## A worker that was given up

The heartbeats of `worker-1` stop, its lease is marked TIMED_OUT long before it
expires, and the task is leased to `worker-2`.  When `worker-1` submits its
result after all, twice, both submissions are accepted.
-/

def system : ActorInfo where
  type := "system"
  id := "automation"

def leaseTo (workerId : WorkerId) : AcquireLeaseParams where
  taskId := "task-1"
  workerId := workerId
  poolId := "pool-1"
  ttlSeconds := 1800
  actor := system

def resultOfFirstWorker : AcceptResultParams where
  leaseId := "lease-1"
  workerId := "worker-1"
  gracePeriodSeconds := 15
  actor := { type := "worker", id := "worker-1" }

def stepsToTimeout : List CompletionStep :=
  [.request 0 (.createWorkerPool { workerPoolId := "pool-1", maxConcurrency := 2 }),
    .request 0 (.createTask
      { taskId := "task-1", repositoryId := "repo-1", taskType := "feature",
        priority := "high" }),
    .request 0 (.transitionTask "task-1" .ready
      { allDependenciesResolved := some true, hasPolicyBlockers := some false } system),
    .request 0 (.acquireLease 0 "lease-1" (leaseTo "worker-1")),
    .request 0
      (.transitionLease "lease-1" .starting { workerProcessSpawned := some true } system),
    .request 1000 (.receiveHeartbeat 1000 { leaseId := "lease-1", actor := system })]

def timeout : Request :=
  .reclaimLease
    { leaseId := "lease-1", reason := .missedHeartbeats, retryPolicy := defaultRetryPolicy,
      escalationPolicy := defaultEscalationPolicy, hasFailureSummary := true,
      actor := system }

def retake : CompletionStep :=
  .request 100000 (.acquireLease 100000 "lease-2" (leaseTo "worker-2"))

def givenUpRun : List CompletionStep :=
  stepsToTimeout ++ .request 80000 timeout ::
    [retake, .acceptResult 1000000 resultOfFirstWorker,
      .acceptResult 1001000 resultOfFirstWorker]

def timedOutLease : TaskLease where
  leaseId := "lease-1"
  taskId := "task-1"
  workerId := "worker-1"
  poolId := "pool-1"
  status := .timedOut
  leasedAt := 0
  expiresAt := 1800
  heartbeatAt := some 1
  reclaimReason := some "missed_heartbeats"

/-- Of the three expectations none holds. -/
theorem given_up_worker_accepted :
    ¬ AcceptedOnce givenUpRun ∧ ¬ NoneAfterNextLease givenUpRun ∧
      ¬ AcceptedWithinGrace givenUpRun := by
  constructor
  · intro h
    exact absurd (h "lease-1") (by decide +kernel)
  constructor
  · intro h
    have harrives := completions.mem_arrivals_append Store.empty
      (stepsToTimeout ++ .request 80000 timeout :: [retake])
      (.acceptResult 1000000 resultOfFirstWorker)
      [.acceptResult 1001000 resultOfFirstWorker]
    have htask : ((completions.run Store.empty
        (stepsToTimeout ++ .request 80000 timeout :: [retake])).findTask "task-1").map
          (fun task => task.currentLeaseId) = some (some "lease-2") := by
      decide +kernel
    rcases Option.map_eq_some_iff.mp htask with ⟨task, hfind, hcurrent⟩
    have hother := h _ harrives timedOutLease task "lease-2" (by decide +kernel)
      (by decide +kernel) rfl hfind hcurrent
    exact absurd hother (by decide)
  · intro h
    have harrives := completions.mem_arrivals_append
      (completions.run Store.empty (stepsToTimeout ++ [.request 80000 timeout]))
      [retake] (.acceptResult 1000000 resultOfFirstWorker)
      [.acceptResult 1001000 resultOfFirstWorker]
    have hinTime := h stepsToTimeout 80000 timeout _ 1000000 resultOfFirstWorker rfl
      (by
        intro hbefore
        rcases hbefore with ⟨lease, hfind, hstatus⟩
        have hrunning : ((completions.run Store.empty stepsToTimeout).findLease
            "lease-1").map (fun l => l.status) = some .running := by
          decide +kernel
        change (completions.run Store.empty stepsToTimeout).findLease "lease-1" =
          some lease at hfind
        rw [hfind, Option.map_some, hstatus] at hrunning
        cases hrunning)
      ⟨timedOutLease, by decide +kernel, rfl⟩ _ harrives (by decide +kernel)
    exact absurd hinTime (by decide)

end Leasing
end CopilotFactory
