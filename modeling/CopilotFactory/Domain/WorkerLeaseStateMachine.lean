import CopilotFactory.Foundations.GuardedMachine

/-!
# Worker lease state machine

The happy path is IDLE → LEASED → STARTING → RUNNING → HEARTBEATING → COMPLETING.
A fast worker may complete straight from STARTING.  Abnormal paths branch to
TIMED_OUT or CRASHED, from which a lease may be RECLAIMED.
-/

namespace CopilotFactory
namespace Domain

open Foundations

inductive WorkerLeaseStatus where
  | idle
  | leased
  | starting
  | running
  | heartbeating
  | completing
  | timedOut
  | crashed
  | reclaimed
deriving DecidableEq

def WorkerLeaseStatus.label : WorkerLeaseStatus -> String
  | .idle => "IDLE"
  | .leased => "LEASED"
  | .starting => "STARTING"
  | .running => "RUNNING"
  | .heartbeating => "HEARTBEATING"
  | .completing => "COMPLETING"
  | .timedOut => "TIMED_OUT"
  | .crashed => "CRASHED"
  | .reclaimed => "RECLAIMED"

structure WorkerLeaseTransitionContext where
  leaseAcquired : Flag := none
  workerProcessSpawned : Flag := none
  firstHeartbeatReceived : Flag := none
  heartbeatReceived : Flag := none
  completionSignalReceived : Flag := none
  heartbeatTimedOut : Flag := none
  workerCrashed : Flag := none
  reclaimRequested : Flag := none

namespace WorkerLease

def guardIdleToLeased (ctx : WorkerLeaseTransitionContext) : TransitionResult :=
  requireFlag ctx.leaseAcquired "Cannot transition IDLE → LEASED: lease not acquired"

def guardLeasedToStarting (ctx : WorkerLeaseTransitionContext) : TransitionResult :=
  requireFlag ctx.workerProcessSpawned
    "Cannot transition LEASED → STARTING: worker process not spawned"

def guardStartingToRunning (ctx : WorkerLeaseTransitionContext) : TransitionResult :=
  requireFlag ctx.firstHeartbeatReceived
    "Cannot transition STARTING → RUNNING: first heartbeat not received"

def guardRunningToHeartbeating (ctx : WorkerLeaseTransitionContext) : TransitionResult :=
  requireFlag ctx.heartbeatReceived
    "Cannot transition RUNNING → HEARTBEATING: heartbeat not received"

def guardHeartbeatingToHeartbeating
    (ctx : WorkerLeaseTransitionContext) : TransitionResult :=
  requireFlag ctx.heartbeatReceived
    "Cannot transition HEARTBEATING → HEARTBEATING: heartbeat not received"

def guardToCompleting (ctx : WorkerLeaseTransitionContext) : TransitionResult :=
  requireFlag ctx.completionSignalReceived
    "Cannot transition to COMPLETING: no completion signal received"

def guardToTimedOut (ctx : WorkerLeaseTransitionContext) : TransitionResult :=
  requireFlag ctx.heartbeatTimedOut
    "Cannot transition to TIMED_OUT: heartbeat timeout not expired"

def guardToCrashed (ctx : WorkerLeaseTransitionContext) : TransitionResult :=
  requireFlag ctx.workerCrashed
    "Cannot transition to CRASHED: worker has not crashed"

def guardToReclaimed (ctx : WorkerLeaseTransitionContext) : TransitionResult :=
  requireFlag ctx.reclaimRequested
    "Cannot transition to RECLAIMED: reclaim not requested"

def transitionGuards :
    WorkerLeaseStatus -> WorkerLeaseStatus ->
      Option (WorkerLeaseTransitionContext -> TransitionResult)
  -- Happy path
  | .idle, .leased => some guardIdleToLeased
  | .leased, .starting => some guardLeasedToStarting
  | .starting, .running => some guardStartingToRunning
  | .running, .heartbeating => some guardRunningToHeartbeating
  | .heartbeating, .heartbeating => some guardHeartbeatingToHeartbeating
  | .running, .completing => some guardToCompleting
  | .heartbeating, .completing => some guardToCompleting
  | .starting, .completing => some guardToCompleting
  -- Timeout paths
  | .starting, .timedOut => some guardToTimedOut
  | .running, .timedOut => some guardToTimedOut
  | .heartbeating, .timedOut => some guardToTimedOut
  -- Crash paths
  | .starting, .crashed => some guardToCrashed
  | .running, .crashed => some guardToCrashed
  | .heartbeating, .crashed => some guardToCrashed
  -- Reclaim paths
  | .timedOut, .reclaimed => some guardToReclaimed
  | .crashed, .reclaimed => some guardToReclaimed
  | _, _ => none

def machine : GuardedMachine WorkerLeaseStatus WorkerLeaseTransitionContext where
  subject := "worker lease"
  label := WorkerLeaseStatus.label
  guard := transitionGuards
  selfLoop := fun status => status = .heartbeating

end WorkerLease

def validateWorkerLeaseTransition (current target : WorkerLeaseStatus)
    (context : WorkerLeaseTransitionContext) : TransitionResult :=
  WorkerLease.machine.validate current target context

/-- COMPLETING and RECLAIMED, the states listed as terminal. -/
def isTerminalWorkerLeaseState (state : WorkerLeaseStatus) : Bool :=
  state ∈ [WorkerLeaseStatus.completing, WorkerLeaseStatus.reclaimed]

namespace WorkerLease

/-!
## What the machine permits

The listed terminal states are exactly the states without an outgoing
transition, in any context.
-/

theorem isTerminal_iff_no_transition (state : WorkerLeaseStatus) :
    isTerminalWorkerLeaseState state = true <->
      forall target context,
        validateWorkerLeaseTransition state target context ≠ .valid := by
  constructor
  · intro h target context
    apply GuardedMachine.validate_ne_valid_of_no_guard
    intro t
    cases state <;> cases t <;> first | rfl | simp [isTerminalWorkerLeaseState] at h
  · intro h
    -- A context in which every flag holds passes the guard of each known pair.
    let all : WorkerLeaseTransitionContext :=
      { leaseAcquired := some true, workerProcessSpawned := some true,
        firstHeartbeatReceived := some true, heartbeatReceived := some true,
        completionSignalReceived := some true, heartbeatTimedOut := some true,
        workerCrashed := some true, reclaimRequested := some true }
    cases state with
    | completing =>
        rfl
    | reclaimed =>
        rfl
    | idle =>
        exact absurd (by rfl) (h .leased all)
    | leased =>
        exact absurd (by rfl) (h .starting all)
    | starting =>
        exact absurd (by rfl) (h .running all)
    | running =>
        exact absurd (by rfl) (h .heartbeating all)
    | heartbeating =>
        exact absurd (by rfl) (h .completing all)
    | timedOut =>
        exact absurd (by rfl) (h .reclaimed all)
    | crashed =>
        exact absurd (by rfl) (h .reclaimed all)

theorem step_of_validate {current target : WorkerLeaseStatus}
    {context : WorkerLeaseTransitionContext}
    (h : validateWorkerLeaseTransition current target context = .valid) :
    (transitionGuards current target).isSome = true := by
  rcases GuardedMachine.guard_of_validate h with ⟨guard, hguard, _⟩
  change transitionGuards current target = some guard at hguard
  rw [hguard]
  rfl

end WorkerLease

end Domain
end CopilotFactory
