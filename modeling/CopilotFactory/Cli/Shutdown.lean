import CopilotFactory.Automation.FailedDispatches
import CopilotFactory.Scheduling.PoolCapacity

/-!
# Two-phase shutdown

The first signal starts a drain, which polls the lease table until no lease is counted or
its time is over.  Then the application is closed, and with it the timer of the
automation.  A second signal kills the registered child processes and exits.  All this goes
on beside the automation, the workers and their heartbeats.
-/

namespace CopilotFactory
namespace Cli

open Foundations
open Domain
open Infrastructure
open Application
open ControlPlane
open Scheduling
open Automation

variable {now startTime : Millis} {readable : Bool}

abbrev Pid := Nat

/-!
## The drain
-/

def activeLeaseStates : List WorkerLeaseStatus :=
  [.starting, .running, .heartbeating, .completing]

def defaultDrainTimeoutMs : Millis :=
  30000

def defaultPollIntervalMs : Millis :=
  2000

/-- The count of a read-only connection.  One that cannot be opened or queried counts
nothing. -/
def countActiveLeases : Option Store -> Nat
  | some s => s.taskLeases.rows.countP (fun lease => lease.status ∈ activeLeaseStates)
  | none => 0

structure DrainResult where
  drained : Bool
  remainingLeases : Nat
  elapsedMs : Millis
deriving DecidableEq

def drainTurn (timeoutMs startTime now : Millis) (remaining : Nat) : Option DrainResult :=
  if remaining > 0 then
    let elapsed := now - startTime
    if elapsed ≥ timeoutMs then
      some { drained := false, remainingLeases := remaining, elapsedMs := elapsed }
    else
      none
  else
    some { drained := true, remainingLeases := 0, elapsedMs := now - startTime }

/-- Send SIGKILL to each process of the set.  One that is dead already is ignored. -/
def forceKillChildren (pids alive : List Pid) : List Pid :=
  alive.filter (fun pid => pid ∉ pids)

/-!
## The process and what goes on in it
-/

structure ShutdownConfig where
  childPids : List Pid
  drainTimeoutMs : Millis := defaultDrainTimeoutMs

inductive FactoryPhase where
  | serving
  /-- Asleep until the next count. -/
  | draining (startTime wakesAt : Millis)
  /-- The drain has ended and `shutdown` has been called. -/
  | closing (result : DrainResult)
  | exited (code : Nat) (forced : Bool)
deriving DecidableEq

structure Factory where
  tables : SchedulerTables
  phase : FactoryPhase
  /-- The interval timer of the automation is set. -/
  polling : Bool
  activeDispatches : List DispatchPayload
  /-- The worker processes that are alive. -/
  workers : List Pid

inductive FactoryEvent where
  /-- SIGINT or SIGTERM, and whether the database can be read at that time. -/
  | signal (now : Millis) (readable : Bool)
  | poll (now : Millis) (readable : Bool)
  /-- The application is closed: `onModuleDestroy` of the automation. -/
  | closeApp
  /-- The promise of `shutdown` settles. -/
  | finish (rejected : Bool)
  /-- A cycle of the automation leases a task and queues its dispatch. -/
  | assign (now : Millis) (leaseId : LeaseId) (task : SchedulableTask)
      (pool : SchedulablePool) (workerId : WorkerId) (jobId : JobId)
  /-- A cycle of the automation claims a dispatch job. -/
  | dispatch (now : Millis) (leaseOwner : String)
  /-- Heartbeats, reclaims and the requests of operators. -/
  | request (r : Request)
  /-- The process of a dispatched worker starts. -/
  | startRun (payload : DispatchPayload) (pid : Pid)
  | workerExits (pid : Pid)

namespace Factory

def view (w : Factory) (readable : Bool) : Option Store :=
  if readable then some w.tables.store else none

def exited (w : Factory) : Bool :=
  match w.phase with
  | .exited _ _ => true
  | _ => false

def count (w : Factory) (config : ShutdownConfig) (startTime now : Millis)
    (readable : Bool) : Factory :=
  match drainTurn config.drainTimeoutMs startTime now
      (countActiveLeases (w.view readable)) with
  | some result => { w with phase := .closing result }
  | none => { w with phase := .draining startTime (now + defaultPollIntervalMs) }

def forceStop (w : Factory) (config : ShutdownConfig) : Factory :=
  { w with
    workers := forceKillChildren config.childPids w.workers
    phase := .exited 1 true }

end Factory

def handleSignal (config : ShutdownConfig) (w : Factory) (now : Millis) (readable : Bool) :
    Except ServiceError Factory :=
  match w.phase with
  | .serving => .ok (w.count config now now readable)
  | .draining _ _ => .ok (w.forceStop config)
  | .closing _ => .ok (w.forceStop config)
  | .exited _ _ => .error (.constraintViolation "process" "exited")

/-- An event that the process is not ready for does not happen. -/
def factoryStep (config : ShutdownConfig) (w : Factory) :
    FactoryEvent -> Except ServiceError Factory
  | .signal now readable => handleSignal config w now readable
  | .poll now readable =>
      match w.phase with
      | .draining startTime wakesAt => do
          ensure (wakesAt ≤ now) (.constraintViolation "drain" "asleep")
          pure (w.count config startTime now readable)
      | _ => .error (.constraintViolation "drain" "phase")
  | .closeApp =>
      match w.phase with
      | .closing _ => .ok { w with polling := false }
      | _ => .error (.constraintViolation "shutdown" "phase")
  | .finish rejected =>
      match w.phase with
      | .closing _ =>
          if rejected then
            .ok { w with phase := .exited 1 false }
          else do
            -- `shutdown` resolves after the application is closed
            ensure (w.polling = false) (.constraintViolation "shutdown" "polling")
            pure { w with phase := .exited 0 false }
      | _ => .error (.constraintViolation "shutdown" "phase")
  | .assign now leaseId task pool workerId jobId => do
      ensure (w.polling = true ∧ w.exited = false) (.constraintViolation "automation" "timer")
      let (s, _) ← acquireLease now leaseId (assignmentParams task pool workerId)
        w.tables.store
      match createJob now jobId (dispatchJobData task pool leaseId workerId) w.tables.jobs with
      | .ok (jobs, _) => pure { w with tables := { store := s, jobs := jobs } }
      -- the lease is committed before its job is queued
      | .error _ => pure { w with tables := { w.tables with store := s } }
  | .dispatch now leaseOwner => do
      ensure (w.polling = true ∧ w.exited = false) (.constraintViolation "automation" "timer")
      match claimJob .workerDispatch leaseOwner now w.tables.jobs with
      | none => pure w
      | some (jobs, job) =>
          pure { w with
            tables := { w.tables with jobs := jobs }
            activeDispatches := job.payload.toList ++ w.activeDispatches }
  | .request r => do
      ensure (w.exited = false) (.constraintViolation "process" "exited")
      let s ← perform w.tables.store r
      pure { w with tables := { w.tables with store := s } }
  | .startRun payload pid => do
      ensure (w.exited = false ∧ payload ∈ w.activeDispatches)
        (.constraintViolation "process" "exited")
      pure { w with workers := pid :: w.workers }
  | .workerExits pid => .ok { w with workers := w.workers.filter (fun other => other ≠ pid) }

def factoryProcess (config : ShutdownConfig) :
    TransitionSystem Factory FactoryEvent ServiceError where
  step := factoryStep config

/-!
## What one event does
-/

variable {config : ShutdownConfig} {w w' : Factory} {e : FactoryEvent}

/-- The count of an event, and the time from which the drain is measured. -/
inductive Counts (w : Factory) (e : FactoryEvent) (startTime now : Millis)
    (readable : Bool) : Prop where
  | first (hphase : w.phase = .serving) (he : e = .signal now readable)
      (hstart : startTime = now)
  | again (wakesAt : Millis) (hphase : w.phase = .draining startTime wakesAt)
      (hwoken : wakesAt ≤ now) (he : e = .poll now readable)

/-- The shutdown goes on by a count, by a second signal, by closing the application or by
the end of `shutdown`.  Everything else leaves it where it is. -/
inductive Change (config : ShutdownConfig) (w w' : Factory) (e : FactoryEvent) : Prop where
  | counted (startTime now : Millis) (readable : Bool)
      (hcounts : Counts w e startTime now readable)
      (h : w' = w.count config startTime now readable)
  | forced (hphase : (exists startTime wakesAt, w.phase = .draining startTime wakesAt) ∨
        exists result, w.phase = .closing result)
      (h : w' = w.forceStop config)
  | closed (result : DrainResult) (hphase : w.phase = .closing result)
      (h : w' = { w with polling := false })
  | finished (result : DrainResult) (code : Nat) (hphase : w.phase = .closing result)
      (hclosed : code = 0 -> w.polling = false)
      (h : w' = { w with phase := .exited code false })
  | worked (hphase : w'.phase = w.phase) (hpolling : w'.polling = w.polling)
      (hworkers : w.exited = true -> forall pid, pid ∈ w'.workers -> pid ∈ w.workers)

theorem change_of_signal (h : handleSignal config w now readable = .ok w') :
    Change config w w' (.signal now readable) := by
  unfold handleSignal at h
  split at h
  · rename_i hphase
    cases h
    exact .counted now now readable (.first hphase rfl rfl) rfl
  · rename_i startTime wakesAt hphase
    cases h
    exact .forced (Or.inl ⟨startTime, wakesAt, hphase⟩) rfl
  · rename_i result hphase
    cases h
    exact .forced (Or.inr ⟨result, hphase⟩) rfl
  · cases h

theorem change_of_step (h : (factoryProcess config).step w e = .ok w') :
    Change config w w' e := by
  change factoryStep config w e = .ok w' at h
  cases e with
  | signal now readable =>
      exact change_of_signal h
  | poll now readable =>
      simp only [factoryStep] at h
      split at h
      · rename_i startTime wakesAt hphase
        simp only [bind_eq_ok, ensure_eq_ok, pure_eq_ok] at h
        rcases h with ⟨_, hwoken, hw'⟩
        exact .counted startTime now readable (.again wakesAt hphase hwoken rfl) hw'.symm
      · cases h
  | closeApp =>
      simp only [factoryStep] at h
      split at h
      · rename_i result hphase
        cases h
        exact .closed result hphase rfl
      · cases h
  | finish rejected =>
      simp only [factoryStep] at h
      split at h
      · rename_i result hphase
        split at h
        · cases h
          exact .finished result 1 hphase (fun hcode => by cases hcode) rfl
        · simp only [bind_eq_ok, ensure_eq_ok, pure_eq_ok] at h
          rcases h with ⟨_, hclosed, hw'⟩
          exact .finished result 0 hphase (fun _ => hclosed) hw'.symm
      · cases h
  | assign now leaseId task pool workerId jobId =>
      simp only [factoryStep, bind_eq_ok] at h
      rcases h with ⟨_, _, ⟨s, result⟩, _, h⟩
      split at h
      · cases h
        exact .worked rfl rfl (fun _ _ hpid => hpid)
      · cases h
        exact .worked rfl rfl (fun _ _ hpid => hpid)
  | dispatch now leaseOwner =>
      simp only [factoryStep, bind_eq_ok] at h
      rcases h with ⟨_, _, h⟩
      split at h
      · cases h
        exact .worked rfl rfl (fun _ _ hpid => hpid)
      · cases h
        exact .worked rfl rfl (fun _ _ hpid => hpid)
  | request r =>
      simp only [factoryStep, bind_eq_ok, pure_eq_ok] at h
      rcases h with ⟨_, _, s, _, hw'⟩
      rw [← hw']
      exact .worked rfl rfl (fun _ _ hpid => hpid)
  | startRun payload pid =>
      simp only [factoryStep, bind_eq_ok, ensure_eq_ok, pure_eq_ok] at h
      rcases h with ⟨_, hready, hw'⟩
      rw [← hw']
      refine .worked rfl rfl ?_
      intro hexited
      rw [hexited] at hready
      cases hready.1
  | workerExits pid =>
      cases h
      exact .worked rfl rfl (fun _ other hother => (List.mem_filter.mp hother).1)

def FactoryEvent.IsAutomation (e : FactoryEvent) : Prop :=
  (exists now leaseId task pool workerId jobId,
    e = .assign now leaseId task pool workerId jobId) ∨
  exists now leaseOwner, e = .dispatch now leaseOwner

theorem automation_stopped (hstopped : w.polling = false ∨ w.exited = true)
    (he : e.IsAutomation) :
    (factoryProcess config).next w e = w := by
  have hnot : ¬ (w.polling = true ∧ w.exited = false) := by
    rcases hstopped with hpolling | hexited
    · simp [hpolling]
    · simp [hexited]
  have hstep : (factoryProcess config).step w e =
      .error (.constraintViolation "automation" "timer") := by
    change factoryStep config w e = _
    rcases he with ⟨now, leaseId, task, pool, workerId, jobId, rfl⟩ | ⟨now, leaseOwner, rfl⟩
    · simp only [factoryStep, ensure_of_not hnot, error_bind]
    · simp only [factoryStep, ensure_of_not hnot, error_bind]
  exact TransitionSystem.next_of_error _ hstep

/-!
## The result of the drain
-/

/-- A lease that the connection of a count sees is in one of the active states. -/
def SeesActiveLease (database : Option Store) : Prop :=
  exists s lease, database = some s ∧ lease ∈ s.taskLeases ∧
    lease.status ∈ activeLeaseStates

theorem countActiveLeases_pos_iff {database : Option Store} :
    0 < countActiveLeases database <-> SeesActiveLease database := by
  cases database with
  | none =>
      simp [countActiveLeases, SeesActiveLease]
  | some s =>
      simp [countActiveLeases, SeesActiveLease, List.countP_pos_iff, Table.mem_def]

variable {result : DrainResult}

theorem drainTurn_eq_some {timeoutMs : Millis} {remaining : Nat}
    (h : drainTurn timeoutMs startTime now remaining = some result) :
    (result.drained = true <-> ¬ 0 < remaining) ∧
      (result.drained = false -> timeoutMs ≤ now - startTime) := by
  unfold drainTurn at h
  split at h
  · rename_i hremaining
    dsimp only at h
    split at h
    · rename_i helapsed
      cases h
      exact ⟨⟨fun hfalse => absurd hfalse (by simp), fun hnot => absurd hremaining hnot⟩,
        fun _ => helapsed⟩
    · cases h
  · rename_i hremaining
    cases h
    exact ⟨iff_of_true rfl hremaining, fun hfalse => absurd hfalse (by simp)⟩

/-- No drain goes to sleep again after its time is over. -/
theorem drainTurn_isSome {timeoutMs : Millis} (remaining : Nat)
    (h : timeoutMs ≤ now - startTime) :
    (drainTurn timeoutMs startTime now remaining).isSome = true := by
  unfold drainTurn
  split
  · rw [if_pos h]
    rfl
  · rfl

theorem phase_count_eq_closing
    (h : (w.count config startTime now readable).phase = .closing result) :
    drainTurn config.drainTimeoutMs startTime now (countActiveLeases (w.view readable)) =
      some result := by
  unfold Factory.count at h
  split at h
  · rename_i found hfound
    cases h
    exact hfound
  · cases h

/-!
## Every run of the process
-/

def EndsDrain (config : ShutdownConfig) (w : Factory) (e : FactoryEvent)
    (result : DrainResult) : Prop :=
  (forall earlier, w.phase ≠ .closing earlier) ∧
    ((factoryProcess config).next w e).phase = .closing result

def firstSignal : List FactoryEvent -> Option Millis
  | [] => none
  | .signal now _ :: _ => some now
  | _ :: rest => firstSignal rest

/-- What a shutdown guarantees in a run of the process.  The drain is measured from the
first signal, it reports success exactly if its last count sees no active lease, and it
ends with the first count after its time.  Once the application is closed, or the process
has exited, the automation does nothing any more.  A second signal exits, and then no
registered process is alive. -/
structure TwoPhaseShutdown (config : ShutdownConfig) (w : Factory)
    (events : List FactoryEvent) : Prop where
  counted : forall x, x ∈ (factoryProcess config).arrivals w events -> forall result,
    EndsDrain config x.1 x.2 result ->
      exists startTime now readable, Counts x.1 x.2 startTime now readable ∧
        (result.drained = true <-> ¬ SeesActiveLease (x.1.view readable)) ∧
        (result.drained = false -> config.drainTimeoutMs ≤ now - startTime)
  measured : forall x, x ∈ (factoryProcess config).arrivals w events ->
    forall startTime now readable, Counts x.1 x.2 startTime now readable ->
      firstSignal events = some startTime
  ends : forall x, x ∈ (factoryProcess config).arrivals w events ->
    forall startTime now readable, Counts x.1 x.2 startTime now readable ->
      config.drainTimeoutMs ≤ now - startTime ->
        exists result, EndsDrain config x.1 x.2 result
  closed : forall w', w' ∈ (factoryProcess config).states w events ->
    w'.phase = .exited 0 false -> w'.polling = false
  stopped : forall x, x ∈ (factoryProcess config).arrivals w events ->
    x.1.polling = false ∨ x.1.exited = true -> x.2.IsAutomation ->
      (factoryProcess config).next x.1 x.2 = x.1
  final : forall before after, events = before ++ after ->
    ((factoryProcess config).run w before).polling = false ->
      forall w', w' ∈ (factoryProcess config).states ((factoryProcess config).run w before)
        after -> w'.polling = false
  forced : forall x, x ∈ (factoryProcess config).arrivals w events -> x.1.phase ≠ .serving ->
    x.1.exited = false -> forall now readable, x.2 = .signal now readable ->
      ((factoryProcess config).next x.1 x.2).phase = .exited 1 true
  killed : forall w', w' ∈ (factoryProcess config).states w events ->
    w'.phase = .exited 1 true -> forall pid, pid ∈ config.childPids -> pid ∉ w'.workers

theorem next_of_counts (h : Counts w e startTime now readable) :
    (factoryProcess config).next w e = w.count config startTime now readable := by
  apply TransitionSystem.next_of_ok
  cases h with
  | first hphase he hstart =>
      rw [he, hstart]
      change handleSignal config w now readable = _
      simp only [handleSignal, hphase]
  | again wakesAt hphase hwoken he =>
      rw [he]
      change factoryStep config w (.poll now readable) = _
      simp only [factoryStep, hphase, ensure_of hwoken, ok_bind]
      rfl

theorem not_closing_of_counts (h : Counts w e startTime now readable) (result : DrainResult) :
    w.phase ≠ .closing result := by
  cases h with
  | first hphase _ _ =>
      rw [hphase]
      simp
  | again _ hphase _ _ =>
      rw [hphase]
      simp

/-- Only a count ends the drain. -/
theorem counts_of_endsDrain (h : EndsDrain config w e result) :
    exists startTime now readable, Counts w e startTime now readable ∧
      drainTurn config.drainTimeoutMs startTime now (countActiveLeases (w.view readable)) =
        some result := by
  rcases h with ⟨hnot, hclosing⟩
  cases hstep : (factoryProcess config).step w e with
  | error error =>
      rw [TransitionSystem.next_of_error _ hstep] at hclosing
      exact absurd hclosing (hnot result)
  | ok w' =>
      rw [TransitionSystem.next_of_ok _ hstep] at hclosing
      cases change_of_step hstep with
      | counted startTime now readable hcounts hw' =>
          rw [hw'] at hclosing
          exact ⟨startTime, now, readable, hcounts, phase_count_eq_closing hclosing⟩
      | forced _ hw' =>
          rw [hw'] at hclosing
          cases hclosing
      | closed earlier hphase _ =>
          exact absurd hphase (hnot earlier)
      | finished earlier _ hphase _ _ =>
          exact absurd hphase (hnot earlier)
      | worked hphase _ _ =>
          rw [hphase] at hclosing
          exact absurd hclosing (hnot result)

theorem endsDrain_of_late (h : Counts w e startTime now readable)
    (hlate : config.drainTimeoutMs ≤ now - startTime) :
    exists result, EndsDrain config w e result := by
  rcases Option.isSome_iff_exists.mp
    (drainTurn_isSome (countActiveLeases (w.view readable)) hlate) with ⟨result, hresult⟩
  refine ⟨result, not_closing_of_counts h, ?_⟩
  rw [next_of_counts h]
  unfold Factory.count
  rw [hresult]

/-!
### Invariants
-/

/-- A graceful exit comes after the timer is stopped, and a forced one leaves no registered
process. -/
structure ShutdownInvariant (config : ShutdownConfig) (w : Factory) : Prop where
  closed : w.phase = .exited 0 false -> w.polling = false
  killed : w.phase = .exited 1 true -> forall pid, pid ∈ config.childPids -> pid ∉ w.workers

theorem not_exited_count (startTime now : Millis) (readable : Bool) (code : Nat)
    (forced : Bool) :
    (w.count config startTime now readable).phase ≠ .exited code forced := by
  unfold Factory.count
  split
  · simp
  · simp

theorem shutdownInvariant_preserved :
    (factoryProcess config).Preserves (fun _ => True) (ShutdownInvariant config) := by
  intro w e w' _ h hstep
  cases change_of_step hstep with
  | counted startTime now readable _ hw' =>
      rw [hw']
      exact
        { closed := fun hexited => absurd hexited (not_exited_count _ _ _ _ _)
          killed := fun hexited => absurd hexited (not_exited_count _ _ _ _ _) }
  | forced _ hw' =>
      rw [hw']
      exact
        { closed := by
            intro hphase
            cases hphase
          killed := by
            intro _ pid hpid hmem
            have hnot := (List.mem_filter.mp hmem).2
            exact absurd hpid (of_decide_eq_true hnot) }
  | closed result _ hw' =>
      rw [hw']
      exact
        { closed := fun _ => rfl
          killed := h.killed }
  | finished result code _ hclosed hw' =>
      rw [hw']
      exact
        { closed := by
            intro hphase
            cases hphase
            exact hclosed rfl
          killed := by
            intro hphase
            cases hphase }
  | worked hphase hpolling hworkers =>
      exact
        { closed := by
            intro hexited
            rw [hphase] at hexited
            rw [hpolling]
            exact h.closed hexited
          killed := by
            intro hexited pid hpid hmem
            rw [hphase] at hexited
            have hgone : w.exited = true := by
              unfold Factory.exited
              rw [hexited]
            exact h.killed hexited pid hpid (hworkers hgone pid hmem) }

theorem stopped_preserved :
    (factoryProcess config).Preserves (fun _ => True) (fun w => w.polling = false) := by
  intro w e w' _ h hstep
  cases change_of_step hstep with
  | counted startTime now readable _ hw' =>
      rw [hw']
      unfold Factory.count
      split
      · exact h
      · exact h
  | forced _ hw' =>
      rw [hw']
      exact h
  | closed _ _ hw' =>
      rw [hw']
  | finished _ _ _ _ hw' =>
      rw [hw']
      exact h
  | worked _ hpolling _ =>
      rw [hpolling]
      exact h

/-- The drain is measured from the time, which is that of the first signal still to come
while none has come. -/
structure MeasuredFrom (start : Option Millis) (rest : List FactoryEvent) (w : Factory) :
    Prop where
  serving : w.phase = .serving -> firstSignal rest = start
  draining : forall startTime wakesAt, w.phase = .draining startTime wakesAt ->
    start = some startTime

theorem firstSignal_cons (he : forall now readable, e ≠ .signal now readable)
    (rest : List FactoryEvent) :
    firstSignal (e :: rest) = firstSignal rest := by
  cases e with
  | signal now readable =>
      exact absurd rfl (he now readable)
  | _ =>
      rfl

variable {rest : List FactoryEvent}

theorem startTime_of_counts {start : Option Millis} (h : MeasuredFrom start (e :: rest) w)
    (hcounts : Counts w e startTime now readable) : start = some startTime := by
  cases hcounts with
  | first hphase he hstart =>
      rw [← h.serving hphase, he, hstart]
      rfl
  | again wakesAt hphase _ _ =>
      exact h.draining startTime wakesAt hphase

theorem measuredFrom_of_over {start : Option Millis} (hserving : w.phase ≠ .serving)
    (hdraining : forall startTime wakesAt, w.phase ≠ .draining startTime wakesAt) :
    MeasuredFrom start rest w where
  serving := fun hphase => absurd hphase hserving
  draining := fun startTime wakesAt hphase => absurd hphase (hdraining startTime wakesAt)

theorem measuredFrom_of_phase {start : Option Millis} (h : MeasuredFrom start rest w)
    (hphase : w'.phase = w.phase) :
    MeasuredFrom start rest w' where
  serving := by
    intro hserving
    rw [hphase] at hserving
    exact h.serving hserving
  draining := by
    intro startTime wakesAt hdraining
    rw [hphase] at hdraining
    exact h.draining startTime wakesAt hdraining

theorem measuredFrom_count {start : Option Millis} (hstart : start = some startTime)
    (now : Millis) (readable : Bool) :
    MeasuredFrom start rest (w.count config startTime now readable) := by
  unfold Factory.count
  split
  · exact measuredFrom_of_over (by simp) (by simp)
  · exact
      { serving := by
          intro hserving
          cases hserving
        draining := by
          intro _ _ hdraining
          cases hdraining
          exact hstart }

theorem measuredFrom_next {start : Option Millis} (h : MeasuredFrom start (e :: rest) w) :
    MeasuredFrom start rest ((factoryProcess config).next w e) := by
  by_cases hsignal : w.phase = .serving ∧ exists now readable, e = .signal now readable
  · rcases hsignal with ⟨hphase, now, readable, he⟩
    have hcounts : Counts w e now now readable := .first hphase he rfl
    rw [next_of_counts hcounts]
    exact measuredFrom_count (startTime_of_counts h hcounts) now readable
  · have hquiet : MeasuredFrom start rest w :=
      { serving := by
          intro hphase
          rw [← h.serving hphase]
          exact (firstSignal_cons (fun now readable he =>
            hsignal ⟨hphase, now, readable, he⟩) rest).symm
        draining := h.draining }
    refine (factoryProcess config).next_cases hquiet ?_
    intro w' hstep
    cases change_of_step hstep with
    | counted startTime now readable hcounts hw' =>
        rw [hw']
        exact measuredFrom_count (startTime_of_counts h hcounts) now readable
    | forced _ hw' =>
        rw [hw']
        exact measuredFrom_of_over (by simp [Factory.forceStop]) (by simp [Factory.forceStop])
    | closed _ _ hw' =>
        rw [hw']
        exact measuredFrom_of_phase hquiet rfl
    | finished _ _ _ _ hw' =>
        rw [hw']
        exact measuredFrom_of_over (by simp) (by simp)
    | worked hphase _ _ =>
        exact measuredFrom_of_phase hquiet hphase

theorem measured_of_arrivals {start : Option Millis} {events : List FactoryEvent}
    {x : Factory × FactoryEvent} (hx : x ∈ (factoryProcess config).arrivals w events)
    (h : MeasuredFrom start events w) (hcounts : Counts x.1 x.2 startTime now readable) :
    start = some startTime := by
  induction events generalizing w with
  | nil =>
      cases hx
  | cons e rest ih =>
      rcases List.mem_cons.mp hx with rfl | hrest
      · exact startTime_of_counts h hcounts
      · exact ih hrest (measuredFrom_next h)

theorem forced_of_signal (hphase : w.phase ≠ .serving) (hrunning : w.exited = false) :
    (factoryProcess config).next w (.signal now readable) = w.forceStop config := by
  apply TransitionSystem.next_of_ok
  change handleSignal config w now readable = _
  unfold handleSignal
  cases hcase : w.phase with
  | serving =>
      exact absurd hcase hphase
  | exited code forced =>
      unfold Factory.exited at hrunning
      rw [hcase] at hrunning
      cases hrunning
  | _ =>
      rfl

/-- In every run of a serving factory the shutdown keeps what it guarantees. -/
theorem two_phase_shutdown (config : ShutdownConfig) (w : Factory)
    (events : List FactoryEvent) (hserving : w.phase = .serving) :
    TwoPhaseShutdown config w events := by
  have hstart : ShutdownInvariant config w :=
    { closed := by
        intro hphase
        rw [hserving] at hphase
        cases hphase
      killed := by
        intro hphase
        rw [hserving] at hphase
        cases hphase }
  have hmeasured : MeasuredFrom (firstSignal events) events w :=
    { serving := fun _ => rfl
      draining := by
        intro _ _ hphase
        rw [hserving] at hphase
        cases hphase }
  have hstates : forall w', w' ∈ (factoryProcess config).states w events ->
      ShutdownInvariant config w' :=
    fun w' hw' => shutdownInvariant_preserved.states (fun _ _ => trivial) hstart hw'
  exact
    { counted := by
        intro x _ result hends
        rcases counts_of_endsDrain hends with ⟨startTime, now, readable, hcounts, hturn⟩
        rcases drainTurn_eq_some hturn with ⟨hdrained, hlate⟩
        rw [countActiveLeases_pos_iff] at hdrained
        exact ⟨startTime, now, readable, hcounts, hdrained, hlate⟩
      measured := fun x hx startTime now readable hcounts =>
        measured_of_arrivals hx hmeasured hcounts
      ends := fun x _ startTime now readable hcounts hlate => endsDrain_of_late hcounts hlate
      closed := fun w' hw' hexited => (hstates w' hw').closed hexited
      stopped := fun x _ hstopped hautomation => automation_stopped hstopped hautomation
      final := fun before after _ hstopped w' hw' =>
        stopped_preserved.states (fun _ _ => trivial) hstopped hw'
      forced := by
        intro x _ hphase hrunning now readable he
        rw [he, forced_of_signal hphase hrunning]
        rfl
      killed := fun w' hw' hexited => (hstates w' hw').killed hexited }

/-!
## A shutdown during a lease
-/

def leasedFactory : Factory where
  tables :=
    { store := scheduledStore
      jobs := scheduledWorld.outer.jobs }
  phase := .serving
  polling := true
  activeDispatches := []
  workers := []

def leasedShutdown : List FactoryEvent :=
  [.signal 5000 true, .closeApp, .finish false]

theorem two_phase_shutdown_leased :
    leasedFactory.phase = .serving ∧
      TwoPhaseShutdown { childPids := [7] } leasedFactory leasedShutdown :=
  ⟨rfl, two_phase_shutdown { childPids := [7] } leasedFactory leasedShutdown rfl⟩

def SeesLiveLease (database : Option Store) : Prop :=
  exists s lease, database = some s ∧ lease ∈ s.taskLeases ∧
    lease.status ∈ [.leased, .starting, .running, .heartbeating]

/-- What one would ask of a shutdown: after the first signal the automation does nothing,
a drain reports success exactly if it has read the database and no worker can still act,
and a second signal leaves no worker process. -/
structure StrictShutdown (config : ShutdownConfig) (w : Factory)
    (events : List FactoryEvent) : Prop where
  idle : forall x, x ∈ (factoryProcess config).arrivals w events -> x.1.phase ≠ .serving ->
    x.2.IsAutomation -> (factoryProcess config).next x.1 x.2 = x.1
  counted : forall x, x ∈ (factoryProcess config).arrivals w events -> forall result,
    EndsDrain config x.1 x.2 result -> forall startTime now readable,
      Counts x.1 x.2 startTime now readable ->
        (result.drained = true <->
          readable = true ∧ ¬ SeesLiveLease (x.1.view readable))
  killed : forall w', w' ∈ (factoryProcess config).states w events ->
    w'.phase = .exited 1 true -> w'.workers = []

/-- A lease whose worker is about to be started does not delay the drain. -/
theorem shutdown_overlooks_leased :
    ¬ StrictShutdown { childPids := [7] } leasedFactory leasedShutdown := by
  intro h
  have hcounts : Counts leasedFactory (.signal 5000 true) 5000 5000 true :=
    .first rfl rfl rfl
  have hends : EndsDrain { childPids := [7] } leasedFactory (.signal 5000 true)
      { drained := true, remainingLeases := 0, elapsedMs := 0 } := by
    refine ⟨not_closing_of_counts hcounts, ?_⟩
    rw [next_of_counts hcounts]
    decide +kernel
  rcases (h.counted _ List.mem_cons_self _ hends 5000 5000 true hcounts).mp rfl with
    ⟨_, hnone⟩
  apply hnone
  have hleased : exists lease, lease ∈ scheduledStore.taskLeases.rows ∧
      lease.status = .leased := by
    decide +kernel
  rcases hleased with ⟨lease, hlease, hstatus⟩
  refine ⟨scheduledStore, lease, rfl, Table.mem_def.mpr hlease, ?_⟩
  rw [hstatus]
  exact List.mem_cons_self

end Cli
end CopilotFactory
