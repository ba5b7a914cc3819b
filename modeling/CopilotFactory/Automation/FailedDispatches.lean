import CopilotFactory.Automation.WorkerDispatchService
import CopilotFactory.Leasing.Exclusivity

/-!
# Failed dispatches and their leases

When a dispatch fails, its lease should be released and its task freed.  The
lease stays LEASED until the worker process has started, and a LEASED lease is
not reclaimed, so a failure before that point leaves both as they were.
-/

namespace CopilotFactory
namespace Automation

open Foundations
open Domain
open Infrastructure
open Application
open ControlPlane
open Leasing

variable {w₀ : World Machinery}

def LeaseHeld (leaseId : LeaseId) (taskId : TaskId) (statuses : List WorkerLeaseStatus)
    (s : Store) : Prop :=
  exists lease, s.findLease leaseId = some lease ∧ lease.taskId = taskId ∧
    lease.status ∈ statuses

/-- The lease is not active, and the task is not left working under it. -/
def LeaseReleased (leaseId : LeaseId) (taskId : TaskId) (s : Store) : Prop :=
  (forall lease, s.findLease leaseId = some lease -> ¬ Active lease.status) ∧
    forall task, s.findTask taskId = some task ->
      (task.status = .assigned ∨ task.status = .inDevelopment) ->
        task.currentLeaseId ≠ some leaseId

theorem not_released_of_leased {leaseId : LeaseId} {taskId : TaskId} {s : Store}
    (h : LeaseHeld leaseId taskId [.leased] s) :
    ¬ LeaseReleased leaseId taskId s := by
  intro hreleased
  rcases h with ⟨lease, hlease, _, hstatus⟩
  apply hreleased.1 lease hlease
  rw [List.mem_singleton.mp hstatus]
  decide

/-!
## Requests of others

The supervisor is the only caller that moves the lease it was given: others do
anything but that.
-/

theorem leaseHeld_preserved (leaseId : LeaseId) (taskId : TaskId)
    (statuses : List WorkerLeaseStatus) :
    controlPlane.Preserves (fun r => ¬ OperatesOn leaseId r)
      (LeaseHeld leaseId taskId statuses) := by
  intro s r s' hr hs h
  rcases hs with ⟨lease, hlease, htask, hstatus⟩
  refine ⟨lease, ?_, htask, hstatus⟩
  cases leaseEffect_of_perform h with
  | unchanged heq =>
      rw [Store.findLease_of_leases_eq heq]
      exact hlease
  | created new hnew _ _ _ hother =>
      have hid : leaseId ≠ new.leaseId := by
        intro hid
        rw [hid, hnew] at hlease
        cases hlease
      rw [hother leaseId hid]
      exact hlease
  | moved id old target data hold _ _ _ hoperates heq =>
      have hid : leaseId ≠ id := by
        intro hid
        rw [hid] at hr
        exact hr hoperates
      rw [findLease_moved hold heq, if_neg hid]
      exact hlease

def LeavesAlone {α : Type} (leaseId : LeaseId) (call : Call α) : Prop :=
  forall r, r ∈ call.others -> ¬ OperatesOn leaseId r

structure RunLeavesAlone (leaseId : LeaseId) (run : RuntimeRun) : Prop where
  prepareRun : LeavesAlone leaseId run.prepareRun
  startRun : LeavesAlone leaseId run.startRun
  streamRun : forall step, step ∈ run.streamRun ->
    forall r, r ∈ step.others -> ¬ OperatesOn leaseId r
  streamEnd : LeavesAlone leaseId run.streamEnd
  collectArtifacts : LeavesAlone leaseId run.collectArtifacts
  finalizeRun : LeavesAlone leaseId run.finalizeRun
  cleanup : forall call, call ∈ run.cleanup -> LeavesAlone leaseId call

structure PortsLeaveAlone (leaseId : LeaseId) (ports : SupervisorPorts) : Prop where
  createWorkspace : forall taskId repoPath attempt,
    LeavesAlone leaseId (ports.createWorkspace taskId repoPath attempt)
  mountPackets : forall rootPath context config,
    LeavesAlone leaseId (ports.mountPackets rootPath context config)
  runtimeAdapter : forall context, RunLeavesAlone leaseId (ports.runtimeAdapter context)
  persistRunLogs : forall logsPath logs,
    LeavesAlone leaseId (ports.persistRunLogs logsPath logs)

/-!
## The supervisor's own transactions
-/

section Supervisor

variable {leaseId : LeaseId} {taskId : TaskId} {workerId : WorkerId}

variable {statuses : List WorkerLeaseStatus} {workspace : WorkspaceResult} {runId : String}

def WorkerStored (workerId : WorkerId) (m : Machinery) : Prop :=
  (m.workers.find? workerId).isSome = true

def Supervised (leaseId : LeaseId) (taskId : TaskId) (workerId : WorkerId)
    (statuses : List WorkerLeaseStatus) (w : World Machinery) : Prop :=
  LeaseHeld leaseId taskId statuses w.store ∧ WorkerStored workerId w.outer

theorem await_supervised {α : Type} {call : Call α} (h : LeavesAlone leaseId call) :
    Process.Triple Process.AnyCommit (Supervised leaseId taskId workerId statuses) call.await
      (fun r w => r = call.outcome.mapError .port ∧
        Supervised leaseId taskId workerId statuses w) :=
  Call.await_keeps (leaseHeld_preserved leaseId taskId statuses) h

theorem setWorker_stored (I : Store -> Prop) (data : UpdateWorkerData) :
    Process.Triple Process.AnyCommit (fun w => I w.store ∧ WorkerStored workerId w.outer)
      (setWorker workerId data)
      (fun r w => (exists worker, r = .ok worker) ∧
        I w.store ∧ WorkerStored workerId w.outer) := by
  apply Process.Triple.transaction
  · intro w m worker hw h
    refine ⟨⟨⟨worker, rfl⟩, hw.1, ?_⟩, trivial⟩
    rcases bind_eq_ok.mp h with ⟨_, _, hpure⟩
    cases hpure
    unfold WorkerStored
    rw [Table.find?_modify_isSome]
    exact hw.2
  · intro w e hw h
    rcases Option.isSome_iff_exists.mp hw.2 with ⟨worker, hworker⟩
    simp only [updateWorker, hworker, orThrow_some, ok_bind] at h
    cases h

theorem setWorker_supervised (data : UpdateWorkerData) :
    Process.Triple Process.AnyCommit (Supervised leaseId taskId workerId statuses)
      (setWorker workerId data)
      (fun r w => (exists worker, r = .ok worker) ∧
        Supervised leaseId taskId workerId statuses w) :=
  setWorker_stored _ data

theorem LeaseHeld.moved {s s' : Store} {lease : TaskLease} {data : TaskLeaseUpdate}
    {status : WorkerLeaseStatus} (hlease : s.findLease leaseId = some lease)
    (htask : lease.taskId = taskId) (hdata : data.status = some status)
    (hstatus : status ∈ statuses) (h : s'.taskLeases = (s.writeLease leaseId data).taskLeases) :
    LeaseHeld leaseId taskId statuses s' := by
  refine ⟨data.apply lease, ?_, htask, ?_⟩
  · rw [findLease_moved hlease h, if_pos rfl]
  · rw [TaskLeaseUpdate.apply_status, hdata]
    exact hstatus

theorem transitionLease_starting :
    Process.Triple Process.AnyCommit (Supervised leaseId taskId workerId [.leased])
      (onStore (transitionLease leaseId .starting
        { workerProcessSpawned := some true } automationActor))
      (fun r w => (exists event, r = .ok event) ∧
        Supervised leaseId taskId workerId reclaimableStates w) := by
  apply Process.Triple.transaction
  · intro w s' event hw h
    rcases transitionLease_spec h with ⟨lease, hlease, _, _, hleases⟩
    rcases hw.1 with ⟨lease', hlease', htask, _⟩
    rw [hlease] at hlease'
    cases hlease'
    exact ⟨⟨⟨event, rfl⟩, LeaseHeld.moved hlease htask rfl (by decide) hleases, hw.2⟩,
      trivial⟩
  · intro w e hw h
    rcases hw.1 with ⟨lease, hlease, _, hstatus⟩
    have hvalid : validateWorkerLeaseTransition lease.status .starting
        { workerProcessSpawned := some true } = .valid := by
      rw [List.mem_singleton.mp hstatus]
      rfl
    simp only [transitionLease, hlease, orThrow_some, ok_bind, hvalid, commitTransition,
      Store.updateLease_of_find hlease] at h
    cases h

/-- A regular heartbeat, accepted or not, leaves a running lease reclaimable. -/
theorem heartbeat_supervised (now : Millis) :
    Process.Triple Process.AnyCommit (Supervised leaseId taskId workerId reclaimableStates)
      (forwardHeartbeat leaseId false now)
      (fun r w => (exists a, r = .ok a) ∧ Supervised leaseId taskId workerId reclaimableStates w) := by
  apply Process.Triple.swallow
  apply Process.Triple.transaction
  · intro w s' result hw h
    rcases receiveHeartbeat_spec h with ⟨lease, hlease, hstatus, _, hleases⟩
    rcases hw.1 with ⟨lease', hlease', htask, _⟩
    change w.store.findLease leaseId = some lease at hlease
    rw [hlease] at hlease'
    cases hlease'
    have htarget : computeTargetStatus lease.status false ∈ reclaimableStates := by
      simp only [heartbeatReceivableStates, List.mem_cons, List.not_mem_nil,
        or_false] at hstatus
      rcases hstatus with e | e | e <;> rw [e] <;> decide
    exact ⟨⟨LeaseHeld.moved hlease htask rfl htarget hleases, hw.2⟩, trivial⟩
  · intro w e hw _
    exact hw

theorem terminal_heartbeat_stored (leaseId : LeaseId) (workerId : WorkerId) (now : Millis) :
    Process.Triple Process.AnyCommit (fun w => True ∧ WorkerStored workerId w.outer)
      (forwardHeartbeat leaseId true now)
      (fun r w => (exists a, r = .ok a) ∧ True ∧ WorkerStored workerId w.outer) := by
  apply Process.Triple.swallow
  apply Process.Triple.transaction
  · intro w s' result hw _
    exact ⟨hw, trivial⟩
  · intro w e hw _
    exact hw

theorem tryReclaim_releases :
    Process.Triple Process.AnyCommit (Supervised leaseId taskId workerId reclaimableStates)
      (tryReclaim leaseId)
      (fun r w => (exists a, r = .ok a) ∧ LeaseReleased leaseId taskId w.store) := by
  apply Process.Triple.swallow
  apply Process.Triple.transaction
  · intro w s' result hw h
    rcases hw.1 with ⟨lease', hlease', htask', _⟩
    rcases reclaimLease_spec h with ⟨lease, task, hlease, hstatus, htask, hleases, hcases⟩
    change w.store.findLease leaseId = some lease at hlease
    rw [hlease] at hlease'
    cases hlease'
    rw [htask'] at htask hcases
    refine ⟨⟨?_, ?_⟩, trivial⟩
    · intro lease₁ hlease₁
      rw [findLease_moved hlease hleases, if_pos rfl] at hlease₁
      cases hlease₁
      change ¬ Active WorkerLeaseStatus.crashed
      decide
    · intro task₁ htask₁ hworking
      rcases hcases with ⟨hnot, htasks⟩ | ⟨_, htasks⟩
      · exfalso
        rw [Store.findTask_of_tasks_eq htasks, htask] at htask₁
        cases htask₁
        rcases hworking with e | e <;> rw [e] at hnot <;> exact hnot (by decide)
      · have hfind : s'.findTask taskId = some ((reclaimTaskUpdate
            (evaluateTaskOutcome task (supervisorReclaim leaseId).retryPolicy
              (supervisorReclaim leaseId).escalationPolicy
              (supervisorReclaim leaseId).hasFailureSummary)).apply (task.version + 1)
            task) := by
          rw [Store.findTask_of_tasks_eq htasks, Store.findTask_writeTask_self, htask]
          rfl
        rw [hfind] at htask₁
        cases htask₁
        simp [reclaimTaskUpdate]
  · intro w e hw h
    exfalso
    rcases hw.1 with ⟨lease, hlease, _, hstatus⟩
    rcases (reclaimLease_accepted_iff (supervisorReclaim leaseId) w.store).mpr
      ⟨lease, hlease, hstatus⟩ with ⟨r, hr⟩
    rw [h] at hr
    cases hr

theorem tryReclaim_refused :
    Process.Triple Process.AnyCommit (Supervised leaseId taskId workerId [.leased])
      (tryReclaim leaseId)
      (fun r w => (exists a, r = .ok a) ∧ LeaseHeld leaseId taskId [.leased] w.store) := by
  apply Process.Triple.swallow
  apply Process.Triple.transaction
  · intro w s' result hw h
    exfalso
    rcases hw.1 with ⟨lease', hlease', _, hleased⟩
    rcases reclaimLease_spec h with ⟨lease, _, hlease, hstatus, _⟩
    change w.store.findLease leaseId = some lease at hlease
    rw [hlease] at hlease'
    cases hlease'
    rw [List.mem_singleton.mp hleased] at hstatus
    exact absurd hstatus (by decide)
  · intro w e hw _
    exact hw.1

/-!
## The phases of a spawn
-/

def Prepares (ports : SupervisorPorts) (params : SpawnWorkerParams) : Prop :=
  exists workspace runId,
    (ports.createWorkspace params.taskId params.repoPath params.attempt).outcome =
      .ok workspace ∧
    (ports.mountPackets workspace.rootPath params.runContext
      (runConfigOf params workspace)).outcome = .ok () ∧
    (ports.runtimeAdapter params.runContext).prepareRun.outcome = .ok runId

theorem prepareWorker_supervised {ports : SupervisorPorts} {params : SpawnWorkerParams}
    (h : PortsLeaveAlone leaseId ports) :
    Process.Triple Process.AnyCommit (Supervised leaseId taskId workerId statuses)
      (prepareWorker ports params)
      (fun r w => (Prepares ports params <-> exists prepared, r = .ok prepared) ∧
        Supervised leaseId taskId workerId statuses w) := by
  have hfails : forall e : Thrown,
      ¬ exists prepared : WorkspaceResult × String, Except.error e = .ok prepared := by
    intro e hok
    rcases hok with ⟨_, hok⟩
    cases hok
  apply Call.bind_await (await_supervised (h.createWorkspace _ _ _))
  · intro workspace hworkspace
    apply Call.bind_await (await_supervised (h.mountPackets _ _ _))
    · intro _ hmount
      apply Call.bind_await (await_supervised (h.runtimeAdapter params.runContext).prepareRun)
      · intro runId hrun
        apply Process.Triple.pure
        intro w hw
        exact ⟨⟨fun _ => ⟨_, rfl⟩, fun _ => ⟨workspace, runId, hworkspace, hmount, hrun⟩⟩, hw⟩
      · intro message hrun w hw
        refine ⟨⟨?_, fun hok => absurd hok (hfails _)⟩, hw⟩
        intro hprepares
        rcases hprepares with ⟨_, _, _, _, hprepared⟩
        rw [hrun] at hprepared
        cases hprepared
    · intro message hmount w hw
      refine ⟨⟨?_, fun hok => absurd hok (hfails _)⟩, hw⟩
      intro hprepares
      rcases hprepares with ⟨_, _, hcreated, hmounted, _⟩
      rw [hworkspace] at hcreated
      cases hcreated
      rw [hmount] at hmounted
      cases hmounted
  · intro message hworkspace w hw
    refine ⟨⟨?_, fun hok => absurd hok (hfails _)⟩, hw⟩
    intro hprepares
    rcases hprepares with ⟨_, _, hcreated, _⟩
    rw [hworkspace] at hcreated
    cases hcreated

theorem startWorker_supervised {run : RuntimeRun} (h : RunLeavesAlone leaseId run) :
    Process.Triple Process.AnyCommit (Supervised leaseId taskId workerId [.leased])
      (startWorker run leaseId)
      (fun r w =>
        (r = .ok () ∧ run.startRun.outcome = .ok () ∧
          Supervised leaseId taskId workerId reclaimableStates w) ∨
        ((exists e, r = .error e) ∧ run.startRun.outcome ≠ .ok () ∧
          Supervised leaseId taskId workerId [.leased] w)) := by
  apply Call.bind_await (await_supervised h.startRun)
  · intro _ hstart
    apply Process.Triple.bind_returns transitionLease_starting
    intro _
    apply Process.Triple.pure
    intro w hw
    exact Or.inl ⟨rfl, hstart, hw⟩
  · intro message hstart w hw
    refine Or.inr ⟨⟨_, rfl⟩, ?_, hw⟩
    rw [hstart]
    simp

/-- Whatever happens while the worker runs, its lease can still be reclaimed. -/
theorem receiveOutput_supervised {params : SpawnWorkerParams} {step : StreamStep}
    (hlease : params.leaseId = leaseId) (hworker : params.workerId = workerId)
    (h : forall r, r ∈ step.others -> ¬ OperatesOn leaseId r) :
    Process.Triple Process.AnyCommit (Supervised leaseId taskId workerId reclaimableStates)
      (receiveOutput params step)
      (fun _ w => Supervised leaseId taskId workerId reclaimableStates w) := by
  have hwait : LeavesAlone leaseId
      ({ others := step.others, outcome := .ok () } : Call Unit) :=
    h
  apply Call.bind_await (await_supervised hwait)
  · intro _ _
    by_cases hheartbeat : step.event.type = .heartbeat
    · rw [if_pos hheartbeat, hlease, hworker]
      apply Process.Triple.bind_returns (heartbeat_supervised step.now)
      intro _
      apply Process.Triple.bind_returns (setWorker_supervised _)
      intro _
      exact Process.Triple.pure (fun _ hw => hw)
    · rw [if_neg hheartbeat]
      exact Process.Triple.pure (fun _ hw => hw)
  · intro _ _ w hw
    exact hw

theorem runWorker_supervised {ports : SupervisorPorts} {params : SpawnWorkerParams}
    {run : RuntimeRun} (hlease : params.leaseId = leaseId)
    (hworker : params.workerId = workerId) (hports : PortsLeaveAlone leaseId ports)
    (h : RunLeavesAlone leaseId run) :
    Process.Triple Process.AnyCommit (Supervised leaseId taskId workerId reclaimableStates)
      (runWorker ports params run workspace runId)
      (fun _ w => Supervised leaseId taskId workerId reclaimableStates w) := by
  unfold runWorker
  rw [hworker]
  apply Process.Triple.bind_returns (setWorker_supervised _)
  intro _
  apply Process.Triple.bind
    (Process.Triple.forEach (fun step hstep =>
      receiveOutput_supervised hlease hworker (h.streamRun step hstep)))
  · intro _
    apply Call.bind_await (await_supervised h.streamEnd)
    · intro _ _
      apply Call.bind_await (await_supervised h.collectArtifacts)
      · intro _ _
        apply Call.bind_await (await_supervised h.finalizeRun)
        · intro finalizeResult _
          by_cases hlogs : finalizeResult.logs ≠ []
          · rw [if_pos hlogs]
            have hpersist : Process.Triple Process.AnyCommit
                (Supervised leaseId taskId workerId reclaimableStates)
                (ports.persistRunLogs workspace.logsPath finalizeResult.logs).await
                (fun _ w => Supervised leaseId taskId workerId reclaimableStates w) :=
              (await_supervised (hports.persistRunLogs _ _)).post (fun _ _ hw => hw.2)
            apply Process.Triple.bind_returns (Process.Triple.swallow hpersist)
            intro _
            exact Process.Triple.pure (fun _ hw => hw)
          · rw [if_neg hlogs]
            exact Process.Triple.pure (fun _ hw => hw)
        · intro _ _ _ hw
          exact hw
      · intro _ _ _ hw
        exact hw
    · intro _ _ _ hw
      exact hw
  · intro _ _ hw
    exact hw

theorem settleWorker_returns {params : SpawnWorkerParams} {run : RuntimeRun}
    {finalizeResult : FinalizeResult} (hlease : params.leaseId = leaseId)
    (hworker : params.workerId = workerId) :
    Process.Triple Process.AnyCommit (Supervised leaseId taskId workerId reclaimableStates)
      (settleWorker params run finalizeResult)
      (fun r _ => exists result, r = .ok result) := by
  unfold settleWorker
  rw [hlease, hworker]
  dsimp only
  split
  · apply Process.Triple.bind_returns (setWorker_supervised _)
    intro _
    have hterminal := (terminal_heartbeat_stored leaseId workerId run.completedAt).weaken
      (fun w hw => ⟨trivial, hw.2⟩ : forall w,
        Supervised leaseId taskId workerId reclaimableStates w -> _) (fun _ _ hw => hw)
    apply Process.Triple.bind_returns hterminal
    intro _
    apply Process.Triple.bind_returns (setWorker_stored (fun _ => True) _)
    intro _
    exact Process.Triple.pure (fun _ _ => ⟨_, rfl⟩)
  · apply Process.Triple.bind_returns (setWorker_supervised _)
    intro _
    apply Process.Triple.bind_returns tryReclaim_releases
    intro _
    exact Process.Triple.pure (fun _ _ => ⟨_, rfl⟩)

theorem cleanup_supervised {run : RuntimeRun} (h : RunLeavesAlone leaseId run) :
    Process.Triple Process.AnyCommit (Supervised leaseId taskId workerId statuses)
      (Process.swallow (Process.forEach Call.await run.cleanup) :
        Process (World Machinery) Thrown Unit)
      (fun r w => (exists a, r = .ok a) ∧ Supervised leaseId taskId workerId statuses w) := by
  apply Process.Triple.swallow
  apply Process.Triple.forEach
  intro call hcall
  exact (await_supervised (h.cleanup call hcall)).post (fun _ _ hw => hw.2)

/-- A failure after the start of the worker releases the lease. -/
theorem recoverSpawn_releases {params : SpawnWorkerParams} {run : RuntimeRun}
    {error : Thrown} (hlease : params.leaseId = leaseId)
    (hworker : params.workerId = workerId) (h : RunLeavesAlone leaseId run) :
    Process.Triple Process.AnyCommit (Supervised leaseId taskId workerId reclaimableStates)
      (recoverSpawn params (some run) error)
      (fun r w => r = .error error ∧ LeaseReleased leaseId taskId w.store) := by
  unfold recoverSpawn
  rw [hlease, hworker]
  apply Process.Triple.bind_returns (cleanup_supervised h)
  intro _
  apply Process.Triple.bind_returns (setWorker_supervised _)
  intro _
  apply Process.Triple.bind_returns tryReclaim_releases
  intro _
  exact Process.Triple.throw (fun _ hw => ⟨rfl, hw⟩)

/-- A failure before the start of the worker leaves the lease LEASED. -/
theorem recoverSpawn_refused {params : SpawnWorkerParams} {prepared : Option RuntimeRun}
    {error : Thrown} (hlease : params.leaseId = leaseId)
    (hworker : params.workerId = workerId)
    (h : forall run, prepared = some run -> RunLeavesAlone leaseId run) :
    Process.Triple Process.AnyCommit (Supervised leaseId taskId workerId [.leased])
      (recoverSpawn params prepared error)
      (fun r w => r = .error error ∧ LeaseHeld leaseId taskId [.leased] w.store) := by
  have hrest : Process.Triple Process.AnyCommit (Supervised leaseId taskId workerId [.leased])
      (do
        let _ ← setWorker workerId
          { status := some .failed, currentRunId := some none, currentTaskId := some none }
        tryReclaim leaseId
        Process.throw error : Process (World Machinery) Thrown SpawnWorkerResult)
      (fun r w => r = .error error ∧ LeaseHeld leaseId taskId [.leased] w.store) := by
    apply Process.Triple.bind_returns (setWorker_supervised _)
    intro _
    apply Process.Triple.bind_returns tryReclaim_refused
    intro _
    exact Process.Triple.throw (fun _ hw => ⟨rfl, hw⟩)
  unfold recoverSpawn
  rw [hlease, hworker]
  cases prepared with
  | none =>
      exact hrest
  | some run =>
      apply Process.Triple.bind_returns (cleanup_supervised (h run rfl))
      intro _
      exact hrest

/-!
## A spawn and a dispatch
-/

def WorkerInsertable (data : CreateWorkerData) (s : Store) (m : Machinery) : Prop :=
  (s.workerPools.find? data.poolId).isSome = true ∧
    (s.findTask data.currentTaskId).isSome = true ∧
    m.workers.find? data.workerId = none

def WorkerStarts (ports : SupervisorPorts) (params : SpawnWorkerParams) (s : Store)
    (m : Machinery) : Prop :=
  WorkerInsertable (workerData params) s m ∧ Prepares ports params ∧
    (ports.runtimeAdapter params.runContext).startRun.outcome = .ok ()

theorem createWorker_cases (data : CreateWorkerData) (s : Store) (m : Machinery) :
    (WorkerInsertable data s m ∧ exists m' worker,
      createWorker data s m = .ok (m', worker) ∧ WorkerStored data.workerId m') ∨
    (¬ WorkerInsertable data s m ∧ exists e, createWorker data s m = .error e) := by
  unfold createWorker
  by_cases hpool : (s.workerPools.find? data.poolId).isSome = true
  · rw [ensure_of hpool, ok_bind]
    by_cases htask : (s.findTask data.currentTaskId).isSome = true
    · rw [ensure_of htask, ok_bind]
      by_cases hworker : m.workers.find? (newWorker data).workerId = none
      · rw [dif_pos hworker]
        refine Or.inl ⟨⟨hpool, htask, hworker⟩, _, _, rfl, ?_⟩
        exact Option.isSome_iff_exists.mpr ⟨_, Table.find?_insert_self hworker⟩
      · rw [dif_neg hworker]
        exact Or.inr ⟨fun h => hworker h.2.2, _, rfl⟩
    · rw [ensure_of_not htask]
      exact Or.inr ⟨fun h => htask h.2.1, _, rfl⟩
  · rw [ensure_of_not hpool]
    exact Or.inr ⟨fun h => hpool h.1, _, rfl⟩

theorem startedWorker_settles {ports : SupervisorPorts} {params : SpawnWorkerParams}
    {run : RuntimeRun} (h : PortsLeaveAlone params.leaseId ports)
    (hrun : RunLeavesAlone params.leaseId run) (hstart : run.startRun.outcome = .ok ()) :
    Process.Triple Process.AnyCommit
      (Supervised params.leaseId taskId params.workerId [.leased])
      (Process.tryCatch
        (do
          startWorker run params.leaseId
          let finalizeResult ← runWorker ports params run workspace runId
          settleWorker params run finalizeResult)
        (recoverSpawn params (some run)))
      (fun r w => (exists result, r = .ok result) ∨
        (exists e, r = .error e) ∧ LeaseReleased params.leaseId taskId w.store) := by
  have hstarted : Process.Triple Process.AnyCommit
      (Supervised params.leaseId taskId params.workerId [.leased])
      (startWorker run params.leaseId)
      (fun r w => (exists u, r = .ok u) ∧
        Supervised params.leaseId taskId params.workerId reclaimableStates w) := by
    apply (startWorker_supervised hrun).post
    intro r w hr
    rcases hr with ⟨hr, _, hw⟩ | ⟨_, hnot, _⟩
    · exact ⟨⟨(), hr⟩, hw⟩
    · exact absurd hstart hnot
  have hbody : Process.Triple Process.AnyCommit
      (Supervised params.leaseId taskId params.workerId [.leased])
      (do
        startWorker run params.leaseId
        let finalizeResult ← runWorker ports params run workspace runId
        settleWorker params run finalizeResult)
      (fun r w => (exists result, r = .ok result) ∨
        (exists e, r = .error e) ∧
          Supervised params.leaseId taskId params.workerId reclaimableStates w) := by
    apply Process.Triple.bind_returns hstarted
    intro _
    apply Process.Triple.bind (runWorker_supervised rfl rfl h hrun)
    · intro finalizeResult
      exact (settleWorker_returns rfl rfl).post (fun _ _ hr => Or.inl hr)
    · intro e w hw
      exact Or.inr ⟨⟨e, rfl⟩, hw⟩
  apply Process.Triple.tryCatch hbody
  · intro result w _
    exact Or.inl ⟨result, rfl⟩
  · intro e
    apply (recoverSpawn_releases rfl rfl hrun).weaken
    · intro w hw
      rcases hw with ⟨_, hr⟩ | ⟨_, hw⟩
      · cases hr
      · exact hw
    · intro r w hr
      exact Or.inr ⟨⟨e, hr.1⟩, hr.2⟩

theorem unstartedWorker_settles {ports : SupervisorPorts} {params : SpawnWorkerParams}
    {run : RuntimeRun} (hrun : RunLeavesAlone params.leaseId run)
    (hstart : run.startRun.outcome ≠ .ok ()) :
    Process.Triple Process.AnyCommit
      (Supervised params.leaseId taskId params.workerId [.leased])
      (Process.tryCatch
        (do
          startWorker run params.leaseId
          let finalizeResult ← runWorker ports params run workspace runId
          settleWorker params run finalizeResult)
        (recoverSpawn params (some run)))
      (fun r w => (exists e, r = .error e) ∧
        LeaseHeld params.leaseId taskId [.leased] w.store) := by
  have hbody : Process.Triple Process.AnyCommit
      (Supervised params.leaseId taskId params.workerId [.leased])
      (do
        startWorker run params.leaseId
        let finalizeResult ← runWorker ports params run workspace runId
        settleWorker params run finalizeResult)
      (fun r w => (exists e, r = .error e) ∧
        Supervised params.leaseId taskId params.workerId [.leased] w) := by
    apply Process.Triple.bind (startWorker_supervised hrun)
    · intro u
      apply Process.Triple.of_false
      intro w hw
      rcases hw with ⟨_, hok, _⟩ | ⟨⟨e, he⟩, _⟩
      · exact hstart hok
      · cases he
    · intro e w hw
      rcases hw with ⟨he, _⟩ | ⟨_, _, hw⟩
      · cases he
      · exact ⟨⟨e, rfl⟩, hw⟩
  apply Process.Triple.tryCatch hbody
  · intro result w hw
    rcases hw.1 with ⟨e, he⟩
    cases he
  · intro e
    have hsome : forall run', some run = some run' -> RunLeavesAlone params.leaseId run' := by
      intro run' hrun'
      cases hrun'
      exact hrun
    apply (recoverSpawn_refused rfl rfl hsome).weaken
    · intro w hw
      exact hw.2
    · intro r w hr
      exact ⟨⟨e, hr.1⟩, hr.2⟩

theorem createWorker_settles {params : SpawnWorkerParams}
    (hheld : LeaseHeld params.leaseId taskId [.leased] w₀.store) :
    Process.Triple Process.AnyCommit (fun w => w = w₀)
      (onOuter (createWorker (workerData params)))
      (fun r w =>
        ((exists worker, r = .ok worker) ∧
          WorkerInsertable (workerData params) w₀.store w₀.outer ∧
          Supervised params.leaseId taskId params.workerId [.leased] w) ∨
        ((exists e, r = .error e) ∧
          ¬ WorkerInsertable (workerData params) w₀.store w₀.outer ∧
          LeaseHeld params.leaseId taskId [.leased] w.store)) := by
  apply Process.Triple.transaction
  · intro w m worker hw hcall
    cases hw
    rcases createWorker_cases (workerData params) w₀.store w₀.outer with
      ⟨hinsertable, m', worker', hok, hstored⟩ | ⟨_, e, herror⟩
    · rw [hcall] at hok
      cases hok
      exact ⟨Or.inl ⟨⟨_, rfl⟩, hinsertable, hheld, hstored⟩, trivial⟩
    · rw [hcall] at herror
      cases herror
  · intro w e hw hcall
    cases hw
    rcases createWorker_cases (workerData params) w₀.store w₀.outer with
      ⟨_, m', worker', hok, _⟩ | ⟨hnot, _, _⟩
    · rw [hcall] at hok
      cases hok
    · exact Or.inr ⟨⟨_, rfl⟩, hnot, hheld⟩

/-- The worker starts and any failure releases the lease, or it does not start and the
lease is left LEASED. -/
theorem spawnWorker_settles {ports : SupervisorPorts} {params : SpawnWorkerParams}
    {w₀ : World Machinery} (h : PortsLeaveAlone params.leaseId ports)
    (hheld : LeaseHeld params.leaseId taskId [.leased] w₀.store) :
    Process.Triple Process.AnyCommit (fun w => w = w₀) (spawnWorker ports params)
      (fun r w =>
        (WorkerStarts ports params w₀.store w₀.outer ∧
          ((exists result, r = .ok result) ∨
            (exists e, r = .error e) ∧ LeaseReleased params.leaseId taskId w.store)) ∨
        (¬ WorkerStarts ports params w₀.store w₀.outer ∧ (exists e, r = .error e) ∧
          LeaseHeld params.leaseId taskId [.leased] w.store)) := by
  have hrun := h.runtimeAdapter params.runContext
  have hcreate := createWorker_settles hheld
  by_cases hinsertable : WorkerInsertable (workerData params) w₀.store w₀.outer
  · have hcreated : Process.Triple Process.AnyCommit (fun w => w = w₀)
        (onOuter (createWorker (workerData params)))
        (fun r w => (exists worker, r = .ok worker) ∧
          Supervised params.leaseId taskId params.workerId [.leased] w) := by
      apply hcreate.post
      intro r w hw
      rcases hw with ⟨hr, _, hw⟩ | ⟨_, hnot, _⟩
      · exact ⟨hr, hw⟩
      · exact absurd hinsertable hnot
    apply Process.Triple.bind_returns hcreated
    intro _
    apply Process.Triple.bind_attempt (prepareWorker_supervised h)
    intro r
    cases r with
    | error e =>
        intro w hw
        have hnot : ¬ Prepares ports params := by
          intro hprepares
          rcases hw.1.mp hprepares with ⟨_, hok⟩
          cases hok
        have hnone : forall run : RuntimeRun, none = some run ->
            RunLeavesAlone params.leaseId run := by
          intro run hrun
          cases hrun
        rcases recoverSpawn_refused rfl rfl hnone w hw.2 with ⟨⟨hr, hleased⟩, hcommits⟩
        exact ⟨Or.inr ⟨fun hstarts => hnot hstarts.2.1, ⟨e, hr⟩, hleased⟩, hcommits⟩
    | ok prepared =>
        intro w hw
        have hprepares : Prepares ports params :=
          hw.1.mpr ⟨prepared, rfl⟩
        by_cases hstart :
            (ports.runtimeAdapter params.runContext).startRun.outcome = .ok ()
        · rcases startedWorker_settles h hrun hstart w hw.2 with ⟨hsettled, hcommits⟩
          exact ⟨Or.inl ⟨⟨hinsertable, hprepares, hstart⟩, hsettled⟩, hcommits⟩
        · rcases unstartedWorker_settles hrun hstart w hw.2 with ⟨hsettled, hcommits⟩
          exact ⟨Or.inr ⟨fun hstarts => hstart hstarts.2.2, hsettled⟩, hcommits⟩
  · apply Process.Triple.bind hcreate
    · intro _ w hw
      rcases hw with ⟨_, hyes, _⟩ | ⟨⟨_, hr⟩, _⟩
      · exact absurd hyes hinsertable
      · cases hr
    · intro e w hw
      rcases hw with ⟨⟨_, hr⟩, _⟩ | ⟨_, hnot, hw⟩
      · cases hr
      · exact Or.inr ⟨fun hstarts => hnot hstarts.1, ⟨e, rfl⟩, hw⟩

end Supervisor

/-!
## Processing a dispatch job
-/

section Dispatch

variable {leaseId : LeaseId} {taskId : TaskId}

variable {starts : Prop} {w : World Machinery} {job : Job} {payload : DispatchPayload}

/-- The context of the job is resolved and its worker process starts. -/
def DispatchStarts (ports : DispatchPorts) (job : Job) (payload : DispatchPayload)
    (w : World Machinery) : Prop :=
  exists context,
    resolveSpawnContext ports payload.taskId payload.poolId w.store = .ok (some context) ∧
    WorkerStarts ports.supervisor (spawnParams job payload context) w.store w.outer

/-- The lease is released if the worker started, and LEASED if it did not. -/
def Settled (starts : Prop) (leaseId : LeaseId) (taskId : TaskId)
    (w : World Machinery) : Prop :=
  (starts ∧ LeaseReleased leaseId taskId w.store) ∨
    (¬ starts ∧ LeaseHeld leaseId taskId [.leased] w.store)

theorem released_iff_of_settled (h : Settled starts leaseId taskId w) :
    LeaseReleased leaseId taskId w.store <-> starts := by
  rcases h with ⟨hstarts, hreleased⟩ | ⟨hnot, hleased⟩
  · exact ⟨fun _ => hstarts, fun _ => hreleased⟩
  · exact ⟨fun h => absurd h (not_released_of_leased hleased), fun h => absurd h hnot⟩

theorem onJobs_settled {call : JobTable -> Except ServiceError (JobTable × Job)} :
    Process.Triple Process.AnyCommit (Settled starts leaseId taskId) (onJobs call)
      (fun _ w => Settled starts leaseId taskId w) :=
  Process.Triple.transaction (fun _ _ _ hw _ => ⟨hw, trivial⟩) (fun _ _ hw _ => hw)

theorem onJobs_throws {call : JobTable -> Except ServiceError (JobTable × Job)} :
    Process.Triple Process.AnyCommit (fun w => exists e, call w.outer.jobs = .error e)
      (onJobs call) (fun r _ => (exists e, r = .error e) ∧ True) := by
  apply Process.Triple.transaction
  · intro w jobs job hw hcall
    rcases hw with ⟨e, he⟩
    rw [hcall] at he
    cases he
  · intro w e _ _
    exact ⟨⟨_, rfl⟩, trivial⟩

theorem completeJob_triple {P : World Machinery -> Prop} (jobId : JobId) :
    Process.Triple Process.AnyCommit P (onJobs (completeJob jobId))
      (fun r w => (exists job, r = .ok job) ∨
        (exists e, r = .error e) ∧ exists e, failJob jobId w.outer.jobs = .error e) := by
  apply Process.Triple.transaction
  · intro w jobs job _ _
    exact ⟨Or.inl ⟨job, rfl⟩, trivial⟩
  · intro w e _ hcall
    exact Or.inr ⟨⟨_, rfl⟩, failJob_error_of_completeJob_error hcall⟩

def ReportsFailure : Except Thrown ProcessDispatchResult -> Prop
  | .ok (.notDispatched _ _ _ _) => True
  | _ => False

instance : DecidablePred ReportsFailure := by
  intro r
  unfold ReportsFailure
  split <;> infer_instance

def JobEnded (starts : Prop) (leaseId : LeaseId) (taskId : TaskId) (jobId : JobId)
    (r : Except Thrown ProcessDispatchResult) (w : World Machinery) : Prop :=
  (ReportsFailure r -> Settled starts leaseId taskId w) ∧
    ((exists e, r = .error e) ->
      Settled starts leaseId taskId w ∨ exists e, failJob jobId w.outer.jobs = .error e)

theorem jobEnded_error {jobId : JobId} {e : Thrown} (h : Settled starts leaseId taskId w) :
    JobEnded starts leaseId taskId jobId (.error e) w :=
  ⟨False.elim, fun _ => Or.inl h⟩

theorem jobEnded_ok {jobId : JobId} {result : ProcessDispatchResult}
    (h : ReportsFailure (.ok result) -> Settled starts leaseId taskId w) :
    JobEnded starts leaseId taskId jobId (.ok result) w := by
  refine ⟨h, ?_⟩
  intro hr
  rcases hr with ⟨_, hr⟩
  cases hr

theorem settled_of_unresolved {ports : DispatchPorts}
    (hheld : LeaseHeld payload.leaseId taskId [.leased] w₀.store)
    (hnone : forall context,
      resolveSpawnContext ports payload.taskId payload.poolId w₀.store ≠
        .ok (some context)) :
    Settled (DispatchStarts ports job payload w₀) payload.leaseId taskId w₀ := by
  refine Or.inr ⟨?_, hheld⟩
  intro hstarts
  rcases hstarts with ⟨context, hcontext, _⟩
  exact hnone context hcontext

theorem dispatchJob_ends {ports : DispatchPorts}
    (h : PortsLeaveAlone payload.leaseId ports.supervisor)
    (hheld : LeaseHeld payload.leaseId taskId [.leased] w₀.store) :
    Process.Triple Process.AnyCommit (fun w => w = w₀) (dispatchJob ports job payload)
      (JobEnded (DispatchStarts ports job payload w₀) payload.leaseId taskId job.jobId) := by
  apply Process.Triple.bind_read
  intro w hw
  rw [hw]
  cases hresolve : resolveSpawnContext ports payload.taskId payload.poolId w₀.store with
  | error message =>
      apply Process.Triple.throw
      intro w₁ hw₁
      rw [hw₁]
      apply jobEnded_error
      apply settled_of_unresolved hheld
      intro context hcontext
      rw [hresolve] at hcontext
      cases hcontext
  | ok found =>
      cases found with
      | none =>
          have hstart : forall w₁, w₁ = w₀ ->
              Settled (DispatchStarts ports job payload w₀) payload.leaseId taskId w₁ := by
            intro w₁ hw₁
            rw [hw₁]
            apply settled_of_unresolved hheld
            intro context hcontext
            rw [hresolve] at hcontext
            cases hcontext
          apply Process.Triple.bind (onJobs_settled.weaken hstart (fun _ _ hw₁ => hw₁))
          · intro _
            exact Process.Triple.pure (fun _ hw₁ => jobEnded_ok (fun _ => hw₁))
          · intro e w₁ hw₁
            exact jobEnded_error hw₁
      | some context =>
          have hstarts : DispatchStarts ports job payload w₀ <->
              WorkerStarts ports.supervisor (spawnParams job payload context) w₀.store
                w₀.outer := by
            constructor
            · intro hstarts
              rcases hstarts with ⟨_, hcontext, hstarts⟩
              rw [hresolve] at hcontext
              cases hcontext
              exact hstarts
            · intro hstarts
              exact ⟨context, hresolve, hstarts⟩
          have hspawn := @spawnWorker_settles taskId ports.supervisor
            (spawnParams job payload context) w₀ h hheld
          apply Process.Triple.bind hspawn
          · intro spawnResult
            apply Process.Triple.bind (completeJob_triple job.jobId)
            · intro _
              apply Process.Triple.pure
              intro w₁ _
              exact jobEnded_ok False.elim
            · intro e w₁ hw₁
              refine ⟨False.elim, fun _ => Or.inr ?_⟩
              rcases hw₁ with ⟨_, hr⟩ | ⟨_, hfail⟩
              · cases hr
              · exact hfail
          · intro e w₁ hw₁
            apply jobEnded_error
            rcases hw₁ with ⟨hyes, ⟨_, hr⟩ | ⟨_, hreleased⟩⟩ | ⟨hno, _, hleased⟩
            · cases hr
            · exact Or.inl ⟨hstarts.mpr hyes, hreleased⟩
            · exact Or.inr ⟨fun hyes => hno (hstarts.mp hyes), hleased⟩

theorem failDispatch_settles {error : Thrown} :
    Process.Triple Process.AnyCommit
      (JobEnded starts leaseId taskId job.jobId (.error error))
      (failDispatch job payload error)
      (fun r w => ReportsFailure r -> Settled starts leaseId taskId w) := by
  have hfail : Process.Triple Process.AnyCommit (JobEnded starts leaseId taskId job.jobId (.error error))
      (onJobs (failJob job.jobId))
      (fun r w => (exists e, r = .error e) ∨ Settled starts leaseId taskId w) := by
    intro w hw
    rcases hw.2 ⟨error, rfl⟩ with hsettled | hrefused
    · exact (onJobs_settled.post (fun _ _ hs => Or.inr hs)) w hsettled
    · exact (onJobs_throws.post (fun _ _ hr => Or.inl hr.1)) w hrefused
  apply Process.Triple.bind hfail
  · intro _
    apply Process.Triple.pure
    intro w hw _
    rcases hw with ⟨_, hr⟩ | hw
    · cases hr
    · exact hw
  · intro e w _ hr
    exact hr.elim

/-- A dispatch that reports a failure has settled its lease. -/
theorem processDispatch_settles {ports : DispatchPorts} {jobs : JobTable}
    (hclaim : claimJob .workerDispatch ports.leaseOwner ports.claimedAt w₀.outer.jobs =
      some (jobs, job))
    (hpayload : job.payload = some payload)
    (h : PortsLeaveAlone payload.leaseId ports.supervisor)
    (hheld : LeaseHeld payload.leaseId taskId [.leased] w₀.store) :
    Process.Triple Process.AnyCommit (fun w => w = w₀) (processDispatch ports)
      (fun r w => ReportsFailure r ->
        Settled (DispatchStarts ports job payload w₀) payload.leaseId taskId w) := by
  have hclaimed : Process.Triple Process.AnyCommit (fun w => w = w₀)
      (onOuter (claimDispatchJob ports))
      (fun r w => r = .ok (some job) ∧
        w = { w₀ with outer := { w₀.outer with jobs := jobs } }) := by
    apply Process.Triple.transaction
    · intro w m found hw hcall
      rw [hw] at hcall ⊢
      simp only [claimDispatchJob, hclaim] at hcall
      cases hcall
      exact ⟨⟨rfl, rfl⟩, trivial⟩
    · intro w e hw hcall
      rw [hw] at hcall
      simp only [claimDispatchJob, hclaim] at hcall
      cases hcall
  have hrest : Process.Triple Process.AnyCommit
      (fun w => w = { w₀ with outer := { w₀.outer with jobs := jobs } })
      (Process.tryCatch (dispatchJob ports job payload) (failDispatch job payload))
      (fun r w => ReportsFailure r ->
        Settled (DispatchStarts ports job payload w₀) payload.leaseId taskId w) := by
    -- Claiming the job changes neither the store nor the workers.
    have hends : Process.Triple Process.AnyCommit
        (fun w => w = { w₀ with outer := { w₀.outer with jobs := jobs } })
        (dispatchJob ports job payload)
        (JobEnded (DispatchStarts ports job payload w₀) payload.leaseId taskId job.jobId) :=
      dispatchJob_ends h hheld
    apply Process.Triple.tryCatch hends
    · intro result w hw
      exact hw.1
    · intro error
      exact failDispatch_settles
  apply Process.Triple.bind hclaimed
  · intro found w hw
    rcases hw with ⟨hfound, hw⟩
    cases hfound
    simp only [hpayload]
    exact hrest w hw
  · intro e w hw
    cases hw.1

/-- A failed dispatch of a job that the scheduler created for a lease it acquired, with
any requests of others before and during it, releases the lease exactly when the
failure comes after the worker process has started. -/
theorem failed_dispatch_releases_lease_iff {acquiredAt : Millis}
    {params : AcquireLeaseParams} {s₀ s₁ : Store} {acquired : LeaseAcquisitionResult}
    (hacquire : acquireLease acquiredAt leaseId params s₀ = .ok (s₁, acquired))
    {waiting : List Request} (hwaiting : forall r, r ∈ waiting -> ¬ OperatesOn leaseId r)
    {ports : DispatchPorts} (hports : PortsLeaveAlone leaseId ports.supervisor)
    {w : World Machinery} (hstore : w.store = controlPlane.run s₁ waiting)
    {jobs : JobTable} {job : Job}
    (hclaim : claimJob .workerDispatch ports.leaseOwner ports.claimedAt w.outer.jobs =
      some (jobs, job))
    (hpayload : job.payload = some (dispatchPayload leaseId params))
    (hfailed : ReportsFailure (processDispatch ports w).result) :
    LeaseReleased leaseId params.taskId (processDispatch ports w).state.store <->
      DispatchStarts ports job (dispatchPayload leaseId params) w := by
  have hacquired : LeaseHeld leaseId params.taskId [.leased] s₁ := by
    rcases acquireLease_spec hacquire with ⟨_, s₂, _, _, _, hcreate, _, hleases⟩
    rcases Store.createLease_spec hcreate with ⟨_, _, hself, _⟩
    refine ⟨newLease acquiredAt leaseId params, ?_, rfl, by simp [newLease]⟩
    rw [Store.findLease_of_leases_eq hleases]
    exact hself
  have hheld : LeaseHeld leaseId params.taskId [.leased] w.store := by
    rw [hstore]
    exact (leaseHeld_preserved leaseId params.taskId [.leased]).run hwaiting hacquired
  have hsettles : Process.Triple Process.AnyCommit (fun w' => w' = w) (processDispatch ports)
      (fun r w' => ReportsFailure r ->
        Settled (DispatchStarts ports job (dispatchPayload leaseId params) w)
          leaseId params.taskId w') :=
    processDispatch_settles hclaim hpayload hports hheld
  exact released_iff_of_settled ((hsettles w rfl).1 hfailed)

/-!
## Two failed dispatches
-/

def dispatchSetup : List Request :=
  [.createWorkerPool { workerPoolId := "pool-1", maxConcurrency := 1 },
    .createTask
      { taskId := "task-1", repositoryId := "repo-1", taskType := "feature",
        priority := "high" },
    .transitionTask "task-1" .ready
      { allDependenciesResolved := some true, hasPolicyBlockers := some false }
      { type := "system", id := "automation-runtime" }]

def scheduledLease : AcquireLeaseParams where
  taskId := "task-1"
  workerId := "worker-1"
  poolId := "pool-1"
  ttlSeconds := 3600
  actor := { type := "system", id := "scheduler" }

def scheduledStore : Store :=
  controlPlane.run Store.empty
    (dispatchSetup ++ [.acquireLease 0 "lease-1" scheduledLease])

def scheduledJob : Job :=
  newJob 0 "job-1"
    { jobType := .workerDispatch, payload := some (dispatchPayload "lease-1" scheduledLease) }

def scheduledWorld : World Machinery where
  store := scheduledStore
  outer :=
    { workers := Table.empty
      jobs := Table.empty.insert scheduledJob (Table.find?_empty _) }

def calmCall {α : Type} (outcome : Except String α) : Call α where
  outcome := outcome

def brokenRun : RuntimeRun where
  prepareRun := calmCall (.ok "run-1")
  startRun := calmCall (.ok ())
  streamRun := [{ event := { type := .heartbeat, content := "" }, now := 5000 }]
  streamEnd := calmCall (.error "Unknown run ID: run-1")
  collectArtifacts := calmCall (.ok ())
  finalizeRun := calmCall (.error "Unknown run ID: run-1")
  completedAt := 6000
  cleanup := [calmCall (.ok ())]

def portsWith (createWorkspace : Except String WorkspaceResult) : DispatchPorts where
  claimedAt := 1000
  findRepository := fun _ => some { localCheckoutPath := some "/repo", remoteUrl := "url" }
  promptTemplate := fun _ => none
  mkdir := fun _ => .ok ()
  supervisor :=
    { createWorkspace := fun _ _ _ => calmCall createWorkspace
      mountPackets := fun _ _ _ => calmCall (.ok ())
      runtimeAdapter := fun _ => brokenRun
      persistRunLogs := fun _ _ => calmCall (.ok ()) }

theorem portsWith_leaveAlone (leaseId : LeaseId)
    (createWorkspace : Except String WorkspaceResult) :
    PortsLeaveAlone leaseId (portsWith createWorkspace).supervisor := by
  have hcalm : forall {α : Type} (outcome : Except String α),
      LeavesAlone leaseId (calmCall outcome) := by
    intro α outcome r hr
    cases hr
  constructor
  · exact fun _ _ _ => hcalm _
  · exact fun _ _ _ => hcalm _
  · intro context
    constructor
    · exact hcalm _
    · exact hcalm _
    · intro step hstep r hr
      rw [List.mem_singleton.mp hstep] at hr
      cases hr
    · exact hcalm _
    · exact hcalm _
    · exact hcalm _
    · intro call hcall
      rw [List.mem_singleton.mp hcall]
      exact hcalm _
  · exact fun _ _ => hcalm _

def aWorkspace : WorkspaceResult where
  rootPath := "/workspaces/repo/task-1"
  logsPath := "/workspaces/repo/task-1/logs"
  branchName := "factory/task-1"

theorem failed_dispatch_releases_lease_brokenRun :
    LeaseReleased "lease-1" "task-1"
        (processDispatch (portsWith (.ok aWorkspace)) scheduledWorld).state.store <->
      DispatchStarts (portsWith (.ok aWorkspace)) (claimedJob "worker-dispatch" scheduledJob)
        (dispatchPayload "lease-1" scheduledLease) scheduledWorld := by
  have hacquire : exists acquired, acquireLease 0 "lease-1" scheduledLease
      (controlPlane.run Store.empty dispatchSetup) = .ok (scheduledStore, acquired) :=
    ⟨_, rfl⟩
  rcases hacquire with ⟨_, hacquire⟩
  have hclaim : (claimJob .workerDispatch "worker-dispatch" 1000
      scheduledWorld.outer.jobs).map Prod.snd =
        some (claimedJob "worker-dispatch" scheduledJob) := by
    decide +kernel
  rcases Option.map_eq_some_iff.mp hclaim with ⟨⟨_, job⟩, hclaimed, hjob⟩
  cases hjob
  have hnone : forall r, r ∈ ([] : List Request) -> ¬ OperatesOn "lease-1" r := by
    intro r hr
    cases hr
  exact failed_dispatch_releases_lease_iff hacquire hnone (portsWith_leaveAlone _ _) rfl
    hclaimed rfl (by decide +kernel)

/-- The creation of the workspace fails: the dispatch is reported as failed, and its
lease and its task stay as the scheduler left them. -/
theorem failed_workspace_keeps_lease :
    ReportsFailure
        (processDispatch (portsWith (.error "git worktree failed")) scheduledWorld).result ∧
      ¬ LeaseReleased "lease-1" "task-1"
        (processDispatch (portsWith (.error "git worktree failed"))
          scheduledWorld).state.store := by
  constructor
  · decide +kernel
  · apply not_released_of_leased
    have hlease : (processDispatch (portsWith (.error "git worktree failed"))
        scheduledWorld).state.store.findLease "lease-1" =
          some (newLease 0 "lease-1" scheduledLease) := by
      decide +kernel
    exact ⟨_, hlease, rfl, by decide⟩

end Dispatch

end Automation
end CopilotFactory
