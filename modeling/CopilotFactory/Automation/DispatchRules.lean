import CopilotFactory.Automation.WorkerDispatchService

/-!
# Rules for a dispatch

A dispatch serves the requests of others while it waits for its ports, writes to the
tables of the automation and makes three kinds of requests about its lease.  An invariant
that these keep, and a guarantee that they satisfy, are those of the whole dispatch.
-/

namespace CopilotFactory
namespace Automation

open Foundations
open Infrastructure
open Application
open ControlPlane

variable {α : Type} {w : World Machinery} {ports : SupervisorPorts}

/-- These requests of others are served during one call of the ports. -/
inductive ServedDuring (ports : SupervisorPorts) : List Request -> Prop where
  | createWorkspace (taskId : TaskId) (repoPath : String) (attempt : Nat) :
      ServedDuring ports (ports.createWorkspace taskId repoPath attempt).others
  | mountPackets (rootPath : String) (context : RunContext) (config : RunConfig) :
      ServedDuring ports (ports.mountPackets rootPath context config).others
  | prepareRun (context : RunContext) :
      ServedDuring ports (ports.runtimeAdapter context).prepareRun.others
  | startRun (context : RunContext) :
      ServedDuring ports (ports.runtimeAdapter context).startRun.others
  | streamRun (context : RunContext) (step : StreamStep)
      (h : step ∈ (ports.runtimeAdapter context).streamRun) : ServedDuring ports step.others
  | streamEnd (context : RunContext) :
      ServedDuring ports (ports.runtimeAdapter context).streamEnd.others
  | collectArtifacts (context : RunContext) :
      ServedDuring ports (ports.runtimeAdapter context).collectArtifacts.others
  | finalizeRun (context : RunContext) :
      ServedDuring ports (ports.runtimeAdapter context).finalizeRun.others
  | cleanup (context : RunContext) (call : Call Unit)
      (h : call ∈ (ports.runtimeAdapter context).cleanup) : ServedDuring ports call.others
  | persistRunLogs (logsPath : String) (logs : List RunOutputEvent) :
      ServedDuring ports (ports.persistRunLogs logsPath logs).others

/-- The call keeps the invariant, and its commit satisfies the guarantee. -/
def StoreRule {α : Type} (C : World Machinery -> World Machinery -> Prop)
    (I : World Machinery -> Prop) (call : Store -> Except ServiceError (Store × α)) : Prop :=
  forall w s' a, I w -> call w.store = .ok (s', a) ->
    I { w with store := s' } ∧ C w { w with store := s' }

/-- What any dispatch does: it waits, and it writes to the tables of the automation. -/
structure OuterRule (ports : SupervisorPorts) (C : World Machinery -> World Machinery -> Prop)
    (I : World Machinery -> Prop) : Prop where
  serve : forall others w, ServedDuring ports others -> I w -> I (w.serve others)
  outer : forall w m, I w -> I { w with outer := m } ∧ C w { w with outer := m }

structure LeaseRule (ports : SupervisorPorts) (C : World Machinery -> World Machinery -> Prop)
    (I : World Machinery -> Prop) (leaseId : LeaseId) : Prop extends OuterRule ports C I where
  start : StoreRule C I (transitionLease leaseId .starting
    { workerProcessSpawned := some true } automationActor)
  heartbeat : forall isTerminal now, StoreRule C I (receiveHeartbeat now
    { leaseId := leaseId, completing := isTerminal, actor := supervisorActor })
  reclaim : StoreRule C I (reclaimLease (supervisorReclaim leaseId))

variable {C : World Machinery -> World Machinery -> Prop} {I : World Machinery -> Prop}

theorem StoreRule.keeps {call : Store -> Except ServiceError (Store × α)}
    (h : StoreRule C I call) : Process.Keeps C I (onStore call) :=
  Process.Keeps.transaction h

theorem onOuter_keeps (h : OuterRule ports C I)
    {call : Store -> Machinery -> Except ServiceError (Machinery × α)} :
    Process.Keeps C I (onOuter call) :=
  Process.Keeps.transaction (fun w m _ hw _ => h.outer w m hw)

theorem onJobs_keeps (h : OuterRule ports C I)
    {call : JobTable -> Except ServiceError (JobTable × Job)} :
    Process.Keeps C I (onJobs call) :=
  Process.Keeps.transaction (fun w _ _ hw _ => h.outer w _ hw)

theorem await_keeps (h : OuterRule ports C I) {call : Call α}
    (hserved : ServedDuring ports call.others) :
    Process.Keeps C I (call.await : Process (World Machinery) Thrown α) :=
  Process.Keeps.await (fun w hw => h.serve call.others w hserved hw)

theorem setWorker_keeps (h : OuterRule ports C I) (workerId : WorkerId)
    (data : UpdateWorkerData) :
    Process.Keeps C I (setWorker workerId data) :=
  onOuter_keeps h

theorem prepareWorker_keeps (h : OuterRule ports C I) (params : SpawnWorkerParams) :
    Process.Keeps C I (prepareWorker ports params) :=
  (await_keeps h (.createWorkspace _ _ _)).bind (fun _ =>
    (await_keeps h (.mountPackets _ _ _)).bind (fun _ =>
      (await_keeps h (.prepareRun _)).bind (fun _ => Process.Keeps.pure _)))

/-!
## Spawning a worker
-/

section Spawn

variable {params : SpawnWorkerParams}

variable {leaseId : LeaseId}

theorem forwardHeartbeat_keeps (h : LeaseRule ports C I leaseId) (isTerminal : Bool) (now : Millis) :
    Process.Keeps C I (forwardHeartbeat leaseId isTerminal now) :=
  Process.Keeps.swallow (h.heartbeat isTerminal now).keeps

theorem tryReclaim_keeps (h : LeaseRule ports C I leaseId) : Process.Keeps C I (tryReclaim leaseId) :=
  Process.Keeps.swallow h.reclaim.keeps

theorem startWorker_keeps (h : LeaseRule ports C I leaseId) (context : RunContext) :
    Process.Keeps C I (startWorker (ports.runtimeAdapter context) leaseId) :=
  (await_keeps h.toOuterRule (.startRun context)).bind (fun _ =>
    h.start.keeps.bind (fun _ => Process.Keeps.pure _))

theorem receiveOutput_keeps (h : LeaseRule ports C I params.leaseId) {context : RunContext}
    {step : StreamStep} (hstep : step ∈ (ports.runtimeAdapter context).streamRun) :
    Process.Keeps C I (receiveOutput params step) := by
  apply (await_keeps h.toOuterRule (.streamRun context step hstep)).bind
  intro _
  split
  · exact (forwardHeartbeat_keeps h _ _).bind (fun _ =>
      (setWorker_keeps h.toOuterRule _ _).bind (fun _ => Process.Keeps.pure _))
  · exact Process.Keeps.pure _

theorem runWorker_keeps (h : LeaseRule ports C I params.leaseId) (context : RunContext)
    (workspace : WorkspaceResult) (runId : String) :
    Process.Triple C I
      (runWorker ports params (ports.runtimeAdapter context) workspace runId)
      (Process.Returning I (fun finalizeResult =>
        (ports.runtimeAdapter context).finalizeRun.outcome = .ok finalizeResult)) := by
  apply (setWorker_keeps h.toOuterRule _ _).returning
  intro _
  apply (Process.Keeps.forEach (fun _ hstep => receiveOutput_keeps h hstep)).returning
  intro _
  apply (await_keeps h.toOuterRule (.streamEnd context)).returning
  intro _
  apply (await_keeps h.toOuterRule (.collectArtifacts context)).returning
  intro _
  have hfinalize : Process.Triple C I (ports.runtimeAdapter context).finalizeRun.await
      (fun r w =>
        r = (ports.runtimeAdapter context).finalizeRun.outcome.mapError .port ∧ I w) :=
    Process.Triple.await (fun w hw => ⟨rfl, h.serve _ w (.finalizeRun context) hw⟩)
  apply Call.bind_await hfinalize
  · intro finalizeResult hresult
    have hpure : Process.Triple C I
        (pure finalizeResult : Process (World Machinery) Thrown FinalizeResult)
        (Process.Returning I (fun finalizeResult =>
          (ports.runtimeAdapter context).finalizeRun.outcome = .ok finalizeResult)) :=
      Process.Triple.pure (fun _ hw => .ok hw hresult)
    by_cases hlogs : finalizeResult.logs ≠ []
    · rw [if_pos hlogs]
      exact (Process.Keeps.swallow (await_keeps h.toOuterRule (.persistRunLogs _ _))).returning
        (fun _ => hpure)
    · rw [if_neg hlogs]
      exact hpure
  · intro message _ w hw
    exact .error hw

theorem settleWorker_keeps (h : LeaseRule ports C I params.leaseId) (run : RuntimeRun)
    (finalizeResult : FinalizeResult) :
    Process.Triple C I (settleWorker params run finalizeResult)
      (Process.Returning I (fun result => result.finalizeResult = finalizeResult)) := by
  have hpure : forall worker outputEvents, Process.Triple C I
      (pure
        { worker := worker
          finalizeResult := finalizeResult
          outputEvents := outputEvents } :
        Process (World Machinery) Thrown SpawnWorkerResult)
      (Process.Returning I (fun result => result.finalizeResult = finalizeResult)) :=
    fun _ _ => Process.Triple.pure (fun _ hw => .ok hw rfl)
  unfold settleWorker
  dsimp only
  split
  · apply (setWorker_keeps h.toOuterRule _ _).returning
    intro _
    apply (forwardHeartbeat_keeps h _ _).returning
    intro _
    exact (setWorker_keeps h.toOuterRule _ _).returning (fun worker => hpure worker _)
  · apply (setWorker_keeps h.toOuterRule _ _).returning
    intro worker
    exact (tryReclaim_keeps h).returning (fun _ => hpure worker _)

theorem recoverSpawn_keeps (h : LeaseRule ports C I params.leaseId) {context : RunContext}
    {prepared : Option RuntimeRun}
    (hprepared : forall run, run ∈ prepared -> run = ports.runtimeAdapter context)
    (error : Thrown) :
    Process.Triple C I (recoverSpawn params prepared error)
      (Process.Returning I (fun _ => False)) := by
  have hrest : Process.Triple C I
      (do
        let _ ← setWorker params.workerId
          { status := some .failed, currentRunId := some none, currentTaskId := some none }
        tryReclaim params.leaseId
        Process.throw error : Process (World Machinery) Thrown SpawnWorkerResult)
      (Process.Returning I (fun _ => False)) := by
    apply (setWorker_keeps h.toOuterRule _ _).returning
    intro _
    apply (tryReclaim_keeps h).returning
    intro _
    exact Process.Triple.throw (fun _ hw => .error hw)
  cases prepared with
  | none =>
      exact hrest
  | some run =>
      rw [hprepared run rfl]
      have hcleanup : Process.Keeps C I
          (Process.swallow (Process.forEach Call.await (ports.runtimeAdapter context).cleanup) :
            Process (World Machinery) Thrown Unit) :=
        Process.Keeps.swallow (Process.Keeps.forEach
          (fun call hcall => await_keeps h.toOuterRule (.cleanup context call hcall)))
      exact hcleanup.returning (fun _ => hrest)

/-- A spawn hands on the result that the runtime finalizes. -/
theorem spawnWorker_keeps (h : LeaseRule ports C I params.leaseId) :
    Process.Triple C I (spawnWorker ports params)
      (Process.Returning I (fun result =>
        (ports.runtimeAdapter params.runContext).finalizeRun.outcome =
          .ok result.finalizeResult)) := by
  have hrecover : forall prepared : Option RuntimeRun,
      (forall run, run ∈ prepared -> run = ports.runtimeAdapter params.runContext) ->
      forall error, Process.Triple C I
        (recoverSpawn params prepared error)
        (Process.Returning I (fun result =>
          (ports.runtimeAdapter params.runContext).finalizeRun.outcome =
            .ok result.finalizeResult)) := by
    intro prepared hprepared error
    apply (recoverSpawn_keeps h hprepared error).post
    intro r w hr
    exact ⟨hr.1, fun result hresult => (hr.2 result hresult).elim⟩
  apply (onOuter_keeps h.toOuterRule).returning
  intro _
  apply Process.Triple.bind_attempt (prepareWorker_keeps h.toOuterRule params)
  intro r
  cases r with
  | error e =>
      exact hrecover none (fun _ hrun => by cases hrun) e
  | ok prepared =>
      have hbody : Process.Triple C I
          (do
            startWorker (ports.runtimeAdapter params.runContext) params.leaseId
            let finalizeResult ← runWorker ports params
              (ports.runtimeAdapter params.runContext) prepared.1 prepared.2
            settleWorker params (ports.runtimeAdapter params.runContext) finalizeResult)
          (Process.Returning I (fun result =>
            (ports.runtimeAdapter params.runContext).finalizeRun.outcome =
              .ok result.finalizeResult)) := by
        apply (startWorker_keeps h _).returning
        intro _
        apply Process.Triple.bind (runWorker_keeps h params.runContext _ _)
        · intro finalizeResult w hw
          rcases settleWorker_keeps h (ports.runtimeAdapter params.runContext) finalizeResult
            w hw.1 with ⟨hsettled, hcommits⟩
          refine ⟨⟨hsettled.1, ?_⟩, hcommits⟩
          intro result hresult
          rw [hsettled.2 result hresult]
          exact hw.2 finalizeResult rfl
        · intro e w hw
          exact .error hw.1
      apply Process.Triple.tryCatch hbody
      · intro result w hresult
        exact hresult
      · intro e
        exact (hrecover _ (fun _ hrun => (Option.mem_some.mp hrun).symm) e).weaken (fun _ hw => hw.1) (fun _ _ h => h)

end Spawn

/-!
## The dispatch of a claimed job
-/

def ClaimedPayload (ports : DispatchPorts) (w : World Machinery)
    (payload : DispatchPayload) : Prop :=
  exists jobs job,
    claimJob .workerDispatch ports.leaseOwner ports.claimedAt w.outer.jobs =
      some (jobs, job) ∧
    job.payload = some payload

def ProcessedContext (ports : DispatchPorts) (w : World Machinery)
    (payload : DispatchPayload) (context : WorkerSpawnContext) : Prop :=
  exists jobs job,
    claimJob .workerDispatch ports.leaseOwner ports.claimedAt w.outer.jobs =
      some (jobs, job) ∧
    job.payload = some payload ∧
    resolveSpawnContext ports payload.taskId payload.poolId w.store = .ok (some context)

theorem ProcessedContext.claimed {ports : DispatchPorts} {payload : DispatchPayload}
    {context : WorkerSpawnContext} (h : ProcessedContext ports w payload context) :
    ClaimedPayload ports w payload := by
  rcases h with ⟨jobs, job, hclaim, hpayload, _⟩
  exact ⟨jobs, job, hclaim, hpayload⟩

/-- The result of a dispatched job is what the runtime of its context finalized. -/
def FinalizedByRuntime (ports : DispatchPorts) (w : World Machinery)
    (r : Except Thrown ProcessDispatchResult) : Prop :=
  forall jobId payload spawnResult, r = .ok (.dispatched jobId payload spawnResult) ->
    exists context,
      ProcessedContext ports w payload context ∧
      (ports.supervisor.runtimeAdapter context.runContext).finalizeRun.outcome =
        .ok spawnResult.finalizeResult

theorem finalizedByRuntime_error {ports : DispatchPorts} (e : Thrown) :
    FinalizedByRuntime ports w (.error e) := by
  intro _ _ _ h
  cases h

theorem finalizedByRuntime_of_ne {ports : DispatchPorts} {result : ProcessDispatchResult}
    (hresult : forall jobId payload spawnResult, result ≠ .dispatched jobId payload spawnResult) :
    FinalizedByRuntime ports w (.ok result) := by
  intro jobId payload spawnResult h
  cases h
  exact absurd rfl (hresult jobId payload spawnResult)

section Dispatch

variable {dispatch : DispatchPorts} {w₀ : World Machinery}

theorem onJobs_ends (h : OuterRule dispatch.supervisor C I)
    {call : JobTable -> Except ServiceError (JobTable × Job)}
    {f : Job -> Process (World Machinery) Thrown α} {Q : Except Thrown α -> Prop}
    (hf : forall job, Process.Triple C I (f job) (fun r w => I w ∧ Q r))
    (herror : forall e, Q (.error e)) :
    Process.Triple C I (onJobs call >>= f) (fun r w => I w ∧ Q r) :=
  (onJobs_keeps h).then hf (fun e _ hw => ⟨hw, herror e⟩)

theorem dispatchJob_keeps {jobs : JobTable} {job : Job} {payload : DispatchPayload}
    (h : LeaseRule dispatch.supervisor C I payload.leaseId)
    (hclaim : claimJob .workerDispatch dispatch.leaseOwner dispatch.claimedAt w₀.outer.jobs =
      some (jobs, job))
    (hpayload : job.payload = some payload) :
    Process.Triple C (fun w => w.store = w₀.store ∧ I w)
      (dispatchJob dispatch job payload)
      (fun r w => I w ∧ FinalizedByRuntime dispatch w₀ r) := by
  apply Process.Triple.bind_read
  intro w hw
  rw [hw.1]
  have hstart : forall w' : World Machinery, w' = w -> I w' := by
    intro w' hw'
    rw [hw']
    exact hw.2
  cases hresolve : resolveSpawnContext dispatch payload.taskId payload.poolId w₀.store with
  | error message =>
      exact Process.Triple.throw (fun w' hw' => ⟨hstart w' hw', finalizedByRuntime_error _⟩)
  | ok found =>
      apply Process.Triple.weaken _ hstart (fun _ _ h => h)
      cases found with
      | none =>
          apply onJobs_ends h.toOuterRule _ (fun e => finalizedByRuntime_error e)
          intro _
          exact Process.Triple.pure (fun _ hw' => ⟨hw', finalizedByRuntime_of_ne (by simp)⟩)
      | some context =>
          have hspawn : LeaseRule dispatch.supervisor C I (spawnParams job payload context).leaseId := h
          apply Process.Triple.bind (spawnWorker_keeps hspawn)
          · intro spawnResult w' hw'
            have hfinalized := hw'.2 spawnResult rfl
            have hcomplete : Process.Triple C I
                (do
                  let _ ← onJobs (completeJob job.jobId)
                  pure (.dispatched job.jobId payload spawnResult))
                (fun r w => I w ∧ FinalizedByRuntime dispatch w₀ r) := by
              apply onJobs_ends h.toOuterRule _ (fun e => finalizedByRuntime_error e)
              intro _
              apply Process.Triple.pure
              intro w'' hw''
              refine ⟨hw'', ?_⟩
              intro _ _ _ hsame
              cases hsame
              exact ⟨context, ⟨jobs, job, hclaim, hpayload, hresolve⟩, hfinalized⟩
            exact hcomplete w' hw'.1
          · intro e _ hw'
            exact ⟨hw'.1, finalizedByRuntime_error e⟩

theorem claimDispatchJob_keeps (h : OuterRule dispatch.supervisor C I) (hI : I w₀) :
    Process.Triple C (fun w => w = w₀) (onOuter (claimDispatchJob dispatch))
      (fun r w => (w.store = w₀.store ∧ I w) ∧ forall job, r = .ok (some job) ->
        exists jobs, claimJob .workerDispatch dispatch.leaseOwner dispatch.claimedAt
          w₀.outer.jobs = some (jobs, job)) := by
  apply Process.Triple.transaction
  · intro w m found hw hcall
    rw [hw] at hcall ⊢
    rcases h.outer w₀ m hI with ⟨hkept, hcommit⟩
    refine ⟨⟨⟨rfl, hkept⟩, ?_⟩, hcommit⟩
    intro job hjob
    cases hjob
    unfold claimDispatchJob at hcall
    cases hclaim : claimJob .workerDispatch dispatch.leaseOwner dispatch.claimedAt
        w₀.outer.jobs with
    | none =>
        rw [hclaim] at hcall
        cases hcall
    | some claimed =>
        rw [hclaim] at hcall
        cases hcall
        exact ⟨_, rfl⟩
  · intro w e hw hcall
    rw [hw]
    refine ⟨⟨rfl, hI⟩, ?_⟩
    intro job hjob
    cases hjob

/-- A dispatch keeps what the dispatch of the claimed lease keeps, and hands on what the
runtime of its context finalizes. -/
theorem processDispatch_keeps (h : OuterRule dispatch.supervisor C I)
    (hlease : forall payload, ClaimedPayload dispatch w₀ payload ->
      LeaseRule dispatch.supervisor C I payload.leaseId) (hI : I w₀) :
    Process.Triple C (fun w => w = w₀) (processDispatch dispatch)
      (fun r w => I w ∧ FinalizedByRuntime dispatch w₀ r) := by
  apply Process.Triple.bind (claimDispatchJob_keeps h hI)
  · intro found w hw
    rcases hw with ⟨hstore, hclaimed⟩
    cases found with
    | none =>
        refine ⟨⟨hstore.2, finalizedByRuntime_of_ne (by simp)⟩, ?_⟩
        intro c hc
        cases hc
    | some job =>
        rcases hclaimed job rfl with ⟨jobs, hclaim⟩
        cases hpayload : job.payload with
        | none =>
            simp only [hpayload]
            have hmissing : Process.Triple C I
                (do
                  let _ ← onJobs (failJob job.jobId)
                  Process.throw (.port "Cannot read properties of null (reading 'taskId')"))
                (fun r w => I w ∧ FinalizedByRuntime dispatch w₀ r) := by
              apply onJobs_ends h _ (fun e => finalizedByRuntime_error e)
              intro _
              exact Process.Triple.throw (fun _ hw => ⟨hw, finalizedByRuntime_error _⟩)
            exact hmissing w hstore.2
        | some payload =>
            simp only [hpayload]
            have hrule := hlease payload ⟨jobs, job, hclaim, hpayload⟩
            have hhandled : Process.Triple C (fun w => w.store = w₀.store ∧ I w)
                (Process.tryCatch (dispatchJob dispatch job payload)
                  (failDispatch job payload))
                (fun r w => I w ∧ FinalizedByRuntime dispatch w₀ r) := by
              apply Process.Triple.tryCatch (dispatchJob_keeps hrule hclaim hpayload)
              · intro _ _ h
                exact h
              · intro e
                apply Process.Triple.weaken _ (fun _ hw => hw.1) (fun _ _ h => h)
                apply onJobs_ends h _ (fun e => finalizedByRuntime_error e)
                intro _
                exact Process.Triple.pure
                  (fun _ hw => ⟨hw, finalizedByRuntime_of_ne (by simp)⟩)
            exact hhandled w hstore
  · intro e w hw
    exact ⟨hw.1.2, finalizedByRuntime_error e⟩

end Dispatch

end Automation
end CopilotFactory
