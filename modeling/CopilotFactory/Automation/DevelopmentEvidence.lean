import CopilotFactory.Automation.CopilotCliAdapter
import CopilotFactory.Automation.DispatchRules
import CopilotFactory.Automation.FailedDispatches
import CopilotFactory.Application.ValidationRunner

/-!
# Evidence of completed development

A task should become DEV_COMPLETE only on the evidence of the worker run that is
processed: a valid packet that reports success and a passed validation run.  The
automation sets both flags by itself, and a run with no valid packet ends as
partial, which counts as a success.
-/

namespace CopilotFactory
namespace Automation

open Foundations
open Domain
open Infrastructure
open Application
open ControlPlane

variable {w : World Machinery} {payload : DispatchPayload} {context : WorkerSpawnContext}

def statusOf (s : Store) (taskId : TaskId) : Option TaskStatus :=
  (s.findTask taskId).map Task.status

def CompletesDevelopment (before after : World Machinery) (taskId : TaskId) : Prop :=
  statusOf before.store taskId ≠ some .devComplete ∧
    statusOf after.store taskId = some .devComplete

instance (before after : World Machinery) (taskId : TaskId) :
    Decidable (CompletesDevelopment before after taskId) :=
  inferInstanceAs (Decidable (_ ∧ _))

def NoCompletion (before after : World Machinery) : Prop :=
  forall taskId, ¬ CompletesDevelopment before after taskId

/-!
## A dispatch completes no task by itself
-/

theorem noCompletion_of_tasks_eq {before after : World Machinery}
    (h : after.store.tasks = before.store.tasks) :
    NoCompletion before after := by
  intro taskId hcompletes
  apply hcompletes.1
  rw [← hcompletes.2]
  unfold statusOf
  rw [Store.findTask_of_tasks_eq h]

theorem outerRule_noCompletion (ports : SupervisorPorts) :
    OuterRule ports NoCompletion (fun _ => True) where
  serve := fun _ _ _ _ => trivial
  outer := fun _ _ _ => ⟨trivial, noCompletion_of_tasks_eq rfl⟩

/-- Whatever a reclaim makes of the task, it does not complete its development. -/
theorem reclaim_noCompletion (leaseId : LeaseId) :
    StoreRule NoCompletion (fun _ => True) (reclaimLease (supervisorReclaim leaseId)) := by
  intro w s' result _ h
  refine ⟨trivial, ?_⟩
  rcases reclaimLease_spec h with ⟨lease, task, _, _, htask, _, hcases⟩
  rcases hcases with ⟨_, htasks⟩ | ⟨_, htasks⟩
  · exact noCompletion_of_tasks_eq htasks
  · intro taskId hcompletes
    apply hcompletes.1
    have hafter := hcompletes.2
    unfold statusOf at hafter
    rw [Store.findTask_of_tasks_eq htasks] at hafter
    by_cases hid : taskId = lease.taskId
    · rw [hid, Store.findTask_writeTask_self, htask] at hafter
      simp only [Option.map_some, Option.some.injEq, TaskUpdate.apply_status,
        reclaimTaskUpdate, Option.getD_some] at hafter
      have htarget := evaluateTaskOutcome_targetStatus task
        (supervisorReclaim leaseId).retryPolicy (supervisorReclaim leaseId).escalationPolicy
        (supervisorReclaim leaseId).hasFailureSummary
      rw [hafter] at htarget
      exact absurd htarget (by decide)
    · rw [Store.findTask_writeTask_of_ne hid] at hafter
      exact hafter

theorem leaseRule_noCompletion (ports : SupervisorPorts) (leaseId : LeaseId) :
    LeaseRule ports NoCompletion (fun _ => True) leaseId where
  toOuterRule := outerRule_noCompletion ports
  start := by
    intro w s' event _ h
    rcases transitionLease_spec h with ⟨_, _, _, htasks, _⟩
    exact ⟨trivial, noCompletion_of_tasks_eq htasks⟩
  heartbeat := by
    intro isTerminal now w s' result _ h
    rcases receiveHeartbeat_spec h with ⟨_, _, _, htasks, _⟩
    exact ⟨trivial, noCompletion_of_tasks_eq htasks⟩
  reclaim := reclaim_noCompletion leaseId

theorem processDispatch_guarantee (ports : DispatchPorts) (w₀ : World Machinery) :
    Process.Triple NoCompletion (fun w => w = w₀) (processDispatch ports)
      (fun r _ => FinalizedByRuntime ports w₀ r) :=
  (processDispatch_keeps (outerRule_noCompletion ports.supervisor)
    (fun payload _ => leaseRule_noCompletion ports.supervisor payload.leaseId) trivial).post
      (fun _ _ h => h.2)

/-!
## Processing a result
-/

theorem statusOf_of_transitionTask {taskId : TaskId} {target : TaskStatus}
    {context : TransitionContext} {actor : ActorInfo} {s s' : Store} {event : AuditEvent}
    (h : transitionTask taskId target context actor s = .ok (s', event)) :
    statusOf s' taskId = some target ∧
      forall other, other ≠ taskId -> statusOf s' other = statusOf s other := by
  rcases transitionTask_eq_ok.mp h with ⟨task, htask, _, hs', _⟩
  rw [hs']
  unfold statusOf
  constructor
  · rw [Store.appendAudit_findTask, Store.findTask_writeTask_self, htask]
    rfl
  · intro other hother
    rw [Store.appendAudit_findTask, Store.findTask_writeTask_of_ne hother]

def InProgress (taskId : TaskId) (s : Store) : Prop :=
  statusOf s taskId = some .assigned ∨ statusOf s taskId = some .inDevelopment

/-- The commit completes the development of no task but this one, and of this one only
if the condition holds. -/
def CompletesOnly (taskId : TaskId) (condition : Prop)
    (before after : World Machinery) : Prop :=
  forall other, CompletesDevelopment before after other -> other = taskId ∧ condition

theorem completeDevelopment_completesOnly {taskId : TaskId} {condition : Prop} :
    Process.Triple (CompletesOnly taskId condition)
      (fun w => statusOf w.store taskId = some .inDevelopment -> condition)
      (completeDevelopment taskId) (fun _ _ => True) := by
  have hcommit : Process.Triple (CompletesOnly taskId condition)
      (fun w => statusOf w.store taskId = some .inDevelopment -> condition)
      (onStore (transitionTask taskId .devComplete
        { hasDevResultPacket := some true, requiredValidationsPassed := some true }
        automationActor)) (fun _ _ => True) := by
    apply Process.Triple.transaction
    · intro w s' event hw hcall
      refine ⟨trivial, ?_⟩
      intro other hcompletes
      rcases transitionTask_eq_ok.mp hcall with ⟨task, htask, hvalid, _, _⟩
      rcases TaskState.evidence_of_validate_devComplete hvalid with ⟨hstatus, _⟩
      by_cases hother : other = taskId
      · refine ⟨hother, hw ?_⟩
        unfold statusOf
        rw [htask, Option.map_some, hstatus]
      · apply absurd hcompletes.2
        rw [(statusOf_of_transitionTask hcall).2 other hother]
        exact hcompletes.1
    · intro _ _ _ _
      trivial
  exact (Process.Triple.swallow hcommit).post (fun _ _ _ => trivial)

theorem processSuccessfulWorkerResult_completesOnly (taskId : TaskId)
    (w₀ : World Machinery) :
    Process.Triple (CompletesOnly taskId (InProgress taskId w₀.store)) (fun w => w = w₀)
      (processSuccessfulWorkerResult taskId) (fun _ _ => True) := by
  have hfirst : Process.Triple (CompletesOnly taskId (InProgress taskId w₀.store))
      (fun w => w = w₀)
      (onStore (transitionTask taskId .inDevelopment { hasHeartbeat := some true }
        automationActor))
      (fun _ w => statusOf w.store taskId = some .inDevelopment ->
        InProgress taskId w₀.store) := by
    apply Process.Triple.transaction
    · intro w s' event hw hcall
      rw [hw] at hcall
      rcases transitionTask_eq_ok.mp hcall with ⟨task, htask, hvalid, _, _⟩
      have hassigned := TaskState.assigned_of_validate_inDevelopment hvalid
      rcases statusOf_of_transitionTask hcall with ⟨hself, hothers⟩
      constructor
      · intro _
        left
        unfold statusOf
        rw [htask, Option.map_some, hassigned]
      · intro other hcompletes
        rw [hw] at hcompletes
        by_cases hother : other = taskId
        · have hcompleted := hcompletes.2
          rw [hother] at hcompleted
          cases hself.symm.trans hcompleted
        · apply absurd hcompletes.2
          rw [hothers other hother]
          exact hcompletes.1
    · intro w e hw _ hstatus
      rw [hw] at hstatus
      exact Or.inr hstatus
  apply Process.Triple.bind_attempt hfirst
  intro r
  cases r with
  | ok event =>
      exact completeDevelopment_completesOnly
  | error e =>
      dsimp only
      split
      · exact completeDevelopment_completesOnly
      · exact Process.Triple.pure (fun _ _ => trivial)

theorem completeDevelopment_completes {taskId : TaskId}
    (h : statusOf w.store taskId = some .inDevelopment) :
    exists c, c ∈ (completeDevelopment taskId w).commits ∧
      CompletesDevelopment c.1 c.2 taskId := by
  rcases Option.map_eq_some_iff.mp h with ⟨task, htask, hstatus⟩
  have hvalid : validateTransition task.status .devComplete
      { hasDevResultPacket := some true, requiredValidationsPassed := some true } =
        .valid := by
    rw [hstatus]
    rfl
  rcases transitionTask_accepts automationActor htask hvalid with ⟨s', event, hcall⟩
  refine ⟨(w, { w with store := s' }), ?_, ?_, (statusOf_of_transitionTask hcall).1⟩
  · apply Process.mem_commits_attempt_bind.mpr
    left
    rw [onStore_of_ok hcall]
    exact List.mem_singleton_self _
  · rw [h]
    decide

theorem processSuccessfulWorkerResult_completes {taskId : TaskId}
    (h : InProgress taskId w.store) :
    exists c, c ∈ (processSuccessfulWorkerResult taskId w).commits ∧
      CompletesDevelopment c.1 c.2 taskId := by
  unfold processSuccessfulWorkerResult
  cases hcall : transitionTask taskId .inDevelopment { hasHeartbeat := some true }
      automationActor w.store with
  | ok r =>
      have hstatus : statusOf ({ w with store := r.1 } : World Machinery).store taskId =
          some .inDevelopment :=
        (statusOf_of_transitionTask hcall).1
      rcases completeDevelopment_completes hstatus with ⟨c, hc, hcompletes⟩
      refine ⟨c, ?_, hcompletes⟩
      apply Process.mem_commits_attempt_bind.mpr
      right
      rw [onStore_of_ok hcall]
      exact hc
  | error e =>
      have hstatus : statusOf w.store taskId = some .inDevelopment := by
        rcases h with h | h
        · rcases Option.map_eq_some_iff.mp h with ⟨task, htask, hassigned⟩
          have hvalid : validateTransition task.status .inDevelopment
              { hasHeartbeat := some true } = .valid := by
            rw [hassigned]
            rfl
          rcases transitionTask_accepts automationActor htask hvalid with ⟨_, _, hok⟩
          rw [hok] at hcall
          cases hcall
        · exact h
      rcases completeDevelopment_completes hstatus with ⟨c, hc, hcompletes⟩
      refine ⟨c, ?_, hcompletes⟩
      apply Process.mem_commits_attempt_bind.mpr
      right
      rw [onStore_of_error hcall]
      have hexpected : isExpected (.service e) = true := by
        rcases transitionTask_error hcall with he | ⟨_, _, he⟩
        · rw [he]
          rfl
        · rw [he]
          rfl
      dsimp only
      rw [if_pos hexpected]
      exact hc

/-- A round completes the development of exactly the task whose dispatched run was
finalized as a success or a partial result, if that task is in progress then. -/
theorem processWorkerDispatches_completes_iff (ports : DispatchPorts)
    (w : World Machinery) (taskId : TaskId) :
    (exists c, c ∈ (processWorkerDispatches ports w).commits ∧
      CompletesDevelopment c.1 c.2 taskId) <->
      exists jobId payload spawnResult,
        (processDispatch ports w).result = .ok (.dispatched jobId payload spawnResult) ∧
        (spawnResult.finalizeResult.status = .success ∨
          spawnResult.finalizeResult.status = .partialResult) ∧
        payload.taskId = taskId ∧
        InProgress taskId (processDispatch ports w).state.store := by
  have hmem : forall c, c ∈ (processWorkerDispatches ports w).commits <->
      c ∈ (processDispatch ports w).commits ∨
        exists result, (processDispatch ports w).result = .ok result ∧
          c ∈ (processResult result (processDispatch ports w).state).commits := by
    intro c
    unfold processWorkerDispatches
    rw [Process.mem_commits_tryCatch, Process.mem_commits_bind]
    constructor
    · intro h
      rcases h with h | ⟨_, _, h⟩
      · exact h
      · cases h
    · exact Or.inl
  constructor
  · intro h
    rcases h with ⟨c, hc, hcompletes⟩
    rcases (hmem c).mp hc with hc | ⟨result, hresult, hc⟩
    · have hnone := (processDispatch_guarantee ports w w rfl).2 c hc
      exact absurd hcompletes (hnone taskId)
    · cases result with
      | dispatched jobId payload spawnResult =>
          simp only [processResult] at hc
          by_cases hstatus : spawnResult.finalizeResult.status = .success ∨
              spawnResult.finalizeResult.status = .partialResult
          · rw [if_pos hstatus] at hc
            have honly := (processSuccessfulWorkerResult_completesOnly payload.taskId
              (processDispatch ports w).state (processDispatch ports w).state rfl).2 c hc
            rcases honly taskId hcompletes with ⟨htask, hprogress⟩
            rw [htask]
            exact ⟨jobId, payload, spawnResult, hresult, hstatus, rfl, hprogress⟩
          · rw [if_neg hstatus] at hc
            cases hc
      | skipped =>
          cases hc
      | notDispatched jobId taskId reason error =>
          cases hc
  · intro h
    rcases h with ⟨jobId, payload, spawnResult, hresult, hstatus, htask, hprogress⟩
    rw [← htask] at hprogress ⊢
    rcases processSuccessfulWorkerResult_completes hprogress with ⟨c, hc, hcompletes⟩
    refine ⟨c, (hmem c).mpr (Or.inr ⟨_, hresult, ?_⟩), hcompletes⟩
    simp only [processResult]
    rw [if_pos hstatus]
    exact hc

/-!
## Evidence
-/

variable {J : Type}

/-- One round of the automation: the requests of others before it, the ports it is run
with, what the worker process does, and the validations that are run for it. -/
structure Round where
  waiting : List Request
  ports : DispatchPorts
  behaviour : RunContext -> WorkerBehaviour
  validations : List ValidationRunResult

def Round.dispatchPorts (tools : PacketTools J) (round : Round) : DispatchPorts :=
  withCopilot round.ports tools round.behaviour

def automationLoop (tools : PacketTools J) :
    TransitionSystem (World Machinery) Round Empty where
  step := fun w round =>
    .ok (processWorkerDispatches (round.dispatchPorts tools) (w.serve round.waiting)).state

/-- The run of a context produced a valid packet that reports success, and the
validations of the default profile passed. -/
structure RunEvidence (tools : PacketTools J) (round : Round) (context : RunContext) :
    Prop where
  packet : exists packet,
    producedPacket tools (round.behaviour context).final = some packet ∧
    validatePacketSchema tools packet context.outputSchemaExpectation.packetType = true ∧
    tools.status packet = some "success"
  validated : exists validation, validation ∈ round.validations ∧
    validation.profileName = "default-dev" ∧ validation.overallStatus = .passed

/-- In this round, which starts in the given world, a task completes its development
only with the evidence of the run that is processed, and never after a partial run. -/
structure CompletedOnEvidence (tools : PacketTools J) (round : Round)
    (w : World Machinery) : Prop where
  evidence : forall c,
    c ∈ (processWorkerDispatches (round.dispatchPorts tools) w).commits ->
    forall taskId, CompletesDevelopment c.1 c.2 taskId ->
      exists payload context,
        ProcessedContext (round.dispatchPorts tools) w payload context ∧
        payload.taskId = taskId ∧
        RunEvidence tools round context.runContext
  not_partial : forall payload context finalizeResult,
    ProcessedContext (round.dispatchPorts tools) w payload context ->
    (copilotRun tools (round.behaviour context.runContext)
      context.runContext).finalizeRun.outcome = .ok finalizeResult ->
    finalizeResult.status = .partialResult ->
    forall c, c ∈ (processWorkerDispatches (round.dispatchPorts tools) w).commits ->
      ¬ CompletesDevelopment c.1 c.2 payload.taskId

/-- The round processes the result of a worker process that ended by itself, with exit
code 0 or after its session was reported, while its task is in progress. -/
def PartialRunProcessed (tools : PacketTools J) (round : Round)
    (w : World Machinery) : Prop :=
  exists payload context,
    ProcessedContext (round.dispatchPorts tools) w payload context ∧
    EndsAsPartial (round.behaviour context.runContext).final ∧
    (exists jobId spawnResult,
      (processDispatch (round.dispatchPorts tools) w).result =
        .ok (.dispatched jobId payload spawnResult)) ∧
    InProgress payload.taskId (processDispatch (round.dispatchPorts tools) w).state.store

theorem processedContext_unique {ports : DispatchPorts} {payload' : DispatchPayload}
    {context' : WorkerSpawnContext} (h : ProcessedContext ports w payload context)
    (h' : ProcessedContext ports w payload' context') :
    payload = payload' ∧ context = context' := by
  rcases h with ⟨jobs, job, hclaim, hpayload, hcontext⟩
  rcases h' with ⟨jobs', job', hclaim', hpayload', hcontext'⟩
  rw [hclaim] at hclaim'
  cases hclaim'
  rw [hpayload] at hpayload'
  cases hpayload'
  rw [hcontext] at hcontext'
  cases hcontext'
  exact ⟨rfl, rfl⟩

theorem finalized_of_processedContext {tools : PacketTools J} {round : Round}
    {finalizeResult : FinalizeResult}
    (h : ProcessedContext (round.dispatchPorts tools) w payload context)
    (hfinal : (copilotRun tools (round.behaviour context.runContext)
      context.runContext).finalizeRun.outcome = .ok finalizeResult) :
    finalizeResult.status ≠ .success ∧
      (finalizeResult.status = .partialResult <->
        EndsAsPartial (round.behaviour context.runContext).final) := by
  rcases h with ⟨_, _, _, _, hcontext⟩
  rcases packetType_of_resolveSpawnContext hcontext with ⟨taskType, htype⟩
  have hfinalized : finalizeRun tools
      context.runContext.outputSchemaExpectation.packetType _
      (round.behaviour context.runContext).final = .ok finalizeResult := hfinal
  rw [htype] at hfinalized
  exact finalizeRun_status hfinalized

/-- A round completes a task exactly when it processes a partial run of it. -/
theorem round_completes_iff (tools : PacketTools J) (round : Round)
    (w : World Machinery) :
    (exists c, c ∈ (processWorkerDispatches (round.dispatchPorts tools) w).commits ∧
      exists taskId, CompletesDevelopment c.1 c.2 taskId) <->
      PartialRunProcessed tools round w := by
  constructor
  · intro h
    rcases h with ⟨c, hc, taskId, hcompletes⟩
    rcases (processWorkerDispatches_completes_iff _ w taskId).mp ⟨c, hc, hcompletes⟩ with
      ⟨jobId, payload, spawnResult, hresult, hstatus, htask, hprogress⟩
    rcases (processDispatch_guarantee (round.dispatchPorts tools) w w rfl).1
      jobId payload spawnResult hresult with ⟨context, hcontext, hfinal⟩
    rcases finalized_of_processedContext hcontext hfinal with ⟨hsuccess, hpartial⟩
    refine ⟨payload, context, hcontext, ?_, ⟨jobId, spawnResult, hresult⟩, ?_⟩
    · rcases hstatus with hstatus | hstatus
      · exact absurd hstatus hsuccess
      · exact hpartial.mp hstatus
    · rw [htask]
      exact hprogress
  · intro h
    rcases h with ⟨payload, context, hcontext, hends, ⟨jobId, spawnResult, hresult⟩,
      hprogress⟩
    rcases (processDispatch_guarantee (round.dispatchPorts tools) w w rfl).1
      jobId payload spawnResult hresult with ⟨context', hcontext', hfinal⟩
    rcases processedContext_unique hcontext hcontext' with ⟨_, hsame⟩
    rw [← hsame] at hfinal
    have hpartial := (finalized_of_processedContext hcontext hfinal).2.mpr hends
    rcases (processWorkerDispatches_completes_iff _ w payload.taskId).mpr
      ⟨jobId, payload, spawnResult, hresult, Or.inr hpartial, rfl, hprogress⟩ with
        ⟨c, hc, hcompletes⟩
    exact ⟨c, hc, _, hcompletes⟩

theorem no_evidence_of_processedContext {tools : PacketTools J} {round : Round}
    (h : ProcessedContext (round.dispatchPorts tools) w payload context) :
    ¬ RunEvidence tools round context.runContext := by
  intro hevidence
  rcases hevidence.packet with ⟨packet, _, hvalid, _⟩
  rcases h with ⟨_, _, _, _, hcontext⟩
  rcases packetType_of_resolveSpawnContext hcontext with ⟨taskType, htype⟩
  rw [htype, validatePacketSchema_of_taskType] at hvalid
  cases hvalid

theorem completedOnEvidence_iff (tools : PacketTools J) (round : Round)
    (w : World Machinery) :
    CompletedOnEvidence tools round w <-> ¬ PartialRunProcessed tools round w := by
  constructor
  · intro h hpartial
    rcases (round_completes_iff tools round w).mpr hpartial with
      ⟨c, hc, taskId, hcompletes⟩
    rcases h.evidence c hc taskId hcompletes with ⟨payload, context, hcontext, _, hevidence⟩
    exact no_evidence_of_processedContext hcontext hevidence
  · intro h
    have hnone : forall c,
        c ∈ (processWorkerDispatches (round.dispatchPorts tools) w).commits ->
          forall taskId, ¬ CompletesDevelopment c.1 c.2 taskId := by
      intro c hc taskId hcompletes
      exact h ((round_completes_iff tools round w).mp ⟨c, hc, taskId, hcompletes⟩)
    constructor
    · intro c hc taskId hcompletes
      exact absurd hcompletes (hnone c hc taskId)
    · intro payload _ _ _ _ _ c hc
      exact hnone c hc payload.taskId

/-- Along every run of the automation, tasks complete their development on the evidence
of their worker runs exactly when no round processes a partial run of a task in
progress. -/
theorem development_completed_on_evidence_iff (tools : PacketTools J)
    (w : World Machinery) (rounds : List Round) :
    (forall x, x ∈ (automationLoop tools).arrivals w rounds ->
      CompletedOnEvidence tools x.2 (x.1.serve x.2.waiting)) <->
      forall x, x ∈ (automationLoop tools).arrivals w rounds ->
        ¬ PartialRunProcessed tools x.2 (x.1.serve x.2.waiting) := by
  constructor
  · intro h x hx
    exact (completedOnEvidence_iff tools x.2 _).mp (h x hx)
  · intro h x hx
    exact (completedOnEvidence_iff tools x.2 _).mpr (h x hx)

/-!
## A run that produces nothing
-/

def noPackets : PacketTools Unit where
  parse := fun _ => none
  accepts := fun _ _ => false
  status := fun _ => none

def silentWorker : WorkerBehaviour where
  prepareRun := calmCall (.ok "run-1")
  startRun := calmCall (.ok ())
  streamRun := []
  streamEnd := calmCall (.ok ())
  collecting := []
  finalizing := []
  completedAt := 6000
  cleanup := []
  final :=
    { phase := .completed
      stdoutBuffer := ""
      stderrBuffer := ""
      exitCode := some 0
      outputFile := none
      logEntries := [] }

def silentRound : Round where
  waiting := []
  ports := portsWith (.ok aWorkspace)
  behaviour := fun _ => silentWorker
  validations := []

/-- The task of the silent worker becomes DEV_COMPLETE. -/
theorem silent_worker_completes :
    ¬ (forall x, x ∈ (automationLoop noPackets).arrivals scheduledWorld [silentRound] ->
      CompletedOnEvidence noPackets x.2 (x.1.serve x.2.waiting)) := by
  intro h
  have hevidence := (h (scheduledWorld, silentRound) List.mem_cons_self).evidence
  have hcompletes : exists c,
      c ∈ (processWorkerDispatches (silentRound.dispatchPorts noPackets)
        (scheduledWorld.serve [])).commits ∧ CompletesDevelopment c.1 c.2 "task-1" := by
    decide +kernel
  rcases hcompletes with ⟨c, hc, hcompletes⟩
  rcases hevidence c hc "task-1" hcompletes with ⟨_, _, _, _, hrun⟩
  rcases hrun.packet with ⟨packet, hproduced, _⟩
  cases hproduced

end Automation
end CopilotFactory
