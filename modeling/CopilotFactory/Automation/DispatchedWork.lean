import CopilotFactory.Automation.DispatchRules

/-!
# What the worker of a dispatched job does to the store

Everything that a dispatch does to the store is a request: of others, while a port is
awaited, or of the worker of the job.  The worker's requests are few.  Those about
its lease name the lease of the job, those about its result name the task.
-/

namespace CopilotFactory
namespace Automation

open Foundations
open Infrastructure
open Application
open ControlPlane

inductive WorkerAction where
  | start
  | heartbeat (isTerminal : Bool) (now : Millis)
  | reclaim
  | beginDevelopment
  | completeDevelopment

def WorkerAction.request (payload : DispatchPayload) : WorkerAction -> Request
  | .start =>
      .transitionLease payload.leaseId .starting { workerProcessSpawned := some true }
        automationActor
  | .heartbeat isTerminal now =>
      .receiveHeartbeat now
        { leaseId := payload.leaseId, completing := isTerminal, actor := supervisorActor }
  | .reclaim => .reclaimLease (supervisorReclaim payload.leaseId)
  | .beginDevelopment =>
      .transitionTask payload.taskId .inDevelopment { hasHeartbeat := some true }
        automationActor
  | .completeDevelopment =>
      .transitionTask payload.taskId .devComplete
        { hasDevResultPacket := some true, requiredValidationsPassed := some true }
        automationActor

/-- A request, and whether the worker of a dispatched job makes it. -/
inductive WorkStep where
  | others (request : Request)
  | worker (payload : DispatchPayload) (action : WorkerAction)

def WorkStep.request : WorkStep -> Request
  | .others request => request
  | .worker payload action => action.request payload

def WorkStep.others? : WorkStep -> Option Request
  | .others request => some request
  | .worker _ _ => none

def dispatchedWork : TransitionSystem Store WorkStep ServiceError :=
  controlPlane.named WorkStep.request

/-!
## A dispatch is a run of such requests
-/

/-- The run of these steps leads from the one store to the other.  Its workers are those
of jobs with such payloads, and the others make their requests while the ports are awaited:
all those of one call, one call after the other. -/
structure WorkedBy (ports : SupervisorPorts) (P : DispatchPayload -> Prop) (s s' : Store)
    (steps : List WorkStep) : Prop where
  run : s' = dispatchedWork.run s steps
  workers : forall payload action, .worker payload action ∈ steps -> P payload
  others : exists waits, steps.filterMap WorkStep.others? = List.flatten waits ∧
    forall requests, requests ∈ waits -> ServedDuring ports requests

def Worked (ports : SupervisorPorts) (P : DispatchPayload -> Prop) (w w' : World Machinery) :
    Prop :=
  exists steps, WorkedBy ports P w.store w'.store steps

variable {supervisor : SupervisorPorts} {P : DispatchPayload -> Prop}
  {w₀ : World Machinery} {payload : DispatchPayload}

theorem worked_of_store_eq {w : World Machinery} (h : w.store = w₀.store) :
    Worked supervisor P w₀ w :=
  ⟨[], h, fun _ _ hmem => absurd hmem List.not_mem_nil,
    [], rfl, fun _ hmem => absurd hmem List.not_mem_nil⟩

theorem Worked.append {w w' : World Machinery} (h : Worked supervisor P w₀ w)
    {more : List WorkStep} (hmore : WorkedBy supervisor P w.store w'.store more) :
    Worked supervisor P w₀ w' := by
  rcases h with ⟨steps, hrun, hworkers, waits, hwaits, hserved⟩
  rcases hmore.others with ⟨waits', hwaits', hserved'⟩
  refine ⟨steps ++ more, ?_, ?_, waits ++ waits', ?_, ?_⟩
  · rw [hmore.run, hrun, dispatchedWork.run_append]
  · intro payload action hmem
    rcases List.mem_append.mp hmem with hmem | hmem
    · exact hworkers payload action hmem
    · exact hmore.workers payload action hmem
  · rw [List.filterMap_append, List.flatten_append, hwaits, hwaits']
  · intro requests hmem
    rcases List.mem_append.mp hmem with hmem | hmem
    · exact hserved requests hmem
    · exact hserved' requests hmem

/-- Where nobody is served during the ports, and no job with such a payload has a worker,
the store stays as it is. -/
theorem Worked.store_eq {w : World Machinery} (h : Worked supervisor P w₀ w)
    (hserved : forall requests, ServedDuring supervisor requests -> requests = [])
    (hworkers : forall payload, ¬ P payload) :
    w.store = w₀.store := by
  rcases h with ⟨steps, hrun, hpayloads, waits, hwaits, hcalls⟩
  have hothers : steps.filterMap WorkStep.others? = [] := by
    rw [hwaits, List.flatten_eq_nil_iff]
    intro requests hmem
    exact hserved requests (hcalls requests hmem)
  have hsteps : steps = [] := by
    apply List.eq_nil_iff_forall_not_mem.mpr
    intro step hmem
    cases step with
    | others request =>
        cases List.filterMap_eq_nil_iff.mp hothers _ hmem
    | worker payload action =>
        exact hworkers payload (hpayloads payload action hmem)
  rw [hrun, hsteps]
  rfl

theorem workedBy_serve {others : List Request} (w : World Machinery)
    (hserved : ServedDuring supervisor others) :
    WorkedBy supervisor P w.store (w.serve others).store (others.map WorkStep.others) where
  run := by
    unfold dispatchedWork
    rw [TransitionSystem.named_run, List.map_map]
    show controlPlane.run w.store others = _
    rw [show WorkStep.request ∘ WorkStep.others = id from rfl, List.map_id]
  workers := by
    intro payload action hmem
    rcases List.mem_map.mp hmem with ⟨_, _, hworker⟩
    cases hworker
  others := by
    refine ⟨[others], ?_, ?_⟩
    · rw [List.filterMap_map, List.flatten_singleton]
      exact List.filterMap_some
    · intro requests hmem
      rw [List.mem_singleton.mp hmem]
      exact hserved

theorem outerRule_worked : OuterRule supervisor Process.AnyCommit (Worked supervisor P w₀) where
  serve := fun _ w hserved hw => hw.append (workedBy_serve w hserved)
  outer := fun _ _ hw => ⟨hw, trivial⟩

theorem storeRule_worked {α : Type} {call : Store -> Except ServiceError (Store × α)}
    (hpayload : P payload) (action : WorkerAction)
    (hcall : forall s, committed (call s) = perform s (action.request payload)) :
    StoreRule Process.AnyCommit (Worked supervisor P w₀) call := by
  intro w s' a hw hok
  have hstep : dispatchedWork.step w.store (.worker payload action) = .ok s' := by
    show perform w.store (action.request payload) = .ok s'
    rw [← hcall]
    exact committed_eq_ok.mpr ⟨a, hok⟩
  have hworked : WorkedBy supervisor P w.store s' [.worker payload action] :=
    { run := by
        rw [dispatchedWork.run_cons, dispatchedWork.next_of_ok hstep]
        rfl
      workers := by
        intro payload' action' hmem
        rw [List.mem_singleton] at hmem
        cases hmem
        exact hpayload
      others := ⟨[], rfl, fun _ hmem => absurd hmem List.not_mem_nil⟩ }
  exact ⟨hw.append hworked, trivial⟩

theorem leaseRule_worked (hpayload : P payload) :
    LeaseRule supervisor Process.AnyCommit (Worked supervisor P w₀) payload.leaseId where
  toOuterRule := outerRule_worked
  start := storeRule_worked hpayload .start (fun _ => rfl)
  heartbeat := fun isTerminal now =>
    storeRule_worked hpayload (.heartbeat isTerminal now) (fun _ => rfl)
  reclaim := storeRule_worked hpayload .reclaim (fun _ => rfl)

theorem processDispatch_worked (ports : DispatchPorts) (w₀ : World Machinery) :
    Process.Triple Process.AnyCommit (fun w => w = w₀) (processDispatch ports)
      (fun r w => Worked ports.supervisor (ClaimedPayload ports w₀) w₀ w ∧
        FinalizedByRuntime ports w₀ r) :=
  processDispatch_keeps outerRule_worked (fun _ hclaimed => leaseRule_worked hclaimed)
    (worked_of_store_eq rfl)

theorem completeDevelopment_worked (hpayload : P payload) :
    Process.Keeps Process.AnyCommit (Worked supervisor P w₀) (completeDevelopment payload.taskId) :=
  Process.Keeps.swallow
    (storeRule_worked hpayload .completeDevelopment (fun _ => rfl)).keeps

theorem processSuccessfulWorkerResult_worked (hpayload : P payload) :
    Process.Keeps Process.AnyCommit (Worked supervisor P w₀)
      (processSuccessfulWorkerResult payload.taskId) := by
  apply (storeRule_worked hpayload .beginDevelopment (fun _ => rfl)).keeps.bind_attempt
  intro r
  cases r with
  | ok _ =>
      exact completeDevelopment_worked hpayload
  | error e =>
      dsimp only
      split
      · exact completeDevelopment_worked hpayload
      · exact Process.Keeps.pure _

theorem processResult_worked (hpayload : P payload) (jobId : JobId)
    (spawnResult : SpawnWorkerResult) :
    Process.Keeps Process.AnyCommit (Worked supervisor P w₀)
      (processResult (.dispatched jobId payload spawnResult)) := by
  simp only [processResult]
  split
  · exact processSuccessfulWorkerResult_worked hpayload
  · exact Process.Keeps.pure _

end Automation
end CopilotFactory
