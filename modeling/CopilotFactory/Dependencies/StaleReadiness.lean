import CopilotFactory.Dependencies.DependencyService
import CopilotFactory.Dependencies.Propagation

/-!
# Readiness at the time of assignment

Dependencies gate the way out of BACKLOG and BLOCKED, and nothing evaluates a
task again before it is back in one of these.  A lease is therefore acquired for
a task that was last let out of them by an evaluation that found all its hard
prerequisites DONE, by an operator who forced it, or by its escalation; what was
added or reopened since then is not looked at.
-/

namespace CopilotFactory
namespace Dependencies

open Foundations
open Domain
open Infrastructure
open Application
open ControlPlane
open Automation
open Process

/-!
## Tasks in front of and behind the gate
-/

variable {s s' : Store} {id : TaskId} {context : TransitionContext} {actor : ActorInfo}
  {result : OperatorActionResult} {g g' g₀ : TaskGraph}

/-- The statuses that a task can only leave for work by being evaluated or forced. -/
def gatedStatuses : List TaskStatus :=
  [.backlog, .blocked, .cancelled]

def IsOpen (s : Store) (taskId : TaskId) : Prop :=
  exists task, s.findTask taskId = some task ∧ task.status ∉ gatedStatuses

theorem isOpen_of_findTask_eq {taskId : TaskId} (h : s'.findTask taskId = s.findTask taskId) :
    IsOpen s' taskId <-> IsOpen s taskId := by
  unfold IsOpen
  rw [h]

theorem isOpen_of_tasks_eq {taskId : TaskId} (h : s'.tasks = s.tasks) :
    IsOpen s' taskId <-> IsOpen s taskId := by
  apply isOpen_of_findTask_eq
  exact Store.findTask_of_tasks_eq h taskId

theorem open_of_write {taskId : TaskId} {task : Task} {version : Nat} {data : TaskUpdate}
    (htask : s.findTask id = some task) (h : s'.tasks = (s.writeTask id version data).tasks)
    (hnot : ¬ IsOpen s taskId) (hopen : IsOpen s' taskId) :
    taskId = id ∧ task.status ∈ gatedStatuses ∧
      data.status.getD task.status ∉ gatedStatuses := by
  have hopen' : IsOpen (s.writeTask id version data) taskId :=
    (isOpen_of_tasks_eq h).mp hopen
  by_cases hid : taskId = id
  · rw [hid] at hnot
    rcases hopen' with ⟨written, hfind, hstatus⟩
    rw [hid, Store.findTask_writeTask_self, htask] at hfind
    cases hfind
    refine ⟨hid, ?_, hstatus⟩
    by_contra hgated
    exact hnot ⟨task, htask, hgated⟩
  · rcases hopen' with ⟨task', hfind, hstatus⟩
    rw [Store.findTask_writeTask_of_ne hid] at hfind
    exact absurd ⟨task', hfind, hstatus⟩ hnot

/-- From in front of the gate the state machine leads behind it only to READY and to
ESCALATED. -/
theorem target_of_gated {current target : TaskStatus}
    (hvalid : validateTransition current target context = .valid)
    (hgated : current ∈ gatedStatuses) (htarget : target ∉ gatedStatuses) :
    target = .ready ∨ target = .escalated := by
  cases current with
  | backlog =>
      cases target with
      | ready =>
          exact Or.inl rfl
      | escalated =>
          exact Or.inr rfl
      | backlog | blocked | cancelled =>
          exact absurd (by decide) htarget
      | _ =>
          cases hvalid
  | blocked =>
      cases target with
      | ready =>
          exact Or.inl rfl
      | escalated =>
          exact Or.inr rfl
      | backlog | blocked | cancelled =>
          exact absurd (by decide) htarget
      | _ =>
          cases hvalid
  | cancelled =>
      cases target <;> cases hvalid
  | _ =>
      exact absurd hgated (by decide)

theorem resolved_of_guardToReady {source : String}
    (h : TaskState.guardToReady source context = .valid) :
    context.allDependenciesResolved = some true := by
  unfold TaskState.guardToReady at h
  split at h
  · cases h
  · rename_i hresolved
    exact not_not.mp hresolved

/-- From in front of the gate a task is made READY by a caller who says that its
dependencies are resolved. -/
theorem resolved_of_gated {current : TaskStatus}
    (hvalid : validateTransition current .ready context = .valid)
    (hgated : current ∈ gatedStatuses) : context.allDependenciesResolved = some true := by
  cases current with
  | backlog =>
      exact resolved_of_guardToReady hvalid
  | blocked =>
      exact resolved_of_guardToReady hvalid
  | cancelled =>
      cases hvalid
  | _ =>
      exact absurd hgated (by decide)

/-!
## Requests of the control plane

An operator's pause, like any other escalation, takes a task from in front of the
gate to ESCALATED, from where it may be resumed.
-/

/-- That the dependencies of a task are resolved is said by evaluations only. -/
def Listed : Request -> Prop
  | .transitionTask _ .ready context _ => context.allDependenciesResolved ≠ some true
  | _ => True

def Forces (taskId : TaskId) (r : Request) : Prop :=
  exists actorId reason, r = .forceUnblock taskId actorId reason

def Escalates (taskId : TaskId) (r : Request) : Prop :=
  (exists actorId, r = .pause taskId actorId) ∨
    exists context actor, r = .transitionTask taskId .escalated context actor

theorem opened_by_transition {taskId : TaskId} {target : TaskStatus} {event : AuditEvent}
    (h : transitionTask id target context actor s = .ok (s', event)) (hnot : ¬ IsOpen s taskId)
    (hopen : IsOpen s' taskId) :
    taskId = id ∧ exists task, s.findTask id = some task ∧ task.status ∈ gatedStatuses ∧
      validateTransition task.status target context = .valid ∧
      (target = .ready ∨ target = .escalated) := by
  rcases transitionTask_eq_ok.mp h with ⟨task, htask, hvalid, hs', _⟩
  rcases open_of_write htask (by rw [hs']; rfl) hnot hopen with ⟨hid, hgated, htarget⟩
  exact ⟨hid, task, htask, hgated, hvalid, target_of_gated hvalid hgated htarget⟩

theorem opened_by_action {taskId : TaskId} {target : TaskStatus}
    (h : executeTransitionAction id target context actor s = .ok (s', result))
    (hnot : ¬ IsOpen s taskId) (hopen : IsOpen s' taskId) :
    taskId = id ∧ exists task, s.findTask id = some task ∧ task.status ∈ gatedStatuses ∧
      validateTransition task.status target context = .valid ∧
      (target = .ready ∨ target = .escalated) := by
  rcases executeTransitionAction_spec h with ⟨event, htransition⟩
  exact opened_by_transition htransition hnot hopen

theorem not_opened_by_action {taskId : TaskId} {target : TaskStatus}
    (h : executeTransitionAction id target context actor s = .ok (s', result))
    (hready : target ≠ .ready) (hescalated : target ≠ .escalated) (hnot : ¬ IsOpen s taskId) :
    ¬ IsOpen s' taskId := by
  intro hopen
  rcases opened_by_action h hnot hopen with ⟨_, _, _, _, _, htarget | htarget⟩
  · exact hready htarget
  · exact hescalated htarget

theorem not_opened_by_override {taskId : TaskId} {target : TaskStatus}
    {sources : List TaskStatus} {actorId action : String}
    (h : executeOverrideAction id target sources actorId action s = .ok (s', result))
    (hsources : target ∈ gatedStatuses ∨ forall status, status ∈ sources -> status ∉ gatedStatuses)
    (hnot : ¬ IsOpen s taskId) : ¬ IsOpen s' taskId := by
  intro hopen
  rcases executeOverrideAction_spec h with ⟨task, htask, hsource, hs', _⟩
  rcases open_of_write htask (by rw [hs']; rfl) hnot hopen with ⟨_, hgated, htarget⟩
  have hupdate : (overrideUpdate target).status = some target := by
    unfold overrideUpdate
    split <;> rfl
  rw [hupdate, Option.getD_some] at htarget
  rcases hsources with hsources | hsources
  · exact htarget hsources
  · exact hsources task.status hsource hgated

/-- Of the requests listed, only an operator's force-unblock and an escalation open a task. -/
theorem opens_of_perform {r : Request} {taskId : TaskId} (hr : Listed r)
    (h : perform s r = .ok s') (hnot : ¬ IsOpen s taskId) (hopen : IsOpen s' taskId) :
    Forces taskId r ∨ Escalates taskId r := by
  have hsame : s'.tasks = s.tasks -> Forces taskId r ∨ Escalates taskId r := by
    intro htasks
    exact absurd ((isOpen_of_tasks_eq htasks).mp hopen) hnot
  cases r with
  | createWorkerPool pool =>
      exact hsame (Store.createWorkerPool_spec h).1
  | createTask dto =>
      rcases Store.createTask_spec h with ⟨_, _, hself, hother⟩
      by_cases hid : taskId = (newTask dto).taskId
      · rcases hopen with ⟨task, htask, hstatus⟩
        rw [hid, hself] at htask
        cases htask
        have hgated : (newTask dto).status ∈ gatedStatuses := by
          change TaskStatus.backlog ∈ gatedStatuses
          decide
        exact absurd hgated hstatus
      · exact absurd ((isOpen_of_findTask_eq (hother taskId hid)).mp hopen) hnot
  | updateTask id dto =>
      rcases committed_eq_ok.mp h with ⟨result, h⟩
      rcases updateTask_spec h with hs' | ⟨task, htask, _, hs'⟩
      · exact hsame (by rw [hs'])
      · rcases open_of_write htask (by rw [hs']) hnot hopen with ⟨_, hgated, hstatus⟩
        exact absurd hgated hstatus
  | acquireLease now leaseId params =>
      rcases committed_eq_ok.mp h with ⟨result, h⟩
      rcases acquireLease_spec h with ⟨task, _, htask, heligible, _, _, htasks, _⟩
      rcases open_of_write htask htasks hnot hopen with ⟨_, hgated, _⟩
      have hnone : forall status, status ∈ leaseEligibleStatuses ->
          status ∉ gatedStatuses := by
        decide
      exact absurd hgated (hnone _ heligible)
  | transitionLease leaseId targetStatus context actor =>
      rcases committed_eq_ok.mp h with ⟨result, h⟩
      exact hsame (transitionLease_writes h).2
  | receiveHeartbeat now params =>
      rcases committed_eq_ok.mp h with ⟨result, h⟩
      exact hsame (receiveHeartbeat_writes h).2
  | reclaimLease params =>
      rcases committed_eq_ok.mp h with ⟨result, h⟩
      rcases reclaimLease_spec h with ⟨lease, task, _, _, htask, _, h | h⟩
      · exact hsame h.2
      · rcases open_of_write htask h.2 hnot hopen with ⟨_, hgated, _⟩
        have hnone : forall status, status ∈ reclaimEligibleTaskStates ->
            status ∉ gatedStatuses := by
          decide
        exact absurd hgated (hnone _ h.1)
  | transitionTask id targetStatus context actor =>
      rcases committed_eq_ok.mp h with ⟨result, h⟩
      rcases opened_by_transition h hnot hopen with
        ⟨hid, _, _, hgated, hvalid, htarget | htarget⟩
      · rw [htarget] at hr hvalid
        exact absurd (resolved_of_gated hvalid hgated) hr
      · rw [hid, htarget]
        exact Or.inr (Or.inr ⟨context, actor, rfl⟩)
  | pause id actorId =>
      rcases committed_eq_ok.mp h with ⟨result, h⟩
      rcases opened_by_action h hnot hopen with ⟨hid, _⟩
      rw [hid]
      exact Or.inr (Or.inl ⟨actorId, rfl⟩)
  | resume id actorId =>
      rcases committed_eq_ok.mp h with ⟨result, h⟩
      simp only [resume, bind_eq_ok] at h
      rcases h with ⟨_, _, _, _, h⟩
      exact absurd hopen (not_opened_by_action h (by decide) (by decide) hnot)
  | requeue id actorId =>
      rcases committed_eq_ok.mp h with ⟨result, h⟩
      rcases opened_by_action h hnot hopen with ⟨_, task, _, hgated, hvalid, _⟩
      have hnone : forall status, status ∈ gatedStatuses ->
          validateTransition status .ready { leaseReclaimedRetryEligible := some true } ≠
            .valid := by
        decide
      exact absurd hvalid (hnone _ hgated)
  | forceUnblock id actorId reason =>
      rcases committed_eq_ok.mp h with ⟨result, h⟩
      rcases bind_eq_ok.mp h with ⟨_, _, h⟩
      rcases opened_by_action h hnot hopen with ⟨hid, _⟩
      rw [hid]
      exact Or.inl ⟨actorId, reason, rfl⟩
  | cancel id actorId acknowledge =>
      rcases committed_eq_ok.mp h with ⟨result, h⟩
      rcases bind_eq_ok.mp h with ⟨_, _, h⟩
      exact absurd hopen (not_opened_by_action h (by decide) (by decide) hnot)
  | resolveEscalation id dto =>
      rcases committed_eq_ok.mp h with ⟨result, h⟩
      rcases resolveEscalation_spec h with
        ⟨_, s₁, _, htransition, hs'⟩ | ⟨_, target, htarget, htransition⟩
      · have hopen₁ : IsOpen s₁ taskId := by
          rw [hs'] at hopen
          exact (isOpen_of_tasks_eq (recordPool_tasks id dto s₁)).mp hopen
        exact absurd hopen₁
          (not_opened_by_action htransition (by decide) (by decide) hnot)
      · apply absurd hopen
        rcases htarget with htarget | htarget
        · rw [htarget] at htransition
          exact not_opened_by_action htransition (by decide) (by decide) hnot
        · rw [htarget] at htransition
          exact not_opened_by_action htransition (by decide) (by decide) hnot
  | changePriority id priority actorId =>
      rcases committed_eq_ok.mp h with ⟨result, h⟩
      rcases changePriority_spec h with ⟨task, htask, hs'⟩
      rcases open_of_write htask (by rw [hs']; rfl) hnot hopen with ⟨_, hgated, hstatus⟩
      exact absurd hgated hstatus
  | rerunReview id actorId =>
      rcases committed_eq_ok.mp h with ⟨result, h⟩
      exact absurd hopen (not_opened_by_override h (Or.inr (by decide)) hnot)
  | reopen id actorId =>
      rcases committed_eq_ok.mp h with ⟨result, h⟩
      rcases bind_eq_ok.mp h with ⟨_, _, h⟩
      exact absurd hopen (not_opened_by_override h (Or.inl (by decide)) hnot)

/-!
## Evaluations

An evaluation of a task has two halves, between which others may act: it computes
the readiness, and later takes the task out of BACKLOG or BLOCKED if the answer
was that the task is ready.
-/

/-- The graph, and the tasks that evaluations in progress have found ready. -/
structure EvaluatedGraph where
  graph : TaskGraph
  foundReady : List TaskId

def EvaluatedGraph.empty : EvaluatedGraph where
  graph := TaskGraph.empty
  foundReady := []

inductive GraphStep where
  | request (r : Request)
  | addDependency (taskDependencyId : TaskDependencyId) (params : AddDependencyParams)
  | removeDependency (taskDependencyId : TaskDependencyId)
  | evaluate (taskId : TaskId)
  | letOut (taskId : TaskId) (actor : ActorInfo)

def GraphStep.Listed : GraphStep -> Prop
  | .request r => Dependencies.Listed r
  | _ => True

/-- Why a step is rejected: by a service, or because no evaluation has found the task
ready. -/
inductive Rejection where
  | service (e : ServiceError)
  | notFoundReady (taskId : TaskId)

def EvaluatedGraph.withGraph (b : EvaluatedGraph) (r : Except ServiceError TaskGraph) :
    Except Rejection EvaluatedGraph :=
  match r with
  | .ok graph => .ok { b with graph := graph }
  | .error e => .error (.service e)

def evaluate (taskId : TaskId) (b : EvaluatedGraph) : Except Rejection EvaluatedGraph :=
  match computeReadiness taskId b.graph with
  | .ok (.ready _) => .ok { b with foundReady := taskId :: b.foundReady }
  | .ok (.blocked _ _) => .ok b
  | .error e => .error (.service e)

def letOut (taskId : TaskId) (actor : ActorInfo) (b : EvaluatedGraph) :
    Except Rejection EvaluatedGraph :=
  if taskId ∈ b.foundReady then
    { b with foundReady := b.foundReady.erase taskId }.withGraph
      (b.graph.perform (.transitionTask taskId .ready readyContext actor))
  else
    .error (.notFoundReady taskId)

def EvaluatedGraph.step (b : EvaluatedGraph) :
    GraphStep -> Except Rejection EvaluatedGraph
  | .request r => b.withGraph (b.graph.perform r)
  | .addDependency taskDependencyId params =>
      b.withGraph ((addDependency taskDependencyId params b.graph).map Prod.fst)
  | .removeDependency taskDependencyId =>
      .ok { b with graph := (removeDependency taskDependencyId b.graph).1 }
  | .evaluate taskId => evaluate taskId b
  | .letOut taskId actor => letOut taskId actor b

def evaluatedGraph : TransitionSystem EvaluatedGraph GraphStep Rejection where
  step := EvaluatedGraph.step

variable {b b' : EvaluatedGraph}

theorem withGraph_eq_ok {r : Except ServiceError TaskGraph} (h : b.withGraph r = .ok b') :
    r = .ok b'.graph ∧ b'.foundReady = b.foundReady := by
  cases r with
  | error e =>
      cases h
  | ok graph =>
      cases h
      exact ⟨rfl, rfl⟩

theorem evaluate_spec {taskId : TaskId} (h : evaluate taskId b = .ok b') :
    b'.graph = b.graph ∧
      (b'.foundReady = b.foundReady ∨
        b'.foundReady = taskId :: b.foundReady ∧ ¬ b.graph.Unmet taskId) := by
  unfold evaluate at h
  split at h
  · rename_i found hready
    cases h
    exact ⟨rfl, Or.inr ⟨rfl, not_unmet_of_ready hready⟩⟩
  · cases h
    exact ⟨rfl, Or.inl rfl⟩
  · cases h

theorem letOut_spec {taskId : TaskId} (h : letOut taskId actor b = .ok b') :
    taskId ∈ b.foundReady ∧ b'.foundReady = b.foundReady.erase taskId ∧
      b.graph.perform (.transitionTask taskId .ready readyContext actor) =
        .ok b'.graph := by
  unfold letOut at h
  split at h
  · rename_i hfound
    rcases withGraph_eq_ok h with ⟨hperform, hready⟩
    exact ⟨hfound, hready, hperform⟩
  · cases h

/-!
## Calls of the services are runs of such steps
-/

/-- The two halves of an evaluation, and the transition to BLOCKED. -/
def GraphStep.OfEvaluation : GraphStep -> Prop
  | .evaluate _ => True
  | .letOut _ _ => True
  | .request (.transitionTask _ .blocked _ _) => True
  | _ => False

theorem GraphStep.OfEvaluation.listed {x : GraphStep} (h : x.OfEvaluation) : x.Listed := by
  unfold GraphStep.OfEvaluation at h
  split at h
  · trivial
  · trivial
  · trivial
  · exact h.elim

/-- Steps of evaluations lead from the one graph to the other, whatever has been found
before. -/
def Evaluated (g g' : TaskGraph) : Prop :=
  exists steps, (forall x, x ∈ steps -> x.OfEvaluation) ∧
    forall foundReady, evaluatedGraph.run ⟨g, foundReady⟩ steps = ⟨g', foundReady⟩

theorem Evaluated.refl (g : TaskGraph) : Evaluated g g :=
  ⟨[], fun _ hx => absurd hx List.not_mem_nil, fun _ => rfl⟩

theorem Evaluated.trans {g₁ g₂ g₃ : TaskGraph} (h : Evaluated g₁ g₂)
    (h' : Evaluated g₂ g₃) :
    Evaluated g₁ g₃ := by
  rcases h with ⟨steps, hsteps, hrun⟩
  rcases h' with ⟨steps', hsteps', hrun'⟩
  refine ⟨steps ++ steps', ?_, ?_⟩
  · intro x hx
    rcases List.mem_append.mp hx with hx | hx
    · exact hsteps x hx
    · exact hsteps' x hx
  · intro foundReady
    rw [evaluatedGraph.run_append, hrun, hrun']

theorem evaluate_of_ready {taskId found : TaskId}
    (h : computeReadiness taskId g = .ok (.ready found)) (foundReady : List TaskId) :
    evaluatedGraph.next ⟨g, foundReady⟩ (.evaluate taskId) =
      ⟨g, taskId :: foundReady⟩ := by
  apply evaluatedGraph.next_of_ok
  change evaluate taskId ⟨g, foundReady⟩ = _
  simp only [evaluate, h]

theorem letOut_of_ok {taskId : TaskId}
    (h : g.perform (.transitionTask taskId .ready readyContext actor) = .ok g')
    (foundReady : List TaskId) :
    evaluatedGraph.next ⟨g, taskId :: foundReady⟩ (.letOut taskId actor) =
      ⟨g', foundReady⟩ := by
  apply evaluatedGraph.next_of_ok
  change letOut taskId actor ⟨g, taskId :: foundReady⟩ = _
  unfold letOut
  rw [if_pos List.mem_cons_self, h, List.erase_cons_head]
  rfl

theorem evaluated_ready {taskId found : TaskId}
    (hready : computeReadiness taskId g = .ok (.ready found))
    (h : g.perform (.transitionTask taskId .ready readyContext actor) = .ok g') :
    Evaluated g g' := by
  refine ⟨[.evaluate taskId, .letOut taskId actor], ?_, ?_⟩
  · intro x hx
    simp only [List.mem_cons, List.not_mem_nil, or_false] at hx
    rcases hx with hx | hx
    · rw [hx]
      exact trivial
    · rw [hx]
      exact trivial
  · intro foundReady
    rw [evaluatedGraph.run_cons, evaluatedGraph.run_cons,
      evaluate_of_ready hready foundReady, letOut_of_ok h foundReady]
    rfl

theorem evaluated_blocked {taskId : TaskId}
    (h : g.perform (.transitionTask taskId .blocked context actor) = .ok g') :
    Evaluated g g' := by
  let step : GraphStep := .request (.transitionTask taskId .blocked context actor)
  refine ⟨[step], ?_, ?_⟩
  · intro x hx
    rw [List.mem_singleton.mp hx]
    trivial
  · intro foundReady
    have hstep : evaluatedGraph.step ⟨g, foundReady⟩ step = .ok ⟨g', foundReady⟩ := by
      change EvaluatedGraph.withGraph ⟨g, foundReady⟩ _ = _
      rw [h]
      rfl
    rw [evaluatedGraph.run_cons, evaluatedGraph.next_of_ok hstep]
    rfl

def Evaluates {α : Type} (g₀ : TaskGraph) (p : Process TaskGraph ServiceError α) : Prop :=
  Triple AnyCommit (Evaluated g₀) p (fun _ g => Evaluated g₀ g)

theorem evaluates_query {α β : Type} {call : TaskGraph -> Except ServiceError α}
    {f : α -> Process TaskGraph ServiceError β}
    (hf : forall a, Triple AnyCommit (fun g => Evaluated g₀ g ∧ call g = .ok a) (f a)
      (fun _ g => Evaluated g₀ g)) :
    Evaluates g₀ (query call >>= f) := by
  have hquery : Triple AnyCommit (Evaluated g₀) (query call)
      (fun r g => Evaluated g₀ g ∧ call g = r) := by
    apply Triple.bind_read
    intro g hg
    apply Triple.ofExcept
    intro g' hg'
    rw [hg']
    exact ⟨hg, rfl⟩
  exact Triple.bind hquery hf (fun _ _ hg => hg.1)

theorem evaluates_query_any {α β : Type} {call : TaskGraph -> Except ServiceError α}
    {f : α -> Process TaskGraph ServiceError β} (hf : forall a, Evaluates g₀ (f a)) :
    Evaluates g₀ (query call >>= f) :=
  evaluates_query (fun a => (hf a).weaken (fun _ hg => hg.1) (fun _ _ hg => hg))

theorem evaluates_onRequest {P : TaskGraph -> Prop} {request : Request}
    (hP : forall g, P g -> Evaluated g₀ g)
    (h : forall g g', P g -> g.perform request = .ok g' -> Evaluated g g') :
    Triple AnyCommit P (onRequest request) (fun _ g => Evaluated g₀ g) := by
  apply Triple.transaction
  · intro g g' _ hg hcall
    rcases map_eq_ok.mp hcall with ⟨g'', hperform, hg''⟩
    cases hg''
    exact ⟨(hP g hg).trans (h g g' hg hperform), trivial⟩
  · intro g e hg _
    exact hP g hg

theorem evaluates_letOut (g₀ : TaskGraph) (taskId id : TaskId) (actor : ActorInfo) :
    Triple AnyCommit
      (fun g => Evaluated g₀ g ∧ computeReadiness taskId g = .ok (.ready id))
      (onRequest (.transitionTask taskId .ready readyContext actor))
      (fun _ g => Evaluated g₀ g) :=
  evaluates_onRequest (fun _ hg => hg.1)
    (fun _ _ hg hperform => evaluated_ready hg.2 hperform)

theorem evaluates_recalculateDependent (g₀ : TaskGraph) (actor : ActorInfo)
    (taskId : TaskId) :
    Evaluates g₀ (recalculateDependent actor taskId) := by
  apply evaluates_query
  intro readiness
  cases readiness with
  | blocked id reasons =>
      exact Triple.pure (fun _ hg => hg.1)
  | ready id =>
      apply Triple.bind_attempt (evaluates_letOut g₀ taskId id actor)
      intro result
      cases result with
      | ok u =>
          exact Keeps.pure _
      | error e =>
          dsimp only
          split
          · exact Keeps.pure _
          · exact Keeps.throw e

/-- The recalculation changes the graph only by evaluations, also when it throws. -/
theorem evaluates_recalculateDependents (g₀ : TaskGraph) (completedTaskId : TaskId)
    (actor : ActorInfo) :
    Evaluates g₀ (recalculateDependents completedTaskId actor) := by
  apply evaluates_query_any
  intro completedTask
  split
  · exact Keeps.pure _
  · apply evaluates_query_any
    intro ids
    exact Keeps.bind
      (Triple.collect (fun id _ => evaluates_recalculateDependent g₀ actor id))
      (fun actions => Keeps.pure _)

theorem evaluates_sweepBlockedTask (g₀ : TaskGraph) (taskId : TaskId) :
    Evaluates g₀ (sweepBlockedTask taskId) := by
  apply evaluates_query
  intro readiness
  cases readiness with
  | blocked id reasons =>
      exact Triple.pure (fun _ hg => hg.1)
  | ready id =>
      exact Triple.bind (evaluates_letOut g₀ taskId id sweepActor)
        (fun _ => Keeps.pure _) (fun _ _ hg => hg)

theorem evaluates_sweepBlockedTasks (g₀ : TaskGraph) :
    Evaluates g₀ sweepBlockedTasks := by
  apply evaluates_query_any
  intro blockedTasks
  apply Triple.collect
  intro blocked _
  apply Triple.bind_attempt (evaluates_sweepBlockedTask g₀ blocked.taskId)
  intro result
  cases result with
  | ok outcome =>
      exact Keeps.pure _
  | error e =>
      exact Keeps.pure _

theorem evaluates_tryTransitionTask {P : TaskGraph -> Prop} {taskId : TaskId}
    {target : TaskStatus}
    (hrequest : Triple AnyCommit P
      (onRequest (.transitionTask taskId target context automationActor))
      (fun _ g => Evaluated g₀ g)) :
    Triple AnyCommit P (tryTransitionTask taskId target context)
      (fun _ g => Evaluated g₀ g) := by
  apply Triple.bind_attempt hrequest
  intro result
  cases result with
  | ok u =>
      exact Keeps.pure _
  | error e =>
      dsimp only
      split
      · exact Keeps.pure _
      · exact Keeps.throw e

theorem evaluates_reconcileCandidate (g₀ : TaskGraph) (task : Task) :
    Evaluates g₀ (reconcileCandidate task) := by
  apply evaluates_query
  intro readiness
  split
  · rename_i id _
    exact Triple.bind
      (evaluates_tryTransitionTask (evaluates_letOut g₀ task.taskId id automationActor))
      (fun _ => Keeps.pure _) (fun _ _ hg => hg)
  · exact Triple.bind
      (evaluates_tryTransitionTask (evaluates_onRequest (fun _ hg => hg.1)
        (fun _ _ _ hperform => evaluated_blocked hperform)))
      (fun _ => Keeps.pure _) (fun _ _ hg => hg)
  · rename_i id _
    exact Triple.bind
      (evaluates_tryTransitionTask (evaluates_letOut g₀ task.taskId id automationActor))
      (fun _ => Keeps.pure _) (fun _ _ hg => hg)
  · exact Triple.pure (fun _ hg => hg.1)

theorem evaluates_reconcileTaskReadiness (g₀ : TaskGraph) :
    Evaluates g₀ reconcileTaskReadiness := by
  apply evaluates_query_any
  intro candidates
  exact Keeps.bind (Triple.collect (fun task _ => evaluates_reconcileCandidate g₀ task))
    (fun moves => Keeps.pure _)

/-- What the three services leave behind is what a run of evaluations leaves behind. -/
theorem evaluated_of_service (g : TaskGraph) :
    (forall completedTaskId actor,
      Evaluated g (recalculateDependents completedTaskId actor g).state) ∧
    Evaluated g (sweepBlockedTasks g).state ∧
    Evaluated g (reconcileTaskReadiness g).state := by
  refine ⟨?_, ?_, ?_⟩
  · intro completedTaskId actor
    exact (evaluates_recalculateDependents g completedTaskId actor g (Evaluated.refl g)).1
  · exact (evaluates_sweepBlockedTasks g g (Evaluated.refl g)).1
  · exact (evaluates_reconcileTaskReadiness g g (Evaluated.refl g)).1

/-!
## How a task comes to be assigned
-/

theorem found_of_step {x : GraphStep} {taskId : TaskId} (h : b.step x = .ok b')
    (hnot : taskId ∉ b.foundReady) (hfound : taskId ∈ b'.foundReady) :
    x = .evaluate taskId ∧ ¬ b.graph.Unmet taskId := by
  cases x with
  | request r =>
      rw [(withGraph_eq_ok h).2] at hfound
      exact absurd hfound hnot
  | addDependency taskDependencyId params =>
      rw [(withGraph_eq_ok h).2] at hfound
      exact absurd hfound hnot
  | removeDependency taskDependencyId =>
      cases h
      exact absurd hfound hnot
  | evaluate id =>
      rcases evaluate_spec h with ⟨_, hsame | ⟨hadded, hmet⟩⟩
      · rw [hsame] at hfound
        exact absurd hfound hnot
      · rw [hadded] at hfound
        rcases List.mem_cons.mp hfound with hid | hold
        · rw [hid]
          exact ⟨rfl, hmet⟩
        · exact absurd hold hnot
  | letOut id actor =>
      rw [(letOut_spec h).2.1] at hfound
      exact absurd (List.mem_of_mem_erase hfound) hnot

theorem opened_of_step {x : GraphStep} {taskId : TaskId} (hx : x.Listed) (h : b.step x = .ok b')
    (hnot : ¬ IsOpen b.graph.store taskId) (hopen : IsOpen b'.graph.store taskId) :
    (exists r, x = .request r ∧ (Forces taskId r ∨ Escalates taskId r)) ∨
      exists actor, x = .letOut taskId actor ∧ taskId ∈ b.foundReady := by
  cases x with
  | request r =>
      rcases TaskGraph.perform_spec (withGraph_eq_ok h).1 with ⟨hperform, _⟩
      exact Or.inl ⟨r, rfl, opens_of_perform hx hperform hnot hopen⟩
  | addDependency taskDependencyId params =>
      rcases map_eq_ok.mp (withGraph_eq_ok h).1 with ⟨⟨g', dependency⟩, hadd, hg'⟩
      rcases addDependency_spec hadd with ⟨_, _, _, _, hcreate⟩
      have hstore : b'.graph.store = b.graph.store := by
        rw [← hg']
        exact (TaskGraph.createDependency_spec hcreate).2.1
      rw [hstore] at hopen
      exact absurd hopen hnot
  | removeDependency taskDependencyId =>
      cases h
      exact absurd hopen hnot
  | evaluate id =>
      rw [(evaluate_spec h).1] at hopen
      exact absurd hopen hnot
  | letOut id actor =>
      rcases letOut_spec h with ⟨hfound, _, hperform⟩
      rcases committed_eq_ok.mp (TaskGraph.perform_spec hperform).1 with ⟨event, htransition⟩
      rcases opened_by_transition htransition hnot hopen with ⟨hid, _⟩
      rw [hid]
      exact Or.inr ⟨actor, rfl, hfound⟩

theorem isOpen_of_acquired {now : Millis} {leaseId : LeaseId} {params : AcquireLeaseParams}
    (h : g.perform (.acquireLease now leaseId params) = .ok g') :
    IsOpen g.store params.taskId := by
  rcases committed_eq_ok.mp (TaskGraph.perform_spec h).1 with ⟨result, hacquire⟩
  rcases acquireLease_spec hacquire with ⟨task, _, htask, heligible, _⟩
  have hnone : forall status, status ∈ leaseEligibleStatuses ->
      status ∉ gatedStatuses := by
    decide
  exact ⟨task, htask, hnone _ heligible⟩

/-- A task that has been found ready was evaluated while no hard prerequisite of it was
unmet. -/
theorem evaluated_of_found {steps : List GraphStep} {taskId : TaskId}
    (h : taskId ∈ (evaluatedGraph.run .empty steps).foundReady) :
    exists first second, steps = first ++ .evaluate taskId :: second ∧
      ¬ (evaluatedGraph.run .empty first).graph.Unmet taskId := by
  rcases evaluatedGraph.exists_last_entry (P := fun b => taskId ∈ b.foundReady)
    List.not_mem_nil h with ⟨first, x, second, hsplit, hnot, hsince⟩
  have hfound := hsince _ (evaluatedGraph.self_mem_states _ second)
  cases hstep : evaluatedGraph.step (evaluatedGraph.run .empty first) x with
  | error e =>
      rw [evaluatedGraph.next_of_error hstep] at hfound
      exact absurd hfound hnot
  | ok b' =>
      rw [evaluatedGraph.next_of_ok hstep] at hfound
      rcases found_of_step hstep hnot hfound with ⟨hx, hmet⟩
      rw [hx] at hsplit
      exact ⟨first, second, hsplit, hmet⟩

/-- The task was let out of BACKLOG or BLOCKED between the two parts of the run, and has
been open ever since. -/
structure LetOutBetween (taskId : TaskId) (first : List GraphStep) (x : GraphStep)
    (second : List GraphStep) : Prop where
  gated : ¬ IsOpen (evaluatedGraph.run .empty first).graph.store taskId
  since : forall b, b ∈ evaluatedGraph.states
    (evaluatedGraph.run .empty (first ++ [x])) second -> IsOpen b.graph.store taskId

/-- A lease is acquired for a task that was last let out by an operator who forced it, by its
escalation, or by an evaluation in a state where all its hard prerequisites were DONE.  In
the last case every hard dependency that is unmet when the lease is acquired was not
stored, or its prerequisite was DONE, when the task was evaluated. -/
theorem acquired_after_evaluation {steps : List GraphStep} {now : Millis}
    {leaseId : LeaseId} {params : AcquireLeaseParams} {g' : TaskGraph}
    (hlisted : forall x, x ∈ steps -> x.Listed)
    (h : (evaluatedGraph.run .empty steps).graph.perform
      (.acquireLease now leaseId params) = .ok g') :
    exists first x second, steps = first ++ x :: second ∧
      LetOutBetween params.taskId first x second ∧
      ((exists r, x = .request r ∧ (Forces params.taskId r ∨ Escalates params.taskId r)) ∨
        exists actor before between, x = .letOut params.taskId actor ∧
          first = before ++ .evaluate params.taskId :: between ∧
          ¬ (evaluatedGraph.run .empty before).graph.Unmet params.taskId ∧
          forall d, d ∈ (evaluatedGraph.run .empty steps).graph.taskDependencies ->
            d.taskId = params.taskId -> isReadinessBlockingEdge d = true ->
            ¬ (evaluatedGraph.run .empty steps).graph.IsDone d.dependsOnTaskId ->
            d ∉ (evaluatedGraph.run .empty before).graph.taskDependencies ∨
              (evaluatedGraph.run .empty before).graph.IsDone d.dependsOnTaskId) := by
  have hstart : ¬ IsOpen EvaluatedGraph.empty.graph.store params.taskId := by
    intro hopen
    rcases hopen with ⟨task, htask, _⟩
    cases htask
  rcases evaluatedGraph.exists_last_entry
    (P := fun b => IsOpen b.graph.store params.taskId) hstart (isOpen_of_acquired h)
    with ⟨first, x, second, hsplit, hnot, hsince⟩
  have hx : x.Listed := by
    apply hlisted x
    rw [hsplit]
    exact List.mem_append_right first List.mem_cons_self
  have hopen := hsince _ (evaluatedGraph.self_mem_states _ second)
  refine ⟨first, x, second, hsplit, ⟨hnot, ?_⟩, ?_⟩
  · rw [evaluatedGraph.run_append]
    exact hsince
  · cases hstep : evaluatedGraph.step (evaluatedGraph.run .empty first) x with
    | error e =>
        rw [evaluatedGraph.next_of_error hstep] at hopen
        exact absurd hopen hnot
    | ok b' =>
        rw [evaluatedGraph.next_of_ok hstep] at hopen
        rcases opened_of_step hx hstep hnot hopen with hrequest | ⟨actor, hx, hfound⟩
        · exact Or.inl hrequest
        · rcases evaluated_of_found hfound with ⟨before, between, hfirst, hmet⟩
          refine Or.inr ⟨actor, before, between, hx, hfirst, hmet, ?_⟩
          intro d hd htask hhard hnotDone
          by_contra hboth
          rw [not_or, not_not] at hboth
          exact hmet ⟨d, hboth.1, htask, hhard, hboth.2⟩

/-!
## A dependency that comes too late

A task is READY when a hard dependency is added to it, and is assigned all the
same.
-/

def lateDto (taskId : TaskId) : CreateTaskDto where
  taskId := taskId
  repositoryId := "repository-1"
  taskType := "feature"
  priority := "medium"

def lateSteps : List GraphStep :=
  [ .request (.createWorkerPool { workerPoolId := "pool-1", maxConcurrency := 1 }),
    .request (.createTask (lateDto "task-1")),
    .request (.createTask (lateDto "task-2")),
    .evaluate "task-1",
    .letOut "task-1" automationActor,
    .addDependency "dependency-1"
      { taskId := "task-1", dependsOnTaskId := "task-2", dependencyType := .blocks } ]

def lateAcquisition : AcquireLeaseParams where
  taskId := "task-1"
  workerId := "worker-1"
  poolId := "pool-1"
  ttlSeconds := 1800
  actor := automationActor

theorem lateSteps_listed : forall x, x ∈ lateSteps -> x.Listed := by
  simp only [lateSteps, List.forall_mem_cons, GraphStep.Listed, Listed]
  exact ⟨trivial, trivial, trivial, trivial, trivial, trivial, fun _ hx => by cases hx⟩

theorem lateAcquisition_accepted :
    exists g', (evaluatedGraph.run .empty lateSteps).graph.perform
      (.acquireLease 0 "lease-1" lateAcquisition) = .ok g' := by
  have hstatus : ((evaluatedGraph.run .empty lateSteps).graph.perform
      (.acquireLease 0 "lease-1" lateAcquisition)).isOk = true := by
    decide +kernel
  cases hperform : (evaluatedGraph.run .empty lateSteps).graph.perform
      (.acquireLease 0 "lease-1" lateAcquisition) with
  | error e =>
      rw [hperform] at hstatus
      cases hstatus
  | ok g' =>
      exact ⟨g', rfl⟩

theorem acquired_after_evaluation_late :
    exists first x second, lateSteps = first ++ x :: second ∧
      LetOutBetween "task-1" first x second := by
  rcases lateAcquisition_accepted with ⟨g', h⟩
  rcases acquired_after_evaluation lateSteps_listed h with
    ⟨first, x, second, hsplit, hbetween, _⟩
  exact ⟨first, x, second, hsplit, hbetween⟩

/-- No force-unblock in the run, and yet a lease for a task with an unmet prerequisite. -/
theorem late_dependency_ignored :
    ¬ forall (steps : List GraphStep) (now : Millis) (leaseId : LeaseId)
        (params : AcquireLeaseParams) (g' : TaskGraph),
      (forall x, x ∈ steps -> x.Listed) ->
      (forall r, .request r ∈ steps ->
        ¬ Forces params.taskId r ∧ ¬ Escalates params.taskId r) ->
      (evaluatedGraph.run .empty steps).graph.perform
        (.acquireLease now leaseId params) = .ok g' ->
      ¬ (evaluatedGraph.run .empty steps).graph.Unmet params.taskId := by
  intro h
  rcases lateAcquisition_accepted with ⟨g', hacquire⟩
  apply h lateSteps 0 "lease-1" lateAcquisition g' lateSteps_listed _ hacquire
  · let d : TaskDependency :=
      { taskDependencyId := "dependency-1"
        taskId := "task-1"
        dependsOnTaskId := "task-2"
        dependencyType := .blocks
        isHardBlock := true }
    refine ⟨d, ?_, rfl, rfl, ?_⟩
    · rw [Table.mem_def]
      decide +kernel
    · have hfind : (evaluatedGraph.run .empty lateSteps).graph.store.findTask "task-2" =
          some (newTask (lateDto "task-2")) := by
        decide +kernel
      exact not_isDone_of_status hfind (by decide)
  · intro r hr
    constructor
    · rintro ⟨actorId, reason, rfl⟩
      simp [lateSteps] at hr
    · rintro (⟨actorId, rfl⟩ | ⟨context, actor, rfl⟩) <;> simp [lateSteps] at hr

end Dependencies
end CopilotFactory
