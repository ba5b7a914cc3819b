import Mathlib.Data.List.Dedup
import CopilotFactory.Dependencies.ReadinessSweeps

/-!
# Propagation agrees with the sweeps

In a settled graph every BLOCKED task has an unmet prerequisite.  After a task
has become DONE, only the BLOCKED tasks that wait for it can be without one, so
looking at these settles the graph again, and the sweeps find nothing to do.
-/

namespace CopilotFactory
namespace Dependencies

open Foundations
open Domain
open Infrastructure
open Application
open ControlPlane

/-!
## Reverse dependency service

When a task is DONE, the tasks that wait for it are looked at again.  Those that
wait for nothing any more are moved from BLOCKED to READY, each in a transaction
of its own.
-/

variable {g g' : TaskGraph} {completedTaskId : TaskId}

inductive DependentAction where
  | transitioned (taskId : TaskId)
  | skipped (taskId : TaskId) (reason : String)
deriving DecidableEq

structure RecalculationResult where
  completedTaskId : TaskId
  completedTaskStatus : TaskStatus
  evaluatedCount : Nat
  /-- The transitioned and the skipped dependents, in the order of evaluation. -/
  actions : List DependentAction

def isRace : ServiceError -> Bool
  | .invalidTransition _ _ _ _ _ => true
  | .versionConflict _ _ _ => true
  | _ => false

/-- The BLOCKED tasks that wait for a task by a hard-block dependency. -/
def blockedDependentIds (g : TaskGraph) (completedTaskId : TaskId) : List TaskId :=
  let hardBlockEdges :=
    (g.findByDependsOnTaskId completedTaskId).filter isReadinessBlockingEdge
  let uniqueTaskIds := (hardBlockEdges.map TaskDependency.taskId).dedup
  uniqueTaskIds.filter (fun taskId =>
    (g.store.findTask taskId).any (fun task => task.status = .blocked))

def recalculateDependent (actor : ActorInfo) (taskId : TaskId) :
    Process TaskGraph ServiceError DependentAction := do
  match ← query (computeReadiness taskId) with
  | .blocked _ _ =>
      pure (.skipped taskId "still has unresolved hard-block dependencies")
  | .ready _ =>
      match ← Process.attempt
          (onRequest (.transitionTask taskId .ready readyContext actor)) with
      | .ok _ => pure (.transitioned taskId)
      | .error e =>
          if isRace e then
            pure (.skipped taskId s!"transition failed: {e.message}")
          else
            Process.throw e

def recalculateDependents (completedTaskId : TaskId) (actor : ActorInfo) :
    Process TaskGraph ServiceError RecalculationResult := do
  let completedTask ← query (fun g =>
    orThrow (g.store.findTask completedTaskId) (.entityNotFound "Task" completedTaskId))
  if completedTask.status ≠ .done then
    pure
      { completedTaskId := completedTaskId
        completedTaskStatus := completedTask.status
        evaluatedCount := 0
        actions := [] }
  else do
    let ids ← query (fun g => .ok (blockedDependentIds g completedTaskId))
    let actions ← Process.collect (recalculateDependent actor) ids
    pure
      { completedTaskId := completedTaskId
        completedTaskStatus := completedTask.status
        evaluatedCount := ids.length
        actions := actions }

open Automation
open Process

def TaskGraph.IsBlocked (g : TaskGraph) (taskId : TaskId) : Prop :=
  exists task, g.store.findTask taskId = some task ∧ task.status = .blocked

/-- Every BLOCKED task has a hard-block prerequisite that is not DONE. -/
def TaskGraph.Settled (g : TaskGraph) : Prop :=
  forall taskId, g.IsBlocked taskId -> g.Unmet taskId

/-- Every BLOCKED task but the pending ones has an unmet prerequisite. -/
def TaskGraph.SettledExcept (g : TaskGraph) (pending : List TaskId) : Prop :=
  forall taskId, g.IsBlocked taskId -> taskId ∉ pending -> g.Unmet taskId

/-- One task has come to a status, and nothing else has changed. -/
structure Moved (taskId : TaskId) (target : TaskStatus) (g g' : TaskGraph) : Prop where
  moved : exists task, g'.store.findTask taskId = some task ∧ task.status = target
  others : forall id, id ≠ taskId -> g'.store.findTask id = g.store.findTask id
  edges : g'.taskDependencies = g.taskDependencies

/-!
## What a move does to readiness
-/

theorem isDone_of_findTask_eq {taskId : TaskId}
    (h : g'.store.findTask taskId = g.store.findTask taskId) :
    g'.IsDone taskId <-> g.IsDone taskId := by
  unfold TaskGraph.IsDone
  rw [h]

theorem isBlocked_of_findTask_eq {taskId : TaskId}
    (h : g'.store.findTask taskId = g.store.findTask taskId) :
    g'.IsBlocked taskId <-> g.IsBlocked taskId := by
  unfold TaskGraph.IsBlocked
  rw [h]

theorem Moved.isDone_iff {taskId id : TaskId} {target : TaskStatus}
    (h : Moved taskId target g g') (hnot : ¬ g.IsDone taskId) (htarget : target ≠ .done) :
    g'.IsDone id <-> g.IsDone id := by
  by_cases hid : id = taskId
  · rw [hid]
    apply iff_of_false
    · intro hdone
      rcases hdone with ⟨task, htask, hstatus⟩
      rcases h.moved with ⟨moved, hmoved, hto⟩
      rw [hmoved] at htask
      cases htask
      exact htarget (hto.symm.trans hstatus)
    · exact hnot
  · exact isDone_of_findTask_eq (h.others id hid)

theorem Moved.unmet_iff {taskId id : TaskId} {target : TaskStatus}
    (h : Moved taskId target g g') (hnot : ¬ g.IsDone taskId) (htarget : target ≠ .done) :
    g'.Unmet id <-> g.Unmet id := by
  unfold TaskGraph.Unmet
  rw [h.edges]
  simp only [h.isDone_iff hnot htarget]

theorem not_isDone_of_status {taskId : TaskId} {task : Task}
    (htask : g.store.findTask taskId = some task) (hstatus : task.status ≠ .done) :
    ¬ g.IsDone taskId := by
  intro hdone
  rcases hdone with ⟨task', htask', hdone⟩
  rw [htask] at htask'
  cases htask'
  exact hstatus hdone

theorem returns_transition {taskId : TaskId} {task : Task} {target : TaskStatus}
    {context : TransitionContext} (actor : ActorInfo)
    (htask : g.store.findTask taskId = some task)
    (hvalid : validateTransition task.status target context = .valid) :
    exists g', Returns (onRequest (.transitionTask taskId target context actor)) g () g' ∧
      Moved taskId target g g' := by
  rcases transitionTask_accepts actor htask hvalid with ⟨s', event, htransition⟩
  have hperform : ControlPlane.perform g.store
      (.transitionTask taskId target context actor) = .ok s' :=
    committed_eq_ok.mpr ⟨event, htransition⟩
  rcases TaskGraph.perform_of_ok hperform with ⟨hkeeps, hgraph⟩
  refine ⟨g.withStore s' hkeeps, returns_transaction.mpr ⟨_, ?_, rfl⟩, ?_⟩
  · exact map_eq_ok.mpr ⟨_, hgraph, rfl⟩
  · rcases transitionTask_eq_ok.mp htransition with ⟨found, hfound, _, hs', _⟩
    rw [htask] at hfound
    cases hfound
    constructor
    · refine ⟨TaskUpdate.apply { status := some target } (task.version + 1) task, ?_, rfl⟩
      rw [TaskGraph.withStore_store, hs', Store.appendAudit_findTask,
        Store.findTask_writeTask_self, htask]
      rfl
    · intro id hid
      rw [TaskGraph.withStore_store, hs', Store.appendAudit_findTask,
        Store.findTask_writeTask_of_ne hid]
    · rfl

theorem returns_query {α : Type} {call : TaskGraph -> Except ServiceError α} {a : α}
    (h : call g = .ok a) : Returns (query call) g a g := by
  unfold query
  exact returns_bind.mpr ⟨g, g, ⟨rfl, rfl⟩, returns_ofExcept.mpr ⟨h, rfl⟩⟩

theorem valid_ready_of_blocked : validateTransition .blocked .ready readyContext = .valid := by
  decide

theorem valid_ready_of_backlog : validateTransition .backlog .ready readyContext = .valid := by
  decide

theorem valid_blocked_of_backlog :
    validateTransition .backlog .blocked { hasBlockers := some true } = .valid := by
  decide

/-!
## One dependent
-/

theorem recalculateDependent_unmet {taskId : TaskId} {task : Task} (actor : ActorInfo)
    (htask : g.store.findTask taskId = some task) (hunmet : g.Unmet taskId) :
    Returns (recalculateDependent actor taskId) g
      (.skipped taskId "still has unresolved hard-block dependencies") g := by
  rcases computeReadiness_of_unmet htask hunmet with ⟨reasons, hreadiness⟩
  unfold recalculateDependent
  exact returns_bind.mpr ⟨_, g, returns_query hreadiness, returns_pure.mpr ⟨rfl, rfl⟩⟩

theorem recalculateDependent_met {taskId : TaskId} {task : Task} (actor : ActorInfo)
    (htask : g.store.findTask taskId = some task) (hblocked : task.status = .blocked)
    (hmet : ¬ g.Unmet taskId) :
    exists g', Returns (recalculateDependent actor taskId) g (.transitioned taskId) g' ∧
      Moved taskId .ready g g' := by
  have hvalid : validateTransition task.status .ready readyContext = .valid := by
    rw [hblocked]
    exact valid_ready_of_blocked
  rcases returns_transition actor htask hvalid with ⟨g', hreturns, hmoved⟩
  refine ⟨g', ?_, hmoved⟩
  unfold recalculateDependent
  apply returns_bind.mpr
  refine ⟨_, g, returns_query (computeReadiness_of_met htask hmet), ?_⟩
  apply returns_attempt_bind.mpr
  exact Or.inl ⟨(), g', hreturns, returns_pure.mpr ⟨rfl, rfl⟩⟩

/-!
## All dependents of a task
-/

theorem mem_blockedDependentIds {taskId : TaskId} :
    taskId ∈ blockedDependentIds g completedTaskId <->
      g.IsBlocked taskId ∧ exists d, d ∈ g.taskDependencies ∧ d.taskId = taskId ∧
        isReadinessBlockingEdge d = true ∧ d.dependsOnTaskId = completedTaskId := by
  unfold blockedDependentIds TaskGraph.IsBlocked
  simp only [List.mem_filter, List.mem_dedup, List.mem_map, Option.any_eq_true,
    decide_eq_true_eq, TaskGraph.mem_findByDependsOnTaskId]
  constructor
  · intro h
    rcases h with ⟨⟨d, ⟨⟨hd, hdepends⟩, hhard⟩, htask⟩, hblocked⟩
    exact ⟨hblocked, d, hd, htask, hhard, hdepends⟩
  · intro h
    rcases h with ⟨hblocked, d, hd, htask, hhard, hdepends⟩
    exact ⟨⟨d, ⟨⟨hd, hdepends⟩, hhard⟩, htask⟩, hblocked⟩

theorem nodup_blockedDependentIds (g : TaskGraph) (completedTaskId : TaskId) :
    (blockedDependentIds g completedTaskId).Nodup :=
  (List.nodup_dedup _).filter _

/-- Once a task of a settled graph is DONE, only the BLOCKED tasks that wait for it can be
without an unmet prerequisite. -/
theorem settledExcept_of_done (hg : g.Settled) (hdone : Moved completedTaskId .done g g') :
    g'.SettledExcept (blockedDependentIds g' completedTaskId) := by
  intro taskId hblocked hnot
  have hne : taskId ≠ completedTaskId := by
    intro heq
    rcases hblocked with ⟨task, htask, hstatus⟩
    rcases hdone.moved with ⟨moved, hmoved, hto⟩
    rw [heq, hmoved] at htask
    cases htask
    rw [hto] at hstatus
    cases hstatus
  have hblocked₀ := (isBlocked_of_findTask_eq (hdone.others taskId hne)).mp hblocked
  rcases hg taskId hblocked₀ with ⟨d, hd, htask, hhard, hunmet⟩
  rw [← hdone.edges] at hd
  by_cases hdepends : d.dependsOnTaskId = completedTaskId
  · have hmem : taskId ∈ blockedDependentIds g' completedTaskId :=
      mem_blockedDependentIds.mpr ⟨hblocked, d, hd, htask, hhard, hdepends⟩
    exact absurd hmem hnot
  · refine ⟨d, hd, htask, hhard, ?_⟩
    rw [isDone_of_findTask_eq (hdone.others _ hdepends)]
    exact hunmet

/-- What holds between two rounds of the loop that began in `g₁`. -/
structure Propagating (g₁ : TaskGraph) (pending : List TaskId) (g : TaskGraph) : Prop where
  settled : g.SettledExcept pending
  nodup : pending.Nodup
  blocked : forall taskId, taskId ∈ pending -> g.IsBlocked taskId
  kept : forall taskId, ¬ g₁.IsBlocked taskId ->
    g.store.findTask taskId = g₁.store.findTask taskId
  edges : g.taskDependencies = g₁.taskDependencies

/-- A round settles its task, whether it moves it or not. -/
theorem Propagating.round {g₁ : TaskGraph} {taskId : TaskId} {rest : List TaskId}
    (actor : ActorInfo) (h : Propagating g₁ (taskId :: rest) g) :
    exists action g', Returns (recalculateDependent actor taskId) g action g' ∧
      Propagating g₁ rest g' := by
  rcases List.nodup_cons.mp h.nodup with ⟨hnew, hrest⟩
  rcases h.blocked taskId List.mem_cons_self with ⟨task, htask, hstatus⟩
  by_cases hunmet : g.Unmet taskId
  · refine ⟨_, g, recalculateDependent_unmet actor htask hunmet, ?_⟩
    constructor
    · intro id hblocked hid
      by_cases heq : id = taskId
      · rw [heq]
        exact hunmet
      · apply h.settled id hblocked
        intro hmem
        rcases List.mem_cons.mp hmem with hmem | hmem
        · exact heq hmem
        · exact hid hmem
    · exact hrest
    · exact fun id hid => h.blocked id (List.mem_cons_of_mem taskId hid)
    · exact h.kept
    · exact h.edges
  · rcases recalculateDependent_met actor htask hstatus hunmet with ⟨g', hreturns, hmoved⟩
    have hnot : ¬ g.IsDone taskId := not_isDone_of_status htask (by rw [hstatus]; decide)
    have hkept : forall id, id ≠ taskId -> (g'.IsBlocked id <-> g.IsBlocked id) :=
      fun id hid => isBlocked_of_findTask_eq (hmoved.others id hid)
    have hfree : ¬ g'.IsBlocked taskId := by
      intro hblocked
      rcases hblocked with ⟨moved, hfind, hblocked⟩
      rcases hmoved.moved with ⟨moved', hfind', hready⟩
      rw [hfind] at hfind'
      cases hfind'
      rw [hready] at hblocked
      cases hblocked
    refine ⟨_, g', hreturns, ?_⟩
    constructor
    · intro id hblocked hid
      have hne : id ≠ taskId := by
        intro heq
        rw [heq] at hblocked
        exact hfree hblocked
      rw [hmoved.unmet_iff hnot (by decide)]
      apply h.settled id ((hkept id hne).mp hblocked)
      intro hmem
      rcases List.mem_cons.mp hmem with hmem | hmem
      · exact hne hmem
      · exact hid hmem
    · exact hrest
    · intro id hid
      have hne : id ≠ taskId := by
        intro heq
        rw [heq] at hid
        exact hnew hid
      exact (hkept id hne).mpr (h.blocked id (List.mem_cons_of_mem taskId hid))
    · intro id hid
      have hne : id ≠ taskId := by
        intro heq
        rw [heq] at hid
        have hsame := h.kept taskId hid
        exact hid ((isBlocked_of_findTask_eq hsame).mp ⟨task, htask, hstatus⟩)
      rw [hmoved.others id hne]
      exact h.kept id hid
    · rw [hmoved.edges]
      exact h.edges

theorem recalculateDependents_loop {actor : ActorInfo} {actions : List DependentAction}
    (hdone : g.IsDone completedTaskId)
    (hloop : Returns (collect (recalculateDependent actor)
      (blockedDependentIds g completedTaskId)) g actions g') :
    exists result, result.actions = actions ∧
      Returns (recalculateDependents completedTaskId actor) g result g' := by
  rcases hdone with ⟨completedTask, hcompleted, hstatus⟩
  let result : RecalculationResult :=
    { completedTaskId := completedTaskId
      completedTaskStatus := completedTask.status
      evaluatedCount := (blockedDependentIds g completedTaskId).length
      actions := actions }
  refine ⟨result, rfl, ?_⟩
  unfold recalculateDependents
  apply returns_bind.mpr
  refine ⟨completedTask, g, returns_query (by rw [hcompleted]; rfl), ?_⟩
  rw [if_neg (not_not.mpr hstatus)]
  apply returns_bind.mpr
  refine ⟨blockedDependentIds g completedTaskId, g, returns_query rfl, ?_⟩
  apply returns_bind.mpr
  exact ⟨actions, g', hloop, returns_pure.mpr ⟨rfl, rfl⟩⟩

theorem recalculateDependents_settles (actor : ActorInfo) (hdone : g.IsDone completedTaskId)
    (hsettled : g.SettledExcept (blockedDependentIds g completedTaskId)) :
    exists result g', Returns (recalculateDependents completedTaskId actor) g result g' ∧
      g'.Settled ∧ g'.taskDependencies = g.taskDependencies ∧
      forall taskId, ¬ g.IsBlocked taskId ->
        g'.store.findTask taskId = g.store.findTask taskId := by
  have hstart : Propagating g (blockedDependentIds g completedTaskId) g := by
    constructor
    · exact hsettled
    · exact nodup_blockedDependentIds g completedTaskId
    · exact fun taskId hid => (mem_blockedDependentIds.mp hid).1
    · exact fun _ _ => rfl
    · rfl
  rcases returns_collect_of_rounds (Propagating g) (fun _ _ _ h => h.round actor) hstart with
    ⟨actions, g', hloop, hend⟩
  rcases recalculateDependents_loop hdone hloop with ⟨result, _, hreturns⟩
  have hsettled' : g'.Settled :=
    fun taskId hblocked => hend.settled taskId hblocked List.not_mem_nil
  exact ⟨result, g', hreturns, hsettled', hend.edges, hend.kept⟩

/-!
## Settled graphs

In a settled graph neither the recalculation nor the sweeps move a BLOCKED task.
-/

theorem returns_collect_unchanged {α β : Type} {body : α -> Process TaskGraph ServiceError β}
    (Q : β -> Prop) {elements : List α}
    (h : forall a, a ∈ elements -> exists b, Returns (body a) g b g ∧ Q b) :
    exists bs, Returns (collect body elements) g bs g ∧ forall b, b ∈ bs -> Q b := by
  have hround : forall a rest g',
      (g' = g ∧ forall a', a' ∈ a :: rest -> exists b, Returns (body a') g b g ∧ Q b) ->
      exists b g'', Returns (body a) g' b g'' ∧
        (g'' = g ∧ forall a', a' ∈ rest -> exists b, Returns (body a') g b g ∧ Q b) ∧
        Q b := by
    intro a rest g' hI
    rcases hI with ⟨hg, hall⟩
    rcases hall a List.mem_cons_self with ⟨b, hreturns, hb⟩
    rw [hg]
    exact ⟨b, g, hreturns, ⟨rfl, fun a' ha' => hall a' (List.mem_cons_of_mem a ha')⟩, hb⟩
  rcases returns_collect (fun rest g' => g' = g ∧
    forall a', a' ∈ rest -> exists b, Returns (body a') g b g ∧ Q b) Q hround ⟨rfl, h⟩ with
    ⟨bs, g', hloop, hend, hbs⟩
  rw [hend.1] at hloop
  exact ⟨bs, hloop, hbs⟩

def DependentAction.IsSkip : DependentAction -> Prop
  | .transitioned _ => False
  | .skipped _ _ => True

theorem recalculateDependents_settled (actor : ActorInfo) (hdone : g.IsDone completedTaskId)
    (hg : g.Settled) :
    exists result, Returns (recalculateDependents completedTaskId actor) g result g ∧
      forall action, action ∈ result.actions -> action.IsSkip := by
  have hround : forall taskId, taskId ∈ blockedDependentIds g completedTaskId ->
      exists action, Returns (recalculateDependent actor taskId) g action g ∧
        action.IsSkip := by
    intro taskId hid
    have hblocked := (mem_blockedDependentIds.mp hid).1
    rcases hblocked with ⟨task, htask, hstatus⟩
    exact ⟨_, recalculateDependent_unmet actor htask (hg taskId ⟨task, htask, hstatus⟩),
      trivial⟩
  rcases returns_collect_unchanged DependentAction.IsSkip hround with ⟨actions, hloop, hskip⟩
  rcases recalculateDependents_loop hdone hloop with ⟨result, hactions, hreturns⟩
  rw [← hactions] at hskip
  exact ⟨result, hreturns, hskip⟩

theorem mem_tasksInStatus {status : TaskStatus} {task : Task} :
    task ∈ tasksInStatus status g <->
      g.store.findTask task.taskId = some task ∧ task.status = status := by
  unfold tasksInStatus
  rw [List.mem_filter, decide_eq_true_eq]
  constructor
  · intro h
    exact ⟨Table.find?_key_of_mem h.1, h.2⟩
  · intro h
    exact ⟨Table.mem_of_find? h.1, h.2⟩

theorem sweepBlockedTasks_settled (hg : g.Settled) :
    exists actions, Returns sweepBlockedTasks g actions g ∧
      forall action, action ∈ actions -> action.outcome = .stillBlocked := by
  have hround : forall task, task ∈ tasksInStatus .blocked g ->
      exists action, Returns (sweepBlockedTaskAction task) g action g ∧
        action.outcome = .stillBlocked := by
    intro task hmem
    rcases mem_tasksInStatus.mp hmem with ⟨htask, hstatus⟩
    rcases computeReadiness_of_unmet htask (hg task.taskId ⟨task, htask, hstatus⟩) with
      ⟨reasons, hreadiness⟩
    have hsweep : Returns (sweepBlockedTask task.taskId) g .stillBlocked g := by
      unfold sweepBlockedTask
      exact returns_bind.mpr ⟨_, g, returns_query hreadiness, returns_pure.mpr ⟨rfl, rfl⟩⟩
    refine ⟨{ taskId := task.taskId, outcome := .stillBlocked }, ?_, rfl⟩
    unfold sweepBlockedTaskAction
    apply returns_attempt_bind.mpr
    exact Or.inl ⟨_, g, hsweep, returns_pure.mpr ⟨rfl, rfl⟩⟩
  rcases returns_collect_unchanged (fun a : ReadinessRecalcAction =>
    a.outcome = .stillBlocked) hround with ⟨actions, hloop, hstill⟩
  refine ⟨actions, ?_, hstill⟩
  unfold sweepBlockedTasks
  apply returns_bind.mpr
  exact ⟨_, g, returns_query rfl, hloop⟩

/-!
## The readiness cycle

The cycle moves tasks out of BACKLOG, some of them to BLOCKED, and looks at the
tasks that were BLOCKED when it began.
-/

/-- A move keeps a graph settled when what it blocks has an unmet prerequisite. -/
theorem TaskGraph.Settled.moved {taskId : TaskId} {target : TaskStatus} (hg : g.Settled)
    (h : Moved taskId target g g') (hnot : ¬ g.IsDone taskId) (htarget : target ≠ .done)
    (hblocked : target = .blocked -> g.Unmet taskId) : g'.Settled := by
  intro id hid
  rw [h.unmet_iff hnot htarget]
  by_cases heq : id = taskId
  · rcases hid with ⟨task, htask, hstatus⟩
    rcases h.moved with ⟨moved, hmoved, hto⟩
    rw [heq, hmoved] at htask
    cases htask
    rw [heq]
    exact hblocked (hto.symm.trans hstatus)
  · exact hg id ((isBlocked_of_findTask_eq (h.others id heq)).mp hid)

theorem tryTransitionTask_returns {taskId : TaskId} {task : Task} {target : TaskStatus}
    {context : TransitionContext} (htask : g.store.findTask taskId = some task)
    (hvalid : validateTransition task.status target context = .valid) :
    exists g', Returns (tryTransitionTask taskId target context) g true g' ∧
      Moved taskId target g g' := by
  rcases returns_transition automationActor htask hvalid with ⟨g', hreturns, hmoved⟩
  refine ⟨g', ?_, hmoved⟩
  unfold tryTransitionTask
  apply returns_attempt_bind.mpr
  exact Or.inl ⟨(), g', hreturns, returns_pure.mpr ⟨rfl, rfl⟩⟩

theorem reconcileCandidate_returns {task : Task} (hg : g.Settled)
    (htask : g.store.findTask task.taskId = some task)
    (hstatus : task.status = .backlog ∨ task.status = .blocked) :
    exists move g', Returns (reconcileCandidate task) g move g' ∧
      g'.Settled ∧ g'.taskDependencies = g.taskDependencies ∧
      (forall id, id ≠ task.taskId -> g'.store.findTask id = g.store.findTask id) ∧
      (task.status = .blocked -> g' = g) := by
  have hnot : ¬ g.IsDone task.taskId := by
    apply not_isDone_of_status htask
    rcases hstatus with hstatus | hstatus
    · rw [hstatus]
      decide
    · rw [hstatus]
      decide
  unfold reconcileCandidate
  rcases hstatus with hstatus | hstatus
  · by_cases hunmet : g.Unmet task.taskId
    · rcases computeReadiness_of_unmet htask hunmet with ⟨reasons, hreadiness⟩
      rcases tryTransitionTask_returns htask
        (by rw [hstatus]; exact valid_blocked_of_backlog) with ⟨g', hreturns, hmoved⟩
      refine ⟨.toBlocked, g', ?_, ?_, hmoved.edges, hmoved.others, ?_⟩
      · apply returns_bind.mpr
        refine ⟨_, g, returns_query hreadiness, ?_⟩
        rw [hstatus]
        exact returns_bind.mpr ⟨true, g', hreturns, returns_pure.mpr ⟨rfl, rfl⟩⟩
      · exact hg.moved hmoved hnot (by decide) (fun _ => hunmet)
      · intro hblocked
        rw [hstatus] at hblocked
        cases hblocked
    · rcases tryTransitionTask_returns htask
        (by rw [hstatus]; exact valid_ready_of_backlog) with ⟨g', hreturns, hmoved⟩
      refine ⟨.toReady, g', ?_, ?_, hmoved.edges, hmoved.others, ?_⟩
      · apply returns_bind.mpr
        refine ⟨_, g, returns_query (computeReadiness_of_met htask hunmet), ?_⟩
        rw [hstatus]
        exact returns_bind.mpr ⟨true, g', hreturns, returns_pure.mpr ⟨rfl, rfl⟩⟩
      · apply hg.moved hmoved hnot (by decide)
        intro hready
        cases hready
      · intro hblocked
        rw [hstatus] at hblocked
        cases hblocked
  · rcases computeReadiness_of_unmet htask (hg task.taskId ⟨task, htask, hstatus⟩) with
      ⟨reasons, hreadiness⟩
    refine ⟨.none, g, ?_, hg, rfl, fun _ _ => rfl, fun _ => rfl⟩
    apply returns_bind.mpr
    refine ⟨_, g, returns_query hreadiness, ?_⟩
    rw [hstatus]
    exact returns_pure.mpr ⟨rfl, rfl⟩

/-- What holds between two rounds of the cycle that began in `g₀`. -/
structure Reconciling (g₀ : TaskGraph) (pending : List Task) (g : TaskGraph) : Prop where
  settled : g.Settled
  kept : forall task, g₀.store.findTask task.taskId = some task ->
    task.status = .blocked -> g.store.findTask task.taskId = some task
  untouched : forall task, task ∈ pending -> g.store.findTask task.taskId = some task
  waiting : forall task, task ∈ pending ->
    task.status = .backlog ∨ task.status = .blocked
  distinct : (pending.map Task.taskId).Nodup

theorem Reconciling.round {g₀ : TaskGraph} {task : Task} {rest : List Task}
    (h : Reconciling g₀ (task :: rest) g) :
    exists move g', Returns (reconcileCandidate task) g move g' ∧
      Reconciling g₀ rest g' := by
  have htask := h.untouched task List.mem_cons_self
  rcases reconcileCandidate_returns h.settled htask (h.waiting task List.mem_cons_self) with
    ⟨move, g', hreturns, hsettled, _, hothers, hsame⟩
  rcases List.nodup_cons.mp h.distinct with ⟨hnew, hrest⟩
  refine ⟨move, g', hreturns, ?_⟩
  constructor
  · exact hsettled
  · intro blocked hblocked hstatus
    have hkept := h.kept blocked hblocked hstatus
    by_cases heq : blocked.taskId = task.taskId
    · rw [heq, htask] at hkept
      cases hkept
      rw [hsame hstatus]
      exact htask
    · rw [hothers _ heq]
      exact hkept
  · intro other hother
    have hne : other.taskId ≠ task.taskId := by
      intro heq
      exact hnew (heq ▸ List.mem_map_of_mem hother)
    rw [hothers _ hne]
    exact h.untouched other (List.mem_cons_of_mem task hother)
  · exact fun other hother => h.waiting other (List.mem_cons_of_mem task hother)
  · exact hrest

theorem nodup_tasksInStatus (g : TaskGraph) (status : TaskStatus) :
    ((tasksInStatus status g).map Task.taskId).Nodup :=
  (List.filter_sublist.map Task.taskId).nodup g.store.tasks.nodup

theorem reconcileTaskReadiness_settled (hg : g.Settled) :
    exists result g', Returns reconcileTaskReadiness g result g' ∧ g'.Settled ∧
      forall task, g.store.findTask task.taskId = some task -> task.status = .blocked ->
        g'.store.findTask task.taskId = some task := by
  have hstart : Reconciling g (tasksInStatus .backlog g ++ tasksInStatus .blocked g) g := by
    constructor
    · exact hg
    · exact fun _ htask _ => htask
    · intro task hmem
      rcases List.mem_append.mp hmem with hmem | hmem
      · exact (mem_tasksInStatus.mp hmem).1
      · exact (mem_tasksInStatus.mp hmem).1
    · intro task hmem
      rcases List.mem_append.mp hmem with hmem | hmem
      · exact Or.inl (mem_tasksInStatus.mp hmem).2
      · exact Or.inr (mem_tasksInStatus.mp hmem).2
    · rw [List.map_append, List.nodup_append]
      refine ⟨nodup_tasksInStatus g .backlog, nodup_tasksInStatus g .blocked, ?_⟩
      intro id hid id' hid' heq
      rcases List.mem_map.mp hid with ⟨task, htask, hkey⟩
      rcases List.mem_map.mp hid' with ⟨task', htask', hkey'⟩
      rcases mem_tasksInStatus.mp htask with ⟨hfind, hstatus⟩
      rcases mem_tasksInStatus.mp htask' with ⟨hfind', hstatus'⟩
      rw [hkey, heq, ← hkey', hfind'] at hfind
      cases hfind
      rw [hstatus] at hstatus'
      cases hstatus'
  rcases returns_collect_of_rounds (Reconciling g) (fun _ _ _ h => h.round) hstart with
    ⟨moves, g', hloop, hend⟩
  let candidates := tasksInStatus .backlog g ++ tasksInStatus .blocked g
  let result : ReadinessReconciliationResult :=
    { evaluatedCount := candidates.length
      transitionedToReady := moves.count .toReady
      transitionedToBlocked := moves.count .toBlocked }
  refine ⟨result, g', ?_, hend.settled, hend.kept⟩
  unfold reconcileTaskReadiness
  apply returns_bind.mpr
  refine ⟨_, g, returns_query rfl, ?_⟩
  apply returns_bind.mpr
  exact ⟨moves, g', hloop, returns_pure.mpr ⟨rfl, rfl⟩⟩

/-!
## Incremental propagation and full recomputation
-/

/-- After a task of a settled graph has become DONE, the recalculation of its dependents
returns and settles the graph again: the sweep over BLOCKED tasks then finds every
one still blocked, the readiness cycle moves none of them, and a second
recalculation only skips.  A task that was not BLOCKED before is left as it was. -/
theorem recalculation_agrees_with_sweeps {g g₁ : TaskGraph} {completedTaskId : TaskId}
    (actor : ActorInfo) (hsettled : g.Settled) (hdone : Moved completedTaskId .done g g₁) :
    exists result g₂,
      Returns (recalculateDependents completedTaskId actor) g₁ result g₂ ∧
      g₂.Settled ∧
      (g₂.taskDependencies = g₁.taskDependencies ∧
        forall taskId, ¬ g₁.IsBlocked taskId ->
          g₂.store.findTask taskId = g₁.store.findTask taskId) ∧
      (exists actions, Returns sweepBlockedTasks g₂ actions g₂ ∧
        forall action, action ∈ actions -> action.outcome = .stillBlocked) ∧
      (exists reconciliation g₃, Returns reconcileTaskReadiness g₂ reconciliation g₃ ∧
        forall task, g₂.store.findTask task.taskId = some task ->
          task.status = .blocked -> g₃.store.findTask task.taskId = some task) ∧
      (exists again, Returns (recalculateDependents completedTaskId actor) g₂ again g₂ ∧
        forall action, action ∈ again.actions -> action.IsSkip) := by
  rcases hdone.moved with ⟨completed, hcompleted, hstatus⟩
  have hdone₁ : g₁.IsDone completedTaskId := ⟨completed, hcompleted, hstatus⟩
  rcases recalculateDependents_settles actor hdone₁ (settledExcept_of_done hsettled hdone)
    with ⟨result, g₂, hreturns, hsettled₂, hedges, hkept⟩
  have hfree : ¬ g₁.IsBlocked completedTaskId := by
    intro hblocked
    rcases hblocked with ⟨task, htask, hblocked⟩
    rw [hcompleted] at htask
    cases htask
    rw [hstatus] at hblocked
    cases hblocked
  have hdone₂ : g₂.IsDone completedTaskId :=
    (isDone_of_findTask_eq (hkept completedTaskId hfree)).mpr hdone₁
  rcases reconcileTaskReadiness_settled hsettled₂ with ⟨reconciliation, g₃, hcycle, _, hstay⟩
  exact ⟨result, g₂, hreturns, hsettled₂, ⟨hedges, hkept⟩,
    sweepBlockedTasks_settled hsettled₂, ⟨reconciliation, g₃, hcycle, hstay⟩,
    recalculateDependents_settled actor hdone₂ hsettled₂⟩

def pairTask (taskId : TaskId) (status : TaskStatus) : Task where
  taskId := taskId
  repositoryId := "repository-1"
  taskType := "feature"
  priority := "medium"
  status := status
  version := 1
  retryCount := 0
  currentLeaseId := none
  currentReviewCycleId := none
  mergeQueueItemId := none
  completedAt := none

def pairGraph (status : TaskStatus) : TaskGraph where
  store :=
    { Store.empty with
      tasks :=
        { rows := [pairTask "first" status, pairTask "second" .blocked]
          nodup := by simp [pairTask] }
      leaseTask := by
        intro l h
        exact absurd h (Table.not_mem_empty l)
      itemTask := by
        intro i h
        exact absurd h (Table.not_mem_empty i) }
  taskDependencies :=
    { rows :=
        [{ taskDependencyId := "dependency-1"
           taskId := "second"
           dependsOnTaskId := "first"
           dependencyType := .blocks
           isHardBlock := true }]
      nodup := by simp }
  uniquePairs := by simp
  waitingTask := by
    intro d h
    rw [Table.mem_def, List.mem_singleton] at h
    rw [h]
    rfl
  prerequisiteTask := by
    intro d h
    rw [Table.mem_def, List.mem_singleton] at h
    rw [h]
    rfl

theorem pairGraph_settled {status : TaskStatus} (h : status ≠ .done)
    (hblocked : status ≠ .blocked) :
    (pairGraph status).Settled := by
  intro taskId hid
  rcases hid with ⟨task, htask, hstatus⟩
  rcases Table.find?_eq_some_iff.mp htask with ⟨hmem, hkey⟩
  rcases List.mem_cons.mp hmem with hmem | hmem
  · rw [hmem] at hstatus
    exact absurd hstatus hblocked
  · rw [List.mem_singleton] at hmem
    rw [← hkey, hmem]
    refine ⟨_, List.mem_singleton.mpr rfl, rfl, rfl, ?_⟩
    have hfirst : (pairGraph status).store.findTask "first" =
        some (pairTask "first" status) :=
      rfl
    exact not_isDone_of_status hfirst h

theorem pairGraph_moved (status target : TaskStatus) :
    Moved "first" target (pairGraph status) (pairGraph target) := by
  constructor
  · exact ⟨pairTask "first" target, rfl, rfl⟩
  · intro id hid
    have hne : ("first" : TaskId) ≠ id := fun heq => hid heq.symm
    simp [pairGraph, Store.findTask, Table.find?, pairTask, hne]
  · rfl

/-- A pair of which the first task becomes DONE. -/
theorem recalculation_agrees_with_sweeps_pair :
    exists result g₂,
      Returns (recalculateDependents "first" automationActor) (pairGraph .done) result g₂ ∧
      g₂.Settled := by
  rcases recalculation_agrees_with_sweeps automationActor
    (pairGraph_settled (by decide) (by decide))
    (pairGraph_moved .postMergeValidation .done) with ⟨result, g₂, hreturns, hsettled, _⟩
  exact ⟨result, g₂, hreturns, hsettled⟩

end Dependencies
end CopilotFactory
