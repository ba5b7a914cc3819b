import CopilotFactory.Foundations.Instances
import CopilotFactory.ControlPlane.TaskColumns
import CopilotFactory.Dependencies.DependencyService
import CopilotFactory.Dependencies.ReadinessService
import CopilotFactory.Merging.PostMergeValidationService

/-!
# Parents and their children

A parent should not be DONE before all its children are DONE or CANCELLED.  Nothing
that writes DONE asks whether this is so: a transition, the resolution of an
escalation and a post-merge validation that passed complete any task that is in the
right status.
-/

namespace CopilotFactory
namespace Dependencies

open Foundations
open Domain
open Infrastructure
open Application
open ControlPlane

/-!
## The hierarchy as a transition system
-/

variable {actor : ActorInfo} {s s' : Store} {g g' : TaskGraph} {r : Request}

theorem taskEffect_of_applySuccess {task moved : Task}
    (h : Merging.applySuccess task actor s = .ok (s', moved)) : TaskEffect s s' := by
  rcases Merging.applySuccess_eq_ok.mp h with ⟨current, hcurrent, hversion, hs', _⟩
  apply TaskEffect.written task.taskId current { status := some .done } hcurrent
  rw [hs', hversion]
  rfl

def TaskGraph.applySuccess (g : TaskGraph) (task : Task) (actor : ActorInfo) :
    Except ServiceError TaskGraph :=
  g.onStore (fun s => committed (Merging.applySuccess task actor s)) (by
    intro s' h
    rcases committed_eq_ok.mp h with ⟨moved, h⟩
    exact (taskEffect_of_applySuccess h).keeps)

/-- The tasks with their dependencies, and the task that each post-merge validation in
progress has read. -/
abbrev Hierarchy := Instances TaskGraph (Option Task)

def Hierarchy.start (g : TaskGraph) : Hierarchy where
  shared := g
  phase := fun _ => none

inductive HierarchyStep where
  | request (r : Request)
  | addDependency (taskDependencyId : TaskDependencyId) (params : AddDependencyParams)
  | removeDependency (taskDependencyId : TaskDependencyId)
  | startValidation (pid : InstanceId) (taskId : TaskId)
  | passValidation (pid : InstanceId) (actor : ActorInfo)

/-- A validation that passed is over, also when its task cannot be written any more. -/
def passValidation (pid : InstanceId) (actor : ActorInfo) (w : Hierarchy) : Hierarchy :=
  match w.phase pid with
  | none => w
  | some task =>
      match w.shared.applySuccess task actor with
      | .ok g => w.advance pid g none
      | .error _ => w.advance pid w.shared none

def hierarchyStep (w : Hierarchy) : HierarchyStep -> Except ServiceError Hierarchy
  | .request r => do
      let g ← w.shared.perform r
      pure { w with shared := g }
  | .addDependency taskDependencyId params => do
      let (g, _) ← addDependency taskDependencyId params w.shared
      pure { w with shared := g }
  | .removeDependency taskDependencyId =>
      .ok { w with shared := (removeDependency taskDependencyId w.shared).1 }
  | .startValidation pid taskId => do
      let task ← Merging.loadPostMergeTask taskId w.shared.store
      pure (w.advance pid w.shared (some task))
  | .passValidation pid actor => .ok (passValidation pid actor w)

def hierarchy : TransitionSystem Hierarchy HierarchyStep ServiceError where
  step := hierarchyStep

/-!
## What a validation remembers
-/

/-- Each validation in progress has read its task in POST_MERGE_VALIDATION. -/
def RemembersTasks (w : Hierarchy) : Prop :=
  forall pid task, w.phase pid = some task ->
    ReadBefore task w.shared.store ∧ task.status = .postMergeValidation

theorem remembersTasks_start (g : TaskGraph) :
    RemembersTasks (.start g) := by
  intro pid task hphase
  cases hphase

theorem passValidation_spec (w : Hierarchy) (pid : InstanceId) (actor : ActorInfo) :
    (exists task g, w.phase pid = some task ∧ w.shared.applySuccess task actor = .ok g ∧
      passValidation pid actor w = w.advance pid g none) ∨
    passValidation pid actor w = w.advance pid w.shared none := by
  unfold passValidation
  split
  · rename_i hphase
    right
    rw [← hphase, Instances.advance_self]
  · rename_i task hphase
    split
    · rename_i g happly
      exact Or.inl ⟨task, g, hphase, happly, rfl⟩
    · exact Or.inr rfl

variable {w : Hierarchy} {x : HierarchyStep}

theorem hierarchyStep_effect {w' : Hierarchy} (h : hierarchyStep w x = .ok w') :
    TaskEffect w.shared.store w'.shared.store ∧
      forall pid task, w'.phase pid = some task ->
        w.phase pid = some task ∨
        Merging.loadPostMergeTask task.taskId w.shared.store = .ok task := by
  cases x with
  | request r =>
      rcases bind_eq_ok.mp h with ⟨g, hperform, h⟩
      cases h
      exact ⟨(taskEffect_of_perform (TaskGraph.perform_spec hperform).1).2,
        fun pid task hphase => Or.inl hphase⟩
  | addDependency taskDependencyId params =>
      rcases bind_eq_ok.mp h with ⟨⟨g, dependency⟩, hadd, h⟩
      cases h
      rcases addDependency_spec hadd with ⟨_, _, _, _, hcreate⟩
      refine ⟨.unchanged ?_, fun pid task hphase => Or.inl hphase⟩
      change g.store.tasks = w.shared.store.tasks
      rw [(TaskGraph.createDependency_spec hcreate).2.1]
  | removeDependency taskDependencyId =>
      cases h
      exact ⟨.unchanged rfl, fun pid task hphase => Or.inl hphase⟩
  | startValidation pid taskId =>
      rcases bind_eq_ok.mp h with ⟨read, hload, h⟩
      cases h
      refine ⟨.unchanged rfl, ?_⟩
      intro other task hphase
      by_cases hother : other = pid
      · rw [hother, Instances.advance_phase_self] at hphase
        cases hphase
        have hid := Store.taskId_of_findTask (Merging.loadPostMergeTask_eq_ok.mp hload).1
        rw [hid]
        exact Or.inr hload
      · rw [Instances.advance_phase_of_ne _ _ hother] at hphase
        exact Or.inl hphase
  | passValidation pid actor =>
      cases h
      have hkept : forall g other task,
          (w.advance pid g none).phase other = some task -> w.phase other = some task := by
        intro g other task hphase
        by_cases hother : other = pid
        · rw [hother, Instances.advance_phase_self] at hphase
          cases hphase
        · rw [Instances.advance_phase_of_ne _ _ hother] at hphase
          exact hphase
      rcases passValidation_spec w pid actor with ⟨task, g, _, happly, hpass⟩ | hpass
      · rw [hpass]
        rcases committed_eq_ok.mp (TaskGraph.onStore_spec happly).1 with ⟨moved, hmoved⟩
        exact ⟨taskEffect_of_applySuccess hmoved,
          fun other read hread => Or.inl (hkept g other read hread)⟩
      · rw [hpass]
        exact ⟨.unchanged rfl, fun other read hread => Or.inl (hkept _ other read hread)⟩

theorem remembersTasks_step :
    hierarchy.Preserves (fun _ => True) RemembersTasks := by
  intro w x w' _ hw hstep pid task hphase
  rcases hierarchyStep_effect hstep with ⟨heffect, hphases⟩
  rcases hphases pid task hphase with hphase | hload
  · rcases hw pid task hphase with ⟨hread, hstatus⟩
    exact ⟨hread.effect heffect, hstatus⟩
  · rcases Merging.loadPostMergeTask_eq_ok.mp hload with ⟨hfind, hstatus⟩
    exact ⟨(readBefore_of_find hfind).effect heffect, hstatus⟩

/-!
## Completing a task
-/

/-- Another task is a child of this one and is neither DONE nor CANCELLED. -/
def TaskGraph.WaitsForChild (g : TaskGraph) (taskId : TaskId) : Prop :=
  exists d child, d ∈ g.taskDependencies ∧ d.taskId = taskId ∧
    d.dependencyType = .parentChild ∧ d.dependsOnTaskId ≠ taskId ∧
    g.store.findTask d.dependsOnTaskId = some child ∧
    child.status ≠ .done ∧ child.status ≠ .cancelled

def EntersDone (taskId : TaskId) (g g' : TaskGraph) : Prop :=
  ¬ g.IsDone taskId ∧ g'.IsDone taskId

/-- A request that the control plane accepts, and that completes the task. -/
def CompletedBy (s : Store) (taskId : TaskId) : Request -> Prop
  | .transitionTask id targetStatus context _ =>
      taskId = id ∧ targetStatus = .done ∧
        exists task, s.findTask id = some task ∧
          validateTransition task.status .done context = .valid
  | .resolveEscalation id dto =>
      taskId = id ∧ dto.resolutionType = .markDone ∧
        isBlank (dto.evidence.getD "") = false ∧
        exists task, s.findTask id = some task ∧ task.status = .escalated
  | _ => False

/-- A step that completes the task: such a request, or the end of a validation whose
task still has the version that was read. -/
def Completes (w : Hierarchy) (taskId : TaskId) : HierarchyStep -> Prop
  | .request r => CompletedBy w.shared.store taskId r
  | .passValidation pid _ =>
      exists task current, w.phase pid = some task ∧ task.taskId = taskId ∧
        w.shared.store.findTask taskId = some current ∧ current.version = task.version
  | _ => False

structure MarksDone (taskId : TaskId) (g g' : TaskGraph) : Prop where
  open_before : exists task, g.store.findTask taskId = some task ∧ task.status ≠ .done
  dependencies : g'.taskDependencies = g.taskDependencies
  tasks : exists version,
    g'.store.tasks = (g.store.writeTask taskId version { status := some .done }).tasks

theorem MarksDone.find {taskId : TaskId} (h : MarksDone taskId g g') :
    exists task, g'.store.findTask taskId = some task ∧ task.status = .done := by
  rcases h.open_before with ⟨task, htask, _⟩
  rcases h.tasks with ⟨version, htasks⟩
  refine ⟨TaskUpdate.apply { status := some .done } version task, ?_, rfl⟩
  rw [Store.findTask_of_tasks_eq htasks, Store.findTask_writeTask_self, htask]
  rfl

theorem MarksDone.find_of_ne {taskId other : TaskId} (h : MarksDone taskId g g')
    (hother : other ≠ taskId) : g'.store.findTask other = g.store.findTask other := by
  rcases h.tasks with ⟨version, htasks⟩
  rw [Store.findTask_of_tasks_eq htasks, Store.findTask_writeTask_of_ne hother]

theorem MarksDone.entersDone {taskId : TaskId} (h : MarksDone taskId g g') :
    EntersDone taskId g g' := by
  refine ⟨?_, h.find⟩
  intro hdone
  rcases h.open_before with ⟨task, htask, hstatus⟩
  rcases hdone with ⟨found, hfound, hfoundStatus⟩
  rw [htask] at hfound
  cases hfound
  exact hstatus hfoundStatus

theorem MarksDone.hasOpenChild_iff {taskId : TaskId} (h : MarksDone taskId g g') :
    g'.HasOpenChild taskId <-> g.WaitsForChild taskId := by
  rcases h.find with ⟨task, htask, hdone⟩
  unfold TaskGraph.HasOpenChild TaskGraph.WaitsForChild
  rw [h.dependencies]
  constructor
  · intro hopen
    rcases hopen with ⟨d, child, hd, hparent, htype, hchild, hstatus⟩
    have hne : d.dependsOnTaskId ≠ taskId := by
      intro hself
      rw [hself, htask] at hchild
      cases hchild
      exact hstatus.1 hdone
    refine ⟨d, child, hd, hparent, htype, hne, ?_, hstatus⟩
    rw [← h.find_of_ne hne]
    exact hchild
  · intro hwaits
    rcases hwaits with ⟨d, child, hd, hparent, htype, hne, hchild, hstatus⟩
    refine ⟨d, child, hd, hparent, htype, ?_, hstatus⟩
    rw [h.find_of_ne hne]
    exact hchild

theorem MarksDone.complete_iff {taskId : TaskId} (h : MarksDone taskId g g') :
    checkParentChildReadiness taskId g' = .ok (.complete taskId) <->
      ¬ g.WaitsForChild taskId := by
  rcases h.find with ⟨task, htask, _⟩
  rw [checkParentChildReadiness_iff htask, h.hasOpenChild_iff]

/-!
## Which steps complete a task
-/

theorem not_done_of_valid {current : TaskStatus} {context : TransitionContext}
    (hvalid : validateTransition current .done context = .valid) :
    current ≠ .done := by
  intro hdone
  rw [hdone] at hvalid
  cases hvalid

/-- An accepted transition to DONE, by whichever request it is made. -/
theorem marksDone_of_transition {taskId : TaskId} {context : TransitionContext} {task : Task}
    (htask : g.store.findTask taskId = some task)
    (hvalid : validateTransition task.status .done context = .valid)
    (hperform : forall s' event,
      transitionTask taskId .done context actor g.store = .ok (s', event) ->
      ControlPlane.perform g.store r = .ok s') :
    exists g', g.perform r = .ok g' ∧ MarksDone taskId g g' := by
  rcases transitionTask_accepts actor htask hvalid with ⟨s', event, htransition⟩
  rcases TaskGraph.perform_of_ok (hperform s' event htransition) with ⟨hkeeps, hg'⟩
  refine ⟨g.withStore s' hkeeps, hg', ?_⟩
  rcases transitionTask_eq_ok.mp htransition with ⟨found, hfound, _, hs', _⟩
  rw [htask] at hfound
  cases hfound
  exact
    { open_before := ⟨task, htask, not_done_of_valid hvalid⟩
      dependencies := rfl
      tasks := ⟨task.version + 1, by rw [TaskGraph.withStore_store, hs']; rfl⟩ }

theorem resolveEscalation_markDone {taskId : TaskId} {dto : ResolveEscalationDto} {task : Task}
    {event : AuditEvent} (htask : s.findTask taskId = some task)
    (hescalated : task.status = .escalated) (htype : dto.resolutionType = .markDone)
    (hevidence : isBlank (dto.evidence.getD "") = false)
    (h : transitionTask taskId .done { isOperator := some true }
      (operatorActor dto.actorId) s = .ok (s', event)) :
    ControlPlane.perform s (.resolveEscalation taskId dto) = .ok s' := by
  rcases executeTransitionAction_of_transition h with ⟨result, haction⟩
  apply committed_eq_ok.mpr
  refine ⟨result, ?_⟩
  have hguard : guardResolveEscalation s taskId .markDone dto.evidence = .ok () := by
    simp only [guardResolveEscalation, htask, bind_eq_ok, ensure_eq_ok]
    exact ⟨(), hescalated, by simp [hevidence]⟩
  simp only [resolveEscalation, htype, hguard, ok_bind]
  exact haction

theorem marksDone_of_request {taskId : TaskId} (h : CompletedBy g.store taskId r) :
    exists g', g.perform r = .ok g' ∧ MarksDone taskId g g' := by
  cases r with
  | transitionTask id targetStatus context actor =>
      rcases h with ⟨hid, htarget, task, htask, hvalid⟩
      rw [← hid] at htask
      apply marksDone_of_transition htask hvalid
      intro s' event htransition
      rw [← hid, htarget]
      exact committed_eq_ok.mpr ⟨event, htransition⟩
  | resolveEscalation id dto =>
      rcases h with ⟨hid, htype, hevidence, task, htask, hescalated⟩
      rw [← hid] at htask
      have hvalid : validateTransition task.status .done { isOperator := some true } =
          .valid := by
        rw [hescalated]
        rfl
      apply marksDone_of_transition htask hvalid
      intro s' event htransition
      rw [← hid]
      exact resolveEscalation_markDone htask hescalated htype hevidence htransition
  | _ =>
      cases h

theorem marksDone_of_applySuccess {task : Task} (actor : ActorInfo)
    (hread : ReadBefore task g.store) (hstatus : task.status = .postMergeValidation)
    {current : Task} (hfind : g.store.findTask task.taskId = some current)
    (hversion : current.version = task.version) :
    exists g', g.applySuccess task actor = .ok g' ∧ MarksDone task.taskId g g' := by
  cases hread.find hfind hversion
  have happly : exists s' moved, Merging.applySuccess task actor g.store = .ok (s', moved) :=
    ⟨_, _, Merging.applySuccess_eq_ok.mpr ⟨task, hfind, rfl, rfl, rfl⟩⟩
  rcases happly with ⟨s', moved, happly⟩
  refine ⟨_, TaskGraph.onStore_of_ok (committed_eq_ok.mpr ⟨moved, happly⟩), ?_⟩
  rcases Merging.applySuccess_eq_ok.mp happly with ⟨_, _, _, hs', _⟩
  exact
    { open_before := ⟨task, hfind, by rw [hstatus]; decide⟩
      dependencies := rfl
      tasks := ⟨task.version + 1, by rw [TaskGraph.withStore_store, hs']; rfl⟩ }

theorem marksDone_of_completes (hw : RemembersTasks w) {taskId : TaskId}
    (h : Completes w taskId x) : MarksDone taskId w.shared (hierarchy.next w x).shared := by
  cases x with
  | request r =>
      rcases marksDone_of_request h with ⟨g', hperform, hmarks⟩
      have hstep : hierarchy.step w (.request r) = .ok { w with shared := g' } := by
        simp only [hierarchy, hierarchyStep, hperform, ok_bind]
        rfl
      rw [hierarchy.next_of_ok hstep]
      exact hmarks
  | passValidation pid actor =>
      rcases h with ⟨task, current, hphase, hid, hfind, hversion⟩
      rcases hw pid task hphase with ⟨hread, hstatus⟩
      rw [← hid] at hfind
      rcases marksDone_of_applySuccess actor hread hstatus hfind hversion with
        ⟨g', happly, hmarks⟩
      have hstep : hierarchy.step w (.passValidation pid actor) =
          .ok (w.advance pid g' none) := by
        simp only [hierarchy, hierarchyStep, passValidation, hphase, happly]
      rw [hierarchy.next_of_ok hstep, ← hid]
      exact hmarks
  | _ =>
      cases h

theorem completedBy_of_writes {taskId : TaskId} {task : Task} {data : TaskUpdate}
    (hperform : ControlPlane.perform s r = .ok s') (htask : s.findTask taskId = some task)
    (hwrites : r.Writes taskId task data) (hdone : data.status = some .done) :
    CompletedBy s taskId r := by
  have htargets := hwrites.status_mem_targets hdone
  cases r with
  | transitionTask id target context actor =>
      rcases hwrites with ⟨hid, hvalid, _⟩
      have htarget : target = .done := (List.mem_singleton.mp htargets).symm
      rw [htarget] at hvalid
      refine ⟨hid, htarget, task, ?_, hvalid⟩
      rw [← hid]
      exact htask
  | resolveEscalation id dto =>
      rcases hwrites with ⟨hid, hescalated, hdata⟩
      rw [hdata] at hdone
      have htype : dto.resolutionType = .markDone := by
        cases htype : dto.resolutionType with
        | markDone =>
            rfl
        | retry | cancel =>
            rw [htype] at hdone
            cases hdone
      rw [hid] at htask
      rcases committed_eq_ok.mp hperform with ⟨result, hperform⟩
      rcases bind_eq_ok.mp hperform with ⟨_, hguard, _⟩
      simp only [guardResolveEscalation, htask, bind_eq_ok, ensure_eq_ok] at hguard
      rcases hguard with ⟨_, _, hevidence⟩
      refine ⟨hid, htype, ?_, task, htask, hescalated⟩
      simpa [htype] using hevidence
  | _ =>
      simp [Request.targets] at htargets

theorem completes_of_request {taskId : TaskId} (h : g.perform r = .ok g')
    (henters : EntersDone taskId g g') : CompletedBy g.store taskId r := by
  rcases henters with ⟨hnot, task, htask, hdone⟩
  have hperform := (TaskGraph.perform_spec h).1
  rcases task_after_perform hperform htask with hsame | ⟨dto, _, _, hnew⟩ | hwritten
  · exact absurd ⟨task, hsame, hdone⟩ hnot
  · rw [hnew] at hdone
    cases hdone
  · rcases hwritten with ⟨old, data, hold, hwrites, hafter⟩
    apply completedBy_of_writes hperform hold hwrites
    rw [hafter, TaskUpdate.apply_status] at hdone
    cases hstatus : data.status with
    | none =>
        rw [hstatus] at hdone
        exact absurd ⟨old, hold, hdone⟩ hnot
    | some status =>
        rw [hstatus] at hdone
        rw [← hdone]
        rfl

theorem not_entersDone_of_store_eq {taskId : TaskId} (h : g'.store = g.store) :
    ¬ EntersDone taskId g g' := by
  intro henters
  rcases henters with ⟨hnot, task, htask, hdone⟩
  rw [h] at htask
  exact hnot ⟨task, htask, hdone⟩

theorem completes_of_applySuccess {task : Task} {taskId : TaskId}
    (h : g.applySuccess task actor = .ok g') (henters : EntersDone taskId g g') :
    task.taskId = taskId ∧ exists current, g.store.findTask taskId = some current ∧
      current.version = task.version := by
  rcases committed_eq_ok.mp (TaskGraph.onStore_spec h).1 with ⟨moved, happly⟩
  rcases Merging.applySuccess_eq_ok.mp happly with ⟨current, hcurrent, hversion, hs', _⟩
  have hid : task.taskId = taskId := by
    by_contra hne
    rcases henters with ⟨hnot, found, hfound, hdone⟩
    rw [hs', Store.appendAudit_findTask, Store.findTask_writeTask_of_ne (Ne.symm hne)]
      at hfound
    exact hnot ⟨found, hfound, hdone⟩
  rw [hid] at hcurrent
  exact ⟨hid, current, hcurrent, hversion⟩

/-- A step takes a task to DONE exactly if it is one of those that complete it. -/
theorem entersDone_iff (hw : RemembersTasks w) {taskId : TaskId} :
    EntersDone taskId w.shared (hierarchy.next w x).shared <-> Completes w taskId x := by
  constructor
  · intro henters
    cases hstep : hierarchy.step w x with
    | error e =>
        rw [hierarchy.next_of_error hstep] at henters
        exact absurd henters (not_entersDone_of_store_eq rfl)
    | ok w' =>
        rw [hierarchy.next_of_ok hstep] at henters
        have h : hierarchyStep w x = .ok w' := hstep
        cases x with
        | request r =>
            rcases bind_eq_ok.mp h with ⟨g, hperform, h⟩
            cases h
            exact completes_of_request hperform henters
        | addDependency taskDependencyId params =>
            rcases bind_eq_ok.mp h with ⟨⟨g, dependency⟩, hadd, h⟩
            cases h
            rcases addDependency_spec hadd with ⟨_, _, _, _, hcreate⟩
            have hstore := (TaskGraph.createDependency_spec hcreate).2.1
            exact absurd henters (not_entersDone_of_store_eq hstore)
        | removeDependency taskDependencyId =>
            cases h
            exact absurd henters (not_entersDone_of_store_eq rfl)
        | startValidation pid id =>
            rcases bind_eq_ok.mp h with ⟨read, _, h⟩
            cases h
            exact absurd henters (not_entersDone_of_store_eq rfl)
        | passValidation pid actor =>
            cases h
            rcases passValidation_spec w pid actor with
              ⟨task, g, hphase, happly, hpass⟩ | hpass
            · rw [hpass] at henters
              rcases completes_of_applySuccess happly henters with
                ⟨hid, current, hcurrent, hversion⟩
              exact ⟨task, current, hphase, hid, hcurrent, hversion⟩
            · rw [hpass] at henters
              exact absurd henters (not_entersDone_of_store_eq rfl)
  · intro hcompletes
    exact (marksDone_of_completes hw hcompletes).entersDone

/-!
## Parents that are completed before their children
-/

/-- A step that takes tasks to DONE leaves none of them with an open child. -/
def EntersDoneComplete (w w' : Hierarchy) : Prop :=
  forall taskId, EntersDone taskId w.shared w'.shared ->
    checkParentChildReadiness taskId w'.shared = .ok (.complete taskId)

def CompletesSettled (w : Hierarchy) (x : HierarchyStep) : Prop :=
  forall taskId, Completes w taskId x -> ¬ w.shared.WaitsForChild taskId

theorem entersDoneComplete_iff (hw : RemembersTasks w) :
    EntersDoneComplete w (hierarchy.next w x) <-> CompletesSettled w x := by
  unfold EntersDoneComplete CompletesSettled
  constructor
  · intro h taskId hcompletes
    have hmarks := marksDone_of_completes hw hcompletes
    exact hmarks.complete_iff.mp (h taskId hmarks.entersDone)
  · intro h taskId henters
    have hcompletes := (entersDone_iff hw).mp henters
    exact (marksDone_of_completes hw hcompletes).complete_iff.mpr (h taskId hcompletes)

/-- In every run, tasks enter DONE without an open child exactly if no step completes a
task that waits for one. -/
theorem done_without_open_children_iff (g : TaskGraph) (steps : List HierarchyStep) :
    (forall x, x ∈ hierarchy.arrivals (.start g) steps ->
      EntersDoneComplete x.1 (hierarchy.next x.1 x.2)) <->
    forall x, x ∈ hierarchy.arrivals (.start g) steps -> CompletesSettled x.1 x.2 := by
  have hremembers : forall x, x ∈ hierarchy.arrivals (.start g) steps ->
      RemembersTasks x.1 := by
    apply And.left
    exact TransitionSystem.run_of_arrivals (C := fun _ _ => True)
      (fun w x hw _ => remembersTasks_step.next trivial hw) (remembersTasks_start g)
      (fun _ _ => trivial)
  constructor
  · intro h x hx
    exact (entersDoneComplete_iff (hremembers x hx)).mp (h x hx)
  · intro h x hx
    exact (entersDoneComplete_iff (hremembers x hx)).mpr (h x hx)

def familyDto (taskId : TaskId) : CreateTaskDto where
  taskId := taskId
  repositoryId := "repository-1"
  taskType := "feature"
  priority := "medium"

/-- An operator escalates a parent and marks it as done while its child is in BACKLOG. -/
def abandonedChildSteps : List HierarchyStep :=
  [ .request (.createTask (familyDto "parent")),
    .request (.createTask (familyDto "child")),
    .addDependency "dependency-1"
      { taskId := "parent", dependsOnTaskId := "child", dependencyType := .parentChild },
    .request (.pause "parent" "operator-1") ]

def abandonChild : HierarchyStep :=
  .request (.resolveEscalation "parent"
    { resolutionType := .markDone
      actorId := "operator-1"
      evidence := some "merged by hand" })

theorem child_left_open :
    ¬ forall (g : TaskGraph) (steps : List HierarchyStep) (x : Hierarchy × HierarchyStep),
      x ∈ hierarchy.arrivals (.start g) steps ->
      EntersDoneComplete x.1 (hierarchy.next x.1 x.2) := by
  intro h
  have hbefore : ((hierarchy.run (.start .empty) abandonedChildSteps).shared.store.findTask
      "parent").map Task.status = some .escalated := by
    decide +kernel
  have hafter : ((hierarchy.next (hierarchy.run (.start .empty) abandonedChildSteps)
      abandonChild).shared.store.findTask "parent").map Task.status = some .done := by
    decide +kernel
  have hreport : (checkParentChildReadiness "parent"
      (hierarchy.next (hierarchy.run (.start .empty) abandonedChildSteps)
        abandonChild).shared).toOption = some (.incomplete "parent"
      [ { childTaskId := "child"
          childStatus := .backlog
          taskDependencyId := "dependency-1" } ]) := by
    decide +kernel
  rcases Option.map_eq_some_iff.mp hbefore with ⟨task, htask, hstatus⟩
  rcases Option.map_eq_some_iff.mp hafter with ⟨done, hdone, hdoneStatus⟩
  have henters : EntersDone "parent" (hierarchy.run (.start .empty) abandonedChildSteps).shared
      (hierarchy.next (hierarchy.run (.start .empty) abandonedChildSteps)
        abandonChild).shared := by
    refine ⟨?_, done, hdone, hdoneStatus⟩
    intro hfound
    rcases hfound with ⟨found, hfound, hfoundStatus⟩
    rw [htask] at hfound
    cases hfound
    rw [hstatus] at hfoundStatus
    cases hfoundStatus
  have hcomplete := h .empty (abandonedChildSteps ++ [abandonChild]) _
    (hierarchy.mem_arrivals_append _ abandonedChildSteps abandonChild []) "parent" henters
  rw [hcomplete] at hreport
  cases hreport

end Dependencies
end CopilotFactory
