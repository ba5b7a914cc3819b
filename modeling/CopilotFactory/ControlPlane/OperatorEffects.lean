import CopilotFactory.ControlPlane.Requests

/-!
# What operators do to tasks

An operator's request writes one task at most, at its next version, and no merge
queue item.  The only one that takes a task out of MERGING is a pause, and none
takes a task there.
-/

namespace CopilotFactory
namespace ControlPlane

open Foundations
open Domain
open Infrastructure
open Application

def OperatorRequest : Request -> Prop
  | .updateTask _ _ => True
  | .pause _ _ => True
  | .resume _ _ => True
  | .requeue _ _ => True
  | .forceUnblock _ _ _ => True
  | .cancel _ _ _ => True
  | .resolveEscalation _ _ => True
  | .changePriority _ _ _ => True
  | .rerunReview _ _ => True
  | .reopen _ _ => True
  | _ => False

def Pauses (taskId : TaskId) (r : Request) : Prop :=
  exists actorId, r = .pause taskId actorId

inductive OperatorEffect (r : Request) (s s' : Store) : Prop where
  | unchanged (htasks : s'.tasks = s.tasks)
  | edited (taskId : TaskId) (task : Task) (data : TaskUpdate)
      (hfind : s.findTask taskId = some task)
      (hstatus : data.status = none)
      (htasks : s'.tasks = (s.writeTask taskId (task.version + 1) data).tasks)
  | moved (taskId : TaskId) (task : Task) (data : TaskUpdate) (target : TaskStatus)
      (hfind : s.findTask taskId = some task)
      (hstatus : data.status = some target)
      (htarget : target ≠ .merging)
      (hmerging : task.status = .merging -> Pauses taskId r)
      (htasks : s'.tasks = (s.writeTask taskId (task.version + 1) data).tasks)

variable {r : Request} {s s' : Store}

theorem operatorEffect_of_transition {taskId : TaskId} {target : TaskStatus}
    {context : TransitionContext} {actor : ActorInfo} {result : OperatorActionResult}
    (h : executeTransitionAction taskId target context actor s = .ok (s', result))
    (htarget : target ≠ .merging)
    (hmerging : forall task, s.findTask taskId = some task -> task.status = .merging ->
      validateTransition .merging target context = .valid -> Pauses taskId r) :
    s'.mergeQueueItems = s.mergeQueueItems ∧ OperatorEffect r s s' := by
  rcases executeTransitionAction_spec h with ⟨event, hevent⟩
  rcases transitionTask_eq_ok.mp hevent with ⟨task, htask, hvalid, hs', _⟩
  constructor
  · rw [hs']
    rfl
  · apply OperatorEffect.moved taskId task { status := some target } target htask rfl htarget
    · intro hstatus
      rw [hstatus] at hvalid
      exact hmerging task htask hstatus hvalid
    · rw [hs']
      rfl

theorem operatorEffect_of_override {taskId : TaskId} {target : TaskStatus}
    {validSourceStates : List TaskStatus} {actorId action : String}
    {result : OperatorActionResult}
    (h : executeOverrideAction taskId target validSourceStates actorId action s =
      .ok (s', result))
    (htarget : target ≠ .merging) (hsource : TaskStatus.merging ∉ validSourceStates) :
    s'.mergeQueueItems = s.mergeQueueItems ∧ OperatorEffect r s s' := by
  rcases executeOverrideAction_spec h with ⟨task, htask, hstatus, hs', _⟩
  constructor
  · rw [hs']
    rfl
  · have hupdate : (overrideUpdate target).status = some target := by
      unfold overrideUpdate
      split <;> rfl
    apply OperatorEffect.moved taskId task (overrideUpdate target) target htask hupdate
      htarget
    · intro hmerging
      rw [hmerging] at hstatus
      exact absurd hstatus hsource
    · rw [hs']
      rfl

theorem not_merging_of_status {task : Task} {status : TaskStatus} {P : Prop}
    (h : task.status = status) (hne : status ≠ .merging) (hmerging : task.status = .merging) :
    P :=
  absurd (h.symm.trans hmerging) hne

theorem operatorEffect_of_perform (hr : OperatorRequest r) (h : perform s r = .ok s') :
    s'.mergeQueueItems = s.mergeQueueItems ∧ OperatorEffect r s s' := by
  cases r with
  | updateTask taskId dto =>
      rcases committed_eq_ok.mp h with ⟨result, h⟩
      rcases updateTask_spec h with hs' | ⟨task, htask, _, hs'⟩
      · rw [hs']
        exact ⟨rfl, .unchanged rfl⟩
      · rw [hs']
        exact ⟨rfl, .edited taskId task (editedColumns dto) htask rfl rfl⟩
  | pause taskId actorId =>
      rcases committed_eq_ok.mp h with ⟨result, h⟩
      exact operatorEffect_of_transition h (by decide) (fun _ _ _ _ => ⟨actorId, rfl⟩)
  | resume taskId actorId =>
      rcases committed_eq_ok.mp h with ⟨result, h⟩
      simp only [resume, bind_eq_ok, orThrow_eq_ok, ensure_eq_ok] at h
      rcases h with ⟨task, htask, _, hstatus, h⟩
      apply operatorEffect_of_transition h (by decide)
      intro found hfound hmerging _
      rw [htask] at hfound
      cases hfound
      exact not_merging_of_status hstatus (by decide) hmerging
  | requeue taskId actorId =>
      rcases committed_eq_ok.mp h with ⟨result, h⟩
      apply operatorEffect_of_transition h (by decide)
      intro _ _ _ hvalid
      cases hvalid
  | forceUnblock taskId actorId reason =>
      rcases committed_eq_ok.mp h with ⟨result, h⟩
      rcases bind_eq_ok.mp h with ⟨_, _, h⟩
      apply operatorEffect_of_transition h (by decide)
      intro _ _ _ hvalid
      cases hvalid
  | cancel taskId actorId acknowledge =>
      rcases committed_eq_ok.mp h with ⟨result, h⟩
      rcases bind_eq_ok.mp h with ⟨_, hguard, h⟩
      apply operatorEffect_of_transition h (by decide)
      intro task htask hmerging _
      simp only [guardCancel, htask, bind_eq_ok, ensure_eq_ok] at hguard
      rcases hguard with ⟨_, hstatus, _⟩
      exact absurd hmerging hstatus
  | resolveEscalation taskId dto =>
      rcases committed_eq_ok.mp h with ⟨result, h⟩
      have hescalated : forall task, s.findTask taskId = some task ->
          task.status = .escalated := by
        intro task htask
        have hguard := h
        unfold resolveEscalation at hguard
        rcases bind_eq_ok.mp hguard with ⟨_, hguard, _⟩
        simp only [guardResolveEscalation, htask, bind_eq_ok, ensure_eq_ok] at hguard
        rcases hguard with ⟨_, hstatus, _⟩
        exact hstatus
      have hmerging : forall task, s.findTask taskId = some task ->
          task.status = .merging -> Pauses taskId (.resolveEscalation taskId dto) := by
        intro task htask hmerging
        exact not_merging_of_status (hescalated task htask) (by decide) hmerging
      rcases resolveEscalation_spec h with
        ⟨_, s₁, _, htransition, hs'⟩ | ⟨_, target, htarget, htransition⟩
      · have hitems : (recordPool taskId dto s₁).mergeQueueItems = s₁.mergeQueueItems := by
          unfold recordPool
          split
          · rfl
          · split <;> rfl
        rcases @operatorEffect_of_transition (.resolveEscalation taskId dto) _ _ _ _ _ _ _
          htransition (by decide) (fun task htask hstatus _ => hmerging task htask hstatus)
          with ⟨hkept, heffect⟩
        rw [hs', hitems]
        refine ⟨hkept, ?_⟩
        cases heffect with
        | unchanged htasks =>
            exact .unchanged (by rw [recordPool_tasks]; exact htasks)
        | edited id task data hfind hstatus htasks =>
            exact .edited id task data hfind hstatus (by rw [recordPool_tasks]; exact htasks)
        | moved id task data target hfind hstatus htarget hpauses htasks =>
            exact .moved id task data target hfind hstatus htarget hpauses
              (by rw [recordPool_tasks]; exact htasks)
      · apply operatorEffect_of_transition htransition
        · rcases htarget with htarget | htarget
          · rw [htarget]
            decide
          · rw [htarget]
            decide
        · exact fun task htask hstatus _ => hmerging task htask hstatus
  | changePriority taskId priority actorId =>
      rcases committed_eq_ok.mp h with ⟨result, h⟩
      rcases changePriority_spec h with ⟨task, htask, hs'⟩
      rw [hs']
      exact ⟨rfl, .edited taskId task { priority := some priority } htask rfl rfl⟩
  | rerunReview taskId actorId =>
      rcases committed_eq_ok.mp h with ⟨result, h⟩
      exact operatorEffect_of_override h (by decide) (by decide)
  | reopen taskId actorId =>
      rcases committed_eq_ok.mp h with ⟨result, h⟩
      rcases bind_eq_ok.mp h with ⟨_, _, h⟩
      exact operatorEffect_of_override h (by decide) (by decide)
  | _ =>
      cases hr

end ControlPlane
end CopilotFactory
