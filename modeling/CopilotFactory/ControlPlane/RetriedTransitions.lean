import CopilotFactory.ControlPlane.OptimisticRetryService

/-!
# Retried transitions

However the other writers interleave with the attempts, a transition with priority is
committed once, on top of what the others have committed, or not at all.
-/

namespace CopilotFactory
namespace ControlPlane

open Foundations
open Domain
open Infrastructure
open Application

variable {p : PriorityTransition} {schedule : Nat -> Turn} {s : Store}

/-!
## The other writers
-/

variable {auditEvent : AuditEvent} {remaining first retriesUsed : Nat}

def othersFrom (schedule : Nat -> Turn) : (turns first : Nat) -> Store -> Store
  | 0, _, s => s
  | n + 1, first, s => othersFrom schedule n (first + 1) ((schedule first).commits s)

theorem ReadBefore.commitAll {task : Task} (competitors : List Competitor)
    (h : ReadBefore task s) : ReadBefore task (commitAll competitors s) := by
  unfold ControlPlane.commitAll
  induction competitors generalizing s with
  | nil =>
      exact h
  | cons competitor rest ih =>
      exact ih (h.advance (competitor.advances s))

/-- A request to the control plane is a commit of another writer, or none. -/
def Competitor.ofRequest (request : Request) : Competitor where
  commit s :=
    match perform s request with
    | .ok s' => s'
    | .error _ => s
  advances := by
    intro s
    cases hperform : perform s request with
    | ok s' =>
        exact (taskEffect_of_perform hperform).2.advancesTasks
    | error e =>
        exact advancesTasks_of_tasks_eq rfl

/-!
## One attempt
-/

structure CommittedOnce (p : PriorityTransition) (s : Store) (task : Task) (store : Store)
    (entity : TransitionableTask) (auditEvent : AuditEvent) : Prop where
  stored : s.findTask p.taskId = some task
  allowed : validateTransition task.status p.targetStatus p.context = .valid
  moved : store.findTask p.taskId =
    some { task with status := p.targetStatus, version := task.version + 1 }
  otherTasks : forall id, id ≠ p.taskId -> store.findTask id = s.findTask id
  otherTables : store.taskLeases = s.taskLeases ∧ store.workerPools = s.workerPools ∧
    store.mergeQueueItems = s.mergeQueueItems
  audited : store.auditEvents = s.auditEvents ++ [auditEvent]
  event : auditEvent = transitionAudit p task
  entity : entity =
    { id := p.taskId, status := p.targetStatus, version := task.version + 1 }

def Legal (p : PriorityTransition) (s : Store) : Prop :=
  exists task, s.findTask p.taskId = some task ∧
    validateTransition task.status p.targetStatus p.context = .valid

def Conflicted (tried : Attempt) : Prop :=
  exists error, tried.outcome = .error error ∧ isVersionConflict error = true

theorem attemptTransition_ok {turn : Turn} {store : Store} {entity : TransitionableTask}
    (h : (attemptTransition p turn s).outcome = .ok (store, entity, auditEvent)) :
    exists task, CommittedOnce p (turn.commits s) task store entity auditEvent := by
  simp only [attemptTransition, attemptBody, bind_eq_ok, orThrow_eq_ok,
    commitTransition_eq_ok, ensure_eq_ok, pure_eq_ok, Prod.mk.injEq] at h
  rcases h with ⟨task, hread, _, hvalid, s₁, hupdate, _, _, hstore, hentity, hevent⟩
  rcases Store.updateTask_eq_ok.mp hupdate with ⟨current, hcurrent, hversion, hs₁⟩
  have hid : task.taskId = p.taskId :=
    Store.taskId_of_findTask hread
  have hbefore : ReadBefore task (turn.commits s) :=
    (readBefore_of_find hread).commitAll turn.during
  have hsame : current = task := by
    apply hbefore.find _ hversion
    rw [hid]
    exact hcurrent
  rw [hsame] at hcurrent
  have hstored : (turn.commits s).findTask p.taskId = some task :=
    hcurrent
  refine ⟨task, ?_⟩
  rw [← hstore, ← hentity, ← hevent, hs₁]
  constructor
  · exact hstored
  · exact hvalid
  · rw [Store.appendAudit_findTask, Store.findTask_writeTask_self]
    change ((turn.commits s).findTask p.taskId).map _ = _
    rw [hstored]
    rfl
  · intro id hne
    rw [Store.appendAudit_findTask]
    exact Store.findTask_writeTask_of_ne hne
  · exact ⟨rfl, rfl, rfl⟩
  · rfl
  · rfl
  · rfl

theorem attemptTransition_error_of_legal {turn : Turn} {error : ServiceError}
    (hlegal : Legal p (attemptTransition p turn s).read)
    (h : (attemptTransition p turn s).outcome = .error error) :
    isVersionConflict error = true ∨
      (turn.auditIdTaken = true ∧
        error = .constraintViolation "audit_event" "audit_event_id") := by
  rcases hlegal with ⟨task, htask, hvalid⟩
  change (attemptBody p turn.auditIdTaken (attemptTransition p turn s).read _) = _ at h
  unfold attemptBody at h
  rw [htask, orThrow_some, ok_bind, hvalid, commitTransition, ok_bind] at h
  rcases bind_eq_error.mp h with hupdate | ⟨s₁, _, hrest⟩
  · rcases Store.updateTask_error hupdate with ⟨version, heq⟩
    rw [heq]
    exact Or.inl rfl
  · rcases bind_eq_error.mp hrest with hensure | ⟨_, _, hpure⟩
    · right
      cases htaken : turn.auditIdTaken with
      | false =>
          rw [htaken] at hensure
          cases hensure
      | true =>
          rw [htaken] at hensure
          cases hensure
          exact ⟨rfl, rfl⟩
    · cases hpure

/-!
## A run
-/

/-- How a run of attempts ends that starts at one of the turns. -/
structure Settles (p : PriorityTransition) (schedule : Nat -> Turn) (remaining first : Nat)
    (s : Store) (run : RetryRun) : Prop where
  attempted : 1 ≤ run.attempts.length
  committed : forall result, run.result = .ok result ->
    exists task, CommittedOnce p (othersFrom schedule run.attempts.length first s) task
      run.store result.entity result.auditEvent
  unchanged : forall error, run.result = .error error ->
    run.store = othersFrom schedule run.attempts.length first s
  yields : getConflictPriority p.actor.type p.targetStatus = .automated ->
    run.attempts.length = 1
  bounded : run.attempts.length ≤ remaining + 1
  exhausted : forall error, run.result = .error error -> isVersionConflict error = true ->
    getConflictPriority p.actor.type p.targetStatus ≠ .automated ->
    run.attempts.length = remaining + 1 ∧ forall tried, tried ∈ run.attempts -> Conflicted tried
  legal : (forall tried, tried ∈ run.attempts -> Legal p tried.read) ->
    forall error, run.result = .error error -> isVersionConflict error = true ∨
      ((schedule (first + (run.attempts.length - 1))).auditIdTaken = true ∧
        error = .constraintViolation "audit_event" "audit_event_id")

theorem retryFrom_of_ok {store : Store} {entity : TransitionableTask}
    (h : (attemptTransition p (schedule first) s).outcome = .ok (store, entity, auditEvent)) :
    retryFrom p schedule remaining first retriesUsed s =
      { store := store
        attempts := [attemptTransition p (schedule first) s]
        result := .ok
          { entity := entity, auditEvent := auditEvent, retriesUsed := retriesUsed } } := by
  unfold retryFrom
  simp only [h]

theorem retryFrom_of_stop {error : ServiceError}
    (h : (attemptTransition p (schedule first) s).outcome = .error error)
    (hstop : isVersionConflict error = false ∨
      shouldRetryOnConflict p.actor.type p.targetStatus = false ∨ remaining = 0) :
    retryFrom p schedule remaining first retriesUsed s =
      { store := (attemptTransition p (schedule first) s).written
        attempts := [attemptTransition p (schedule first) s]
        result := .error error } := by
  unfold retryFrom
  simp only [h]
  rcases hstop with hstop | hstop | hstop
  · rw [if_pos hstop]
  · rw [if_pos hstop, ite_self]
  · rw [hstop, ite_self, ite_self]

theorem retryFrom_of_retry {error : ServiceError}
    (h : (attemptTransition p (schedule first) s).outcome = .error error)
    (hconflict : isVersionConflict error = true)
    (hretry : shouldRetryOnConflict p.actor.type p.targetStatus = true) :
    retryFrom p schedule (remaining + 1) first retriesUsed s =
      { retryFrom p schedule remaining (first + 1) (retriesUsed + 1)
          (attemptTransition p (schedule first) s).written with
        attempts := attemptTransition p (schedule first) s ::
          (retryFrom p schedule remaining (first + 1) (retriesUsed + 1)
            (attemptTransition p (schedule first) s).written).attempts } := by
  conv =>
    lhs
    unfold retryFrom
  simp [h, hconflict, hretry]

theorem settles_of_ok {store : Store} {entity : TransitionableTask}
    (h : (attemptTransition p (schedule first) s).outcome = .ok (store, entity, auditEvent)) :
    Settles p schedule remaining first s
      { store := store
        attempts := [attemptTransition p (schedule first) s]
        result := .ok
          { entity := entity, auditEvent := auditEvent, retriesUsed := retriesUsed } } where
  attempted := Nat.le_refl 1
  committed := by
    intro result hresult
    cases hresult
    exact attemptTransition_ok h
  unchanged := nofun
  yields := fun _ => rfl
  bounded := Nat.le_add_left 1 remaining
  exhausted := nofun
  legal := fun _ => nofun

theorem settles_of_error {error : ServiceError}
    (h : (attemptTransition p (schedule first) s).outcome = .error error)
    (hstop : isVersionConflict error = false ∨
      shouldRetryOnConflict p.actor.type p.targetStatus = false ∨ remaining = 0) :
    Settles p schedule remaining first s
      { store := (attemptTransition p (schedule first) s).written
        attempts := [attemptTransition p (schedule first) s]
        result := .error error } where
  attempted := Nat.le_refl 1
  committed := nofun
  unchanged := by
    intro _ _
    rfl
  yields := fun _ => rfl
  bounded := Nat.le_add_left 1 remaining
  exhausted := by
    intro error' herror' hconflict hpriority
    cases herror'
    rcases hstop with hstop | hstop | hstop
    · rw [hstop] at hconflict
      cases hconflict
    · rw [shouldRetryOnConflict_iff.mpr hpriority] at hstop
      cases hstop
    · rw [hstop]
      constructor
      · rfl
      · intro tried htried
        rw [List.mem_singleton.mp htried]
        exact ⟨error, h, hconflict⟩
  legal := by
    intro hlegal error' herror'
    cases herror'
    exact attemptTransition_error_of_legal (hlegal _ List.mem_cons_self) h

theorem settles_of_retry {error : ServiceError} {rest : RetryRun}
    (h : (attemptTransition p (schedule first) s).outcome = .error error)
    (hconflict : isVersionConflict error = true)
    (hretry : shouldRetryOnConflict p.actor.type p.targetStatus = true)
    (hrest : Settles p schedule remaining (first + 1)
      (attemptTransition p (schedule first) s).written rest) :
    Settles p schedule (remaining + 1) first s
      { rest with attempts := attemptTransition p (schedule first) s :: rest.attempts } where
  attempted := Nat.le_add_left 1 _
  committed := hrest.committed
  unchanged := hrest.unchanged
  yields := by
    intro hautomated
    exact absurd hautomated (shouldRetryOnConflict_iff.mp hretry)
  bounded := Nat.succ_le_succ hrest.bounded
  exhausted := by
    intro error' herror' hconflict' hpriority
    rcases hrest.exhausted error' herror' hconflict' hpriority with ⟨hlength, hall⟩
    constructor
    · rw [List.length_cons, hlength]
    · intro tried htried
      rcases List.mem_cons.mp htried with hfirst | hlater
      · rw [hfirst]
        exact ⟨error, h, hconflict⟩
      · exact hall tried hlater
  legal := by
    intro hlegal
    -- the last attempt is the last one of the rest, which has at least one
    have hlast : first + ((attemptTransition p (schedule first) s :: rest.attempts).length - 1) =
        first + 1 + (rest.attempts.length - 1) := by
      have := hrest.attempted
      rw [List.length_cons]
      omega
    rw [hlast]
    apply hrest.legal
    intro tried htried
    exact hlegal tried (List.mem_cons_of_mem _ htried)

theorem retryFrom_settles (p : PriorityTransition) (schedule : Nat -> Turn)
    (remaining first retriesUsed : Nat) (s : Store) :
    Settles p schedule remaining first s
      (retryFrom p schedule remaining first retriesUsed s) := by
  induction remaining generalizing first retriesUsed s with
  | zero =>
      cases houtcome : (attemptTransition p (schedule first) s).outcome with
      | ok result =>
          rw [retryFrom_of_ok houtcome]
          exact settles_of_ok houtcome
      | error error =>
          have hstop : isVersionConflict error = false ∨
              shouldRetryOnConflict p.actor.type p.targetStatus = false ∨ 0 = 0 :=
            Or.inr (Or.inr rfl)
          rw [retryFrom_of_stop houtcome hstop]
          exact settles_of_error houtcome hstop
  | succ n ih =>
      cases houtcome : (attemptTransition p (schedule first) s).outcome with
      | ok result =>
          rw [retryFrom_of_ok houtcome]
          exact settles_of_ok houtcome
      | error error =>
          by_cases hstop : isVersionConflict error = false ∨
              shouldRetryOnConflict p.actor.type p.targetStatus = false
          · have hstop' := or_assoc.mp (Or.inl hstop (b := n + 1 = 0))
            rw [retryFrom_of_stop houtcome hstop']
            exact settles_of_error houtcome hstop'
          · rw [not_or, Bool.not_eq_false, Bool.not_eq_false] at hstop
            rw [retryFrom_of_retry houtcome hstop.1 hstop.2]
            exact settles_of_retry houtcome hstop.1 hstop.2 (ih _ _ _)

end ControlPlane
end CopilotFactory
