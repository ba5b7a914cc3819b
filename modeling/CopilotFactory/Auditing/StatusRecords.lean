import CopilotFactory.ControlPlane.TaskEffects
import CopilotFactory.Foundations.Trail
import CopilotFactory.Leasing.Effects

/-!
# What the audit events say of the status of a task

Most transactions record the status that they change in an event of the task.  A reclaim
changes a lease and its task and records both in one event of the lease.
-/

namespace CopilotFactory
namespace Auditing

open Foundations
open Domain
open Infrastructure
open ControlPlane

/-- The text that a recorded state has under a key; a plain text is a status. -/
def recordedText (key : String) : AuditState -> Option String
  | .plain label => if key = "status" then some label else none
  | .object fields =>
      match fields.lookup key with
      | some (.text label) => some label
      | _ => none

def recordedChange (key : String) (event : AuditEvent) : Option (String × String) :=
  match event.oldState.bind (recordedText key), event.newState.bind (recordedText key) with
  | some old, some new => some (old, new)
  | _, _ => none

/-- What an event records of the status of a task: it is an event of the task, or of one
of its leases with the status of the task next to that of the lease. -/
def statusRecord (s : Store) (taskId : TaskId) (event : AuditEvent) :
    Option (String × String) :=
  if event.entityType = "task" ∧ event.entityId = taskId then
    recordedChange "status" event
  else if event.entityType = "task-lease" ∧
      (s.findLease event.entityId).map TaskLease.taskId = some taskId then
    recordedChange "taskStatus" event
  else
    none

/-- The changes of the status of a task that the audit events record, in their order. -/
def statusTrail (s : Store) (taskId : TaskId) : List (String × String) :=
  s.auditEvents.filterMap (statusRecord s taskId)

/-- The stored status of a task; a task that is not stored yet will be BACKLOG. -/
def storedLabel (s : Store) (taskId : TaskId) : String :=
  match s.findTask taskId with
  | some task => task.status.label
  | none => TaskStatus.backlog.label

section StoredLabel

variable {s s' : Store} {taskId : TaskId} {task : Task}

theorem storedLabel_of_find (h : s.findTask taskId = some task) :
    storedLabel s taskId = task.status.label := by
  unfold storedLabel
  rw [h]

theorem storedLabel_of_find_eq (h : s'.findTask taskId = s.findTask taskId) :
    storedLabel s' taskId = storedLabel s taskId := by
  unfold storedLabel
  rw [h]

theorem storedLabel_of_tasks_eq (h : s'.tasks = s.tasks) (taskId : TaskId) :
    storedLabel s' taskId = storedLabel s taskId :=
  storedLabel_of_find_eq (Store.findTask_of_tasks_eq h taskId)

variable {version : Nat} {data : TaskUpdate}

theorem storedLabel_of_write (hfind : s.findTask taskId = some task)
    (htasks : s'.tasks = (s.writeTask taskId version data).tasks) :
    storedLabel s' taskId = (data.status.getD task.status).label := by
  have hwritten : s'.findTask taskId = some (data.apply version task) := by
    rw [Store.findTask_of_tasks_eq htasks, Store.findTask_writeTask_self, hfind]
    rfl
  exact storedLabel_of_find hwritten

theorem storedLabel_of_write_other {id : TaskId}
    (htasks : s'.tasks = (s.writeTask taskId version data).tasks) (hid : id ≠ taskId) :
    storedLabel s' id = storedLabel s id := by
  apply storedLabel_of_find_eq
  rw [Store.findTask_of_tasks_eq htasks, Store.findTask_writeTask_of_ne hid]

theorem storedLabel_of_edit (hfind : s.findTask taskId = some task)
    (htasks : s'.tasks = (s.writeTask taskId version data).tasks)
    (hdata : data.status = none) (id : TaskId) :
    storedLabel s' id = storedLabel s id := by
  by_cases hid : id = taskId
  · rw [hid, storedLabel_of_write hfind htasks, storedLabel_of_find hfind, hdata]
    rfl
  · exact storedLabel_of_write_other htasks hid

end StoredLabel

/-!
## What a transaction records
-/

def KeepsLeases (s s' : Store) : Prop :=
  forall leaseId lease, s.findLease leaseId = some lease ->
    exists lease', s'.findLease leaseId = some lease' ∧ lease'.taskId = lease.taskId

theorem keepsLeases_of_leases_eq {s s' : Store} (h : s'.taskLeases = s.taskLeases) :
    KeepsLeases s s' := by
  intro leaseId lease hlease
  refine ⟨lease, ?_, rfl⟩
  rw [Store.findLease_of_leases_eq h]
  exact hlease

theorem keepsLeases_of_perform {r : Request} {s s' : Store} (h : perform s r = .ok s') :
    KeepsLeases s s' := by
  cases Leasing.leaseEffect_of_perform h with
  | unchanged hleases =>
      exact keepsLeases_of_leases_eq hleases
  | created new hnew _ _ _ hother =>
      intro leaseId lease hlease
      refine ⟨lease, ?_, rfl⟩
      rw [hother leaseId]
      · exact hlease
      · intro hid
        rw [hid, hnew] at hlease
        cases hlease
  | moved movedId moved target data _ _ _ _ _ hleases =>
      intro leaseId lease hlease
      rw [Store.findLease_of_leases_eq hleases]
      by_cases hid : leaseId = movedId
      · refine ⟨data.apply lease, ?_, rfl⟩
        rw [hid] at hlease ⊢
        rw [Store.findLease_writeLease_self, hlease]
        rfl
      · refine ⟨lease, ?_, rfl⟩
        rw [Store.findLease_writeLease_of_ne hid]
        exact hlease

def OfStoredLease (s : Store) (event : AuditEvent) : Prop :=
  event.entityType = "task-lease" -> (s.findLease event.entityId).isSome = true

/-- A transaction adds its events to the trail: whatever it does to the status of a task,
they record, once and in an event of the entity. -/
structure RecordsChanges (entity : String) (events : List AuditEvent) (s s' : Store) :
    Prop where
  auditEvents : s'.auditEvents = s.auditEvents ++ events
  tasks : AdvancesTasks s s'
  leases : KeepsLeases s s'
  ofStoredLease : forall event, event ∈ events -> OfStoredLease s event
  entity : forall event, event ∈ events -> forall taskId,
    statusRecord s taskId event ≠ none -> event.entityType = entity
  changes : forall taskId, Logs (storedLabel s taskId)
    (events.filterMap (statusRecord s taskId)) (storedLabel s' taskId)

structure Silent (s : Store) (event : AuditEvent) : Prop where
  record : forall taskId, statusRecord s taskId event = none
  ofStoredLease : OfStoredLease s event

structure Tells (entity : String) (taskId : TaskId) (old new : String) (s : Store)
    (event : AuditEvent) : Prop where
  type : event.entityType = entity
  record : statusRecord s taskId event = some (old, new)
  others : forall id, id ≠ taskId -> statusRecord s id event = none
  ofStoredLease : OfStoredLease s event

section Records

variable {entity : String} {s s' : Store} {taskId : TaskId} {event : AuditEvent}

variable {old new : String}

theorem silent_of_type {other : String} (htype : event.entityType = other)
    (htask : other ≠ "task") (hlease : other ≠ "task-lease") :
    Silent s event where
  record := by
    intro id
    simp [statusRecord, htype, htask, hlease]
  ofStoredLease := by
    intro h
    rw [htype] at h
    exact absurd h hlease

theorem silent_of_task (htype : event.entityType = "task")
    (hchange : recordedChange "status" event = none) :
    Silent s event where
  record := by
    intro id
    simp [statusRecord, htype, hchange]
  ofStoredLease := by
    intro hlease
    rw [htype] at hlease
    exact absurd hlease (by decide)

theorem silent_of_lease {lease : TaskLease} (hfind : s.findLease event.entityId = some lease)
    (htype : event.entityType = "task-lease")
    (hchange : recordedChange "taskStatus" event = none) :
    Silent s event where
  record := by
    intro id
    simp [statusRecord, htype, hchange]
  ofStoredLease := by
    intro _
    rw [hfind]
    rfl

theorem tells_of_task (htype : event.entityType = "task") (hid : event.entityId = taskId)
    (hchange : recordedChange "status" event = some (old, new)) :
    Tells "task" taskId old new s event where
  type := htype
  record := by
    simp [statusRecord, htype, hid, hchange]
  others := by
    intro id hne
    simp [statusRecord, htype, hid, hne.symm]
  ofStoredLease := by
    intro hlease
    rw [htype] at hlease
    exact absurd hlease (by decide)

theorem tells_of_lease {lease : TaskLease} (hfind : s.findLease event.entityId = some lease)
    (htype : event.entityType = "task-lease")
    (hchange : recordedChange "taskStatus" event = some (old, new)) :
    Tells "task-lease" lease.taskId old new s event where
  type := htype
  record := by
    simp [statusRecord, htype, hfind, hchange]
  others := by
    intro id hne
    simp [statusRecord, htype, hfind, hne.symm]
  ofStoredLease := by
    intro _
    rw [hfind]
    rfl

variable {events : List AuditEvent} (hleases : KeepsLeases s s')

include hleases

theorem recordsChanges_of_silent (htasks : AdvancesTasks s s')
    (haudit : s'.auditEvents = s.auditEvents ++ events)
    (hlabels : forall id, storedLabel s' id = storedLabel s id)
    (hsilent : forall e, e ∈ events -> Silent s e) :
    RecordsChanges entity events s s' where
  auditEvents := haudit
  tasks := htasks
  leases := hleases
  ofStoredLease := fun e he => (hsilent e he).ofStoredLease
  entity := fun e he id hrecord => absurd ((hsilent e he).record id) hrecord
  changes := by
    intro id
    left
    constructor
    · exact List.filterMap_eq_nil_iff.mpr (fun e he => (hsilent e he).record id)
    · exact (hlabels id).symm

theorem recordsChanges_of_tasks_eq (hsame : s'.tasks = s.tasks)
    (haudit : s'.auditEvents = s.auditEvents ++ events)
    (hsilent : forall e, e ∈ events -> Silent s e) :
    RecordsChanges entity events s s' :=
  recordsChanges_of_silent hleases (advancesTasks_of_tasks_eq hsame) haudit
    (storedLabel_of_tasks_eq hsame) hsilent

theorem recordsChanges_of_told {before after : List AuditEvent} (htasks : AdvancesTasks s s')
    (haudit : s'.auditEvents = s.auditEvents ++ (before ++ event :: after))
    (htold : Tells entity taskId old new s event)
    (hsilent : forall e, e ∈ before ++ after -> Silent s e) (hold : storedLabel s taskId = old)
    (hnew : storedLabel s' taskId = new)
    (hothers : forall id, id ≠ taskId -> storedLabel s' id = storedLabel s id) :
    RecordsChanges entity (before ++ event :: after) s s' := by
  have hcases : forall e, e ∈ before ++ event :: after -> e = event ∨ Silent s e := by
    intro e he
    rcases List.mem_append.mp he with he | he
    · exact Or.inr (hsilent e (List.mem_append_left _ he))
    · rcases List.mem_cons.mp he with he | he
      · exact Or.inl he
      · exact Or.inr (hsilent e (List.mem_append_right _ he))
  have hread : forall id, (before ++ event :: after).filterMap (statusRecord s id) =
      (statusRecord s id event).toList := by
    intro id
    have hbefore : before.filterMap (statusRecord s id) = [] :=
      List.filterMap_eq_nil_iff.mpr
        (fun e he => (hsilent e (List.mem_append_left _ he)).record id)
    have hafter : after.filterMap (statusRecord s id) = [] :=
      List.filterMap_eq_nil_iff.mpr
        (fun e he => (hsilent e (List.mem_append_right _ he)).record id)
    rw [List.filterMap_append, hbefore, List.filterMap_cons, hafter]
    cases statusRecord s id event <;> rfl
  constructor
  · exact haudit
  · exact htasks
  · exact hleases
  · intro e he
    rcases hcases e he with he | he
    · rw [he]
      exact htold.ofStoredLease
    · exact he.ofStoredLease
  · intro e he id hrecord
    rcases hcases e he with he | he
    · rw [he]
      exact htold.type
    · exact absurd (he.record id) hrecord
  · intro id
    rw [hread]
    by_cases hid : id = taskId
    · right
      rw [hid, htold.record, hold, hnew]
      rfl
    · left
      rw [htold.others id hid]
      exact ⟨rfl, (hothers id hid).symm⟩

end Records

theorem RecordsChanges.append {entity : String} {events more : List AuditEvent}
    {s s₁ s' : Store} (h : RecordsChanges entity events s s₁) (htasks : s'.tasks = s₁.tasks)
    (hleases : s'.taskLeases = s₁.taskLeases)
    (haudit : s'.auditEvents = s₁.auditEvents ++ more)
    (hsilent : forall e, e ∈ more -> Silent s e) :
    RecordsChanges entity (events ++ more) s s' := by
  constructor
  · rw [haudit, h.auditEvents, List.append_assoc]
  · intro id task htask
    rw [Store.findTask_of_tasks_eq htasks]
    exact h.tasks id task htask
  · intro id lease hlease
    rw [Store.findLease_of_leases_eq hleases]
    exact h.leases id lease hlease
  · intro e he
    rcases List.mem_append.mp he with he | he
    · exact h.ofStoredLease e he
    · exact (hsilent e he).ofStoredLease
  · intro e he id hrecord
    rcases List.mem_append.mp he with he | he
    · exact h.entity e he id hrecord
    · exact absurd ((hsilent e he).record id) hrecord
  · intro id
    have hrest : more.filterMap (statusRecord s id) = [] :=
      List.filterMap_eq_nil_iff.mpr (fun e he => (hsilent e he).record id)
    rw [List.filterMap_append, hrest, List.append_nil, storedLabel_of_tasks_eq htasks]
    exact h.changes id

theorem recordsChanges_refl (entity : String) (s : Store) :
    RecordsChanges entity [] s s :=
  recordsChanges_of_tasks_eq (keepsLeases_of_leases_eq rfl) rfl (List.append_nil _).symm
    (fun _ he => absurd he List.not_mem_nil)

end Auditing
end CopilotFactory
