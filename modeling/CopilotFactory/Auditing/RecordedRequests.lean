import CopilotFactory.Auditing.StatusRecords

/-!
# What the requests of the control plane record

Each request that moves a task tells its stored status and the new one, in an event of
the task.  Only a reclaim tells them in an event of the lease.
-/

namespace CopilotFactory
namespace Auditing

open Foundations
open Domain
open Infrastructure
open Application
open ControlPlane

variable {actor : ActorInfo} {result : OperatorActionResult}

/-- The entity whose event tells the status that a request changes. -/
def auditedEntity : Request -> String
  | .reclaimLease _ => "task-lease"
  | _ => "task"

variable {s s' : Store} {taskId : TaskId} {task : Task} {event : AuditEvent}

theorem recordsChanges_of_write {entity : String} {data : TaskUpdate}
    {before after : List AuditEvent} (hfind : s.findTask taskId = some task)
    (htasks : s'.tasks = (s.writeTask taskId (task.version + 1) data).tasks)
    (hleases : KeepsLeases s s')
    (haudit : s'.auditEvents = s.auditEvents ++ (before ++ event :: after))
    (htold : Tells entity taskId task.status.label (data.status.getD task.status).label s
      event)
    (hsilent : forall e, e ∈ before ++ after -> Silent s e) :
    RecordsChanges entity (before ++ event :: after) s s' := by
  have hadvances : AdvancesTasks s s' :=
    (TaskEffect.written taskId task data hfind htasks).advancesTasks
  exact recordsChanges_of_told hleases hadvances haudit htold hsilent
    (storedLabel_of_find hfind) (storedLabel_of_write hfind htasks)
    (fun _ hid => storedLabel_of_write_other htasks hid)

theorem recordsChanges_of_only {entity : String} {data : TaskUpdate}
    (hfind : s.findTask taskId = some task)
    (htasks : s'.tasks = (s.writeTask taskId (task.version + 1) data).tasks)
    (hleases : KeepsLeases s s') (haudit : s'.auditEvents = s.auditEvents ++ [event])
    (htold : Tells entity taskId task.status.label (data.status.getD task.status).label s
      event) :
    RecordsChanges entity [event] s s' := by
  have hnone : forall e, e ∈ ([] : List AuditEvent) ++ [] -> Silent s e :=
    fun e he => absurd he List.not_mem_nil
  exact @recordsChanges_of_write s s' taskId task event entity data [] [] hfind htasks hleases
    haudit htold hnone

/-!
## Tasks
-/

theorem createTask_records {new : Task} (h : s.createTask new = .ok s')
    (hbacklog : new.status = .backlog) (entity : String) :
    RecordsChanges entity [] s s' := by
  rcases Store.createTask_spec h with ⟨hnew, hleases, hself, hother⟩
  have hadvances : AdvancesTasks s s' :=
    (TaskEffect.created new hnew hbacklog hself hother).advancesTasks
  apply recordsChanges_of_silent (keepsLeases_of_leases_eq hleases) hadvances
  · rw [Store.createTask_auditEvents h, List.append_nil]
  · intro id
    by_cases hid : id = new.taskId
    · -- A task that is not stored yet counts as BACKLOG.
      unfold storedLabel
      rw [hid, hself, hnew]
      exact congrArg TaskStatus.label hbacklog
    · exact storedLabel_of_find_eq (hother id hid)
  · intro e he
    cases he

theorem updateTask_records {dto : UpdateTaskDto} {result : Option Task}
    (h : updateTask taskId dto s = .ok (s', result)) :
    RecordsChanges "task" [] s s' := by
  rcases updateTask_spec h with hs' | ⟨found, hfind, _, hs'⟩
  · rw [hs']
    exact recordsChanges_refl _ _
  · have htasks : s'.tasks =
        (s.writeTask taskId (found.version + 1) (editedColumns dto)).tasks := by
      rw [hs']
    have hleases : s'.taskLeases = s.taskLeases := by
      rw [hs']
      rfl
    apply recordsChanges_of_silent (keepsLeases_of_leases_eq hleases)
      (TaskEffect.written taskId found _ hfind htasks).advancesTasks
    · rw [hs', List.append_nil]
      rfl
    · exact storedLabel_of_edit hfind htasks rfl
    · intro e he
      cases he

theorem recordedText_statusVersion (status : TaskStatus) (version : Nat) :
    recordedText "status" (auditStatusVersion status version) = some status.label := by
  simp [recordedText, auditStatusVersion]

theorem transitionTask_records {target : TaskStatus} {context : TransitionContext}
    (h : transitionTask taskId target context actor s = .ok (s', event)) :
    RecordsChanges "task" [event] s s' := by
  rcases transitionTask_eq_ok.mp h with ⟨found, hfind, _, hs', hevent⟩
  have htasks : s'.tasks =
      (s.writeTask taskId (found.version + 1) { status := some target }).tasks := by
    rw [hs']
    rfl
  apply recordsChanges_of_only hfind htasks
  · apply keepsLeases_of_leases_eq
    rw [hs']
    rfl
  · rw [hs']
    rfl
  · apply tells_of_task
    · rw [hevent]
    · rw [hevent]
    · simp [hevent, recordedChange, recordedText_statusVersion]

theorem executeTransitionAction_records {target : TaskStatus} {context : TransitionContext}
    (h : executeTransitionAction taskId target context actor s = .ok (s', result)) :
    exists events, RecordsChanges "task" events s s' := by
  rcases executeTransitionAction_spec h with ⟨told, htransition⟩
  exact ⟨[told], transitionTask_records htransition⟩

theorem executeOverrideAction_records {target : TaskStatus} {sources : List TaskStatus}
    {actorId action : String}
    (h : executeOverrideAction taskId target sources actorId action s = .ok (s', result)) :
    RecordsChanges "task" [result.auditEvent] s s' := by
  simp only [executeOverrideAction, bind_eq_ok, orThrow_eq_ok, ensure_eq_ok, pure_eq_ok,
    Prod.mk.injEq] at h
  rcases h with ⟨found, hfind, _, _, s₁, hupdate, hs', hresult⟩
  rw [Store.updateTask_of_find hfind] at hupdate
  cases hupdate
  have htasks : s'.tasks =
      (s.writeTask taskId (found.version + 1) (overrideUpdate target)).tasks := by
    rw [← hs']
    rfl
  have htarget : (overrideUpdate target).status = some target := by
    unfold overrideUpdate
    split <;> rfl
  apply recordsChanges_of_only hfind htasks
  · apply keepsLeases_of_leases_eq
    rw [← hs']
    rfl
  · rw [← hs', ← hresult]
    rfl
  · rw [← hresult]
    apply tells_of_task
    · rfl
    · rfl
    · simp [recordedChange, recordedText_statusVersion, htarget]

theorem changePriority_records {priority actorId : String}
    (h : changePriority taskId priority actorId s = .ok (s', result)) :
    RecordsChanges "task" [result.auditEvent] s s' := by
  simp only [changePriority, bind_eq_ok, orThrow_eq_ok, pure_eq_ok, Prod.mk.injEq] at h
  rcases h with ⟨found, hfind, s₁, hupdate, hs', hresult⟩
  rw [Store.updateTask_of_find hfind] at hupdate
  cases hupdate
  have htasks : s'.tasks =
      (s.writeTask taskId (found.version + 1) { priority := some priority }).tasks := by
    rw [← hs']
    rfl
  have hleases : s'.taskLeases = s.taskLeases := by
    rw [← hs']
    rfl
  apply recordsChanges_of_silent (keepsLeases_of_leases_eq hleases)
    (TaskEffect.written taskId found _ hfind htasks).advancesTasks
  · rw [← hs', ← hresult]
    rfl
  · exact storedLabel_of_edit hfind htasks rfl
  · intro e he
    rw [List.mem_singleton.mp he, ← hresult]
    apply silent_of_task
    · rfl
    · simp [recordedChange, recordedText, List.lookup_cons]

theorem recordPool_audit (dto : ResolveEscalationDto) (s : Store) :
    exists events, (recordPool taskId dto s).auditEvents = s.auditEvents ++ events ∧
      (recordPool taskId dto s).taskLeases = s.taskLeases ∧
      forall e, e ∈ events -> forall s₀, Silent s₀ e := by
  have hnone : s.auditEvents = s.auditEvents ++ [] := (List.append_nil _).symm
  unfold recordPool
  split
  · exact ⟨[], hnone, rfl, fun e he => absurd he List.not_mem_nil⟩
  · rename_i poolId _
    split
    · exact ⟨[], hnone, rfl, fun e he => absurd he List.not_mem_nil⟩
    · refine ⟨[reassignPoolAudit taskId poolId dto.actorId], rfl, rfl, ?_⟩
      intro e he s₀
      rw [List.mem_singleton.mp he]
      exact silent_of_task rfl rfl

theorem resolveEscalation_records {dto : ResolveEscalationDto}
    (h : resolveEscalation taskId dto s = .ok (s', result)) :
    exists events, RecordsChanges "task" events s s' := by
  rcases resolveEscalation_spec h with ⟨_, s₁, _, haction, hs'⟩ | ⟨_, target, _, haction⟩
  · rcases executeTransitionAction_records haction with ⟨events, hrecords⟩
    rcases @recordPool_audit taskId dto s₁ with ⟨more, hmore, hleases, hsilent⟩
    rw [hs']
    exact ⟨events ++ more, hrecords.append (recordPool_tasks taskId dto s₁) hleases hmore
      (fun e he => hsilent e he s)⟩
  · exact executeTransitionAction_records haction

/-!
## Leases
-/

theorem acquireLease_records {now : Millis} {leaseId : LeaseId}
    {params : AcquireLeaseParams} {result : LeaseAcquisitionResult}
    (hleases : KeepsLeases s s')
    (h : acquireLease now leaseId params s = .ok (s', result)) :
    RecordsChanges "task" [result.auditEvent] s s' := by
  rcases acquireLease_spec h with ⟨task, _, hfind, _, _, _, htasks, _⟩
  simp only [acquireLease, bind_eq_ok, orThrow_eq_ok, ensure_eq_ok, refuse_eq_ok,
    commitTransition_eq_ok, pure_eq_ok, Prod.mk.injEq] at h
  rcases h with ⟨found, hfound, _, _, _, _, _, _, s₁, hcreate, s₂, hupdate, hs',
    hresult⟩
  rw [hfind] at hfound
  cases hfound
  rcases Store.updateTask_eq_ok.mp hupdate with ⟨_, _, _, hs₂⟩
  apply recordsChanges_of_only hfind htasks hleases
  · rw [← hs', ← hresult, Store.appendAudit_auditEvents, hs₂, Store.writeTask_auditEvents,
      (Store.createLease_tables hcreate).2.2.2]
  · rw [← hresult]
    apply tells_of_task
    · rfl
    · rfl
    · simp [recordedChange, recordedText]

theorem transitionLease_records {leaseId : LeaseId} {target : WorkerLeaseStatus}
    {context : WorkerLeaseTransitionContext} (hleases : KeepsLeases s s')
    (h : transitionLease leaseId target context actor s = .ok (s', event)) :
    RecordsChanges "task" [event] s s' := by
  simp only [transitionLease, bind_eq_ok, orThrow_eq_ok, pure_eq_ok, Prod.mk.injEq] at h
  rcases h with ⟨lease, hlease, _, _, s₁, hupdate, hs', hevent⟩
  rw [Store.updateLease_of_find hlease] at hupdate
  cases hupdate
  have htasks : s'.tasks = s.tasks := by
    rw [← hs']
    rfl
  apply recordsChanges_of_tasks_eq hleases htasks
  · rw [← hs', hevent]
    rfl
  · intro e he
    rw [List.mem_singleton.mp he, ← hevent]
    apply silent_of_lease hlease
    · rfl
    · simp [recordedChange, recordedText, List.lookup_cons]

theorem receiveHeartbeat_records {now : Millis} {params : ReceiveHeartbeatParams}
    {result : ReceiveHeartbeatResult} (hleases : KeepsLeases s s')
    (h : receiveHeartbeat now params s = .ok (s', result)) :
    RecordsChanges "task" [result.auditEvent] s s' := by
  simp only [receiveHeartbeat, bind_eq_ok, orThrow_eq_ok, pure_eq_ok, Prod.mk.injEq] at h
  rcases h with ⟨lease, hlease, _, _, _, _, s₁, hupdate, hs', hresult⟩
  rw [Store.updateLease_of_find hlease] at hupdate
  cases hupdate
  have htasks : s'.tasks = s.tasks := by
    rw [← hs']
    rfl
  apply recordsChanges_of_tasks_eq hleases htasks
  · rw [← hs', ← hresult]
    rfl
  · intro e he
    rw [List.mem_singleton.mp he, ← hresult]
    apply silent_of_lease hlease
    · rfl
    · simp [recordedChange, recordedText, auditHeartbeat, List.lookup_cons]

theorem recordedText_reclaim (status : WorkerLeaseStatus) (task : Task)
    (rest : List (String × AuditValue)) :
    recordedText "taskStatus" (auditReclaim status task rest) = some task.status.label := by
  simp [recordedText, auditReclaim, List.lookup_cons]

/-- A reclaim tells the status of its task whether it moves the task or not. -/
theorem reclaimLease_records {params : ReclaimLeaseParams} {result : ReclaimLeaseResult}
    (hleases : KeepsLeases s s') (h : reclaimLease params s = .ok (s', result)) :
    RecordsChanges "task-lease" [result.auditEvent] s s' := by
  simp only [reclaimLease, bind_eq_ok, orThrow_eq_ok] at h
  rcases h with ⟨lease, hlease, _, _, _, _, s₁, hupdate, found, hfound, h⟩
  rw [Store.updateLease_of_find hlease] at hupdate
  cases hupdate
  have hfind : s.findTask lease.taskId = some found := hfound
  split at h
  · simp only [pure_eq_ok, Prod.mk.injEq] at h
    rcases h with ⟨hs', hresult⟩
    have htasks : s'.tasks = s.tasks := by
      rw [← hs']
      rfl
    have hnone : forall e, e ∈ ([] : List AuditEvent) ++ [] -> Silent s e :=
      fun e he => absurd he List.not_mem_nil
    apply recordsChanges_of_told hleases (advancesTasks_of_tasks_eq htasks) _ _ hnone
      (storedLabel_of_find hfind)
      ((storedLabel_of_tasks_eq htasks lease.taskId).trans (storedLabel_of_find hfind))
      (fun id _ => storedLabel_of_tasks_eq htasks id)
    · rw [← hs', ← hresult]
      rfl
    · rw [← hresult]
      apply tells_of_lease hlease
      · rfl
      · simp [recordedChange, reclaimAuditEvent, recordedText_reclaim]
  · simp only [bind_eq_ok, pure_eq_ok, Prod.mk.injEq] at h
    rcases h with ⟨_, _, s₂, hwrite, hs', hresult⟩
    rcases Store.updateTask_eq_ok.mp hwrite with ⟨_, _, _, hs₂⟩
    rw [Store.taskId_of_findTask hfind] at hs₂
    have htasks : s'.tasks = (s.writeTask lease.taskId (found.version + 1)
        (reclaimTaskUpdate (evaluateTaskOutcome found params.retryPolicy
          params.escalationPolicy params.hasFailureSummary))).tasks := by
      rw [← hs', hs₂]
      rfl
    apply recordsChanges_of_only hfind htasks hleases
    · rw [← hs', hs₂, ← hresult]
      rfl
    · rw [← hresult]
      apply tells_of_lease hlease
      · rfl
      · simp [recordedChange, reclaimAuditEvent, recordedText_reclaim]

/-!
## Every request
-/

theorem perform_records {r : Request} (h : perform s r = .ok s') :
    exists events, RecordsChanges (auditedEntity r) events s s' := by
  have hleases := keepsLeases_of_perform h
  cases r with
  | createWorkerPool pool =>
      have htasks := (Store.createWorkerPool_spec h).1
      refine ⟨[], recordsChanges_of_tasks_eq hleases htasks ?_ ?_⟩
      · rw [Store.createWorkerPool_auditEvents h, List.append_nil]
      · intro e he
        cases he
  | createTask dto =>
      exact ⟨[], createTask_records h rfl _⟩
  | updateTask taskId dto =>
      rcases committed_eq_ok.mp h with ⟨result, h⟩
      exact ⟨[], updateTask_records h⟩
  | acquireLease now leaseId params =>
      rcases committed_eq_ok.mp h with ⟨result, h⟩
      exact ⟨_, acquireLease_records hleases h⟩
  | transitionLease leaseId targetStatus context actor =>
      rcases committed_eq_ok.mp h with ⟨result, h⟩
      exact ⟨_, transitionLease_records hleases h⟩
  | receiveHeartbeat now params =>
      rcases committed_eq_ok.mp h with ⟨result, h⟩
      exact ⟨_, receiveHeartbeat_records hleases h⟩
  | reclaimLease params =>
      rcases committed_eq_ok.mp h with ⟨result, h⟩
      exact ⟨_, reclaimLease_records hleases h⟩
  | transitionTask taskId targetStatus context actor =>
      rcases committed_eq_ok.mp h with ⟨event, h⟩
      exact ⟨[event], transitionTask_records h⟩
  | pause taskId actorId | requeue taskId actorId =>
      rcases committed_eq_ok.mp h with ⟨result, h⟩
      exact executeTransitionAction_records h
  | resume taskId actorId =>
      rcases committed_eq_ok.mp h with ⟨result, h⟩
      rcases bind_eq_ok.mp h with ⟨_, _, h⟩
      rcases bind_eq_ok.mp h with ⟨_, _, h⟩
      exact executeTransitionAction_records h
  | forceUnblock taskId actorId reason | cancel taskId actorId acknowledge =>
      rcases committed_eq_ok.mp h with ⟨result, h⟩
      rcases bind_eq_ok.mp h with ⟨_, _, h⟩
      exact executeTransitionAction_records h
  | resolveEscalation taskId dto =>
      rcases committed_eq_ok.mp h with ⟨result, h⟩
      exact resolveEscalation_records h
  | changePriority taskId priority actorId =>
      rcases committed_eq_ok.mp h with ⟨result, h⟩
      exact ⟨_, changePriority_records h⟩
  | rerunReview taskId actorId =>
      rcases committed_eq_ok.mp h with ⟨result, h⟩
      exact ⟨_, executeOverrideAction_records h⟩
  | reopen taskId actorId =>
      rcases committed_eq_ok.mp h with ⟨result, h⟩
      rcases bind_eq_ok.mp h with ⟨_, _, h⟩
      exact ⟨_, executeOverrideAction_records h⟩

end Auditing
end CopilotFactory
