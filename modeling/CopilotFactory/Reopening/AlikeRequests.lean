import CopilotFactory.Reopening.AlikeStores

/-!
# Requests of two alike stores

Every request of the control plane that names no version and no lease of the earlier life
is accepted by both of two alike stores or by none, and leaves them alike.
-/

namespace CopilotFactory
namespace Reopening

open Foundations
open Domain
open Infrastructure
open Application
open ControlPlane

variable {policies : FixedPolicies} {remains : Remains} {s t : Store} {task task' : Task}

variable {leaseId : LeaseId}

theorem lockstep_commitTransition {entityType entityId fromStatus toStatus : String}
    {entityType' entityId' fromStatus' toStatus' : String}
    {verdict verdict' : TransitionResult} (h : verdict = verdict') :
    Lockstep Eq (commitTransition entityType entityId fromStatus toStatus verdict)
      (commitTransition entityType' entityId' fromStatus' toStatus' verdict') := by
  rw [h]
  cases verdict' with
  | valid =>
      rfl
  | reject reason =>
      trivial

theorem lockstep_committed {α : Type} {x y : Except ServiceError (Store × α)}
    (h : Lockstep (AlikeCommits policies remains) x y) :
    Lockstep (AlikeStores policies remains) (committed x) (committed y) :=
  h.map (fun _ _ hcommits => hcommits)

/-!
## Transitions
-/

theorem lockstep_transitionTask (h : AlikeStores policies remains s t) (taskId : TaskId)
    (targetStatus : TaskStatus) (context : TransitionContext) (actor : ActorInfo) :
    Lockstep (AlikeCommits policies remains)
      (transitionTask taskId targetStatus context actor s)
      (transitionTask taskId targetStatus context actor t) := by
  unfold transitionTask
  refine (lockstep_orThrow (h.findTask_rel taskId)).bind ?_
  rintro task task' ⟨hs, ht, hsame⟩
  refine (lockstep_commitTransition (by rw [hsame.status])).bind ?_
  intro _ _ _
  refine (h.updateTask hs ht (hsame.apply_uncounted rfl rfl)).bind ?_
  intro s₁ t₁ h₁
  exact lockstep_pure (h₁.appendAudit _ _)

/-!
## Leases
-/

theorem not_running_of_finished {lease : TaskLease} (h : FinishedLease remains lease) :
    lease.status ∉ heartbeatReceivableStates ∧ lease.status ∉ reclaimableStates := by
  rcases (Store.label_mem_terminal_iff lease.status).mp h.1 with hstatus | hstatus | hstatus
  · rw [hstatus]
    decide
  · rw [hstatus]
    decide
  · rw [hstatus]
    decide

/-- A call that needs a lease in a status which the lease of the earlier life cannot have is
refused twice: once for the status, and once because the lease is gone. -/
theorem lockstep_of_old_lease {α : Type} {P : α -> α -> Prop}
    (h : AlikeStores policies remains s t) (hold : leaseId ∈ remains.leases)
    {call : Store -> Except ServiceError α} {accepts : TaskLease -> Prop}
    (hneeds : forall {store r}, call store = .ok r ->
      exists lease, store.findLease leaseId = some lease ∧ accepts lease)
    (hrefused : forall lease, lease.leaseId = leaseId -> FinishedLease remains lease ->
      ¬ accepts lease) :
    Lockstep P (call s) (call t) := by
  rcases h.findLease_old hold with ⟨hfinished, hgone⟩
  apply lockstep_of_refused
  · intro r hok
    rcases hneeds hok with ⟨lease, hlease, haccepts⟩
    exact hrefused lease (Table.key_of_find? hlease) (hfinished lease hlease) haccepts
  · intro r hok
    rcases hneeds hok with ⟨lease, hlease, _⟩
    rw [hgone] at hlease
    cases hlease

theorem lockstep_transitionLease (h : AlikeStores policies remains s t)
    (hleft : leaseId ∉ remains.movableLeases) (targetStatus : WorkerLeaseStatus)
    (context : WorkerLeaseTransitionContext) (actor : ActorInfo) :
    Lockstep (AlikeCommits policies remains)
      (transitionLease leaseId targetStatus context actor s)
      (transitionLease leaseId targetStatus context actor t) := by
  by_cases hold : leaseId ∈ remains.leases
  · have hneeds : forall {store r},
        transitionLease leaseId targetStatus context actor store = .ok r ->
        exists lease, store.findLease leaseId = some lease ∧
          validateWorkerLeaseTransition lease.status targetStatus context = .valid := by
      rintro store ⟨s', event⟩ hok
      rcases transitionLease_spec hok with ⟨lease, hlease, hvalid, _⟩
      exact ⟨lease, hlease, hvalid⟩
    apply lockstep_of_old_lease h hold hneeds
    intro lease hid hfinished
    have hterminal := hfinished.2 (by rw [hid]; exact hleft)
    exact (WorkerLease.isTerminal_iff_no_transition _).mp hterminal _ _
  · unfold transitionLease
    refine (lockstep_orThrow (h.leases leaseId hold)).bind ?_
    rintro lease _ ⟨hs, ht, rfl⟩
    refine (lockstep_commitTransition rfl).bind ?_
    intro _ _ _
    refine (h.updateLease hold hs ht _).bind ?_
    intro s₁ t₁ h₁
    exact lockstep_pure (h₁.appendAudit _ _)

theorem lockstep_acquireLease (h : AlikeStores policies remains s t) (now : Millis)
    (hnew : leaseId ∉ remains.leases) (params : AcquireLeaseParams) :
    Lockstep (AlikeCommits policies remains) (acquireLease now leaseId params s)
      (acquireLease now leaseId params t) := by
  unfold acquireLease
  refine (lockstep_orThrow (h.findTask_rel params.taskId)).bind ?_
  rintro task task' ⟨hs, ht, hsame⟩
  refine (lockstep_ensure (by rw [hsame.status])).bind ?_
  intro _ _ _
  refine (lockstep_refuse (h.findActiveByTaskId_iff params.taskId)).bind ?_
  intro _ _ _
  refine (lockstep_commitTransition (by rw [hsame.status])).bind ?_
  intro _ _ _
  refine (Lockstep.told (h.createLease hnew)).bind ?_
  rintro s₁ t₁ ⟨hs₁, ht₁, h₁⟩
  have hfind : s₁.findTask params.taskId = some task := by
    rw [Store.findTask_of_tasks_eq (Store.createLease_spec hs₁).2.1]
    exact hs
  have hfind' : t₁.findTask params.taskId = some task' := by
    rw [Store.findTask_of_tasks_eq (Store.createLease_spec ht₁).2.1]
    exact ht
  refine (h₁.updateTask hfind hfind' (hsame.apply_uncounted rfl rfl)).bind ?_
  intro s₂ t₂ h₂
  exact lockstep_pure (h₂.appendAudit _ _)

theorem lockstep_receiveHeartbeat (h : AlikeStores policies remains s t) (now : Millis)
    (params : ReceiveHeartbeatParams) :
    Lockstep (AlikeCommits policies remains) (receiveHeartbeat now params s)
      (receiveHeartbeat now params t) := by
  by_cases hold : params.leaseId ∈ remains.leases
  · apply lockstep_of_old_lease h hold
    · intro store r hok
      exact receiveHeartbeat_accepted_iff.mp ⟨r, hok⟩
    · intro lease _ hfinished
      exact (not_running_of_finished hfinished).1
  · unfold receiveHeartbeat
    refine (lockstep_orThrow (h.leases params.leaseId hold)).bind ?_
    rintro lease _ ⟨hs, ht, rfl⟩
    refine (lockstep_ensure Iff.rfl).bind ?_
    intro _ _ _
    refine (lockstep_commitTransition rfl).bind ?_
    intro _ _ _
    refine (h.updateLease hold hs ht _).bind ?_
    intro s₁ t₁ h₁
    exact lockstep_pure (h₁.appendAudit _ _)

/-!
### Reclaims
-/

theorem evaluateTaskOutcome_same (h : SameTask policies task task')
    (escalationPolicy : EscalationPolicy) (hasFailureSummary : Bool) :
    let outcome := evaluateTaskOutcome task policies.retryPolicy escalationPolicy
      hasFailureSummary
    let outcome' := evaluateTaskOutcome task' policies.retryPolicy escalationPolicy
      hasFailureSummary
    outcome.targetStatus = outcome'.targetStatus ∧
      (outcome.newRetryCount = outcome'.newRetryCount ∨
        policies.retryPolicy.maxAttempts = 0) := by
  rcases h.counters.retries with hequal | hnever
  · unfold evaluateTaskOutcome
    rw [hequal]
    exact ⟨rfl, Or.inl rfl⟩
  · have hno : forall retryCount,
        (shouldRetry { retryCount := retryCount, hasFailureSummary := hasFailureSummary }
          policies.retryPolicy).eligible = false := by
      intro retryCount
      apply Bool.eq_false_iff.mpr
      intro heligible
      have hlt := ((shouldRetry_eligible_iff _ _).mp heligible).1
      rw [hnever] at hlt
      exact absurd hlt (Nat.not_lt_zero _)
    unfold evaluateTaskOutcome
    simp only [hno]
    exact ⟨rfl, Or.inr hnever⟩

theorem lockstep_reclaimLease (h : AlikeStores policies remains s t)
    {params : ReclaimLeaseParams} (hpolicy : params.retryPolicy = policies.retryPolicy) :
    Lockstep (AlikeCommits policies remains) (reclaimLease params s)
      (reclaimLease params t) := by
  by_cases hold : params.leaseId ∈ remains.leases
  · apply lockstep_of_old_lease h hold
    · intro store r hok
      exact (reclaimLease_accepted_iff params store).mp ⟨r, hok⟩
    · intro lease _ hfinished
      exact (not_running_of_finished hfinished).2
  · unfold reclaimLease
    refine (lockstep_orThrow (h.leases params.leaseId hold)).bind ?_
    rintro lease _ ⟨hs, ht, rfl⟩
    refine (lockstep_ensure Iff.rfl).bind ?_
    intro _ _ _
    refine (lockstep_commitTransition rfl).bind ?_
    intro _ _ _
    refine (h.updateLease hold hs ht _).bind ?_
    intro s₁ t₁ h₁
    refine (lockstep_orThrow (h₁.findTask_rel lease.taskId)).bind ?_
    rintro task task' ⟨hs₁, ht₁, hsame⟩
    apply lockstep_ite (by rw [hsame.status])
    · intro _ _
      exact lockstep_pure (h₁.appendAudit _ _)
    · intro _ _
      rw [hpolicy, Store.taskId_of_findTask hs₁, Store.taskId_of_findTask ht₁]
      rcases evaluateTaskOutcome_same hsame params.escalationPolicy
        params.hasFailureSummary with ⟨htarget, hcount⟩
      refine (lockstep_commitTransition (by rw [hsame.status, htarget])).bind ?_
      intro _ _ _
      refine (h₁.updateTask hs₁ ht₁ (hsame.apply ?_ ?_)).bind ?_
      · unfold uncountedUpdate reclaimTaskUpdate
        rw [htarget]
      · exact ⟨hcount, hsame.counters.rounds⟩
      · intro s₂ t₂ h₂
        exact lockstep_pure (h₂.appendAudit _ _)

/-!
## Operator actions
-/

theorem lockstep_executeTransitionAction (h : AlikeStores policies remains s t)
    (taskId : TaskId) (targetStatus : TaskStatus) (context : TransitionContext)
    (actor : ActorInfo) :
    Lockstep (AlikeCommits policies remains)
      (executeTransitionAction taskId targetStatus context actor s)
      (executeTransitionAction taskId targetStatus context actor t) := by
  unfold executeTransitionAction
  refine (lockstep_transitionTask h taskId targetStatus context actor).mapError.bind ?_
  intro x y h₁
  refine (lockstep_orThrow (h₁.findTask_rel taskId)).bind ?_
  intro _ _ _
  exact lockstep_pure h₁

/-- A guard on the task: it passes both tasks or none. -/
theorem lockstep_guard (h : AlikeStores policies remains s t) (taskId : TaskId)
    {guard guard' : Task -> Except ServiceError Unit}
    (hguard : forall task task', SameTask policies task task' ->
      Lockstep Eq (guard task) (guard' task')) :
    Lockstep Eq
      (match s.findTask taskId with
        | none => .ok ()
        | some task => guard task)
      (match t.findTask taskId with
        | none => .ok ()
        | some task => guard' task) := by
  rcases h.task_cases taskId with ⟨hs, ht⟩ | ⟨task, task', hs, ht, hsame⟩
  · rw [hs, ht]
    rfl
  · rw [hs, ht]
    exact hguard task task' hsame

theorem lockstep_resume (h : AlikeStores policies remains s t) (taskId : TaskId)
    (actorId : String) :
    Lockstep (AlikeCommits policies remains) (resume taskId actorId s)
      (resume taskId actorId t) := by
  unfold resume
  refine (lockstep_orThrow (h.findTask_rel taskId)).bind ?_
  rintro task task' ⟨_, _, hsame⟩
  refine (lockstep_ensure (by rw [hsame.status])).bind ?_
  intro _ _ _
  exact lockstep_executeTransitionAction h _ _ _ _

theorem lockstep_forceUnblock (h : AlikeStores policies remains s t) (taskId : TaskId)
    (actorId reason : String) :
    Lockstep (AlikeCommits policies remains) (forceUnblock taskId actorId reason s)
      (forceUnblock taskId actorId reason t) := by
  unfold forceUnblock
  have hguard : Lockstep Eq (guardForceUnblock s taskId reason)
      (guardForceUnblock t taskId reason) := by
    unfold guardForceUnblock
    refine (lockstep_ensure Iff.rfl).bind ?_
    intro _ _ _
    apply lockstep_guard h
    intro task task' hsame
    exact lockstep_ensure (by rw [hsame.status])
  refine hguard.bind ?_
  intro _ _ _
  exact lockstep_executeTransitionAction h _ _ _ _

theorem lockstep_cancel (h : AlikeStores policies remains s t) (taskId : TaskId)
    (actorId : String) (acknowledgeInProgressWork : Bool) :
    Lockstep (AlikeCommits policies remains)
      (cancel taskId actorId acknowledgeInProgressWork s)
      (cancel taskId actorId acknowledgeInProgressWork t) := by
  unfold cancel
  have hguard : Lockstep Eq (guardCancel s taskId acknowledgeInProgressWork)
      (guardCancel t taskId acknowledgeInProgressWork) := by
    unfold guardCancel
    apply lockstep_guard h
    intro task task' hsame
    refine (lockstep_ensure (by rw [hsame.status])).bind ?_
    intro _ _ _
    exact lockstep_ensure (by rw [hsame.status])
  refine hguard.bind ?_
  intro _ _ _
  exact lockstep_executeTransitionAction h _ _ _ _

theorem alikeStores_recordPool (h : AlikeStores policies remains s t) (taskId : TaskId)
    (dto : ResolveEscalationDto) :
    AlikeStores policies remains (recordPool taskId dto s) (recordPool taskId dto t) := by
  unfold recordPool
  cases dto.poolId with
  | none =>
      exact h
  | some poolId =>
      dsimp only
      split
      · exact h
      · exact h.appendAudit _ _

theorem lockstep_resolveEscalation (h : AlikeStores policies remains s t) (taskId : TaskId)
    (dto : ResolveEscalationDto) :
    Lockstep (AlikeCommits policies remains) (resolveEscalation taskId dto s)
      (resolveEscalation taskId dto t) := by
  unfold resolveEscalation
  have hguard : Lockstep Eq (guardResolveEscalation s taskId dto.resolutionType dto.evidence)
      (guardResolveEscalation t taskId dto.resolutionType dto.evidence) := by
    unfold guardResolveEscalation
    apply lockstep_guard h
    intro task task' hsame
    refine (lockstep_ensure (by rw [hsame.status])).bind ?_
    intro _ _ _
    exact lockstep_ensure Iff.rfl
  refine hguard.bind ?_
  intro _ _ _
  cases dto.resolutionType with
  | retry =>
      refine (lockstep_executeTransitionAction h _ _ _ _).bind ?_
      intro x y h₁
      exact lockstep_pure (alikeStores_recordPool h₁ taskId dto)
  | cancel =>
      exact lockstep_executeTransitionAction h _ _ _ _
  | markDone =>
      exact lockstep_executeTransitionAction h _ _ _ _

theorem lockstep_executeOverrideAction (h : AlikeStores policies remains s t)
    (taskId : TaskId) (targetStatus : TaskStatus) (validSourceStates : List TaskStatus)
    (actorId action : String) :
    Lockstep (AlikeCommits policies remains)
      (executeOverrideAction taskId targetStatus validSourceStates actorId action s)
      (executeOverrideAction taskId targetStatus validSourceStates actorId action t) := by
  have hcounters : (overrideUpdate targetStatus).retryCount = none ∧
      (overrideUpdate targetStatus).reviewRoundCount = none := by
    unfold overrideUpdate
    split
    · exact ⟨rfl, rfl⟩
    · exact ⟨rfl, rfl⟩
  unfold executeOverrideAction
  refine (lockstep_orThrow (h.findTask_rel taskId)).bind ?_
  rintro task task' ⟨hs, ht, hsame⟩
  refine (lockstep_ensure (by rw [hsame.status])).bind ?_
  intro _ _ _
  refine (h.updateTask hs ht (hsame.apply_uncounted hcounters.1 hcounters.2)).bind ?_
  intro s₁ t₁ h₁
  exact lockstep_pure (h₁.appendAudit _ _)

theorem lockstep_reopen (h : AlikeStores policies remains s t) (taskId : TaskId)
    (actorId : String) :
    Lockstep (AlikeCommits policies remains) (reopen taskId actorId s)
      (reopen taskId actorId t) := by
  unfold reopen
  have hguard : Lockstep Eq (guardReopen s taskId) (guardReopen t taskId) := by
    unfold guardReopen
    apply lockstep_guard h
    intro task task' hsame
    refine (lockstep_ensure (by rw [hsame.status])).bind ?_
    intro _ _ _
    exact lockstep_refuse (h.findActiveByTaskId_iff taskId)
  refine hguard.bind ?_
  intro _ _ _
  exact lockstep_executeOverrideAction h _ _ _ _ _

theorem lockstep_changePriority (h : AlikeStores policies remains s t) (taskId : TaskId)
    (priority actorId : String) :
    Lockstep (AlikeCommits policies remains) (changePriority taskId priority actorId s)
      (changePriority taskId priority actorId t) := by
  unfold changePriority
  refine (lockstep_orThrow (h.findTask_rel taskId)).bind ?_
  rintro task task' ⟨hs, ht, hsame⟩
  refine (h.updateTask hs ht (hsame.apply_uncounted rfl rfl)).bind ?_
  intro s₁ t₁ h₁
  exact lockstep_pure (h₁.appendAudit _ _)

/-!
## All requests
-/

/-- A request that is made alike of both tasks: its retry policy is the fixed one, its
lease is not one of the earlier life, and it names no version. -/
def AlikeRequest (policies : FixedPolicies) (remains : Remains) : Request -> Prop
  | .acquireLease _ leaseId _ => leaseId ∉ remains.leases
  | .transitionLease leaseId _ _ _ => leaseId ∉ remains.movableLeases
  | .reclaimLease params => params.retryPolicy = policies.retryPolicy
  | .updateTask _ _ => False
  | _ => True

theorem lockstep_perform (h : AlikeStores policies remains s t) {r : Request}
    (hr : AlikeRequest policies remains r) :
    Lockstep (AlikeStores policies remains) (perform s r) (perform t r) := by
  cases r with
  | createWorkerPool pool =>
      exact h.createWorkerPool pool
  | createTask dto =>
      exact h.createTask (newTask dto)
  | updateTask taskId dto =>
      exact hr.elim
  | acquireLease now leaseId params =>
      exact lockstep_committed (lockstep_acquireLease h now hr params)
  | transitionLease leaseId targetStatus context actor =>
      exact lockstep_committed (lockstep_transitionLease h hr targetStatus context actor)
  | receiveHeartbeat now params =>
      exact lockstep_committed (lockstep_receiveHeartbeat h now params)
  | reclaimLease params =>
      exact lockstep_committed (lockstep_reclaimLease h hr)
  | transitionTask taskId targetStatus context actor =>
      exact lockstep_committed (lockstep_transitionTask h taskId targetStatus context actor)
  | pause taskId actorId =>
      exact lockstep_committed (lockstep_executeTransitionAction h taskId _ _ _)
  | resume taskId actorId =>
      exact lockstep_committed (lockstep_resume h taskId actorId)
  | requeue taskId actorId =>
      exact lockstep_committed (lockstep_executeTransitionAction h taskId _ _ _)
  | forceUnblock taskId actorId reason =>
      exact lockstep_committed (lockstep_forceUnblock h taskId actorId reason)
  | cancel taskId actorId acknowledge =>
      exact lockstep_committed (lockstep_cancel h taskId actorId acknowledge)
  | resolveEscalation taskId dto =>
      exact lockstep_committed (lockstep_resolveEscalation h taskId dto)
  | changePriority taskId priority actorId =>
      exact lockstep_committed (lockstep_changePriority h taskId priority actorId)
  | rerunReview taskId actorId =>
      exact lockstep_committed (lockstep_executeOverrideAction h taskId _ _ actorId _)
  | reopen taskId actorId =>
      exact lockstep_committed (lockstep_reopen h taskId actorId)

end Reopening
end CopilotFactory
