import CopilotFactory.Auditing.AuditTrail
import CopilotFactory.Dependencies.ReadinessService
import CopilotFactory.Reopening.AlikeReviews

/-!
# Reopening as a fresh start

An operator reopens a task that is over.  Its run from then on is compared with the run of
a task that is created anew in a database in which the earlier life of the task has left
nothing.  The two runs cannot be told apart if the task has used up nothing that its
policies limit and has no merge queue item: neither is reset by reopening.
-/

namespace CopilotFactory
namespace Reopening

open Foundations
open Domain
open Infrastructure
open Application
open ControlPlane
open Reviewing
open Dependencies
open Merging
open Auditing

variable {policies : FixedPolicies} {remains : Remains}

/-!
## The merge queue
-/

section Queue

variable {s s' t t' : Store}

theorem updatePositions_workerPools (updates : List (MergeQueueItemId × Nat)) (s : Store) :
    (updatePositions updates s).workerPools = s.workerPools := by
  induction updates generalizing s with
  | nil =>
      rfl
  | cons update rest ih =>
      exact ih (s.writeItem update.1 { position := some update.2 })

theorem AlikeStores.recalculatePositions (h : AlikeStores policies remains s t)
    (queries : QueueQueries) (repositoryId repositoryId' : String) :
    AlikeStores policies remains (recalculatePositions queries repositoryId s)
      (recalculatePositions queries repositoryId' t) := by
  have hs := repositioned_recalculate queries repositoryId s
  have ht := repositioned_recalculate queries repositoryId' t
  have hsLeases := (recalculatePositions_kept queries repositoryId s).1
  have htLeases := (recalculatePositions_kept queries repositoryId' t).1
  constructor
  · rw [hs.tasks, ht.tasks]
    exact h.tasks
  · rw [hsLeases, htLeases]
    exact h.leases
  · rw [hsLeases]
    exact h.finished
  · rw [htLeases]
    exact h.gone
  · exact (updatePositions_workerPools _ s).trans
      (h.workerPools.trans (updatePositions_workerPools _ t).symm)
  · intro itemId hno
    rcases hs.items itemId with ⟨position, hposition⟩
    rcases ht.items itemId with ⟨position', hposition'⟩
    have hrel := h.items itemId hno
    unfold Store.findItem at hposition hposition'
    rw [hposition, hposition']
    rcases cases_of_rel hrel with ⟨hitem, hitem'⟩ | ⟨item, item', hitem, hitem', hsame⟩
    · rw [hitem, hitem']
      exact .none
    · rw [hitem, hitem']
      exact .some hsame

theorem lockstep_enqueueForMerge (h : AlikeStores policies remains s t)
    (queries : QueueQueries) (now : Millis) (itemId : MergeQueueItemId)
    (params : EnqueueForMergeParams) :
    Lockstep (AlikeCommits policies remains) (enqueueForMerge queries now itemId params s)
      (enqueueForMerge queries now itemId params t) := by
  unfold enqueueForMerge
  refine (lockstep_orThrow (h.findTask_rel params.taskId)).bind ?_
  rintro task task' ⟨hs, ht, hsame⟩
  refine (lockstep_ensure (by rw [hsame.status])).bind ?_
  intro _ _ _
  refine (lockstep_refuse (h.findItemByTaskId_iff params.taskId)).bind ?_
  intro _ _ _
  refine (lockstep_commitTransition (by rw [hsame.status])).bind ?_
  intro _ _ _
  have hitem : SameItem
      (newItem now itemId params task
        ((queries.findEnqueuedByRepositoryId task.repositoryId s).length + 1))
      (newItem now itemId params task'
        ((queries.findEnqueuedByRepositoryId task'.repositoryId t).length + 1)) := by
    unfold SameItem newItem
    rw [hsame.repositoryId]
  refine (h.createItem hitem).told.bind ?_
  rintro s₁ t₁ ⟨hs₁, ht₁, h₁⟩
  have hfind : s₁.findTask params.taskId = some task := by
    rw [Store.findTask_of_tasks_eq (Store.createItem_eq_ok hs₁).2.1]
    exact hs
  have hfind' : t₁.findTask params.taskId = some task' := by
    rw [Store.findTask_of_tasks_eq (Store.createItem_eq_ok ht₁).2.1]
    exact ht
  refine (h₁.updateTask hfind hfind' (hsame.apply_uncounted rfl rfl)).bind ?_
  intro s₂ t₂ h₂
  refine (lockstep_orThrow (h₂.findTask_rel params.taskId)).bind ?_
  intro _ _ _
  exact lockstep_pure (((h₂.appendAudit _ _).appendAudit _ _).recalculatePositions queries _ _)

end Queue

/-!
## Steps of the factory
-/

/-- The databases are alike, whatever merges are under way. -/
def AlikeFactories (policies : FixedPolicies) (remains : Remains) (w v : Factory) : Prop :=
  AlikeReviews policies remains w.shared v.shared

/-- The work on a task up to the merge queue. -/
def AlikeStep (policies : FixedPolicies) (remains : Remains) : FactoryStep -> Prop
  | .review request => AlikeReviewRequest policies remains request
  | .enqueueForMerge _ _ _ => True
  | _ => False

theorem stepsInLockstep (port : FollowUpTaskPort) (queries : QueueQueries)
    (policies : FixedPolicies) (remains : Remains) :
    (factory port queries).StepsInLockstep (AlikeStep policies remains)
      (AlikeFactories policies remains) := by
  intro w v q hq h
  cases q with
  | review request =>
      refine (lockstep_performReview port h hq).bind ?_
      intro r r' hr
      exact lockstep_pure hr
  | enqueueForMerge now itemId params =>
      have hcall := lockstep_committed (lockstep_enqueueForMerge h.store queries now itemId params)
      refine (AlikeReviews.onStore h hcall).bind ?_
      intro r r' hr
      exact lockstep_pure hr
  | dequeueNext now params =>
      exact hq.elim
  | loadMerge pid params =>
      exact hq.elim
  | mergeTurn pid turn =>
      exact hq.elim
  | endMerge pid =>
      exact hq.elim

/-!
## Readiness
-/

theorem computeReadiness_alike {g g' : TaskGraph}
    (h : AlikeStores policies remains g.store g'.store)
    (hdependencies : g.taskDependencies = g'.taskDependencies) (taskId : TaskId) :
    computeReadiness taskId g = computeReadiness taskId g' := by
  have hedges : hardBlockEdges g taskId = hardBlockEdges g' taskId := by
    unfold hardBlockEdges TaskGraph.findByTaskId
    rw [hdependencies]
  have hreason : blockingReason g = blockingReason g' := by
    funext edge
    unfold blockingReason
    rcases h.task_cases edge.dependsOnTaskId with ⟨hs, ht⟩ | ⟨task, task', hs, ht, hsame⟩
    · rw [hs, ht]
    · rw [hs, ht]
      dsimp only
      rw [hsame.status]
  unfold computeReadiness
  rw [hedges, hreason]
  rcases h.task_cases taskId with ⟨hs, ht⟩ | ⟨task, task', hs, ht, _⟩
  · rw [hs, ht]
  · rw [hs, ht]
    rfl

/-!
## The task created anew
-/

/-- The rows of a task, and those of its review cycles, by their ids. -/
def remainsOf (taskId : TaskId) (r : ReviewTables) : Remains :=
  let leases := r.store.taskLeases.rows.filter (fun lease => lease.taskId = taskId)
  let cycles := r.findCyclesByTaskId taskId
  let cycleIds := cycles.map ReviewCycle.reviewCycleId
  { leases := leases.map TaskLease.leaseId
    movableLeases :=
      (leases.filter (fun lease => !isTerminalWorkerLeaseState lease.status)).map
        TaskLease.leaseId
    cycles := cycleIds
    openCycles :=
      (cycles.filter (fun cycle => !isTerminalReviewCycleState cycle.status)).map
        ReviewCycle.reviewCycleId
    packets :=
      (r.reviewPackets.rows.filter (fun packet =>
        packet.taskId = taskId || packet.reviewCycleId ∈ cycleIds)).map
          ReviewPacket.reviewPacketId
    decisions :=
      (r.leadReviewDecisions.rows.filter (fun decision =>
        decision.taskId = taskId || decision.reviewCycleId ∈ cycleIds)).map
          LeadReviewDecisionRecord.leadReviewDecisionId }

theorem find?_delete_of_ne {taskId other : TaskId} {s : Store} (hne : other ≠ taskId) :
    (s.tasks.delete taskId).find? other = s.findTask other := by
  cases hfind : s.findTask other with
  | none =>
      apply Table.find?_eq_none_iff.mpr
      intro task htask
      exact Table.find?_eq_none_iff.mp hfind task (Table.mem_delete.mp htask).1
  | some task =>
      rcases Table.find?_eq_some_iff.mp hfind with ⟨hmem, hid⟩
      apply Table.find?_eq_some_iff.mpr
      refine ⟨Table.mem_delete.mpr ⟨hmem, ?_⟩, hid⟩
      rw [hid]
      exact hne

theorem find?_delete_isSome {taskId other : TaskId} {s : Store} (hne : other ≠ taskId) :
    ((s.tasks.delete taskId).find? other).isSome = (s.findTask other).isSome := by
  rw [find?_delete_of_ne hne]

def storeWithoutTask (taskId : TaskId) (s : Store) : Store where
  tasks := s.tasks.delete taskId
  taskLeases := s.taskLeases.without (fun lease => lease.taskId = taskId)
  workerPools := s.workerPools
  mergeQueueItems := s.mergeQueueItems.without (fun item => item.taskId = taskId)
  auditEvents := s.auditEvents
  leaseTask := by
    intro lease hlease
    rcases mem_without.mp hlease with ⟨hmem, hother⟩
    rw [find?_delete_isSome (by simpa using hother)]
    exact s.leaseTask lease hmem
  leasePool := fun lease hlease => s.leasePool lease (mem_without.mp hlease).1
  itemTask := by
    intro item hitem
    rcases mem_without.mp hitem with ⟨hmem, hother⟩
    rw [find?_delete_isSome (by simpa using hother)]
    exact s.itemTask item hmem

/-- A database in which the task has never been.  The job queue is everybody's. -/
def withoutTask (taskId : TaskId) (r : ReviewTables) : ReviewTables where
  store := storeWithoutTask taskId r.store
  jobs := r.jobs
  reviewCycles := r.reviewCycles.without (fun cycle => cycle.taskId = taskId)
  reviewPackets := r.reviewPackets.without (fun packet =>
    packet.reviewPacketId ∈ (remainsOf taskId r).packets)
  leadReviewDecisions := r.leadReviewDecisions.without (fun decision =>
    decision.leadReviewDecisionId ∈ (remainsOf taskId r).decisions)
  cycleTask := by
    intro cycle hcycle
    rcases mem_without.mp hcycle with ⟨hmem, hother⟩
    show ((r.store.tasks.delete taskId).find? cycle.taskId).isSome = true
    rw [find?_delete_isSome (by simpa using hother)]
    exact r.cycleTask cycle hmem

/-- What the creation of such a task asks for. -/
def sameTaskDto (task : Task) : CreateTaskDto where
  taskId := task.taskId
  repositoryId := task.repositoryId
  taskType := task.taskType
  priority := task.priority
  requiredCapabilities := task.requiredCapabilities

def recreated (taskId : TaskId) (w : Factory) : Except ServiceError Factory := do
  let task ← orThrow (w.shared.store.findTask taskId) (.entityNotFound "Task" taskId)
  let r ← (withoutTask taskId w.shared).createTask (newTask (sameTaskDto task))
  pure { w with shared := r }

theorem recreated_eq_ok {taskId : TaskId} {w w' : Factory} (h : recreated taskId w = .ok w') :
    exists task s, w.shared.store.findTask taskId = some task ∧
      (storeWithoutTask taskId w.shared.store).createTask (newTask (sameTaskDto task)) =
        .ok s ∧
      exists hs, w'.shared = (withoutTask taskId w.shared).withStore s hs := by
  rcases bind_eq_ok.mp h with ⟨task, htask, h⟩
  rcases bind_eq_ok.mp h with ⟨r, hcreate, h⟩
  rcases ReviewTables.onStore_eq_ok.mp hcreate with ⟨s, hs, hstore, hr⟩
  cases h
  rw [orThrow_eq_ok] at htask
  exact ⟨task, s, htask, hstore, hs, hr⟩

/-!
### Where the two runs begin
-/

/-- A reopened task has everything of a new one but its counters and its version. -/
structure ReopenedTask (task : Task) : Prop where
  status : task.status = .backlog
  currentLeaseId : task.currentLeaseId = none
  currentReviewCycleId : task.currentReviewCycleId = none
  mergeQueueItemId : task.mergeQueueItemId = none
  completedAt : task.completedAt = none

theorem ReopenedTask.uncounted_eq {task : Task} (h : ReopenedTask task) :
    uncounted task = uncounted (newTask (sameTaskDto task)) := by
  unfold uncounted newTask sameTaskDto
  rw [h.status, h.currentLeaseId, h.currentReviewCycleId, h.mergeQueueItemId, h.completedAt]

theorem reopen_spec {taskId : TaskId} {actorId : String} {s s' : Store}
    {result : OperatorActionResult} (h : reopen taskId actorId s = .ok (s', result)) :
    s'.findActiveByTaskId taskId = none ∧
      exists task, s'.findTask taskId = some task ∧ ReopenedTask task := by
  rcases bind_eq_ok.mp h with ⟨_, hguard, h⟩
  rcases executeOverrideAction_spec h with ⟨old, hold, _, hs', _⟩
  unfold guardReopen at hguard
  rw [hold] at hguard
  rcases bind_eq_ok.mp hguard with ⟨_, _, hactive⟩
  rw [refuse_eq_ok] at hactive
  constructor
  · rw [hs']
    exact hactive
  · refine ⟨(overrideUpdate .backlog).apply (old.version + 1) old, ?_, rfl, rfl, rfl, rfl, rfl⟩
    rw [hs', Store.appendAudit_findTask, Store.findTask_writeTask_self, hold]
    rfl

/-- The task has used up nothing of what its policies limit, and nothing of it is in the
merge queue. -/
structure NothingSpent (policies : FixedPolicies) (taskId : TaskId) (s : Store) : Prop where
  retries : forall task, s.findTask taskId = some task ->
    task.retryCount = 0 ∨ policies.retryPolicy.maxAttempts = 0
  rounds : forall task, s.findTask taskId = some task ->
    task.reviewRoundCount = 0 ∨ policies.maxReviewRounds ≤ 1
  item : s.findItemByTaskId taskId = none

section Begin

variable {taskId : TaskId} {r : ReviewTables} {task : Task} {s : Store}

theorem alikeTasks_recreated (htask : r.store.findTask taskId = some task)
    (hsame : SameTask policies task (newTask (sameTaskDto task)))
    (hcreate : (storeWithoutTask taskId r.store).createTask (newTask (sameTaskDto task)) =
      .ok s) :
    AlikeTables Nothing (SameTask policies) r.store.tasks s.tasks := by
  have hid : (newTask (sameTaskDto task)).taskId = taskId := by
    show task.taskId = taskId
    exact Store.taskId_of_findTask htask
  rcases Store.createTask_spec hcreate with ⟨_, _, hself, hothers⟩
  rw [hid] at hself hothers
  intro id _
  show Option.Rel _ (r.store.findTask id) (s.findTask id)
  by_cases hne : id = taskId
  · rw [hne, htask, hself]
    exact .some hsame
  · have hkept : s.findTask id = r.store.findTask id :=
      (hothers id hne).trans (find?_delete_of_ne hne)
    rw [hkept]
    cases r.store.findTask id with
    | none =>
        exact .none
    | some other =>
        exact .some (SameTask.refl policies other)

theorem finishedLease_of_remains (hactive : r.store.findActiveByTaskId taskId = none)
    {lease : TaskLease} (hlease : lease ∈ r.store.taskLeases)
    (hold : lease.leaseId ∈ (remainsOf taskId r).leases) :
    FinishedLease (remainsOf taskId r) lease := by
  have howner := (key_mem_selection_iff hlease).mp hold
  constructor
  · exact Store.findActiveByTaskId_eq_none_iff.mp hactive lease hlease (by simpa using howner)
  · intro hstuck
    by_contra hopen
    apply hstuck
    apply List.mem_map.mpr
    exact ⟨lease, List.mem_filter.mpr ⟨List.mem_filter.mpr ⟨hlease, howner⟩,
      by simpa using hopen⟩, rfl⟩

theorem alikeItems_without (hnone : r.store.findItemByTaskId taskId = none) :
    AlikeTables Nothing SameItem r.store.mergeQueueItems
      (r.store.mergeQueueItems.without (fun item => item.taskId = taskId)) := by
  have hkept : AlikeTables Nothing Eq r.store.mergeQueueItems
      (r.store.mergeQueueItems.without (fun item => item.taskId = taskId)) := by
    apply alikeTables_without
    intro item hitem howner
    exact Store.findItemByTaskId_eq_none_iff.mp hnone item hitem (by simpa using howner)
  apply hkept.mono
  rintro item _ rfl
  rfl

theorem alikeStores_recreated (htask : r.store.findTask taskId = some task)
    (hreopened : ReopenedTask task) (hactive : r.store.findActiveByTaskId taskId = none)
    (hspent : NothingSpent policies taskId r.store)
    (hcreate : (storeWithoutTask taskId r.store).createTask (newTask (sameTaskDto task)) =
      .ok s) :
    AlikeStores policies (remainsOf taskId r) r.store s := by
  have hsame : SameTask policies task (newTask (sameTaskDto task)) :=
    ⟨hreopened.uncounted_eq, hspent.retries task htask, hspent.rounds task htask⟩
  have hleases := (Store.createTask_spec hcreate).2.1
  have hitems := Store.createTask_mergeQueueItems hcreate
  constructor
  · exact alikeTasks_recreated htask hsame hcreate
  · rw [hleases]
    exact alikeTables_without_selection r.store.taskLeases _
  · intro lease hlease hold
    exact finishedLease_of_remains hactive hlease hold
  · intro lease hlease
    rw [hleases] at hlease
    exact not_mem_selection_of_without hlease
  · exact (Store.createTask_workerPools hcreate).symm
  · rw [hitems]
    exact alikeItems_without hspent.item

theorem over_of_remains {cycle : ReviewCycle} (hcycle : cycle ∈ r.reviewCycles)
    (hold : cycle.reviewCycleId ∈ (remainsOf taskId r).cycles)
    (hnotOpen : cycle.reviewCycleId ∉ (remainsOf taskId r).openCycles) :
    isTerminalReviewCycleState cycle.status = true := by
  have howner := (key_mem_selection_iff hcycle).mp hold
  by_contra hopen
  apply hnotOpen
  apply List.mem_map.mpr
  exact ⟨cycle, List.mem_filter.mpr ⟨List.mem_filter.mpr ⟨hcycle, howner⟩,
    by simpa using hopen⟩, rfl⟩

theorem alikeReviews_recreated (hstore : AlikeStores policies (remainsOf taskId r) r.store s)
    (hs : KeepsTasks (withoutTask taskId r).store s) :
    AlikeReviews policies (remainsOf taskId r) r ((withoutTask taskId r).withStore s hs) := by
  refine ⟨hstore, rfl, ?_, ?_, ?_, ?_, ?_⟩
  · exact alikeTables_without_selection r.reviewCycles _
  · intro cycle hcycle hold hnotOpen
    exact over_of_remains hcycle hold hnotOpen
  · intro cycle hcycle
    exact not_mem_selection_of_without hcycle
  · exact alikeTables_without (fun packet _ hdropped => by simpa using hdropped)
  · exact alikeTables_without (fun decision _ hdropped => by simpa using hdropped)

end Begin

/-!
## Reopening
-/

def taskStatus (taskId : TaskId) (w : Factory) : Option TaskStatus :=
  (w.shared.store.findTask taskId).map Task.status

/-- The two runs cannot be told apart: the same steps are accepted, the task has the same
status after each of them, and the same dependencies make it ready at the same points. -/
structure FreshStart (port : FollowUpTaskPort) (queries : QueueQueries) (taskId : TaskId)
    (reopened fresh : Factory) (steps : List FactoryStep) : Prop where
  observed : (factory port queries).observe (taskStatus taskId) reopened steps =
    (factory port queries).observe (taskStatus taskId) fresh steps
  readiness : forall first second, steps = first ++ second -> forall g g' : TaskGraph,
    g.store = ((factory port queries).run reopened first).shared.store ->
    g'.store = ((factory port queries).run fresh first).shared.store ->
    g.taskDependencies = g'.taskDependencies ->
      computeReadiness taskId g = computeReadiness taskId g'

/-- Reopening is a fresh start for a task that has used up nothing of what its policies
limit, if the later steps leave the rest of its earlier life alone. -/
theorem freshStart_of_reopen (port : FollowUpTaskPort) (queries : QueueQueries)
    (policies : FixedPolicies) (taskId : TaskId) (actorId : String)
    (history later : List FactoryStep) (reopened fresh : Factory)
    (hreopen : (factory port queries).step
      ((factory port queries).run Factory.start history)
      (.review (.request (.reopen taskId actorId))) = .ok reopened)
    (hfresh : recreated taskId reopened = .ok fresh)
    (hspent : NothingSpent policies taskId reopened.shared.store)
    (hlater : forall q, q ∈ later ->
      AlikeStep policies (remainsOf taskId reopened.shared) q) :
    FreshStart port queries taskId reopened fresh later := by
  have halike : AlikeFactories policies (remainsOf taskId reopened.shared) reopened fresh := by
    rcases bind_eq_ok.mp hreopen with ⟨r, hperform, hr⟩
    cases hr
    rcases committed_eq_ok.mp (request_spec hperform).1 with ⟨result, hcall⟩
    rcases reopen_spec hcall with ⟨hactive, task, htask, hreopened⟩
    rcases recreated_eq_ok hfresh with ⟨found, s, hfound, hcreate, hs, hshared⟩
    rw [show found = task from Option.some.inj (hfound.symm.trans htask)] at hcreate
    unfold AlikeFactories
    rw [hshared]
    exact alikeReviews_recreated
      (alikeStores_recreated htask hreopened hactive hspent hcreate) hs
  have hsteps := stepsInLockstep port queries policies (remainsOf taskId reopened.shared)
  constructor
  · apply hsteps.observe_eq _ hlater halike
    intro w v hwv
    exact hwv.store.status_eq taskId
  · intro first second happ g g' hg hg' hdependencies
    have hfirst : forall q, q ∈ first ->
        AlikeStep policies (remainsOf taskId reopened.shared) q := by
      intro q hq
      apply hlater q
      rw [happ]
      exact List.mem_append_left second hq
    have hreached := hsteps.run hfirst halike
    have hstores : AlikeStores policies (remainsOf taskId reopened.shared) g.store
        g'.store := by
      rw [hg, hg']
      exact hreached.store
    exact computeReadiness_alike hstores hdependencies taskId

/-!
## A task with a past
-/

section Samples

def worker : ActorInfo where
  type := "system"
  id := "worker-1"

def samplePolicies : FixedPolicies where
  retryPolicy := { defaultRetryPolicy with maxAttempts := 1 }
  maxReviewRounds := 2

def created : List FactoryStep :=
  [ .review (.request (.createWorkerPool
      { workerPoolId := "pool-1", maxConcurrency := 1 })),
    .review (.request (.createTask
      { taskId := "task-1", repositoryId := "repo-1", taskType := "feature",
        priority := "high" })) ]

def readied : List FactoryStep :=
  [ .review (.request (.transitionTask "task-1" .ready
      { allDependenciesResolved := some true, hasPolicyBlockers := some false } worker)) ]

/-- The lease is acquired, the worker starts, and it is lost. -/
def crashed (leaseId : LeaseId) (hasFailureSummary : Bool) : List FactoryStep :=
  [ .review (.request (.acquireLease 1000 leaseId
      { taskId := "task-1", workerId := "worker-1", poolId := "pool-1", ttlSeconds := 600,
        actor := worker })),
    .review (.request (.transitionLease leaseId .starting
      { workerProcessSpawned := some true } worker)),
    .review (.request (.receiveHeartbeat 2000 { leaseId := leaseId, actor := worker })),
    .review (.request (.reclaimLease
      { leaseId := leaseId
        reason := .workerCrashed
        retryPolicy := samplePolicies.retryPolicy
        escalationPolicy := defaultEscalationPolicy
        hasFailureSummary := hasFailureSummary
        actor := worker })) ]

def developed : List FactoryStep :=
  [ .review (.request (.transitionTask "task-1" .assigned
      { leaseAcquired := some true } worker)),
    .review (.request (.transitionTask "task-1" .inDevelopment
      { hasHeartbeat := some true } worker)),
    .review (.request (.transitionTask "task-1" .devComplete
      { hasDevResultPacket := some true, requiredValidationsPassed := some true } worker)) ]

def leadDecision (reviewCycleId : ReviewCycleId) (decision : LeadReviewDecision)
    (blockingIssues : List Issue) : ApplyReviewDecisionParams where
  packet := .ok
    { taskId := "task-1"
      reviewCycleId := reviewCycleId
      decision := decision
      summary := "reviewed"
      blockingIssues := blockingIssues
      nonBlockingSuggestions := []
      followUpTaskRefs := [] }
  taskId := "task-1"
  reviewCycleId := reviewCycleId
  escalationPolicy := defaultEscalationPolicy
  maxReviewRounds := samplePolicies.maxReviewRounds
  actor := worker

def blockingIssue : Issue where
  severity := .high
  code := "SEC-1"
  title := "injection"
  description := "input is not escaped"
  blocking := true

def reviewedAs (name : String) (decision : LeadReviewDecision) (issues : List Issue) :
    List FactoryStep :=
  [ .review (.dispatchReviewers 3000 (sampleIds name) reviewParams),
    .review (.transitionReviewCycle (name ++ "0") .inProgress
      { reviewStarted := some true } worker),
    .review (.transitionReviewCycle (name ++ "0") .consolidating
      { allRequiredReviewsComplete := some true } worker),
    .review (.applyDecision (sampleIds name) (leadDecision (name ++ "0") decision issues)) ]

def enqueued (itemId : MergeQueueItemId) : List FactoryStep :=
  [ .enqueueForMerge 4000 itemId
      { taskId := "task-1", approvedCommitSha := none, actor := worker } ]

def cancelled : List FactoryStep :=
  [ .review (.request (.cancel "task-1" "operator-1" true)) ]

def markedDone : List FactoryStep :=
  [ .review (.request (.pause "task-1" "operator-1")),
    .review (.request (.resolveEscalation "task-1"
      { resolutionType := .markDone, actorId := "operator-1",
        evidence := some "merged by hand" })) ]

/-- The task is retried, rejected, approved and enqueued, and then marked as done. -/
def spentHistory : List FactoryStep :=
  created ++ readied ++ crashed "lease-1" true ++ developed ++
    reviewedAs "a" .changesRequested [blockingIssue] ++ developed ++
    reviewedAs "b" .approved [] ++ enqueued "item-1" ++ markedDone

/-- A worker of the task is lost without a failure summary, and the task is cancelled. -/
def lostHistory : List FactoryStep :=
  created ++ readied ++ crashed "lease-1" false ++ cancelled

def reopenedAfter (history : List FactoryStep) : Factory :=
  (factory plainFollowUps arrivalOrder).next
    ((factory plainFollowUps arrivalOrder).run Factory.start history)
    (.review (.request (.reopen "task-1" "operator-1")))

def freshAfter (history : List FactoryStep) : Factory :=
  (recreated "task-1" (reopenedAfter history)).toOption.getD Factory.start

theorem reopenedAfter_ok {history : List FactoryStep}
    (h : ((factory plainFollowUps arrivalOrder).step
      ((factory plainFollowUps arrivalOrder).run Factory.start history)
      (.review (.request (.reopen "task-1" "operator-1")))).toOption.isSome = true) :
    (factory plainFollowUps arrivalOrder).step
      ((factory plainFollowUps arrivalOrder).run Factory.start history)
      (.review (.request (.reopen "task-1" "operator-1"))) = .ok (reopenedAfter history) :=
  (factory plainFollowUps arrivalOrder).step_eq_ok_next h

theorem freshAfter_ok {history : List FactoryStep}
    (h : (recreated "task-1" (reopenedAfter history)).toOption.isSome = true) :
    recreated "task-1" (reopenedAfter history) = .ok (freshAfter history) := by
  rcases Option.isSome_iff_exists.mp h with ⟨w, hw⟩
  unfold freshAfter
  rw [hw]
  exact toOption_eq_some.mp hw

def laterWork : List FactoryStep :=
  readied ++ crashed "lease-2" true ++ developed ++ reviewedAs "c" .approved [] ++
    enqueued "item-1"

theorem nothingSpent_lostHistory :
    NothingSpent samplePolicies "task-1" (reopenedAfter lostHistory).shared.store := by
  have hcounters : ((reopenedAfter lostHistory).shared.store.findTask "task-1").map
      (fun task => (task.retryCount, task.reviewRoundCount)) = some (0, 0) := by
    decide +kernel
  constructor
  · intro task htask
    rw [htask] at hcounters
    exact Or.inl (congrArg Prod.fst (Option.some.inj hcounters))
  · intro task htask
    rw [htask] at hcounters
    exact Or.inl (congrArg Prod.snd (Option.some.inj hcounters))
  · decide +kernel

theorem freshStart_lostHistory :
    FreshStart plainFollowUps arrivalOrder "task-1" (reopenedAfter lostHistory)
      (freshAfter lostHistory) laterWork := by
  have hremains : remainsOf "task-1" (reopenedAfter lostHistory).shared =
      { leases := ["lease-1"], movableLeases := ["lease-1"], cycles := [], openCycles := [],
        packets := [], decisions := [] } := by
    decide +kernel
  apply freshStart_of_reopen plainFollowUps arrivalOrder samplePolicies "task-1" "operator-1"
    lostHistory
  · exact reopenedAfter_ok (by decide +kernel)
  · exact freshAfter_ok (by decide +kernel)
  · exact nothingSpent_lostHistory
  · rw [hremains]
    simp [laterWork, readied, crashed, developed, reviewedAs, enqueued, AlikeStep,
      AlikeReviewRequest, AlikeRequest, leadDecision]

def secondCrash : List FactoryStep :=
  readied ++ crashed "lease-2" true

def secondRejection : List FactoryStep :=
  readied ++ developed ++ reviewedAs "c" .changesRequested [blockingIssue]

def secondEnqueue : List FactoryStep :=
  readied ++ developed ++ reviewedAs "c" .approved [] ++ enqueued "item-2"

/-- The reopened task is escalated by its first crash and by its first rejection, and its
approval does not get it into the merge queue. -/
theorem reopened_task_keeps_past :
    (factory plainFollowUps arrivalOrder).step
        ((factory plainFollowUps arrivalOrder).run Factory.start spentHistory)
        (.review (.request (.reopen "task-1" "operator-1"))) =
      .ok (reopenedAfter spentHistory) ∧
    recreated "task-1" (reopenedAfter spentHistory) = .ok (freshAfter spentHistory) ∧
    forall later, later ∈ [secondCrash, secondRejection, secondEnqueue] ->
      (forall q, q ∈ later ->
        AlikeStep samplePolicies (remainsOf "task-1" (reopenedAfter spentHistory).shared) q) ∧
      ¬ FreshStart plainFollowUps arrivalOrder "task-1" (reopenedAfter spentHistory)
          (freshAfter spentHistory) later := by
  have hremains : remainsOf "task-1" (reopenedAfter spentHistory).shared =
      { leases := ["lease-1"], movableLeases := ["lease-1"], cycles := ["a0", "b0"],
        openCycles := [], packets := [], decisions := ["a0", "b0"] } := by
    decide +kernel
  refine ⟨reopenedAfter_ok (by decide +kernel), freshAfter_ok (by decide +kernel), ?_⟩
  have hnewCycle : sampleIds "c" 0 = "c0" := by decide
  rw [hremains]
  simp only [List.forall_mem_cons, List.not_mem_nil, false_implies, implies_true, and_true]
  refine ⟨⟨?_, ?_⟩, ⟨?_, ?_⟩, ⟨?_, ?_⟩⟩
  · simp [secondCrash, readied, crashed, AlikeStep, AlikeReviewRequest, AlikeRequest]
  · intro h
    exact absurd h.observed (by decide +kernel)
  · simp [secondRejection, readied, developed, reviewedAs, AlikeStep,
      AlikeReviewRequest, AlikeRequest, leadDecision, hnewCycle]
  · intro h
    exact absurd h.observed (by decide +kernel)
  · simp [secondEnqueue, readied, developed, reviewedAs, enqueued, AlikeStep,
      AlikeReviewRequest, AlikeRequest, leadDecision, hnewCycle]
  · intro h
    exact absurd h.observed (by decide +kernel)

end Samples

end Reopening
end CopilotFactory
