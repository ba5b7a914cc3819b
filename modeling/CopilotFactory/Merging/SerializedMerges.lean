import CopilotFactory.Merging.MergeQueue

/-!
# Serialized merges

The merges of a repository are serialized when at most one of its items is in
flight.  Only a claim puts an item in flight, and a claim looks at nothing but
the ENQUEUED items.
-/

namespace CopilotFactory
namespace Merging

open Foundations
open Domain
open Infrastructure
open ControlPlane

variable {v : ItemView} {id : MergeQueueItemId}

def InFlight (v : ItemView) (repositoryId : String) (id : MergeQueueItemId) : Prop :=
  exists taskId status, v id = some (taskId, repositoryId, status) ∧
    status ∈ inFlightStatuses

def Serialized (v : ItemView) (repositoryId : String) : Prop :=
  forall id id', InFlight v repositoryId id -> InFlight v repositoryId id' -> id = id'

/-- A claim for the repository finds an item only while none is in flight. -/
def SafeClaim (queries : QueueQueries) (repositoryId : String) (s : Store) :
    QueueRequest -> Prop
  | .dequeueNext _ params =>
      params.repositoryId = repositoryId ->
        (queries.findNextEnqueued repositoryId s).isSome = true ->
          forall id, ¬ InFlight (itemView s) repositoryId id
  | _ => True

theorem Serialized.of_subset {v' : ItemView} {repositoryId : String}
    (h : Serialized v repositoryId)
    (hsubset : forall id, InFlight v' repositoryId id -> InFlight v repositoryId id) :
    Serialized v' repositoryId :=
  fun id id' hid hid' => h id id' (hsubset id hid) (hsubset id' hid')

theorem inFlight_update {repositoryId repository : String} {other : MergeQueueItemId}
    {taskId : TaskId} {status : MergeQueueItemStatus}
    (h : InFlight (Function.update v id (some (taskId, repository, status))) repositoryId other) :
    (other = id ∧ repository = repositoryId ∧ status ∈ inFlightStatuses) ∨
      (other ≠ id ∧ InFlight v repositoryId other) := by
  rcases h with ⟨otherTask, otherStatus, hother, hinFlight⟩
  by_cases hid : other = id
  · rw [hid, Function.update_self] at hother
    cases hother
    exact Or.inl ⟨hid, rfl, hinFlight⟩
  · rw [Function.update_of_ne hid] at hother
    exact Or.inr ⟨hid, otherTask, otherStatus, hother, hinFlight⟩

theorem inFlight_update_of_ne {repositoryId : String} {other : MergeQueueItemId}
    {entry : Option (TaskId × String × MergeQueueItemStatus)} (hne : other ≠ id)
    (h : InFlight v repositoryId other) :
    InFlight (Function.update v id entry) repositoryId other := by
  rcases h with ⟨taskId, status, hother, hinFlight⟩
  refine ⟨taskId, status, ?_, hinFlight⟩
  rw [Function.update_of_ne hne]
  exact hother

/-- A claim keeps the merges of a repository serialized exactly if it claims an item of
another one, or nothing of this one was in flight. -/
theorem serialized_claimed {repositoryId repository : String} {taskId : TaskId}
    (h : Serialized v repositoryId) (henqueued : v id = some (taskId, repository, .enqueued)) :
    Serialized (Function.update v id (some (taskId, repository, .preparing)))
        repositoryId <->
      (repository = repositoryId -> forall other, ¬ InFlight v repositoryId other) := by
  constructor
  · intro hclaimed hrepository other hother
    have hne : other ≠ id := by
      intro heq
      rcases hother with ⟨otherTask, status, hstored, hinFlight⟩
      rw [heq, henqueued] at hstored
      cases hstored
      exact absurd hinFlight (by decide)
    have hid : InFlight (Function.update v id (some (taskId, repository, .preparing)))
        repositoryId id := by
      refine ⟨taskId, .preparing, ?_, by decide⟩
      rw [Function.update_self, hrepository]
    exact hne (hclaimed other id (inFlight_update_of_ne hne hother) hid)
  · intro hnone first second hfirst hsecond
    rcases inFlight_update hfirst with ⟨hfirst, hrepository, _⟩ | ⟨_, hfirst⟩
    · rcases inFlight_update hsecond with ⟨hsecond, _, _⟩ | ⟨_, hsecond⟩
      · rw [hfirst, hsecond]
      · exact absurd hsecond (hnone hrepository second)
    · rcases inFlight_update hsecond with ⟨_, hrepository, _⟩ | ⟨_, hsecond⟩
      · exact absurd hfirst (hnone hrepository first)
      · exact h first second hfirst hsecond

/-- A step other than a claim puts no item in flight. -/
theorem Serialized.itemStep {v' : ItemView} {repositoryId : String}
    (h : Serialized v repositoryId) (hstep : ItemStep v v') : Serialized v' repositoryId := by
  cases hstep with
  | kept =>
      exact h
  | added id taskId repository hnew =>
      apply h.of_subset
      intro other hother
      rcases inFlight_update hother with ⟨_, _, hstatus⟩ | ⟨_, hother⟩
      · exact absurd hstatus (by decide)
      · exact hother
  | advanced id taskId repository source target hsource hinFlight htarget =>
      apply h.of_subset
      intro other hother
      rcases inFlight_update hother with ⟨heq, hrepository, _⟩ | ⟨_, hother⟩
      · rw [heq, ← hrepository]
        exact ⟨taskId, source, hsource, hinFlight⟩
      · exact hother

theorem serialized_next (queries : QueueQueries) {repositoryId : String} {s : Store}
    (r : QueueRequest) (h : Serialized (itemView s) repositoryId) :
    Serialized (itemView ((mergeQueue queries).next s r)) repositoryId <->
      SafeClaim queries repositoryId s r := by
  by_cases hr : IsClaim r
  · rcases hr with ⟨now, params, hr⟩
    rw [hr]
    cases hnext : queries.findNextEnqueued params.repositoryId s with
    | none =>
        have hstep : (mergeQueue queries).step s (.dequeueNext now params) = .ok s := by
          change committed (dequeueNext queries now params s) = .ok s
          unfold dequeueNext
          rw [hnext]
          rfl
        rw [(mergeQueue queries).next_of_ok hstep]
        apply iff_of_true h
        intro hrepository hsome
        rw [← hrepository, hnext] at hsome
        cases hsome
    | some item =>
        rcases dequeueNext_accepts now hnext with ⟨s', result, hdequeue⟩
        have hstep : (mergeQueue queries).step s (.dequeueNext now params) = .ok s' :=
          committed_eq_ok.mpr ⟨result, hdequeue⟩
        rw [(mergeQueue queries).next_of_ok hstep]
        rcases itemView_dequeueNext hdequeue with ⟨hnone, _⟩ |
          ⟨id, taskId, hsome, henqueued, hclaimed⟩
        · rw [hnext] at hnone
          cases hnone
        · rw [hclaimed, serialized_claimed h henqueued]
          constructor
          · intro hnone hrepository _
            exact hnone hrepository
          · intro hsafe hrepository
            apply hsafe hrepository
            rw [← hrepository]
            exact hsome
  · have hsafe : SafeClaim queries repositoryId s r := by
      cases r with
      | dequeueNext now params =>
          exact absurd ⟨now, params, rfl⟩ hr
      | _ =>
          exact trivial
    apply iff_of_true _ hsafe
    refine (mergeQueue queries).next_cases h ?_
    intro s' hstep
    exact h.itemStep (itemStep_of_performQueue hr hstep)

/-- In every run the merges of a repository are serialized in all states exactly if no
claim for it finds an ENQUEUED item while another item of it is in flight. -/
theorem serialized_iff_claims_wait (queries : QueueQueries) (repositoryId : String)
    (requests : List QueueRequest) :
    (forall s, s ∈ (mergeQueue queries).states Store.empty requests ->
        Serialized (itemView s) repositoryId) <->
      forall x, x ∈ (mergeQueue queries).arrivals Store.empty requests ->
        SafeClaim queries repositoryId x.1 x.2 := by
  apply TransitionSystem.states_iff_arrivals (fun _ => True) (fun _ => True)
    (fun s => Serialized (itemView s) repositoryId) (SafeClaim queries repositoryId)
  · exact fun _ _ _ _ _ _ => trivial
  · exact fun s r _ _ h => serialized_next queries r h
  · exact fun _ _ => trivial
  · exact trivial
  · intro id id' hid
    rcases hid with ⟨taskId, status, hstored, _⟩
    cases hstored

/-!
## Two claims
-/

def approvedTaskRequests (taskId : TaskId) : List QueueRequest :=
  [.createTask
      { taskId := taskId, repositoryId := "repo-1", taskType := "feature",
        priority := "high" },
    .transitionTask taskId .ready
      { allDependenciesResolved := some true, hasPolicyBlockers := some false } systemActor,
    .transitionTask taskId .assigned { leaseAcquired := some true } systemActor,
    .transitionTask taskId .inDevelopment { hasHeartbeat := some true } systemActor,
    .transitionTask taskId .devComplete
      { hasDevResultPacket := some true, requiredValidationsPassed := some true }
      systemActor,
    .transitionTask taskId .inReview { hasReviewRoutingDecision := some true } systemActor,
    .transitionTask taskId .approved { leadReviewDecision := some .approved }
      systemActor].map QueueRequest.request

def enqueueParams (taskId : TaskId) : EnqueueForMergeParams where
  taskId := taskId
  approvedCommitSha := some "a1"
  actor := systemActor

def dequeueParams : DequeueNextParams where
  repositoryId := "repo-1"
  actor := systemActor

def twoClaims : List QueueRequest :=
  approvedTaskRequests "task-1" ++ approvedTaskRequests "task-2" ++
    [.enqueueForMerge 1000 "item-1" (enqueueParams "task-1"),
      .enqueueForMerge 2000 "item-2" (enqueueParams "task-2"),
      .dequeueNext 3000 dequeueParams,
      .dequeueNext 4000 dequeueParams]

theorem two_claims_in_flight :
    ¬ forall s, s ∈ (mergeQueue arrivalOrder).states Store.empty twoClaims ->
        Serialized (itemView s) "repo-1" := by
  intro h
  have hserialized := h _ ((mergeQueue arrivalOrder).run_mem_states _ _)
  have hfirst : itemView ((mergeQueue arrivalOrder).run Store.empty twoClaims) "item-1" =
      some ("task-1", "repo-1", .preparing) := by
    decide +kernel
  have hsecond : itemView ((mergeQueue arrivalOrder).run Store.empty twoClaims) "item-2" =
      some ("task-2", "repo-1", .preparing) := by
    decide +kernel
  have heq := hserialized "item-1" "item-2" ⟨_, _, hfirst, by decide⟩
    ⟨_, _, hsecond, by decide⟩
  exact absurd heq (by decide)

end Merging
end CopilotFactory
