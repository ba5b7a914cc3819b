import CopilotFactory.ControlPlane.TaskWrites
import CopilotFactory.Merging.QueueOrder
import CopilotFactory.Merging.SerializedMerges

/-!
# The positions of the queue

After every operation of the queue the positions follow the order.  A priority change
in between alters the order and leaves the positions, and an override alters a
position and leaves the order, until the next operation writes all positions again.
-/

namespace CopilotFactory
namespace Merging

open Foundations
open Infrastructure
open ControlPlane

/-!
## What should hold
-/

variable {s : Store}

/-- The request is an operation on the queue of the repository that is not rejected. -/
def QueueOperation (queries : OrderedQueries) (repositoryId : String) (s : Store) :
    OrderRequest -> Prop
  | .enqueueForMerge now itemId params =>
      exists task s' result, s.findTask params.taskId = some task ∧
        task.repositoryId = repositoryId ∧
        enqueueForMerge queries.toQueueQueries now itemId params s = .ok (s', result)
  | .dequeueNext _ params => params.repositoryId = repositoryId
  | .recalculatePositions other => other = repositoryId
  | _ => False

/-- An item that is claimed is the first of the ENQUEUED items of its repository. -/
def TakesFirst (queries : OrderedQueries) (s : Store) : OrderRequest -> Prop
  | .dequeueNext now params =>
      forall s' claimed,
        dequeueNext queries.toQueueQueries now params s = .ok (s', some claimed) ->
        exists item, s.findItem item.mergeQueueItemId = some item ∧
          item.repositoryId = params.repositoryId ∧ item.status = .enqueued ∧
          claimed.item = (claimItem now).apply item ∧
          forall other, s.findItem other.mergeQueueItemId = some other ->
            other.repositoryId = params.repositoryId -> other.status = .enqueued ->
            other = item ∨ Precedes s item other
  | _ => True

def FrontAtOne (queries : OrderedQueries) (repositoryId : String) (s : Store) : Prop :=
  forall item, queries.findNextEnqueued repositoryId s = some item -> item.position = 1

def OverrideAccepted (s : Store) : OrderRequest -> Prop
  | .overrideMergeOrder taskId position actorId =>
      exists s' result, overrideMergeOrder taskId position actorId s = .ok (s', result)
  | _ => False

/-- A request, such as a priority change, after which another item is the first of the
repository. -/
def PutsAnotherFirst (queries : OrderedQueries) (repositoryId : String) (s : Store) :
    OrderRequest -> Prop
  | .request r =>
      queries.findNextEnqueued repositoryId
        ((queueOrder queries.toQueueQueries).next s (.request r)) ≠
          queries.findNextEnqueued repositoryId s
  | _ => False

def DistinctPositions (queries : OrderedQueries) (repositoryId : String) (s : Store) : Prop :=
  forall a b, a ∈ queries.findEnqueuedByRepositoryId repositoryId s ->
    b ∈ queries.findEnqueuedByRepositoryId repositoryId s ->
    a.position = b.position -> a = b

section Steps

variable {queries : OrderedQueries} {repositoryId : String}

theorem Positioned.frontAtOne (h : Positioned queries repositoryId s) :
    FrontAtOne queries repositoryId s := by
  intro item hnext
  rw [queries.next] at hnext
  exact Numbered.head h hnext

theorem Positioned.distinct (h : Positioned queries repositoryId s) :
    DistinctPositions queries repositoryId s :=
  fun _ _ ha hb heq => Numbered.inj h ha hb heq

theorem frontAtOne_of_listed_eq {s' : Store}
    (h : queries.findEnqueuedByRepositoryId repositoryId s' =
      queries.findEnqueuedByRepositoryId repositoryId s) :
    FrontAtOne queries repositoryId s' <-> FrontAtOne queries repositoryId s := by
  unfold FrontAtOne
  rw [queries.next, queries.next, h]

theorem putsAnotherFirst_request {r : Request} :
    PutsAnotherFirst queries repositoryId s (.request r) <->
      queries.findNextEnqueued repositoryId
        ((queueOrder queries.toQueueQueries).next s (.request r)) ≠
          queries.findNextEnqueued repositoryId s :=
  Iff.rfl

inductive ListStep (queries : OrderedQueries) (repositoryId : String) (s s' : Store)
    (request : OrderRequest) : Prop where
  | renumbered (hprefer : ¬ PutsAnotherFirst queries repositoryId s request)
      (h : Positioned queries repositoryId s')
  | same (hprefer : ¬ PutsAnotherFirst queries repositoryId s request)
      (h : queries.findEnqueuedByRepositoryId repositoryId s' =
        queries.findEnqueuedByRepositoryId repositoryId s)
  | reordered (hfirst : PutsAnotherFirst queries repositoryId s request <->
        queries.findNextEnqueued repositoryId s' ≠ queries.findNextEnqueued repositoryId s)
      (h : forall item, item ∈ queries.findEnqueuedByRepositoryId repositoryId s' <->
        item ∈ queries.findEnqueuedByRepositoryId repositoryId s)

theorem listed_of_recalculated {other : String} {before : Store}
    (hitems : forall item, item.repositoryId ≠ other ->
      (before.findItem item.mergeQueueItemId = some item <->
        s.findItem item.mergeQueueItemId = some item))
    (hweight : forall item, itemWeight before item = itemWeight s item)
    (hne : repositoryId ≠ other) :
    queries.findEnqueuedByRepositoryId repositoryId
      (recalculatePositions queries.toQueueQueries other before) =
        queries.findEnqueuedByRepositoryId repositoryId s := by
  rw [listed_recalculate_of_ne queries hne]
  apply queries.eq_of_same _ hweight
  intro item hrepository
  apply hitems
  rw [hrepository]
  exact hne

theorem positioned_of_none (h : queries.findNextEnqueued repositoryId s = none) :
    Positioned queries repositoryId s := by
  rw [queries.next, List.head?_eq_none_iff] at h
  unfold Positioned
  rw [h]
  exact numbered_nil _

theorem listed_of_items_eq {s' : Store} (h : s'.mergeQueueItems = s.mergeQueueItems)
    (item : MergeQueueItem) :
    item ∈ queries.findEnqueuedByRepositoryId repositoryId s' <->
      item ∈ queries.findEnqueuedByRepositoryId repositoryId s := by
  rw [mem_listed, mem_listed, Store.findItem_of_items_eq h]

/-- Every request but an accepted override. -/
theorem listStep_next {request : OrderRequest} (hoverride : ¬ OverrideAccepted s request) :
    ListStep queries repositoryId s ((queueOrder queries.toQueueQueries).next s request)
      request := by
  cases hstep : (queueOrder queries.toQueueQueries).step s request with
  | error e =>
      have hnext := (queueOrder queries.toQueueQueries).next_of_error hstep
      rw [hnext]
      cases request with
      | request r =>
          refine .same ?_ rfl
          rw [putsAnotherFirst_request, hnext]
          exact not_not_intro rfl
      | _ =>
          exact .same (fun h => h) rfl
  | ok s' =>
      have hnext := (queueOrder queries.toQueueQueries).next_of_ok hstep
      rw [hnext]
      cases request with
      | enqueueForMerge now itemId params =>
          rcases committed_eq_ok.mp hstep with ⟨result, hresult⟩
          rcases enqueueForMerge_recalculates hresult with ⟨task, before, _, hs', hitems,
            hweight⟩
          rw [hs']
          by_cases hrepository : repositoryId = task.repositoryId
          · rw [hrepository]
            exact .renumbered (fun h => h) (positioned_recalculate queries task.repositoryId before)
          · exact .same (fun h => h) (listed_of_recalculated hitems hweight hrepository)
      | dequeueNext now params =>
          rcases committed_eq_ok.mp hstep with ⟨result, hresult⟩
          rcases dequeueNext_recalculates hresult with ⟨_, hs', _⟩ |
            ⟨item, claimed, before, _, _, _, hs', htasks, hitems⟩
          · rw [hs']
            exact .same (fun h => h) rfl
          · rw [hs']
            by_cases hrepository : repositoryId = params.repositoryId
            · rw [hrepository]
              exact .renumbered (fun h => h)
                (positioned_recalculate queries params.repositoryId before)
            · exact .same (fun h => h)
                (listed_of_recalculated hitems (itemWeight_of_tasks_eq htasks) hrepository)
      | recalculatePositions other =>
          cases hstep
          by_cases hrepository : repositoryId = other
          · rw [hrepository]
            exact .renumbered (fun h => h) (positioned_recalculate queries other s)
          · exact .same (fun h => h) (listed_recalculate_of_ne queries hrepository s)
      | request r =>
          have hitems : s'.mergeQueueItems = s.mergeQueueItems :=
            (taskEffect_of_perform hstep).1
          refine .reordered ?_ (listed_of_items_eq hitems)
          rw [putsAnotherFirst_request, hnext]
      | overrideMergeOrder taskId position actorId =>
          rcases committed_eq_ok.mp hstep with ⟨result, hresult⟩
          exact absurd ⟨s', result, hresult⟩ hoverride

theorem distinct_next {request : OrderRequest} (h : DistinctPositions queries repositoryId s)
    (hoverride : ¬ OverrideAccepted s request) :
    DistinctPositions queries repositoryId
      ((queueOrder queries.toQueueQueries).next s request) := by
  have hlistStep : ListStep queries repositoryId s _ request := listStep_next hoverride
  cases hlistStep with
  | renumbered _ hpositioned =>
      exact hpositioned.distinct
  | same _ hlist =>
      unfold DistinctPositions
      rw [hlist]
      exact h
  | reordered _ hlist =>
      intro a b ha hb
      exact h a b ((hlist a).mp ha) ((hlist b).mp hb)

/-- Only a request that puts another item first takes the front away from
position 1. -/
theorem frontAtOne_next_iff {request : OrderRequest}
    (hdistinct : DistinctPositions queries repositoryId s)
    (hoverride : ¬ OverrideAccepted s request) (hfront : FrontAtOne queries repositoryId s) :
    FrontAtOne queries repositoryId ((queueOrder queries.toQueueQueries).next s request) <->
      ¬ PutsAnotherFirst queries repositoryId s request := by
  have hlistStep : ListStep queries repositoryId s _ request := listStep_next hoverride
  cases hlistStep with
  | renumbered hprefer hpositioned =>
      exact ⟨fun _ => hprefer, fun _ => hpositioned.frontAtOne⟩
  | same hprefer hlist =>
      exact ⟨fun _ => hprefer, fun _ => (frontAtOne_of_listed_eq hlist).mpr hfront⟩
  | reordered hfirst hlist =>
      rw [hfirst, not_not]
      constructor
      · intro hfront'
        cases hnext : queries.findNextEnqueued repositoryId s with
        | none =>
            rw [queries.next, List.head?_eq_none_iff] at hnext ⊢
            apply List.eq_nil_iff_forall_not_mem.mpr
            intro item hitem
            have hmem := (hlist item).mp hitem
            rw [hnext] at hmem
            cases hmem
        | some item =>
            have hitem : item ∈ queries.findEnqueuedByRepositoryId repositoryId s := by
              rw [queries.next] at hnext
              exact List.mem_of_mem_head? hnext
            cases hnext' : queries.findNextEnqueued repositoryId
                ((queueOrder queries.toQueueQueries).next s request) with
            | none =>
                rw [queries.next, List.head?_eq_none_iff] at hnext'
                have hmem := (hlist item).mpr hitem
                rw [hnext'] at hmem
                cases hmem
            | some item' =>
                have hitem' : item' ∈ queries.findEnqueuedByRepositoryId repositoryId s := by
                  have hhead := hnext'
                  rw [queries.next] at hhead
                  exact (hlist item').mp (List.mem_of_mem_head? hhead)
                have hposition : item'.position = item.position :=
                  (hfront' item' hnext').trans (hfront item hnext).symm
                rw [hdistinct item' item hitem' hitem hposition]
      · intro hsame item hnext
        rw [hsame] at hnext
        exact hfront item hnext

end Steps

/-!
## Every run
-/

theorem takesFirst (queries : OrderedQueries) (s : Store) (request : OrderRequest) :
    TakesFirst queries s request := by
  cases request with
  | dequeueNext now params =>
      intro s' claimed h
      rcases dequeueNext_recalculates h with ⟨_, _, hnone⟩ |
        ⟨item, found, _, hnext, hfound, hclaimed, _⟩
      · cases hnone
      · cases hfound
        have hitem := findNextEnqueued_spec hnext
        refine ⟨item, hitem.1, hitem.2.1, hitem.2.2, hclaimed, ?_⟩
        intro other hother hrepository hstatus
        have hlisted : other ∈
            queries.findEnqueuedByRepositoryId params.repositoryId s :=
          mem_listed.mpr ⟨hother, hrepository, hstatus⟩
        have hsorted := queries.sorted params.repositoryId s
        rw [queries.next] at hnext
        cases hlist : queries.findEnqueuedByRepositoryId params.repositoryId s with
        | nil =>
            rw [hlist] at hlisted
            cases hlisted
        | cons first rest =>
            rw [hlist] at hlisted hnext hsorted
            cases hnext
            rcases List.mem_cons.mp hlisted with heq | hrest
            · exact Or.inl heq
            · exact Or.inr ((List.pairwise_cons.mp hsorted).1 other hrest)
  | _ =>
      trivial

theorem positioned_of_queueOperation {queries : OrderedQueries} {repositoryId : String}
    {request : OrderRequest} (h : QueueOperation queries repositoryId s request) :
    Positioned queries repositoryId
      ((queueOrder queries.toQueueQueries).next s request) := by
  cases request with
  | enqueueForMerge now itemId params =>
      rcases h with ⟨task, s', result, htask, hrepository, hresult⟩
      have hstep : (queueOrder queries.toQueueQueries).step s
          (.enqueueForMerge now itemId params) = .ok s' :=
        committed_eq_ok.mpr ⟨result, hresult⟩
      rw [(queueOrder queries.toQueueQueries).next_of_ok hstep]
      rcases enqueueForMerge_recalculates hresult with ⟨task', before, htask', hs', _, _⟩
      rw [htask] at htask'
      cases htask'
      rw [hs', ← hrepository]
      exact positioned_recalculate queries task.repositoryId before
  | dequeueNext now params =>
      have hrepository : params.repositoryId = repositoryId := h
      have haccepted : exists s' result,
          dequeueNext queries.toQueueQueries now params s = .ok (s', result) := by
        cases hnext : queries.findNextEnqueued params.repositoryId s with
        | none =>
            exact ⟨s, none, by simp only [dequeueNext, hnext]⟩
        | some item =>
            rcases dequeueNext_accepts now hnext with ⟨s', result, hresult⟩
            exact ⟨s', result, hresult⟩
      rcases haccepted with ⟨s', result, hresult⟩
      have hstep : (queueOrder queries.toQueueQueries).step s (.dequeueNext now params) =
          .ok s' :=
        committed_eq_ok.mpr ⟨result, hresult⟩
      rw [(queueOrder queries.toQueueQueries).next_of_ok hstep, ← hrepository]
      rcases dequeueNext_recalculates hresult with ⟨hnone, hs', _⟩ |
        ⟨_, _, before, _, _, _, hs', _⟩
      · rw [hs']
        exact positioned_of_none hnone
      · rw [hs']
        exact positioned_recalculate queries params.repositoryId before
  | recalculatePositions other =>
      have hrepository : other = repositoryId := h
      rw [← hrepository]
      exact positioned_recalculate queries other s
  | request r =>
      cases h
  | overrideMergeOrder taskId position actorId =>
      cases h

/-- In every run without an accepted override: after each operation on the queue the
positions follow the order; an item that is claimed is the first in the order; and the
first item is at position 1 in all states exactly when no request, such as a priority
change, puts another item first. -/
theorem positions_follow_order (queries : OrderedQueries) (repositoryId : String) {s : Store}
    (hs : Positioned queries repositoryId s) {requests : List OrderRequest}
    (hoverride : forall x,
      x ∈ (queueOrder queries.toQueueQueries).arrivals s requests ->
        ¬ OverrideAccepted x.1 x.2) :
    (forall x, x ∈ (queueOrder queries.toQueueQueries).arrivals s requests ->
      QueueOperation queries repositoryId x.1 x.2 ->
        Positioned queries repositoryId
          ((queueOrder queries.toQueueQueries).next x.1 x.2)) ∧
    (forall x, x ∈ (queueOrder queries.toQueueQueries).arrivals s requests ->
      TakesFirst queries x.1 x.2) ∧
    ((forall t, t ∈ (queueOrder queries.toQueueQueries).states s requests ->
        FrontAtOne queries repositoryId t) <->
      forall x, x ∈ (queueOrder queries.toQueueQueries).arrivals s requests ->
        ¬ PutsAnotherFirst queries repositoryId x.1 x.2) := by
  refine ⟨?_, ?_, ?_⟩
  · intro x _ hoperation
    exact positioned_of_queueOperation hoperation
  · intro x _
    exact takesFirst queries x.1 x.2
  · apply TransitionSystem.states_iff_arrivals_in
      (fun s request => ¬ OverrideAccepted s request)
      (DistinctPositions queries repositoryId) (FrontAtOne queries repositoryId)
      (fun s request => ¬ PutsAnotherFirst queries repositoryId s request)
    · exact fun s request h hrequest => distinct_next h hrequest
    · exact fun s request h hrequest hfront => frontAtOne_next_iff h hrequest hfront
    · exact hoverride
    · exact hs.distinct
    · exact hs.frontAtOne

/-!
## Two items of one repository
-/

def approvedPair : Store :=
  (mergeQueue arrivalOrder).run Store.empty
    (approvedTaskRequests "task-1" ++ approvedTaskRequests "task-2")

def raisedPriority : List OrderRequest :=
  [.enqueueForMerge 1000 "item-1" (enqueueParams "task-1"),
    .enqueueForMerge 2000 "item-2" (enqueueParams "task-2"),
    .request (.changePriority "task-2" "critical" "operator-1")]

theorem approvedPair_positioned : Positioned contractOrder "repo-1" approvedPair := by
  unfold Positioned
  decide +kernel

/-- No override is accepted, as there is none. -/
theorem raisedPriority_no_override :
    forall x, x ∈ (queueOrder contractOrder.toQueueQueries).arrivals approvedPair
        raisedPriority -> ¬ OverrideAccepted x.1 x.2 := by
  intro x hx haccepted
  have hmem := TransitionSystem.mem_of_mem_arrivals _ hx
  cases hrequest : x.2 with
  | overrideMergeOrder taskId position actorId =>
      rw [hrequest] at hmem
      simp [raisedPriority] at hmem
  | _ =>
      rw [hrequest] at haccepted
      exact haccepted

theorem positions_follow_order_raised :
    (forall x, x ∈ (queueOrder contractOrder.toQueueQueries).arrivals approvedPair
        raisedPriority ->
      QueueOperation contractOrder "repo-1" x.1 x.2 ->
        Positioned contractOrder "repo-1"
          ((queueOrder contractOrder.toQueueQueries).next x.1 x.2)) ∧
    (forall x, x ∈ (queueOrder contractOrder.toQueueQueries).arrivals approvedPair
        raisedPriority ->
      TakesFirst contractOrder x.1 x.2) ∧
    ((forall t, t ∈ (queueOrder contractOrder.toQueueQueries).states approvedPair
          raisedPriority ->
        FrontAtOne contractOrder "repo-1" t) <->
      forall x, x ∈ (queueOrder contractOrder.toQueueQueries).arrivals approvedPair
          raisedPriority ->
        ¬ PutsAnotherFirst contractOrder "repo-1" x.1 x.2) :=
  positions_follow_order contractOrder "repo-1" approvedPair_positioned
    raisedPriority_no_override

def TakesPositionOne (queries : OrderedQueries) (s : Store) : OrderRequest -> Prop
  | .dequeueNext now params =>
      forall s' claimed item,
        dequeueNext queries.toQueueQueries now params s = .ok (s', some claimed) ->
        s.findItem claimed.item.mergeQueueItemId = some item ->
        item.position = 1
  | _ => True

/-- An accepted override stays in force as long as its item is ENQUEUED. -/
def OverrideStays (queries : OrderedQueries) (s : Store) (taskId : TaskId) (position : Nat)
    (requests : List OrderRequest) : Prop :=
  forall s' result item,
    overrideMergeOrder taskId position "operator-1" s = .ok (s', result) ->
    ((queueOrder queries.toQueueQueries).run s' requests).findItem
      result.auditEvent.entityId = some item ->
    item.status = .enqueued ->
    item.position = position

def raisedStore : Store :=
  (queueOrder contractOrder.toQueueQueries).run approvedPair raisedPriority

def linkedStore : Store :=
  ((queueOrder contractOrder.toQueueQueries).run approvedPair
    (raisedPriority.take 2)).writeTask "task-2" 9
      { mergeQueueItemId := some (some "item-2") }

/-- After the priority change the item at position 2 is claimed; and an override to
position 1 is gone with the next recalculation. -/
theorem positions_not_followed :
    ¬ (forall x, x ∈ (queueOrder contractOrder.toQueueQueries).arrivals approvedPair
          (raisedPriority ++ [.dequeueNext 3000 dequeueParams]) ->
        TakesPositionOne contractOrder x.1 x.2) ∧
      ¬ OverrideStays contractOrder linkedStore "task-2" 1
        [.recalculatePositions "repo-1"] := by
  constructor
  · intro h
    have htakes : TakesPositionOne contractOrder raisedStore
        (.dequeueNext 3000 dequeueParams) :=
      h _ ((queueOrder contractOrder.toQueueQueries).mem_arrivals_append _ raisedPriority _ [])
    have hclaim : (dequeueNext contractOrder.toQueueQueries 3000 dequeueParams
        raisedStore).toOption.map (fun r => r.2.map fun claimed =>
          (claimed.item.mergeQueueItemId,
            (raisedStore.findItem claimed.item.mergeQueueItemId).map
              MergeQueueItem.position)) =
        some (some ("item-2", some 2)) := by
      decide +kernel
    cases hdequeue : dequeueNext contractOrder.toQueueQueries 3000 dequeueParams
        raisedStore with
    | error e =>
        rw [hdequeue] at hclaim
        cases hclaim
    | ok r =>
        rcases r with ⟨s', claimed?⟩
        rw [hdequeue] at hclaim
        cases claimed? with
        | none =>
            cases hclaim
        | some claimed =>
            have hfields := Option.some.inj (Option.some.inj hclaim)
            rcases Option.map_eq_some_iff.mp (Prod.mk.inj hfields).2 with
              ⟨item, hitem, hposition⟩
            rw [htakes s' claimed item hdequeue hitem] at hposition
            cases hposition
  · intro h
    have hoverride : (overrideMergeOrder "task-2" 1 "operator-1" linkedStore).toOption.map
        (fun r => (r.2.auditEvent.entityId,
          (((queueOrder contractOrder.toQueueQueries).run r.1
            [.recalculatePositions "repo-1"]).findItem r.2.auditEvent.entityId).map
              (fun item => (item.status, item.position)))) =
        some ("item-2", some (.enqueued, 2)) := by
      decide +kernel
    cases hresult : overrideMergeOrder "task-2" 1 "operator-1" linkedStore with
    | error e =>
        rw [hresult] at hoverride
        cases hoverride
    | ok r =>
        rw [hresult] at hoverride
        have hfields := Option.some.inj hoverride
        rcases Option.map_eq_some_iff.mp (Prod.mk.inj hfields).2 with ⟨item, hitem, hcolumns⟩
        have hposition := h r.1 r.2 item hresult hitem (Prod.mk.inj hcolumns).1
        rw [(Prod.mk.inj hcolumns).2] at hposition
        cases hposition

end Merging
end CopilotFactory
