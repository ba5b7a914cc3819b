import Mathlib.Data.String.Basic
import Mathlib.Data.Prod.Lex
import CopilotFactory.ControlPlane.TaskEffects
import CopilotFactory.Foundations.Numbering
import CopilotFactory.Merging.MergeQueueService

/-!
# The order of the queue

The queue is ordered by the priority of the tasks, the time of the enqueue and the
id of the item.  The position of an item is derived from this order when the queue
changes, and an item is claimed by the order and not by its position.
-/

namespace CopilotFactory
namespace Merging

open Foundations
open Infrastructure
open Application
open ControlPlane

/-!
## The ordering contract
-/

variable {a b : MergeQueueItem} {s' : Store} {id : MergeQueueItemId}

/-- Other texts sort last. -/
def getPriorityWeight (priority : String) : Nat :=
  if priority = "critical" then
    4
  else if priority = "high" then
    3
  else if priority = "medium" then
    2
  else if priority = "low" then
    1
  else
    0

def itemWeight (s : Store) (item : MergeQueueItem) : Nat :=
  ((s.findTask item.taskId).map fun task => getPriorityWeight task.priority).getD 0

/-- Higher priority first, then the earlier item, then the smaller id. -/
def Precedes (s : Store) (a b : MergeQueueItem) : Prop :=
  itemWeight s b < itemWeight s a ∨
    (itemWeight s b = itemWeight s a ∧
      (a.enqueuedAt < b.enqueuedAt ∨
        (a.enqueuedAt = b.enqueuedAt ∧ a.mergeQueueItemId < b.mergeQueueItemId)))

def orderKey (s : Store) (item : MergeQueueItem) : Lex (Natᵒᵈ × Lex (Int × String)) :=
  toLex (OrderDual.toDual (itemWeight s item),
    toLex (item.enqueuedAt, item.mergeQueueItemId))

theorem precedes_iff {s : Store} : Precedes s a b <-> orderKey s a < orderKey s b := by
  unfold Precedes orderKey
  rw [Prod.Lex.toLex_lt_toLex, Prod.Lex.toLex_lt_toLex]
  constructor
  · intro h
    rcases h with h | ⟨hweight, h⟩
    · exact Or.inl h
    · exact Or.inr ⟨congrArg OrderDual.toDual hweight.symm, h⟩
  · intro h
    rcases h with h | ⟨hweight, h⟩
    · exact Or.inl h
    · exact Or.inr ⟨(congrArg OrderDual.ofDual hweight).symm, h⟩

theorem not_precedes_self (s : Store) (a : MergeQueueItem) : ¬ Precedes s a a :=
  fun h => lt_irrefl _ (precedes_iff.mp h)

instance (s : Store) : Std.Irrefl (Precedes s) where
  irrefl := not_precedes_self s

instance (s : Store) : Std.Antisymm (Precedes s) where
  antisymm _ _ h h' := absurd (precedes_iff.mp h') (lt_asymm (precedes_iff.mp h))

/-- The queries of a repository port that meets its ordering contract. -/
structure OrderedQueries extends QueueQueries where
  sorted : forall repositoryId s, (findEnqueuedByRepositoryId repositoryId s).Pairwise (Precedes s)

def sortedItems (repositoryId : String) (s : Store) : List MergeQueueItem :=
  (s.mergeQueueItems.rows.filter fun item =>
    item.repositoryId = repositoryId && item.status = .enqueued).insertionSort
      fun a b => orderKey s a ≤ orderKey s b

theorem orderKey_inj {s : Store} (h : orderKey s a = orderKey s b) :
    a.mergeQueueItemId = b.mergeQueueItemId := by
  have hpair := congrArg (fun key => (ofLex (ofLex key).2).2) h
  exact hpair

theorem sortedItems_sorted (repositoryId : String) (s : Store) :
    (sortedItems repositoryId s).Pairwise (Precedes s) := by
  let le : MergeQueueItem -> MergeQueueItem -> Prop := fun a b => orderKey s a ≤ orderKey s b
  have htotal : Std.Total le := ⟨fun a b => le_total _ _⟩
  have htrans : IsTrans MergeQueueItem le := ⟨fun a b c hab hbc => le_trans hab hbc⟩
  have hsorted : (sortedItems repositoryId s).Pairwise le := List.pairwise_insertionSort le _
  have hids : ((s.mergeQueueItems.rows.filter fun item =>
      item.repositoryId = repositoryId && item.status = .enqueued).map
        MergeQueueItem.mergeQueueItemId).Nodup :=
    (List.filter_sublist.map _).nodup s.mergeQueueItems.nodup
  have hnodup : ((sortedItems repositoryId s).map MergeQueueItem.mergeQueueItemId).Nodup :=
    ((List.perm_insertionSort le _).map _).nodup_iff.mpr hids
  have hdistinct : (sortedItems repositoryId s).Pairwise
      (fun a b => a.mergeQueueItemId ≠ b.mergeQueueItemId) :=
    List.pairwise_map.mp hnodup
  apply (hsorted.and hdistinct).imp
  intro a b hab
  apply precedes_iff.mpr
  apply lt_of_le_of_ne hab.1
  intro heq
  exact hab.2 (orderKey_inj heq)

def contractOrder : OrderedQueries where
  findEnqueuedByRepositoryId := sortedItems
  findNextEnqueued := fun repositoryId s => (sortedItems repositoryId s).head?
  enqueued := by
    intro repositoryId s item
    unfold sortedItems
    rw [List.mem_insertionSort]
    simp [Table.mem_def]
  next := by
    intro repositoryId s
    rfl
  sorted := sortedItems_sorted

/-!
## Requests
-/

/-- The override writes the position only, on the item that the task's column names. -/
def overrideMergeOrder (taskId : TaskId) (position : Nat) (actorId : String)
    (s : Store) : Except ServiceError (Store × OperatorActionResult) := do
  let task ← orThrow (s.findTask taskId) (taskNotFound taskId)
  ensure (task.status = .queuedForMerge)
    (.badRequestException
      (s!"Cannot override merge order for task \"{taskId}\" in state " ++
        s!"\"{task.status.label}\". Task must be in QUEUED_FOR_MERGE state."))
  let mergeQueueItemId ← orThrow (task.mergeQueueItemId.filter fun id => id ≠ "")
    (.badRequestException s!"Task \"{taskId}\" has no associated merge queue item.")
  let auditEvent : AuditEvent :=
    { entityType := "merge_queue_item"
      entityId := mergeQueueItemId
      eventType := "merge_queue_item.operator.override_order"
      actorType := "operator"
      actorId := actorId
      oldState := (s.findItem mergeQueueItemId).map fun mqItem =>
        .object [("position", .number mqItem.position)]
      newState := some (.object [("position", .number position)]) }
  pure ((s.appendAudit auditEvent).writeItem mergeQueueItemId { position := some position },
    { task := task, auditEvent := auditEvent })

/-- Operations on the queue, overrides, and the requests of the control plane, of which
some change the priority of a task. -/
inductive OrderRequest where
  | enqueueForMerge (now : Millis) (itemId : MergeQueueItemId)
      (params : EnqueueForMergeParams)
  | dequeueNext (now : Millis) (params : DequeueNextParams)
  | recalculatePositions (repositoryId : String)
  | request (r : Request)
  | overrideMergeOrder (taskId : TaskId) (position : Nat) (actorId : String)

def performOrder (queries : QueueQueries) (s : Store) :
    OrderRequest -> Except ServiceError Store
  | .enqueueForMerge now itemId params =>
      committed (enqueueForMerge queries now itemId params s)
  | .dequeueNext now params => committed (dequeueNext queries now params s)
  | .recalculatePositions repositoryId => .ok (recalculatePositions queries repositoryId s)
  | .request r => perform s r
  | .overrideMergeOrder taskId position actorId =>
      committed (overrideMergeOrder taskId position actorId s)

def queueOrder (queries : QueueQueries) :
    TransitionSystem Store OrderRequest ServiceError where
  step := performOrder queries

/-!
## The listed items
-/

theorem mem_listed {queries : QueueQueries} {repositoryId : String} {s : Store}
    {item : MergeQueueItem} :
    item ∈ queries.findEnqueuedByRepositoryId repositoryId s <->
      s.findItem item.mergeQueueItemId = some item ∧ item.repositoryId = repositoryId ∧
        item.status = .enqueued := by
  rw [queries.enqueued]
  constructor
  · intro h
    exact ⟨Table.find?_key_of_mem h.1, h.2⟩
  · intro h
    exact ⟨Table.mem_of_find? h.1, h.2⟩

theorem listed_inj {queries : QueueQueries} {repositoryId : String} {s : Store}
    (ha : a ∈ queries.findEnqueuedByRepositoryId repositoryId s)
    (hb : b ∈ queries.findEnqueuedByRepositoryId repositoryId s)
    (h : a.mergeQueueItemId = b.mergeQueueItemId) : a = b := by
  have hfind := (mem_listed.mp ha).1
  rw [h, (mem_listed.mp hb).1] at hfind
  exact (Option.some.inj hfind).symm

theorem OrderedQueries.ids_nodup (queries : OrderedQueries) (repositoryId : String)
    (s : Store) :
    ((queries.findEnqueuedByRepositoryId repositoryId s).map
      MergeQueueItem.mergeQueueItemId).Nodup := by
  have hnodup : (queries.findEnqueuedByRepositoryId repositoryId s).Nodup := by
    apply (queries.sorted repositoryId s).imp
    intro a b h heq
    rw [heq] at h
    exact not_precedes_self s b h
  exact hnodup.map_on (fun a ha b hb h => listed_inj ha hb h)

/-- The contract leaves one list only. -/
theorem OrderedQueries.eq_of_mem_iff (queries : OrderedQueries) {repositoryId : String}
    {s : Store} {items : List MergeQueueItem} (hsorted : items.Pairwise (Precedes s))
    (hmem : forall item, item ∈ items <->
      s.findItem item.mergeQueueItemId = some item ∧ item.repositoryId = repositoryId ∧
        item.status = .enqueued) :
    queries.findEnqueuedByRepositoryId repositoryId s = items := by
  apply List.Pairwise.eq_of_mem_iff (queries.sorted repositoryId s) hsorted
  intro item
  rw [mem_listed, hmem]

theorem OrderedQueries.eq_of_same (queries : OrderedQueries) {repositoryId : String} {s : Store}
    (hitems : forall item, item.repositoryId = repositoryId ->
      (s'.findItem item.mergeQueueItemId = some item <->
        s.findItem item.mergeQueueItemId = some item))
    (hweight : forall item, itemWeight s' item = itemWeight s item) :
    queries.findEnqueuedByRepositoryId repositoryId s' =
      queries.findEnqueuedByRepositoryId repositoryId s := by
  apply queries.eq_of_mem_iff
  · apply (queries.sorted repositoryId s).imp
    intro a b h
    unfold Precedes
    rw [hweight, hweight]
    exact h
  · intro item
    rw [mem_listed]
    constructor
    · intro h
      exact ⟨(hitems item h.2.1).mpr h.1, h.2⟩
    · intro h
      exact ⟨(hitems item h.2.1).mp h.1, h.2⟩

/-!
## Recalculating
-/

def withPosition (position : Nat) (item : MergeQueueItem) : MergeQueueItem :=
  MergeQueueItemUpdate.apply { position := some position } item

theorem withPosition_position (position : Nat) (item : MergeQueueItem) :
    (withPosition position item).position = position :=
  rfl

theorem findItem_updatePositions_of_not_mem {updates : List (MergeQueueItemId × Nat)}
    {s : Store} (h : id ∉ updates.map Prod.fst) :
    (updatePositions updates s).findItem id = s.findItem id := by
  induction updates generalizing s with
  | nil =>
      rfl
  | cons update rest ih =>
      rw [List.map_cons, List.mem_cons, not_or] at h
      show (updatePositions rest (s.writeItem update.1 { position := some update.2 })).findItem
        id = _
      rw [ih h.2, Store.findItem_writeItem_of_ne h.1]

theorem findItem_updatePositions_of_mem {updates : List (MergeQueueItemId × Nat)} {s : Store}
    {position : Nat} (hnodup : (updates.map Prod.fst).Nodup) (h : (id, position) ∈ updates) :
    (updatePositions updates s).findItem id =
      (s.findItem id).map (withPosition position) := by
  induction updates generalizing s with
  | nil =>
      cases h
  | cons update rest ih =>
      rw [List.map_cons, List.nodup_cons] at hnodup
      show (updatePositions rest (s.writeItem update.1 { position := some update.2 })).findItem
        id = _
      rcases List.mem_cons.mp h with h | h
      · rw [← h] at hnodup ⊢
        rw [findItem_updatePositions_of_not_mem hnodup.1, Store.findItem_writeItem_self]
        rfl
      · have hne : id ≠ update.1 := by
          intro heq
          apply hnodup.1
          rw [← heq]
          exact List.mem_map.mpr ⟨(id, position), h, rfl⟩
        rw [ih hnodup.2 h, Store.findItem_writeItem_of_ne hne]

theorem itemWeight_of_tasks_eq {s : Store} (h : s'.tasks = s.tasks) (item : MergeQueueItem) :
    itemWeight s' item = itemWeight s item := by
  unfold itemWeight
  rw [Store.findTask_of_tasks_eq h]

section Recalculate

variable (queries : OrderedQueries) (repositoryId : String) (s : Store)

theorem recalculated_ids :
    ((queries.findEnqueuedByRepositoryId repositoryId s).zipIdx.map
      (fun entry => (entry.1.mergeQueueItemId, entry.2 + 1))).map Prod.fst =
      (queries.findEnqueuedByRepositoryId repositoryId s).map
        MergeQueueItem.mergeQueueItemId := by
  rw [List.map_map]
  show List.map (MergeQueueItem.mergeQueueItemId ∘ Prod.fst) _ = _
  rw [← List.map_map, List.zipIdx_map_fst]

theorem findItem_recalculate_of_mem {item : MergeQueueItem} {i : Nat}
    (h : (item, i) ∈ (queries.findEnqueuedByRepositoryId repositoryId s).zipIdx) :
    (recalculatePositions queries.toQueueQueries repositoryId s).findItem
      item.mergeQueueItemId = some (withPosition (i + 1) item) := by
  have hitem : item ∈ queries.findEnqueuedByRepositoryId repositoryId s :=
    List.fst_mem_of_mem_zipIdx h
  have hupdate : (item.mergeQueueItemId, i + 1) ∈
      (queries.findEnqueuedByRepositoryId repositoryId s).zipIdx.map
        (fun entry => (entry.1.mergeQueueItemId, entry.2 + 1)) :=
    List.mem_map.mpr ⟨(item, i), h, rfl⟩
  unfold recalculatePositions
  dsimp only
  rw [findItem_updatePositions_of_mem _ hupdate, (mem_listed.mp hitem).1]
  · rfl
  · rw [recalculated_ids]
    exact queries.ids_nodup repositoryId s

theorem findItem_recalculate_of_not_mem
    (h : forall item, item ∈ queries.findEnqueuedByRepositoryId repositoryId s ->
      item.mergeQueueItemId ≠ id) :
    (recalculatePositions queries.toQueueQueries repositoryId s).findItem id =
      s.findItem id := by
  unfold recalculatePositions
  dsimp only
  apply findItem_updatePositions_of_not_mem
  rw [recalculated_ids]
  intro hid
  rcases List.mem_map.mp hid with ⟨item, hitem, heq⟩
  exact h item hitem heq

end Recalculate

/-- The items of the repository that are listed have positions 1, 2, … in this order. -/
def Positioned (queries : OrderedQueries) (repositoryId : String) (s : Store) : Prop :=
  Numbered MergeQueueItem.position (queries.findEnqueuedByRepositoryId repositoryId s)

theorem listed_recalculate (queries : OrderedQueries) (repositoryId : String) (s : Store) :
    queries.findEnqueuedByRepositoryId repositoryId
      (recalculatePositions queries.toQueueQueries repositoryId s) =
        renumber withPosition (queries.findEnqueuedByRepositoryId repositoryId s) := by
  have htasks := (repositioned_recalculate queries.toQueueQueries repositoryId s).tasks
  apply queries.eq_of_mem_iff
  · apply pairwise_renumber _ (queries.sorted repositoryId s)
    intro n m a b h
    unfold Precedes
    rw [itemWeight_of_tasks_eq htasks, itemWeight_of_tasks_eq htasks]
    exact h
  · intro item
    rw [mem_renumber]
    constructor
    · intro h
      rcases h with ⟨a, i, hmem, heq⟩
      have ha := mem_listed.mp (List.fst_mem_of_mem_zipIdx hmem)
      have hnew := findItem_recalculate_of_mem queries repositoryId s hmem
      rw [heq]
      exact ⟨hnew, ha.2⟩
    · intro h
      rcases h with ⟨hfind, hlisted⟩
      by_cases hmem : exists a, a ∈ queries.findEnqueuedByRepositoryId repositoryId s ∧
          a.mergeQueueItemId = item.mergeQueueItemId
      · rcases hmem with ⟨a, ha, hid⟩
        rcases List.mem_iff_getElem?.mp ha with ⟨i, hi⟩
        have hentry : (a, i) ∈ (queries.findEnqueuedByRepositoryId repositoryId s).zipIdx :=
          List.mem_zipIdx_iff_getElem?.mpr hi
        refine ⟨a, i, hentry, ?_⟩
        have hnew := findItem_recalculate_of_mem queries repositoryId s hentry
        rw [hid, hfind] at hnew
        exact Option.some.inj hnew
      · rw [findItem_recalculate_of_not_mem queries repositoryId s] at hfind
        · exact absurd ⟨item, mem_listed.mpr ⟨hfind, hlisted⟩, rfl⟩ hmem
        · intro a ha hid
          exact hmem ⟨a, ha, hid⟩

theorem positioned_recalculate (queries : OrderedQueries) (repositoryId : String)
    (s : Store) :
    Positioned queries repositoryId
      (recalculatePositions queries.toQueueQueries repositoryId s) := by
  unfold Positioned
  rw [listed_recalculate]
  exact numbered_renumber withPosition_position _

theorem listed_recalculate_of_ne (queries : OrderedQueries) {repositoryId other : String}
    (hne : repositoryId ≠ other) (s : Store) :
    queries.findEnqueuedByRepositoryId repositoryId
      (recalculatePositions queries.toQueueQueries other s) =
        queries.findEnqueuedByRepositoryId repositoryId s := by
  have hmoved := repositioned_recalculate queries.toQueueQueries other s
  apply queries.eq_of_same
  · intro item hrepository
    by_cases hmem : exists a, a ∈ queries.findEnqueuedByRepositoryId other s ∧
        a.mergeQueueItemId = item.mergeQueueItemId
    · rcases hmem with ⟨a, ha, hid⟩
      have hstored := mem_listed.mp ha
      rcases List.mem_iff_getElem?.mp ha with ⟨i, hi⟩
      have hentry : (a, i) ∈ (queries.findEnqueuedByRepositoryId other s).zipIdx :=
        List.mem_zipIdx_iff_getElem?.mpr hi
      have hnew := findItem_recalculate_of_mem queries other s hentry
      rw [hid] at hnew hstored
      rw [hnew, hstored.1]
      have hother : a.repositoryId ≠ item.repositoryId := by
        rw [hstored.2.1, hrepository]
        exact hne.symm
      constructor
      · intro heq
        cases heq
        exact absurd rfl hother
      · intro heq
        cases heq
        exact absurd rfl hother
    · rw [findItem_recalculate_of_not_mem queries other s]
      intro a ha hid
      exact hmem ⟨a, ha, hid⟩
  · exact itemWeight_of_tasks_eq hmoved.tasks

/-!
## What the requests do to the order
-/

theorem itemWeight_writeTask {s : Store} {taskId : TaskId} {task : Task} {version : Nat}
    {data : TaskUpdate} (htask : s.findTask taskId = some task)
    (hpriority : (data.apply version task).priority = task.priority)
    (item : MergeQueueItem) :
    itemWeight (s.writeTask taskId version data) item = itemWeight s item := by
  unfold itemWeight
  by_cases hid : item.taskId = taskId
  · rw [hid, Store.findTask_writeTask_self, htask]
    simp [hpriority]
  · rw [Store.findTask_writeTask_of_ne hid]

/-- An enqueue ends with a recalculation, before which the items of other repositories
and the weights were as they are. -/
theorem enqueueForMerge_recalculates {queries : QueueQueries} {now : Millis}
    {itemId : MergeQueueItemId} {params : EnqueueForMergeParams} {s : Store}
    {result : EnqueueForMergeResult}
    (h : enqueueForMerge queries now itemId params s = .ok (s', result)) :
    exists task before, s.findTask params.taskId = some task ∧
      s' = recalculatePositions queries task.repositoryId before ∧
      (forall item, item.repositoryId ≠ task.repositoryId ->
        (before.findItem item.mergeQueueItemId = some item <->
          s.findItem item.mergeQueueItemId = some item)) ∧
      forall item, itemWeight before item = itemWeight s item := by
  simp only [enqueueForMerge, bind_eq_ok, orThrow_eq_ok, ensure_eq_ok, refuse_eq_ok,
    commitTransition_eq_ok, pure_eq_ok, Prod.mk.injEq] at h
  rcases h with ⟨task, htask, _, _, _, _, _, _, s₁, hcreate, s₂, hupdate, _, _, hs', _⟩
  rcases Store.createItem_eq_ok hcreate with ⟨hnew, htasks, hself, hother⟩
  rcases Store.updateTask_eq_ok.mp hupdate with ⟨task₁, htask₁, _, hs₂⟩
  refine ⟨task, _, htask, hs'.symm, ?_, ?_⟩
  · intro item hrepository
    show s₂.findItem item.mergeQueueItemId = some item <-> _
    rw [hs₂, Store.findItem_writeTask]
    by_cases hid : item.mergeQueueItemId = itemId
    · have hcreated : s₁.findItem item.mergeQueueItemId =
          some (newItem now itemId params task
            ((queries.findEnqueuedByRepositoryId task.repositoryId s).length + 1)) := by
        rw [hid]
        exact hself
      have hnone : s.findItem item.mergeQueueItemId = none := by
        rw [hid]
        exact hnew
      rw [hcreated, hnone]
      constructor
      · intro heq
        cases heq
        exact absurd rfl hrepository
      · intro heq
        cases heq
    · rw [hother item.mergeQueueItemId hid]
  · intro item
    have hwritten : itemWeight s₂ item = itemWeight s₁ item := by
      rw [hs₂]
      exact itemWeight_writeTask htask₁ rfl item
    show itemWeight s₂ item = _
    rw [hwritten]
    exact itemWeight_of_tasks_eq htasks item

theorem dequeueNext_recalculates {queries : QueueQueries} {now : Millis}
    {params : DequeueNextParams} {s : Store} {result : Option DequeueNextResult}
    (h : dequeueNext queries now params s = .ok (s', result)) :
    (queries.findNextEnqueued params.repositoryId s = none ∧ s' = s ∧ result = none) ∨
      exists item claimed before, queries.findNextEnqueued params.repositoryId s = some item ∧
        result = some claimed ∧ claimed.item = (claimItem now).apply item ∧
        s' = recalculatePositions queries params.repositoryId before ∧
        before.tasks = s.tasks ∧
        forall other, other.repositoryId ≠ params.repositoryId ->
          (before.findItem other.mergeQueueItemId = some other <->
            s.findItem other.mergeQueueItemId = some other) := by
  unfold dequeueNext at h
  split at h
  · rename_i hnone
    cases h
    exact Or.inl ⟨hnone, rfl, rfl⟩
  · rename_i item hnext
    have hitem := findNextEnqueued_spec hnext
    simp only [bind_eq_ok, commitTransition_eq_ok, Store.updateItem_eq_ok, orThrow_eq_ok,
      pure_eq_ok, Prod.mk.injEq] at h
    rcases h with ⟨_, _, s₁, ⟨_, _, _, hs₁⟩, claimed, hclaimed, hs', hresult⟩
    rw [hs₁, Store.findItem_writeItem_self, hitem.1] at hclaimed
    refine Or.inr ⟨item, _, _, hnext, hresult.symm, (Option.some.inj hclaimed).symm, hs'.symm,
      ?_, ?_⟩
    · rw [hs₁]
      rfl
    · intro other hrepository
      show s₁.findItem other.mergeQueueItemId = some other <-> _
      rw [hs₁]
      by_cases hid : other.mergeQueueItemId = item.mergeQueueItemId
      · rw [hid, Store.findItem_writeItem_self, hitem.1]
        have hne : other.repositoryId ≠ item.repositoryId := by
          rw [hitem.2.1]
          exact hrepository
        constructor
        · intro heq
          cases heq
          exact absurd rfl hne
        · intro heq
          cases heq
          exact absurd rfl hne
      · rw [Store.findItem_writeItem_of_ne hid]

end Merging
end CopilotFactory
