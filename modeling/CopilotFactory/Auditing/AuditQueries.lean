import Mathlib.Data.Rat.Floor
import CopilotFactory.Foundations.Paging
import CopilotFactory.Foundations.Texts
import CopilotFactory.Infrastructure.Rows

/-!
# Audit queries

The events of the audit log are read page by page, the latest first.  Each page is a query of
its own, ordered by the time of creation in whole seconds and by nothing else.
-/

namespace CopilotFactory
namespace Auditing

open Foundations
open Infrastructure

structure StoredAuditEvent extends AuditEvent where
  auditEventId : String
  createdAt : Seconds
deriving DecidableEq

/-- The events in the order in which they were committed. -/
structure AuditLog where
  events : List StoredAuditEvent
  primaryKey : (events.map StoredAuditEvent.auditEventId).Nodup

structure AuditEventFilters where
  entityType : Option String := none
  entityId : Option String := none
  eventType : Option String := none
  actorType : Option String := none
  actorId : Option String := none
  startTime : Option Millis := none
  endTime : Option Millis := none
deriving DecidableEq

inductive AuditQuery where
  | timeline (entityType entityId : String)
  | search (filters : AuditEventFilters)
deriving DecidableEq

/-- A condition that is not given holds of every event. -/
def given {β : Type} (condition : β -> Bool) (value : Option β) : Bool :=
  value.all condition

/-- The condition of a query on the rows.  Dates are compared in whole seconds. -/
def AuditQuery.matches : AuditQuery -> StoredAuditEvent -> Bool
  | .timeline entityType entityId, event =>
      event.entityType = entityType && event.entityId = entityId
  | .search filters, event =>
      given (fun value => event.entityType = value) filters.entityType &&
        given (fun value => event.entityId = value) filters.entityId &&
        given (fun value => event.eventType = value) filters.eventType &&
        given (fun value => event.actorType = value) filters.actorType &&
        given (fun value => event.actorId = value) filters.actorId &&
        given (fun value => toColumn value ≤ event.createdAt) filters.startTime &&
        given (fun value => event.createdAt ≤ toColumn value) filters.endTime

def AuditLog.matching (log : AuditLog) (query : AuditQuery) : List StoredAuditEvent :=
  log.events.filter query.matches

/-- What the database answers: for each offset, any order that the query leaves open. -/
structure AuditDatabase (log : AuditLog) where
  order : AuditQuery -> Nat -> List StoredAuditEvent
  ordering : forall query offset, Paging.IsOrdering StoredAuditEvent.createdAt
    (log.matching query) (order query offset)

structure AuditPaginationParams where
  page : Option Rat := none
  limit : Option Rat := none

structure PaginatedAuditResult where
  items : List StoredAuditEvent
  total : Nat
  page : Nat
  limit : Nat
  totalPages : Nat
deriving DecidableEq

def pageSize (limit : Option Rat) : Nat :=
  (min 100 (max 1 ⌊limit.getD 20⌋)).toNat

def pageNumber (page : Option Rat) : Nat :=
  (max 1 ⌊page.getD 1⌋).toNat

section

variable {log : AuditLog} (db : AuditDatabase log)

def queryPage (query : AuditQuery) (page limit : Nat) : PaginatedAuditResult :=
  let offset := (page - 1) * limit
  let total := (log.matching query).length
  { items := ((db.order query offset).drop offset).take limit
    total := total
    page := page
    limit := limit
    totalPages := if total > 0 then (total + limit - 1) / limit else 0 }

def requireNonEmpty (value name : String) : Except String Unit :=
  if trim value.toList = [] then .error s!"{name} must not be empty" else .ok ()

def validateTimeRange (filters : AuditEventFilters) : Except String Unit :=
  match filters.startTime, filters.endTime with
  | some startTime, some endTime =>
      if startTime > endTime then
        .error (s!"startTime ({toISOString startTime}) must not be after " ++
          s!"endTime ({toISOString endTime})")
      else .ok ()
  | _, _ => .ok ()

def getEntityTimeline (entityType entityId : String) (pagination : AuditPaginationParams) :
    Except String PaginatedAuditResult := do
  requireNonEmpty entityType "entityType"
  requireNonEmpty entityId "entityId"
  pure (queryPage db (.timeline entityType entityId) (pageNumber pagination.page)
    (pageSize pagination.limit))

def searchAuditEvents (filters : AuditEventFilters) (pagination : AuditPaginationParams) :
    Except String PaginatedAuditResult := do
  validateTimeRange filters
  pure (queryPage db (.search filters) (pageNumber pagination.page) (pageSize pagination.limit))

def runQuery (pagination : AuditPaginationParams) :
    AuditQuery -> Except String PaginatedAuditResult
  | .timeline entityType entityId => getEntityTimeline db entityType entityId pagination
  | .search filters => searchAuditEvents db filters pagination

/-!
## All pages
-/

def Accepted : AuditQuery -> Prop
  | .timeline entityType entityId =>
      requireNonEmpty entityType "entityType" = .ok () ∧
        requireNonEmpty entityId "entityId" = .ok ()
  | .search filters => validateTimeRange filters = .ok ()

theorem runQuery_of_accepted {query : AuditQuery} (h : Accepted query)
    (pagination : AuditPaginationParams) :
    runQuery db pagination query = .ok (queryPage db query (pageNumber pagination.page)
      (pageSize pagination.limit)) := by
  cases query with
  | timeline entityType entityId =>
      simp only [runQuery, getEntityTimeline, h.1, h.2]
      rfl
  | search filters =>
      have hrange : validateTimeRange filters = .ok () := h
      simp only [runQuery, searchAuditEvents, hrange]
      rfl

def itemsOf : Except String PaginatedAuditResult -> List StoredAuditEvent
  | .ok result => result.items
  | .error _ => []

def allPages (query : AuditQuery) (limit : Option Rat) (totalPages : Nat) :
    List StoredAuditEvent :=
  (List.range totalPages).flatMap fun n =>
    itemsOf (runQuery db { page := some (n + 1 : Nat), limit := limit } query)

/-- All pages together have each event once, and those of an entity in the reverse of the
order in which they were committed. -/
structure PagedRightly (query : AuditQuery) (limit : Option Rat) : Prop where
  total : forall page result, runQuery db { page := page, limit := limit } query = .ok result ->
    result.total = (log.matching query).length
  pages : exists first, runQuery db { page := none, limit := limit } query = .ok first ∧
    (allPages db query limit first.totalPages).Perm (log.matching query) ∧
    forall entityType entityId, (allPages db query limit first.totalPages).filter
        (AuditQuery.timeline entityType entityId).matches =
      ((log.matching query).filter
        (AuditQuery.timeline entityType entityId).matches).reverse

theorem pageSize_pos (limit : Option Rat) : 0 < pageSize limit := by
  unfold pageSize
  omega

theorem pageNumber_natCast (n : Nat) : pageNumber (some (n + 1 : Nat)) = n + 1 := by
  simp only [pageNumber, Option.getD_some, Int.floor_natCast]
  omega

theorem allPages_eq {query : AuditQuery} (h : Accepted query) (limit : Option Rat)
    (totalPages : Nat) :
    allPages db query limit totalPages = Paging.pages (pageSize limit) totalPages
      (fun n => db.order query (n * pageSize limit)) := by
  unfold allPages Paging.pages
  congr 1
  funext n
  rw [runQuery_of_accepted db h, pageNumber_natCast]
  rfl

def pageCount (log : AuditLog) (query : AuditQuery) (limit : Nat) : Nat :=
  if (log.matching query).length > 0 then ((log.matching query).length + limit - 1) / limit
  else 0

theorem length_le_pages (query : AuditQuery) {limit : Nat} (hlimit : 0 < limit) :
    (log.matching query).length ≤ pageCount log query limit * limit := by
  unfold pageCount
  split
  · have hdiv := Nat.div_add_mod ((log.matching query).length + limit - 1) limit
    have hmod := Nat.mod_lt ((log.matching query).length + limit - 1) hlimit
    rw [Nat.mul_comm] at hdiv
    omega
  · omega

theorem matching_nodup (query : AuditQuery) : (log.matching query).Nodup :=
  (List.Nodup.of_map _ log.primaryKey).filter _

def databaseOf (query : AuditQuery) (limit : Nat) (choice : Nat -> List StoredAuditEvent)
    (hchoice : forall n, Paging.IsOrdering StoredAuditEvent.createdAt (log.matching query)
      (choice n)) : AuditDatabase log where
  order := fun q offset =>
    if q = query then choice (offset / limit)
    else Paging.ordered StoredAuditEvent.createdAt (log.matching q)
  ordering := by
    intro q offset
    split
    · rename_i heq
      rw [heq]
      exact hchoice _
    · exact Paging.isOrdering_ordered _

theorem order_databaseOf (query : AuditQuery) {limit : Nat} (hlimit : 0 < limit)
    {choice : Nat -> List StoredAuditEvent}
    (hchoice : forall n, Paging.IsOrdering StoredAuditEvent.createdAt (log.matching query)
      (choice n)) :
    (fun n => (databaseOf query limit choice hchoice).order query (n * limit)) = choice := by
  funext n
  simp only [databaseOf, if_true, Nat.mul_div_cancel _ hlimit]

theorem pagedRightly_iff {query : AuditQuery} (h : Accepted query) (limit : Option Rat) :
    PagedRightly db query limit <->
      (Paging.pages (pageSize limit) (pageCount log query (pageSize limit))
          (fun n => db.order query (n * pageSize limit))).Perm (log.matching query) ∧
        forall entityType entityId, (Paging.pages (pageSize limit)
            (pageCount log query (pageSize limit))
            (fun n => db.order query (n * pageSize limit))).filter
            (AuditQuery.timeline entityType entityId).matches =
          ((log.matching query).filter
            (AuditQuery.timeline entityType entityId).matches).reverse := by
  rw [<- allPages_eq db h]
  constructor
  · rintro ⟨_, first, hfirst, hpages⟩
    rw [runQuery_of_accepted db h] at hfirst
    cases hfirst
    exact hpages
  · intro hpages
    refine ⟨?_, _, runQuery_of_accepted db h _, hpages⟩
    intro page result hresult
    rw [runQuery_of_accepted db h] at hresult
    cases hresult
    rfl

/-- Events of one entity are created in different seconds, in the order of their commits. -/
def EntitiesRise (events : List StoredAuditEvent) : Prop :=
  forall entityType entityId,
    (events.filter (AuditQuery.timeline entityType entityId).matches).Pairwise
      (fun a b => a.createdAt < b.createdAt)

theorem rise_of_paged {query : AuditQuery} (h : Accepted query) {limit : Option Rat}
    (hpaged : forall db : AuditDatabase log, PagedRightly db query limit) :
    EntitiesRise (log.matching query) := by
  intro entityType entityId
  have hlimit := pageSize_pos limit
  have hpages := ((pagedRightly_iff (databaseOf query (pageSize limit) _
    (fun _ => Paging.isOrdering_ordered _)) h limit).mp (hpaged _)).2 entityType entityId
  have hlength := (Paging.isOrdering_ordered (log.matching query) :
    Paging.IsOrdering StoredAuditEvent.createdAt _ _).perm.length_eq
  rw [order_databaseOf query hlimit, Paging.pages_const, List.take_of_length_le] at hpages
  · exact Paging.rising_of_reverse (matching_nodup query) hpages
  · rw [hlength]
    exact length_le_pages query hlimit

/-- Every database pages a query rightly exactly if no page ends between two events of one
second and the events of each entity lie in different seconds. -/
theorem paged_rightly_iff {query : AuditQuery} (h : Accepted query) (limit : Option Rat) :
    (forall db : AuditDatabase log, PagedRightly db query limit) <->
      Paging.NoTieSplit StoredAuditEvent.createdAt (pageSize limit) (log.matching query) ∧
        EntitiesRise (log.matching query) := by
  have hlimit := pageSize_pos limit
  have hcount := @length_le_pages log query _ hlimit
  constructor
  · intro hpaged
    refine ⟨?_, rise_of_paged h hpaged⟩
    refine Paging.noTieSplit_of_perm hlimit hcount (matching_nodup query) ?_
    intro choice hchoice
    have hpages := ((pagedRightly_iff _ h limit).mp
      (hpaged (databaseOf query (pageSize limit) choice hchoice))).1
    rw [order_databaseOf query hlimit] at hpages
    exact hpages
  · rintro ⟨htie, hrise⟩ db
    have hchoice : forall n, Paging.IsOrdering StoredAuditEvent.createdAt (log.matching query)
        (db.order query (n * pageSize limit)) := fun n => db.ordering query _
    rw [pagedRightly_iff db h]
    have hperm := Paging.pages_perm htie hlimit hcount hchoice
    refine ⟨hperm, ?_⟩
    intro entityType entityId
    exact Paging.eq_reverse ⟨hperm.filter _, (Paging.sorted_pages hchoice).filter _⟩
      (hrise entityType entityId)

end

/-!
## Two events of one second
-/

def startedEvent (auditEventId : String) (createdAt : Seconds) : StoredAuditEvent where
  entityType := "task"
  entityId := "task-1"
  eventType := "state_transition"
  actorType := "system"
  actorId := "automation"
  oldState := none
  newState := none
  auditEventId := auditEventId
  createdAt := createdAt

def logOf (second : Seconds) : AuditLog where
  events := [startedEvent "audit-1" 100, startedEvent "audit-2" second]
  primaryKey := by
    simp [startedEvent]

theorem accepted_task : Accepted (.timeline "task" "task-1") :=
  ⟨by decide, by decide⟩

theorem paged_rightly_seconds :
    ((logOf 101).matching (.timeline "task" "task-1")).length = 2 ∧
      forall db : AuditDatabase (logOf 101), PagedRightly db (.timeline "task" "task-1") none := by
  refine ⟨rfl, (paged_rightly_iff accepted_task none).mpr ⟨?_, ?_⟩⟩
  · rintro n ⟨t, hx, _⟩
    rcases List.getElem?_eq_some_iff.mp hx with ⟨hlt, _⟩
    have hlength : ((Paging.ordered StoredAuditEvent.createdAt ((logOf 101).matching
        (.timeline "task" "task-1"))).map StoredAuditEvent.createdAt).length = 2 := by
      rw [List.length_map, Paging.ordered, List.length_mergeSort]
      rfl
    have hsize : pageSize none = 20 := by
      rfl
    rw [hlength, hsize] at hlt
    omega
  · intro entityType entityId
    have hrise : ((logOf 101).matching (.timeline "task" "task-1")).Pairwise
        (fun a b => a.createdAt < b.createdAt) := by
      decide
    exact hrise.filter _

/-- Two transitions of one task in one second. -/
theorem not_paged_rightly_tie :
    ¬ forall db : AuditDatabase (logOf 100),
      PagedRightly db (.timeline "task" "task-1") none := by
  intro h
  have hrise := rise_of_paged accepted_task h "task" "task-1"
  revert hrise
  decide

end Auditing
end CopilotFactory
