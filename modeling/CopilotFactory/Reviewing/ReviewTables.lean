import CopilotFactory.Application.JobQueueService
import CopilotFactory.Dependencies.TaskGraph
import CopilotFactory.Domain.ReviewCycleStateMachine
import CopilotFactory.Foundations.Json

/-!
# The review tables

A review cycle collects the packets of its reviewers and ends with a decision of the
lead reviewer.  Its specialist jobs are the jobs of a group that is named after it.
The foreign key from a cycle to its task is part of the type.
-/

namespace CopilotFactory
namespace Reviewing

open Foundations
open Domain
open Infrastructure
open Application
open Dependencies

structure ReviewCycle where
  reviewCycleId : ReviewCycleId
  taskId : TaskId
  status : ReviewCycleStatus
  requiredReviewers : List String
  optionalReviewers : List String
  startedAt : Seconds
  completedAt : Option Seconds := none
deriving DecidableEq

structure ReviewPacket where
  reviewPacketId : String
  taskId : TaskId
  reviewCycleId : ReviewCycleId
  reviewerType : String
  verdict : String
  /-- The packet itself, as it was stored. -/
  packetJson : Option Json := none
  createdAt : Seconds
deriving DecidableEq

structure LeadReviewDecisionRecord where
  leadReviewDecisionId : String
  reviewCycleId : ReviewCycleId
  taskId : TaskId
  decision : LeadReviewDecision
  summary : String
  blockingIssueCount : Nat
  nonBlockingIssueCount : Nat
  followUpTaskRefs : List String
  /-- The packet of the decision, as it was stored. -/
  packetJson : Json
deriving DecidableEq

structure ReviewTables where
  store : Store
  jobs : JobTable
  reviewCycles : Table ReviewCycleId ReviewCycle ReviewCycle.reviewCycleId
  reviewPackets : Table String ReviewPacket ReviewPacket.reviewPacketId
  leadReviewDecisions :
    Table String LeadReviewDecisionRecord LeadReviewDecisionRecord.leadReviewDecisionId
  cycleTask : forall c, c ∈ reviewCycles -> (store.findTask c.taskId).isSome = true

namespace ReviewTables

def empty : ReviewTables where
  store := Store.empty
  jobs := Table.empty
  reviewCycles := Table.empty
  reviewPackets := Table.empty
  leadReviewDecisions := Table.empty
  cycleTask := by
    intro c h
    exact absurd h (Table.not_mem_empty c)

/-!
## Tasks and audit events
-/

def withStore (r : ReviewTables) (s' : Store) (h : KeepsTasks r.store s') : ReviewTables :=
  { r with
    store := s'
    cycleTask := fun c hc => h c.taskId (r.cycleTask c hc) }

def onStore (r : ReviewTables) (call : Store -> Except ServiceError Store)
    (hcall : forall s', call r.store = .ok s' -> KeepsTasks r.store s') :
    Except ServiceError ReviewTables :=
  match h : call r.store with
  | .error e => .error e
  | .ok s' => .ok (r.withStore s' (hcall s' h))

variable {r r' : ReviewTables}

theorem onStore_eq_ok {call : Store -> Except ServiceError Store}
    {hcall : forall s', call r.store = .ok s' -> KeepsTasks r.store s'} :
    r.onStore call hcall = .ok r' <->
      exists s' hs', call r.store = .ok s' ∧ r' = r.withStore s' hs' := by
  unfold onStore
  split
  · rename_i e he
    rw [he]
    simp
  · rename_i s' hs'
    constructor
    · intro h
      cases h
      exact ⟨s', _, hs', rfl⟩
    · intro h
      rcases h with ⟨s'', hs'', hok, hr'⟩
      cases hs'.symm.trans hok
      rw [hr']

theorem keepsTasks_writeTask (s : Store) (taskId : TaskId) (version : Nat)
    (data : TaskUpdate) :
    KeepsTasks s (s.writeTask taskId version data) := by
  intro id hsome
  unfold Store.findTask Store.writeTask
  rw [Table.find?_modify_isSome]
  exact hsome

def writeTask (r : ReviewTables) (taskId : TaskId) (version : Nat)
    (data : TaskUpdate) : ReviewTables :=
  r.withStore (r.store.writeTask taskId version data)
    (keepsTasks_writeTask r.store taskId version data)

def updateTask (r : ReviewTables) (taskId : TaskId) (expectedVersion : Nat)
    (data : TaskUpdate) : Except ServiceError ReviewTables :=
  match r.store.updateTask taskId expectedVersion data with
  | .error e => .error e
  | .ok _ => .ok (r.writeTask taskId (expectedVersion + 1) data)

theorem updateTask_eq_ok {taskId : TaskId} {expectedVersion : Nat} {data : TaskUpdate} :
    r.updateTask taskId expectedVersion data = .ok r' <->
      exists task, r.store.findTask taskId = some task ∧ task.version = expectedVersion ∧
        r' = r.writeTask taskId (expectedVersion + 1) data := by
  unfold updateTask
  cases hupdate : r.store.updateTask taskId expectedVersion data with
  | error e =>
      constructor
      · intro h
        cases h
      · intro h
        rcases h with ⟨task, htask, hversion, _⟩
        rw [← hversion, Store.updateTask_of_find htask] at hupdate
        cases hupdate
  | ok s' =>
      rcases Store.updateTask_eq_ok.mp hupdate with ⟨task, htask, hversion, _⟩
      constructor
      · intro h
        cases h
        exact ⟨task, htask, hversion, rfl⟩
      · intro h
        rcases h with ⟨_, _, _, hr'⟩
        rw [hr']

def appendAudit (r : ReviewTables) (event : AuditEvent) : ReviewTables :=
  r.withStore (r.store.appendAudit event) (fun _ h => h)

def createTask (r : ReviewTables) (task : Task) : Except ServiceError ReviewTables :=
  r.onStore (fun s => s.createTask task) (fun _ h => keepsTasks_of_createTask h)

@[simp] theorem writeTask_store (r : ReviewTables) (taskId : TaskId) (version : Nat)
    (data : TaskUpdate) :
    (r.writeTask taskId version data).store = r.store.writeTask taskId version data :=
  rfl

/-!
## Review cycles
-/

def findCycle (r : ReviewTables) (reviewCycleId : ReviewCycleId) : Option ReviewCycle :=
  r.reviewCycles.find? reviewCycleId

def findCyclesByTaskId (r : ReviewTables) (taskId : TaskId) : List ReviewCycle :=
  r.reviewCycles.rows.filter (fun cycle => cycle.taskId = taskId)

def createCycle (r : ReviewTables) (cycle : ReviewCycle) :
    Except ServiceError ReviewTables :=
  if hnew : r.reviewCycles.find? cycle.reviewCycleId = none then
    if htask : (r.store.findTask cycle.taskId).isSome = true then
      .ok { r with
        reviewCycles := r.reviewCycles.insert cycle hnew
        cycleTask := by
          intro c hc
          rcases (Table.mem_insert hnew).mp hc with hc | hc
          · exact r.cycleTask c hc
          · rw [hc]
            exact htask }
    else
      .error (.constraintViolation "review_cycle" "task_id")
  else
    .error (.constraintViolation "review_cycle" "review_cycle_id")

def withStatus (status : ReviewCycleStatus) (cycle : ReviewCycle) : ReviewCycle :=
  { cycle with status := status }

@[simp] theorem withStatus_reviewCycleId (status : ReviewCycleStatus) (cycle : ReviewCycle) :
    (withStatus status cycle).reviewCycleId = cycle.reviewCycleId :=
  rfl

def writeCycle (r : ReviewTables) (reviewCycleId : ReviewCycleId)
    (status : ReviewCycleStatus) : ReviewTables :=
  { r with
    reviewCycles :=
      r.reviewCycles.modify reviewCycleId (withStatus status) (withStatus_reviewCycleId status)
    cycleTask := by
      intro c hc
      rcases (Table.mem_modify (withStatus_reviewCycleId status)).mp hc with ⟨c₀, hc₀, heq⟩
      have htask : c.taskId = c₀.taskId := by
        rw [heq]
        split <;> rfl
      rw [htask]
      exact r.cycleTask c₀ hc₀ }

/-- Move a cycle whose status is still the expected one. -/
def updateCycleStatus (r : ReviewTables) (reviewCycleId : ReviewCycleId)
    (expectedStatus newStatus : ReviewCycleStatus) : Option ReviewTables :=
  match r.findCycle reviewCycleId with
  | none => none
  | some cycle =>
      if cycle.status = expectedStatus then
        some (r.writeCycle reviewCycleId newStatus)
      else
        none

theorem updateCycleStatus_eq_some {reviewCycleId : ReviewCycleId}
    {expectedStatus newStatus : ReviewCycleStatus} :
    r.updateCycleStatus reviewCycleId expectedStatus newStatus = some r' <->
      exists cycle, r.findCycle reviewCycleId = some cycle ∧
        cycle.status = expectedStatus ∧ r' = r.writeCycle reviewCycleId newStatus := by
  unfold updateCycleStatus
  cases hfind : r.findCycle reviewCycleId with
  | none =>
      simp
  | some cycle =>
      by_cases hstatus : cycle.status = expectedStatus
      · simp [hstatus, eq_comm]
      · simp [hstatus]

@[simp] theorem writeCycle_store (r : ReviewTables) (reviewCycleId : ReviewCycleId)
    (status : ReviewCycleStatus) :
    (r.writeCycle reviewCycleId status).store = r.store :=
  rfl

@[simp] theorem writeCycle_jobs (r : ReviewTables) (reviewCycleId : ReviewCycleId)
    (status : ReviewCycleStatus) :
    (r.writeCycle reviewCycleId status).jobs = r.jobs :=
  rfl

theorem writeCycle_reviewCycles (r : ReviewTables) (reviewCycleId : ReviewCycleId)
    (status : ReviewCycleStatus) :
    (r.writeCycle reviewCycleId status).reviewCycles =
      r.reviewCycles.modify reviewCycleId (withStatus status)
        (withStatus_reviewCycleId status) :=
  rfl

theorem findCycle_writeCycle_self (r : ReviewTables) (reviewCycleId : ReviewCycleId)
    (status : ReviewCycleStatus) :
    (r.writeCycle reviewCycleId status).findCycle reviewCycleId =
      (r.findCycle reviewCycleId).map (withStatus status) :=
  Table.find?_modify_self (withStatus_reviewCycleId status)

variable {cycle : ReviewCycle}

theorem mem_writeCycle {reviewCycleId : ReviewCycleId} {status : ReviewCycleStatus} :
    cycle ∈ (r.writeCycle reviewCycleId status).reviewCycles <->
      exists old, old ∈ r.reviewCycles ∧
        cycle = if old.reviewCycleId = reviewCycleId then withStatus status old else old :=
  Table.mem_modify (withStatus_reviewCycleId status)

/-!
## Jobs, packets and decisions
-/

def withJobs (r : ReviewTables) (jobs : JobTable) : ReviewTables :=
  { r with jobs := jobs }

def findPacketsByCycle (r : ReviewTables) (reviewCycleId : ReviewCycleId) :
    List ReviewPacket :=
  r.reviewPackets.rows.filter (fun packet => packet.reviewCycleId = reviewCycleId)

def createPacket (r : ReviewTables) (packet : ReviewPacket) :
    Except ServiceError ReviewTables := do
  ensure ((r.store.findTask packet.taskId).isSome = true)
    (.constraintViolation "review_packet" "task_id")
  ensure ((r.findCycle packet.reviewCycleId).isSome = true)
    (.constraintViolation "review_packet" "review_cycle_id")
  if hnew : r.reviewPackets.find? packet.reviewPacketId = none then
    .ok { r with reviewPackets := r.reviewPackets.insert packet hnew }
  else
    .error (.constraintViolation "review_packet" "review_packet_id")

def createDecision (r : ReviewTables) (record : LeadReviewDecisionRecord) :
    Except ServiceError ReviewTables := do
  ensure ((r.store.findTask record.taskId).isSome = true)
    (.constraintViolation "lead_review_decision" "task_id")
  ensure ((r.findCycle record.reviewCycleId).isSome = true)
    (.constraintViolation "lead_review_decision" "review_cycle_id")
  if hnew : r.leadReviewDecisions.find? record.leadReviewDecisionId = none then
    .ok { r with leadReviewDecisions := r.leadReviewDecisions.insert record hnew }
  else
    .error (.constraintViolation "lead_review_decision" "lead_review_decision_id")

theorem createPacket_spec {packet : ReviewPacket} (h : r.createPacket packet = .ok r') :
    r'.store = r.store ∧ r'.jobs = r.jobs ∧ r'.reviewCycles = r.reviewCycles ∧
      r'.leadReviewDecisions = r.leadReviewDecisions ∧
      forall p, p ∈ r'.reviewPackets <-> p ∈ r.reviewPackets ∨ p = packet := by
  simp only [createPacket, bind_eq_ok, ensure_eq_ok] at h
  rcases h with ⟨_, _, _, _, h⟩
  split at h
  · rename_i hnew
    cases h
    exact ⟨rfl, rfl, rfl, rfl, fun p => Table.mem_insert hnew⟩
  · cases h

theorem createDecision_spec {record : LeadReviewDecisionRecord}
    (h : r.createDecision record = .ok r') :
    r'.store = r.store ∧ r'.jobs = r.jobs ∧ r'.reviewCycles = r.reviewCycles ∧
      r'.reviewPackets = r.reviewPackets ∧
      forall d, d ∈ r'.leadReviewDecisions <-> d ∈ r.leadReviewDecisions ∨ d = record := by
  simp only [createDecision, bind_eq_ok, ensure_eq_ok] at h
  rcases h with ⟨_, _, _, _, h⟩
  split at h
  · rename_i hnew
    cases h
    exact ⟨rfl, rfl, rfl, rfl, fun d => Table.mem_insert hnew⟩
  · cases h

theorem createCycle_spec (h : r.createCycle cycle = .ok r') :
    r.findCycle cycle.reviewCycleId = none ∧ r'.store = r.store ∧ r'.jobs = r.jobs ∧
      r'.reviewPackets = r.reviewPackets ∧ r'.leadReviewDecisions = r.leadReviewDecisions ∧
      forall c, c ∈ r'.reviewCycles <-> c ∈ r.reviewCycles ∨ c = cycle := by
  unfold createCycle at h
  split at h
  · rename_i hnew
    split at h
    · cases h
      exact ⟨hnew, rfl, rfl, rfl, rfl, fun c => Table.mem_insert hnew⟩
    · cases h
  · cases h

/-- A new cycle is stored after all others. -/
theorem createCycle_rows (h : r.createCycle cycle = .ok r') :
    r'.reviewCycles.rows = r.reviewCycles.rows ++ [cycle] := by
  unfold createCycle at h
  split at h
  · split at h
    · cases h
      rfl
    · cases h
  · cases h

theorem createCycle_of_new (cycle : ReviewCycle) (hnew : r.findCycle cycle.reviewCycleId = none)
    (htask : (r.store.findTask cycle.taskId).isSome = true) :
    exists r', r.createCycle cycle = .ok r' ∧
      r'.findCycle cycle.reviewCycleId = some cycle := by
  have hnew' : r.reviewCycles.find? cycle.reviewCycleId = none := hnew
  unfold createCycle
  rw [dif_pos hnew', dif_pos htask]
  exact ⟨_, rfl, Table.find?_insert_self hnew'⟩

end ReviewTables

end Reviewing
end CopilotFactory
