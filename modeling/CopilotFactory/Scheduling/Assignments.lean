import CopilotFactory.Foundations.Process
import CopilotFactory.Scheduling.WorkConservation

/-!
# One call of the scheduler among others

Between the transactions of a call, others change the tables, and each of its own
transactions may fail.  The lease is acquired in one transaction and the dispatch
job is created in the next: if the second one fails, the first one stays.
-/

namespace CopilotFactory
namespace Scheduling

open Foundations
open Infrastructure
open Application

variable {best : Option SchedulablePool}

/-- A ready task, and what the calls made for it meet: the clock and the generated ids, the
tables as others have left them, what others commit before the job is created, and the
faults of the database. -/
structure Candidate where
  task : SchedulableTask
  now : Millis
  leaseId : LeaseId
  workerId : WorkerId
  jobId : JobId
  tables : SchedulerTables
  leaseFault : Option ServiceError := none
  beforeJob : SchedulerTables -> SchedulerTables := id
  jobFault : Option ServiceError := none

/-- A transaction that meets a fault of the database. -/
def unlessFault {α : Type} (fault : Option ServiceError) (r : Except ServiceError α) :
    Except ServiceError α :=
  match fault with
  | some e => .error e
  | none => r

namespace Candidate

def acquisition (c : Candidate) (pool : SchedulablePool) :
    Except ServiceError (Store × LeaseAcquisitionResult) :=
  unlessFault c.leaseFault
    (acquireLease c.now c.leaseId (assignmentParams c.task pool c.workerId) c.tables.store)

def dispatchTables (c : Candidate) (s : Store) : SchedulerTables :=
  c.beforeJob { c.tables with store := s }

def dispatch (c : Candidate) (pool : SchedulablePool) (w : SchedulerTables) :
    Except ServiceError (JobTable × Job) :=
  unlessFault c.jobFault
    (createJob c.now c.jobId (dispatchJobData c.task pool c.leaseId c.workerId) w.jobs)

end Candidate

/-!
## The call
-/

abbrev SchedulerProcess := Process SchedulerTables ServiceError

def acquire (c : Candidate) (pool : SchedulablePool) :
    SchedulerProcess LeaseAcquisitionResult := do
  Process.await (fun _ => c.tables) (.ok ())
  Process.transaction (fun w store => { w with store := store }) id
    (fun _ => c.acquisition pool)

def createDispatchJob (c : Candidate) (pool : SchedulablePool) : SchedulerProcess Job := do
  Process.await c.beforeJob (.ok ())
  Process.transaction (fun w jobs => { w with jobs := jobs }) id (c.dispatch pool)

def tryEach (pools : List SchedulablePool) :
    List Candidate -> Nat -> Bool -> SchedulerProcess ScheduleResult
  | [], candidatesEvaluated, anyPoolHadCapacity =>
      pure (.notAssigned
        (if anyPoolHadCapacity then .allCandidatesContended else .allPoolsAtCapacity)
        candidatesEvaluated)
  | c :: rest, candidatesEvaluated, anyPoolHadCapacity =>
      match chosenPool c.task pools with
      | none => tryEach pools rest (candidatesEvaluated + 1) anyPoolHadCapacity
      | some pool => do
          match ← Process.attempt (acquire c pool) with
          | .error e =>
              if isContention e = true then
                tryEach pools rest (candidatesEvaluated + 1) true
              else
                Process.throw e
          | .ok _ =>
              let dispatchJob ← createDispatchJob c pool
              pure (.assigned c.task pool c.leaseId dispatchJob.jobId)

def scheduleAmong (candidates : List Candidate) (pools : List SchedulablePool) :
    SchedulerProcess ScheduleResult :=
  if candidates.isEmpty then
    pure (.notAssigned .noReadyTasks 0)
  else if pools.isEmpty then
    pure (.notAssigned .noCompatiblePools 0)
  else
    tryEach pools candidates 0 false

/-!
## What becomes of a candidate
-/

/-- The candidate gets no pool, or its acquisition reports contention. -/
def passedOver (pools : List SchedulablePool) (c : Candidate) : Bool :=
  match chosenPool c.task pools with
  | none => true
  | some pool =>
      match c.acquisition pool with
      | .ok _ => false
      | .error e => isContention e

def firstServed (pools : List SchedulablePool) (candidates : List Candidate) :
    Option Candidate :=
  candidates.find? (fun c => !passedOver pools c)

def servedEnding (c : Candidate) (pool : SchedulablePool) :
    Ending SchedulerTables ServiceError ScheduleResult :=
  match c.acquisition pool with
  | .error e => { result := .error e, state := c.tables, commits := [] }
  | .ok (s, _) =>
      let leased : SchedulerTables := { c.tables with store := s }
      let w := c.dispatchTables s
      match c.dispatch pool w with
      | .error e => { result := .error e, state := w, commits := [(c.tables, leased)] }
      | .ok (jobs, job) =>
          { result := .ok (.assigned c.task pool c.leaseId job.jobId)
            state := { w with jobs := jobs }
            commits := [(c.tables, leased), (w, { w with jobs := jobs })] }

theorem acquire_ending (c : Candidate) (pool : SchedulablePool) (w : SchedulerTables) :
    acquire c pool w =
      match c.acquisition pool with
      | .error e => { result := .error e, state := c.tables, commits := [] }
      | .ok (s, lease) =>
          { result := .ok lease
            state := { c.tables with store := s }
            commits := [(c.tables, { c.tables with store := s })] } := by
  unfold acquire
  simp only [Bind.bind, Process.await, Process.transaction]
  cases c.acquisition pool with
  | error e => rfl
  | ok r => rfl

theorem createDispatchJob_ending (c : Candidate) (pool : SchedulablePool)
    (w : SchedulerTables) :
    createDispatchJob c pool w =
      match c.dispatch pool (c.beforeJob w) with
      | .error e => { result := .error e, state := c.beforeJob w, commits := [] }
      | .ok (jobs, job) =>
          { result := .ok job
            state := { c.beforeJob w with jobs := jobs }
            commits := [(c.beforeJob w, { c.beforeJob w with jobs := jobs })] } := by
  unfold createDispatchJob
  simp only [Bind.bind, Process.await, Process.transaction]
  cases c.dispatch pool (c.beforeJob w) with
  | error e => rfl
  | ok r => rfl

theorem tryEach_passedOver {pools : List SchedulablePool} {c : Candidate}
    (h : passedOver pools c = true) (rest : List Candidate) (evaluated : Nat)
    (anyPoolHadCapacity : Bool) (w : SchedulerTables) :
    exists w', tryEach pools (c :: rest) evaluated anyPoolHadCapacity w =
      tryEach pools rest (evaluated + 1)
        (anyPoolHadCapacity || (chosenPool c.task pools).isSome) w' := by
  unfold passedOver at h
  simp only [tryEach]
  cases hpool : chosenPool c.task pools with
  | none =>
      refine ⟨w, ?_⟩
      simp
  | some pool =>
      simp only [hpool] at h
      cases hacquired : c.acquisition pool with
      | ok r =>
          simp only [hacquired] at h
          cases h
      | error e =>
          simp only [hacquired] at h
          refine ⟨c.tables, ?_⟩
          simp only [Bind.bind, Process.attempt, acquire_ending, hacquired, h, if_true,
            Option.isSome_some, Bool.or_true, List.nil_append]

theorem tryEach_served {pools : List SchedulablePool} {c : Candidate}
    (h : passedOver pools c = false) (rest : List Candidate) (evaluated : Nat)
    (anyPoolHadCapacity : Bool) (w : SchedulerTables) :
    exists pool, chosenPool c.task pools = some pool ∧
      tryEach pools (c :: rest) evaluated anyPoolHadCapacity w = servedEnding c pool := by
  unfold passedOver at h
  simp only [tryEach]
  cases hpool : chosenPool c.task pools with
  | none =>
      simp only [hpool] at h
      cases h
  | some pool =>
      simp only [hpool] at h
      refine ⟨pool, rfl, ?_⟩
      unfold servedEnding
      cases hacquired : c.acquisition pool with
      | error e =>
          simp only [hacquired] at h
          simp only [Bind.bind, Process.attempt, acquire_ending, hacquired, h,
            Bool.false_eq_true, if_false, Process.throw, List.append_nil]
      | ok r =>
          simp only [Bind.bind, Process.attempt, acquire_ending, hacquired,
            createDispatchJob_ending, Candidate.dispatchTables]
          cases c.dispatch pool (c.beforeJob { c.tables with store := r.1 }) with
          | error e => rfl
          | ok r' => rfl

theorem tryEach_ending (pools : List SchedulablePool) (candidates : List Candidate)
    (evaluated : Nat) (anyPoolHadCapacity : Bool) (w : SchedulerTables) :
    (firstServed pools candidates = none ∧
      exists w', tryEach pools candidates evaluated anyPoolHadCapacity w =
        { result := .ok (.notAssigned
            (if anyPoolHadCapacity ||
                candidates.any (fun c => (chosenPool c.task pools).isSome)
              then .allCandidatesContended else .allPoolsAtCapacity)
            (evaluated + candidates.length))
          state := w'
          commits := [] }) ∨
    exists c pool, firstServed pools candidates = some c ∧
      chosenPool c.task pools = some pool ∧
      tryEach pools candidates evaluated anyPoolHadCapacity w = servedEnding c pool := by
  induction candidates generalizing evaluated anyPoolHadCapacity w with
  | nil =>
      refine Or.inl ⟨rfl, w, ?_⟩
      simp only [tryEach, List.any_nil, Bool.or_false, List.length_nil, Nat.add_zero]
      rfl
  | cons c rest ih =>
      cases hpassed : passedOver pools c with
      | true =>
          have hfirst : firstServed pools (c :: rest) = firstServed pools rest :=
            List.find?_cons_of_neg (by simp [hpassed])
          rcases tryEach_passedOver hpassed rest evaluated anyPoolHadCapacity w with
            ⟨w', hskip⟩
          rw [hfirst, hskip, List.any_cons, ← Bool.or_assoc, List.length_cons,
            Nat.add_comm rest.length 1, ← Nat.add_assoc]
          exact ih _ _ w'
      | false =>
          have hfirst : firstServed pools (c :: rest) = some c :=
            List.find?_cons_of_pos (by simp [hpassed])
          rcases tryEach_served hpassed rest evaluated anyPoolHadCapacity w with
            ⟨pool, hpool, hending⟩
          exact Or.inr ⟨c, pool, hfirst, hpool, hending⟩

/-!
## The choice of a pool
-/

def Provides (pool : SchedulablePool) (task : SchedulableTask) : Prop :=
  forall capability, capability ∈ task.requiredCapabilities ->
    capability ∈ pool.capabilities

def freeSlots (pool : SchedulablePool) : Nat :=
  pool.maxConcurrency - pool.activeLeaseCount

/-- A compatible pool with a free slot, and no other such pool has more of them. -/
structure IsBestPool (pools : List SchedulablePool) (task : SchedulableTask)
    (pool : SchedulablePool) : Prop where
  mem : pool ∈ pools
  provides : Provides pool task
  hasSlot : pool.activeLeaseCount < pool.maxConcurrency
  most : forall other, other ∈ pools -> Provides other task ->
    other.activeLeaseCount < other.maxConcurrency -> freeSlots other ≤ freeSlots pool

theorem isPoolCompatible_iff {task : SchedulableTask} {pool : SchedulablePool} :
    isPoolCompatible task pool = true <-> Provides pool task := by
  unfold isPoolCompatible Provides
  rw [List.all_eq_true]
  exact forall₂_congr (fun _ _ => decide_eq_true_iff)

theorem hasPoolCapacity_iff {pool : SchedulablePool} :
    hasPoolCapacity pool = true <-> pool.activeLeaseCount < pool.maxConcurrency :=
  decide_eq_true_iff

/-- One round keeps the best pool so far, or takes a better one. -/
theorem betterPool_most {next pool : SchedulablePool} (h : betterPool best next = some pool) :
    (forall other, best = some other -> freeSlots other ≤ freeSlots pool) ∧
      (hasPoolCapacity next = true -> freeSlots next ≤ freeSlots pool) := by
  unfold betterPool at h
  split at h
  · rename_i hcapacity
    split at h
    · cases h
      refine ⟨?_, fun _ => Nat.le_refl _⟩
      intro other hother
      cases hother
    · rename_i other
      split at h
      · rename_i hmore
        cases h
        refine ⟨?_, fun _ => Nat.le_refl _⟩
        intro other' hother'
        cases hother'
        exact Nat.le_of_lt hmore
      · rename_i hnotMore
        cases h
        refine ⟨?_, fun _ => Nat.not_lt.mp hnotMore⟩
        intro other' hother'
        cases hother'
        exact Nat.le_refl _
  · rename_i hfull
    refine ⟨?_, fun hcapacity => absurd hcapacity hfull⟩
    intro other hother
    rw [h] at hother
    cases hother
    exact Nat.le_refl _

theorem betterPool_isSome {next : SchedulablePool}
    (h : best.isSome = true ∨ hasPoolCapacity next = true) :
    (betterPool best next).isSome = true := by
  unfold betterPool
  split
  · split
    · rfl
    · split
      · rfl
      · rfl
  · rename_i hfull
    rcases h with h | h
    · exact h
    · exact absurd h hfull

theorem foldl_betterPool_most {pools : List SchedulablePool} {pool : SchedulablePool}
    (h : pools.foldl betterPool best = some pool) :
    (forall other, best = some other -> freeSlots other ≤ freeSlots pool) ∧
      forall other, other ∈ pools -> hasPoolCapacity other = true ->
        freeSlots other ≤ freeSlots pool := by
  induction pools generalizing best with
  | nil =>
      refine ⟨?_, fun other hother => absurd hother List.not_mem_nil⟩
      intro other hother
      rw [List.foldl_nil, hother] at h
      cases h
      exact Nat.le_refl _
  | cons next rest ih =>
      rcases ih h with ⟨hbest, hrest⟩
      -- A pool that is better than all before the rest is at most as good as the result.
      have hround : forall other, (best = some other ∨
          (other = next ∧ hasPoolCapacity next = true)) ->
          freeSlots other ≤ freeSlots pool := by
        intro other hother
        have hsome : (betterPool best next).isSome = true := by
          apply betterPool_isSome
          rcases hother with hother | hother
          · exact Or.inl (by rw [hother]; rfl)
          · exact Or.inr hother.2
        rcases Option.isSome_iff_exists.mp hsome with ⟨chosen, hchosen⟩
        rcases betterPool_most hchosen with ⟨hold, hnew⟩
        rcases hother with hother | ⟨hother, hcapacity⟩
        · exact Nat.le_trans (hold other hother) (hbest chosen hchosen)
        · rw [hother]
          exact Nat.le_trans (hnew hcapacity) (hbest chosen hchosen)
      refine ⟨fun other hother => hround other (Or.inl hother), ?_⟩
      intro other hother hcapacity
      rcases List.mem_cons.mp hother with hother | hother
      · exact hround other (Or.inr ⟨hother, by rw [← hother]; exact hcapacity⟩)
      · exact hrest other hother hcapacity

theorem isBestPool_of_chosenPool {task : SchedulableTask} {pools : List SchedulablePool}
    {pool : SchedulablePool} (h : chosenPool task pools = some pool) :
    IsBestPool pools task pool := by
  unfold chosenPool at h
  rcases selectBestPool_spec h with ⟨hmem, hslot⟩
  rcases List.mem_filter.mp hmem with ⟨hmem, hcompatible⟩
  refine ⟨hmem, isPoolCompatible_iff.mp hcompatible, hslot, ?_⟩
  intro other hother hprovides hfree
  exact (foldl_betterPool_most h).2 other
    (List.mem_filter.mpr ⟨hother, isPoolCompatible_iff.mpr hprovides⟩)
    (hasPoolCapacity_iff.mpr hfree)

def AllFull (pools : List SchedulablePool) (task : SchedulableTask) : Prop :=
  forall pool, pool ∈ pools -> Provides pool task ->
    pool.maxConcurrency ≤ pool.activeLeaseCount

theorem chosenPool_eq_none_iff_allFull {task : SchedulableTask}
    {pools : List SchedulablePool} :
    chosenPool task pools = none <-> AllFull pools task := by
  unfold chosenPool
  rw [selectBestPool_eq_none_iff]
  constructor
  · intro h pool hpool hprovides
    have hfull := h pool
      (List.mem_filter.mpr ⟨hpool, isPoolCompatible_iff.mpr hprovides⟩)
    exact Nat.not_lt.mp (of_decide_eq_false hfull)
  · intro h pool hpool
    rcases List.mem_filter.mp hpool with ⟨hpool, hcompatible⟩
    exact decide_eq_false
      (Nat.not_lt.mpr (h pool hpool (isPoolCompatible_iff.mp hcompatible)))

/-!
## What a call should do
-/

/-- No pool is free for the candidate, or its acquisition in a best pool reports
contention. -/
def Skipped (pools : List SchedulablePool) (c : Candidate) : Prop :=
  AllFull pools c.task ∨
    exists pool e, IsBestPool pools c.task pool ∧ c.acquisition pool = .error e ∧
      isContention e = true

/-- The candidate is the first one that is not skipped, and this is a best pool for it. -/
def ServedFirst (candidates : List Candidate) (pools : List SchedulablePool)
    (c : Candidate) (pool : SchedulablePool) : Prop :=
  IsBestPool pools c.task pool ∧
    exists front back, candidates = front ++ c :: back ∧
      forall other, other ∈ front -> Skipped pools other

/-- The lease of the candidate and its dispatch job are both written. -/
def Dispatched (c : Candidate) (pool : SchedulablePool)
    (ending : Ending SchedulerTables ServiceError ScheduleResult) : Prop :=
  exists s lease jobs job, c.acquisition pool = .ok (s, lease) ∧
    c.dispatch pool (c.dispatchTables s) = .ok (jobs, job) ∧
    ending.result = .ok (.assigned c.task pool c.leaseId job.jobId) ∧
    ending.commits = [(c.tables, { c.tables with store := s }),
      (c.dispatchTables s, { c.dispatchTables s with jobs := jobs })]

def ThrownFor (c : Candidate) (pool : SchedulablePool) (e : ServiceError) : Prop :=
  (c.acquisition pool = .error e ∧ isContention e = false) ∨
    exists s lease, c.acquisition pool = .ok (s, lease) ∧
      c.dispatch pool (c.dispatchTables s) = .error e

def SomeCompatible (candidates : List Candidate) (pools : List SchedulablePool) : Prop :=
  exists c pool, c ∈ candidates ∧ pool ∈ pools ∧ Provides pool c.task

/-- The reason says why nothing was assigned.  Without candidates that is the whole
reason. -/
structure AccurateReason (candidates : List Candidate) (pools : List SchedulablePool)
    (reason : ScheduleSkipReason) : Prop where
  noReadyTasks : reason = .noReadyTasks <-> candidates = []
  noCompatiblePools : candidates ≠ [] ->
    (reason = .noCompatiblePools <-> ¬ SomeCompatible candidates pools)
  allPoolsAtCapacity : reason = .allPoolsAtCapacity ->
    SomeCompatible candidates pools ∧ forall c, c ∈ candidates -> AllFull pools c.task

/-- The first candidate that can be is assigned, nothing is changed otherwise, and the
reason for that is accurate. -/
structure SchedulesWell (candidates : List Candidate) (pools : List SchedulablePool)
    (ending : Ending SchedulerTables ServiceError ScheduleResult) : Prop where
  assigned : forall task pool leaseId jobId,
    ending.result = .ok (.assigned task pool leaseId jobId) ->
      exists c, c.task = task ∧ ServedFirst candidates pools c pool ∧
        Dispatched c pool ending
  notAssigned : forall reason evaluated,
    ending.result = .ok (.notAssigned reason evaluated) ->
      forall c, c ∈ candidates -> Skipped pools c
  thrown : forall e, ending.result = .error e ->
    exists c pool, ServedFirst candidates pools c pool ∧ ThrownFor c pool e
  unchanged : (forall task pool leaseId jobId,
    ending.result ≠ .ok (.assigned task pool leaseId jobId)) -> ending.commits = []
  reason : forall reason evaluated,
    ending.result = .ok (.notAssigned reason evaluated) ->
      AccurateReason candidates pools reason

/-- The job is created if the lease is acquired, and some pool is compatible with some
candidate, where there are any of both. -/
structure CallsSucceed (candidates : List Candidate) (pools : List SchedulablePool) :
    Prop where
  dispatched : forall c pool s lease, firstServed pools candidates = some c ->
    chosenPool c.task pools = some pool -> c.acquisition pool = .ok (s, lease) ->
    exists r, c.dispatch pool (c.dispatchTables s) = .ok r
  compatible : candidates ≠ [] -> pools ≠ [] -> SomeCompatible candidates pools

theorem skipped_of_passedOver {pools : List SchedulablePool} {c : Candidate}
    (h : passedOver pools c = true) :
    Skipped pools c := by
  unfold passedOver at h
  cases hpool : chosenPool c.task pools with
  | none =>
      exact Or.inl (chosenPool_eq_none_iff_allFull.mp hpool)
  | some pool =>
      simp only [hpool] at h
      cases hacquired : c.acquisition pool with
      | ok r =>
          simp only [hacquired] at h
          cases h
      | error e =>
          simp only [hacquired] at h
          exact Or.inr ⟨pool, e, isBestPool_of_chosenPool hpool, hacquired, h⟩

theorem skipped_of_firstServed_none {pools : List SchedulablePool}
    {candidates : List Candidate} (h : firstServed pools candidates = none)
    (c : Candidate) (hc : c ∈ candidates) :
    Skipped pools c := by
  have hpassed := List.find?_eq_none.mp h c hc
  exact skipped_of_passedOver (by simpa using hpassed)

theorem servedFirst_of_firstServed {pools : List SchedulablePool}
    {candidates : List Candidate} {c : Candidate} {pool : SchedulablePool}
    (h : firstServed pools candidates = some c) (hpool : chosenPool c.task pools = some pool) :
    ServedFirst candidates pools c pool := by
  rcases List.find?_eq_some_iff_append.mp h with ⟨_, front, back, hsplit, hfront⟩
  refine ⟨isBestPool_of_chosenPool hpool, front, back, hsplit, ?_⟩
  intro other hother
  exact skipped_of_passedOver (by simpa using hfront other hother)

theorem not_contention_of_firstServed {pools : List SchedulablePool}
    {candidates : List Candidate} {c : Candidate} {pool : SchedulablePool} {e : ServiceError}
    (h : firstServed pools candidates = some c) (hpool : chosenPool c.task pools = some pool)
    (hacquired : c.acquisition pool = .error e) :
    isContention e = false := by
  have hserved := List.find?_some h
  unfold passedOver at hserved
  simp only [hpool, hacquired] at hserved
  simpa using hserved

/-!
## How a call ends
-/

theorem schedulesWell_of_declined {candidates : List Candidate} {pools : List SchedulablePool}
    {ending : Ending SchedulerTables ServiceError ScheduleResult}
    {reason : ScheduleSkipReason} {evaluated : Nat}
    (hresult : ending.result = .ok (.notAssigned reason evaluated))
    (hcommits : ending.commits = [])
    (hskipped : forall c, c ∈ candidates -> Skipped pools c) :
    SchedulesWell candidates pools ending <-> AccurateReason candidates pools reason := by
  constructor
  · intro h
    exact h.reason reason evaluated hresult
  · intro h
    refine ⟨?_, fun _ _ _ => hskipped, ?_, fun _ => hcommits, ?_⟩
    · intro task pool leaseId jobId hassigned
      rw [hresult] at hassigned
      cases hassigned
    · intro e herror
      rw [hresult] at herror
      cases herror
    · intro reason' evaluated' hresult'
      rw [hresult] at hresult'
      cases hresult'
      exact h

section Served

variable {candidates : List Candidate} {pools : List SchedulablePool} {c : Candidate}
  {pool : SchedulablePool} {s : Store} {lease : LeaseAcquisitionResult} {e : ServiceError}

theorem schedulesWell_of_acquire_error (hserved : ServedFirst candidates pools c pool)
    (hacquired : c.acquisition pool = .error e) (hcontention : isContention e = false) :
    SchedulesWell candidates pools (servedEnding c pool) := by
  have hending : servedEnding c pool =
      { result := .error e, state := c.tables, commits := [] } := by
    simp only [servedEnding, hacquired]
  rw [hending]
  refine ⟨?_, ?_, ?_, fun _ => rfl, ?_⟩
  · intro task pool leaseId jobId h
    cases h
  · intro reason evaluated h
    cases h
  · intro e' h
    cases h
    exact ⟨c, pool, hserved, Or.inl ⟨hacquired, hcontention⟩⟩
  · intro reason evaluated h
    cases h

/-- The lease of an assignment whose job is not created stays behind. -/
theorem not_schedulesWell_of_dispatch_error (hacquired : c.acquisition pool = .ok (s, lease))
    (hdispatched : c.dispatch pool (c.dispatchTables s) = .error e) :
    ¬ SchedulesWell candidates pools (servedEnding c pool) := by
  have hending : servedEnding c pool =
      { result := .error e
        state := c.dispatchTables s
        commits := [(c.tables, { c.tables with store := s })] } := by
    simp only [servedEnding, hacquired, hdispatched]
  rw [hending]
  intro h
  exact absurd (h.unchanged (fun _ _ _ _ h => nomatch h)) (List.cons_ne_nil _ _)

theorem schedulesWell_of_dispatch_ok (hserved : ServedFirst candidates pools c pool)
    (hacquired : c.acquisition pool = .ok (s, lease)) {jobs : JobTable} {job : Job}
    (hdispatched : c.dispatch pool (c.dispatchTables s) = .ok (jobs, job)) :
    SchedulesWell candidates pools (servedEnding c pool) := by
  have hending : servedEnding c pool =
      { result := .ok (.assigned c.task pool c.leaseId job.jobId)
        state := { c.dispatchTables s with jobs := jobs }
        commits := [(c.tables, { c.tables with store := s }),
          (c.dispatchTables s, { c.dispatchTables s with jobs := jobs })] } := by
    simp only [servedEnding, hacquired, hdispatched]
  rw [hending]
  refine ⟨?_, ?_, ?_, fun h => absurd rfl (h _ _ _ _), ?_⟩
  · intro task pool' leaseId jobId h
    cases h
    exact ⟨c, rfl, hserved, s, lease, jobs, job, hacquired, hdispatched, rfl, rfl⟩
  · intro reason evaluated h
    cases h
  · intro e h
    cases h
  · intro reason evaluated h
    cases h

end Served

theorem schedulesWell_of_served {candidates : List Candidate} {pools : List SchedulablePool}
    {c : Candidate} {pool : SchedulablePool} (hserved : ServedFirst candidates pools c pool)
    (hcontention : forall e, c.acquisition pool = .error e -> isContention e = false) :
    SchedulesWell candidates pools (servedEnding c pool) <->
      forall s lease, c.acquisition pool = .ok (s, lease) ->
        exists r, c.dispatch pool (c.dispatchTables s) = .ok r := by
  cases hacquired : c.acquisition pool with
  | error e =>
      have hwell := schedulesWell_of_acquire_error hserved hacquired (hcontention e hacquired)
      exact iff_of_true hwell (fun s lease h => nomatch h)
  | ok r =>
      rcases r with ⟨s, lease⟩
      cases hdispatched : c.dispatch pool (c.dispatchTables s) with
      | error e =>
          apply iff_of_false (not_schedulesWell_of_dispatch_error hacquired hdispatched)
          intro h
          rcases h s lease rfl with ⟨r, hr⟩
          rw [hdispatched] at hr
          cases hr
      | ok r =>
          apply iff_of_true (schedulesWell_of_dispatch_ok hserved hacquired hdispatched)
          intro s' lease' h
          cases h
          exact ⟨_, hdispatched⟩

theorem someCompatible_of_chosenPool {candidates : List Candidate}
    {pools : List SchedulablePool} {c : Candidate} (hc : c ∈ candidates)
    (h : (chosenPool c.task pools).isSome = true) :
    SomeCompatible candidates pools := by
  rcases Option.isSome_iff_exists.mp h with ⟨pool, hpool⟩
  have hbest := isBestPool_of_chosenPool hpool
  exact ⟨c, pool, hc, hbest.mem, hbest.provides⟩

theorem accurateReason_of_exhausted {candidates : List Candidate}
    {pools : List SchedulablePool} (hcandidates : candidates ≠ []) :
    AccurateReason candidates pools
        (if candidates.any (fun c => (chosenPool c.task pools).isSome)
          then .allCandidatesContended else .allPoolsAtCapacity) <->
      SomeCompatible candidates pools := by
  cases hany : candidates.any (fun c => (chosenPool c.task pools).isSome) with
  | true =>
      rcases List.any_eq_true.mp hany with ⟨c, hc, hsome⟩
      have hcompatible := someCompatible_of_chosenPool hc hsome
      refine ⟨fun _ => hcompatible, fun _ => ⟨?_, ?_, ?_⟩⟩
      · exact ⟨fun h => (nomatch h), fun h => absurd h hcandidates⟩
      · exact fun _ => ⟨fun h => (nomatch h), fun h => absurd hcompatible h⟩
      · exact fun h => nomatch h
  | false =>
      refine ⟨fun h => (h.allPoolsAtCapacity rfl).1, fun hcompatible => ⟨?_, ?_, ?_⟩⟩
      · exact ⟨fun h => (nomatch h), fun h => absurd h hcandidates⟩
      · exact fun _ => ⟨fun h => (nomatch h), fun h => absurd hcompatible h⟩
      · intro _
        refine ⟨hcompatible, fun c hc => chosenPool_eq_none_iff_allFull.mp ?_⟩
        have hnone := List.any_eq_false.mp hany c hc
        exact Option.not_isSome_iff_eq_none.mp hnone

/-- A call does what it should exactly if the creation of the job does not fail after the
acquisition, and some pool is compatible with some candidate. -/
theorem scheduleAmong_well_iff (candidates : List Candidate) (pools : List SchedulablePool)
    (w : SchedulerTables) :
    SchedulesWell candidates pools (scheduleAmong candidates pools w) <->
      CallsSucceed candidates pools := by
  unfold scheduleAmong
  cases candidates with
  | nil =>
      have hwell : SchedulesWell [] pools
          (Ending.mk (.ok (.notAssigned .noReadyTasks 0)) w []) := by
        rw [schedulesWell_of_declined rfl rfl (fun c hc => absurd hc List.not_mem_nil)]
        exact ⟨⟨fun _ => rfl, fun _ => rfl⟩, fun h => absurd rfl h, fun h => nomatch h⟩
      exact ⟨fun _ => ⟨fun c pool s lease h => (by cases h), fun h => absurd rfl h⟩,
        fun _ => hwell⟩
  | cons first rest =>
      cases pools with
      | nil =>
          have hskipped : forall c, c ∈ first :: rest -> Skipped [] c :=
            fun c _ => Or.inl (fun pool hpool => absurd hpool List.not_mem_nil)
          have hnone : ¬ SomeCompatible (first :: rest) [] := by
            intro h
            rcases h with ⟨c, pool, _, hpool, _⟩
            cases hpool
          have hwell : SchedulesWell (first :: rest) []
              (Ending.mk (.ok (.notAssigned .noCompatiblePools 0)) w []) := by
            rw [schedulesWell_of_declined rfl rfl hskipped]
            exact ⟨⟨fun h => (nomatch h), fun h => nomatch h⟩,
              fun _ => ⟨fun _ => hnone, fun _ => rfl⟩, fun h => nomatch h⟩
          refine ⟨fun _ => ⟨?_, fun _ h => absurd rfl h⟩, fun _ => hwell⟩
          intro c pool s lease _ hpool
          cases hpool
      | cons firstPool restPools =>
          simp only [List.isEmpty_cons, Bool.false_eq_true, if_false]
          rcases tryEach_ending (firstPool :: restPools) (first :: rest) 0 false w with
            ⟨hnone, w', hending⟩ | ⟨c, pool, hfirst, hpool, hending⟩
          · rw [hending, schedulesWell_of_declined rfl rfl
              (skipped_of_firstServed_none hnone), Bool.false_or,
              accurateReason_of_exhausted (List.cons_ne_nil _ _)]
            constructor
            · intro h
              refine ⟨?_, fun _ _ => h⟩
              intro c pool s lease hfirst
              rw [hnone] at hfirst
              cases hfirst
            · intro h
              exact h.compatible (List.cons_ne_nil _ _) (List.cons_ne_nil _ _)
          · rw [hending, schedulesWell_of_served (servedFirst_of_firstServed hfirst hpool)
              (fun e he => not_contention_of_firstServed hfirst hpool he)]
            constructor
            · intro h
              refine ⟨?_, fun _ _ => ?_⟩
              · intro c' pool' s lease hfirst' hpool' hacquired
                rw [hfirst] at hfirst'
                cases hfirst'
                rw [hpool] at hpool'
                cases hpool'
                exact h s lease hacquired
              · exact someCompatible_of_chosenPool (List.mem_of_find?_eq_some hfirst)
                  (by rw [hpool]; rfl)
            · intro h s lease hacquired
              exact h.dispatched c pool s lease hfirst hpool hacquired

/-!
## A lease without a job, and a pool for nobody

The task is ready and the pool is free.  In one call the database refuses the dispatch
job; in another the task needs a capability that the pool does not have.
-/

def readyForWork : Store where
  tasks.rows :=
    [{ taskId := "task-1", repositoryId := "repo-1", taskType := "feature",
       priority := "high", status := .ready, version := 2, retryCount := 0,
       currentLeaseId := none, currentReviewCycleId := none,
       mergeQueueItemId := none, completedAt := none }]
  tasks.nodup := List.nodup_singleton _
  taskLeases := Table.empty
  workerPools.rows := [{ workerPoolId := "pool-1", maxConcurrency := 1 }]
  workerPools.nodup := List.nodup_singleton "pool-1"
  mergeQueueItems := Table.empty
  auditEvents := []
  leaseTask := by
    intro l h
    exact absurd h (Table.not_mem_empty l)
  leasePool := by
    intro l h
    exact absurd h (Table.not_mem_empty l)
  itemTask := by
    intro i h
    exact absurd h (Table.not_mem_empty i)

def freePool : SchedulablePool where
  poolId := "pool-1"
  poolType := .developer
  capabilities := ["node"]
  maxConcurrency := 1
  activeLeaseCount := 0
  defaultTimeoutSec := 0

def readyCandidate (requiredCapabilities : List String) : Candidate where
  task :=
    { taskId := "task-1", repositoryId := "repo-1", priority := "high",
      requiredCapabilities := requiredCapabilities }
  now := 0
  leaseId := "lease-1"
  workerId := "worker-1"
  jobId := "job-1"
  tables := { store := readyForWork, jobs := Table.empty }
  jobFault := some (.constraintViolation "job" "job_id")

/-- The call throws with the lease committed; the other one says that the free pool is at
capacity. -/
theorem lease_without_job_and_misleading_reason :
    ¬ SchedulesWell [readyCandidate []] [freePool]
        (scheduleAmong [readyCandidate []] [freePool] (readyCandidate []).tables) ∧
      ¬ SchedulesWell [readyCandidate ["gpu"]] [freePool]
        (scheduleAmong [readyCandidate ["gpu"]] [freePool]
          (readyCandidate ["gpu"]).tables) := by
  constructor
  · intro h
    have hthrown : (scheduleAmong [readyCandidate []] [freePool]
        (readyCandidate []).tables).result.toOption = none := by
      decide +kernel
    have hcommits : (scheduleAmong [readyCandidate []] [freePool]
        (readyCandidate []).tables).commits.length = 1 := by
      decide +kernel
    rw [h.unchanged ?_] at hcommits
    · cases hcommits
    · intro task pool leaseId jobId hassigned
      rw [hassigned] at hthrown
      cases hthrown
  · intro h
    have hresult : (scheduleAmong [readyCandidate ["gpu"]] [freePool]
        (readyCandidate ["gpu"]).tables).result =
          .ok (.notAssigned .allPoolsAtCapacity 1) := rfl
    rcases ((h.reason _ _ hresult).allPoolsAtCapacity rfl).1 with ⟨c, pool, hc, hpool, hall⟩
    rw [List.mem_singleton.mp hc, List.mem_singleton.mp hpool] at hall
    exact absurd (hall "gpu" List.mem_cons_self) (by decide)

end Scheduling
end CopilotFactory
