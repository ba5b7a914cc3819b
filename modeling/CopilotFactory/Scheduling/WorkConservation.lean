import CopilotFactory.Scheduling.SchedulerTickService

/-!
# Work conservation

A tick goes on until a call of the scheduler has tried all its candidates in vain.  Then
no candidate could be placed any more.  The candidates are the first READY tasks, up to
the candidate limit: what stands behind them, or waits for rework, is not looked at.
-/

namespace CopilotFactory
namespace Scheduling

open Foundations
open Infrastructure
open Application
open ControlPlane

/-!
## What a scheduler could do
-/

variable {s : Store} {readings : Nat -> Readings} {attempts limit candidateLimit : Nat}
  {w w' : SchedulerTables} {result : ScheduleResult}

/-- An enabled developer pool has all the capabilities of the task, and a free slot. -/
def HasFreePool (s : Store) (task : Task) : Prop :=
  exists pool, pool ∈ s.workerPools ∧ pool.enabled = true ∧ pool.poolType = .developer ∧
    (forall capability, capability ∈ task.requiredCapabilities ->
      capability ∈ pool.capabilities) ∧
    s.activeLeaseCount pool.workerPoolId < pool.maxConcurrency

/-- The system may lease the task, no lease of it is active, and a pool is free for it. -/
def Placeable (s : Store) (task : Task) : Prop :=
  Assignable task.status schedulerActor ∧ s.findActiveByTaskId task.taskId = none ∧
    HasFreePool s task

/-!
## The choice of a pool
-/

theorem foldl_betterPool_isSome (pools : List SchedulablePool) (best : SchedulablePool) :
    exists pool, pools.foldl betterPool (some best) = some pool := by
  induction pools generalizing best with
  | nil =>
      exact ⟨best, rfl⟩
  | cons next rest ih =>
      have hnext : exists pool, betterPool (some best) next = some pool := by
        unfold betterPool
        split
        · dsimp only
          split
          · exact ⟨next, rfl⟩
          · exact ⟨best, rfl⟩
        · exact ⟨best, rfl⟩
      rcases hnext with ⟨pool, hpool⟩
      rw [List.foldl_cons, hpool]
      exact ih pool

/-- No pool is chosen only if none of them has a free slot. -/
theorem selectBestPool_eq_none_iff {pools : List SchedulablePool} :
    selectBestPool pools = none <->
      forall pool, pool ∈ pools -> hasPoolCapacity pool = false := by
  unfold selectBestPool
  induction pools with
  | nil =>
      simp
  | cons next rest ih =>
      rw [List.foldl_cons, List.forall_mem_cons]
      cases hcapacity : hasPoolCapacity next with
      | true =>
          have hnext : betterPool none next = some next := by
            simp [betterPool, hcapacity]
          rcases foldl_betterPool_isSome rest next with ⟨pool, hpool⟩
          rw [hnext, hpool]
          simp
      | false =>
          have hnext : betterPool none next = none := by
            simp [betterPool, hcapacity]
          rw [hnext, ih]
          simp

theorem chosenPool_eq_none_iff {task : Task} :
    chosenPool (schedulableTask task) (findEnabledByType assignmentPoolType s) = none <->
      ¬ HasFreePool s task := by
  unfold chosenPool
  rw [selectBestPool_eq_none_iff]
  constructor
  · intro h hfree
    rcases hfree with ⟨pool, hpool, henabled, htype, hcapabilities, hslot⟩
    have hread : schedulablePool s pool ∈ findEnabledByType assignmentPoolType s :=
      List.mem_map.mpr ⟨pool, List.mem_filter.mpr ⟨hpool, by
        rw [decide_eq_true_iff]
        exact ⟨henabled, htype⟩⟩, rfl⟩
    have hcompatible : isPoolCompatible (schedulableTask task) (schedulablePool s pool) =
        true := by
      unfold isPoolCompatible
      rw [List.all_eq_true]
      intro capability hcapability
      exact decide_eq_true (hcapabilities capability hcapability)
    have hfull := h _ (List.mem_filter.mpr ⟨hread, hcompatible⟩)
    exact of_decide_eq_false hfull hslot
  · intro hnone read hread
    rcases List.mem_filter.mp hread with ⟨hread, hcompatible⟩
    rcases List.mem_map.mp hread with ⟨pool, hpool, hsame⟩
    rcases List.mem_filter.mp hpool with ⟨hmem, hdeveloper⟩
    rw [decide_eq_true_iff] at hdeveloper
    unfold isPoolCompatible at hcompatible
    rw [List.all_eq_true] at hcompatible
    apply decide_eq_false
    intro hslot
    rw [← hsame] at hslot hcompatible
    apply hnone
    refine ⟨pool, hmem, hdeveloper.1, hdeveloper.2, ?_, hslot⟩
    intro capability hcapability
    exact of_decide_eq_true (hcompatible capability hcapability)

/-!
## One call
-/

theorem not_contention_of_free {now : Millis} {leaseId : LeaseId} {params : AcquireLeaseParams}
    {task : Task} {e : ServiceError} (htask : s.findTask params.taskId = some task)
    (heligible : task.status ∈ leaseEligibleStatuses)
    (hfree : s.findActiveByTaskId params.taskId = none)
    (h : acquireLease now leaseId params s = .error e) : isContention e = false := by
  unfold acquireLease at h
  simp only [htask, orThrow_some, ok_bind, ensure_of heligible, hfree, refuse] at h
  rcases bind_eq_error.mp h with hcommit | ⟨_, _, h⟩
  · unfold commitTransition at hcommit
    split at hcommit
    · cases hcommit
    · cases hcommit
      rfl
  · rcases bind_eq_error.mp h with hcreate | ⟨s₁, _, h⟩
    · rcases Store.createLease_error hcreate with ⟨column, he⟩
      rw [he]
      rfl
    · rcases bind_eq_error.mp h with hupdate | ⟨s₂, _, h⟩
      · rcases Store.updateTask_error hupdate with ⟨version, he⟩
        rw [he]
        rfl
      · cases h

def AssignsOne (tasks : List SchedulableTask) (s s' : Store) (result : ScheduleResult) :
    Prop :=
  exists task pool leaseId jobId now workerId acquired,
    result = .assigned task pool leaseId jobId ∧ task ∈ tasks ∧
    acquireLease now leaseId (assignmentParams task pool workerId) s = .ok (s', acquired)

/-- No pool was chosen for the task, or a lease of it was refused as contended. -/
def TriedInVain (s : Store) (pools : List SchedulablePool) (task : SchedulableTask) : Prop :=
  chosenPool task pools = none ∨
    exists pool now leaseId workerId e,
      acquireLease now leaseId (assignmentParams task pool workerId) s = .error e ∧
      isContention e = true

/-- The call has assigned nothing and left the tables as they are. -/
structure AssignsNone (tasks : List SchedulableTask) (pools : List SchedulablePool)
    (w w' : SchedulerTables) (result : ScheduleResult) : Prop where
  result : exists reason evaluated, result = .notAssigned reason evaluated
  same : w' = w
  tried : forall task, task ∈ tasks -> TriedInVain w.store pools task

theorem tryCandidates_spec {pools : List SchedulablePool} {tasks : List SchedulableTask}
    {evaluated attempts' : Nat} {anyPoolHadCapacity : Bool}
    (h : tryCandidates readings pools tasks evaluated anyPoolHadCapacity attempts w =
      .ok (w', attempts', result)) :
    AssignsOne tasks w.store w'.store result ∨ AssignsNone tasks pools w w' result := by
  induction tasks generalizing evaluated anyPoolHadCapacity attempts with
  | nil =>
      cases h
      exact Or.inr ⟨⟨_, _, rfl⟩, rfl, fun task htask => absurd htask List.not_mem_nil⟩
  | cons task rest ih =>
      have hskip : forall evaluated anyPoolHadCapacity attempts,
          TriedInVain w.store pools task ->
          tryCandidates readings pools rest evaluated anyPoolHadCapacity attempts w =
            .ok (w', attempts', result) ->
          AssignsOne (task :: rest) w.store w'.store result ∨
            AssignsNone (task :: rest) pools w w' result := by
        intro evaluated anyPoolHadCapacity attempts hvain hrest
        rcases ih hrest with hone | hnone
        · rcases hone with
            ⟨other, pool, leaseId, jobId, now, workerId, acquired, hresult, hmem, hok⟩
          exact Or.inl ⟨other, pool, leaseId, jobId, now, workerId, acquired, hresult,
            List.mem_cons_of_mem task hmem, hok⟩
        · exact Or.inr
            ⟨hnone.result, hnone.same, List.forall_mem_cons.mpr ⟨hvain, hnone.tried⟩⟩
      unfold tryCandidates at h
      cases hpool : chosenPool task pools with
      | none =>
          rw [hpool] at h
          exact hskip _ _ _ (Or.inl hpool) h
      | some pool =>
          simp only [hpool] at h
          split at h
          · rename_i s' acquired hacquire
            rcases bind_eq_ok.mp h with ⟨⟨jobs, job⟩, _, h⟩
            cases h
            exact Or.inl ⟨task, pool, _, job.jobId, _, _, acquired, rfl, List.mem_cons_self,
              hacquire⟩
          · rename_i e hacquire
            split at h
            · rename_i hcontention
              exact hskip _ _ _ (Or.inr ⟨pool, _, _, _, e, hacquire, hcontention⟩) h
            · cases h

theorem mem_findReadyByPriority {candidate : SchedulableTask}
    (h : candidate ∈ findReadyByPriority limit s) :
    exists task, task ∈ s.tasks ∧ task.status = .ready ∧ candidate = schedulableTask task := by
  rcases List.mem_map.mp h with ⟨task, htask, hcandidate⟩
  have hsorted := List.mem_of_mem_take htask
  rw [List.mem_insertionSort] at hsorted
  rcases List.mem_filter.mp hsorted with ⟨hmem, hready⟩
  exact ⟨task, hmem, of_decide_eq_true hready, hcandidate.symm⟩

theorem ready_of_candidate {task : Task} (hmem : task ∈ s.tasks)
    (h : schedulableTask task ∈ findReadyByPriority limit s) : task.status = .ready := by
  rcases mem_findReadyByPriority h with ⟨other, hother, hready, hsame⟩
  have hid : task.taskId = other.taskId := congrArg SchedulableTask.taskId hsame
  rw [Table.eq_of_key hmem hother hid]
  exact hready

theorem not_placeable_of_tried {task : Task} (hmem : task ∈ s.tasks)
    (hready : task.status = .ready)
    (h : TriedInVain s (findEnabledByType assignmentPoolType s) (schedulableTask task)) :
    ¬ Placeable s task := by
  intro hplaceable
  rcases hplaceable with ⟨_, hfree, hpool⟩
  rcases h with hnone | ⟨pool, now, leaseId, workerId, e, herror, hcontention⟩
  · exact chosenPool_eq_none_iff.mp hnone hpool
  · have htask : s.findTask
        (assignmentParams (schedulableTask task) pool workerId).taskId = some task :=
      Table.find?_key_of_mem hmem
    have heligible : task.status ∈ leaseEligibleStatuses := by
      rw [hready]
      decide
    rw [not_contention_of_free htask heligible hfree herror] at hcontention
    cases hcontention

theorem scheduleNext_spec {attempts' : Nat}
    (h : scheduleNext readings candidateLimit attempts w = .ok (w', attempts', result)) :
    AssignsOne (findReadyByPriority candidateLimit w.store) w.store w'.store result ∨
    ((exists reason evaluated, result = .notAssigned reason evaluated) ∧ w' = w ∧
      forall task, task ∈ w.store.tasks ->
        schedulableTask task ∈ findReadyByPriority candidateLimit w.store ->
        ¬ Placeable w.store task) := by
  unfold scheduleNext at h
  split at h
  · rename_i hread
    cases h
    refine Or.inr ⟨⟨_, _, rfl⟩, rfl, ?_⟩
    intro task _ hcandidate
    rw [hread] at hcandidate
    cases hcandidate
  · rename_i tasks _
    split at h
    · rename_i hpools
      cases h
      refine Or.inr ⟨⟨_, _, rfl⟩, rfl, ?_⟩
      intro task hmem hcandidate
      apply not_placeable_of_tried hmem (ready_of_candidate hmem hcandidate)
      rw [hpools]
      exact Or.inl rfl
    · rcases tryCandidates_spec h with hone | hnone
      · exact Or.inl hone
      · refine Or.inr ⟨hnone.result, hnone.same, ?_⟩
        intro task hmem hcandidate
        exact not_placeable_of_tried hmem (ready_of_candidate hmem hcandidate)
          (hnone.tried _ hcandidate)

/-!
## The loop
-/

theorem readyCount_of_assigned {s' : Store}
    (h : AssignsOne (findReadyByPriority limit s) s s' result) :
    readyCount s' < readyCount s := by
  rcases h with ⟨candidate, pool, leaseId, _, now, workerId, acquired, _, hcandidate, hok⟩
  rcases mem_findReadyByPriority hcandidate with ⟨task, hmem, hready, hsame⟩
  rcases acquireLease_spec hok with ⟨found, _, hfound, _, _, _, htasks, _⟩
  have htask : s.findTask candidate.taskId = some task := by
    rw [hsame]
    exact Table.find?_key_of_mem hmem
  unfold readyCount
  rw [htasks]
  apply Table.countP_modify_lt ((assignToLease leaseId).apply_taskId (found.version + 1)) htask
  · exact decide_eq_true hready
  · rfl

/-- There is fuel for every READY task and the last call: the loop ends. -/
theorem runSchedulingLoop_isSome {fuel : Nat} {assignmentCount : Nat}
    (h : readyCount w.store < fuel) :
    (runSchedulingLoop readings candidateLimit fuel assignmentCount attempts w).isSome =
      true := by
  induction fuel generalizing assignmentCount attempts w with
  | zero =>
      exact absurd h (Nat.not_lt_zero _)
  | succ fuel ih =>
      unfold runSchedulingLoop
      split
      · rfl
      · rename_i w' attempts' task pool leaseId jobId hcall
        rcases scheduleNext_spec hcall with hone | hnone
        · apply ih
          exact Nat.lt_of_lt_of_le (readyCount_of_assigned hone) (Nat.le_of_lt_succ h)
        · rcases hnone.1 with ⟨reason, evaluated, hresult⟩
          cases hresult
      · rfl

theorem runSchedulingLoop_spec {fuel : Nat} {assignmentCount : Nat}
    {summary : TickAssignmentSummary}
    (h : runSchedulingLoop readings candidateLimit fuel assignmentCount attempts w =
      some (.ok (w', summary))) :
    forall task, task ∈ w'.store.tasks ->
      schedulableTask task ∈ findReadyByPriority candidateLimit w'.store ->
      ¬ Placeable w'.store task := by
  induction fuel generalizing assignmentCount attempts w with
  | zero =>
      cases h
  | succ fuel ih =>
      unfold runSchedulingLoop at h
      split at h
      · cases h
      · exact ih h
      · rename_i w₁ attempts' reason evaluated hcall
        cases h
        rcases scheduleNext_spec hcall with hone | ⟨_, hsame, hall⟩
        · rcases hone with ⟨_, _, _, _, _, _, _, hresult, _⟩
          cases hresult
        · rw [hsame]
          exact hall

/-!
## A tick
-/

/-- Every READY task is a candidate when there are not too many of them. -/
theorem candidate_of_ready {task : Task} (hmem : task ∈ s.tasks) (hready : task.status = .ready)
    (hlimit : readyCount s ≤ limit) : schedulableTask task ∈ findReadyByPriority limit s := by
  unfold findReadyByPriority
  rw [List.take_of_length_le]
  · apply List.mem_map_of_mem
    rw [List.mem_insertionSort]
    exact List.mem_filter.mpr ⟨hmem, decide_eq_true hready⟩
  · rw [List.length_insertionSort, ← List.countP_eq_length_filter]
    exact hlimit

/-- A tick comes to an end.  If it was processed, no READY task among the first ones, up to
the candidate limit, can be placed any more; that is none at all when there are no more
READY tasks than that. -/
theorem tick_places_candidates (config : SchedulerTickConfig) (candidateLimit : Nat)
    (readings : Nat -> Readings) (claimedAt reading createdAt : Millis)
    (nextTickJobId : JobId) (w : SchedulerTables) :
    (processTick config candidateLimit readings claimedAt reading createdAt nextTickJobId
      w).isSome = true ∧
    forall w' tickJobId summary nextId,
      processTick config candidateLimit readings claimedAt reading createdAt nextTickJobId w =
        some (.ok (w', .processed tickJobId summary nextId)) ->
      (forall task, task ∈ w'.store.tasks ->
        schedulableTask task ∈ findReadyByPriority candidateLimit w'.store ->
        ¬ Placeable w'.store task) ∧
      (readyCount w'.store ≤ candidateLimit ->
        forall task, task ∈ w'.store.tasks -> task.status = .ready ->
          ¬ Placeable w'.store task) := by
  simp only [processTick]
  cases hclaim : claimJob (schedulerTickService config).jobType
      (schedulerTickService config).leaseOwner claimedAt w.jobs with
  | none =>
      refine ⟨rfl, ?_⟩
      intro w' tickJobId summary nextId h
      cases h
  | some claimed =>
      have hloop : (runSchedulingLoop readings candidateLimit (readyCount w.store + 1) 0 0
          { w with jobs := claimed.1 }).isSome = true :=
        runSchedulingLoop_isSome (Nat.lt_succ_self (readyCount w.store))
      rcases Option.isSome_iff_exists.mp hloop with ⟨loop, hloop⟩
      simp only [hloop]
      refine ⟨rfl, ?_⟩
      intro w' tickJobId summary nextId h
      rcases bind_eq_ok.mp (Option.some.inj h) with ⟨⟨w₁, counted⟩, hok, h⟩
      rcases bind_eq_ok.mp h with ⟨⟨jobs, job⟩, _, h⟩
      rcases bind_eq_ok.mp h with ⟨⟨jobs', next⟩, _, h⟩
      cases h
      rw [hok] at hloop
      have hvain := runSchedulingLoop_spec hloop
      refine ⟨hvain, ?_⟩
      intro hlimit task hmem hready
      exact hvain task hmem (candidate_of_ready hmem hready hlimit)

/-!
## A task behind one that cannot be placed
-/

def skilledTask (taskId : TaskId) (priority capability : String) : List Request :=
  [ .createTask
      { taskId := taskId
        repositoryId := "repo-1"
        taskType := "feature"
        priority := priority
        requiredCapabilities := [capability] },
    .transitionTask taskId .ready
      { allDependenciesResolved := some true, hasPolicyBlockers := some false }
      schedulerActor ]

def unplaceableHead : SchedulerTables where
  store := controlPlane.run .empty
    (.createWorkerPool
      { workerPoolId := "pool-1", maxConcurrency := 1, capabilities := ["typescript"] } ::
      (skilledTask "task-1" "high" "rust" ++ skilledTask "task-2" "low" "typescript"))
  jobs := Table.empty.insert (newJob 0 "tick-1" (firstJob (schedulerTickService {})))
    (Table.find?_empty _)

def freshReadings (n : Nat) : Readings where
  now := 0
  leaseId := s!"lease-{n}"
  workerId := s!"worker-{n}"
  jobId := s!"job-{n}"

def tickOfOne : Option (Except ServiceError (SchedulerTables × ProcessTickResult)) :=
  processTick {} 1 freshReadings 0 0 0 "tick-2" unplaceableHead

theorem placeable_task_starves :
    ¬ forall (config : SchedulerTickConfig) (candidateLimit : Nat)
        (readings : Nat -> Readings) (claimedAt reading createdAt : Millis)
        (nextTickJobId : JobId) (w w' : SchedulerTables) (result : ProcessTickResult),
      1 ≤ candidateLimit ->
      processTick config candidateLimit readings claimedAt reading createdAt nextTickJobId w =
        some (.ok (w', result)) ->
      forall task, task ∈ w'.store.tasks -> ¬ Placeable w'.store task := by
  intro h
  have htick : (tickOfOne.bind Except.toOption).map (fun r =>
      ((r.1.store.findTask "task-2").map (fun task =>
          (task.status, task.requiredCapabilities)),
        (r.1.store.findActiveByTaskId "task-2").isNone,
        r.1.store.workerPools.rows, r.1.store.activeLeaseCount "pool-1")) =
      some (some (.ready, ["typescript"]), true,
        [{ workerPoolId := "pool-1", maxConcurrency := 1, capabilities := ["typescript"] }],
        0) := by
    decide +kernel
  rcases Option.map_eq_some_iff.mp htick with ⟨⟨w', result⟩, hresult, hfacts⟩
  rcases Option.bind_eq_some_iff.mp hresult with ⟨outcome, houtcome, hok⟩
  rw [toOption_eq_some] at hok
  rw [hok] at houtcome
  simp only [Prod.mk.injEq] at hfacts
  rcases hfacts with ⟨htask, hfree, hpools, hcount⟩
  rcases Option.map_eq_some_iff.mp htask with ⟨task, hfind, hcolumns⟩
  simp only [Prod.mk.injEq] at hcolumns
  rcases hcolumns with ⟨hstatus, hcapabilities⟩
  apply h {} 1 freshReadings 0 0 0 "tick-2" unplaceableHead w' result (Nat.le_refl 1)
    houtcome task (Table.mem_of_find? hfind)
  refine ⟨Or.inl hstatus, ?_, ?_⟩
  · rw [Store.taskId_of_findTask hfind]
    exact Option.isNone_iff_eq_none.mp hfree
  · refine ⟨{ workerPoolId := "pool-1", maxConcurrency := 1, capabilities := ["typescript"] },
      ?_, rfl, rfl, ?_, ?_⟩
    · rw [Table.mem_def, hpools]
      exact List.mem_singleton_self _
    · rw [hcapabilities]
      exact fun _ h => h
    · rw [hcount]
      exact Nat.one_pos

end Scheduling
end CopilotFactory
