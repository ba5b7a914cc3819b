import CopilotFactory.Automation.TaskPackets
import CopilotFactory.Dependencies.DependencyService
import CopilotFactory.Reviewing.ReworkFeedback
import CopilotFactory.Workspaces.WorkspaceBranches

/-!
# Mounted packets

A dispatch that has claimed a job and has a workspace for it mounts the packet of the task
and a policy snapshot.  The packet agrees with the workspace, the dependencies and the
reviews of the task only where they are what the defaults of the packet say, and the
profile and the snapshot are never of use.
-/

namespace CopilotFactory
namespace Automation

open Foundations
open Infrastructure
open Application
open ControlPlane
open Reviewing
open Auditing
open Merging
open Policies
open Dependencies (TaskGraph dependenciesOf)

/-!
## The context of a run
-/

variable {poolId : PoolId} {s : Store} {w' : World Machinery}

structure PacketPorts extends DispatchPorts where
  taskColumns : TaskId -> TaskColumns
  repositoryColumns : String -> RepositoryColumns
  artifactsRoot : String
  workspacesRoot : String
  /-- The clock when the expiry is computed, and when the packet is built. -/
  resolvedAt : Millis
  builtAt : Millis

structure PacketContext where
  spawn : WorkerSpawnContext
  workspacePaths : SupervisorWorkspacePaths
  taskPacket : Json
  effectivePolicySnapshot : Json

def workspacePathsOf (ports : PacketPorts) (repoPath : String) (taskId : TaskId) :
    SupervisorWorkspacePaths :=
  let artifactRoot := Path.join [ports.artifactsRoot, taskId]
  { worktreePath :=
      Path.join [ports.workspacesRoot, Path.basename repoPath, taskId, "worktree"]
    artifactRoot := artifactRoot
    packetInputPath :=
      Path.join [Path.join [artifactRoot, "packets", "input"], "task-packet.json"]
    policySnapshotPath := Path.join [artifactRoot, "policy-snapshot.json"] }

def packetParamsOf (ports : PacketPorts) (spawn : WorkerSpawnContext) (task : Task) :
    BuildTaskPacketParams where
  task := task
  columns := ports.taskColumns task.taskId
  repository := ports.repositoryColumns task.repositoryId
  workspacePaths := workspacePathsOf ports spawn.repoPath task.taskId
  timeBudgetSeconds := defaultTimeBudgetSeconds
  expiresAt := toISOString (ports.resolvedAt + defaultTimeBudgetSeconds * 1000)
  outputSchemaExpectation := spawn.runContext.outputSchemaExpectation
  now := ports.builtAt

/-- The policy snapshot is the empty object. -/
def packetContextOf (ports : PacketPorts) (spawn : WorkerSpawnContext) (task : Task) :
    PacketContext where
  spawn := spawn
  workspacePaths := workspacePathsOf ports spawn.repoPath task.taskId
  taskPacket := buildTaskPacket (packetParamsOf ports spawn task)
  effectivePolicySnapshot := .object []

def resolvePacketContext (ports : PacketPorts) (taskId : TaskId) (poolId : PoolId)
    (s : Store) : Except String (Option PacketContext) := do
  match ← resolveSpawnContext ports.toDispatchPorts taskId poolId s with
  | none => pure none
  | some spawn => pure ((s.findTask taskId).map (packetContextOf ports spawn))

theorem findTask_of_resolved {ports : DispatchPorts} {taskId : TaskId}
    {spawn : WorkerSpawnContext}
    (h : resolveSpawnContext ports taskId poolId s = .ok (some spawn)) :
    exists task, s.findTask taskId = some task := by
  unfold resolveSpawnContext at h
  split at h
  · cases h
  · rename_i task htask
    exact ⟨task, htask⟩

theorem resolvePacketContext_eq_ok {ports : PacketPorts} {taskId : TaskId}
    {context : PacketContext} :
    resolvePacketContext ports taskId poolId s = .ok (some context) <->
      exists spawn task,
        resolveSpawnContext ports.toDispatchPorts taskId poolId s = .ok (some spawn) ∧
        s.findTask taskId = some task ∧ context = packetContextOf ports spawn task := by
  unfold resolvePacketContext
  rw [bind_eq_ok]
  constructor
  · intro h
    rcases h with ⟨resolved, hresolved, hcontext⟩
    cases resolved with
    | none =>
        cases hcontext
    | some spawn =>
        rcases Option.map_eq_some_iff.mp (Except.ok.inj hcontext) with ⟨task, htask, heq⟩
        exact ⟨spawn, task, hresolved, htask, heq.symm⟩
  · intro h
    rcases h with ⟨spawn, task, hresolved, htask, heq⟩
    refine ⟨some spawn, hresolved, ?_⟩
    rw [heq, htask]
    rfl

/-- The packets add to the spawn context, and change nothing about when there is one. -/
theorem resolves_iff (ports : PacketPorts) (taskId : TaskId) (poolId : PoolId) (s : Store)
    (spawn : WorkerSpawnContext) :
    resolveSpawnContext ports.toDispatchPorts taskId poolId s = .ok (some spawn) <->
      exists context, resolvePacketContext ports taskId poolId s = .ok (some context) ∧
        context.spawn = spawn := by
  constructor
  · intro h
    rcases findTask_of_resolved h with ⟨task, htask⟩
    exact ⟨packetContextOf ports spawn task,
      resolvePacketContext_eq_ok.mpr ⟨spawn, task, h, htask, rfl⟩, rfl⟩
  · intro h
    rcases h with ⟨context, hcontext, hspawn⟩
    rcases resolvePacketContext_eq_ok.mp hcontext with ⟨resolved, task, hresolved, _, heq⟩
    rw [heq] at hspawn
    cases hspawn
    exact hresolved

/-!
## Mounting
-/

structure MountPacketsInput where
  taskPacket : Json
  runConfig : RunConfig
  policySnapshot : Json

variable {γ : Type}

def providedWorkspace (created : Workspaces.WorkspaceResult) : WorkspaceResult where
  rootPath := created.layout.rootPath
  logsPath := created.layout.logsPath
  branchName := created.branchName

def provisionOptions (taskId : TaskId) (repoPath : String) (attempt : Nat) :
    Workspaces.CreateWorkspaceOptions where
  taskId := taskId
  repoPath := repoPath
  attempt := some attempt

/-- A dispatch that gets as far as mounting the packets of its run: it has claimed a job,
resolved its context and created the workspace. -/
structure MountedRun (ports : PacketPorts) (git : Workspaces.GitOperations γ)
    (w : World Machinery) where
  job : Job
  payload : DispatchPayload
  spawn : WorkerSpawnContext
  task : Task
  /-- The files and the repositories when the workspace is created. -/
  host : Workspaces.Host γ
  workspace : Workspaces.WorkspaceResult
  claimed : exists jobs,
    claimJob .workerDispatch ports.leaseOwner ports.claimedAt w.outer.jobs = some (jobs, job)
  hasPayload : job.payload = some payload
  resolved : resolvePacketContext ports payload.taskId payload.poolId w.store =
    .ok (some (packetContextOf ports spawn task))
  found : w.store.findTask payload.taskId = some task
  created : (Workspaces.createWorkspace git ports.workspacesRoot
    (provisionOptions payload.taskId spawn.repoPath job.attemptCount) host).1 = .ok workspace

namespace MountedRun

variable {ports : PacketPorts} {git : Workspaces.GitOperations γ} {w : World Machinery}

def input (run : MountedRun ports git w) : MountPacketsInput where
  taskPacket := (packetContextOf ports run.spawn run.task).taskPacket
  runConfig := runConfigOf (spawnParams run.job run.payload run.spawn)
    (providedWorkspace run.workspace)
  policySnapshot := (packetContextOf ports run.spawn run.task).effectivePolicySnapshot

end MountedRun

def ProvidesWorkspaces (ports : PacketPorts) (git : Workspaces.GitOperations γ)
    (host : Workspaces.Host γ) : Prop :=
  forall taskId repoPath attempt,
    (ports.supervisor.createWorkspace taskId repoPath attempt).outcome =
      ((Workspaces.createWorkspace git ports.workspacesRoot
        (provisionOptions taskId repoPath attempt) host).1.map providedWorkspace).mapError
          Workspaces.WorkspaceError.message

theorem exists_created {ports : PacketPorts} {git : Workspaces.GitOperations γ}
    {host : Workspaces.Host γ} (hprovides : ProvidesWorkspaces ports git host)
    {taskId : TaskId} {repoPath : String} {attempt : Nat} {provided : WorkspaceResult}
    (h : (ports.supervisor.createWorkspace taskId repoPath attempt).outcome = .ok provided) :
    exists workspace, (Workspaces.createWorkspace git ports.workspacesRoot
        (provisionOptions taskId repoPath attempt) host).1 = .ok workspace ∧
      provided = providedWorkspace workspace := by
  rw [hprovides] at h
  cases hcreated : (Workspaces.createWorkspace git ports.workspacesRoot
      (provisionOptions taskId repoPath attempt) host).1 with
  | error e =>
      rw [hcreated] at h
      cases h
  | ok workspace =>
      rw [hcreated] at h
      cases h
      exact ⟨workspace, rfl, rfl⟩

/-- A worker that was spawned had a workspace, in which its packets were mounted. -/
theorem prepared_of_spawned {ports : SupervisorPorts} {params : SpawnWorkerParams}
    {w : World Machinery} {result : SpawnWorkerResult}
    (h : Process.Returns (spawnWorker ports params) w result w') :
    exists workspace,
      (ports.createWorkspace params.taskId params.repoPath params.attempt).outcome =
        .ok workspace ∧
      (ports.mountPackets workspace.rootPath params.runContext
        (runConfigOf params workspace)).outcome = .ok () := by
  unfold spawnWorker at h
  rcases Process.returns_bind.mp h with ⟨_, w₁, _, h⟩
  rcases Process.returns_attempt_bind.mp h with
    ⟨prepared, w₂, hprepared, _⟩ | ⟨e, _, hrecovered⟩
  · simp only [prepareWorker, Process.returns_bind] at hprepared
    rcases hprepared with ⟨workspace, _, hworkspace, _, _, hmounted, _⟩
    exact ⟨workspace, mapError_eq_ok.mp hworkspace.1, mapError_eq_ok.mp hmounted.1⟩
  · -- What recovers from a failed preparation throws in the end.
    simp only [recoverSpawn, Process.returns_bind] at hrecovered
    rcases hrecovered with ⟨_, _, _, _, _, _, hthrown⟩
    exact absurd hthrown Process.not_returns_throw

theorem returns_dispatchJob {ports : DispatchPorts} {job : Job} {payload : DispatchPayload}
    {w : World Machinery} {result : ProcessDispatchResult}
    (h : Process.Returns (dispatchJob ports job payload) w result w') {jobId : JobId}
    {dispatched : DispatchPayload} {spawnResult : SpawnWorkerResult}
    (hresult : result = .dispatched jobId dispatched spawnResult) :
    jobId = job.jobId ∧ dispatched = payload ∧
      exists spawn w₁,
        resolveSpawnContext ports payload.taskId payload.poolId w.store = .ok (some spawn) ∧
        Process.Returns (spawnWorker ports.supervisor (spawnParams job payload spawn)) w
          spawnResult w₁ := by
  unfold dispatchJob at h
  rcases Process.returns_bind.mp h with ⟨read, w₀, hread, h⟩
  have hread : read = w ∧ w₀ = w := by
    rcases hread with ⟨hvalue, hstate⟩
    cases hvalue
    exact ⟨rfl, hstate.symm⟩
  rw [hread.1, hread.2] at h
  split at h
  · exact absurd h Process.not_returns_throw
  · rcases Process.returns_bind.mp h with ⟨_, _, _, hpure⟩
    rw [(Process.returns_pure.mp hpure).1] at hresult
    cases hresult
  · rename_i spawn hspawn
    rcases Process.returns_bind.mp h with ⟨spawned, w₁, hspawned, h⟩
    rcases Process.returns_bind.mp h with ⟨_, _, _, hpure⟩
    rw [(Process.returns_pure.mp hpure).1] at hresult
    cases hresult
    exact ⟨rfl, rfl, spawn, w₁, hspawn, hspawned⟩

theorem exists_mountedRun_of_dispatched {ports : PacketPorts} {git : Workspaces.GitOperations γ}
    {host : Workspaces.Host γ} (hprovides : ProvidesWorkspaces ports git host)
    {w : World Machinery} {jobId : JobId} {payload : DispatchPayload}
    {spawnResult : SpawnWorkerResult}
    (h : Process.Returns (processDispatch ports.toDispatchPorts) w
      (.dispatched jobId payload spawnResult) w') :
    exists run : MountedRun ports git w, run.job.jobId = jobId ∧ run.payload = payload ∧
      (ports.supervisor.mountPackets (providedWorkspace run.workspace).rootPath
        run.spawn.runContext run.input.runConfig).outcome = .ok () := by
  unfold processDispatch at h
  rcases Process.returns_bind.mp h with ⟨claim, w₁, hclaimed, h⟩
  rcases Process.returns_transaction.mp hclaimed with ⟨outer, hcall, hw₁⟩
  have hstore : w₁.store = w.store := by
    rw [hw₁]
  unfold claimDispatchJob at hcall
  cases hclaim : claimJob .workerDispatch ports.leaseOwner ports.claimedAt w.outer.jobs with
  | none =>
      rw [hclaim] at hcall
      cases hcall
      exact absurd (Process.returns_pure.mp h).1 (by simp)
  | some claimed =>
      rcases claimed with ⟨jobs, job⟩
      rw [hclaim] at hcall
      cases hcall
      dsimp only at h
      cases hpayload : job.payload with
      | none =>
          rw [hpayload] at h
          rcases Process.returns_bind.mp h with ⟨_, _, _, hthrown⟩
          exact absurd hthrown Process.not_returns_throw
      | some claimedPayload =>
          rw [hpayload] at h
          rcases Process.returns_attempt_bind.mp h with
            ⟨result, w₂, hjob, hpure⟩ | ⟨e, _, hfailed⟩
          · have hresult := (Process.returns_pure.mp hpure).1
            rcases returns_dispatchJob hjob hresult.symm with
              ⟨hjobId, hdispatched, spawn, w₃, hspawn, hspawned⟩
            rw [hstore] at hspawn
            rcases prepared_of_spawned hspawned with ⟨provided, hcreated, hmounted⟩
            rcases exists_created hprovides hcreated with ⟨workspace, hworkspace, heq⟩
            rcases findTask_of_resolved hspawn with ⟨task, htask⟩
            rw [heq] at hmounted
            refine ⟨⟨job, claimedPayload, spawn, task, host, workspace, ⟨jobs, hclaim⟩,
              hpayload, ?_, htask, hworkspace⟩, hjobId.symm, hdispatched.symm, hmounted⟩
            exact resolvePacketContext_eq_ok.mpr ⟨spawn, task, hspawn, htask, rfl⟩
          · rcases Process.returns_bind.mp hfailed with ⟨_, _, _, hpure⟩
            exact absurd (Process.returns_pure.mp hpure).1 (by simp)

/-!
## The attempts of a task
-/

section Attempts

variable (port : FollowUpTaskPort) (queries : QueueQueries) (taskId : TaskId)

def Assigns (w : Auditing.Factory) (step : FactoryStep) : Prop :=
  Reviewing.statusOf w.shared taskId ≠ some .assigned ∧
    Reviewing.statusOf ((factory port queries).next w step).shared taskId = some .assigned

/-- The current attempt began after these steps: the next one assigned the task, and no
later one did. -/
def AttemptAfter (steps before : List FactoryStep) : Prop :=
  exists step after, steps = before ++ step :: after ∧
    Assigns port queries taskId ((factory port queries).run Factory.start before) step ∧
    forall x, x ∈ (factory port queries).arrivals
        ((factory port queries).run Factory.start (before ++ [step])) after ->
      ¬ Assigns port queries taskId x.1 x.2

def FreshAttempt (steps : List FactoryStep) : Prop :=
  exists before, AttemptAfter port queries taskId steps before ∧
    Reviewing.statusOf ((factory port queries).run Factory.start before).shared taskId = some .ready

def ReworkAttempt (steps : List FactoryStep) (params : ApplyReviewDecisionParams)
    (packet : LeadReviewDecisionPacket) : Prop :=
  exists before, AttemptAfter port queries taskId steps before ∧
    SentBackByDecision port queries taskId before params packet

end Attempts

/-!
## What a mounted packet should say
-/

section Faithful

variable {ports : PacketPorts} {git : Workspaces.GitOperations γ} {w : World Machinery}

def ListsDependencies (taskPacket : Json) (dependencies : List TaskId) : Prop :=
  exists listed, listed.Perm dependencies ∧
    valueAt taskPacket ["context", "dependencies"] = some (stringArray listed)

/-- The profile that the packet names is one that a selection finds in the default policy,
whatever the repository and the stage ask for. -/
def NamesProfile (taskPacket : Json) : Prop :=
  forall context : ProfileSelectionContext, exists name result,
    valueAt taskPacket ["validation_requirements", "profile"] = some (.string name) ∧
    selectProfile createDefaultValidationPolicy
      { context with taskProfileOverride := some name } = .ok result

/-- Nothing on a first attempt and on a retry, and the feedback of the decision on a
rework. -/
structure TellsRejection (port : FollowUpTaskPort) (queries : QueueQueries)
    (taskId : TaskId) (steps : List FactoryStep) (taskPacket : Json) : Prop where
  fresh : FreshAttempt port queries taskId steps ->
    valueAt taskPacket ["context", "rejection_context"] = some .null
  rework : forall params packet, ReworkAttempt port queries taskId steps params packet ->
    valueAt taskPacket ["context", "rejection_context"] =
      some (packet.feedback params.reviewCycleId).toJson

structure FaithfulPackets (isDatetime : String -> Bool) (port : FollowUpTaskPort)
    (queries : QueueQueries) (steps : List FactoryStep) (g : TaskGraph)
    (run : MountedRun ports git w) : Prop where
  valid : taskPacketSchema isDatetime (some run.input.taskPacket) = true
  branch : valueAt run.input.taskPacket ["task", "branch_name"] =
    some (.string run.workspace.branchName)
  dependencies :
    ListsDependencies run.input.taskPacket (dependenciesOf g run.payload.taskId)
  profile : NamesProfile run.input.taskPacket
  rejection :
    TellsRejection port queries run.payload.taskId steps run.input.taskPacket
  snapshot : policySnapshotSchema (some run.input.policySnapshot) = true

/-!
## When it does
-/

structure RowsComplete (isDatetime : String -> Bool) (run : MountedRun ports git w) :
    Prop where
  createdAt : isDatetime (toISOString ports.builtAt) = true
  expiresAt :
    isDatetime (toISOString (ports.resolvedAt + defaultTimeBudgetSeconds * 1000)) = true
  taskId : run.task.taskId ≠ ""
  repositoryId : run.task.repositoryId ≠ ""
  task : TaskComplete run.task (ports.taskColumns run.task.taskId)
  repositoryName : (ports.repositoryColumns run.task.repositoryId).name ≠ ""
  defaultBranch : (ports.repositoryColumns run.task.repositoryId).defaultBranch ≠ ""

theorem outputSchemaExpectation_ne_empty {taskId : TaskId} {dispatch : DispatchPorts}
    {spawn : WorkerSpawnContext}
    (h : resolveSpawnContext dispatch taskId poolId s = .ok (some spawn)) :
    spawn.runContext.outputSchemaExpectation.packetType ≠ "" ∧
      spawn.runContext.outputSchemaExpectation.schemaVersion ≠ "" := by
  rcases packetType_of_resolveSpawnContext h with ⟨taskType, htype⟩
  rw [schemaVersion_of_resolveSpawnContext h, htype]
  refine ⟨?_, by decide⟩
  unfold mapTaskTypeToPacketType
  split_ifs <;> decide

theorem MountedRun.resolvedSpawn (run : MountedRun ports git w) :
    resolveSpawnContext ports.toDispatchPorts run.payload.taskId run.payload.poolId w.store =
      .ok (some run.spawn) :=
  (resolves_iff ports _ _ _ _).mpr ⟨_, run.resolved, rfl⟩

theorem valid_iff (isDatetime : String -> Bool) (run : MountedRun ports git w) :
    taskPacketSchema isDatetime (some run.input.taskPacket) = true <->
      RowsComplete isDatetime run := by
  unfold MountedRun.input packetContextOf
  dsimp only
  rw [taskPacketSchema_iff]
  constructor
  · intro h
    exact
      { createdAt := h.createdAt
        expiresAt := h.expiresAt
        taskId := h.taskId
        repositoryId := h.repositoryId
        task := h.task
        repositoryName := h.repositoryName
        defaultBranch := h.defaultBranch }
  · intro h
    rcases outputSchemaExpectation_ne_empty run.resolvedSpawn with ⟨htype, hversion⟩
    exact
      { createdAt := h.createdAt
        expiresAt := h.expiresAt
        taskId := h.taskId
        repositoryId := h.repositoryId
        timeBudget := by
          show 0 < defaultTimeBudgetSeconds
          decide
        task := h.task
        repositoryName := h.repositoryName
        defaultBranch := h.defaultBranch
        worktreePath := Path.join_ne_empty _
        artifactRoot := Path.join_ne_empty _
        packetType := htype
        schemaVersion := hversion }

/-- The column of the task names the branch: that of the new worktree, or the one that is
checked out in the worktree that is used again. -/
def BranchStored (run : MountedRun ports git w) : Prop :=
  if run.workspace.reused then
    packetBranchName run.task (ports.taskColumns run.task.taskId) =
      (git.getCurrentBranch run.workspace.layout.worktreePath run.host).getD "HEAD"
  else
    (ports.taskColumns run.task.taskId).branchName =
      some (Workspaces.computeBranchName run.payload.taskId (some run.job.attemptCount))

theorem taskBranch_apart (taskId other : TaskId) :
    Workspaces.Apart other s!"task/{taskId}" := by
  have hhead : (toString "task/").toList = 't' :: "ask/".toList := by
    decide
  refine @Workspaces.apart_of_head other _ 't' ("ask/".toList ++ (toString taskId).toList)
    ?_ (by decide)
  rw [String.toList_append, hhead]
  rfl

theorem branch_iff (run : MountedRun ports git w) :
    valueAt run.input.taskPacket ["task", "branch_name"] =
        some (.string run.workspace.branchName) <->
      BranchStored run := by
  have hcreated := Workspaces.createWorkspace_branch git ports.workspacesRoot run.created
  unfold Workspaces.CreatedBranch at hcreated
  unfold MountedRun.input packetContextOf BranchStored
  dsimp only
  rw [packet_branch_name, Option.some.injEq, Json.string.injEq]
  dsimp only [packetParamsOf]
  cases hreused : run.workspace.reused with
  | true =>
      rw [hreused, if_pos rfl] at hcreated
      rw [if_pos rfl, hcreated]
  | false =>
      rw [hreused, if_neg (by decide)] at hcreated
      rw [if_neg (by decide), hcreated]
      unfold packetBranchName
      cases (ports.taskColumns run.task.taskId).branchName with
      | none =>
          constructor
          · intro h
            exact absurd h (taskBranch_apart run.task.taskId run.payload.taskId _).1
          · intro h
            cases h
      | some name =>
          simp [provisionOptions]

theorem dependencies_iff (run : MountedRun ports git w) (dependencies : List TaskId) :
    ListsDependencies run.input.taskPacket dependencies <-> dependencies = [] := by
  unfold MountedRun.input packetContextOf ListsDependencies
  dsimp only
  rw [packet_dependencies]
  constructor
  · intro h
    rcases h with ⟨listed, hperm, hvalue⟩
    have hnone : listed = [] := by
      simpa [stringArray] using hvalue.symm
    rw [hnone] at hperm
    exact hperm.symm.eq_nil
  · intro h
    rw [h]
    exact ⟨[], List.Perm.refl [], rfl⟩

theorem MountedRun.rejection_context (run : MountedRun ports git w) :
    valueAt run.input.taskPacket ["context", "rejection_context"] = some .null :=
  packet_rejection_context _

theorem rejection_iff {port : FollowUpTaskPort} {queries : QueueQueries}
    {steps : List FactoryStep} (run : MountedRun ports git w) :
    TellsRejection port queries run.payload.taskId steps run.input.taskPacket <->
      forall params packet,
        ¬ ReworkAttempt port queries run.payload.taskId steps params packet := by
  constructor
  · intro h params packet hrework
    have htold := h.rework params packet hrework
    rw [run.rejection_context] at htold
    cases htold
  · intro h
    exact ⟨fun _ => run.rejection_context,
      fun params packet hrework => absurd hrework (h params packet)⟩

theorem not_namesProfile (run : MountedRun ports git w) :
    ¬ NamesProfile run.input.taskPacket := by
  have hvalue : valueAt run.input.taskPacket ["validation_requirements", "profile"] =
      some (.string "default") :=
    packet_profile _
  intro h
  rcases h { stage := .development } with ⟨name, result, hname, hselected⟩
  rw [hvalue] at hname
  cases hname
  have hmember := selectProfile_isOk_iff.mp ⟨result, hselected⟩
  rw [resolveProfileName_of_override rfl (by decide)] at hmember
  exact absurd hmember (by decide)

theorem snapshot_never_valid (run : MountedRun ports git w) :
    ¬ policySnapshotSchema (some run.input.policySnapshot) = true := by
  intro h
  have hversion := version_of_policySnapshot h
  cases hversion

/-- The packets of a run are never all right, whatever happened to the task before: no
profile is found and the policy snapshot is not valid.  The other parts are right exactly
where the rows are complete, the branch of the workspace is stored with the task, the task
has no dependencies, and no decision has sent it back for this attempt. -/
theorem packets_never_faithful (isDatetime : String -> Bool) (port : FollowUpTaskPort)
    (queries : QueueQueries) (steps : List FactoryStep) (machinery : Machinery)
    (g : TaskGraph)
    (run : MountedRun ports git
      { store := ((factory port queries).run Factory.start steps).shared.store
        outer := machinery }) :
    ¬ FaithfulPackets isDatetime port queries steps g run ∧
      ¬ NamesProfile run.input.taskPacket ∧
      ¬ policySnapshotSchema (some run.input.policySnapshot) = true ∧
      (taskPacketSchema isDatetime (some run.input.taskPacket) = true <->
        RowsComplete isDatetime run) ∧
      (valueAt run.input.taskPacket ["task", "branch_name"] =
          some (.string run.workspace.branchName) <-> BranchStored run) ∧
      (ListsDependencies run.input.taskPacket (dependenciesOf g run.payload.taskId) <->
        dependenciesOf g run.payload.taskId = []) ∧
      (TellsRejection port queries run.payload.taskId steps run.input.taskPacket <->
        forall params packet,
          ¬ ReworkAttempt port queries run.payload.taskId steps params packet) :=
  ⟨fun h => snapshot_never_valid run h.snapshot, not_namesProfile run,
    snapshot_never_valid run, valid_iff isDatetime run, branch_iff run,
    dependencies_iff run _, rejection_iff run⟩

end Faithful

/-!
## A rework without its feedback
-/

def reworkLease : AcquireLeaseParams where
  taskId := "task-1"
  workerId := "worker-2"
  poolId := "pool-1"
  ttlSeconds := 3600
  actor := { type := "system", id := "scheduler" }

def reworkedTask : List FactoryStep :=
  rejectedTask ++
    [ .review (.request (.createWorkerPool { workerPoolId := "pool-1", maxConcurrency := 1 })),
      .review (.request (.acquireLease 5000 "lease-2" reworkLease)) ]

def reworkStore : Store :=
  ((factory plainFollowUps arrivalOrder).run Factory.start reworkedTask).shared.store

def reworkJob : Job :=
  newJob 0 "job-2"
    { jobType := .workerDispatch, payload := some (dispatchPayload "lease-2" reworkLease) }

def reworkMachinery : Machinery where
  workers := Table.empty
  jobs := Table.empty.insert reworkJob (Table.find?_empty _)

def reworkPorts : PacketPorts where
  toDispatchPorts := portsWith (.ok aWorkspace)
  taskColumns := fun _ => { title := "Add a search box" }
  repositoryColumns := fun _ => { name := "app", defaultBranch := "main" }
  artifactsRoot := "/data/artifacts"
  workspacesRoot := "/workspaces"
  resolvedAt := 6000
  builtAt := 6000

def reworkSpawn : WorkerSpawnContext where
  repoPath := "/repo"
  workerName := "worker-task-1"
  runContext :=
    { taskId := "task-1"
      outputSchemaExpectation :=
        { packetType := "development_result", schemaVersion := "1.0.0" }
      customPrompt := none }

theorem reworkStore_task : (reworkStore.findTask "task-1").isSome = true := by
  decide +kernel

theorem reworkSpawn_resolved :
    resolveSpawnContext reworkPorts.toDispatchPorts "task-1" "pool-1" reworkStore =
      .ok (some reworkSpawn) := by
  decide +kernel

theorem reworkJob_claimed :
    exists jobs, claimJob .workerDispatch "worker-dispatch" 1000 reworkMachinery.jobs =
      some (jobs, claimedJob "worker-dispatch" reworkJob) := by
  have hclaim : (claimJob .workerDispatch "worker-dispatch" 1000 reworkMachinery.jobs).map
      Prod.snd = some (claimedJob "worker-dispatch" reworkJob) := by
    decide +kernel
  rcases Option.map_eq_some_iff.mp hclaim with ⟨⟨jobs, job⟩, hclaimed, hjob⟩
  cases hjob
  exact ⟨jobs, hclaimed⟩

def reworkRun : MountedRun reworkPorts
    (Workspaces.repositoryGit Workspaces.madeEarlier)
    { store := reworkStore, outer := reworkMachinery } where
  job := claimedJob "worker-dispatch" reworkJob
  payload := dispatchPayload "lease-2" reworkLease
  spawn := reworkSpawn
  task := (reworkStore.findTask "task-1").get reworkStore_task
  host := Workspaces.newHost
  workspace :=
    { layout := Workspaces.computeLayout "/workspaces" "repo" "task-1"
      branchName := "factory/task-1/r1"
      reused := false }
  claimed := reworkJob_claimed
  hasPayload := rfl
  resolved := resolvePacketContext_eq_ok.mpr
    ⟨reworkSpawn, _, reworkSpawn_resolved, (Option.some_get _).symm, rfl⟩
  found := (Option.some_get _).symm
  created := by decide +kernel

theorem reworkedTask_attempt (packet : LeadReviewDecisionPacket)
    (hpacket : changesRequestedParams.packet = .ok packet) :
    ReworkAttempt plainFollowUps arrivalOrder "task-1" reworkedTask changesRequestedParams
      packet := by
  let system := factory plainFollowUps arrivalOrder
  let before := firstReview.map .review ++ reviewed "a0"
  let pool : FactoryStep :=
    .review (.request (.createWorkerPool { workerPoolId := "pool-1", maxConcurrency := 1 }))
  have haccepted : (applyDecision plainFollowUps (sampleIds "d") changesRequestedParams
      (system.run Factory.start before).shared).toOption.isSome = true := by
    decide +kernel
  rcases Option.isSome_iff_exists.mp haccepted with ⟨accepted, haccepted⟩
  refine ⟨rejectedTask ++ [pool], ⟨.review (.request (.acquireLease 5000 "lease-2" reworkLease)),
    [], rfl, ⟨?_, ?_⟩, ?_⟩, before, sampleIds "d", accepted, ⟨[pool], rfl, ?_⟩, rfl, hpacket,
    toOption_eq_some.mp haccepted⟩
  · decide +kernel
  · decide +kernel
  · intro x hx
    cases hx
  · intro w hw
    simp only [TransitionSystem.states, List.mem_cons, List.not_mem_nil, or_false] at hw
    rcases hw with hw | hw
    · rw [hw]
      decide +kernel
    · rw [hw]
      decide +kernel

/-- The worker that is to rework the task is told neither why nor on which branch. -/
theorem rework_without_feedback :
    (exists packet, ReworkAttempt plainFollowUps arrivalOrder "task-1" reworkedTask
      changesRequestedParams packet) ∧
    valueAt reworkRun.input.taskPacket ["context", "rejection_context"] = some .null ∧
    valueAt reworkRun.input.taskPacket ["task", "branch_name"] = some (.string "task/task-1") ∧
    reworkRun.workspace.branchName = "factory/task-1/r1" ∧
    forall isDatetime g,
      ¬ FaithfulPackets isDatetime plainFollowUps arrivalOrder reworkedTask g reworkRun := by
  refine ⟨⟨_, reworkedTask_attempt _ rfl⟩, reworkRun.rejection_context, ?_, rfl, ?_⟩
  · exact (packet_branch_name _).trans (by decide +kernel)
  · intro isDatetime g h
    have htold := h.rejection.rework changesRequestedParams _ (reworkedTask_attempt _ rfl)
    rw [reworkRun.rejection_context] at htold
    cases htold

end Automation
end CopilotFactory
