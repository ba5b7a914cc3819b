import CopilotFactory.Merging.PostMergeValidationService

/-!
# Failed post-merge validations

A validation that fails takes the task to FAILED.  Its severity and the failure
policy decide whether a follow-up task is created in the same transaction, and
whether the merge queue is paused after it.
-/

namespace CopilotFactory
namespace Merging

open Foundations
open Domain
open Infrastructure
open Application

structure PostMergeFailurePolicy where
  criticalCheckThreshold : Int
  autoRevertOnCritical : Bool
  pauseQueueOnCritical : Bool
  useAnalysisAgentOnHigh : Bool
  defaultHighAction : String
  requireOperatorResumeAfterPause : Bool

def defaultPostMergeFailurePolicy : PostMergeFailurePolicy where
  criticalCheckThreshold := 3
  autoRevertOnCritical := true
  pauseQueueOnCritical := true
  useAnalysisAgentOnHigh := true
  defaultHighAction := "revert"
  requireOperatorResumeAfterPause := true

structure MergeGateOutcome extends ValidationCheckOutcome where
  category : CheckCategory

/-- What a run of the merge gate reports.  The counts are those of the report. -/
structure MergeGateResult where
  profileName : String
  overallStatus : OverallStatus
  checkOutcomes : List MergeGateOutcome
  summary : String
  requiredFailedCount : Nat
  optionalFailedCount : Nat

inductive FailureSeverity where
  | critical
  | high
  | low
deriving DecidableEq

def FailureSeverity.label : FailureSeverity -> String
  | .critical => "critical"
  | .high => "high"
  | .low => "low"

/-!
## Severity
-/

def isSecurityCheck (check : MergeGateOutcome) : Bool :=
  check.checkName.toLower = "security"

def isCheckFailing (check : MergeGateOutcome) : Bool :=
  check.status = .failed ∨ check.status = .error

def classifyFailureSeverity (result : MergeGateResult) (policy : PostMergeFailurePolicy) :
    FailureSeverity :=
  if result.checkOutcomes.any (fun check => isSecurityCheck check && isCheckFailing check) then
    .critical
  else if (result.requiredFailedCount : Int) > policy.criticalCheckThreshold then
    .critical
  else if result.requiredFailedCount > 0 then
    .high
  else
    .low

/-!
## Follow-up tasks
-/

inductive PostMergeTaskType where
  | revert
  | diagnostic
deriving DecidableEq

structure CreateFollowUpTaskData where
  title : String
  description : String
  repositoryId : String
  projectId : String
  taskType : PostMergeTaskType
  originTaskId : TaskId
  priority : Nat

structure PostMergeTask where
  id : TaskId
  version : Nat
  repositoryId : String
  projectId : String

def failedChecks (result : MergeGateResult) : String :=
  ", ".intercalate ((result.checkOutcomes.filter isCheckFailing).map
    (fun check => s!"{check.checkName} ({check.category.label})"))

def buildRevertDescription (task : PostMergeTask) (result : MergeGateResult)
    (severity : FailureSeverity) : String :=
  s!"Post-merge validation failed with {severity.label} severity for task {task.id}. " ++
    s!"Failed checks: {failedChecks result}. " ++
    "A revert of the merged changes is recommended to restore the target branch " ++
    s!"to a known-good state. Profile: {result.profileName}. " ++
    s!"Summary: {result.summary}"

def buildDiagnosticDescription (task : PostMergeTask) (result : MergeGateResult) : String :=
  s!"Post-merge validation had optional check failures for task {task.id}. " ++
    s!"Failed optional checks: {failedChecks result}. " ++
    "No required checks failed — the merge is considered successful. " ++
    "This diagnostic task tracks investigation of the optional failures. " ++
    s!"Profile: {result.profileName}. " ++
    s!"Summary: {result.summary}"

def revertTask (task : PostMergeTask) (result : MergeGateResult)
    (severity : FailureSeverity) (title : String) (priority : Nat) :
    CreateFollowUpTaskData where
  title := title
  description := buildRevertDescription task result severity
  repositoryId := task.repositoryId
  projectId := task.projectId
  taskType := .revert
  originTaskId := task.id
  priority := priority

def diagnosticTask (task : PostMergeTask) (result : MergeGateResult) :
    CreateFollowUpTaskData where
  title := s!"Diagnostic: post-merge optional check failures for {task.id}"
  description := buildDiagnosticDescription task result
  repositoryId := task.repositoryId
  projectId := task.projectId
  taskType := .diagnostic
  originTaskId := task.id
  priority := 5

def followUpTask (task : PostMergeTask) (result : MergeGateResult)
    (policy : PostMergeFailurePolicy) : FailureSeverity -> Option CreateFollowUpTaskData
  | .critical =>
      if policy.autoRevertOnCritical then
        some (revertTask task result .critical
          s!"Revert: post-merge validation critical failure for {task.id}" 0)
      else
        none
  | .high =>
      -- The analysis agent is left to decide, but nothing is handed over to it.
      if policy.useAnalysisAgentOnHigh then
        none
      else
        some (revertTask task result .high
          s!"Revert: post-merge validation high-severity failure for {task.id}" 1)
  | .low => some (diagnosticTask task result)

/-!
## Ports
-/

structure PostMergeFollowUpTask where
  id : TaskId
  data : CreateFollowUpTaskData

structure OperatorNotification where
  taskId : TaskId
  repositoryId : String
  severity : FailureSeverity
  message : String
  requiresAction : Bool

/-- What a validation works on: the database with the follow-up tasks, the merge queues
that are paused, and the notifications that were sent. -/
structure PostMergeWorld where
  store : Store
  followUpTasks : List PostMergeFollowUpTask
  paused : String -> Bool
  notifications : List OperatorNotification

/-- A call that returns has paused the queue.  One that throws may have changed anything. -/
structure MergeQueuePausePort where
  pauseQueue : String -> String -> (String -> Bool) ->
    Except ServiceError Unit × (String -> Bool)
  pauses : forall repositoryId reason paused,
    (pauseQueue repositoryId reason paused).1 = .ok () ->
      (pauseQueue repositoryId reason paused).2 repositoryId = true

structure PostMergePorts where
  projectOf : String -> String
  /-- What others change while the validation runs, and what it reports. -/
  whileValidating : PostMergeWorld -> PostMergeWorld
  runMergeGateValidation : Except ServiceError MergeGateResult
  /-- The id of the new task, or what the task registry throws. -/
  createFollowUpTask : CreateFollowUpTaskData -> List PostMergeFollowUpTask ->
    Except ServiceError TaskId
  mergeQueuePause : MergeQueuePausePort
  notify : OperatorNotification -> Except ServiceError Unit

def buildNotificationMessage (task : PostMergeTask) (result : MergeGateResult) :
    FailureSeverity -> String
  | .critical =>
      s!"CRITICAL: Post-merge validation failed for task {task.id} " ++
        s!"in repository {task.repositoryId}. " ++
        s!"{result.requiredFailedCount} required checks failed. " ++
        "Merge queue has been paused. Operator action required to resume."
  | .high =>
      s!"HIGH: Post-merge validation failed for task {task.id} " ++
        s!"in repository {task.repositoryId}. " ++
        s!"{result.requiredFailedCount} required check(s) failed. " ++
        "Review recommended."
  | .low =>
      s!"INFO: Post-merge optional check failures for task {task.id} " ++
        s!"in repository {task.repositoryId}. " ++
        s!"{result.optionalFailedCount} optional check(s) failed. " ++
        "No action required — diagnostic task created."

def notification (task : PostMergeTask) (result : MergeGateResult)
    (severity : FailureSeverity) : OperatorNotification where
  taskId := task.id
  repositoryId := task.repositoryId
  severity := severity
  message := buildNotificationMessage task result severity
  requiresAction := severity = .critical ∨ severity = .high

def pauseReason (task : PostMergeTask) (result : MergeGateResult) : String :=
  s!"Critical post-merge validation failure for task {task.id}. " ++
    s!"{result.requiredFailedCount} required checks failed."

/-!
## The service
-/

structure ExecutePostMergeValidationParams where
  taskId : TaskId
  actor : ActorInfo
  failurePolicy : PostMergeFailurePolicy := defaultPostMergeFailurePolicy

structure PostMergeFailureResult where
  severity : FailureSeverity
  task : Task
  auditEvents : List AuditEvent
  queuePaused : Bool
  followUpTasks : List PostMergeFollowUpTask

inductive PostMergeValidationResult where
  | passed (task : Task)
  | failed (result : PostMergeFailureResult)

def failedAudit (taskId : TaskId) (actor : ActorInfo) : AuditEvent :=
  stateTransition "task" taskId TaskStatus.postMergeValidation.label TaskStatus.failed.label
    actor

def createFollowUp (ports : PostMergePorts) (data : Option CreateFollowUpTaskData)
    (existing : List PostMergeFollowUpTask) :
    Except ServiceError (List PostMergeFollowUpTask) :=
  match data with
  | none => .ok []
  | some data => do
      let id ← ports.createFollowUpTask data existing
      pure [{ id := id, data := data }]

/-- The transaction of a failure: the task, its audit event and the follow-up task. -/
def failTask (ports : PostMergePorts) (task : PostMergeTask) (result : MergeGateResult)
    (params : ExecutePostMergeValidationParams) (severity : FailureSeverity)
    (w : PostMergeWorld) :
    Except ServiceError (PostMergeWorld × List PostMergeFollowUpTask) := do
  commitTransition "Task" task.id TaskStatus.postMergeValidation.label
    TaskStatus.failed.label
    (validateTransition .postMergeValidation .failed
      { postMergeValidationPassed := some false })
  let s₁ ← w.store.updateTask task.id task.version { status := some .failed }
  let created ← createFollowUp ports
    (followUpTask task result params.failurePolicy severity) w.followUpTasks
  pure ({ w with
      store := s₁.appendAudit (failedAudit task.id params.actor)
      followUpTasks := w.followUpTasks ++ created },
    created)

abbrev PostMergeProcess := Process PostMergeWorld ServiceError

def pauseQueue (ports : PostMergePorts) (repositoryId reason : String) :
    PostMergeProcess Unit :=
  Process.call (fun w =>
    let r := ports.mergeQueuePause.pauseQueue repositoryId reason w.paused
    (r.1, { w with paused := r.2 }))

def notifyOperator (ports : PostMergePorts) (n : OperatorNotification) :
    PostMergeProcess Unit :=
  Process.call (fun w =>
    match ports.notify n with
    | .ok _ => (.ok (), { w with notifications := w.notifications ++ [n] })
    | .error e => (.error e, w))

def pausesQueue (policy : PostMergeFailurePolicy) (severity : FailureSeverity) : Bool :=
  severity = .critical ∧ policy.pauseQueueOnCritical = true

/-- What follows the transaction: the queue is paused and the operator is notified. -/
def respond (ports : PostMergePorts) (task : PostMergeTask) (result : MergeGateResult)
    (policy : PostMergeFailurePolicy) (severity : FailureSeverity) :
    PostMergeProcess Unit := do
  if pausesQueue policy severity = true then
    pauseQueue ports task.repositoryId (pauseReason task result)
  notifyOperator ports (notification task result severity)

def applyFailure (ports : PostMergePorts) (row : Task) (task : PostMergeTask)
    (result : MergeGateResult) (params : ExecutePostMergeValidationParams) :
    PostMergeProcess PostMergeFailureResult := do
  let severity := classifyFailureSeverity result params.failurePolicy
  let followUpTasks ← Process.transaction (fun _ w => w) id
    (failTask ports task result params severity)
  respond ports task result params.failurePolicy severity
  pure
    { severity := severity
      task := TaskUpdate.apply { status := some .failed } (task.version + 1) row
      auditEvents := [failedAudit task.id params.actor]
      queuePaused := pausesQueue params.failurePolicy severity
      followUpTasks := followUpTasks }

def postMergeTask (ports : PostMergePorts) (task : Task) : PostMergeTask where
  id := task.taskId
  version := task.version
  repositoryId := task.repositoryId
  projectId := ports.projectOf task.repositoryId

def executePostMergeValidation (ports : PostMergePorts)
    (params : ExecutePostMergeValidationParams) :
    PostMergeProcess PostMergeValidationResult := do
  let w ← Process.read
  let row ← Process.ofExcept (loadPostMergeTask params.taskId w.store)
  let result ← Process.await ports.whileValidating ports.runMergeGateValidation
  match result.overallStatus with
  | .passed => do
      let task ← Process.transaction (fun w store => { w with store := store }) id
        (fun w => applySuccess row params.actor w.store)
      pure (.passed task)
  | .failed => do
      let failure ← applyFailure ports row (postMergeTask ports row) result params
      pure (.failed failure)

/-!
## When the transaction commits
-/

/-- The task is loaded, nobody has changed it while the validation ran, and the task
registry takes its follow-up task. -/
structure FailureCommits (ports : PostMergePorts) (params : ExecutePostMergeValidationParams)
    (result : MergeGateResult) (w : PostMergeWorld) (row : Task) : Prop where
  loaded : loadPostMergeTask params.taskId w.store = .ok row
  current : exists current,
    (ports.whileValidating w).store.findTask row.taskId = some current ∧
      current.version = row.version
  created : exists created,
    createFollowUp ports (followUpTask (postMergeTask ports row) result params.failurePolicy
      (classifyFailureSeverity result params.failurePolicy))
        (ports.whileValidating w).followUpTasks = .ok created

def failedWorld (task : PostMergeTask) (actor : ActorInfo)
    (created : List PostMergeFollowUpTask) (w : PostMergeWorld) : PostMergeWorld :=
  { w with
    store := (w.store.writeTask task.id (task.version + 1)
      { status := some .failed }).appendAudit (failedAudit task.id actor)
    followUpTasks := w.followUpTasks ++ created }

variable {severity : FailureSeverity}

theorem failTask_eq_ok {ports : PostMergePorts} {task : PostMergeTask}
    {result : MergeGateResult} {params : ExecutePostMergeValidationParams}
    {w w' : PostMergeWorld} {created : List PostMergeFollowUpTask} :
    failTask ports task result params severity w = .ok (w', created) <->
      (exists current, w.store.findTask task.id = some current ∧
        current.version = task.version) ∧
      createFollowUp ports (followUpTask task result params.failurePolicy severity)
        w.followUpTasks = .ok created ∧
      w' = failedWorld task params.actor created w := by
  have hvalid : validateTransition .postMergeValidation .failed
      { postMergeValidationPassed := some false } = .valid :=
    rfl
  simp only [failTask, bind_eq_ok, commitTransition_eq_ok, Store.updateTask_eq_ok,
    pure_eq_ok, Prod.mk.injEq]
  constructor
  · intro h
    rcases h with ⟨_, _, s₁, ⟨current, hcurrent, hversion, hs₁⟩, created', hcreated, hw',
      hsame⟩
    rw [hsame] at hcreated hw'
    refine ⟨⟨current, hcurrent, hversion⟩, hcreated, ?_⟩
    rw [← hw', hs₁]
    rfl
  · intro h
    rcases h with ⟨⟨current, hcurrent, hversion⟩, hcreated, hw'⟩
    exact ⟨(), hvalid, _, ⟨current, hcurrent, hversion, rfl⟩, created, hcreated, hw'.symm,
      rfl⟩

theorem createFollowUp_eq_ok {ports : PostMergePorts} {data : Option CreateFollowUpTaskData}
    {existing created : List PostMergeFollowUpTask} :
    createFollowUp ports data existing = .ok created ->
      created.map PostMergeFollowUpTask.data = data.toList := by
  intro h
  cases data with
  | none =>
      cases h
      rfl
  | some data =>
      simp only [createFollowUp, bind_eq_ok, pure_eq_ok] at h
      rcases h with ⟨id, _, hcreated⟩
      rw [← hcreated]
      rfl

/-!
## How a failed validation ends
-/

section Ending

variable {ports : PostMergePorts} {params : ExecutePostMergeValidationParams}
variable {result : MergeGateResult} {w : PostMergeWorld} {row : Task}

theorem ending_of_not_loaded
    (h : forall row, loadPostMergeTask params.taskId w.store ≠ .ok row) :
    (executePostMergeValidation ports params w).commits = [] ∧
      (executePostMergeValidation ports params w).state = w := by
  cases hload : loadPostMergeTask params.taskId w.store with
  | ok row => exact absurd hload (h row)
  | error e =>
      simp only [executePostMergeValidation, Bind.bind, Process.read, hload,
        Process.ofExcept, Process.throw]
      exact ⟨rfl, trivial⟩

theorem ending_of_failed (hload : loadPostMergeTask params.taskId w.store = .ok row)
    (hresult : ports.runMergeGateValidation = .ok result)
    (hfailed : result.overallStatus = .failed) :
    (executePostMergeValidation ports params w).commits =
        (applyFailure ports row (postMergeTask ports row) result params
          (ports.whileValidating w)).commits ∧
      (executePostMergeValidation ports params w).state =
        (applyFailure ports row (postMergeTask ports row) result params
          (ports.whileValidating w)).state := by
  simp only [executePostMergeValidation, Bind.bind, Process.read, hload, Process.ofExcept,
    Pure.pure, Process.await, hresult, hfailed, List.nil_append]
  cases (applyFailure ports row (postMergeTask ports row) result params
    (ports.whileValidating w)).result with
  | error e => exact ⟨rfl, rfl⟩
  | ok failure => exact ⟨List.append_nil _, rfl⟩

theorem applyFailure_of_error {task : PostMergeTask} {e : ServiceError}
    (h : failTask ports task result params
      (classifyFailureSeverity result params.failurePolicy) w = .error e) :
    (applyFailure ports row task result params w).commits = [] ∧
      (applyFailure ports row task result params w).state = w := by
  simp only [applyFailure, Bind.bind, Process.transaction, h]
  exact ⟨trivial, trivial⟩

def pausedAfter (ports : PostMergePorts) (task : PostMergeTask) (result : MergeGateResult)
    (policy : PostMergeFailurePolicy) (severity : FailureSeverity)
    (paused : String -> Bool) : String -> Bool :=
  if pausesQueue policy severity = true then
    (ports.mergeQueuePause.pauseQueue task.repositoryId (pauseReason task result) paused).2
  else
    paused

theorem respond_spec (task : PostMergeTask) (policy : PostMergeFailurePolicy)
    (severity : FailureSeverity) (w₀ : PostMergeWorld) :
    Process.Triple (fun _ _ => False) (fun w => w = w₀)
      (respond ports task result policy severity)
      (fun _ w => w.store = w₀.store ∧ w.followUpTasks = w₀.followUpTasks ∧
        w.paused = pausedAfter ports task result policy severity w₀.paused) := by
  have hnotify : forall n, Process.Triple (fun _ _ => False)
      (fun w => w.store = w₀.store ∧ w.followUpTasks = w₀.followUpTasks ∧
        w.paused = pausedAfter ports task result policy severity w₀.paused)
      (notifyOperator ports n)
      (fun _ w => w.store = w₀.store ∧ w.followUpTasks = w₀.followUpTasks ∧
        w.paused = pausedAfter ports task result policy severity w₀.paused) := by
    intro n
    apply Process.Triple.call
    intro w hw
    cases ports.notify n with
    | error e => exact hw
    | ok u => exact hw
  unfold respond
  cases hpauses : pausesQueue policy severity with
  | true =>
      rw [if_pos rfl]
      apply Process.Triple.bind (Process.Triple.call ?_) (fun _ => hnotify _)
        (fun _ _ hw => hw)
      intro w hw
      rw [hw]
      refine ⟨rfl, rfl, ?_⟩
      unfold pausedAfter
      rw [if_pos hpauses]
  | false =>
      rw [if_neg Bool.false_ne_true]
      refine (hnotify (notification task result severity)).weaken ?_ (fun _ _ hw => hw)
      intro w hw
      rw [hw]
      refine ⟨rfl, rfl, ?_⟩
      unfold pausedAfter
      rw [if_neg (by rw [hpauses]; exact Bool.false_ne_true)]

theorem applyFailure_of_ok {task : PostMergeTask} {w' : PostMergeWorld}
    {created : List PostMergeFollowUpTask}
    (h : failTask ports task result params
      (classifyFailureSeverity result params.failurePolicy) w = .ok (w', created)) :
    (applyFailure ports row task result params w).commits = [(w, w')] ∧
      (applyFailure ports row task result params w).state.store = w'.store ∧
      (applyFailure ports row task result params w).state.followUpTasks =
        w'.followUpTasks ∧
      (applyFailure ports row task result params w).state.paused =
        pausedAfter ports task result params.failurePolicy
          (classifyFailureSeverity result params.failurePolicy) w'.paused := by
  have hrespond : Process.Triple (fun _ _ => False) (fun w => w = w')
      (respond ports task result params.failurePolicy
        (classifyFailureSeverity result params.failurePolicy)) _ :=
    respond_spec task params.failurePolicy _ w'
  rcases hrespond w' rfl with ⟨hstate, hnone⟩
  have hcommits := List.eq_nil_iff_forall_not_mem.mpr hnone
  simp only [applyFailure, Bind.bind, Process.transaction, h]
  cases hresponse : (respond ports task result params.failurePolicy
      (classifyFailureSeverity result params.failurePolicy) w').result with
  | error e => exact ⟨by rw [hcommits]; rfl, hstate⟩
  | ok u => exact ⟨by rw [hcommits]; rfl, hstate⟩

end Ending

/-!
## What a failure should leave behind
-/

/-- The transaction writes the FAILED task, its audit event and the follow-up task. -/
structure FailedTogether (params : ExecutePostMergeValidationParams) (taskId : TaskId)
    (followUp : Option CreateFollowUpTaskData) (before after : PostMergeWorld) : Prop where
  task : exists row, after.store.findTask taskId = some row ∧ row.status = .failed
  audit : after.store.auditEvents =
    before.store.auditEvents ++ [failedAudit taskId params.actor]
  followUp : after.followUpTasks.map PostMergeFollowUpTask.data =
    before.followUpTasks.map PostMergeFollowUpTask.data ++ followUp.toList

/-- The failure has left a revert task or an escalated task.  The service has no port to an
analysis agent, so that nothing can be handed over to one. -/
def Recovers (taskId : TaskId) (before final : PostMergeWorld) : Prop :=
  (exists followUp, final.followUpTasks = before.followUpTasks ++ [followUp] ∧
      followUp.data.taskType = .revert ∧ followUp.data.originTaskId = taskId) ∨
    exists row, final.store.findTask taskId = some row ∧ row.status = .escalated

/-- A required check or a security check has failed. -/
def SeriousFailure (result : MergeGateResult) : Prop :=
  exists check, check ∈ result.checkOutcomes ∧ isCheckFailing check = true ∧
    (check.category = .required ∨ isSecurityCheck check = true)

/-- What is expected of a failed validation, in the world it has started in. -/
structure HandlesFailure (ports : PostMergePorts) (params : ExecutePostMergeValidationParams)
    (result : MergeGateResult) (w : PostMergeWorld)
    (ending : Ending PostMergeWorld ServiceError PostMergeValidationResult) : Prop where
  together : (ending.commits = [] ∧
      (ending.state = w ∨ ending.state = ports.whileValidating w)) ∨
    exists row after, loadPostMergeTask params.taskId w.store = .ok row ∧
      ending.commits = [(ports.whileValidating w, after)] ∧
      FailedTogether params row.taskId
        (followUpTask (postMergeTask ports row) result params.failurePolicy
          (classifyFailureSeverity result params.failurePolicy))
        (ports.whileValidating w) after
  recovers : (classifyFailureSeverity result params.failurePolicy = .critical ∧
      params.failurePolicy.autoRevertOnCritical = true) ∨
      classifyFailureSeverity result params.failurePolicy = .high ->
    forall row, loadPostMergeTask params.taskId w.store = .ok row ->
      ending.commits ≠ [] -> Recovers row.taskId (ports.whileValidating w) ending.state
  pauses : classifyFailureSeverity result params.failurePolicy = .critical ->
    params.failurePolicy.pauseQueueOnCritical = true ->
    forall row, loadPostMergeTask params.taskId w.store = .ok row ->
      ending.commits ≠ [] -> ending.state.paused row.repositoryId = true
  low : classifyFailureSeverity result params.failurePolicy = .low ->
    ending.commits ≠ [] -> ¬ SeriousFailure result

/-- High severity is not left to the analysis agent, the pause of the queue takes effect
where it is asked for, and the count of failed required checks is not 0 if one has failed. -/
structure PolicyTakesEffect (ports : PostMergePorts)
    (params : ExecutePostMergeValidationParams) (result : MergeGateResult)
    (w : PostMergeWorld) (row : Task) : Prop where
  withoutAgent : classifyFailureSeverity result params.failurePolicy = .high ->
    params.failurePolicy.useAnalysisAgentOnHigh = false
  paused : classifyFailureSeverity result params.failurePolicy = .critical ->
    params.failurePolicy.pauseQueueOnCritical = true ->
    (ports.mergeQueuePause.pauseQueue row.repositoryId
      (pauseReason (postMergeTask ports row) result)
      (ports.whileValidating w).paused).2 row.repositoryId = true
  counted : classifyFailureSeverity result params.failurePolicy = .low ->
    forall check, check ∈ result.checkOutcomes -> check.category = .required ->
      isCheckFailing check = false

theorem pausesQueue_iff {policy : PostMergeFailurePolicy} :
    pausesQueue policy severity = true <->
      severity = .critical ∧ policy.pauseQueueOnCritical = true :=
  decide_eq_true_iff

theorem not_security_of_low {result : MergeGateResult} {policy : PostMergeFailurePolicy}
    (h : classifyFailureSeverity result policy = .low) (check : MergeGateOutcome)
    (hcheck : check ∈ result.checkOutcomes) (hsecurity : isSecurityCheck check = true) :
    isCheckFailing check = false := by
  unfold classifyFailureSeverity at h
  split at h
  · cases h
  · rename_i hnone
    rw [List.any_eq_true] at hnone
    cases hfailing : isCheckFailing check with
    | false => rfl
    | true => exact absurd ⟨check, hcheck, by rw [hsecurity, hfailing]; rfl⟩ hnone

theorem not_seriousFailure_iff {result : MergeGateResult} {policy : PostMergeFailurePolicy}
    (h : classifyFailureSeverity result policy = .low) :
    ¬ SeriousFailure result <->
      forall check, check ∈ result.checkOutcomes -> check.category = .required ->
        isCheckFailing check = false := by
  constructor
  · intro hnone check hcheck hrequired
    cases hfailing : isCheckFailing check with
    | false => rfl
    | true => exact absurd ⟨check, hcheck, hfailing, Or.inl hrequired⟩ hnone
  · intro hcounted hserious
    rcases hserious with ⟨check, hcheck, hfailing, hrequired | hsecurity⟩
    · rw [hcounted check hcheck hrequired] at hfailing
      cases hfailing
    · rw [not_security_of_low h check hcheck hsecurity] at hfailing
      cases hfailing

theorem handlesFailure_of_nothing {ports : PostMergePorts}
    {params : ExecutePostMergeValidationParams} {result : MergeGateResult}
    {w : PostMergeWorld}
    {ending : Ending PostMergeWorld ServiceError PostMergeValidationResult}
    (hcommits : ending.commits = [])
    (hstate : ending.state = w ∨ ending.state = ports.whileValidating w) :
    HandlesFailure ports params result w ending := by
  refine ⟨Or.inl ⟨hcommits, hstate⟩, ?_, ?_, ?_⟩
  · intro _ _ _ hsome
    exact absurd hcommits hsome
  · intro _ _ _ _ hsome
    exact absurd hcommits hsome
  · intro _ hsome
    exact absurd hcommits hsome

theorem failedTogether_failedWorld {ports : PostMergePorts}
    {params : ExecutePostMergeValidationParams} {task : PostMergeTask}
    {followUp : Option CreateFollowUpTaskData} {created : List PostMergeFollowUpTask}
    {w : PostMergeWorld} {current : Task} (hcurrent : w.store.findTask task.id = some current)
    (hcreated : createFollowUp ports followUp w.followUpTasks = .ok created) :
    FailedTogether params task.id followUp w (failedWorld task params.actor created w) := by
  refine ⟨?_, rfl, ?_⟩
  · refine ⟨TaskUpdate.apply { status := some .failed } (task.version + 1) current, ?_, rfl⟩
    show (w.store.writeTask task.id (task.version + 1) _).findTask task.id = _
    rw [Store.findTask_writeTask_self, hcurrent]
    rfl
  · show (w.followUpTasks ++ created).map PostMergeFollowUpTask.data = _
    rw [List.map_append, createFollowUp_eq_ok hcreated]

/-- A task that has just failed is not an escalated one, so only a revert task recovers. -/
theorem recovers_iff_revert {params : ExecutePostMergeValidationParams} {taskId : TaskId}
    {followUp : Option CreateFollowUpTaskData} {before after final : PostMergeWorld}
    (htogether : FailedTogether params taskId followUp before after)
    (hstore : final.store = after.store) (hfollowUps : final.followUpTasks = after.followUpTasks)
    {created : List PostMergeFollowUpTask}
    (hcreated : after.followUpTasks = before.followUpTasks ++ created) :
    Recovers taskId before final <->
      exists data, followUp = some data ∧ data.taskType = .revert ∧
        data.originTaskId = taskId := by
  have hdata : created.map PostMergeFollowUpTask.data = followUp.toList := by
    have h := htogether.followUp
    rw [hcreated, List.map_append] at h
    exact List.append_cancel_left h
  constructor
  · intro h
    rcases h with ⟨task, htasks, htype, horigin⟩ | ⟨row, hrow, hescalated⟩
    · rw [hfollowUps, hcreated] at htasks
      rw [List.append_cancel_left htasks] at hdata
      refine ⟨task.data, ?_, htype, horigin⟩
      cases followUp with
      | none => cases hdata
      | some data =>
          cases hdata
          rfl
    · rcases htogether.task with ⟨failed, hfailed, hstatus⟩
      rw [hstore, hfailed] at hrow
      cases hrow
      rw [hstatus] at hescalated
      cases hescalated
  · intro h
    rcases h with ⟨data, hsome, htype, horigin⟩
    rw [hsome] at hdata
    rcases List.map_eq_singleton_iff.mp hdata with ⟨task, htask, hsame⟩
    refine Or.inl ⟨task, ?_, by rw [hsame]; exact htype, by rw [hsame]; exact horigin⟩
    rw [hfollowUps, hcreated, htask]

theorem followUpTask_revert_iff {task : PostMergeTask} {result : MergeGateResult}
    {policy : PostMergeFailurePolicy} :
    (exists data, followUpTask task result policy severity = some data ∧
        data.taskType = .revert ∧ data.originTaskId = task.id) <->
      (severity = .critical ∧ policy.autoRevertOnCritical = true) ∨
        (severity = .high ∧ policy.useAnalysisAgentOnHigh = false) := by
  constructor
  · intro h
    rcases h with ⟨data, hdata, htype, _⟩
    cases severity with
    | critical =>
        simp only [followUpTask] at hdata
        split at hdata
        · rename_i hpolicy
          exact Or.inl ⟨rfl, hpolicy⟩
        · cases hdata
    | high =>
        simp only [followUpTask] at hdata
        split at hdata
        · cases hdata
        · rename_i hpolicy
          exact Or.inr ⟨rfl, Bool.eq_false_iff.mpr hpolicy⟩
    | low =>
        cases hdata
        cases htype
  · intro h
    rcases h with ⟨hcritical, hpolicy⟩ | ⟨hhigh, hpolicy⟩
    · rw [hcritical]
      exact ⟨_, if_pos hpolicy, rfl, rfl⟩
    · rw [hhigh]
      exact ⟨_, if_neg (by rw [hpolicy]; exact Bool.false_ne_true), rfl, rfl⟩

theorem pausedAfter_of_pausesQueue {ports : PostMergePorts} {task : PostMergeTask}
    {result : MergeGateResult} {policy : PostMergeFailurePolicy} {paused : String -> Bool}
    (h : pausesQueue policy severity = true) :
    pausedAfter ports task result policy severity paused =
      (ports.mergeQueuePause.pauseQueue task.repositoryId (pauseReason task result)
        paused).2 := by
  unfold pausedAfter
  rw [if_pos h]

/-- Where the failure commits, it is handled exactly if the policy takes effect. -/
theorem handlesFailure_iff_of_committed {ports : PostMergePorts}
    {params : ExecutePostMergeValidationParams} {result : MergeGateResult}
    {w after : PostMergeWorld} {row : Task} {created : List PostMergeFollowUpTask}
    (hload : loadPostMergeTask params.taskId w.store = .ok row)
    (hresult : ports.runMergeGateValidation = .ok result)
    (hfailed : result.overallStatus = .failed)
    (hfail : failTask ports (postMergeTask ports row) result params
      (classifyFailureSeverity result params.failurePolicy) (ports.whileValidating w) =
        .ok (after, created)) :
    HandlesFailure ports params result w (executePostMergeValidation ports params w) <->
      PolicyTakesEffect ports params result w row := by
  rcases ending_of_failed hload hresult hfailed with ⟨hcommits, hstate⟩
  rcases failTask_eq_ok.mp hfail with ⟨hcurrent, hcreated, hafter⟩
  rcases applyFailure_of_ok hfail with ⟨hone, hstore, hfollowUps, hpaused⟩
  rw [hone] at hcommits
  rw [← hstate] at hstore hfollowUps hpaused
  have hsome : (executePostMergeValidation ports params w).commits ≠ [] := by
    rw [hcommits]
    exact List.cons_ne_nil _ _
  have htogether : FailedTogether params row.taskId
      (followUpTask (postMergeTask ports row) result params.failurePolicy
        (classifyFailureSeverity result params.failurePolicy))
      (ports.whileValidating w) after := by
    rcases hcurrent with ⟨current, hcurrent, _⟩
    rw [hafter]
    exact failedTogether_failedWorld hcurrent hcreated
  have hcreatedAfter :
      after.followUpTasks = (ports.whileValidating w).followUpTasks ++ created := by
    rw [hafter]
    rfl
  have hrecovers := (recovers_iff_revert htogether hstore hfollowUps hcreatedAfter).trans
    followUpTask_revert_iff
  have hpausedBefore : after.paused = (ports.whileValidating w).paused := by
    rw [hafter]
    rfl
  constructor
  · intro h
    refine ⟨?_, ?_, ?_⟩
    · intro hhigh
      rcases hrecovers.mp (h.recovers (Or.inr hhigh) row hload hsome) with
        ⟨hcritical, _⟩ | ⟨_, hagent⟩
      · rw [hhigh] at hcritical
        cases hcritical
      · exact hagent
    · intro hcritical hpause
      have hdone := h.pauses hcritical hpause row hload hsome
      rw [hpaused, pausedAfter_of_pausesQueue
        (pausesQueue_iff.mpr ⟨hcritical, hpause⟩), hpausedBefore] at hdone
      exact hdone
    · intro hlow
      exact (not_seriousFailure_iff hlow).mp (h.low hlow hsome)
  · intro heffect
    refine ⟨Or.inr ⟨row, after, hload, hcommits, htogether⟩, ?_, ?_, ?_⟩
    · intro hserious row' hrow' _
      rw [hload] at hrow'
      cases hrow'
      apply hrecovers.mpr
      rcases hserious with hcritical | hhigh
      · exact Or.inl hcritical
      · exact Or.inr ⟨hhigh, heffect.withoutAgent hhigh⟩
    · intro hcritical hpause row' hrow' _
      rw [hload] at hrow'
      cases hrow'
      rw [hpaused, pausedAfter_of_pausesQueue
        (pausesQueue_iff.mpr ⟨hcritical, hpause⟩), hpausedBefore]
      exact heffect.paused hcritical hpause
    · intro hlow _
      exact (not_seriousFailure_iff hlow).mpr (heffect.counted hlow)

/-- A failed validation leaves behind what is expected of it exactly if, where its
transaction commits, the failure policy takes effect. -/
theorem executePostMergeValidation_handles_iff (ports : PostMergePorts)
    (params : ExecutePostMergeValidationParams) (result : MergeGateResult)
    (w : PostMergeWorld) (hresult : ports.runMergeGateValidation = .ok result)
    (hfailed : result.overallStatus = .failed) :
    HandlesFailure ports params result w (executePostMergeValidation ports params w) <->
      forall row, FailureCommits ports params result w row ->
        PolicyTakesEffect ports params result w row := by
  cases hload : loadPostMergeTask params.taskId w.store with
  | error e =>
      have hnone : forall row, loadPostMergeTask params.taskId w.store ≠ .ok row := by
        intro row hrow
        rw [hload] at hrow
        cases hrow
      have hending : (executePostMergeValidation ports params w).commits = [] ∧
          (executePostMergeValidation ports params w).state = w :=
        ending_of_not_loaded hnone
      rcases hending with ⟨hcommits, hstate⟩
      constructor
      · intro _ row hrow
        exact absurd hrow.loaded (hnone row)
      · intro _
        exact handlesFailure_of_nothing hcommits (Or.inl hstate)
  | ok row =>
      rcases ending_of_failed hload hresult hfailed with ⟨hcommits, hstate⟩
      cases hfail : failTask ports (postMergeTask ports row) result params
          (classifyFailureSeverity result params.failurePolicy)
          (ports.whileValidating w) with
      | error e =>
          rcases applyFailure_of_error hfail with ⟨hnone, hsame⟩
          constructor
          · intro _ row' hrow'
            have hrow := hrow'.loaded
            rw [hload] at hrow
            cases hrow
            rcases hrow'.created with ⟨created, hcreated⟩
            rw [failTask_eq_ok.mpr ⟨hrow'.current, hcreated, rfl⟩] at hfail
            cases hfail
          · intro _
            exact handlesFailure_of_nothing (hcommits.trans hnone)
              (Or.inr (hstate.trans hsame))
      | ok r =>
          rcases r with ⟨after, created⟩
          rcases failTask_eq_ok.mp hfail with ⟨hcurrent, hcreated, _⟩
          rw [handlesFailure_iff_of_committed hload hresult hfailed hfail]
          constructor
          · intro h row' hrow'
            have hrow := hrow'.loaded
            rw [hload] at hrow
            cases hrow
            exact h
          · intro h
            exact h row ⟨hload, hcurrent, created, hcreated⟩

/-!
## A failed build

One required check fails after the merge.  With the default policy, an analysis agent is
left to decide.
-/

def mergedStore : Store where
  tasks.rows :=
    [{ taskId := "task-1", repositoryId := "repo-1", taskType := "feature",
       priority := "high", status := .postMergeValidation, version := 9, retryCount := 0,
       currentLeaseId := none, currentReviewCycleId := none,
       mergeQueueItemId := none, completedAt := none }]
  tasks.nodup := List.nodup_singleton _
  taskLeases := Table.empty
  workerPools := Table.empty
  mergeQueueItems := Table.empty
  auditEvents := []
  leaseTask := by
    intro l h
    exact absurd h (Table.not_mem_empty l)
  leasePool := Store.empty.leasePool
  itemTask := by
    intro i h
    exact absurd h (Table.not_mem_empty i)

def mergedWorld : PostMergeWorld where
  store := mergedStore
  followUpTasks := []
  paused := fun _ => false
  notifications := []

def brokenBuild (checkName : String) : MergeGateResult where
  profileName := "merge-gate"
  overallStatus := .failed
  checkOutcomes :=
    [{ checkName := checkName, command := "pnpm test", status := .failed, durationMs := 10,
       category := .required }]
  summary := "1 required check failed."
  requiredFailedCount := 1
  optionalFailedCount := 0

def gatePorts (checkName : String) (canPause : Bool) : PostMergePorts where
  projectOf := fun _ => "project-1"
  whileValidating := id
  runMergeGateValidation := .ok (brokenBuild checkName)
  createFollowUpTask := fun data existing =>
    .ok s!"follow-up-{existing.length + 1}-of-{data.originTaskId}"
  mergeQueuePause :=
    { pauseQueue := fun repositoryId _ paused =>
        if canPause then
          (.ok (), fun other => other = repositoryId ∨ paused other = true)
        else
          (.error (.conflictException "merge queue is not available"), paused)
      pauses := by
        intro repositoryId reason paused h
        cases canPause with
        | true => simp
        | false => cases h }
  notify := fun _ => .ok ()

def validateMerged (failurePolicy : PostMergeFailurePolicy) :
    ExecutePostMergeValidationParams where
  taskId := "task-1"
  actor := { type := "system", id := "post-merge" }
  failurePolicy := failurePolicy

/-- Without the analysis agent the failed build is reverted. -/
theorem failed_build_reverted :
    HandlesFailure (gatePorts "test" true)
      (validateMerged { defaultPostMergeFailurePolicy with useAnalysisAgentOnHigh := false })
      (brokenBuild "test") mergedWorld
      (executePostMergeValidation (gatePorts "test" true)
        (validateMerged
          { defaultPostMergeFailurePolicy with useAnalysisAgentOnHigh := false })
        mergedWorld) :=
  (executePostMergeValidation_handles_iff _ _ (brokenBuild "test") mergedWorld rfl rfl).mpr
    (fun row _ => ⟨fun _ => rfl, fun h => absurd h (by decide +kernel),
      fun h => absurd h (by decide +kernel)⟩)

def defaultRun (checkName : String) (canPause : Bool) :
    Ending PostMergeWorld ServiceError PostMergeValidationResult :=
  executePostMergeValidation (gatePorts checkName canPause)
    (validateMerged defaultPostMergeFailurePolicy) mergedWorld

/-- The default policy leaves a failed build without a recovery, and a queue that could not
be paused unpaused. -/
theorem failed_build_left_alone :
    ¬ HandlesFailure (gatePorts "test" true) (validateMerged defaultPostMergeFailurePolicy)
        (brokenBuild "test") mergedWorld (defaultRun "test" true) ∧
      ¬ HandlesFailure (gatePorts "security" false)
        (validateMerged defaultPostMergeFailurePolicy) (brokenBuild "security") mergedWorld
        (defaultRun "security" false) := by
  have hcommitted : forall ending :
      Ending PostMergeWorld ServiceError PostMergeValidationResult,
      ending.commits.length = 1 -> ending.commits ≠ [] := by
    intro ending h hnone
    rw [hnone] at h
    cases h
  constructor
  · intro h
    have hlost := h.recovers (Or.inr (by decide +kernel)) _ rfl
      (hcommitted _ (by decide +kernel))
    rcases hlost with ⟨followUp, htasks, _⟩ | ⟨row, hrow, hescalated⟩
    · have hnone : (defaultRun "test" true).state.followUpTasks.length = 0 := by
        decide +kernel
      rw [htasks] at hnone
      cases hnone
    · have hfailed : ((defaultRun "test" true).state.store.findTask "task-1").map
          Task.status = some .failed := by
        decide +kernel
      rw [show (defaultRun "test" true).state.store.findTask "task-1" = some row from hrow]
        at hfailed
      cases hfailed.symm.trans (congrArg some hescalated)
  · intro h
    have hpaused := h.pauses (by decide +kernel) rfl _ rfl
      (hcommitted _ (by decide +kernel))
    have hunpaused : (defaultRun "security" false).state.paused "repo-1" = false := by
      decide +kernel
    cases hunpaused.symm.trans hpaused

end Merging
end CopilotFactory
