import CopilotFactory.Reviewing.ReviewTables

/-!
# Review decisions

The decision of the lead reviewer ends the cycle and moves the task.  Too many
rejected rounds escalate the task instead of sending it back to development.
-/

namespace CopilotFactory
namespace Reviewing

open Foundations
open Domain
open Infrastructure
open Application

variable {r r' : ReviewTables}

def decisionLabel : LeadReviewDecision -> String
  | .approved => "approved"
  | .approvedWithFollowUp => "approved_with_follow_up"
  | .changesRequested => "changes_requested"
  | .escalated => "escalated"

/-!
## The packet
-/

inductive IssueSeverity where
  | critical
  | high
  | medium
  | low
deriving DecidableEq

def IssueSeverity.label : IssueSeverity -> String
  | .critical => "critical"
  | .high => "high"
  | .medium => "medium"
  | .low => "low"

structure Issue where
  severity : IssueSeverity
  code : String
  title : String
  description : String
  filePath : Option String := none
  line : Option Nat := none
  blocking : Bool
deriving DecidableEq

/-- An issue as it is stored: a field that it does not have is left out. -/
def Issue.toJson (issue : Issue) : Json :=
  .object
    ([("severity", .string issue.severity.label),
      ("code", .string issue.code),
      ("title", .string issue.title),
      ("description", .string issue.description)] ++
      (issue.filePath.map (fun path => ("file_path", Json.string path))).toList ++
      (issue.line.map (fun line => ("line", Json.number line))).toList ++
      [("blocking", .boolean issue.blocking)])

structure LeadReviewDecisionPacket where
  taskId : TaskId
  reviewCycleId : ReviewCycleId
  decision : LeadReviewDecision
  summary : String
  blockingIssues : List Issue
  nonBlockingSuggestions : List String
  followUpTaskRefs : List String
deriving DecidableEq

/-- A packet as it is stored. -/
def LeadReviewDecisionPacket.toJson (packet : LeadReviewDecisionPacket) : Json :=
  .object
    [("task_id", .string packet.taskId),
      ("review_cycle_id", .string packet.reviewCycleId),
      ("decision", .string (decisionLabel packet.decision)),
      ("summary", .string packet.summary),
      ("blocking_issues", .array (packet.blockingIssues.map Issue.toJson)),
      ("non_blocking_suggestions", .array (packet.nonBlockingSuggestions.map Json.string)),
      ("follow_up_task_refs", .array (packet.followUpTaskRefs.map Json.string))]

/-- The checks of the schema across the fields of a packet. -/
def crossFieldIssues (packet : LeadReviewDecisionPacket) : List SchemaIssue :=
  (if packet.decision = .changesRequested ∧ packet.blockingIssues = [] then
    [{ path := ["blocking_issues"]
       message := "blocking_issues must not be empty when decision is " ++
        "\"changes_requested\" — the developer needs actionable feedback for rework" }]
  else
    []) ++
  (if packet.decision = .approvedWithFollowUp ∧ packet.followUpTaskRefs = [] then
    [{ path := ["follow_up_task_refs"]
       message := "follow_up_task_refs must not be empty when decision is " ++
        "\"approved_with_follow_up\" — follow-up tasks are required for this decision type" }]
  else
    [])

/-- A raw packet is what the checks of its fields make of it: the issues that they find,
or the packet. -/
abbrev RawPacket := Except (List SchemaIssue) LeadReviewDecisionPacket

def validatePacket (raw : RawPacket) : Except ServiceError LeadReviewDecisionPacket :=
  match raw with
  | .error issues => .error (.schemaValidation issues)
  | .ok packet =>
      if crossFieldIssues packet = [] then
        .ok packet
      else
        .error (.schemaValidation (crossFieldIssues packet))

/-!
## What a decision amounts to
-/

/-- A change request that reached the limit of review rounds counts as an escalation. -/
def getReviewCycleTargetStatus (decision : LeadReviewDecision)
    (shouldEscalateFromPolicy : Bool) : ReviewCycleStatus :=
  match decision with
  | .approved => .approved
  | .approvedWithFollowUp => .approved
  | .changesRequested => if shouldEscalateFromPolicy then .escalated else .rejected
  | .escalated => .escalated

def getTaskTargetStatus (decision : LeadReviewDecision)
    (shouldEscalateFromPolicy : Bool) : TaskStatus :=
  match decision with
  | .approved => .approved
  | .approvedWithFollowUp => .approved
  | .changesRequested => if shouldEscalateFromPolicy then .escalated else .changesRequested
  | .escalated => .escalated

def getTaskTransitionContext (decision : LeadReviewDecision)
    (shouldEscalateFromPolicy : Bool) : TransitionContext :=
  match decision with
  | .approved => { leadReviewDecision := some .approved }
  | .approvedWithFollowUp => { leadReviewDecision := some .approvedWithFollowUp }
  | .changesRequested =>
      if shouldEscalateFromPolicy then
        { hasEscalationTrigger := some true }
      else
        { leadReviewDecision := some .changesRequested }
  | .escalated => { hasEscalationTrigger := some true }

def getReviewCycleTransitionContext (decision : LeadReviewDecision)
    (shouldEscalateFromPolicy : Bool) : ReviewCycleTransitionContext :=
  match decision with
  | .approved => { leadReviewDecision := some .approved }
  | .approvedWithFollowUp => { leadReviewDecision := some .approvedWithFollowUp }
  | .changesRequested =>
      if shouldEscalateFromPolicy then
        { leadReviewDecision := some .escalated }
      else
        { leadReviewDecision := some .rejected }
  | .escalated => { leadReviewDecision := some .escalated }

inductive ReviewDecisionOutcome where
  | approved
  | approvedWithFollowUp
  | changesRequested
  | escalated
  | escalatedFromReviewLimit
deriving DecidableEq

def getOutcome (decision : LeadReviewDecision)
    (shouldEscalateFromPolicy : Bool) : ReviewDecisionOutcome :=
  match decision with
  | .approved => .approved
  | .approvedWithFollowUp => .approvedWithFollowUp
  | .changesRequested =>
      if shouldEscalateFromPolicy then .escalatedFromReviewLimit else .changesRequested
  | .escalated => .escalated

/-!
## Follow-up tasks
-/

structure NewFollowUpTaskData where
  id : TaskId
  title : String
  parentTaskId : TaskId
  source : String
deriving DecidableEq

/-- How a skeleton task is filled in is up to the repository.  It is a task that nobody
has worked on or reviewed. -/
structure FollowUpTaskPort where
  skeleton : NewFollowUpTaskData -> Task
  skeleton_taskId : forall data, (skeleton data).taskId = data.id
  skeleton_status : forall data, (skeleton data).status = .backlog
  skeleton_currentReviewCycleId : forall data, (skeleton data).currentReviewCycleId = none
  skeleton_reviewRoundCount : forall data, (skeleton data).reviewRoundCount = 0

def followUpTasks (idGenerator : Nat -> String) (taskId : TaskId)
    (packet : LeadReviewDecisionPacket) : List NewFollowUpTaskData :=
  if packet.decision = .approvedWithFollowUp then
    packet.followUpTaskRefs.zipIdx.map (fun ref =>
      { id := idGenerator (ref.2 + 1)
        title := ref.1
        parentTaskId := taskId
        source := "review_follow_up" })
  else
    []

def createFollowUpTasks (port : FollowUpTaskPort) (data : List NewFollowUpTaskData)
    (r : ReviewTables) : Except ServiceError ReviewTables :=
  data.foldlM (fun tables followUp => tables.createTask (port.skeleton followUp)) r

/-!
## The transaction
-/

structure ApplyReviewDecisionParams where
  packet : RawPacket
  taskId : TaskId
  reviewCycleId : ReviewCycleId
  escalationPolicy : EscalationPolicy
  maxReviewRounds : Nat
  actor : ActorInfo

structure ApplyReviewDecisionResult where
  outcome : ReviewDecisionOutcome
  task : Task
  reviewCycle : ReviewCycle
  decisionRecord : LeadReviewDecisionRecord
  followUpTasks : List NewFollowUpTaskData
  auditEvents : List AuditEvent

def taskTargets : String :=
  "APPROVED|CHANGES_REQUESTED|ESCALATED"

def cycleTargets : String :=
  "APPROVED|REJECTED|ESCALATED"

/-- Only a change request asks the policy, about the round that it would complete. -/
def evaluatePolicyEscalation (params : ApplyReviewDecisionParams) (task : Task)
    (decision : LeadReviewDecision) : Bool :=
  if decision = .changesRequested then
    (shouldEscalate
      { trigger := .maxReviewRoundsExceeded
        reviewRound := some (task.reviewRoundCount + 1)
        maxReviewRounds := some params.maxReviewRounds }
      params.escalationPolicy).shouldEscalate
  else
    false

def decisionRecord (leadReviewDecisionId : String) (params : ApplyReviewDecisionParams)
    (packet : LeadReviewDecisionPacket) : LeadReviewDecisionRecord where
  leadReviewDecisionId := leadReviewDecisionId
  reviewCycleId := params.reviewCycleId
  taskId := params.taskId
  decision := packet.decision
  summary := packet.summary
  blockingIssueCount := packet.blockingIssues.length
  nonBlockingIssueCount := packet.nonBlockingSuggestions.length
  followUpTaskRefs := packet.followUpTaskRefs
  packetJson := packet.toJson

def cycleDecisionAudit (params : ApplyReviewDecisionParams) (decision : LeadReviewDecision)
    (oldStatus newStatus : ReviewCycleStatus) : AuditEvent where
  entityType := "review-cycle"
  entityId := params.reviewCycleId
  eventType := s!"review-cycle.decision-applied.{decisionLabel decision}"
  actorType := params.actor.type
  actorId := params.actor.id
  oldState := some (.plain oldStatus.label)
  newState := some (.plain newStatus.label)

def taskDecisionAudit (params : ApplyReviewDecisionParams) (decision : LeadReviewDecision)
    (oldStatus newStatus : TaskStatus) : AuditEvent where
  entityType := "task"
  entityId := params.taskId
  eventType := s!"task.review-decision.{decisionLabel decision}"
  actorType := params.actor.type
  actorId := params.actor.id
  oldState := some (.plain oldStatus.label)
  newState := some (.plain newStatus.label)

def taskRefused (params : ApplyReviewDecisionParams) (status : TaskStatus)
    (toStatus reason : String) : ServiceError :=
  .invalidTransition "Task" params.taskId status.label toStatus reason

def cycleRefused (params : ApplyReviewDecisionParams) (status : ReviewCycleStatus)
    (toStatus reason : String) : ServiceError :=
  .invalidTransition "ReviewCycle" params.reviewCycleId status.label toStatus reason

/-- Move the task; a rejected round is counted first, in a write of its own. -/
def moveReviewedTask (params : ApplyReviewDecisionParams) (task : Task) (countsRound : Bool)
    (target : TaskStatus) (r : ReviewTables) : Except ServiceError (ReviewTables × Task) := do
  if countsRound then
    let counted : TaskUpdate := { reviewRoundCount := some (task.reviewRoundCount + 1) }
    let r₁ ← orThrow (r.updateTask params.taskId task.version counted).toOption
      (taskRefused params task.status target.label
        "Failed to increment reviewRoundCount — concurrent modification detected")
    let r₂ ← orThrow
      (r₁.updateTask params.taskId (task.version + 1) { status := some target }).toOption
      (taskRefused params task.status target.label
        "Task status update failed — concurrent modification detected")
    pure (r₂, TaskUpdate.apply { status := some target } (task.version + 2)
      (counted.apply (task.version + 1) task))
  else
    let r₁ ← orThrow
      (r.updateTask params.taskId task.version { status := some target }).toOption
      (taskRefused params task.status target.label
        "Task status update failed — concurrent modification detected")
    pure (r₁, TaskUpdate.apply { status := some target } (task.version + 1) task)

def applyDecisionInTransaction (port : FollowUpTaskPort) (idGenerator : Nat -> String)
    (params : ApplyReviewDecisionParams) (packet : LeadReviewDecisionPacket)
    (r : ReviewTables) : Except ServiceError (ReviewTables × ApplyReviewDecisionResult) := do
  let task ← orThrow (r.store.findTask params.taskId) (.entityNotFound "Task" params.taskId)
  ensure (task.status = .inReview)
    (taskRefused params task.status taskTargets
      (s!"Task must be in IN_REVIEW state to apply a review decision, " ++
        s!"but is {task.status.label}"))
  let cycle ← orThrow (r.findCycle params.reviewCycleId)
    (.entityNotFound "ReviewCycle" params.reviewCycleId)
  ensure (cycle.taskId = params.taskId)
    (.entityNotFound "ReviewCycle"
      s!"{params.reviewCycleId} (not associated with task {params.taskId})")
  ensure (cycle.status = .consolidating)
    (cycleRefused params cycle.status cycleTargets
      s!"ReviewCycle must be in CONSOLIDATING state, but is {cycle.status.label}")
  -- A task without a current cycle accepts any of its cycles.
  ensure (task.currentReviewCycleId.getD params.reviewCycleId = params.reviewCycleId)
    (cycleRefused params cycle.status cycleTargets
      (s!"Review cycle {params.reviewCycleId} is not the current active cycle (" ++
        task.currentReviewCycleId.getD "" ++ s!") for task {params.taskId}"))
  ensure (packet.taskId = params.taskId)
    (taskRefused params task.status taskTargets
      (s!"Packet task_id \"{packet.taskId}\" does not match expected task " ++
        s!"\"{params.taskId}\""))
  ensure (packet.reviewCycleId = params.reviewCycleId)
    (cycleRefused params cycle.status cycleTargets
      (s!"Packet review_cycle_id \"{packet.reviewCycleId}\" does not match expected cycle " ++
        s!"\"{params.reviewCycleId}\""))
  let policyEscalation := evaluatePolicyEscalation params task packet.decision
  let cycleTarget := getReviewCycleTargetStatus packet.decision policyEscalation
  let taskTarget := getTaskTargetStatus packet.decision policyEscalation
  commitTransition "ReviewCycle" params.reviewCycleId ReviewCycleStatus.consolidating.label
    cycleTarget.label
    (validateReviewCycleTransition .consolidating cycleTarget
      (getReviewCycleTransitionContext packet.decision policyEscalation))
  commitTransition "Task" params.taskId TaskStatus.inReview.label taskTarget.label
    (validateTransition .inReview taskTarget
      (getTaskTransitionContext packet.decision policyEscalation))
  let record := decisionRecord (idGenerator 0) params packet
  let r₁ ← r.createDecision record
  let r₂ ← orThrow (r₁.updateCycleStatus params.reviewCycleId .consolidating cycleTarget)
    (cycleRefused params .consolidating cycleTarget.label
      "Status update failed — concurrent modification detected")
  let countsRound : Bool := packet.decision = .changesRequested && !policyEscalation
  let (r₃, updatedTask) ← moveReviewedTask params task countsRound taskTarget r₂
  let followUps := followUpTasks idGenerator params.taskId packet
  let r₄ ← createFollowUpTasks port followUps r₃
  let cycleAudit := cycleDecisionAudit params packet.decision cycle.status cycleTarget
  let taskAudit := taskDecisionAudit params packet.decision task.status taskTarget
  pure ((r₄.appendAudit cycleAudit).appendAudit taskAudit,
    { outcome := getOutcome packet.decision policyEscalation
      task := updatedTask
      reviewCycle := ReviewTables.withStatus cycleTarget cycle
      decisionRecord := record
      followUpTasks := followUps
      auditEvents := [cycleAudit, taskAudit] })

def applyDecision (port : FollowUpTaskPort) (idGenerator : Nat -> String)
    (params : ApplyReviewDecisionParams)
    (r : ReviewTables) : Except ServiceError (ReviewTables × ApplyReviewDecisionResult) := do
  let packet ← validatePacket params.packet
  applyDecisionInTransaction port idGenerator params packet r

/-!
## What a decision does
-/

structure SameReviews (r r' : ReviewTables) : Prop where
  jobs : r'.jobs = r.jobs
  cycles : r'.reviewCycles = r.reviewCycles
  packets : r'.reviewPackets = r.reviewPackets
  decisions : r'.leadReviewDecisions = r.leadReviewDecisions

theorem SameReviews.refl (r : ReviewTables) : SameReviews r r :=
  ⟨rfl, rfl, rfl, rfl⟩

theorem SameReviews.trans {r₁ r₂ : ReviewTables} (h₁ : SameReviews r r₁)
    (h₂ : SameReviews r₁ r₂) : SameReviews r r₂ :=
  ⟨h₂.jobs.trans h₁.jobs, h₂.cycles.trans h₁.cycles, h₂.packets.trans h₁.packets,
    h₂.decisions.trans h₁.decisions⟩

theorem sameReviews_withStore (r : ReviewTables) (s' : Store)
    (h : Dependencies.KeepsTasks r.store s') :
    SameReviews r (r.withStore s' h) :=
  ⟨rfl, rfl, rfl, rfl⟩

/-- A task that nobody has worked on or reviewed. -/
structure Untouched (task : Task) : Prop where
  status : task.status = .backlog
  currentReviewCycleId : task.currentReviewCycleId = none
  reviewRoundCount : task.reviewRoundCount = 0

/-- The tasks of the one store are those of the other and some untouched ones. -/
structure AddsTasks (s s' : Store) : Prop where
  kept : forall id task, s.findTask id = some task -> s'.findTask id = some task
  added : forall id task, s'.findTask id = some task -> s.findTask id = none -> Untouched task
  auditEvents : s'.auditEvents = s.auditEvents

theorem AddsTasks.refl (s : Store) : AddsTasks s s where
  kept := fun _ _ h => h
  added := by
    intro id task h hnone
    rw [h] at hnone
    cases hnone
  auditEvents := rfl

theorem AddsTasks.trans {s s₁ s₂ : Store} (h₁ : AddsTasks s s₁) (h₂ : AddsTasks s₁ s₂) :
    AddsTasks s s₂ where
  kept := fun id task h => h₂.kept id task (h₁.kept id task h)
  added := by
    intro id task h hnone
    cases hmiddle : s₁.findTask id with
    | none =>
        exact h₂.added id task h hmiddle
    | some middle =>
        have hkept := h₂.kept id middle hmiddle
        rw [h] at hkept
        cases hkept
        exact h₁.added id task hmiddle hnone
  auditEvents := h₂.auditEvents.trans h₁.auditEvents

variable {port : FollowUpTaskPort}

theorem createFollowUpTasks_spec {data : List NewFollowUpTaskData}
    (h : createFollowUpTasks port data r = .ok r') :
    SameReviews r r' ∧ AddsTasks r.store r'.store := by
  induction data generalizing r with
  | nil =>
      cases h
      exact ⟨SameReviews.refl _, AddsTasks.refl _⟩
  | cons followUp rest ih =>
      unfold createFollowUpTasks at h
      rw [List.foldlM_cons] at h
      rcases bind_eq_ok.mp h with ⟨r₁, hcreate, hrest⟩
      rcases ReviewTables.onStore_eq_ok.mp hcreate with ⟨s₁, hs₁, hstore, hr₁⟩
      rcases ih hrest with ⟨hsame, hadds⟩
      rcases Store.createTask_spec hstore with ⟨hnew, _, hself, hother⟩
      have hfirst : AddsTasks r.store r₁.store := by
        rw [hr₁]
        constructor
        · intro id task htask
          have hne : id ≠ (port.skeleton followUp).taskId := by
            intro hid
            rw [hid, hnew] at htask
            cases htask
          exact (hother id hne).trans htask
        · intro id task htask hnone
          by_cases hid : id = (port.skeleton followUp).taskId
          · have hskeleton : task = port.skeleton followUp := by
              rw [hid] at htask
              exact Option.some.inj (htask.symm.trans hself)
            rw [hskeleton]
            exact ⟨port.skeleton_status _, port.skeleton_currentReviewCycleId _,
              port.skeleton_reviewRoundCount _⟩
          · have hold := (hother id hid).symm.trans htask
            rw [hnone] at hold
            cases hold
        · exact Store.createTask_auditEvents hstore
      refine ⟨SameReviews.trans ?_ hsame, hfirst.trans hadds⟩
      rw [hr₁]
      exact sameReviews_withStore r s₁ hs₁

structure KeepsLeasesAndItems (s s' : Store) : Prop where
  taskLeases : s'.taskLeases = s.taskLeases
  mergeQueueItems : s'.mergeQueueItems = s.mergeQueueItems

theorem KeepsLeasesAndItems.trans {s s₁ s' : Store} (h : KeepsLeasesAndItems s s₁)
    (h' : KeepsLeasesAndItems s₁ s') :
    KeepsLeasesAndItems s s' where
  taskLeases := h'.taskLeases.trans h.taskLeases
  mergeQueueItems := h'.mergeQueueItems.trans h.mergeQueueItems

theorem createFollowUpTasks_kept {data : List NewFollowUpTaskData}
    (h : createFollowUpTasks port data r = .ok r') : KeepsLeasesAndItems r.store r'.store := by
  induction data generalizing r with
  | nil =>
      cases h
      exact ⟨rfl, rfl⟩
  | cons followUp rest ih =>
      unfold createFollowUpTasks at h
      rw [List.foldlM_cons] at h
      rcases bind_eq_ok.mp h with ⟨r₁, hcreate, hrest⟩
      rcases ReviewTables.onStore_eq_ok.mp hcreate with ⟨s₁, _, hstore, hr₁⟩
      have hfirst : KeepsLeasesAndItems r.store r₁.store := by
        rw [hr₁]
        exact ⟨(Store.createTask_spec hstore).2.1, Store.createTask_mergeQueueItems hstore⟩
      exact hfirst.trans (ih hrest)

def decidedUpdate (task : Task) (countsRound : Bool) (target : TaskStatus) : TaskUpdate where
  status := some target
  reviewRoundCount := if countsRound then some (task.reviewRoundCount + 1) else none

/-- The task is written once, or twice when the round is counted. -/
theorem moveReviewedTask_writes {params : ApplyReviewDecisionParams} {task moved : Task}
    {countsRound : Bool} {target : TaskStatus}
    (h : moveReviewedTask params task countsRound target r = .ok (r', moved)) :
    (countsRound = true ∧
      r' = (r.writeTask params.taskId (task.version + 1)
        { reviewRoundCount := some (task.reviewRoundCount + 1) }).writeTask params.taskId
          (task.version + 2) { status := some target }) ∨
    (countsRound = false ∧
      r' = r.writeTask params.taskId (task.version + 1) { status := some target }) := by
  cases countsRound with
  | true =>
      simp only [moveReviewedTask, if_true, bind_eq_ok, orThrow_eq_ok, pure_eq_ok,
        Prod.mk.injEq, toOption_eq_some] at h
      rcases h with ⟨r₁, hcount, r₂, hmove, hr', _⟩
      rcases ReviewTables.updateTask_eq_ok.mp hcount with ⟨_, _, _, hr₁⟩
      rcases ReviewTables.updateTask_eq_ok.mp hmove with ⟨_, _, _, hr₂⟩
      rw [← hr', hr₂, hr₁]
      exact Or.inl ⟨rfl, rfl⟩
  | false =>
      simp only [moveReviewedTask, Bool.false_eq_true, if_false, bind_eq_ok, orThrow_eq_ok,
        pure_eq_ok, Prod.mk.injEq, toOption_eq_some] at h
      rcases h with ⟨r₁, hmove, hr', _⟩
      rcases ReviewTables.updateTask_eq_ok.mp hmove with ⟨_, _, _, hr₁⟩
      rw [← hr', hr₁]
      exact Or.inr ⟨rfl, rfl⟩

theorem moveReviewedTask_spec {params : ApplyReviewDecisionParams} {task moved : Task}
    {countsRound : Bool} {target : TaskStatus}
    (hfind : r.store.findTask params.taskId = some task)
    (h : moveReviewedTask params task countsRound target r = .ok (r', moved)) :
    SameReviews r r' ∧ r'.store.auditEvents = r.store.auditEvents ∧
      (exists version, task.version < version ∧ r'.store.findTask params.taskId =
        some ((decidedUpdate task countsRound target).apply version task)) ∧
      forall id, id ≠ params.taskId -> r'.store.findTask id = r.store.findTask id := by
  rcases moveReviewedTask_writes h with ⟨hcounts, hr'⟩ | ⟨hcounts, hr'⟩
  · rw [hr', hcounts]
    refine ⟨⟨rfl, rfl, rfl, rfl⟩, rfl, ⟨task.version + 2, by omega, ?_⟩, ?_⟩
    · simp only [ReviewTables.writeTask_store, Store.findTask_writeTask_self, hfind,
        Option.map_some]
      rfl
    · intro id hid
      simp only [ReviewTables.writeTask_store, Store.findTask_writeTask_of_ne hid]
  · rw [hr', hcounts]
    refine ⟨⟨rfl, rfl, rfl, rfl⟩, rfl, ⟨task.version + 1, by omega, ?_⟩, ?_⟩
    · simp only [ReviewTables.writeTask_store, Store.findTask_writeTask_self, hfind,
        Option.map_some]
      rfl
    · intro id hid
      simp only [ReviewTables.writeTask_store, Store.findTask_writeTask_of_ne hid]

theorem moveReviewedTask_kept {params : ApplyReviewDecisionParams} {task moved : Task}
    {countsRound : Bool} {target : TaskStatus}
    (h : moveReviewedTask params task countsRound target r = .ok (r', moved)) :
    KeepsLeasesAndItems r.store r'.store := by
  rcases moveReviewedTask_writes h with ⟨_, hr'⟩ | ⟨_, hr'⟩
  · rw [hr']
    exact ⟨rfl, rfl⟩
  · rw [hr']
    exact ⟨rfl, rfl⟩

def countsRound (params : ApplyReviewDecisionParams) (task : Task)
    (decision : LeadReviewDecision) : Bool :=
  decision = .changesRequested && !evaluatePolicyEscalation params task decision

def cycleTarget (params : ApplyReviewDecisionParams) (task : Task)
    (decision : LeadReviewDecision) : ReviewCycleStatus :=
  getReviewCycleTargetStatus decision (evaluatePolicyEscalation params task decision)

def taskTarget (params : ApplyReviewDecisionParams) (task : Task)
    (decision : LeadReviewDecision) : TaskStatus :=
  getTaskTargetStatus decision (evaluatePolicyEscalation params task decision)

/-- A change request escalates when its round is the last one allowed. -/
theorem evaluatePolicyEscalation_iff (params : ApplyReviewDecisionParams) (task : Task)
    (decision : LeadReviewDecision) :
    evaluatePolicyEscalation params task decision = true <->
      decision = .changesRequested ∧
        params.maxReviewRounds ≤ task.reviewRoundCount + 1 := by
  unfold evaluatePolicyEscalation
  by_cases hdecision : decision = .changesRequested
  · rw [if_pos hdecision]
    by_cases hlimit : params.maxReviewRounds ≤ task.reviewRoundCount + 1
    · simp [shouldEscalate, isMaxReviewRoundsExceeded, limitReached, hdecision, hlimit]
    · simp [shouldEscalate, isMaxReviewRoundsExceeded, limitReached, hlimit]
  · rw [if_neg hdecision]
    simp [hdecision]

theorem cycleTarget_eq_rejected_iff (params : ApplyReviewDecisionParams) (task : Task)
    (decision : LeadReviewDecision) :
    cycleTarget params task decision = .rejected <->
      countsRound params task decision = true := by
  unfold cycleTarget countsRound
  generalize evaluatePolicyEscalation params task decision = escalates
  cases decision <;> cases escalates <;> decide

theorem taskTarget_eq_changesRequested_iff (params : ApplyReviewDecisionParams) (task : Task)
    (decision : LeadReviewDecision) :
    taskTarget params task decision = .changesRequested <->
      countsRound params task decision = true := by
  unfold taskTarget countsRound
  generalize evaluatePolicyEscalation params task decision = escalates
  cases decision <;> cases escalates <;> decide

structure Decided (params : ApplyReviewDecisionParams) (packet : LeadReviewDecisionPacket)
    (record : LeadReviewDecisionRecord) (task : Task) (cycle : ReviewCycle)
    (r r' : ReviewTables) : Prop where
  valid : validatePacket params.packet = .ok packet
  foundTask : r.store.findTask params.taskId = some task
  inReview : task.status = .inReview
  foundCycle : r.findCycle params.reviewCycleId = some cycle
  cycleTask : cycle.taskId = params.taskId
  consolidating : cycle.status = .consolidating
  current : task.currentReviewCycleId.getD params.reviewCycleId = params.reviewCycleId
  movedTask : exists version, task.version < version ∧
    r'.store.findTask params.taskId =
      some ((decidedUpdate task (countsRound params task packet.decision)
        (taskTarget params task packet.decision)).apply version task)
  keptTasks : forall id t, id ≠ params.taskId -> r.store.findTask id = some t ->
    r'.store.findTask id = some t
  newTasks : forall id t, r'.store.findTask id = some t -> r.store.findTask id = none ->
    Untouched t
  auditEvents : r'.store.auditEvents = r.store.auditEvents ++
    [cycleDecisionAudit params packet.decision cycle.status
        (cycleTarget params task packet.decision),
      taskDecisionAudit params packet.decision task.status
        (taskTarget params task packet.decision)]
  cycles : r'.reviewCycles = (r.writeCycle params.reviewCycleId
    (cycleTarget params task packet.decision)).reviewCycles
  jobs : r'.jobs = r.jobs
  packets : r'.reviewPackets = r.reviewPackets
  decisionCycle : record.reviewCycleId = params.reviewCycleId
  decisions : forall d, d ∈ r'.leadReviewDecisions <->
    d ∈ r.leadReviewDecisions ∨ d = record

theorem Decided.notOver {params : ApplyReviewDecisionParams} {packet : LeadReviewDecisionPacket}
    {record : LeadReviewDecisionRecord} {task : Task} {cycle : ReviewCycle}
    (h : Decided params packet record task cycle r r') :
    isTerminalReviewCycleState cycle.status = false := by
  rw [h.consolidating]
  rfl

theorem applyDecision_spec {idGenerator : Nat -> String} {params : ApplyReviewDecisionParams}
    {result : ApplyReviewDecisionResult}
    (h : applyDecision port idGenerator params r = .ok (r', result)) :
    exists packet task cycle, Decided params packet
      (decisionRecord (idGenerator 0) params packet) task cycle r r' := by
  simp only [applyDecision, applyDecisionInTransaction, bind_eq_ok, orThrow_eq_ok,
    ensure_eq_ok, commitTransition_eq_ok, pure_eq_ok, Prod.mk.injEq, Prod.exists] at h
  rcases h with ⟨packet, hvalid, task, htask, _, hinReview, cycle, hcycle, _, hcycleTask, _,
    hconsolidating, _, hcurrent, _, _, _, _, _, _, _, _, r₁, hrecord, r₂, hmoveCycle, r₃,
    moved, hmoveTask, r₄, hfollow, hr', _⟩
  rcases ReviewTables.createDecision_spec hrecord with
    ⟨hstore₁, hjobs₁, hcycles₁, hpackets₁, hdecisions₁⟩
  rcases ReviewTables.updateCycleStatus_eq_some.mp hmoveCycle with ⟨_, _, _, hr₂⟩
  have hfind₂ : r₂.store.findTask params.taskId = some task := by
    rw [hr₂, ReviewTables.writeCycle_store, hstore₁]
    exact htask
  rcases moveReviewedTask_spec hfind₂ hmoveTask with
    ⟨hsame₃, haudit₃, ⟨version, hversion, hmoved⟩, hother⟩
  rcases createFollowUpTasks_spec hfollow with ⟨hsame₄, hadds⟩
  have hsame := hsame₃.trans hsame₄
  have hstore₂ : r₂.store = r.store := by
    rw [hr₂, ReviewTables.writeCycle_store, hstore₁]
  refine ⟨packet, task, cycle, ?_⟩
  rw [← hr']
  constructor
  · exact hvalid
  · exact htask
  · exact hinReview
  · exact hcycle
  · exact hcycleTask
  · exact hconsolidating
  · exact hcurrent
  · exact ⟨version, hversion, hadds.kept _ _ hmoved⟩
  · intro id t hid ht
    apply hadds.kept
    rw [hother id hid, hstore₂]
    exact ht
  · intro id t ht hnone
    apply hadds.added id t ht
    have hid : id ≠ params.taskId := by
      intro hid
      rw [hid, htask] at hnone
      cases hnone
    rw [hother id hid, hstore₂]
    exact hnone
  · show (r₄.store.auditEvents ++ [_]) ++ [_] = _
    rw [hadds.auditEvents, haudit₃, hstore₂, List.append_assoc]
    rfl
  · show r₄.reviewCycles = _
    rw [hsame.cycles, hr₂, ReviewTables.writeCycle_reviewCycles,
      ReviewTables.writeCycle_reviewCycles, hcycles₁]
    rfl
  · show r₄.jobs = _
    rw [hsame.jobs, hr₂]
    exact hjobs₁
  · show r₄.reviewPackets = _
    rw [hsame.packets, hr₂]
    exact hpackets₁
  · rfl
  · intro d
    show d ∈ r₄.leadReviewDecisions <-> _
    rw [hsame.decisions, hr₂]
    exact hdecisions₁ d

/-- A decision leaves the leases and the merge queue alone. -/
theorem applyDecision_kept {idGenerator : Nat -> String} {params : ApplyReviewDecisionParams}
    {result : ApplyReviewDecisionResult}
    (h : applyDecision port idGenerator params r = .ok (r', result)) :
    KeepsLeasesAndItems r.store r'.store := by
  simp only [applyDecision, applyDecisionInTransaction, bind_eq_ok, orThrow_eq_ok,
    ensure_eq_ok, commitTransition_eq_ok, pure_eq_ok, Prod.mk.injEq, Prod.exists] at h
  rcases h with ⟨_, _, _, _, _, _, _, _, _, _, _, _, _, _, _, _, _, _, _, _, _, _, r₁,
    hrecord, r₂, hmoveCycle, r₃, moved, hmoveTask, r₄, hfollow, hr', _⟩
  rcases ReviewTables.updateCycleStatus_eq_some.mp hmoveCycle with ⟨_, _, _, hr₂⟩
  have hstore₂ : r₂.store = r.store := by
    rw [hr₂, ReviewTables.writeCycle_store, (ReviewTables.createDecision_spec hrecord).1]
  have hmoved := moveReviewedTask_kept hmoveTask
  rw [hstore₂] at hmoved
  have hkept := hmoved.trans (createFollowUpTasks_kept hfollow)
  rw [← hr']
  exact ⟨hkept.taskLeases, hkept.mergeQueueItems⟩

end Reviewing
end CopilotFactory
