import CopilotFactory.Dependencies.AcyclicDependencies

/-!
# The two import paths

Factory init writes the tasks that it discovers with a loop of its own, into the same
tables as the import service.  Its loop neither looks for a task that is there already
nor wires a dependency, and it reads an empty definition of done as none.  So the two
paths agree, and keep agreeing when an import is repeated, exactly on the lists without an
external reference and without an empty definition of done.
-/

namespace CopilotFactory
namespace Dependencies

open Foundations
open Infrastructure
open Application

/-!
## The import of factory init
-/

variable {t : ImportedTask} {a b : Catalog}

/-- What factory init writes to describe a discovered task. -/
def discoveredDetails (task : ImportedTask) : TaskDetails where
  title := task.title
  description := task.description
  source := task.source.getD "import"
  acceptanceCriteria := task.acceptanceCriteria
  -- a conditional on the text itself, so that an empty one counts as missing
  definitionOfDone := truthy task.definitionOfDone
  estimatedSize := task.estimatedSize
  riskLevel := task.riskLevel
  suggestedFileScope := task.suggestedFileScope

def insertTask (repositoryId : String) (c : Catalog) (task : ImportedTask) :
    Except ServiceError Catalog :=
  c.createTask (importedRow repositoryId task) task.externalRef (discoveredDetails task)

/-- Insert the discovered tasks in one transaction.  A failed import is only logged, and
counts as no task. -/
def importTasks (repositoryId : String) (tasks : List ImportedTask) (c : Catalog) :
    Catalog × Nat :=
  match tasks.foldlM (insertTask repositoryId) c with
  | .ok c' => (c', tasks.length)
  | .error _ => (c, 0)

def executed (request : ExecuteRequest) (c : Catalog) : Catalog :=
  match execute request c with
  | .ok (c', _) => c'
  | .error _ => c

/-!
## Inserting fresh rows
-/

structure FreshIds (c : Catalog) (tasks : List ImportedTask) : Prop where
  nodup : (tasks.map ImportedTask.taskId).Nodup
  unused : forall t, t ∈ tasks -> c.graph.store.findTask t.taskId = none

/-- The tasks have been added, each described by the given columns, and nothing else has
changed. -/
structure Adds (repositoryId : String) (describe : ImportedTask -> TaskDetails)
    (tasks : List ImportedTask) (c c' : Catalog) : Prop where
  rows : c'.graph.store.tasks.rows =
    c.graph.store.tasks.rows ++ tasks.map (importedRow repositoryId)
  taskDependencies : c'.graph.taskDependencies = c.graph.taskDependencies
  refOfAdded : forall t, t ∈ tasks -> c'.externalRef t.taskId = t.externalRef
  detailsOfAdded : forall t, t ∈ tasks -> c'.details t.taskId = describe t
  refOfOther : forall id, id ∉ tasks.map ImportedTask.taskId ->
    c'.externalRef id = c.externalRef id
  detailsOfOther : forall id, id ∉ tasks.map ImportedTask.taskId ->
    c'.details id = c.details id

variable {c c' : Catalog} {tasks : List ImportedTask} {repositoryId : String}
  {describe : ImportedTask -> TaskDetails}

theorem adds_nil : Adds repositoryId describe [] c c where
  rows := (List.append_nil _).symm
  taskDependencies := rfl
  refOfAdded := by simp
  detailsOfAdded := by simp
  refOfOther := fun _ _ => rfl
  detailsOfOther := fun _ _ => rfl

theorem createTask_adds (hunused : c.graph.store.findTask t.taskId = none) :
    exists c', c.createTask (importedRow repositoryId t) t.externalRef (describe t) =
        .ok c' ∧ Adds repositoryId describe [t] c c' := by
  have hcreate : exists s', c.graph.store.createTask (importedRow repositoryId t) = .ok s' ∧
      s'.tasks.rows = c.graph.store.tasks.rows ++ [importedRow repositoryId t] := by
    refine ⟨_, dif_pos hunused, ?_⟩
    rfl
  rcases hcreate with ⟨s', hstore, hrows⟩
  have hgraph : c.graph.createTask (importedRow repositoryId t) =
      .ok (c.graph.withStore s' (keepsTasks_of_createTask hstore)) :=
    TaskGraph.onStore_of_ok hstore
  refine ⟨_, bind_eq_ok.mpr ⟨_, hgraph, rfl⟩, ?_⟩
  exact
    { rows := hrows
      taskDependencies := rfl
      refOfAdded := by
        intro t' ht'
        rw [List.mem_singleton.mp ht']
        exact if_pos rfl
      detailsOfAdded := by
        intro t' ht'
        rw [List.mem_singleton.mp ht']
        exact if_pos rfl
      refOfOther := by
        intro id hid
        have hne : id ≠ t.taskId := by simpa using hid
        exact if_neg hne
      detailsOfOther := by
        intro id hid
        have hne : id ≠ t.taskId := by simpa using hid
        exact if_neg hne }

theorem Adds.findTask_isSome_iff (h : Adds repositoryId describe tasks c c')
    {id : TaskId} :
    (c'.graph.store.findTask id).isSome = true <->
      (c.graph.store.findTask id).isSome = true ∨ id ∈ tasks.map ImportedTask.taskId := by
  simp only [Store.findTask, Table.find?, List.find?_isSome, h.rows, List.mem_append,
    List.mem_map, decide_eq_true_eq]
  constructor
  · intro hsome
    rcases hsome with ⟨row, hrow | ⟨t, ht, hrow⟩, hid⟩
    · exact Or.inl ⟨row, hrow, hid⟩
    · refine Or.inr ⟨t, ht, ?_⟩
      rw [← hid, ← hrow]
      rfl
  · intro hsome
    rcases hsome with ⟨row, hrow, hid⟩ | ⟨t, ht, hid⟩
    · exact ⟨row, Or.inl hrow, hid⟩
    · exact ⟨importedRow repositoryId t, Or.inr ⟨t, ht, rfl⟩, hid⟩

theorem Adds.unused (h : Adds repositoryId describe tasks c c') {id : TaskId}
    (hid : id ∉ tasks.map ImportedTask.taskId)
    (hunused : c.graph.store.findTask id = none) :
    c'.graph.store.findTask id = none := by
  rw [← Option.not_isSome_iff_eq_none, h.findTask_isSome_iff]
  rintro (hsome | hmem)
  · rw [hunused] at hsome
    cases hsome
  · exact hid hmem

theorem Adds.trans {c'' : Catalog} (hfirst : Adds repositoryId describe [t] c c')
    (hrest : Adds repositoryId describe tasks c' c'')
    (hnew : t.taskId ∉ tasks.map ImportedTask.taskId) :
    Adds repositoryId describe (t :: tasks) c c'' where
  rows := by
    rw [hrest.rows, hfirst.rows, List.append_assoc]
    rfl
  taskDependencies := hrest.taskDependencies.trans hfirst.taskDependencies
  refOfAdded := by
    intro t' ht'
    rcases List.mem_cons.mp ht' with ht' | ht'
    · rw [ht', hrest.refOfOther _ hnew]
      exact hfirst.refOfAdded t (List.mem_singleton_self t)
    · exact hrest.refOfAdded t' ht'
  detailsOfAdded := by
    intro t' ht'
    rcases List.mem_cons.mp ht' with ht' | ht'
    · rw [ht', hrest.detailsOfOther _ hnew]
      exact hfirst.detailsOfAdded t (List.mem_singleton_self t)
    · exact hrest.detailsOfAdded t' ht'
  refOfOther := by
    intro id hid
    rw [List.map_cons, List.mem_cons, not_or] at hid
    rw [hrest.refOfOther id hid.2]
    exact hfirst.refOfOther id (by simpa using hid.1)
  detailsOfOther := by
    intro id hid
    rw [List.map_cons, List.mem_cons, not_or] at hid
    rw [hrest.detailsOfOther id hid.2]
    exact hfirst.detailsOfOther id (by simpa using hid.1)

theorem Adds.mem_of_ref (h : Adds repositoryId describe tasks c c')
    (hrefs : forall t, t ∈ tasks -> t.externalRef = none) {t : Task}
    (ht : t ∈ c'.graph.store.tasks) (href : (c'.externalRef t.taskId).isSome = true) :
    t ∈ c.graph.store.tasks := by
  rw [Table.mem_def, h.rows, List.mem_append] at ht
  rcases ht with hold | hnew
  · exact hold
  · rcases List.mem_map.mp hnew with ⟨added, hadded, hrow⟩
    have hid : t.taskId = added.taskId := by
      rw [← hrow]
      rfl
    rw [hid, h.refOfAdded added hadded, hrefs added hadded] at href
    cases href

theorem foldlM_createTask_adds (h : FreshIds c tasks) :
    exists c', tasks.foldlM (fun c t =>
        c.createTask (importedRow repositoryId t) t.externalRef (describe t)) c = .ok c' ∧
      Adds repositoryId describe tasks c c' := by
  induction tasks generalizing c with
  | nil =>
      exact ⟨c, rfl, adds_nil⟩
  | cons t rest ih =>
      have hnodup := h.nodup
      rw [List.map_cons, List.nodup_cons] at hnodup
      have hstep : exists c₁,
          c.createTask (importedRow repositoryId t) t.externalRef (describe t) = .ok c₁ ∧
            Adds repositoryId describe [t] c c₁ :=
        createTask_adds (h.unused t List.mem_cons_self)
      rcases hstep with ⟨c₁, hcreate, hfirst⟩
      have hrest : FreshIds c₁ rest := by
        refine ⟨hnodup.2, ?_⟩
        intro t' ht'
        apply hfirst.unused
        · intro hmem
          rw [List.map_singleton, List.mem_singleton] at hmem
          exact hnodup.1 (hmem ▸ List.mem_map_of_mem ht')
        · exact h.unused t' (List.mem_cons_of_mem t ht')
      rcases ih hrest with ⟨c', hfold, hadds⟩
      refine ⟨c', ?_, hfirst.trans hadds hnodup.1⟩
      rw [List.foldlM_cons, hcreate]
      exact hfold

/-- The import of factory init adds every task that it is given. -/
theorem importTasks_adds (h : FreshIds c tasks) :
    Adds repositoryId discoveredDetails tasks c (importTasks repositoryId tasks c).1 := by
  rcases foldlM_createTask_adds h with ⟨c', hfold, hadds⟩
  have hloop : tasks.foldlM (insertTask repositoryId) c = .ok c' := hfold
  unfold importTasks
  rw [hloop]
  exact hadds

/-!
## The import service, for tasks without a reference
-/

def WithoutRefs (tasks : List ImportedTask) : Prop :=
  forall t, t ∈ tasks -> t.externalRef = none

theorem not_alreadyImported {existing : ExternalRefs} (h : t.externalRef = none) :
    ¬ AlreadyImported existing t := by
  rintro ⟨ref, href, _⟩
  rw [h] at href
  cases href

/-- No task is skipped: the loop of the service does what the loop of init does, with
its own columns. -/
theorem foldlM_importTask_adds {existing : ExternalRefs} {progress : ImportProgress}
    (hrefs : WithoutRefs tasks) (h : FreshIds progress.catalog tasks) :
    exists progress', tasks.foldlM (importTask repositoryId existing) progress =
        .ok progress' ∧
      Adds repositoryId importedDetails tasks progress.catalog progress'.catalog := by
  have hcreate : forall (tasks : List ImportedTask) (progress : ImportProgress) (c' : Catalog),
      WithoutRefs tasks ->
      tasks.foldlM (fun c t => c.createTask (importedRow repositoryId t) t.externalRef
        (importedDetails t)) progress.catalog = .ok c' ->
      exists progress', tasks.foldlM (importTask repositoryId existing) progress =
        .ok progress' ∧ progress'.catalog = c' := by
    intro tasks
    induction tasks with
    | nil =>
        intro progress c' _ hfold
        cases hfold
        exact ⟨progress, rfl, rfl⟩
    | cons t rest ih =>
        intro progress c' hrefs hfold
        rw [List.foldlM_cons] at hfold
        rcases bind_eq_ok.mp hfold with ⟨c₁, hfirst, hrest⟩
        have hnot : ¬ AlreadyImported existing t :=
          not_alreadyImported (hrefs t List.mem_cons_self)
        rw [List.foldlM_cons, importTask, if_neg hnot, hfirst]
        exact ih _ c' (fun t' ht' => hrefs t' (List.mem_cons_of_mem t ht')) hrest
  rcases foldlM_createTask_adds h with ⟨c', hfold, hadds⟩
  rcases hcreate tasks progress c' hrefs hfold with ⟨progress', hloop, hcatalog⟩
  exact ⟨progress', hloop, hcatalog ▸ hadds⟩

theorem foldl_wireTask_withoutRefs {refs : ExternalRefs} (hrefs : WithoutRefs tasks)
    (progress : TaskGraph × List String) :
    tasks.foldl (wireTask refs) progress = progress := by
  induction tasks with
  | nil =>
      rfl
  | cons t rest ih =>
      have hnone : wiringTask refs t = none := by
        unfold wiringTask
        rw [hrefs t List.mem_cons_self]
        rfl
      rw [List.foldl_cons, wireTask, hnone]
      exact ih (fun t' ht' => hrefs t' (List.mem_cons_of_mem t ht'))

variable {request : ExecuteRequest} {c₀ c₁ : Catalog} {project : Project}
  {repository : Repository}

theorem executed_adds (hproject : findOrCreateProject request c₀ = .ok (c₁, project))
    (hrepository : findOrCreateRepository request project c₁ = .ok (c, repository))
    (hrefs : WithoutRefs request.tasks) (hfresh : FreshIds c request.tasks) :
    Adds repository.repositoryId importedDetails request.tasks c (executed request c₀) := by
  have hloop : exists progress',
      request.tasks.foldlM
          (importTask repository.repositoryId (existingRefs repository.repositoryId c))
          { catalog := c
            externalRefToTaskId := existingRefs repository.repositoryId c
            created := 0
            skipped := 0 } = .ok progress' ∧
        Adds repository.repositoryId importedDetails request.tasks c progress'.catalog :=
    foldlM_importTask_adds hrefs hfresh
  rcases hloop with ⟨progress', hloop, hadds⟩
  have hexecuted : executed request c₀ = progress'.catalog := by
    simp [executed, execute, prepareImport, hproject, hrepository, hloop,
      foldl_wireTask_withoutRefs hrefs]
  rw [hexecuted]
  exact hadds

theorem executed_withoutRefs (hrefs : WithoutRefs request.tasks)
    (hfresh : FreshIds c₀ request.tasks) {t : Task}
    (ht : t ∈ (executed request c₀).graph.store.tasks)
    (href : ((executed request c₀).externalRef t.taskId).isSome = true) :
    t ∈ c₀.graph.store.tasks := by
  cases hproject : findOrCreateProject request c₀ with
  | error e =>
      simpa [executed, execute, prepareImport, hproject] using ht
  | ok found =>
      rcases found with ⟨c₁, project⟩
      cases hrepository : findOrCreateRepository request project c₁ with
      | error e =>
          simpa [executed, execute, prepareImport, hproject, hrepository] using ht
      | ok found =>
          rcases found with ⟨c, repository⟩
          have hgraph : c.graph = c₀.graph :=
            (findOrCreateRepository_graph hrepository).trans
              (findOrCreateProject_graph hproject)
          have hfresh' : FreshIds c request.tasks :=
            ⟨hfresh.nodup, fun t ht => hgraph ▸ hfresh.unused t ht⟩
          have hadds := executed_adds hproject hrepository hrefs hfresh'
          exact hgraph ▸ hadds.mem_of_ref hrefs ht href

/-!
## What it means for the two paths to agree
-/

def Catalog.tasksOf (c : Catalog) (repositoryId : String) : List Task :=
  c.graph.store.tasks.rows.filter (fun t => t.repositoryId = repositoryId)

def Catalog.contentOf (c : Catalog) (t : Task) : Task × Option String × TaskDetails :=
  ({ t with taskId := "" }, c.externalRef t.taskId,
    { c.details t.taskId with source := "" })

def TaskDependency.renamed (d : TaskDependency) (rename : TaskId -> TaskId) :
    TaskDependency :=
  { d with
    taskDependencyId := ""
    taskId := rename d.taskId
    dependsOnTaskId := rename d.dependsOnTaskId }

/-- The tasks of the repository and the dependencies are the same in both databases, up
to the ids of the tasks that were not there before. -/
structure SameUpTo (rename : TaskId -> TaskId) (repositoryId : String)
    (before a b : Catalog) : Prop where
  keepsOld : forall t, t ∈ before.graph.store.tasks -> rename t.taskId = t.taskId
  injective : forall t t', t ∈ a.tasksOf repositoryId -> t' ∈ a.tasksOf repositoryId ->
    rename t.taskId = rename t'.taskId -> t = t'
  forth : forall t, t ∈ a.tasksOf repositoryId ->
    exists t', t' ∈ b.tasksOf repositoryId ∧ t'.taskId = rename t.taskId ∧
      b.contentOf t' = a.contentOf t
  back : forall t', t' ∈ b.tasksOf repositoryId ->
    exists t, t ∈ a.tasksOf repositoryId ∧ t'.taskId = rename t.taskId ∧
      b.contentOf t' = a.contentOf t
  dependencies : forall d,
    (exists d', d' ∈ b.graph.taskDependencies ∧ d'.renamed id = d) <->
      exists d', d' ∈ a.graph.taskDependencies ∧ d'.renamed rename = d

def ImportedTask.discovered (t : ImportedTask) : ImportedTask :=
  { t with
    taskId := ""
    dependencies := t.dependencies.map (fun d => { d with taskDependencyId := "" }) }

def NothingReferencedAdded (before after : Catalog) : Prop :=
  forall t, t ∈ after.graph.store.tasks ->
    (after.externalRef t.taskId).isSome = true -> t ∈ before.graph.store.tasks

/-- Every dependency that a task of the list declares on another one is stored, if both
were created. -/
def DeclaredWired (tasks : List ImportedTask) (after : Catalog) : Prop :=
  forall t u dependency, t ∈ tasks -> u ∈ tasks -> t.taskId ≠ u.taskId ->
    dependency ∈ t.dependencies -> u.externalRef = some dependency.ref ->
    (after.graph.store.findTask t.taskId).isSome = true ->
    (after.graph.store.findTask u.taskId).isSome = true ->
    after.graph.Edge t.taskId u.taskId

/-- No task is created for a reference that a task of the repository had before. -/
def KnownSkipped (tasks : List ImportedTask) (repositoryId : String)
    (before after : Catalog) : Prop :=
  forall t old, t ∈ tasks -> old ∈ before.tasksOf repositoryId ->
    t.externalRef.isSome = true -> before.externalRef old.taskId = t.externalRef ->
    after.graph.store.findTask t.taskId = none

/-- The two paths agree on a request, whose repository is there, and on a repetition of
it with the same tasks. -/
structure ImportPathsAgree (request : ExecuteRequest) (again : List ImportedTask)
    (repositoryId : String) (c₀ c : Catalog) : Prop where
  same : exists rename, SameUpTo rename repositoryId c
    (importTasks repositoryId request.tasks c).1 (executed request c₀)
  skippedByInit : KnownSkipped request.tasks repositoryId c
    (importTasks repositoryId request.tasks c).1
  skippedByService : KnownSkipped request.tasks repositoryId c (executed request c₀)
  repeatedByInit :
    let a := (importTasks repositoryId request.tasks c).1
    NothingReferencedAdded a (importTasks repositoryId again a).1
  repeatedByService :
    let b := executed request c₀
    NothingReferencedAdded b (executed { request with tasks := again } b)
  wiredByInit : DeclaredWired request.tasks (importTasks repositoryId request.tasks c).1
  wiredByService : DeclaredWired request.tasks (executed request c₀)

/-!
## When they agree
-/

theorem mem_tasksOf {t : Task} :
    t ∈ c.tasksOf repositoryId <->
      t ∈ c.graph.store.tasks ∧ t.repositoryId = repositoryId := by
  simp [Catalog.tasksOf, Table.mem_def]

theorem FreshIds.not_mem {t : Task} (h : FreshIds c tasks) (ht : t ∈ c.graph.store.tasks) :
    t.taskId ∉ tasks.map ImportedTask.taskId := by
  intro hmem
  rcases List.mem_map.mp hmem with ⟨added, hadded, hid⟩
  have hunused := h.unused added hadded
  rw [hid, Store.findTask, Table.find?_key_of_mem ht] at hunused
  cases hunused

theorem contentOf_eq (hfresh : FreshIds c tasks)
    (ha : Adds repositoryId discoveredDetails tasks c a)
    (hb : Adds repositoryId importedDetails tasks c b)
    (hdone : forall t, t ∈ tasks -> t.definitionOfDone ≠ some "") {t : Task}
    (ht : t ∈ a.graph.store.tasks) : b.contentOf t = a.contentOf t := by
  rw [Table.mem_def, ha.rows, List.mem_append] at ht
  rcases ht with hold | hnew
  · have hid := hfresh.not_mem hold
    simp only [Catalog.contentOf, ha.refOfOther _ hid, hb.refOfOther _ hid,
      ha.detailsOfOther _ hid, hb.detailsOfOther _ hid]
  · rcases List.mem_map.mp hnew with ⟨added, hadded, hrow⟩
    have hid : t.taskId = added.taskId := by
      rw [← hrow]
      rfl
    have htruthy : truthy added.definitionOfDone = added.definitionOfDone := by
      cases htext : added.definitionOfDone with
      | none =>
          rfl
      | some text =>
          have hne : text ≠ "" := fun heq => hdone added hadded (heq ▸ htext)
          simp [truthy, Option.filter, hne]
    simp only [Catalog.contentOf, hid, ha.refOfAdded _ hadded, hb.refOfAdded _ hadded,
      ha.detailsOfAdded _ hadded, hb.detailsOfAdded _ hadded, discoveredDetails,
      importedDetails, htruthy]

theorem sameUpTo_id (hfresh : FreshIds c tasks)
    (ha : Adds repositoryId discoveredDetails tasks c a)
    (hb : Adds repositoryId importedDetails tasks c b)
    (hdone : forall t, t ∈ tasks -> t.definitionOfDone ≠ some "") :
    SameUpTo id repositoryId c a b := by
  have hrows : b.graph.store.tasks.rows = a.graph.store.tasks.rows :=
    hb.rows.trans ha.rows.symm
  have htasks : b.tasksOf repositoryId = a.tasksOf repositoryId := by
    unfold Catalog.tasksOf
    rw [hrows]
  have hcontent : forall t, t ∈ a.tasksOf repositoryId -> b.contentOf t = a.contentOf t :=
    fun t ht => contentOf_eq hfresh ha hb hdone (mem_tasksOf.mp ht).1
  refine
    { keepsOld := fun _ _ => rfl
      injective := ?_
      forth := fun t ht => ⟨t, htasks ▸ ht, rfl, hcontent t ht⟩
      back := fun t ht => ⟨t, htasks ▸ ht, rfl, hcontent t (htasks ▸ ht)⟩
      dependencies := ?_ }
  · intro t t' ht ht' hid
    exact Table.eq_of_key (mem_tasksOf.mp ht).1 (mem_tasksOf.mp ht').1 hid
  · intro d
    rw [hb.taskDependencies, ha.taskDependencies]

theorem definitionOfDone_of_sameUpTo {rename : TaskId -> TaskId} (hfresh : FreshIds c tasks)
    (ha : Adds repositoryId discoveredDetails tasks c a)
    (hb : Adds repositoryId importedDetails tasks c b)
    (hsame : SameUpTo rename repositoryId c a b) (ht : t ∈ tasks) :
    t.definitionOfDone ≠ some "" := by
  intro hempty
  have hrow : importedRow repositoryId t ∈ b.tasksOf repositoryId := by
    rw [mem_tasksOf, Table.mem_def, hb.rows]
    exact ⟨List.mem_append_right _ (List.mem_map_of_mem ht), rfl⟩
  rcases hsame.back _ hrow with ⟨origin, horigin, hid, hcontent⟩
  have hdone : (a.details origin.taskId).definitionOfDone = some "" := by
    have heq := congrArg (fun content => content.2.2.definitionOfDone) hcontent
    have hnew : (b.details (importedRow repositoryId t).taskId).definitionOfDone = some "" := by
      have hdetails := hb.detailsOfAdded t ht
      show (b.details t.taskId).definitionOfDone = some ""
      rw [hdetails]
      exact hempty
    exact heq.symm.trans hnew
  have hmem := (mem_tasksOf.mp horigin).1
  rw [Table.mem_def, ha.rows, List.mem_append] at hmem
  rcases hmem with hold | hadded
  · -- a task from before keeps its id, and the id of the new one was unused
    rw [hsame.keepsOld origin hold] at hid
    exact hfresh.not_mem hold (hid ▸ List.mem_map_of_mem ht)
  · rcases List.mem_map.mp hadded with ⟨added, hadded, horiginRow⟩
    have hdetails := ha.detailsOfAdded added hadded
    have haddedId : origin.taskId = added.taskId := by
      rw [← horiginRow]
      rfl
    rw [haddedId, hdetails] at hdone
    simp [discoveredDetails, truthy, Option.filter_eq_some_iff] at hdone

/-- A repeated import of factory init adds each task once more. -/
theorem withoutRefs_of_repeated {again : List ImportedTask}
    (hagain : again.map ImportedTask.discovered = tasks.map ImportedTask.discovered)
    (hfresh : FreshIds a again)
    (hnothing : NothingReferencedAdded a (importTasks repositoryId again a).1) :
    WithoutRefs tasks := by
  intro t ht
  by_contra href
  have hmem : t.discovered ∈ again.map ImportedTask.discovered := by
    rw [hagain]
    exact List.mem_map_of_mem ht
  rcases List.mem_map.mp hmem with ⟨t', ht', hsame⟩
  have hadds : Adds repositoryId discoveredDetails again a (importTasks repositoryId again a).1 :=
    importTasks_adds hfresh
  have hrow : importedRow repositoryId t' ∈
      (importTasks repositoryId again a).1.graph.store.tasks := by
    rw [Table.mem_def, hadds.rows]
    exact List.mem_append_right _ (List.mem_map_of_mem ht')
  have href' : t'.discovered.externalRef = t.discovered.externalRef :=
    congrArg ImportedTask.externalRef hsame
  have hsome : ((importTasks repositoryId again a).1.externalRef t'.taskId).isSome = true := by
    rw [hadds.refOfAdded t' ht', Option.isSome_iff_ne_none]
    exact href' ▸ href
  have hold := hnothing _ hrow hsome
  exact hfresh.not_mem hold (List.mem_map_of_mem ht')

theorem FreshIds.after {again : List ImportedTask} (h : FreshIds c (tasks ++ again))
    (hadds : Adds repositoryId describe tasks c c') :
    FreshIds c' again := by
  have hnodup := h.nodup
  rw [List.map_append, List.nodup_append] at hnodup
  refine ⟨hnodup.2.1, ?_⟩
  intro t ht
  apply hadds.unused
  · intro hmem
    exact hnodup.2.2 _ hmem _ (List.mem_map_of_mem ht) rfl
  · exact h.unused t (List.mem_append_right tasks ht)

theorem FreshIds.left {again : List ImportedTask} (h : FreshIds c (tasks ++ again)) :
    FreshIds c tasks := by
  have hnodup := h.nodup
  rw [List.map_append, List.nodup_append] at hnodup
  exact ⟨hnodup.1, fun t ht => h.unused t (List.mem_append_left again ht)⟩

theorem WithoutRefs.again {again : List ImportedTask} (h : WithoutRefs tasks)
    (hagain : again.map ImportedTask.discovered = tasks.map ImportedTask.discovered) :
    WithoutRefs again := by
  intro t ht
  have hmem : t.discovered ∈ tasks.map ImportedTask.discovered := by
    rw [← hagain]
    exact List.mem_map_of_mem ht
  rcases List.mem_map.mp hmem with ⟨t', ht', hsame⟩
  have href : t'.discovered.externalRef = t.discovered.externalRef :=
    congrArg ImportedTask.externalRef hsame
  exact href.symm.trans (h t' ht')

theorem WithoutRefs.knownSkipped {before after : Catalog} (h : WithoutRefs tasks) :
    KnownSkipped tasks repositoryId before after := by
  intro t old ht _ hsome _
  rw [h t ht] at hsome
  cases hsome

theorem WithoutRefs.declaredWired {after : Catalog} (h : WithoutRefs tasks) :
    DeclaredWired tasks after := by
  intro t u dependency _ hu _ _ href _ _
  rw [h u hu] at href
  cases href

/-- The two import paths agree exactly on the lists without an external reference and
without an empty definition of done. -/
theorem importPathsAgree_iff {again : List ImportedTask}
    (hproject : findOrCreateProject request c₀ = .ok (c₁, project))
    (hrepository : findOrCreateRepository request project c₁ = .ok (c, repository))
    (hfresh : FreshIds c (request.tasks ++ again))
    (hagain : again.map ImportedTask.discovered =
      request.tasks.map ImportedTask.discovered) :
    ImportPathsAgree request again repository.repositoryId c₀ c <->
      forall t, t ∈ request.tasks -> t.externalRef = none ∧ t.definitionOfDone ≠ some "" := by
  have hinit : Adds repository.repositoryId discoveredDetails request.tasks c
      (importTasks repository.repositoryId request.tasks c).1 :=
    importTasks_adds hfresh.left
  constructor
  · intro h
    have hrefs : WithoutRefs request.tasks :=
      withoutRefs_of_repeated hagain (hfresh.after hinit) h.repeatedByInit
    have hservice := executed_adds hproject hrepository hrefs hfresh.left
    rcases h.same with ⟨rename, hsame⟩
    intro t ht
    exact ⟨hrefs t ht, definitionOfDone_of_sameUpTo hfresh.left hinit hservice hsame ht⟩
  · intro h
    have hrefs : WithoutRefs request.tasks := fun t ht => (h t ht).1
    have hservice := executed_adds hproject hrepository hrefs hfresh.left
    have hsame := sameUpTo_id hfresh.left hinit hservice (fun t ht => (h t ht).2)
    exact
      { same := ⟨id, hsame⟩
        skippedByInit := hrefs.knownSkipped
        skippedByService := hrefs.knownSkipped
        repeatedByInit := fun t ht href =>
          (importTasks_adds (hfresh.after hinit)).mem_of_ref (hrefs.again hagain) ht href
        repeatedByService := fun t ht href =>
          executed_withoutRefs (hrefs.again hagain) (hfresh.after hservice) ht href
        wiredByInit := hrefs.declaredWired
        wiredByService := hrefs.declaredWired }

/-!
## A backlog with references
-/

/-- A backlog of two tasks, the second of which depends on the first, with the ids of one
run. -/
def backlog (first second : TaskId) : List ImportedTask :=
  [ { taskId := first
      taskType := "feature"
      externalRef := some "T001"
      title := "Parse the input" },
    { taskId := second
      taskType := "feature"
      externalRef := some "T002"
      dependencies := [{ ref := "T001", taskDependencyId := "dependency-" ++ second }]
      title := "Check the input" } ]

def backlogRequest (tasks : List ImportedTask) : ExecuteRequest where
  tasks := tasks
  projectName := "factory"
  newProjectId := "project-1"
  newRepositoryId := "repo-1"

def registered : Catalog :=
  executed (backlogRequest []) Catalog.empty

theorem registered_freshIds {tasks : List ImportedTask}
    (h : (tasks.map ImportedTask.taskId).Nodup) :
    FreshIds registered tasks :=
  ⟨h, fun _ _ => rfl⟩

def note (taskId : TaskId) : List ImportedTask :=
  [{ taskId := taskId, taskType := "chore", title := "Read the backlog" }]

theorem importPathsAgree_iff_note :
    ImportPathsAgree (backlogRequest (note "task-1")) (note "task-2") "repo-1"
        registered registered <->
      forall t, t ∈ note "task-1" -> t.externalRef = none ∧ t.definitionOfDone ≠ some "" := by
  have hproject : findOrCreateProject (backlogRequest (note "task-1")) registered =
      .ok (registered, ⟨"project-1", "factory"⟩) := rfl
  have hrepository : findOrCreateRepository (backlogRequest (note "task-1"))
      ⟨"project-1", "factory"⟩ registered =
      .ok (registered, ⟨"repo-1", "project-1", "factory"⟩) := rfl
  exact importPathsAgree_iff hproject hrepository (registered_freshIds (by decide)) rfl

/-- Factory init stores no dependency of a backlog whose tasks depend on one another. -/
theorem init_loses_dependency :
    ¬ forall (request : ExecuteRequest) (again : List ImportedTask) (c₀ c₁ c : Catalog)
        (project : Project) (repository : Repository),
      findOrCreateProject request c₀ = .ok (c₁, project) ->
      findOrCreateRepository request project c₁ = .ok (c, repository) ->
      FreshIds c (request.tasks ++ again) ->
      again.map ImportedTask.discovered = request.tasks.map ImportedTask.discovered ->
      ImportPathsAgree request again repository.repositoryId c₀ c := by
  intro hclaim
  have h := hclaim (backlogRequest (backlog "task-1" "task-2")) (backlog "task-3" "task-4")
    registered registered registered ⟨"project-1", "factory"⟩
    ⟨"repo-1", "project-1", "factory"⟩ rfl rfl (registered_freshIds (by decide)) rfl
  have hwired := h.wiredByInit
  have hnone : (importTasks "repo-1" (backlog "task-1" "task-2")
      registered).1.graph.taskDependencies.rows = [] := by
    decide +kernel
  have hedge : (importTasks "repo-1" (backlog "task-1" "task-2")
      registered).1.graph.Edge "task-2" "task-1" :=
    hwired _ _ { ref := "T001", taskDependencyId := "dependency-task-2" }
      (List.mem_cons_of_mem _ List.mem_cons_self) List.mem_cons_self (by decide)
      List.mem_cons_self rfl rfl rfl
  rcases hedge with ⟨d, hd, _⟩
  rw [Table.mem_def, hnone] at hd
  cases hd

end Dependencies
end CopilotFactory
