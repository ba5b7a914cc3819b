import CopilotFactory.Dependencies.DependencyService

/-!
# Import service

An import creates the tasks of a request in one transaction and wires the
dependencies that they name.  A task is named by its external reference, within
the repository of the import.  No cycle check stands in front of the wiring.
-/

namespace CopilotFactory
namespace Dependencies

open Foundations
open Domain
open Infrastructure
open Application

structure Project where
  projectId : String
  name : String
deriving DecidableEq

structure Repository where
  repositoryId : String
  projectId : String
  name : String
deriving DecidableEq

structure TaskDetails where
  title : String := ""
  description : Option String := none
  source : String := ""
  acceptanceCriteria : Option (List String) := none
  definitionOfDone : Option String := none
  estimatedSize : Option String := none
  riskLevel : Option String := none
  suggestedFileScope : Option (List String) := none
deriving DecidableEq

/-- The task graph with the projects, the repositories and the external references of
the tasks. -/
structure Catalog where
  graph : TaskGraph
  projects : Table String Project Project.projectId
  repositories : Table String Repository Repository.repositoryId
  externalRef : TaskId -> Option String
  /-- What an import has written to describe a task. -/
  details : TaskId -> TaskDetails := fun _ => {}

variable {c c' : Catalog} {project : Project}

namespace Catalog

def empty : Catalog where
  graph := TaskGraph.empty
  projects := Table.empty
  repositories := Table.empty
  externalRef := fun _ => none

def setExternalRef (c : Catalog) (taskId : TaskId) (externalRef : Option String) : Catalog :=
  { c with
    externalRef := fun id => if id = taskId then externalRef else c.externalRef id }

def setDetails (c : Catalog) (taskId : TaskId) (details : TaskDetails) : Catalog :=
  { c with details := fun id => if id = taskId then details else c.details id }

def createProject (c : Catalog) (project : Project) : Except ServiceError Catalog :=
  if hnew : c.projects.find? project.projectId = none then
    if c.projects.rows.any (fun p => p.name = project.name) then
      .error (.constraintViolation "project" "name")
    else
      .ok { c with projects := c.projects.insert project hnew }
  else
    .error (.constraintViolation "project" "project_id")

def createRepository (c : Catalog) (repository : Repository) :
    Except ServiceError Catalog :=
  if hnew : c.repositories.find? repository.repositoryId = none then
    if (c.projects.find? repository.projectId).isSome then
      .ok { c with repositories := c.repositories.insert repository hnew }
    else
      .error (.constraintViolation "repository" "project_id")
  else
    .error (.constraintViolation "repository" "repository_id")

theorem createProject_graph (h : c.createProject project = .ok c') : c'.graph = c.graph := by
  unfold createProject at h
  split at h
  · split at h
    · cases h
    · cases h
      rfl
  · cases h

theorem createRepository_graph {repository : Repository}
    (h : c.createRepository repository = .ok c') : c'.graph = c.graph := by
  unfold createRepository at h
  split at h
  · split at h
    · cases h
      rfl
    · cases h
  · cases h

def createTask (c : Catalog) (task : Task) (externalRef : Option String)
    (details : TaskDetails := {}) : Except ServiceError Catalog := do
  let graph ← c.graph.createTask task
  let c' := { c with graph := graph }.setExternalRef task.taskId externalRef
  pure (c'.setDetails task.taskId details)

theorem createTask_graph {task : Task} {externalRef : Option String} {details : TaskDetails}
    (h : c.createTask task externalRef details = .ok c') :
    c'.graph.taskDependencies = c.graph.taskDependencies := by
  simp only [createTask, bind_eq_ok, pure_eq_ok] at h
  rcases h with ⟨graph, hgraph, hc⟩
  rw [← hc]
  exact (TaskGraph.onStore_spec hgraph).2

end Catalog

/-!
## The request

The ids of the rows that an import may create are part of the request, since they
are drawn at random.
-/

structure ImportedDependency where
  ref : String
  taskDependencyId : TaskDependencyId

structure ImportedTask where
  taskId : TaskId
  taskType : String
  priority : String := "medium"
  status : TaskStatus := .backlog
  externalRef : Option String := none
  dependencies : List ImportedDependency := []
  title : String := ""
  description : Option String := none
  acceptanceCriteria : Option (List String) := none
  definitionOfDone : Option String := none
  estimatedSize : Option String := none
  riskLevel : Option String := none
  suggestedFileScope : Option (List String) := none
  source : Option String := none

structure ExecuteRequest where
  tasks : List ImportedTask
  projectName : String
  repositoryName : Option String := none
  newProjectId : String
  newRepositoryId : String

structure ExecuteResponse where
  projectId : String
  repositoryId : String
  created : Nat
  skipped : Nat
  errors : List String

def truthy (text : Option String) : Option String :=
  text.filter (fun t => t ≠ "")

/-!
## Project and repository
-/

def findOrCreateProject (request : ExecuteRequest) (c : Catalog) :
    Except ServiceError (Catalog × Project) :=
  match c.projects.rows.find? (fun p => p.name = request.projectName) with
  | some project => .ok (c, project)
  | none => do
      let project : Project :=
        { projectId := request.newProjectId
          name := request.projectName }
      let c' ← c.createProject project
      pure (c', project)

def findOrCreateRepository (request : ExecuteRequest) (project : Project) (c : Catalog) :
    Except ServiceError (Catalog × Repository) :=
  let repoName := request.repositoryName.getD request.projectName
  match c.repositories.rows.find? (fun r =>
      r.projectId = project.projectId ∧ r.name = repoName) with
  | some repository => .ok (c, repository)
  | none => do
      let repository : Repository :=
        { repositoryId := request.newRepositoryId
          projectId := project.projectId
          name := repoName }
      let c' ← c.createRepository repository
      pure (c', repository)

theorem findOrCreateProject_graph {request : ExecuteRequest}
    (h : findOrCreateProject request c = .ok (c', project)) : c'.graph = c.graph := by
  unfold findOrCreateProject at h
  split at h
  · cases h
    rfl
  · simp only [bind_eq_ok, pure_eq_ok, Prod.mk.injEq] at h
    rcases h with ⟨_, hcreate, hc, _⟩
    rw [← hc]
    exact Catalog.createProject_graph hcreate

theorem findOrCreateRepository_graph {request : ExecuteRequest} {repository : Repository}
    (h : findOrCreateRepository request project c = .ok (c', repository)) :
    c'.graph = c.graph := by
  unfold findOrCreateRepository at h
  dsimp only at h
  split at h
  · cases h
    rfl
  · simp only [bind_eq_ok, pure_eq_ok, Prod.mk.injEq] at h
    rcases h with ⟨_, hcreate, hc, _⟩
    rw [← hc]
    exact Catalog.createRepository_graph hcreate

/-!
## Inserting the tasks
-/

/-- Tasks by external reference.  The latest entry of a reference counts. -/
abbrev ExternalRefs := List (String × TaskId)

def existingRefs (repositoryId : String) (c : Catalog) : ExternalRefs :=
  (c.graph.store.tasks.rows.filter (fun t => t.repositoryId = repositoryId)).reverse.filterMap
    (fun t => (truthy (c.externalRef t.taskId)).map (fun ref => (ref, t.taskId)))

structure ImportProgress where
  catalog : Catalog
  externalRefToTaskId : ExternalRefs
  created : Nat
  skipped : Nat

def importedRow (repositoryId : String) (importedTask : ImportedTask) : Task where
  taskId := importedTask.taskId
  repositoryId := repositoryId
  taskType := importedTask.taskType
  priority := importedTask.priority
  status := importedTask.status
  version := 1
  retryCount := 0
  currentLeaseId := none
  currentReviewCycleId := none
  mergeQueueItemId := none
  completedAt := none

def importedDetails (importedTask : ImportedTask) : TaskDetails where
  title := importedTask.title
  description := importedTask.description
  source := "automated"
  acceptanceCriteria := importedTask.acceptanceCriteria
  definitionOfDone := importedTask.definitionOfDone
  estimatedSize := importedTask.estimatedSize
  riskLevel := importedTask.riskLevel
  suggestedFileScope := importedTask.suggestedFileScope

def recordRef (importedTask : ImportedTask) (refs : ExternalRefs) : ExternalRefs :=
  match truthy importedTask.externalRef with
  | some ref => (ref, importedTask.taskId) :: refs
  | none => refs

def AlreadyImported (existing : ExternalRefs) (importedTask : ImportedTask) : Prop :=
  exists ref, truthy importedTask.externalRef = some ref ∧
    (existing.lookup ref).isSome = true

instance (existing : ExternalRefs) (importedTask : ImportedTask) :
    Decidable (AlreadyImported existing importedTask) :=
  match h : truthy importedTask.externalRef with
  | none => .isFalse (by
      intro hexists
      rcases hexists with ⟨ref, href, _⟩
      rw [h] at href
      cases href)
  | some ref =>
      decidable_of_iff ((existing.lookup ref).isSome = true) (by
        simp [AlreadyImported, h])

def importTask (repositoryId : String) (existing : ExternalRefs)
    (progress : ImportProgress) (importedTask : ImportedTask) :
    Except ServiceError ImportProgress :=
  if AlreadyImported existing importedTask then
    .ok { progress with skipped := progress.skipped + 1 }
  else do
    let catalog ← progress.catalog.createTask (importedRow repositoryId importedTask)
      importedTask.externalRef (importedDetails importedTask)
    pure
      { catalog := catalog
        externalRefToTaskId := recordRef importedTask progress.externalRefToTaskId
        created := progress.created + 1
        skipped := progress.skipped }

theorem importTask_taskDependencies {repositoryId : String} {existing : ExternalRefs}
    {progress progress' : ImportProgress} {importedTask : ImportedTask}
    (h : importTask repositoryId existing progress importedTask = .ok progress') :
    progress'.catalog.graph.taskDependencies =
      progress.catalog.graph.taskDependencies := by
  unfold importTask at h
  split at h
  · cases h
    rfl
  · simp only [bind_eq_ok, pure_eq_ok] at h
    rcases h with ⟨catalog, hcreate, h⟩
    rw [← h]
    exact Catalog.createTask_graph hcreate

theorem importTasks_taskDependencies {repositoryId : String} {existing : ExternalRefs}
    {progress progress' : ImportProgress} {tasks : List ImportedTask}
    (h : tasks.foldlM (importTask repositoryId existing) progress = .ok progress') :
    progress'.catalog.graph.taskDependencies =
      progress.catalog.graph.taskDependencies := by
  induction tasks generalizing progress with
  | nil =>
      cases h
      rfl
  | cons importedTask rest ih =>
      rw [List.foldlM_cons] at h
      rcases bind_eq_ok.mp h with ⟨p, hfirst, hrest⟩
      rw [ih hrest]
      exact importTask_taskDependencies hfirst

/-!
## Wiring the dependencies
-/

def wiredDependency (taskId depTaskId : TaskId) (dependency : ImportedDependency) :
    TaskDependency where
  taskDependencyId := dependency.taskDependencyId
  taskId := taskId
  dependsOnTaskId := depTaskId
  dependencyType := .blocks
  isHardBlock := true

/-- Insert the row of one named dependency; whatever goes wrong is only recorded. -/
def wireDependency (refs : ExternalRefs) (externalRef : String) (taskId : TaskId)
    (progress : TaskGraph × List String) (dependency : ImportedDependency) :
    TaskGraph × List String :=
  match truthy (refs.lookup dependency.ref) with
  | none =>
      (progress.1, progress.2 ++
        [s!"Dependency \"{dependency.ref}\" for task \"{externalRef}\" not found — skipped"])
  | some depTaskId =>
      match progress.1.createDependency (wiredDependency taskId depTaskId dependency) with
      | .ok graph => (graph, progress.2)
      | .error e =>
          (progress.1, progress.2 ++
            [s!"Failed to create dependency {externalRef} → {dependency.ref}: " ++ e.message])

def wiringTask (refs : ExternalRefs) (importedTask : ImportedTask) :
    Option (String × TaskId) := do
  let ref ← truthy importedTask.externalRef
  let taskId ← truthy (refs.lookup ref)
  pure (ref, taskId)

def wireTask (refs : ExternalRefs) (progress : TaskGraph × List String)
    (importedTask : ImportedTask) : TaskGraph × List String :=
  match wiringTask refs importedTask with
  | none => progress
  | some (ref, taskId) =>
      importedTask.dependencies.foldl (wireDependency refs ref taskId) progress

/-!
## The import
-/

structure PreparedImport where
  project : Project
  repository : Repository
  progress : ImportProgress

def prepareImport (request : ExecuteRequest) (c : Catalog) :
    Except ServiceError PreparedImport := do
  let (c₁, project) ← findOrCreateProject request c
  let (c₂, repository) ← findOrCreateRepository request project c₁
  let existing := existingRefs repository.repositoryId c₂
  let progress ← request.tasks.foldlM (importTask repository.repositoryId existing)
    { catalog := c₂
      externalRefToTaskId := existing
      created := 0
      skipped := 0 }
  pure
    { project := project
      repository := repository
      progress := progress }

theorem prepareImport_taskDependencies {request : ExecuteRequest} {prepared : PreparedImport}
    (h : prepareImport request c = .ok prepared) :
    prepared.progress.catalog.graph.taskDependencies = c.graph.taskDependencies := by
  simp only [prepareImport, bind_eq_ok, pure_eq_ok] at h
  rcases h with ⟨⟨c₁, project⟩, hproject, ⟨c₂, repository⟩, hrepository, progress, hloop, hp⟩
  rw [← hp, ← findOrCreateProject_graph hproject,
    ← findOrCreateRepository_graph hrepository]
  exact importTasks_taskDependencies hloop

def execute (request : ExecuteRequest) (c : Catalog) :
    Except ServiceError (Catalog × ExecuteResponse) := do
  let prepared ← prepareImport request c
  let progress := prepared.progress
  let (graph, errors) := request.tasks.foldl (wireTask progress.externalRefToTaskId)
    (progress.catalog.graph, [])
  pure ({ progress.catalog with graph := graph },
    { projectId := prepared.project.projectId
      repositoryId := prepared.repository.repositoryId
      created := progress.created
      skipped := progress.skipped
      errors := errors })

end Dependencies
end CopilotFactory
