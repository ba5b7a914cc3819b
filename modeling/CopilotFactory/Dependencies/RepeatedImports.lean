import CopilotFactory.Dependencies.ImportedReferences

/-!
# Repeated imports

Imports into the same repository know the tasks of earlier ones by their external
references.  Within one import they do not: a reference that a request repeats, when the
repository does not have it yet, is created twice.
-/

namespace CopilotFactory
namespace Dependencies

open Foundations
open Infrastructure

/-!
## One call
-/

variable {tasks : List ImportedTask}

/-- The ids that are drawn for a request are new, not empty, and differ among themselves. -/
structure DrawnIds (c : Catalog) (request : ExecuteRequest) : Prop where
  project : c.projects.find? request.newProjectId = none
  repository : c.repositories.find? request.newRepositoryId = none
  tasks : FreshIds c request.tasks
  nonempty : forall t, t ∈ request.tasks -> t.taskId ≠ ""
  dependencies : (request.tasks.flatMap (fun t =>
    t.dependencies.map ImportedDependency.taskDependencyId)).Nodup
  unusedDependencies : forall t dependency, t ∈ request.tasks ->
    dependency ∈ t.dependencies ->
    c.graph.taskDependencies.find? dependency.taskDependencyId = none

/-- The columns of the tasks, which the search for project and repository leaves alone. -/
def Catalog.SameTasks (c c' : Catalog) : Prop :=
  c'.graph = c.graph ∧ c'.externalRef = c.externalRef ∧ c'.details = c.details

section Registration

variable {request : ExecuteRequest} {c c₁ c₂ : Catalog} {project : Project}
  {repository : Repository}

theorem findOrCreateProject_run (hid : c.projects.find? request.newProjectId = none) :
    exists c₁ project, findOrCreateProject request c = .ok (c₁, project) ∧
      c.SameTasks c₁ ∧ c₁.repositories = c.repositories ∧ project ∈ c₁.projects := by
  unfold findOrCreateProject
  cases hfind : c.projects.rows.find? (fun p => p.name = request.projectName) with
  | some project =>
      exact ⟨c, project, rfl, ⟨rfl, rfl, rfl⟩, rfl, List.mem_of_find?_eq_some hfind⟩
  | none =>
      have hname : c.projects.rows.any (fun p => p.name = request.projectName) = false := by
        rw [List.any_eq_false]
        exact List.find?_eq_none.mp hfind
      let row : Project :=
        { projectId := request.newProjectId
          name := request.projectName }
      have hcreate : c.createProject row =
          .ok { c with projects := c.projects.insert row hid } := by
        unfold Catalog.createProject
        rw [dif_pos hid, if_neg (Bool.eq_false_iff.mp hname)]
      refine ⟨{ c with projects := c.projects.insert row hid }, row, ?_, ⟨rfl, rfl, rfl⟩, rfl,
        ?_⟩
      · exact bind_eq_ok.mpr ⟨_, hcreate, rfl⟩
      · exact (Table.mem_insert hid).mpr (Or.inr rfl)

theorem findOrCreateRepository_run
    (hid : c.repositories.find? request.newRepositoryId = none)
    (hproject : project ∈ c.projects) :
    exists c₂ repository, findOrCreateRepository request project c = .ok (c₂, repository) ∧
      c.SameTasks c₂ ∧ c₂.projects = c.projects := by
  unfold findOrCreateRepository
  dsimp only
  split
  · exact ⟨c, _, rfl, ⟨rfl, rfl, rfl⟩, rfl⟩
  · have hfound : (c.projects.find? project.projectId).isSome = true := by
      rw [Table.find?_key_of_mem hproject]
      rfl
    let row : Repository :=
      { repositoryId := request.newRepositoryId
        projectId := project.projectId
        name := request.repositoryName.getD request.projectName }
    refine ⟨{ c with repositories := c.repositories.insert row hid }, row, ?_,
      ⟨rfl, rfl, rfl⟩, rfl⟩
    unfold Catalog.createRepository
    rw [dif_pos hid, if_pos hfound]
    rfl

/-- A project that has been found or created is found again. -/
theorem findOrCreateProject_again (h : findOrCreateProject request c = .ok (c₁, project))
    {again : ExecuteRequest} (hname : again.projectName = request.projectName) {c' : Catalog}
    (hprojects : c'.projects = c₁.projects) :
    findOrCreateProject again c' = .ok (c', project) := by
  have hfind : c₁.projects.rows.find? (fun p => p.name = request.projectName) =
      some project := by
    unfold findOrCreateProject at h
    split at h
    · rename_i found hfound
      cases h
      exact hfound
    · rename_i hnone
      simp only [bind_eq_ok, pure_eq_ok, Prod.mk.injEq] at h
      rcases h with ⟨c₃, hcreate, hc, hproject⟩
      subst hc hproject
      unfold Catalog.createProject at hcreate
      split at hcreate
      · split at hcreate
        · cases hcreate
        · cases hcreate
          simp only [Table.insert, List.find?_append, hnone, Option.none_or]
          simp
      · cases hcreate
  unfold findOrCreateProject
  rw [hprojects, hname, hfind]

theorem findOrCreateRepository_again
    (h : findOrCreateRepository request project c₁ = .ok (c₂, repository))
    {again : ExecuteRequest} (hname : again.projectName = request.projectName)
    (hrepository : again.repositoryName = request.repositoryName) {c' : Catalog}
    (hrepositories : c'.repositories = c₂.repositories) :
    findOrCreateRepository again project c' = .ok (c', repository) := by
  have hfind : c₂.repositories.rows.find? (fun r => r.projectId = project.projectId ∧
      r.name = request.repositoryName.getD request.projectName) = some repository := by
    unfold findOrCreateRepository at h
    dsimp only at h
    split at h
    · rename_i found hfound
      cases h
      exact hfound
    · rename_i hnone
      simp only [bind_eq_ok, pure_eq_ok, Prod.mk.injEq] at h
      rcases h with ⟨c₃, hcreate, hc, hrow⟩
      subst hc hrow
      unfold Catalog.createRepository at hcreate
      split at hcreate
      · split at hcreate
        · cases hcreate
          simp only [Table.insert, List.find?_append, hnone, Option.none_or]
          simp
        · cases hcreate
      · cases hcreate
  unfold findOrCreateRepository
  dsimp only
  rw [hrepositories, hname, hrepository, hfind]

end Registration

def knownRefs (request : ExecuteRequest) (c : Catalog) : ExternalRefs :=
  match findOrCreateProject request c with
  | .error _ => []
  | .ok (c₁, project) =>
      match findOrCreateRepository request project c₁ with
      | .error _ => []
      | .ok (c₂, repository) => existingRefs repository.repositoryId c₂

structure CallRun (request : ExecuteRequest) (c : Catalog) (project : Project)
    (repository : Repository) (middle : Catalog) (refs : ExternalRefs) (c' : Catalog)
    (response : ExecuteResponse) : Prop where
  runs : execute request c = .ok (c', response)
  known : exists c₁ c₂, findOrCreateProject request c = .ok (c₁, project) ∧
    findOrCreateRepository request project c₁ = .ok (c₂, repository) ∧
    middle.projects = c₁.projects ∧ middle.repositories = c₂.repositories
  adds : Adds repository.repositoryId importedDetails
    (newTasks (knownRefs request c) request.tasks) c middle
  fresh : FreshIds c (newTasks (knownRefs request c) request.tasks)
  knows : Tracks (knownRefs request c) repository.repositoryId c
  tracks : Tracks refs repository.repositoryId middle
  after : c' = { middle with
    graph := (request.tasks.foldl (wireTask refs) (middle.graph, [])).1 }
  repositoryId : response.repositoryId = repository.repositoryId
  counts : response.created + response.skipped = request.tasks.length
  errors : response.errors = (request.tasks.foldl (wireTask refs) (middle.graph, [])).2

theorem FreshIds.newTasks {c : Catalog} (h : FreshIds c tasks) (existing : ExternalRefs) :
    FreshIds c (newTasks existing tasks) where
  nodup := (List.filter_sublist.map ImportedTask.taskId).nodup h.nodup
  unused := fun t ht => h.unused t (List.mem_filter.mp ht).1

theorem FreshIds.congr {c c' : Catalog} (h : FreshIds c tasks) (hgraph : c'.graph = c.graph) :
    FreshIds c' tasks where
  nodup := h.nodup
  unused := fun t ht => hgraph ▸ h.unused t ht

theorem Adds.congr {repositoryId : String} {describe : ImportedTask -> TaskDetails}
    {c c₀ c' : Catalog} (h : Adds repositoryId describe tasks c c') (hsame : c₀.SameTasks c) :
    Adds repositoryId describe tasks c₀ c' where
  rows := by rw [h.rows, hsame.1]
  taskDependencies := by rw [h.taskDependencies, hsame.1]
  refOfAdded := h.refOfAdded
  detailsOfAdded := h.detailsOfAdded
  refOfOther := fun id hid => by rw [h.refOfOther id hid, hsame.2.1]
  detailsOfOther := fun id hid => by rw [h.detailsOfOther id hid, hsame.2.2]

theorem Catalog.SameTasks.trans {c c₁ c₂ : Catalog} (h : c.SameTasks c₁)
    (h' : c₁.SameTasks c₂) : c.SameTasks c₂ :=
  ⟨h'.1.trans h.1, h'.2.1.trans h.2.1, h'.2.2.trans h.2.2⟩

theorem Tracks.congr {refs : ExternalRefs} {repositoryId : String} {c c' : Catalog}
    (h : Tracks refs repositoryId c') (hsame : c.SameTasks c') : Tracks refs repositoryId c := by
  have hreferenced : forall ref id,
      c'.Referenced repositoryId ref id <-> c.Referenced repositoryId ref id :=
    referenced_congr (congrArg TaskGraph.store hsame.1) hsame.2.1 repositoryId
  constructor
  · intro ref id hlookup
    exact (hreferenced ref id).mp (h.sound ref id hlookup)
  · intro ref id hreference
    exact h.complete ref id ((hreferenced ref id).mpr hreference)

theorem prepareImport_run {request : ExecuteRequest} {c c₁ c₂ middle : Catalog}
    {project : Project} {repository : Repository}
    (hproject : findOrCreateProject request c = .ok (c₁, project))
    (hrepository : findOrCreateRepository request project c₁ = .ok (c₂, repository))
    (hinsert : (newTasks (existingRefs repository.repositoryId c₂) request.tasks).foldlM
      (fun c t => c.createTask (importedRow repository.repositoryId t) t.externalRef
        (importedDetails t)) c₂ = .ok middle) :
    exists created skipped,
      prepareImport request c = .ok
        { project := project
          repository := repository
          progress :=
            { catalog := middle
              externalRefToTaskId := recordRefs (existingRefs repository.repositoryId c₂)
                (newTasks (existingRefs repository.repositoryId c₂) request.tasks)
              created := created
              skipped := skipped } } ∧
      created + skipped = request.tasks.length := by
  let start : ImportProgress :=
    { catalog := c₂
      externalRefToTaskId := existingRefs repository.repositoryId c₂
      created := 0
      skipped := 0 }
  have hstart : start.catalog = c₂ := rfl
  rw [← hstart] at hinsert
  rcases foldlM_importTask hinsert with ⟨created, skipped, hloop, hcount⟩
  refine ⟨created, skipped, ?_, ?_⟩
  · unfold prepareImport
    rw [hproject]
    dsimp only [ok_bind]
    rw [hrepository]
    dsimp only [ok_bind]
    rw [hloop]
    rfl
  · simpa [start] using hcount

theorem execute_run {request : ExecuteRequest} {c : Catalog} (hids : DrawnIds c request) :
    exists project repository middle refs c' response,
      CallRun request c project repository middle refs c' response := by
  rcases findOrCreateProject_run hids.project with
    ⟨c₁, project, hproject, hsame₁, hrepositories, hmem⟩
  have hid : c₁.repositories.find? request.newRepositoryId = none := by
    rw [hrepositories]
    exact hids.repository
  rcases findOrCreateRepository_run hid hmem with
    ⟨c₂, repository, hrepository, hsame₂, htables⟩
  have hsame : c.SameTasks c₂ :=
    hsame₁.trans hsame₂
  have hknown : knownRefs request c = existingRefs repository.repositoryId c₂ := by
    unfold knownRefs
    rw [hproject]
    dsimp only
    rw [hrepository]
  have hfresh : FreshIds c (newTasks (knownRefs request c) request.tasks) :=
    hids.tasks.newTasks _
  have hinsert : exists c', (newTasks (knownRefs request c) request.tasks).foldlM (fun c t =>
        c.createTask (importedRow repository.repositoryId t) t.externalRef
          (importedDetails t)) c₂ = .ok c' ∧
      Adds repository.repositoryId importedDetails
        (newTasks (knownRefs request c) request.tasks) c₂ c' :=
    foldlM_createTask_adds (hfresh.congr hsame.1)
  rcases hinsert with ⟨middle, hinsert, hadds⟩
  rw [hknown] at hinsert
  rcases prepareImport_run hproject hrepository hinsert with
    ⟨created, skipped, hprepare, hcount⟩
  have htracks : Tracks (existingRefs repository.repositoryId c₂) repository.repositoryId c₂ :=
    tracks_existingRefs repository.repositoryId c₂
  let refs := recordRefs (existingRefs repository.repositoryId c₂)
    (newTasks (existingRefs repository.repositoryId c₂) request.tasks)
  let wired := request.tasks.foldl (wireTask refs) (middle.graph, [])
  let response : ExecuteResponse :=
    { projectId := project.projectId
      repositoryId := repository.repositoryId
      created := created
      skipped := skipped
      errors := wired.2 }
  refine ⟨project, repository, middle, refs, { middle with graph := wired.1 }, response, ?_⟩
  constructor
  · unfold execute
    rw [hprepare]
    rfl
  · rcases foldlM_createTask_tables hinsert with ⟨hprojects', hrepositories'⟩
    exact ⟨c₁, c₂, hproject, hrepository, hprojects'.trans htables, hrepositories'⟩
  · exact hadds.congr hsame
  · exact hfresh
  · rw [hknown]
    exact htracks.congr hsame
  · rw [hknown] at hadds hfresh
    exact htracks.recordRefs hadds (hfresh.congr hsame.1)
  · rfl
  · rfl
  · exact hcount
  · rfl

/-!
## What a call leaves behind
-/

/-- References are unique, and no id is the empty text, which counts as no id. -/
structure WellKept (c : Catalog) : Prop where
  unique : c.UniqueRefs
  nonempty : forall t, t ∈ c.graph.store.tasks -> t.taskId ≠ ""

/-- The new tasks of the request have different references, and only tasks with a reference
name dependencies. -/
structure Unrepeated (c : Catalog) (request : ExecuteRequest) : Prop where
  refs : ((newTasks (knownRefs request c) request.tasks).filterMap
    (fun t => truthy t.externalRef)).Nodup
  dependencies : forall t, t ∈ request.tasks -> truthy t.externalRef = none ->
    t.dependencies = []

theorem eq_of_nodup_filterMap {α β : Type} {f : α -> Option β} {l : List α}
    (h : (l.filterMap f).Nodup) {a a' : α} {b : β} (ha : a ∈ l) (ha' : a' ∈ l)
    (hb : f a = some b) (hb' : f a' = some b) :
    a = a' := by
  induction l with
  | nil => cases ha
  | cons first rest ih =>
      rw [List.filterMap_cons] at h
      rcases List.mem_cons.mp ha with heq | hrest
      · rcases List.mem_cons.mp ha' with heq' | hrest'
        · rw [heq, heq']
        · rw [← heq, hb] at h
          have hmem : b ∈ rest.filterMap f := List.mem_filterMap.mpr ⟨a', hrest', hb'⟩
          exact absurd hmem (List.nodup_cons.mp h).1
      · rcases List.mem_cons.mp ha' with heq' | hrest'
        · rw [← heq', hb'] at h
          have hmem : b ∈ rest.filterMap f := List.mem_filterMap.mpr ⟨a, hrest, hb⟩
          exact absurd hmem (List.nodup_cons.mp h).1
        · apply ih _ hrest hrest'
          cases hfirst : f first with
          | none =>
              rw [hfirst] at h
              exact h
          | some b' =>
              rw [hfirst] at h
              exact (List.nodup_cons.mp h).2

section Call

variable {request : ExecuteRequest} {c : Catalog} {project : Project}
  {repository : Repository} {middle : Catalog} {refs : ExternalRefs} {c' : Catalog}
  {response : ExecuteResponse}

variable {t : ImportedTask}

theorem CallRun.store (h : CallRun request c project repository middle refs c' response) :
    c'.graph.store = middle.graph.store := by
  rw [h.after]
  dsimp only
  rw [wireTask_graph]
  exact (insertRows_keeps _ _).1

theorem CallRun.referenced_iff
    (h : CallRun request c project repository middle refs c' response)
    (repositoryId ref : String) (id : TaskId) :
    c'.Referenced repositoryId ref id <-> middle.Referenced repositoryId ref id := by
  apply referenced_congr h.store
  rw [h.after]

theorem CallRun.not_referenced
    (h : CallRun request c project repository middle refs c' response)
    (ht : t ∈ newTasks (knownRefs request c) request.tasks) {ref : String}
    (href : truthy t.externalRef = some ref) (id : TaskId) :
    ¬ c.Referenced repository.repositoryId ref id := by
  intro hreferenced
  have hnew := (List.mem_filter.mp ht).2
  rw [decide_eq_true_eq] at hnew
  exact hnew ⟨ref, href, h.knows.complete ref id hreferenced⟩

theorem CallRun.middle_unique
    (h : CallRun request c project repository middle refs c' response) (hc : WellKept c)
    (hrefs : Unrepeated c request) :
    middle.UniqueRefs := by
  intro repositoryId ref id id' hid hid'
  rcases (h.adds.referenced_iff h.fresh).mp hid with hold | ⟨heq, t, ht, htid, href⟩
  · rcases (h.adds.referenced_iff h.fresh).mp hid' with hold' | ⟨heq, t, ht, _, href⟩
    · exact hc.unique repositoryId ref id id' hold hold'
    · subst heq
      exact absurd hold (h.not_referenced ht href id)
  · rcases (h.adds.referenced_iff h.fresh).mp hid' with hold' | ⟨_, t', ht', htid', href'⟩
    · subst heq
      exact absurd hold' (h.not_referenced ht href id')
    · rw [← htid, ← htid', eq_of_nodup_filterMap hrefs.refs ht ht' href href']

theorem CallRun.wellKept (h : CallRun request c project repository middle refs c' response)
    (hids : DrawnIds c request) (hc : WellKept c) (hrefs : Unrepeated c request) :
    WellKept c' where
  unique := by
    intro repositoryId ref id id' hid hid'
    exact h.middle_unique hc hrefs repositoryId ref id id'
      ((h.referenced_iff repositoryId ref id).mp hid)
      ((h.referenced_iff repositoryId ref id').mp hid')
  nonempty := by
    intro t ht
    rw [h.store, Table.mem_def, h.adds.rows, List.mem_append] at ht
    rcases ht with ht | ht
    · exact hc.nonempty t ht
    · rcases List.mem_map.mp ht with ⟨added, hadded, hrow⟩
      rw [← hrow]
      exact hids.nonempty added (List.mem_filter.mp hadded).1

theorem CallRun.unchanged (h : CallRun request c project repository middle refs c' response)
    {t : Task} (ht : t ∈ c.graph.store.tasks) :
    t ∈ c'.graph.store.tasks ∧ c'.externalRef t.taskId = c.externalRef t.taskId ∧
      c'.details t.taskId = c.details t.taskId := by
  have hid := h.fresh.not_mem ht
  refine ⟨?_, ?_, ?_⟩
  · rw [h.store]
    exact h.adds.mem_of_mem ht
  · rw [h.after]
    exact h.adds.refOfOther t.taskId hid
  · rw [h.after]
    exact h.adds.detailsOfOther t.taskId hid

theorem CallRun.lookup_isSome (h : CallRun request c project repository middle refs c' response)
    (ht : t ∈ request.tasks) {ref : String} (href : truthy t.externalRef = some ref) :
    (refs.lookup ref).isSome = true := by
  by_cases hknown : AlreadyImported (knownRefs request c) t
  · rcases hknown with ⟨ref', href', hlookup⟩
    rw [href, Option.some.injEq] at href'
    subst href'
    rcases Option.isSome_iff_exists.mp hlookup with ⟨id, hid⟩
    apply h.tracks.complete ref id
    exact (h.adds.referenced_iff h.fresh).mpr (Or.inl (h.knows.sound ref id hid))
  · have hnew : t ∈ newTasks (knownRefs request c) request.tasks :=
      List.mem_filter.mpr ⟨ht, decide_eq_true hknown⟩
    apply h.tracks.complete ref t.taskId
    exact (h.adds.referenced_iff h.fresh).mpr (Or.inr ⟨rfl, t, hnew, rfl, href⟩)

theorem findTask_of_referenced {repositoryId ref : String} {id : TaskId}
    (h : c.Referenced repositoryId ref id) :
    (c.graph.store.findTask id).isSome = true := by
  rcases h with ⟨t, ht, _, hid, _⟩
  rw [← hid, Store.findTask, Table.find?_key_of_mem ht]
  rfl

theorem truthy_some {text : String} (h : text ≠ "") :
    truthy (some text) = some text := by
  simp [truthy, Option.filter, h]

theorem of_truthy_eq_some {text : Option String} {found : String}
    (h : truthy text = some found) :
    text = some found ∧ found ≠ "" := by
  simpa [truthy, Option.filter_eq_some_iff] using h

theorem namedDependencies_sublist (refs : ExternalRefs) (tasks : List ImportedTask) :
    List.Sublist
      ((tasks.flatMap (namedDependencies refs)).map TaskDependency.taskDependencyId)
      (tasks.flatMap (fun t => t.dependencies.map ImportedDependency.taskDependencyId)) := by
  induction tasks with
  | nil => exact List.Sublist.refl _
  | cons t rest ih =>
      rw [List.flatMap_cons, List.flatMap_cons, List.map_append]
      refine List.Sublist.append ?_ ih
      unfold namedDependencies
      split
      · exact List.nil_sublist _
      · rw [List.map_filterMap]
        rename_i ref taskId hwiring
        generalize t.dependencies = dependencies
        induction dependencies with
        | nil => exact List.Sublist.refl _
        | cons dependency others ih =>
            rw [List.filterMap_cons, List.map_cons]
            cases truthy (refs.lookup dependency.ref) with
            | none => exact ih.cons _
            | some depTaskId => exact ih.cons_cons _

theorem mem_namedDependencies {d : TaskDependency}
    (h : d ∈ tasks.flatMap (namedDependencies refs)) :
    exists t dependency ref, t ∈ tasks ∧ dependency ∈ t.dependencies ∧
      truthy t.externalRef = some ref ∧ refs.lookup ref = some d.taskId ∧
      refs.lookup dependency.ref = some d.dependsOnTaskId ∧
      d.taskDependencyId = dependency.taskDependencyId := by
  rcases List.mem_flatMap.mp h with ⟨t, ht, hd⟩
  unfold namedDependencies at hd
  split at hd
  · cases hd
  · rename_i ref taskId hwiring
    simp only [wiringTask, Option.bind_eq_bind, Option.bind_eq_some_iff, Option.pure_def,
      Option.some.injEq, Prod.mk.injEq] at hwiring
    rcases hwiring with ⟨ref', href, taskId', htask, hrefeq, htaskeq⟩
    subst hrefeq htaskeq
    rcases List.mem_filterMap.mp hd with ⟨dependency, hdependency, hrow⟩
    rcases Option.map_eq_some_iff.mp hrow with ⟨depTaskId, hdep, hrow⟩
    subst hrow
    exact ⟨t, dependency, ref', ht, hdependency, href, (of_truthy_eq_some htask).1,
      (of_truthy_eq_some hdep).1, rfl⟩

/-- Between tasks that are found under the references there is an edge after the call. -/
theorem CallRun.edge (h : CallRun request c project repository middle refs c' response)
    (hids : DrawnIds c request) (hc : WellKept c') {dependency : ImportedDependency}
    {ref : String} {id id' : TaskId} (ht : t ∈ request.tasks)
    (hdependency : dependency ∈ t.dependencies) (href : truthy t.externalRef = some ref)
    (hid : refs.lookup ref = some id) (hid' : refs.lookup dependency.ref = some id') :
    c'.graph.Edge id id' := by
  have hnonempty : forall {ref : String} {id : TaskId}, refs.lookup ref = some id -> id ≠ "" := by
    intro ref id hlookup
    rcases (h.referenced_iff _ _ _).mpr (h.tracks.sound ref id hlookup) with
      ⟨row, hrow, _, hrowId, _⟩
    exact hrowId ▸ hc.nonempty row hrow
  have hmem : wiredDependency id id' dependency ∈
      request.tasks.flatMap (namedDependencies refs) := by
    refine List.mem_flatMap.mpr ⟨t, ht, ?_⟩
    have hwiring : wiringTask refs t = some (ref, id) := by
      simp [wiringTask, href, hid, truthy_some (hnonempty hid)]
    unfold namedDependencies
    rw [hwiring]
    refine List.mem_filterMap.mpr ⟨dependency, hdependency, ?_⟩
    rw [hid', truthy_some (hnonempty hid')]
    rfl
  have hedge : (insertRows middle.graph (request.tasks.flatMap (namedDependencies refs))).Edge
      id id' := by
    refine edge_insertRows ?_ ?_ ?_ hmem
    · exact (namedDependencies_sublist refs request.tasks).nodup hids.dependencies
    · intro d hd
      rcases mem_namedDependencies hd with ⟨t', dependency', _, ht', hdependency', _, _, _, heq⟩
      rw [heq, h.adds.taskDependencies]
      exact hids.unusedDependencies t' dependency' ht' hdependency'
    · intro d hd
      rcases mem_namedDependencies hd with ⟨_, _, _, _, _, _, htask, hprerequisite, _⟩
      exact ⟨findTask_of_referenced (h.tracks.sound _ _ htask),
        findTask_of_referenced (h.tracks.sound _ _ hprerequisite)⟩
  rw [h.after]
  dsimp only
  rw [wireTask_graph]
  exact hedge

/-- The row of a requested task: the one with its reference, or else the one created for
it. -/
def IsTaskOf (c : Catalog) (repositoryId : String) (t : ImportedTask) (id : TaskId) : Prop :=
  match truthy t.externalRef with
  | some ref => c.Referenced repositoryId ref id
  | none => id = t.taskId

def StoredEdge (c : Catalog) (repositoryId : String) (t : ImportedTask)
    (dependency : ImportedDependency) : Prop :=
  exists id id', IsTaskOf c repositoryId t id ∧ c.Referenced repositoryId dependency.ref id' ∧
    c.graph.Edge id id'

def Reported (errors : List String) (t : ImportedTask) (dependency : ImportedDependency) : Prop :=
  notFound (t.externalRef.getD "") dependency.ref ∈ errors ∨
    exists message, failedToCreate (t.externalRef.getD "") dependency.ref message ∈ errors

theorem CallRun.named (h : CallRun request c project repository middle refs c' response)
    (hids : DrawnIds c request) (hc : WellKept c') (hrefs : Unrepeated c request)
    {dependency : ImportedDependency} (ht : t ∈ request.tasks)
    (hdependency : dependency ∈ t.dependencies) :
    StoredEdge c' repository.repositoryId t dependency ∨
      Reported response.errors t dependency := by
  cases href : truthy t.externalRef with
  | none =>
      rw [hrefs.dependencies t ht href] at hdependency
      cases hdependency
  | some ref =>
      rcases Option.isSome_iff_exists.mp (h.lookup_isSome ht href) with ⟨id, hid⟩
      have hreferenced := (h.referenced_iff _ _ _).mpr (h.tracks.sound ref id hid)
      cases hlookup : refs.lookup dependency.ref with
      | some id' =>
          left
          refine ⟨id, id', ?_, (h.referenced_iff _ _ _).mpr (h.tracks.sound _ id' hlookup),
            h.edge hids hc ht hdependency href hid hlookup⟩
          unfold IsTaskOf
          rw [href]
          exact hreferenced
      | none =>
          right
          left
          rcases hreferenced with ⟨row, hrow, _, hrowId, _⟩
          have hwiring : wiringTask refs t = some (ref, id) := by
            simp [wiringTask, href, hid, truthy_some (hrowId ▸ hc.nonempty row hrow)]
          rw [h.errors, (of_truthy_eq_some href).1]
          apply foldl_wireTask_reports ht hwiring hdependency
          rw [hlookup]
          rfl

end Call

/-!
## The same request once more
-/

structure Repeats (request again : ExecuteRequest) : Prop where
  projectName : again.projectName = request.projectName
  repositoryName : again.repositoryName = request.repositoryName
  tasks : again.tasks.map ImportedTask.discovered = request.tasks.map ImportedTask.discovered

theorem Repeats.task {request again : ExecuteRequest} (h : Repeats request again)
    {t' : ImportedTask} (ht' : t' ∈ again.tasks) :
    exists t, t ∈ request.tasks ∧ t.externalRef = t'.externalRef ∧
      forall dependency', dependency' ∈ t'.dependencies ->
        exists dependency, dependency ∈ t.dependencies ∧ dependency.ref = dependency'.ref := by
  have hmem : t'.discovered ∈ request.tasks.map ImportedTask.discovered := by
    rw [← h.tasks]
    exact List.mem_map_of_mem ht'
  rcases List.mem_map.mp hmem with ⟨t, ht, hsame⟩
  have href : t.discovered.externalRef = t'.discovered.externalRef := by
    rw [hsame]
  refine ⟨t, ht, href, ?_⟩
  intro dependency' hdependency'
  have hdependencies : t.discovered.dependencies = t'.discovered.dependencies := by
    rw [hsame]
  have herased : ({ dependency' with taskDependencyId := "" } : ImportedDependency) ∈
      t.discovered.dependencies := by
    rw [hdependencies]
    exact List.mem_map_of_mem hdependency'
  rcases List.mem_map.mp herased with ⟨dependency, hdependency, heq⟩
  rw [ImportedDependency.mk.injEq] at heq
  exact ⟨dependency, hdependency, heq.1⟩

structure AddsNothingKnown (c' c'' : Catalog) : Prop where
  tasks : forall t, t ∈ c''.graph.store.tasks ->
    (truthy (c''.externalRef t.taskId)).isSome = true -> t ∈ c'.graph.store.tasks
  dependencies : c''.graph.taskDependencies = c'.graph.taskDependencies

section Repeated

variable {request again : ExecuteRequest} {c : Catalog} {project : Project}
  {repository : Repository} {middle : Catalog} {refs : ExternalRefs} {c' : Catalog}
  {response : ExecuteResponse}

theorem CallRun.knownRefs_again
    (h : CallRun request c project repository middle refs c' response)
    (hagain : Repeats request again) :
    knownRefs again c' = existingRefs repository.repositoryId c' := by
  rcases h.known with ⟨c₁, c₂, hproject, hrepository, hprojects, hrepositories⟩
  have htables : c'.projects = c₁.projects ∧ c'.repositories = c₂.repositories := by
    rw [h.after]
    exact ⟨hprojects, hrepositories⟩
  unfold knownRefs
  rw [findOrCreateProject_again hproject hagain.projectName htables.1]
  dsimp only
  rw [findOrCreateRepository_again hrepository hagain.projectName hagain.repositoryName
    htables.2]

/-- Of a repeated request only the tasks without a reference are new. -/
theorem CallRun.newTasks_again
    (h : CallRun request c project repository middle refs c' response)
    (hagain : Repeats request again) {t' : ImportedTask}
    (ht' : t' ∈ newTasks (knownRefs again c') again.tasks) :
    truthy t'.externalRef = none := by
  rcases List.mem_filter.mp ht' with ⟨hmem, hnew⟩
  rw [decide_eq_true_eq] at hnew
  rcases hagain.task hmem with ⟨t, ht, hsame, _⟩
  cases href : truthy t'.externalRef with
  | none => rfl
  | some ref =>
      rw [← hsame] at href
      rcases Option.isSome_iff_exists.mp (h.lookup_isSome ht href) with ⟨id, hid⟩
      have hreferenced := (h.referenced_iff _ _ _).mpr (h.tracks.sound ref id hid)
      rw [hsame] at href
      refine absurd ⟨ref, href, ?_⟩ hnew
      rw [h.knownRefs_again hagain]
      exact (tracks_existingRefs repository.repositoryId c').complete ref id hreferenced

theorem CallRun.repository_again
    (h : CallRun request c project repository middle refs c' response)
    (hagain : Repeats request again) {project' : Project} {repository' : Repository}
    {middle' : Catalog} {refs' : ExternalRefs} {c'' : Catalog} {response' : ExecuteResponse}
    (h' : CallRun again c' project' repository' middle' refs' c'' response') :
    repository' = repository := by
  rcases h.known with ⟨c₁, c₂, hproject, hrepository, hprojects, hrepositories⟩
  rcases h'.known with ⟨c₁', c₂', hproject', hrepository', _, _⟩
  have htables : c'.projects = c₁.projects ∧ c'.repositories = c₂.repositories := by
    rw [h.after]
    exact ⟨hprojects, hrepositories⟩
  rw [findOrCreateProject_again hproject hagain.projectName htables.1] at hproject'
  cases hproject'
  rw [findOrCreateRepository_again hrepository hagain.projectName hagain.repositoryName
    htables.2] at hrepository'
  cases hrepository'
  rfl

theorem CallRun.repeated (h : CallRun request c project repository middle refs c' response)
    (hids : DrawnIds c request) (hc : WellKept c') (hagain : Repeats request again)
    (hids' : DrawnIds c' again) :
    exists c'' response', execute again c' = .ok (c'', response') ∧ AddsNothingKnown c' c'' := by
  rcases execute_run hids' with ⟨project', repository', middle', refs', c'', response', h'⟩
  have hrepository := h.repository_again hagain h'
  subst hrepository
  have hmiddle : middle.UniqueRefs := by
    intro repositoryId ref id id' hid hid'
    exact hc.unique repositoryId ref id id' ((h.referenced_iff _ _ _).mpr hid)
      ((h.referenced_iff _ _ _).mpr hid')
  have hlookup : forall ref id, refs'.lookup ref = some id -> refs.lookup ref = some id := by
    intro ref id hid
    rw [h.tracks.lookup_eq_some_iff hmiddle, ← h.referenced_iff]
    rcases (h'.adds.referenced_iff h'.fresh).mp (h'.tracks.sound ref id hid) with
      hold | ⟨_, t, ht, _, href⟩
    · exact hold
    · rw [h.newTasks_again hagain ht] at href
      cases href
  refine ⟨c'', response', h'.runs, ?_, ?_⟩
  · intro t ht href
    rw [h'.store, Table.mem_def, h'.adds.rows, List.mem_append] at ht
    rcases ht with ht | ht
    · exact ht
    · rcases List.mem_map.mp ht with ⟨added, hadded, hrow⟩
      have hcolumn : c''.externalRef t.taskId = added.externalRef := by
        rw [h'.after, ← hrow]
        exact h'.adds.refOfAdded added hadded
      rw [hcolumn, h.newTasks_again hagain hadded] at href
      cases href
  · have hedges : forall d, d ∈ again.tasks.flatMap (namedDependencies refs') ->
        middle'.graph.Edge d.taskId d.dependsOnTaskId := by
      intro d hd
      rcases mem_namedDependencies hd with
        ⟨t', dependency', ref, ht', hdependency', href, htask, hprerequisite, _⟩
      rcases hagain.task ht' with ⟨t, ht, hsame, hdependencies⟩
      rcases hdependencies dependency' hdependency' with ⟨dependency, hdependency, hdep⟩
      rw [TaskGraph.edge_of_taskDependencies_eq h'.adds.taskDependencies]
      rw [← hsame] at href
      rw [← hdep] at hprerequisite
      exact h.edge hids hc ht hdependency href (hlookup _ _ htask) (hlookup _ _ hprerequisite)
    rw [h'.after]
    dsimp only
    rw [wireTask_graph]
    dsimp only
    rw [insertRows_of_edges hedges, h'.adds.taskDependencies]

end Repeated

/-!
## Sequences of imports
-/

/-- What an import promises about the database before and after it. -/
structure ImportHolds (request : ExecuteRequest) (c c' : Catalog) (response : ExecuteResponse) :
    Prop where
  unique : c'.UniqueRefs
  counts : response.created + response.skipped = request.tasks.length
  unchanged : forall t, t ∈ c.graph.store.tasks ->
    (truthy (c.externalRef t.taskId)).isSome = true ->
    t ∈ c'.graph.store.tasks ∧ c'.externalRef t.taskId = c.externalRef t.taskId ∧
      c'.details t.taskId = c.details t.taskId
  named : forall t dependency, t ∈ request.tasks -> dependency ∈ t.dependencies ->
    StoredEdge c' response.repositoryId t dependency ∨ Reported response.errors t dependency
  repeated : forall again, Repeats request again -> DrawnIds c' again ->
    exists c'' response', execute again c' = .ok (c'', response') ∧ AddsNothingKnown c' c''

theorem importHolds {request : ExecuteRequest} {c : Catalog} (hc : WellKept c)
    (hids : DrawnIds c request) (hrefs : Unrepeated c request) :
    exists c' response, execute request c = .ok (c', response) ∧ WellKept c' ∧
      ImportHolds request c c' response := by
  rcases execute_run hids with ⟨project, repository, middle, refs, c', response, h⟩
  have hc' := h.wellKept hids hc hrefs
  refine ⟨c', response, h.runs, hc', hc'.unique, h.counts, ?_, ?_, ?_⟩
  · intro t ht _
    exact h.unchanged ht
  · intro t dependency ht hdependency
    rw [h.repositoryId]
    exact h.named hids hc' hrefs ht hdependency
  · intro again hagain hids'
    exact h.repeated hids hc' hagain hids'

def importAll (requests : List ExecuteRequest) (c : Catalog) : Catalog :=
  requests.foldl (fun c request => executed request c) c

def EachMeets (condition : Catalog -> ExecuteRequest -> Prop) :
    List ExecuteRequest -> Catalog -> Prop
  | [], _ => True
  | request :: rest, c => condition c request ∧ EachMeets condition rest (executed request c)

/-- In every sequence of imports, whose requests repeat no reference that is new and name
dependencies only for tasks with a reference, each import holds what it promises. -/
theorem imports_hold {requests : List ExecuteRequest} {c : Catalog} (hc : WellKept c)
    (hids : EachMeets DrawnIds requests c) (hrefs : EachMeets Unrepeated requests c)
    {front back : List ExecuteRequest} {request : ExecuteRequest}
    (hrequests : requests = front ++ request :: back) :
    exists response,
      execute request (importAll front c) =
        .ok (importAll (front ++ [request]) c, response) ∧
      ImportHolds request (importAll front c) (importAll (front ++ [request]) c) response := by
  subst hrequests
  induction front generalizing c with
  | nil =>
      rcases importHolds hc hids.1 hrefs.1 with ⟨c', response, hrun, _, hholds⟩
      have hexecuted : executed request c = c' := by
        simp [executed, hrun]
      refine ⟨response, ?_⟩
      simp only [importAll, List.nil_append, List.foldl_cons, List.foldl_nil, hexecuted]
      exact ⟨hrun, hholds⟩
  | cons first rest ih =>
      rcases importHolds hc hids.1 hrefs.1 with ⟨c', response, hrun, hc', _⟩
      have hexecuted : executed first c = c' := by
        simp [executed, hrun]
      have hnext : WellKept (executed first c) := hexecuted ▸ hc'
      exact ih hnext hids.2 hrefs.2

def laterRequest (tasks : List ImportedTask) : ExecuteRequest :=
  { backlogRequest tasks with
    newProjectId := "project-2"
    newRepositoryId := "repo-2" }

theorem registered_wellKept : WellKept registered := by
  have hrows : registered.graph.store.tasks.rows = [] := rfl
  constructor
  · intro repositoryId ref id id' hid
    rcases hid with ⟨t, ht, _⟩
    rw [Table.mem_def, hrows] at ht
    cases ht
  · intro t ht
    rw [Table.mem_def, hrows] at ht
    cases ht

theorem imports_hold_backlog :
    exists response,
      execute (laterRequest (backlog "task-1" "task-2")) registered =
        .ok (importAll [laterRequest (backlog "task-1" "task-2")] registered, response) ∧
      ImportHolds (laterRequest (backlog "task-1" "task-2")) registered
        (importAll [laterRequest (backlog "task-1" "task-2")] registered) response := by
  have hids : DrawnIds registered (laterRequest (backlog "task-1" "task-2")) :=
    { project := rfl
      repository := rfl
      tasks := registered_freshIds (by decide)
      nonempty := by decide
      dependencies := by decide
      unusedDependencies := fun _ _ _ _ => rfl }
  have hrefs : Unrepeated registered (laterRequest (backlog "task-1" "task-2")) :=
    { refs := by decide +kernel
      dependencies := by decide }
  have hrequests : [laterRequest (backlog "task-1" "task-2")] =
      [] ++ laterRequest (backlog "task-1" "task-2") :: [] :=
    rfl
  have hids' : EachMeets DrawnIds [laterRequest (backlog "task-1" "task-2")] registered :=
    ⟨hids, trivial⟩
  have hrefs' : EachMeets Unrepeated [laterRequest (backlog "task-1" "task-2")] registered :=
    ⟨hrefs, trivial⟩
  exact imports_hold registered_wellKept hids' hrefs' hrequests

def doubled : List ImportedTask :=
  [ { taskId := "task-1"
      taskType := "feature"
      externalRef := some "T001" },
    { taskId := "task-2"
      taskType := "feature"
      externalRef := some "T001" } ]

def unnamed : List ImportedTask :=
  [ { taskId := "task-1"
      taskType := "feature"
      externalRef := some "T001" },
    { taskId := "task-2"
      taskType := "feature"
      dependencies := [{ ref := "T001", taskDependencyId := "dependency-1" }] } ]

/-- A reference that a request repeats is created twice, and the dependency of a task without
a reference is neither stored nor reported. -/
theorem doubled_created_unnamed_dropped :
    ¬ (executed (laterRequest doubled) registered).UniqueRefs ∧
      exists c' response, execute (laterRequest unnamed) registered = .ok (c', response) ∧
        c'.graph.taskDependencies.rows = [] ∧ response.errors = [] := by
  constructor
  · intro hunique
    have hrows : (executed (laterRequest doubled) registered).graph.store.tasks.rows =
        doubled.map (importedRow "repo-1") :=
      rfl
    have hreferenced : forall t, t ∈ doubled ->
        (executed (laterRequest doubled) registered).Referenced "repo-1" "T001" t.taskId := by
      intro t ht
      refine ⟨importedRow "repo-1" t, ?_, rfl, rfl, ?_⟩
      · rw [Table.mem_def, hrows]
        exact List.mem_map_of_mem ht
      · revert t
        decide +kernel
    have hsame := hunique "repo-1" "T001" _ _ (hreferenced _ List.mem_cons_self)
      (hreferenced _ (List.mem_cons_of_mem _ List.mem_cons_self))
    exact absurd hsame (by decide)
  · exact ⟨_, _, rfl, rfl, rfl⟩

end Dependencies
end CopilotFactory
