import CopilotFactory.Dependencies.CycleSearch
import CopilotFactory.Dependencies.ImportPaths

/-!
# Imported references

What one import makes of the external references: the ones that the repository has are
collected once, the tasks with other ones are created and recorded, and then each named
dependency becomes a row or is reported.
-/

namespace CopilotFactory
namespace Dependencies

open Foundations
open Infrastructure

/-!
## References
-/

variable {id : TaskId}

def Catalog.Referenced (c : Catalog) (repositoryId ref : String) (id : TaskId) : Prop :=
  exists t, t ∈ c.graph.store.tasks ∧ t.repositoryId = repositoryId ∧ t.taskId = id ∧
    truthy (c.externalRef id) = some ref

def Catalog.UniqueRefs (c : Catalog) : Prop :=
  forall repositoryId ref id id', c.Referenced repositoryId ref id ->
    c.Referenced repositoryId ref id' -> id = id'

/-- The map holds references of the repository, and each of them that there is. -/
structure Tracks (refs : ExternalRefs) (repositoryId : String) (c : Catalog) : Prop where
  sound : forall ref id, refs.lookup ref = some id -> c.Referenced repositoryId ref id
  complete : forall ref id, c.Referenced repositoryId ref id ->
    (refs.lookup ref).isSome = true

theorem mem_of_lookup {refs : ExternalRefs} {ref : String} (h : refs.lookup ref = some id) :
    (ref, id) ∈ refs := by
  rcases List.lookup_eq_some_iff.mp h with ⟨front, back, hrefs, _⟩
  rw [hrefs]
  exact List.mem_append_right front List.mem_cons_self

theorem lookup_isSome_of_mem {refs : ExternalRefs} {ref : String} (h : (ref, id) ∈ refs) :
    (refs.lookup ref).isSome = true := by
  rw [List.lookup_isSome_iff]
  exact ⟨(ref, id), h, beq_self_eq_true ref⟩

theorem mem_existingRefs {repositoryId ref : String} {c : Catalog} :
    (ref, id) ∈ existingRefs repositoryId c <-> c.Referenced repositoryId ref id := by
  simp only [existingRefs, List.mem_filterMap, List.mem_reverse, List.mem_filter,
    decide_eq_true_eq, Option.map_eq_some_iff, Prod.mk.injEq]
  constructor
  · intro h
    rcases h with ⟨t, ⟨ht, hrepository⟩, ref', href, heq, hid⟩
    subst heq hid
    exact ⟨t, ht, hrepository, rfl, href⟩
  · intro h
    rcases h with ⟨t, ht, hrepository, hid, href⟩
    subst hid
    exact ⟨t, ⟨ht, hrepository⟩, ref, href, rfl, rfl⟩

theorem tracks_existingRefs (repositoryId : String) (c : Catalog) :
    Tracks (existingRefs repositoryId c) repositoryId c where
  sound := fun _ _ h => mem_existingRefs.mp (mem_of_lookup h)
  complete := fun _ _ h => lookup_isSome_of_mem (mem_existingRefs.mpr h)

/-- With unique references the map holds each of them at its task. -/
theorem Tracks.lookup_eq_some_iff {refs : ExternalRefs} {repositoryId ref : String}
    {c : Catalog} (h : Tracks refs repositoryId c) (hunique : c.UniqueRefs) :
    refs.lookup ref = some id <-> c.Referenced repositoryId ref id := by
  constructor
  · exact h.sound ref id
  · intro href
    rcases Option.isSome_iff_exists.mp (h.complete ref id href) with ⟨id', hid'⟩
    rw [hid', hunique repositoryId ref id' id (h.sound ref id' hid') href]

theorem referenced_congr {c c' : Catalog} (hgraph : c'.graph.store = c.graph.store)
    (hrefs : c'.externalRef = c.externalRef) (repositoryId ref : String) (id : TaskId) :
    c'.Referenced repositoryId ref id <-> c.Referenced repositoryId ref id := by
  unfold Catalog.Referenced
  rw [hgraph, hrefs]

/-!
## The tasks that are created
-/

def newTasks (existing : ExternalRefs) (tasks : List ImportedTask) : List ImportedTask :=
  tasks.filter (fun t => ¬ AlreadyImported existing t)

def recordRefs (refs : ExternalRefs) (tasks : List ImportedTask) : ExternalRefs :=
  tasks.foldl (fun refs t => recordRef t refs) refs

theorem createTask_tables {c c' : Catalog} {task : Task} {externalRef : Option String}
    {details : TaskDetails} (h : c.createTask task externalRef details = .ok c') :
    c'.projects = c.projects ∧ c'.repositories = c.repositories := by
  simp only [Catalog.createTask, bind_eq_ok, pure_eq_ok] at h
  rcases h with ⟨graph, _, hc⟩
  rw [← hc]
  exact ⟨rfl, rfl⟩

theorem foldlM_createTask_tables {repositoryId : String} {tasks : List ImportedTask}
    {c c' : Catalog}
    (h : tasks.foldlM (fun c t => c.createTask (importedRow repositoryId t) t.externalRef
      (importedDetails t)) c = .ok c') :
    c'.projects = c.projects ∧ c'.repositories = c.repositories := by
  induction tasks generalizing c with
  | nil =>
      cases h
      exact ⟨rfl, rfl⟩
  | cons t rest ih =>
      rw [List.foldlM_cons] at h
      rcases bind_eq_ok.mp h with ⟨c₁, hfirst, hrest⟩
      rcases createTask_tables hfirst with ⟨hprojects, hrepositories⟩
      rcases ih hrest with ⟨hprojects', hrepositories'⟩
      exact ⟨hprojects'.trans hprojects, hrepositories'.trans hrepositories⟩

theorem foldlM_importTask {repositoryId : String} {existing : ExternalRefs}
    {tasks : List ImportedTask} {progress : ImportProgress} {c' : Catalog}
    (h : (newTasks existing tasks).foldlM (fun c t => c.createTask
      (importedRow repositoryId t) t.externalRef (importedDetails t)) progress.catalog =
        .ok c') :
    exists created skipped,
      tasks.foldlM (importTask repositoryId existing) progress =
        .ok
          { catalog := c'
            externalRefToTaskId :=
              recordRefs progress.externalRefToTaskId (newTasks existing tasks)
            created := created
            skipped := skipped } ∧
      created + skipped = progress.created + progress.skipped + tasks.length := by
  induction tasks generalizing progress with
  | nil =>
      cases h
      exact ⟨progress.created, progress.skipped, rfl, rfl⟩
  | cons t rest ih =>
      rw [List.foldlM_cons, importTask]
      by_cases hknown : AlreadyImported existing t
      · have hnew : newTasks existing (t :: rest) = newTasks existing rest := by
          simp [newTasks, hknown]
        rw [hnew] at h ⊢
        rw [if_pos hknown]
        rcases @ih { progress with skipped := progress.skipped + 1 } h with
          ⟨created, skipped, hrun, hcount⟩
        refine ⟨created, skipped, hrun, ?_⟩
        rw [hcount, List.length_cons]
        dsimp only
        omega
      · have hnew : newTasks existing (t :: rest) = t :: newTasks existing rest := by
          simp [newTasks, hknown]
        rw [hnew, List.foldlM_cons] at h
        rcases bind_eq_ok.mp h with ⟨c₁, hfirst, hrest⟩
        rw [if_neg hknown, hfirst, hnew]
        let progress' : ImportProgress :=
          { catalog := c₁
            externalRefToTaskId := recordRef t progress.externalRefToTaskId
            created := progress.created + 1
            skipped := progress.skipped }
        rcases @ih progress' hrest with ⟨created, skipped, hrun, hcount⟩
        refine ⟨created, skipped, hrun, ?_⟩
        rw [hcount, List.length_cons]
        dsimp only [progress']
        omega

/-!
## References of the created tasks
-/

section Adds

variable {repositoryId : String} {tasks : List ImportedTask} {c c' : Catalog}

theorem Adds.mem_of_mem (h : Adds repositoryId importedDetails tasks c c') {t : Task}
    (ht : t ∈ c.graph.store.tasks) :
    t ∈ c'.graph.store.tasks := by
  rw [Table.mem_def, h.rows]
  exact List.mem_append_left _ ht

theorem Adds.referenced_iff (h : Adds repositoryId importedDetails tasks c c')
    (hfresh : FreshIds c tasks) {repositoryId' ref : String} :
    c'.Referenced repositoryId' ref id <->
      c.Referenced repositoryId' ref id ∨ repositoryId = repositoryId' ∧
        exists t, t ∈ tasks ∧ t.taskId = id ∧ truthy t.externalRef = some ref := by
  constructor
  · intro href
    rcases href with ⟨t, ht, hrepository, hid, href⟩
    rw [Table.mem_def, h.rows, List.mem_append] at ht
    rcases ht with ht | ht
    · left
      refine ⟨t, ht, hrepository, hid, ?_⟩
      rw [← h.refOfOther id (hid ▸ hfresh.not_mem ht)]
      exact href
    · right
      rcases List.mem_map.mp ht with ⟨added, hadded, hrow⟩
      subst hrow
      refine ⟨hrepository, added, hadded, hid, ?_⟩
      rw [← h.refOfAdded added hadded, show added.taskId = id from hid]
      exact href
  · intro href
    rcases href with ⟨t, ht, hrepository, hid, href⟩ | ⟨hrepository, t, ht, hid, href⟩
    · refine ⟨t, h.mem_of_mem ht, hrepository, hid, ?_⟩
      rw [h.refOfOther id (hid ▸ hfresh.not_mem ht)]
      exact href
    · refine ⟨importedRow repositoryId t, ?_, hrepository, hid, ?_⟩
      · rw [Table.mem_def, h.rows]
        exact List.mem_append_right _ (List.mem_map_of_mem ht)
      · rw [← hid, h.refOfAdded t ht]
        exact href

/-- A recorded reference is one from before or that of a created task. -/
theorem lookup_recordRefs {refs : ExternalRefs} {ref : String}
    (h : (recordRefs refs tasks).lookup ref = some id) :
    refs.lookup ref = some id ∨
      exists t, t ∈ tasks ∧ t.taskId = id ∧ truthy t.externalRef = some ref := by
  induction tasks generalizing refs with
  | nil => exact Or.inl h
  | cons t rest ih =>
      rcases ih h with hfirst | ⟨t', ht', hid, href⟩
      · dsimp only [recordRef] at hfirst
        cases htext : truthy t.externalRef with
        | none =>
            rw [htext] at hfirst
            exact Or.inl hfirst
        | some text =>
            rw [htext, List.lookup_cons] at hfirst
            by_cases heq : ref = text
            · subst heq
              rw [beq_self_eq_true] at hfirst
              exact Or.inr ⟨t, List.mem_cons_self, Option.some.inj hfirst, htext⟩
            · rw [beq_eq_false_iff_ne.mpr heq] at hfirst
              exact Or.inl hfirst
      · exact Or.inr ⟨t', List.mem_cons_of_mem t ht', hid, href⟩

theorem lookup_recordRefs_isSome {refs : ExternalRefs} {ref : String}
    (h : (refs.lookup ref).isSome = true ∨
      exists t, t ∈ tasks ∧ truthy t.externalRef = some ref) :
    ((recordRefs refs tasks).lookup ref).isSome = true := by
  induction tasks generalizing refs with
  | nil => exact h.resolve_right (by simp)
  | cons t rest ih =>
      apply ih
      dsimp only [recordRef]
      rcases h with h | ⟨t', ht', href⟩
      · left
        cases truthy t.externalRef with
        | none => exact h
        | some text =>
            rw [List.lookup_cons]
            split
            · rfl
            · exact h
      · rcases List.mem_cons.mp ht' with heq | ht'
        · left
          rw [← heq, href, List.lookup_cons_self]
          rfl
        · exact Or.inr ⟨t', ht', href⟩

theorem Tracks.recordRefs {refs : ExternalRefs} (h : Tracks refs repositoryId c)
    (hadds : Adds repositoryId importedDetails tasks c c') (hfresh : FreshIds c tasks) :
    Tracks (recordRefs refs tasks) repositoryId c' where
  sound := by
    intro ref id hlookup
    rw [hadds.referenced_iff hfresh]
    rcases lookup_recordRefs hlookup with hold | hnew
    · exact Or.inl (h.sound ref id hold)
    · exact Or.inr ⟨rfl, hnew⟩
  complete := by
    intro ref id href
    apply lookup_recordRefs_isSome
    rcases (hadds.referenced_iff hfresh).mp href with hold | ⟨_, t, ht, _, htext⟩
    · exact Or.inl (h.complete ref id hold)
    · exact Or.inr ⟨t, ht, htext⟩

end Adds

/-!
## Wiring
-/

section Rows

variable {g : TaskGraph} {rows : List TaskDependency}

theorem createDependency_of_edge {d : TaskDependency} (h : g.Edge d.taskId d.dependsOnTaskId) :
    exists e, g.createDependency d = .error e := by
  cases hcreate : g.createDependency d with
  | error e => exact ⟨e, rfl⟩
  | ok g' =>
      rcases h with ⟨d', hd', htask, hprerequisite⟩
      have hnone := (TaskGraph.createDependency_spec hcreate).1
      have hpair := TaskGraph.findByTaskIdPair_eq_none_iff.mp hnone d' hd'
      exact absurd (Prod.ext htask hprerequisite) hpair

theorem insertRows_of_edges (h : forall d, d ∈ rows -> g.Edge d.taskId d.dependsOnTaskId) :
    insertRows g rows = g := by
  induction rows with
  | nil => rfl
  | cons d rest ih =>
      rcases createDependency_of_edge (h d List.mem_cons_self) with ⟨e, hrefused⟩
      have hstep : insertRows g (d :: rest) = insertRows g rest := by
        simp [insertRows, hrefused, Except.toOption]
      rw [hstep]
      exact ih (fun d' hd' => h d' (List.mem_cons_of_mem d hd'))

theorem insertRows_keeps (g : TaskGraph) (rows : List TaskDependency) :
    (insertRows g rows).store = g.store ∧
      forall id id', g.Edge id id' -> (insertRows g rows).Edge id id' := by
  induction rows generalizing g with
  | nil => exact ⟨rfl, fun _ _ h => h⟩
  | cons d rest ih =>
      cases hcreate : g.createDependency d with
      | error e =>
          have hstep : insertRows g (d :: rest) = insertRows g rest := by
            simp [insertRows, hcreate, Except.toOption]
          rw [hstep]
          exact ih g
      | ok g' =>
          have hstep : insertRows g (d :: rest) = insertRows g' rest := by
            simp [insertRows, hcreate, Except.toOption]
          rcases ih g' with ⟨hstore, hedges⟩
          rw [hstep]
          refine ⟨hstore.trans (TaskGraph.createDependency_spec hcreate).2.1, ?_⟩
          intro id id' hedge
          apply hedges
          rw [TaskGraph.edge_createDependency hcreate]
          exact Or.inl hedge

/-- Rows between existing tasks, with new ids, leave an edge each. -/
theorem edge_insertRows (hnodup : (rows.map TaskDependency.taskDependencyId).Nodup)
    (hunused : forall d, d ∈ rows -> g.taskDependencies.find? d.taskDependencyId = none)
    (htasks : forall d, d ∈ rows -> (g.store.findTask d.taskId).isSome = true ∧
      (g.store.findTask d.dependsOnTaskId).isSome = true)
    {d : TaskDependency} (hd : d ∈ rows) :
    (insertRows g rows).Edge d.taskId d.dependsOnTaskId := by
  induction rows generalizing g with
  | nil => cases hd
  | cons first rest ih =>
      rw [List.map_cons, List.nodup_cons] at hnodup
      rcases htasks first List.mem_cons_self with ⟨htask, hprerequisite⟩
      have hrest : forall d, d ∈ rest ->
          (g.store.findTask d.taskId).isSome = true ∧
            (g.store.findTask d.dependsOnTaskId).isSome = true :=
        fun d hd => htasks d (List.mem_cons_of_mem first hd)
      cases hpair : g.findByTaskIdPair first.taskId first.dependsOnTaskId with
      | some found =>
          have hedge : g.Edge first.taskId first.dependsOnTaskId := by
            have hfound := List.find?_some hpair
            rw [decide_eq_true_eq] at hfound
            exact ⟨found, List.mem_of_find?_eq_some hpair, congrArg Prod.fst hfound,
              congrArg Prod.snd hfound⟩
          rcases createDependency_of_edge hedge with ⟨e, hrefused⟩
          have hstep : insertRows g (first :: rest) = insertRows g rest := by
            simp [insertRows, hrefused, Except.toOption]
          rw [hstep]
          rcases List.mem_cons.mp hd with hd | hd
          · rw [hd]
            exact (insertRows_keeps g rest).2 _ _ hedge
          · exact ih hnodup.2 (fun d hd => hunused d (List.mem_cons_of_mem first hd)) hrest hd
      | none =>
          rcases createDependency_accepts (hunused first List.mem_cons_self) hpair htask
            hprerequisite with ⟨g', hcreate⟩
          rcases TaskGraph.createDependency_spec hcreate with ⟨_, hstore, hmem⟩
          have hstep : insertRows g (first :: rest) = insertRows g' rest := by
            simp [insertRows, hcreate, Except.toOption]
          rw [hstep]
          rcases List.mem_cons.mp hd with hd | hd
          · apply (insertRows_keeps g' rest).2
            rw [hd, TaskGraph.edge_createDependency hcreate]
            exact Or.inr ⟨rfl, rfl⟩
          · apply ih hnodup.2 _ _ hd
            · intro d' hd'
              rw [Table.find?_eq_none_iff]
              intro row hrow heq
              rcases (hmem row).mp hrow with hrow | hrow
              · exact Table.find?_eq_none_iff.mp
                  (hunused d' (List.mem_cons_of_mem first hd')) row hrow heq
              · rw [hrow] at heq
                exact hnodup.1 (heq ▸ List.mem_map_of_mem hd')
            · rw [hstore]
              exact hrest

end Rows

section Errors

variable {refs : ExternalRefs} {ref : String} {taskId : TaskId}

variable {progress : TaskGraph × List String} {dependency : ImportedDependency} {e : String}

def notFound (externalRef ref : String) : String :=
  s!"Dependency \"{ref}\" for task \"{externalRef}\" not found — skipped"

def failedToCreate (externalRef ref message : String) : String :=
  s!"Failed to create dependency {externalRef} → {ref}: " ++ message

theorem wireDependency_errors (h : e ∈ progress.2) :
    e ∈ (wireDependency refs ref taskId progress dependency).2 := by
  unfold wireDependency
  split
  · exact List.mem_append_left _ h
  · split
    · exact h
    · exact List.mem_append_left _ h

theorem foldl_wireDependency_errors {dependencies : List ImportedDependency}
    (h : e ∈ progress.2) :
    e ∈ (dependencies.foldl (wireDependency refs ref taskId) progress).2 := by
  induction dependencies generalizing progress with
  | nil => exact h
  | cons dependency rest ih => exact ih (wireDependency_errors h)

theorem foldl_wireTask_errors {tasks : List ImportedTask} (h : e ∈ progress.2) :
    e ∈ (tasks.foldl (wireTask refs) progress).2 := by
  induction tasks generalizing progress with
  | nil => exact h
  | cons t rest ih =>
      apply ih
      unfold wireTask
      split
      · exact h
      · exact foldl_wireDependency_errors h

theorem foldl_wireDependency_reports {dependencies : List ImportedDependency}
    (hdependency : dependency ∈ dependencies)
    (hmissing : truthy (refs.lookup dependency.ref) = none) :
    notFound ref dependency.ref ∈
      (dependencies.foldl (wireDependency refs ref taskId) progress).2 := by
  induction dependencies generalizing progress with
  | nil => cases hdependency
  | cons first rest ih =>
      rcases List.mem_cons.mp hdependency with heq | hrest
      · rw [List.foldl_cons, ← heq]
        apply foldl_wireDependency_errors
        unfold wireDependency
        rw [hmissing]
        exact List.mem_append_right _ (List.mem_singleton_self _)
      · exact ih hrest

theorem foldl_wireTask_reports {tasks : List ImportedTask} {t : ImportedTask} (ht : t ∈ tasks)
    (hwiring : wiringTask refs t = some (ref, taskId))
    (hdependency : dependency ∈ t.dependencies)
    (hmissing : truthy (refs.lookup dependency.ref) = none) :
    notFound ref dependency.ref ∈ (tasks.foldl (wireTask refs) progress).2 := by
  induction tasks generalizing progress with
  | nil => cases ht
  | cons first rest ih =>
      rcases List.mem_cons.mp ht with heq | hrest
      · rw [List.foldl_cons, ← heq]
        apply foldl_wireTask_errors
        unfold wireTask
        rw [hwiring]
        exact foldl_wireDependency_reports hdependency hmissing
      · exact ih hrest

end Errors

end Dependencies
end CopilotFactory
