import CopilotFactory.Artifacts.ArtifactStore

/-!
# Confinement of the artifact store

Which operations of the store work on nothing outside the artifact root.  Of all of them
only the retrieval of an artifact checks its path: the others stay inside exactly if the path
that they are given does.
-/

namespace CopilotFactory
namespace Artifacts

open Foundations
open Path

variable {relativePath : String}

structure WorkingDirectory where
  location : List String
  isName : forall name, name ∈ location -> IsName name

theorem WorkingDirectory.resolved (workingDirectory : WorkingDirectory) :
    Resolved workingDirectory.location := by
  intro name hname
  have h := workingDirectory.isName name hname
  exact ⟨h.noSlash, h.ne_empty, h.ne_dot⟩

inductive Operation where
  | storeArtifact (relativePath content : String)
  | storeJSON (relativePath : String) (json : Except String String)
  | storePacket (repoId taskId packetType packetId : String) (packet : Except String String)
  | storeLog (repoId taskId runId logName content : String)
  | storeValidationResult (repoId taskId runId validationRunId : String)
      (result : Except String String)
  | storeReviewArtifact (repoId taskId reviewCycleId filename content : String)
  | storeMergeArtifact (repoId taskId filename content : String)
  | storeSummary (repoId taskId filename content : String)
  | artifactExists (relativePath : String)
  | readArtifact (relativePath : String)
  | readJSON (relativePath : String)
  | getArtifact (repoId taskId artifactRef : String)
  | getJSONArtifact (repoId taskId artifactRef : String)
  | listArtifacts (repoId taskId : String)
  | listRunArtifacts (repoId taskId runId : String)

variable {β : Type} (parse : String -> Except String β) (depth : Nat)
variable (workingDirectory : WorkingDirectory) (artifactRoot : String)

def Operation.program : Operation -> FileProgram ArtifactError Unit
  | .storeArtifact relativePath content =>
      (Artifacts.storeArtifact artifactRoot relativePath content).void
  | .storeJSON relativePath json =>
      (Artifacts.storeJSON artifactRoot relativePath json).void
  | .storePacket repoId taskId packetType packetId packet =>
      (Artifacts.storePacket artifactRoot repoId taskId packetType packetId packet).void
  | .storeLog repoId taskId runId logName content =>
      (Artifacts.storeLog artifactRoot repoId taskId runId logName content).void
  | .storeValidationResult repoId taskId runId validationRunId result =>
      (Artifacts.storeValidationResult artifactRoot repoId taskId runId validationRunId
        result).void
  | .storeReviewArtifact repoId taskId reviewCycleId filename content =>
      (Artifacts.storeReviewArtifact artifactRoot repoId taskId reviewCycleId filename
        content).void
  | .storeMergeArtifact repoId taskId filename content =>
      (Artifacts.storeMergeArtifact artifactRoot repoId taskId filename content).void
  | .storeSummary repoId taskId filename content =>
      (Artifacts.storeSummary artifactRoot repoId taskId filename content).void
  | .artifactExists relativePath =>
      (Artifacts.artifactExists artifactRoot relativePath).void
  | .readArtifact relativePath =>
      (Artifacts.readArtifact artifactRoot relativePath).void
  | .readJSON relativePath =>
      (Artifacts.readJSON parse artifactRoot relativePath).void
  | .getArtifact repoId taskId artifactRef =>
      (Artifacts.getArtifact workingDirectory.location artifactRoot repoId taskId
        artifactRef).void
  | .getJSONArtifact repoId taskId artifactRef =>
      (Artifacts.getJSONArtifact parse workingDirectory.location artifactRoot repoId taskId
        artifactRef).void
  | .listArtifacts repoId taskId =>
      (Artifacts.listArtifacts depth artifactRoot repoId taskId).void
  | .listRunArtifacts repoId taskId runId =>
      (Artifacts.listRunArtifacts depth artifactRoot repoId taskId runId).void

/-- A call works on nothing outside the root. -/
def Inside (c : FileCall) : Prop :=
  forall path, path ∈ c.paths -> LeadsInto workingDirectory.location artifactRoot path

/-- Whatever the file system answers, nothing outside the root is worked on. -/
def Confined {ε α : Type} (p : FileProgram ε α) : Prop :=
  p.OnlyCalls (Inside workingDirectory artifactRoot)

def Reachable (relativePath : String) : Prop :=
  LeadsInto workingDirectory.location artifactRoot (join [artifactRoot, relativePath])

/-- The artifact is inside the root, and so is the directory that it is in. -/
def Storable (relativePath : String) : Prop :=
  Reachable workingDirectory artifactRoot relativePath ∧
    LeadsInto workingDirectory.location artifactRoot
      (dirname (join [artifactRoot, relativePath]))

def Operation.StaysInside : Operation -> Prop
  | .storeArtifact relativePath _ => Storable workingDirectory artifactRoot relativePath
  | .storeJSON relativePath json =>
      json.isOk = true -> Storable workingDirectory artifactRoot relativePath
  | .storePacket repoId taskId packetType packetId packet =>
      packet.isOk = true ->
        Storable workingDirectory artifactRoot (packetPath repoId taskId packetType packetId)
  | .storeLog repoId taskId runId logName _ =>
      Storable workingDirectory artifactRoot (runLogPath repoId taskId runId logName)
  | .storeValidationResult repoId taskId runId validationRunId result =>
      result.isOk = true ->
        Storable workingDirectory artifactRoot
          (runValidationPath repoId taskId runId (validationRunId ++ ".json"))
  | .storeReviewArtifact repoId taskId reviewCycleId filename _ =>
      Storable workingDirectory artifactRoot
        (reviewArtifactPath repoId taskId reviewCycleId filename)
  | .storeMergeArtifact repoId taskId filename _ =>
      Storable workingDirectory artifactRoot (mergeArtifactPath repoId taskId filename)
  | .storeSummary repoId taskId filename _ =>
      Storable workingDirectory artifactRoot (summaryPath repoId taskId filename)
  | .artifactExists relativePath | .readArtifact relativePath | .readJSON relativePath =>
      Reachable workingDirectory artifactRoot relativePath
  | .getArtifact _ _ _ | .getJSONArtifact _ _ _ => True
  | .listArtifacts repoId taskId =>
      Reachable workingDirectory artifactRoot (taskBasePath repoId taskId)
  | .listRunArtifacts repoId taskId runId =>
      Reachable workingDirectory artifactRoot
        (join [taskBasePath repoId taskId, "runs", runId])

variable {parse depth workingDirectory artifactRoot}

/-!
## Writing
-/

theorem confined_cleanUp {absPath : String} {e : ArtifactError}
    (h : LeadsInto workingDirectory.location artifactRoot (tmpPath absPath)) :
    Confined workingDirectory artifactRoot (cleanUp absPath e) := by
  constructor
  · intro path hpath
    rw [List.mem_singleton.mp hpath]
    exact h
  · intro reply
    trivial

theorem Storable.tmpPath (h : Storable workingDirectory artifactRoot relativePath) :
    LeadsInto workingDirectory.location artifactRoot
      (tmpPath (join [artifactRoot, relativePath])) :=
  LeadsInto.append h.1 h.2 (join_ne_empty _) (by decide) (by decide)

theorem confined_storeArtifact_iff {content : String} :
    Confined workingDirectory artifactRoot
        (storeArtifact artifactRoot relativePath content) <->
      Storable workingDirectory artifactRoot relativePath := by
  constructor
  · intro h
    have hrename := ((h.2 (.ok ())).2 (.ok ())).1
    constructor
    · exact hrename _ (List.mem_cons_of_mem _ List.mem_cons_self)
    · exact h.1 _ List.mem_cons_self
  · intro h
    have htmp := h.tmpPath
    have hclean := fun e => confined_cleanUp (e := e) htmp
    constructor
    · intro path hpath
      rw [List.mem_singleton.mp hpath]
      exact h.2
    · intro reply
      cases reply with
      | error cause =>
          exact hclean _
      | ok _ =>
          constructor
          · intro path hpath
            rw [List.mem_singleton.mp hpath]
            exact htmp
          · intro reply
            cases reply with
            | error cause =>
                exact hclean _
            | ok _ =>
                constructor
                · intro path hpath
                  rcases List.mem_cons.mp hpath with hpath | hpath
                  · rw [hpath]
                    exact htmp
                  · rw [List.mem_singleton.mp hpath]
                    exact h.1
                · intro reply
                  cases reply with
                  | error cause =>
                      exact hclean _
                  | ok _ =>
                      trivial

theorem confined_storeJSON_iff {json : Except String String} :
    Confined workingDirectory artifactRoot (storeJSON artifactRoot relativePath json) <->
      (json.isOk = true -> Storable workingDirectory artifactRoot relativePath) := by
  cases json with
  | error message =>
      constructor
      · intro _ hok
        cases hok
      · intro _
        trivial
  | ok text =>
      constructor
      · intro h _
        exact confined_storeArtifact_iff.mp h
      · intro h
        exact confined_storeArtifact_iff.mpr (h rfl)

/-!
## Reading
-/

theorem inside_iff {c : FileCall} {path : String} (h : c.paths = [path]) :
    Inside workingDirectory artifactRoot c <->
      LeadsInto workingDirectory.location artifactRoot path := by
  unfold Inside
  rw [h]
  simp

theorem confined_artifactExists_iff :
    Confined workingDirectory artifactRoot (artifactExists artifactRoot relativePath) <->
      Reachable workingDirectory artifactRoot relativePath := by
  constructor
  · intro h
    exact (inside_iff rfl).mp h.1
  · intro h
    constructor
    · exact (inside_iff rfl).mpr h
    · intro reply
      cases reply <;> trivial

theorem confined_readIfThere_iff {absPath : String} :
    Confined workingDirectory artifactRoot (readIfThere absPath relativePath) <->
      LeadsInto workingDirectory.location artifactRoot absPath := by
  unfold Confined readIfThere
  rw [FileProgram.onlyCalls_perform_bind, inside_iff rfl, and_iff_left_iff_imp]
  intro h fileExists
  split
  · rw [FileProgram.onlyCalls_perform_bind, inside_iff rfl]
    exact ⟨h, fun content => trivial⟩
  · trivial

theorem confined_readArtifact_iff :
    Confined workingDirectory artifactRoot (readArtifact artifactRoot relativePath) <->
      Reachable workingDirectory artifactRoot relativePath := by
  constructor
  · intro h
    exact confined_readIfThere_iff.mp (FileProgram.OnlyCalls.of_bind h)
  · intro h
    apply FileProgram.OnlyCalls.bind (confined_readIfThere_iff.mpr h)
    intro content
    cases content <;> trivial

theorem confined_readJSON_iff :
    Confined workingDirectory artifactRoot (readJSON parse artifactRoot relativePath) <->
      Reachable workingDirectory artifactRoot relativePath := by
  constructor
  · intro h
    exact confined_readArtifact_iff.mp (FileProgram.OnlyCalls.of_bind h)
  · intro h
    exact FileProgram.OnlyCalls.bind (confined_readArtifact_iff.mpr h) (fun _ => trivial)

theorem isAbsolute_taskBasePath (repoId taskId : String) :
    isAbsolute (taskBasePath repoId taskId) = false :=
  isAbsolute_join_cons _ (by decide) (by decide)

theorem isAbsolute_below (repoId taskId : String) (rest : List String) :
    isAbsolute (join (taskBasePath repoId taskId :: rest)) = false :=
  isAbsolute_join_cons _ (join_ne_empty _) (isAbsolute_taskBasePath repoId taskId)

/-- A relative path that passes the check does not leave the root. -/
theorem reachable_of_validatePath (hrelative : isAbsolute relativePath = false)
    (h : validatePath workingDirectory.location artifactRoot relativePath = true) :
    Reachable workingDirectory artifactRoot relativePath := by
  have hroot : Resolved (locate workingDirectory.location artifactRoot) :=
    locate_resolved workingDirectory.resolved artifactRoot
  have hlocation : resolveFrom workingDirectory.location [artifactRoot, normalize relativePath] =
      locate (locate workingDirectory.location artifactRoot) relativePath :=
    locate_normalize _ relativePath
  have hone : resolveFrom workingDirectory.location [artifactRoot] =
      locate workingDirectory.location artifactRoot :=
    rfl
  unfold Reachable LeadsInto
  rw [locate_join_relative hrelative]
  unfold validatePath resolvePath at h
  dsimp only at h
  rw [hlocation, hone, Bool.or_eq_true] at h
  rcases h with h | h
  · exact prefix_of_render hroot (locate_resolved hroot relativePath)
      (List.isPrefixOf_iff_prefix.mp h)
  · rw [beq_iff_eq] at h
    have heq := render_injective (locate_resolved hroot relativePath) hroot h
    exact ⟨[], by rw [List.append_nil, heq]⟩

theorem confined_getArtifact (repoId taskId artifactRef : String) :
    Confined workingDirectory artifactRoot
      (getArtifact workingDirectory.location artifactRoot repoId taskId artifactRef) := by
  unfold getArtifact
  dsimp only
  split
  · rename_i hvalid
    exact confined_readIfThere_iff.mpr
      (reachable_of_validatePath (isAbsolute_below repoId taskId [artifactRef]) hvalid)
  · trivial

theorem confined_getJSONArtifact (repoId taskId artifactRef : String) :
    Confined workingDirectory artifactRoot
      (getJSONArtifact parse workingDirectory.location artifactRoot repoId taskId
        artifactRef) := by
  apply FileProgram.OnlyCalls.bind (confined_getArtifact repoId taskId artifactRef)
  intro content
  cases content <;> trivial

/-!
## Listing
-/

theorem leadsInto_entry {absDir : String} (entry : DirEntry)
    (h : LeadsInto workingDirectory.location artifactRoot absDir) :
    LeadsInto workingDirectory.location artifactRoot (join [absDir, entry.name]) := by
  have hnames : forall name, name ∈ [entry.name] -> IsName name := by
    intro name hname
    rw [List.mem_singleton.mp hname]
    exact entry.isName
  unfold LeadsInto
  rw [locate_join hnames]
  exact h.trans (List.prefix_append _ _)

theorem confined_walkDirectory {absDir relativeBase : String}
    (h : LeadsInto workingDirectory.location artifactRoot absDir) :
    Confined workingDirectory artifactRoot (walkDirectory depth absDir relativeBase) := by
  induction depth generalizing absDir relativeBase with
  | zero =>
      trivial
  | succ depth ih =>
      constructor
      · exact (inside_iff rfl).mpr h
      · intro reply
        cases reply with
        | error message =>
            trivial
        | ok entries =>
            apply FileProgram.onlyCalls_foldlM
            intro results entry _
            split
            · apply FileProgram.OnlyCalls.bind (ih (leadsInto_entry entry h))
              intro children
              trivial
            · trivial

theorem confined_listBelow_iff {basePath : String} :
    Confined workingDirectory artifactRoot (listBelow depth artifactRoot basePath) <->
      Reachable workingDirectory artifactRoot basePath := by
  unfold Confined listBelow Reachable
  rw [FileProgram.onlyCalls_perform_bind, inside_iff rfl, and_iff_left_iff_imp]
  intro h dirExists
  split
  · exact FileProgram.OnlyCalls.mapError (confined_walkDirectory h)
  · trivial

/-!
## All operations
-/

/-- An operation is confined to the root exactly if its arguments do not lead out of it. -/
theorem confined_iff_staysInside {β : Type} (parse : String -> Except String β) (depth : Nat)
    (workingDirectory : WorkingDirectory) (artifactRoot : String) (op : Operation) :
    Confined workingDirectory artifactRoot
        (op.program parse depth workingDirectory artifactRoot) <->
      op.StaysInside workingDirectory artifactRoot := by
  cases op with
  | storeArtifact relativePath content =>
      exact FileProgram.onlyCalls_void.trans confined_storeArtifact_iff
  | storeJSON relativePath json =>
      exact FileProgram.onlyCalls_void.trans confined_storeJSON_iff
  | storePacket repoId taskId packetType packetId packet =>
      exact FileProgram.onlyCalls_void.trans confined_storeJSON_iff
  | storeLog repoId taskId runId logName content =>
      exact FileProgram.onlyCalls_void.trans confined_storeArtifact_iff
  | storeValidationResult repoId taskId runId validationRunId result =>
      exact FileProgram.onlyCalls_void.trans confined_storeJSON_iff
  | storeReviewArtifact repoId taskId reviewCycleId filename content =>
      exact FileProgram.onlyCalls_void.trans confined_storeArtifact_iff
  | storeMergeArtifact repoId taskId filename content =>
      exact FileProgram.onlyCalls_void.trans confined_storeArtifact_iff
  | storeSummary repoId taskId filename content =>
      exact FileProgram.onlyCalls_void.trans confined_storeArtifact_iff
  | artifactExists relativePath =>
      exact FileProgram.onlyCalls_void.trans confined_artifactExists_iff
  | readArtifact relativePath =>
      exact FileProgram.onlyCalls_void.trans confined_readArtifact_iff
  | readJSON relativePath =>
      exact FileProgram.onlyCalls_void.trans confined_readJSON_iff
  | getArtifact repoId taskId artifactRef =>
      exact iff_of_true
        (FileProgram.onlyCalls_void.mpr (confined_getArtifact repoId taskId artifactRef))
        trivial
  | getJSONArtifact repoId taskId artifactRef =>
      exact iff_of_true
        (FileProgram.onlyCalls_void.mpr (confined_getJSONArtifact repoId taskId artifactRef))
        trivial
  | listArtifacts repoId taskId =>
      exact FileProgram.onlyCalls_void.trans confined_listBelow_iff
  | listRunArtifacts repoId taskId runId =>
      exact FileProgram.onlyCalls_void.trans confined_listBelow_iff

/-- A relative path that leads up from the root is looked at all the same. -/
theorem sibling_of_root_looked_at :
    ¬ Confined ⟨[], fun _ hname => absurd hname List.not_mem_nil⟩ "/artifacts"
      ((Operation.artifactExists "../secret").program (fun text => .ok text) 8
        ⟨[], fun _ hname => absurd hname List.not_mem_nil⟩ "/artifacts") := by
  rw [confined_iff_staysInside]
  unfold Operation.StaysInside Reachable LeadsInto
  dsimp only
  rw [locate_join_relative (by decide)]
  unfold locate
  decide

end Artifacts
end CopilotFactory
