import CopilotFactory.Recovery.CrashRecoveryService

/-!
# Captured work

No step of the recovery ends it.  What is captured of the work is a list of attempts to
store a piece in the directory of the run's outputs, one after the other, and the snapshot is
the last of them.
-/

namespace CopilotFactory
namespace Recovery

open Foundations
open Artifacts
open Path

/-!
## Steps
-/

section

variable {α β : Type} {x : RecoveryCall α} {s s' : RecoveryState} {a : α} {e : String}

theorem runOn_bind_of_ok (h : x.runOn s = (.ok a, s')) (f : α -> RecoveryCall β) :
    RecoveryCall.runOn (x >>= f) s = (f a).runOn s' := by
  unfold RecoveryCall.runOn at h ⊢
  rw [ExceptT.run_bind, StateT.run_bind, h]
  rfl

theorem runOn_safeAsync_of_ok (h : x.runOn s = (.ok a, s')) (fallback : α) :
    (safeAsync x fallback).runOn s = (.ok a, s') := by
  unfold RecoveryCall.runOn safeAsync at *
  simp only [tryCatch, tryCatchThe, MonadExceptOf.tryCatch, ExceptT.tryCatch, ExceptT.run_mk]
  rw [StateT.run_bind]
  change StateT.run x s = _ at h
  rw [h]
  rfl

theorem runOn_safeAsync_of_error (h : x.runOn s = (.error e, s')) (fallback : α) :
    (safeAsync x fallback).runOn s = (.ok fallback, s') := by
  unfold RecoveryCall.runOn safeAsync at *
  simp only [tryCatch, tryCatchThe, MonadExceptOf.tryCatch, ExceptT.tryCatch, ExceptT.run_mk]
  rw [StateT.run_bind]
  change StateT.run x s = _ at h
  rw [h]
  rfl

theorem runOn_inspect (read : Except String α) (fallback : α) (s : RecoveryState) :
    (safeAsync (inspect read) fallback).runOn s = (.ok (read.toOption.getD fallback), s) := by
  cases read with
  | ok a =>
      exact runOn_safeAsync_of_ok rfl fallback
  | error message =>
      exact runOn_safeAsync_of_error rfl fallback

end

section

variable {deps : CrashRecoveryDependencies} {piece : Piece}
  {program : FileProgram ArtifactError String} {s : RecoveryState}
  {result : Except ArtifactError String} {files : FileSystem String}

theorem runOn_storeSafely
    (h : program.run deps.answers (deps.outcomes piece) s.files = (result, files)) :
    (storeSafely deps piece program).runOn s =
      (.ok result.toOption, { s with files := files }) := by
  have hstore : (store deps piece program).runOn s =
      (result.mapError ArtifactError.message, { s with files := files }) := by
    unfold store RecoveryCall.runOn
    rw [ExceptT.run_mk]
    change (((program.run deps.answers (deps.outcomes piece) s.files).1.mapError _,
      { s with files := (program.run deps.answers (deps.outcomes piece) s.files).2 }) :
        Except String String × RecoveryState) = _
    rw [h]
  unfold storeSafely
  cases result with
  | ok ref =>
      apply runOn_safeAsync_of_ok
      rw [map_eq_pure_bind]
      exact runOn_bind_of_ok hstore _
  | error e =>
      apply runOn_safeAsync_of_error
      rw [map_eq_pure_bind]
      unfold RecoveryCall.runOn at hstore ⊢
      rw [ExceptT.run_bind, StateT.run_bind, hstore]
      rfl

end

/-!
## Attempts
-/

def Piece.fileName : Piece -> String
  | .gitDiff => gitDiffFilename
  | .output filename => filename
  | .invalidResultPacket => invalidResultFilename
  | .snapshot => snapshotFilename

structure Attempt where
  piece : Piece
  content : String
  isName : IsName piece.fileName

def gitDiffAttempt (content : String) : Attempt where
  piece := .gitDiff
  content := content
  isName := isName_of_length (by decide) (by decide)

def outputAttempt (file : WorkspaceOutputFile) : Attempt where
  piece := .output file.name
  content := file.content
  isName := file.isName

def invalidResultAttempt (content : String) : Attempt where
  piece := .invalidResultPacket
  content := content
  isName := isName_of_length (by decide) (by decide)

def snapshotAttempt (content : String) : Attempt where
  piece := .snapshot
  content := content
  isName := isName_of_length (by decide) (by decide)

section

variable (deps : CrashRecoveryDependencies) (params : CrashRecoveryParams)

def artifactRef (piece : Piece) : String :=
  runOutputPath params.repoId params.taskId params.runId piece.fileName

def runOutputsPath : String :=
  join [taskBasePath params.repoId params.taskId, "runs", params.runId, "outputs"]

def outputsLocation (files : FileSystem String) : List String :=
  locate (files.locate deps.artifactRoot) (runOutputsPath params)

def outputsView (files : FileSystem String) : DirectoryView :=
  files.viewAt (outputsLocation deps params files)

def Attempt.put (attempt : Attempt) (view : DirectoryView) : Put String String :=
  putOf (deps.outcomes attempt.piece) view
    (join [deps.artifactRoot, artifactRef params attempt.piece]) attempt.piece.fileName
    attempt.content

def putsOf (view : DirectoryView) (attempts : List Attempt) : List (Put String String) :=
  attempts.map fun attempt => attempt.put deps params view

def storedRefs (view : DirectoryView) (attempts : List Attempt) : List String :=
  (attempts.filter fun attempt => (attempt.put deps params view).stored).map fun attempt =>
    artifactRef params attempt.piece

structure Stores (s s' : RecoveryState) (attempts : List Attempt) (refs : List String) :
    Prop where
  leaseRefs : s'.leaseRefs = s.leaseRefs
  shows : s.files.Shows s'.files (outputsLocation deps params s.files)
    { outputsView deps params s.files with
      held := Put.applyAll (putsOf deps params (outputsView deps params s.files) attempts)
        (outputsView deps params s.files).held }
  refs : refs = storedRefs deps params (outputsView deps params s.files) attempts

end

variable {deps : CrashRecoveryDependencies} {params : CrashRecoveryParams}
  {s s' s'' : RecoveryState} {attempts attempts' : List Attempt} {refs refs' : List String}

theorem placedIn_outputs (files : FileSystem String) {piece : Piece}
    (hname : IsName piece.fileName) :
    PlacedIn files deps.artifactRoot (artifactRef params piece)
      (outputsLocation deps params files) piece.fileName := by
  have hbase : isAbsolute (taskBasePath params.repoId params.taskId) = false :=
    isAbsolute_join_cons _ (by decide) (by decide)
  exact placedIn_join files deps.artifactRoot
    [taskBasePath params.repoId params.taskId, "runs", params.runId, "outputs"] hname
    (isAbsolute_join_cons _ (join_ne_empty _) hbase)

theorem artifactRef_injective {piece piece' : Piece} (hname : IsName piece.fileName)
    (hname' : IsName piece'.fileName) (h : artifactRef params piece = artifactRef params piece') :
    piece.fileName = piece'.fileName := by
  have hbase := basename_join
    [taskBasePath params.repoId params.taskId, "runs", params.runId, "outputs"] hname
  have hbase' := basename_join
    [taskBasePath params.repoId params.taskId, "runs", params.runId, "outputs"] hname'
  rw [← hbase, ← hbase']
  exact congrArg basename h

theorem Stores.refl (s : RecoveryState) : Stores deps params s s [] [] where
  leaseRefs := rfl
  shows := FileSystem.Shows.refl _ _
  refs := rfl

theorem outputsLocation_congr {files files' : FileSystem String} {location : List String}
    {view : DirectoryView} (h : files.Shows files' location view) :
    outputsLocation deps params files' = outputsLocation deps params files := by
  unfold outputsLocation
  rw [h.locate]

theorem Stores.view (h : Stores deps params s s' attempts refs) :
    outputsView deps params s'.files =
      { outputsView deps params s.files with
        held := Put.applyAll (putsOf deps params (outputsView deps params s.files) attempts)
          (outputsView deps params s.files).held } := by
  have hlocation := @outputsLocation_congr deps params _ _ _ _ h.shows
  have hshows := h.shows.viewAt
  rw [← hlocation] at hshows
  exact hshows

theorem Stores.storedRefs (h : Stores deps params s s' attempts refs)
    (others : List Attempt) :
    storedRefs deps params (outputsView deps params s'.files) others =
      storedRefs deps params (outputsView deps params s.files) others := by
  rw [h.view]
  rfl

theorem Stores.trans (h : Stores deps params s s' attempts refs)
    (h' : Stores deps params s' s'' attempts' refs') :
    Stores deps params s s'' (attempts ++ attempts') (refs ++ refs') := by
  have hlocation := @outputsLocation_congr deps params _ _ _ _ h.shows
  have hshows' := h'.shows
  have hrefs' := h'.refs
  rw [hlocation, h.view] at hshows'
  rw [h.storedRefs] at hrefs'
  constructor
  · exact h'.leaseRefs.trans h.leaseRefs
  · unfold putsOf
    rw [List.map_append, Put.applyAll_append]
    exact h.shows.trans hshows'
  · unfold Recovery.storedRefs
    rw [List.filter_append, List.map_append]
    exact congrArg₂ _ h.refs hrefs'

theorem runOn_attempt (attempt : Attempt) (s : RecoveryState) :
    exists ref s',
      (storeSafely deps attempt.piece (storeArtifact deps.artifactRoot
        (artifactRef params attempt.piece) attempt.content)).runOn s = (.ok ref, s') ∧
      Stores deps params s s' [attempt] ref.toList := by
  rcases @run_storeArtifact deps.answers (deps.outcomes attempt.piece) s.files _ _
    attempt.content _ _ (@placedIn_outputs deps params s.files _ attempt.isName) with
    ⟨result, files', hrun, hshows, hresult⟩
  refine ⟨result.toOption, { s with files := files' }, runOn_storeSafely hrun, rfl, hshows, ?_⟩
  change if (attempt.put deps params (outputsView deps params s.files)).stored = true
    then _ else _ at hresult
  unfold storedRefs
  cases hstored : (attempt.put deps params (outputsView deps params s.files)).stored with
  | true =>
      rw [hstored, if_pos rfl] at hresult
      simp [hresult, hstored, Except.toOption]
  | false =>
      rw [hstored, if_neg (by simp)] at hresult
      rcases hresult with ⟨e, he⟩
      simp [he, hstored, Except.toOption]

/-!
## Stages
-/

def gitDiffAttempts (deps : CrashRecoveryDependencies) (params : CrashRecoveryParams) :
    List Attempt :=
  match (deps.git.diff params.worktreePath).toOption.getD none with
  | none => []
  | some gitDiff => if gitDiff = "" then [] else [gitDiffAttempt gitDiff]

theorem runOn_captureGitDiff (s : RecoveryState) :
    exists ref s', (captureGitDiff deps params).runOn s = (.ok ref, s') ∧
      Stores deps params s s' (gitDiffAttempts deps params) ref.toList := by
  unfold captureGitDiff gitDiffAttempts
  rw [runOn_bind_of_ok (runOn_inspect _ _ s)]
  cases (deps.git.diff params.worktreePath).toOption.getD none with
  | none =>
      exact ⟨none, s, rfl, Stores.refl s⟩
  | some gitDiff =>
      dsimp only
      split
      · exact ⟨none, s, rfl, Stores.refl s⟩
      · exact runOn_attempt (gitDiffAttempt gitDiff) s

theorem runOn_captureOutputFiles (files : List WorkspaceOutputFile) (s : RecoveryState) :
    exists refs s', (captureOutputFiles deps params files).runOn s = (.ok refs, s') ∧
      Stores deps params s s' (files.map outputAttempt) refs := by
  induction files generalizing s with
  | nil =>
      exact ⟨[], s, rfl, Stores.refl s⟩
  | cons file rest ih =>
      rcases @runOn_attempt deps params (outputAttempt file) s with ⟨ref, s', hrun, hstores⟩
      rcases ih s' with ⟨refs, s'', hrest, hstores'⟩
      refine ⟨ref.toList ++ refs, s'', ?_, hstores.trans hstores'⟩
      exact (runOn_bind_of_ok hrun _).trans (runOn_bind_of_ok hrest _)

theorem runOn_captureInvalidResultPacket (content : Option String) (s : RecoveryState) :
    exists ref s', (captureInvalidResultPacket deps params content).runOn s = (.ok ref, s') ∧
      Stores deps params s s' (content.toList.map invalidResultAttempt) ref.toList := by
  cases content with
  | none =>
      exact ⟨none, s, rfl, Stores.refl s⟩
  | some content =>
      exact runOn_attempt (invalidResultAttempt content) s

/-!
## Partial work
-/

section

variable (deps : CrashRecoveryDependencies) (params : CrashRecoveryParams)
  (resultPacketContent : Option String) (view : DirectoryView)

def modifiedFiles : List String :=
  (deps.git.diffNameOnly params.worktreePath).toOption.getD []

/-- The outputs that are attempted are all that there are, or none. -/
def outputAttempts : List Attempt :=
  ((readOutputFiles deps.outputFiles params.workspacePath).toOption.getD []).map outputAttempt

def invalidResultAttempts : List Attempt :=
  resultPacketContent.toList.map invalidResultAttempt

def workAttempts : List Attempt :=
  gitDiffAttempts deps params ++ outputAttempts deps params ++
    invalidResultAttempts resultPacketContent

/-- Something is known or stored of the work. -/
def HasAnyWork : Prop :=
  modifiedFiles deps params ≠ [] ∨
    storedRefs deps params view (workAttempts deps params resultPacketContent) ≠ []

instance : Decidable (HasAnyWork deps params resultPacketContent view) :=
  inferInstanceAs (Decidable (_ ∨ _))

def snapshotOf : PartialWorkSnapshot where
  capturedAt := deps.now
  leaseId := params.leaseId
  taskId := params.taskId
  modifiedFiles := modifiedFiles deps params
  gitDiffRef := (storedRefs deps params view (gitDiffAttempts deps params)).head?
  partialOutputRefs := storedRefs deps params view (outputAttempts deps params)
  invalidResultPacketRef :=
    (storedRefs deps params view (invalidResultAttempts resultPacketContent)).head?

def attemptsOf : List Attempt :=
  workAttempts deps params resultPacketContent ++
    if HasAnyWork deps params resultPacketContent view then
      [snapshotAttempt
        (deps.stringify (snapshotOf deps params resultPacketContent view).toJson)]
    else
      []

end

def CrashRecoveryResult.snapshot? : CrashRecoveryResult -> Option PartialWorkSnapshot
  | .partialCaptured snapshot _ => some snapshot
  | .resultFound _ | .nothingCaptured => none

def CrashRecoveryResult.artifactRefs : CrashRecoveryResult -> List String
  | .partialCaptured _ artifactRefs => artifactRefs
  | .resultFound _ | .nothingCaptured => []

def recordedRefs (deps : CrashRecoveryDependencies) (params : CrashRecoveryParams)
    (leaseRefs : String -> List String) (artifactRefs : List String) :
    String -> List String :=
  match deps.leaseUpdate with
  | .ok () => Function.update leaseRefs params.leaseId artifactRefs
  | .error _ => leaseRefs

theorem runOn_update (artifactRefs : List String) (s : RecoveryState) :
    (safeAsync (updatePartialArtifactRefs deps params.leaseId artifactRefs) ()).runOn s =
      (.ok (), { s with leaseRefs := recordedRefs deps params s.leaseRefs artifactRefs }) := by
  unfold recordedRefs
  cases hupdate : deps.leaseUpdate with
  | ok u =>
      apply runOn_safeAsync_of_ok
      unfold updatePartialArtifactRefs RecoveryCall.runOn
      rw [hupdate]
      rfl
  | error message =>
      apply @runOn_safeAsync_of_error _ _ _ _ message
      unfold updatePartialArtifactRefs RecoveryCall.runOn
      rw [hupdate]
      rfl

theorem runOn_captureSnapshot (snapshot : PartialWorkSnapshot) (refs : List String)
    (s : RecoveryState) :
    exists stored files',
      (captureSnapshot deps params snapshot refs).runOn s =
        (.ok (.partialCaptured snapshot (refs ++ stored)),
          { files := files'
            leaseRefs := recordedRefs deps params s.leaseRefs (refs ++ stored) }) ∧
      Stores deps params s { s with files := files' }
        [snapshotAttempt (deps.stringify snapshot.toJson)] stored := by
  rcases @runOn_attempt deps params
    (snapshotAttempt (deps.stringify snapshot.toJson)) s with ⟨ref, s', hrun, hstores⟩
  have hs : s' = { s with files := s'.files } := by
    rw [← hstores.leaseRefs]
  refine ⟨ref.toList, s'.files, ?_, by rw [← hs]; exact hstores⟩
  rw [← hstores.leaseRefs]
  exact (runOn_bind_of_ok hrun _).trans (runOn_bind_of_ok (runOn_update _ s') _)

structure Captured (deps : CrashRecoveryDependencies) (params : CrashRecoveryParams)
    (resultPacketContent : Option String) (s : RecoveryState) (result : CrashRecoveryResult)
    (s' : RecoveryState) : Prop where
  notFound : forall data, result ≠ .resultFound data
  snapshot : result.snapshot? =
    if HasAnyWork deps params resultPacketContent (outputsView deps params s.files) then
      some (snapshotOf deps params resultPacketContent (outputsView deps params s.files))
    else
      none
  stores : Stores deps params s { s with files := s'.files }
    (attemptsOf deps params resultPacketContent (outputsView deps params s.files))
    result.artifactRefs
  leaseRefs : s'.leaseRefs =
    if HasAnyWork deps params resultPacketContent (outputsView deps params s.files) then
      recordedRefs deps params s.leaseRefs result.artifactRefs
    else
      s.leaseRefs

theorem toList_head? {refs : List String} {ref : Option String} (h : ref.toList = refs) :
    refs.head? = ref := by
  rw [← h]
  cases ref <;> rfl

theorem runOn_capturePartialWork (resultPacketContent : Option String) (s : RecoveryState) :
    exists result s',
      (capturePartialWork deps params resultPacketContent).runOn s = (.ok result, s') ∧
        Captured deps params resultPacketContent s result s' := by
  rcases @runOn_captureGitDiff deps params s with ⟨gitDiffRef, s₁, hgit, hstores₁⟩
  rcases @runOn_captureOutputFiles deps params
    ((readOutputFiles deps.outputFiles params.workspacePath).toOption.getD []) s₁ with
    ⟨outputRefs, s₂, houtputs, hstores₂⟩
  rcases @runOn_captureInvalidResultPacket deps params resultPacketContent s₂ with
    ⟨invalidRef, s₃, hinvalid, hstores₃⟩
  have hstores : Stores deps params s s₃ (workAttempts deps params resultPacketContent)
      (gitDiffRef.toList ++ outputRefs ++ invalidRef.toList) :=
    (hstores₁.trans hstores₂).trans hstores₃
  have houtputRefs : storedRefs deps params (outputsView deps params s.files)
      (outputAttempts deps params) = outputRefs := by
    rw [hstores₂.refs, hstores₁.storedRefs]
    rfl
  have hinvalidRefs : invalidRef.toList = storedRefs deps params
      (outputsView deps params s.files) (invalidResultAttempts resultPacketContent) := by
    rw [hstores₃.refs, (hstores₁.trans hstores₂).storedRefs]
    rfl
  have hsnapshot : snapshotOf deps params resultPacketContent
      (outputsView deps params s.files) =
        { capturedAt := deps.now
          leaseId := params.leaseId
          taskId := params.taskId
          modifiedFiles := modifiedFiles deps params
          gitDiffRef := gitDiffRef
          partialOutputRefs := outputRefs
          invalidResultPacketRef := invalidRef } := by
    unfold snapshotOf
    rw [toList_head? hstores₁.refs, toList_head? hinvalidRefs, houtputRefs]
  have hrun : (capturePartialWork deps params resultPacketContent).runOn s =
      RecoveryCall.runOn
        (if modifiedFiles deps params = [] ∧ gitDiffRef = none ∧ outputRefs = [] ∧
            invalidRef = none then
          pure .nothingCaptured
        else
          captureSnapshot deps params
            (snapshotOf deps params resultPacketContent (outputsView deps params s.files))
            (gitDiffRef.toList ++ outputRefs ++ invalidRef.toList)) s₃ := by
    rw [hsnapshot]
    exact (runOn_bind_of_ok (runOn_inspect _ _ s) _).trans
      ((runOn_bind_of_ok hgit _).trans
        ((runOn_bind_of_ok (runOn_inspect _ _ s₁) _).trans
          ((runOn_bind_of_ok houtputs _).trans (runOn_bind_of_ok hinvalid _))))
  have hwork : HasAnyWork deps params resultPacketContent (outputsView deps params s.files) <->
      ¬ (modifiedFiles deps params = [] ∧ gitDiffRef = none ∧ outputRefs = [] ∧
        invalidRef = none) := by
    unfold HasAnyWork
    rw [← hstores.refs, Ne, Ne, List.append_eq_nil_iff, List.append_eq_nil_iff,
      Option.toList_eq_nil_iff, Option.toList_eq_nil_iff, ← not_and_or, and_assoc]
  by_cases hany : HasAnyWork deps params resultPacketContent (outputsView deps params s.files)
  · rcases @runOn_captureSnapshot deps params
      (snapshotOf deps params resultPacketContent (outputsView deps params s.files))
      (gitDiffRef.toList ++ outputRefs ++ invalidRef.toList) s₃ with
      ⟨stored, files', hcapture, hstores₄⟩
    rw [hstores.leaseRefs] at hcapture
    refine ⟨_, _, by rw [hrun, if_neg (hwork.mp hany)]; exact hcapture, ?_, ?_, ?_, ?_⟩
    · intro data hfound
      cases hfound
    · rw [if_pos hany]
      rfl
    · have hall := hstores.trans hstores₄
      unfold attemptsOf
      rw [if_pos hany]
      exact ⟨rfl, hall.shows, hall.refs⟩
    · rw [if_pos hany]
      rfl
  · refine ⟨.nothingCaptured, s₃, ?_, nofun, ?_, ?_, ?_⟩
    · rw [hrun, if_pos (not_not.mp fun hnot => hany (hwork.mpr hnot))]
      rfl
    · rw [if_neg hany]
      rfl
    · have hempty : storedRefs deps params (outputsView deps params s.files)
          (workAttempts deps params resultPacketContent) = [] :=
        not_not.mp fun hne => hany (Or.inr hne)
      unfold attemptsOf
      rw [if_neg hany, List.append_nil]
      exact ⟨rfl, hstores.shows, hempty.symm⟩
    · rw [if_neg hany]
      exact hstores.leaseRefs

end Recovery
end CopilotFactory
