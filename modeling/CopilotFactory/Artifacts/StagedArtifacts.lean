import CopilotFactory.Artifacts.ArtifactStore
import CopilotFactory.Foundations.FileRuns
import CopilotFactory.Foundations.StagedFiles

/-!
# Staged artifacts

What one call of the store does to the directory of the artifact, whichever of its calls of
the file system fail: it puts a file in place, or leaves something in the temporary file.
-/

namespace CopilotFactory
namespace Artifacts

open Foundations
open Path

/-- The files that a call of the store works on are in one directory. -/
structure PlacedIn (files : FileSystem String) (artifactRoot relativePath : String)
    (location : List String) (name : String) : Prop where
  parent : files.locate (dirname (join [artifactRoot, relativePath])) = location
  artifact : files.locate (join [artifactRoot, relativePath]) = location ++ [name]
  temporary : files.locate (tmpPath (join [artifactRoot, relativePath])) =
    location ++ [name ++ ".tmp"]

theorem placedIn_join (files : FileSystem String) (artifactRoot : String)
    (others : List String) {name : String} (hname : IsName name)
    (habsolute : isAbsolute (join (others ++ [name])) = false) :
    PlacedIn files artifactRoot (join (others ++ [name]))
      (locate (files.locate artifactRoot) (join others)) name := by
  have hartifact : files.locate (join [artifactRoot, join (others ++ [name])]) =
      locate (files.locate artifactRoot) (join others) ++ [name] := by
    unfold FileSystem.locate
    rw [locate_join_relative habsolute, locate_join_concat others hname]
  have hlast : components name = [] ++ [name] := components_of_noSlash hname.noSlash
  rcases exists_components_join others hlast hname with ⟨before, hbefore⟩
  have hparent := locate_dirname_join [artifactRoot] hbefore hname hartifact
  rcases exists_components_join [artifactRoot] hbefore hname with ⟨front, hfront⟩
  rcases @locate_append files.workingDirectory _ ".tmp"
    (join_ne_empty [artifactRoot, join (others ++ [name])]) (by decide) (by decide) with
    ⟨front', last, hcomponents, htemporary⟩
  have hsame : last = name := by
    have hends : front' ++ [last] = front ++ [name] := hcomponents.symm.trans hfront
    exact List.singleton_inj.mp (List.append_inj_right' hends rfl)
  have happroach : approach files.workingDirectory
      (join [artifactRoot, join (others ++ [name])]) =
        locate (files.locate artifactRoot) (join others) :=
    (locate_dirname hfront hname.ne_empty).symm.trans hparent
  rw [hsame, happroach] at htemporary
  exact ⟨hparent, hartifact, htemporary⟩

theorem tmp_ne (name : String) : name ++ ".tmp" ≠ name := by
  intro h
  have hlength := congrArg String.length h
  rw [String.length_append] at hlength
  have htmp : ".tmp".length = 4 := by
    decide
  omega

def putOf (outcomes : FileCall -> CallOutcome) (view : DirectoryView)
    (absPath name content : String) : Put String String where
  name := name
  temporary := name ++ ".tmp"
  content := content
  stored :=
    view.passable ∧ view.blocked (name ++ ".tmp") = false ∧ view.blocked name = false ∧
      outcomes (.mkdir (dirname absPath)) = .succeeds ∧
      outcomes (.writeFile (tmpPath absPath) content) = .succeeds ∧
      outcomes (.rename (tmpPath absPath) absPath) = .succeeds
  left held :=
    if outcomes (.unlink (tmpPath absPath)) = .succeeds then
      none
    else if view.passable ∧ view.blocked (name ++ ".tmp") = false ∧
        outcomes (.mkdir (dirname absPath)) = .succeeds then
      FileCall.written (outcomes (.writeFile (tmpPath absPath) content)) content held
    else
      held
  temporary_ne_name := tmp_ne name

variable {answers : Answers} {outcomes : FileCall -> CallOutcome} {files : FileSystem String}
  {artifactRoot relativePath content name : String} {location : List String}

theorem run_cleanUp (h : PlacedIn files artifactRoot relativePath location name)
    (e : ArtifactError) :
    exists files',
      (cleanUp (join [artifactRoot, relativePath]) e).run answers outcomes files =
        (.error e, files') ∧
      files.Shows files' location
        ((files.viewAt location).set (name ++ ".tmp")
          (if outcomes (.unlink (tmpPath (join [artifactRoot, relativePath]))) = .succeeds then
            none
          else
            (files.viewAt location).held (name ++ ".tmp"))) := by
  rcases @FileCall.run_unlink answers
    (outcomes (.unlink (tmpPath (join [artifactRoot, relativePath])))) files location _ _
    h.temporary with ⟨result, files', hrun, hshows⟩
  refine ⟨files', ?_, hshows⟩
  unfold cleanUp
  rw [FileProgram.run, hrun]
  rfl

theorem PlacedIn.shows {files' : FileSystem String} {view : DirectoryView}
    (h : PlacedIn files artifactRoot relativePath location name)
    (hshows : files.Shows files' location view) :
    PlacedIn files' artifactRoot relativePath location name where
  parent := (hshows.locate _).trans h.parent
  artifact := (hshows.locate _).trans h.artifact
  temporary := (hshows.locate _).trans h.temporary

def afterPut (view : DirectoryView) (put : Put String String) : DirectoryView :=
  { view with held := put.apply view.held }

theorem afterPut_of_failed {view : DirectoryView} {put : Put String String}
    (h : put.stored = false) :
    afterPut view put = view.set put.temporary (put.left (view.held put.temporary)) := by
  unfold afterPut
  rw [Put.apply_of_failed h]
  rfl

theorem afterPut_of_stored {view : DirectoryView} {put : Put String String}
    (h : put.stored = true) :
    afterPut view put = (view.set put.temporary none).set put.name (some put.content) := by
  unfold afterPut
  rw [Put.apply_of_stored h]
  rfl

theorem set_set (view : DirectoryView) (name : String) (held held' : Option String) :
    (view.set name held).set name held' = view.set name held' := by
  unfold DirectoryView.set
  rw [Function.update_idem]

theorem held_set (view : DirectoryView) (name : String) (held : Option String) :
    (view.set name held).held name = held :=
  Function.update_self _ _ _

/-- A call of the store puts the artifact in place or fails, and of the directory it changes
only what the put changes. -/
theorem run_storeArtifact (h : PlacedIn files artifactRoot relativePath location name) :
    exists result files',
      (storeArtifact artifactRoot relativePath content).run answers outcomes files =
        (result, files') ∧
      files.Shows files' location (afterPut (files.viewAt location)
        (putOf outcomes (files.viewAt location) (join [artifactRoot, relativePath]) name
          content)) ∧
      if (putOf outcomes (files.viewAt location) (join [artifactRoot, relativePath]) name
          content).stored = true then
        result = .ok relativePath
      else
        exists e, result = .error e := by
  generalize hput : putOf outcomes (files.viewAt location) (join [artifactRoot, relativePath])
    name content = put
  have hstored : put.stored = true <->
      (files.viewAt location).passable = true ∧
        (files.viewAt location).blocked (name ++ ".tmp") = false ∧
        (files.viewAt location).blocked name = false ∧
        outcomes (.mkdir (dirname (join [artifactRoot, relativePath]))) = .succeeds ∧
        outcomes (.writeFile (tmpPath (join [artifactRoot, relativePath])) content) =
          .succeeds ∧
        outcomes (.rename (tmpPath (join [artifactRoot, relativePath]))
          (join [artifactRoot, relativePath])) = .succeeds := by
    rw [← hput]
    simp [putOf]
  -- Whatever has been written, the temporary file is removed if that goes well.
  have hfailed : forall files' held e, put.stored = false ->
      files.Shows files' location ((files.viewAt location).set (name ++ ".tmp") held) ->
      put.left ((files.viewAt location).held (name ++ ".tmp")) =
        (if outcomes (.unlink (tmpPath (join [artifactRoot, relativePath]))) = .succeeds then
          none
        else
          held) ->
      exists result files'',
        (cleanUp (join [artifactRoot, relativePath]) e).run answers outcomes files' =
          (result, files'') ∧
        files.Shows files'' location (afterPut (files.viewAt location) put) ∧
        if put.stored = true then result = .ok relativePath else exists e, result = .error e := by
    intro files' held e hnot hshows hleft
    rcases run_cleanUp (h.shows hshows) e with ⟨files'', hrun, hshows'⟩
    refine ⟨.error e, files'', hrun, ?_, by rw [if_neg (by simp [hnot])]; exact ⟨e, rfl⟩⟩
    have htemporary : put.temporary = name ++ ".tmp" := by
      rw [← hput]
      rfl
    rw [hshows.viewAt, held_set, set_set, ← hleft] at hshows'
    rw [afterPut_of_failed hnot, htemporary]
    exact hshows.trans hshows'
  rcases @FileCall.run_mkdir answers
    (outcomes (.mkdir (dirname (join [artifactRoot, relativePath])))) files location _
    h.parent with ⟨made, files₁, hmkdir, hshows₁, hmade⟩
  have hsame₁ : files.Shows files₁ location ((files.viewAt location).set (name ++ ".tmp")
      ((files.viewAt location).held (name ++ ".tmp"))) := by
    rw [FileSystem.set_self rfl]
    exact hshows₁
  unfold storeArtifact
  rw [FileProgram.run, hmkdir]
  dsimp only
  by_cases hmkdirs : outcomes (.mkdir (dirname (join [artifactRoot, relativePath]))) = .succeeds ∧
      (files.viewAt location).passable = true
  · rw [if_pos hmkdirs] at hmade
    rw [hmade.1]
    dsimp only
    unfold writeTmp
    rw [FileProgram.run]
    rcases @FileCall.run_writeFile answers
      (outcomes (.writeFile (tmpPath (join [artifactRoot, relativePath])) content)) files₁
      location _ _ content (h.shows hshows₁).temporary hmade.2 with
      ⟨wrote, files₂, hwrite, hdirectory, hwritten⟩
    rw [hwrite]
    dsimp only
    rw [hshows₁.viewAt] at hwritten
    cases hblocked : (files.viewAt location).blocked (name ++ ".tmp") with
    | true =>
        rw [if_pos hblocked] at hwritten
        rcases hwritten with ⟨hshows₂, message, hmessage⟩
        rw [hmessage]
        apply hfailed files₂ ((files.viewAt location).held (name ++ ".tmp"))
        · simp [← Bool.not_eq_true, hstored, hblocked]
        · rw [FileSystem.set_self rfl]
          exact hshows₁.trans hshows₂
        · rw [← hput]
          simp [putOf, hblocked]
    | false =>
        rw [if_neg (by simp [hblocked])] at hwritten
        rcases hwritten with ⟨hshows₂, hwritten⟩
        have hshows₂' := hshows₁.trans hshows₂
        by_cases hwrites :
            outcomes (.writeFile (tmpPath (join [artifactRoot, relativePath])) content) =
              .succeeds
        · rw [if_pos hwrites] at hwritten
          rw [hwritten]
          dsimp only
          have hheld : (files₂.viewAt location).held (name ++ ".tmp") = some content := by
            rw [hshows₂.viewAt, held_set, hwrites]
            rfl
          have hplaced := h.shows hshows₂'
          unfold renameTmp
          rw [FileProgram.run]
          rcases @FileCall.run_rename answers
            (outcomes (.rename (tmpPath (join [artifactRoot, relativePath]))
              (join [artifactRoot, relativePath]))) files₂ location _ _ content _ name
            hplaced.temporary hplaced.artifact hdirectory hheld with
            ⟨renamed, files₃, hrename, hrenamed⟩
          rw [hrename]
          dsimp only
          have hfree : (files₂.viewAt location).blocked name =
              (files.viewAt location).blocked name := by
            rw [hshows₂.viewAt]
            rfl
          rw [hfree] at hrenamed
          by_cases hrenames : outcomes (.rename (tmpPath (join [artifactRoot, relativePath]))
              (join [artifactRoot, relativePath])) = .succeeds ∧
                (files.viewAt location).blocked name = false
          · rw [if_pos hrenames] at hrenamed
            rcases hrenamed with ⟨hok, hshows₃⟩
            have hall : put.stored = true := hstored.mpr
              ⟨hmkdirs.2, hblocked, hrenames.2, hmkdirs.1, hwrites, hrenames.1⟩
            rw [hok]
            refine ⟨.ok relativePath, files₃, rfl, ?_, by rw [if_pos hall]⟩
            rw [hshows₂.viewAt, set_set] at hshows₃
            rw [afterPut_of_stored hall, ← hput]
            exact hshows₂'.trans hshows₃
          · rw [if_neg hrenames] at hrenamed
            rcases hrenamed with ⟨⟨message, hmessage⟩, hshows₃⟩
            rw [hmessage]
            apply hfailed files₃ (some content)
            · rw [← Bool.not_eq_true, hstored]
              rintro ⟨_, _, hname, _, _, houtcome⟩
              exact hrenames ⟨houtcome, hname⟩
            · have hshows₃' := hshows₂'.trans hshows₃
              rw [hshows₂.viewAt, hwrites] at hshows₃'
              exact hshows₃'
            · rw [← hput]
              simp [putOf, hblocked, hmkdirs, hwrites, FileCall.written]
        · rw [if_neg hwrites] at hwritten
          rcases hwritten with ⟨message, hmessage⟩
          rw [hmessage]
          apply hfailed files₂ _ _ _ hshows₂'
          · rw [← hput]
            simp [putOf, hblocked, hmkdirs]
          · simp [← Bool.not_eq_true, hstored, hwrites]
  · rw [if_neg hmkdirs] at hmade
    rcases hmade with ⟨message, hmessage⟩
    rw [hmessage]
    apply hfailed files₁ _ _ _ hsame₁
    · rw [← hput]
      have hnot : ¬ ((files.viewAt location).passable = true ∧
          (files.viewAt location).blocked (name ++ ".tmp") = false ∧
          outcomes (.mkdir (dirname (join [artifactRoot, relativePath]))) = .succeeds) :=
        fun hall => hmkdirs ⟨hall.2.2, hall.1⟩
      simp [putOf, hnot]
    · rw [← Bool.not_eq_true, hstored]
      rintro ⟨hpassable, _, _, houtcome, _⟩
      exact hmkdirs ⟨houtcome, hpassable⟩

end Artifacts
end CopilotFactory
