import Mathlib.Data.Fintype.Basic
import CopilotFactory.Artifacts.ArtifactStore
import CopilotFactory.Foundations.SharedFiles

/-!
# Concurrent writes of one artifact

All calls that store an artifact write the same temporary file and then rename it.  The
artifact is whole at every moment, and what is stored is what the call was given, as long as
no call writes or removes the temporary file while another one is about to rename it.
-/

namespace CopilotFactory
namespace Artifacts

open Foundations
open Path

def waitsToRename : FileProgram ArtifactError String -> Bool
  | .call (.rename _ _) _ => true
  | _ => false

def worksOnTmp : FileProgram ArtifactError String -> Bool
  | .call (.writeFile _ _) _ | .call (.unlink _) _ => true
  | _ => false

def returned : FileProgram ArtifactError String -> Bool
  | .done (.ok _) => true
  | _ => false

inductive Underway (artifactRoot relativePath content : String) :
    FileProgram ArtifactError String -> Prop where
  | start : Underway _ _ _ (storeArtifact artifactRoot relativePath content)
  | toWrite :
      Underway _ _ _ (writeTmp (join [artifactRoot, relativePath]) relativePath content)
  | toRename : Underway _ _ _ (renameTmp (join [artifactRoot, relativePath]) relativePath)
  | toCleanUp (e : ArtifactError) :
      Underway _ _ _ (cleanUp (join [artifactRoot, relativePath]) e)
  | stored : Underway _ _ _ (.done (.ok relativePath))
  | failed (e : ArtifactError) : Underway _ _ _ (.done (.error e))

abbrev Writers (ι : Type) : Type :=
  Sharing ι ArtifactError String

variable {ι : Type} [DecidableEq ι] (answers : Answers)
variable (artifactRoot relativePath : String) (contents : ι -> String)

def startWrites (files : FileSystem String) : Writers ι where
  files := files
  programs i := storeArtifact artifactRoot relativePath (contents i)

def finalContent (s : Writers ι) : Option String :=
  s.files.content (join [artifactRoot, relativePath])

def tmpContent (s : Writers ι) : Option String :=
  s.files.content (tmpPath (join [artifactRoot, relativePath]))

structure KeepsWrites (s : Writers ι) (turn : Turn ι) (s' : Writers ι) : Prop where
  /-- A call that returns has put its own content in place. -/
  own : returned (s'.programs turn.program) = true ->
    finalContent artifactRoot relativePath s' = some (contents turn.program)
  /-- A call that does not return leaves the artifact alone. -/
  others : returned (s'.programs turn.program) = false ->
    finalContent artifactRoot relativePath s' = finalContent artifactRoot relativePath s
  /-- What another call has written is still there for it to be renamed. -/
  written : forall j, j ≠ turn.program -> waitsToRename (s.programs j) = true ->
    tmpContent artifactRoot relativePath s = some (contents j) ->
      tmpContent artifactRoot relativePath s' = some (contents j)

/-- The artifact holds what it did before or all of what a call was given. -/
def HoldsWhole (files : FileSystem String) (s : Writers ι) : Prop :=
  finalContent artifactRoot relativePath s =
      files.content (join [artifactRoot, relativePath]) ∨
    exists i, finalContent artifactRoot relativePath s = some (contents i)

/-- The artifact is whole at every moment, and every turn leaves things as they should be. -/
def AtomicWrites (files : FileSystem String) (turns : List (Turn ι)) : Prop :=
  (forall s, s ∈ (Sharing.system answers).states
      (startWrites artifactRoot relativePath contents files) turns ->
    HoldsWhole artifactRoot relativePath contents files s) ∧
  forall x, x ∈ (Sharing.system answers).arrivals
      (startWrites artifactRoot relativePath contents files) turns ->
    forall s', (Sharing.system answers).step x.1 x.2 = .ok s' ->
      KeepsWrites artifactRoot relativePath contents x.1 x.2 s'

/-- No call writes or removes the temporary file while another one is about to rename it. -/
def Undisturbed (s : Writers ι) (turn : Turn ι) : Prop :=
  worksOnTmp (s.programs turn.program) = true ->
    forall j, j ≠ turn.program -> waitsToRename (s.programs j) = false

/-- Every call is underway, and at most one of them is about to rename what it has
written. -/
structure Orderly (files : FileSystem String) (s : Writers ι) : Prop where
  workingDirectory : s.files.workingDirectory = files.workingDirectory
  underway : forall i, Underway artifactRoot relativePath (contents i) (s.programs i)
  written : forall i, waitsToRename (s.programs i) = true ->
    tmpContent artifactRoot relativePath s = some (contents i)
  alone : forall i j, waitsToRename (s.programs i) = true ->
    waitsToRename (s.programs j) = true -> i = j

instance [Fintype ι] (s : Writers ι) (turn : Turn ι) : Decidable (Undisturbed s turn) :=
  inferInstanceAs (Decidable (_ -> _))

variable {answers artifactRoot relativePath contents}
variable {files : FileSystem String} {s s' : Writers ι} {turn : Turn ι}

omit [DecidableEq ι] in
theorem orderly_start :
    Orderly artifactRoot relativePath contents files
      (startWrites artifactRoot relativePath contents files) where
  workingDirectory := rfl
  underway _ := .start
  written _ h := by cases h
  alone _ _ h := by cases h

theorem tmp_ne_final (files : FileSystem String) (artifactRoot relativePath : String) :
    files.locate (tmpPath (join [artifactRoot, relativePath])) ≠
      files.locate (join [artifactRoot, relativePath]) :=
  locate_append_ne (join_ne_empty _) (by decide) (by decide)

theorem orderly_of_update {p : FileProgram ArtifactError String}
    (hs : Orderly artifactRoot relativePath contents files s)
    (hprograms : s'.programs = Function.update s.programs turn.program p)
    (hunderway : Underway artifactRoot relativePath (contents turn.program) p)
    (hdirectory : s'.files.workingDirectory = s.files.workingDirectory)
    (hwaits : waitsToRename p = true ->
      tmpContent artifactRoot relativePath s' = some (contents turn.program) ∧
        forall j, j ≠ turn.program -> waitsToRename (s.programs j) = false)
    (hothers : forall j, j ≠ turn.program -> waitsToRename (s.programs j) = true ->
      tmpContent artifactRoot relativePath s' = tmpContent artifactRoot relativePath s)
    (hfinal : if returned p = true then
        finalContent artifactRoot relativePath s' = some (contents turn.program)
      else
        finalContent artifactRoot relativePath s' = finalContent artifactRoot relativePath s) :
    Orderly artifactRoot relativePath contents files s' ∧
      KeepsWrites artifactRoot relativePath contents s turn s' := by
  have hself : s'.programs turn.program = p := by
    rw [hprograms, Function.update_self]
  have hother : forall j, j ≠ turn.program -> s'.programs j = s.programs j := by
    intro j hj
    rw [hprograms, Function.update_of_ne hj]
  constructor
  · constructor
    · exact hdirectory.trans hs.workingDirectory
    · intro j
      by_cases hj : j = turn.program
      · rw [hj, hself]
        exact hunderway
      · rw [hother j hj]
        exact hs.underway j
    · intro j hj
      by_cases hturn : j = turn.program
      · rw [hturn, hself] at hj
        rw [hturn]
        exact (hwaits hj).1
      · rw [hother j hturn] at hj
        rw [hothers j hturn hj]
        exact hs.written j hj
    · intro i j hi hj
      by_cases hi' : i = turn.program
      · by_cases hj' : j = turn.program
        · rw [hi', hj']
        · rw [hi', hself] at hi
          rw [hother j hj', (hwaits hi).2 j hj'] at hj
          cases hj
      · rw [hother i hi'] at hi
        by_cases hj' : j = turn.program
        · rw [hj', hself] at hj
          rw [(hwaits hj).2 i hi'] at hi
          cases hi
        · rw [hother j hj'] at hj
          exact hs.alone i j hi hj
  · constructor
    · intro hreturned
      rw [hself] at hreturned
      rwa [if_pos hreturned] at hfinal
    · intro hreturned
      rw [hself] at hreturned
      rwa [if_neg (by simp [hreturned])] at hfinal
    · intro j hj hwait hwritten
      rw [hothers j hj hwait]
      exact hwritten

/-- A turn that leaves the files alone, or changes none but the temporary file, and takes
its program to a point where it neither has returned nor is about to rename. -/
theorem orderly_of_quiet {p : FileProgram ArtifactError String}
    (hs : Orderly artifactRoot relativePath contents files s)
    (hprograms : s'.programs = Function.update s.programs turn.program p)
    (hunderway : Underway artifactRoot relativePath (contents turn.program) p)
    (hwaits : waitsToRename p = false) (hreturned : returned p = false)
    (hfinal : FileSystem.SameContent s.files s'.files (join [artifactRoot, relativePath]))
    (hothers : forall j, j ≠ turn.program -> waitsToRename (s.programs j) = true ->
      tmpContent artifactRoot relativePath s' = tmpContent artifactRoot relativePath s) :
    Orderly artifactRoot relativePath contents files s' ∧
      KeepsWrites artifactRoot relativePath contents s turn s' := by
  apply orderly_of_update hs hprograms hunderway hfinal.workingDirectory
  · intro h
    rw [hwaits] at h
    cases h
  · exact hothers
  · rw [if_neg (by simp [hreturned])]
    exact hfinal.content

omit [DecidableEq ι] in
theorem tmpContent_of_alone
    (h : forall j, j ≠ turn.program -> waitsToRename (s.programs j) = false) :
    forall j, j ≠ turn.program -> waitsToRename (s.programs j) = true ->
      tmpContent artifactRoot relativePath s' = tmpContent artifactRoot relativePath s := by
  intro j hj hwait
  rw [h j hj] at hwait
  cases hwait

theorem orderly_takeTurn (hs : Orderly artifactRoot relativePath contents files s)
    (hturn : Undisturbed s turn) (h : s.takeTurn answers turn = .ok s') :
    Orderly artifactRoot relativePath contents files s' ∧
      KeepsWrites artifactRoot relativePath contents s turn s' := by
  have hne := tmp_ne_final s.files artifactRoot relativePath
  rcases Sharing.takeTurn_cases h with ⟨c, next, hprogram, hdone⟩
  have hunderway := hs.underway turn.program
  unfold Undisturbed at hturn
  rw [hprogram] at hunderway hturn
  cases hunderway with
  | start =>
      rcases hdone with ⟨reply, happly, hprograms⟩ | ⟨message, left, hleft, hprograms⟩
      · have hsame : forall other, FileSystem.SameContent s.files s'.files other :=
          FileSystem.sameContent_mkdir (FileCall.of_apply happly)
        apply orderly_of_quiet hs hprograms .toWrite rfl rfl (hsame _)
        intro j _ _
        exact (hsame _).content
      · have hsame : forall other, FileSystem.SameContent s.files s'.files other := by
          intro other
          rw [hleft]
          exact FileCall.sameContent_aftermath left (by simp)
        apply orderly_of_quiet hs hprograms (.toCleanUp _) rfl rfl (hsame _)
        intro j _ _
        exact (hsame _).content
  | toWrite =>
      have halone := hturn rfl
      rcases hdone with ⟨reply, happly, hprograms⟩ | ⟨message, left, hleft, hprograms⟩
      · have hmade := FileCall.of_apply happly
        have hfinal := FileSystem.sameContent_writeFile hmade hne.symm
        apply orderly_of_update hs hprograms .toRename hfinal.workingDirectory
        · intro _
          exact ⟨FileSystem.content_writeFile hmade, halone⟩
        · exact tmpContent_of_alone halone
        · exact hfinal.content
      · apply orderly_of_quiet hs hprograms (.toCleanUp _) rfl rfl
        · rw [hleft]
          apply FileCall.sameContent_aftermath left
          intro path text hcall
          cases hcall
          exact hne.symm
        · exact tmpContent_of_alone halone
  | toRename =>
      have hwait : waitsToRename (s.programs turn.program) = true := by
        rw [hprogram]
        rfl
      have hothers : forall j, j ≠ turn.program -> waitsToRename (s.programs j) = true ->
          tmpContent artifactRoot relativePath s' = tmpContent artifactRoot relativePath s := by
        intro j hj hwait'
        exact absurd (hs.alone j turn.program hwait' hwait) hj
      rcases hdone with ⟨reply, happly, hprograms⟩ | ⟨message, left, hleft, hprograms⟩
      · rcases FileSystem.content_rename (FileCall.of_apply happly) with
          ⟨hdirectory, text, htmp, hfinal⟩
        have hown : some text = some (contents turn.program) :=
          htmp.symm.trans (hs.written turn.program hwait)
        apply orderly_of_update hs hprograms .stored hdirectory
        · intro h
          cases h
        · exact hothers
        · exact hfinal.trans hown
      · apply orderly_of_quiet hs hprograms (.toCleanUp _) rfl rfl
        · rw [hleft]
          exact FileCall.sameContent_aftermath left (by simp)
        · exact hothers
  | toCleanUp e =>
      have halone := hturn rfl
      rcases hdone with ⟨reply, happly, hprograms⟩ | ⟨message, left, hleft, hprograms⟩
      · apply orderly_of_quiet hs hprograms (.failed _) rfl rfl
        · exact FileSystem.sameContent_unlink (FileCall.of_apply happly) hne.symm
        · exact tmpContent_of_alone halone
      · apply orderly_of_quiet hs hprograms (.failed _) rfl rfl
        · rw [hleft]
          exact FileCall.sameContent_aftermath left (by simp)
        · exact tmpContent_of_alone halone

omit [DecidableEq ι] in
theorem KeepsWrites.holdsWhole
    (h : KeepsWrites artifactRoot relativePath contents s turn s')
    (hs : HoldsWhole artifactRoot relativePath contents files s) :
    HoldsWhole artifactRoot relativePath contents files s' := by
  cases hreturned : returned (s'.programs turn.program) with
  | true =>
      exact Or.inr ⟨turn.program, h.own hreturned⟩
  | false =>
      unfold HoldsWhole
      rw [h.others hreturned]
      exact hs

/-- Calls of which none disturbs another one write atomically. -/
theorem atomicWrites_of_undisturbed {ι : Type} [DecidableEq ι] (answers : Answers)
    (artifactRoot relativePath : String) (contents : ι -> String) (files : FileSystem String)
    (turns : List (Turn ι))
    (h : forall x, x ∈ (Sharing.system answers).arrivals
      (startWrites artifactRoot relativePath contents files) turns -> Undisturbed x.1 x.2) :
    AtomicWrites answers artifactRoot relativePath contents files turns := by
  have hstep : forall (s : Writers ι) (turn : Turn ι),
      (Orderly artifactRoot relativePath contents files s ∧
        HoldsWhole artifactRoot relativePath contents files s) -> Undisturbed s turn ->
      Orderly artifactRoot relativePath contents files
          ((Sharing.system answers).next s turn) ∧
        HoldsWhole artifactRoot relativePath contents files
          ((Sharing.system answers).next s turn) := by
    intro s turn hs hturn
    refine (Sharing.system answers).next_cases hs ?_
    intro s' htaken
    rcases orderly_takeTurn hs.1 hturn htaken with ⟨horderly, hkeeps⟩
    exact ⟨horderly, hkeeps.holdsWhole hs.2⟩
  have hstart : Orderly artifactRoot relativePath contents files
        (startWrites artifactRoot relativePath contents files) ∧
      HoldsWhole artifactRoot relativePath contents files
        (startWrites artifactRoot relativePath contents files) :=
    ⟨orderly_start, Or.inl rfl⟩
  constructor
  · intro s hs
    exact (TransitionSystem.states_of_arrivals hstep hstart h s hs).2
  · intro x hx s' htaken
    have hbefore := (TransitionSystem.run_of_arrivals hstep hstart h).1 x hx
    exact (orderly_takeTurn hbefore.1 (h x hx) htaken).2

/-!
## Two calls
-/

def emptyRoot : FileSystem String where
  workingDirectory := []
  entry location := if location <+: ["artifacts"] then some .directory else none

def smooth (call : Bool) : Turn Bool where
  program := call
  outcome := .succeeds

def oneOrOther (call : Bool) : String :=
  if call then "one" else "other"

/-- The calls come one after the other. -/
theorem atomicWrites_in_turn :
    AtomicWrites (fun _ _ => .error "EIO: i/o error") "/artifacts" "log.txt" oneOrOther
      emptyRoot
      [smooth true, smooth true, smooth true, smooth false, smooth false, smooth false] :=
  atomicWrites_of_undisturbed _ _ _ _ _ _ (by decide +kernel)

/-- When the second call writes the temporary file before the first one renames it, the
first one returns, but has put the content of the second one in place. -/
theorem not_atomicWrites_in_between :
    ¬ AtomicWrites (fun _ _ => .error "EIO: i/o error") "/artifacts" "log.txt" oneOrOther
      emptyRoot [smooth true, smooth false, smooth true, smooth false, smooth true] := by
  intro h
  have hlast := h.2
    ((Sharing.system _).run (startWrites "/artifacts" "log.txt" oneOrOther emptyRoot)
      [smooth true, smooth false, smooth true, smooth false], smooth true)
    (TransitionSystem.mem_arrivals_append _ _ _ _ _) _
    (TransitionSystem.step_eq_ok_next _ (by decide +kernel))
  have hown := hlast.own (by decide +kernel)
  revert hown
  decide +kernel

end Artifacts
end CopilotFactory
