import CopilotFactory.Foundations.FilePrograms
import CopilotFactory.Foundations.FileSystem
import CopilotFactory.Foundations.TransitionSystem

/-!
# Programs that share files

Programs take turns on one file system.  A turn is one call of one program, which may fail
for reasons of its own; the call that fails may have been done in part.
-/

namespace CopilotFactory
namespace Foundations

namespace FileSystem

variable {α : Type}

def content (files : FileSystem α) (path : String) : Option α :=
  match files.entry (files.locate path) with
  | some (.file content) => some content
  | _ => none

def unlink (files : FileSystem α) (path : String) : Except String (FileSystem α) :=
  match files.entry (files.locate path) with
  | none => .ok files
  | some .directory => .error s!"EPERM: operation not permitted, unlink '{path}'"
  | some (.file _) =>
      .ok { files with entry := Function.update files.entry (files.locate path) none }

/-- Move a plain file, in place of the plain file that is at the new path. -/
def rename (files : FileSystem α) (oldPath newPath : String) : Except String (FileSystem α) :=
  match files.entry (files.locate oldPath) with
  | some (.file content) =>
      FileSystem.writeFile
        { files with entry := Function.update files.entry (files.locate oldPath) none }
        newPath content
  | _ => .error s!"ENOENT: no such file or directory, rename '{oldPath}' -> '{newPath}'"

variable {files files' : FileSystem α} {path other oldPath newPath : String} {text : α}

structure SameContent (files files' : FileSystem α) (path : String) : Prop where
  workingDirectory : files'.workingDirectory = files.workingDirectory
  content : files'.content path = files.content path

theorem SameContent.refl (files : FileSystem α) (path : String) :
    SameContent files files path where
  workingDirectory := rfl
  content := rfl

theorem content_eq_some : files.content path = some text <->
    files.entry (files.locate path) = some (.file text) := by
  unfold FileSystem.content
  split
  · rename_i found hentry
    rw [hentry]
    simp
  · rename_i hentry
    constructor
    · intro h
      cases h
    · intro h
      exact absurd h (hentry text)

theorem content_congr (h : files'.entry (files'.locate path) = files.entry (files.locate path)) :
    files'.content path = files.content path := by
  unfold FileSystem.content
  rw [h]

theorem sameContent_mkdir (h : files.mkdir path = .ok files') (other : String) :
    SameContent files files' other := by
  have hmade := mkdir_eq_ok h
  rw [hmade]
  refine ⟨rfl, ?_⟩
  have hentry : (files.withDirectories path).entry (files.locate other) =
      if files.locate other <+: files.locate path then some FileEntry.directory
      else files.entry (files.locate other) := rfl
  by_cases hprefix : files.locate other <+: files.locate path
  · rw [if_pos hprefix] at hentry
    have hnone : files.content other = none := by
      rw [Option.eq_none_iff_forall_ne_some]
      intro text hfile
      have hfound : (files.locate path).inits.any files.isFile = true := by
        rw [List.any_eq_true]
        refine ⟨files.locate other, (List.mem_inits _ _).mpr hprefix, ?_⟩
        unfold isFile
        rw [content_eq_some.mp hfile]
      unfold mkdir at h
      rw [if_pos hfound] at h
      cases h
    rw [hnone]
    unfold FileSystem.content
    have hlocate : (files.withDirectories path).locate other = files.locate other := rfl
    rw [hlocate, hentry]
  · rw [if_neg hprefix] at hentry
    exact content_congr hentry

theorem writeFile_eq_ok (h : files.writeFile path text = .ok files') :
    files' = { files with
      entry := Function.update files.entry (files.locate path) (some (.file text)) } := by
  unfold writeFile at h
  split at h
  · cases h
  · split at h
    · cases h
      rfl
    · cases h

theorem content_writeFile (h : files.writeFile path text = .ok files') :
    files'.content path = some text := by
  rw [content_eq_some, writeFile_eq_ok h]
  exact Function.update_self _ _ _

theorem sameContent_writeFile (h : files.writeFile path text = .ok files')
    (hother : files.locate other ≠ files.locate path) :
    SameContent files files' other := by
  rw [writeFile_eq_ok h]
  exact ⟨rfl, content_congr (Function.update_of_ne hother _ _)⟩

theorem sameContent_unlink (h : files.unlink path = .ok files')
    (hother : files.locate other ≠ files.locate path) :
    SameContent files files' other := by
  unfold unlink at h
  split at h
  · cases h
    exact SameContent.refl files other
  · cases h
  · cases h
    exact ⟨rfl, content_congr (Function.update_of_ne hother _ _)⟩

theorem content_rename (h : files.rename oldPath newPath = .ok files') :
    files'.workingDirectory = files.workingDirectory ∧
      exists text, files.content oldPath = some text ∧ files'.content newPath = some text := by
  unfold rename at h
  split at h
  · rename_i text hentry
    refine ⟨?_, text, content_eq_some.mpr hentry, content_writeFile h⟩
    rw [writeFile_eq_ok h]
  · cases h

end FileSystem

/-!
## Calls
-/

abbrev Answers : Type :=
  FileSystem String -> (c : FileCall) -> Except String c.Reply

namespace FileCall

variable (answers : Answers) (files : FileSystem String)

def apply : (c : FileCall) -> Except String (FileSystem String × c.Reply)
  | .mkdir path => do
      let files ← files.mkdir path
      pure (files, ())
  | .writeFile path content => do
      let files ← files.writeFile path content
      pure (files, ())
  | .unlink path => do
      let files ← files.unlink path
      pure (files, ())
  | .rename oldPath newPath => do
      let files ← files.rename oldPath newPath
      pure (files, ())
  | .pathExists path => do
      let found ← answers files (.pathExists path)
      pure (files, found)
  | .readFile path => do
      let content ← answers files (.readFile path)
      pure (files, content)
  | .readdir path => do
      let entries ← answers files (.readdir path)
      pure (files, entries)

theorem of_apply {ε σ : Type} {change : Except ε σ} {made : σ × Unit}
    (h : (do let files ← change; pure (files, ())) = Except.ok made) :
    change = .ok made.1 := by
  rcases bind_eq_ok.mp h with ⟨files, hfiles, hpure⟩
  cases hpure
  exact hfiles

/-- What a call that fails may leave: a part of the content in the file that was to be
written, or some of the directories that were to be made. -/
def aftermath (left : Option String) : FileCall -> FileSystem String
  | .writeFile path _ =>
      match left with
      | some part => (files.writeFile path part).toOption.getD files
      | none => files
  | .mkdir path =>
      match left with
      | some above =>
          if files.locate above <+: files.locate path then
            (files.mkdir above).toOption.getD files
          else
            files
      | none => files
  | _ => files

/-- A call that fails changes no file but the one that it was to write. -/
theorem sameContent_aftermath {files : FileSystem String} {c : FileCall}
    (left : Option String) {other : String}
    (h : forall path text, c = .writeFile path text -> files.locate other ≠ files.locate path) :
    FileSystem.SameContent files (c.aftermath files left) other := by
  have hsame := FileSystem.SameContent.refl files other
  cases c with
  | writeFile path text =>
      cases left with
      | none =>
          exact hsame
      | some part =>
          unfold aftermath
          dsimp only
          cases hwrite : files.writeFile path part with
          | ok files' =>
              exact FileSystem.sameContent_writeFile hwrite (h path text rfl)
          | error message =>
              exact hsame
  | mkdir path =>
      cases left with
      | none =>
          exact hsame
      | some above =>
          unfold aftermath
          dsimp only
          split
          · cases hmade : files.mkdir above with
            | ok files' =>
                exact FileSystem.sameContent_mkdir hmade other
            | error message =>
                exact hsame
          · exact hsame
  | pathExists path | readFile path | unlink path | rename oldPath newPath | readdir path =>
      exact hsame

end FileCall

/-!
## Turns
-/

/-- A call does what it should, if it can, or fails with a message and leaves something. -/
inductive CallOutcome where
  | succeeds
  | fails (message : String) (left : Option String)
deriving DecidableEq

structure Turn (ι : Type) where
  program : ι
  outcome : CallOutcome

structure Sharing (ι ε α : Type) where
  files : FileSystem String
  programs : ι -> FileProgram ε α

variable {ι ε α : Type} [DecidableEq ι] (answers : Answers)

namespace Sharing

def takeTurn (s : Sharing ι ε α) (turn : Turn ι) : Except Unit (Sharing ι ε α) :=
  match s.programs turn.program with
  | .done _ => .error ()
  | .call c next =>
      match turn.outcome with
      | .succeeds =>
          match c.apply answers s.files with
          | .ok (files, reply) =>
              .ok
                { files := files
                  programs := Function.update s.programs turn.program (next (.ok reply)) }
          | .error message =>
              .ok
                { s with
                  programs := Function.update s.programs turn.program
                    (next (.error message)) }
      | .fails message left =>
          .ok
            { files := c.aftermath s.files left
              programs := Function.update s.programs turn.program (next (.error message)) }

theorem takeTurn_cases {answers : Answers} {s s' : Sharing ι ε α} {turn : Turn ι}
    (h : s.takeTurn answers turn = .ok s') :
    exists c next, s.programs turn.program = .call c next ∧
      ((exists reply, c.apply answers s.files = .ok (s'.files, reply) ∧
          s'.programs = Function.update s.programs turn.program (next (.ok reply))) ∨
        exists message left, s'.files = c.aftermath s.files left ∧
          s'.programs = Function.update s.programs turn.program (next (.error message))) := by
  unfold takeTurn at h
  cases hprogram : s.programs turn.program with
  | done result =>
      rw [hprogram] at h
      cases h
  | call c next =>
      rw [hprogram] at h
      refine ⟨c, next, rfl, ?_⟩
      cases houtcome : turn.outcome with
      | fails message left =>
          rw [houtcome] at h
          cases h
          exact Or.inr ⟨message, left, rfl, rfl⟩
      | succeeds =>
          rw [houtcome] at h
          dsimp only at h
          split at h
          · rename_i files reply happly
            cases h
            exact Or.inl ⟨reply, happly, rfl⟩
          · rename_i message happly
            cases h
            refine Or.inr ⟨message, none, ?_, rfl⟩
            cases c <;> rfl

def system : TransitionSystem (Sharing ι ε α) (Turn ι) Unit where
  step := takeTurn answers

end Sharing

end Foundations
end CopilotFactory
