import Mathlib.Logic.Function.Basic
import Mathlib.Data.List.Infix
import CopilotFactory.Foundations.Paths

/-!
# File systems

What is found at each location: nothing, a directory, or a file with its content.
A removal takes away everything below a location, and directories are made together
with those above them.
-/

namespace CopilotFactory
namespace Foundations

inductive FileEntry (α : Type) where
  | directory
  | file (content : α)
deriving DecidableEq

/-- The entries by location, and the directory that relative paths start from. -/
structure FileSystem (α : Type) where
  workingDirectory : List String
  entry : List String -> Option (FileEntry α)

namespace FileSystem

variable {α : Type}

def locate (files : FileSystem α) (path : String) : List String :=
  Path.locate files.workingDirectory path

def has (files : FileSystem α) (path : String) : Bool :=
  (files.entry (files.locate path)).isSome

def isFile (files : FileSystem α) (location : List String) : Bool :=
  match files.entry location with
  | some (.file _) => true
  | _ => false

def isDirectory (files : FileSystem α) (location : List String) : Bool :=
  match files.entry location with
  | some .directory => true
  | _ => false

def withDirectories (files : FileSystem α) (path : String) : FileSystem α :=
  { files with
    entry := fun location =>
      if location <+: files.locate path then some .directory else files.entry location }

def mkdir (files : FileSystem α) (path : String) : Except String (FileSystem α) :=
  if (files.locate path).inits.any files.isFile then
    .error s!"EEXIST: file already exists, mkdir '{path}'"
  else
    .ok (files.withDirectories path)

def rm (files : FileSystem α) (path : String) : FileSystem α :=
  { files with
    entry := fun location =>
      if files.locate path <+: location then none else files.entry location }

def readFile (files : FileSystem α) (path : String) : Except String α :=
  match files.entry (files.locate path) with
  | some (.file content) => .ok content
  | some .directory => .error "EISDIR: illegal operation on a directory, read"
  | none => .error s!"ENOENT: no such file or directory, open '{path}'"

def writeFile (files : FileSystem α) (path : String) (content : α) :
    Except String (FileSystem α) :=
  if files.isDirectory (files.locate path) then
    .error s!"EISDIR: illegal operation on a directory, open '{path}'"
  else if files.isDirectory (files.locate path).dropLast then
    .ok
      { files with
        entry := Function.update files.entry (files.locate path) (some (.file content)) }
  else
    .error s!"ENOENT: no such file or directory, open '{path}'"

theorem locate_join (files : FileSystem α) {path name : String} (hname : Path.IsName name) :
    files.locate (Path.join [path, name]) = files.locate path ++ [name] := by
  unfold locate
  rw [Path.locate_join]
  intro n hn
  rw [List.mem_singleton.mp hn]
  exact hname

theorem has_eq_false {files : FileSystem α} {path : String} :
    files.has path = false <-> files.entry (files.locate path) = none := by
  unfold has
  exact Option.isSome_eq_false_iff.trans Option.isNone_iff_eq_none

/-!
## Directories
-/

/-- No plain file is found at the path or above it. -/
def Passable (files : FileSystem α) (path : String) : Prop :=
  forall location, location <+: files.locate path -> files.isFile location = false

theorem mkdir_of_passable {files : FileSystem α} {path : String} (h : files.Passable path) :
    files.mkdir path = .ok (files.withDirectories path) := by
  unfold mkdir
  rw [if_neg]
  intro hany
  rcases List.any_eq_true.mp hany with ⟨location, hmem, hfile⟩
  rw [h location ((List.mem_inits location (files.locate path)).mp hmem)] at hfile
  cases hfile

theorem mkdir_eq_ok {files made : FileSystem α} {path : String}
    (h : files.mkdir path = .ok made) :
    made = files.withDirectories path := by
  unfold mkdir at h
  split at h
  · cases h
  · cases h
    rfl

theorem has_withDirectories {files : FileSystem α} {path other : String} :
    (files.withDirectories path).has other =
      (decide (files.locate other <+: files.locate path) || files.has other) := by
  unfold has
  show (if files.locate other <+: files.locate path then some FileEntry.directory
    else files.entry (files.locate other)).isSome = _
  by_cases h : files.locate other <+: files.locate path
  · simp [h]
  · simp [h]

structure NoNewFiles (files files' : FileSystem α) : Prop where
  workingDirectory : files'.workingDirectory = files.workingDirectory
  isFile : forall location, files'.isFile location = true -> files.isFile location = true

theorem NoNewFiles.refl (files : FileSystem α) : NoNewFiles files files where
  workingDirectory := rfl
  isFile _ h := h

theorem NoNewFiles.trans {files files' files'' : FileSystem α}
    (h : NoNewFiles files files') (h' : NoNewFiles files' files'') :
    NoNewFiles files files'' where
  workingDirectory := h'.workingDirectory.trans h.workingDirectory
  isFile location hfile := h.isFile location (h'.isFile location hfile)

theorem NoNewFiles.passable {files files' : FileSystem α} (h : NoNewFiles files files')
    {path : String} (hpath : files.Passable path) :
    files'.Passable path := by
  intro location hlocation
  unfold locate at hlocation
  rw [h.workingDirectory] at hlocation
  cases hfile : files'.isFile location with
  | true =>
      rw [← hpath location hlocation]
      exact (h.isFile location hfile).symm
  | false =>
      rfl

theorem noNewFiles_withDirectories (files : FileSystem α) (path : String) :
    NoNewFiles files (files.withDirectories path) where
  workingDirectory := rfl
  isFile location hfile := by
    unfold isFile withDirectories at hfile
    dsimp only at hfile
    by_cases h : location <+: files.locate path
    · rw [if_pos h] at hfile
      cases hfile
    · rw [if_neg h] at hfile
      exact hfile

/-!
## Removals
-/

/-- Nothing was taken away but entries at the path or below it, and nothing was added. -/
structure RemovedBelow (path : String) (files files' : FileSystem α) : Prop where
  workingDirectory : files'.workingDirectory = files.workingDirectory
  entry : forall location, files'.entry location = files.entry location ∨
    (files.locate path <+: location ∧ files'.entry location = none)

theorem RemovedBelow.refl (path : String) (files : FileSystem α) :
    RemovedBelow path files files where
  workingDirectory := rfl
  entry _ := Or.inl rfl

theorem removedBelow_rm (path : String) (files : FileSystem α) :
    RemovedBelow path files (files.rm path) where
  workingDirectory := rfl
  entry location := by
    by_cases h : files.locate path <+: location
    · exact Or.inr ⟨h, if_pos h⟩
    · exact Or.inl (if_neg h)

theorem has_rm_self (path : String) (files : FileSystem α) :
    (files.rm path).has path = false :=
  has_eq_false.mpr (if_pos (List.prefix_refl _))

variable {path path' : String} {files files' files'' : FileSystem α}

theorem RemovedBelow.locate (h : RemovedBelow path files files') (other : String) :
    files'.locate other = files.locate other := by
  unfold FileSystem.locate
  rw [h.workingDirectory]

theorem RemovedBelow.trans (h : RemovedBelow path files files')
    (h' : RemovedBelow path files' files'') :
    RemovedBelow path files files'' where
  workingDirectory := h'.workingDirectory.trans h.workingDirectory
  entry location := by
    rcases h'.entry location with heq | ⟨hbelow, hnone⟩
    · rw [heq]
      exact h.entry location
    · rw [h.locate] at hbelow
      exact Or.inr ⟨hbelow, hnone⟩

theorem RemovedBelow.widen (h : RemovedBelow path files files')
    (hbelow : files.locate path' <+: files.locate path) :
    RemovedBelow path' files files' where
  workingDirectory := h.workingDirectory
  entry location := by
    rcases h.entry location with heq | ⟨hinside, hnone⟩
    · exact Or.inl heq
    · exact Or.inr ⟨hbelow.trans hinside, hnone⟩

theorem RemovedBelow.noNewFiles (h : RemovedBelow path files files') :
    NoNewFiles files files' where
  workingDirectory := h.workingDirectory
  isFile location hfile := by
    rcases h.entry location with heq | ⟨_, hnone⟩
    · unfold isFile at hfile ⊢
      rw [heq] at hfile
      exact hfile
    · unfold isFile at hfile
      rw [hnone] at hfile
      cases hfile

theorem RemovedBelow.has_eq_false (h : RemovedBelow path files files') {other : String}
    (hnone : files.has other = false) :
    files'.has other = false := by
  rw [FileSystem.has_eq_false] at hnone
  rw [FileSystem.has_eq_false, h.locate]
  rcases h.entry (files.locate other) with heq | ⟨_, hgone⟩
  · rw [heq]
    exact hnone
  · exact hgone

/-!
## Writes
-/

/-- Every file is as it was, or its content meets the condition. -/
structure WritesOnly (P : α -> Prop) (files files' : FileSystem α) : Prop where
  workingDirectory : files'.workingDirectory = files.workingDirectory
  file : forall location content, files'.entry location = some (.file content) ->
    files.entry location = some (.file content) ∨ P content

variable {P : α -> Prop}

theorem WritesOnly.refl (P : α -> Prop) (files : FileSystem α) : WritesOnly P files files where
  workingDirectory := rfl
  file _ _ h := Or.inl h

theorem WritesOnly.trans (h : WritesOnly P files files') (h' : WritesOnly P files' files'') :
    WritesOnly P files files'' where
  workingDirectory := h'.workingDirectory.trans h.workingDirectory
  file location content hfile := by
    rcases h'.file location content hfile with hold | hnew
    · exact h.file location content hold
    · exact Or.inr hnew

theorem RemovedBelow.writesOnly (h : RemovedBelow path files files') :
    WritesOnly P files files' where
  workingDirectory := h.workingDirectory
  file location content hfile := by
    rcases h.entry location with heq | ⟨_, hnone⟩
    · exact Or.inl (heq ▸ hfile)
    · rw [hnone] at hfile
      cases hfile

theorem writesOnly_withDirectories (P : α -> Prop) (files : FileSystem α) (path : String) :
    WritesOnly P files (files.withDirectories path) where
  workingDirectory := rfl
  file location content hfile := by
    unfold withDirectories at hfile
    dsimp only at hfile
    by_cases h : location <+: files.locate path
    · rw [if_pos h] at hfile
      cases hfile
    · rw [if_neg h] at hfile
      exact Or.inl hfile

theorem writesOnly_writeFile {content : α} (h : files.writeFile path content = .ok files')
    (hcontent : P content) :
    WritesOnly P files files' := by
  unfold writeFile at h
  split at h
  · cases h
  · split at h
    · cases h
      refine ⟨rfl, ?_⟩
      intro location other hfile
      dsimp only at hfile
      by_cases hlocation : location = files.locate path
      · rw [hlocation, Function.update_self] at hfile
        cases hfile
        exact Or.inr hcontent
      · rw [Function.update_of_ne hlocation] at hfile
        exact Or.inl hfile
    · cases h

theorem WritesOnly.readFile (h : WritesOnly P files files') {content : α}
    (hread : files'.readFile path = .ok content) :
    files.readFile path = .ok content ∨ P content := by
  unfold FileSystem.readFile FileSystem.locate at hread ⊢
  rw [h.workingDirectory] at hread
  cases hentry : files'.entry (Path.locate files.workingDirectory path) with
  | none =>
      rw [hentry] at hread
      cases hread
  | some entry =>
      cases entry with
      | directory =>
          rw [hentry] at hread
          cases hread
      | file found =>
          rw [hentry] at hread
          cases hread
          rcases h.file _ _ hentry with hold | hnew
          · rw [hold]
            exact Or.inl rfl
          · exact Or.inr hnew

end FileSystem
end Foundations
end CopilotFactory
