import CopilotFactory.Foundations.SharedFiles

/-!
# Runs of file programs

A program is run without others.  Each of its calls does what it should, if it can, or fails
for reasons of its own and leaves something.  Of a directory in which only files are worked
on, it is enough to see what each of its files holds.
-/

namespace CopilotFactory
namespace Foundations

def FileCall.run (answers : Answers) (outcome : CallOutcome) (files : FileSystem String)
    (c : FileCall) : Except String c.Reply × FileSystem String :=
  match outcome with
  | .succeeds =>
      match c.apply answers files with
      | .ok (files, reply) => (.ok reply, files)
      | .error message => (.error message, files)
  | .fails message left => (.error message, c.aftermath files left)

def FileProgram.run {ε α : Type} (answers : Answers) (outcomes : FileCall -> CallOutcome) :
    FileProgram ε α -> FileSystem String -> Except ε α × FileSystem String
  | .done result, files => (result, files)
  | .call c next, files =>
      let done := c.run answers (outcomes c) files
      (next done.1).run answers outcomes done.2

/-- What is seen of a directory: whether it can be made, in which places there are
directories, and what the files in the other places hold. -/
@[ext] structure DirectoryView where
  passable : Bool
  blocked : String -> Bool
  held : String -> Option String

def DirectoryView.set (view : DirectoryView) (name : String) (held : Option String) :
    DirectoryView :=
  { view with held := Function.update view.held name held }

namespace FileSystem

def contentAt (files : FileSystem String) (location : List String) : Option String :=
  match files.entry location with
  | some (.file content) => some content
  | _ => none

def viewAt (files : FileSystem String) (location : List String) : DirectoryView where
  passable := !location.inits.any files.isFile
  blocked name := files.isDirectory (location ++ [name])
  held name := files.contentAt (location ++ [name])

variable {files files' : FileSystem String} {location : List String} {name path text : String}

theorem content_eq_contentAt (files : FileSystem String) (path : String) :
    files.content path = files.contentAt (files.locate path) := by
  unfold content contentAt
  cases files.entry (files.locate path) with
  | none =>
      rfl
  | some entry =>
      cases entry <;> rfl

theorem concat_ne_self (location : List String) (name : String) :
    location ++ [name] ≠ location := by
  simp

theorem not_below_self {location other : List String} {name : String}
    (h : other <+: location) : ¬ location ++ [name] <+: other := by
  intro hconcat
  have hlength := (hconcat.trans h).length_le
  rw [List.length_append, List.length_singleton] at hlength
  omega

theorem viewAt_congr
    (habove : forall other, other <+: location -> files'.isFile other = files.isFile other)
    (hinside : forall name, files'.entry (location ++ [name]) =
      files.entry (location ++ [name])) :
    files'.viewAt location = files.viewAt location := by
  apply DirectoryView.ext
  · show (!location.inits.any files'.isFile) = !location.inits.any files.isFile
    congr 1
    rw [Bool.eq_iff_iff, List.any_eq_true, List.any_eq_true]
    constructor
    · rintro ⟨other, hmem, hfile⟩
      exact ⟨other, hmem, by rw [← habove other ((List.mem_inits _ _).mp hmem)]; exact hfile⟩
    · rintro ⟨other, hmem, hfile⟩
      exact ⟨other, hmem, by rw [habove other ((List.mem_inits _ _).mp hmem)]; exact hfile⟩
  · funext name
    show files'.isDirectory (location ++ [name]) = files.isDirectory (location ++ [name])
    unfold isDirectory
    rw [hinside]
  · funext name
    show files'.contentAt (location ++ [name]) = files.contentAt (location ++ [name])
    unfold contentAt
    rw [hinside]

theorem viewAt_mkdir (h : files.mkdir path = .ok files') (hbelow : files.locate path <+: location) :
    files'.viewAt location = files.viewAt location := by
  rw [mkdir_eq_ok h]
  have hentry : forall other, (files.withDirectories path).entry other =
      if other <+: files.locate path then some FileEntry.directory else files.entry other :=
    fun _ => rfl
  apply viewAt_congr
  · intro other _
    unfold isFile
    rw [hentry]
    by_cases hprefix : other <+: files.locate path
    · rw [if_pos hprefix]
      have hnone : ¬ (files.locate path).inits.any files.isFile = true := by
        intro hany
        unfold mkdir at h
        rw [if_pos hany] at h
        cases h
      rw [List.any_eq_true, not_exists] at hnone
      have hother := hnone other
      rw [not_and, Bool.not_eq_true] at hother
      exact (hother ((List.mem_inits _ _).mpr hprefix)).symm
    · rw [if_neg hprefix]
  · intro name
    rw [hentry, if_neg (not_below_self hbelow)]

theorem mkdir_of_view (h : files.locate path = location) :
    if (files.viewAt location).passable then
      exists files', files.mkdir path = .ok files' ∧ files'.isDirectory location = true
    else
      exists message, files.mkdir path = .error message := by
  cases hany : location.inits.any files.isFile with
  | true =>
      have hpassable : (files.viewAt location).passable = false := by
        simp [viewAt, hany]
      rw [if_neg (by simp [hpassable])]
      unfold mkdir
      rw [h, hany]
      exact ⟨_, rfl⟩
  | false =>
      have hpassable : (files.viewAt location).passable = true := by
        simp [viewAt, hany]
      rw [if_pos hpassable]
      unfold mkdir
      rw [h, hany]
      refine ⟨_, rfl, ?_⟩
      unfold isDirectory
      have hentry : (files.withDirectories path).entry location =
          if location <+: files.locate path then some FileEntry.directory
          else files.entry location := rfl
      rw [hentry, h, if_pos (List.prefix_refl location)]

theorem viewAt_update (hblocked : (files.viewAt location).blocked name = false)
    (held : Option String) :
    FileSystem.viewAt
        { files with
          entry := Function.update files.entry (location ++ [name]) (held.map .file) }
        location =
      (files.viewAt location).set name held := by
  have hother : forall other, other ≠ location ++ [name] ->
      Function.update files.entry (location ++ [name]) (held.map .file) other =
        files.entry other :=
    fun other h => Function.update_of_ne h _ _
  apply DirectoryView.ext
  · show (!location.inits.any _) = !location.inits.any files.isFile
    congr 1
    rw [Bool.eq_iff_iff, List.any_eq_true, List.any_eq_true]
    apply exists_congr
    intro other
    apply and_congr_right
    intro hmem
    have hne : other ≠ location ++ [name] := by
      intro heq
      have hprefix := (List.mem_inits _ _).mp hmem
      rw [heq] at hprefix
      exact not_below_self (List.prefix_refl location) hprefix
    unfold isFile
    dsimp only
    rw [hother other hne]
  · funext other
    show isDirectory _ (location ++ [other]) = files.isDirectory (location ++ [other])
    by_cases heq : other = name
    · rw [heq]
      have hold : files.isDirectory (location ++ [name]) = false := hblocked
      rw [hold]
      unfold isDirectory
      dsimp only
      rw [Function.update_self]
      cases held <;> rfl
    · unfold isDirectory
      dsimp only
      rw [hother _ (by simpa using heq)]
  · funext other
    show contentAt _ (location ++ [other]) = Function.update (files.viewAt location).held name held other
    by_cases heq : other = name
    · rw [heq, Function.update_self]
      unfold contentAt
      dsimp only
      rw [Function.update_self]
      cases held <;> rfl
    · rw [Function.update_of_ne heq]
      show _ = files.contentAt (location ++ [other])
      unfold contentAt
      dsimp only
      rw [hother _ (by simpa using heq)]

theorem isDirectory_update (held : Option String) :
    FileSystem.isDirectory
        { files with
          entry := Function.update files.entry (location ++ [name]) (held.map .file) }
        location =
      files.isDirectory location := by
  unfold isDirectory
  dsimp only
  rw [Function.update_of_ne (concat_ne_self location name).symm]

theorem held_of_blocked (h : (files.viewAt location).blocked name = true) :
    (files.viewAt location).held name = none := by
  change files.isDirectory (location ++ [name]) = true at h
  show files.contentAt (location ++ [name]) = none
  unfold isDirectory at h
  unfold contentAt
  split at h
  · rename_i hentry
    rw [hentry]
  · cases h

theorem not_blocked_of_held (h : (files.viewAt location).held name = some text) :
    (files.viewAt location).blocked name = false := by
  cases hblocked : (files.viewAt location).blocked name with
  | true =>
      rw [held_of_blocked hblocked] at h
      cases h
  | false =>
      rfl

structure Shows (files files' : FileSystem String) (location : List String)
    (view : DirectoryView) : Prop where
  workingDirectory : files'.workingDirectory = files.workingDirectory
  viewAt : files'.viewAt location = view

theorem Shows.refl (files : FileSystem String) (location : List String) :
    Shows files files location (files.viewAt location) where
  workingDirectory := rfl
  viewAt := rfl

theorem Shows.trans {files'' : FileSystem String} {view view' : DirectoryView}
    (h : Shows files files' location view) (h' : Shows files' files'' location view') :
    Shows files files'' location view' where
  workingDirectory := h'.workingDirectory.trans h.workingDirectory
  viewAt := h'.viewAt

theorem Shows.locate {view : DirectoryView} (h : Shows files files' location view)
    (path : String) : files'.locate path = files.locate path := by
  unfold FileSystem.locate
  rw [h.workingDirectory]

theorem shows_update (hblocked : (files.viewAt location).blocked name = false)
    (held : Option String) :
    Shows files
      { files with
        entry := Function.update files.entry (location ++ [name]) (held.map .file) }
      location ((files.viewAt location).set name held) where
  workingDirectory := rfl
  viewAt := viewAt_update hblocked held

theorem writeFile_of_blocked (hpath : files.locate path = location ++ [name])
    (hblocked : (files.viewAt location).blocked name = true) (text : String) :
    exists message, files.writeFile path text = .error message := by
  have hdirectory : files.isDirectory (location ++ [name]) = true := hblocked
  unfold writeFile
  rw [hpath, if_pos hdirectory]
  exact ⟨_, rfl⟩

theorem writeFile_of_free (hpath : files.locate path = location ++ [name])
    (hdirectory : files.isDirectory location = true)
    (hblocked : (files.viewAt location).blocked name = false) (text : String) :
    files.writeFile path text =
      .ok
        { files with
          entry := Function.update files.entry (location ++ [name])
            ((some text).map .file) } := by
  have hfree : ¬ files.isDirectory (location ++ [name]) = true := by
    have hfalse : files.isDirectory (location ++ [name]) = false := hblocked
    simp [hfalse]
  unfold writeFile
  rw [hpath, if_neg hfree, List.dropLast_concat, if_pos hdirectory]
  rfl

theorem set_self {view : DirectoryView} {held : Option String} (h : view.held name = held) :
    view.set name held = view := by
  unfold DirectoryView.set
  rw [← h, Function.update_eq_self]

end FileSystem

/-!
## Calls
-/

namespace FileCall

open FileSystem

variable {answers : Answers} {outcome : CallOutcome} {files : FileSystem String}
  {location : List String} {path name text : String}

theorem run_mkdir (hpath : files.locate path = location) :
    exists result files', (FileCall.mkdir path).run answers outcome files = (result, files') ∧
      Shows files files' location (files.viewAt location) ∧
      if outcome = .succeeds ∧ (files.viewAt location).passable = true then
        result = .ok () ∧ files'.isDirectory location = true
      else
        exists message, result = .error message := by
  cases outcome with
  | fails message left =>
      refine ⟨_, _, rfl, ?_, ?_⟩
      · cases left with
        | none =>
            exact Shows.refl files location
        | some above =>
            unfold aftermath
            dsimp only
            split
            · rename_i habove
              cases hmade : files.mkdir above with
              | error message =>
                  exact Shows.refl files location
              | ok files' =>
                  rw [hpath] at habove
                  exact ⟨by rw [mkdir_eq_ok hmade]; rfl, viewAt_mkdir hmade habove⟩
            · exact Shows.refl files location
      · rw [if_neg (by simp)]
        exact ⟨message, rfl⟩
  | succeeds =>
      have hmkdir := mkdir_of_view hpath
      cases hpassable : (files.viewAt location).passable with
      | true =>
          rw [if_pos hpassable] at hmkdir
          rcases hmkdir with ⟨files', hmade, hdirectory⟩
          refine ⟨.ok (), files', ?_, ?_, ?_⟩
          · unfold FileCall.run FileCall.apply
            dsimp only
            rw [hmade]
            rfl
          · exact ⟨by rw [mkdir_eq_ok hmade]; rfl,
              viewAt_mkdir hmade (by rw [hpath])⟩
          · rw [if_pos ⟨rfl, rfl⟩]
            exact ⟨rfl, hdirectory⟩
      | false =>
          rw [if_neg (by simp [hpassable])] at hmkdir
          rcases hmkdir with ⟨message, hmade⟩
          refine ⟨.error message, files, ?_, Shows.refl files location, ?_⟩
          · unfold FileCall.run FileCall.apply
            dsimp only
            rw [hmade]
            rfl
          · rw [if_neg (by simp)]
            exact ⟨message, rfl⟩

def written (outcome : CallOutcome) (text : String) (held : Option String) : Option String :=
  match outcome with
  | .succeeds => some text
  | .fails _ part => part.or held

theorem run_writeFile (hpath : files.locate path = location ++ [name])
    (hdirectory : files.isDirectory location = true) :
    exists result files',
      (FileCall.writeFile path text).run answers outcome files = (result, files') ∧
      files'.isDirectory location = true ∧
      if (files.viewAt location).blocked name = true then
        Shows files files' location (files.viewAt location) ∧
          exists message, result = .error message
      else
        Shows files files' location
            ((files.viewAt location).set name
              (written outcome text ((files.viewAt location).held name))) ∧
          if outcome = .succeeds then result = .ok () else
            exists message, result = .error message := by
  cases hblocked : (files.viewAt location).blocked name with
  | true =>
      simp only [if_true]
      have hfails := writeFile_of_blocked hpath hblocked
      cases outcome with
      | succeeds =>
          rcases hfails text with ⟨message, hmessage⟩
          refine ⟨.error message, files, ?_, hdirectory, Shows.refl files location,
            message, rfl⟩
          unfold FileCall.run FileCall.apply
          dsimp only
          rw [hmessage]
          rfl
      | fails message left =>
          have hsame : (FileCall.writeFile path text).aftermath files left = files := by
            unfold aftermath
            cases left with
            | none =>
                rfl
            | some part =>
                rcases hfails part with ⟨message, hmessage⟩
                simp only [hmessage]
                rfl
          exact ⟨.error message, files, by unfold FileCall.run; dsimp only; rw [hsame],
            hdirectory, Shows.refl files location, message, rfl⟩
  | false =>
      simp only [Bool.false_eq_true, if_false]
      have hwrites := writeFile_of_free hpath hdirectory hblocked
      cases outcome with
      | succeeds =>
          refine ⟨.ok (), _, ?_, ?_, shows_update hblocked (some text), by rw [if_pos rfl]⟩
          · unfold FileCall.run FileCall.apply
            dsimp only
            rw [hwrites text]
            rfl
          · rw [isDirectory_update, hdirectory]
      | fails message left =>
          cases left with
          | none =>
              refine ⟨.error message, files, rfl, hdirectory, ?_, by simp⟩
              have hsame : (files.viewAt location).set name
                  (written (.fails message none) text ((files.viewAt location).held name)) =
                    files.viewAt location := set_self rfl
              rw [hsame]
              exact Shows.refl files location
          | some part =>
              refine ⟨.error message, _, rfl, ?_, ?_, by simp⟩
              · unfold aftermath
                simp only [hwrites part, Except.toOption, Option.getD]
                rw [isDirectory_update, hdirectory]
              · unfold aftermath
                simp only [hwrites part, Except.toOption, Option.getD]
                exact shows_update hblocked (some part)

theorem run_unlink (hpath : files.locate path = location ++ [name]) :
    exists result files', (FileCall.unlink path).run answers outcome files = (result, files') ∧
      Shows files files' location
        ((files.viewAt location).set name
          (if outcome = .succeeds then none else (files.viewAt location).held name)) := by
  cases outcome with
  | fails message left =>
      refine ⟨_, _, rfl, ?_⟩
      rw [if_neg (by simp), set_self rfl]
      exact Shows.refl files location
  | succeeds =>
      simp only [if_true]
      cases hentry : files.entry (location ++ [name]) with
      | none =>
          refine ⟨.ok (), files, ?_, ?_⟩
          · unfold FileCall.run FileCall.apply FileSystem.unlink
            dsimp only
            rw [hpath, hentry]
            rfl
          · rw [set_self]
            · exact Shows.refl files location
            · show files.contentAt (location ++ [name]) = none
              unfold contentAt
              rw [hentry]
      | some entry =>
          cases entry with
          | directory =>
              have hblocked : (files.viewAt location).blocked name = true := by
                show files.isDirectory (location ++ [name]) = true
                unfold isDirectory
                rw [hentry]
              refine ⟨.error s!"EPERM: operation not permitted, unlink '{path}'", files, ?_, ?_⟩
              · unfold FileCall.run FileCall.apply FileSystem.unlink
                dsimp only
                rw [hpath, hentry]
                rfl
              · rw [set_self (held_of_blocked hblocked)]
                exact Shows.refl files location
          | file content =>
              have hblocked : (files.viewAt location).blocked name = false := by
                show files.isDirectory (location ++ [name]) = false
                unfold isDirectory
                rw [hentry]
              refine ⟨.ok (), _, ?_, shows_update hblocked none⟩
              unfold FileCall.run FileCall.apply FileSystem.unlink
              dsimp only
              rw [hpath, hentry]
              rfl

theorem run_rename {newPath newName : String} (hpath : files.locate path = location ++ [name])
    (hnew : files.locate newPath = location ++ [newName])
    (hdirectory : files.isDirectory location = true)
    (hheld : (files.viewAt location).held name = some text) :
    exists result files',
      (FileCall.rename path newPath).run answers outcome files = (result, files') ∧
      if outcome = .succeeds ∧ (files.viewAt location).blocked newName = false then
        result = .ok () ∧
          Shows files files' location
            (((files.viewAt location).set name none).set newName (some text))
      else
        (exists message, result = .error message) ∧
          Shows files files' location (files.viewAt location) := by
  cases outcome with
  | fails message left =>
      refine ⟨_, _, rfl, ?_⟩
      rw [if_neg (by simp)]
      exact ⟨⟨message, rfl⟩, Shows.refl files location⟩
  | succeeds =>
      have hentry : files.entry (location ++ [name]) = some (.file text) := by
        change files.contentAt (location ++ [name]) = some text at hheld
        unfold contentAt at hheld
        split at hheld
        · rename_i content hfound
          rw [hfound, Option.some.inj hheld]
        · cases hheld
      have hremoved := shows_update (not_blocked_of_held hheld) none
      have hdirectory' := @isDirectory_update files location name none
      rw [hdirectory] at hdirectory'
      have hblocked' : forall removed, Shows files removed location
          ((files.viewAt location).set name none) ->
          (removed.viewAt location).blocked newName =
            (files.viewAt location).blocked newName := by
        intro removed hshows
        rw [hshows.viewAt]
        rfl
      have hrename : files.rename path newPath =
          FileSystem.writeFile
            { files with
              entry := Function.update files.entry (location ++ [name])
                ((none : Option String).map .file) } newPath text := by
        unfold FileSystem.rename
        rw [hpath, hentry]
        rfl
      cases hblocked : (files.viewAt location).blocked newName with
      | true =>
          rcases writeFile_of_blocked (by rw [hremoved.locate, hnew])
            (by rw [hblocked' _ hremoved, hblocked]) text with ⟨message, hmessage⟩
          refine ⟨.error message, files, ?_, ?_⟩
          · unfold FileCall.run FileCall.apply
            dsimp only
            rw [hrename, hmessage]
            rfl
          · rw [if_neg (by simp)]
            exact ⟨⟨message, rfl⟩, Shows.refl files location⟩
      | false =>
          have hfree := (hblocked' _ hremoved).trans hblocked
          have hwrites := writeFile_of_free (by rw [hremoved.locate, hnew]) hdirectory' hfree
            text
          have hstored := hremoved.trans (shows_update hfree (some text))
          rw [hremoved.viewAt] at hstored
          refine ⟨.ok (), _, ?_, by rw [if_pos ⟨rfl, rfl⟩]; exact ⟨rfl, hstored⟩⟩
          · unfold FileCall.run FileCall.apply
            dsimp only
            rw [hrename, hwrites]
            rfl

end FileCall

end Foundations
end CopilotFactory
