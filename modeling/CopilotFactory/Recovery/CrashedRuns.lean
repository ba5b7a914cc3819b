import CopilotFactory.Recovery.CapturedWork

/-!
# Crashed runs

A recovery is right if a result that it finds is the result of the run, and if otherwise
every piece that can be read and stored is stored as it is, under a reference of its own,
which is recorded on the lease.
-/

namespace CopilotFactory
namespace Recovery

open Foundations
open Artifacts
open Automation
open Path

section

variable (deps : CrashRecoveryDependencies) (params : CrashRecoveryParams)

def outputsDir : String :=
  join [params.workspacePath, "outputs"]

/-- What can be read of a run, apart from all other reads, and the snapshot. -/
inductive Reads (snapshot : Option PartialWorkSnapshot) : Piece -> String -> Prop where
  | gitDiff {content : String} :
      deps.git.diff params.worktreePath = .ok (some content) -> content ≠ "" ->
        Reads snapshot .gitDiff content
  | output {listing : Listing} {entry : DirEntry} {content : String} :
      deps.outputFiles.pathExists (outputsDir params) = .ok true ->
        deps.outputFiles.readdir (outputsDir params) = .ok listing ->
        entry ∈ listing.entries -> entry.isDirectory = false ->
        deps.outputFiles.readFile (join [outputsDir params, entry.name]) = .ok content ->
        Reads snapshot (.output entry.name) content
  | invalidResultPacket {content : String} :
      readResultPacket deps.packetFiles params.workspacePath = .ok (some content) ->
        Reads snapshot .invalidResultPacket content
  | snapshot {taken : PartialWorkSnapshot} :
      snapshot = some taken -> Reads snapshot .snapshot (deps.stringify taken.toJson)

def Storable (files : FileSystem String) (piece : Piece) (content : String) : Prop :=
  exists ref files',
    (storeArtifact deps.artifactRoot (artifactRef params piece) content).run deps.answers
      (deps.outcomes piece) files = (.ok ref, files')

/-- What can be read and stored is there, and recorded, under a reference of its own. -/
structure StoresPieces (s : RecoveryState) (result : CrashRecoveryResult)
    (s' : RecoveryState) : Prop where
  stored : forall piece content, Reads deps params result.snapshot? piece content ->
    Storable deps params s.files piece content ->
      artifactRef params piece ∈ result.artifactRefs ∧
        s'.files.content (join [deps.artifactRoot, artifactRef params piece]) = some content ∧
        artifactRef params piece ∈ s'.leaseRefs params.leaseId
  ownReferences : forall piece piece' content content',
    Reads deps params result.snapshot? piece content ->
    Storable deps params s.files piece content ->
    Reads deps params result.snapshot? piece' content' ->
    Storable deps params s.files piece' content' ->
      artifactRef params piece = artifactRef params piece' -> piece = piece'

/-- A packet of the schema lies where the result of the run is expected. -/
def HasValidPacket (packet : Json) : Prop :=
  exists content,
    readResultPacket deps.packetFiles params.workspacePath = .ok (some content) ∧
      deps.jsonParse content = .ok packet ∧
      (Packets.devResultPacketSchema deps.isDatetime).accepts packet

def IsOfRun (data : Json) : Prop :=
  data.field? "task_id" = some (.string params.taskId) ∧
    data.field? "run_id" = some (.string params.runId)

def IsResult (data : Json) : Prop :=
  exists packet, HasValidPacket deps params packet ∧
    data = Zod.output (Packets.devResultPacketSchema deps.isDatetime).type packet ∧
    IsOfRun params data

def Recovers (s : RecoveryState) : Prop :=
  exists result s', (recoverFromCrash deps params).runOn s = (.ok result, s') ∧
    match result with
    | .resultFound data => IsResult deps params data
    | .partialCaptured _ _ | .nothingCaptured => StoresPieces deps params s result s'

def packetContent : Option String :=
  (readResultPacket deps.packetFiles params.workspacePath).toOption.getD none

/-- Of the attempts none spoils another, no output is lost with one that cannot be read, and
the references can be recorded. -/
structure Capturable (s : RecoveryState) : Prop where
  outputs : (exists files, readOutputFiles deps.outputFiles params.workspacePath = .ok files) ∨
    forall filename content, Reads deps params none (.output filename) content ->
      ¬ Storable deps params s.files (.output filename) content
  ownNames : Put.OwnNames (putsOf deps params (outputsView deps params s.files)
    (attemptsOf deps params (packetContent deps params) (outputsView deps params s.files)))
  spared : Put.Spared (putsOf deps params (outputsView deps params s.files)
    (attemptsOf deps params (packetContent deps params) (outputsView deps params s.files)))
  lease : deps.leaseUpdate = .ok () ∨
    forall ref, ref ∈ storedRefs deps params (outputsView deps params s.files)
        (attemptsOf deps params (packetContent deps params)
          (outputsView deps params s.files)) ->
      ref ∈ s.leaseRefs params.leaseId

/-- A valid packet is one of the run, and without one the work can be captured. -/
structure Recoverable (s : RecoveryState) : Prop where
  ofRun : forall packet, HasValidPacket deps params packet -> IsOfRun params packet
  capturable : (forall packet, ¬ HasValidPacket deps params packet) ->
    Capturable deps params s

end

variable {deps : CrashRecoveryDependencies} {params : CrashRecoveryParams}
  {s s' : RecoveryState} {result : CrashRecoveryResult}

/-!
## Packets
-/

theorem validateResultPacket_valid {jsonParse : String -> Except String Json}
    {isDatetime : String -> Bool} {content : String} {data : Json} :
    validateResultPacket jsonParse isDatetime content = .valid data <->
      exists packet, jsonParse content = .ok packet ∧
        (Packets.devResultPacketSchema isDatetime).accepts packet ∧
        data = Zod.output (Packets.devResultPacketSchema isDatetime).type packet := by
  unfold validateResultPacket
  cases hparse : jsonParse content with
  | error message =>
      simp
  | ok parsed =>
      simp only [Except.ok.injEq, exists_eq_left', ← Packets.safeParse_eq_nil_iff]
      split
      · rename_i hissues
        simp [hissues, eq_comm]
      · rename_i hissues
        constructor
        · intro h
          cases h
        · rintro ⟨hnil, _⟩
          exact absurd hnil hissues

theorem isOfRun_output {isDatetime : String -> Bool} {packet : Json}
    (h : (Packets.devResultPacketSchema isDatetime).accepts packet) :
    IsOfRun params (Zod.output (Packets.devResultPacketSchema isDatetime).type packet) <->
      IsOfRun params packet := by
  cases packet with
  | object entries =>
      unfold Packets.devResultPacketSchema IsOfRun
      dsimp only
      rw [Zod.field?_output, Zod.field?_output]
      · rfl
      · rfl
  | null | boolean value | number value | string value | array items =>
      cases h.1

theorem packetContent_eq_some {content : String} :
    packetContent deps params = some content <->
      readResultPacket deps.packetFiles params.workspacePath = .ok (some content) := by
  unfold packetContent
  cases readResultPacket deps.packetFiles params.workspacePath with
  | ok found =>
      simp [Except.toOption]
  | error message =>
      simp [Except.toOption]

/-- A result is found exactly if there is a valid packet, and else the work is captured. -/
theorem runOn_recoverFromCrash (s : RecoveryState) :
    (exists packet, HasValidPacket deps params packet ∧
      (recoverFromCrash deps params).runOn s =
        (.ok (.resultFound
          (Zod.output (Packets.devResultPacketSchema deps.isDatetime).type packet)), s)) ∨
    ((forall packet, ¬ HasValidPacket deps params packet) ∧
      (recoverFromCrash deps params).runOn s =
        (capturePartialWork deps params (packetContent deps params)).runOn s) := by
  have hpacket : (readResultPacket deps.packetFiles params.workspacePath).toOption.getD none =
      packetContent deps params := rfl
  unfold HasValidPacket recoverFromCrash
  rw [runOn_bind_of_ok (runOn_inspect _ _ s), hpacket]
  simp only [← packetContent_eq_some]
  cases packetContent deps params with
  | none =>
      exact Or.inr ⟨by simp, rfl⟩
  | some content =>
      rw [Option.map_some]
      cases hvalidation : validateResultPacket deps.jsonParse deps.isDatetime content with
      | valid data =>
          rcases validateResultPacket_valid.mp hvalidation with
            ⟨packet, hparse, haccepts, hdata⟩
          refine Or.inl ⟨packet, ⟨content, rfl, hparse, haccepts⟩, ?_⟩
          rw [← hdata]
          rfl
      | invalid reason =>
          refine Or.inr ⟨?_, rfl⟩
          rintro packet ⟨_, hsome, hparse, haccepts⟩
          cases hsome
          rw [validateResultPacket_valid.mpr ⟨packet, hparse, haccepts, rfl⟩] at hvalidation
          cases hvalidation

/-!
## Pieces
-/

theorem storable_iff (attempt : Attempt) (files : FileSystem String) :
    Storable deps params files attempt.piece attempt.content <->
      (attempt.put deps params (outputsView deps params files)).stored = true := by
  rcases @run_storeArtifact deps.answers (deps.outcomes attempt.piece) files _ _
    attempt.content _ _ (@placedIn_outputs deps params files _ attempt.isName) with
    ⟨result, files', hrun, _, hresult⟩
  change if (attempt.put deps params (outputsView deps params files)).stored = true
    then _ else _ at hresult
  unfold Storable
  rw [hrun]
  cases hstored : (attempt.put deps params (outputsView deps params files)).stored with
  | true =>
      rw [hstored, if_pos rfl] at hresult
      rw [hresult]
      exact iff_of_true ⟨_, _, rfl⟩ rfl
  | false =>
      rw [hstored, if_neg (by simp)] at hresult
      rcases hresult with ⟨e, he⟩
      rw [he]
      refine iff_of_false ?_ (by simp)
      rintro ⟨ref, files'', h⟩
      cases h

theorem readOutputFiles_eq_ok {files : List WorkspaceOutputFile}
    (h : readOutputFiles deps.outputFiles params.workspacePath = .ok files)
    (snapshot : Option PartialWorkSnapshot) :
    (files.map WorkspaceOutputFile.name).Nodup ∧
      forall filename content, Reads deps params snapshot (.output filename) content <->
        exists file, file ∈ files ∧ file.name = filename ∧ file.content = content := by
  rcases bind_eq_ok.mp h with ⟨found, hfound, hrest⟩
  cases found with
  | false =>
      cases hrest
      refine ⟨List.nodup_nil, ?_⟩
      intro filename content
      constructor
      · intro hreads
        cases hreads with
        | output hthere _ _ _ _ =>
            have htrue := hthere.symm.trans hfound
            cases htrue
      · rintro ⟨file, hmem, _⟩
        cases hmem
  | true =>
      rcases bind_eq_ok.mp hrest with ⟨listing, hlisting, hfiles⟩
      have hall := mapM_eq_ok.mp hfiles
      have hread : forall entry file,
          readOutputFile deps.outputFiles (join [params.workspacePath, "outputs"]) entry =
              .ok file ->
            file.name = entry.name ∧
              deps.outputFiles.readFile (join [outputsDir params, entry.name]) =
                .ok file.content := by
        intro entry file hfile
        rcases bind_eq_ok.mp hfile with ⟨content, hcontent, hpure⟩
        cases hpure
        exact ⟨rfl, hcontent⟩
      have hnames : forall (entries : List DirEntry) (files : List WorkspaceOutputFile),
          List.Forall₂ (fun entry file => readOutputFile deps.outputFiles
            (join [params.workspacePath, "outputs"]) entry = .ok file) entries files ->
          files.map WorkspaceOutputFile.name = entries.map DirEntry.name := by
        intro entries files hall
        induction hall with
        | nil =>
            rfl
        | cons hfirst _ ih =>
            rw [List.map_cons, List.map_cons, ih, (hread _ _ hfirst).1]
      refine ⟨?_, ?_⟩
      · rw [hnames _ _ hall]
        exact listing.nodup.sublist (List.filter_sublist.map _)
      · intro filename content
        constructor
        · intro hreads
          cases hreads with
          | @output listing' entry _ _ hlisting' hentry hfile hcontent =>
              have hsame := hlisting'.symm.trans hlisting
              cases hsame
              rcases exists_of_mem_left hall
                (List.mem_filter.mpr ⟨hentry, by simp [hfile]⟩) with ⟨file, hmem, hmade⟩
              rcases hread entry file hmade with ⟨hname, hfound'⟩
              have hsame := hfound'.symm.trans hcontent
              cases hsame
              exact ⟨file, hmem, hname, rfl⟩
        · rintro ⟨file, hmem, hname, hcontent⟩
          rcases exists_of_mem_mapM hfiles hmem with ⟨entry, hentry, hmade⟩
          rcases hread entry file hmade with ⟨hentryName, hfound'⟩
          rcases List.mem_filter.mp hentry with ⟨hentry, hfile⟩
          rw [← hname, hentryName, ← hcontent]
          exact .output hfound hlisting hentry (by simpa using hfile) hfound'

def takenSnapshot (deps : CrashRecoveryDependencies) (params : CrashRecoveryParams)
    (view : DirectoryView) : Option PartialWorkSnapshot :=
  if HasAnyWork deps params (packetContent deps params) view then
    some (snapshotOf deps params (packetContent deps params) view)
  else
    none

theorem mem_gitDiffAttempts {attempt : Attempt} :
    attempt ∈ gitDiffAttempts deps params <->
      exists content, deps.git.diff params.worktreePath = .ok (some content) ∧ content ≠ "" ∧
        attempt = gitDiffAttempt content := by
  unfold gitDiffAttempts
  cases deps.git.diff params.worktreePath with
  | error message =>
      simp [Except.toOption]
  | ok found =>
      cases found with
      | none =>
          simp [Except.toOption]
      | some gitDiff =>
          by_cases hempty : gitDiff = ""
          · simp [Except.toOption, hempty]
          · simp [Except.toOption, hempty]

theorem mem_invalidResultAttempts {attempt : Attempt} :
    attempt ∈ invalidResultAttempts (packetContent deps params) <->
      exists content,
        readResultPacket deps.packetFiles params.workspacePath = .ok (some content) ∧
          attempt = invalidResultAttempt content := by
  unfold invalidResultAttempts
  simp only [← packetContent_eq_some]
  cases packetContent deps params with
  | none =>
      simp
  | some content =>
      simp

theorem mem_attemptsOf {view : DirectoryView} {attempt : Attempt} :
    attempt ∈ attemptsOf deps params (packetContent deps params) view <->
      attempt ∈ gitDiffAttempts deps params ∨ attempt ∈ outputAttempts deps params ∨
        attempt ∈ invalidResultAttempts (packetContent deps params) ∨
        exists taken, takenSnapshot deps params view = some taken ∧
          attempt = snapshotAttempt (deps.stringify taken.toJson) := by
  unfold attemptsOf workAttempts takenSnapshot
  rw [List.mem_append, List.mem_append, List.mem_append, or_assoc, or_assoc]
  split
  · simp
  · simp

theorem reads_of_mem {view : DirectoryView} {attempt : Attempt}
    (h : attempt ∈ attemptsOf deps params (packetContent deps params) view) :
    Reads deps params (takenSnapshot deps params view) attempt.piece attempt.content := by
  rcases mem_attemptsOf.mp h with hgit | houtput | hinvalid | ⟨taken, htaken, heq⟩
  · rcases mem_gitDiffAttempts.mp hgit with ⟨content, hdiff, hne, heq⟩
    rw [heq]
    exact .gitDiff hdiff hne
  · unfold outputAttempts at houtput
    cases hfiles : readOutputFiles deps.outputFiles params.workspacePath with
    | error message =>
        rw [hfiles] at houtput
        cases houtput
    | ok files =>
        rw [hfiles] at houtput
        rcases List.mem_map.mp houtput with ⟨file, hfile, heq⟩
        rw [← heq]
        exact ((readOutputFiles_eq_ok hfiles _).2 _ _).mpr ⟨file, hfile, rfl, rfl⟩
  · rcases mem_invalidResultAttempts.mp hinvalid with ⟨content, hread, heq⟩
    rw [heq]
    exact .invalidResultPacket hread
  · rw [heq]
    exact .snapshot htaken

/-- What can be read is attempted, unless it is an output and some output cannot be read. -/
theorem exists_attempt {view : DirectoryView} {piece : Piece} {content : String}
    (h : Reads deps params (takenSnapshot deps params view) piece content) :
    (exists attempt,
      attempt ∈ attemptsOf deps params (packetContent deps params) view ∧
        attempt.piece = piece ∧ attempt.content = content) ∨
    ((¬ exists files, readOutputFiles deps.outputFiles params.workspacePath = .ok files) ∧
      exists filename, piece = .output filename) := by
  cases h with
  | gitDiff hdiff hne =>
      exact Or.inl ⟨gitDiffAttempt content,
        mem_attemptsOf.mpr (Or.inl (mem_gitDiffAttempts.mpr ⟨content, hdiff, hne, rfl⟩)),
        rfl, rfl⟩
  | invalidResultPacket hread =>
      exact Or.inl ⟨invalidResultAttempt content,
        mem_attemptsOf.mpr (Or.inr (Or.inr (Or.inl
          (mem_invalidResultAttempts.mpr ⟨content, hread, rfl⟩)))), rfl, rfl⟩
  | snapshot htaken =>
      exact Or.inl ⟨snapshotAttempt _,
        mem_attemptsOf.mpr (Or.inr (Or.inr (Or.inr ⟨_, htaken, rfl⟩))), rfl, rfl⟩
  | @output listing entry _ hfound hlisting hentry hfile hread =>
      cases hfiles : readOutputFiles deps.outputFiles params.workspacePath with
      | error message =>
          exact Or.inr ⟨by simp, _, rfl⟩
      | ok files =>
          rcases ((readOutputFiles_eq_ok hfiles (takenSnapshot deps params view)).2 _ _).mp
            (.output hfound hlisting hentry hfile hread) with ⟨file, hmem, hname, hcontent⟩
          refine Or.inl ⟨outputAttempt file, mem_attemptsOf.mpr (Or.inr (Or.inl ?_)), ?_,
            hcontent⟩
          · unfold outputAttempts
            rw [hfiles]
            exact List.mem_map_of_mem hmem
          · rw [← hname]
            rfl

theorem attemptsOf_pairwise (view : DirectoryView) :
    (attemptsOf deps params (packetContent deps params) view).Pairwise fun attempt other =>
      attempt.piece ≠ other.piece := by
  have hgit : forall attempt, attempt ∈ gitDiffAttempts deps params ->
      attempt.piece = .gitDiff := by
    intro attempt h
    rcases mem_gitDiffAttempts.mp h with ⟨content, _, _, heq⟩
    rw [heq]
    rfl
  have houtput : forall attempt, attempt ∈ outputAttempts deps params ->
      exists filename, attempt.piece = .output filename := by
    intro attempt h
    rcases List.mem_map.mp h with ⟨file, _, heq⟩
    exact ⟨file.name, by rw [← heq]; rfl⟩
  have hinvalid : forall attempt,
      attempt ∈ invalidResultAttempts (packetContent deps params) ->
        attempt.piece = .invalidResultPacket := by
    intro attempt h
    rcases mem_invalidResultAttempts.mp h with ⟨content, _, heq⟩
    rw [heq]
    rfl
  unfold attemptsOf workAttempts
  rw [List.pairwise_append, List.pairwise_append, List.pairwise_append]
  refine ⟨⟨⟨?_, ?_, ?_⟩, ?_, ?_⟩, ?_, ?_⟩
  · unfold gitDiffAttempts
    cases (deps.git.diff params.worktreePath).toOption.getD none with
    | none =>
        exact List.Pairwise.nil
    | some gitDiff =>
        dsimp only
        split
        · exact List.Pairwise.nil
        · exact List.pairwise_singleton _ _
  · unfold outputAttempts
    cases hfiles : readOutputFiles deps.outputFiles params.workspacePath with
    | error message =>
        exact List.Pairwise.nil
    | ok files =>
        rw [List.pairwise_map]
        have hnames := List.pairwise_map.mp (readOutputFiles_eq_ok hfiles none).1
        exact hnames.imp fun hne heq => hne (Piece.output.inj heq)
  · intro attempt h other hother heq
    rcases houtput other hother with ⟨filename, hpiece⟩
    rw [hgit attempt h, hpiece] at heq
    cases heq
  · unfold invalidResultAttempts
    cases packetContent deps params with
    | none =>
        exact List.Pairwise.nil
    | some content =>
        exact List.pairwise_singleton _ _
  · intro attempt h other hother heq
    rw [hinvalid other hother] at heq
    rcases List.mem_append.mp h with h | h
    · rw [hgit attempt h] at heq
      cases heq
    · rcases houtput attempt h with ⟨filename, hpiece⟩
      rw [hpiece] at heq
      cases heq
  · split
    · exact List.pairwise_singleton _ _
    · exact List.Pairwise.nil
  · intro attempt h other hother heq
    have hsnapshot : other.piece = .snapshot := by
      split at hother
      · rw [List.mem_singleton.mp hother]
        rfl
      · cases hother
    rw [hsnapshot] at heq
    rcases List.mem_append.mp h with h | h
    · rcases List.mem_append.mp h with h | h
      · rw [hgit attempt h] at heq
        cases heq
      · rcases houtput attempt h with ⟨filename, hpiece⟩
        rw [hpiece] at heq
        cases heq
    · rw [hinvalid attempt h] at heq
      cases heq

/-!
## Captured pieces
-/

theorem Captured.snapshot_eq
    (h : Captured deps params (packetContent deps params) s result s') :
    result.snapshot? = takenSnapshot deps params (outputsView deps params s.files) :=
  h.snapshot

theorem Captured.content (h : Captured deps params (packetContent deps params) s result s')
    (attempt : Attempt) :
    s'.files.content (join [deps.artifactRoot, artifactRef params attempt.piece]) =
      Put.applyAll (putsOf deps params (outputsView deps params s.files)
          (attemptsOf deps params (packetContent deps params)
            (outputsView deps params s.files)))
        (outputsView deps params s.files).held attempt.piece.fileName := by
  have hshows := h.stores.shows
  have hplaced := (@placedIn_outputs deps params s.files _ attempt.isName).shows hshows
  rw [FileSystem.content_eq_contentAt, hplaced.artifact]
  change (s'.files.viewAt (outputsLocation deps params s.files)).held _ = _
  rw [hshows.viewAt]

theorem Captured.mem_refs (h : Captured deps params (packetContent deps params) s result s')
    {ref : String} :
    ref ∈ result.artifactRefs <->
      exists attempt,
        attempt ∈ attemptsOf deps params (packetContent deps params)
          (outputsView deps params s.files) ∧
        (attempt.put deps params (outputsView deps params s.files)).stored = true ∧
        artifactRef params attempt.piece = ref := by
  rw [h.stores.refs]
  unfold storedRefs
  simp only [List.mem_map, List.mem_filter, and_assoc]

theorem Captured.recorded_iff
    (h : Captured deps params (packetContent deps params) s result s') :
    (forall ref, ref ∈ result.artifactRefs -> ref ∈ s'.leaseRefs params.leaseId) <->
      (deps.leaseUpdate = .ok () ∨
        forall ref, ref ∈ result.artifactRefs -> ref ∈ s.leaseRefs params.leaseId) := by
  rw [h.leaseRefs]
  split
  · unfold recordedRefs
    cases hupdate : deps.leaseUpdate with
    | ok u =>
        dsimp only
        rw [Function.update_self]
        exact iff_of_true (fun _ href => href) (Or.inl rfl)
    | error message =>
        simp
  · rename_i hnone
    have hempty : forall ref, ref ∉ result.artifactRefs := by
      intro ref href
      have hsnapshot := h.snapshot
      rw [if_neg hnone] at hsnapshot
      cases result with
      | resultFound data =>
          cases href
      | partialCaptured snapshot artifactRefs =>
          cases hsnapshot
      | nothingCaptured =>
          cases href
    exact iff_of_true (fun ref href => absurd href (hempty ref))
      (Or.inr fun ref href => absurd href (hempty ref))

theorem put_name (attempt : Attempt) (view : DirectoryView) :
    (attempt.put deps params view).name = attempt.piece.fileName ∧
      (attempt.put deps params view).content = attempt.content :=
  ⟨rfl, rfl⟩

/-- The pieces have references of their own exactly if the puts have names of their own, as
far as they are attempted. -/
theorem ownNames_of_ownReferences
    (h : forall attempt other : Attempt,
      attempt ∈ attemptsOf deps params (packetContent deps params)
        (outputsView deps params s.files) ->
      other ∈ attemptsOf deps params (packetContent deps params)
        (outputsView deps params s.files) ->
      (attempt.put deps params (outputsView deps params s.files)).stored = true ->
      (other.put deps params (outputsView deps params s.files)).stored = true ->
      artifactRef params attempt.piece = artifactRef params other.piece ->
        attempt.piece = other.piece) :
    Put.OwnNames (putsOf deps params (outputsView deps params s.files)
      (attemptsOf deps params (packetContent deps params)
        (outputsView deps params s.files))) := by
  unfold Put.OwnNames putsOf
  rw [List.pairwise_map]
  refine (List.Pairwise.and_mem.mp (attemptsOf_pairwise _)).imp ?_
  intro attempt other hboth hstored hstored' hname
  rcases hboth with ⟨hmem, hmem', hne⟩
  apply hne
  apply h attempt other hmem hmem' hstored hstored'
  unfold artifactRef
  exact congrArg _ hname

theorem pairwise_or_eq {α : Type} {R : α -> α -> Prop} {items : List α}
    (h : items.Pairwise R) {a b : α} (ha : a ∈ items) (hb : b ∈ items) :
    a = b ∨ R a b ∨ R b a := by
  induction h with
  | nil =>
      cases ha
  | cons hfirst _ ih =>
      rcases List.mem_cons.mp ha with ha | ha <;> rcases List.mem_cons.mp hb with hb | hb
      · exact Or.inl (ha.trans hb.symm)
      · rw [ha]
        exact Or.inr (Or.inl (hfirst b hb))
      · rw [hb]
        exact Or.inr (Or.inr (hfirst a ha))
      · exact ih ha hb

/-- A capture stores all pieces exactly if it could. -/
theorem Captured.storesPieces_iff
    (h : Captured deps params (packetContent deps params) s result s') :
    StoresPieces deps params s result s' <-> Capturable deps params s := by
  have hmade : forall attempt, attempt ∈ attemptsOf deps params (packetContent deps params)
      (outputsView deps params s.files) ->
      (attempt.put deps params (outputsView deps params s.files)).stored = true ->
      Reads deps params result.snapshot? attempt.piece attempt.content ∧
        Storable deps params s.files attempt.piece attempt.content := by
    intro attempt hmem hstored
    rw [h.snapshot_eq]
    exact ⟨reads_of_mem hmem, (storable_iff attempt s.files).mpr hstored⟩
  constructor
  · intro hpieces
    have hnames := @ownNames_of_ownReferences deps params s (by
      intro attempt other hmem hmem' hstored hstored' href
      rcases hmade attempt hmem hstored with ⟨hreads, hstorable⟩
      rcases hmade other hmem' hstored' with ⟨hreads', hstorable'⟩
      exact hpieces.ownReferences _ _ _ _ hreads hstorable hreads' hstorable' href)
    refine ⟨?_, hnames, ?_, ?_⟩
    · rw [or_iff_not_imp_left]
      intro hunread filename content hreads hstorable
      -- The reference would be that of another piece.
      have hreads' : Reads deps params result.snapshot? (.output filename) content := by
        cases hreads with
        | output hfound hlisting hentry hfile hread =>
            exact .output hfound hlisting hentry hfile hread
      rcases h.mem_refs.mp (hpieces.stored _ _ hreads' hstorable).1 with
        ⟨attempt, hmem, hstored, href⟩
      rcases hmade attempt hmem hstored with ⟨hreadsOther, hstorableOther⟩
      have hsame := hpieces.ownReferences _ _ _ _ hreadsOther hstorableOther hreads'
        hstorable href
      rcases mem_attemptsOf.mp hmem with hgit | houtput | hinvalid | ⟨taken, _, heq⟩
      · rcases mem_gitDiffAttempts.mp hgit with ⟨_, _, _, heq⟩
        rw [heq] at hsame
        cases hsame
      · unfold outputAttempts at houtput
        cases hfiles : readOutputFiles deps.outputFiles params.workspacePath with
        | error message =>
            rw [hfiles] at houtput
            cases houtput
        | ok files =>
            exact hunread ⟨files, hfiles⟩
      · rcases mem_invalidResultAttempts.mp hinvalid with ⟨_, _, heq⟩
        rw [heq] at hsame
        cases hsame
      · rw [heq] at hsame
        cases hsame
    · apply (@Put.kept_iff_spared _ _ _ _ (outputsView deps params s.files).held hnames).mp
      intro put hput hstored
      rcases List.mem_map.mp hput with ⟨attempt, hmem, heq⟩
      rw [← heq] at hstored ⊢
      rcases hmade attempt hmem hstored with ⟨hreads, hstorable⟩
      rw [(put_name attempt _).1, (put_name attempt _).2, ← h.content attempt]
      exact (hpieces.stored _ _ hreads hstorable).2.1
    · rw [← h.stores.refs]
      apply h.recorded_iff.mp
      intro ref href
      rcases h.mem_refs.mp href with ⟨attempt, hmem, hstored, heq⟩
      rcases hmade attempt hmem hstored with ⟨hreads, hstorable⟩
      rw [← heq]
      exact (hpieces.stored _ _ hreads hstorable).2.2
  · intro hcapturable
    have hattempt : forall piece content, Reads deps params result.snapshot? piece content ->
        Storable deps params s.files piece content ->
        exists attempt,
          attempt ∈ attemptsOf deps params (packetContent deps params)
            (outputsView deps params s.files) ∧
          (attempt.put deps params (outputsView deps params s.files)).stored = true ∧
          attempt.piece = piece ∧ attempt.content = content := by
      intro piece content hreads hstorable
      have hreads' := hreads
      rw [h.snapshot_eq] at hreads'
      rcases exists_attempt hreads' with ⟨attempt, hmem, hpiece, hcontent⟩ |
        ⟨hunread, filename, hpiece⟩
      · rw [← hpiece, ← hcontent] at hstorable
        exact ⟨attempt, hmem, (storable_iff attempt s.files).mp hstorable, hpiece, hcontent⟩
      · rcases hcapturable.outputs with hread | hnone
        · exact absurd hread hunread
        · rw [hpiece] at hreads hstorable
          refine absurd hstorable (hnone filename content ?_)
          cases hreads with
          | output hfound hlisting hentry hfile hread =>
              exact .output hfound hlisting hentry hfile hread
    have hkept := (@Put.kept_iff_spared _ _ _ _ (outputsView deps params s.files).held
      hcapturable.ownNames).mpr hcapturable.spared
    have hlease := hcapturable.lease
    rw [← h.stores.refs] at hlease
    constructor
    · intro piece content hreads hstorable
      rcases hattempt piece content hreads hstorable with
        ⟨attempt, hmem, hstored, hpiece, hcontent⟩
      have href := h.mem_refs.mpr ⟨attempt, hmem, hstored, rfl⟩
      rw [← hpiece, ← hcontent]
      refine ⟨href, ?_, h.recorded_iff.mpr hlease _ href⟩
      rw [h.content attempt]
      exact hkept _ (List.mem_map_of_mem hmem) hstored
    · intro piece piece' content content' hreads hstorable hreads' hstorable' href
      rcases hattempt piece content hreads hstorable with ⟨attempt, hmem, hstored, hpiece, _⟩
      rcases hattempt piece' content' hreads' hstorable' with
        ⟨other, hmem', hstored', hpiece', _⟩
      rw [← hpiece, ← hpiece'] at href ⊢
      have hname := artifactRef_injective attempt.isName other.isName href
      have hnames := hcapturable.ownNames
      unfold Put.OwnNames putsOf at hnames
      rw [List.pairwise_map] at hnames
      rcases pairwise_or_eq hnames hmem hmem' with heq | hne | hne
      · rw [heq]
      · exact absurd hname (hne hstored hstored')
      · exact absurd hname.symm (hne hstored' hstored)

/-- A worker has written the only entry of its outputs, and all calls go well. -/
def ownDiff : CrashRecoveryDependencies where
  packetFiles :=
    { pathExists := fun _ => .ok false
      readFile := fun _ => .error "ENOENT: no such file or directory"
      readdir := fun _ => .error "ENOENT: no such file or directory" }
  outputFiles :=
    { pathExists := fun _ => .ok true
      readFile := fun _ => .ok "of the worker"
      readdir := fun _ =>
        .ok
          { entries :=
              [{ name := gitDiffFilename
                 isDirectory := false
                 isName := isName_of_length (by decide) (by decide) }]
            nodup := List.nodup_singleton _ } }
  git :=
    { diffNameOnly := fun _ => .ok ["a.txt"]
      diff := fun _ => .ok (some "of git") }
  artifactRoot := "/artifacts"
  answers := fun _ _ => .error "EIO: i/o error"
  outcomes := fun _ _ => .succeeds
  leaseUpdate := .ok ()
  jsonParse := fun _ => .error "Unexpected end of JSON input"
  isDatetime := fun _ => false
  stringify := fun _ => "\x7b\x7d"
  now := "2026-01-01T00:00:00.000Z"

def ownDiffRun : CrashRecoveryParams where
  leaseId := "lease-1"
  taskId := "task-1"
  repoId := "repo-1"
  runId := "run-1"
  workspacePath := "/workspaces/repo-1/task-1"
  worktreePath := "/workspaces/repo-1/task-1/worktree"

def emptyStore : RecoveryState where
  files :=
    { workingDirectory := []
      entry := fun location => if location = [] then some .directory else none }
  leaseRefs := fun _ => []

end Recovery
end CopilotFactory
