import CopilotFactory.Automation.CopilotCliRuns

/-!
# Stale packets

A packet should count for a run only if it was written after the run was started.
The adapter never removes the output file, so that a packet of an earlier run counts
for a later one that leaves the file alone.
-/

namespace CopilotFactory
namespace Automation

open Foundations

variable {J : Type}

/-!
## Packets that are fresh
-/

variable {files : FileSystem StampedText} {file : StampedText} {w : AdapterWorld}
  {adapter : CopilotCliAdapter J} {runId : String}

/-- The packet that counts for the run is the one on its own stdout, or its output file
was written after the run was started. -/
def FreshPacket (adapter : CopilotCliAdapter J) (w : AdapterWorld) (run : AdapterRun) : Prop :=
  forall file, run.outputFile w.files = some file ->
    (adapter.tools.parse file.text).isSome = true ->
    exists startedAt, run.startedAt = some startedAt ∧ startedAt < file.writtenAt

/-- Where the artifacts of a run are collected, or the run is finalized, its packet is
valid, or it ends in success, only on the basis of a fresh packet. -/
def CountsOnlyFresh (adapter : CopilotCliAdapter J) (w : AdapterWorld) : AdapterEvent -> Prop
  | .collectArtifacts runId =>
      forall run artifacts, w.runs runId = some run ->
        run.artifacts adapter runId w.files = .ok artifacts ->
        artifacts.packetValid = true ->
        FreshPacket adapter w run
  | .finalizeRun runId =>
      forall run artifacts result, w.runs runId = some run ->
        finalArtifacts adapter.tools run.expectedType runId (run.state w.files) =
          .ok artifacts ->
        run.finalResult adapter runId w.files = .ok result ->
        artifacts.packetValid = true ∨ result.status = .success ->
        FreshPacket adapter w run
  | _ => True

def HoldsValidPacket (adapter : CopilotCliAdapter J) (run : AdapterRun) (text : String) :
    Prop :=
  exists packet, adapter.tools.parse text = some packet ∧
    validatePacketSchema adapter.tools packet run.expectedType = true

/-- The output file of the run is still the one that its start found, with a valid
packet. -/
def StalePacket (adapter : CopilotCliAdapter J) (w : AdapterWorld) (run : AdapterRun) : Prop :=
  (run.phase = .completed ∨ run.phase = .cancelled) ∧
    exists file, run.foundAtStart = some file ∧ run.outputFile w.files = some file ∧
      HoldsValidPacket adapter run file.text

def MeetsStalePacket (adapter : CopilotCliAdapter J) (w : AdapterWorld) : AdapterEvent -> Prop
  | .collectArtifacts runId => exists run, w.runs runId = some run ∧ StalePacket adapter w run
  | .finalizeRun runId => exists run, w.runs runId = some run ∧ StalePacket adapter w run
  | _ => False

def StartsOverPacket (adapter : CopilotCliAdapter J) (w : AdapterWorld) : AdapterEvent -> Prop
  | .startRun runId _ =>
      exists run file, w.runs runId = some run ∧ run.phase = .prepared ∧
        run.outputFile w.files = some file ∧ HoldsValidPacket adapter run file.text
  | _ => False

/-!
## Time stamps
-/

/-- What the stamps of a run and of its output file say about each other. -/
structure RunStamped (clock : Nat) (files : FileSystem StampedText) (run : AdapterRun) :
    Prop where
  unstarted : run.startedAt = none -> run.phase = .prepared
  before : forall startedAt, run.startedAt = some startedAt -> startedAt < clock
  found : forall startedAt file, run.startedAt = some startedAt ->
    run.foundAtStart = some file -> file.writtenAt < startedAt
  /-- The output file was written since the start, or the start found it. -/
  since : forall startedAt file, run.startedAt = some startedAt ->
    run.outputFile files = some file ->
    startedAt < file.writtenAt ∨ run.foundAtStart = some file

structure Stamped (w : AdapterWorld) : Prop where
  files : forall location file, w.files.entry location = some (.file file) ->
    file.writtenAt < w.clock
  runs : forall runId run, w.runs runId = some run -> RunStamped w.clock w.files run

theorem outputFile_eq_some {run : AdapterRun} :
    run.outputFile files = some file <-> files.readFile run.outputFilePath = .ok file := by
  unfold AdapterRun.outputFile
  cases files.readFile run.outputFilePath with
  | error message =>
      simp [Except.toOption]
  | ok content =>
      simp [Except.toOption]

theorem Stamped.outputFile (h : Stamped w) {run : AdapterRun}
    (hfile : run.outputFile w.files = some file) : file.writtenAt < w.clock := by
  rw [outputFile_eq_some] at hfile
  unfold FileSystem.readFile at hfile
  split at hfile
  · rename_i hentry
    cases hfile
    exact h.files _ _ hentry
  · cases hfile
  · cases hfile

theorem RunStamped.kept {clock : Nat} {files' : FileSystem StampedText} {run run' : AdapterRun}
    (h : RunStamped clock files run) (hsame : SameStart run run')
    (hfiles : files.WritesOnly (fun file => file.writtenAt = clock) files') :
    RunStamped (clock + 1) files' run' where
  unstarted hnone := by
    rw [hsame.startedAt] at hnone
    exact hsame.prepared hnone (h.unstarted hnone)
  before startedAt hstarted := by
    rw [hsame.startedAt] at hstarted
    exact Nat.lt_succ_of_lt (h.before startedAt hstarted)
  found startedAt file hstarted hfound := by
    rw [hsame.startedAt] at hstarted
    rw [hsame.foundAtStart] at hfound
    exact h.found startedAt file hstarted hfound
  since startedAt file hstarted hfile := by
    rw [hsame.startedAt] at hstarted
    rw [hsame.foundAtStart]
    rw [outputFile_eq_some, hsame.outputFilePath] at hfile
    rcases hfiles.readFile hfile with hold | hnew
    · exact h.since startedAt file hstarted (outputFile_eq_some.mpr hold)
    · left
      rw [hnew]
      exact h.before startedAt hstarted

theorem Stamped.advances {w' : AdapterWorld} {event : AdapterEvent} (h : Stamped w)
    (hadvances : Advances w event w') :
    Stamped w'.tick where
  files location file hfile := by
    show file.writtenAt < w'.clock + 1
    rw [hadvances.clock]
    rcases hadvances.files.file location file hfile with hold | hnew
    · exact Nat.lt_succ_of_lt (h.files location file hold)
    · rw [hnew]
      exact Nat.lt_succ_self w.clock
  runs runId run' hrun' := by
    show RunStamped (w'.clock + 1) w'.files run'
    rw [hadvances.clock]
    cases hadvances.runs runId run' hrun' with
    | kept run hrun hsame =>
        exact (h.runs runId run hrun).kept hsame hadvances.files
    | prepared hstarted hphase hfound =>
        refine ⟨fun _ => hphase, ?_, ?_, ?_⟩
        · intro startedAt hsome
          rw [hstarted] at hsome
          cases hsome
        · intro startedAt file hsome
          rw [hstarted] at hsome
          cases hsome
        · intro startedAt file hsome
          rw [hstarted] at hsome
          cases hsome
    | started spawns run hevent hfiles hrun hphase hcontext hpath hstarted hfound =>
        refine ⟨?_, ?_, ?_, ?_⟩
        · intro hnone
          rw [hstarted] at hnone
          cases hnone
        · intro startedAt hsome
          rw [hstarted] at hsome
          cases hsome
          exact Nat.lt_succ_self w.clock
        · intro startedAt file hsome hfile
          rw [hstarted] at hsome
          cases hsome
          rw [hfound] at hfile
          exact h.outputFile hfile
        · intro startedAt file hsome hfile
          right
          rw [outputFile_eq_some, hpath, hfiles] at hfile
          rw [hfound]
          exact outputFile_eq_some.mpr hfile

theorem adapterRuns_stamped (adapter : CopilotCliAdapter J) :
    (adapterRuns adapter).Preserves (fun _ => True) Stamped := by
  intro w event w' _ h hstep
  cases hstep
  exact h.advances (apply_advances adapter w event)

theorem stamped_initial (files : FileSystem String) : Stamped (AdapterWorld.initial files) where
  files location file hfile := by
    unfold AdapterWorld.initial at hfile
    dsimp only at hfile
    split at hfile
    · cases hfile
    · cases hfile
    · cases hfile
      exact Nat.zero_lt_one
  runs runId run hrun := by
    cases hrun

/-!
## Which packets count
-/

theorem state_outputFile (adapter : CopilotCliAdapter J) (run : AdapterRun)
    (files : FileSystem StampedText) :
    (run.state files).outputFile.bind adapter.tools.parse = run.filePacket adapter files := by
  unfold AdapterRun.filePacket AdapterRun.state
  exact Option.bind_map

theorem valid_artifacts_iff {run : AdapterRun} :
    (exists artifacts, run.artifacts adapter runId files = .ok artifacts ∧
      artifacts.packetValid = true) <->
      (run.phase = .completed ∨ run.phase = .cancelled) ∧
        exists packet, producedPacket adapter.tools (run.state files) = some packet ∧
          validatePacketSchema adapter.tools packet run.expectedType = true := by
  have hphase : (run.state files).phase = run.phase := rfl
  unfold AdapterRun.artifacts collectArtifacts
  rw [hphase]
  cases run.phase with
  | prepared =>
      simp
  | running =>
      simp
  | finalized =>
      simp
  | completed =>
      cases producedPacket adapter.tools (run.state files) with
      | none =>
          simp
      | some packet =>
          simp
  | cancelled =>
      cases producedPacket adapter.tools (run.state files) with
      | none =>
          simp
      | some packet =>
          simp

/-- A run whose packet counts has a stale one exactly when it has no fresh one. -/
theorem fresh_iff_of_valid {run : AdapterRun} (h : RunStamped w.clock w.files run)
    (hvalid : exists artifacts, run.artifacts adapter runId w.files = .ok artifacts ∧
      artifacts.packetValid = true) :
    FreshPacket adapter w run <-> ¬ StalePacket adapter w run := by
  rcases valid_artifacts_iff.mp hvalid with ⟨hphase, packet, hproduced, hschema⟩
  constructor
  · intro hfresh hstale
    rcases hstale with ⟨_, file, hfound, hfile, other, hparse, _⟩
    have hsome : (adapter.tools.parse file.text).isSome = true := by
      rw [hparse]
      rfl
    rcases hfresh file hfile hsome with ⟨startedAt, hstarted, hlate⟩
    exact absurd (h.found startedAt file hstarted hfound) (Nat.lt_asymm hlate)
  · intro hstale file hfile hsome
    cases hstarted : run.startedAt with
    | none =>
        have hprepared := h.unstarted hstarted
        rw [hprepared] at hphase
        rcases hphase with hphase | hphase
        · cases hphase
        · cases hphase
    | some startedAt =>
        refine ⟨startedAt, rfl, ?_⟩
        rcases h.since startedAt file hstarted hfile with hlate | hfound
        · exact hlate
        · rcases Option.isSome_iff_exists.mp hsome with ⟨found, hparse⟩
          have hfilePacket : run.filePacket adapter w.files = some found := by
            unfold AdapterRun.filePacket
            rw [hfile]
            exact hparse
          unfold producedPacket at hproduced
          rw [state_outputFile, hfilePacket] at hproduced
          cases hproduced
          exact absurd ⟨hphase, file, hfound, hfile, packet, hparse, hschema⟩ hstale

theorem StalePacket.valid {run : AdapterRun} (h : StalePacket adapter w run) (runId : String) :
    exists artifacts, run.artifacts adapter runId w.files = .ok artifacts ∧
      artifacts.packetValid = true := by
  rcases h with ⟨hphase, file, _, hfile, packet, hparse, hschema⟩
  refine valid_artifacts_iff.mpr ⟨hphase, packet, ?_, hschema⟩
  have hfilePacket : run.filePacket adapter w.files = some packet := by
    unfold AdapterRun.filePacket
    rw [hfile]
    exact hparse
  unfold producedPacket
  rw [state_outputFile, hfilePacket]

theorem valid_of_finalized {run : AdapterRun} {artifacts : CollectedArtifacts J}
    {result : FinalizeResult}
    (hartifacts : finalArtifacts adapter.tools run.expectedType runId (run.state files) =
      .ok artifacts)
    (hresult : run.finalResult adapter runId files = .ok result)
    (hcounts : artifacts.packetValid = true ∨ result.status = .success) :
    run.artifacts adapter runId files = .ok artifacts ∧ artifacts.packetValid = true := by
  unfold AdapterRun.finalResult at hresult
  simp only [finalizeRun, bind_eq_ok, pure_eq_ok, ensure_eq_ok] at hresult
  rcases hresult with ⟨_, _, _, _, final, hfinal, hstatus⟩
  rw [hartifacts] at hfinal
  cases hfinal
  have hvalid : artifacts.packetValid = true := by
    rcases hcounts with hvalid | hsuccess
    · exact hvalid
    · rw [← hstatus] at hsuccess
      unfold determineRunStatus at hsuccess
      cases hpacket : artifacts.packetValid with
      | true =>
          rfl
      | false =>
          rw [hpacket] at hsuccess
          dsimp only at hsuccess
          split at hsuccess
          · cases hsuccess
          · split at hsuccess
            · cases hsuccess
            · split at hsuccess
              · contradiction
              · split at hsuccess
                · cases hsuccess
                · split at hsuccess
                  · cases hsuccess
                  · cases hsuccess
  unfold finalArtifacts at hartifacts
  split at hartifacts
  · cases hartifacts
    cases hvalid
  · exact ⟨hartifacts, hvalid⟩

theorem finalized_of_valid {run : AdapterRun} {artifacts : CollectedArtifacts J}
    (h : run.artifacts adapter runId files = .ok artifacts) :
    finalArtifacts adapter.tools run.expectedType runId (run.state files) = .ok artifacts ∧
      exists result, run.finalResult adapter runId files = .ok result := by
  have hphase : (run.state files).phase = run.phase := rfl
  have hstate : collectArtifacts adapter.tools run.expectedType runId (run.state files) =
      .ok artifacts := h
  have hnot : run.phase ≠ .prepared ∧ run.phase ≠ .running ∧ run.phase ≠ .finalized := by
    unfold collectArtifacts at hstate
    rw [hphase] at hstate
    split at hstate <;> simp_all
  have hfinal : finalArtifacts adapter.tools run.expectedType runId (run.state files) =
      .ok artifacts := by
    unfold finalArtifacts
    rw [hphase, if_neg hnot.1]
    exact hstate
  refine ⟨hfinal, ?_⟩
  unfold AdapterRun.finalResult finalizeRun
  rw [hphase, hfinal]
  simp [ensure, hnot.2.1, hnot.2.2]

theorem countsOnlyFresh_iff (adapter : CopilotCliAdapter J) (h : Stamped w)
    (event : AdapterEvent) :
    CountsOnlyFresh adapter w event <-> ¬ MeetsStalePacket adapter w event := by
  cases event with
  | collectArtifacts runId =>
      constructor
      · intro hcounts hmeets
        rcases hmeets with ⟨run, hrun, hstale⟩
        rcases hstale.valid runId with ⟨artifacts, hartifacts, hvalid⟩
        exact (fresh_iff_of_valid (h.runs runId run hrun) ⟨artifacts, hartifacts, hvalid⟩).mp
          (hcounts run artifacts hrun hartifacts hvalid) hstale
      · intro hmeets run artifacts hrun hartifacts hvalid
        apply (fresh_iff_of_valid (h.runs runId run hrun) ⟨artifacts, hartifacts, hvalid⟩).mpr
        intro hstale
        exact hmeets ⟨run, hrun, hstale⟩
  | finalizeRun runId =>
      constructor
      · intro hcounts hmeets
        rcases hmeets with ⟨run, hrun, hstale⟩
        rcases hstale.valid runId with ⟨artifacts, hartifacts, hvalid⟩
        rcases finalized_of_valid hartifacts with ⟨hfinal, result, hresult⟩
        exact (fresh_iff_of_valid (h.runs runId run hrun) ⟨artifacts, hartifacts, hvalid⟩).mp
          (hcounts run artifacts result hrun hfinal hresult (Or.inl hvalid)) hstale
      · intro hmeets run artifacts result hrun hfinal hresult hcounts
        apply (fresh_iff_of_valid (h.runs runId run hrun)
          ⟨artifacts, valid_of_finalized hfinal hresult hcounts⟩).mpr
        intro hstale
        exact hmeets ⟨run, hrun, hstale⟩
  | _ =>
      exact ⟨fun _ hmeets => hmeets, fun _ => trivial⟩

def NoneFound (adapter : CopilotCliAdapter J) (w : AdapterWorld) : Prop :=
  forall runId run file, w.runs runId = some run -> run.foundAtStart = some file ->
    ¬ HoldsValidPacket adapter run file.text

theorem NoneFound.next {event : AdapterEvent} (h : NoneFound adapter w)
    (hstarts : ¬ StartsOverPacket adapter w event) :
    NoneFound adapter ((adapterRuns adapter).next w event) := by
  intro runId run' file hrun' hfile hholds
  cases (apply_advances adapter w event).runs runId run' hrun' with
  | kept run hrun hsame =>
      rw [hsame.foundAtStart] at hfile
      unfold HoldsValidPacket AdapterRun.expectedType at hholds
      rw [hsame.context] at hholds
      exact h runId run file hrun hfile hholds
  | prepared hstarted hphase hfound =>
      rw [hfound] at hfile
      cases hfile
  | started spawns run hevent hfiles hrun hphase hcontext hpath hstarted hfound =>
      rw [hfound] at hfile
      unfold HoldsValidPacket AdapterRun.expectedType at hholds
      rw [hcontext] at hholds
      apply hstarts
      rw [hevent]
      exact ⟨run, file, hrun, hphase, hfile, hholds⟩

theorem NoneFound.not_meets (h : NoneFound adapter w) (event : AdapterEvent) :
    ¬ MeetsStalePacket adapter w event := by
  intro hmeets
  cases event with
  | collectArtifacts runId =>
      rcases hmeets with ⟨run, hrun, _, file, hfound, _, hholds⟩
      exact h runId run file hrun hfound hholds
  | finalizeRun runId =>
      rcases hmeets with ⟨run, hrun, _, file, hfound, _, hholds⟩
      exact h runId run file hrun hfound hholds
  | _ =>
      exact hmeets

def dispatchedFiles (artifactsRoot : String) (runContext : RunContext)
    (taskPacket effectivePolicySnapshot : String) (generatePrompt : String -> String) :
    WorkspaceRunContext :=
  let artifactRoot := Path.join [artifactsRoot, runContext.taskId]
  { runContext := runContext
    artifactRoot := artifactRoot
    packetInputPath :=
      Path.join [Path.join [artifactRoot, "packets", "input"], "task-packet.json"]
    policySnapshotPath := Path.join [artifactRoot, "policy-snapshot.json"]
    taskPacket := taskPacket
    effectivePolicySnapshot := effectivePolicySnapshot
    generatePrompt := generatePrompt }

def developerContext : WorkspaceRunContext :=
  dispatchedFiles "/data/artifacts"
    { taskId := "task-1"
      outputSchemaExpectation := { packetType := "dev_result_packet", schemaVersion := "1.0" }
      customPrompt := none }
    "task packet" "policy" (fun path => "Write to " ++ path)

def developerAdapter : CopilotCliAdapter Json where
  tools := developerTools "1.0"
  stringify := fun _ => developerText "1.0"

def emptyDisk : FileSystem String where
  workingDirectory := []
  entry := fun location => if location = [] then some .directory else none

/-- The worker of the first run writes its packet, and that of the second run exits with
code 1 and writes nothing. -/
def retriedRuns : List AdapterEvent :=
  [.mkdir "/data/artifacts/task-1/packets/input",
    .prepareRun "run-1" developerContext,
    .startRun "run-1" true,
    .writeFile "/data/artifacts/task-1/result-packet.json" (developerText "1.0"),
    .exit "run-1" (some 0),
    .finalizeRun "run-1",
    .prepareRun "run-2" developerContext,
    .startRun "run-2" true,
    .exit "run-2" (some 1)]

def retriedWorld : AdapterWorld :=
  (adapterRuns developerAdapter).run (AdapterWorld.initial emptyDisk) retriedRuns

theorem retriedWorld_stamped : Stamped retriedWorld :=
  (adapterRuns_stamped developerAdapter).run (fun _ _ => trivial) (stamped_initial _)

theorem retriedWorld_run :
    (retriedWorld.runs "run-2").map (fun run =>
        (run.phase, run.expectedType, run.foundAtStart, run.outputFile retriedWorld.files)) =
      some (.completed, "dev_result_packet",
        some { text := developerText "1.0", writtenAt := 4 },
        some { text := developerText "1.0", writtenAt := 4 }) := by
  decide +kernel

theorem meetsStalePacket_of_fields {expectedType : String}
    (h : (w.runs runId).map (fun run =>
        (run.phase, run.expectedType, run.foundAtStart, run.outputFile w.files)) =
      some (.completed, expectedType, some file, some file))
    {packet : J} (hparse : adapter.tools.parse file.text = some packet)
    (hvalid : validatePacketSchema adapter.tools packet expectedType = true) :
    MeetsStalePacket adapter w (.finalizeRun runId) := by
  rcases Option.map_eq_some_iff.mp h with ⟨run, hruns, hfields⟩
  simp only [Prod.mk.injEq] at hfields
  rcases hfields with ⟨hphase, htype, hfound, hfile⟩
  rw [← htype] at hvalid
  exact ⟨run, hruns, Or.inl hphase, file, hfound, hfile, packet, hparse, hvalid⟩

end Automation
end CopilotFactory
