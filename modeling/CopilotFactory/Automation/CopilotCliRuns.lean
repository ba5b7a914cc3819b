import CopilotFactory.Automation.ResultPackets
import CopilotFactory.Foundations.FileSystem

/-!
# The runs of the adapter

One adapter keeps any number of runs over one file system.  Runs of the same task
have the same artifact root and so the same output file.  Files carry the time of the
event that wrote them, and runs the time of their start.
-/

namespace CopilotFactory
namespace Automation

open Foundations

structure StampedText where
  text : String
  writtenAt : Nat
deriving DecidableEq

structure WorkspaceRunContext where
  runContext : RunContext
  artifactRoot : String
  packetInputPath : String
  policySnapshotPath : String
  taskPacket : String
  effectivePolicySnapshot : String
  /-- The prompt, which names the output file. -/
  generatePrompt : String -> String

structure AdapterRun where
  context : RunContext
  promptFilePath : String
  outputFilePath : String
  phase : RunPhase := .prepared
  stdoutBuffer : String := ""
  stderrBuffer : String := ""
  exitCode : Option Int := none
  logEntries : List RunOutputEvent := []
  startedAt : Option Nat := none
  /-- The output file as it was when the run was started; the adapter does not look. -/
  foundAtStart : Option StampedText := none

def AdapterRun.outputFile (run : AdapterRun) (files : FileSystem StampedText) :
    Option StampedText :=
  (files.readFile run.outputFilePath).toOption

def AdapterRun.state (run : AdapterRun) (files : FileSystem StampedText) :
    CopilotCliRunState where
  phase := run.phase
  stdoutBuffer := run.stdoutBuffer
  stderrBuffer := run.stderrBuffer
  exitCode := run.exitCode
  outputFile := (run.outputFile files).map StampedText.text
  logEntries := run.logEntries

def AdapterRun.expectedType (run : AdapterRun) : String :=
  run.context.outputSchemaExpectation.packetType

structure CopilotCliAdapter (J : Type) where
  outputFileName : String := "result-packet.json"
  promptFileName : String := "prompt.md"
  tools : PacketTools J
  /-- The text that a packet is written as. -/
  stringify : J -> String

structure AdapterWorld where
  clock : Nat
  files : FileSystem StampedText
  runs : String -> Option AdapterRun

variable {J : Type}

/-!
## Preparing and starting
-/

def writeTexts (clock : Nat) :
    List (String × String) -> FileSystem StampedText ->
      FileSystem StampedText × Except String Unit
  | [], files => (files, .ok ())
  | (path, text) :: rest, files =>
      match files.writeFile path { text := text, writtenAt := clock } with
      | .error message => (files, .error message)
      | .ok files' => writeTexts clock rest files'

/-- An output file that is there already stays as it is. -/
def AdapterWorld.prepareRun (adapter : CopilotCliAdapter J) (runId : String)
    (context : WorkspaceRunContext) (w : AdapterWorld) : AdapterWorld :=
  let outputFilePath := Path.join [context.artifactRoot, adapter.outputFileName]
  let promptFilePath := Path.join [context.artifactRoot, adapter.promptFileName]
  match writeTexts w.clock
      [(context.packetInputPath, context.taskPacket),
        (context.policySnapshotPath, context.effectivePolicySnapshot),
        (promptFilePath, context.generatePrompt outputFilePath)] w.files with
  | (files, .error _) => { w with files := files }
  | (files, .ok ()) =>
      { w with
        files := files
        runs := Function.update w.runs runId (some
          { context := context.runContext
            promptFilePath := promptFilePath
            outputFilePath := outputFilePath }) }

def AdapterWorld.modifyRun (runId : String) (change : AdapterRun -> AdapterRun)
    (w : AdapterWorld) : AdapterWorld :=
  { w with runs := Function.update w.runs runId ((w.runs runId).map change) }

/-- Spawning the process may fail. -/
def AdapterWorld.startRun (runId : String) (spawns : Bool) (w : AdapterWorld) :
    AdapterWorld :=
  match w.runs runId with
  | none => w
  | some run =>
      if run.phase = .prepared ∧ (w.files.readFile run.promptFilePath).toOption.isSome ∧
          spawns = true then
        w.modifyRun runId fun run =>
          { run with
            phase := .running
            startedAt := some w.clock
            foundAtStart := run.outputFile w.files }
      else
        w

/-!
## What a process does
-/

def AdapterRun.log (run : AdapterRun) (event : RunOutputEvent) : AdapterRun :=
  { run with logEntries := run.logEntries ++ [event] }

def heartbeatMarker : String :=
  "---HEARTBEAT---"

def AdapterRun.onStdout (data : String) (run : AdapterRun) : AdapterRun :=
  let run := { run with stdoutBuffer := run.stdoutBuffer ++ data }
  let run :=
    if includes data heartbeatMarker then
      run.log { type := .heartbeat, content := "heartbeat" }
    else
      run
  run.log { type := .stdout, content := data }

def AdapterRun.onStderr (data : String) (run : AdapterRun) : AdapterRun :=
  ({ run with stderrBuffer := run.stderrBuffer ++ data } : AdapterRun).log
    { type := .stderr, content := data }

def AdapterRun.onError (message : String) (run : AdapterRun) : AdapterRun :=
  let run := run.onStderr s!"Process spawn error: {message}"
  if run.phase = .running then
    { run with phase := .completed, exitCode := some (-1) }
  else
    run

def AdapterRun.onExit (code : Option Int) (run : AdapterRun) : AdapterRun :=
  { run with
    phase := if run.phase = .running then .completed else run.phase
    exitCode := code }

def AdapterRun.cancel (run : AdapterRun) : AdapterRun :=
  if run.phase = .running then
    { run with phase := .cancelled }
  else
    run

/-- Only a run that was started has a process. -/
def AdapterRun.ofProcess (change : AdapterRun -> AdapterRun) (run : AdapterRun) :
    AdapterRun :=
  if run.startedAt.isSome then
    change run
  else
    run

/-!
## Collecting and finalizing
-/

def AdapterRun.artifacts (adapter : CopilotCliAdapter J) (runId : String)
    (files : FileSystem StampedText) (run : AdapterRun) :
    Except String (CollectedArtifacts J) :=
  collectArtifacts adapter.tools run.expectedType runId (run.state files)

def AdapterRun.finalResult (adapter : CopilotCliAdapter J) (runId : String)
    (files : FileSystem StampedText) (run : AdapterRun) : Except String FinalizeResult :=
  finalizeRun adapter.tools run.expectedType runId (run.state files)

/-- The packet of the output file counts, or is reported as invalid, if there is one. -/
def AdapterRun.filePacket (adapter : CopilotCliAdapter J) (files : FileSystem StampedText)
    (run : AdapterRun) : Option J :=
  (run.outputFile files).bind fun file => adapter.tools.parse file.text

/-- A valid packet from stdout is written to the output file, if that can be done. -/
def AdapterRun.persist (adapter : CopilotCliAdapter J) (clock : Nat)
    (files : FileSystem StampedText) (run : AdapterRun) (artifacts : CollectedArtifacts J) :
    FileSystem StampedText :=
  match artifacts.packetOutput with
  | none => files
  | some packet =>
      if (run.filePacket adapter files).isNone ∧ artifacts.packetValid = true then
        (files.writeFile run.outputFilePath
          { text := adapter.stringify packet, writtenAt := clock }).toOption.getD files
      else
        files

def AdapterWorld.collectArtifacts (adapter : CopilotCliAdapter J) (runId : String)
    (w : AdapterWorld) : AdapterWorld :=
  match w.runs runId with
  | none => w
  | some run =>
      match run.artifacts adapter runId w.files with
      | .error _ => w
      | .ok artifacts => { w with files := run.persist adapter w.clock w.files artifacts }

/-- A run that was finalized is forgotten. -/
def AdapterWorld.finalizeRun (adapter : CopilotCliAdapter J) (runId : String)
    (w : AdapterWorld) : AdapterWorld :=
  match w.runs runId with
  | none => w
  | some run =>
      match run.finalResult adapter runId w.files with
      | .error _ => w
      | .ok _ =>
          let w := w.collectArtifacts adapter runId
          { w with runs := Function.update w.runs runId none }

/-!
## Events
-/

/-- Calls of the adapter, what the processes do, and what anyone does to the files. -/
inductive AdapterEvent where
  | prepareRun (runId : String) (context : WorkspaceRunContext)
  | startRun (runId : String) (spawns : Bool)
  | stdout (runId : String) (data : String)
  | stderr (runId : String) (data : String)
  | processError (runId : String) (message : String)
  | exit (runId : String) (code : Option Int)
  | streamRun (runId : String)
  | cancelRun (runId : String)
  | collectArtifacts (runId : String)
  | finalizeRun (runId : String)
  | writeFile (path : String) (text : String)
  | mkdir (path : String)
  | rm (path : String)

def AdapterEvent.apply (adapter : CopilotCliAdapter J) (w : AdapterWorld) :
    AdapterEvent -> AdapterWorld
  | .prepareRun runId context => w.prepareRun adapter runId context
  | .startRun runId spawns => w.startRun runId spawns
  | .stdout runId data => w.modifyRun runId (AdapterRun.ofProcess (AdapterRun.onStdout data))
  | .stderr runId data => w.modifyRun runId (AdapterRun.ofProcess (AdapterRun.onStderr data))
  | .processError runId message =>
      w.modifyRun runId (AdapterRun.ofProcess (AdapterRun.onError message))
  | .exit runId code => w.modifyRun runId (AdapterRun.ofProcess (AdapterRun.onExit code))
  | .streamRun _ => w
  | .cancelRun runId => w.modifyRun runId AdapterRun.cancel
  | .collectArtifacts runId => w.collectArtifacts adapter runId
  | .finalizeRun runId => w.finalizeRun adapter runId
  | .writeFile path text =>
      { w with
        files := (w.files.writeFile path
          { text := text, writtenAt := w.clock }).toOption.getD w.files }
  | .mkdir path => { w with files := (w.files.mkdir path).toOption.getD w.files }
  | .rm path => { w with files := w.files.rm path }

def AdapterWorld.tick (w : AdapterWorld) : AdapterWorld :=
  { w with clock := w.clock + 1 }

def adapterRuns (adapter : CopilotCliAdapter J) :
    TransitionSystem AdapterWorld AdapterEvent Empty where
  step := fun w event => .ok (event.apply adapter w).tick

def AdapterWorld.initial (files : FileSystem String) : AdapterWorld where
  clock := 1
  files :=
    { workingDirectory := files.workingDirectory
      entry := fun location =>
        match files.entry location with
        | none => none
        | some .directory => some .directory
        | some (.file text) => some (.file { text := text, writtenAt := 0 }) }
  runs := fun _ => none

/-!
## What an event does to the runs
-/

structure SameStart (run run' : AdapterRun) : Prop where
  context : run'.context = run.context
  outputFilePath : run'.outputFilePath = run.outputFilePath
  startedAt : run'.startedAt = run.startedAt
  foundAtStart : run'.foundAtStart = run.foundAtStart
  prepared : run.startedAt = none -> run.phase = .prepared -> run'.phase = .prepared

theorem SameStart.refl (run : AdapterRun) : SameStart run run where
  context := rfl
  outputFilePath := rfl
  startedAt := rfl
  foundAtStart := rfl
  prepared _ h := h

/-- How a run of the world after an event comes from the world before it. -/
inductive RunStep (w : AdapterWorld) (event : AdapterEvent) (files : FileSystem StampedText)
    (runId : String) (run' : AdapterRun) : Prop where
  | kept (run : AdapterRun) (hrun : w.runs runId = some run) (hsame : SameStart run run')
  | prepared (hstarted : run'.startedAt = none) (hphase : run'.phase = .prepared)
      (hfound : run'.foundAtStart = none)
  | started (spawns : Bool) (run : AdapterRun) (hevent : event = .startRun runId spawns)
      (hfiles : files = w.files) (hrun : w.runs runId = some run)
      (hphase : run.phase = .prepared)
      (hcontext : run'.context = run.context)
      (hpath : run'.outputFilePath = run.outputFilePath)
      (hstarted : run'.startedAt = some w.clock)
      (hfound : run'.foundAtStart = run.outputFile w.files)

structure Advances (w : AdapterWorld) (event : AdapterEvent) (w' : AdapterWorld) : Prop where
  clock : w'.clock = w.clock
  files : w.files.WritesOnly (fun file => file.writtenAt = w.clock) w'.files
  runs : forall runId run', w'.runs runId = some run' -> RunStep w event w'.files runId run'

theorem Advances.refl (w : AdapterWorld) (event : AdapterEvent) : Advances w event w where
  clock := rfl
  files := FileSystem.WritesOnly.refl _ _
  runs _ run hrun := .kept run hrun (SameStart.refl run)

variable {files : FileSystem StampedText}

theorem advances_files {w : AdapterWorld} (event : AdapterEvent)
    (h : w.files.WritesOnly (fun file => file.writtenAt = w.clock) files) :
    Advances w event { w with files := files } where
  clock := rfl
  files := h
  runs _ run hrun := .kept run hrun (SameStart.refl run)

theorem advances_update {w : AdapterWorld} {event : AdapterEvent} {runId : String}
    {changed : Option AdapterRun}
    (hfiles : w.files.WritesOnly (fun file => file.writtenAt = w.clock) files)
    (hchanged : forall run', changed = some run' -> RunStep w event files runId run') :
    Advances w event
      { w with files := files, runs := Function.update w.runs runId changed } where
  clock := rfl
  files := hfiles
  runs := by
    intro other run' hrun
    dsimp only at hrun
    by_cases hother : other = runId
    · rw [hother, Function.update_self] at hrun
      rw [hother]
      exact hchanged run' hrun
    · rw [Function.update_of_ne hother] at hrun
      exact .kept run' hrun (SameStart.refl run')

theorem advances_modifyRun (w : AdapterWorld) (event : AdapterEvent) (runId : String)
    {change : AdapterRun -> AdapterRun} (h : forall run, SameStart run (change run)) :
    Advances w event (w.modifyRun runId change) := by
  apply advances_update (FileSystem.WritesOnly.refl _ _)
  intro run' hrun'
  cases hrun : w.runs runId with
  | none =>
      rw [hrun] at hrun'
      cases hrun'
  | some run =>
      rw [hrun] at hrun'
      cases hrun'
      exact .kept run hrun (h run)

theorem sameStart_ofProcess {change : AdapterRun -> AdapterRun}
    (h : forall run, (change run).context = run.context ∧
      (change run).outputFilePath = run.outputFilePath ∧
      (change run).startedAt = run.startedAt ∧
      (change run).foundAtStart = run.foundAtStart) (run : AdapterRun) :
    SameStart run (AdapterRun.ofProcess change run) := by
  unfold AdapterRun.ofProcess
  by_cases hstarted : run.startedAt.isSome = true
  · rw [if_pos hstarted]
    rcases h run with ⟨hcontext, hpath, hstartedAt, hfound⟩
    refine ⟨hcontext, hpath, hstartedAt, hfound, ?_⟩
    intro hnone
    rw [hnone] at hstarted
    cases hstarted
  · rw [if_neg hstarted]
    exact SameStart.refl run

theorem sameStart_cancel (run : AdapterRun) : SameStart run run.cancel := by
  unfold AdapterRun.cancel
  split
  · rename_i hrunning
    refine ⟨rfl, rfl, rfl, rfl, ?_⟩
    intro _ hprepared
    rw [hprepared] at hrunning
    cases hrunning
  · exact SameStart.refl run

theorem writesOnly_writeTexts (clock : Nat) (texts : List (String × String))
    (files : FileSystem StampedText) :
    files.WritesOnly (fun file => file.writtenAt = clock)
      (writeTexts clock texts files).1 := by
  induction texts generalizing files with
  | nil =>
      exact FileSystem.WritesOnly.refl _ _
  | cons entry rest ih =>
      unfold writeTexts
      cases hwrite : files.writeFile entry.1 { text := entry.2, writtenAt := clock } with
      | error message =>
          exact FileSystem.WritesOnly.refl _ _
      | ok files' =>
          have hfirst : files.WritesOnly (fun file => file.writtenAt = clock) files' :=
            FileSystem.writesOnly_writeFile hwrite rfl
          exact hfirst.trans (ih files')

theorem writesOnly_tryWrite {clock : Nat} (path text : String) :
    files.WritesOnly (fun file => file.writtenAt = clock)
      ((files.writeFile path { text := text, writtenAt := clock }).toOption.getD files) := by
  cases hwrite : files.writeFile path { text := text, writtenAt := clock } with
  | error message =>
      exact FileSystem.WritesOnly.refl _ _
  | ok files' =>
      exact FileSystem.writesOnly_writeFile hwrite rfl

theorem writesOnly_persist (adapter : CopilotCliAdapter J) (clock : Nat)
    (files : FileSystem StampedText) (run : AdapterRun) (artifacts : CollectedArtifacts J) :
    files.WritesOnly (fun file => file.writtenAt = clock)
      (run.persist adapter clock files artifacts) := by
  unfold AdapterRun.persist
  split
  · exact FileSystem.WritesOnly.refl _ _
  · split
    · exact writesOnly_tryWrite _ _
    · exact FileSystem.WritesOnly.refl _ _

theorem advances_prepareRun (adapter : CopilotCliAdapter J) (runId : String)
    (context : WorkspaceRunContext) (w : AdapterWorld) (event : AdapterEvent) :
    Advances w event (w.prepareRun adapter runId context) := by
  unfold AdapterWorld.prepareRun
  dsimp only
  have hfiles := writesOnly_writeTexts w.clock
    [(context.packetInputPath, context.taskPacket),
      (context.policySnapshotPath, context.effectivePolicySnapshot),
      (Path.join [context.artifactRoot, adapter.promptFileName],
        context.generatePrompt (Path.join [context.artifactRoot, adapter.outputFileName]))]
    w.files
  split
  · rename_i files _ hwritten
    rw [hwritten] at hfiles
    exact advances_files event hfiles
  · rename_i files hwritten
    rw [hwritten] at hfiles
    apply advances_update hfiles
    intro run' hrun'
    cases hrun'
    exact .prepared rfl rfl rfl

theorem advances_startRun (runId : String) (spawns : Bool) (w : AdapterWorld) :
    Advances w (.startRun runId spawns) (w.startRun runId spawns) := by
  unfold AdapterWorld.startRun
  cases hrun : w.runs runId with
  | none =>
      exact Advances.refl w _
  | some run =>
      dsimp only
      split
      · rename_i hstarts
        apply advances_update (FileSystem.WritesOnly.refl _ _)
        intro run' hrun'
        rw [hrun] at hrun'
        cases hrun'
        exact .started spawns run rfl rfl hrun hstarts.1 rfl rfl rfl rfl
      · exact Advances.refl w _

theorem advances_collectArtifacts (adapter : CopilotCliAdapter J) (runId : String)
    (w : AdapterWorld) (event : AdapterEvent) :
    Advances w event (w.collectArtifacts adapter runId) := by
  unfold AdapterWorld.collectArtifacts
  split
  · exact Advances.refl w event
  · split
    · exact Advances.refl w event
    · exact advances_files event (writesOnly_persist adapter _ _ _ _)

theorem advances_finalizeRun (adapter : CopilotCliAdapter J) (runId : String)
    (w : AdapterWorld) (event : AdapterEvent) :
    Advances w event (w.finalizeRun adapter runId) := by
  unfold AdapterWorld.finalizeRun
  split
  · exact Advances.refl w event
  · split
    · exact Advances.refl w event
    · have hcollect := advances_collectArtifacts adapter runId w event
      refine ⟨hcollect.clock, hcollect.files, ?_⟩
      intro other run' hrun'
      dsimp only at hrun'
      by_cases hother : other = runId
      · rw [hother, Function.update_self] at hrun'
        cases hrun'
      · rw [Function.update_of_ne hother] at hrun'
        exact hcollect.runs other run' hrun'

theorem apply_advances (adapter : CopilotCliAdapter J) (w : AdapterWorld)
    (event : AdapterEvent) :
    Advances w event (event.apply adapter w) := by
  cases event with
  | prepareRun runId context =>
      exact advances_prepareRun adapter runId context w _
  | startRun runId spawns =>
      exact advances_startRun runId spawns w
  | stdout runId data =>
      apply advances_modifyRun
      apply sameStart_ofProcess
      intro run
      unfold AdapterRun.onStdout
      split <;> exact ⟨rfl, rfl, rfl, rfl⟩
  | stderr runId data =>
      apply advances_modifyRun
      apply sameStart_ofProcess
      intro run
      exact ⟨rfl, rfl, rfl, rfl⟩
  | processError runId message =>
      apply advances_modifyRun
      apply sameStart_ofProcess
      intro run
      unfold AdapterRun.onError
      dsimp only
      split <;> exact ⟨rfl, rfl, rfl, rfl⟩
  | exit runId code =>
      apply advances_modifyRun
      apply sameStart_ofProcess
      intro run
      exact ⟨rfl, rfl, rfl, rfl⟩
  | streamRun runId =>
      exact Advances.refl w _
  | cancelRun runId =>
      exact advances_modifyRun w _ runId sameStart_cancel
  | collectArtifacts runId =>
      exact advances_collectArtifacts adapter runId w _
  | finalizeRun runId =>
      exact advances_finalizeRun adapter runId w _
  | writeFile path text =>
      exact advances_files _ (writesOnly_tryWrite path text)
  | mkdir path =>
      apply advances_files
      cases hmade : w.files.mkdir path with
      | error message =>
          exact FileSystem.WritesOnly.refl _ _
      | ok files =>
          rw [FileSystem.mkdir_eq_ok hmade]
          exact FileSystem.writesOnly_withDirectories _ _ _
  | rm path =>
      exact advances_files _ (FileSystem.removedBelow_rm path w.files).writesOnly

end Automation
end CopilotFactory
