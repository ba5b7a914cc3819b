import CopilotFactory.Automation.CopilotCliRuns
import CopilotFactory.Foundations.Utf8

/-!
# Output capture

What a process prints arrives in chunks of bytes, which the operating system cuts as it
likes.  Each chunk is decoded and searched for the heartbeat marker by itself.
-/

namespace CopilotFactory
namespace Automation

open Foundations

variable {chunk : List UInt8}

def spawnedRun (context : RunContext) (promptFilePath outputFilePath : String) :
    AdapterRun where
  context := context
  promptFilePath := promptFilePath
  outputFilePath := outputFilePath
  phase := .running

/-- The spawner decodes a chunk before the listener gets it. -/
def AdapterRun.onStdoutChunk (run : AdapterRun) (chunk : List UInt8) : AdapterRun :=
  run.onStdout (String.ofList (Utf8.decode chunk))

def AdapterRun.capture (run : AdapterRun) (chunks : List (List UInt8)) : AdapterRun :=
  chunks.foldl AdapterRun.onStdoutChunk run

def AdapterRun.heartbeats (run : AdapterRun) : Nat :=
  run.logEntries.countP fun entry => entry.type = .heartbeat

def hasMarker (chunk : List UInt8) : Bool :=
  includes (String.ofList (Utf8.decode chunk)) heartbeatMarker

def markerBytes : List UInt8 :=
  heartbeatMarker.toList.map fun c => UInt8.ofNat c.toNat

def markerCount (bytes : List UInt8) : Nat :=
  bytes.tails.countP markerBytes.isPrefixOf

/-- However the bytes are cut into chunks, the run records the same text and the same number
of heartbeats, and at least one for each marker. -/
structure CapturedAlike (run : AdapterRun) (bytes : List UInt8) : Prop where
  stdout : forall chunks chunks' : List (List UInt8),
    chunks.flatten = bytes -> chunks'.flatten = bytes ->
      (run.capture chunks).stdoutBuffer = (run.capture chunks').stdoutBuffer
  heartbeats : forall chunks chunks' : List (List UInt8),
    chunks.flatten = bytes -> chunks'.flatten = bytes ->
      (run.capture chunks).heartbeats = (run.capture chunks').heartbeats
  markers : forall chunks : List (List UInt8), chunks.flatten = bytes ->
    run.heartbeats + markerCount bytes ≤ (run.capture chunks).heartbeats

/-!
## What a run records
-/

theorem capture_stdoutBuffer (run : AdapterRun) (chunks : List (List UInt8)) :
    (run.capture chunks).stdoutBuffer =
      run.stdoutBuffer ++ String.ofList (chunks.flatMap Utf8.decode) := by
  induction chunks generalizing run with
  | nil =>
      simp [AdapterRun.capture]
  | cons chunk rest ih =>
      have hfirst : (run.onStdoutChunk chunk).stdoutBuffer =
          run.stdoutBuffer ++ String.ofList (Utf8.decode chunk) := by
        unfold AdapterRun.onStdoutChunk AdapterRun.onStdout
        simp only
        split <;> rfl
      have hrest := ih (run.onStdoutChunk chunk)
      rw [hfirst, String.append_assoc, ← String.ofList_append] at hrest
      exact hrest

theorem capture_heartbeats (run : AdapterRun) (chunks : List (List UInt8)) :
    (run.capture chunks).heartbeats = run.heartbeats + chunks.countP hasMarker := by
  induction chunks generalizing run with
  | nil =>
      rfl
  | cons chunk rest ih =>
      have hfirst : (run.onStdoutChunk chunk).heartbeats =
          run.heartbeats + if hasMarker chunk then 1 else 0 := by
        unfold AdapterRun.onStdoutChunk AdapterRun.onStdout hasMarker
        simp only
        split
        · simp [AdapterRun.heartbeats, AdapterRun.log]
        · simp [AdapterRun.heartbeats, AdapterRun.log]
      have hrest := ih (run.onStdoutChunk chunk)
      rw [hfirst] at hrest
      rw [List.countP_cons]
      show ((run.onStdoutChunk chunk).capture rest).heartbeats = _
      omega

theorem markerCount_eq_zero {bytes : List UInt8} :
    markerCount bytes = 0 <-> ¬ markerBytes <:+: bytes := by
  rw [markerCount, List.countP_eq_zero, List.infix_iff_prefix_suffix]
  simp only [List.mem_tails, List.isPrefixOf_iff_prefix, not_exists, not_and]
  constructor
  · intro h tail hprefix hsuffix
    exact h tail hsuffix hprefix
  · intro h tail hsuffix hprefix
    exact h tail hprefix hsuffix

theorem hasMarker_iff :
    hasMarker chunk = true <-> heartbeatMarker.toList <:+: Utf8.decode chunk := by
  rw [hasMarker, includes_iff, String.toList_ofList]

theorem eq_of_byteChar {b : UInt8} (h : Utf8.byteChar b ∈ heartbeatMarker.toList) :
    b = UInt8.ofNat (Utf8.byteChar b).toNat := by
  have hascii : Utf8.replacement ∉ heartbeatMarker.toList := by
    decide
  unfold Utf8.byteChar at h ⊢
  split at h
  · rename_i hlt
    have hvalid : b.toNat.isValidChar := by
      simp only [Nat.isValidChar]
      omega
    rw [if_pos hlt, Char.ofNat, dif_pos hvalid]
    exact (UInt8.ofNat_toNat).symm
  · exact absurd h hascii

theorem markerBytes_of_byteChars {bytes : List UInt8}
    (h : heartbeatMarker.toList <:+: bytes.map Utf8.byteChar) : markerBytes <:+: bytes := by
  rcases List.infix_map_iff.mp h with ⟨part, hpart, hmarker⟩
  have hown : forall b, b ∈ part -> UInt8.ofNat (Utf8.byteChar b).toNat = b := by
    intro b hb
    apply (eq_of_byteChar _).symm
    rw [hmarker]
    exact List.mem_map_of_mem hb
  have hbytes : markerBytes = part := by
    rw [markerBytes, hmarker, List.map_map]
    exact (List.map_congr_left hown).trans (List.map_id' part)
  rw [hbytes]
  exact hpart

theorem hasMarker_singleton (b : UInt8) : hasMarker [b] = false := by
  rw [Bool.eq_false_iff]
  intro h
  have hlength := (hasMarker_iff.mp h).length_le
  rw [Utf8.decode_singleton] at hlength
  have hmarker : heartbeatMarker.toList.length = 15 := by
    decide
  rw [hmarker, List.length_singleton] at hlength
  omega

theorem flatten_singletons (bytes : List UInt8) : (bytes.map fun b => [b]).flatten = bytes := by
  rw [← List.flatMap_def]
  exact List.flatMap_singleton' bytes

section Chunks

variable {bytes : List UInt8} {chunks : List (List UInt8)}

theorem infix_of_mem_chunks (hchunks : chunks.flatten = bytes) (hmem : chunk ∈ chunks) :
    chunk <:+: bytes := by
  rw [← hchunks]
  exact List.infix_of_mem_flatten hmem

/-- Where no bytes make a sequence, each byte of a chunk is decoded by itself. -/
theorem decode_of_mem_chunks (hsequence : Utf8.NoSequence bytes)
    (hchunks : chunks.flatten = bytes) (hmem : chunk ∈ chunks) :
    Utf8.decode chunk = chunk.map Utf8.byteChar := by
  have hchain := List.IsChain.infix hsequence (infix_of_mem_chunks hchunks hmem)
  exact Utf8.decode_eq_map hchain

theorem flatMap_decode_of_chunks (hsequence : Utf8.NoSequence bytes)
    (hchunks : chunks.flatten = bytes) :
    chunks.flatMap Utf8.decode = bytes.map Utf8.byteChar := by
  have heach : forall chunk, chunk ∈ chunks ->
      Utf8.decode chunk = chunk.map Utf8.byteChar :=
    fun _ hmem => decode_of_mem_chunks hsequence hchunks hmem
  rw [← hchunks, List.map_flatten, List.flatMap_def, List.map_congr_left heach]

theorem heartbeats_of_chunks {run : AdapterRun} (hmarker : ¬ markerBytes <:+: bytes)
    (hsequence : Utf8.NoSequence bytes) (hchunks : chunks.flatten = bytes) :
    (run.capture chunks).heartbeats = run.heartbeats := by
  rw [capture_heartbeats, List.countP_eq_zero.mpr, Nat.add_zero]
  intro chunk hmem hhas
  have hmap := hasMarker_iff.mp hhas
  rw [decode_of_mem_chunks hsequence hchunks hmem] at hmap
  exact hmarker ((markerBytes_of_byteChars hmap).trans (infix_of_mem_chunks hchunks hmem))

end Chunks

theorem capturedAlike_iff {run : AdapterRun} {bytes : List UInt8} :
    CapturedAlike run bytes <-> ¬ markerBytes <:+: bytes ∧ Utf8.NoSequence bytes := by
  have hwhole : [bytes].flatten = bytes := by
    simp
  have hsingles := flatten_singletons bytes
  constructor
  · intro h
    constructor
    · have hcount := h.markers _ hsingles
      rw [capture_heartbeats] at hcount
      have hnone : (bytes.map fun b => [b]).countP hasMarker = 0 := by
        rw [List.countP_eq_zero]
        intro chunk hchunk
        rcases List.mem_map.mp hchunk with ⟨b, _, hb⟩
        rw [← hb, hasMarker_singleton]
        simp
      rw [← markerCount_eq_zero]
      omega
    · by_contra hsequence
      have hstdout := h.stdout _ _ hwhole hsingles
      rw [capture_stdoutBuffer, capture_stdoutBuffer] at hstdout
      have htext := congrArg (fun text => text.toList.length) hstdout
      have hshort := Utf8.length_decode_lt hsequence
      simp [List.flatMap_map, Utf8.decode_singleton] at htext
      omega
  · intro h
    rcases h with ⟨hmarker, hsequence⟩
    constructor
    · intro chunks chunks' hchunks hchunks'
      rw [capture_stdoutBuffer, capture_stdoutBuffer,
        flatMap_decode_of_chunks hsequence hchunks,
        flatMap_decode_of_chunks hsequence hchunks']
    · intro chunks chunks' hchunks hchunks'
      rw [heartbeats_of_chunks hmarker hsequence hchunks,
        heartbeats_of_chunks hmarker hsequence hchunks']
    · intro chunks hchunks
      rw [heartbeats_of_chunks hmarker hsequence hchunks, markerCount_eq_zero.mpr hmarker]
      exact le_rfl

/-!
## Streams of events

A stream yields the events of a run one by one.  Its steps lie between those of the process
and of others; between two steps it waits for its consumer or for a timer.
-/

/-- The event that is recorded with a log entry: a heartbeat has no content. -/
def outputEvent (entry : RunOutputEvent) : RunOutputEvent :=
  if entry.type = .heartbeat then { entry with content := "" } else entry

def AdapterRun.outputEvents (run : AdapterRun) : List RunOutputEvent :=
  run.logEntries.map outputEvent

/-- The loop that a stream is in, or the timer that it waits for. -/
inductive StreamPoint where
  | replaying
  | sleeping
  | polling
  | remaining
  | finished
deriving DecidableEq

structure StreamState where
  cursor : Nat := 0
  yielded : List RunOutputEvent := []
  point : StreamPoint := .replaying
deriving DecidableEq

def StreamState.yieldNext (s : StreamState) (events : List RunOutputEvent)
    (point : StreamPoint) : Option StreamState :=
  events[s.cursor]?.map fun event =>
    { cursor := s.cursor + 1, yielded := s.yielded ++ [event], point := point }

def StreamState.remainingLoop (s : StreamState) (run : AdapterRun) : StreamState :=
  (s.yieldNext run.outputEvents .remaining).getD { s with point := .finished }

def StreamState.pollLoop (s : StreamState) (run : AdapterRun) : StreamState :=
  if run.phase = .running then
    { s with point := .sleeping }
  else
    s.remainingLoop run

def StreamState.streamRun (s : StreamState) (run : AdapterRun) : StreamState :=
  match s.point with
  | .replaying => (s.yieldNext run.outputEvents .replaying).getD (s.pollLoop run)
  | .sleeping => (s.yieldNext run.outputEvents .polling).getD (s.pollLoop run)
  | .polling => (s.yieldNext run.outputEvents .polling).getD (s.pollLoop run)
  | .remaining => s.remainingLoop run
  | .finished => s

inductive ProcessEvent where
  | stdout (chunk : List UInt8)
  | stderr (chunk : List UInt8)
  | processError (message : String)
  | exit (code : Option Int)
  | cancelRun

def ProcessEvent.apply (run : AdapterRun) : ProcessEvent -> AdapterRun
  | .stdout chunk => run.onStdoutChunk chunk
  | .stderr chunk => run.onStderr (String.ofList (Utf8.decode chunk))
  | .processError message => run.onError message
  | .exit code => run.onExit code
  | .cancelRun => run.cancel

def ProcessEvent.isOutput : ProcessEvent -> Bool
  | .stdout _ | .stderr _ | .processError _ => true
  | .exit _ | .cancelRun => false

structure StreamedRun where
  run : AdapterRun
  exited : Bool
  beforeExit : List RunOutputEvent
  stream : StreamState

inductive StreamedEvent where
  | process (event : ProcessEvent)
  | streamRun

def StreamedRun.apply (w : StreamedRun) : StreamedEvent -> StreamedRun
  | .process event =>
      { run := event.apply w.run
        exited := w.exited || (match event with | .exit _ => true | _ => false)
        beforeExit := if w.exited then w.beforeExit else (event.apply w.run).outputEvents
        stream := w.stream }
  | .streamRun => { w with stream := w.stream.streamRun w.run }

def StreamedRun.after (w : StreamedRun) (events : List StreamedEvent) : StreamedRun :=
  events.foldl StreamedRun.apply w

def StreamedRun.initial (run : AdapterRun) : StreamedRun where
  run := run
  exited := false
  beforeExit := run.outputEvents
  stream := {}

def processEvents (events : List StreamedEvent) : List ProcessEvent :=
  events.filterMap fun event =>
    match event with
    | .process event => some event
    | .streamRun => none

/-- What was yielded are the recorded events, each once and in order, and all those before
the exit when the stream has finished; and until then the stream yields what is recorded
when it is resumed. -/
structure Streamed (w : StreamedRun) : Prop where
  inOrder : w.stream.yielded <+: w.run.outputEvents
  complete : w.stream.point = .finished -> w.beforeExit <+: w.stream.yielded
  resumed : w.stream.point ≠ .finished ->
    exists n, (w.after (List.replicate n .streamRun)).stream.yielded = w.run.outputEvents

/-!
## Late output
-/

/-- A process that was cancelled, or failed, may live on until it exits. -/
inductive ProcessLife where
  | running
  | ending
  | exited
deriving DecidableEq

def ProcessLife.next : ProcessLife -> ProcessEvent -> ProcessLife
  | _, .exit _ => .exited
  | .running, .cancelRun => .ending
  | .running, .processError _ => .ending
  | life, _ => life

/-- Nothing is recorded after a cancellation or a failure and before the exit. -/
def NoLateOutput : ProcessLife -> List ProcessEvent -> Prop
  | _, [] => True
  | life, event :: rest =>
      ¬ (life = .ending ∧ event.isOutput = true) ∧ NoLateOutput (life.next event) rest

/-!
## What an event of the process does
-/

theorem outputEvents_of_logEntries {run run' : AdapterRun} {more : List RunOutputEvent}
    (h : run'.logEntries = run.logEntries ++ more) :
    run'.outputEvents = run.outputEvents ++ more.map outputEvent := by
  rw [AdapterRun.outputEvents, h, List.map_append]
  rfl

theorem logEntries_apply (event : ProcessEvent) (run : AdapterRun) :
    exists more, (event.apply run).logEntries = run.logEntries ++ more ∧
      (event.isOutput = true <-> more ≠ []) := by
  cases event with
  | stdout chunk =>
      simp only [ProcessEvent.apply, AdapterRun.onStdoutChunk, AdapterRun.onStdout]
      split
      · exact ⟨[_, _], List.append_assoc _ [_] [_], by simp [ProcessEvent.isOutput]⟩
      · exact ⟨[_], rfl, by simp [ProcessEvent.isOutput]⟩
  | stderr chunk =>
      exact ⟨[_], rfl, by simp [ProcessEvent.isOutput]⟩
  | processError message =>
      simp only [ProcessEvent.apply, AdapterRun.onError]
      split
      · exact ⟨[_], rfl, by simp [ProcessEvent.isOutput]⟩
      · exact ⟨[_], rfl, by simp [ProcessEvent.isOutput]⟩
  | exit code =>
      exact ⟨[], (List.append_nil _).symm, by simp [ProcessEvent.isOutput]⟩
  | cancelRun =>
      simp only [ProcessEvent.apply, AdapterRun.cancel]
      split
      · exact ⟨[], (List.append_nil _).symm, by simp [ProcessEvent.isOutput]⟩
      · exact ⟨[], (List.append_nil _).symm, by simp [ProcessEvent.isOutput]⟩

theorem outputEvents_apply (event : ProcessEvent) (run : AdapterRun) :
    exists more, (event.apply run).outputEvents = run.outputEvents ++ more ∧
      (event.isOutput = true <-> more ≠ []) := by
  rcases logEntries_apply event run with ⟨more, hmore, houtput⟩
  refine ⟨more.map outputEvent, outputEvents_of_logEntries hmore, houtput.trans ?_⟩
  simp

structure ShowsLife (life : ProcessLife) (w : StreamedRun) : Prop where
  running : w.run.phase = .running <-> life = .running
  exited : w.exited = true <-> life = .exited

theorem phase_apply (event : ProcessEvent) (run : AdapterRun) :
    (event.apply run).phase = .running <->
      run.phase = .running ∧ ProcessLife.running.next event = .running := by
  cases event with
  | stdout chunk =>
      simp only [ProcessEvent.apply, AdapterRun.onStdoutChunk, AdapterRun.onStdout]
      split <;> simp [AdapterRun.log, ProcessLife.next]
  | stderr chunk =>
      simp [ProcessEvent.apply, AdapterRun.onStderr, AdapterRun.log, ProcessLife.next]
  | processError message =>
      simp only [ProcessEvent.apply, AdapterRun.onError]
      split
      · simp [ProcessLife.next]
      · rename_i hphase
        simp [hphase, ProcessLife.next]
  | exit code =>
      by_cases hphase : run.phase = .running
      · simp [ProcessEvent.apply, AdapterRun.onExit, ProcessLife.next, hphase]
      · simp [ProcessEvent.apply, AdapterRun.onExit, ProcessLife.next, hphase]
  | cancelRun =>
      by_cases hphase : run.phase = .running
      · simp [ProcessEvent.apply, AdapterRun.cancel, ProcessLife.next, hphase]
      · simp [ProcessEvent.apply, AdapterRun.cancel, ProcessLife.next, hphase]

variable {life : ProcessLife} {w : StreamedRun}

theorem ShowsLife.process (h : ShowsLife life w) (event : ProcessEvent) :
    ShowsLife (life.next event) (w.apply (.process event)) := by
  constructor
  · show (event.apply w.run).phase = .running <-> _
    rw [phase_apply, h.running]
    cases event <;> cases life <;> simp [ProcessLife.next]
  · show (w.exited || _) = true <-> _
    rw [Bool.or_eq_true, h.exited]
    cases event <;> cases life <;> simp [ProcessLife.next]

structure Recorded (w : StreamedRun) : Prop where
  isPrefix : w.beforeExit <+: w.run.outputEvents
  alive : w.exited = false -> w.beforeExit = w.run.outputEvents

theorem Recorded.process (h : Recorded w) (event : ProcessEvent) :
    Recorded (w.apply (.process event)) := by
  rcases outputEvents_apply event w.run with ⟨more, hmore, _⟩
  cases hexited : w.exited with
  | true =>
      constructor
      · simp only [StreamedRun.apply, hexited, if_true, hmore]
        exact h.isPrefix.trans (List.prefix_append _ _)
      · intro halive
        simp [StreamedRun.apply, hexited] at halive
  | false =>
      constructor
      · simp [StreamedRun.apply, hexited]
      · intro _
        simp [StreamedRun.apply, hexited]

/-!
## What a step of the stream does
-/

theorem streamRun_yields {s : StreamState} {run : AdapterRun} {event : RunOutputEvent}
    (hpoint : s.point ≠ .finished) (hevent : run.outputEvents[s.cursor]? = some event) :
    exists point, point ≠ .finished ∧ (point = .remaining -> s.point = .remaining) ∧
      s.streamRun run =
        { cursor := s.cursor + 1, yielded := s.yielded ++ [event], point := point } := by
  have hnext : forall point, s.yieldNext run.outputEvents point =
      some { cursor := s.cursor + 1, yielded := s.yielded ++ [event], point := point } := by
    intro point
    rw [StreamState.yieldNext, hevent, Option.map_some]
  unfold StreamState.streamRun
  cases hcase : s.point with
  | replaying =>
      exact ⟨.replaying, by decide, (fun h => nomatch h), by simp only [hnext, Option.getD_some]⟩
  | sleeping =>
      exact ⟨.polling, by decide, (fun h => nomatch h), by simp only [hnext, Option.getD_some]⟩
  | polling =>
      exact ⟨.polling, by decide, (fun h => nomatch h), by simp only [hnext, Option.getD_some]⟩
  | remaining =>
      exact ⟨.remaining, by decide, (fun _ => rfl), by
        simp only [StreamState.remainingLoop, hnext, Option.getD_some]⟩
  | finished =>
      exact absurd hcase hpoint

theorem streamRun_drained {s : StreamState} {run : AdapterRun}
    (hnone : run.outputEvents[s.cursor]? = none) :
    (s.streamRun run = { s with point := .sleeping } ∧ run.phase = .running) ∨
      (s.streamRun run = { s with point := .finished } ∧
        (run.phase ≠ .running ∨ s.point = .remaining ∨ s.point = .finished)) := by
  have hnext : forall point, s.yieldNext run.outputEvents point = none := by
    intro point
    rw [StreamState.yieldNext, hnone, Option.map_none]
  have hpoll : (s.pollLoop run = { s with point := .sleeping } ∧ run.phase = .running) ∨
      (s.pollLoop run = { s with point := .finished } ∧ run.phase ≠ .running) := by
    unfold StreamState.pollLoop
    by_cases hphase : run.phase = .running
    · exact Or.inl ⟨if_pos hphase, hphase⟩
    · right
      rw [if_neg hphase, StreamState.remainingLoop, hnext, Option.getD_none]
      exact ⟨rfl, hphase⟩
  by_cases hremaining : s.point = .remaining
  · right
    refine ⟨?_, Or.inr (Or.inl hremaining)⟩
    simp only [StreamState.streamRun, hremaining, StreamState.remainingLoop, hnext,
      Option.getD_none]
  by_cases hfinished : s.point = .finished
  · right
    refine ⟨?_, Or.inr (Or.inr hfinished)⟩
    simp only [StreamState.streamRun, hfinished]
    rw [← hfinished]
  have hpolled : s.streamRun run = s.pollLoop run := by
    unfold StreamState.streamRun
    split
    · rw [hnext, Option.getD_none]
    · rw [hnext, Option.getD_none]
    · rw [hnext, Option.getD_none]
    · rename_i hcase
      exact absurd hcase hremaining
    · rename_i hcase
      exact absurd hcase hfinished
  rw [hpolled]
  exact hpoll.imp_right fun h => ⟨h.1, Or.inl h.2⟩

/-!
## What holds in every run without late output
-/

structure StreamInvariant (w : StreamedRun) : Prop where
  recorded : Recorded w
  yielded : w.stream.yielded = w.run.outputEvents.take w.stream.cursor
  cursor : w.stream.cursor ≤ w.run.outputEvents.length
  ended : w.stream.point = .remaining ∨ w.stream.point = .finished -> w.run.phase ≠ .running
  finished : w.stream.point = .finished -> w.beforeExit.length ≤ w.stream.cursor

theorem StreamInvariant.streamRun (h : StreamInvariant w) :
    StreamInvariant (w.apply .streamRun) := by
  have hrecorded : Recorded (w.apply .streamRun) :=
    ⟨h.recorded.isPrefix, h.recorded.alive⟩
  cases hevent : w.run.outputEvents[w.stream.cursor]? with
  | some event =>
      by_cases hpoint : w.stream.point = .finished
      · have hsame : w.apply .streamRun = w := by
          simp only [StreamedRun.apply, StreamState.streamRun, hpoint]
        rw [hsame]
        exact h
      · rcases streamRun_yields hpoint hevent with ⟨point, hunfinished, hremaining, hstep⟩
        have hcursor : w.stream.cursor < w.run.outputEvents.length :=
          (List.getElem?_eq_some_iff.mp hevent).1
        constructor
        · exact hrecorded
        · simp only [StreamedRun.apply, hstep]
          rw [List.take_add_one, hevent, h.yielded]
          rfl
        · simp only [StreamedRun.apply, hstep]
          omega
        · simp only [StreamedRun.apply, hstep]
          intro hended
          rcases hended with hended | hended
          · exact h.ended (Or.inl (hremaining hended))
          · exact absurd hended hunfinished
        · simp only [StreamedRun.apply, hstep]
          intro hfinished
          exact absurd hfinished hunfinished
  | none =>
      have hall : w.run.outputEvents.length ≤ w.stream.cursor :=
        List.getElem?_eq_none_iff.mp hevent
      rcases streamRun_drained hevent with ⟨hstep, hrunning⟩ | ⟨hstep, hended⟩
      · constructor
        · exact hrecorded
        · simp only [StreamedRun.apply, hstep]
          exact h.yielded
        · simp only [StreamedRun.apply, hstep]
          exact h.cursor
        · simp only [StreamedRun.apply, hstep]
          intro hended
          rcases hended with hended | hended <;> cases hended
        · simp only [StreamedRun.apply, hstep]
          intro hfinished
          cases hfinished
      · constructor
        · exact hrecorded
        · simp only [StreamedRun.apply, hstep]
          exact h.yielded
        · simp only [StreamedRun.apply, hstep]
          exact h.cursor
        · intro _
          exact hended.elim id h.ended
        · simp only [StreamedRun.apply, hstep]
          intro _
          exact h.recorded.isPrefix.length_le.trans hall

theorem StreamInvariant.process (h : StreamInvariant w) (hlife : ShowsLife life w)
    {event : ProcessEvent} (hlate : ¬ (life = .ending ∧ event.isOutput = true)) :
    StreamInvariant (w.apply (.process event)) := by
  rcases outputEvents_apply event w.run with ⟨more, hmore, houtput⟩
  constructor
  · exact h.recorded.process event
  · simp only [StreamedRun.apply, hmore]
    rw [List.take_append_of_le_length h.cursor]
    exact h.yielded
  · simp only [StreamedRun.apply, hmore, List.length_append]
    exact h.cursor.trans (Nat.le_add_right _ _)
  · intro hended hrunning
    exact h.ended hended ((phase_apply event w.run).mp hrunning).1
  · intro hfinished
    have hold := h.finished hfinished
    have hnot : w.run.phase ≠ .running := h.ended (Or.inr hfinished)
    cases hexited : w.exited with
    | true =>
        simpa [StreamedRun.apply, hexited] using hold
    | false =>
        -- the process lives on, so that nothing is recorded
        have hending : life = .ending := by
          cases life with
          | running =>
              exact absurd (hlife.running.mpr rfl) hnot
          | ending =>
              rfl
          | exited =>
              rw [hlife.exited.mpr rfl] at hexited
              cases hexited
        have hquiet : more = [] := by
          by_contra hne
          exact hlate ⟨hending, houtput.mpr hne⟩
        rw [h.recorded.alive hexited] at hold
        simpa [StreamedRun.apply, hexited, hmore, hquiet] using hold

theorem StreamInvariant.after {events : List StreamedEvent} (h : StreamInvariant w)
    (hlife : ShowsLife life w) (hlate : NoLateOutput life (processEvents events)) :
    StreamInvariant (w.after events) := by
  induction events generalizing life w with
  | nil =>
      exact h
  | cons event rest ih =>
      cases event with
      | process event =>
          exact ih (h.process hlife hlate.1) (hlife.process event) hlate.2
      | streamRun =>
          exact ih h.streamRun ⟨hlife.running, hlife.exited⟩ hlate

theorem after_replicate_streamRun (w : StreamedRun) (n : Nat) :
    (w.after (List.replicate n .streamRun)).run = w.run ∧
      (w.after (List.replicate n .streamRun)).exited = w.exited ∧
      (w.after (List.replicate n .streamRun)).beforeExit = w.beforeExit := by
  induction n generalizing w with
  | zero =>
      exact ⟨rfl, rfl, rfl⟩
  | succ n ih =>
      exact ih (w.apply .streamRun)

theorem StreamInvariant.resumed (h : StreamInvariant w) (hpoint : w.stream.point ≠ .finished) :
    exists n, (w.after (List.replicate n .streamRun)).stream.yielded = w.run.outputEvents ∧
      (w.after (List.replicate n .streamRun)).stream.point ≠ .finished := by
  generalize hleft : w.run.outputEvents.length - w.stream.cursor = left
  induction left generalizing w with
  | zero =>
      refine ⟨0, ?_, hpoint⟩
      show w.stream.yielded = _
      rw [h.yielded, List.take_of_length_le (by omega)]
  | succ left ih =>
      have hcursor : w.stream.cursor < w.run.outputEvents.length := by
        omega
      have hevent := List.getElem?_eq_getElem hcursor
      rcases streamRun_yields hpoint hevent with ⟨point, hunfinished, _, hstep⟩
      have hnext : (w.apply .streamRun).stream.point ≠ .finished := by
        simp only [StreamedRun.apply, hstep]
        exact hunfinished
      rcases ih h.streamRun hnext (by
        simp only [StreamedRun.apply, hstep]
        omega) with ⟨n, hyielded, hstill⟩
      exact ⟨n + 1, hyielded, hstill⟩

theorem StreamInvariant.streamed (h : StreamInvariant w) :
    Streamed w where
  inOrder := by
    rw [h.yielded]
    exact List.take_prefix _ _
  complete := by
    intro hfinished
    rw [h.yielded]
    apply List.prefix_of_prefix_length_le h.recorded.isPrefix (List.take_prefix _ _)
    rw [List.length_take]
    exact le_min (h.finished hfinished) h.recorded.isPrefix.length_le
  resumed := by
    intro hpoint
    rcases h.resumed hpoint with ⟨n, hyielded, _⟩
    exact ⟨n, hyielded⟩

theorem streamInvariant_initial (run : AdapterRun) :
    StreamInvariant (StreamedRun.initial run) where
  recorded := ⟨List.prefix_rfl, fun _ => rfl⟩
  yielded := rfl
  cursor := Nat.zero_le _
  ended := fun h => by rcases h with h | h <;> cases h
  finished := fun h => nomatch h

/-!
## What late output does
-/

theorem processEvents_append (events events' : List StreamedEvent) :
    processEvents (events ++ events') = processEvents events ++ processEvents events' :=
  List.filterMap_append

theorem processEvents_map (events : List ProcessEvent) :
    processEvents (events.map StreamedEvent.process) = events := by
  rw [processEvents, List.filterMap_map]
  exact List.filterMap_some

theorem processEvents_replicate (n : Nat) :
    processEvents (List.replicate n .streamRun) = [] := by
  rw [processEvents, List.filterMap_replicate_of_none rfl]

variable {events : List ProcessEvent}

theorem NoLateOutput.of_append {events' : List ProcessEvent}
    (h : NoLateOutput life (events ++ events')) : NoLateOutput life events := by
  induction events generalizing life with
  | nil =>
      trivial
  | cons event rest ih =>
      exact ⟨h.1, ih h.2⟩

theorem StreamInvariant.replicate (h : StreamInvariant w) (n : Nat) :
    StreamInvariant (w.after (List.replicate n .streamRun)) := by
  induction n generalizing w with
  | zero =>
      exact h
  | succ n ih =>
      exact ih h.streamRun

/-- A stream that is resumed often enough after the process was cancelled or has failed
finishes, and has yielded what is recorded then. -/
theorem StreamInvariant.finishes (h : StreamInvariant w) (hphase : w.run.phase ≠ .running)
    (hpoint : w.stream.point ≠ .finished) :
    exists n, (w.after (List.replicate n .streamRun)).stream.point = .finished ∧
      (w.after (List.replicate n .streamRun)).stream.yielded = w.run.outputEvents := by
  rcases h.resumed hpoint with ⟨n, hyielded, hstill⟩
  have hkept := after_replicate_streamRun w n
  have hinvariant := h.replicate n
  generalize hmiddle : w.after (List.replicate n .streamRun) = middle
    at hyielded hstill hkept hinvariant
  have hall : middle.run.outputEvents.length ≤ middle.stream.cursor := by
    have hlength := congrArg List.length hyielded
    rw [hinvariant.yielded, List.length_take, hkept.1] at hlength
    rw [hkept.1]
    omega
  have hstep : middle.stream.streamRun middle.run = { middle.stream with point := .finished } := by
    rcases streamRun_drained (List.getElem?_eq_none_iff.mpr hall) with ⟨_, hrunning⟩ | ⟨hstep, _⟩
    · rw [hkept.1] at hrunning
      exact absurd hrunning hphase
    · exact hstep
  refine ⟨n + 1, ?_⟩
  rw [List.replicate_succ', StreamedRun.after, List.foldl_append]
  show (StreamedRun.apply (w.after (List.replicate n .streamRun)) .streamRun).stream.point = _ ∧
    (StreamedRun.apply (w.after (List.replicate n .streamRun)) .streamRun).stream.yielded = _
  rw [hmiddle]
  simp only [StreamedRun.apply, hstep]
  exact ⟨trivial, hyielded⟩

/-- The stream has finished without an event that was recorded before the exit. -/
structure HasLost (w : StreamedRun) : Prop where
  recorded : Recorded w
  finished : w.stream.point = .finished
  short : w.stream.yielded.length < w.beforeExit.length

theorem HasLost.process (h : HasLost w) (event : ProcessEvent) :
    HasLost (w.apply (.process event)) := by
  refine ⟨h.recorded.process event, h.finished, ?_⟩
  have hshort := h.short
  cases hexited : w.exited with
  | true =>
      simpa [StreamedRun.apply, hexited] using hshort
  | false =>
      rcases outputEvents_apply event w.run with ⟨more, hmore, _⟩
      rw [h.recorded.alive hexited] at hshort
      have hlater : (w.apply (.process event)).beforeExit = w.run.outputEvents ++ more := by
        simp only [StreamedRun.apply, hexited, hmore]
        rfl
      rw [hlater, List.length_append]
      exact Nat.lt_add_right _ hshort

theorem HasLost.after (h : HasLost w) : HasLost (w.after (events.map StreamedEvent.process)) := by
  induction events generalizing w with
  | nil =>
      exact h
  | cons event rest ih =>
      exact ih (h.process event)

theorem hasLost_of_late (h : StreamInvariant w) (hlife : ShowsLife .ending w)
    (hpoint : w.stream.point ≠ .finished) {event : ProcessEvent}
    (houtput : event.isOutput = true) :
    exists n, HasLost ((w.after (List.replicate n .streamRun)).apply (.process event)) := by
  have hphase : w.run.phase ≠ .running := by
    intro hrunning
    cases hlife.running.mp hrunning
  have halive : w.exited = false := by
    rw [Bool.eq_false_iff]
    intro hexited
    cases hlife.exited.mp hexited
  rcases h.finishes hphase hpoint with ⟨n, hfinished, hyielded⟩
  rcases outputEvents_apply event w.run with ⟨more, hmore, hmoreOutput⟩
  have hkept := after_replicate_streamRun w n
  refine ⟨n, ?_⟩
  generalize w.after (List.replicate n .streamRun) = middle at hfinished hyielded hkept ⊢
  have hrecorded : Recorded middle := by
    constructor
    · rw [hkept.1, hkept.2.2]
      exact h.recorded.isPrefix
    · rw [hkept.1, hkept.2.1, hkept.2.2]
      exact h.recorded.alive
  refine ⟨hrecorded.process event, hfinished, ?_⟩
  have hpos := List.length_pos_iff.mpr (hmoreOutput.mp houtput)
  have hlater : (middle.apply (.process event)).beforeExit = w.run.outputEvents ++ more := by
    simp only [StreamedRun.apply, hkept.1, hkept.2.1, halive, hmore]
    rfl
  have hsame : (middle.apply (.process event)).stream.yielded = w.run.outputEvents :=
    hyielded
  rw [hlater, hsame, List.length_append]
  omega

/-- Where an output is late, it is lost in some order of the steps. -/
theorem exists_lost (h : StreamInvariant w) (hlife : ShowsLife life w)
    (hpoint : w.stream.point ≠ .finished) (hlate : ¬ NoLateOutput life events) :
    exists schedule, processEvents schedule = events ∧ HasLost (w.after schedule) := by
  induction events generalizing life w with
  | nil =>
      exact absurd trivial hlate
  | cons event rest ih =>
      by_cases hevent : life = .ending ∧ event.isOutput = true
      · rcases hevent with ⟨hending, houtput⟩
        rw [hending] at hlife
        rcases hasLost_of_late h hlife hpoint houtput with ⟨n, hlost⟩
        refine ⟨List.replicate n .streamRun ++ (event :: rest).map StreamedEvent.process, ?_, ?_⟩
        · rw [processEvents_append, processEvents_replicate, processEvents_map]
          rfl
        · rw [StreamedRun.after, List.foldl_append]
          exact hlost.after
      · have hrest : ¬ NoLateOutput (life.next event) rest := by
          intro hrest
          exact hlate ⟨hevent, hrest⟩
        rcases ih (h.process hlife hevent) (hlife.process event) hpoint hrest
          with ⟨schedule, hschedule, hlost⟩
        exact ⟨.process event :: schedule, congrArg (List.cons event) hschedule, hlost⟩

/-- In every state of every interleaving of the events with the steps of a stream, the
stream yields what it should. -/
def StreamsAll (run : AdapterRun) (events : List ProcessEvent) : Prop :=
  forall schedule, processEvents schedule = events ->
    forall front, front <+: schedule -> Streamed ((StreamedRun.initial run).after front)

theorem streamsAll_iff {run : AdapterRun} (hphase : run.phase = .running) :
    StreamsAll run events <-> NoLateOutput .running events := by
  have hlife : ShowsLife .running (StreamedRun.initial run) :=
    ⟨iff_of_true hphase rfl, by simp [StreamedRun.initial]⟩
  constructor
  · intro h
    by_contra hlate
    rcases exists_lost (streamInvariant_initial run) hlife (fun h => nomatch h) hlate
      with ⟨schedule, hschedule, hlost⟩
    have hstreamed := h schedule hschedule schedule List.prefix_rfl
    have hlength := (hstreamed.complete hlost.finished).length_le
    exact absurd hlength (Nat.not_le.mpr hlost.short)
  · intro hlate schedule hschedule front hfront
    rcases hfront with ⟨later, hlater⟩
    rw [← hschedule, ← hlater, processEvents_append] at hlate
    exact ((streamInvariant_initial run).after hlife hlate.of_append).streamed

/-!
## Capture and streaming
-/

/-- What a run records does not depend on how the bytes are cut exactly if they hold no
marker and no sequence of more than one byte; and its stream yields every event until the
process exits, however its steps lie, exactly if nothing is recorded between a cancellation
or a failure and the exit. -/
theorem capture_and_stream_iff (context : RunContext)
    (promptFilePath outputFilePath : String) :
    (forall bytes,
      CapturedAlike (spawnedRun context promptFilePath outputFilePath) bytes <->
        ¬ markerBytes <:+: bytes ∧ Utf8.NoSequence bytes) ∧
    (forall events,
      StreamsAll (spawnedRun context promptFilePath outputFilePath) events <->
        NoLateOutput .running events) :=
  ⟨fun _ => capturedAlike_iff, fun _ => streamsAll_iff rfl⟩

def aSpawnedRun : AdapterRun :=
  spawnedRun
    { taskId := "task-1"
      outputSchemaExpectation :=
        { packetType := "dev_result_packet", schemaVersion := "1.0" }
      customPrompt := none }
    "/artifacts/prompt.md" "/artifacts/result-packet.json"

/-- A marker in two chunks is missed, one of two markers in a chunk is not counted, a
character in two chunks is broken, and the output of a cancelled process that has not yet
exited is lost. -/
theorem split_marker_missed_and_late_output_lost :
    ((aSpawnedRun.capture [markerBytes]).heartbeats = 1 ∧
      (aSpawnedRun.capture [markerBytes.take 5, markerBytes.drop 5]).heartbeats = 0 ∧
      ¬ CapturedAlike aSpawnedRun markerBytes) ∧
    (markerCount (markerBytes ++ markerBytes) = 2 ∧
      (aSpawnedRun.capture [markerBytes ++ markerBytes]).heartbeats = 1 ∧
      ¬ CapturedAlike aSpawnedRun (markerBytes ++ markerBytes)) ∧
    ((aSpawnedRun.capture [[0xC3, 0xA9]]).stdoutBuffer = "\u00e9" ∧
      (aSpawnedRun.capture [[0xC3], [0xA9]]).stdoutBuffer = "\ufffd\ufffd" ∧
      ¬ CapturedAlike aSpawnedRun [0xC3, 0xA9]) ∧
    ¬ StreamsAll aSpawnedRun [.cancelRun, .stdout [0x41], .exit none] := by
  have hmarker : (aSpawnedRun.capture [markerBytes]).heartbeats = 1 ∧
      (aSpawnedRun.capture [markerBytes.take 5, markerBytes.drop 5]).heartbeats = 0 := by
    decide +kernel
  have hmarkers : markerCount (markerBytes ++ markerBytes) = 2 ∧
      (aSpawnedRun.capture [markerBytes ++ markerBytes]).heartbeats = 1 := by
    decide +kernel
  have hchar : (aSpawnedRun.capture [[0xC3, 0xA9]]).stdoutBuffer = "\u00e9" ∧
      (aSpawnedRun.capture [[0xC3], [0xA9]]).stdoutBuffer = "\ufffd\ufffd" := by
    decide +kernel
  refine ⟨⟨hmarker.1, hmarker.2, ?_⟩, ⟨hmarkers.1, hmarkers.2, ?_⟩, ⟨hchar.1, hchar.2, ?_⟩, ?_⟩
  · intro h
    have hsame := h.heartbeats [markerBytes] [markerBytes.take 5, markerBytes.drop 5]
      (by simp) (by simp)
    rw [hmarker.1, hmarker.2] at hsame
    cases hsame
  · intro h
    have henough := h.markers [markerBytes ++ markerBytes] (by simp)
    rw [hmarkers.1, hmarkers.2] at henough
    have hnone : aSpawnedRun.heartbeats = 0 :=
      rfl
    omega
  · intro h
    have hsame := h.stdout [[0xC3, 0xA9]] [[0xC3], [0xA9]] rfl rfl
    rw [hchar.1, hchar.2] at hsame
    revert hsame
    decide
  · intro h
    have hlate := (streamsAll_iff rfl).mp h
    exact hlate.2.1 ⟨rfl, rfl⟩

end Automation
end CopilotFactory
