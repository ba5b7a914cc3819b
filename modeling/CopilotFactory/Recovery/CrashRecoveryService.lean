import CopilotFactory.Artifacts.StagedArtifacts
import CopilotFactory.Automation.PacketSchemas

/-!
# Crash recovery service

When a lease is reclaimed, a valid result packet that its worker has left is returned.  Else
what is left of its work is stored as artifacts, and the references to these are recorded on
the lease.  Every step may fail, and then the next one is taken.
-/

namespace CopilotFactory
namespace Recovery

open Foundations
open Path
open Automation

/-!
## Workspace inspector

What a crashed worker has left is read from the directory `outputs` of its workspace and
asked of git.  A packet that is found is parsed and validated.
-/

/-- The entries of a directory, which have different names. -/
structure Listing where
  entries : List DirEntry
  nodup : (entries.map DirEntry.name).Nodup

structure WorkspaceFiles where
  pathExists : String -> Except String Bool
  readFile : String -> Except String String
  readdir : String -> Except String Listing

structure GitDiffProvider where
  diffNameOnly : String -> Except String (List String)
  diff : String -> Except String (Option String)

structure WorkspaceOutputFile where
  name : String
  content : String
  isName : IsName name

def resultPacketFilename : String :=
  "result-packet.json"

def readResultPacket (fs : WorkspaceFiles) (workspacePath : String) :
    Except String (Option String) := do
  let packetPath := join [workspacePath, "outputs", resultPacketFilename]
  let found ← fs.pathExists packetPath
  if found then
    let content ← fs.readFile packetPath
    pure (some content)
  else
    pure none

def readOutputFile (fs : WorkspaceFiles) (outputsDir : String) (entry : DirEntry) :
    Except String WorkspaceOutputFile := do
  let content ← fs.readFile (join [outputsDir, entry.name])
  pure { name := entry.name, content := content, isName := entry.isName }

def readOutputFiles (fs : WorkspaceFiles) (workspacePath : String) :
    Except String (List WorkspaceOutputFile) := do
  let outputsDir := join [workspacePath, "outputs"]
  let found ← fs.pathExists outputsDir
  if found then
    let listing ← fs.readdir outputsDir
    (listing.entries.filter fun entry => !entry.isDirectory).mapM
      (readOutputFile fs outputsDir)
  else
    pure []

/-!
## Result packets
-/

inductive ResultPacketValidation where
  | valid (data : Json)
  | invalid (reason : String)
deriving DecidableEq

section

variable (jsonParse : String -> Except String Json) (isDatetime : String -> Bool)

def validateResultPacket (content : String) : ResultPacketValidation :=
  match jsonParse content with
  | .error _ => .invalid "Content is not valid JSON"
  | .ok parsed =>
      let schema := Packets.devResultPacketSchema isDatetime
      match schema.safeParse parsed with
      | [] => .valid (Zod.output schema.type parsed)
      | issues =>
          .invalid ("Schema validation failed: " ++
            "; ".intercalate (issues.map fun issue =>
              Zod.pathText issue.path ++ ": " ++ issue.message))

end

open Artifacts

structure CrashRecoveryParams where
  leaseId : String
  taskId : String
  repoId : String
  runId : String
  workspacePath : String
  worktreePath : String

structure PartialWorkSnapshot where
  capturedAt : String
  leaseId : String
  taskId : String
  modifiedFiles : List String
  gitDiffRef : Option String
  partialOutputRefs : List String
  invalidResultPacketRef : Option String
deriving DecidableEq

def nullable : Option String -> Json
  | none => .null
  | some text => .string text

def PartialWorkSnapshot.toJson (snapshot : PartialWorkSnapshot) : Json :=
  .object
    [("capturedAt", .string snapshot.capturedAt),
      ("leaseId", .string snapshot.leaseId),
      ("taskId", .string snapshot.taskId),
      ("modifiedFiles", .array (snapshot.modifiedFiles.map .string)),
      ("gitDiffRef", nullable snapshot.gitDiffRef),
      ("partialOutputRefs", .array (snapshot.partialOutputRefs.map .string)),
      ("invalidResultPacketRef", nullable snapshot.invalidResultPacketRef)]

inductive CrashRecoveryResult where
  | resultFound (resultData : Json)
  | partialCaptured (snapshot : PartialWorkSnapshot) (artifactRefs : List String)
  | nothingCaptured
deriving DecidableEq

/-!
## Artifacts
-/

inductive Piece where
  | gitDiff
  | output (filename : String)
  | invalidResultPacket
  | snapshot
deriving DecidableEq

def gitDiffFilename : String :=
  "git-diff.patch"

def snapshotFilename : String :=
  "crash-recovery-snapshot.json"

def invalidResultFilename : String :=
  "invalid-result-packet.json"

/-- What recovery works with: the files of the workspace when it looks for the packet and
when it reads the outputs, how the calls go that store a piece, and the tools of the
language. -/
structure CrashRecoveryDependencies where
  packetFiles : WorkspaceFiles
  outputFiles : WorkspaceFiles
  git : GitDiffProvider
  artifactRoot : String
  answers : Answers
  outcomes : Piece -> FileCall -> CallOutcome
  leaseUpdate : Except String Unit
  jsonParse : String -> Except String Json
  isDatetime : String -> Bool
  /-- The text of a value, indented by two spaces. -/
  stringify : Json -> String
  now : String

section

variable (deps : CrashRecoveryDependencies) (params : CrashRecoveryParams)

def storeGitDiff (diffContent : String) : FileProgram ArtifactError String :=
  storeArtifact deps.artifactRoot
    (runOutputPath params.repoId params.taskId params.runId gitDiffFilename) diffContent

def storePartialOutput (filename content : String) : FileProgram ArtifactError String :=
  storeArtifact deps.artifactRoot
    (runOutputPath params.repoId params.taskId params.runId filename) content

def storeInvalidResultPacket (content : String) : FileProgram ArtifactError String :=
  storeArtifact deps.artifactRoot
    (runOutputPath params.repoId params.taskId params.runId invalidResultFilename) content

def storeSnapshot (snapshot : PartialWorkSnapshot) : FileProgram ArtifactError String :=
  storeJSON deps.artifactRoot
    (runOutputPath params.repoId params.taskId params.runId snapshotFilename)
    (.ok (deps.stringify snapshot.toJson))

end

/-!
## Recovery
-/

/-- The files, and the partial artifact references that are recorded on each lease. -/
structure RecoveryState where
  files : FileSystem String
  leaseRefs : String -> List String

/-- A step that may throw, which does not undo what it has changed. -/
abbrev RecoveryCall (α : Type) : Type :=
  ExceptT String (StateM RecoveryState) α

def RecoveryCall.runOn {α : Type} (x : RecoveryCall α) (s : RecoveryState) :
    Except String α × RecoveryState :=
  (ExceptT.run x).run s

def safeAsync {α : Type} (fn : RecoveryCall α) (fallback : α) : RecoveryCall α :=
  tryCatch fn fun _ => pure fallback

def inspect {α : Type} (read : Except String α) : RecoveryCall α :=
  ExceptT.mk (pure read)

section

variable (deps : CrashRecoveryDependencies) (params : CrashRecoveryParams)

def store (piece : Piece) (program : FileProgram ArtifactError String) : RecoveryCall String :=
  ExceptT.mk fun s =>
    let done := program.run deps.answers (deps.outcomes piece) s.files
    (done.1.mapError ArtifactError.message, { s with files := done.2 })

def storeSafely (piece : Piece) (program : FileProgram ArtifactError String) :
    RecoveryCall (Option String) :=
  safeAsync (some <$> store deps piece program) none

def updatePartialArtifactRefs (leaseId : String) (artifactRefs : List String) :
    RecoveryCall Unit :=
  ExceptT.mk fun s =>
    match deps.leaseUpdate with
    | .error message => (.error message, s)
    | .ok () =>
        (.ok (), { s with leaseRefs := Function.update s.leaseRefs leaseId artifactRefs })

def captureGitDiff : RecoveryCall (Option String) := do
  let gitDiff ← safeAsync (inspect (deps.git.diff params.worktreePath)) none
  match gitDiff with
  | none => pure none
  | some gitDiff =>
      if gitDiff = "" then pure none
      else storeSafely deps .gitDiff (storeGitDiff deps params gitDiff)

def captureOutputFiles : List WorkspaceOutputFile -> RecoveryCall (List String)
  | [] => pure []
  | file :: rest => do
      let ref ← storeSafely deps (.output file.name)
        (storePartialOutput deps params file.name file.content)
      let refs ← captureOutputFiles rest
      pure (ref.toList ++ refs)

def captureInvalidResultPacket : Option String -> RecoveryCall (Option String)
  | none => pure none
  | some content =>
      storeSafely deps .invalidResultPacket (storeInvalidResultPacket deps params content)

def captureSnapshot (snapshot : PartialWorkSnapshot) (artifactRefs : List String) :
    RecoveryCall CrashRecoveryResult := do
  let snapshotRef ← storeSafely deps .snapshot (storeSnapshot deps params snapshot)
  let artifactRefs := artifactRefs ++ snapshotRef.toList
  safeAsync (updatePartialArtifactRefs deps params.leaseId artifactRefs) ()
  pure (.partialCaptured snapshot artifactRefs)

def capturePartialWork (resultPacketContent : Option String) :
    RecoveryCall CrashRecoveryResult := do
  let modifiedFiles ← safeAsync (inspect (deps.git.diffNameOnly params.worktreePath)) []
  let gitDiffRef ← captureGitDiff deps params
  let outputFiles ← safeAsync
    (inspect (readOutputFiles deps.outputFiles params.workspacePath)) []
  let partialOutputRefs ← captureOutputFiles deps params outputFiles
  let invalidResultPacketRef ← captureInvalidResultPacket deps params resultPacketContent
  let artifactRefs := gitDiffRef.toList ++ partialOutputRefs ++ invalidResultPacketRef.toList
  if modifiedFiles = [] ∧ gitDiffRef = none ∧ partialOutputRefs = [] ∧
      invalidResultPacketRef = none then
    pure .nothingCaptured
  else
    captureSnapshot deps params
      { capturedAt := deps.now
        leaseId := params.leaseId
        taskId := params.taskId
        modifiedFiles := modifiedFiles
        gitDiffRef := gitDiffRef
        partialOutputRefs := partialOutputRefs
        invalidResultPacketRef := invalidResultPacketRef }
      artifactRefs

def recoverFromCrash : RecoveryCall CrashRecoveryResult := do
  let resultPacketContent ← safeAsync
    (inspect (readResultPacket deps.packetFiles params.workspacePath)) none
  match resultPacketContent.map (validateResultPacket deps.jsonParse deps.isDatetime) with
  | some (.valid data) => pure (.resultFound data)
  | _ => capturePartialWork deps params resultPacketContent

end

end Recovery
end CopilotFactory
