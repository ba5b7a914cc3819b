import CopilotFactory.Foundations.FilePrograms

/-!
# Artifact store

Artifacts are files below one root directory, whose paths are built from the ids of what
they belong to.  A write goes to a temporary file beside the artifact, which is then renamed.
One of the operations checks that the path does not leave the root.
-/

namespace CopilotFactory
namespace Artifacts

open Foundations
open Path

inductive ArtifactError where
  | storage (artifactPath cause : String)
  | notFound (artifactPath : String)
  | pathTraversal (artifactPath : String)
  /-- The value has no JSON text. -/
  | serialization (message : String)
  /-- An error of the file system that is passed on as it is. -/
  | fileSystem (message : String)
deriving DecidableEq

def ArtifactError.message : ArtifactError -> String
  | .storage artifactPath cause =>
      s!"Artifact storage failed for \"{artifactPath}\": {cause}"
  | .notFound artifactPath => s!"Artifact not found: \"{artifactPath}\""
  | .pathTraversal artifactPath =>
      s!"Path traversal detected: \"{artifactPath}\" escapes the artifact root"
  | .serialization message | .fileSystem message => message

inductive ArtifactEntryType where
  | file
  | directory
deriving DecidableEq

structure ArtifactEntry where
  relativePath : String
  name : String
  type : ArtifactEntryType
deriving DecidableEq

/-!
## Paths
-/

def taskBasePath (repoId taskId : String) : String :=
  join ["repositories", repoId, "tasks", taskId]

def packetPath (repoId taskId packetType packetId : String) : String :=
  join [taskBasePath repoId taskId, "packets", packetType ++ "-" ++ packetId ++ ".json"]

def runLogPath (repoId taskId runId logName : String) : String :=
  join [taskBasePath repoId taskId, "runs", runId, "logs", logName ++ ".log"]

def runOutputPath (repoId taskId runId filename : String) : String :=
  join [taskBasePath repoId taskId, "runs", runId, "outputs", filename]

def runValidationPath (repoId taskId runId filename : String) : String :=
  join [taskBasePath repoId taskId, "runs", runId, "validation", filename]

def reviewArtifactPath (repoId taskId reviewCycleId filename : String) : String :=
  join [taskBasePath repoId taskId, "reviews", reviewCycleId, filename]

def mergeArtifactPath (repoId taskId filename : String) : String :=
  join [taskBasePath repoId taskId, "merges", filename]

def summaryPath (repoId taskId filename : String) : String :=
  join [taskBasePath repoId taskId, "summaries", filename]

/-!
## Writing
-/

def tmpPath (absPath : String) : String :=
  absPath ++ ".tmp"

/-- Whether the temporary file could be removed makes no difference. -/
def cleanUp (absPath : String) (e : ArtifactError) : FileProgram ArtifactError String :=
  .call (.unlink (tmpPath absPath)) (fun _ => .done (.error e))

def renameTmp (absPath relativePath : String) : FileProgram ArtifactError String :=
  .call (.rename (tmpPath absPath) absPath) (fun
    | .error cause => cleanUp absPath (.storage relativePath cause)
    | .ok _ => .done (.ok relativePath))

def writeTmp (absPath relativePath content : String) : FileProgram ArtifactError String :=
  .call (.writeFile (tmpPath absPath) content) (fun
    | .error cause => cleanUp absPath (.storage relativePath cause)
    | .ok _ => renameTmp absPath relativePath)

def storeArtifact (artifactRoot relativePath content : String) :
    FileProgram ArtifactError String :=
  let absPath := join [artifactRoot, relativePath]
  .call (.mkdir (dirname absPath)) (fun
    | .error cause => cleanUp absPath (.storage relativePath cause)
    | .ok _ => writeTmp absPath relativePath content)

/-- The JSON text of the value, or the error of the attempt to make one, is given. -/
def storeJSON (artifactRoot relativePath : String) (json : Except String String) :
    FileProgram ArtifactError String :=
  match json with
  | .error message => .fail (.serialization message)
  | .ok text => storeArtifact artifactRoot relativePath text

def storePacket (artifactRoot repoId taskId packetType packetId : String)
    (packet : Except String String) : FileProgram ArtifactError String :=
  storeJSON artifactRoot (packetPath repoId taskId packetType packetId) packet

def storeLog (artifactRoot repoId taskId runId logName content : String) :
    FileProgram ArtifactError String :=
  storeArtifact artifactRoot (runLogPath repoId taskId runId logName) content

def storeValidationResult (artifactRoot repoId taskId runId validationRunId : String)
    (result : Except String String) : FileProgram ArtifactError String :=
  storeJSON artifactRoot
    (runValidationPath repoId taskId runId (validationRunId ++ ".json")) result

def storeReviewArtifact (artifactRoot repoId taskId reviewCycleId filename content : String) :
    FileProgram ArtifactError String :=
  storeArtifact artifactRoot (reviewArtifactPath repoId taskId reviewCycleId filename) content

def storeMergeArtifact (artifactRoot repoId taskId filename content : String) :
    FileProgram ArtifactError String :=
  storeArtifact artifactRoot (mergeArtifactPath repoId taskId filename) content

def storeSummary (artifactRoot repoId taskId filename content : String) :
    FileProgram ArtifactError String :=
  storeArtifact artifactRoot (summaryPath repoId taskId filename) content

/-!
## Reading
-/

/-- Named after the operation that asks whether an artifact exists. -/
def artifactExists (artifactRoot relativePath : String) : FileProgram ArtifactError Bool :=
  (FileProgram.perform (.pathExists (join [artifactRoot, relativePath]))).mapError .fileSystem

def readIfThere (absPath relativePath : String) :
    FileProgram ArtifactError (Option String) := do
  let fileExists ←
    (FileProgram.perform (.pathExists absPath)).mapError .fileSystem
  if fileExists = true then
    let content ←
      (FileProgram.perform (.readFile absPath)).mapError (.storage relativePath)
    pure (some content)
  else
    pure none

def readArtifact (artifactRoot relativePath : String) : FileProgram ArtifactError String := do
  match ← readIfThere (join [artifactRoot, relativePath]) relativePath with
  | none => .fail (.notFound relativePath)
  | some content => pure content

section

variable {β : Type} (parse : String -> Except String β)

def readJSON (artifactRoot relativePath : String) : FileProgram ArtifactError β := do
  let content ← readArtifact artifactRoot relativePath
  .done ((parse content).mapError (.storage relativePath))

/-- The resolved path is the root, or its text continues that of the root after a slash. -/
def validatePath (workingDirectory : List String) (artifactRoot relativePath : String) :
    Bool :=
  let absPath := resolvePath workingDirectory [artifactRoot, normalize relativePath]
  let normalizedRoot := resolvePath workingDirectory [artifactRoot]
  (normalizedRoot ++ "/").toList.isPrefixOf absPath.toList || absPath == normalizedRoot

def getArtifact (workingDirectory : List String)
    (artifactRoot repoId taskId artifactRef : String) :
    FileProgram ArtifactError (Option String) :=
  let relativePath := join [taskBasePath repoId taskId, artifactRef]
  if validatePath workingDirectory artifactRoot relativePath then
    readIfThere (join [artifactRoot, relativePath]) relativePath
  else
    .fail (.pathTraversal relativePath)

def getJSONArtifact (workingDirectory : List String)
    (artifactRoot repoId taskId artifactRef : String) :
    FileProgram ArtifactError (Option β) := do
  match ← getArtifact workingDirectory artifactRoot repoId taskId artifactRef with
  | none => pure none
  | some content =>
      .done (((parse content).map some).mapError
        (.storage (join [taskBasePath repoId taskId, artifactRef])))

end

/-!
## Listing
-/

/-- The walk enters directories to a certain depth, below which the paths are too long for
the file system. -/
def walkDirectory : (depth : Nat) -> (absDir relativeBase : String) ->
    FileProgram String (List ArtifactEntry)
  | 0, _, _ => .fail "ENAMETOOLONG: name too long, scandir"
  | depth + 1, absDir, relativeBase => do
      let entries ← FileProgram.perform (.readdir absDir)
      entries.foldlM (fun results entry =>
        let entryRelPath := join [relativeBase, entry.name]
        if entry.isDirectory then do
          let children ← walkDirectory depth (join [absDir, entry.name]) entryRelPath
          pure (results ++
            { relativePath := entryRelPath, name := entry.name, type := .directory } :: children)
        else
          pure (results ++
            [{ relativePath := entryRelPath, name := entry.name, type := .file }])) []

def listBelow (depth : Nat) (artifactRoot basePath : String) :
    FileProgram ArtifactError (List ArtifactEntry) := do
  let absBase := join [artifactRoot, basePath]
  let dirExists ← (FileProgram.perform (.pathExists absBase)).mapError .fileSystem
  if dirExists = true then
    (walkDirectory depth absBase basePath).mapError (.storage basePath)
  else
    pure []

def listArtifacts (depth : Nat) (artifactRoot repoId taskId : String) :
    FileProgram ArtifactError (List ArtifactEntry) :=
  listBelow depth artifactRoot (taskBasePath repoId taskId)

def listRunArtifacts (depth : Nat) (artifactRoot repoId taskId runId : String) :
    FileProgram ArtifactError (List ArtifactEntry) :=
  listBelow depth artifactRoot (join [taskBasePath repoId taskId, "runs", runId])

end Artifacts
end CopilotFactory
