import ApiContract.Files.Host
import ApiContract.Generation.Artifact

/-!
Writing artifacts below a folder. Each file is written beside its place and then moved there, so
that a reader sees the old text or the new one.
-/

namespace ApiContract

variable {m : Type → Type} [Monad m] [Host m]

/-- A step of writing, with the path that is to blame if it fails. -/
def writingStep (path : String) (step : m (Except String Unit)) : ExceptT GenerationError m Unit := do
  match ← (step : m (Except String Unit)) with
  | .ok () => pure ()
  | .error reason => throw (.write path reason)

/-- Where the new text of a file stands before it is moved. -/
def temporaryPath (path : String) : String := path ++ ".tmp"

/-- Replaces the text of a file, making the folders above it. -/
def writeAtomically (path text : String) : ExceptT GenerationError m Unit := do
  let folder := Path.parent path
  if folder != "" then writingStep folder (Host.createFolders folder)
  writingStep (temporaryPath path) (Host.writeText (temporaryPath path) text)
  writingStep path (Host.rename (temporaryPath path) path)

/-- How an artifact is shown instead of being written. -/
def Artifact.shown (artifact : Artifact) : String :=
  "=== " ++ artifact.name ++ " ===\n" ++ artifact.text ++ "\n\n"

/-- Writes artifacts below a folder, one after the other up to the first failure. A dry run prints
them. -/
def writeArtifacts (folder : String) (dryRun : Bool) :
    List Artifact → ExceptT GenerationError m Unit
  | [] => pure ()
  | artifact :: rest => do
      if dryRun then (Host.print artifact.shown : m Unit)
      else writeAtomically (Path.join folder artifact.name) artifact.text
      writeArtifacts folder dryRun rest

end ApiContract
