import ApiContract.Configuration
import ApiContract.Files.Host
import ApiContract.Model.Loading

/-!
The inputs of a run: a model file, or a folder that holds a configuration beside a model.
-/

namespace ApiContract

variable {m : Type → Type} [Monad m] [Host m]

def readInput (path : String) : ExceptT GenerationError m String := do
  match ← (Host.readText path : m (Except String String)) with
  | .ok text => pure text
  | .error reason => throw (.read path reason)

/-- Reads a model file: JSON where the name of the file says so, YAML otherwise. -/
def loadModel (path : String) : ExceptT GenerationError m Model := do
  let text ← readInput path
  if Path.extension? path = some "json" then liftExcept (Model.ofJsonText text)
  else liftExcept (Model.ofYamlText text)
where
  liftExcept : Except GenerationError Model → ExceptT GenerationError m Model
    | .ok model => pure model
    | .error e => throw e

def configurationName : String := "Configuration.json"

/-- The names a model may have in an input folder, in the order in which they are looked for. -/
def modelNames : List String := ["CodeModel.yaml", "CodeModel.yml", "CodeModel.json"]

/-- The first of some paths that is one of a file. -/
def firstFile : List String → m (Option String)
  | [] => pure none
  | path :: rest => do if ← Host.isFile path then pure (some path) else firstFile rest

/-- Reads the configuration of an input folder, then its model. -/
def loadInput (folder : String) : ExceptT GenerationError m (Configuration × Model) := do
  let text ← readInput (Path.join folder configurationName)
  match Configuration.ofText text with
  | .error e => throw e
  | .ok configuration =>
      match ← (firstFile (modelNames.map (Path.join folder)) : m (Option String)) with
      | none =>
          throw (.parse ("no model file (" ++ String.intercalate ", " modelNames ++ ") in '" ++
            folder ++ "'"))
      | some path => return (configuration, ← loadModel path)

end ApiContract
