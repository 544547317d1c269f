import ApiContract.Command.Options
import ApiContract.Generation.Input
import ApiContract.Generation.Run
import ApiContract.Generation.Writing

/-!
A run of the command line: its inputs are loaded, artifacts are generated and written, and the
outcome is reported.
-/

namespace ApiContract.Command

variable {m : Type → Type} [Monad m] [Host m]

/-- The configuration and the model that the options ask for. Without a folder of inputs the
configuration has nothing but the options; what is missing comes to light when it is checked. -/
def load (options : Options) : ExceptT GenerationError m (Configuration × Model) :=
  match options.input, options.model with
  | some folder, _ => do
      let (configuration, model) ← loadInput folder
      pure (options.apply configuration, model)
  | none, some path => do return (options.apply {}, ← loadModel path)
  | none, none => throw (.configuration (.missingOption "model"))

/-- Generates and writes; what a dry run is, is said before anything is generated. -/
def generateAndWrite (options : Options) : ExceptT GenerationError m Unit := do
  let (configuration, model) ← load options
  if options.dryRun then
    (Host.report "Dry run mode - no files will be written\n" : m Unit)
  match generate model configuration .standard with
  | .error e => throw e
  | .ok artifacts => do
      writeArtifacts configuration.outputFolder options.dryRun artifacts
      if !options.dryRun then
        (Host.report ("Generated " ++ toString artifacts.length ++ " artifacts for " ++
          model.name ++ " in " ++ configuration.outputFolder ++ "\n") : m Unit)

/-- Runs the command line and gives its exit code: 1 for a run that failed, 2 for words that are
no command line. -/
def run (words : List String) : m UInt32 :=
  match read {} words with
  | .error e => do
      Host.report ("error: " ++ e.message ++ "\n\n" ++ usageLine)
      pure 2
  | .ok .help => do
      Host.print helpText
      pure 0
  | .ok .version => do
      Host.print ("blueprint-gen " ++ version ++ "\n")
      pure 0
  | .ok (.run options) => do
      match ← (generateAndWrite options).run with
      | .ok () => pure 0
      | .error e => do
          Host.report ("Error: " ++ e.cause ++ "\n")
          pure 1

end ApiContract.Command
