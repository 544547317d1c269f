import ApiContract.Command.Run

/-!
The program: the command line run on the files of the machine.
-/

namespace ApiContract

/-- The outcome of an action, its failure as text. -/
def outcome (action : IO α) : IO (Except String α) := do
  try
    let a ← action
    pure (.ok a)
  catch e => pure (.error (toString e))

/-- Whether a file stands at a path, and no folder. -/
def isFileAt (path : String) : IO Bool := do
  match ← outcome (IO.FS.realPath path) with
  | .error _ => pure false
  | .ok real => return (← real.pathExists) && !(← real.isDir)

instance : Host IO where
  readText path := outcome (IO.FS.readFile path)
  isFile := isFileAt
  createFolders path := outcome (IO.FS.createDirAll path)
  writeText path text := outcome (IO.FS.writeFile path text)
  rename source target := outcome (IO.FS.rename source target)
  print text := IO.print text
  report text := IO.eprint text

end ApiContract

def main (words : List String) : IO UInt32 := ApiContract.Command.run words
