import ApiContract.Code.Token

/-!
Artifacts: the named texts of a generation run, relative to the output folder, and the formatters
that lay out generated code.
-/

namespace ApiContract

structure Artifact where
  name : String
  text : String
  deriving DecidableEq, Repr, Inhabited

/-- Whether the artifact holds generated code. -/
def Artifact.isCode (artifact : Artifact) : Bool := artifact.name.endsWith ".rs"

/-- Turns the source of a named artifact into an equivalent source. -/
structure Formatter where
  format : String → String → Except GenerationError String

namespace Formatter

/-- Leaves the source as it is. -/
def identity : Formatter := ⟨fun _ source => .ok source⟩

/-- Stands at the top of every formatted artifact. -/
def notice : String :=
  "// This code was automatically generated by blueprint-gen. Do not edit manually."

/-- Puts the notice on top. The layout of the code behind it is left to other tools. -/
def standard : Formatter := ⟨fun _ source => .ok (notice ++ "\n\n" ++ source)⟩

end Formatter

end ApiContract
