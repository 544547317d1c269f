import ApiContract.Code.Template

/-!
Generated files of models: each has a module and exports its types, and one module holds them all.
-/

namespace ApiContract

structure ModelFile where
  /-- The module, which also names the file. -/
  module : String
  /-- The public types of the file. -/
  exports : List String
  code : Code
  deriving DecidableEq, Inhabited

/-- A description as a comment, nothing for a blank one. -/
def docComment (description : Option String) : Code :=
  match description.map Text.trim with
  | none | some "" => []
  | some text => Code.doc (" " ++ text)

namespace ModelFile

/-- The declaration of a file's module and the export of its types. -/
def declaration (file : ModelFile) : Code :=
  Code.write r#"mod $module; pub use $module::{$exports};"#
    [("module", Code.ident file.module),
     ("exports", Code.commaSeparated (file.exports.map Code.ident))]

/-- The module that holds all model files. -/
def index (files : List ModelFile) : Code :=
  Code.innerDoc " Data models exchanged with the service." ++
    Code.sequence (files.map declaration)

end ModelFile

end ApiContract
