import ApiContract.Text.Literal
import ApiContract.Model.Schema

/-!
Everything that can go wrong, by cause, and the message of each. Problems of the configuration and
of the model end a run; the others arise when a plan meets concrete values.
-/

namespace ApiContract

/-- A failure as its name and its named texts. -/
structure Description where
  name : String
  fields : List (String × String)

/-- The name, then the fields with their texts as literals. -/
def Description.text (d : Description) : String :=
  d.name ++ " \x7b " ++
    String.intercalate ", " (d.fields.map fun (key, text) => key ++ ": " ++ Text.literal text) ++
    " \x7d"

inductive ConfigurationError where
  | unknownGroupBy (value : String)
  | missingOption (name : String)
  | invalidOption (name reason : String)
  deriving DecidableEq, Repr

namespace ConfigurationError

def message : ConfigurationError → String
  | unknownGroupBy value =>
      "Unknown api-group-by value '" ++ value ++ "'. Expected one of: operation, operation-flat, "
        ++ "operation-group, first-path-segment, last-path-segment"
  | missingOption name => "Missing required option '" ++ name ++ "'"
  | invalidOption name reason => "Invalid value for option '" ++ name ++ "': " ++ reason

def describe : ConfigurationError → Description
  | unknownGroupBy value => ⟨"UnknownGroupBy", [("value", value)]⟩
  | missingOption name => ⟨"MissingOption", [("name", name)]⟩
  | invalidOption name reason => ⟨"InvalidOption", [("name", name), ("reason", reason)]⟩

end ConfigurationError

/-- Problems of a model that make planning impossible; each names the schema or operation at
fault. -/
inductive ModelError where
  | duplicateDiscriminator (base value first second : String)
  | missingParameter (operation parameter : String)
  | unknownSchema (schema referencedBy : String)
  | unsupportedBody (operation reason : String)
  | unsupportedSerialization (schema reason : String)
  | unsupportedParameter (operation parameter reason : String)
  | conflictingResponses (operation reason : String)
  | artifactCollision (path first second : String)
  /-- Arrays and dictionaries that only ever lead to one another. -/
  | endlessNesting (schema : String)
  deriving DecidableEq, Repr

namespace ModelError

def message : ModelError → String
  | duplicateDiscriminator base value first second =>
      "Duplicate discriminator value '" ++ value ++ "' in hierarchy '" ++ base ++
        "': used by both '" ++ first ++ "' and '" ++ second ++ "'"
  | missingParameter operation parameter =>
      "Operation '" ++ operation ++ "' references undeclared parameter '" ++ parameter ++ "'"
  | unknownSchema schema referencedBy =>
      "Schema '" ++ schema ++ "' referenced by '" ++ referencedBy ++ "' is not defined"
  | unsupportedBody operation reason =>
      "Unsupported request body for operation '" ++ operation ++ "': " ++ reason
  | unsupportedSerialization schema reason =>
      "Unsupported serialization of schema '" ++ schema ++ "': " ++ reason
  | unsupportedParameter operation parameter reason =>
      "Unsupported parameter '" ++ parameter ++ "' on operation '" ++ operation ++ "': " ++ reason
  | conflictingResponses operation reason =>
      "Conflicting responses for operation '" ++ operation ++ "': " ++ reason
  | artifactCollision path first second =>
      "Output path collision at '" ++ path ++ "' between '" ++ first ++ "' and '" ++ second ++ "'"
  | endlessNesting schema =>
      "Schema '" ++ schema ++ "' nests arrays and dictionaries without end"

def describe : ModelError → Description
  | duplicateDiscriminator base value first second =>
      ⟨"DuplicateDiscriminator",
        [("base", base), ("value", value), ("first", first), ("second", second)]⟩
  | missingParameter operation parameter =>
      ⟨"MissingParameter", [("operation", operation), ("parameter", parameter)]⟩
  | unknownSchema schema referencedBy =>
      ⟨"UnknownSchema", [("schema", schema), ("referenced_by", referencedBy)]⟩
  | unsupportedBody operation reason =>
      ⟨"UnsupportedBody", [("operation", operation), ("reason", reason)]⟩
  | unsupportedSerialization schema reason =>
      ⟨"UnsupportedSerialization", [("schema", schema), ("reason", reason)]⟩
  | unsupportedParameter operation parameter reason =>
      ⟨"UnsupportedParameter",
        [("operation", operation), ("parameter", parameter), ("reason", reason)]⟩
  | conflictingResponses operation reason =>
      ⟨"ConflictingResponses", [("operation", operation), ("reason", reason)]⟩
  | artifactCollision path first second =>
      ⟨"ArtifactCollision", [("path", path), ("first", first), ("second", second)]⟩
  | endlessNesting schema => ⟨"EndlessNesting", [("schema", schema)]⟩

end ModelError

/-- A value does not fit the plan that it is written or read with. -/
inductive ValueError where
  | missingProperty (typeName property : String)
  | typeMismatch (expected found : String)
  | unknownEnumValue (enumName value : String)
  | invalidBytes (reason : String)
  | json (reason : String)
  | xml (reason : String)
  /-- A model that the plan refers to has no plan. -/
  | model (error : ModelError)
  /-- Reading runs in a circle of declared defaults or variants. -/
  | endless
  deriving DecidableEq, Repr

/-- What is said of a document that is not well formed. -/
def malformed : String := "malformed document"

namespace ValueError

def message : ValueError → String
  | missingProperty typeName property =>
      "Missing required property '" ++ property ++ "' of '" ++ typeName ++ "'"
  | typeMismatch expected found => "Expected " ++ expected ++ ", found " ++ found
  | unknownEnumValue enumName value =>
      "'" ++ value ++ "' is not a member of enum '" ++ enumName ++ "'"
  | invalidBytes reason => "Invalid base64 content: " ++ reason
  | json reason => "Invalid JSON: " ++ reason
  | xml reason => "Invalid XML: " ++ reason
  | model error => error.message
  | endless => "Reading does not end"

end ValueError

/-- A call cannot be made from its arguments. -/
inductive RequestError where
  | missingArgument (operation parameter : String)
  | invalidUri (value reason : String)
  | value (error : ValueError)
  deriving DecidableEq, Repr

namespace RequestError

def message : RequestError → String
  | missingArgument operation parameter =>
      "Operation '" ++ operation ++ "' requires argument '" ++ parameter ++ "'"
  | invalidUri uri reason => "Invalid URI '" ++ uri ++ "': " ++ reason
  | value error => error.message

end RequestError

/-- A response cannot be handled. A status that no branch covers is a designed outcome of every
dispatch table. -/
inductive ResponseError where
  | unhandled (operation : String) (status : Nat)
  | body (operation : String) (source : ValueError)
  | header (operation header : String) (source : ValueError)
  deriving DecidableEq, Repr

namespace ResponseError

def message : ResponseError → String
  | unhandled operation status =>
      "Operation '" ++ operation ++ "' returned unexpected status " ++ toString status
  | body operation source =>
      "Failed to read response body of '" ++ operation ++ "': " ++ source.message
  | header operation name source =>
      "Failed to read response header '" ++ name ++ "' of '" ++ operation ++ "': " ++
        source.message

end ResponseError

/-- What ends a generation run. -/
inductive GenerationError where
  | configuration (error : ConfigurationError)
  | model (error : ModelError)
  | parse (reason : String)
  | code (reason : String)
  | read (path reason : String)
  | write (path reason : String)
  deriving DecidableEq, Repr

namespace GenerationError

def message : GenerationError → String
  | configuration error => error.message
  | model error => error.message
  | parse reason => "Failed to parse API model: " ++ reason
  | code reason => "Code generation failed: " ++ reason
  | read path reason => "Failed to read input file '" ++ path ++ "': " ++ reason
  | write path reason => "Failed to write output file '" ++ path ++ "': " ++ reason

/-- The cause by name with its texts as literals, as the command line reports it. -/
def cause : GenerationError → String
  | configuration error => "Config(" ++ error.describe.text ++ ")"
  | model error => "Model(" ++ error.describe.text ++ ")"
  | parse reason => "ParseError(" ++ Text.literal reason ++ ")"
  | code reason => "CodeGenError(" ++ Text.literal reason ++ ")"
  | read path reason => Description.text ⟨"ReadError", [("path", path), ("source", reason)]⟩
  | write path reason => Description.text ⟨"WriteError", [("path", path), ("source", reason)]⟩

end GenerationError

end ApiContract
