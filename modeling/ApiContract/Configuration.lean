import ApiContract.Document.Shape
import ApiContract.Failure
import ApiContract.Json.Reader
import ApiContract.Model.Writing

/-!
The options of one generation run, and the policies that assign operations to groups.
-/

namespace ApiContract

/-- How operations are assigned to groups. -/
inductive GroupingPolicy where
  /-- One group per operation, nested under its route. -/
  | operation
  /-- One group per operation, all at the output root. -/
  | operationFlat
  /-- Operations whose names share what stands before the first underscore. -/
  | operationGroup
  /-- Operations that share the first segment of their route. -/
  | firstPathSegment
  /-- Operations that share the last segment of the first constant part of their route. -/
  | lastPathSegment
  deriving DecidableEq, Repr, Inhabited

namespace GroupingPolicy

def all : List GroupingPolicy :=
  [.operation, .operationFlat, .operationGroup, .firstPathSegment, .lastPathSegment]

def name : GroupingPolicy → String
  | operation => "operation"
  | operationFlat => "operation-flat"
  | operationGroup => "operation-group"
  | firstPathSegment => "first-path-segment"
  | lastPathSegment => "last-path-segment"

def ofName? (text : String) : Option GroupingPolicy := all.find? (·.name == text)

def standard : GroupingPolicy := .firstPathSegment

end GroupingPolicy

structure Configuration where
  outputFolder : String := ""
  /-- The path of the generated modules in their library. -/
  namespaceHint : String := ""
  /-- The name that documentation uses; the namespace where absent. -/
  libraryName : Option String := none
  /-- The name of a grouping policy, checked by `validate`. -/
  groupBy : String := GroupingPolicy.standard.name
  publicClients : Bool := false
  generateMetadata : Bool := true
  deriving DecidableEq, Repr, Inhabited

namespace Configuration

def library (configuration : Configuration) : String :=
  configuration.libraryName.getD configuration.namespaceHint

def isBlankText (text : String) : Bool := text.toList.all Text.isBlank

/-- An identifier of ASCII letters, digits and underscores that starts with no digit. -/
def isIdentifier (text : String) : Bool :=
  !text.isEmpty && text.toList.all (fun c => c.isAlphanum || c == '_') &&
    !text.toList.head?.any Char.isDigit

/-- Whether a namespace is a path of identifiers joined by double colons. -/
def isNamespacePath (text : String) : Bool := (text.splitOn "::").all isIdentifier

/-- Checks the options in a fixed order and gives the grouping policy. -/
def validate (configuration : Configuration) : Except ConfigurationError GroupingPolicy :=
  if isBlankText configuration.outputFolder then .error (.missingOption "output-folder")
  else if isBlankText configuration.namespaceHint then .error (.missingOption "namespace")
  else if !isNamespacePath configuration.namespaceHint then
    .error (.invalidOption "namespace"
      ("'" ++ configuration.namespaceHint ++ "' is not a path of identifiers"))
  else
    match GroupingPolicy.ofName? (Text.trim configuration.groupBy) with
    | some policy => .ok policy
    | none => .error (.unknownGroupBy configuration.groupBy)

open Document Document.Fields in
def reader : Reader Configuration :=
  record "struct Configuration"
    (Configuration.mk
      <$> withDefault "output-folder" text ""
      <*> withDefault "namespace" text ""
      <*> optional "library-name" text
      <*> withDefault "api-group-by" text GroupingPolicy.standard.name
      <*> withDefault "public-clients" boolean false
      <*> withDefault "generate-metadata" boolean true)

/-- Reads the JSON document of a configuration. -/
def ofText (text : String) : Except GenerationError Configuration :=
  match Json.nodeOfText? text with
  | none => .error (.parse ("configuration: " ++ malformed))
  | some node =>
      match reader .direct node with
      | .ok configuration => .ok configuration
      | .error e =>
          .error (.parse ("configuration: " ++ if node.json?.isSome then e.message else malformed))

def toJson (configuration : Configuration) : Json :=
  Json.record
    [Json.member "output-folder" (.string configuration.outputFolder),
     Json.member "namespace" (.string configuration.namespaceHint),
     Json.memberText "library-name" configuration.libraryName,
     Json.member "api-group-by" (.string configuration.groupBy),
     Json.member "public-clients" (.bool configuration.publicClients),
     Json.member "generate-metadata" (.bool configuration.generateMetadata)]

/-- The document of a configuration, indented. -/
def toText (configuration : Configuration) : String := configuration.toJson.pretty

end Configuration

end ApiContract
