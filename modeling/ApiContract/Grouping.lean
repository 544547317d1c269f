import ApiContract.Configuration
import ApiContract.Naming
import ApiContract.Text.Cut

/-!
Operations in groups. Each operation is in exactly one group, found by its key and folder under
the policy. Groups are ordered by key and folder, the operations of a group by name; two groups
that would share an output path are refused.
-/

namespace ApiContract

/-- Operations that are generated into one client file. -/
structure OperationGroup where
  key : String
  folder : String
  operations : List Operation
  deriving DecidableEq, Inhabited

namespace Grouping

/-- The parts of a text between slashes, empty ones left out. -/
def slashParts (text : String) : List String :=
  (Text.split '/' text).filter (!·.isEmpty)

/-- The lower-cased segments of the first constant part of the route that starts with a slash. -/
def routeSegments (operation : Operation) : List String :=
  match operation.constants.find? fun text => text.toList.head? == some '/' with
  | some text => (slashParts text).map Text.toLower
  | none => []

/-- What stands before the first underscore, if there is one. -/
def beforeUnderscore (name : String) : Option String :=
  if name.toList.contains '_' then
    some (String.ofList (name.toList.takeWhile (· != '_')))
  else none

def key (policy : GroupingPolicy) (operation : Operation) : String :=
  match policy with
  | .operation | .operationFlat => operation.name
  | .operationGroup => (beforeUnderscore operation.name).getD ""
  | .firstPathSegment => (routeSegments operation).head?.getD ""
  | .lastPathSegment => (routeSegments operation).getLast?.getD ""

/-- The folder that nests an operation under its route. -/
def routeFolder (operation : Operation) : String :=
  match operation.constantRoute? with
  | some route => String.intercalate "/" ((slashParts route).map Text.snake)
  | none => ""

def folder (policy : GroupingPolicy) (operation : Operation) : String :=
  match policy with
  | .operation => routeFolder operation
  | _ => ""

/-- Order of groups: by key, then by folder. -/
def before (a b : String × String) : Bool := a.1 < b.1 || (a.1 == b.1 && a.2 < b.2)

/-- Adds an operation to its group in an ordered list of groups, starting a group where there is
none yet. -/
def insertOperation (place : String × String) (operation : Operation) :
    List OperationGroup → List OperationGroup
  | [] => [⟨place.1, place.2, [operation]⟩]
  | g :: rest =>
      if before place (g.key, g.folder) then ⟨place.1, place.2, [operation]⟩ :: g :: rest
      else if place = (g.key, g.folder) then
        { g with operations := g.operations ++ [operation] } :: rest
      else g :: insertOperation place operation rest

/-- Inserts before the first operation of a greater name, so equal names keep their order. -/
def insertByName (operation : Operation) : List Operation → List Operation
  | [] => [operation]
  | first :: rest =>
      if operation.name < first.name then operation :: first :: rest
      else first :: insertByName operation rest

def sortByName (operations : List Operation) : List Operation :=
  operations.foldl (fun sorted operation => insertByName operation sorted) []

end Grouping

namespace OperationGroup

/-- The client type of the group. -/
def clientName (g : OperationGroup) : String := Naming.clientName g.key

/-- The trait that a server implements for the group. -/
def handlerName (g : OperationGroup) : String :=
  (if g.key.isEmpty then "" else Naming.typeName g.key) ++ "Handler"

/-- The output path of the group, below the output folder. -/
def path (g : OperationGroup) : String :=
  let file := Naming.clientFile g.key
  if g.folder.isEmpty then file else g.folder ++ "/" ++ file

/-- Removes every trailing `.rs`. -/
def dropExtension (chars : List Char) : List Char :=
  match chars.reverse with
  | 's' :: 'r' :: '.' :: rest => strip rest |>.reverse
  | _ => chars
where
  strip : List Char → List Char
    | 's' :: 'r' :: '.' :: rest => strip rest
    | rest => rest

/-- The parts of the module path of the group's file. -/
def modulePathParts (g : OperationGroup) : List String :=
  Text.split '/' (String.ofList (dropExtension g.path.toList))

def modulePath (g : OperationGroup) : String := String.intercalate "::" g.modulePathParts

/-- The module path of the group's file below a namespace. -/
def namespacePath (g : OperationGroup) (namespaceHint : String) : String :=
  namespaceHint ++ "::" ++ g.modulePath

/-- The name of the group's module. -/
def moduleName (g : OperationGroup) : String := g.modulePathParts.getLast?.getD ""

end OperationGroup

namespace Grouping

/-- The first group whose path an earlier one has already, with that earlier one. -/
def firstCollision : List OperationGroup → Option (OperationGroup × OperationGroup)
  | groups => go [] groups
where
  go (seen : List OperationGroup) : List OperationGroup → Option (OperationGroup × OperationGroup)
    | [] => none
    | g :: rest =>
        match seen.find? fun other => other.path == g.path with
        | some other => some (other, g)
        | none => go (g :: seen) rest

/-- The ordered groups of the operations, without regard to their paths. -/
def partition (policy : GroupingPolicy) (operations : List Operation) : List OperationGroup :=
  let groups := operations.foldl
    (fun groups operation =>
      insertOperation (key policy operation, folder policy operation) operation groups)
    []
  groups.map fun g => { g with operations := sortByName g.operations }

end Grouping

/-- The groups of the operations, or the two groups that would share a path. -/
def group (policy : GroupingPolicy) (operations : List Operation) :
    Except ModelError (List OperationGroup) :=
  let groups := Grouping.partition policy operations
  match Grouping.firstCollision groups with
  | some (first, second) =>
      .error (.artifactCollision second.path first.clientName second.clientName)
  | none => .ok groups

end ApiContract
