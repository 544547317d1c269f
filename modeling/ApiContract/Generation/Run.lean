import ApiContract.Call.Building
import ApiContract.Code.Operation
import ApiContract.Dispatch.Building
import ApiContract.Code.Client
import ApiContract.Code.Handler
import ApiContract.Code.Models
import ApiContract.Code.SharedModule
import ApiContract.Generation.Artifact
import ApiContract.Generation.Library

/-!
Planning a whole model: every schema is resolved, every object planned as JSON, every operation
planned, and the objects are found that travel as elements. A problem of any of them ends the run.
-/

namespace ApiContract.Model

def planSchema (model : Model) : SchemaId × Schema → Planning ModelError Unit
  | (id, .object _) => do
      let _ ← model.resolve id
      let _ ← model.plan id .json
      pure ()
  | (id, _) => do
      let _ ← model.resolve id
      pure ()

def planSchemas (model : Model) : Planning ModelError Unit := do
  let _ ← model.schemas.mapM model.planSchema
  pure ()

def operationPlan (model : Model) (operation : Operation) : Planning ModelError OperationPlan := do
  let call ← model.callPlan operation
  let dispatch ← model.dispatchTable operation
  pure { operation, call, dispatch }

def planOperations (model : Model) : Planning ModelError (List OperationPlan) :=
  model.operations.mapM model.operationPlan

end ApiContract.Model

namespace ApiContract

/-- The schema of a model or an enum, or of the elements of a collection of these. -/
def RustType.elementSchema? : RustType → Option SchemaId
  | .collection element => element.schema?
  | type => type.schema?

namespace OperationPlan

/-- The schema that the body carries as an element. -/
def sentElement? (plan : OperationPlan) : Option SchemaId :=
  match plan.call.body?.map BodyStep.source with
  | some (.planned name .xml _) =>
      (plan.call.parameter? name).bind fun parameter => parameter.type.type.elementSchema?
  | some (.flattened schema _ .xml _) => some schema
  | _ => none

def readsElement (plan : OperationPlan) : Bool :=
  plan.dispatch.branches.any fun branch => branch.action matches .read .xml _

/-- The schema that responses carry as an element. -/
def receivedElement? (plan : OperationPlan) : Option SchemaId :=
  match plan.dispatch.value with
  | some (.typed used) => if plan.readsElement then used.type.elementSchema? else none
  | _ => none

def elementRoots (plan : OperationPlan) : List SchemaId :=
  plan.sentElement?.toList ++ plan.receivedElement?.toList

end OperationPlan

namespace Model

def isObject (model : Model) (id : SchemaId) : Bool :=
  ((model.schema? id).bind Schema.object?).isSome

/-- The keys of a list as a sorted list without repetition. -/
def sortedSet (ids : List SchemaId) : List SchemaId :=
  (ids.foldl (fun sorted id => insertSorted id () sorted) []).map (·.1)

/-- The objects that operations carry as elements, and all that these refer to. -/
def elementModels (model : Model) (plans : List OperationPlan) :
    Planning ModelError (List SchemaId) := do
  let roots := (sortedSet (plans.flatMap OperationPlan.elementRoots)).filter model.isObject
  let closures ← roots.mapM model.xmlClosure
  pure ((sortedSet closures.flatten).filter model.isObject)

end Model

end ApiContract

/-!
A generation run: the configuration is checked, the model is planned and grouped, the sources are
made, and their names are checked against each other. A run gives all artifacts or none.
-/

namespace ApiContract

/-- The code of a group's file. -/
structure GroupSource where
  path : String
  documentation : Code
  client : ClientCode
  handler : HandlerCode
  deriving DecidableEq, Inhabited

namespace GroupSource

def code (source : GroupSource) : Code :=
  source.documentation ++ source.client.code ++ source.handler.code

def ofGroup (model : Model) (configuration : Configuration) (group : OperationGroup)
    (plans : List OperationPlan) : Planning GenerationError GroupSource := do
  let client ← ClientCode.ofGroup model group plans configuration.publicClients
  let handler ← HandlerCode.ofGroup group plans
  pure
    { path := group.path
      documentation := GroupDocumentation.code model group configuration.namespaceHint plans
      client
      handler }

end GroupSource

/-- The plan of the operation of a name; of several operations the last counts. -/
def planNamed (plans : List OperationPlan) (name : String) : Option OperationPlan :=
  plans.reverse.find? (·.operation.name == name)

/-- The plans of the operations of a group. -/
def groupPlans (plans : List OperationPlan) (group : OperationGroup) : List OperationPlan :=
  group.operations.filterMap fun operation => planNamed plans operation.name

/-- What a run has made before anything is formatted. -/
structure Sources where
  groups : List GroupSource
  modules : List LibraryModule
  library : Code
  models : List ModelFile
  deriving DecidableEq, Inhabited

namespace Sources

def modelPath (file : ModelFile) : String := "models/" ++ file.module ++ ".rs"

/-- All files of code with their names. -/
def files (sources : Sources) : List (String × Code) :=
  ("lib.rs", sources.library) :: ("shared.rs", SharedModule.module) ::
    ("models/mod.rs", ModelFile.index sources.models) ::
    (sources.models.map fun file => (modelPath file, file.code)) ++
    (sources.groups.map fun group => (group.path, group.code))

end Sources

def metadataName : String := ".blueprint_generated.json"

/-- Refuses a name that stands twice in a list. -/
def checkDistinct (seen : List String) : List String → Except ModelError Unit
  | [] => .ok ()
  | name :: rest =>
      if seen.contains name then .error (.artifactCollision name name name)
      else checkDistinct (name :: seen) rest

namespace Generation

/-- The source of each group, complete before the next is begun. -/
def groupSources (model : Model) (configuration : Configuration) (plans : List OperationPlan) :
    List OperationGroup → Planning GenerationError (List GroupSource)
  | [] => pure []
  | group :: rest => do
      let source ← GroupSource.ofGroup model configuration group (groupPlans plans group)
      let _ ← Code.checked source.code
      let sources ← groupSources model configuration plans rest
      pure (source :: sources)

/-- All sources of a model. -/
def sources (model : Model) (configuration : Configuration) (policy : GroupingPolicy) :
    Planning GenerationError Sources := do
  model.planSchemas.mapError .model
  let plans ← model.planOperations.mapError .model
  let groups ← (Planning.lift (group policy model.operations)).mapError .model
  let asElements ← (model.elementModels plans).mapError .model
  let models ← ModelFile.all model asElements (plans.filterMap (·.dispatch.headers))
  let groupSources ← groupSources model configuration plans groups
  let modules ← (Planning.lift (Library.modules groups)).mapError .model
  let made : Sources :=
    { groups := groupSources
      modules
      library := Library.code model groups modules configuration.publicClients
      models }
  let _ ← made.files.mapM fun (_, code) => Planning.lift (Code.checked code)
  pure made

/-- The record of a run: what was generated from what, and the names of all other artifacts. -/
def metadata (model : Model) (configuration : Configuration) (names : List String) : Artifact :=
  let document : Json := .object
    [("generator", .string "blueprint-gen"),
     ("version", .string "0.1.0"),
     ("model", .string model.name),
     ("library", .string configuration.library),
     ("namespace", .string configuration.namespaceHint),
     ("api-group-by", .string configuration.groupBy),
     ("public-clients", .bool configuration.publicClients),
     ("artifacts", .array ((names.mergeSort fun a b => a ≤ b).map .string))]
  { name := metadataName, text := document.pretty }

/-- The artifacts of the sources, sorted by name. -/
def artifacts (model : Model) (configuration : Configuration) (formatter : Formatter)
    (sources : Sources) : Except GenerationError (List Artifact) := do
  let files := sources.files
  let names := files.map (·.1)
  let extra := if configuration.generateMetadata then [metadataName] else []
  match checkDistinct [] (names ++ extra) with
  | .error e => .error (.model e)
  | .ok () => do
      let formatted ← files.mapM fun (name, code) => do
        let text ← formatter.format name code.render
        pure { name, text : Artifact }
      let record :=
        if configuration.generateMetadata then [metadata model configuration names] else []
      pure ((formatted ++ record).mergeSort fun a b => a.name ≤ b.name)

end Generation

/-- Generates all artifacts of a model. -/
def generate (model : Model) (configuration : Configuration) (formatter : Formatter) :
    Except GenerationError (List Artifact) :=
  match configuration.validate with
  | .error e => .error (.configuration e)
  | .ok policy => do
      let sources ← ((Generation.sources model configuration policy).run {}).1
      Generation.artifacts model configuration formatter sources

end ApiContract
