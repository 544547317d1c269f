import ApiContract.Code.Operation
import ApiContract.Grouping

/-!
Documentation of generated modules: what a group is about, its operations by method, and an example
of a call; for the whole library the list of its modules.
-/

namespace ApiContract

/-- A paragraph for a description, nothing where there is none. -/
def descriptionParagraph (description : Option String) : String :=
  match description with
  | some text => "\n\n " ++ Text.trim text
  | none => ""

namespace GroupDocumentation

def introduction (model : Model) (group : OperationGroup) : String :=
  let subject :=
    if group.key.isEmpty then " Operations of " ++ model.name ++ " without a group."
    else " The `" ++ group.key ++ "` operations of " ++ model.name ++ "."
  subject ++ "\n\n Call them through [`" ++ group.clientName ++
    "`] or serve them by implementing [`" ++ group.handlerName ++ "`]." ++
    descriptionParagraph model.description

/-- The methods in the order of their names. -/
def sortedMethods : List HttpMethod := [.delete, .get, .head, .options, .patch, .post, .put]

/-- The operations of one method, under its name. -/
def methodLines (plans : List OperationPlan) (method : HttpMethod) : List String :=
  match plans.filter (·.call.method == method) with
  | [] => []
  | plans =>
      (" **" ++ method.name ++ "**:") ::
        (plans.map fun plan =>
          " - `" ++ plan.methodName ++ "` - `/" ++ plan.call.routeTemplate ++ "`") ++ [""]

def operations (plans : List OperationPlan) : String :=
  if plans.isEmpty then " ## Operations\n\n No operations defined."
  else
    String.intercalate "\n"
      (" ## Operations" :: "" :: sortedMethods.flatMap (methodLines plans))

/-- The operation of the example: the first that gets something, else the first. -/
def exampleOf (plans : List OperationPlan) : Option OperationPlan :=
  match plans.find? (·.call.method == .get) with
  | some plan => some plan
  | none => plans.head?

def sample (group : OperationGroup) (namespaceHint : String) (plans : List OperationPlan) :
    String :=
  match exampleOf plans with
  | none => " ## Example\n\n No operations available for example."
  | some plan =>
      String.intercalate "\n"
        [" ## Example",
         "",
         " ```ignore",
         " use " ++ group.namespacePath namespaceHint ++ "::" ++ group.clientName ++ ";",
         "",
         " #[tokio::main]",
         " async fn main() -> Result<(), crate::shared::ApiError> \x7b",
         "     let client = " ++ group.clientName ++ "::new(\"https://example.com\");",
         "     let response = client." ++ plan.methodName ++ "(" ++
           String.intercalate ", " plan.call.argumentNames ++ ").await?;",
         "     println!(\"\x7b:?\x7d\", response);",
         "     Ok(())",
         " \x7d",
         " ```"]

def code (model : Model) (group : OperationGroup) (namespaceHint : String)
    (plans : List OperationPlan) : Code :=
  Code.innerDoc (introduction model group) ++ Code.innerDoc "" ++
    Code.innerDoc (operations plans) ++ Code.innerDoc "" ++
    Code.innerDoc (sample group namespaceHint plans)

end GroupDocumentation

namespace LibraryDocumentation

def introduction (model : Model) : String :=
  " Generated client for " ++ model.name ++ "." ++ descriptionParagraph model.description

def groupLine (group : OperationGroup) : String :=
  " - `" ++ group.modulePath ++ "` - `" ++ group.clientName ++ "` (" ++
    toString group.operations.length ++ " operations)"

def modules (groups : List OperationGroup) : String :=
  String.intercalate "\n"
    (" ## Modules" :: "" ::
      " - `models` - Data types exchanged with the service" ::
      " - `shared` - Error type, transport and encoding helpers" :: groups.map groupLine)

def code (model : Model) (groups : List OperationGroup) : Code :=
  Code.innerDoc (introduction model) ++ Code.innerDoc "" ++ Code.innerDoc (modules groups)

end LibraryDocumentation

end ApiContract
