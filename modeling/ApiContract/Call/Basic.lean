import ApiContract.Plan.Building
import ApiContract.Text.Cut

/-!
Call plans: the signature of an operation's call and the steps that make a request from the
arguments. A plan is pure data; it is followed by evaluating it on arguments, or by writing the
same steps as code.
-/

namespace ApiContract

/-- How a value becomes text: one scalar, or the scalars of a list. -/
inductive TextForm where
  | scalar (kind : ScalarKind)
  | list (kind : ScalarKind)
  deriving DecidableEq, Repr, Inhabited

inductive ArgumentSource where
  | parameter (name : String)
  | constant (document : Json)
  deriving DecidableEq, Inhabited

structure StepValue where
  source : ArgumentSource
  form : TextForm
  deriving DecidableEq, Inhabited

/-- A parameter as callers see it. An unset nullable one contributes nothing. -/
structure SignatureParameter where
  name : String
  wireName : String
  location : ParameterLocation
  type : TypeUse
  required : Bool
  nullable : Bool
  default : Option Json
  deriving DecidableEq, Inhabited

/-- What a body is made from. -/
inductive BodySource where
  /-- One parameter, written through the plan of its schema. -/
  | planned (parameter : String) (format : WireFormat) (plan : WirePlan)
  | binary (parameter : String)
  | text (parameter : String)
  /-- A record of several parameters, written through the plan of `schema`. -/
  | flattened (schema : SchemaId) (initializers : List BodyInitializer) (format : WireFormat)
      (plan : WirePlan)
  deriving DecidableEq, Inhabited

structure BodyStep where
  source : BodySource
  contentType : String
  deriving DecidableEq, Inhabited

inductive CallStep where
  /-- Puts an absolute URI in the place of the endpoint. -/
  | resetEndpoint (value : StepValue)
  | appendConstant (text : String)
  | appendValue (value : StepValue) (escape : Bool)
  | appendRaw (value : StepValue)
  /-- Follows the link of a paged listing: an absolute link replaces the URI, a relative one is
  merged into it. -/
  | followLink (value : StepValue)
  | addQuery (name : String) (value : StepValue) (style : ListStyle) (escape : Bool)
  | addHeader (name : String) (value : StepValue) (style : ListStyle)
  | setBody (body : BodyStep)
  deriving DecidableEq, Inhabited

structure CallPlan where
  operation : String
  method : HttpMethod
  /-- All parameters but the constants; those without a default come first. -/
  signature : List SignatureParameter
  steps : List CallStep
  deriving DecidableEq, Inhabited

namespace CallPlan

def parameter? (plan : CallPlan) (name : String) : Option SignatureParameter :=
  plan.signature.find? (·.name == name)

def body? (plan : CallPlan) : Option BodyStep :=
  plan.steps.findSome? fun
    | .setBody body => some body
    | _ => none

end CallPlan

/-- The piece of a route template that a value stands for. -/
def ArgumentSource.template : ArgumentSource → String
  | parameter name => "\x7b" ++ name ++ "\x7d"
  | constant (.string text) => text
  | constant document => document.compact

/-- The piece that a step adds to the route. Endpoints and links are no part of it. -/
def CallStep.routePiece? : CallStep → Option String
  | appendConstant text => some text
  | appendValue value _ | appendRaw value => some value.source.template
  | _ => none

/-- The route with parameter names in braces, without its leading slashes. -/
def CallPlan.routeTemplate (plan : CallPlan) : String :=
  Text.dropLeading '/' ((plan.steps.filterMap CallStep.routePiece?).foldl Text.joinPath "")

end ApiContract
