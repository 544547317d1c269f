import ApiContract.Plan.Building

/-!
Dispatch tables: what an operation does with each status it may receive, and what its caller gets.
-/

namespace ApiContract

/-- What a call gives to its caller. -/
inductive ReturnKind where
  /-- The response as received. -/
  | response
  | headers
  | value
  | headersAndValue
  deriving DecidableEq, Repr, Inhabited

def ReturnKind.name : ReturnKind → String
  | response => "Response"
  | headers => "Headers"
  | value => "Value"
  | headersAndValue => "HeadersAndValue"

/-- The value of the responses that have one. -/
inductive ReturnedValue where
  | typed (type : TypeUse)
  /-- The content as received. -/
  | stream
  deriving DecidableEq, Repr, Inhabited

def ReturnedValue.rustName : ReturnedValue → String
  | typed type => type.rustName
  | stream => "stream"

inductive BodyAction where
  | noContent
  | read (format : WireFormat) (plan : WirePlan)
  | stream
  deriving DecidableEq, Inhabited

structure DispatchBranch where
  status : StatusCode
  action : BodyAction
  deriving DecidableEq, Inhabited

/-- A header that goes into a field of the header model. -/
structure HeaderBinding where
  field : String
  header : String
  kind : ScalarKind
  type : TypeUse
  deriving DecidableEq, Repr, Inhabited

structure HeaderPlan where
  name : String
  fields : List HeaderBinding
  deriving DecidableEq, Repr, Inhabited

def HeaderPlan.typeName (plan : HeaderPlan) : String := Naming.typeName plan.name

/-- Branches in declared order; the first that covers a status decides. -/
structure DispatchTable where
  operation : String
  value : Option ReturnedValue
  /-- Whether some branch that succeeds has no value. -/
  valueOptional : Bool
  headers : Option HeaderPlan
  branches : List DispatchBranch
  deriving DecidableEq, Inhabited

namespace DispatchTable

def returnKind (table : DispatchTable) : ReturnKind :=
  match table.headers, table.value with
  | some _, some _ => .headersAndValue
  | some _, none => .headers
  | none, some _ => .value
  | none, none => .response

def dispatch (table : DispatchTable) (status : Nat) : Except ResponseError DispatchBranch :=
  match table.branches.find? (·.status.covers status) with
  | some branch => .ok branch
  | none => .error (.unhandled table.operation status)

end DispatchTable

end ApiContract
