import ApiContract.Dispatch.Basic

/-!
Planning the responses of an operation. All bodies must have one type, and all header models one
name.
-/

namespace ApiContract.Model

def headerBinding (model : Model) (operation : Operation) (headers : HeaderModel)
    (field : HeaderField) : Planning ModelError HeaderBinding := do
  match ← model.scalarKind field.schema (headers.name ++ "." ++ field.name) with
  | none =>
      .fail (.unsupportedParameter operation.name field.header "response headers must be scalars")
  | some kind => do
      let type ← model.resolve field.schema
      pure { field := field.name, header := field.header, kind, type }

def headerPlan (model : Model) (operation : Operation) (headers : HeaderModel) :
    Planning ModelError HeaderPlan := do
  let fields ← headers.headers.mapM (model.headerBinding operation headers)
  pure { name := headers.name, fields }

/-- What is done with the body of a response, and the value that comes of it. -/
def bodyAction (model : Model) :
    ResponseBody → Planning ModelError (BodyAction × Option ReturnedValue)
  | .none => pure (.noContent, none)
  | .stream => pure (.stream, some .stream)
  | .typed schema format => do
      let plan ← model.plan schema format
      let type ← model.resolve schema
      pure (.read format plan, some (.typed type))

/-- The value of the responses so far together with that of one more. -/
def joinValues (operation : Operation) :
    Option ReturnedValue → Option ReturnedValue → Except ModelError (Option ReturnedValue)
  | some first, some second =>
      if first = second then .ok (some first)
      else
        .error (.conflictingResponses operation.name
          ("bodies of type " ++ first.rustName ++ " and " ++ second.rustName))
  | known, none => .ok known
  | none, added => .ok added

def joinHeaders (model : Model) (operation : Operation) :
    Option HeaderPlan → Option HeaderModel → Planning ModelError (Option HeaderPlan)
  | some plan, some headers =>
      if plan.name = headers.name then pure (some plan)
      else
        .fail (.conflictingResponses operation.name
          ("header models '" ++ plan.name ++ "' and '" ++ headers.name ++ "'"))
  | known, none => pure known
  | none, some headers => do
      let plan ← model.headerPlan operation headers
      pure (some plan)

def addResponse (model : Model) (operation : Operation) (table : DispatchTable)
    (response : Response) : Planning ModelError DispatchTable := do
  let (action, added) ← model.bodyAction response.body
  let value ← joinValues operation table.value added
  let headers ← model.joinHeaders operation table.headers response.headers
  let branches := response.statusCodes.map fun status => ⟨status, action⟩
  pure { table with value, headers, branches := table.branches ++ branches }

def addResponses (model : Model) (operation : Operation) :
    DispatchTable → List Response → Planning ModelError DispatchTable
  | table, [] => pure table
  | table, response :: rest => do
      let next ← model.addResponse operation table response
      model.addResponses operation next rest

def dispatchTable (model : Model) (operation : Operation) : Planning ModelError DispatchTable := do
  let empty : DispatchTable :=
    { operation := operation.name, value := none, valueOptional := false, headers := none
      branches := [] }
  let table ← model.addResponses operation empty operation.responses
  let hasEmpty := operation.responses.any (·.body == .none)
  pure { table with valueOptional := table.value.isSome && hasEmpty }

end ApiContract.Model
