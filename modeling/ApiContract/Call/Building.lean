import ApiContract.Call.Basic

/-!
Planning a call: the signature first, then the steps in the order in which they act on the request:
route, links among the query parameters, query entries, headers, body.
-/

namespace ApiContract.Model

def declared (operation : Operation) (name : String) : Except ModelError Parameter :=
  match operation.parameter? name with
  | some parameter => .ok parameter
  | none => .error (.missingParameter operation.name name)

def signatureParameter (model : Model) (operation : Operation) (parameter : Parameter) :
    Planning ModelError SignatureParameter := do
  let type ← model.resolveParameter operation.name parameter
  pure
    { name := parameter.name
      wireName := parameter.wireName
      location := parameter.location
      type
      required := parameter.required
      nullable := parameter.isNullable
      default := parameter.defaultValue }

/-- The parameters of a call, those without a default first, each part in declared order. -/
def signature (model : Model) (operation : Operation) :
    Planning ModelError (List SignatureParameter) := do
  let free := operation.parameters.filter (·.constant.isNone)
  let bound ← free.mapM (model.signatureParameter operation)
  let (withDefault, without) := bound.partition (·.default.isSome)
  pure (without ++ withDefault)

/-- The text form of a parameter that is carried outside the body. -/
def textForm (model : Model) (operation : Operation) (parameter : Parameter) :
    Except ModelError TextForm := do
  let referrer := operation.name ++ "(" ++ parameter.name ++ ")"
  match ← model.scalarKind parameter.schema referrer with
  | some kind => pure (.scalar kind)
  | none =>
      match ← model.schemaFor parameter.schema referrer with
      | .array element =>
          match ← model.scalarKind element referrer with
          | some kind => pure (.list kind)
          | none => refuse
      | _ => refuse
where
  refuse : Except ModelError TextForm :=
    .error (.unsupportedParameter operation.name parameter.name
      ("a " ++ parameter.location.name ++ " parameter must be a scalar or a list of scalars"))

def stepValue (model : Model) (operation : Operation) (parameter : Parameter) :
    Except ModelError StepValue := do
  let source := match parameter.constant with
    | some document => .constant document
    | none => .parameter parameter.name
  let form ← model.textForm operation parameter
  pure { source, form }

/-- The step of one piece of the route; only the first piece may replace the endpoint. -/
def routeStep (model : Model) (operation : Operation) (isFirst : Bool) :
    RouteSegment → Except ModelError CallStep
  | .constant text => .ok (.appendConstant text)
  | .parameter name raw => do
      let parameter ← declared operation name
      let value ← model.stepValue operation parameter
      let schema ← model.schemaFor parameter.schema operation.name
      if isFirst && schema.primitiveKind? == some .uri then pure (.resetEndpoint value)
      else if parameter.nextLink then pure (.followLink value)
      else if raw then pure (.appendRaw value)
      else pure (.appendValue value parameter.escape)

def routeSteps (model : Model) (operation : Operation) : Except ModelError (List CallStep) :=
  match operation.path with
  | [] => .ok []
  | first :: rest => do
      let step ← model.routeStep operation true first
      let steps ← rest.mapM (model.routeStep operation false)
      pure (step :: steps)

def linkStep (model : Model) (operation : Operation) (parameter : Parameter) :
    Except ModelError CallStep :=
  (model.stepValue operation parameter).map .followLink

def queryStep (model : Model) (operation : Operation) (parameter : Parameter) :
    Except ModelError CallStep := do
  let value ← model.stepValue operation parameter
  pure (.addQuery parameter.wireName value parameter.style parameter.escape)

def headerStep (model : Model) (operation : Operation) (parameter : Parameter) :
    Except ModelError CallStep := do
  let value ← model.stepValue operation parameter
  pure (.addHeader parameter.wireName value parameter.style)

def defaultContentType : WireFormat → String
  | .json => "application/json"
  | .xml => "application/xml"

def refuseBody (operation : Operation) (reason : String) : ModelError :=
  .unsupportedBody operation.name reason

def checkBinary (model : Model) (operation : Operation) (parameter : Parameter) :
    Except ModelError Unit := do
  match ← model.schemaFor parameter.schema operation.name with
  | .primitive .bytes _ | .framework _ => pure ()
  | _ =>
      .error (refuseBody operation
        ("binary body '" ++ parameter.name ++ "' must have a bytes schema"))

def checkText (model : Model) (operation : Operation) (parameter : Parameter) :
    Except ModelError Unit := do
  let schema ← model.schemaFor parameter.schema operation.name
  if schema.primitiveKind? = some .string then pure ()
  else
    .error (refuseBody operation
      ("text body '" ++ parameter.name ++ "' must have a string schema"))

/-- Each initializer names a property and a parameter that exist. -/
def checkInitializer (operation : Operation) (object : ObjectType) (properties : List Property)
    (initializer : BodyInitializer) : Except ModelError Unit := do
  if properties.any (·.name == initializer.property) then
    let _ ← declared operation initializer.parameter
    pure ()
  else
    .error (refuseBody operation
      ("'" ++ object.name ++ "' has no property '" ++ initializer.property ++ "'"))

/-- A flattened body needs a plain object all of whose required properties are initialized. -/
def checkFlattened (model : Model) (operation : Operation) (id : SchemaId)
    (initializers : List BodyInitializer) : Except ModelError Unit := do
  match ← model.schemaFor id operation.name with
  | .object object => do
      if (← model.hierarchyRoot id).isSome then
        .error (refuseBody operation
          ("flattened body '" ++ object.name ++ "' cannot be polymorphic"))
      let properties ← model.inheritedProperties id
      initializers.forM (checkInitializer operation object properties)
      let isMissing (property : Property) : Bool :=
        property.required && !initializers.any (·.property == property.name)
      match properties.find? isMissing with
      | some missing =>
          .error (refuseBody operation
            ("required property '" ++ missing.name ++ "' of '" ++ object.name ++
              "' is not initialized"))
      | none => pure ()
  | _ => .error (refuseBody operation ("'" ++ id ++ "' is not an object schema"))

def bodyStep (model : Model) (operation : Operation) :
    RequestBody → Planning ModelError BodyStep
  | .schema name format contentType => do
      let parameter ← declared operation name
      let plan ← model.plan parameter.schema format
      pure
        { source := .planned parameter.name format plan
          contentType := contentType.getD (defaultContentType format) }
  | .binary name contentType => do
      let parameter ← declared operation name
      model.checkBinary operation parameter
      pure
        { source := .binary parameter.name
          contentType := contentType.getD "application/octet-stream" }
  | .text name contentType => do
      let parameter ← declared operation name
      model.checkText operation parameter
      pure
        { source := .text parameter.name
          contentType := contentType.getD "text/plain; charset=utf-8" }
  | .flattened id initializers format contentType => do
      model.checkFlattened operation id initializers
      let plan ← model.plan id format
      pure
        { source := .flattened id initializers format plan
          contentType := contentType.getD (defaultContentType format) }

def bodySteps (model : Model) (operation : Operation) : Planning ModelError (List CallStep) :=
  match operation.body with
  | none => pure []
  | some body => do
      let step ← model.bodyStep operation body
      pure [.setBody step]

/-- All steps before the body. -/
def textSteps (model : Model) (operation : Operation) : Except ModelError (List CallStep) := do
  let route ← model.routeSteps operation
  let query := operation.parameters.filter (·.location == .query)
  let (links, entries) := query.partition (·.nextLink)
  let links ← links.mapM (model.linkStep operation)
  let entries ← entries.mapM (model.queryStep operation)
  let headers := operation.parameters.filter (·.location == .header)
  let headers ← headers.mapM (model.headerStep operation)
  pure (route ++ links ++ entries ++ headers)

def callPlan (model : Model) (operation : Operation) : Planning ModelError CallPlan := do
  let signature ← model.signature operation
  let before ← model.textSteps operation
  let body ← model.bodySteps operation
  pure
    { operation := operation.name
      method := operation.method
      signature
      steps := before ++ body }

end ApiContract.Model
