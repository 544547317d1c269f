import ApiContract.Call.Evaluation
import ApiContract.Code.Field
import ApiContract.Dispatch.Basic

/-!
The generated methods of an operation: one that assembles its request by the steps of the call plan,
and one that sends it and picks a result by the branches of the dispatch table.
-/

namespace ApiContract

/-- An operation with its plans. -/
structure OperationPlan where
  operation : Operation
  call : CallPlan
  dispatch : DispatchTable
  deriving DecidableEq, Inhabited

def OperationPlan.methodName (plan : OperationPlan) : String := Naming.fieldName plan.operation.name

/-- Method and route of an operation as documentation writes them. -/
def OperationPlan.route (plan : OperationPlan) : String :=
  plan.call.method.name ++ " /" ++ plan.call.routeTemplate

/-- The declaration of a parameter as an argument. -/
def SignatureParameter.argumentCode (parameter : SignatureParameter) :
    Except GenerationError Code := do
  let type ← parameter.code
  pure (Code.write "$name: $type"
    [("name", Code.word (Naming.argumentName parameter.name)), ("type", type)])

namespace CallPlan

/-- The arguments of a generated method. -/
def argumentNames (plan : CallPlan) : List String :=
  plan.signature.map fun parameter => Naming.argumentName parameter.name

/-- The declared arguments of a generated method. -/
def argumentsCode (plan : CallPlan) : Except GenerationError Code := do
  let arguments ← plan.signature.mapM SignatureParameter.argumentCode
  pure (Code.commaSeparated arguments)

/-- The parameter of the signature that a step takes its value from. -/
def bound (plan : CallPlan) (name : String) : Except GenerationError SignatureParameter :=
  match plan.parameter? name with
  | some parameter => .ok parameter
  | none =>
      .error (.code
        (plan.operation ++ " references parameter '" ++ name ++ "' outside its signature"))

/-- The texts of a constant or a default. -/
def literalsCode (plan : CallPlan) (form : TextForm) (document : Json) :
    Except GenerationError Code :=
  match form.literalTexts document with
  | .ok texts =>
      .ok (Code.commaSeparated (texts.map fun text =>
        Code.write "$text.to_string()" [("text", Code.text text)]))
  | .error e => .error (.code (plan.operation ++ ": " ++ e.message))

/-- The expression of a step's texts, which may be none. -/
def textsCode (plan : CallPlan) (value : StepValue) : Except GenerationError Code :=
  match value.source with
  | .constant document => do
      let texts ← plan.literalsCode value.form document
      pure (Code.write "Some(vec![$texts])" [("texts", texts)])
  | .parameter name => do
      let parameter ← plan.bound name
      let argument := Code.word (Naming.argumentName name)
      let texts := value.form.textsCode (Code.word "value")
      match parameter.default with
      | some document => do
          let defaults ← plan.literalsCode value.form document
          pure (Code.write r#"
            Some(match $argument.as_ref() {
              Some(value) => $texts,
              None => vec![$defaults],
            })"# [("argument", argument), ("texts", texts), ("defaults", defaults)])
      | none =>
          let template :=
            if parameter.nullable then "$argument.as_ref().map(|value| $texts)"
            else r#"{ let value = &$argument; Some($texts) }"#
          pure (Code.write template [("argument", argument), ("texts", texts)])

/-- Binds `value` to the argument of a body; a body whose argument is unset is left out. -/
def withBodyArgument (plan : CallPlan) (name : String) (body : Code) :
    Except GenerationError Code := do
  let parameter ← plan.bound name
  let template :=
    if parameter.mayBeUnset then r#"if let Some(value) = $argument { $body }"#
    else r#"{ let value = $argument; $body }"#
  pure (Code.write template
    [("argument", Code.word (Naming.argumentName name)), ("body", body)])

/-- The argument as the value of a field. -/
def initialValue (parameter : SignatureParameter) (field : ModelField) (model : Code) : Code :=
  let argument := Code.word (Naming.argumentName parameter.name)
  let template :=
    match parameter.mayBeUnset, field.type.nullable with
    | false, false => if field.boxed then "Box::new($argument)" else "$argument"
    | false, true => if field.boxed then "Some(Box::new($argument))" else "Some($argument)"
    | true, true => if field.boxed then "$argument.map(Box::new)" else "$argument"
    | true, false =>
        if field.mode = .defaulted then "$argument.unwrap_or_else($model::$default)"
        else r#"
          $argument.ok_or_else(|| crate::shared::ApiError::Missing {
            what: "parameter",
            name: $name.to_string(),
          })?"#
  Code.write template
    [("argument", argument), ("model", model), ("default", Code.word field.defaultName),
     ("name", Code.text parameter.name)]

/-- The initializer of a field of a flattened body. -/
def initializerCode (plan : CallPlan) (object : String) (model : Code)
    (initializers : List BodyInitializer) (field : ModelField) : Except GenerationError Code := do
  let value ←
    match initializers.find? (·.property == field.property.name) with
    | some initializer => do
        let parameter ← plan.bound initializer.parameter
        pure (initialValue parameter field model)
    | none =>
        match field.mode with
        | .optional => pure (Code.word "None")
        | .defaulted =>
            pure (Code.write "$model::$default()"
              [("model", model), ("default", Code.word field.defaultName)])
        | .required =>
            .error (.code
              (plan.operation ++ ": required property '" ++ field.property.name ++ "' of '" ++
                object ++ "' is not initialized"))
  pure (Code.write "$field: $value," [("field", Code.ident field.name), ("value", value)])

/-- Encodes `value` in a wire format. -/
def encodeCode : WireFormat → WirePlan → Code
  | .xml, .element plan =>
      Code.write "crate::shared::to_xml(&value, $root)?" [("root", Code.text plan.name)]
  | _, _ => Code.plain "crate::shared::to_json(&value)?"

def setBody (contentType : String) (content : Code) : Code :=
  Code.write r#"
    headers.push(("Content-Type".to_string(), $type.to_string()));
    body = Some($content);"#
    [("type", Code.text contentType), ("content", content)]

def bodyCode (model : Model) (plan : CallPlan) (body : BodyStep) : Planning GenerationError Code :=
  let set := setBody body.contentType
  match body.source with
  | .planned name format wire => .lift (plan.withBodyArgument name (set (encodeCode format wire)))
  | .binary name => .lift (plan.withBodyArgument name (set (Code.plain "Vec::<u8>::from(value)")))
  | .text name => .lift (plan.withBodyArgument name (set (Code.plain "value.into_bytes()")))
  | .flattened schema initializers format wire => do
      let object ← (Planning.lift (model.objectFor schema plan.operation)).mapError .model
      let fields ← (model.modelFields schema none).mapError .model
      let path := modelPath (Naming.typeName object.name)
      let inits ← fields.mapM fun field =>
        Planning.lift (plan.initializerCode object.name path initializers field)
      pure (Code.write r#"{ let value = $model { $inits }; $set }"#
        [("model", path), ("inits", Code.sequence inits), ("set", set (encodeCode format wire))])

/-- Runs a code with the texts of a value, where it has texts. -/
def withTexts (plan : CallPlan) (value : StepValue) (body : String)
    (parts : List (String × Code)) : Except GenerationError Code := do
  let texts ← plan.textsCode value
  pure (Code.write r#"if let Some(texts) = $texts { $body }"#
    [("texts", texts), ("body", Code.write body parts)])

def flagCode (flag : Bool) : Code := Code.word (Scalar.boolText flag)

def stepCode (model : Model) (plan : CallPlan) : CallStep → Planning GenerationError Code
  | .resetEndpoint value => .lift (plan.withTexts value r#"uri.reset(&texts.join(","))?;"# [])
  | .appendConstant text => pure (Code.write "uri.append($text);" [("text", Code.text text)])
  | .appendValue value escape =>
      .lift (plan.withTexts value r#"uri.append_value(&texts.join(","), $escape);"#
        [("escape", flagCode escape)])
  | .appendRaw value => .lift (plan.withTexts value r#"uri.append(&texts.join(","));"# [])
  | .followLink value => .lift (plan.withTexts value r#"uri.next_link(&texts.join(","))?;"# [])
  | .addQuery name value style escape =>
      let delimiter := match style.delimiter with
        | some delimiter => Code.write "Some($text)" [("text", Code.text delimiter)]
        | none => Code.word "None"
      .lift (plan.withTexts value "uri.push_query($name, texts, $delimiter, $escape);"
        [("name", Code.text name), ("delimiter", delimiter), ("escape", flagCode escape)])
  | .addHeader name value style =>
      .lift (plan.withTexts value "headers.push(($name.to_string(), texts.join($delimiter)));"
        [("name", Code.text name), ("delimiter", Code.text (style.delimiter.getD ","))])
  | .setBody body => plan.bodyCode model body

end CallPlan

namespace CallStep

def setsBody : CallStep → Bool
  | setBody _ => true
  | _ => false

def addsHeader : CallStep → Bool
  | addHeader _ _ _ | setBody _ => true
  | _ => false

end CallStep

namespace DispatchTable

def headersPath? (table : DispatchTable) : Option Code :=
  table.headers.map fun plan => modelPath plan.typeName

/-- The value that a generated method returns. -/
def valueCode (table : DispatchTable) : Except GenerationError Code := do
  let value ← match table.value with
    | some (.typed type) => type.code
    | some .stream => pure (Code.plain "Vec<u8>")
    | none => pure (Code.plain "()")
  pure (if table.valueOptional then optionOf value else value)

/-- The type that a generated method returns. -/
def returnCode (table : DispatchTable) : Except GenerationError Code := do
  let value ← table.valueCode
  let headers := table.headersPath?.getD []
  pure <| match table.returnKind with
    | .response => Code.plain "crate::shared::RawResponse"
    | .headers => headers
    | .value => value
    | .headersAndValue =>
        Code.write "($headers, $value)" [("headers", headers), ("value", value)]

def statusCode : StatusCode → Code
  | .code value => Code.word (toString value ++ "u16")
  | .range first last =>
      Code.write "$first..=$last"
        [("first", Code.word (toString first ++ "u16")),
         ("last", Code.word (toString last ++ "u16"))]

/-- The expression of the value of a branch. -/
def branchValue (table : DispatchTable) (action : BodyAction) : Code :=
  let some' (code : Code) : Code :=
    if table.valueOptional then Code.write "Some($value)" [("value", code)] else code
  match action with
  | .noContent => if table.valueOptional then Code.word "None" else Code.plain "()"
  | .stream => some' (Code.plain "response.body")
  | .read .json _ => some' (Code.plain "crate::shared::from_json(&response.body)?")
  | .read .xml _ => some' (Code.plain "crate::shared::from_xml(&response.body)?")

/-- What a branch gives. A table whose results need headers has a header model. -/
def branchCode (table : DispatchTable) (branch : DispatchBranch) : Code :=
  let headers := table.headersPath?.map fun path =>
    Code.write "$path::from_response(&response)?" [("path", path)]
  let value := table.branchValue branch.action
  let template := match table.returnKind, headers with
    | .response, _ => "Ok(response)"
    | .value, _ => "Ok($value)"
    | .headers, some _ => "Ok($headers)"
    | .headersAndValue, some _ => r#"{ let headers = $headers; Ok((headers, $value)) }"#
    | _, none => "Ok(response)"
  let body := Code.write template [("value", value), ("headers", headers.getD [])]
  Code.write "$status => $body," [("status", statusCode branch.status), ("body", body)]

end DispatchTable

/-- The two methods of an operation. -/
structure OperationMethods where
  name : String
  create : Code
  send : Code
  deriving DecidableEq, Inhabited

namespace OperationPlan

def createName (plan : OperationPlan) : String := "create_" ++ plan.methodName ++ "_request"

/-- The method that assembles the request. Bindings are mutable where a step writes them. -/
def createCode (plan : OperationPlan) (arguments steps : Code) : Code :=
  let mutable (isMutable : Bool) : Code := if isMutable then Code.word "mut" else []
  let callSteps := plan.call.steps
  Code.write r#"
    $doc
    pub fn $name(&self, $arguments) -> Result<crate::shared::RequestParts, crate::shared::ApiError> {
      let $uri uri = crate::shared::UriBuilder::new(&self.endpoint);
      let $headers headers: Vec<(String, String)> = Vec::new();
      let $body body: Option<Vec<u8>> = None;
      $steps
      Ok(crate::shared::RequestParts {
        method: $method,
        uri: uri.finish(),
        headers,
        body,
      })
    }"#
    [("doc",
        Code.doc (" Builds the `" ++ plan.operation.name ++ "` request without sending it.")),
     ("name", Code.word plan.createName), ("arguments", arguments),
     ("uri", mutable (callSteps.any (!·.setsBody))),
     ("headers", mutable (callSteps.any CallStep.addsHeader)),
     ("body", mutable (callSteps.any CallStep.setsBody)),
     ("steps", steps), ("method", Code.text plan.call.method.name)]

/-- The first line of a method's documentation. -/
def summary (plan : OperationPlan) : String :=
  match plan.operation.description with
  | some text => " " ++ Text.trim text
  | none => " Calls `" ++ plan.operation.name ++ "`."

/-- The method that sends the request and handles the response. -/
def sendCode (plan : OperationPlan) (arguments returns : Code) : Code :=
  Code.write r#"
    $summary
    ///
    $route
    ///
    /// ## Errors
    ///
    /// Returns `ApiError::UnhandledStatus` for undeclared status codes and
    /// any transport or decoding error.
    pub async fn $name(&self, $arguments) -> Result<$returns, crate::shared::ApiError> {
      let request = self.$create($names)?;
      let response = crate::shared::send(&self.client, request).await?;
      match response.status {
        $branches
        status => Err(crate::shared::ApiError::UnhandledStatus {
          operation: $operation,
          status,
          body: response.body,
        }),
      }
    }"#
    [("summary", Code.doc plan.summary), ("route", Code.doc (" `" ++ plan.route ++ "`")),
     ("name", Code.ident plan.methodName), ("arguments", arguments), ("returns", returns),
     ("create", Code.word plan.createName),
     ("names", Code.commaSeparated (plan.call.argumentNames.map Code.word)),
     ("branches", Code.sequence (plan.dispatch.branches.map plan.dispatch.branchCode)),
     ("operation", Code.text plan.operation.name)]

def methods (model : Model) (plan : OperationPlan) : Planning GenerationError OperationMethods := do
  let arguments ← plan.call.argumentsCode
  let steps ← plan.call.steps.mapM (plan.call.stepCode model)
  let returns ← plan.dispatch.returnCode
  pure
    { name := plan.methodName
      create := plan.createCode arguments (Code.sequence steps)
      send := plan.sendCode arguments returns }

end OperationPlan

end ApiContract
