import ApiContract.Call.Building
import ApiContract.Call.Draft
import ApiContract.Value.XmlForm

/-!
Following a call plan on arguments. An unset parameter with a default takes the default, an unset
nullable one contributes nothing, and any other unset parameter is an error. An argument that is
null counts as unset.
-/

namespace ApiContract

/-- Arguments of a call by parameter name. -/
structure Arguments where
  values : List (String × Value)
  deriving Inhabited

/-- A set argument that is not null. -/
def Arguments.get? (arguments : Arguments) (name : String) : Option Value :=
  (arguments.values.lookup name).filter (!·.isNull)

namespace TextForm

/-- The value that a constant or a default stands for; a single document stands for a list of
one. -/
def valueOf (form : TextForm) (document : Json) : Except ValueError Value :=
  match form, document with
  | scalar kind, document => Scalar.ofJson kind document
  | list kind, .array items => (items.mapM (Scalar.ofJson kind)).map .list
  | list kind, single => (Scalar.ofJson kind single).map fun value => .list [value]

/-- The texts of a value, one for each scalar. -/
def texts (form : TextForm) (value : Value) : Except ValueError (List String) :=
  match form, value with
  | scalar kind, value => (Scalar.toText kind value).map ([·])
  | list kind, .list items => items.mapM (Scalar.toText kind)
  | list _, other => .error (.mismatch "a list" other)

/-- The texts of a constant or a default. -/
def literalTexts (form : TextForm) (document : Json) : Except ValueError (List String) := do
  let value ← form.valueOf document
  form.texts value

end TextForm

namespace CallPlan

/-- What an unset parameter that has no default amounts to. -/
def unset (plan : CallPlan) (name : String) : Except RequestError (Option α) :=
  match plan.parameter? name with
  | some { nullable := true, .. } => .ok none
  | _ => .error (.missingArgument plan.operation name)

/-- The value of a step, nothing where its parameter is unset and nullable. -/
def argument (plan : CallPlan) (value : StepValue) (arguments : Arguments) :
    Except RequestError (Option Value) :=
  match value.source with
  | .constant document => literal document
  | .parameter name =>
      match arguments.get? name with
      | some given => .ok (some given)
      | none =>
          match (plan.parameter? name).bind (·.default) with
          | some document => literal document
          | none => plan.unset name
where
  literal (document : Json) : Except RequestError (Option Value) :=
    match value.form.valueOf document with
    | .ok made => .ok (some made)
    | .error e => .error (.value e)

def texts (plan : CallPlan) (value : StepValue) (arguments : Arguments) :
    Except RequestError (Option (List String)) := do
  match ← plan.argument value arguments with
  | none => pure none
  | some given =>
      match value.form.texts given with
      | .ok texts => pure (some texts)
      | .error e => .error (.value e)

/-- The texts of a value as one, joined by commas. -/
def singleText (plan : CallPlan) (value : StepValue) (arguments : Arguments) :
    Except RequestError (Option String) := do
  let texts ← plan.texts value arguments
  pure (texts.map (String.intercalate ","))

/-- The query entries of a parameter: one with the texts joined, or one for each text. -/
def queryEntries (name : String) (style : ListStyle) (escape : Bool) (texts : List String) :
    List (String × String) :=
  let encode (text : String) := if escape then Text.Percent.encodeQuery text else text
  match style.delimiter with
  | some delimiter => [(encode name, encode (String.intercalate delimiter texts))]
  | none => texts.map fun text => (encode name, encode text)

/-- The argument of a body; a default of its parameter does not count here. -/
def bodyArgument (plan : CallPlan) (name : String) (arguments : Arguments) :
    Except RequestError (Option Value) :=
  match arguments.get? name with
  | some given => .ok (some given)
  | none => plan.unset name

/-- The fields of a flattened body. -/
def flattenedFields (plan : CallPlan) (arguments : Arguments) :
    List BodyInitializer → Except RequestError (List (String × Value))
  | [] => .ok []
  | initializer :: rest => do
      let given ← plan.bodyArgument initializer.parameter arguments
      let fields ← plan.flattenedFields arguments rest
      pure ((given.map fun value => (initializer.property, value)).toList ++ fields)

end CallPlan

/-- Writes a value as the bytes of a body. -/
def writeBody (model : Model) (format : WireFormat) (plan : WirePlan) (value : Value) :
    Planning ValueError (List UInt8) := do
  let text ← match format with
    | .json => JsonForm.writeText model plan value
    | .xml => XmlForm.write model plan value
  pure (Text.utf8 text)

namespace CallPlan

/-- Bytes of the caller; text counts as its bytes. -/
def binaryContent : Value → Except RequestError (List UInt8)
  | .bytes content => .ok content
  | .string text => .ok (Text.utf8 text)
  | other => .error (.value (.mismatch "bytes" other))

def textContent : Value → Except RequestError (List UInt8)
  | .string text => .ok (Text.utf8 text)
  | other => .error (.value (.mismatch "text" other))

/-- The content of a body, nothing where its parameter is unset and nullable. -/
def bodyContent (model : Model) (plan : CallPlan) (arguments : Arguments) :
    BodySource → Planning RequestError (Option (List UInt8))
  | .planned name format wire => do
      match ← plan.bodyArgument name arguments with
      | none => pure none
      | some value => do
          let content ← (writeBody model format wire value).mapError .value
          pure (some content)
  | .binary name => .lift do
      match ← plan.bodyArgument name arguments with
      | none => pure none
      | some value => (binaryContent value).map some
  | .text name => .lift do
      match ← plan.bodyArgument name arguments with
      | none => pure none
      | some value => (textContent value).map some
  | .flattened _ initializers format wire => do
      let fields ← plan.flattenedFields arguments initializers
      let content ← (writeBody model format wire (.ofFields fields)).mapError .value
      pure (some content)

/-- Acts on the URI, where the value of the step is set. -/
def onUri (plan : CallPlan) (arguments : Arguments) (draft : RequestDraft) (value : StepValue)
    (act : UriDraft → String → Except RequestError UriDraft) :
    Except RequestError RequestDraft := do
  match ← plan.singleText value arguments with
  | none => pure draft
  | some text => do
      let uri ← act draft.uri text
      pure { draft with uri }

/-- Takes one step. -/
def takeStep (model : Model) (plan : CallPlan) (arguments : Arguments) (draft : RequestDraft) :
    CallStep → Planning RequestError RequestDraft
  | .resetEndpoint value => .lift (plan.onUri arguments draft value UriDraft.reset)
  | .appendConstant text => pure { draft with uri := draft.uri.append text }
  | .appendValue value escape => .lift (plan.onUri arguments draft value fun uri text =>
      .ok (uri.append (if escape then Text.Percent.encodePath text else text)))
  | .appendRaw value => .lift (plan.onUri arguments draft value fun uri text =>
      .ok (uri.append text))
  | .followLink value => .lift (plan.onUri arguments draft value fun uri text =>
      .ok (uri.follow text))
  | .addQuery name value style escape => do
      match ← plan.texts value arguments with
      | none => pure draft
      | some texts =>
          pure { draft with uri := draft.uri.addQuery (queryEntries name style escape texts) }
  | .addHeader name value style => do
      match ← plan.texts value arguments with
      | none => pure draft
      | some texts =>
          let text := String.intercalate (style.delimiter.getD ",") texts
          pure { draft with headers := draft.headers ++ [(name, text)] }
  | .setBody body => do
      match ← plan.bodyContent model arguments body.source with
      | none => pure draft
      | some content =>
          pure { draft with
            headers := draft.headers ++ [("Content-Type", body.contentType)]
            body := some content }

def takeSteps (model : Model) (plan : CallPlan) (arguments : Arguments) :
    RequestDraft → List CallStep → Planning RequestError RequestDraft
  | draft, [] => pure draft
  | draft, step :: rest => do
      let next ← plan.takeStep model arguments draft step
      plan.takeSteps model arguments next rest

/-- The request of a call to an endpoint. -/
def evaluate (model : Model) (plan : CallPlan) (endpoint : String) (arguments : Arguments) :
    Planning RequestError HttpRequest := do
  let draft ← plan.takeSteps model arguments { uri := .ofEndpoint endpoint } plan.steps
  pure (draft.finish plan.method)

end CallPlan

end ApiContract
