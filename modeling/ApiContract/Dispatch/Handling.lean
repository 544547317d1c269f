import ApiContract.Dispatch.Building
import ApiContract.Http.Message
import ApiContract.Value.XmlForm

/-!
Handling a received response: its status selects a branch, the branch reads the body, and the
declared headers are read from the header list. A status that no branch covers is never read.
-/

namespace ApiContract

inductive Handled where
  | response (response : HttpResponse)
  | headers (headers : Value)
  | value (value : Option Value)
  | headersAndValue (headers : Value) (value : Option Value)
  deriving Inhabited

/-- Reads the bytes of a body. -/
def readBody (model : Model) (format : WireFormat) (plan : WirePlan) (body : List UInt8) :
    Planning ValueError Value :=
  match format with
  | .json => JsonForm.readBytes model plan body
  | .xml =>
      match Text.ofUtf8? body with
      | some text => XmlForm.read model plan text
      | none => .fail (.xml malformed)

namespace DispatchTable

/-- The value of the body, nothing where the branch has none. -/
def readValue (model : Model) (table : DispatchTable) (body : List UInt8) :
    BodyAction → Planning ResponseError (Option Value)
  | .noContent => pure none
  | .stream => pure (some (.bytes body))
  | .read format plan => do
      let value ← (readBody model format plan body).mapError (.body table.operation)
      pure (some value)

/-- The fields of the headers that are there, in the order of the bindings. -/
def readHeaderFields (operation : String) (response : HttpResponse) :
    List HeaderBinding → Except ResponseError (List (String × Value))
  | [] => .ok []
  | binding :: rest =>
      match response.header? binding.header with
      | none => readHeaderFields operation response rest
      | some text =>
          match Scalar.ofText binding.kind text with
          | .error source => .error (.header operation binding.header source)
          | .ok value => do
              let fields ← readHeaderFields operation response rest
              pure ((binding.field, value) :: fields)

def bindings (table : DispatchTable) : List HeaderBinding :=
  match table.headers with
  | some plan => plan.fields
  | none => []

def readHeaders (table : DispatchTable) (response : HttpResponse) : Except ResponseError Value :=
  (readHeaderFields table.operation response table.bindings).map .ofFields

def handle (model : Model) (table : DispatchTable) (response : HttpResponse) :
    Planning ResponseError Handled := do
  let branch ← table.dispatch response.status
  let value ← table.readValue model response.body branch.action
  match table.returnKind with
  | .response => pure (.response response)
  | .value => pure (.value value)
  | .headers => do
      let headers ← table.readHeaders response
      pure (.headers headers)
  | .headersAndValue => do
      let headers ← table.readHeaders response
      pure (.headersAndValue headers value)

end DispatchTable

end ApiContract
