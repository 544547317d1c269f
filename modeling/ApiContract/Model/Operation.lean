import ApiContract.Model.Schema
import ApiContract.Text.CharClass

/-!
Declared responses: the status codes each covers, its body and the headers it hands on.
-/

namespace ApiContract

/-- A declared status: one code or an inclusive range. -/
inductive StatusCode where
  | code (value : Nat)
  | range (first last : Nat)
  deriving DecidableEq, Repr, Inhabited

namespace StatusCode

def covers (declared : StatusCode) (status : Nat) : Bool :=
  match declared with
  | code value => value = status
  | range first last => first ≤ status ∧ status ≤ last

def text : StatusCode → String
  | code value => toString value
  | range first last => toString first ++ "-" ++ toString last

/-- Decimal digits after an optional plus sign, up to 65535. -/
def readCode (chars : List Char) : Option Nat :=
  let digits := match chars with
    | '+' :: rest => rest
    | rest => rest
  if digits.isEmpty || !digits.all Decimal.isDigit then none
  else
    let n := Decimal.natOfDigits digits
    if n < 65536 then some n else none

/-- A class such as `4XX`: its hundred codes. -/
def readClass : List Char → Option StatusCode
  | [c, x, y] =>
      if '1' ≤ c ∧ c ≤ '5' ∧ x.toLower = 'x' ∧ y.toLower = 'x' then
        let base := (c.toNat - '0'.toNat) * 100
        some (range base (base + 99))
      else none
  | _ => none

/-- Reads a code or a class, blanks around it ignored. -/
def ofText? (text : String) : Option StatusCode :=
  let chars := (Text.trim text).toList
  match readCode chars with
  | some value => some (code value)
  | none => readClass chars

end StatusCode

/-- A text that declares no status. -/
structure StatusCodeError where
  text : String
  deriving DecidableEq, Repr

def StatusCodeError.message (failure : StatusCodeError) : String :=
  "Invalid status code '" ++ failure.text ++
    "': expected a number (e.g. 200) or a class (e.g. 4XX)"

def StatusCode.ofText (text : String) : Except StatusCodeError StatusCode :=
  match ofText? text with
  | some status => .ok status
  | none => .error ⟨text⟩

inductive ResponseBody where
  | none
  | typed (schema : SchemaId) (format : WireFormat)
  | stream
  deriving DecidableEq, Repr, Inhabited

/-- A field of a header model and the header that carries it. -/
structure HeaderField where
  name : String
  header : String
  schema : SchemaId
  deriving DecidableEq, Repr, Inhabited

structure HeaderModel where
  name : String
  headers : List HeaderField
  deriving DecidableEq, Repr, Inhabited

structure Response where
  statusCodes : List StatusCode
  body : ResponseBody := .none
  headers : Option HeaderModel := none
  deriving DecidableEq, Repr, Inhabited

namespace Response

def empty (status : Nat) : Response := { statusCodes := [.code status] }

/-- A response with a JSON body. -/
def typed (status : Nat) (schema : SchemaId) : Response :=
  { statusCodes := [.code status], body := .typed schema .json }

def stream (status : Nat) : Response := { statusCodes := [.code status], body := .stream }

end Response

end ApiContract

/-!
Operations: method, route, parameters, body and responses of one call.
-/

namespace ApiContract

inductive HttpMethod where
  | get | put | post | patch | delete | head | options
  deriving DecidableEq, Repr, Inhabited

namespace HttpMethod

def all : List HttpMethod := [.get, .put, .post, .patch, .delete, .head, .options]

def name : HttpMethod → String
  | get => "GET"
  | put => "PUT"
  | post => "POST"
  | patch => "PATCH"
  | delete => "DELETE"
  | head => "HEAD"
  | options => "OPTIONS"

def ofName? (text : String) : Option HttpMethod := all.find? (·.name == text)

/-- Reads a method name whatever the case of its letters. -/
def ofText? (text : String) : Option HttpMethod :=
  all.find? (·.name == String.ofList (text.toList.map Char.toUpper))

end HttpMethod

/-- One piece of a route: literal text, which may hold slashes, or a parameter. A `raw` parameter is
appended without escaping. -/
inductive RouteSegment where
  | constant (text : String)
  | parameter (name : String) (raw : Bool)
  deriving DecidableEq, Repr, Inhabited

def RouteSegment.constant? : RouteSegment → Option String
  | constant text => some text
  | parameter _ _ => none

inductive ParameterLocation where
  | path | query | header | body
  deriving DecidableEq, Repr, Inhabited

namespace ParameterLocation

def all : List ParameterLocation := [.path, .query, .header, .body]

def name : ParameterLocation → String
  | path => "path"
  | query => "query"
  | header => "header"
  | body => "body"

def ofName? (text : String) : Option ParameterLocation := all.find? (·.name == text)

end ParameterLocation

/-- How the texts of a list become one: joined by a delimiter, or left as repeated entries. -/
inductive ListStyle where
  | none | pipe | tab | space | comma
  deriving DecidableEq, Repr, Inhabited

namespace ListStyle

def all : List ListStyle := [.none, .pipe, .tab, .space, .comma]

def name : ListStyle → String
  | none => "none"
  | pipe => "pipe"
  | tab => "tab"
  | space => "space"
  | comma => "comma"

/-- Every spelling a style is read from, with the style. -/
def spellings : List (String × ListStyle) :=
  [("none", .none), ("simple", .none), ("pipe", .pipe), ("tab", .tab), ("space", .space),
   ("comma", .comma)]

def ofName? (text : String) : Option ListStyle := spellings.lookup text

def delimiter : ListStyle → Option String
  | none => Option.none
  | pipe => some "|"
  | tab => some "\t"
  | space => some " "
  | comma => some ","

end ListStyle

structure Parameter where
  name : String
  description : Option String := none
  schema : SchemaId
  location : ParameterLocation
  /-- The query key or header name; the name itself where absent. -/
  serializedName : Option String := none
  required : Bool := false
  defaultValue : Option Json := none
  /-- A fixed value; a constant parameter is no part of a call's signature. -/
  constant : Option Json := none
  style : ListStyle := .none
  escape : Bool := true
  /-- Whether it continues a paged listing by a link. -/
  nextLink : Bool := false
  deriving DecidableEq, Inhabited

namespace Parameter

def mandatory (name : String) (schema : SchemaId) (location : ParameterLocation) : Parameter :=
  { name, schema, location, required := true }

def optional (name : String) (schema : SchemaId) (location : ParameterLocation) : Parameter :=
  { name, schema, location }

def wireName (parameter : Parameter) : String := parameter.serializedName.getD parameter.name

/-- Whether an unset argument is skipped: no constant, no default, and not required. -/
def isNullable (parameter : Parameter) : Bool :=
  parameter.constant.isNone && !parameter.required && parameter.defaultValue.isNone

end Parameter

/-- Binds a property of an assembled body to the parameter that supplies it. -/
structure BodyInitializer where
  property : String
  parameter : String
  deriving DecidableEq, Repr, Inhabited

inductive RequestBody where
  /-- One parameter, written through its schema. -/
  | schema (parameter : String) (format : WireFormat) (contentType : Option String)
  /-- Bytes of the caller. -/
  | binary (parameter : String) (contentType : Option String)
  /-- Text of the caller. -/
  | text (parameter : String) (contentType : Option String)
  /-- A record assembled from several parameters. -/
  | flattened (schema : SchemaId) (initializers : List BodyInitializer) (format : WireFormat)
      (contentType : Option String)
  deriving DecidableEq, Repr, Inhabited

def RequestBody.contentType : RequestBody → Option String
  | schema _ _ contentType | binary _ contentType | text _ contentType
  | flattened _ _ _ contentType => contentType

structure Operation where
  name : String
  description : Option String := none
  method : HttpMethod
  path : List RouteSegment := []
  parameters : List Parameter := []
  body : Option RequestBody := none
  responses : List Response := []
  deriving DecidableEq, Inhabited

namespace Operation

def parameter? (operation : Operation) (name : String) : Option Parameter :=
  operation.parameters.find? (·.name == name)

/-- The constant texts of the route, in order. -/
def constants (operation : Operation) : List String :=
  operation.path.filterMap RouteSegment.constant?

/-- The first constant piece of the route that is more than slashes. -/
def constantRoute? (operation : Operation) : Option String :=
  operation.constants.find? fun text => !text.toList.all (· == '/')

end Operation

end ApiContract
