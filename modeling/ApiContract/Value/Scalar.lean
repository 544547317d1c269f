import ApiContract.Json.Reader
import ApiContract.Plan.Basic
import ApiContract.Text.Base64
import ApiContract.Text.CharClass
import ApiContract.Value.Basic

/-!
Scalars in their two carried forms: as text, in paths, queries, headers and markup, and as JSON
values. The readers of both forms check ranges and membership, so do the writers.
-/

namespace ApiContract.Scalar

open Decimal (Binary64)

def base64 (format : Option PrimitiveFormat) : Text.Base64.Alphabet :=
  if format = some .base64Url then .urlSafe else .standard

def encodeBytes (format : Option PrimitiveFormat) (bytes : List UInt8) : String :=
  Text.Base64.encode (base64 format) bytes

def trimPadding (text : String) : String :=
  String.ofList (text.toList.reverse.dropWhile (· == '=')).reverse

/-- Bytes from their text; padding of the URL-safe form is dropped first. -/
def decodeBytes (format : Option PrimitiveFormat) (text : String) :
    Except ValueError (List UInt8) :=
  let text := if base64 format = .urlSafe then trimPadding text else text
  match Text.Base64.decode? (base64 format) text with
  | some bytes => .ok bytes
  | none => .error (.invalidBytes malformed)

/-- Whether a primitive travels as a whole number. -/
def isWhole (kind : PrimitiveKind) (format : Option PrimitiveFormat) : Bool :=
  kind.isInteger || (kind == .dateTime && format == some .unixTime)

def checkMember (values : EnumValues) (raw : String) : Except ValueError Unit :=
  if values.extensible || values.values.contains raw then .ok ()
  else .error (.unknownEnumValue values.name raw)

def int64? (n : Int) : Option Int64 :=
  if -0x8000000000000000 ≤ n ∧ n ≤ 0x7FFFFFFFFFFFFFFF then some (.ofInt n) else none

/-- A signed 64-bit number from its decimal text. -/
def readInt64 (text : String) : Option Int64 := (Decimal.readInt text.toList).bind int64?

/-- The narrower kind takes 32 bits only. -/
def checkWidth (kind : PrimitiveKind) (n : Int64) : Except ValueError Int64 :=
  if kind = .int32 ∧ ¬(-0x80000000 ≤ n.toInt ∧ n.toInt ≤ 0x7FFFFFFF) then
    .error (.typeMismatch "a 32-bit integer" (toString n.toInt))
  else .ok n

def boolText (value : Bool) : String := if value then "true" else "false"

/-- Kinds whose text is the text of the value itself. -/
def isPlainText (kind : PrimitiveKind) : Bool :=
  kind matches .string | .date | .dateTime | .duration | .uuid | .uri

def primitiveToText (kind : PrimitiveKind) (format : Option PrimitiveFormat) (value : Value) :
    Except ValueError String :=
  match value with
  | .bool flag => if kind = .boolean then .ok (boolText flag) else refuse
  | .bytes content => if kind = .bytes then .ok (encodeBytes format content) else refuse
  | .int n =>
      if isWhole kind format || kind.isFloat then .ok (toString n.toInt) else refuse
  | .float x => if kind.isFloat then .ok x.plain else refuse
  | .string text => if isPlainText kind then .ok text else refuse
  | .json document => if kind = .any then .ok document.compact else refuse
  | _ => refuse
where
  refuse : Except ValueError String := .error (.mismatch kind.name value)

/-- The text of a scalar. -/
def toText (kind : ScalarKind) (value : Value) : Except ValueError String :=
  match kind with
  | .enumeration values => do
      let raw ← match value with
        | .string text => pure text
        | .int n => pure (toString n.toInt)
        | other => .error (.mismatch ("a member of " ++ values.name) other)
      checkMember values raw
      pure raw
  | .any =>
      match value with
      | .json document => .ok document.compact
      | .string text => .ok text
      | other => .error (.mismatch "raw JSON" other)
  | .primitive kind format => primitiveToText kind format value

def documentOfText (text : String) : Except ValueError Value :=
  match Json.valueOfText? text with
  | some document => .ok (.json document)
  | none => .error (.json malformed)

/-- The scalar that a text spells. -/
def ofText (kind : ScalarKind) (text : String) : Except ValueError Value :=
  match kind with
  | .enumeration values => do
      checkMember values text
      if values.underlying.isInteger then whole .int64 else pure (.string text)
  | .any => documentOfText text
  | .primitive .boolean _ =>
      let word := Text.trim text
      if word = "true" then .ok (.bool true)
      else if word = "false" then .ok (.bool false)
      else invalid "a boolean"
  | .primitive .bytes format => (decodeBytes format (Text.trim text)).map .bytes
  | .primitive .any _ => documentOfText text
  | .primitive kind format =>
      if isWhole kind format then whole kind
      else if kind.isFloat then
        match Decimal.readFloat (Text.trim text) with
        | some x => .ok (.float x)
        | none => invalid "a float"
      else .ok (.string text)
where
  invalid (expected : String) : Except ValueError Value :=
    .error (.typeMismatch expected ("'" ++ text ++ "'"))
  whole (kind : PrimitiveKind) : Except ValueError Value :=
    match readInt64 (Text.trim text) with
    | some n => (checkWidth kind n).map .int
    | none => invalid "an integer"

/-- The JSON value of a scalar. -/
def toJson (kind : ScalarKind) (value : Value) : Except ValueError Json :=
  match kind with
  | .any =>
      match value with
      | .json document => .ok document
      | other => .error (.mismatch "raw JSON" other)
  | .enumeration values => do
      let raw ← toText kind value
      if values.underlying.isInteger then
        match readInt64 raw with
        | some n => pure (.int n.toInt)
        | none => .error (.mismatch "an integer enum value" value)
      else pure (.string raw)
  | .primitive prim format =>
      match value with
      | .bool flag => if prim = .boolean then .ok (.bool flag) else asText
      | .int n =>
          if isWhole prim format then (checkWidth prim n).map fun n => .int n.toInt
          else if prim.isFloat then .ok (.int n.toInt)
          else asText
      | .float x =>
          if prim.isFloat then
            (if x.isFinite then .ok (.float x) else .error (.mismatch "a finite float" value))
          else asText
      | .json document => if prim = .any then .ok document else asText
      | _ => asText
where
  asText : Except ValueError Json := (toText kind value).map .string

/-- The scalar that a JSON value stands for. -/
def ofJson (kind : ScalarKind) (document : Json) : Except ValueError Value :=
  let found := Value.json document
  match kind with
  | .any => .ok found
  | .enumeration values =>
      match document with
      | .string text => ofText kind text
      | .int n => ofText kind (toString n)
      | .float x => ofText kind x.json
      | _ => .error (.mismatch ("a member of " ++ values.name) found)
  | .primitive .boolean _ =>
      match document with
      | .bool flag => .ok (.bool flag)
      | _ => .error (.mismatch "a boolean" found)
  | .primitive .any _ => .ok found
  | .primitive prim format =>
      if isWhole prim format then
        match document with
        | .int n =>
            match int64? n with
            | some n => (checkWidth prim n).map .int
            | none => .error (.mismatch "an integer" found)
        | _ => .error (.mismatch "an integer" found)
      else if prim.isFloat then
        match document with
        | .int n => .ok (.float (.ofInt n))
        | .float x => .ok (.float x)
        | _ => .error (.mismatch "a float" found)
      else
        match document with
        | .string text => ofText kind text
        | _ => .error (.mismatch prim.name found)

end ApiContract.Scalar
