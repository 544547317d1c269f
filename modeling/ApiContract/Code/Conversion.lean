import ApiContract.Call.Basic
import ApiContract.Code.Template
import ApiContract.Code.TypePath
import ApiContract.Decimal.Binary32
import ApiContract.Value.Scalar

/-!
Types and conversions in generated code. How a value becomes text, and text a value, is chosen from
its kind when the code is generated; nothing is decided when it runs.
-/

namespace ApiContract

/-- The written form of a type of the generated language. -/
def typeText (text : String) : Except GenerationError Code :=
  match TypePath.ofText? text with
  | some code => .ok code
  | none => .error (.code ("invalid type '" ++ text ++ "': " ++ malformed))

/-- A model or an enum, by its full path. -/
def modelPath (name : String) : Code :=
  Code.write "crate::models::$name" [("name", Code.ident name)]

def optionOf (code : Code) : Code := Code.write "Option<$type>" [("type", code)]

/-- The type of a value that is there. -/
def RustType.code : RustType → Except GenerationError Code
  | .enumeration name _ _ => .ok (modelPath name)
  | .model name _ _ => .ok (modelPath name)
  | .collection element => do
      let element ← element.code
      pure (Code.write "Vec<$element>" [("element", element)])
  | .dictionary value => do
      let value ← value.code
      pure (Code.write "std::collections::HashMap<String, $value>" [("value", value)])
  | .primitive kind => typeText kind.rustName
  | .framework path => typeText path

def TypeUse.code (used : TypeUse) : Except GenerationError Code := do
  let code ← used.type.code
  pure (if used.nullable then optionOf code else code)

/-- Whether a call may leave the parameter unset. -/
def SignatureParameter.mayBeUnset (parameter : SignatureParameter) : Bool :=
  parameter.nullable || parameter.default.isSome

def SignatureParameter.code (parameter : SignatureParameter) : Except GenerationError Code := do
  let code ← parameter.type.type.code
  pure (if parameter.mayBeUnset then optionOf code else code)

namespace ScalarKind

/-- The text of a value, given as an expression. -/
def textCode (kind : ScalarKind) (value : Code) : Code :=
  let template := match kind with
    | .primitive .bytes (some .base64Url) => "crate::shared::encode_base64_url($value)"
    | .primitive .bytes _ => "crate::shared::encode_base64($value)"
    | .primitive .dateTime (some .unixTime) => "$value.timestamp().to_string()"
    | .primitive .dateTime (some .rfc1123) => "crate::shared::format_rfc1123($value)"
    | .primitive .dateTime _ => "$value.to_rfc3339()"
    | _ => "$value.to_string()"
  Code.write template [("value", value)]

/-- The function of the runtime that reads a value from its text. -/
def readerName : ScalarKind → String
  | .primitive .bytes (some .base64Url) => "decode_base64_url"
  | .primitive .bytes _ => "decode_base64"
  | .primitive .dateTime (some .unixTime) => "parse_unix_time"
  | .primitive .dateTime (some .rfc1123) => "parse_rfc1123"
  | _ => "parse_text"

/-- The value of a text, given as an expression; `what` is named in errors. -/
def parseCode (kind : ScalarKind) (text : Code) (what : String) : Code :=
  Code.write "crate::shared::$reader($text, $what)"
    [("reader", Code.word kind.readerName), ("text", text), ("what", Code.text what)]

end ScalarKind

/-- The texts of a value, given as an expression. -/
def TextForm.textsCode (form : TextForm) (value : Code) : Code :=
  match form with
  | .scalar kind => Code.write "vec![$text]" [("text", kind.textCode value)]
  | .list kind =>
      Code.write "$value.iter().map(|item| $text).collect::<Vec<String>>()"
        [("value", value), ("text", kind.textCode (Code.word "item"))]

/-- The module that carries a primitive in JSON where its own form does not. -/
def TypeUse.adapter? (used : TypeUse) (format : Option PrimitiveFormat) : Option String :=
  let base := match used.type, format with
    | .primitive .bytes, some .base64Url => some "base64_url"
    | .primitive .bytes, _ => some "base64_bytes"
    | .primitive .dateTime, some .unixTime => some "unix_time"
    | .primitive .dateTime, some .rfc1123 => some "rfc1123"
    | _, _ => none
  base.map fun base =>
    "crate::shared::serde_formats::" ++ base ++ (if used.nullable then "::option" else "")

/-- The whole number that a document is, within 64 bits. -/
def wholeNumber? : Json → Option Int64
  | .int n => Scalar.int64? n
  | _ => none

/-- The number that a document is. -/
def number? : Json → Option Decimal.Binary64
  | .int n => some (.ofInt n)
  | .float x => some x
  | _ => none

def int64Code (n : Int64) : Code := Code.word (toString n.toInt ++ "i64")

/-- A default decoded from its JSON text when the code runs. -/
def decodedDefault (document : Json) : Code :=
  Code.write "serde_json::from_str($text).unwrap_or_default()"
    [("text", Code.text document.compact)]

namespace Model

/-- A default of an enum: a declared member, or any value where the enum is extensible. -/
def enumDefault (model : Model) (name : String) (schema : SchemaId) (extensible : Bool)
    (document : Json) : Option Code := do
  let type ← match model.schema? schema with
    | some (.enumeration type) => some type
    | _ => none
  let raw := match document with
    | .string text => text
    | other => other.compact
  let path := [("type", modelPath name)]
  if extensible then
    if type.underlying.isInteger then
      let n ← Scalar.readInt64 raw
      some (Code.write "$type($value)" (("value", int64Code n) :: path))
    else some (Code.write "$type::from($value)" (("value", Code.text raw) :: path))
  else
    let member ← type.values.find? (·.rawText == raw)
    some (Code.write "$type::$member"
      (("member", Code.ident (Naming.typeName member.name)) :: path))

/-- The expression of a default, if the type has one for it. -/
def defaultCode? (model : Model) (type : RustType) (document : Json) : Option Code :=
  match type, document with
  | .primitive .boolean, .bool flag => some (Code.word (Scalar.boolText flag))
  | .primitive .int32, document => do
      let n ← wholeNumber? document
      let n ← (Scalar.checkWidth .int32 n).toOption
      some (Code.word (toString n.toInt ++ "i32"))
  | .primitive .int64, document => (wholeNumber? document).map int64Code
  | .primitive .float32, document => do
      let x ← number? document
      let text ← x.plain32?
      some (Code.word (text ++ "f32"))
  | .primitive .float64, document =>
      (number? document).map fun x => Code.word (x.plain ++ "f64")
  | .primitive .string, .string text | .primitive .duration, .string text =>
      some (Code.write "String::from($text)" [("text", Code.text text)])
  | .primitive .date, document | .primitive .dateTime, document | .primitive .uuid, document
  | .primitive .any, document | .collection _, document | .dictionary _, document =>
      some (decodedDefault document)
  | .enumeration name schema extensible, document =>
      model.enumDefault name schema extensible document
  | _, _ => none

/-- The expression of a declared default. -/
def defaultCode (model : Model) (used : TypeUse) (document : Json) :
    Except GenerationError Code :=
  match model.defaultCode? used.type document with
  | some code => .ok code
  | none =>
      .error (.code
        ("default " ++ document.compact ++ " does not fit type " ++ used.rustName))

end Model

end ApiContract
