import ApiContract.Document.Shape
import ApiContract.Model.Basic

/-!
Reading models out of documents: which fields each record has, in which order, what stands for an
absent one, and which words name the cases of a choice.
-/

namespace ApiContract.Reading

open Document Document.Fields

def wordsOf (all : List α) (name : α → String) : List (String × α) :=
  all.map fun a => (name a, a)

def primitiveKind : Reader PrimitiveKind := word (wordsOf PrimitiveKind.all PrimitiveKind.name)

def primitiveFormat : Reader PrimitiveFormat :=
  word (wordsOf PrimitiveFormat.all PrimitiveFormat.name)

def wireFormat : Reader WireFormat := word (wordsOf WireFormat.all WireFormat.name)

def httpMethod : Reader HttpMethod := word (wordsOf HttpMethod.all HttpMethod.name)

def parameterLocation : Reader ParameterLocation :=
  word (wordsOf ParameterLocation.all ParameterLocation.name)

def listStyle : Reader ListStyle := word ListStyle.spellings

def enumValue : Reader EnumValue :=
  record "struct EnumValue"
    (EnumValue.mk <$> required "name" text <*> required "value" anything)

def enumType : Reader EnumType :=
  record "struct EnumSchema"
    (EnumType.mk
      <$> required "name" text
      <*> optional "description" text
      <*> required "values" (listOf enumValue)
      <*> withDefault "extensible" boolean false
      <*> withDefault "underlying" primitiveKind .string)

def xmlPlacement : Reader XmlPlacement :=
  record "struct XmlPropertyInfo"
    (XmlPlacement.mk
      <$> optional "name" text
      <*> withDefault "attribute" boolean false
      <*> withDefault "wrapped" boolean false
      <*> withDefault "text" boolean false
      <*> optional "item-name" text)

def xmlRoot : Reader XmlRoot :=
  record "struct XmlObjectInfo" (XmlRoot.mk <$> optional "name" text)

def property : Reader Property :=
  record "struct Property"
    (Property.mk
      <$> required "name" text
      <*> required "serialized-name" text
      <*> required "schema" text
      <*> withDefault "required" boolean false
      <*> withDefault "nullable" boolean false
      <*> optional "default-value" anything
      <*> withDefault "read-only" boolean false
      <*> optional "description" text
      <*> optional "xml" xmlPlacement)

def objectType : Reader ObjectType :=
  record "struct ObjectSchema"
    (ObjectType.mk
      <$> required "name" text
      <*> optional "description" text
      <*> withDefault "properties" (listOf property) []
      <*> optional "discriminator" text
      <*> optional "discriminator-value" text
      <*> optional "base" text
      <*> withDefault "derived" (listOf text) []
      <*> optional "xml" xmlRoot)

/-- A case whose fields stand beside the tag. -/
def caseOf (type tag name : String) (fields : Fields α) : Case α :=
  ⟨tag, record ("struct variant " ++ type ++ "::" ++ name) fields⟩

def schema : Reader Schema :=
  tagged "SchemaType" "type"
    [caseOf "SchemaType" "primitive" "Primitive"
      (Schema.primitive <$> required "kind" primitiveKind <*> optional "format" primitiveFormat),
     ⟨"enum", fun origin node => (enumType origin node).map .enumeration⟩,
     ⟨"object", fun origin node => (objectType origin node).map .object⟩,
     caseOf "SchemaType" "array" "Array" (Schema.array <$> required "element" text),
     caseOf "SchemaType" "dictionary" "Dictionary" (Schema.dictionary <$> required "value" text),
     caseOf "SchemaType" "framework" "Framework"
      (Schema.framework <$> required "type-path" text)]

/-- A whole number of 16 bits. -/
def code? : Node → Option Nat
  | .int n => if 0 ≤ n ∧ n < 65536 then some n.toNat else none
  | _ => none

/-- A code, or a range given by its two ends. Whatever is neither is no status at all. -/
def statusCode : Reader StatusCode := fun _ node =>
  match node.settle? with
  | none => .error .unreadable
  | some (.mapping members) =>
      match Fields.occurrences (Fields.isKey "from" 0) 0 members,
          Fields.occurrences (Fields.isKey "to" 1) 0 members with
      | (some (_, first), none), (some (_, last), none) =>
          match code? first, code? last, members.all fun (key, _) => isFieldKey key with
          | some first, some last, true => .ok (.range first last)
          | _, _, _ => failure
      | _, _ => failure
  | some other =>
      match code? other with
      | some value => .ok (.code value)
      | none => failure
where
  failure : Except ShapeError StatusCode := .error (.noVariant "StatusCode")

def responseBody : Reader ResponseBody :=
  tagged "ResponseBodyDecl" "kind"
    [.unit "none" .none,
     caseOf "ResponseBodyDecl" "typed" "Typed"
      (ResponseBody.typed <$> required "schema" text <*> withDefault "format" wireFormat .json),
     .unit "stream" .stream]

def headerField : Reader HeaderField :=
  record "struct HeaderField"
    (HeaderField.mk <$> required "name" text <*> required "header" text <*> required "schema" text)

def headerModel : Reader HeaderModel :=
  record "struct HeaderModel"
    (HeaderModel.mk <$> required "name" text <*> required "headers" (listOf headerField))

def response : Reader Response :=
  record "struct ResponseDecl"
    (Response.mk
      <$> required "status-codes" (listOf statusCode)
      <*> withDefault "body" responseBody .none
      <*> optional "headers" headerModel)

def routeSegment : Reader RouteSegment :=
  tagged "PathSegment" "kind"
    [caseOf "PathSegment" "constant" "Constant" (RouteSegment.constant <$> required "value" text),
     caseOf "PathSegment" "parameter" "Parameter"
      (RouteSegment.parameter <$> required "name" text <*> withDefault "raw" boolean false)]

def parameter : Reader Parameter :=
  record "struct Parameter"
    (Parameter.mk
      <$> required "name" text
      <*> optional "description" text
      <*> required "schema" text
      <*> required "location" parameterLocation
      <*> optional "serialized-name" text
      <*> withDefault "required" boolean false
      <*> optional "default-value" anything
      <*> optional "constant" anything
      <*> withDefault "style" listStyle .none
      <*> withDefault "escape" boolean true
      <*> withDefault "next-link" boolean false)

def bodyInitializer : Reader BodyInitializer :=
  record "struct FlattenedInitializer"
    (BodyInitializer.mk <$> required "property" text <*> required "parameter" text)

def requestBody : Reader RequestBody :=
  tagged "RequestBody" "kind"
    [caseOf "RequestBody" "schema" "Schema"
      (RequestBody.schema
        <$> required "parameter" text
        <*> withDefault "format" wireFormat .json
        <*> optional "content-type" text),
     caseOf "RequestBody" "binary" "Binary"
      (RequestBody.binary <$> required "parameter" text <*> optional "content-type" text),
     caseOf "RequestBody" "text" "Text"
      (RequestBody.text <$> required "parameter" text <*> optional "content-type" text),
     caseOf "RequestBody" "flattened" "Flattened"
      (RequestBody.flattened
        <$> required "schema" text
        <*> required "initializers" (listOf bodyInitializer)
        <*> withDefault "format" wireFormat .json
        <*> optional "content-type" text)]

def operation : Reader Operation :=
  record "struct Operation"
    (Operation.mk
      <$> required "name" text
      <*> optional "description" text
      <*> required "method" httpMethod
      <*> withDefault "path" (listOf routeSegment) []
      <*> withDefault "parameters" (listOf parameter) []
      <*> optional "body" requestBody
      <*> withDefault "responses" (listOf response) [])

/-- The schema table: a mapping by id, of equal ids the last counting. -/
def schemaTable : Reader (List (SchemaId × Schema)) := fun origin node =>
  match node.bare with
  | .mapping members =>
      members.foldlM
        (fun table (key, node) => do
          let id ← text origin key
          let schema ← schema origin node
          pure (insertSorted id schema table))
        []
  | .scalar scalar => if scalar.isEmpty then .ok [] else .error (.invalidType node.found "a map")
  | other => .error (.invalidType other.found "a map")

def model : Reader Model :=
  record "struct ApiModel"
    (Model.mk
      <$> required "name" text
      <*> optional "description" text
      <*> withDefault "schemas" schemaTable []
      <*> withDefault "operations" (listOf operation) [])

end ApiContract.Reading
