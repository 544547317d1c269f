import ApiContract.Model.Basic

/-!
The documents of models and their parts. Fields stand in the order of declaration; an absent
optional field and an empty list of derived schemas are left out, every other field is present.
-/

namespace ApiContract

namespace Json

/-- An object of the members that are present. -/
def record (members : List (Option (String × Json))) : Json := .object (members.filterMap id)

def member (key : String) (value : Json) : Option (String × Json) := some (key, value)

def memberIf (key : String) (value : Option Json) : Option (String × Json) :=
  value.map fun value => (key, value)

def memberText (key : String) (value : Option String) : Option (String × Json) :=
  memberIf key (value.map .string)

end Json

open Json (record member memberIf memberText)

def EnumValue.toJson (value : EnumValue) : Json :=
  record [member "name" (.string value.name), member "value" value.value]

def EnumType.members (type : EnumType) : List (Option (String × Json)) :=
  [member "name" (.string type.name),
   memberText "description" type.description,
   member "values" (.array (type.values.map EnumValue.toJson)),
   member "extensible" (.bool type.extensible),
   member "underlying" (.string type.underlying.name)]

def XmlPlacement.toJson (xml : XmlPlacement) : Json :=
  record
    [memberText "name" xml.name,
     member "attribute" (.bool xml.asAttribute),
     member "wrapped" (.bool xml.wrapped),
     member "text" (.bool xml.asText),
     memberText "item-name" xml.itemName]

def Property.toJson (property : Property) : Json :=
  record
    [member "name" (.string property.name),
     member "serialized-name" (.string property.serializedName),
     member "schema" (.string property.schema),
     member "required" (.bool property.required),
     member "nullable" (.bool property.nullable),
     memberIf "default-value" property.defaultValue,
     member "read-only" (.bool property.readOnly),
     memberText "description" property.description,
     memberIf "xml" (property.xml.map XmlPlacement.toJson)]

def XmlRoot.toJson (xml : XmlRoot) : Json := record [memberText "name" xml.name]

def ObjectType.members (type : ObjectType) : List (Option (String × Json)) :=
  [member "name" (.string type.name),
   memberText "description" type.description,
   member "properties" (.array (type.properties.map Property.toJson)),
   memberText "discriminator" type.discriminator,
   memberText "discriminator-value" type.discriminatorValue,
   memberText "base" type.base,
   if type.derived.isEmpty then none else member "derived" (.array (type.derived.map .string)),
   memberIf "xml" (type.xml.map XmlRoot.toJson)]

def Schema.toJson : Schema → Json
  | primitive kind format =>
      record
        [member "type" (.string "primitive"),
         member "kind" (.string kind.name),
         memberText "format" (format.map PrimitiveFormat.name)]
  | enumeration type => record (member "type" (.string "enum") :: type.members)
  | object type => record (member "type" (.string "object") :: type.members)
  | array element =>
      record [member "type" (.string "array"), member "element" (.string element)]
  | dictionary value =>
      record [member "type" (.string "dictionary"), member "value" (.string value)]
  | framework typePath =>
      record [member "type" (.string "framework"), member "type-path" (.string typePath)]

def StatusCode.toJson : StatusCode → Json
  | code value => .int value
  | range first last => record [member "from" (.int first), member "to" (.int last)]

def ResponseBody.toJson : ResponseBody → Json
  | none => record [member "kind" (.string "none")]
  | typed schema format =>
      record
        [member "kind" (.string "typed"),
         member "schema" (.string schema),
         member "format" (.string format.name)]
  | stream => record [member "kind" (.string "stream")]

def HeaderField.toJson (field : HeaderField) : Json :=
  record
    [member "name" (.string field.name),
     member "header" (.string field.header),
     member "schema" (.string field.schema)]

def HeaderModel.toJson (headers : HeaderModel) : Json :=
  record
    [member "name" (.string headers.name),
     member "headers" (.array (headers.headers.map HeaderField.toJson))]

def Response.toJson (response : Response) : Json :=
  record
    [member "status-codes" (.array (response.statusCodes.map StatusCode.toJson)),
     member "body" response.body.toJson,
     memberIf "headers" (response.headers.map HeaderModel.toJson)]

def RouteSegment.toJson : RouteSegment → Json
  | constant text => record [member "kind" (.string "constant"), member "value" (.string text)]
  | parameter name raw =>
      record
        [member "kind" (.string "parameter"),
         member "name" (.string name),
         member "raw" (.bool raw)]

def Parameter.toJson (parameter : Parameter) : Json :=
  record
    [member "name" (.string parameter.name),
     memberText "description" parameter.description,
     member "schema" (.string parameter.schema),
     member "location" (.string parameter.location.name),
     memberText "serialized-name" parameter.serializedName,
     member "required" (.bool parameter.required),
     memberIf "default-value" parameter.defaultValue,
     memberIf "constant" parameter.constant,
     member "style" (.string parameter.style.name),
     member "escape" (.bool parameter.escape),
     member "next-link" (.bool parameter.nextLink)]

def BodyInitializer.toJson (initializer : BodyInitializer) : Json :=
  record
    [member "property" (.string initializer.property),
     member "parameter" (.string initializer.parameter)]

def RequestBody.toJson : RequestBody → Json
  | schema parameter format contentType =>
      record
        [member "kind" (.string "schema"),
         member "parameter" (.string parameter),
         member "format" (.string format.name),
         memberText "content-type" contentType]
  | binary parameter contentType =>
      record
        [member "kind" (.string "binary"),
         member "parameter" (.string parameter),
         memberText "content-type" contentType]
  | text parameter contentType =>
      record
        [member "kind" (.string "text"),
         member "parameter" (.string parameter),
         memberText "content-type" contentType]
  | flattened target initializers format contentType =>
      record
        [member "kind" (.string "flattened"),
         member "schema" (.string target),
         member "initializers" (.array (initializers.map BodyInitializer.toJson)),
         member "format" (.string format.name),
         memberText "content-type" contentType]

def Operation.toJson (operation : Operation) : Json :=
  record
    [member "name" (.string operation.name),
     memberText "description" operation.description,
     member "method" (.string operation.method.name),
     member "path" (.array (operation.path.map RouteSegment.toJson)),
     member "parameters" (.array (operation.parameters.map Parameter.toJson)),
     memberIf "body" (operation.body.map RequestBody.toJson),
     member "responses" (.array (operation.responses.map Response.toJson))]

def Model.toJson (model : Model) : Json :=
  record
    [member "name" (.string model.name),
     memberText "description" model.description,
     member "schemas" (.object (model.schemas.map fun (id, schema) => (id, schema.toJson))),
     member "operations" (.array (model.operations.map Operation.toJson))]

end ApiContract
