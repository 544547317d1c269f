import ApiContract.Code.ElementModel
import ApiContract.Code.ModelFile

/-!
The generated file of an object: a struct, or for the root of a hierarchy an enum over its variants
with a struct for the base shape.
-/

namespace ApiContract

namespace ModelField

/-- Whether an absent value is left out of documents. -/
def isLeftOut (field : ModelField) : Bool := field.mode == .optional && !field.property.required

/-- The default of a field that takes it. -/
def default? (field : ModelField) : Option Json :=
  if field.mode = .defaulted then field.property.defaultValue else none

/-- How the field is named, left out and converted in JSON. -/
def jsonRules (field : ModelField) (owner : String) : List Code :=
  let rename := Code.write "rename = $name" [("name", Code.text field.property.serializedName)]
  let absence :=
    if field.isLeftOut then
      [Code.plain r#"default, skip_serializing_if = "Option::is_none""#]
    else if field.default?.isSome then
      [Code.write "default = $path" [("path", Code.text (owner ++ "::" ++ field.defaultName))]]
    else []
  let adapter := if field.boxed then none else field.type.adapter? field.format
  let conversion := adapter.toList.map fun path =>
    Code.write "with = $path" [("path", Code.text path)]
  rename :: absence ++ conversion

/-- The declaration of the field, and the function of its default if it has one. -/
def declaration (model : Model) (owner : String) (field : ModelField) :
    Except GenerationError (Code × Code) := do
  let type ← field.typeCode
  let function ← match field.default? with
    | none => pure []
    | some document => do
        let value ← model.defaultCode field.type document
        pure (Code.write r#"pub fn $name() -> $type { $value }"#
          [("name", Code.word field.defaultName), ("type", type), ("value", value)])
  let declared := Code.write r#"$doc #[serde($rules)] pub $name: $type,"#
    [("doc", docComment field.property.description),
     ("rules", Code.commaSeparated (field.jsonRules owner)),
     ("name", Code.word field.name), ("type", type)]
  pure (declared, function)

end ModelField

namespace ObjectFile

/-- A struct with its fields, `leading` first, and the functions of its defaults. -/
def structCode (model : Model) (name : String) (description : Option String)
    (fields : List ModelField) (leading rules : Code) : Except GenerationError Code := do
  let declarations ← fields.mapM (ModelField.declaration model name)
  let functions := Code.sequence (declarations.map (·.2))
  let defaults :=
    if functions.isEmpty then []
    else Code.write r#"impl $name { $functions }"#
      [("name", Code.ident name), ("functions", functions)]
  pure (Code.write r#"
    $doc
    #[derive(Debug, Clone, PartialEq, serde::Serialize, serde::Deserialize)]
    $rules
    pub struct $name { $leading $fields }
    $defaults"#
    [("doc", docComment description), ("rules", rules), ("name", Code.ident name),
     ("leading", leading), ("fields", Code.sequence (declarations.map (·.1))),
     ("defaults", defaults)])

/-- The enum of a hierarchy: one case for each variant, and one for the base shape where the
discriminator is not a known one. -/
def hierarchyCode (name baseName : String) (description : Option String) (discriminator : String)
    (variants : List Variant) : Code :=
  let discriminatorField := Naming.fieldName discriminator
  let each (template : String) : Code := Code.sequence (variants.map fun variant =>
    Code.write template
      [("case", Code.ident variant.typeName), ("value", Code.text variant.value),
       ("doc", Code.doc (" `" ++ discriminator ++ ": \"" ++ variant.value ++ "\"`"))])
  Code.write r#"
    $doc
    #[derive(Debug, Clone, PartialEq)]
    pub enum $name {
      $cases
      /// A value whose discriminator is not a known variant.
      Unknown($base),
    }
    impl $name {
      /// Returns the discriminator value of this variant.
      pub fn discriminator(&self) -> Option<&str> {
        match self {
          $values
          Self::Unknown(base) => base.$field.as_deref(),
        }
      }
    }
    impl serde::Serialize for $name {
      fn serialize<S: serde::Serializer>(&self, serializer: S) -> Result<S::Ok, S::Error> {
        match self {
          $writes
          Self::Unknown(value) => serde::Serialize::serialize(value, serializer),
        }
      }
    }
    impl<'de> serde::Deserialize<'de> for $name {
      fn deserialize<D: serde::Deserializer<'de>>(deserializer: D) -> Result<Self, D::Error> {
        let value = <serde_json::Value as serde::Deserialize>::deserialize(deserializer)?;
        let kind = value
          .get($discriminator)
          .and_then(serde_json::Value::as_str)
          .map(str::to_string);
        let parsed = match kind.as_deref() {
          $reads
          _ => serde_json::from_value(value).map(Self::Unknown),
        };
        parsed.map_err(serde::de::Error::custom)
      }
    }"#
    [("doc", docComment description), ("name", Code.ident name), ("base", Code.ident baseName),
     ("field", Code.ident discriminatorField), ("discriminator", Code.text discriminator),
     ("cases", each "$doc $case(crate::models::$case),"),
     ("values", each "Self::$case(_) => Some($value),"),
     ("writes", each "Self::$case(value) => serde::Serialize::serialize(value, serializer),"),
     ("reads", each "Some($value) => serde_json::from_value(value).map(Self::$case),")]

/-- The struct of an object that roots no hierarchy and is below none. -/
def plainFile (model : Model) (id : SchemaId) (object : ObjectType) (name : String)
    (asElement : Bool) : Planning GenerationError Code := do
  let fields ← (model.modelFields id none).mapError .model
  let body ← structCode model name object.description fields [] []
  let element ← if asElement then model.elementCode id else pure []
  pure (body ++ element)

/-- The struct of a variant, which writes its discriminator first. -/
def variantFile (model : Model) (id : SchemaId) (object : ObjectType) (name : String)
    (base : SchemaId) (value : String) : Planning GenerationError Code := do
  let root ← (Planning.lift (model.objectFor base id)).mapError .model
  let discriminator := root.discriminator.getD ""
  let fields ← (model.modelFields id (some discriminator)).mapError .model
  let rules := Code.write "#[serde(tag = $tag, rename = $value)]"
    [("tag", Code.text discriminator), ("value", Code.text value)]
  structCode model name object.description fields [] rules

/-- The enum of a hierarchy and the struct of its base shape. -/
def hierarchyFile (model : Model) (id : SchemaId) (object : ObjectType) (name : String)
    (discriminator : String) (variants : List Variant) : Planning GenerationError Code := do
  let baseName := name ++ "Base"
  let fields ← (model.modelFields id (some discriminator)).mapError .model
  let leading := Code.write
    r#"#[serde(rename = $name, default, skip_serializing_if = "Option::is_none")]
      pub $field: Option<String>,"#
    [("name", Code.text discriminator), ("field", Code.word (Naming.fieldName discriminator))]
  let description :=
    " The shape of a [`" ++ name ++ "`] whose `" ++ discriminator ++ "` is not a known variant."
  let base ← structCode model baseName (some description) fields leading []
  pure (hierarchyCode name baseName object.description discriminator variants ++ base)

end ObjectFile

namespace Model

/-- The file of an object schema. -/
def objectFile (model : Model) (id : SchemaId) (asElement : Bool) :
    Planning GenerationError ModelFile := do
  let object ← (Planning.lift (model.objectFor id id)).mapError .model
  let used ← (model.resolve id).mapError .model
  let name := Naming.typeName object.name
  let file (exports : List String) (code : Code) : ModelFile :=
    { module := Naming.fieldName object.name, exports, code }
  match used.type with
  | .model _ _ .plain => do
      let code ← ObjectFile.plainFile model id object name asElement
      pure (file [name] code)
  | .model _ _ (.derived base value) => do
      let code ← ObjectFile.variantFile model id object name base value
      pure (file [name] code)
  | .model _ _ (.base discriminator variants) => do
      let code ← ObjectFile.hierarchyFile model id object name discriminator variants
      pure (file [name, name ++ "Base"] code)
  | _ => .fail (.code ("'" ++ id ++ "' did not resolve to a model"))

end Model

end ApiContract
