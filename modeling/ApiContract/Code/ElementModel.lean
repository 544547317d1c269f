import ApiContract.Code.Field
import ApiContract.Plan.Building

/-!
Generated models as elements. The generated code follows the element plan: what the plan puts into
attributes, text and children is written and read there, in the plan's order.
-/

namespace ApiContract

namespace ModelField

/-- Runs a code with `value` bound to the field, where the field has a value. -/
def withValue (field : ModelField) (body : Code) : Code :=
  let template :=
    if field.type.nullable then r#"if let Some(value) = self.$field.as_ref() { $body }"#
    else r#"{ let value = &self.$field; $body }"#
  Code.write template [("field", Code.ident field.name), ("body", body)]

/-- The initializer of the field. -/
def initializer (field : ModelField) (value : Code) : Code :=
  Code.write "$field: $value," [("field", Code.ident field.name), ("value", value)]

/-- Reads the field from a text, which `parse` takes under the name `text`. -/
def readText (field : ModelField) (optional required parse : Code) : Code :=
  let template := match field.mode with
    | .optional => r#"$optional.map(|text| $parse).transpose()?"#
    | .required => r#"{ let text = $required; $parse? }"#
    | .defaulted => r#"match $optional { Some(text) => $parse?, None => Self::$default(), }"#
  field.initializer (Code.write template
    [("optional", optional), ("required", required), ("parse", parse),
     ("default", Code.word field.defaultName)])

end ModelField

namespace ItemContent

/-- The element of a value. -/
def writeCode (content : ItemContent) (name value : Code) (boxed : Bool) : Code :=
  match content with
  | .value kind =>
      Code.write "crate::shared::xml::Element::named($name).with_text($text)"
        [("name", name), ("text", kind.textCode value)]
  | .model _ =>
      let template :=
        if boxed then "crate::shared::xml::XmlModel::to_element(&**$value, $name)"
        else "crate::shared::xml::XmlModel::to_element($value, $name)"
      Code.write template [("name", name), ("value", value)]

/-- The value of an element, or an error. -/
def readCode (content : ItemContent) (element : Code) (what : String) (boxed : Bool) : Code :=
  match content with
  | .value kind =>
      kind.parseCode (Code.write "$element.text()" [("element", element)]) what
  | .model _ =>
      let template :=
        if boxed then "crate::shared::xml::XmlModel::from_element($element).map(Box::new)"
        else "crate::shared::xml::XmlModel::from_element($element)"
      Code.write template [("element", element)]

end ItemContent

namespace ElementModel

/-- The element of a dictionary: a child for each entry, named by its key. -/
def writeDictionary (entry : ItemContent) (name : Code) : Code :=
  Code.write r#"
    {
      let mut map = crate::shared::xml::Element::named($name);
      for (key, entry) in value.iter() { map.children.push($build); }
      map
    }"#
    [("name", name), ("build", entry.writeCode (Code.word "key") (Code.word "entry") false)]

def readDictionary (entry : ItemContent) (what : String) : Code :=
  Code.write r#"
    child
      .children
      .iter()
      .map(|entry| Ok((entry.name.clone(), $read?)))
      .collect::<Result<std::collections::HashMap<_, _>, crate::shared::ApiError>>()"#
    [("read", entry.readCode (Code.word "entry") what false)]

/-- How one property is written and read. -/
structure Exchange where
  write : Code
  read : Code
  deriving Inhabited

def attributeExchange (field : ModelField) (planned : AttributePlan) : Exchange :=
  let name := [("name", Code.text planned.name)]
  { write := field.withValue (Code.write "element.attributes.push(($name.to_string(), $text));"
      (("text", planned.kind.textCode (Code.word "value")) :: name))
    read := field.readText
      (Code.write "element.attribute($name)" name)
      (Code.write "element.required_attribute($name)?" name)
      (planned.kind.parseCode (Code.word "text") planned.name) }

def textExchange (field : ModelField) (text : TextPlan) : Exchange where
  write := field.withValue (Code.write "element.text = Some($text);"
    [("text", text.kind.textCode (Code.word "value"))])
  read := field.readText
    (Code.plain "element.text.as_deref()")
    (Code.plain "element.text()")
    (text.kind.parseCode (Code.word "text") text.property)

/-- The items of a sequence are the children of a wrapper element. -/
def wrappedExchange (field : ModelField) (child : ChildPlan) (itemName : String)
    (item : ItemContent) : Exchange :=
  let parts :=
    [("name", Code.text child.name), ("item", Code.text itemName),
     ("build", item.writeCode (Code.text itemName) (Code.word "item") field.boxed),
     ("read", item.readCode (Code.word "item") child.name field.boxed)]
  let items := Code.write r#"
    element
      .child($name)
      .map(|wrapper| {
        wrapper
          .children_named($item)
          .map(|item| $read)
          .collect::<Result<Vec<_>, crate::shared::ApiError>>()
      })
      .transpose()?"# parts
  let template := match field.mode with
    | .optional => "$items"
    | .required => "$items.unwrap_or_default()"
    | .defaulted => "$items.unwrap_or_else(Self::$default)"
  { write := field.withValue (Code.write r#"
      let mut wrapper = crate::shared::xml::Element::named($name);
      for item in value.iter() { wrapper.children.push($build); }
      element.children.push(wrapper);"# parts)
    read := field.initializer (Code.write template
      [("items", items), ("default", Code.word field.defaultName)]) }

/-- The items of a sequence are siblings of one name. -/
def repeatedExchange (field : ModelField) (child : ChildPlan) (item : ItemContent) : Exchange :=
  let empty := match field.mode with
    | .optional => "None"
    | .required => "Vec::new()"
    | .defaulted => "Self::$default()"
  let present := match field.mode with
    | .optional => "Some(items)"
    | _ => "items"
  let parts :=
    [("name", Code.text child.name),
     ("build", item.writeCode (Code.text child.name) (Code.word "item") field.boxed),
     ("read", item.readCode (Code.word "item") child.name field.boxed),
     ("empty", Code.write empty [("default", Code.word field.defaultName)]),
     ("present", Code.plain present)]
  { write := field.withValue (Code.write
      r#"for item in value.iter() { element.children.push($build); }"# parts)
    read := field.initializer (Code.write r#"
      {
        let items = element
          .children_named($name)
          .map(|item| $read)
          .collect::<Result<Vec<_>, crate::shared::ApiError>>()?;
        if items.is_empty() { $empty } else { $present }
      }"# parts) }

/-- The property is one child element. -/
def singleExchange (field : ModelField) (child : ChildPlan) (build read : Code) : Exchange :=
  let parts :=
    [("name", Code.text child.name), ("build", build), ("read", read),
     ("default", Code.word field.defaultName)]
  let template := match field.mode with
    | .optional => r#"element.child($name).map(|child| $read).transpose()?"#
    | .required => r#"{ let child = element.required_child($name)?; $read? }"#
    | .defaulted => r#"
        match element.child($name) { Some(child) => $read?, None => Self::$default(), }"#
  { write := field.withValue (Code.write "element.children.push($build);" parts)
    read := field.initializer (Code.write template parts) }

def childExchange (field : ModelField) (child : ChildPlan) : Exchange :=
  match child.content with
  | .sequence true itemName item => wrappedExchange field child itemName item
  | .sequence false _ item => repeatedExchange field child item
  | .dictionary entry =>
      singleExchange field child (writeDictionary entry (Code.text child.name))
        (readDictionary entry child.name)
  | .item content =>
      singleExchange field child
        (content.writeCode (Code.text child.name) (Code.word "value") field.boxed)
        (content.readCode (Code.word "child") child.name field.boxed)

/-- The field of a planned property. -/
def fieldOf (plan : ElementPlan) (fields : List ModelField) (property : String) :
    Except GenerationError ModelField :=
  match fields.find? (·.property.name == property) with
  | some field => .ok field
  | none =>
      .error (.code (plan.typeName ++ " has no field for property '" ++ property ++ "'"))

/-- The exchanges of all properties: attributes, text, children. -/
def exchanges (plan : ElementPlan) (fields : List ModelField) :
    Except GenerationError (List Exchange) := do
  let attributes ← plan.attributes.mapM fun planned => do
    let field ← fieldOf plan fields planned.property
    pure (attributeExchange field planned)
  let text ← plan.text.toList.mapM fun text => do
    let field ← fieldOf plan fields text.property
    pure (textExchange field text)
  let children ← plan.children.mapM fun child => do
    let field ← fieldOf plan fields child.property
    pure (childExchange field child)
  pure (attributes ++ text ++ children)

def code (plan : ElementPlan) (fields : List ModelField) : Except GenerationError Code := do
  let exchanges ← exchanges plan fields
  pure (Code.write r#"
    impl crate::shared::xml::XmlModel for $type {
      fn to_element(&self, name: &str) -> crate::shared::xml::Element {
        let mut element = crate::shared::xml::Element::named(name);
        $writes
        element
      }
      fn from_element(element: &crate::shared::xml::Element) -> Result<Self, crate::shared::ApiError> {
        Ok(Self { $reads })
      }
    }"#
    [("type", Code.ident plan.typeName),
     ("writes", Code.sequence (exchanges.map (·.write))),
     ("reads", Code.sequence (exchanges.map (·.read)))])

end ElementModel

/-- The code that carries the model of a schema as an element. -/
def Model.elementCode (model : Model) (id : SchemaId) : Planning GenerationError Code := do
  match ← (model.plan id .xml).mapError .model with
  | .element plan => do
      let fields ← (model.modelFields id none).mapError .model
      ElementModel.code plan fields
  | _ => .fail (.code ("'" ++ id ++ "' has no XML element plan"))

end ApiContract
