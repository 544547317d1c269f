import ApiContract.Types.Resolution

/-!
Planning: from a schema and a wire format to the plan that carries it. Plans are kept per schema and
format for one run.
-/

namespace ApiContract.Model

/-- The scalar kind of a schema, nothing for structured ones. -/
def scalarKind (model : Model) (id : SchemaId) (referrer : String) :
    Except ModelError (Option ScalarKind) := do
  match ← model.schemaFor id referrer with
  | .primitive .any _ | .framework _ => pure (some .any)
  | .primitive kind format => pure (some (.primitive kind format))
  | .enumeration type =>
      pure (some (.enumeration
        { name := Naming.typeName type.name
          values := type.values.map EnumValue.rawText
          extensible := type.extensible
          underlying := type.underlying }))
  | _ => pure none

/-- How a value of a schema is carried inside a JSON document. -/
def valuePlanWithin (model : Model) : Nat → SchemaId → String → Except ModelError ValuePlan
  | 0, id, _ => .error (.endlessNesting id)
  | fuel + 1, id, referrer => do
      match ← model.scalarKind id referrer with
      | some kind => pure (.scalar kind)
      | none =>
          match ← model.schemaFor id referrer with
          | .array element => do
              let element ← model.valuePlanWithin fuel element id
              pure (.list element)
          | .dictionary value => do
              let value ← model.valuePlanWithin fuel value id
              pure (.dictionary value)
          | _ => pure (.reference id)

def valuePlan (model : Model) (id : SchemaId) (referrer : String) : Except ModelError ValuePlan :=
  model.valuePlanWithin (model.walkLimit + 1) id referrer

def propertyPlan (model : Model) (owner : String) (property : Property) :
    Except ModelError PropertyPlan := do
  let value ← model.valuePlan property.schema (owner ++ "." ++ property.name)
  pure
    { name := property.name
      wireName := property.serializedName
      value
      required := property.required
      nullable := property.nullable
      readOnly := property.readOnly
      default := property.defaultValue }

/-- The object shape of a schema. A property under the discriminator's wire name is left out: the
discriminator is written from the variant, never from a field. -/
def objectPlan (model : Model) (id : SchemaId) (object : ObjectType)
    (discriminator : Option String) : Except ModelError ObjectPlan := do
  let inherited ← model.inheritedProperties id
  let carried := inherited.filter fun property => discriminator != some property.serializedName
  let properties ← carried.mapM (model.propertyPlan object.name)
  pure
    { schema := id, typeName := Naming.typeName object.name, discriminator := none, properties }

/-- The JSON plan of an object, by its role. -/
def hierarchyPlan (model : Model) (id : SchemaId) (object : ObjectType) (typeName : String) :
    HierarchyRole → Except ModelError WirePlan
  | .plain => do
      let plan ← model.objectPlan id object none
      pure (.object plan)
  | .base discriminator variants => do
      let base ← model.objectPlan id object (some discriminator)
      pure (.hierarchy
        { schema := id
          typeName
          discriminator
          base
          variants := variants.map fun variant => ⟨variant.value, variant.schema⟩ })
  | .derived base value => do
      let root ← model.objectFor base id
      let wireName := root.discriminator.getD ""
      let plan ← model.objectPlan id object (some wireName)
      pure (.object { plan with discriminator := some ⟨wireName, value⟩ })

def jsonPlan (model : Model) (id : SchemaId) : Planning ModelError WirePlan := do
  match ← model.schemaFor id id with
  | .object object => do
      let target ← model.resolve id
      match target.type with
      | .model name _ role => model.hierarchyPlan id object name role
      | _ => do
          let plan ← model.valuePlan id id
          pure (.value plan)
  | _ => do
      let plan ← model.valuePlan id id
      pure (.value plan)

/-- A scalar or an object inside an element; collections cannot nest there. -/
def itemContent (model : Model) (owner id : SchemaId) (referrer : String) :
    Except ModelError ItemContent := do
  match ← model.scalarKind id referrer with
  | some kind => pure (.value kind)
  | none =>
      match ← model.schemaFor id referrer with
      | .object _ => pure (.model id)
      | _ =>
          .error (.unsupportedSerialization owner
            ("'" ++ referrer ++ "' nests collections, which XML cannot carry"))

/-- The name of the items of a sequence: the declared one, else the root name of the item's object,
else the name of the property. -/
def itemName (model : Model) (xml : XmlPlacement) (element : SchemaId) (name : String) : String :=
  xml.itemName.getD
    (match (model.schema? element).bind Schema.object? with
    | some object => object.rootName
    | none => name)

def childContent (model : Model) (owner : SchemaId) (property : Property) (xml : XmlPlacement)
    (name referrer : String) : Except ModelError ChildContent := do
  match ← model.schemaFor property.schema referrer with
  | .array element => do
      let item ← model.itemContent owner element referrer
      pure (.sequence xml.wrapped (model.itemName xml element name) item)
  | .dictionary value => do
      let entry ← model.itemContent owner value referrer
      pure (.dictionary entry)
  | _ => do
      let content ← model.itemContent owner property.schema referrer
      pure (.item content)

/-- Adds a property to the plan of an element. -/
def placeProperty (model : Model) (id : SchemaId) (owner : String) (plan : ElementPlan)
    (property : Property) : Except ModelError ElementPlan := do
  let referrer := owner ++ "." ++ property.name
  let xml := property.xml.getD {}
  let name := xml.name.getD property.serializedName
  if xml.asAttribute || xml.asText then
    match ← model.scalarKind property.schema referrer with
    | none =>
        .error (.unsupportedSerialization id
          ("property '" ++ property.name ++ "' must be a scalar to be an attribute or text"))
    | some kind =>
        if xml.asText then
          if plan.text.isSome then
            .error (.unsupportedSerialization id "only one property may carry the element text")
          else
            pure { plan with text := some ⟨property.name, kind, property.required⟩ }
        else
          pure { plan with
            attributes := plan.attributes ++ [⟨property.name, name, kind, property.required⟩] }
  else
    let content ← model.childContent id property xml name referrer
    pure { plan with
      children := plan.children ++
        [⟨property.name, name, content, property.required, property.defaultValue⟩] }

def elementPlan (model : Model) (id : SchemaId) : Except ModelError ElementPlan := do
  match ← model.schemaFor id id with
  | .object object => do
      if (← model.hierarchyRoot id).isSome then
        .error (.unsupportedSerialization id "polymorphic objects cannot be carried as XML")
      let empty : ElementPlan :=
        { schema := id
          typeName := Naming.typeName object.name
          name := object.rootName
          attributes := []
          children := []
          text := none }
      (← model.inheritedProperties id).foldlM (model.placeProperty id object.name) empty
  | _ => .error (.unsupportedSerialization id "XML documents need an object at the root")

/-- The plan of a schema in a format: the one kept, or one made and kept. -/
def plan (model : Model) (id : SchemaId) (format : WireFormat) : Planning ModelError WirePlan :=
  .findPlan ⟨id, format⟩ fun
    | some kept => pure kept
    | none => do
        let made ← match format with
          | .json => model.jsonPlan id
          | .xml => do
              let element ← model.elementPlan id
              pure (.element element)
        .keepPlan ⟨id, format⟩ made pure

/-- The model that an item holds, if it holds one. -/
def ItemContent.models : ItemContent → List SchemaId
  | .model schema => [schema]
  | .value _ => []

def ChildContent.models : ChildContent → List SchemaId
  | .item content => ItemContent.models content
  | .sequence _ _ item => ItemContent.models item
  | .dictionary entry => ItemContent.models entry

/-- The objects that the children of an element refer to. -/
def linkedModels : WirePlan → List SchemaId
  | .element plan => plan.children.flatMap fun child => ChildContent.models child.content
  | _ => []

/-- Plans the pending schemas and all they refer to, the last one first. -/
def closeXml (model : Model) :
    Nat → List SchemaId → List SchemaId → Planning ModelError (List SchemaId)
  | 0, seen, _ => pure seen
  | _, seen, [] => pure seen
  | fuel + 1, seen, id :: pending =>
      if seen.contains id then model.closeXml fuel seen pending
      else do
        let plan ← model.plan id .xml
        model.closeXml fuel (id :: seen) ((linkedModels plan).reverse ++ pending)

/-- All properties that the model declares. -/
def propertyCount (model : Model) : Nat :=
  model.schemas.foldl
    (fun count (_, schema) =>
      match schema with
      | .object object => count + object.properties.length
      | _ => count)
    0

/-- Every object reachable from a root through the content of elements, sorted by id. Each object
is planned once and refers to at most as many others as the model has properties. -/
def xmlClosure (model : Model) (root : SchemaId) : Planning ModelError (List SchemaId) := do
  let seen ← model.closeXml (model.walkLimit * model.propertyCount + 1) [] [root]
  pure ((seen.foldl (fun sorted id => insertSorted id () sorted) []).map (·.1))

end ApiContract.Model
