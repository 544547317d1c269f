import ApiContract.Code.Conversion
import ApiContract.Types.Resolution

/-!
Properties as fields of generated structs. A field whose type leads back to its own struct without
passing through a collection is boxed, so that every struct has a finite size.
-/

namespace ApiContract

/-- What an absent property does to its field. -/
inductive FieldMode where
  | required
  /-- The field is an option. -/
  | optional
  /-- The field takes the declared default. -/
  | defaulted
  deriving DecidableEq, Repr, Inhabited

structure ModelField where
  property : Property
  type : TypeUse
  boxed : Bool
  mode : FieldMode
  format : Option PrimitiveFormat
  deriving DecidableEq, Inhabited

namespace ModelField

def name (field : ModelField) : String := Naming.fieldName field.property.name

/-- The function that gives the declared default. -/
def defaultName (field : ModelField) : String := "default_" ++ field.name

def typeCode (field : ModelField) : Except GenerationError Code := do
  let base ← field.type.type.code
  let base := if field.boxed then Code.write "Box<$type>" [("type", base)] else base
  pure (if field.type.nullable then optionOf base else base)

end ModelField

/-- The schemas of the variants of a root. -/
def RustType.variantSchemas : RustType → List SchemaId
  | .model _ _ (.base _ variants) => variants.map (·.schema)
  | _ => []

/-- The schema of a model. -/
def RustType.model? : RustType → Option SchemaId
  | .model _ schema _ => some schema
  | _ => none

namespace Model

/-- The models that a model's generated types hold: its variants, then the models of its fields. -/
def heldModels (model : Model) (owner id : SchemaId) : Planning ModelError (List SchemaId) := do
  let used ← model.resolve id
  let object ← model.objectFor id owner
  let properties ← model.inheritedProperties id
  let types ← properties.mapM (model.resolveProperty object.name)
  pure (used.type.variantSchemas ++ types.filterMap (·.type.model?))

/-- Whether one of the pending models leads to `owner`, the last one pending first. -/
def leadsTo (model : Model) (owner : SchemaId) :
    Nat → List SchemaId → List SchemaId → Planning ModelError Bool
  | 0, _, _ => pure false
  | _, _, [] => pure false
  | fuel + 1, visited, id :: pending =>
      if id = owner then pure true
      else if visited.contains id then model.leadsTo owner fuel visited pending
      else do
        let held ← model.heldModels owner id
        model.leadsTo owner fuel (id :: visited) (held.reverse ++ pending)

/-- Whether a field of a type needs a box in `owner`. Each model is expanded once, into at most as
many others as there are schemas and properties. -/
def needsBox (model : Model) (owner : SchemaId) (type : RustType) : Planning ModelError Bool :=
  match type.model? with
  | none => pure false
  | some id =>
      let limit := model.walkLimit * (model.walkLimit + model.propertyCount) + 1
      model.leadsTo owner limit [] [id]

def fieldMode (property : Property) (used : TypeUse) : FieldMode :=
  if used.nullable then .optional
  else if !property.required && property.defaultValue.isSome then .defaulted
  else .required

def modelField (model : Model) (id : SchemaId) (owner : ObjectType) (property : Property) :
    Planning ModelError ModelField := do
  let type ← model.resolveProperty owner.name property
  let kind ← model.scalarKind property.schema property.name
  let boxed ← model.needsBox id type.type
  pure
    { property
      type
      boxed
      mode := fieldMode property type
      format :=
        match kind with
        | some (.primitive _ format) => format
        | _ => none }

/-- The fields of an object, inherited ones first, without the property under the wire name
`left`. -/
def modelFields (model : Model) (id : SchemaId) (left : Option String) :
    Planning ModelError (List ModelField) := do
  let owner ← model.objectFor id id
  let inherited ← model.inheritedProperties id
  let kept := inherited.filter fun property => left != some property.serializedName
  kept.mapM (model.modelField id owner)

end Model

end ApiContract
