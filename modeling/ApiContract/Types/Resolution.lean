import ApiContract.Plan.Memo
import ApiContract.Types.Hierarchy

/-!
Resolution: from a schema to the type that carries it. Each schema is resolved once per run and
use; a nullable use is kept beside the plain one it comes from. A property or parameter that is
optional without a default is nullable, and so is an explicitly nullable property.
-/

namespace ApiContract.Model

/-- The role of an object in its hierarchy. Resolving the root of a derived object checks the whole
hierarchy. -/
def roleOf (model : Model) (resolveRoot : SchemaId → String → Planning ModelError RustType)
    (id : SchemaId) (object : ObjectType) : Planning ModelError HierarchyRole :=
  match object.discriminator with
  | some discriminator => do
      let variants ← model.variants id object
      pure (.base discriminator variants)
  | none => do
      match ← model.hierarchyRoot id with
      | some root => do
          let _ ← resolveRoot root id
          pure (.derived root object.variantValue)
      | none => pure .plain

/-- The type of a schema, given how the schemas it refers to are resolved. -/
def computeType (model : Model) (resolveNext : SchemaId → String → Planning ModelError RustType)
    (id : SchemaId) (referrer : String) : Planning ModelError RustType := do
  match ← model.schemaFor id referrer with
  | .primitive kind _ => pure (.primitive kind)
  | .enumeration type => pure (.enumeration (Naming.typeName type.name) id type.extensible)
  | .object object => do
      let role ← model.roleOf resolveNext id object
      pure (.model (Naming.typeName object.name) id role)
  | .array element => do
      let element ← resolveNext element id
      pure (.collection element)
  | .dictionary value => do
      let value ← resolveNext value id
      pure (.dictionary value)
  | .framework path => pure (.framework path)

/-- The type of a schema whose value must be present: the one kept, or one computed and kept. -/
def resolveWithin (model : Model) : Nat → SchemaId → String → Planning ModelError RustType
  | 0, id, _ => .fail (.endlessNesting id)
  | fuel + 1, id, referrer =>
      .findType ⟨id, false⟩ fun
        | some kept => pure kept.type
        | none => do
            let type ← model.computeType (model.resolveWithin fuel) id referrer
            .keepType ⟨id, false⟩ ⟨type, false⟩ fun kept => pure kept.type

/-- A use of a schema. Element links visit each schema once before they reach an end, and one more
step leads from an object to its root. -/
def resolveUse (model : Model) (id : SchemaId) (nullable : Bool) (referrer : String) :
    Planning ModelError TypeUse :=
  let plain := model.resolveWithin (model.walkLimit + 1) id referrer
  if nullable then
    .findType ⟨id, true⟩ fun
      | some kept => pure kept
      | none => do
          let type ← plain
          .keepType ⟨id, true⟩ ⟨type, true⟩ pure
  else do
    let type ← plain
    pure ⟨type, false⟩

/-- The type of a schema, where a value must be present. -/
def resolve (model : Model) (id : SchemaId) : Planning ModelError TypeUse :=
  model.resolveUse id false id

/-- The type of a property of `owner`. -/
def resolveProperty (model : Model) (owner : String) (property : Property) :
    Planning ModelError TypeUse :=
  model.resolveUse property.schema
    (property.nullable || (!property.required && property.defaultValue.isNone))
    (owner ++ "." ++ property.name)

/-- The type of a parameter of an operation; a constant is never nullable. -/
def resolveParameter (model : Model) (operation : String) (parameter : Parameter) :
    Planning ModelError TypeUse :=
  model.resolveUse parameter.schema parameter.isNullable
    (operation ++ "(" ++ parameter.name ++ ")")

end ApiContract.Model
