import ApiContract.Failure
import ApiContract.Naming
import ApiContract.Types.Basic

/-!
Polymorphic hierarchies. Links may form cycles and may lead nowhere: the chain of bases is cut
before the first repeated id, and each schema below a root counts once, at its first visit in
declared order.
-/

namespace ApiContract.Model

/-- The schema behind an id, naming who refers to it when there is none. -/
def schemaFor (model : Model) (id : SchemaId) (referrer : String) : Except ModelError Schema :=
  match model.schema? id with
  | some schema => .ok schema
  | none => .error (.unknownSchema id referrer)

/-- The object behind an id. -/
def objectFor (model : Model) (id : SchemaId) (referrer : String) :
    Except ModelError ObjectType := do
  match ← model.schemaFor id referrer with
  | .object object => pure object
  | _ =>
      .error (.unsupportedSerialization id
        ("expected an object schema (referenced by '" ++ referrer ++ "')"))

/-- More steps than a walk that visits no schema twice can take. -/
def walkLimit (model : Model) : Nat := model.schemas.length + 1

/-- Walks the chain of bases from `current` to the first object that declares a discriminator. -/
def findRoot (model : Model) (start : SchemaId) :
    Nat → List SchemaId → SchemaId → Except ModelError (Option SchemaId)
  | 0, _, _ => .ok none
  | fuel + 1, visited, current =>
      if visited.contains current then .ok none
      else do
        let object ← model.objectFor current start
        if object.discriminator.isSome then pure (some current)
        else
          match object.base with
          | some base => model.findRoot start fuel (current :: visited) base
          | none => pure none

/-- The object that declares the discriminator of a hierarchy, if the chain of bases has one. -/
def hierarchyRoot (model : Model) (id : SchemaId) : Except ModelError (Option SchemaId) :=
  model.findRoot id (model.walkLimit + 1) [] id

/-- The objects of the chain of bases from `current` on, the nearest first. -/
def collectBases (model : Model) (start : SchemaId) :
    Nat → List SchemaId → SchemaId → Except ModelError (List ObjectType)
  | 0, _, _ => .ok []
  | fuel + 1, visited, current =>
      if visited.contains current then .ok []
      else do
        let object ← model.objectFor current start
        match object.base with
        | some base => do
            let bases ← model.collectBases start fuel (current :: visited) base
            pure (object :: bases)
        | none => pure [object]

/-- Every property of an object, those of its bases first. -/
def inheritedProperties (model : Model) (id : SchemaId) : Except ModelError (List Property) := do
  let bases ← model.collectBases id (model.walkLimit + 1) [] id
  pure (bases.reverse.flatMap (·.properties))

/-- Visits the pending schemas in order, going down before going on. `found` holds the variants of
the schemas visited, in reverse. -/
def visitVariants (model : Model) (root : SchemaId) (hierarchy : String) :
    Nat → List SchemaId → List Variant → List SchemaId → Except ModelError (List Variant)
  | 0, _, found, _ => .ok found.reverse
  | _, _, found, [] => .ok found.reverse
  | fuel + 1, visited, found, id :: pending =>
      if visited.contains id then model.visitVariants root hierarchy fuel visited found pending
      else do
        let object ← model.objectFor id root
        let value := object.variantValue
        let name := Naming.typeName object.name
        match found.find? (·.value == value) with
        | some first =>
            .error (.duplicateDiscriminator hierarchy value first.typeName name)
        | none =>
            model.visitVariants root hierarchy fuel (id :: visited) (⟨id, name, value⟩ :: found)
              (object.derived ++ pending)

/-- All links from objects to the schemas derived from them. -/
def derivedLinks (model : Model) : List SchemaId :=
  model.schemas.flatMap fun (_, schema) =>
    match schema with
    | .object object => object.derived
    | _ => []

/-- The variants below a root. Each link is followed at most once, which bounds the visits. -/
def variants (model : Model) (root : SchemaId) (object : ObjectType) :
    Except ModelError (List Variant) :=
  model.visitVariants root object.name (object.derived.length + model.derivedLinks.length + 1)
    [root] [] object.derived

end ApiContract.Model
