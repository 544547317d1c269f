import ApiContract.Code.EnumFile
import ApiContract.Code.HeaderFile
import ApiContract.Code.ObjectFile

/-!
The files of all models: one for each object, each enum, and each type of response headers.
-/

namespace ApiContract

namespace ModelFile

/-- The file of a schema that has one. -/
def ofSchema (model : Model) (asElements : List SchemaId) :
    SchemaId × Schema → Planning GenerationError (Option ModelFile)
  | (id, .object _) => do
      let file ← model.objectFile id (asElements.contains id)
      pure (some file)
  | (_, .enumeration type) => do
      let file ← type.file
      pure (some file)
  | _ => pure none

/-- The first header plan of each type name. -/
def distinctHeaders (seen : List String) : List HeaderPlan → List HeaderPlan
  | [] => []
  | plan :: rest =>
      if seen.contains plan.typeName then distinctHeaders seen rest
      else plan :: distinctHeaders (plan.typeName :: seen) rest

/-- The files of all objects and enums and of the header models, sorted by module. -/
def all (model : Model) (asElements : List SchemaId) (headers : List HeaderPlan) :
    Planning GenerationError (List ModelFile) := do
  let ofSchemas ← model.schemas.mapM (ofSchema model asElements)
  let ofHeaders ← (distinctHeaders [] headers).mapM fun plan => Planning.lift plan.file
  pure ((ofSchemas.filterMap id ++ ofHeaders).mergeSort fun a b => a.module ≤ b.module)

end ModelFile

end ApiContract
