import ApiContract.Proofs.Generation.Sketches

/-!
What a library exports. The index of the models exports the type of each object, of each enum and of
each model of response headers, and beside the type of a hierarchy that of its base shape; the root
exports the clients of the groups where they are public. Files are kept apart by their modules, not
by their types. Where the words of all names begin with letters, types tell modules, so no two
exports are the same, and a model that asks for the same type twice is refused.
-/

namespace ApiContract

open Planning

variable {model : Model} {configuration : Configuration} {policy : GroupingPolicy}
  {formatter : Formatter} {made : List Artifact}

namespace Model

/-- The names of objects and enums, in the order of their schemas. -/
def schemaNames (model : Model) : List String := model.schemas.filterMap model.fileSubject?

/-- The name of an object that declares a discriminator, which has a base shape beside its type. -/
def baseSubject? (model : Model) : SchemaId × Schema → Option String
  | (id, .object _) => ((model.schema? id).bind Schema.object?).bind fun object =>
      if object.discriminator.isSome then some object.name else none
  | _ => none

def baseTypes (model : Model) : List String :=
  (model.schemas.filterMap model.baseSubject?).map baseType

/-- The types of objects and enums, and those of response headers, each of these once. -/
def plainTypes (model : Model) : List String :=
  model.schemaNames.map Naming.typeName ++ model.headerTypes

def exportedTypes (model : Model) : List String := model.plainTypes ++ model.baseTypes

/-- The clients of the groups of operations. -/
def clientNames (model : Model) (policy : GroupingPolicy) : List String :=
  (Grouping.partition policy model.operations).map OperationGroup.clientName

/-- Names whose words begin with letters throughout, response headers whose type has the module of
their name, and base shapes under names that nothing else bears. -/
structure Regular (model : Model) (policy : GroupingPolicy) : Prop where
  schemas : ∀ name ∈ model.schemaNames, Text.Lettered name
  headers : ∀ operation ∈ model.operations, ∀ response ∈ operation.responses,
    ∀ headers ∈ response.headers, Text.Lettered headers.name ∧
      Naming.fieldName (Naming.typeName headers.name) = Naming.fieldName headers.name
  bases : ∀ base ∈ model.baseTypes, base ∉ model.plainTypes
  keys : ∀ group ∈ Grouping.partition policy model.operations, group.key ≠ "" →
    Text.Lettered group.key

end Model

namespace ModelFile

theorem ofSchema_exports {asElements : List SchemaId} {entry : SchemaId × Schema}
    {file : Option ModelFile} (made : (ofSchema model asElements entry).fresh = .ok file) :
    file.toList.flatMap ModelFile.exports =
      ((model.fileSubject? entry).map Naming.typeName).toList ++
        ((model.baseSubject? entry).map Model.baseType).toList := by
  obtain ⟨id, schema⟩ := entry
  cases schema with
  | object type =>
      rw [ofSchema, fresh_bind] at made
      obtain ⟨written, ofObject, same⟩ := bind_eq_ok made
      cases same
      obtain ⟨object, found, exported⟩ := Model.objectFile_exports ofObject
      cases declared : object.discriminator <;>
        simp [Model.fileSubject?, Model.baseSubject?, Model.objectFor_eq_ok found, Schema.object?,
          exported, declared]
  | enumeration type =>
      rw [ofSchema, fresh_bind] at made
      obtain ⟨written, ofEnum, same⟩ := bind_eq_ok made
      cases same
      simp [Model.fileSubject?, Model.baseSubject?, EnumType.file_exports ofEnum]
  | _ =>
      cases made
      rfl

/-- The files of models export the types of the objects, the enums and the headers, and the base
shapes. -/
theorem all_exports_perm {asElements : List SchemaId} {headers : List HeaderPlan}
    {files : List ModelFile} (made : (all model asElements headers).fresh = .ok files)
    (typed : ∀ name, name ∈ headers.map HeaderPlan.typeName ↔ name ∈ model.headerTypes) :
    (files.flatMap ModelFile.exports).Perm model.exportedTypes := by
  simp only [all, fresh_bind, fresh_mapM, fresh_lift, bind_eq_ok_iff] at made
  obtain ⟨ofSchemas, schemas, ofHeaders, plans, same⟩ := made
  cases same
  apply ((List.mergeSort_perm _ _).flatMap_right ModelFile.exports).trans
  have ofSubjects : ((ofSchemas.filterMap id).flatMap ModelFile.exports).Perm
      (model.schemaNames.map Naming.typeName ++ model.baseTypes) := by
    have each := flatMap_of_mapM_eq_ok (fun _ _ _ made => ofSchema_exports made) schemas
    rw [List.filterMap_eq_flatMap_toList, List.flatMap_assoc]
    simp only [id]
    rw [each, Model.schemaNames, Model.baseTypes, List.map_filterMap, List.map_filterMap,
      List.filterMap_eq_flatMap_toList, List.filterMap_eq_flatMap_toList]
    exact (List.flatMap_append_perm _ _ _).symm
  have ofTypes : ofHeaders.flatMap ModelFile.exports =
      (distinctHeaders [] headers).map HeaderPlan.typeName := by
    rw [flatMap_of_mapM_eq_ok (fun _ _ _ made => HeaderPlan.file_exports made) plans,
      List.map_eq_flatMap]
  rw [List.flatMap_append, ofTypes, Model.exportedTypes, Model.plainTypes, List.append_assoc]
  apply (ofSubjects.append (distinctHeaders_perm typed)).trans
  rw [List.append_assoc]
  exact List.perm_append_comm.append_left _

end ModelFile

namespace Generation

/-- The exports of a run: the index of the models has the types that its model asks for and the root
the clients of the groups, each of these names once. -/
structure Exports (model : Model) (configuration : Configuration) (policy : GroupingPolicy)
    (formatter : Formatter) (made : List Artifact) : Prop where
  types : ∃ code text, formatter.format "models/mod.rs" (Code.render code) = .ok text ∧
    ⟨"models/mod.rs", text⟩ ∈ made ∧ code.exportedNames.Perm model.exportedTypes ∧
      code.exportedNames.Nodup
  clients : ∃ code text, formatter.format "lib.rs" (Code.render code) = .ok text ∧
    ⟨"lib.rs", text⟩ ∈ made ∧ code.exportedNames.Nodup ∧
      code.exportedNames = if configuration.publicClients then model.clientNames policy else []

theorem Passed.exports {stages : Stages} (passed : Passed model configuration policy stages)
    (types : model.exportedTypes.Nodup) (clients : (model.clientNames policy).Nodup)
    (written : artifacts model configuration formatter (stages.sources model configuration) =
      .ok made) : Exports model configuration policy formatter made where
  types := by
    obtain ⟨text, formatted, member⟩ := index_written written
    have exported := ModelFile.all_exports_perm passed.models (Model.plans_headerTypes passed.plans)
    rw [← ModelFile.index_exports] at exported
    exact ⟨_, text, formatted, member, exported, exported.nodup_iff.mpr types⟩
  clients := by
    obtain ⟨text, formatted, member⟩ := library_written written
    have exported := @Stages.library_exports model configuration stages
    rw [Grouping.group_eq_ok passed.groups, ← Model.clientNames] at exported
    refine ⟨_, text, formatted, member, ?_, exported⟩
    rw [exported]
    split
    next => exact clients
    next => exact List.nodup_nil

/-- A hierarchy, and two operations that answer with headers of one type. -/
def kennel : Sketch where
  objects := [{ id := "Pet", name := "Pet", discriminator := "kind" }]
  replies := [⟨"find", "Receipt"⟩, ⟨"list", "receipt"⟩]

end Generation

end ApiContract
