import ApiContract.Proofs.Generation.Run
import ApiContract.Proofs.Naming
import ApiContract.Proofs.Types.Variants

/-!
The names of generated files, and what they export. A file of a model is named after its module, and
the module after an object, an enum or the type of response headers, so it lies directly in its
folder. It exports this type, and beside the type of a hierarchy that of its base shape.
-/

namespace ApiContract

open Planning

variable {model : Model} {file : ModelFile}

theorem Model.objectFile_module {id : SchemaId} {asElement : Bool}
    (made : (model.objectFile id asElement).fresh = .ok file) :
    ∃ object, model.objectFor id id = .ok object ∧ file.module = Naming.fieldName object.name := by
  simp only [objectFile, fresh_bind, fresh_mapError, fresh_lift, bind_eq_ok_iff,
    mapError_eq_ok] at made
  obtain ⟨object, found, used, -, made⟩ := made
  refine ⟨object, found, ?_⟩
  have last : ∀ {code : Planning GenerationError Code} {exports : List String},
      (code >>= fun code => pure
        (⟨Naming.fieldName object.name, exports, code⟩ : ModelFile)).fresh = .ok file →
      file.module = Naming.fieldName object.name := by
    intro code exports made
    simp only [fresh_bind, fresh_pure, bind_eq_ok_iff, Except.ok.injEq] at made
    obtain ⟨text, -, same⟩ := made
    rw [← same]
  split at made
  next => exact last made
  next => exact last made
  next => exact last made
  next => cases made

/-- The type of the shape that no known variant of a hierarchy has. -/
def Model.baseType (name : String) : String := Naming.typeName name ++ "Base"

/-- An object is resolved as the base of a hierarchy exactly where it declares a discriminator. -/
theorem Model.resolve_object {id : SchemaId} {object : ObjectType} {used : TypeUse}
    (present : model.schema? id = some (.object object))
    (resolved : (model.resolve id).fresh = .ok used) :
    ∃ role, used.type = .model (Naming.typeName object.name) id role ∧
      ((∃ discriminator variants, role = .base discriminator variants) ↔
        object.discriminator.isSome = true) := by
  rw [fresh_resolve, typeOf, fresh_resolveWithin_succ] at resolved
  obtain ⟨type, computed, rfl⟩ := map_eq_ok resolved
  simp only [computeType, schemaFor, present, liftM_ok_bind, fresh_bind] at computed
  obtain ⟨role, ofRole, same⟩ := bind_eq_ok computed
  cases same
  refine ⟨role, rfl, ?_⟩
  rw [roleOf] at ofRole
  cases declared : object.discriminator with
  | some discriminator =>
      simp only [declared, fresh_bind] at ofRole
      obtain ⟨variants, -, same⟩ := bind_eq_ok ofRole
      cases same
      exact ⟨fun _ => rfl, fun _ => ⟨_, _, rfl⟩⟩
  | none =>
      simp only [declared, fresh_bind] at ofRole
      obtain ⟨root, -, ofRole⟩ := bind_eq_ok ofRole
      cases root with
      | none =>
          cases ofRole
          simp
      | some root =>
          dsimp only at ofRole
          rw [fresh_bind] at ofRole
          obtain ⟨_, -, same⟩ := bind_eq_ok ofRole
          cases same
          simp

/-- The file of an object exports its type, and the base shape of a hierarchy. -/
theorem Model.objectFile_exports {id : SchemaId} {asElement : Bool} {file : ModelFile}
    (made : (model.objectFile id asElement).fresh = .ok file) :
    ∃ object, model.objectFor id id = .ok object ∧ file.exports = Naming.typeName object.name ::
      if object.discriminator.isSome then [baseType object.name] else [] := by
  simp only [objectFile, fresh_bind, fresh_mapError, fresh_lift, bind_eq_ok_iff,
    mapError_eq_ok] at made
  obtain ⟨object, found, used, resolved, made⟩ := made
  refine ⟨object, found, ?_⟩
  obtain ⟨role, isModel, isBase⟩ := resolve_object (objectFor_eq_ok found) resolved
  have exported : ∀ {code : Planning GenerationError Code} {exports : List String},
      (code >>= fun code => pure
        (⟨Naming.fieldName object.name, exports, code⟩ : ModelFile)).fresh = .ok file →
      file.exports = exports := by
    intro code exports made
    simp only [fresh_bind, fresh_pure, bind_eq_ok_iff, Except.ok.injEq] at made
    obtain ⟨text, -, same⟩ := made
    rw [← same]
  rw [isModel] at made
  cases role with
  | plain =>
      have below : object.discriminator.isSome ≠ true := fun declared => by
        obtain ⟨_, _, same⟩ := isBase.mpr declared
        cases same
      rw [exported made, if_neg below]
  | derived base value =>
      have below : object.discriminator.isSome ≠ true := fun declared => by
        obtain ⟨_, _, same⟩ := isBase.mpr declared
        cases same
      rw [exported made, if_neg below]
  | base discriminator variants =>
      rw [exported made, if_pos (isBase.mp ⟨_, _, rfl⟩)]
      rfl

theorem EnumType.file_module {type : EnumType} (made : type.file = .ok file) :
    file.module = Naming.fieldName type.name := by
  simp only [EnumType.file, bind_eq_ok_iff, pure_eq_ok] at made
  obtain ⟨members, -, same⟩ := made
  rw [← same]

theorem HeaderPlan.file_module {plan : HeaderPlan} (made : plan.file = .ok file) :
    file.module = Naming.fieldName plan.typeName := by
  simp only [HeaderPlan.file, bind_eq_ok_iff, pure_eq_ok] at made
  obtain ⟨fields, -, same⟩ := made
  rw [← same]

theorem EnumType.file_exports {type : EnumType} {file : ModelFile} (made : type.file = .ok file) :
    file.exports = [Naming.typeName type.name] := by
  simp only [EnumType.file, bind_eq_ok_iff, pure_eq_ok] at made
  obtain ⟨members, -, same⟩ := made
  rw [← same]

theorem HeaderPlan.file_exports {plan : HeaderPlan} {file : ModelFile}
    (made : plan.file = .ok file) : file.exports = [plan.typeName] := by
  simp only [HeaderPlan.file, bind_eq_ok_iff, pure_eq_ok] at made
  obtain ⟨fields, -, same⟩ := made
  rw [← same]

/-- Headers have a file where their fields have types that can be written. -/
theorem HeaderPlan.exists_file {plan : HeaderPlan}
    (typed : ∀ binding ∈ plan.fields, ∃ code, binding.type.type.code = .ok code) :
    ∃ file, plan.file = .ok file ∧ file.exports = [plan.typeName] := by
  have each : ∀ binding ∈ plan.fields, ∃ part, HeaderPlan.fieldCode binding = .ok part := by
    intro binding member
    obtain ⟨code, made⟩ := typed binding member
    exact ⟨_, by rw [HeaderPlan.fieldCode, made]; rfl⟩
  obtain ⟨fields, mapped⟩ := exists_mapM_eq_ok each
  rw [HeaderPlan.file, mapped, ok_bind]
  exact ⟨_, rfl, rfl⟩

theorem ModelFile.distinctHeaders_subset {seen : List String} {plans : List HeaderPlan} :
    distinctHeaders seen plans ⊆ plans := by
  induction plans generalizing seen with
  | nil => exact List.Subset.refl _
  | cons plan rest ih =>
      rw [distinctHeaders]
      split
      next => exact List.subset_cons_of_subset _ ih
      next => exact List.cons_subset_cons _ ih

/-- Files that come in the order of their modules are left in it. -/
theorem ModelFile.all_of_ordered {asElements : List SchemaId} {headers : List HeaderPlan}
    {ofSchemas : List (Option ModelFile)} {ofHeaders : List ModelFile}
    (schemas : model.schemas.mapM (fun entry => (ofSchema model asElements entry).fresh) =
      .ok ofSchemas)
    (plans : (distinctHeaders [] headers).mapM HeaderPlan.file = .ok ofHeaders)
    (ordered : ((ofSchemas.filterMap id ++ ofHeaders).map ModelFile.module).Pairwise (· ≤ ·)) :
    (all model asElements headers).fresh = .ok (ofSchemas.filterMap id ++ ofHeaders) := by
  have sorted : (ofSchemas.filterMap id ++ ofHeaders).Pairwise
      fun a b => decide (a.module ≤ b.module) = true := by
    simpa only [List.pairwise_map, decide_eq_true_eq] using ordered
  simp only [all, fresh_bind, fresh_mapM, fresh_lift, schemas, ok_bind, plans]
  change Except.ok ((ofSchemas.filterMap id ++ ofHeaders).mergeSort
    fun a b => decide (a.module ≤ b.module)) = _
  rw [List.mergeSort_of_pairwise sorted]

/-- Every model file is named after a module that a name has made. -/
theorem ModelFile.all_modules {asElements : List SchemaId} {headers : List HeaderPlan}
    {files : List ModelFile} (made : (ModelFile.all model asElements headers).fresh = .ok files) :
    ∀ file ∈ files, ∃ name, file.module = Naming.fieldName name := by
  simp only [ModelFile.all, fresh_bind, fresh_mapM, fresh_lift, bind_eq_ok_iff] at made
  obtain ⟨ofSchemas, schemas, ofHeaders, plans, same⟩ := made
  cases same
  intro file member
  rw [List.mem_mergeSort, List.mem_append, List.mem_filterMap] at member
  rcases member with ⟨_, listed, rfl⟩ | listed
  · obtain ⟨⟨id, schema⟩, -, written⟩ := mem_of_mapM_eq_ok schemas listed
    rw [ofSchema.eq_def] at written
    split at written
    next =>
      rw [fresh_bind] at written
      obtain ⟨object, ofObject, same⟩ := bind_eq_ok written
      cases same
      obtain ⟨type, -, named⟩ := Model.objectFile_module ofObject
      exact ⟨type.name, named⟩
    next _ type _ =>
      rw [fresh_bind] at written
      obtain ⟨enum, ofEnum, same⟩ := bind_eq_ok written
      cases same
      exact ⟨type.name, EnumType.file_module ofEnum⟩
    next => cases written
  · obtain ⟨plan, -, written⟩ := mem_of_mapM_eq_ok plans listed
    exact ⟨plan.typeName, HeaderPlan.file_module written⟩

end ApiContract
