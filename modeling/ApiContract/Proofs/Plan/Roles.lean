import ApiContract.Proofs.Memo.Plans
import Mathlib.Data.List.Nodup

/-!
The JSON plans of objects, by their role. The plan of a hierarchy and the plans of its variants
agree on the discriminator: a variant writes under the wire name of its root the value by which the
root selects it, and no property of either has that wire name. The selectors of the variants are
pairwise distinct, so each finds its own.
-/

namespace ApiContract.Model

open Planning

variable {model : Model}

theorem schemaFor_eq_ok {id : SchemaId} {referrer : String} {schema : Schema}
    (found : model.schemaFor id referrer = .ok schema) : model.schema? id = some schema := by
  rw [schemaFor] at found
  split at found
  next schema' present => rw [present, Except.ok.inj found]
  next => cases found

theorem schemaFor_of_some {id : SchemaId} {schema : Schema} (present : model.schema? id = some schema)
    (referrer : String) : model.schemaFor id referrer = .ok schema := by
  simp [schemaFor, present]

theorem objectFor_eq_ok {id : SchemaId} {referrer : String} {object : ObjectType}
    (found : model.objectFor id referrer = .ok object) :
    model.schema? id = some (.object object) := by
  obtain ⟨schema, present, rest⟩ := bind_eq_ok found
  have schemaFound := schemaFor_eq_ok present
  cases schema <;> cases rest
  exact schemaFound

theorem propertyPlan_eq_ok {owner : String} {property : Property} {plan : PropertyPlan}
    (planned : model.propertyPlan owner property = .ok plan) :
    model.valuePlan property.schema (owner ++ "." ++ property.name) = .ok plan.value ∧
      plan.name = property.name ∧ plan.wireName = property.serializedName ∧
      plan.required = property.required ∧ plan.nullable = property.nullable ∧
      plan.default = property.defaultValue := by
  obtain ⟨value, valuePlanned, same⟩ := bind_eq_ok planned
  cases same
  exact ⟨valuePlanned, rfl, rfl, rfl, rfl, rfl⟩

theorem objectPlan_eq_ok {id : SchemaId} {object : ObjectType} {discriminator : Option String}
    {plan : ObjectPlan} (planned : model.objectPlan id object discriminator = .ok plan) :
    plan.schema = id ∧ plan.discriminator = none ∧
      ∀ property ∈ plan.properties, discriminator ≠ some property.wireName := by
  obtain ⟨inherited, -, rest⟩ := bind_eq_ok planned
  obtain ⟨properties, mapped, same⟩ := bind_eq_ok rest
  cases same
  refine ⟨rfl, rfl, fun property member => ?_⟩
  obtain ⟨declared, inside, made⟩ := mem_of_mapM_eq_ok mapped member
  have wire := (propertyPlan_eq_ok made).2.2.1
  have kept := (List.mem_filter.mp inside).2
  rw [wire]
  simpa using kept

/-- A variant that stands for an object, under the value of that object. -/
def Stands (model : Model) (variant : Variant) : Prop :=
  ∃ object, model.schema? variant.schema = some (.object object) ∧
    variant.value = object.variantValue

theorem visitVariants_stands {root : SchemaId} {hierarchy : String} {fuel : Nat}
    {visited pending : List SchemaId} {found variants : List Variant}
    (collected : model.visitVariants root hierarchy fuel visited found pending = .ok variants)
    (sound : ∀ variant ∈ found, model.Stands variant) :
    ∀ variant ∈ variants, model.Stands variant := by
  have ended : ∀ {found' : List Variant},
      Except.ok (ε := ModelError) found'.reverse = .ok variants →
      (∀ variant ∈ found', model.Stands variant) → ∀ variant ∈ variants, model.Stands variant := by
    intro found' same sound' variant member
    rw [← Except.ok.inj same] at member
    exact sound' variant (List.mem_reverse.mp member)
  induction fuel generalizing visited found pending with
  | zero => exact ended collected sound
  | succ fuel ih =>
      cases pending with
      | nil => exact ended collected sound
      | cons id pending =>
          rw [visitVariants] at collected
          split at collected
          next => exact ih collected sound
          next =>
            obtain ⟨object, present, rest⟩ := bind_eq_ok collected
            dsimp only at rest
            split at rest
            next => cases rest
            next =>
              apply ih rest
              intro variant member
              rcases List.mem_cons.mp member with same | old
              · exact ⟨object, same ▸ objectFor_eq_ok present, same ▸ rfl⟩
              · exact sound variant old

/-- How the JSON plan of an object comes about. -/
theorem planOf_object_schema {id : SchemaId} {object : ObjectType} {plan : WirePlan}
    (present : model.schema? id = some (.object object))
    (planned : model.planOf id .json = .ok plan) :
    ∃ role, model.HasRole id object role ∧
      model.hierarchyPlan id object (Naming.typeName object.name) role = .ok plan := by
  rw [planOf_eq] at planned
  simp only [makePlan, jsonPlan, schemaFor_of_some present, liftM_ok_bind, fresh_bind,
    fresh_resolve] at planned
  obtain ⟨target, resolved, rest⟩ := bind_eq_ok planned
  obtain ⟨type, computed, same⟩ := map_eq_ok resolved
  obtain ⟨role, has, shape⟩ := typeOf_object present computed
  subst same
  subst shape
  exact ⟨role, has, rest⟩

/-- A schema that is no object is carried as a value. -/
theorem planOf_other_schema {id : SchemaId} {plan : WirePlan}
    (other : (model.schema? id).bind Schema.object? = none)
    (planned : model.planOf id .json = .ok plan) :
    ∃ value, plan = .value value ∧ model.valuePlan id id = .ok value := by
  rw [planOf_eq] at planned
  cases present : model.schema? id with
  | none =>
      simp only [makePlan, jsonPlan, schemaFor, present, liftM_error_bind] at planned
      cases planned
  | some schema =>
      cases schema with
      | object object => simp [present, Schema.object?] at other
      | _ =>
          simp only [makePlan, jsonPlan, schemaFor_of_some present, liftM_ok_bind, fresh_bind]
            at planned
          obtain ⟨value, made, same⟩ := bind_eq_ok planned
          exact ⟨value, (Except.ok.inj same).symm, made⟩

theorem planOf_schema {id : SchemaId} {plan : WirePlan} (planned : model.planOf id .json = .ok plan) :
    ∃ schema, model.schema? id = some schema := by
  cases present : model.schema? id with
  | some schema => exact ⟨schema, rfl⟩
  | none =>
      rw [planOf_eq] at planned
      simp only [makePlan, jsonPlan, schemaFor, present, liftM_error_bind] at planned
      cases planned

/-- How the JSON plan of a schema comes about: what is no object is carried as a value, an object by
its role in a hierarchy. -/
inductive PlannedAs (model : Model) (id : SchemaId) : WirePlan → Prop
  | value {plan : ValuePlan} : (model.schema? id).bind Schema.object? = none →
      model.valuePlan id id = .ok plan → PlannedAs model id (.value plan)
  | plain {object : ObjectType} {plan : ObjectPlan} :
      model.schema? id = some (.object object) → object.discriminator = none →
      model.hierarchyRoot id = .ok none → model.objectPlan id object none = .ok plan →
      PlannedAs model id (.object plan)
  | derived {object declared : ObjectType} {root : SchemaId} {plan : ObjectPlan} :
      model.schema? id = some (.object object) → object.discriminator = none →
      model.hierarchyRoot id = .ok (some root) → model.schema? root = some (.object declared) →
      model.objectPlan id object (some (declared.discriminator.getD "")) = .ok plan →
      PlannedAs model id (.object { plan with
        discriminator := some ⟨declared.discriminator.getD "", object.variantValue⟩ })
  | base {object : ObjectType} {discriminator : String} {variants : List Variant}
      {plan : ObjectPlan} : model.schema? id = some (.object object) →
      object.discriminator = some discriminator → model.variants id object = .ok variants →
      model.objectPlan id object (some discriminator) = .ok plan →
      PlannedAs model id (.hierarchy
        { schema := id
          typeName := Naming.typeName object.name
          discriminator
          base := plan
          variants := variants.map fun variant => ⟨variant.value, variant.schema⟩ })

theorem plannedAs_of_planOf {id : SchemaId} {plan : WirePlan}
    (planned : model.planOf id .json = .ok plan) : model.PlannedAs id plan := by
  cases present : (model.schema? id).bind Schema.object? with
  | none =>
      obtain ⟨value, rfl, valuePlanned⟩ := planOf_other_schema present planned
      exact .value present valuePlanned
  | some object =>
      obtain ⟨schema, found, isObject⟩ := Option.bind_eq_some_iff.mp present
      cases schema <;> cases isObject
      obtain ⟨role, has, made⟩ := planOf_object_schema found planned
      cases has with
      | plain declared walked =>
          obtain ⟨plain, objectPlanned, same⟩ := bind_eq_ok made
          cases same
          exact .plain found declared walked objectPlanned
      | derived declared walked _ =>
          obtain ⟨root, rootFound, rest⟩ := bind_eq_ok made
          obtain ⟨derived, objectPlanned, same⟩ := bind_eq_ok rest
          cases same
          exact .derived found declared walked (objectFor_eq_ok rootFound) objectPlanned
      | base declared collected =>
          obtain ⟨base, basePlanned, same⟩ := bind_eq_ok made
          cases same
          exact .base found declared collected basePlanned

/-- The plan of a hierarchy. -/
theorem planOf_hierarchy {id : SchemaId} {plan : HierarchyPlan}
    (planned : model.planOf id .json = .ok (.hierarchy plan)) :
    ∃ object variants, model.schema? id = some (.object object) ∧
      object.discriminator = some plan.discriminator ∧ model.variants id object = .ok variants ∧
      plan.schema = id ∧ model.objectPlan id object (some plan.discriminator) = .ok plan.base ∧
      plan.variants = variants.map fun variant => ⟨variant.value, variant.schema⟩ := by
  cases plannedAs_of_planOf planned with
  | base present declared collected basePlanned =>
      exact ⟨_, _, present, declared, collected, rfl, basePlanned, rfl⟩

/-- The shape to which a hierarchy falls back has no discriminator, neither of its own nor among
its properties. -/
theorem hierarchy_base {id : SchemaId} {plan : HierarchyPlan}
    (planned : model.planOf id .json = .ok (.hierarchy plan)) :
    plan.base.discriminator = none ∧
      ∀ property ∈ plan.base.properties, property.wireName ≠ plan.discriminator := by
  obtain ⟨object, variants, -, -, -, -, basePlanned, -⟩ := planOf_hierarchy planned
  obtain ⟨-, none, apart⟩ := objectPlan_eq_ok basePlanned
  exact ⟨none, fun property member same => apart property member (by rw [same])⟩

/-- No property of an object is written under the wire name of its discriminator. -/
theorem object_apart {id : SchemaId} {plan : ObjectPlan}
    (planned : model.planOf id .json = .ok (.object plan)) {discriminator : Discriminator}
    (carries : plan.discriminator = some discriminator) :
    ∀ property ∈ plan.properties, property.wireName ≠ discriminator.wireName := by
  cases plannedAs_of_planOf planned with
  | plain _ _ _ objectPlanned =>
      rw [(objectPlan_eq_ok objectPlanned).2.1] at carries
      cases carries
  | derived _ _ _ _ objectPlanned =>
      cases carries
      intro property inside equal
      exact (objectPlan_eq_ok objectPlanned).2.2 property inside (by rw [equal])

/-- The schema declares no discriminator itself, and the first object up its bases that declares one
declares this. -/
def DerivesFrom (model : Model) (wireName : String) (id : SchemaId) : Prop :=
  ∃ object root declared, model.schema? id = some (.object object) ∧ object.discriminator = none ∧
    model.hierarchyRoot id = .ok (some root) ∧ model.schema? root = some (.object declared) ∧
    declared.discriminator = some wireName

/-- What derives from a root is planned with its own value under the wire name of the root. -/
theorem DerivesFrom.plan {wireName : String} {id : SchemaId} (derives : model.DerivesFrom wireName id)
    {object : ObjectType} (present : model.schema? id = some (.object object)) {plan : WirePlan}
    (planned : model.planOf id .json = .ok plan) :
    ∃ nested, plan = .object nested ∧
      nested.discriminator = some ⟨wireName, object.variantValue⟩ ∧
      ∀ property ∈ nested.properties, property.wireName ≠ wireName := by
  obtain ⟨object', root, declared, present', undeclared, walked, rootPresent, declares⟩ := derives
  cases present.symm.trans present'
  cases plannedAs_of_planOf planned with
  | value other _ =>
      rw [present] at other
      cases other
  | base found declared' _ _ =>
      cases present.symm.trans found
      rw [undeclared] at declared'
      cases declared'
  | plain _ _ walked' _ =>
      rw [walked] at walked'
      cases walked'
  | derived found _ walked' rootFound nestedPlanned =>
      cases present.symm.trans found
      cases walked.symm.trans walked'
      cases rootFound.symm.trans rootPresent
      refine ⟨_, rfl, by simp [declares], fun property member equal => ?_⟩
      apply (objectPlan_eq_ok nestedPlanned).2.2 property member
      rw [declares, Option.getD_some, equal]

/-- A variant that derives from a root with the wire name of the hierarchy is planned with the
selector by which the hierarchy lists it. -/
theorem DerivesFrom.choice {id : SchemaId} {plan : HierarchyPlan}
    (planned : model.planOf id .json = .ok (.hierarchy plan)) {choice : VariantChoice}
    (listed : choice ∈ plan.variants) (derives : model.DerivesFrom plan.discriminator choice.schema)
    {nested : WirePlan} (nestedPlanned : model.planOf choice.schema .json = .ok nested) :
    ∃ object, nested = .object object ∧
      object.discriminator = some ⟨plan.discriminator, choice.value⟩ ∧
      ∀ property ∈ object.properties, property.wireName ≠ plan.discriminator := by
  obtain ⟨root, variants, -, -, collected, -, -, choices⟩ := planOf_hierarchy planned
  rw [choices] at listed
  obtain ⟨variant, member, rfl⟩ := List.mem_map.mp listed
  obtain ⟨object, present, selected⟩ := visitVariants_stands collected (by simp) variant member
  rw [selected]
  exact derives.plan present nestedPlanned

/-- A variant whose role is to be derived from the root carries the discriminator of the root, with
the value by which the root selects it. -/
theorem hierarchy_variant {id : SchemaId} {plan : HierarchyPlan}
    (planned : model.planOf id .json = .ok (.hierarchy plan)) {choice : VariantChoice}
    (listed : choice ∈ plan.variants) {name value : String}
    (derived : model.typeOf choice.schema = .ok (.model name choice.schema (.derived plan.schema value)))
    {nested : WirePlan} (nestedPlanned : model.planOf choice.schema .json = .ok nested) :
    ∃ object, nested = .object object ∧
      object.discriminator = some ⟨plan.discriminator, choice.value⟩ ∧
      ∀ property ∈ object.properties, property.wireName ≠ plan.discriminator := by
  obtain ⟨root, variants, rootPresent, declares, collected, same, -, choices⟩ :=
    planOf_hierarchy planned
  subst same
  obtain ⟨variant, member, equal⟩ := List.mem_map.mp (choices ▸ listed)
  obtain ⟨object, present, -⟩ := visitVariants_stands collected (by simp) variant member
  rw [← equal] at derived
  obtain ⟨role, has, shape⟩ := typeOf_object present derived
  cases (RustType.model.inj shape).2.2
  cases has with
  | derived undeclared walked resolved =>
      refine DerivesFrom.choice planned listed ?_ nestedPlanned
      rw [← equal]
      exact ⟨object, _, root, present, undeclared, walked, rootPresent, declares⟩

theorem visitVariants_nodup {root : SchemaId} {hierarchy : String} {fuel : Nat}
    {visited pending : List SchemaId} {found variants : List Variant}
    (collected : model.visitVariants root hierarchy fuel visited found pending = .ok variants)
    (nodup : (found.map (·.value)).Nodup) : (variants.map (·.value)).Nodup := by
  induction fuel generalizing visited found pending with
  | zero =>
      cases collected
      rwa [List.map_reverse, List.nodup_reverse]
  | succ fuel ih =>
      cases pending with
      | nil =>
          cases collected
          rwa [List.map_reverse, List.nodup_reverse]
      | cons id pending =>
          rw [visitVariants] at collected
          split at collected
          next => exact ih collected nodup
          next =>
            obtain ⟨object, -, rest⟩ := bind_eq_ok collected
            dsimp only at rest
            split at rest
            next => cases rest
            next unknown =>
              apply ih rest
              -- The value of the object is none of those found before.
              refine List.nodup_cons.mpr ⟨fun old => ?_, nodup⟩
              obtain ⟨variant, member, same⟩ := List.mem_map.mp old
              exact List.find?_eq_none.mp unknown variant member (beq_iff_eq.mpr same)

/-- A variant is found by its selector. -/
theorem find?_choice {id : SchemaId} {plan : HierarchyPlan}
    (planned : model.planOf id .json = .ok (.hierarchy plan)) {choice : VariantChoice}
    (listed : choice ∈ plan.variants) :
    plan.variants.find? (·.value == choice.value) = some choice := by
  obtain ⟨root, variants, -, -, collected, -, -, choices⟩ := planOf_hierarchy planned
  have nodup : (plan.variants.map (·.value)).Nodup := by
    rw [choices, List.map_map]
    exact visitVariants_nodup collected List.nodup_nil
  cases found : plan.variants.find? (·.value == choice.value) with
  | none => exact absurd (beq_self_eq_true _) (List.find?_eq_none.mp found choice listed)
  | some other =>
      have same : other.value = choice.value := by simpa using List.find?_some found
      have member := List.mem_of_find?_eq_some found
      rw [List.inj_on_of_nodup_map nodup member listed same]

end ApiContract.Model
