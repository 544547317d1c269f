import ApiContract.Proofs.Plan.Roles

/-!
Which objects a JSON plan refers to. A plan is finite because it stops at objects, and what it stops
at is always an object: whatever else a schema can be is carried in place.
-/

namespace ApiContract

/-- The objects that a value plan refers to. -/
def ValuePlan.references : ValuePlan → List SchemaId
  | .scalar _ => []
  | .list element => element.references
  | .dictionary value => value.references
  | .reference schema => [schema]

def ObjectPlan.references (plan : ObjectPlan) : List SchemaId :=
  plan.properties.flatMap fun property => property.value.references

/-- The objects whose plans carry parts of the values of a plan, variants included. -/
def WirePlan.references : WirePlan → List SchemaId
  | .object plan => plan.references
  | .hierarchy plan => plan.base.references ++ plan.variants.map (·.schema)
  | .value plan => plan.references
  | .element _ | .raw _ => []

theorem HierarchyPlan.refers {plan : HierarchyPlan} {choice : VariantChoice}
    (listed : choice ∈ plan.variants) : choice.schema ∈ (WirePlan.hierarchy plan).references :=
  List.mem_append_right _ (List.mem_map_of_mem listed)

namespace Model

variable {model : Model}

def IsObject (model : Model) (id : SchemaId) : Prop :=
  ∃ object, model.schema? id = some (.object object)

theorem scalarKind_none {id : SchemaId} {referrer : String}
    (structured : model.scalarKind id referrer = .ok none) :
    ∃ schema, model.schemaFor id referrer = .ok schema ∧
      (schema.object?.isSome ∨ ∃ element, schema = .array element ∨ schema = .dictionary element) := by
  obtain ⟨schema, found, rest⟩ := bind_eq_ok structured
  refine ⟨schema, found, ?_⟩
  cases schema with
  | primitive kind format => cases kind <;> cases rest
  | framework => cases rest
  | enumeration type => cases rest
  | array element => exact .inr ⟨element, .inl rfl⟩
  | dictionary value => exact .inr ⟨value, .inr rfl⟩
  | object object => exact .inl rfl

theorem valuePlanWithin_references {fuel : Nat} {id : SchemaId} {referrer : String}
    {plan : ValuePlan} (planned : model.valuePlanWithin fuel id referrer = .ok plan) :
    ∀ schema ∈ plan.references, model.IsObject schema := by
  induction fuel generalizing id referrer plan with
  | zero => cases planned
  | succ fuel ih =>
      rw [valuePlanWithin] at planned
      obtain ⟨kind, found, rest⟩ := bind_eq_ok planned
      cases kind with
      | some kind =>
          cases rest
          intro schema member
          cases member
      | none =>
          obtain ⟨schema, present, shape⟩ := scalarKind_none found
          simp only [present, ok_bind] at rest
          rcases shape with isObject | ⟨element, same | same⟩
          · cases schema <;> cases isObject
            rename_i object
            cases rest
            intro schema member
            rw [List.mem_singleton.mp member]
            exact ⟨object, schemaFor_eq_ok present⟩
          · subst same
            obtain ⟨inner, innerPlanned, same⟩ := bind_eq_ok rest
            cases same
            intro schema member
            exact ih innerPlanned schema member
          · subst same
            obtain ⟨inner, innerPlanned, same⟩ := bind_eq_ok rest
            cases same
            intro schema member
            exact ih innerPlanned schema member

theorem objectPlan_references {id : SchemaId} {object : ObjectType} {discriminator : Option String}
    {plan : ObjectPlan} (planned : model.objectPlan id object discriminator = .ok plan) :
    ∀ schema ∈ plan.references, model.IsObject schema := by
  obtain ⟨inherited, -, rest⟩ := bind_eq_ok planned
  obtain ⟨properties, mapped, same⟩ := bind_eq_ok rest
  cases same
  intro schema member
  obtain ⟨property, inside, refers⟩ := List.mem_flatMap.mp member
  obtain ⟨declared, -, made⟩ := mem_of_mapM_eq_ok mapped inside
  exact valuePlanWithin_references (propertyPlan_eq_ok made).1 schema refers

/-- Whatever the plan of a schema refers to is an object. -/
theorem planOf_references {id : SchemaId} {plan : WirePlan}
    (planned : model.planOf id .json = .ok plan) :
    ∀ schema ∈ plan.references, model.IsObject schema := by
  intro schema member
  cases plannedAs_of_planOf planned with
  | value _ made => exact valuePlanWithin_references made schema member
  | plain _ _ _ objectPlanned | derived _ _ _ _ objectPlanned =>
      exact objectPlan_references objectPlanned schema member
  | base _ _ collected basePlanned =>
      rcases List.mem_append.mp member with inBase | inVariants
      · exact objectPlan_references basePlanned schema inBase
      · obtain ⟨choice, listed, refers⟩ := List.mem_map.mp inVariants
        obtain ⟨variant, inside, same⟩ := List.mem_map.mp listed
        obtain ⟨stands, presentVariant, -⟩ :=
          visitVariants_stands collected (by simp) variant inside
        rw [← refers, ← same]
        exact ⟨stands, presentVariant⟩

/-- The plan of an object is that of an object or of a hierarchy. -/
theorem IsObject.planOf_shape {id : SchemaId} (isObject : model.IsObject id) {plan : WirePlan}
    (planned : model.planOf id .json = .ok plan) :
    (∃ shape, plan = .object shape) ∨ ∃ inner, plan = .hierarchy inner := by
  obtain ⟨object, present⟩ := isObject
  cases plannedAs_of_planOf planned with
  | value other _ =>
      rw [present] at other
      cases other
  | plain | derived => exact .inl ⟨_, rfl⟩
  | base => exact .inr ⟨_, rfl⟩

theorem IsObject.planOf_ne_value {id : SchemaId} (isObject : model.IsObject id) {plan : WirePlan}
    (planned : model.planOf id .json = .ok plan) (value : ValuePlan) : plan ≠ .value value := by
  rintro rfl
  rcases isObject.planOf_shape planned with ⟨shape, same⟩ | ⟨inner, same⟩ <;> cases same

end Model

/-- The properties that a plan carries itself, those of the base for a hierarchy. -/
def WirePlan.properties : WirePlan → List PropertyPlan
  | .object plan => plan.properties
  | .hierarchy plan => plan.base.properties
  | _ => []

namespace Model

variable {model : Model}

theorem collectBases_known {start : SchemaId} {fuel : Nat} {visited : List SchemaId}
    {current : SchemaId} {objects : List ObjectType}
    (collected : model.collectBases start fuel visited current = .ok objects) :
    ∀ object ∈ objects, ∃ id, model.schema? id = some (.object object) := by
  induction fuel generalizing visited current objects with
  | zero =>
      cases collected
      simp
  | succ fuel ih =>
      rw [collectBases] at collected
      split at collected
      next =>
        cases collected
        simp
      next =>
        obtain ⟨object, found, rest⟩ := bind_eq_ok collected
        have known : ∃ id, model.schema? id = some (.object object) := ⟨current, objectFor_eq_ok found⟩
        split at rest
        next =>
          obtain ⟨bases, collected', same⟩ := bind_eq_ok rest
          cases same
          intro other member
          rcases List.mem_cons.mp member with equal | later
          · exact equal ▸ known
          · exact ih collected' other later
        next =>
          cases rest
          intro other member
          exact List.mem_singleton.mp member ▸ known

/-- Inherited properties are declared by objects of the model. -/
theorem inheritedProperties_declared {id : SchemaId} {properties : List Property}
    (inherited : model.inheritedProperties id = .ok properties) {property : Property}
    (member : property ∈ properties) :
    ∃ owner object, model.schema? owner = some (.object object) ∧ property ∈ object.properties := by
  obtain ⟨bases, collected, same⟩ := bind_eq_ok inherited
  cases same
  obtain ⟨object, listed, inside⟩ := List.mem_flatMap.mp member
  obtain ⟨owner, present⟩ := collectBases_known collected object (List.mem_reverse.mp listed)
  exact ⟨owner, object, present, inside⟩

theorem objectPlan_declared {id : SchemaId} {object : ObjectType} {discriminator : Option String}
    {plan : ObjectPlan} (planned : model.objectPlan id object discriminator = .ok plan)
    {property : PropertyPlan} (member : property ∈ plan.properties) :
    ∃ declared owner holder referrer, model.schema? owner = some (.object holder) ∧
      declared ∈ holder.properties ∧ model.propertyPlan referrer declared = .ok property := by
  obtain ⟨inherited, walked, rest⟩ := bind_eq_ok planned
  obtain ⟨properties, mapped, same⟩ := bind_eq_ok rest
  cases same
  obtain ⟨declared, kept, made⟩ := mem_of_mapM_eq_ok mapped member
  obtain ⟨owner, holder, present, inside⟩ :=
    inheritedProperties_declared walked (List.mem_filter.mp kept).1
  exact ⟨declared, owner, holder, _, present, inside, made⟩

/-- What a plan carries is planned from what the model declares. -/
theorem planOf_declared {id : SchemaId} {plan : WirePlan} (planned : model.planOf id .json = .ok plan)
    {property : PropertyPlan} (member : property ∈ plan.properties) :
    ∃ declared owner holder referrer, model.schema? owner = some (.object holder) ∧
      declared ∈ holder.properties ∧ model.propertyPlan referrer declared = .ok property := by
  cases plannedAs_of_planOf planned with
  | value => cases member
  | plain _ _ _ objectPlanned | derived _ _ _ _ objectPlanned | base _ _ _ objectPlanned =>
      exact objectPlan_declared objectPlanned member

/-- Who refers to a schema matters for messages only. -/
theorem valuePlanWithin_referrer {fuel : Nat} {id : SchemaId} {referrer : String} {plan : ValuePlan}
    (planned : model.valuePlanWithin fuel id referrer = .ok plan) (other : String) :
    model.valuePlanWithin fuel id other = .ok plan := by
  cases fuel with
  | zero => cases planned
  | succ fuel =>
      rw [valuePlanWithin, scalarKind] at planned ⊢
      obtain ⟨kind, found, rest⟩ := bind_eq_ok planned
      obtain ⟨schema, present, made⟩ := bind_eq_ok found
      have sameSchema := schemaFor_of_some (schemaFor_eq_ok present)
      simp only [sameSchema, ok_bind] at rest ⊢
      rw [made]
      exact rest

end Model

end ApiContract
