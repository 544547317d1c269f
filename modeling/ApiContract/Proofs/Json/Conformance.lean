import ApiContract.Proofs.Plan.References
import ApiContract.Proofs.Value.Entries
import ApiContract.Proofs.Value.Scalar
import ApiContract.Value.JsonForm

/-!
Which plans a plan leads to, and which values conform to a plan. Conformance follows references
through the plans of the model, so it says of a value of a recursive schema what it says of a flat
one.
-/

namespace ApiContract

namespace JsonForm

/-- The objects that a plan leads to in one step or in several. -/
inductive Reachable (model : Model) (root : WirePlan) : SchemaId → Prop
  | direct {schema : SchemaId} : schema ∈ root.references → Reachable model root schema
  | next {schema linked : SchemaId} {plan : WirePlan} : Reachable model root schema →
      model.planOf schema .json = .ok plan → linked ∈ plan.references →
      Reachable model root linked

/-- Pairwise distinct names, and pairwise distinct wire names. -/
def Distinct (plan : ObjectPlan) : Prop :=
  (plan.properties.map (·.name)).Nodup ∧ (plan.properties.map (·.wireName)).Nodup

instance (plan : ObjectPlan) : Decidable (Distinct plan) := inferInstanceAs (Decidable (_ ∧ _))

/-- Every variant that a hierarchy lists is resolved as derived from its root. -/
def Rooted (model : Model) (plan : HierarchyPlan) : Prop :=
  ∀ choice ∈ plan.variants, ∃ name value,
    model.typeOf choice.schema = .ok (.model name choice.schema (.derived plan.schema value))

/-- What is asked of one plan on its own. -/
def Tidy (model : Model) : WirePlan → Prop
  | .object plan => Distinct plan
  | .hierarchy plan => Distinct plan.base ∧ Rooted model plan
  | _ => True

/-- A schema has a JSON plan, all objects that the plan leads to have one, and all these plans are
tidy. -/
structure Planned (model : Model) (id : SchemaId) (plan : WirePlan) : Prop where
  made : model.planOf id .json = .ok plan
  tidy : Tidy model plan
  reached : ∀ schema, Reachable model plan schema →
    ∃ nested, model.planOf schema .json = .ok nested ∧ Tidy model nested

/-- The fields of a record are properties of its plan, each once; those that may be missing are the
optional ones without a default, and null stands where a property is required and nullable. -/
structure Shaped (plan : ObjectPlan) (fields : List (String × Value)) : Prop where
  sorted : SortedKeys fields
  planned : ∀ name ∈ fields.map (·.1), name ∈ plan.properties.map (·.name)
  absent : ∀ property ∈ plan.properties, fields.lookup property.name = none →
    property.required = false ∧ property.default = none
  null : ∀ property ∈ plan.properties, fields.lookup property.name = some .null →
    property.required = true ∧ property.nullable = true
  raw : ∀ property ∈ plan.properties, fields.lookup property.name ≠ some (.json .null)

/-- The values that a plan carries without loss. A value under a hierarchy is a variant of it, a
variant of unknown kind in the shape of the base, or a plain record of that shape. -/
inductive Conforms (model : Model) : WirePlan → Value → Prop
  | scalar {kind : ScalarKind} {value : Value} : Scalar.FitsJson kind value →
      Conforms model (.value (.scalar kind)) value
  | list {element : ValuePlan} {items : List Value} :
      (∀ item ∈ items, Conforms model (.value element) item) →
      Conforms model (.value (.list element)) (.list items)
  | dictionary {entry : ValuePlan} {entries : List (String × Value)} : SortedKeys entries →
      (∀ item ∈ entries, Conforms model (.value entry) item.2) →
      Conforms model (.value (.dictionary entry)) (.map entries)
  | reference {schema : SchemaId} {plan : WirePlan} {value : Value} :
      model.planOf schema .json = .ok plan → Conforms model plan value →
      Conforms model (.value (.reference schema)) value
  | object {plan : ObjectPlan} {fields : List (String × Value)} : Shaped plan fields →
      (∀ property ∈ plan.properties, ∀ value, fields.lookup property.name = some value →
        value ≠ .null → Conforms model (.value property.value) value) →
      Conforms model (.object plan) (.record fields)
  | variant {plan : HierarchyPlan} {choice : VariantChoice} {nested : WirePlan} {value : Value} :
      plan.variants.find? (·.value == choice.value) = some choice →
      model.planOf choice.schema .json = .ok nested → Conforms model nested value →
      Conforms model (.hierarchy plan) (.variant choice.value value)
  | unknown {plan : HierarchyPlan} {selector : String} {fields : List (String × Value)} :
      plan.variants.find? (·.value == selector) = none →
      Conforms model (.object plan.base) (.record fields) →
      Conforms model (.hierarchy plan) (.variant selector (.record fields))
  | base {plan : HierarchyPlan} {fields : List (String × Value)} :
      Conforms model (.object plan.base) (.record fields) →
      Conforms model (.hierarchy plan) (.record fields)

/-! What the plans of a model promise. -/

/-- The object that a choice selects writes the discriminator value by which it is selected. -/
def Selects (model : Model) (plan : HierarchyPlan) (choice : VariantChoice) : Prop :=
  ∀ nested, model.planOf choice.schema .json = .ok nested →
    ∃ object, nested = .object object ∧
      object.discriminator = some ⟨plan.discriminator, choice.value⟩

/-- Besides being tidy, a plan keeps its discriminator apart from all properties. -/
def Ready (model : Model) : WirePlan → Prop
  | .object plan => Distinct plan ∧ ∀ discriminator, plan.discriminator = some discriminator →
      ∀ property ∈ plan.properties, property.wireName ≠ discriminator.wireName
  | .hierarchy plan => Distinct plan.base ∧ plan.base.discriminator = none ∧
      (∀ property ∈ plan.base.properties, property.wireName ≠ plan.discriminator) ∧
      ∀ choice ∈ plan.variants, Selects model plan choice
  | _ => True

/-- What a hierarchy needs to be told apart from its base. -/
structure Based (plan : HierarchyPlan) : Prop where
  distinct : Distinct plan.base
  none : plan.base.discriminator = none
  apart : ∀ property ∈ plan.base.properties, property.wireName ≠ plan.discriminator

theorem Ready.based {model : Model} {plan : HierarchyPlan} (ready : Ready model (.hierarchy plan)) :
    Based plan :=
  ⟨ready.1, ready.2.1, ready.2.2.1⟩

theorem Based.base {model : Model} {plan : HierarchyPlan} (based : Based plan) :
    Ready model (.object plan.base) :=
  ⟨based.distinct, fun discriminator carries => by rw [based.none] at carries; cases carries⟩

theorem ready_of_tidy {model : Model} {id : SchemaId} {plan : WirePlan}
    (planned : model.planOf id .json = .ok plan) (tidy : Tidy model plan) : Ready model plan := by
  cases plan with
  | object plan => exact ⟨tidy, fun _ carries => Model.object_apart planned carries⟩
  | hierarchy plan =>
      obtain ⟨none, apart⟩ := Model.hierarchy_base planned
      refine ⟨tidy.1, none, apart, fun choice listed nested nestedPlanned => ?_⟩
      obtain ⟨name, value, derived⟩ := tidy.2 choice listed
      obtain ⟨object, same, carries, -⟩ :=
        Model.hierarchy_variant planned listed derived nestedPlanned
      exact ⟨object, same, carries⟩
  | _ => trivial

/-- All objects that a plan leads to are planned as objects, ready for both ways, if they are planned
at all. -/
structure Sound (model : Model) (plan : WirePlan) : Prop where
  ready : Ready model plan
  reached : ∀ schema, Reachable model plan schema → ∀ nested,
    model.planOf schema .json = .ok nested → Ready model nested ∧ ∀ value, nested ≠ .value value

theorem Reachable.mono {model : Model} {plan wider : WirePlan}
    (subset : plan.references ⊆ wider.references) {schema : SchemaId}
    (reachable : Reachable model plan schema) : Reachable model wider schema := by
  induction reachable with
  | direct member => exact .direct (subset member)
  | next _ planned member ih => exact .next ih planned member

theorem Reachable.through {model : Model} {plan nested : WirePlan} {linked : SchemaId}
    (member : linked ∈ plan.references) (planned : model.planOf linked .json = .ok nested)
    {schema : SchemaId} (reachable : Reachable model nested schema) :
    Reachable model plan schema := by
  induction reachable with
  | direct member' => exact .next (.direct member) planned member'
  | next _ planned' member' ih => exact .next ih planned' member'

theorem Reachable.isObject {model : Model} {id : SchemaId} {plan : WirePlan}
    (made : model.planOf id .json = .ok plan) {schema : SchemaId}
    (reachable : Reachable model plan schema) : model.IsObject schema := by
  cases reachable with
  | direct member => exact Model.planOf_references made schema member
  | next _ made' member => exact Model.planOf_references made' schema member

/-- Plans that are tidy wherever they exist are sound. -/
theorem sound_of_tidy {model : Model} {id : SchemaId} {plan : WirePlan}
    (made : model.planOf id .json = .ok plan) (tidy : Tidy model plan)
    (reached : ∀ schema, Reachable model plan schema → ∀ nested,
      model.planOf schema .json = .ok nested → Tidy model nested) : Sound model plan := by
  refine ⟨ready_of_tidy made tidy, fun schema reachable nested planned => ?_⟩
  exact ⟨ready_of_tidy planned (reached schema reachable nested planned),
    (reachable.isObject made).planOf_ne_value planned⟩

theorem Planned.sound {model : Model} {id : SchemaId} {plan : WirePlan}
    (planned : Planned model id plan) : Sound model plan := by
  apply sound_of_tidy planned.made planned.tidy
  intro schema reachable nested made
  obtain ⟨nested', made', tidy⟩ := planned.reached schema reachable
  rw [made] at made'
  cases made'
  exact tidy

/-- Parts of a plan lead to no more than the plan. -/
theorem Sound.part {model : Model} {plan part : WirePlan} (sound : Sound model plan)
    (ready : Ready model part) (subset : part.references ⊆ plan.references) : Sound model part :=
  ⟨ready, fun schema reachable => sound.reached schema (reachable.mono subset)⟩

theorem Sound.property {model : Model} {plan : ObjectPlan} (sound : Sound model (.object plan))
    {property : PropertyPlan} (member : property ∈ plan.properties) :
    Sound model (.value property.value) := by
  refine sound.part trivial fun schema refers => ?_
  exact List.mem_flatMap.mpr ⟨property, member, refers⟩

theorem Sound.linked {model : Model} {plan nested : WirePlan} {linked : SchemaId}
    (sound : Sound model plan) (member : linked ∈ plan.references)
    (planned : model.planOf linked .json = .ok nested) :
    Sound model nested ∧ ∀ value, nested ≠ .value value := by
  obtain ⟨ready, notValue⟩ := sound.reached linked (.direct member) nested planned
  exact ⟨⟨ready, fun schema reachable => sound.reached schema (reachable.through member planned)⟩,
    notValue⟩

end JsonForm

end ApiContract
