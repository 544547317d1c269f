import ApiContract.Proofs.Json.Steps
import ApiContract.Proofs.Plan.References
import ApiContract.Proofs.Value.Failures

/-!
How writing and reading JSON can fail. A plan is grounded if it belongs to JSON and everything it
refers to has a plan. In a model that plans all its objects the plan of every schema is grounded,
each step goes from a grounded plan to grounded plans, and so a run fails by its value or document
only.
-/

namespace ApiContract

/-- Every object has a JSON plan. -/
def Model.PlansObjects (model : Model) : Prop :=
  ∀ id, model.IsObject id → ∃ plan, model.planOf id .json = .ok plan

namespace JsonForm

open Planning

variable {model : Model}

/-- A plan of this format, all references of which have plans. -/
structure Grounded (model : Model) (plan : WirePlan) : Prop where
  format : plan.format = some .json
  planned : ∀ schema ∈ plan.references, ∃ nested, model.planOf schema .json = .ok nested

theorem planOf_format {id : SchemaId} {plan : WirePlan} (planned : model.planOf id .json = .ok plan) :
    plan.format = some .json := by
  cases Model.plannedAs_of_planOf planned <;> rfl

theorem grounded_of_planned (plans : model.PlansObjects) {id : SchemaId} {plan : WirePlan}
    (planned : model.planOf id .json = .ok plan) : Grounded model plan where
  format := planOf_format planned
  planned schema refers := plans schema (Model.planOf_references planned schema refers)

theorem Grounded.value {plan : WirePlan} (grounded : Grounded model plan) {part : ValuePlan}
    (within : part.references ⊆ plan.references) : Grounded model (.value part) where
  format := rfl
  planned schema refers := grounded.planned schema (within refers)

theorem ObjectPlan.property_references {plan : ObjectPlan} {property : PropertyPlan}
    (member : property ∈ plan.properties) : property.value.references ⊆ plan.references :=
  fun _ refers => List.mem_flatMap.mpr ⟨property, member, refers⟩

/-- A plan that is referred to is there, and grounded. -/
theorem nestedPlan_grounded (plans : model.PlansObjects) {plan : WirePlan}
    (grounded : Grounded model plan) {schema : SchemaId} (refers : schema ∈ plan.references) :
    ∃ nested, (nestedPlan model schema .json).fresh = .ok nested ∧ Grounded model nested := by
  obtain ⟨nested, planned⟩ := grounded.planned schema refers
  exact ⟨nested, nestedPlan_eq_ok.mpr planned, grounded_of_planned plans planned⟩

/-- A run through the plan of an object that is referred to fails in no other way than the runs
through grounded plans do. -/
theorem nested_failsOnly {α : Type} {ways : ValueError → Prop} (plans : model.PlansObjects)
    {plan : WirePlan} (grounded : Grounded model plan) {schema : SchemaId}
    (refers : schema ∈ plan.references) {act : WirePlan → Planning ValueError α}
    (each : ∀ nested, Grounded model nested → FailsOnly ways (act nested).fresh) :
    FailsOnly ways (nestedPlan model schema .json >>= act).fresh := by
  obtain ⟨nested, found, grounded'⟩ := nestedPlan_grounded plans grounded refers
  rw [fresh_bind, found]
  exact each nested grounded'

section Writing
variable {writeValue : ValuePlan → Value → Planning ValueError Json} {ways : ValueError → Prop}

variable {plan : WirePlan} {object : ObjectPlan} {fields : List (String × Value)}

end Writing

theorem HierarchyPlan.base_references (hierarchy : HierarchyPlan) :
    hierarchy.base.references ⊆ (WirePlan.hierarchy hierarchy).references :=
  List.subset_append_left _ _

theorem readProperty_failsOnly {readValue : ValuePlan → Json → Except ValueError Value}
    {ways : ValueError → Prop} {typeName : String} {members : List (String × Json)}
    {property : PropertyPlan} (missing : ways (.missingProperty typeName property.name))
    (each : ∀ document, FailsOnly ways (readValue property.value document)) :
    FailsOnly ways (readProperty readValue typeName members property) := by
  rcases readProperty_cases members property with defaults | ⟨null, counts⟩ |
    ⟨document, present, notNull⟩
  · rw [readProperty_of_defaults defaults, readDefault]
    split
    next document _ => exact (each document).map some
    next =>
      split
      next => exact missing
      next => trivial
  · rw [readProperty, null, counts]
    trivial
  · rw [readProperty_of_member present notNull]
    exact (each document).map some

theorem readProperties_failsOnly {readValue : ValuePlan → Json → Planning ValueError Value}
    {ways : ValueError → Prop} {typeName : String} {members : List (String × Json)}
    {properties : List PropertyPlan} (missing : ∀ property, ways (.missingProperty typeName property))
    (each : ∀ property ∈ properties, ∀ document,
      FailsOnly ways (readValue property.value document).fresh) :
    FailsOnly ways (readProperties readValue typeName members properties).fresh := by
  induction properties with
  | nil => trivial
  | cons property rest ih =>
      have tail := ih fun other member => each other (List.mem_cons_of_mem _ member)
      rw [fresh_readProperties_cons]
      apply (readProperty_failsOnly (missing _) (each property List.mem_cons_self)).bind
      intro value _
      exact tail.bind fun _ _ => trivial

theorem readObject_failsOnly {readValue : ValuePlan → Json → Planning ValueError Value}
    {plan : WirePlan} (grounded : Grounded model plan) {object : ObjectPlan}
    (within : object.references ⊆ plan.references)
    (each : ∀ part, Grounded model (.value part) → ∀ document,
      FailsOnly ValueError.OfValue (readValue part document).fresh)
    (members : List (String × Json)) :
    FailsOnly ValueError.OfValue (readObject readValue object members).fresh := by
  rw [readObject, fresh_bind]
  refine FailsOnly.bind ?_ fun _ _ => trivial
  apply readProperties_failsOnly (fun _ => trivial)
  intro property member document
  apply each
  exact grounded.value (List.Subset.trans (ObjectPlan.property_references member) within)

/-- Reading through a grounded plan fails by the document only. -/
theorem readWithin_failsOnly (plans : model.PlansObjects) {fuel : Nat} {plan : WirePlan}
    (grounded : Grounded model plan) (document : Json) :
    FailsOnly ValueError.OfValue (readWithin model fuel plan document).fresh := by
  induction fuel generalizing plan document with
  | zero => trivial
  | succ fuel ih =>
      have each : ∀ part, Grounded model (.value part) → ∀ document, FailsOnly ValueError.OfValue
          (readWithin model fuel (.value part) document).fresh := fun _ part document => ih part document
      cases plan with
      | object object =>
          cases document with
          | object members => exact readObject_failsOnly grounded (List.Subset.refl _) each members
          | _ => trivial
      | hierarchy hierarchy =>
          have base := readObject_failsOnly grounded (HierarchyPlan.base_references hierarchy) each
          cases document with
          | object members =>
              simp only [readWithin]
              split
              next selector _ =>
                split
                next choice chosen =>
                  apply nested_failsOnly plans grounded
                    (HierarchyPlan.refers (List.mem_of_find?_eq_some chosen))
                  intro nested grounded'
                  rw [fresh_bind]
                  exact (ih grounded' (.object members)).bind fun _ _ => trivial
                next =>
                  rw [fresh_bind]
                  exact (base members).bind fun _ _ => trivial
              next => exact base members
          | _ => trivial
      | value part =>
          cases part with
          | scalar kind => exact (Scalar.ofJson_failsOnly kind document).ofValue
          | list element =>
              cases document with
              | array items =>
                  have part : Grounded model (.value element) := ⟨rfl, grounded.planned⟩
                  simp only [readWithin, fresh_bind, fresh_mapM]
                  exact (failsOnly_mapM items fun item _ => ih part item).bind fun _ _ => trivial
              | _ => trivial
          | dictionary entry =>
              cases document with
              | object members =>
                  have part : Grounded model (.value entry) := ⟨rfl, grounded.planned⟩
                  simp only [readWithin, fresh_bind, fresh_mapM]
                  refine FailsOnly.bind ?_ fun _ _ => trivial
                  apply failsOnly_mapM
                  exact fun item _ => (ih part item.2).bind fun _ _ => trivial
              | _ => trivial
          | reference schema =>
              apply nested_failsOnly plans grounded (List.mem_singleton.mpr rfl)
              exact fun nested grounded' => ih grounded' document
      | element element => cases grounded.format
      | raw format => cases grounded.format

end JsonForm

end ApiContract
