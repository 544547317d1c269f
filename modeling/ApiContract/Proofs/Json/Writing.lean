import ApiContract.Proofs.Json.Returns
import ApiContract.Proofs.Json.Steps
import ApiContract.Proofs.Value.Strict

/-!
What one step of writing does: which places it writes in turn, and how their documents stand in its
own. What is written for an object is an object again, with its discriminator in front.
-/

namespace ApiContract.JsonForm

open Planning

variable {model : Model}

/-- What a place is written as with so much fuel, on tables that are still empty. -/
def WritesWithin (model : Model) (fuel : Nat) (plan : WirePlan) (value : Value) (document : Json) :
    Prop :=
  (writeWithin model fuel plan value).fresh = .ok document

/-- The members of a record behind the first ones. -/
def WritesMembers (model : Model) (fuel : Nat) (plan : ObjectPlan) (fields : List (String × Value))
    (first members : List (String × Json)) : Prop :=
  (writeProperties (fun nested => writeWithin model fuel (.value nested)) plan.typeName fields first
    plan.properties).fresh = .ok members

/-- One step of writing; the places that it writes in turn have one step less. -/
inductive WriteStep (model : Model) (fuel : Nat) : WirePlan → Value → Json → Prop
  | scalar {kind : ScalarKind} {value : Value} {document : Json} :
      Scalar.toJson kind value = .ok document →
      WriteStep model fuel (.value (.scalar kind)) value document
  | list {element : ValuePlan} {items : List Value} {documents : List Json} :
      List.Forall₂ (WritesWithin model fuel (.value element)) items documents →
      WriteStep model fuel (.value (.list element)) (.list items) (.array documents)
  | dictionary {plan : ValuePlan} {entries : List (String × Value)}
      {members : List (String × Json)} :
      List.Forall₂ (fun entry member => WritesWithin model fuel (.value plan) entry.2 member.2)
        entries members →
      WriteStep model fuel (.value (.dictionary plan)) (.map entries) (.object members)
  | reference {schema : SchemaId} {nested : WirePlan} {value : Value} {document : Json} :
      model.planOf schema .json = .ok nested → WritesWithin model fuel nested value document →
      WriteStep model fuel (.value (.reference schema)) value document
  | object {plan : ObjectPlan} {fields : List (String × Value)} {members : List (String × Json)} :
      WritesMembers model fuel plan fields (opening plan) members →
      WriteStep model fuel (.object plan) (.record fields) (.object members)
  | unwrapped {plan : ObjectPlan} {selector : String} {value : Value} {document : Json} :
      WritesWithin model fuel (.object plan) value document →
      WriteStep model fuel (.object plan) (.variant selector value) document
  | variant {plan : HierarchyPlan} {selector : String} {choice : VariantChoice} {nested : WirePlan}
      {value : Value} {document : Json} :
      plan.variants.find? (·.value == selector) = some choice →
      model.planOf choice.schema .json = .ok nested → WritesWithin model fuel nested value document →
      WriteStep model fuel (.hierarchy plan) (.variant selector value) document
  | unknown {plan : HierarchyPlan} {selector : String} {fields : List (String × Value)}
      {members : List (String × Json)} : plan.variants.find? (·.value == selector) = none →
      WritesMembers model fuel plan.base fields [(plan.discriminator, .string selector)] members →
      WriteStep model fuel (.hierarchy plan) (.variant selector (.record fields)) (.object members)
  | base {plan : HierarchyPlan} {fields : List (String × Value)} {members : List (String × Json)} :
      WritesMembers model fuel plan.base fields (opening plan.base) members →
      WriteStep model fuel (.hierarchy plan) (.record fields) (.object members)

theorem writeObject_eq_ok {fuel : Nat} {plan : ObjectPlan} {fields : List (String × Value)}
    {document : Json}
    (written : (writeObject (fun nested => writeWithin model fuel (.value nested)) plan fields).fresh =
      .ok document) :
    ∃ members, document = .object members ∧
      WritesMembers model fuel plan fields (opening plan) members := by
  rw [writeObject, fresh_bind] at written
  obtain ⟨members, made, same⟩ := bind_eq_ok written
  cases same
  exact ⟨members, rfl, made⟩

theorem writeEntries_eq_ok {fuel : Nat} {plan : ValuePlan} {entries : List (String × Value)}
    {members : List (String × Json)}
    (written : (entries.mapM fun ((key, value) : String × Value) => do
      let document ← writeWithin model fuel (.value plan) value
      pure (key, document)).fresh = .ok members) :
    List.Forall₂ (fun entry member => WritesWithin model fuel (.value plan) entry.2 member.2)
      entries members := by
  rw [fresh_mapM] at written
  refine (mapM_eq_ok_iff.mp written).imp ?_
  rintro ⟨key, value⟩ member made
  rw [fresh_bind] at made
  obtain ⟨document, wrote, same⟩ := bind_eq_ok made
  cases same
  exact wrote

/-- A hierarchy writes the variant that is selected, an unknown one in the shape of its base, and a
plain record as its base. -/
theorem writeStep_of_hierarchy {fuel : Nat} {plan : HierarchyPlan} {value : Value} {document : Json}
    (written : (writeWithin model (fuel + 1) (.hierarchy plan) value).fresh = .ok document) :
    WriteStep model fuel (.hierarchy plan) value document := by
  cases value with
  | record fields =>
      obtain ⟨members, same, made⟩ := writeObject_eq_ok written
      exact same ▸ .base made
  | variant selector value =>
      simp only [writeWithin] at written
      split at written
      next choice chosen =>
        rw [fresh_bind] at written
        obtain ⟨nested, planned, wrote⟩ := bind_eq_ok written
        exact .variant chosen (nestedPlan_eq_ok.mp planned) wrote
      next unknown =>
        cases value with
        | record fields =>
            simp only [fresh_bind] at written
            obtain ⟨members, made, same⟩ := bind_eq_ok written
            cases same
            exact .unknown unknown made
        | _ => cases written
  | _ => cases written

theorem writeStep_of_value {fuel : Nat} {plan : ValuePlan} {value : Value} {document : Json}
    (written : (writeWithin model (fuel + 1) (.value plan) value).fresh = .ok document) :
    WriteStep model fuel (.value plan) value document := by
  cases plan with
  | scalar kind => exact .scalar written
  | list element =>
      cases value with
      | list items =>
          simp only [writeWithin, fresh_bind] at written
          obtain ⟨documents, made, same⟩ := bind_eq_ok written
          rw [fresh_mapM] at made
          cases same
          exact .list (mapM_eq_ok_iff.mp made)
      | _ => cases written
  | dictionary plan =>
      cases value with
      | map entries =>
          simp only [writeWithin, fresh_bind] at written
          obtain ⟨members, made, same⟩ := bind_eq_ok written
          cases same
          exact .dictionary (writeEntries_eq_ok made)
      | _ => cases written
  | reference schema =>
      simp only [writeWithin, fresh_bind] at written
      obtain ⟨nested, planned, wrote⟩ := bind_eq_ok written
      exact .reference (nestedPlan_eq_ok.mp planned) wrote

theorem WritesWithin.step {fuel : Nat} {plan : WirePlan} {value : Value} {document : Json}
    (written : WritesWithin model (fuel + 1) plan value document) :
    WriteStep model fuel plan value document := by
  rw [WritesWithin] at written
  cases plan with
  | object plan =>
      cases value with
      | record fields =>
          obtain ⟨members, same, made⟩ := writeObject_eq_ok written
          exact same ▸ .object made
      | variant selector value => exact .unwrapped written
      | _ => cases written
  | hierarchy plan => exact writeStep_of_hierarchy written
  | value plan => exact writeStep_of_value written
  | element plan => cases written
  | raw format => cases written

theorem WritesMembers.parts {fuel : Nat} {plan : ObjectPlan} {fields : List (String × Value)}
    {first members : List (String × Json)} (written : WritesMembers model fuel plan fields first members)
    (distinct : Distinct plan)
    (apart : ∀ property ∈ plan.properties, property.wireName ∉ first.map (·.1)) :
    ∃ made : PropertyPlan → Option Json,
      (∀ property ∈ plan.properties,
        Writes (fun nested => writeWithin model fuel (.value nested)) fields property (made property)) ∧
      members = first ++ entriesOf (·.wireName) made plan.properties :=
  ⟨_, writeProperties_eq_ok written distinct.2 apart⟩

theorem object_written {fuel : Nat} {plan : ObjectPlan} {value : Value} {document : Json}
    (ready : Ready model (.object plan)) (written : WritesWithin model fuel (.object plan) value document) :
    ∃ members, document = .object (opening plan ++ members) := by
  induction fuel generalizing value with
  | zero => cases written
  | succ fuel ih =>
      cases written.step with
      | object wrote =>
          obtain ⟨made, -, joined⟩ := wrote.parts ready.1 (opening_apart ready)
          exact ⟨_, by rw [joined]⟩
      | unwrapped wrote => exact ih wrote

/-! Plans of a model that tells names apart. -/

def DistinctIn : WirePlan → Prop
  | .object plan => Distinct plan
  | .hierarchy plan => Distinct plan.base
  | _ => True

def Consistent (model : Model) : Prop :=
  ∀ id plan, model.planOf id .json = .ok plan → DistinctIn plan

def Apart (model : Model) : WirePlan → Prop
  | .object plan => Ready model (.object plan)
  | .hierarchy plan => Based plan
  | _ => True

/-- A plan of the model, or a part of one. -/
structure Held (model : Model) (plan : WirePlan) : Prop where
  apart : Apart model plan
  objects : ∀ schema ∈ plan.references, model.IsObject schema

theorem Consistent.held (consistent : Consistent model) {id : SchemaId} {plan : WirePlan}
    (planned : model.planOf id .json = .ok plan) : Held model plan := by
  have distinct := consistent id plan planned
  refine ⟨?_, Model.planOf_references planned⟩
  cases plan with
  | object plan => exact ⟨distinct, fun _ carries => Model.object_apart planned carries⟩
  | hierarchy plan =>
      obtain ⟨none, apart⟩ := Model.hierarchy_base planned
      exact ⟨distinct, none, apart⟩
  | _ => trivial

theorem Held.part {plan part : WirePlan} (held : Held model plan) (apart : Apart model part)
    (subset : part.references ⊆ plan.references) : Held model part :=
  ⟨apart, fun schema refers => held.objects schema (subset refers)⟩

theorem Held.base {plan : HierarchyPlan} (held : Held model (.hierarchy plan)) :
    Held model (.object plan.base) :=
  held.part (@Based.base model _ held.apart) (List.subset_append_left _ _)

theorem Held.property {plan : ObjectPlan} (held : Held model (.object plan)) {property : PropertyPlan}
    (member : property ∈ plan.properties) : Held model (.value property.value) := by
  refine held.part trivial fun schema refers => ?_
  exact List.mem_flatMap.mpr ⟨property, member, refers⟩

/-- What is written for a plan of an object is an object. -/
theorem members_written (consistent : Consistent model) {fuel : Nat} {plan : WirePlan} {value : Value}
    {document : Json} (held : Held model plan) (structured : ∀ value, plan ≠ .value value)
    (written : WritesWithin model fuel plan value document) :
    ∃ members, document = .object members := by
  -- By induction on the fuel: a listed variant is planned as an object, or as a hierarchy of its own.
  induction fuel generalizing plan value with
  | zero => cases written
  | succ fuel ih =>
      cases written.step with
      | object | unknown | base => exact ⟨_, rfl⟩
      | unwrapped wrote => exact ih held structured wrote
      | variant chosen planned wrote =>
          have refers := HierarchyPlan.refers (List.mem_of_find?_eq_some chosen)
          have isObject := held.objects _ refers
          exact ih (consistent.held planned) (isObject.planOf_ne_value planned) wrote
      | _ => exact absurd rfl (structured _)

/-- Null is written for itself only. -/
theorem WritesWithin.raw (consistent : Consistent model) {fuel : Nat} {plan : ValuePlan} {value : Value}
    (held : Held model (.value plan)) (written : WritesWithin model fuel (.value plan) value .null) :
    value = .json .null := by
  cases fuel with
  | zero => cases written
  | succ fuel =>
      cases written.step with
      | scalar wrote => exact Scalar.raw_of_toJson wrote
      | reference planned wrote =>
          have isObject := held.objects _ List.mem_cons_self
          obtain ⟨members, same⟩ :=
            members_written consistent (consistent.held planned) (isObject.planOf_ne_value planned) wrote
          cases same

end ApiContract.JsonForm
