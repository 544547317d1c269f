import ApiContract.Proofs.Json.Properties
import ApiContract.Proofs.Memo.Plans
import ApiContract.Proofs.Results
import Mathlib.Data.List.Forall2

/-!
What one step of reading does, given what the places that it calls are read as. A place is a plan
and a document; which places a step calls depends on these two alone.
-/

namespace ApiContract.JsonForm

open Planning

/-- A property whose default counts: there is no member, or a null that does not stand for itself. -/
def Defaults (members : List (String × Json)) (property : PropertyPlan) : Prop :=
  members.lookup property.wireName = none ∨
    (members.lookup property.wireName = some .null ∧
      (property.required && property.nullable) = false)

/-- What a property is read as, given how values are read. -/
inductive ReadsProperty (sub : ValuePlan → Json → Value → Prop) (members : List (String × Json))
    (property : PropertyPlan) : Option Value → Prop
  | null : members.lookup property.wireName = some .null →
      (property.required && property.nullable) = true → ReadsProperty sub members property (some .null)
  | member {document : Json} {value : Value} :
      members.lookup property.wireName = some document → document ≠ .null →
      sub property.value document value → ReadsProperty sub members property (some value)
  | default {document : Json} {value : Value} : Defaults members property →
      property.default = some document → sub property.value document value →
      ReadsProperty sub members property (some value)
  | skip : Defaults members property → property.default = none → property.required = false →
      ReadsProperty sub members property none

section Property
variable {readValue : ValuePlan → Json → Except ValueError Value} {typeName : String}
  {members : List (String × Json)} {property : PropertyPlan}

theorem readProperty_of_defaults (defaults : Defaults members property) :
    readProperty readValue typeName members property = readDefault readValue typeName property := by
  rw [readProperty]
  rcases defaults with absent | ⟨null, counts⟩
  · rw [absent]
  · rw [null, counts]
    rfl

theorem readProperty_of_member {document : Json}
    (present : members.lookup property.wireName = some document) (notNull : document ≠ .null) :
    readProperty readValue typeName members property =
      (readValue property.value document).map some := by
  rw [readProperty, present]
  cases document with
  | null => exact absurd rfl notNull
  | _ => rfl

theorem readProperty_cases (members : List (String × Json)) (property : PropertyPlan) :
    Defaults members property ∨
      (members.lookup property.wireName = some .null ∧
        (property.required && property.nullable) = true) ∨
      ∃ document, members.lookup property.wireName = some document ∧ document ≠ .null := by
  cases present : members.lookup property.wireName with
  | none => exact .inl (.inl present)
  | some document =>
      by_cases isNull : document = .null
      · cases counts : property.required && property.nullable with
        | true => exact .inr (.inl ⟨congrArg some isNull, rfl⟩)
        | false => exact .inl (.inr ⟨isNull ▸ present, counts⟩)
      · exact .inr (.inr ⟨document, rfl, isNull⟩)

theorem readProperty_eq_ok {value : Option Value} :
    readProperty readValue typeName members property = .ok value ↔
      ReadsProperty (fun plan document value => readValue plan document = .ok value) members property
        value := by
  constructor
  · intro read
    rcases readProperty_cases members property with defaults | ⟨null, counts⟩ | ⟨document, present, notNull⟩
    · rw [readProperty_of_defaults defaults, readDefault] at read
      split at read
      next document declared =>
        obtain ⟨made, done, same⟩ := map_eq_ok read
        subst same
        exact .default defaults declared done
      next none =>
        split at read
        next => cases read
        next optional =>
          cases read
          exact .skip defaults none (by simpa using optional)
    · rw [readProperty, null, counts] at read
      cases read
      exact .null null counts
    · rw [readProperty_of_member present notNull] at read
      obtain ⟨made, done, same⟩ := map_eq_ok read
      subst same
      exact .member present notNull done
  · intro reads
    cases reads with
    | null null counts =>
        rw [readProperty, null, counts]
        rfl
    | member present notNull done =>
        rw [readProperty_of_member present notNull, done]
        rfl
    | default defaults declared done =>
        rw [readProperty_of_defaults defaults, readDefault, declared]
        simp only [done]
        rfl
    | skip defaults none optional =>
        rw [readProperty_of_defaults defaults, readDefault, none, optional]
        rfl

end Property

/-- The properties of an object are read as the values. -/
def ReadsProperties (sub : WirePlan → Json → Value → Prop) (plan : ObjectPlan)
    (members : List (String × Json)) (value : PropertyPlan → Option Value) : Prop :=
  ∀ property ∈ plan.properties,
    ReadsProperty (fun nested => sub (.value nested)) members property (value property)

def readFields (plan : ObjectPlan) (value : PropertyPlan → Option Value) : Value :=
  .ofFields (entriesOf (·.name) value plan.properties)

/-- One step of reading, given what the places that it calls are read as. -/
inductive ReadStep (model : Model) (sub : WirePlan → Json → Value → Prop) :
    WirePlan → Json → Value → Prop
  | scalar {kind : ScalarKind} {document : Json} {value : Value} :
      Scalar.ofJson kind document = .ok value →
      ReadStep model sub (.value (.scalar kind)) document value
  | list {element : ValuePlan} {items : List Json} {values : List Value} :
      List.Forall₂ (sub (.value element)) items values →
      ReadStep model sub (.value (.list element)) (.array items) (.list values)
  | dictionary {entry : ValuePlan} {members : List (String × Json)}
      {entries : List (String × Value)} :
      List.Forall₂ (fun member entry' => sub (.value entry) member.2 entry'.2 ∧ member.1 = entry'.1)
        members entries →
      ReadStep model sub (.value (.dictionary entry)) (.object members) (.ofEntries entries)
  | reference {schema : SchemaId} {nested : WirePlan} {document : Json} {value : Value} :
      model.planOf schema .json = .ok nested → sub nested document value →
      ReadStep model sub (.value (.reference schema)) document value
  | object {plan : ObjectPlan} {members : List (String × Json)}
      {value : PropertyPlan → Option Value} : ReadsProperties sub plan members value →
      ReadStep model sub (.object plan) (.object members) (readFields plan value)
  | variant {plan : HierarchyPlan} {members : List (String × Json)} {selector : String}
      {choice : VariantChoice} {nested : WirePlan} {value : Value} :
      members.lookup plan.discriminator = some (.string selector) →
      plan.variants.find? (·.value == selector) = some choice →
      model.planOf choice.schema .json = .ok nested → sub nested (.object members) value →
      ReadStep model sub (.hierarchy plan) (.object members) (.variant selector value)
  | unknown {plan : HierarchyPlan} {members : List (String × Json)} {selector : String}
      {value : PropertyPlan → Option Value} :
      members.lookup plan.discriminator = some (.string selector) →
      plan.variants.find? (·.value == selector) = none →
      ReadsProperties sub plan.base members value →
      ReadStep model sub (.hierarchy plan) (.object members)
        (.variant selector (readFields plan.base value))
  | base {plan : HierarchyPlan} {members : List (String × Json)}
      {value : PropertyPlan → Option Value} :
      (∀ selector, members.lookup plan.discriminator ≠ some (.string selector)) →
      ReadsProperties sub plan.base members value →
      ReadStep model sub (.hierarchy plan) (.object members) (readFields plan.base value)

variable {model : Model}

/-- What a place is read as with so much fuel, on tables that are still empty. -/
def ReadsWithin (model : Model) (fuel : Nat) (plan : WirePlan) (document : Json) (value : Value) :
    Prop :=
  (readWithin model fuel plan document).fresh = .ok value

theorem nestedPlan_eq_ok {id : SchemaId} {format : WireFormat} {nested : WirePlan} :
    (nestedPlan model id format).fresh = .ok nested ↔ model.planOf id format = .ok nested := by
  have same : (nestedPlan model id format).fresh = (model.planOf id format).mapError .model := by
    rw [nestedPlan, fresh_mapError]
    rfl
  rw [same]
  cases model.planOf id format <;> simp [Except.mapError]

theorem readObject_eq_ok {fuel : Nat} {plan : ObjectPlan} {members : List (String × Json)}
    {value : Value} :
    (readObject (fun nested => readWithin model fuel (.value nested)) plan members).fresh = .ok value ↔
      ∃ made, value = readFields plan made ∧ ReadsProperties (ReadsWithin model fuel) plan members made := by
  rw [readObject, fresh_bind]
  constructor
  · intro read
    obtain ⟨fields, done, same⟩ := bind_eq_ok read
    cases same
    obtain ⟨made, joined, each⟩ := readProperties_eq_ok.mp done
    exact ⟨made, congrArg Value.ofFields joined, fun property member =>
      readProperty_eq_ok.mp (each property member)⟩
  · rintro ⟨made, same, each⟩
    have done := (@readProperties_eq_ok (fun nested => readWithin model fuel (.value nested))
      plan.typeName members plan.properties _).mpr
      ⟨made, rfl, fun property member => readProperty_eq_ok.mpr (each property member)⟩
    rw [done, same]
    rfl

theorem readItems_eq_ok {fuel : Nat} {element : ValuePlan} {items : List Json}
    {values : List Value} :
    (items.mapM fun item => readWithin model fuel (.value element) item).fresh = .ok values ↔
      List.Forall₂ (ReadsWithin model fuel (.value element)) items values := by
  rw [fresh_mapM]
  exact mapM_eq_ok_iff

theorem readEntries_eq_ok {fuel : Nat} {entry : ValuePlan} {members : List (String × Json)}
    {entries : List (String × Value)} :
    (members.mapM fun ((key, document) : String × Json) => do
      let value ← readWithin model fuel (.value entry) document
      pure (key, value)).fresh = .ok entries ↔
      List.Forall₂ (fun member entry' =>
        ReadsWithin model fuel (.value entry) member.2 entry'.2 ∧ member.1 = entry'.1)
        members entries := by
  rw [fresh_mapM, mapM_eq_ok_iff]
  have each : ∀ (member : String × Json) (entry' : String × Value),
      (readWithin model fuel (.value entry) member.2 >>= fun value =>
        (pure (member.1, value) : Planning ValueError (String × Value))).fresh = .ok entry' ↔
      ReadsWithin model fuel (.value entry) member.2 entry'.2 ∧ member.1 = entry'.1 := by
    rintro ⟨key, document⟩ ⟨key', value⟩
    rw [fresh_bind, ReadsWithin]
    cases (readWithin model fuel (.value entry) document).fresh with
    | error e => simp
    | ok read => simp [and_comm]
  simp only [each]

/-- A hierarchy reads an object by its selector: as the variant that it selects, as an unknown one in
the shape of the base, or without one as the base itself. -/
theorem readStep_of_hierarchy {fuel : Nat} {plan : HierarchyPlan} {members : List (String × Json)}
    {value : Value}
    (read : (readWithin model (fuel + 1) (.hierarchy plan) (.object members)).fresh = .ok value) :
    ReadStep model (ReadsWithin model fuel) (.hierarchy plan) (.object members) value := by
  simp only [readWithin] at read
  split at read
  next selector selects =>
    split at read
    next choice chosen =>
      simp only [fresh_bind] at read
      obtain ⟨nested, planned, rest⟩ := bind_eq_ok read
      obtain ⟨inner, reads, same⟩ := bind_eq_ok rest
      cases same
      exact .variant selects chosen (nestedPlan_eq_ok.mp planned) reads
    next unknown =>
      rw [fresh_bind] at read
      obtain ⟨inner, innerRead, same⟩ := bind_eq_ok read
      obtain ⟨made, shape, each⟩ := readObject_eq_ok.mp innerRead
      cases same
      exact shape ▸ .unknown selects unknown each
  next noSelector =>
    obtain ⟨made, shape, each⟩ := readObject_eq_ok.mp read
    exact shape ▸ .base noSelector each

theorem readStep_of_value {fuel : Nat} {plan : ValuePlan} {document : Json} {value : Value}
    (read : (readWithin model (fuel + 1) (.value plan) document).fresh = .ok value) :
    ReadStep model (ReadsWithin model fuel) (.value plan) document value := by
  cases plan with
  | scalar kind => exact .scalar read
  | list element =>
      cases document with
      | array items =>
          simp only [readWithin, fresh_bind] at read
          obtain ⟨values, done, same⟩ := bind_eq_ok read
          cases same
          exact .list (readItems_eq_ok.mp done)
      | _ => cases read
  | dictionary entry =>
      cases document with
      | object members =>
          simp only [readWithin, fresh_bind] at read
          obtain ⟨entries, done, same⟩ := bind_eq_ok read
          cases same
          exact .dictionary (readEntries_eq_ok.mp done)
      | _ => cases read
  | reference schema =>
      simp only [readWithin, fresh_bind] at read
      obtain ⟨nested, planned, reads⟩ := bind_eq_ok read
      exact .reference (nestedPlan_eq_ok.mp planned) reads

/-- What one step of reading gives is read with one more step of fuel. -/
theorem ReadStep.read {fuel : Nat} {plan : WirePlan} {document : Json} {value : Value}
    (step : ReadStep model (ReadsWithin model fuel) plan document value) :
    (readWithin model (fuel + 1) plan document).fresh = .ok value := by
  cases step with
  | scalar read => exact read
  | list each =>
      simp only [readWithin, fresh_bind]
      rw [readItems_eq_ok.mpr each]
      rfl
  | dictionary each =>
      simp only [readWithin, fresh_bind]
      rw [readEntries_eq_ok.mpr each]
      rfl
  | reference planned reads =>
      simp only [readWithin, fresh_bind]
      rw [nestedPlan_eq_ok.mpr planned]
      exact reads
  | object each => exact readObject_eq_ok.mpr ⟨_, rfl, each⟩
  | variant selects chosen planned reads =>
      simp only [readWithin, selects, chosen, fresh_bind]
      rw [nestedPlan_eq_ok.mpr planned, ok_bind, reads]
      rfl
  | unknown selects unknown each =>
      simp only [readWithin, selects, unknown, fresh_bind]
      rw [readObject_eq_ok.mpr ⟨_, rfl, each⟩]
      rfl
  | @base plan members made noSelector each =>
      have read := readObject_eq_ok.mpr ⟨made, rfl, each⟩
      simp only [readWithin]
      exact read

/-- Reading with one more step is one step of reading. -/
theorem readWithin_succ {fuel : Nat} {plan : WirePlan} {document : Json} {value : Value} :
    (readWithin model (fuel + 1) plan document).fresh = .ok value ↔
      ReadStep model (ReadsWithin model fuel) plan document value := by
  refine ⟨fun read => ?_, ReadStep.read⟩
  cases plan with
  | object plan =>
      cases document with
      | object members =>
          obtain ⟨made, same, each⟩ := readObject_eq_ok.mp read
          exact same ▸ .object each
      | _ => cases read
  | hierarchy plan =>
      cases document with
      | object members => exact readStep_of_hierarchy read
      | _ => cases read
  | value plan => exact readStep_of_value read
  | element plan => cases read
  | raw kind => cases read

/-- A property that a step reads, and the document it reads there. -/
def CallsProperty (plan : ObjectPlan) (members : List (String × Json)) (nested : ValuePlan)
    (document : Json) : Prop :=
  ∃ property ∈ plan.properties, nested = property.value ∧
    (members.lookup property.wireName = some document ∨ property.default = some document)

/-- The places that a step of reading calls. -/
inductive Calls (model : Model) : WirePlan → Json → WirePlan → Json → Prop
  | item {element : ValuePlan} {items : List Json} {item : Json} : item ∈ items →
      Calls model (.value (.list element)) (.array items) (.value element) item
  | entry {entry : ValuePlan} {members : List (String × Json)} {member : String × Json} :
      member ∈ members →
      Calls model (.value (.dictionary entry)) (.object members) (.value entry) member.2
  | reference {schema : SchemaId} {nested : WirePlan} {document : Json} :
      model.planOf schema .json = .ok nested →
      Calls model (.value (.reference schema)) document nested document
  | property {plan : ObjectPlan} {members : List (String × Json)} {nested : ValuePlan}
      {document : Json} : CallsProperty plan members nested document →
      Calls model (.object plan) (.object members) (.value nested) document
  | variant {plan : HierarchyPlan} {choice : VariantChoice} {nested : WirePlan} {document : Json} :
      choice ∈ plan.variants → model.planOf choice.schema .json = .ok nested →
      Calls model (.hierarchy plan) document nested document
  | base {plan : HierarchyPlan} {members : List (String × Json)} {nested : ValuePlan}
      {document : Json} : CallsProperty plan.base members nested document →
      Calls model (.hierarchy plan) (.object members) (.value nested) document

end ApiContract.JsonForm
