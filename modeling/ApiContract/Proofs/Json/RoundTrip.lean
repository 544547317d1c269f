import ApiContract.Proofs.Json.Returns
import ApiContract.Proofs.Json.Tables

/-!
Reading undoes writing, for the values that conform to a plan, by one induction over conformance.
-/

namespace ApiContract.JsonForm

open Planning

variable {model : Model}

/-- By induction over conformance. -/
theorem conforms_carries {plan : WirePlan} {value : Value} (conforms : Conforms model plan value)
    (sound : Sound model plan) : Carries model plan value := by
  induction conforms with
  | scalar fits => exact scalar_returns fits
  | list _ ih =>
      exact list_returns fun item member =>
        ih item member (sound.part trivial (List.Subset.refl _))
  | dictionary sorted _ ih =>
      exact dictionary_returns sorted fun item member =>
        ih item member (sound.part trivial (List.Subset.refl _))
  | reference planned _ ih =>
      obtain ⟨sound', structured⟩ := sound.linked List.mem_cons_self planned
      exact reference_returns planned structured ((ih sound').returns sound'.ready)
  | @object plan fields shaped _ ih =>
      have each : ∀ property ∈ plan.properties, ∃ made, Carried model fields property made := by
        intro property member
        cases present : fields.lookup property.name with
        | none => exact ⟨none, .skip present⟩
        | some value =>
            by_cases isNull : value = .null
            · exact ⟨some .null, .null (isNull ▸ present)⟩
            · have below : property.value.references ⊆ plan.references := fun schema refers =>
                List.mem_flatMap.mpr ⟨property, member, refers⟩
              obtain ⟨document, returns⟩ :=
                ih property member value present isNull (sound.property member)
              exact ⟨some document, .value present isNull returns⟩
      choose! made carried using each
      exact ⟨fields, made, rfl, shaped, carried⟩
  | @variant plan choice nested value selected planned _ ih =>
      have listed : choice ∈ plan.variants := List.mem_of_find?_eq_some selected
      -- The plan of a listed variant carries the selector, which the root writes nowhere else.
      obtain ⟨object, same, carries⟩ := sound.ready.2.2.2 choice listed nested planned
      subst same
      have sound' := (sound.linked (HierarchyPlan.refers listed) planned).1
      obtain ⟨fields, made, same, shaped, carried⟩ := ih sound'
      subst same
      exact variant_returns selected planned carries sound'.ready shaped carried
  | unknown unknown _ ih =>
      obtain ⟨fields', made, same, shaped, carried⟩ :=
        ih sound.base
      cases same
      exact unknown_returns unknown sound.ready shaped carried
  | base _ ih =>
      obtain ⟨fields', made, same, shaped, carried⟩ :=
        ih sound.base
      cases same
      exact base_returns sound.ready shaped carried

theorem Planned.schemas_pos {id : SchemaId} {plan : WirePlan} (planned : Planned model id plan) :
    0 < model.schemas.length := by
  have made := planned.made
  cases present : model.schema? id with
  | some schema =>
      obtain ⟨before, after, split, -⟩ := List.lookup_eq_some_iff.mp present
      simp [split]
  | none =>
      rw [Model.planOf_eq] at made
      simp only [Model.makePlan, Model.jsonPlan, Model.schemaFor, present, liftM_error_bind] at made
      cases made

/-- A conforming value is written, and what is written is read as the value, whatever types and
plans the tables hold. -/
theorem read_write {id : SchemaId} {plan : WirePlan} {value : Value}
    (planned : Planned model id plan) (conforms : Conforms model plan value) {memo : Memo}
    (lawful : memo.Obeys model.tableLaw) :
    ∃ document, ((write model plan value).run memo).1 = .ok document ∧
      ((write model plan value).run memo).2.Obeys model.tableLaw ∧
      ∀ memo', memo'.Obeys model.tableLaw →
        ((read model plan document).run memo').1 = .ok value ∧
          ((read model plan document).run memo').2.Obeys model.tableLaw := by
  have sound := planned.sound
  obtain ⟨document, returns⟩ := (conforms_carries conforms sound).returns sound.ready
  have written : (write model plan value).fresh = .ok document := by
    refine returns.write _ ?_
    cases plan <;> simp only [writeSteps] <;> omega
  have read : (read model plan document).fresh = .ok value := by
    refine returns.read _ ?_
    -- Reading a variant from its root enters one plan more for each level.
    have entered : 3 * (document.depth + defaultLevels model + 1) ≤
        (model.schemas.length + 2) * (document.depth + defaultLevels model + 1) :=
      Nat.mul_le_mul_right _ (by have := planned.schemas_pos; omega)
    cases plan <;> simp only [readSteps, readLimit] <;> omega
  obtain ⟨ran, lawful'⟩ := (writeWithin_steady _ plan value).run lawful
  refine ⟨document, ran.trans written, lawful', fun memo' lawful'' => ?_⟩
  obtain ⟨ran', lawful'''⟩ := (readWithin_steady _ plan document).run lawful''
  exact ⟨ran'.trans read, lawful'''⟩

/-- A hierarchy whose only variant refers back to its root. -/
def kennel : Model :=
  { name := "Kennel"
    schemas :=
      [("Dog", .object
          { name := "Dog", base := some "Pet", discriminatorValue := some "dog"
            properties := [.optional "friends" "Pets"] }),
        ("Name", .primitive .string none),
        ("Pet", .object
          { name := "Pet", discriminator := some "kind", derived := ["Dog"]
            properties := [.mandatory "kind" "Name", .mandatory "name" "Name"] }),
        ("Pets", .array "Pet")] }

def namePlan : PropertyPlan :=
  ⟨"name", "name", .scalar (.primitive .string none), true, false, false, none⟩

def petPlan : HierarchyPlan :=
  { schema := "Pet", typeName := "Pet", discriminator := "kind"
    base := { schema := "Pet", typeName := "Pet", discriminator := none, properties := [namePlan] }
    variants := [⟨"dog", "Dog"⟩] }

def dogPlan : ObjectPlan :=
  { schema := "Dog", typeName := "Dog", discriminator := some ⟨"kind", "dog"⟩
    properties :=
      [namePlan, ⟨"friends", "friends", .list (.reference "Pet"), false, false, false, none⟩] }

theorem planOf_pet : kennel.planOf "Pet" .json = .ok (.hierarchy petPlan) := rfl

theorem planOf_dog : kennel.planOf "Dog" .json = .ok (.object dogPlan) := rfl

theorem kennel_planned : Planned kennel "Pet" (.hierarchy petPlan) := by
  have petTidy : Tidy kennel (.hierarchy petPlan) := by
    refine ⟨by decide, fun choice listed => ?_⟩
    rw [List.mem_singleton.mp listed]
    exact ⟨"Dog", "dog", rfl⟩
  have dogTidy : Tidy kennel (.object dogPlan) := by
    change Distinct dogPlan
    decide
  have known : ∀ schema, Reachable kennel (.hierarchy petPlan) schema →
      schema = "Pet" ∨ schema = "Dog" := by
    intro schema reachable
    induction reachable with
    | direct member => exact .inr (List.mem_singleton.mp member)
    | next _ planned member ih =>
        rcases ih with same | same
        · subst same
          rw [planOf_pet] at planned
          cases planned
          exact .inr (List.mem_singleton.mp member)
        · subst same
          rw [planOf_dog] at planned
          cases planned
          exact .inl (List.mem_singleton.mp member)
  refine ⟨planOf_pet, petTidy, fun schema reachable => ?_⟩
  rcases known schema reachable with same | same
  · subst same
    exact ⟨_, planOf_pet, petTidy⟩
  · subst same
    exact ⟨_, planOf_dog, dogTidy⟩

/-- A pet of a kind that the model does not list. -/
def stray : Value := .variant "cat" (.record [("name", .string "Tom")])

/-- A dog whose friend is a stray. -/
def dog : Value :=
  .variant "dog" (.record [("friends", .list [stray]), ("name", .string "Rex")])

theorem stray_conforms : Conforms kennel (.hierarchy petPlan) stray := by
  have shaped : Shaped petPlan.base [("name", .string "Tom")] :=
    ⟨by decide, by decide, by decide, by simp [petPlan, namePlan], by simp [petPlan, namePlan]⟩
  refine .unknown rfl (.object shaped fun property member value found _ => ?_)
  rw [List.mem_singleton.mp member] at found ⊢
  cases found
  exact .scalar (.text rfl rfl)

theorem dog_conforms : Conforms kennel (.hierarchy petPlan) dog := by
  have selected : petPlan.variants.find? (·.value == "dog") = some ⟨"dog", "Dog"⟩ := rfl
  have shaped : Shaped dogPlan [("friends", .list [stray]), ("name", .string "Rex")] :=
    ⟨by decide, by decide, by decide, by simp [dogPlan, namePlan, lookup_cons_if],
      by simp [dogPlan, namePlan, lookup_cons_if]⟩
  refine @Conforms.variant kennel petPlan ⟨"dog", "Dog"⟩ _ _ selected planOf_dog
    (.object shaped fun property member value found _ => ?_)
  rcases List.mem_cons.mp member with same | member
  · rw [same] at found ⊢
    cases found
    exact .scalar (.text rfl rfl)
  · rw [List.mem_singleton.mp member] at found ⊢
    cases found
    refine .list fun item inside => ?_
    rw [List.mem_singleton.mp inside]
    exact .reference planOf_pet stray_conforms

theorem dog_read_write : Planned kennel "Pet" (.hierarchy petPlan) ∧
    Conforms kennel (.hierarchy petPlan) dog ∧ ∃ document,
      ((write kennel (.hierarchy petPlan) dog).run {}).1 = .ok document ∧
        ((read kennel (.hierarchy petPlan) document).run {}).1 = .ok dog := by
  obtain ⟨document, written, -, read⟩ :=
    read_write kennel_planned dog_conforms (Memo.empty_obeys _)
  exact ⟨kennel_planned, dog_conforms, document, written, (read {} (Memo.empty_obeys _)).1⟩

end ApiContract.JsonForm
