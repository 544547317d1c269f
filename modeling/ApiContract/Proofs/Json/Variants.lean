import ApiContract.Proofs.Json.Acceptance
import ApiContract.Proofs.Json.RoundTrip

/-!
Known variants. A variant that derives from a root with the wire name of its hierarchy is written
with its selector in front, so reading through the hierarchy selects the same variant again.
-/

namespace ApiContract.JsonForm

open Planning

variable {model : Model}

theorem setMember_behind {key : String} {first : String × Json} (apart : key ≠ first.1) (value : Json)
    (members : List (String × Json)) :
    Json.setMember (first :: members) key value = first :: Json.setMember members key value := by
  rw [Json.setMember, if_neg (Ne.symm apart)]

/-- A member in front stays in front where no property has its name. -/
theorem writeProperties_head {writeValue : ValuePlan → Value → Planning ValueError Json}
    {typeName : String} {fields : List (String × Value)} {properties : List PropertyPlan}
    {first : String × Json} (apart : ∀ property ∈ properties, property.wireName ≠ first.1)
    {members made : List (String × Json)}
    (written : (writeProperties writeValue typeName fields (first :: members) properties).fresh =
      .ok made) : ∃ others, made = first :: others := by
  induction properties generalizing members with
  | nil =>
      cases written
      exact ⟨members, rfl⟩
  | cons property rest ih =>
      have tail := fun members => @ih (fun other member => apart other (List.mem_cons_of_mem _ member))
        members
      have here := apart property List.mem_cons_self
      rw [writeProperties] at written
      split at written
      next =>
        split at written
        next => exact tail _ written
        next =>
          split at written
          next =>
            rw [setMember_behind here] at written
            exact tail _ written
          next => cases written
      next =>
        split at written
        next => exact tail _ written
        next => cases written
      next =>
        rw [fresh_bind] at written
        obtain ⟨document, -, rest⟩ := bind_eq_ok written
        rw [setMember_behind here] at rest
        exact tail _ rest

section Known
variable {id : SchemaId} {plan : HierarchyPlan} {choice : VariantChoice} {nested : WirePlan}
  {document : Json}

/-- A listed variant is written as its own plan writes it. -/
theorem write_variant (planned : model.planOf id .json = .ok (.hierarchy plan))
    (listed : choice ∈ plan.variants) {fields : List (String × Value)}
    (written : (write model (.hierarchy plan) (.variant choice.value (.record fields))).fresh =
      .ok document) :
    ∃ nested fuel, model.planOf choice.schema .json = .ok nested ∧
      WritesWithin model fuel nested (.record fields) document := by
  have chosen := Model.find?_choice planned listed
  cases WritesWithin.step written with
  | variant found nestedPlanned wrote =>
      cases chosen.symm.trans found
      exact ⟨_, _, nestedPlanned, wrote⟩
  | unknown unknown _ =>
      rw [chosen] at unknown
      cases unknown

/-- A document with the selector of a listed variant is read as that variant, of what the plan of the
variant reads. -/
theorem read_variant (planned : model.planOf id .json = .ok (.hierarchy plan))
    (listed : choice ∈ plan.variants) (nestedPlanned : model.planOf choice.schema .json = .ok nested)
    {members : List (String × Json)}
    (selects : members.lookup plan.discriminator = some (.string choice.value)) {value : Value} :
    (read model (.hierarchy plan) (.object members)).fresh = .ok value ↔
      ∃ inner, value = .variant choice.value inner ∧
        (read model nested (.object members)).fresh = .ok inner := by
  have chosen := Model.find?_choice planned listed
  constructor
  · intro accepted
    cases readWithin_succ.mp accepted with
    | variant selects' found planned' reads =>
        cases selects.symm.trans selects'
        cases chosen.symm.trans found
        cases nestedPlanned.symm.trans planned'
        exact ⟨_, rfl, ReadsWithin.read reads (.inr ⟨_, nestedPlanned⟩)⟩
    | unknown selects' unknown _ =>
        cases selects.symm.trans selects'
        rw [chosen] at unknown
        cases unknown
    | base noSelector _ => exact absurd selects (noSelector _)
  · rintro ⟨inner, rfl, accepted⟩
    have step := readWithin_succ.mpr (ReadStep.variant selects chosen nestedPlanned accepted)
    exact ReadsWithin.read step (.inr ⟨_, planned⟩)

end Known

/-- A variant that derives from a root with the wire name of its hierarchy is written with its
selector under that wire name first. What the document is read as through the hierarchy is the same
variant again, of exactly what the plan of the variant reads; and it is read at all if the model
tells names apart and the record is strict. -/
theorem variant_selector_first {id : SchemaId} {plan : HierarchyPlan} {choice : VariantChoice}
    {fields : List (String × Value)} {document : Json} {memo memo' : Memo}
    (lawful : memo.Obeys model.tableLaw) (lawful' : memo'.Obeys model.tableLaw)
    (planned : model.planOf id .json = .ok (.hierarchy plan)) (listed : choice ∈ plan.variants)
    (derives : model.DerivesFrom plan.discriminator choice.schema)
    (written : ((write model (.hierarchy plan) (.variant choice.value (.record fields))).run memo).1 =
      .ok document) :
    ∃ nested members, model.planOf choice.schema .json = .ok (.object nested) ∧
      document = .object ((plan.discriminator, .string choice.value) :: members) ∧
      (∀ value, ((read model (.hierarchy plan) document).run memo').1 = .ok value ↔
        ∃ inner, value = .variant choice.value inner ∧
          ((read model (.object nested) document).run memo').1 = .ok inner) ∧
      (Consistent model → Strict model (.object nested) (.record fields) →
        ∃ inner, ((read model (.hierarchy plan) document).run memo').1 =
          .ok (.variant choice.value inner)) := by
  rw [((write_steady _ _).run lawful).1] at written
  obtain ⟨nested, fuel, nestedPlanned, wrote⟩ := write_variant planned listed written
  obtain ⟨object, rfl, carries, apart⟩ := derives.choice planned listed nestedPlanned
  have shape : ∃ members,
      document = .object ((plan.discriminator, .string choice.value) :: members) := by
    cases fuel with
    | zero => cases wrote
    | succ fuel =>
        cases wrote.step with
        | object made =>
            rw [WritesMembers, opening, carries] at made
            obtain ⟨others, rfl⟩ := writeProperties_head apart made
            exact ⟨others, rfl⟩
  obtain ⟨members, rfl⟩ := shape
  have reads : ∀ value, ((read model (.hierarchy plan) (.object
      ((plan.discriminator, .string choice.value) :: members))).run memo').1 = .ok value ↔
        ∃ inner, value = .variant choice.value inner ∧ ((read model (.object object) (.object
          ((plan.discriminator, .string choice.value) :: members))).run memo').1 = .ok inner := by
    intro value
    rw [((read_steady _ _).run lawful').1, read_variant planned listed nestedPlanned List.lookup_cons_self]
    simp only [((read_steady _ _).run lawful').1]
  refine ⟨object, members, nestedPlanned, rfl, reads, fun consistent strict => ?_⟩
  obtain ⟨steps, inner, readable⟩ :=
    accepts_all consistent _ wrote (consistent.held nestedPlanned) strict
  have accepted := readable.read (.inr ⟨_, nestedPlanned⟩)
  refine ⟨inner, (reads _).mpr ⟨inner, rfl, ?_⟩⟩
  rw [((read_steady _ _).run lawful').1]
  exact accepted

/-- Only dogs and pets are objects. -/
theorem kennel_consistent : Consistent kennel := by
  intro id plan planned
  cases present : (kennel.schema? id).bind Schema.object? with
  | none =>
      obtain ⟨value, rfl, -⟩ := Model.planOf_other_schema present planned
      trivial
  | some object =>
      obtain ⟨schema, found, isObject⟩ := Option.bind_eq_some_iff.mp present
      have listed := mem_of_lookup found
      simp only [kennel, List.mem_cons, List.not_mem_nil, or_false, Prod.mk.injEq] at listed
      rcases listed with ⟨rfl, -⟩ | ⟨-, rfl⟩ | ⟨rfl, -⟩ | ⟨-, rfl⟩
      · rw [planOf_dog] at planned
        cases planned
        exact (by decide : Distinct dogPlan)
      · cases isObject
      · rw [planOf_pet] at planned
        cases planned
        exact (by decide : Distinct petPlan.base)
      · cases isObject

theorem name_strict (name : String) :
    Strict kennel (.value (.scalar (.primitive .string none))) (.string name) := by
  refine .of_parts trivial fun nested inner part => ?_
  cases part

theorem stray_strict : Strict kennel (.hierarchy petPlan) stray := by
  refine .of_parts nofun fun nested inner part => ?_
  cases part with
  | «variant» found _ => cases found
  | unknown _ =>
      refine .of_parts ?_ fun nested inner part => ?_
      · rintro property member ⟨-, empty⟩
        rw [List.mem_singleton.mp member] at empty
        rcases empty _ rfl with same | same <;> cases same
      · cases part with
        | property member found =>
            rw [List.mem_singleton.mp member] at found ⊢
            cases found
            exact name_strict "Tom"

theorem rex_strict :
    Strict kennel (.object dogPlan) (.record [("friends", .list [stray]), ("name", .string "Rex")]) := by
  refine .of_parts ?_ fun nested inner part => ?_
  · rintro property member ⟨-, empty⟩
    simp only [dogPlan, List.mem_cons, List.not_mem_nil, or_false] at member
    rcases member with rfl | rfl <;> rcases empty _ rfl with same | same <;> cases same
  · cases part with
    | property member found =>
        simp only [dogPlan, List.mem_cons, List.not_mem_nil, or_false] at member
        rcases member with rfl | rfl <;> cases found
        · exact name_strict "Rex"
        · refine .of_parts trivial fun nested inner part => ?_
          cases part with
          | item inside =>
              rw [List.mem_singleton.mp inside]
              refine .of_parts trivial fun nested inner part => ?_
              cases part with
              | reference planned =>
                  rw [planOf_pet] at planned
                  cases planned
                  exact stray_strict

/-- A dog with a stray friend keeps its kind in front and is read as a dog again. -/
theorem rex_selector_first :
    kennel.planOf "Pet" .json = .ok (.hierarchy petPlan) ∧ ⟨"dog", "Dog"⟩ ∈ petPlan.variants ∧
      kennel.DerivesFrom "kind" "Dog" ∧
      ∃ document members inner,
        ((write kennel (.hierarchy petPlan) dog).run {}).1 = .ok document ∧
        document = .object (("kind", .string "dog") :: members) ∧
        ((read kennel (.hierarchy petPlan) document).run {}).1 = .ok (.variant "dog" inner) ∧
        ((read kennel (.object dogPlan) document).run {}).1 = .ok inner := by
  have lawful := Memo.empty_obeys kennel.tableLaw
  have listed : ⟨"dog", "Dog"⟩ ∈ petPlan.variants := List.mem_singleton.mpr rfl
  have derives : kennel.DerivesFrom "kind" "Dog" := ⟨_, "Pet", _, rfl, rfl, rfl, rfl, rfl⟩
  have written : ((write kennel (.hierarchy petPlan) dog).run {}).1 = .ok (.object
      [("kind", .string "dog"), ("name", .string "Rex"),
        ("friends", .array [.object [("kind", .string "cat"), ("name", .string "Tom")]])]) := rfl
  obtain ⟨nested, members, nestedPlanned, shape, reads, accepted⟩ :=
    variant_selector_first lawful lawful planOf_pet listed derives written
  cases planOf_dog.symm.trans nestedPlanned
  obtain ⟨inner, read⟩ := accepted kennel_consistent rex_strict
  obtain ⟨inner', same, readInner⟩ := (reads _).mp read
  cases same
  exact ⟨planOf_pet, listed, derives, _, members, inner, written, shape, read, readInner⟩

/-- Pets of which a dog has a default that its own plan cannot read, a fox has two properties of one
wire name, and a cat is the root of a hierarchy of its own. -/
def menagerie : Model :=
  { name := "Menagerie"
    schemas :=
      [("Cat", .object
          { name := "Cat", base := some "Pet", discriminator := some "breed"
            discriminatorValue := some "cat", derived := ["Lion"] }),
        ("Count", .primitive .int32 none),
        ("Dog", .object
          { name := "Dog", base := some "Pet", discriminatorValue := some "dog"
            properties :=
              [{ Property.optional "lives" "Count" with defaultValue := some (.string "nine") }] }),
        ("Fox", .object
          { name := "Fox", base := some "Pet", discriminatorValue := some "fox"
            properties :=
              [.optional "tails" "Count",
                { Property.optional "brush" "Text" with serializedName := "tails" }] }),
        ("Lion", .object { name := "Lion", base := some "Cat", discriminatorValue := some "lion" }),
        ("Pet", .object
          { name := "Pet", discriminator := some "kind", derived := ["Cat", "Dog", "Fox"]
            properties := [.optional "name" "Text"] }),
        ("Text", .primitive .string none)] }

def menageriePlan : HierarchyPlan :=
  { schema := "Pet", typeName := "Pet", discriminator := "kind"
    base :=
      { schema := "Pet", typeName := "Pet", discriminator := none
        properties :=
          [⟨"name", "name", .scalar (.primitive .string none), false, false, false, none⟩] }
    variants := [⟨"cat", "Cat"⟩, ⟨"lion", "Lion"⟩, ⟨"dog", "Dog"⟩, ⟨"fox", "Fox"⟩] }

/-- What is written and read again of a variant with the given fields. -/
def Rereads (selector : String) (fields : List (String × Value)) (members : List (String × Json))
    (result : Except ValueError Value) : Prop :=
  ((write menagerie (.hierarchy menageriePlan) (.variant selector (.record fields))).run {}).1 =
      .ok (.object members) ∧
    ((read menagerie (.hierarchy menageriePlan) (.object members)).run {}).1 = result

/-- The dog and the fox are rejected; the cat and the lion are written without their kind, and read
as pets of no kind. -/
theorem menagerie_not_returned :
    menagerie.planOf "Pet" .json = .ok (.hierarchy menageriePlan) ∧
      (⟨"dog", "Dog"⟩ ∈ menageriePlan.variants ∧
        Rereads "dog" [] [("kind", .string "dog")] (.error (.typeMismatch "an integer" "raw JSON"))) ∧
      (⟨"fox", "Fox"⟩ ∈ menageriePlan.variants ∧
        Rereads "fox" [("brush", .string "red")] [("kind", .string "fox"), ("tails", .string "red")]
          (.error (.typeMismatch "an integer" "raw JSON"))) ∧
      (⟨"cat", "Cat"⟩ ∈ menageriePlan.variants ∧
        Rereads "cat" [("name", .string "Tom")] [("name", .string "Tom")]
          (.ok (.record [("name", .string "Tom")]))) ∧
      (⟨"lion", "Lion"⟩ ∈ menageriePlan.variants ∧
        Rereads "lion" [] [("breed", .string "lion")] (.ok (.record []))) := by
  refine ⟨rfl, ⟨?_, rfl, rfl⟩, ⟨?_, rfl, rfl⟩, ⟨?_, rfl, rfl⟩, ⟨?_, rfl, rfl⟩⟩ <;> decide

end ApiContract.JsonForm
