import ApiContract.Proofs.Json.Ending
import ApiContract.Proofs.Json.RoundTrip

/-!
Which keys of a document count. The discriminators of an object lead to the one plan whose properties
are read out of it. The order of its keys, and keys that neither these properties nor the
discriminators on the way have, make no difference, at any depth: not to the value, and not to the
error if there is none.
-/

namespace ApiContract.JsonForm

open Planning

variable {model : Model}

/-- The text by which an object selects a variant. -/
def selector? (plan : HierarchyPlan) (members : List (String × Json)) : Option String :=
  match members.lookup plan.discriminator with
  | some (.string selector) => some selector
  | _ => none

/-- The variant that an object selects. -/
def selected? (plan : HierarchyPlan) (members : List (String × Json)) : Option VariantChoice :=
  (selector? plan members).bind fun selector => plan.variants.find? (·.value == selector)

/-- The polymorphic plans that an object comes through before it is read. -/
inductive Passes (model : Model) (members : List (String × Json)) :
    HierarchyPlan → HierarchyPlan → Prop
  | here {plan : HierarchyPlan} : Passes model members plan plan
  | variant {plan inner passed : HierarchyPlan} {choice : VariantChoice} :
      selected? plan members = some choice →
      model.planOf choice.schema .json = .ok (.hierarchy inner) →
      Passes model members inner passed → Passes model members plan passed

/-- The plan whose properties are read out of an object that comes through a polymorphic plan: that
of the variant it selects, or the base shape. -/
inductive ReadBy (model : Model) (members : List (String × Json)) : HierarchyPlan → ObjectPlan → Prop
  | base {plan : HierarchyPlan} : selected? plan members = none → ReadBy model members plan plan.base
  | variant {plan : HierarchyPlan} {choice : VariantChoice} {shape : ObjectPlan} :
      selected? plan members = some choice →
      model.planOf choice.schema .json = .ok (.object shape) → ReadBy model members plan shape
  | further {plan inner : HierarchyPlan} {choice : VariantChoice} {shape : ObjectPlan} :
      selected? plan members = some choice →
      model.planOf choice.schema .json = .ok (.hierarchy inner) →
      ReadBy model members inner shape → ReadBy model members plan shape

/-- Under the wire name of every property, two objects have related values, or none of them has
one. -/
def AgreeOn (sub : WirePlan → Json → Json → Prop) (properties : List PropertyPlan)
    (members others : List (String × Json)) : Prop :=
  ∀ property ∈ properties,
    Option.Rel (sub (.value property.value)) (members.lookup property.wireName)
      (others.lookup property.wireName)

/-- Documents that differ in no more than the keys that do not count, given the same for their parts.
Only objects that are read through an object or a polymorphic plan may differ in their keys. -/
inductive AlikeStep (model : Model) (sub : WirePlan → Json → Json → Prop) :
    WirePlan → Json → Json → Prop
  | same {plan : WirePlan} {document : Json} : AlikeStep model sub plan document document
  | list {element : ValuePlan} {items others : List Json} :
      List.Forall₂ (sub (.value element)) items others →
      AlikeStep model sub (.value (.list element)) (.array items) (.array others)
  | dictionary {entry : ValuePlan} {members others : List (String × Json)} :
      List.Forall₂ (fun member other => member.1 = other.1 ∧ sub (.value entry) member.2 other.2)
        members others →
      AlikeStep model sub (.value (.dictionary entry)) (.object members) (.object others)
  | reference {schema : SchemaId} {nested : WirePlan} {document other : Json} :
      model.planOf schema .json = .ok nested → sub nested document other →
      AlikeStep model sub (.value (.reference schema)) document other
  | object {plan : ObjectPlan} {members others : List (String × Json)} :
      AgreeOn sub plan.properties members others →
      AlikeStep model sub (.object plan) (.object members) (.object others)
  | hierarchy {plan : HierarchyPlan} {members others : List (String × Json)} :
      (∀ passed, Passes model members plan passed → selector? passed members = selector? passed others) →
      (∀ shape, ReadBy model members plan shape → AgreeOn sub shape.properties members others) →
      AlikeStep model sub (.hierarchy plan) (.object members) (.object others)

/-- Documents that are alike down to so many levels and the same below. -/
def AlikeWithin (model : Model) : Nat → WirePlan → Json → Json → Prop
  | 0, _, document, other => document = other
  | levels + 1, plan, document, other =>
      AlikeStep model (AlikeWithin model levels) plan document other

/-- Documents that, inside objects read through an object or a polymorphic plan at any depth, differ
in the order of keys and in keys that do not count. -/
def Alike (model : Model) (plan : WirePlan) (document other : Json) : Prop :=
  ∃ levels, AlikeWithin model levels plan document other

theorem AlikeWithin.null_iff {levels : Nat} {plan : WirePlan} {document other : Json}
    (alike : AlikeWithin model levels plan document other) : document = .null ↔ other = .null := by
  induction levels generalizing plan with
  | zero => exact alike ▸ Iff.rfl
  | succ levels ih =>
      cases alike with
      | same => exact Iff.rfl
      | reference _ inner => exact ih inner
      | _ => exact iff_of_false nofun nofun

/-! Rearranged objects. -/

/-- The keys of an object that count where it is read through a plan: the wire names of the
properties of the plan that reads it, and the discriminators on the way. -/
inductive Counts (model : Model) (members : List (String × Json)) : WirePlan → String → Prop
  | property {plan : ObjectPlan} {property : PropertyPlan} : property ∈ plan.properties →
      Counts model members (.object plan) property.wireName
  | discriminator {plan passed : HierarchyPlan} : Passes model members plan passed →
      Counts model members (.hierarchy plan) passed.discriminator
  | shape {plan : HierarchyPlan} {shape : ObjectPlan} {property : PropertyPlan} :
      ReadBy model members plan shape → property ∈ shape.properties →
      Counts model members (.hierarchy plan) property.wireName

theorem lookup_rearranged {members others : List (String × Json)}
    (nodup : (members.map (·.1)).Nodup) (nodup' : (others.map (·.1)).Nodup) {key : String}
    (same : ∀ value, (key, value) ∈ members ↔ (key, value) ∈ others) :
    members.lookup key = others.lookup key := by
  apply Option.ext
  intro value
  constructor
  · intro found
    exact lookup_of_nodup nodup' ((same value).mp (mem_of_lookup found))
  · intro found
    exact lookup_of_nodup nodup ((same value).mpr (mem_of_lookup found))

/-- Objects with distinct keys and, under the keys that count, the same members, in any order and
among any others, are alike. -/
theorem alike_rearranged {plan : WirePlan} {members others : List (String × Json)}
    (shaped : (∃ shape, plan = .object shape) ∨ ∃ hierarchy, plan = .hierarchy hierarchy)
    (nodup : (members.map (·.1)).Nodup) (nodup' : (others.map (·.1)).Nodup)
    (same : ∀ key, Counts model members plan key →
      ∀ value, (key, value) ∈ members ↔ (key, value) ∈ others) :
    AlikeWithin model 1 plan (.object members) (.object others) := by
  have agree : ∀ key, Counts model members plan key → members.lookup key = others.lookup key :=
    fun key counts => lookup_rearranged nodup nodup' (same key counts)
  have equal : ∀ {left right : Option Json} {value : WirePlan}, left = right →
      Option.Rel (AlikeWithin model 0 value) left right := by
    rintro (_ | document) _ value rfl
    · exact .none
    · exact .some rfl
  rcases shaped with ⟨shape, rfl⟩ | ⟨hierarchy, rfl⟩
  · refine .object fun property listed => ?_
    exact equal (agree _ (.property listed))
  · refine .hierarchy (fun passed passes => ?_) fun shape reads property listed => ?_
    · rw [selector?, selector?, agree _ (.discriminator passes)]
    · exact equal (agree _ (.shape reads listed))

/-! The same step on two documents. -/

section Properties
variable {sub : WirePlan → Json → Json → Prop} {members others : List (String × Json)}

theorem readProperty_alike {readValue : ValuePlan → Json → Except ValueError Value}
    (null : ∀ plan document other, sub plan document other → (document = .null ↔ other = .null))
    (same : ∀ value document other, sub (.value value) document other →
      readValue value document = readValue value other)
    (typeName : String) {property : PropertyPlan}
    (agree : Option.Rel (sub (.value property.value)) (members.lookup property.wireName)
      (others.lookup property.wireName)) :
    readProperty readValue typeName members property =
      readProperty readValue typeName others property := by
  rw [readProperty, readProperty]
  generalize members.lookup property.wireName = found at agree
  generalize others.lookup property.wireName = found' at agree
  cases agree with
  | none => rfl
  | @some document other alike =>
      by_cases isNull : document = .null
      · rw [isNull, (null _ _ _ alike).mp isNull]
      · have notNull := mt (null _ _ _ alike).mpr isNull
        have reads := congrArg (Except.map some) (same _ _ _ alike)
        cases document <;> cases other <;> first
          | exact absurd rfl isNull
          | exact absurd rfl notNull
          | exact reads

theorem readObject_alike {readValue : ValuePlan → Json → Planning ValueError Value}
    (null : ∀ plan document other, sub plan document other → (document = .null ↔ other = .null))
    (same : ∀ value document other, sub (.value value) document other →
      (readValue value document).fresh = (readValue value other).fresh)
    {shape : ObjectPlan} (agree : AgreeOn sub shape.properties members others) :
    (readObject readValue shape members).fresh = (readObject readValue shape others).fresh := by
  have fields : (readProperties readValue shape.typeName members shape.properties).fresh =
      (readProperties readValue shape.typeName others shape.properties).fresh := by
    generalize shape.properties = properties at agree
    induction properties with
    | nil => rfl
    | cons property rest ih =>
        have here := readProperty_alike null (fun value document other alike =>
          show freshly readValue value document = freshly readValue value other from
            same value document other alike) shape.typeName (agree property List.mem_cons_self)
        have later := ih fun other listed => agree other (List.mem_cons_of_mem _ listed)
        rw [fresh_readProperties_cons, fresh_readProperties_cons, here, later]
  rw [readObject, readObject, fresh_bind, fresh_bind, fields]

end Properties

theorem fresh_nested (schema : SchemaId) (fuel : Nat) (document : Json) :
    readAt model (fuel + 1) (.value (.reference schema), document) =
      (model.planOf schema .json).mapError .model >>= fun nested =>
        readAt model fuel (nested, document) := by
  simp only [readAt, readWithin, fresh_bind, nestedPlan, fresh_mapError]
  rfl

/-- Reading through a polymorphic plan goes by the selector and by the variant it selects. -/
theorem readAt_hierarchy (fuel : Nat) (plan : HierarchyPlan) (members : List (String × Json)) :
    readAt model (fuel + 1) (.hierarchy plan, .object members) =
      (match selected? plan members with
        | some choice =>
            (model.planOf choice.schema .json).mapError .model >>= fun nested =>
              readAt model fuel (nested, .object members)
        | none =>
            (readObject (fun nested => readWithin model fuel (.value nested)) plan.base members).fresh)
        >>= fun value => .ok ((selector? plan members).elim value (.variant · value)) := by
  have plain : ∀ result : Except ValueError Value, result = result >>= fun value => .ok value := by
    intro result
    cases result <;> rfl
  simp only [readAt, readWithin, selected?, selector?]
  cases members.lookup plan.discriminator with
  | none => exact plain _
  | some found =>
      cases found with
      | string selector =>
          simp only [Option.bind_some]
          cases plan.variants.find? (·.value == selector) with
          | none =>
              rw [fresh_bind]
              rfl
          | some choice =>
              simp only [fresh_bind, bind_assoc, nestedPlan, fresh_mapError]
              rfl
      | _ => exact plain _

/-- What an object is alike in through a polymorphic plan, it is alike in through the plan of the
variant it selects. -/
theorem AlikeStep.selected {sub : WirePlan → Json → Json → Prop} {plan : HierarchyPlan}
    {choice : VariantChoice} {nested : WirePlan} {members others : List (String × Json)}
    (chosen : selected? plan members = some choice)
    (planned : model.planOf choice.schema .json = .ok nested)
    (isObject : model.IsObject choice.schema)
    (selectors : ∀ passed, Passes model members plan passed →
      selector? passed members = selector? passed others)
    (agree : ∀ shape, ReadBy model members plan shape → AgreeOn sub shape.properties members others) :
    AlikeStep model sub nested (.object members) (.object others) := by
  rcases isObject.planOf_shape planned with ⟨shape, rfl⟩ | ⟨inner, rfl⟩
  · exact .object (agree shape (.variant chosen planned))
  · exact .hierarchy (fun passed passes => selectors passed (.variant chosen planned passes))
      fun shape reads => agree shape (.further chosen planned reads)

theorem Made.variant_isObject {plan : HierarchyPlan} (made : Made model (.hierarchy plan))
    {members : List (String × Json)} {choice : VariantChoice}
    (chosen : selected? plan members = some choice) : model.IsObject choice.schema := by
  obtain ⟨text, -, found⟩ := Option.bind_eq_some_iff.mp chosen
  rcases made with ⟨value, same⟩ | ⟨id, planned⟩
  · cases same
  · exact Model.planOf_references planned _
      (HierarchyPlan.refers (List.mem_of_find?_eq_some found))

/-- Objects with one selector are read as the same through a polymorphic plan if they are through the
plan that it turns to. -/
theorem readAt_hierarchy_alike {fuel : Nat} {plan : HierarchyPlan}
    {members others : List (String × Json)}
    (selector : selector? plan members = selector? plan others)
    (base : selected? plan members = none →
      (readObject (fun nested => readWithin model fuel (.value nested)) plan.base members).fresh =
        (readObject (fun nested => readWithin model fuel (.value nested)) plan.base others).fresh)
    (variants : ∀ choice nested, selected? plan members = some choice →
      model.planOf choice.schema .json = .ok nested →
        readAt model fuel (nested, .object members) = readAt model fuel (nested, .object others)) :
    readAt model (fuel + 1) (.hierarchy plan, .object members) =
      readAt model (fuel + 1) (.hierarchy plan, .object others) := by
  have selected : selected? plan members = selected? plan others := by
    rw [selected?, selected?, selector]
  rw [readAt_hierarchy, readAt_hierarchy, ← selector, ← selected]
  cases chosen : selected? plan members with
  | none => rw [base chosen]
  | some choice =>
      dsimp only
      cases planned : model.planOf choice.schema .json with
      | error e => rfl
      | ok nested => rw [mapError_ok, ok_bind, ok_bind, variants choice nested chosen planned]

/-- Documents that are alike are read as the same, in the same number of steps. -/
theorem readAt_alike {fuel levels : Nat} {plan : WirePlan} {document other : Json}
    (made : Made model plan) (alike : AlikeWithin model levels plan document other) :
    readAt model fuel (plan, document) = readAt model fuel (plan, other) := by
  induction fuel generalizing levels plan document other with
  | zero => rfl
  | succ fuel ih =>
      cases levels with
      | zero => exact alike ▸ rfl
      | succ levels =>
          have parts : ∀ (value : ValuePlan) (part other : Json),
              AlikeWithin model levels (.value value) part other →
              readAt model fuel (.value value, part) = readAt model fuel (.value value, other) :=
            fun _ _ _ alike => ih (.inl ⟨_, rfl⟩) alike
          have shapes : ∀ {shape : ObjectPlan} {members others : List (String × Json)},
              AgreeOn (AlikeWithin model levels) shape.properties members others →
              (readObject (fun nested => readWithin model fuel (.value nested)) shape members).fresh =
                (readObject (fun nested => readWithin model fuel (.value nested)) shape others).fresh :=
            fun agree => readObject_alike (fun _ _ _ alike => alike.null_iff) parts agree
          cases alike with
          | same => rfl
          | @list element items others each =>
              have same := mapM_congr (f := fun item => readAt model fuel (.value element, item))
                (each.imp fun _ _ alike => parts _ _ _ alike)
              simp only [readAt, readWithin, fresh_bind, fresh_mapM] at same ⊢
              rw [same]
          | @dictionary entry members others each =>
              have same := mapM_congr (f := fun member : String × Json =>
                  readAt model fuel (.value entry, member.2) >>= fun value => .ok (member.1, value))
                (each.imp fun _ _ alike => by rw [alike.1, parts _ _ _ alike.2])
              simp only [readAt, readWithin, fresh_bind, fresh_mapM] at same ⊢
              exact congrArg (· >>= _) same
          | reference planned inner =>
              rw [fresh_nested, fresh_nested, planned]
              exact ih (.inr ⟨_, planned⟩) inner
          | object agree => exact shapes agree
          | @hierarchy plan members others selectors agree =>
              refine readAt_hierarchy_alike (selectors plan .here)
                (fun chosen => shapes (agree _ (.base chosen))) fun choice nested chosen planned => ?_
              have inner : AlikeWithin model (levels + 1) nested (.object members)
                  (.object others) :=
                .selected chosen planned (made.variant_isObject chosen) selectors agree
              exact ih (.inr ⟨_, planned⟩) inner

/-- Reading depends on known keys only. Documents that differ, inside objects that are read through
an object or a polymorphic plan, at any depth, in the order of keys and in keys that are neither the
wire name of a property of the plan that reads the object nor a discriminator on the way to it, are
read as the same value, or rejected with the same error. -/
theorem read_alike {memo : Memo} (lawful : memo.Obeys model.tableLaw) {id : SchemaId}
    {plan : WirePlan} (planned : model.planOf id .json = .ok plan) {document other : Json}
    (alike : Alike model plan document other) :
    ((read model plan document).run memo).1 = ((read model plan other).run memo).1 := by
  obtain ⟨levels, alike⟩ := alike
  have made : Made model plan := .inr ⟨id, planned⟩
  have same := fun fuel => @readAt_alike model fuel _ _ _ _ made alike
  rw [((read_steady plan document).run lawful).1, ((read_steady plan other).run lawful).1]
  -- The two limits differ, so what settles one document has to settle the other one, too.
  by_cases settled : Settled (read model plan document).fresh
  · have settled' : Settled (readAt model (readLimit model document) (plan, other)) := same _ ▸ settled
    exact (same _).trans (read_of_settled made settled').symm
  · by_cases settled' : Settled (read model plan other).fresh
    · have settled'' : Settled (readAt model (readLimit model other) (plan, document)) :=
        (same _).symm ▸ settled'
      exact (read_of_settled made settled'').trans (same _)
    · rw [not_not.mp settled, not_not.mp settled']

/-- A dog named Rex whose friend is a stray cat, as it is written. -/
def tidyRex : List (String × Json) :=
  [("kind", .string "dog"), ("name", .string "Rex"),
    ("friends", .array [.object [("kind", .string "cat"), ("name", .string "Tom")]])]

/-- The same dog and its friend, with other keys in between and nothing in its place. -/
def untidyRex : List (String × Json) :=
  [("friends", .array [.object [("lives", .int 9), ("name", .string "Tom"), ("kind", .string "cat")]]),
    ("toy", .object []), ("name", .string "Rex"), ("kind", .string "dog")]

theorem counts_cat {key : String}
    (counts : Counts kennel [("kind", .string "cat"), ("name", .string "Tom")] (.hierarchy petPlan) key) :
    key = "kind" ∨ key = "name" := by
  have none : selected? petPlan [("kind", .string "cat"), ("name", .string "Tom")] = none := rfl
  cases counts with
  | discriminator passes =>
      cases passes with
      | here => exact .inl rfl
      | «variant» chosen _ _ => cases none.symm.trans chosen
  | shape reads listed =>
      cases reads with
      | base _ =>
          rw [List.mem_singleton.mp listed]
          exact .inr rfl
      | «variant» chosen _ => cases none.symm.trans chosen
      | further chosen _ _ => cases none.symm.trans chosen

theorem tom_alike : AlikeWithin kennel 1 (.hierarchy petPlan)
    (.object [("kind", .string "cat"), ("name", .string "Tom")])
    (.object [("lives", .int 9), ("name", .string "Tom"), ("kind", .string "cat")]) := by
  refine alike_rearranged (.inr ⟨_, rfl⟩) (by decide) (by decide) fun key counts value => ?_
  rcases counts_cat counts with rfl | rfl <;> simp

theorem rex_alike : Alike kennel (.hierarchy petPlan) (.object tidyRex) (.object untidyRex) := by
  have chosen : selected? petPlan tidyRex = some ⟨"dog", "Dog"⟩ := rfl
  refine ⟨4, .hierarchy (fun passed passes => ?_) fun shape reads => ?_⟩
  · cases passes with
    | here => rfl
    | «variant» found planned _ =>
        cases chosen.symm.trans found
        cases planOf_dog.symm.trans planned
  · cases reads with
    | base none => cases chosen.symm.trans none
    | further found planned _ =>
        cases chosen.symm.trans found
        cases planOf_dog.symm.trans planned
    | «variant» found planned =>
        cases chosen.symm.trans found
        cases planOf_dog.symm.trans planned
        intro property listed
        simp only [dogPlan, List.mem_cons, List.not_mem_nil, or_false] at listed
        rcases listed with rfl | rfl
        · exact .some .same
        · exact .some (.list (.cons (.reference planOf_pet tom_alike) .nil))

/-- Tidy or not, Rex is read as the same dog. -/
theorem rex_read_alike : Memo.Obeys kennel.tableLaw {} ∧
    kennel.planOf "Pet" .json = .ok (.hierarchy petPlan) ∧
    Alike kennel (.hierarchy petPlan) (.object tidyRex) (.object untidyRex) ∧
    ((read kennel (.hierarchy petPlan) (.object untidyRex)).run {}).1 = .ok dog := by
  have lawful := Memo.empty_obeys kennel.tableLaw
  have same := read_alike lawful planOf_pet rex_alike
  exact ⟨lawful, planOf_pet, rex_alike, same.symm⟩

end ApiContract.JsonForm
