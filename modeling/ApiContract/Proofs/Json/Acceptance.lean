import ApiContract.Proofs.Json.Ending
import ApiContract.Proofs.Json.Writing

/-!
What is written is read: the reader accepts each document that the writer makes of a strict value.
The reader is found to end, one part of the document after the other; that it ends within its limit
is known of all reading that ends.
-/

namespace ApiContract.JsonForm

open Planning

/-- A place of writing, a plan and a value, and a place that is written for it. -/
inductive Part (model : Model) : WirePlan × Value → WirePlan × Value → Prop
  | item {element : ValuePlan} {items : List Value} {item : Value} : item ∈ items →
      Part model (.value (.list element), .list items) (.value element, item)
  | entry {plan : ValuePlan} {entries : List (String × Value)} {entry : String × Value} :
      entry ∈ entries → Part model (.value (.dictionary plan), .map entries) (.value plan, entry.2)
  | reference {schema : SchemaId} {nested : WirePlan} {value : Value} :
      model.planOf schema .json = .ok nested →
      Part model (.value (.reference schema), value) (nested, value)
  | property {plan : ObjectPlan} {fields : List (String × Value)} {property : PropertyPlan}
      {value : Value} : property ∈ plan.properties → fields.lookup property.name = some value →
      Part model (.object plan, .record fields) (.value property.value, value)
  | unwrapped {plan : ObjectPlan} {selector : String} {value : Value} :
      Part model (.object plan, .variant selector value) (.object plan, value)
  | variant {plan : HierarchyPlan} {selector : String} {choice : VariantChoice} {nested : WirePlan}
      {value : Value} : plan.variants.find? (·.value == selector) = some choice →
      model.planOf choice.schema .json = .ok nested →
      Part model (.hierarchy plan, .variant selector value) (nested, value)
  | unknown {plan : HierarchyPlan} {selector : String} {value : Value} :
      plan.variants.find? (·.value == selector) = none →
      Part model (.hierarchy plan, .variant selector value) (.object plan.base, value)
  | base {plan : HierarchyPlan} {fields : List (String × Value)} :
      Part model (.hierarchy plan, .record fields) (.object plan.base, .record fields)

/-- A property that is there only as null, which it is not to keep. -/
def LeftOut (fields : List (String × Value)) (property : PropertyPlan) : Prop :=
  (property.required && property.nullable) = false ∧
    ∀ value, fields.lookup property.name = some value → value = .null ∨ value = .json .null

/-- A property that can be missing: its default can be read, or it is optional. -/
def CanMiss (model : Model) (property : PropertyPlan) : Prop :=
  match property.default with
  | some default => ∃ value, (read model (.value property.value) default).fresh = .ok value
  | none => property.required = false

/-- What a place holds if it is not lenient itself. -/
def StrictHere (model : Model) : WirePlan × Value → Prop
  | (.value (.scalar kind), value) => Scalar.StrictJson kind value
  | (.object plan, .record fields) =>
      ∀ property ∈ plan.properties, LeftOut fields property → CanMiss model property
  | (.hierarchy plan, .variant selector _) =>
      ∀ choice, plan.variants.find? (·.value == selector) = some choice → Selects model plan choice
  | _ => True

/-- No place inside a value is lenient. -/
def Strict (model : Model) (plan : WirePlan) (value : Value) : Prop :=
  ∀ place, Relation.ReflTransGen (Part model) (plan, value) place → StrictHere model place

variable {model : Model}

theorem Strict.here {plan : WirePlan} {value : Value} (strict : Strict model plan value) :
    StrictHere model (plan, value) := strict _ .refl

theorem Strict.part {plan nested : WirePlan} {value inner : Value} (strict : Strict model plan value)
    (part : Part model (plan, value) (nested, inner)) : Strict model nested inner :=
  fun place inside => strict place (.head part inside)

theorem Strict.of_parts {plan : WirePlan} {value : Value} (here : StrictHere model (plan, value))
    (parts : ∀ nested inner, Part model (plan, value) (nested, inner) → Strict model nested inner) :
    Strict model plan value := by
  intro place inside
  rcases inside.cases_head with rfl | ⟨⟨nested, inner⟩, part, within⟩
  · exact here
  · exact parts nested inner part place within

/-! Steps enough for one part are enough for the others, too, if they are the most. -/

def Readable (model : Model) (fuel : Nat) (plan : WirePlan) (document : Json) : Prop :=
  ∃ value, ReadsWithin model fuel plan document value

theorem Readable.more {fuel : Nat} {plan : WirePlan} {document : Json}
    (readable : Readable model fuel plan document) : Readable model (fuel + 1) plan document := by
  obtain ⟨value, reads⟩ := readable
  exact ⟨value, reads.more⟩

theorem exists_steps {α : Type} {done : Nat → α → Prop}
    (more : ∀ steps item, done steps item → done (steps + 1) item) {items : List α}
    (each : ∀ item ∈ items, ∃ steps, done steps item) : ∃ steps, ∀ item ∈ items, done steps item := by
  have mono : ∀ {few many item}, few ≤ many → done few item → done many item := by
    intro few many item le holds
    induction le with
    | refl => exact holds
    | step _ ih => exact more _ _ ih
  induction items with
  | nil => exact ⟨0, List.forall_mem_nil _⟩
  | cons first rest ih =>
      obtain ⟨few, here⟩ := each first List.mem_cons_self
      obtain ⟨many, later⟩ := ih fun item member => each item (List.mem_cons_of_mem _ member)
      refine ⟨max few many, List.forall_mem_cons.mpr ⟨?_, fun item member => ?_⟩⟩
      · exact mono (Nat.le_max_left _ _) here
      · exact mono (Nat.le_max_right _ _) (later item member)

section Records
variable {plan : ObjectPlan} {members : List (String × Json)} {property : PropertyPlan}

/-- A property is read out of the members in so many steps. -/
def PropertyReadable (model : Model) (members : List (String × Json)) (steps : Nat)
    (property : PropertyPlan) : Prop :=
  ∃ value, ReadsProperty (fun nested => ReadsWithin model steps (.value nested)) members property value

theorem PropertyReadable.more {steps : Nat} (readable : PropertyReadable model members steps property) :
    PropertyReadable model members (steps + 1) property := by
  obtain ⟨value, reads⟩ := readable
  refine ⟨value, ?_⟩
  cases reads with
  | null present counts => exact .null present counts
  | member present notNull read => exact .member present notNull read.more
  | default missing declared read => exact .default missing declared read.more
  | skip missing none optional => exact .skip missing none optional

theorem default_readable (missing : Defaults members property) (canMiss : CanMiss model property) :
    ∃ steps, PropertyReadable model members steps property := by
  rw [CanMiss] at canMiss
  split at canMiss
  next default declared =>
    obtain ⟨value, read⟩ := canMiss
    exact ⟨_, some value, .default missing declared read⟩
  next noDefault => exact ⟨0, none, .skip missing noDefault canMiss⟩

theorem property_readable (consistent : Consistent model) {fuel : Nat} {fields : List (String × Value)}
    {document : Option Json}
    (writes : Writes (fun nested => writeWithin model fuel (.value nested)) fields property document)
    (found : members.lookup property.wireName = document) (held : Held model (.value property.value))
    (canMiss : LeftOut fields property → CanMiss model property)
    (below : ∀ value, fields.lookup property.name = some value → ∀ document,
      WritesWithin model fuel (.value property.value) value document →
        ∃ steps, Readable model steps (.value property.value) document) :
    ∃ steps, PropertyReadable model members steps property := by
  cases writes with
  | skip unset optional =>
      refine default_readable (.inl found) (canMiss ⟨by simp [optional], fun value present => ?_⟩)
      rcases unset with missing | isNull
      · rw [missing] at present
        cases present
      · rw [isNull] at present
        cases present
        exact .inl rfl
  | null _ required nullable => exact ⟨0, some .null, .null found (by simp [required, nullable])⟩
  | @value value document present _ wrote =>
      by_cases isNull : document = .null
      · subst isNull
        cases counts : property.required && property.nullable with
        | true => exact ⟨0, some .null, .null found counts⟩
        | false =>
            -- What is written as null is the raw null.
            have raw := WritesWithin.raw consistent held wrote
            refine default_readable (.inr ⟨found, counts⟩) (canMiss ⟨counts, fun other same => ?_⟩)
            rw [present] at same
            cases same
            exact .inr raw
      · obtain ⟨steps, read, reads⟩ := below value present document wrote
        exact ⟨steps, some read, .member found isNull reads⟩

theorem record_readable (consistent : Consistent model) {fuel : Nat} {fields : List (String × Value)}
    {first : List (String × Json)} (written : WritesMembers model fuel plan fields first members)
    (held : Held model (.object plan))
    (apart : ∀ property ∈ plan.properties, property.wireName ∉ first.map (·.1))
    (strict : StrictHere model (.object plan, .record fields))
    (below : ∀ property ∈ plan.properties, ∀ value, fields.lookup property.name = some value →
      ∀ document, WritesWithin model fuel (.value property.value) value document →
        ∃ steps, Readable model steps (.value property.value) document) :
    ∃ steps made, ReadsProperties (ReadsWithin model steps) plan members made := by
  have distinct : Distinct plan := held.apart.1
  obtain ⟨document, writes, rfl⟩ := written.parts distinct apart
  have found := @lookup_behind plan document distinct first apart
  have each : ∀ property ∈ plan.properties, ∃ steps, PropertyReadable model
      (first ++ entriesOf (·.wireName) document plan.properties) steps property := fun property member =>
    property_readable consistent (writes property member) (found property member)
      (held.property member) (strict property member) (below property member)
  obtain ⟨steps, readable⟩ := exists_steps (fun _ _ readable => readable.more) each
  choose! made reads using readable
  exact ⟨steps, made, reads⟩

end Records

/-- The documents of all parts are read with the same number of steps. -/
theorem parts_readable {α : Type} {plan : WirePlan} {document : α → Json} {parts : List α}
    (each : ∀ part ∈ parts, ∃ steps, Readable model steps plan (document part)) :
    ∃ steps, ∃ read : α → Value,
      ∀ part ∈ parts, ReadsWithin model steps plan (document part) (read part) := by
  obtain ⟨steps, readable⟩ := @exists_steps α (fun steps part => Readable model steps plan (document part))
    (fun _ _ readable => readable.more) parts each
  choose! read reads using readable
  exact ⟨steps, read, reads⟩

/-- What is written with so much fuel of a strict value can be read. -/
def Accepts (model : Model) (fuel : Nat) : Prop :=
  ∀ {plan value document}, WritesWithin model fuel plan value document → Held model plan →
    Strict model plan value → ∃ steps, Readable model steps plan document

theorem readable_of_step {steps : Nat} {plan : WirePlan} {document : Json} {value : Value}
    (step : ReadStep model (ReadsWithin model steps) plan document value) :
    ∃ steps, Readable model steps plan document :=
  ⟨steps + 1, value, readWithin_succ.mpr step⟩

section Steps
variable {fuel : Nat}

theorem list_accepted (accepts : Accepts model fuel) {element : ValuePlan} {items : List Value}
    {documents : List Json}
    (each : List.Forall₂ (WritesWithin model fuel (.value element)) items documents)
    (held : Held model (.value (.list element)))
    (strict : Strict model (.value (.list element)) (.list items)) :
    ∃ steps, Readable model steps (.value (.list element)) (.array documents) := by
  have readable : ∀ document ∈ documents, ∃ steps, Readable model steps (.value element) document := by
    intro document member
    obtain ⟨item, inside, wrote⟩ := exists_of_forall₂ each member
    exact accepts wrote (held.part trivial (List.Subset.refl _)) (strict.part (.item inside))
  obtain ⟨steps, read, reads⟩ := parts_readable readable
  have all : List.Forall₂ (ReadsWithin model steps (.value element)) documents (documents.map read) := by
    rw [List.forall₂_map_right_iff, List.forall₂_same]
    exact reads
  exact readable_of_step (.list all)

theorem dictionary_accepted (accepts : Accepts model fuel) {plan : ValuePlan}
    {entries : List (String × Value)} {members : List (String × Json)}
    (each : List.Forall₂ (fun entry member => WritesWithin model fuel (.value plan) entry.2 member.2)
      entries members) (held : Held model (.value (.dictionary plan)))
    (strict : Strict model (.value (.dictionary plan)) (.map entries)) :
    ∃ steps, Readable model steps (.value (.dictionary plan)) (.object members) := by
  have readable : ∀ member ∈ members, ∃ steps, Readable model steps (.value plan) member.2 := by
    intro member listed
    obtain ⟨entry, inside, wrote⟩ := exists_of_forall₂ each listed
    exact accepts wrote (held.part trivial (List.Subset.refl _)) (strict.part (.entry inside))
  obtain ⟨steps, read, reads⟩ := parts_readable readable
  have all : List.Forall₂ (fun member entry =>
        ReadsWithin model steps (.value plan) member.2 entry.2 ∧ member.1 = entry.1)
      members (members.map fun member => (member.1, read member)) := by
    rw [List.forall₂_map_right_iff, List.forall₂_same]
    exact fun member listed => ⟨reads member listed, rfl⟩
  exact readable_of_step (.dictionary all)

theorem members_accepted (consistent : Consistent model) (accepts : Accepts model fuel)
    {plan : ObjectPlan} {fields : List (String × Value)} {first members : List (String × Json)}
    (written : WritesMembers model fuel plan fields first members) (held : Held model (.object plan))
    (apart : ∀ property ∈ plan.properties, property.wireName ∉ first.map (·.1))
    (strict : Strict model (.object plan) (.record fields)) :
    ∃ steps made, ReadsProperties (ReadsWithin model steps) plan members made := by
  apply record_readable consistent written held apart strict.here
  intro property member value present document wrote
  exact accepts wrote (held.property member) (strict.part (.property member present))

theorem variant_accepted (consistent : Consistent model) (accepts : Accepts model fuel)
    {plan : HierarchyPlan} {selector : String} {choice : VariantChoice} {nested : WirePlan} {value : Value}
    {document : Json} (chosen : plan.variants.find? (·.value == selector) = some choice)
    (planned : model.planOf choice.schema .json = .ok nested)
    (written : WritesWithin model fuel nested value document)
    (strict : Strict model (.hierarchy plan) (.variant selector value)) :
    ∃ steps, Readable model steps (.hierarchy plan) document := by
  have held := consistent.held planned
  have selected : choice.value = selector := by simpa using List.find?_some chosen
  obtain ⟨steps, read, reads⟩ := accepts written held (strict.part (.variant chosen planned))
  -- The variant opens with the selector that leads the reader to the same plan.
  obtain ⟨object, rfl, carries⟩ := strict.here choice chosen nested planned
  have ready : Ready model (.object object) := held.apart
  obtain ⟨members, rfl⟩ := object_written ready written
  have opens : (opening object ++ members).lookup plan.discriminator = some (.string selector) := by
    rw [opening, carries, ← selected]
    exact List.lookup_cons_self
  exact readable_of_step (.variant opens chosen planned reads)

theorem unknown_accepted (consistent : Consistent model) (accepts : Accepts model fuel)
    {plan : HierarchyPlan} {selector : String} {fields : List (String × Value)}
    {members : List (String × Json)} (unknown : plan.variants.find? (·.value == selector) = none)
    (written : WritesMembers model fuel plan.base fields [(plan.discriminator, .string selector)] members)
    (held : Held model (.hierarchy plan))
    (strict : Strict model (.hierarchy plan) (.variant selector (.record fields))) :
    ∃ steps, Readable model steps (.hierarchy plan) (.object members) := by
  have based : Based plan := held.apart
  have apart := selector_apart based selector
  obtain ⟨document, -, joined⟩ := written.parts based.distinct apart
  obtain ⟨steps, made, reads⟩ :=
    members_accepted consistent accepts written held.base apart (strict.part (.unknown unknown))
  have opens : members.lookup plan.discriminator = some (.string selector) := by
    rw [joined]
    exact List.lookup_cons_self
  exact readable_of_step (.unknown opens unknown reads)

theorem base_accepted (consistent : Consistent model) (accepts : Accepts model fuel)
    {plan : HierarchyPlan} {fields : List (String × Value)} {members : List (String × Json)}
    (written : WritesMembers model fuel plan.base fields (opening plan.base) members)
    (held : Held model (.hierarchy plan)) (strict : Strict model (.hierarchy plan) (.record fields)) :
    ∃ steps, Readable model steps (.hierarchy plan) (.object members) := by
  have based : Based plan := held.apart
  have ready : Ready model (.object plan.base) := based.base
  have apart := opening_apart ready
  obtain ⟨document, -, joined⟩ := written.parts based.distinct apart
  obtain ⟨steps, made, reads⟩ :=
    members_accepted consistent accepts written held.base apart (strict.part .base)
  have absent : members.lookup plan.discriminator = none := by
    rw [joined, opening_of_base based, List.nil_append, lookup_eq_none]
    exact discriminator_absent based
  refine readable_of_step (.base (fun selector found => ?_) reads)
  rw [absent] at found
  cases found

end Steps

/-- What is written of a strict value can be read, by induction on the steps of writing. -/
theorem accepts_all (consistent : Consistent model) (fuel : Nat) : Accepts model fuel := by
  induction fuel with
  | zero =>
      intro plan value document written
      cases written
  | succ fuel ih =>
      intro plan value document written held strict
      cases written.step with
      | scalar wrote =>
          obtain ⟨read, accepted⟩ := Scalar.ofJson_of_toJson strict.here wrote
          exact ⟨1, read, readWithin_succ.mpr (.scalar accepted)⟩
      | list each => exact list_accepted ih each held strict
      | dictionary each => exact dictionary_accepted ih each held strict
      | reference planned wrote =>
          obtain ⟨steps, read, reads⟩ :=
            ih wrote (consistent.held planned) (strict.part (.reference planned))
          exact readable_of_step (.reference planned reads)
      | @object plan _ _ wrote =>
          have ready : Ready model (.object plan) := held.apart
          have apart := opening_apart ready
          obtain ⟨steps, read, reads⟩ := members_accepted consistent ih wrote held apart strict
          exact readable_of_step (.object reads)
      | unwrapped wrote => exact ih wrote held (strict.part .unwrapped)
      | variant chosen planned wrote => exact variant_accepted consistent ih chosen planned wrote strict
      | unknown unknown wrote => exact unknown_accepted consistent ih unknown wrote held strict
      | base wrote => exact base_accepted consistent ih wrote held strict

theorem read_of_write (consistent : Consistent model) {id : SchemaId} {plan : WirePlan}
    (planned : model.planOf id .json = .ok plan) {value : Value} {document : Json}
    (written : (write model plan value).fresh = .ok document) (strict : Strict model plan value) :
    ∃ read', (read model plan document).fresh = .ok read' := by
  obtain ⟨steps, read', reads⟩ := accepts_all consistent _ written (consistent.held planned) strict
  exact ⟨read', reads.read (.inr ⟨id, planned⟩)⟩

end ApiContract.JsonForm
