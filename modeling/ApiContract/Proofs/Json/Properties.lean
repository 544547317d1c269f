import ApiContract.Proofs.Memo.Planning
import ApiContract.Proofs.Value.Entries
import ApiContract.Value.JsonForm

/-!
Members and fields, property by property. Where no two properties share a wire name, writing a
record makes one member for each property that has a value, in the order of the plan, and reading
makes the fields again.
-/

namespace ApiContract.JsonForm

open Planning

/-- What writing makes of a property: nothing, null, or the document of its value. -/
inductive Writes (writeValue : ValuePlan → Value → Planning ValueError Json)
    (fields : List (String × Value)) (property : PropertyPlan) : Option Json → Prop
  | skip : fields.lookup property.name = none ∨ fields.lookup property.name = some .null →
      property.required = false → Writes writeValue fields property none
  | null : fields.lookup property.name = some .null → property.required = true →
      property.nullable = true → Writes writeValue fields property (some .null)
  | value {value : Value} {document : Json} : fields.lookup property.name = some value →
      value ≠ .null → (writeValue property.value value).fresh = .ok document →
      Writes writeValue fields property (some document)

theorem setMember_fresh {members : List (String × Json)} {key : String}
    (fresh : key ∉ members.map (·.1)) (value : Json) :
    Json.setMember members key value = members ++ [(key, value)] := by
  induction members with
  | nil => rfl
  | cons first rest ih =>
      obtain ⟨k, v⟩ := first
      simp only [List.map_cons, List.mem_cons, not_or] at fresh
      rw [Json.setMember, if_neg (Ne.symm fresh.1), ih fresh.2]
      rfl

/-- The name written now is none of the names still to be written. -/
theorem apart_behind {property : PropertyPlan} {rest : List PropertyPlan}
    {members : List (String × Json)} (fresh : property.wireName ∉ rest.map (·.wireName))
    (apart : ∀ other ∈ rest, other.wireName ∉ members.map (·.1)) (made : Json) :
    ∀ other ∈ rest, other.wireName ∉ (members ++ [(property.wireName, made)]).map (·.1) := by
  intro other member present
  rw [List.map_append, List.mem_append] at present
  rcases present with old | new
  · exact apart other member old
  · have same : other.wireName = property.wireName := by simpa using new
    exact fresh (same ▸ List.mem_map_of_mem member)

theorem writeProperties_value {writeValue : ValuePlan → Value → Planning ValueError Json}
    {typeName : String} {fields : List (String × Value)} {property : PropertyPlan} {value : Value}
    (present : fields.lookup property.name = some value) (notNull : value ≠ .null)
    (members : List (String × Json)) (rest : List PropertyPlan) :
    writeProperties writeValue typeName fields members (property :: rest) =
      writeValue property.value value >>= fun document =>
        writeProperties writeValue typeName fields
          (Json.setMember members property.wireName document) rest := by
  rw [writeProperties]
  split
  next isNull =>
    rw [present] at isNull
    exact absurd (Option.some.inj isNull) notNull
  next absent =>
    rw [present] at absent
    cases absent
  next other _ found =>
    rw [present] at found
    cases found
    rfl

theorem fresh_writeProperties {writeValue : ValuePlan → Value → Planning ValueError Json}
    {typeName : String} {fields : List (String × Value)} {document : PropertyPlan → Option Json}
    {properties : List PropertyPlan} {members : List (String × Json)}
    (each : ∀ property ∈ properties, Writes writeValue fields property (document property))
    (nodup : (properties.map (·.wireName)).Nodup)
    (apart : ∀ property ∈ properties, property.wireName ∉ members.map (·.1)) :
    (writeProperties writeValue typeName fields members properties).fresh =
      .ok (members ++ entriesOf (·.wireName) document properties) := by
  induction properties generalizing members with
  | nil => simp [writeProperties, entriesOf]
  | cons property rest ih =>
      have each' := fun other member => each other (List.mem_cons_of_mem _ member)
      rw [List.map_cons, List.nodup_cons] at nodup
      have here := apart property List.mem_cons_self
      have apart' := fun other member => apart other (List.mem_cons_of_mem _ member)
      have written := each property List.mem_cons_self
      cases has : document property with
      | none =>
          rw [has] at written
          cases written with
          | skip missing optional =>
              have tail := ih each' nodup.2 apart'
              rcases missing with absent | isNull
              · simpa [writeProperties, absent, optional, entriesOf, has] using tail
              · simpa [writeProperties, isNull, optional, entriesOf, has] using tail
      | some made =>
          have tail := ih each' nodup.2 (apart_behind nodup.1 apart' made)
          have joined : entriesOf (·.wireName) document (property :: rest) =
              (property.wireName, made) :: entriesOf (·.wireName) document rest := by
            simp [entriesOf, has]
          rw [joined]
          rw [has] at written
          cases written with
          | null present required nullable =>
              simpa [writeProperties, present, required, nullable, setMember_fresh here] using tail
          | value present notNull wrote =>
              rw [writeProperties_value present notNull]
              simpa [wrote, setMember_fresh here] using tail

/-- The document of a property, if its value can be written. -/
def writtenDocument (writeValue : ValuePlan → Value → Planning ValueError Json)
    (fields : List (String × Value)) (property : PropertyPlan) : Option Json :=
  match fields.lookup property.name with
  | none => none
  | some .null => if property.required then some .null else none
  | some value => (writeValue property.value value).fresh.toOption

theorem writtenDocument_value {writeValue : ValuePlan → Value → Planning ValueError Json}
    {fields : List (String × Value)} {property : PropertyPlan} {value : Value}
    (present : fields.lookup property.name = some value) (notNull : value ≠ .null) :
    writtenDocument writeValue fields property = (writeValue property.value value).fresh.toOption := by
  rw [writtenDocument]
  split
  next absent =>
    rw [present] at absent
    cases absent
  next isNull =>
    rw [present] at isNull
    exact absurd (Option.some.inj isNull) notNull
  next found =>
    rw [present] at found
    cases found
    rfl

theorem writeProperties_cons_eq_ok {writeValue : ValuePlan → Value → Planning ValueError Json}
    {typeName : String} {fields : List (String × Value)} {property : PropertyPlan}
    {rest : List PropertyPlan} {members written : List (String × Json)}
    (wrote : (writeProperties writeValue typeName fields members (property :: rest)).fresh =
      .ok written) :
    Writes writeValue fields property (writtenDocument writeValue fields property) ∧
      (writeProperties writeValue typeName fields
        (((writtenDocument writeValue fields property).map
          (Json.setMember members property.wireName)).getD members) rest).fresh = .ok written := by
  cases present : fields.lookup property.name with
  | none =>
      rw [writeProperties, present] at wrote
      rw [writtenDocument, present]
      cases required : property.required with
      | true => simp [required] at wrote
      | false => exact ⟨.skip (.inl present) required, by simpa [required] using wrote⟩
  | some value =>
      by_cases isNull : value = .null
      · subst isNull
        rw [writeProperties, present] at wrote
        rw [writtenDocument, present]
        cases required : property.required with
        | false => exact ⟨.skip (.inr present) required, by simpa [required] using wrote⟩
        | true =>
            cases nullable : property.nullable with
            | false => simp [required, nullable] at wrote
            | true => exact ⟨.null present required nullable, by simpa [required, nullable] using wrote⟩
      · rw [writeProperties_value present isNull, fresh_bind] at wrote
        rw [writtenDocument_value present isNull]
        obtain ⟨document, made, rested⟩ := bind_eq_ok wrote
        rw [made]
        exact ⟨.value present isNull made, rested⟩

/-- A record that is written is written property by property. -/
theorem writeProperties_eq_ok {writeValue : ValuePlan → Value → Planning ValueError Json}
    {typeName : String} {fields : List (String × Value)} {properties : List PropertyPlan}
    {members written : List (String × Json)}
    (wrote : (writeProperties writeValue typeName fields members properties).fresh = .ok written)
    (nodup : (properties.map (·.wireName)).Nodup)
    (apart : ∀ property ∈ properties, property.wireName ∉ members.map (·.1)) :
    (∀ property ∈ properties,
      Writes writeValue fields property (writtenDocument writeValue fields property)) ∧
      written = members ++ entriesOf (·.wireName) (writtenDocument writeValue fields) properties := by
  induction properties generalizing members with
  | nil =>
      cases wrote
      simp [entriesOf]
  | cons property rest ih =>
      rw [List.map_cons, List.nodup_cons] at nodup
      have apart' := fun other member => apart other (List.mem_cons_of_mem _ member)
      obtain ⟨writes, rested⟩ := writeProperties_cons_eq_ok wrote
      rw [List.forall_mem_cons]
      cases has : writtenDocument writeValue fields property with
      | none =>
          rw [has] at writes rested
          obtain ⟨each, same⟩ := ih rested nodup.2 apart'
          exact ⟨⟨writes, each⟩, by simpa [entriesOf, has] using same⟩
      | some document =>
          rw [has, Option.map_some, Option.getD_some,
            setMember_fresh (apart property List.mem_cons_self)] at rested
          rw [has] at writes
          obtain ⟨each, same⟩ := ih rested nodup.2 (apart_behind nodup.1 apart' document)
          exact ⟨⟨writes, each⟩, by simpa [entriesOf, has] using same⟩

/-- What reading makes of a property: nothing, null, or the value of its document. -/
inductive Reads (readValue : ValuePlan → Json → Planning ValueError Value)
    (members : List (String × Json)) (property : PropertyPlan) : Option Value → Prop
  | absent : members.lookup property.wireName = none → property.required = false →
      property.default = none → Reads readValue members property none
  | null : members.lookup property.wireName = some .null → property.required = true →
      property.nullable = true → Reads readValue members property (some .null)
  | value {value : Value} {document : Json} : members.lookup property.wireName = some document →
      document ≠ .null → (readValue property.value document).fresh = .ok value →
      Reads readValue members property (some value)

theorem readProperties_value {readValue : ValuePlan → Json → Planning ValueError Value}
    {typeName : String} {members : List (String × Json)} {property : PropertyPlan}
    {document : Json} (present : members.lookup property.wireName = some document)
    (notNull : document ≠ .null) (rest : List PropertyPlan) :
    readProperties readValue typeName members (property :: rest) =
      readValue property.value document >>= fun value =>
        readProperties readValue typeName members rest >>= fun fields =>
          pure ((property.name, value) :: fields) := by
  rw [readProperties]
  split
  next isNull =>
    rw [present] at isNull
    exact absurd (Option.some.inj isNull) notNull
  next other _ found =>
    rw [present] at found
    cases found
    rfl
  next absent =>
    rw [present] at absent
    cases absent

theorem fresh_readProperties {readValue : ValuePlan → Json → Planning ValueError Value}
    {typeName : String} {members : List (String × Json)} {value : PropertyPlan → Option Value}
    {properties : List PropertyPlan}
    (each : ∀ property ∈ properties, Reads readValue members property (value property)) :
    (readProperties readValue typeName members properties).fresh =
      .ok (entriesOf (·.name) value properties) := by
  induction properties with
  | nil => rfl
  | cons property rest ih =>
      have tail := ih fun other member => each other (List.mem_cons_of_mem _ member)
      have read := each property List.mem_cons_self
      cases has : value property with
      | none =>
          rw [has] at read
          cases read with
          | absent missing optional noDefault =>
              simpa [readProperties, missing, optional, noDefault, entriesOf, has] using tail
      | some made =>
          have joined : entriesOf (·.name) value (property :: rest) =
              (property.name, made) :: entriesOf (·.name) value rest := by
            simp [entriesOf, has]
          rw [joined]
          rw [has] at read
          cases read with
          | null present required nullable =>
              simp [readProperties, present, required, nullable, tail]
          | value present notNull read =>
              rw [readProperties_value present notNull]
              simp [read, tail]

section OneProperty
variable (readValue : ValuePlan → Json → Except ValueError Value) (typeName : String)

/-- What a property is read as where it has no member of its own. -/
def readDefault (property : PropertyPlan) : Except ValueError (Option Value) :=
  match property.default with
  | some document => (readValue property.value document).map some
  | none => if property.required then .error (.missingProperty typeName property.name) else .ok none

/-- What one property is read as, where values are read as `readValue` does. -/
def readProperty (members : List (String × Json)) (property : PropertyPlan) :
    Except ValueError (Option Value) :=
  match members.lookup property.wireName with
  | some .null =>
      if property.required && property.nullable then .ok (some .null)
      else readDefault readValue typeName property
  | some document => (readValue property.value document).map some
  | none => readDefault readValue typeName property

end OneProperty

section OneByOne
variable {readValue : ValuePlan → Json → Planning ValueError Value} {typeName : String}
  {members : List (String × Json)} {properties : List PropertyPlan}

/-- Reading a value outside of the tables. -/
def freshly (readValue : ValuePlan → Json → Planning ValueError Value) (plan : ValuePlan)
    (document : Json) : Except ValueError Value := (readValue plan document).fresh

theorem fresh_readProperties_cons (property : PropertyPlan) (rest : List PropertyPlan) :
    (readProperties readValue typeName members (property :: rest)).fresh =
      readProperty (freshly readValue) typeName members property >>= fun value =>
        (readProperties readValue typeName members rest).fresh >>= fun fields =>
          .ok ((value.map fun value => (property.name, value)).toList ++ fields) := by
  -- The value of a document is read before the other properties are.
  have reads : ∀ document, (readValue property.value document >>= fun value =>
      readProperties readValue typeName members rest >>= fun fields =>
        pure ((property.name, value) :: fields)).fresh =
      (freshly readValue property.value document).map some >>= fun value =>
        (readProperties readValue typeName members rest).fresh >>= fun fields =>
          .ok ((value.map fun value => (property.name, value)).toList ++ fields) := by
    intro document
    rw [fresh_bind, freshly]
    cases (readValue property.value document).fresh with
    | error e => rfl
    | ok value =>
        rw [ok_bind, fresh_bind]
        cases (readProperties readValue typeName members rest).fresh <;> rfl
  have skips : (readProperties readValue typeName members rest).fresh =
      (readProperties readValue typeName members rest).fresh >>= fun fields =>
        .ok (((none : Option Value).map fun value => (property.name, value)).toList ++ fields) := by
    cases (readProperties readValue typeName members rest).fresh <;> rfl
  have absent : (match property.default with
      | some document => readValue property.value document >>= fun value =>
          readProperties readValue typeName members rest >>= fun fields =>
            pure ((property.name, value) :: fields)
      | none =>
          if property.required then .fail (.missingProperty typeName property.name)
          else readProperties readValue typeName members rest).fresh =
      readDefault (freshly readValue) typeName property >>= fun value =>
        (readProperties readValue typeName members rest).fresh >>= fun fields =>
          .ok ((value.map fun value => (property.name, value)).toList ++ fields) := by
    rw [readDefault]
    cases property.default with
    | some document => exact reads document
    | none =>
        by_cases required : property.required
        · simp [required]
        · simpa [required] using skips
  rw [readProperties, readProperty]
  cases found : members.lookup property.wireName with
  | none => exact absent
  | some document =>
      by_cases isNull : document = .null
      · subst isNull
        by_cases null : property.required && property.nullable
        · rw [if_pos null, if_pos null, fresh_bind]
          cases (readProperties readValue typeName members rest).fresh <;> rfl
        · rw [if_neg null, if_neg null]
          exact absent
      · cases document with
        | null => exact absurd rfl isNull
        | _ => exact reads _

/-- Reading the properties is reading them one by one. -/
theorem readProperties_eq_ok {fields : List (String × Value)} :
    (readProperties readValue typeName members properties).fresh = .ok fields ↔
      ∃ value : PropertyPlan → Option Value, fields = entriesOf (·.name) value properties ∧
        ∀ property ∈ properties,
          readProperty (freshly readValue) typeName members property = .ok (value property) := by
  constructor
  · intro made
    refine ⟨fun property =>
      (readProperty (freshly readValue) typeName members property).toOption.join, ?_⟩
    induction properties generalizing fields with
    | nil =>
        cases made
        exact ⟨rfl, by simp⟩
    | cons property rest ih =>
        rw [fresh_readProperties_cons] at made
        obtain ⟨value, read, remaining⟩ := bind_eq_ok made
        obtain ⟨others, readOthers, same⟩ := bind_eq_ok remaining
        obtain ⟨joined, each⟩ := ih readOthers
        cases same
        constructor
        · rw [joined, entriesOf, entriesOf, List.filterMap_cons, read]
          cases value <;> rfl
        · intro other member
          rcases List.mem_cons.mp member with equal | later
          · simp [equal, read, Except.toOption]
          · exact each other later
  · rintro ⟨value, same, each⟩
    subst same
    induction properties with
    | nil => rfl
    | cons property rest ih =>
        have tail := ih fun other member => each other (List.mem_cons_of_mem _ member)
        rw [fresh_readProperties_cons, each property List.mem_cons_self, tail, entriesOf, entriesOf,
          List.filterMap_cons]
        cases value property <;> rfl

end OneByOne

end ApiContract.JsonForm
