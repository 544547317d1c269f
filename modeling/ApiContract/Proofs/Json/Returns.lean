import ApiContract.Proofs.Json.Conformance
import ApiContract.Proofs.Json.Properties
import ApiContract.Proofs.Value.Nesting
import Mathlib.Tactic.Choose

/-!
The document of a value, for each shape that a value can have: how many steps writing and reading
take, and that reading gives the value back if it does so for the parts. The document of a variant
begins with the discriminator by which the variant is found again.
-/

namespace ApiContract.JsonForm

open Planning

variable {model : Model}

/-- Steps enough to write: an object is entered from a reference at the same level of the value. -/
def writeSteps : WirePlan → Value → Nat
  | .value _, value => 2 * value.depth + 1
  | _, value => 2 * value.depth

/-- Steps enough to read: at one level of the document a reference may lead to a hierarchy, and the
hierarchy to a variant. -/
def readSteps : WirePlan → Json → Nat
  | .value _, document => 3 * document.depth
  | .hierarchy _, document => 3 * document.depth - 1
  | _, document => 3 * document.depth - 2

/-- A value is written as the document, and the document is read as the value. -/
structure Returns (model : Model) (plan : WirePlan) (value : Value) (document : Json) : Prop where
  write : ∀ fuel, writeSteps plan value ≤ fuel →
    (writeWithin model fuel plan value).fresh = .ok document
  read : ∀ fuel, readSteps plan document ≤ fuel →
    (readWithin model fuel plan document).fresh = .ok value
  /-- Null stands for nothing but itself. -/
  null : document = .null → value = .json .null

theorem readSteps_pos (plan : WirePlan) (document : Json) : 0 < readSteps plan document := by
  have positive := document.depth_pos
  cases plan with
  | value plan | hierarchy plan =>
      rw [readSteps]
      omega
  | _ =>
      simp only [readSteps]
      omega

/-- Writing and reading are to be followed for one step and what is left after it. -/
theorem Returns.of_step {plan : WirePlan} {value : Value} {document : Json}
    (positive : 0 < writeSteps plan value)
    (write : ∀ fuel, writeSteps plan value ≤ fuel + 1 →
      (writeWithin model (fuel + 1) plan value).fresh = .ok document)
    (read : ∀ fuel, readSteps plan document ≤ fuel + 1 →
      (readWithin model (fuel + 1) plan document).fresh = .ok value)
    (null : document = .null → value = .json .null) : Returns model plan value document := by
  refine ⟨fun fuel enough => ?_, fun fuel enough => ?_, null⟩
  · obtain ⟨fuel, rfl⟩ := Nat.exists_eq_add_one.mpr (positive.trans_le enough)
    exact write fuel enough
  · obtain ⟨fuel, rfl⟩ := Nat.exists_eq_add_one.mpr ((readSteps_pos plan document).trans_le enough)
    exact read fuel enough

/-- What stands for a property of a record in its document. -/
inductive Carried (model : Model) (fields : List (String × Value)) (property : PropertyPlan) :
    Option Json → Prop
  | skip : fields.lookup property.name = none → Carried model fields property none
  | null : fields.lookup property.name = some .null → Carried model fields property (some .null)
  | value {value : Value} {document : Json} : fields.lookup property.name = some value →
      value ≠ .null → Returns model (.value property.value) value document →
      Carried model fields property (some document)

section Records
variable {plan : ObjectPlan} {fields : List (String × Value)} {made : PropertyPlan → Option Json}

theorem carried_writes (shaped : Shaped plan fields) {property : PropertyPlan}
    (member : property ∈ plan.properties) {document : Option Json}
    (carried : Carried model fields property document) {fuel : Nat}
    (enough : 2 * Value.depthOfEntries fields + 1 ≤ fuel) :
    Writes (fun plan => writeWithin model fuel (.value plan)) fields property document := by
  cases carried with
  | skip absent => exact .skip (.inl absent) (shaped.absent property member absent).1
  | null present =>
      obtain ⟨required, nullable⟩ := shaped.null property member present
      exact .null present required nullable
  | @value value _ present notNull returns =>
      refine .value present notNull (returns.write fuel ?_)
      -- The steps left are those of one level less.
      have below : value.depth ≤ Value.depthOfEntries fields :=
        Value.depth_le_entries (mem_of_lookup present)
      simp only [writeSteps]
      omega

theorem carried_reads (shaped : Shaped plan fields) {property : PropertyPlan}
    (member : property ∈ plan.properties) {document : Option Json}
    (carried : Carried model fields property document) {members : List (String × Json)}
    (found : members.lookup property.wireName = document) {fuel : Nat}
    (enough : 3 * Json.depthOfMembers members ≤ fuel) :
    Reads (fun plan => readWithin model fuel (.value plan)) members property
      (fields.lookup property.name) := by
  cases carried with
  | skip absent =>
      obtain ⟨optional, noDefault⟩ := shaped.absent property member absent
      rw [absent]
      exact .absent found optional noDefault
  | null present =>
      obtain ⟨required, nullable⟩ := shaped.null property member present
      rw [present]
      exact .null found required nullable
  | @value value document present notNull returns =>
      rw [present]
      refine .value found (fun isNull => ?_) (returns.read fuel ?_)
      · exact shaped.raw property member (by rw [present, returns.null isNull])
      · have below : document.depth ≤ Json.depthOfMembers members :=
          Json.depth_le_members (mem_of_lookup found)
        simp only [readSteps]
        omega

/-- The members of a record behind those that are there already. -/
theorem carried_write (shaped : Shaped plan fields) (distinct : Distinct plan)
    (carried : ∀ property ∈ plan.properties, Carried model fields property (made property))
    {first : List (String × Json)}
    (apart : ∀ property ∈ plan.properties, property.wireName ∉ first.map (·.1)) {fuel : Nat}
    (enough : 2 * Value.depthOfEntries fields + 1 ≤ fuel) :
    (writeProperties (fun plan => writeWithin model fuel (.value plan)) plan.typeName fields first
      plan.properties).fresh = .ok (first ++ entriesOf (·.wireName) made plan.properties) :=
  fresh_writeProperties
    (fun property member => carried_writes shaped member (carried property member) enough)
    distinct.2 apart

/-- A record is read out of its members, wherever among others they stand. -/
theorem carried_read (shaped : Shaped plan fields) (distinct : Distinct plan)
    (carried : ∀ property ∈ plan.properties, Carried model fields property (made property))
    {members : List (String × Json)}
    (found : ∀ property ∈ plan.properties, members.lookup property.wireName = made property)
    {fuel : Nat} (enough : 3 * Json.depthOfMembers members ≤ fuel) :
    (readObject (fun plan => readWithin model fuel (.value plan)) plan members).fresh =
      .ok (.record fields) := by
  have each := fun property member =>
    carried_reads shaped member (carried property member) (found property member) enough
  have restored := @entriesOf_map _ _ (fun property : PropertyPlan => property.name)
    (fun property => fields.lookup property.name) (fun name => fields.lookup name) plan.properties
    fun _ _ => rfl
  rw [readObject, fresh_bind, fresh_readProperties each, ok_bind, fresh_pure, Value.ofFields_eq,
    restored, sortEntries_entriesOf shaped.sorted distinct.1 shaped.planned]

/-- Behind members with other names, the members of a record are found by their own. -/
theorem lookup_behind (distinct : Distinct plan) {first : List (String × Json)}
    (apart : ∀ property ∈ plan.properties, property.wireName ∉ first.map (·.1)) :
    ∀ property ∈ plan.properties,
      (first ++ entriesOf (·.wireName) made plan.properties).lookup property.wireName =
        made property := by
  intro property member
  rw [List.lookup_append, lookup_eq_none.mpr (apart property member), Option.none_or]
  exact lookup_entriesOf distinct.2 member

/-- What a record begins with: the discriminator, where its plan has one. -/
def opening (plan : ObjectPlan) : List (String × Json) :=
  match plan.discriminator with
  | some discriminator => [(discriminator.wireName, .string discriminator.value)]
  | none => []

theorem opening_apart (ready : Ready model (.object plan)) :
    ∀ property ∈ plan.properties, property.wireName ∉ (opening plan).map (·.1) := by
  intro property member present
  cases carries : plan.discriminator with
  | none => simp [opening, carries] at present
  | some discriminator =>
      refine ready.2 discriminator carries property member ?_
      simpa [opening, carries] using present

theorem object_returns (ready : Ready model (.object plan)) (shaped : Shaped plan fields)
    (carried : ∀ property ∈ plan.properties, Carried model fields property (made property)) :
    Returns model (.object plan) (.record fields)
      (.object (opening plan ++ entriesOf (·.wireName) made plan.properties)) := by
  have apart := opening_apart ready
  refine .of_step (by simp [writeSteps, Value.depth]) (fun fuel enough => ?_)
    (fun fuel enough => ?_) (fun isNull => by cases isNull)
  · simp only [writeSteps, Value.depth] at enough
    simp only [writeWithin]
    change ((writeProperties _ plan.typeName fields (opening plan) plan.properties) >>= _).fresh
      = _
    rw [fresh_bind, carried_write shaped ready.1 carried apart (by omega)]
    rfl
  · simp only [readSteps, Json.depth] at enough
    exact carried_read shaped ready.1 carried (lookup_behind ready.1 apart) (by omega)

end Records

/-- What the induction gives for a value: of a record each property, of others the document. -/
def Carries (model : Model) : WirePlan → Value → Prop
  | .object plan, value => ∃ (fields : List (String × Value)) (made : PropertyPlan → Option Json),
      value = .record fields ∧ Shaped plan fields ∧
        ∀ property ∈ plan.properties, Carried model fields property (made property)
  | plan, value => ∃ document, Returns model plan value document

theorem Carries.returns {plan : WirePlan} {value : Value} (ready : Ready model plan)
    (carries : Carries model plan value) : ∃ document, Returns model plan value document := by
  cases plan with
  | object plan =>
      obtain ⟨fields, made, same, shaped, carried⟩ := carries
      exact ⟨_, same ▸ object_returns ready shaped carried⟩
  | _ => exact carries

theorem fresh_nestedPlan {id : SchemaId} {nested : WirePlan}
    (planned : model.planOf id .json = .ok nested) :
    (nestedPlan model id .json).fresh = .ok nested := by
  rw [nestedPlan, fresh_mapError]
  change (model.planOf id .json).mapError _ = _
  rw [planned]
  rfl

theorem scalar_returns {kind : ScalarKind} {value : Value} (fits : Scalar.FitsJson kind value) :
    ∃ document, Returns model (.value (.scalar kind)) value document := by
  obtain ⟨document, written, read, null⟩ := Scalar.ofJson_toJson fits
  refine ⟨document, .of_step (by simp [writeSteps]) (fun fuel _ => ?_) (fun fuel _ => ?_) null⟩
  · simp [writeWithin, written]
  · simp [readWithin, read]

theorem list_returns {element : ValuePlan} {items : List Value}
    (each : ∀ item ∈ items, ∃ document, Returns model (.value element) item document) :
    ∃ document, Returns model (.value (.list element)) (.list items) document := by
  choose! document returns using each
  refine ⟨.array (items.map document), .of_step (by simp [writeSteps]) (fun fuel enough => ?_)
    (fun fuel enough => ?_) (fun isNull => by cases isNull)⟩
  · simp only [writeSteps, Value.depth] at enough
    have written : ∀ item ∈ items,
        (writeWithin model fuel (.value element) item).fresh = .ok (document item) := by
      intro item member
      have below := Value.depth_le_items member
      exact (returns item member).write fuel (by simp only [writeSteps]; omega)
    simp only [writeWithin, fresh_bind, fresh_mapM]
    rw [mapM_eq_ok written]
    rfl
  · simp only [readSteps, Json.depth] at enough
    have read : ∀ item ∈ items,
        (readWithin model fuel (.value element) (document item)).fresh = .ok item := by
      intro item member
      have below := Json.depth_le_items (List.mem_map_of_mem (f := document) member)
      exact (returns item member).read fuel (by simp only [readSteps]; omega)
    have all := mapM_map_eq_ok (f := document)
      (g := fun document => (readWithin model fuel (.value element) document).fresh) read
    simp only [readWithin, fresh_bind, fresh_mapM]
    rw [all]
    rfl

theorem dictionary_returns {entry : ValuePlan} {entries : List (String × Value)}
    (sorted : SortedKeys entries)
    (each : ∀ item ∈ entries, ∃ document, Returns model (.value entry) item.2 document) :
    ∃ document, Returns model (.value (.dictionary entry)) (.map entries) document := by
  choose! document returns using each
  refine ⟨.object (entries.map fun item => (item.1, document item)),
    .of_step (by simp [writeSteps]) (fun fuel enough => ?_) (fun fuel enough => ?_)
      (fun isNull => by cases isNull)⟩
  · simp only [writeSteps, Value.depth] at enough
    have written : ∀ item ∈ entries,
        ((writeWithin model fuel (.value entry) item.2).fresh >>= fun document =>
          (.ok (item.1, document) : Except ValueError (String × Json))) =
          .ok (item.1, document item) := by
      intro item member
      have below := Value.depth_le_entries member
      rw [(returns item member).write fuel (by simp only [writeSteps]; omega)]
      rfl
    simp only [writeWithin, fresh_bind, fresh_mapM, fresh_pure]
    rw [mapM_eq_ok written]
    rfl
  · simp only [readSteps, Json.depth] at enough
    have read : ∀ item ∈ entries,
        ((readWithin model fuel (.value entry) (document item)).fresh >>= fun value =>
          (.ok (item.1, value) : Except ValueError (String × Value))) = .ok item := by
      intro item member
      have inside : (item.1, document item) ∈
          entries.map fun item => (item.1, document item) :=
        List.mem_map_of_mem (f := fun item => (item.1, document item)) member
      have below : (document item).depth ≤ _ := Json.depth_le_members inside
      rw [(returns item member).read fuel (by simp only [readSteps]; omega)]
      rfl
    have all := mapM_map_eq_ok (f := fun item => (item.1, document item))
      (g := fun member => (readWithin model fuel (.value entry) member.2).fresh >>= fun value =>
        (.ok (member.1, value) : Except ValueError (String × Value))) read
    simp only [readWithin, fresh_bind, fresh_mapM, fresh_pure]
    rw [all, ok_bind, Value.ofEntries_eq, sortEntries_of_sorted sorted]

theorem reference_returns {schema : SchemaId} {nested : WirePlan} {value : Value}
    (planned : model.planOf schema .json = .ok nested) (structured : ∀ plan, nested ≠ .value plan)
    (returns : ∃ document, Returns model nested value document) :
    ∃ document, Returns model (.value (.reference schema)) value document := by
  obtain ⟨document, returns⟩ := returns
  have fewerWrites : writeSteps nested value ≤ 2 * value.depth := by
    cases nested with
    | value plan => exact absurd rfl (structured plan)
    | _ => exact Nat.le_refl _
  have fewerReads : readSteps nested document ≤ 3 * document.depth - 1 := by
    cases nested with
    | value plan => exact absurd rfl (structured plan)
    | _ => simp only [readSteps]; omega
  refine ⟨document, .of_step (by simp [writeSteps]) (fun fuel enough => ?_) (fun fuel enough => ?_)
    returns.null⟩
  · simp only [writeSteps] at enough
    simp only [writeWithin, fresh_bind, fresh_nestedPlan planned, ok_bind]
    exact returns.write fuel (by omega)
  · simp only [readSteps] at enough
    simp only [readWithin, fresh_bind, fresh_nestedPlan planned, ok_bind]
    exact returns.read fuel (by omega)

section Hierarchies
variable {plan : HierarchyPlan}

theorem variant_returns {choice : VariantChoice} {object : ObjectPlan}
    {fields : List (String × Value)} {made : PropertyPlan → Option Json}
    (selected : plan.variants.find? (·.value == choice.value) = some choice)
    (planned : model.planOf choice.schema .json = .ok (.object object))
    (carries : object.discriminator = some ⟨plan.discriminator, choice.value⟩)
    (ready : Ready model (.object object)) (shaped : Shaped object fields)
    (carried : ∀ property ∈ object.properties, Carried model fields property (made property)) :
    ∃ document, Returns model (.hierarchy plan) (.variant choice.value (.record fields)) document := by
  have returns := object_returns ready shaped carried
  have opened : opening object = [(plan.discriminator, .string choice.value)] := by
    simp [opening, carries]
  rw [opened, List.singleton_append] at returns
  refine ⟨.object ((plan.discriminator, .string choice.value) ::
    entriesOf (·.wireName) made object.properties), .of_step (by simp [writeSteps, Value.depth])
      (fun fuel enough => ?_) (fun fuel enough => ?_) (fun isNull => by cases isNull)⟩
  · simp only [writeSteps, Value.depth] at enough
    simp only [writeWithin, selected, fresh_bind, fresh_nestedPlan planned, ok_bind]
    exact returns.write fuel (by simp only [writeSteps, Value.depth]; omega)
  · simp only [readSteps, Json.depth] at enough
    have read := returns.read fuel (by simp only [readSteps, Json.depth]; omega)
    simp only [readWithin, List.lookup_cons_self, selected, fresh_bind,
      fresh_nestedPlan planned, ok_bind, read]
    rfl

theorem Sound.base (sound : Sound model (.hierarchy plan)) : Sound model (.object plan.base) :=
  sound.part sound.ready.based.base (List.subset_append_left _ _)

theorem opening_of_base (based : Based plan) : opening plan.base = [] := by
  simp [opening, based.none]

theorem selector_apart (based : Based plan) (selector : String) :
    ∀ property ∈ plan.base.properties,
      property.wireName ∉ [(plan.discriminator, Json.string selector)].map (·.1) := by
  intro property member present
  exact based.apart property member (by simpa using present)

/-- A record of the base writes nothing under the name of the discriminator. -/
theorem discriminator_absent (based : Based plan) {made : PropertyPlan → Option Json} :
    plan.discriminator ∉ (entriesOf (·.wireName) made plan.base.properties).map (·.1) := by
  intro present
  obtain ⟨property, member, same⟩ := List.mem_map.mp ((keys_entriesOf _ _ _).subset present)
  exact based.apart property member same

theorem unknown_returns {selector : String} {fields : List (String × Value)}
    {made : PropertyPlan → Option Json} (unknown : plan.variants.find? (·.value == selector) = none)
    (ready : Ready model (.hierarchy plan)) (shaped : Shaped plan.base fields)
    (carried : ∀ property ∈ plan.base.properties, Carried model fields property (made property)) :
    ∃ document, Returns model (.hierarchy plan) (.variant selector (.record fields)) document := by
  have distinct := ready.1
  have apart' := selector_apart ready.based selector
  refine ⟨.object ((plan.discriminator, .string selector) ::
    entriesOf (·.wireName) made plan.base.properties),
    .of_step (by simp [writeSteps, Value.depth]) (fun fuel enough => ?_) (fun fuel enough => ?_)
      (fun isNull => by cases isNull)⟩
  · simp only [writeSteps, Value.depth] at enough
    simp only [writeWithin, unknown, fresh_bind]
    rw [carried_write shaped distinct carried apart' (by omega)]
    rfl
  · simp only [readSteps, Json.depth] at enough
    have read := carried_read shaped distinct carried (lookup_behind distinct apart')
      (by rw [List.singleton_append]; omega : _ ≤ fuel)
    rw [List.singleton_append] at read
    simp only [readWithin, List.lookup_cons_self, unknown, fresh_bind, read, ok_bind]
    rfl

theorem base_returns {fields : List (String × Value)} {made : PropertyPlan → Option Json}
    (ready : Ready model (.hierarchy plan)) (shaped : Shaped plan.base fields)
    (carried : ∀ property ∈ plan.base.properties, Carried model fields property (made property)) :
    ∃ document, Returns model (.hierarchy plan) (.record fields) document := by
  have returns := object_returns ready.based.base shaped carried
  rw [opening_of_base ready.based, List.nil_append] at returns
  have absent : (entriesOf (·.wireName) made plan.base.properties).lookup plan.discriminator =
      none := lookup_eq_none.mpr (discriminator_absent ready.based)
  refine ⟨_, .of_step (by simp [writeSteps, Value.depth]) (fun fuel enough => ?_)
    (fun fuel enough => ?_) returns.null⟩
  · exact returns.write (fuel + 1) enough
  · have read := returns.read (fuel + 1) (by simp only [readSteps] at enough ⊢; omega)
    simp only [readWithin] at read
    simp only [readWithin, absent, read]

end Hierarchies

end ApiContract.JsonForm
