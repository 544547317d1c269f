import ApiContract.Proofs.Xml.Children
import Mathlib.Tactic.Choose

/-!
The element of a value, for each shape that a value can have. A record returns if its children do; a
nested record has a plan because the closure of the root has one for everything it reaches.
-/

namespace ApiContract.XmlForm

open Planning
open Xml (Element Named)

variable {model : Model}

/-- A record is written as the element, whose tree is read as the record. -/
structure ReturnsRecord (model : Model) (plan : ElementPlan) (name : String) (value : Value)
    (element : Element) : Prop where
  write : ∀ fuel, value.depth ≤ fuel →
    (writeElement model fuel plan name value).fresh = .ok element
  name : element.name = name
  named : Named element
  read : ∀ fuel, element.settled.depth ≤ fuel →
    (readElement model fuel plan element.settled).fresh = .ok value

theorem fresh_nestedElement {schema : SchemaId} {plan : ElementPlan}
    (planned : model.planOf schema .xml = .ok (.element plan)) :
    (nestedElement model schema).fresh = .ok plan := by
  have nested : (JsonForm.nestedPlan model schema .xml).fresh = .ok (.element plan) := by
    rw [JsonForm.nestedPlan, fresh_mapError]
    change (model.planOf schema .xml).mapError _ = _
    rw [planned]
    rfl
  rw [nestedElement, fresh_bind, nested]
  rfl

theorem write_element {plan : ElementPlan} {value : Value} {element : Element}
    (written : (writeElement model (value.depth + 1) plan plan.name value).fresh = .ok element) :
    (write model (.element plan) value).fresh = .ok (Xml.document element) := by
  simp only [write]
  rw [fresh_bind, written]
  rfl

/-- The text of an element is read by way of the tree that parsing rebuilds. -/
theorem read_document {plan : ElementPlan} {element : Element} (named : Named element)
    (sameName : element.name = plan.name) :
    (read model (.element plan) (Xml.document element)).fresh =
      (readElement model element.settled.depth plan element.settled).fresh := by
  have settled : element.settled.name = plan.name := (Xml.Element.name_settled element).trans sameName
  simp only [read, Xml.parse_document named, liftM_ok_bind, if_pos settled]

theorem returns_nested {schema : SchemaId} {plan : ElementPlan} {name : String} {value : Value}
    {element : Element} (planned : model.planOf schema .xml = .ok (.element plan))
    (returns : ReturnsRecord model plan name value element) :
    ReturnsItem model (.model schema) name value element := by
  refine ⟨fun fuel enough => ?_, returns.name, returns.named, fun fuel enough => ?_⟩
  · rw [writeItem, fresh_bind, fresh_nestedElement planned, ok_bind, returns.write fuel enough]
  · rw [readItem, fresh_bind, fresh_nestedElement planned, ok_bind, returns.read fuel enough]

section Records
variable {plan : ElementPlan} {fields : List (String × Value)} {made : ChildPlan → List Element}

/-- The attributes of a record in its element. -/
def writtenAttributes (fields : List (String × Value)) (plan : ElementPlan) :
    List (String × String) :=
  entriesOf (·.name) (fun entry => textOf fields entry.property entry.kind) plan.attributes

theorem tagNames (tidy : Tidy plan) {name : String} (named : Xml.isName name = true) :
    Xml.TagNames name (writtenAttributes fields plan) := by
  have keys := keys_entriesOf (fun entry : AttributePlan => entry.name)
    (fun entry => textOf fields entry.property entry.kind) plan.attributes
  refine ⟨named, fun entry member => tidy.names entry.1 ?_, tidy.attributes.sublist keys⟩
  have inside := keys.subset (List.mem_map_of_mem member)
  rw [ElementPlan.xmlNames, List.cons_append]
  exact List.mem_cons_of_mem _ (List.mem_append_left _ inside)

theorem childName (tidy : Tidy plan) {child : ChildPlan} (member : child ∈ plan.children) :
    Xml.isName child.name = true ∧
      ∀ itemName ∈ ElementPlan.itemNames child.content, Xml.isName itemName = true := by
  have inside : ∀ name ∈ child.name :: ElementPlan.itemNames child.content,
      Xml.isName name = true := fun name listed => by
    refine tidy.names name ?_
    rw [ElementPlan.xmlNames, List.cons_append]
    refine List.mem_cons_of_mem _ (List.mem_append_right _ ?_)
    exact List.mem_flatMap.mpr ⟨child, member, listed⟩
  exact ⟨inside _ List.mem_cons_self, fun itemName listed =>
    inside itemName (List.mem_cons_of_mem _ listed)⟩

/-- Children stand in the element only where a property wrote some. -/
theorem hasChildren_of_ne_nil
    (each : ∀ child ∈ plan.children, Stands model fields child (made child))
    (some : plan.children.flatMap made ≠ []) : HasChildren plan fields := by
  obtain ⟨element, member⟩ := List.exists_mem_of_ne_nil _ some
  obtain ⟨child, member', inside⟩ := List.mem_flatMap.mp member
  have stands := each child member'
  generalize made child = elements at stands inside
  cases stands with
  | absent missing => cases inside
  | present found returns =>
      exact ⟨child, member', _, found, returns.trace (List.ne_nil_of_mem inside)⟩

/-- The fields are what was read for the attributes, the text and the children. -/
theorem fields_restored (tidy : Tidy plan) (shaped : Shaped plan fields) :
    Value.ofFields
        (entriesOf (·.property) (fun entry => fields.lookup entry.property) plan.attributes ++
          entriesOf (·.property) (fun text => fields.lookup text.property) plan.text.toList ++
          entriesOf (·.property) (fun child => fields.lookup child.property) plan.children) =
      .record fields := by
  have attributes := @entriesOf_map _ _ (fun entry : AttributePlan => entry.property)
    (fun entry => fields.lookup entry.property) (fun name => fields.lookup name) plan.attributes
    fun _ _ => rfl
  have text := @entriesOf_map _ _ (fun text : TextPlan => text.property)
    (fun text => fields.lookup text.property) (fun name => fields.lookup name) plan.text.toList
    fun _ _ => rfl
  have children := @entriesOf_map _ _ (fun child : ChildPlan => child.property)
    (fun child => fields.lookup child.property) (fun name => fields.lookup name) plan.children
    fun _ _ => rfl
  rw [attributes, text, children, ← entriesOf_append, ← entriesOf_append, Value.ofFields_eq]
  exact congrArg Value.record
    (sortEntries_entriesOf shaped.sorted tidy.properties shaped.planned)

/-- The element that a record is written as. -/
def recordElement (plan : ElementPlan) (fields : List (String × Value))
    (made : ChildPlan → List Element) (name : String) : Element :=
  .mk name (writtenAttributes fields plan) (writtenText fields plan) (plan.children.flatMap made)

theorem settled_recordElement (name : String) :
    (recordElement plan fields made name).settled =
      .mk name (writtenAttributes fields plan)
        (Xml.settledText (writtenText fields plan) (plan.children.flatMap made))
        ((plan.children.flatMap made).map Element.settled) := by
  rw [recordElement, Element.settled, Xml.settledAll_eq_map]

/-! What the settled element of a record holds. -/

theorem attributes_recordElement (name : String) :
    (recordElement plan fields made name).settled.attributes = writtenAttributes fields plan := by
  rw [settled_recordElement]
  rfl

theorem text_recordElement (name : String) :
    (recordElement plan fields made name).settled.text? =
      Xml.settledText (writtenText fields plan) (plan.children.flatMap made) := by
  rw [settled_recordElement]
  rfl

/-- The names of the children tell their elements apart. -/
theorem childrenNamed_recordElement (tidy : Tidy plan)
    (named : ∀ child ∈ plan.children, ∀ element ∈ made child, element.name = child.name)
    (name : String) {child : ChildPlan} (member : child ∈ plan.children) :
    (recordElement plan fields made name).settled.childrenNamed child.name =
      (made child).map Element.settled := by
  rw [settled_recordElement]
  exact childrenNamed_flatMap tidy.children named member

theorem depth_recordElement {name : String} {fuel : Nat}
    (enough : (recordElement plan fields made name).settled.depth ≤ fuel) :
    ∃ less, fuel = less + 1 ∧
      ∀ child ∈ plan.children, ∀ element ∈ made child, element.settled.depth ≤ less := by
  rw [settled_recordElement, Element.depth] at enough
  refine ⟨fuel - 1, by omega, fun child member element inside => ?_⟩
  have listed : element ∈ plan.children.flatMap made :=
    List.mem_flatMap.mpr ⟨child, member, inside⟩
  have := Element.depth_le_children (List.mem_map_of_mem (f := Element.settled) listed)
  omega

theorem Stands.named {child : ChildPlan} {elements : List Element}
    (stands : Stands model fields child elements) :
    ∀ element ∈ elements, element.name = child.name ∧ Named element := by
  cases stands with
  | absent _ => exact List.forall_mem_nil _
  | present _ returns => exact returns.named

section Carried
variable (shaped : Shaped plan fields)
  (attributes : ∀ entry ∈ plan.attributes, ∀ value, fields.lookup entry.property = some value →
    Scalar.FitsText entry.kind value)
  (text : ∀ text, plan.text = some text → ∀ value, fields.lookup text.property = some value →
    Scalar.FitsText text.kind value)
  (each : ∀ child ∈ plan.children, Stands model fields child (made child))
include shaped attributes text each

theorem writeElement_returns (name : String) {fuel : Nat} (enough : (Value.record fields).depth ≤ fuel) :
    (writeElement model fuel plan name (.record fields)).fresh =
      .ok (recordElement plan fields made name) := by
  obtain ⟨fuel, rfl⟩ : ∃ less, fuel = less + 1 :=
    ⟨fuel - 1, by simp only [Value.depth] at enough; omega⟩
  have written := @writeChildren_eq model fields plan.typeName plan.children made shaped.notNull
    (fun child member missing => (shaped.children child member missing).1) each fuel
    (by simp only [Value.depth] at enough; omega)
  rw [writeElement_record, writeAttributes_eq shaped.notNull shaped.attributes attributes,
    writeContentText_eq shaped text]
  simp only [liftM_ok_bind]
  rw [fresh_bind, written]
  rfl

theorem readElement_returns (tidy : Tidy plan) (name : String) {fuel : Nat}
    (enough : (recordElement plan fields made name).settled.depth ≤ fuel) :
    (readElement model fuel plan (recordElement plan fields made name).settled).fresh =
      .ok (.record fields) := by
  obtain ⟨fuel, rfl, deep⟩ := depth_recordElement enough
  have named := fun child member element inside =>
    ((each child member).named element inside).1
  have apart : ∀ child ∈ plan.children, (recordElement plan fields made name).settled.childrenNamed
      child.name = (made child).map Element.settled :=
    fun _ member => childrenNamed_recordElement tidy named name member
  have attributes' := @readAttributes_eq fields plan.typeName plan.attributes
    (recordElement plan fields made name).settled shaped.attributes attributes fun entry member => by
      rw [attributes_recordElement]
      exact lookup_entriesOf tidy.attributes member
  have text' := readContentText_eq shaped text (text_recordElement name)
    (hasChildren_of_ne_nil each)
  have children' := @readChildren_eq model fields plan.typeName plan.children made _
    shaped.children each apart fuel deep
  rw [readElement_succ, attributes', text']
  simp only [liftM_ok_bind]
  rw [fresh_bind, children', ok_bind, fresh_pure, fields_restored tidy shaped]

theorem returns_record (tidy : Tidy plan) {name : String} (named : Xml.isName name = true) :
    ReturnsRecord model plan name (.record fields) (recordElement plan fields made name) := by
  constructor
  · intro fuel enough
    exact writeElement_returns shaped attributes text each name enough
  · rfl
  · refine .mk (tagNames tidy named) fun element member => ?_
    obtain ⟨child, member', inside⟩ := List.mem_flatMap.mp member
    exact ((each child member').named element inside).2
  · intro fuel enough
    exact readElement_returns shaped attributes text each tidy name enough

end Carried

end Records

/-- What returning means for each part of a plan. -/
def Returned (model : Model) : Part → Value → Prop
  | .item content, value => ∀ name, Xml.isName name = true →
      ∃ element, ReturnsItem model content name value element
  | .child content, value => ∀ child : ChildPlan, child.content = content →
      Xml.isName child.name = true →
      (∀ itemName ∈ ElementPlan.itemNames content, Xml.isName itemName = true) →
      (child.required = false → ¬Traceless content value) →
      ∃ elements, ReturnsChild model child value elements
  | .element plan, value => Tidy plan → ∀ name, Xml.isName name = true →
      ∃ element, ReturnsRecord model plan name value element

theorem returned_list {wrapped : Bool} {itemName : String} {content : ItemContent}
    {items : List Value} (each : ∀ item ∈ items, Returned model (.item content) item) :
    Returned model (.child (.sequence wrapped itemName content)) (.list items) := by
  intro child holds named itemNames visible
  cases wrapped with
  | true =>
      have named' := itemNames itemName List.mem_cons_self
      choose! made returns using fun item member => each item member itemName named'
      exact ⟨_, returns_wrapped holds named returns⟩
  | false =>
      choose! made returns using fun item member => each item member child.name named
      refine ⟨_, returns_bare holds returns fun optional empty => ?_⟩
      exact visible optional ⟨⟨itemName, content, rfl⟩, by rw [empty]⟩

theorem returned_dictionary {content : ItemContent} {entries : List (String × Value)}
    (sorted : SortedKeys entries) (keys : ∀ entry ∈ entries, Xml.isName entry.1 = true)
    (each : ∀ entry ∈ entries, Returned model (.item content) entry.2) :
    Returned model (.child (.dictionary content)) (.map entries) := by
  intro child holds named _ _
  choose! made returns using fun entry member => each entry member entry.1 (keys entry member)
  exact ⟨_, returns_dictionary holds named sorted returns⟩

theorem returned_record {plan : ElementPlan} {fields : List (String × Value)}
    (shaped : Shaped plan fields)
    (attributes : ∀ entry ∈ plan.attributes, ∀ value, fields.lookup entry.property = some value →
      Scalar.FitsText entry.kind value)
    (text : ∀ text, plan.text = some text → ∀ value, fields.lookup text.property = some value →
      Scalar.FitsText text.kind value)
    (children : ∀ child ∈ plan.children, ∀ value, fields.lookup child.property = some value →
      Returned model (.child child.content) value) :
    Returned model (.element plan) (.record fields) := by
  intro tidy name named
  have each : ∀ child ∈ plan.children, ∃ elements, Stands model fields child elements := by
    intro child member
    cases found : fields.lookup child.property with
    | none => exact ⟨[], .absent found⟩
    | some value =>
        obtain ⟨named', itemNames⟩ := childName tidy member
        obtain ⟨elements, returns⟩ := children child member value found child rfl named' itemNames
          fun optional => shaped.lists child member optional value found
        exact ⟨elements, .present found returns⟩
  choose! made stands using each
  exact ⟨_, returns_record shaped attributes text stands tidy named⟩

/-- What conforms to a part that the root leads to returns from it. -/
theorem Planned.returned {root : SchemaId} {plan : ElementPlan} (planned : Planned model root plan)
    {part : Part} {value : Value} (conforms : Conforms model part value)
    (reached : ∀ linked ∈ part.models, model.XmlReachable root linked) :
    Returned model part value := by
  -- By induction over conformance; only nested records use that the closure has planned them.
  induction conforms with
  | scalar fits => exact fun name named => returns_scalar fits named
  | @nested schema value _ ih =>
      obtain ⟨ids, closed⟩ := planned.closed
      have reachable := reached schema List.mem_cons_self
      obtain ⟨nested, made⟩ := Model.planned_of_closure closed reachable
      have tidy := planned.tidy schema nested reachable made
      have returned := ih nested made fun linked member => .next reachable made member
      intro name named
      obtain ⟨element, returns⟩ := returned tidy name named
      exact ⟨element, returns_nested made returns⟩
  | single _ ih =>
      intro child holds named _ _
      obtain ⟨element, returns⟩ := ih reached child.name named
      exact ⟨_, returns_single holds returns⟩
  | list _ ih => exact returned_list fun item member => ih item member reached
  | dictionary sorted keys _ ih =>
      exact returned_dictionary sorted keys fun entry member => ih entry member reached
  | @record plan fields shaped attributes text _ ih =>
      apply returned_record shaped attributes text
      intro child member value found
      refine ih child member value found fun linked inside => reached linked ?_
      exact List.mem_flatMap.mpr ⟨child, member, inside⟩

end ApiContract.XmlForm
