import ApiContract.Proofs.Json.Steps
import ApiContract.Proofs.Value.Strict
import ApiContract.Proofs.Xml.Returns
import ApiContract.Proofs.Xml.Tables
import Mathlib.Logic.Relation

/-!
What is written is read: the reader accepts each document that the writer makes of a strict record.
Elements are told apart by their names, so each property finds the elements that it has written; what
it has written may be nothing, which an optional property is read from.
-/

namespace ApiContract.XmlForm

open Planning
open Xml (Element Named)

variable {model : Model}

/-- A part of a plan with its value, and what is written inside of it. -/
inductive Inner (model : Model) : Part × Value → Part × Value → Prop
  | nested {schema : SchemaId} {plan : ElementPlan} {value : Value} :
      model.planOf schema .xml = .ok (.element plan) →
      Inner model (.item (.model schema), value) (.element plan, value)
  | single {content : ItemContent} {value : Value} :
      Inner model (.child (.item content), value) (.item content, value)
  | item {wrapped : Bool} {itemName : String} {content : ItemContent} {items : List Value}
      {item : Value} : item ∈ items →
      Inner model (.child (.sequence wrapped itemName content), .list items) (.item content, item)
  | entry {content : ItemContent} {entries : List (String × Value)} {entry : String × Value} :
      entry ∈ entries →
      Inner model (.child (.dictionary content), .map entries) (.item content, entry.2)
  | child {plan : ElementPlan} {fields : List (String × Value)} {child : ChildPlan} {value : Value} :
      child ∈ plan.children → present fields child.property = some value →
      Inner model (.element plan, .record fields) (.child child.content, value)

/-- Some child element stands in the element of the record. -/
def WritesChildren (plan : ElementPlan) (fields : List (String × Value)) : Prop :=
  ∃ child ∈ plan.children, ∃ value, present fields child.property = some value ∧
    ¬Traceless child.content value

/-- A child that can be absent: it is optional, and a default that stands in for it can be read. -/
structure CanMiss (child : ChildPlan) : Prop where
  optional : child.required = false
  default : ∀ default kind, child.default = some default → child.content = .item (.value kind) →
    ∃ value, Scalar.ofJson kind default = .ok value

/-- The attributes and the text of a record are not lenient, and what it leaves out can be missing.
Beside child elements blank text is dropped, so the enum of a required text has to take the empty text
in its place. -/
structure StrictRecord (plan : ElementPlan) (fields : List (String × Value)) : Prop where
  attributes : ∀ entry ∈ plan.attributes, ∀ value, present fields entry.property = some value →
    Scalar.StrictText entry.kind value
  text : ∀ text, plan.text = some text → ∀ value, present fields text.property = some value →
    Scalar.StrictText text.kind value
  blank : ∀ text, plan.text = some text → text.required = true → ∀ values,
    text.kind = .enumeration values → ∀ raw, present fields text.property = some (.string raw) →
      raw ≠ "" → Xml.isBlankText raw = true → WritesChildren plan fields → Scalar.Declared values ""
  children : ∀ child ∈ plan.children, present fields child.property = none → CanMiss child

/-- What a part holds if it is not lenient itself; the keys of a dictionary become element names. -/
def StrictHere : Part × Value → Prop
  | (.item (.value kind), value) => Scalar.StrictText kind value
  | (.child (.dictionary _), .map entries) => ∀ entry ∈ entries, Xml.isName entry.1 = true
  | (.element plan, .record fields) => StrictRecord plan fields
  | _ => True

/-- Nothing inside a value is lenient. -/
def Strict (model : Model) (part : Part) (value : Value) : Prop :=
  ∀ inner, Relation.ReflTransGen (Inner model) (part, value) inner → StrictHere inner

theorem Strict.here {part : Part} {value : Value} (strict : Strict model part value) :
    StrictHere (part, value) := strict _ .refl

theorem Strict.inner {part part' : Part} {value value' : Value} (strict : Strict model part value)
    (inside : Inner model (part, value) (part', value')) : Strict model part' value' :=
  fun inner within => strict inner (.head inside within)

theorem Strict.of_inner {part : Part} {value : Value} (here : StrictHere (part, value))
    (inside : ∀ part' value', Inner model (part, value) (part', value') → Strict model part' value') :
    Strict model part value := by
  intro inner within
  rcases within.cases_head with rfl | ⟨⟨part', value'⟩, first, rest⟩
  · exact here
  · exact inside part' value' first inner rest

/-! Scalars of a record. -/

section Scalars
variable {fields : List (String × Value)} {typeName : String}

theorem toText_null (kind : ScalarKind) : (Scalar.toText kind .null).toOption = none := by
  cases kind <;> rfl

/-- The text of a property is that of its value, and there is none if the value is null. -/
theorem textOf_eq (property : String) (kind : ScalarKind) :
    textOf fields property kind =
      (present fields property).bind fun value => (Scalar.toText kind value).toOption := by
  rw [textOf, present]
  split
  next isNull =>
    rw [isNull, Option.bind_some, toText_null]
    rfl
  next => rfl

/-- A scalar that is written, if it is there, and may be missing if it is not. -/
def WritesText (fields : List (String × Value)) (property : String) (kind : ScalarKind)
    (required : Bool) : Prop :=
  (present fields property = none ∧ required = false) ∨
    ∃ value text, present fields property = some value ∧ Scalar.toText kind value = .ok text

theorem WritesText.textOf {property : String} {kind : ScalarKind} {required : Bool}
    (writes : WritesText fields property kind required) :
    (textOf fields property kind = none ∧ present fields property = none ∧ required = false) ∨
      ∃ value text, textOf fields property kind = some text ∧ present fields property = some value ∧
        Scalar.toText kind value = .ok text := by
  rw [textOf_eq]
  rcases writes with ⟨absent, optional⟩ | ⟨value, text, there, written⟩
  · exact .inl ⟨by rw [absent]; rfl, absent, optional⟩
  · exact .inr ⟨value, text, by rw [there, Option.bind_some, written]; rfl, there, written⟩

theorem writeAttributes_eq_ok {entries : List AttributePlan} {attributes : List (String × String)}
    (written : writeAttributes typeName fields entries = .ok attributes) :
    (∀ entry ∈ entries, WritesText fields entry.property entry.kind entry.required) ∧
      attributes = entriesOf (·.name) (fun entry => textOf fields entry.property entry.kind) entries := by
  induction entries generalizing attributes with
  | nil =>
      cases written
      exact ⟨List.forall_mem_nil _, rfl⟩
  | cons entry rest ih =>
      rw [writeAttributes] at written
      rw [List.forall_mem_cons, entriesOf, List.filterMap_cons, textOf_eq]
      cases there : present fields entry.property with
      | none =>
          rw [there] at written
          cases required : entry.required with
          | true => simp [required] at written
          | false =>
              simp only [required, Bool.false_eq_true, if_false] at written
              obtain ⟨each, same⟩ := ih written
              exact ⟨⟨.inl ⟨there, rfl⟩, each⟩, same⟩
      | some value =>
          simp only [there] at written
          obtain ⟨text, made, rest⟩ := bind_eq_ok written
          obtain ⟨others, wrote, same⟩ := bind_eq_ok rest
          obtain ⟨each, joined⟩ := ih wrote
          cases same
          refine ⟨⟨.inr ⟨value, text, there, made⟩, each⟩, ?_⟩
          simp only [Option.bind_some, made, joined]
          rfl

theorem readAttributes_ok {element : Element} {entries : List AttributePlan}
    (written : ∀ entry ∈ entries, WritesText fields entry.property entry.kind entry.required)
    (strict : ∀ entry ∈ entries, ∀ value, present fields entry.property = some value →
      Scalar.StrictText entry.kind value)
    (found : ∀ entry ∈ entries,
      element.attributes.lookup entry.name = textOf fields entry.property entry.kind) :
    ∃ read, readAttributes typeName element entries = .ok read := by
  induction entries with
  | nil => exact ⟨[], rfl⟩
  | cons entry rest ih =>
      obtain ⟨here, later⟩ := List.forall_mem_cons.mp written
      obtain ⟨others, read⟩ := ih later (List.forall_mem_cons.mp strict).2 (List.forall_mem_cons.mp found).2
      rw [readAttributes, found entry List.mem_cons_self]
      rcases here.textOf with ⟨none, -, optional⟩ | ⟨value, text, some, there, made⟩
      · exact ⟨others, by simp [none, optional, read]⟩
      · obtain ⟨accepted, reads⟩ :=
          Scalar.ofText_of_toText (strict entry List.mem_cons_self value there) made
        exact ⟨_, by simp only [some, reads, read, ok_bind]; rfl⟩

theorem writeContentText_eq_ok {plan : ElementPlan} {content : Option String}
    (written : writeContentText typeName fields plan.text = .ok content) :
    (∀ text, plan.text = some text → WritesText fields text.property text.kind text.required) ∧
      content = writtenText fields plan := by
  rw [writtenText]
  cases has : plan.text with
  | none =>
      rw [has] at written
      cases written
      refine ⟨?_, rfl⟩
      rintro text ⟨⟩
  | some text =>
      simp only [has, writeContentText] at written
      rw [Option.bind_some, textOf_eq]
      cases there : present fields text.property with
      | none =>
          rw [there] at written
          cases required : text.required with
          | true => simp [required] at written
          | false =>
              simp only [required, Bool.false_eq_true, if_false] at written
              cases written
              refine ⟨fun other same => ?_, rfl⟩
              cases same
              exact .inl ⟨there, required⟩
      | some value =>
          simp only [there] at written
          obtain ⟨made, wrote, same⟩ := map_eq_ok written
          subst same
          refine ⟨fun other same => ?_, by rw [Option.bind_some, wrote]; rfl⟩
          cases same
          exact .inr ⟨value, made, there, wrote⟩

/-- What settling leaves of the text of a record is read. -/
theorem readContentText_ok {plan : ElementPlan} (strict : StrictRecord plan fields)
    (written : ∀ text, plan.text = some text → WritesText fields text.property text.kind text.required)
    {element : Element} {children : List Element}
    (settled : element.text? = Xml.settledText (writtenText fields plan) children)
    (beside : children ≠ [] → WritesChildren plan fields) :
    ∃ read, readContentText element plan.text = .ok read := by
  cases has : plan.text with
  | none => exact ⟨[], rfl⟩
  | some text =>
      rw [writtenText, has, Option.bind_some] at settled
      simp only [readContentText]
      rcases (written text has).textOf with ⟨none, -, optional⟩ | ⟨value, content, some, there, made⟩
      · rw [none] at settled
        exact ⟨[], by simp [settled, Xml.settledText, optional]⟩
      · rw [some, Xml.settledText, Option.filter_some] at settled
        have strict' := strict.text text has value there
        by_cases kept : (content != "" && (children.isEmpty || !Xml.isBlankText content)) = true
        · obtain ⟨read, reads⟩ := Scalar.ofText_of_toText strict' made
          rw [if_pos kept] at settled
          exact ⟨_, by simp only [settled, reads]; rfl⟩
        · rw [if_neg kept] at settled
          cases required : text.required with
          | false => exact ⟨[], by simp [settled]⟩
          | true =>
              -- The empty text is what was written, or it stands in for blanks beside child elements.
              have empty : ∃ read, Scalar.ofText text.kind "" = .ok read := by
                by_cases same : content = ""
                · exact Scalar.ofText_of_toText strict' (same ▸ made)
                · have stands : children ≠ [] ∧ Xml.isBlankText content = true := by
                    simpa [same] using kept
                  refine Scalar.ofText_dropped strict' made same stands.2 fun values kind isText => ?_
                  subst isText
                  exact strict.blank text has required values kind content there same stands.2
                    (beside stands.1)
              obtain ⟨read, reads⟩ := empty
              exact ⟨_, by simp only [settled, if_true, reads]; rfl⟩

end Scalars

/-! Child elements. -/

/-- An item that is read again, wherever it stands. -/
structure AcceptedItem (model : Model) (content : ItemContent) (name : String) (element : Element) :
    Prop where
  name : element.name = name
  named : Named element
  reads : ∀ fuel, element.settled.depth ≤ fuel →
    ∃ value, (readItem model fuel content element.settled).fresh = .ok value

/-- The elements of a property that is read again from a parent in which they are the children of its
name; of an optional list there may be none. -/
structure AcceptedChild (model : Model) (child : ChildPlan) (elements : List Element) : Prop where
  named : ∀ element ∈ elements, element.name = child.name ∧ Named element
  reads : ∀ fuel parent, (∀ element ∈ elements, element.settled.depth ≤ fuel) →
    parent.childrenNamed child.name = elements.map Element.settled →
    ∃ found, (readChild (readItem model fuel) child parent).fresh = .ok found ∧
      (found = none → CanMiss child)

/-- What is written with so much fuel of a strict record is read again. -/
def Accepts (model : Model) (fuel : Nat) : Prop :=
  ∀ {id plan name value element}, (writeElement model fuel plan name value).fresh = .ok element →
    model.planOf id .xml = .ok (.element plan) → Xml.isName name = true →
    Strict model (.element plan) value →
      element.name = name ∧ Named element ∧ ∀ fuel', element.settled.depth ≤ fuel' →
        ∃ read, (readElement model fuel' plan element.settled).fresh = .ok read

theorem nestedElement_eq_ok {schema : SchemaId} {plan : ElementPlan} :
    (nestedElement model schema).fresh = .ok plan ↔ model.planOf schema .xml = .ok (.element plan) := by
  refine ⟨fun found => ?_, fresh_nestedElement⟩
  rw [nestedElement, fresh_bind] at found
  obtain ⟨wire, planned, same⟩ := bind_eq_ok found
  cases wire <;> cases same
  exact JsonForm.nestedPlan_eq_ok.mp planned

theorem absent_accepted {child : ChildPlan} (canMiss : CanMiss child) : AcceptedChild model child [] := by
  refine ⟨List.forall_mem_nil _, fun fuel parent _ found => ⟨none, ?_, fun _ => canMiss⟩⟩
  rw [readChild_absent found canMiss.optional]
  rfl

section Contents
variable {fuel : Nat} {content : ItemContent}

theorem item_accepted (accepts : Accepts model fuel) {name : String} {value : Value} {element : Element}
    (written : (writeItem model fuel content name value).fresh = .ok element)
    (named : Xml.isName name = true) (strict : Strict model (.item content) value) :
    AcceptedItem model content name element := by
  cases content with
  | value kind =>
      rw [writeItem, fresh_bind] at written
      obtain ⟨text, made, same⟩ := bind_eq_ok written
      cases same
      obtain ⟨read, reads⟩ := Scalar.ofText_of_toText strict.here made
      refine ⟨rfl, .mk (Xml.tagNames_nil named) (List.forall_mem_nil _), fun fuel _ => ⟨read, ?_⟩⟩
      rw [readItem, Xml.Element.content_settled, reads]
      rfl
  | model schema =>
      rw [writeItem, fresh_bind] at written
      obtain ⟨plan, found, wrote⟩ := bind_eq_ok written
      have planned := nestedElement_eq_ok.mp found
      obtain ⟨sameName, named', reads⟩ := accepts wrote planned named (strict.inner (.nested planned))
      refine ⟨sameName, named', fun fuel' enough => ?_⟩
      obtain ⟨read, accepted⟩ := reads fuel' enough
      exact ⟨read, by rw [readItem, fresh_bind, found, ok_bind, accepted]⟩

theorem items_read {name : String} {elements : List Element}
    (each : ∀ element ∈ elements, AcceptedItem model content name element) {fuel : Nat}
    (enough : ∀ element ∈ elements, element.settled.depth ≤ fuel) :
    ∃ values, ((elements.map Element.settled).mapM (readItem model fuel content)).fresh = .ok values := by
  rw [fresh_mapM]
  apply exists_mapM_eq_ok
  intro element member
  obtain ⟨written, inside, rfl⟩ := List.mem_map.mp member
  exact (each written inside).reads fuel (enough written inside)

theorem items_accepted (accepts : Accepts model fuel) {items : List Value} {name : String}
    {elements : List Element}
    (written : (items.mapM (writeItem model fuel content name)).fresh = .ok elements)
    (named : Xml.isName name = true) (strict : ∀ item ∈ items, Strict model (.item content) item) :
    ∀ element ∈ elements, AcceptedItem model content name element := by
  intro element member
  rw [fresh_mapM] at written
  obtain ⟨item, inside, wrote⟩ := exists_of_forall₂ (mapM_eq_ok_iff.mp written) member
  exact item_accepted accepts wrote named (strict item inside)

theorem single_accepted {child : ChildPlan} (holds : child.content = .item content) {element : Element}
    (item : AcceptedItem model content child.name element) : AcceptedChild model child [element] := by
  refine ⟨List.forall_mem_singleton.mpr ⟨item.name, item.named⟩, fun fuel parent enough found => ?_⟩
  obtain ⟨value, reads⟩ := item.reads fuel (enough element List.mem_cons_self)
  refine ⟨some value, ?_, fun absent => absurd absent (Option.some_ne_none _)⟩
  simp [readChild, holds, Xml.Element.child?_eq_head?, found, reads]

theorem bare_accepted {child : ChildPlan} {itemName : String}
    (holds : child.content = .sequence false itemName content) {elements : List Element}
    (each : ∀ element ∈ elements, AcceptedItem model content child.name element) :
    AcceptedChild model child elements := by
  refine ⟨fun element member => ⟨(each element member).name, (each element member).named⟩,
    fun fuel parent enough found => ?_⟩
  obtain ⟨values, reads⟩ := items_read each enough
  by_cases absent : ((elements.map Element.settled).isEmpty && !child.required) = true
  · have optional : child.required = false := by simpa using (Bool.and_eq_true_iff.mp absent).2
    refine ⟨none, by simp only [readChild, holds, found, absent, if_true, fresh_pure], fun _ => ?_⟩
    exact ⟨optional, fun _ _ _ single => by rw [holds] at single; cases single⟩
  · refine ⟨some (.list values), ?_, fun absent => absurd absent (Option.some_ne_none _)⟩
    simp only [readChild, holds, found]
    rw [if_neg absent, fresh_bind, reads]
    rfl

theorem wrapped_accepted {child : ChildPlan} {itemName : String}
    (holds : child.content = .sequence true itemName content) (named : Xml.isName child.name = true)
    {elements : List Element}
    (each : ∀ element ∈ elements, AcceptedItem model content itemName element) :
    AcceptedChild model child [.mk child.name [] none elements] := by
  have named' := Xml.Element.named_wrapper named fun element member => (each element member).named
  refine ⟨List.forall_mem_singleton.mpr ⟨rfl, named'⟩, fun fuel parent enough found => ?_⟩
  have deep := enough _ List.mem_cons_self
  obtain ⟨values, reads⟩ := items_read each fun element member =>
    Xml.Element.depth_of_wrapper deep member
  have all : (Element.mk child.name [] none (elements.map Element.settled)).childrenNamed itemName =
      elements.map Element.settled :=
    Xml.Element.filter_name_eq_self fun element member => (each element member).name
  refine ⟨some (.list values), ?_, fun absent => absurd absent (Option.some_ne_none _)⟩
  simp only [readChild, holds, Xml.Element.child?_eq_head?, found, List.map_cons, List.head?_cons,
    Xml.Element.settled_wrapper, all]
  rw [fresh_bind, reads]
  rfl

theorem dictionary_accepted {child : ChildPlan} (holds : child.content = .dictionary content)
    (named : Xml.isName child.name = true) {elements : List Element}
    (each : ∀ element ∈ elements, ∃ name, AcceptedItem model content name element) :
    AcceptedChild model child [.mk child.name [] none elements] := by
  have named' := Xml.Element.named_wrapper named fun element member => (each element member).elim
    fun _ accepted => accepted.named
  refine ⟨List.forall_mem_singleton.mpr ⟨rfl, named'⟩, fun fuel parent enough found => ?_⟩
  have deep := enough _ List.mem_cons_self
  have reads : ∃ entries, ((elements.map Element.settled).mapM fun element => do
      let value ← readItem model fuel content element
      pure (element.name, value)).fresh = .ok entries := by
    rw [fresh_mapM]
    apply exists_mapM_eq_ok
    intro element member
    obtain ⟨written, inside, rfl⟩ := List.mem_map.mp member
    obtain ⟨name, accepted⟩ := each written inside
    obtain ⟨value, read⟩ := accepted.reads fuel (Xml.Element.depth_of_wrapper deep inside)
    exact ⟨_, by rw [fresh_bind, read]; rfl⟩
  obtain ⟨entries, reads⟩ := reads
  refine ⟨some (.ofEntries entries), ?_, fun absent => absurd absent (Option.some_ne_none _)⟩
  simp only [readChild, holds, Xml.Element.child?_eq_head?, found, List.map_cons, List.head?_cons,
    Xml.Element.settled_wrapper, Element.children]
  rw [fresh_bind, reads]
  rfl

theorem child_accepted (accepts : Accepts model fuel) {child : ChildPlan} {value : Value}
    {elements : List Element}
    (written : (writeChild (writeItem model fuel) child value).fresh = .ok elements)
    (named : Xml.isName child.name = true)
    (itemNames : ∀ itemName ∈ ElementPlan.itemNames child.content, Xml.isName itemName = true)
    (strict : Strict model (.child child.content) value) : AcceptedChild model child elements := by
  rw [writeChild] at written
  cases holds : child.content with
  | item content =>
      rw [holds] at strict
      simp only [holds, fresh_bind] at written
      obtain ⟨element, wrote, same⟩ := bind_eq_ok written
      cases same
      exact single_accepted holds (item_accepted accepts wrote named (strict.inner .single))
  | sequence wrapped itemName content =>
      rw [holds] at strict itemNames
      simp only [holds] at written
      cases value with
      | list items =>
          simp only [fresh_bind] at written
          obtain ⟨built, wrote, same⟩ := bind_eq_ok written
          have strict' : ∀ item ∈ items, Strict model (.item content) item := fun _ member =>
            strict.inner (.item member)
          cases wrapped with
          | true =>
              cases same
              exact wrapped_accepted holds named
                (items_accepted accepts wrote (itemNames itemName List.mem_cons_self) strict')
          | false =>
              cases same
              exact bare_accepted holds (items_accepted accepts wrote named strict')
      | _ => cases written
  | dictionary content =>
      rw [holds] at strict
      simp only [holds] at written
      cases value with
      | map entries =>
          simp only [fresh_bind] at written
          obtain ⟨built, wrote, same⟩ := bind_eq_ok written
          cases same
          refine dictionary_accepted holds named fun element member => ?_
          rw [fresh_mapM] at wrote
          obtain ⟨entry, inside, made⟩ := exists_of_forall₂ (mapM_eq_ok_iff.mp wrote) member
          exact ⟨entry.1, item_accepted accepts made (strict.here entry inside)
            (strict.inner (.entry inside))⟩
      | _ => cases written

end Contents

section Records
variable {fuel : Nat} {plan : ElementPlan} {fields : List (String × Value)} {typeName : String}
  {children : List ChildPlan}

/-- The elements of a property, if its value can be written. -/
def childElements (model : Model) (fuel : Nat) (fields : List (String × Value)) (child : ChildPlan) :
    List Element :=
  ((present fields child.property).bind fun value =>
    (writeChild (writeItem model fuel) child value).fresh.toOption).getD []

/-- A property that is written, if it is there, and may be missing if it is not. -/
inductive WritesChild (model : Model) (fuel : Nat) (fields : List (String × Value))
    (child : ChildPlan) : List Element → Prop
  | absent : present fields child.property = none → child.required = false →
      WritesChild model fuel fields child []
  | present {value : Value} {elements : List Element} : present fields child.property = some value →
      (writeChild (writeItem model fuel) child value).fresh = .ok elements →
      WritesChild model fuel fields child elements

/-- A record whose children are written is written child by child. -/
theorem writeChildren_eq_ok {elements : List Element}
    (written : (writeChildren (writeItem model fuel) typeName fields children).fresh = .ok elements) :
    (∀ child ∈ children, WritesChild model fuel fields child (childElements model fuel fields child)) ∧
      elements = children.flatMap (childElements model fuel fields) := by
  induction children generalizing elements with
  | nil =>
      cases written
      exact ⟨List.forall_mem_nil _, rfl⟩
  | cons child rest ih =>
      rw [writeChildren] at written
      rw [List.forall_mem_cons, List.flatMap_cons, childElements]
      cases there : present fields child.property with
      | none =>
          rw [there] at written
          cases required : child.required with
          | true => simp [required] at written
          | false =>
              simp only [required, Bool.false_eq_true, if_false] at written
              obtain ⟨each, same⟩ := ih written
              exact ⟨⟨.absent there required, each⟩, same⟩
      | some value =>
          simp only [there, fresh_bind] at written
          obtain ⟨first, made, rest⟩ := bind_eq_ok written
          obtain ⟨others, wrote, same⟩ := bind_eq_ok rest
          obtain ⟨each, joined⟩ := ih wrote
          cases same
          rw [Option.bind_some, made, joined]
          exact ⟨⟨.present there made, each⟩, rfl⟩

/-- An empty list without a wrapper is all that leaves nothing behind. -/
theorem writeChild_traceless {child : ChildPlan} {value : Value} {elements : List Element}
    (written : (writeChild (writeItem model fuel) child value).fresh = .ok elements)
    (some : elements ≠ []) : ¬Traceless child.content value := by
  rintro ⟨⟨itemName, content, holds⟩, rfl⟩
  simp only [writeChild, holds, fresh_bind] at written
  cases written
  exact some rfl

theorem writesChildren_of_ne_nil
    (each : ∀ child ∈ plan.children,
      WritesChild model fuel fields child (childElements model fuel fields child))
    (some : plan.children.flatMap (childElements model fuel fields) ≠ []) :
    WritesChildren plan fields := by
  obtain ⟨element, member⟩ := List.exists_mem_of_ne_nil _ some
  obtain ⟨child, member', inside⟩ := List.mem_flatMap.mp member
  have writes := each child member'
  generalize childElements model fuel fields child = elements at writes inside
  cases writes with
  | absent => cases inside
  | present there made =>
      exact ⟨child, member', _, there, writeChild_traceless made (List.ne_nil_of_mem inside)⟩

/-- An absent element is read from the default of its property, or as nothing. -/
theorem absentChild_ok {child : ChildPlan} (canMiss : CanMiss child) :
    ∃ read, absentChild typeName child = .ok read := by
  rw [absentChild.eq_def]
  split
  next default kind declared holds =>
    obtain ⟨value, read⟩ := canMiss.default default kind declared holds
    exact ⟨_, by rw [read]; rfl⟩
  next => exact ⟨[], by simp [canMiss.optional]⟩

theorem readChildren_ok {parent : Element} {made : ChildPlan → List Element}
    (each : ∀ child ∈ children, AcceptedChild model child (made child))
    (found : ∀ child ∈ children, parent.childrenNamed child.name = (made child).map Element.settled)
    (enough : ∀ child ∈ children, ∀ element ∈ made child, element.settled.depth ≤ fuel) :
    ∃ read, (readChildren (readItem model fuel) typeName parent children).fresh = .ok read := by
  induction children with
  | nil => exact ⟨[], rfl⟩
  | cons child rest ih =>
      obtain ⟨others, reads⟩ := ih (List.forall_mem_cons.mp each).2 (List.forall_mem_cons.mp found).2
        (List.forall_mem_cons.mp enough).2
      obtain ⟨value, read, missing⟩ := (each child List.mem_cons_self).reads fuel parent
        (enough child List.mem_cons_self) (found child List.mem_cons_self)
      rw [readChildren]
      cases value with
      | some value => exact ⟨(child.property, value) :: others, by simp [read, reads]⟩
      | none =>
          obtain ⟨filled, made⟩ := @absentChild_ok typeName child (missing rfl)
          exact ⟨filled ++ others, by simp [read, made, reads]⟩

def Consistent (model : Model) : Prop :=
  ∀ id plan, model.planOf id .xml = .ok (.element plan) → Tidy plan

theorem recordElement_reads {made : ChildPlan → List Element} (tidy : Tidy plan)
    (strict : StrictRecord plan fields)
    (attributes : ∀ entry ∈ plan.attributes, WritesText fields entry.property entry.kind entry.required)
    (text : ∀ text, plan.text = some text → WritesText fields text.property text.kind text.required)
    (each : ∀ child ∈ plan.children, AcceptedChild model child (made child))
    (beside : plan.children.flatMap made ≠ [] → WritesChildren plan fields)
    {name : String} (enough : (recordElement plan fields made name).settled.depth ≤ fuel) :
    ∃ read, (readElement model fuel plan (recordElement plan fields made name).settled).fresh =
      .ok read := by
  obtain ⟨fuel, rfl, deep⟩ := depth_recordElement enough
  have named := fun child member element inside => ((each child member).named element inside).1
  have apart : ∀ child ∈ plan.children, (recordElement plan fields made name).settled.childrenNamed
      child.name = (made child).map Element.settled :=
    fun _ member => childrenNamed_recordElement tidy named name member
  have found : ∀ entry ∈ plan.attributes,
      (recordElement plan fields made name).settled.attributes.lookup entry.name =
        textOf fields entry.property entry.kind := fun entry member => by
    rw [attributes_recordElement]
    exact lookup_entriesOf tidy.attributes member
  obtain ⟨attributes', readAttributes⟩ :=
    @readAttributes_ok fields plan.typeName _ _ attributes strict.attributes found
  obtain ⟨text', readText⟩ := readContentText_ok strict text (text_recordElement name) beside
  obtain ⟨children', readChildren⟩ := @readChildren_ok model fuel plan.typeName _ _ made each apart deep
  refine ⟨.ofFields (attributes' ++ text' ++ children'), ?_⟩
  rw [readElement_succ, readAttributes, readText]
  simp only [liftM_ok_bind]
  rw [fresh_bind, readChildren]
  rfl

theorem record_accepted (consistent : Consistent model) (accepts : Accepts model fuel) {id : SchemaId}
    (planned : model.planOf id .xml = .ok (.element plan)) {name : String} {element : Element}
    (written : (writeElement model (fuel + 1) plan name (.record fields)).fresh = .ok element)
    (named : Xml.isName name = true) (strict : Strict model (.element plan) (.record fields)) :
    element.name = name ∧ Named element ∧ ∀ fuel', element.settled.depth ≤ fuel' →
      ∃ read, (readElement model fuel' plan element.settled).fresh = .ok read := by
  have tidy := consistent id plan planned
  have strictHere : StrictRecord plan fields := strict.here
  rw [writeElement_record, fresh_bind, fresh_liftM] at written
  obtain ⟨attributes, wroteAttributes, rest⟩ := bind_eq_ok written
  rw [fresh_bind, fresh_liftM] at rest
  obtain ⟨content, wroteText, rest⟩ := bind_eq_ok rest
  rw [fresh_bind] at rest
  obtain ⟨elements, wroteChildren, same⟩ := bind_eq_ok rest
  cases same
  obtain ⟨writesAttributes, rfl⟩ := writeAttributes_eq_ok wroteAttributes
  obtain ⟨writesText, rfl⟩ := writeContentText_eq_ok wroteText
  obtain ⟨writesChildren, rfl⟩ := writeChildren_eq_ok wroteChildren
  have each : ∀ child ∈ plan.children, AcceptedChild model child (childElements model fuel fields child) := by
    intro child member
    have writes := writesChildren child member
    generalize childElements model fuel fields child = made at writes
    cases writes with
    | absent missing => exact absent_accepted (strictHere.children child member missing)
    | present there wrote =>
        obtain ⟨named', itemNames⟩ := childName tidy member
        exact child_accepted accepts wrote named' itemNames (strict.inner (.child member there))
  refine ⟨rfl, .mk (tagNames tidy named) fun element member => ?_, fun fuel' enough => ?_⟩
  · obtain ⟨child, member', inside⟩ := List.mem_flatMap.mp member
    exact ((each child member').named element inside).2
  · exact recordElement_reads tidy strictHere writesAttributes writesText each
      (writesChildren_of_ne_nil writesChildren) enough

end Records

/-- What is written of a strict record is read again, by induction on the levels of records. -/
theorem accepts_all (consistent : Consistent model) (fuel : Nat) : Accepts model fuel := by
  induction fuel with
  | zero =>
      intro id plan name value element written
      cases written
  | succ fuel ih =>
      intro id plan name value element written planned named strict
      cases value with
      | record fields => exact record_accepted consistent ih planned written named strict
      | _ => cases written

theorem read_of_write (consistent : Consistent model) {id : SchemaId} {plan : ElementPlan}
    (planned : model.planOf id .xml = .ok (.element plan)) {value : Value} {text : String}
    (written : (write model (.element plan) value).fresh = .ok text)
    (strict : Strict model (.element plan) value) :
    ∃ read', (read model (.element plan) text).fresh = .ok read' := by
  have named : Xml.isName plan.name = true := (consistent id plan planned).names _ List.mem_cons_self
  simp only [write, fresh_bind] at written
  obtain ⟨root, wrote, same⟩ := bind_eq_ok written
  cases same
  obtain ⟨sameName, named', reads⟩ := accepts_all consistent _ wrote planned named strict
  rw [read_document named' sameName]
  exact reads _ (Nat.le_refl _)

end ApiContract.XmlForm
