import ApiContract.Proofs.Plan.Closure
import ApiContract.Proofs.Value.ScalarText
import ApiContract.Proofs.Xml.Parse
import ApiContract.Value.XmlForm

/-!
Which values an element carries without loss. A record conforms to a plan if its fields are
properties of the plan in the shape that reading gives them, and none of them leaves nothing behind:
an empty list without a wrapper, an empty text that may be missing, and blank text where child
elements make it layout.
-/

namespace ApiContract

namespace ElementPlan

/-- The properties that an element carries, in the order in which they are read. -/
def properties (plan : ElementPlan) : List String :=
  plan.attributes.map (·.property) ++ plan.text.toList.map (·.property) ++
    plan.children.map (·.property)

/-- The name of the items of a sequence. -/
def itemNames : ChildContent → List String
  | .sequence _ itemName _ => [itemName]
  | _ => []

def xmlNames (plan : ElementPlan) : List String :=
  plan.name :: plan.attributes.map (·.name) ++
    plan.children.flatMap fun child => child.name :: itemNames child.content

end ElementPlan

namespace XmlForm

/-- What is asked of one plan on its own: distinct properties, attributes and child elements, and
well-formed names. -/
structure Tidy (plan : ElementPlan) : Prop where
  properties : plan.properties.Nodup
  attributes : (plan.attributes.map (·.name)).Nodup
  children : (plan.children.map (·.name)).Nodup
  names : ∀ name ∈ plan.xmlNames, Xml.isName name = true

/-- The closure of an object succeeds, and the plans it reaches are tidy. -/
structure Planned (model : Model) (root : SchemaId) (plan : ElementPlan) : Prop where
  closed : ∃ ids, (model.xmlClosure root).fresh = .ok ids
  made : model.planOf root .xml = .ok (.element plan)
  tidy : ∀ schema nested, model.XmlReachable root schema →
    model.planOf schema .xml = .ok (.element nested) → Tidy nested

/-- A child that a reader fills from its declared default where its element is missing. -/
def Defaulted (child : ChildPlan) : Prop :=
  child.default.isSome = true ∧ ∃ kind, child.content = .item (.value kind)

/-- A list whose items stand among the children of their owner leaves no trace if it is empty. -/
def Traceless (content : ChildContent) (value : Value) : Prop :=
  (∃ itemName item, content = .sequence false itemName item) ∧ value = .list []

/-- The record is written with at least one child element. -/
def HasChildren (plan : ElementPlan) (fields : List (String × Value)) : Prop :=
  ∃ child ∈ plan.children, ∃ value, fields.lookup child.property = some value ∧
    ¬Traceless child.content value

/-- The fields of a record are properties of its plan, none of them null and none of them missing
where the reader does without it only by failing or by a default. -/
structure Shaped (plan : ElementPlan) (fields : List (String × Value)) : Prop where
  sorted : SortedKeys fields
  planned : ∀ name ∈ fields.map (·.1), name ∈ plan.properties
  notNull : ∀ name, fields.lookup name ≠ some .null
  attributes : ∀ entry ∈ plan.attributes, fields.lookup entry.property = none →
    entry.required = false
  text : ∀ text, plan.text = some text → fields.lookup text.property = none → text.required = false
  children : ∀ child ∈ plan.children, fields.lookup child.property = none →
    child.required = false ∧ ¬Defaulted child
  /-- An optional list without a wrapper is not empty. -/
  lists : ∀ child ∈ plan.children, child.required = false → ∀ value,
    fields.lookup child.property = some value → ¬Traceless child.content value
  /-- An optional text is not written as the empty text. -/
  empty : ∀ text, plan.text = some text → text.required = false → ∀ value,
    fields.lookup text.property = some value → Scalar.toText text.kind value ≠ .ok ""
  /-- A text that is not empty is not written as blanks where child elements stand beside it. -/
  blank : ∀ text, plan.text = some text → ∀ value, fields.lookup text.property = some value →
    ∀ written, Scalar.toText text.kind value = .ok written → written ≠ "" →
      Xml.isBlankText written = true → ¬HasChildren plan fields

/-- The parts of a plan that carry a value. -/
inductive Part where
  | item (content : ItemContent)
  | child (content : ChildContent)
  | element (plan : ElementPlan)

/-- The objects that a part refers to. -/
def Part.models : Part → List SchemaId
  | .item content => Model.ItemContent.models content
  | .child content => Model.ChildContent.models content
  | .element plan => Model.linkedModels (.element plan)

/-- The values that a part carries without loss. A nested record conforms to the plan of its own
schema. -/
inductive Conforms (model : Model) : Part → Value → Prop
  | scalar {kind : ScalarKind} {value : Value} : Scalar.FitsText kind value →
      Conforms model (.item (.value kind)) value
  | nested {schema : SchemaId} {value : Value} :
      (∀ plan, model.planOf schema .xml = .ok (.element plan) →
        Conforms model (.element plan) value) →
      Conforms model (.item (.model schema)) value
  | single {content : ItemContent} {value : Value} : Conforms model (.item content) value →
      Conforms model (.child (.item content)) value
  | list {wrapped : Bool} {itemName : String} {content : ItemContent} {items : List Value} :
      (∀ item ∈ items, Conforms model (.item content) item) →
      Conforms model (.child (.sequence wrapped itemName content)) (.list items)
  | dictionary {content : ItemContent} {entries : List (String × Value)} : SortedKeys entries →
      (∀ entry ∈ entries, Xml.isName entry.1 = true) →
      (∀ entry ∈ entries, Conforms model (.item content) entry.2) →
      Conforms model (.child (.dictionary content)) (.map entries)
  | record {plan : ElementPlan} {fields : List (String × Value)} : Shaped plan fields →
      (∀ entry ∈ plan.attributes, ∀ value, fields.lookup entry.property = some value →
        Scalar.FitsText entry.kind value) →
      (∀ text, plan.text = some text → ∀ value, fields.lookup text.property = some value →
        Scalar.FitsText text.kind value) →
      (∀ child ∈ plan.children, ∀ value, fields.lookup child.property = some value →
        Conforms model (.child child.content) value) →
      Conforms model (.element plan) (.record fields)

end XmlForm

end ApiContract

/-!
The parts of a record in its element: attributes, the text and the child elements. Each is written
from the fields that are there, and read as the same fields.
-/

namespace ApiContract.XmlForm

open Xml (Element)

variable {fields : List (String × Value)} {typeName : String}

theorem present_eq (notNull : ∀ name, fields.lookup name ≠ some .null) (property : String) :
    present fields property = fields.lookup property := by
  rw [present]
  split
  next isNull => exact absurd isNull (notNull property)
  next => rfl

/-- The text of the scalar that a property holds. -/
def textOf (fields : List (String × Value)) (property : String) (kind : ScalarKind) :
    Option String :=
  (fields.lookup property).bind fun value => (Scalar.toText kind value).toOption

theorem textOf_none {property : String} (absent : fields.lookup property = none)
    (kind : ScalarKind) : textOf fields property kind = none := by
  rw [textOf, absent, Option.bind_none]

theorem textOf_some {property : String} {kind : ScalarKind} {value : Value}
    (found : fields.lookup property = some value) (fits : Scalar.FitsText kind value) :
    ∃ text, textOf fields property kind = some text ∧ Scalar.toText kind value = .ok text ∧
      Scalar.ofText kind text = .ok value := by
  obtain ⟨text, written, read⟩ := Scalar.ofText_toText fits
  exact ⟨text, by rw [textOf, found, Option.bind_some, written]; rfl, written, read⟩

/-! Attributes. -/

section Attributes
variable {entries : List AttributePlan}

theorem writeAttributes_eq (notNull : ∀ name, fields.lookup name ≠ some .null)
    (absent : ∀ entry ∈ entries, fields.lookup entry.property = none → entry.required = false)
    (fits : ∀ entry ∈ entries, ∀ value, fields.lookup entry.property = some value →
      Scalar.FitsText entry.kind value) :
    writeAttributes typeName fields entries =
      .ok (entriesOf (·.name) (fun entry => textOf fields entry.property entry.kind) entries) := by
  induction entries with
  | nil => rfl
  | cons entry rest ih =>
      have tail := ih (fun other member => absent other (List.mem_cons_of_mem _ member))
        fun other member => fits other (List.mem_cons_of_mem _ member)
      rw [writeAttributes, present_eq notNull]
      cases found : fields.lookup entry.property with
      | none =>
          have optional := absent entry List.mem_cons_self found
          simp [optional, tail, entriesOf, textOf_none found]
      | some value =>
          obtain ⟨text, same, written, -⟩ := textOf_some found (fits entry List.mem_cons_self value found)
          simp only [written, tail, ok_bind, entriesOf, List.filterMap_cons, same, Option.map_some]
          rfl

theorem readAttributes_eq {element : Element}
    (absent : ∀ entry ∈ entries, fields.lookup entry.property = none → entry.required = false)
    (fits : ∀ entry ∈ entries, ∀ value, fields.lookup entry.property = some value →
      Scalar.FitsText entry.kind value)
    (written : ∀ entry ∈ entries,
      element.attributes.lookup entry.name = textOf fields entry.property entry.kind) :
    readAttributes typeName element entries =
      .ok (entriesOf (·.property) (fun entry => fields.lookup entry.property) entries) := by
  induction entries with
  | nil => rfl
  | cons entry rest ih =>
      have tail := ih (fun other member => absent other (List.mem_cons_of_mem _ member))
        (fun other member => fits other (List.mem_cons_of_mem _ member))
        fun other member => written other (List.mem_cons_of_mem _ member)
      rw [readAttributes, written entry List.mem_cons_self]
      cases found : fields.lookup entry.property with
      | none =>
          have optional := absent entry List.mem_cons_self found
          simp [textOf_none found, optional, tail, entriesOf, found]
      | some value =>
          obtain ⟨text, same, -, read⟩ := textOf_some found (fits entry List.mem_cons_self value found)
          simp only [same, read, tail, ok_bind, entriesOf, List.filterMap_cons, found, Option.map_some]
          rfl

end Attributes

/-! The text. -/

section Text
variable {plan : ElementPlan}

def writtenText (fields : List (String × Value)) (plan : ElementPlan) : Option String :=
  plan.text.bind fun text => textOf fields text.property text.kind

theorem writeContentText_eq (shaped : Shaped plan fields)
    (fits : ∀ text, plan.text = some text → ∀ value, fields.lookup text.property = some value →
      Scalar.FitsText text.kind value) :
    writeContentText typeName fields plan.text = .ok (writtenText fields plan) := by
  cases has : plan.text with
  | none => simp [writeContentText, writtenText, has]
  | some text =>
      simp only [writeContentText, writtenText, has, Option.bind_some, present_eq shaped.notNull]
      cases found : fields.lookup text.property with
      | none =>
          have optional := shaped.text text has found
          simp [optional, textOf_none found]
      | some value =>
          obtain ⟨content, same, written, -⟩ := textOf_some found (fits text has value found)
          simp only [written, same]
          rfl

/-- What is left of the text in the document is enough to read it. -/
theorem readContentText_eq (shaped : Shaped plan fields)
    (fits : ∀ text, plan.text = some text → ∀ value, fields.lookup text.property = some value →
      Scalar.FitsText text.kind value)
    {element : Element} {children : List Element}
    (settled : element.text? = Xml.settledText (writtenText fields plan) children)
    (beside : children ≠ [] → HasChildren plan fields) :
    readContentText element plan.text =
      .ok (entriesOf (·.property) (fun text => fields.lookup text.property) plan.text.toList) := by
  cases has : plan.text with
  | none => rfl
  | some text =>
      rw [writtenText, has, Option.bind_some] at settled
      simp only [readContentText, Option.toList_some]
      cases found : fields.lookup text.property with
      | none =>
          have optional := shaped.text text has found
          rw [textOf_none found] at settled
          simp only [settled, Xml.settledText, Option.filter_none, optional, entriesOf,
            List.filterMap_cons, found]
          rfl
      | some value =>
          obtain ⟨content, same, written, read⟩ := textOf_some found (fits text has value found)
          have one : entriesOf (fun text : TextPlan => text.property)
              (fun text => fields.lookup text.property) [text] = [(text.property, value)] := by
            simp [entriesOf, found]
          rw [same] at settled
          rw [one]
          -- What settling drops is read as the empty text.
          by_cases kept : (content != "" && (children.isEmpty || !Xml.isBlankText content)) = true
          · have stays : element.text? = some content := by
              rw [settled, Xml.settledText, Option.filter_some, if_pos kept]
            simp only [stays, read]
            rfl
          · have gone : element.text? = none := by
              rw [settled, Xml.settledText, Option.filter_some, if_neg kept]
            -- only the empty text of a required property can be gone
            have empty : content = "" := by
              by_contra some
              have stands : children ≠ [] ∧ Xml.isBlankText content = true := by
                simpa [some] using kept
              exact shaped.blank text has value found content written some stands.2 (beside stands.1)
            subst empty
            have required : text.required = true := by
              by_contra optional
              exact shaped.empty text has (by simpa using optional) value found written
            simp only [gone, required, if_true, read]
            rfl

end Text

end ApiContract.XmlForm
