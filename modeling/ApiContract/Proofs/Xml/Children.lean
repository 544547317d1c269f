import ApiContract.Proofs.Memo.Planning
import ApiContract.Proofs.Value.Nesting
import ApiContract.Proofs.Xml.Record

/-!
The child elements of a record. Children of different names stand side by side, so each property
finds its own elements again, and reads them if it reads what it has written.
-/

namespace ApiContract

namespace Xml.Element

theorem child?_eq_head? (element : Element) (name : String) :
    element.child? name = (element.childrenNamed name).head? := List.head?_filter.symm

theorem name_settled (element : Element) : element.settled.name = element.name := by
  cases element
  rfl

theorem depthOfChildren_eq (children : List Element) :
    depthOfChildren children = children.foldr (fun child most => max child.depth most) 0 := by
  induction children with
  | nil => rfl
  | cons first rest ih => rw [depthOfChildren, ih, List.foldr_cons]

theorem depth_le_children {children : List Element} {child : Element} (member : child ∈ children) :
    child.depth ≤ depthOfChildren children := by
  rw [depthOfChildren_eq]
  exact le_foldr_max depth member

theorem filter_name_eq_self {elements : List Element} {name : String}
    (each : ∀ element ∈ elements, element.name = name) :
    (elements.map settled).filter (·.name == name) = elements.map settled := by
  apply List.filter_eq_self.mpr
  intro element member
  obtain ⟨written, inside, same⟩ := List.mem_map.mp member
  rw [← same, name_settled, each written inside]
  exact beq_self_eq_true name

theorem filter_name_eq_nil {elements : List Element} {name : String}
    (each : ∀ element ∈ elements, element.name ≠ name) :
    (elements.map settled).filter (·.name == name) = [] := by
  apply List.filter_eq_nil_iff.mpr
  intro element member same
  obtain ⟨written, inside, rfl⟩ := List.mem_map.mp member
  rw [name_settled] at same
  exact each written inside (eq_of_beq same)

/-- The content of an element without children stays as it is, blank or empty. -/
theorem content_settled (name text : String) :
    (Element.mk name [] (some text) []).settled.content = text := by
  by_cases empty : text = ""
  · subst empty
    rfl
  · have kept : (text != "") = true := by simp [empty]
    simp [settled, content, text?, settledText, Option.filter, kept]

/-! An element that only holds other elements. -/

section Wrapper
variable {children : List Element} {name : String}

theorem settled_wrapper :
    (Element.mk name [] none children).settled = .mk name [] none (children.map settled) := by
  rw [settled, settledAll_eq_map]
  rfl

theorem named_wrapper (named : isName name = true) (each : ∀ child ∈ children, Named child) :
    Named (.mk name [] none children) := .mk (tagNames_nil named) each

theorem depth_of_wrapper {fuel : Nat} (enough : (Element.mk name [] none children).settled.depth ≤ fuel)
    {child : Element} (member : child ∈ children) : child.settled.depth ≤ fuel := by
  have below := depth_le_children (List.mem_map_of_mem (f := settled) member)
  rw [settled_wrapper, depth] at enough
  omega

end Wrapper

end Xml.Element

namespace XmlForm

open Planning
open Xml (Element Named)

/-- What stands in an element for a single item. -/
def writeItem (model : Model) (fuel : Nat) (content : ItemContent) (name : String) (value : Value) :
    Planning ValueError Element :=
  match content with
  | .value kind => do
      let text ← Scalar.toText kind value
      pure (.mk name [] (some text) [])
  | .model schema => do
      let nested ← nestedElement model schema
      writeElement model fuel nested name value

def readItem (model : Model) (fuel : Nat) (content : ItemContent) (element : Element) :
    Planning ValueError Value :=
  match content with
  | .value kind => .lift (Scalar.ofText kind element.content)
  | .model schema => do
      let nested ← nestedElement model schema
      readElement model fuel nested element

theorem writeElement_record (model : Model) (fuel : Nat) (plan : ElementPlan) (name : String)
    (fields : List (String × Value)) :
    writeElement model (fuel + 1) plan name (.record fields) = (do
      let attributes ← writeAttributes plan.typeName fields plan.attributes
      let text ← writeContentText plan.typeName fields plan.text
      let children ← writeChildren (writeItem model fuel) plan.typeName fields plan.children
      pure (.mk name attributes text children)) := rfl

theorem readElement_succ (model : Model) (fuel : Nat) (plan : ElementPlan) (element : Element) :
    readElement model (fuel + 1) plan element = (do
      let attributes ← readAttributes plan.typeName element plan.attributes
      let text ← readContentText element plan.text
      let children ← readChildren (readItem model fuel) plan.typeName element plan.children
      pure (.ofFields (attributes ++ text ++ children))) := rfl

/-- An item is written as the element, whose tree is read as the item. -/
structure ReturnsItem (model : Model) (content : ItemContent) (name : String) (value : Value)
    (element : Element) : Prop where
  write : ∀ fuel, value.depth ≤ fuel → (writeItem model fuel content name value).fresh = .ok element
  name : element.name = name
  named : Named element
  read : ∀ fuel, element.settled.depth ≤ fuel →
    (readItem model fuel content element.settled).fresh = .ok value

/-- A property is written as the elements, and read from a parent in which they are the children of
its name. -/
structure ReturnsChild (model : Model) (child : ChildPlan) (value : Value)
    (elements : List Element) : Prop where
  write : ∀ fuel, value.depth ≤ fuel →
    (writeChild (writeItem model fuel) child value).fresh = .ok elements
  named : ∀ element ∈ elements, element.name = child.name ∧ Named element
  read : ∀ fuel parent, (∀ element ∈ elements, element.settled.depth ≤ fuel) →
    parent.childrenNamed child.name = elements.map Element.settled →
    (readChild (readItem model fuel) child parent).fresh = .ok (some value)
  trace : elements ≠ [] → ¬Traceless child.content value

section Contents
variable {model : Model}

theorem returns_scalar {kind : ScalarKind} {value : Value} (fits : Scalar.FitsText kind value)
    {name : String} (named : Xml.isName name = true) :
    ∃ element, ReturnsItem model (.value kind) name value element := by
  obtain ⟨text, written, read⟩ := Scalar.ofText_toText fits
  refine ⟨.mk name [] (some text) [], fun fuel _ => ?_, rfl, ?_, fun fuel _ => ?_⟩
  · simp only [writeItem, written]
    rfl
  · exact .mk (Xml.tagNames_nil named) (List.forall_mem_nil _)
  · rw [readItem, Xml.Element.content_settled, read]
    rfl

theorem returns_single {content : ItemContent} {value : Value} {child : ChildPlan}
    (holds : child.content = .item content) {element : Element}
    (returns : ReturnsItem model content child.name value element) :
    ReturnsChild model child value [element] := by
  constructor
  · intro fuel enough
    simp [writeChild, holds, returns.write fuel enough]
  · intro other member
    rw [List.mem_singleton.mp member]
    exact ⟨returns.name, returns.named⟩
  · intro fuel parent enough found
    have here := enough element List.mem_cons_self
    simp [readChild, holds, Xml.Element.child?_eq_head?, found, returns.read fuel here]
  · rintro _ ⟨⟨itemName, item, other⟩, -⟩
    rw [holds] at other
    cases other

section Lists
variable {content : ItemContent} {items : List Value} {itemName : String} {made : Value → Element}

theorem write_items (each : ∀ item ∈ items, ReturnsItem model content itemName item (made item))
    {fuel : Nat} (enough : (Value.list items).depth ≤ fuel) :
    (items.mapM (writeItem model fuel content itemName)).fresh = .ok (items.map made) := by
  rw [fresh_mapM]
  refine mapM_eq_ok fun item member => (each item member).write fuel ?_
  have := Value.depth_le_items member
  simp only [Value.depth] at enough
  omega

theorem read_items (each : ∀ item ∈ items, ReturnsItem model content itemName item (made item))
    {fuel : Nat} (enough : ∀ item ∈ items, (made item).settled.depth ≤ fuel) :
    (((items.map made).map Element.settled).mapM (readItem model fuel content)).fresh = .ok items := by
  rw [fresh_mapM, List.map_map]
  exact mapM_map_eq_ok fun item member => (each item member).read fuel (enough item member)

theorem returns_bare {child : ChildPlan} (holds : child.content = .sequence false itemName content)
    (each : ∀ item ∈ items, ReturnsItem model content child.name item (made item))
    (visible : child.required = false → items ≠ []) :
    ReturnsChild model child (.list items) (items.map made) := by
  constructor
  · intro fuel enough
    simp [writeChild, holds, write_items each enough]
  · intro element member
    obtain ⟨item, inside, same⟩ := List.mem_map.mp member
    rw [← same]
    exact ⟨(each item inside).name, (each item inside).named⟩
  · intro fuel parent enough found
    have read := read_items each fun item member => enough _ (List.mem_map_of_mem member)
    -- An optional list without elements would be read as absent.
    have shown : (((items.map made).map Element.settled).isEmpty && !child.required) = false := by
      cases required : child.required with
      | true => simp
      | false => simp [visible required]
    simp only [readChild, holds, found, shown, Bool.false_eq_true, if_false]
    rw [fresh_bind, read]
    rfl
  · rintro some ⟨-, same⟩
    cases same
    exact some rfl

/-- The children of a wrapper are all its items. -/
theorem returns_wrapped {child : ChildPlan} (holds : child.content = .sequence true itemName content)
    (named : Xml.isName child.name = true)
    (each : ∀ item ∈ items, ReturnsItem model content itemName item (made item)) :
    ReturnsChild model child (.list items) [.mk child.name [] none (items.map made)] := by
  constructor
  · intro fuel enough
    simp [writeChild, holds, write_items each enough]
  · intro element member
    rw [List.mem_singleton.mp member]
    exact ⟨rfl, Xml.Element.named_wrapper named (List.forall_mem_map.mpr fun item inside => (each item inside).named)⟩
  · intro fuel parent enough found
    have deep := enough _ List.mem_cons_self
    have read := read_items each fun item inside =>
      Xml.Element.depth_of_wrapper deep (List.mem_map_of_mem inside)
    have named' : ∀ element ∈ items.map made, element.name = itemName := fun element member => by
      obtain ⟨item, inside, same⟩ := List.mem_map.mp member
      exact same ▸ (each item inside).name
    have all : (Element.mk child.name [] none ((items.map made).map Element.settled)).childrenNamed
        itemName = (items.map made).map Element.settled := Xml.Element.filter_name_eq_self named'
    simp only [readChild, holds, Xml.Element.child?_eq_head?, found, List.map_cons, List.head?_cons,
      Xml.Element.settled_wrapper, all]
    rw [fresh_bind, read]
    rfl
  · rintro _ ⟨⟨itemName, item, other⟩, -⟩
    rw [holds] at other
    cases other

end Lists

/-- The children of a dictionary are its entries under their keys. -/
theorem returns_dictionary {content : ItemContent} {entries : List (String × Value)}
    {made : String × Value → Element} {child : ChildPlan}
    (holds : child.content = .dictionary content) (named : Xml.isName child.name = true)
    (sorted : SortedKeys entries)
    (each : ∀ entry ∈ entries, ReturnsItem model content entry.1 entry.2 (made entry)) :
    ReturnsChild model child (.map entries) [.mk child.name [] none (entries.map made)] := by
  constructor
  · intro fuel enough
    have written : (entries.mapM fun entry => writeItem model fuel content entry.1 entry.2).fresh =
        .ok (entries.map made) := by
      rw [fresh_mapM]
      refine mapM_eq_ok fun entry member => (each entry member).write fuel ?_
      have := Value.depth_le_entries member
      simp only [Value.depth] at enough
      omega
    simp only [writeChild, holds]
    rw [fresh_bind, written]
    rfl
  · intro element member
    rw [List.mem_singleton.mp member]
    exact ⟨rfl, Xml.Element.named_wrapper named (List.forall_mem_map.mpr fun entry inside => (each entry inside).named)⟩
  · intro fuel parent enough found
    have deep := enough _ List.mem_cons_self
    have read : (((entries.map made).map Element.settled).mapM fun element => do
        let value ← readItem model fuel content element
        pure (element.name, value)).fresh = .ok entries := by
      rw [fresh_mapM, List.map_map]
      apply mapM_map_eq_ok
      intro entry member
      have value := (each entry member).read fuel (Xml.Element.depth_of_wrapper deep (List.mem_map_of_mem member))
      rw [Function.comp_apply, fresh_bind, value, Xml.Element.name_settled, (each entry member).name]
      rfl
    simp only [readChild, holds, Xml.Element.child?_eq_head?, found, List.map_cons, List.head?_cons,
      Xml.Element.settled_wrapper, Element.children]
    rw [fresh_bind, read, ok_bind, Value.ofEntries_eq, sortEntries_of_sorted sorted]
    rfl
  · rintro _ ⟨⟨itemName, item, other⟩, -⟩
    rw [holds] at other
    cases other

end Contents

/-! All children of a record. -/

/-- What stands for a child in its parent. -/
inductive Stands (model : Model) (fields : List (String × Value)) (child : ChildPlan) :
    List Element → Prop
  | absent : fields.lookup child.property = none → Stands model fields child []
  | present {value : Value} {elements : List Element} :
      fields.lookup child.property = some value → ReturnsChild model child value elements →
      Stands model fields child elements

section Records
variable {model : Model} {fields : List (String × Value)} {typeName : String}
  {children : List ChildPlan} {made : ChildPlan → List Element}

theorem writeChildren_eq (notNull : ∀ name, fields.lookup name ≠ some .null)
    (absent : ∀ child ∈ children, fields.lookup child.property = none → child.required = false)
    (each : ∀ child ∈ children, Stands model fields child (made child)) {fuel : Nat}
    (enough : Value.depthOfEntries fields ≤ fuel) :
    (writeChildren (writeItem model fuel) typeName fields children).fresh =
      .ok (children.flatMap made) := by
  induction children with
  | nil => rfl
  | cons child rest ih =>
      have tail := ih (fun other member => absent other (List.mem_cons_of_mem _ member))
        fun other member => each other (List.mem_cons_of_mem _ member)
      have stands := each child List.mem_cons_self
      rw [writeChildren, present_eq notNull, List.flatMap_cons]
      generalize made child = elements at stands
      cases stands with
      | absent missing =>
          have optional := absent child List.mem_cons_self missing
          simpa [missing, optional] using tail
      | present found returns =>
          have written := returns.write fuel
            (Nat.le_trans (Value.depth_le_entries (mem_of_lookup found)) enough)
          simp [found, written, tail]

theorem readChild_absent {parent : Element} {child : ChildPlan}
    (none : parent.childrenNamed child.name = []) (optional : child.required = false)
    (readItem : ItemContent → Element → Planning ValueError Value) :
    readChild readItem child parent = pure .none := by
  -- A wrapped list, a bare one, a dictionary and a single item all look for the name first.
  rw [readChild.eq_def]
  split
  next => simp [Xml.Element.child?_eq_head?, none]
  next => simp [none, optional]
  next => simp [Xml.Element.child?_eq_head?, none]
  next => simp [Xml.Element.child?_eq_head?, none]

theorem absentChild_none {child : ChildPlan} (optional : child.required = false)
    (noDefault : ¬Defaulted child) : absentChild typeName child = .ok [] := by
  rw [absentChild.eq_def]
  split
  next document kind default content =>
    exact absurd ⟨by simp [default], kind, content⟩ noDefault
  next => simp [optional]

theorem readChildren_eq {parent : Element}
    (absent : ∀ child ∈ children, fields.lookup child.property = none →
      child.required = false ∧ ¬Defaulted child)
    (each : ∀ child ∈ children, Stands model fields child (made child))
    (found : ∀ child ∈ children,
      parent.childrenNamed child.name = (made child).map Element.settled) {fuel : Nat}
    (enough : ∀ child ∈ children, ∀ element ∈ made child, element.settled.depth ≤ fuel) :
    (readChildren (readItem model fuel) typeName parent children).fresh =
      .ok (entriesOf (·.property) (fun child => fields.lookup child.property) children) := by
  induction children with
  | nil => rfl
  | cons child rest ih =>
      have tail := ih (fun other member => absent other (List.mem_cons_of_mem _ member))
        (fun other member => each other (List.mem_cons_of_mem _ member))
        (fun other member => found other (List.mem_cons_of_mem _ member))
        fun other member => enough other (List.mem_cons_of_mem _ member)
      have stands := each child List.mem_cons_self
      have here := found child List.mem_cons_self
      have deep := enough child List.mem_cons_self
      rw [readChildren]
      generalize made child = elements at stands here deep
      cases stands with
      | absent missing =>
          obtain ⟨optional, noDefault⟩ := absent child List.mem_cons_self missing
          rw [readChild_absent here optional]
          simp [absentChild_none optional noDefault, tail, entriesOf, missing]
      | present present returns =>
          have read := returns.read fuel parent deep here
          simp [read, tail, entriesOf, present]

/-- Among the children of all properties those of one name are the elements of its property. -/
theorem childrenNamed_flatMap (nodup : (children.map (·.name)).Nodup)
    (named : ∀ child ∈ children, ∀ element ∈ made child, element.name = child.name)
    {child : ChildPlan} (member : child ∈ children) :
    (((children.flatMap made).map Element.settled).filter (·.name == child.name)) =
      (made child).map Element.settled := by
  induction children with
  | nil => cases member
  | cons first rest ih =>
      rw [List.map_cons, List.nodup_cons] at nodup
      obtain ⟨fresh, nodup'⟩ := nodup
      have named' := fun other member => named other (List.mem_cons_of_mem _ member)
      rw [List.flatMap_cons, List.map_append, List.filter_append]
      rcases List.mem_cons.mp member with same | later
      · subst same
        have others : ∀ element ∈ rest.flatMap made, element.name ≠ child.name := by
          intro element inside same
          obtain ⟨other, member', made'⟩ := List.mem_flatMap.mp inside
          rw [named' other member' element made'] at same
          exact fresh (same ▸ List.mem_map_of_mem member')
        rw [Xml.Element.filter_name_eq_self (named child List.mem_cons_self),
          Xml.Element.filter_name_eq_nil others, List.append_nil]
      · have others : ∀ element ∈ made first, element.name ≠ child.name := by
          intro element inside same
          rw [named first List.mem_cons_self element inside] at same
          exact fresh (same ▸ List.mem_map_of_mem later)
        rw [Xml.Element.filter_name_eq_nil others, List.nil_append]
        exact ih nodup' named' later

end Records

end XmlForm

end ApiContract
