import ApiContract.Proofs.Json.Ending
import ApiContract.Proofs.Plan.Placement
import ApiContract.Proofs.Xml.Tables

/-!
Declared defaults in both formats. In JSON every declared default stands in for an absent property. In
an element only those of scalar child elements do: what would be an attribute, the text, a list or a
dictionary has no field if it is absent.
-/

namespace ApiContract

/-- Whether values of a schema are single texts, numbers or flags. -/
def Schema.isScalar : Schema → Bool
  | .primitive _ _ | .enumeration _ | .framework _ => true
  | .object _ | .array _ | .dictionary _ => false

/-- What would carry a property is not in an element. -/
def Property.AbsentFrom (property : Property) (element : Xml.Element) : Prop :=
  if property.placement.asText then element.text? = none
  else if property.placement.asAttribute then
    element.attributes.lookup property.markupName = none
  else element.childrenNamed property.markupName = []

namespace Model

/-- Whether a property is carried by a child element of a scalar schema. -/
def scalarChild (model : Model) (property : Property) : Bool :=
  !property.placement.asText && !property.placement.asAttribute &&
    (model.schema? property.schema).any Schema.isScalar

/-- A default of a schema is read as the value. -/
def ReadsDefault (model : Model) (schema : SchemaId) (default : Json) (value : Value) : Prop :=
  ∃ plan referrer, model.valuePlan schema referrer = .ok plan ∧
    (JsonForm.read model (.value plan) default).fresh = .ok value

variable {model : Model} {id : SchemaId} {referrer : String}

theorem scalarKind_isScalar {found : Option ScalarKind}
    (made : model.scalarKind id referrer = .ok found) :
    (model.schema? id).any Schema.isScalar = found.isSome := by
  obtain ⟨schema, present, rest⟩ := bind_eq_ok made
  rw [schemaFor_eq_ok present]
  cases schema with
  | primitive kind format => cases kind <;> (cases rest; rfl)
  | _ =>
      cases rest
      rfl

theorem itemContent_scalar {owner : SchemaId} {item : ItemContent}
    (made : model.itemContent owner id referrer = .ok item) :
    ((model.schema? id).any Schema.isScalar = true ∧
        ∃ kind, item = .value kind ∧ model.scalarKind id referrer = .ok (some kind)) ∨
      ((model.schema? id).any Schema.isScalar = false ∧ ∀ kind, item ≠ .value kind) := by
  obtain ⟨found, scalar, rest⟩ := bind_eq_ok made
  cases found with
  | some kind =>
      cases rest
      exact .inl ⟨scalarKind_isScalar scalar, kind, rfl, scalar⟩
  | none =>
      refine .inr ⟨scalarKind_isScalar scalar, ?_⟩
      rintro kind rfl
      obtain ⟨schema, -, rest'⟩ := bind_eq_ok rest
      cases schema <;> cases rest'

/-- The content of a child is a scalar exactly if its schema is. -/
theorem childContent_scalar {property : Property} {owner : SchemaId} {placement : XmlPlacement}
    {name : String} {content : ChildContent}
    (made : model.childContent owner property placement name referrer = .ok content) :
    ((model.schema? property.schema).any Schema.isScalar = true ∧ ∃ kind,
        content = .item (.value kind) ∧ model.scalarKind property.schema referrer = .ok (some kind)) ∨
      ((model.schema? property.schema).any Schema.isScalar = false ∧
        ∀ kind, content ≠ .item (.value kind)) := by
  obtain ⟨schema, present, rest⟩ := bind_eq_ok made
  cases schema with
  | array element =>
      obtain ⟨item, -, same⟩ := bind_eq_ok rest
      cases same
      exact .inr ⟨by rw [schemaFor_eq_ok present]; rfl, fun _ => nofun⟩
  | dictionary value =>
      obtain ⟨entry, -, same⟩ := bind_eq_ok rest
      cases same
      exact .inr ⟨by rw [schemaFor_eq_ok present]; rfl, fun _ => nofun⟩
  | _ =>
      obtain ⟨item, itemMade, same⟩ := bind_eq_ok rest
      cases same
      rcases itemContent_scalar itemMade with ⟨scalar, kind, rfl, found⟩ | ⟨structured, other⟩
      · exact .inl ⟨scalar, kind, rfl, found⟩
      · exact .inr ⟨structured, fun kind same => other kind (ChildContent.item.inj same)⟩

end Model

namespace JsonForm

open Planning

variable {model : Model} {memo : Memo}

/-- What is read on lawful tables is read by steps on empty ones. -/
theorem readsWithin_of_read (lawful : memo.Obeys model.tableLaw) {plan : WirePlan} {document : Json}
    {value : Value} (read : ((read model plan document).run memo).1 = .ok value) :
    ∃ fuel, ReadStep model (ReadsWithin model fuel) plan document value := by
  rw [((read_steady plan document).run lawful).1, JsonForm.read] at read
  cases limit : readLimit model document with
  | zero =>
      rw [limit] at read
      cases read
  | succ fuel =>
      rw [limit] at read
      exact ⟨fuel, readWithin_succ.mp read⟩

/-- The record of a document without a property has the value of its default. -/
theorem read_default (lawful : memo.Obeys model.tableLaw) {owner : String} {plan : ObjectPlan}
    {properties : List Property}
    (planned : properties.mapM (model.propertyPlan owner) = .ok plan.properties)
    (distinct : (properties.map (·.name)).Nodup) {members : List (String × Json)} {record : Value}
    (read : ((read model (.object plan) (.object members)).run memo).1 = .ok record)
    {property : Property} (member : property ∈ properties) {default : Json}
    (declared : property.defaultValue = some default)
    (absent : members.lookup property.serializedName = none) :
    ∃ value, model.ReadsDefault property.schema default value ∧
      record.field? property.name = some value := by
  obtain ⟨fuel, step⟩ := readsWithin_of_read lawful read
  obtain ⟨carried, inside, made⟩ := mapM_eq_ok_mem planned member
  obtain ⟨valuePlanned, name, wireName, -, -, sameDefault⟩ := Model.propertyPlan_eq_ok made
  have names : plan.properties.map (·.name) = properties.map (·.name) := by
    rw [List.map_eq_flatMap, List.map_eq_flatMap]
    refine flatMap_of_mapM_eq_ok (fun source _ made planned => ?_) planned
    rw [(Model.propertyPlan_eq_ok planned).2.1]
  cases step with
  | @object _ _ found each =>
      have field : (readFields plan found).field? property.name = found carried := by
        have nodup : (plan.properties.map (·.name)).Nodup := names ▸ distinct
        rw [readFields, Value.ofFields_eq, Value.field?,
          lookup_sortEntries (nodup.sublist (keys_entriesOf _ _ _)), ← name,
          lookup_entriesOf nodup inside]
      rw [field]
      -- The member is not there, so of the ways to read a property only the default is left.
      have reads := each carried inside
      rw [← wireName] at absent
      generalize found carried = value at reads
      cases reads with
      | null present => rw [absent] at present; cases present
      | member present => rw [absent] at present; cases present
      | default _ same reads =>
          rw [sameDefault, declared] at same
          cases same
          exact ⟨_, ⟨_, _, valuePlanned, ReadsWithin.read reads (.inl ⟨_, rfl⟩)⟩, rfl⟩
      | skip _ none =>
          rw [sameDefault, declared] at none
          cases none

/-- The default of a scalar schema is read as that scalar. -/
theorem ofJson_of_readsDefault {schema : SchemaId} {default : Json} {value : Value}
    (reads : model.ReadsDefault schema default value) {referrer : String} {kind : ScalarKind}
    (scalar : model.scalarKind schema referrer = .ok (some kind)) :
    Scalar.ofJson kind default = .ok value := by
  obtain ⟨plan, other, planned, read⟩ := reads
  have same : model.valuePlan schema referrer = .ok (.scalar kind) := by
    rw [Model.valuePlan, Model.valuePlanWithin, scalar]
    rfl
  rw [Model.valuePlan, Model.valuePlanWithin_referrer same] at planned
  cases planned
  cases limit : readLimit model default with
  | zero =>
      rw [JsonForm.read, limit] at read
      cases read
  | succ fuel =>
      rw [JsonForm.read, limit] at read
      cases readWithin_succ.mp read with
      | scalar made => exact made

end JsonForm

namespace XmlForm

open Planning
open Xml (Element)

variable {model : Model} {readItem : ItemContent → Element → Planning ValueError Value}
  {typeName : String} {element : Element}

/-- The value that stands in for the elements of a property. -/
def default? (child : ChildPlan) : Option Value :=
  match child.default, child.content with
  | some document, .item (.value kind) => (Scalar.ofJson kind document).toOption
  | _, _ => none

/-- What is found for a place of a plan in an element that can be read. -/
def found? (readItem : ItemContent → Element → Planning ValueError Value) (element : Element) :
    Carrier → Option Value
  | .inAttribute plan =>
      (element.attributes.lookup plan.name).bind fun text => (Scalar.ofText plan.kind text).toOption
  | .inText plan =>
      (element.text?.or (if plan.required then some "" else none)).bind fun text =>
        (Scalar.ofText plan.kind text).toOption
  | .inChild plan => ((readChild readItem plan element).fresh.toOption.getD none).or (default? plan)

theorem readAttributes_found {plans : List AttributePlan} {fields : List (String × Value)}
    (read : readAttributes typeName element plans = .ok fields) :
    fields = entriesOf Carrier.property (found? readItem element) (plans.map .inAttribute) := by
  induction plans generalizing fields with
  | nil => cases read; rfl
  | cons plan rest ih =>
      rw [readAttributes] at read
      rw [List.map_cons, entriesOf, List.filterMap_cons, found?]
      cases present : element.attributes.lookup plan.name with
      | some text =>
          simp only [present] at read
          obtain ⟨value, made, read'⟩ := bind_eq_ok read
          obtain ⟨others, done, same⟩ := bind_eq_ok read'
          cases same
          rw [ih done, Option.bind_some, made]
          rfl
      | none =>
          simp only [present] at read
          split at read
          next => cases read
          next => exact ih read

theorem readContentText_found {plan : Option TextPlan} {fields : List (String × Value)}
    (read : readContentText element plan = .ok fields) :
    fields = entriesOf Carrier.property (found? readItem element) (plan.toList.map .inText) := by
  cases plan with
  | none => cases read; rfl
  | some plan =>
      rw [Option.toList_some, List.map_cons, List.map_nil, entriesOf, List.filterMap_cons, found?]
      have made : ∀ {content}, (Scalar.ofText plan.kind content).map
          (fun value => [(plan.property, value)]) = .ok fields →
          ∃ value, Scalar.ofText plan.kind content = .ok value ∧ [(plan.property, value)] = fields :=
        fun same => map_eq_ok same
      rw [readContentText] at read
      cases present : element.text? with
      | some content =>
          simp only [present] at read
          obtain ⟨value, done, same⟩ := made read
          rw [Option.some_or, Option.bind_some, done, ← same]
          rfl
      | none =>
          simp only [present] at read
          cases required : plan.required with
          | true =>
              rw [required, if_pos rfl] at read
              obtain ⟨value, done, same⟩ := made read
              rw [Option.none_or, if_pos rfl, Option.bind_some, done, ← same]
              rfl
          | false =>
              rw [required] at read
              cases read
              rfl

theorem absentChild_default {child : ChildPlan} {fields : List (String × Value)}
    (stands : absentChild typeName child = .ok fields) :
    fields = ((default? child).map fun value => (child.property, value)).toList := by
  rw [absentChild.eq_def] at stands
  split at stands
  next document kind default content =>
    obtain ⟨value, made, same⟩ := map_eq_ok stands
    rw [default?, default, content]
    dsimp only
    rw [made, ← same]
    rfl
  next noScalar =>
    have none : default? child = none := by
      rw [default?.eq_def]
      split
      next document kind default content => exact (noScalar document kind default content).elim
      next => rfl
    split at stands
    next => cases stands
    next =>
      cases stands
      rw [none]
      rfl

theorem readChildren_found {children : List ChildPlan} {fields : List (String × Value)}
    (read : (readChildren readItem typeName element children).fresh = .ok fields) :
    fields = entriesOf Carrier.property (found? readItem element) (children.map .inChild) := by
  induction children generalizing fields with
  | nil => cases read; rfl
  | cons child rest ih =>
      rw [readChildren, fresh_bind] at read
      obtain ⟨present, done, read'⟩ := bind_eq_ok read
      -- What is found for the child comes first, and the rest is read after it.
      have joined : ∀ {here : List (String × Value)},
          (readChildren readItem typeName element rest >>= fun others => pure (here ++ others)).fresh =
            .ok fields →
          fields = here ++ entriesOf Carrier.property (found? readItem element) (rest.map .inChild) := by
        intro here finished
        rw [fresh_bind] at finished
        obtain ⟨others, tail, same⟩ := bind_eq_ok finished
        cases same
        rw [ih tail]
      rw [List.map_cons, entriesOf, List.filterMap_cons, found?, done]
      cases present with
      | some value => exact joined read'
      | none =>
          obtain ⟨here, stands, read''⟩ := bind_eq_ok ((fresh_bind _ _).symm.trans read')
          rw [joined read'', absentChild_default stands]
          change _ = _
          cases default? child <;> rfl

/-- The record of an element has the fields that are found for the places of the plan. -/
theorem readElement_found {fuel : Nat} {plan : ElementPlan} {record : Value}
    (read : (readElement model (fuel + 1) plan element).fresh = .ok record) :
    record = .ofFields (entriesOf Carrier.property (found? (XmlForm.readItem model fuel) element)
      plan.carriers) := by
  rw [readElement_succ, fresh_bind] at read
  obtain ⟨attributes, first, read'⟩ := bind_eq_ok read
  rw [fresh_bind] at read'
  obtain ⟨text, second, read''⟩ := bind_eq_ok read'
  rw [fresh_bind] at read''
  obtain ⟨children, third, same⟩ := bind_eq_ok read''
  cases same
  rw [ElementPlan.carriers, entriesOf_append, entriesOf_append, ← readAttributes_found first,
    ← readContentText_found second, ← readChildren_found third]

/-- A record that is read from a document has the fields that are found in its root. -/
theorem read_found {memo : Memo} (lawful : memo.Obeys model.tableLaw) {plan : ElementPlan}
    {text : String} {root : Element} {record : Value} (parsed : Xml.parse text = .ok root)
    (read : ((read model (.element plan) text).run memo).1 = .ok record) :
    ∃ fuel, record =
      .ofFields (entriesOf Carrier.property (found? (XmlForm.readItem model fuel) root) plan.carriers) := by
  rw [((read_steady plan text).run lawful).1] at read
  simp only [XmlForm.read, parsed, liftM_ok_bind] at read
  split at read
  next =>
    cases levels : root.depth with
    | zero =>
        rw [levels] at read
        cases read
    | succ fuel =>
        rw [levels] at read
        exact ⟨fuel, readElement_found read⟩
  next => cases read

/-- Where nothing stands for a property in an element, its default is found for a scalar child. -/
theorem found?_absent {id : SchemaId} {owner : String} {property : Property} {carrier : Carrier}
    (carries : model.CarriedBy id owner property carrier) (optional : property.required = false)
    {default : Json} (declared : property.defaultValue = some default) {value : Value}
    (reads : model.ReadsDefault property.schema default value) (absent : property.AbsentFrom element) :
    found? readItem element carrier = if model.scalarChild property then some value else none := by
  rw [Property.AbsentFrom] at absent
  rw [Model.scalarChild]
  cases carries with
  | inText asText kind =>
      rw [asText, if_pos rfl] at absent
      simp [found?, absent, optional, asText]
  | inAttribute noText asAttribute kind =>
      rw [noText, asAttribute] at absent
      simp only [Bool.false_eq_true, if_false, if_true] at absent
      simp [found?, absent, noText, asAttribute]
  | @inChild content noText noAttribute made =>
      rw [noText, noAttribute] at absent
      simp only [Bool.false_eq_true, if_false] at absent
      rw [found?, readChild_absent absent optional, fresh_pure, noText, noAttribute, declared]
      rcases Model.childContent_scalar made with ⟨scalar, kind, rfl, kindFound⟩ | ⟨structured, other⟩
      · have made : Scalar.ofJson kind default = .ok value := JsonForm.ofJson_of_readsDefault reads kindFound
        simp [scalar, default?, made, Except.toOption]
      · have none : default? ⟨property.name, property.markupName, content, property.required,
            some default⟩ = none := by
          rw [default?.eq_def]
          split
          next document kind default same => exact (other kind same).elim
          next => rfl
        rw [structured, none]
        rfl

end XmlForm

namespace Model

open Planning

variable {model : Model}

/-- A declared default that fits its schema stands in for an absent property in JSON documents, and in
XML documents exactly where the property is a child element of a scalar schema. -/
theorem absent_default {memo memo' : Memo} (lawful : memo.Obeys model.tableLaw)
    (lawful' : memo'.Obeys model.tableLaw) {id : SchemaId} {plan : WirePlan} {element : ElementPlan}
    (planned : model.planOf id .json = .ok plan)
    (planned' : model.planOf id .xml = .ok (.element element)) {properties : List Property}
    (inherited : model.inheritedProperties id = .ok properties)
    (distinct : (properties.map (·.name)).Nodup) {property : Property} (member : property ∈ properties)
    (optional : property.required = false) {default : Json}
    (declared : property.defaultValue = some default) {members : List (String × Json)} {record : Value}
    (absent : members.lookup property.serializedName = none)
    (read : ((JsonForm.read model plan (.object members)).run memo).1 = .ok record)
    {text : String} {root : Xml.Element} {record' : Value} (parsed : Xml.parse text = .ok root)
    (absent' : property.AbsentFrom root)
    (read' : ((XmlForm.read model (.element element) text).run memo').1 = .ok record') :
    ∃ value, model.ReadsDefault property.schema default value ∧
      record.field? property.name = some value ∧
      record'.field? property.name = if model.scalarChild property then some value else none := by
  obtain ⟨object, properties', carriers, present, rootless, inherited', each, same⟩ :=
    planOf_carriers planned'
  rw [inherited] at inherited'
  cases inherited'
  obtain ⟨shape, rfl, mapped⟩ := planOf_plain present rootless inherited planned
  obtain ⟨value, reads, found⟩ :=
    JsonForm.read_default lawful mapped distinct read member declared absent
  refine ⟨value, reads, found, ?_⟩
  obtain ⟨fuel, rfl⟩ := XmlForm.read_found lawful' parsed read'
  obtain ⟨carrier, inside, carries⟩ := exists_of_forall₂ each.flip member
  have nodup : (element.carriers.map Carrier.property).Nodup := by
    rw [(same.map Carrier.property).nodup_iff, carriers_names each]
    exact distinct
  rw [Value.ofFields_eq, Value.field?, lookup_sortEntries (nodup.sublist (keys_entriesOf _ _ _)),
    ← carries.name, lookup_entriesOf nodup (same.mem_iff.mpr inside),
    XmlForm.found?_absent carries optional declared reads absent']

/-! Lamps with a unit in an attribute, a count in a child element and a list of colors. -/

def unit : Property :=
  { Property.optional "unit" "Text" with
    defaultValue := some (.string "watt"), xml := some { asAttribute := true } }

def count : Property := { Property.optional "count" "Count" with defaultValue := some (.int 1) }

def colors : Property :=
  { Property.optional "colors" "Texts" with defaultValue := some (.array [.string "white"]) }

def lamps : Model :=
  { name := "Lamps"
    schemas :=
      [("Count", .primitive .int32 none),
        ("Lamp", .object { name := "Lamp", properties := [unit, count, colors] }),
        ("Text", .primitive .string none),
        ("Texts", .array "Text")] }

def lampPlan : ObjectPlan :=
  { schema := "Lamp", typeName := "Lamp", discriminator := none
    properties :=
      [⟨"unit", "unit", .scalar (.primitive .string none), false, false, false, unit.defaultValue⟩,
        ⟨"count", "count", .scalar (.primitive .int32 none), false, false, false, count.defaultValue⟩,
        ⟨"colors", "colors", .list (.scalar (.primitive .string none)), false, false, false,
          colors.defaultValue⟩] }

def lampElement : ElementPlan :=
  { schema := "Lamp", typeName := "Lamp", name := "Lamp", text := none
    attributes := [⟨"unit", "unit", .primitive .string none, false⟩]
    children :=
      [⟨"count", "count", .item (.value (.primitive .int32 none)), false, count.defaultValue⟩,
        ⟨"colors", "colors", .sequence false "colors" (.value (.primitive .string none)), false,
          colors.defaultValue⟩] }

/-- The empty lamp has its unit, its count and its colors in JSON, but only its count in XML. -/
theorem lamps_unlike :
    let lamp := Value.record
      [("colors", .list [.string "white"]), ("count", .int 1), ("unit", .string "watt")]
    let bare := Value.record [("count", .int 1)]
    lamps.planOf "Lamp" .json = .ok (.object lampPlan) ∧
      lamps.planOf "Lamp" .xml = .ok (.element lampElement) ∧
      ((JsonForm.read lamps (.object lampPlan) (.object [])).run {}).1 = .ok lamp ∧
      ((XmlForm.read lamps (.element lampElement) "<Lamp/>").run {}).1 = .ok bare ∧
      (∃ value, lamps.ReadsDefault "Text" (.string "watt") value ∧
        lamp.field? "unit" = some value ∧ bare.field? "unit" = none) ∧
      ∃ value, lamps.ReadsDefault "Count" (.int 1) value ∧
        lamp.field? "count" = some value ∧ bare.field? "count" = some value := by
  have lawful := Memo.empty_obeys lamps.tableLaw
  have inherited : lamps.inheritedProperties "Lamp" = .ok [unit, count, colors] := rfl
  have distinct : ([unit, count, colors].map (·.name)).Nodup := by decide
  have parsed : Xml.parse "<Lamp/>" = .ok (.mk "Lamp" [] none []) := rfl
  have listed : unit ∈ [unit, count, colors] := by decide
  have listed' : count ∈ [unit, count, colors] := by decide
  have absent : ∀ name, ([] : List (String × Json)).lookup name = none := fun _ => rfl
  refine ⟨rfl, rfl, rfl, rfl, ?_, ?_⟩
  · exact absent_default lawful lawful rfl rfl inherited distinct listed rfl rfl (absent _) rfl parsed
      rfl rfl
  · exact absent_default lawful lawful rfl rfl inherited distinct listed' rfl rfl (absent _) rfl parsed
      rfl rfl

end Model

end ApiContract
