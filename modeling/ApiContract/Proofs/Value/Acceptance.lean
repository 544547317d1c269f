import ApiContract.Proofs.Json.Acceptance
import ApiContract.Proofs.Xml.Acceptance

/-!
No writer makes a document that its own reader rejects, in either format, of a value that is strict:
one without the few shapes that only the writers take.
-/

namespace ApiContract

open Planning

/-- A strict value that is written in a format can be read in it again, whatever types and plans the
tables hold each time. -/
theorem Value.written_accepted {model : Model} {id : SchemaId} {value : Value} {memo memo' : Memo}
    (lawful : memo.Obeys model.tableLaw) (lawful' : memo'.Obeys model.tableLaw) :
    (JsonForm.Consistent model → ∀ plan document, model.planOf id .json = .ok plan →
      JsonForm.Strict model plan value →
      ((JsonForm.write model plan value).run memo).1 = .ok document →
        ∃ read, ((JsonForm.read model plan document).run memo').1 = .ok read) ∧
      (XmlForm.Consistent model → ∀ plan text, model.planOf id .xml = .ok (.element plan) →
        XmlForm.Strict model (.element plan) value →
        ((XmlForm.write model (.element plan) value).run memo).1 = .ok text →
          ∃ read, ((XmlForm.read model (.element plan) text).run memo').1 = .ok read) := by
  constructor
  · intro consistent plan document planned strict written
    have ran := ((JsonForm.write_steady plan value).run lawful).1
    obtain ⟨read, accepted⟩ :=
      JsonForm.read_of_write consistent planned (ran.symm.trans written) strict
    exact ⟨read, ((JsonForm.read_steady plan document).run lawful').1.trans accepted⟩
  · intro consistent plan text planned strict written
    have ran := ((XmlForm.write_steady plan value).run lawful).1
    obtain ⟨read, accepted⟩ :=
      XmlForm.read_of_write consistent planned (ran.symm.trans written) strict
    exact ⟨read, ((XmlForm.read_steady plan text).run lawful').1.trans accepted⟩

/-- Items with a code of any kind, and with a count that defaults to a document, whatever it is. -/
def shop (count : Json) : Model :=
  { name := "Shop"
    schemas :=
      [("Any", .primitive .any none),
        ("Count", .primitive .int32 none),
        ("Item", .object
          { name := "Item"
            properties :=
              [.mandatory "code" "Any",
                { Property.optional "count" "Count" with defaultValue := some count },
                .optional "seen" "Time", .optional "size" "Size"] }),
        ("Size", .enumeration
          { name := "Size", values := [{ name := "seven", value := .string "007" }], underlying := .int32 }),
        ("Time", .primitive .dateTime (some .unixTime))] }

def sizes : EnumValues := { name := "Size", values := ["007"], extensible := false, underlying := .int32 }

def itemPlan (count : Json) : ObjectPlan :=
  { schema := "Item", typeName := "Item", discriminator := none
    properties :=
      [⟨"code", "code", .scalar .any, true, false, false, none⟩,
        ⟨"count", "count", .scalar (.primitive .int32 none), false, false, false, some count⟩,
        ⟨"seen", "seen", .scalar (.primitive .dateTime (some .unixTime)), false, false, false, none⟩,
        ⟨"size", "size", .scalar (.enumeration sizes), false, false, false, none⟩] }

def itemElement (count : Json) : ElementPlan :=
  { schema := "Item", typeName := "Item", name := "Item", attributes := [], text := none
    children :=
      [⟨"code", "code", .item (.value .any), true, none⟩,
        ⟨"count", "count", .item (.value (.primitive .int32 none)), false, some count⟩,
        ⟨"seen", "seen", .item (.value (.primitive .dateTime (some .unixTime))), false, none⟩,
        ⟨"size", "size", .item (.value (.enumeration sizes)), false, none⟩] }

def lamp : Value := .record [("code", .json (.int 7))]

def lampDocument : Json := .object [("code", .int 7)]

def lampElement : Xml.Element := .mk "Item" [] none [.mk "code" [] (some "7") []]

section Shop
variable {count : Json} {id : SchemaId}

/-- Only items are objects. -/
theorem objects_in_shop (count : Json) (id : SchemaId) :
    ((shop count).schema? id).bind Schema.object? = none ∨ id = "Item" := by
  cases present : (shop count).schema? id with
  | none => exact .inl rfl
  | some schema =>
      have listed := mem_of_lookup present
      simp only [shop, List.mem_cons, List.not_mem_nil, or_false, Prod.mk.injEq] at listed
      rcases listed with ⟨rfl, rfl⟩ | ⟨rfl, rfl⟩ | ⟨rfl, -⟩ | ⟨rfl, rfl⟩ | ⟨rfl, rfl⟩
      case inr.inr.inl => exact .inr rfl
      all_goals exact .inl rfl

theorem plans_in_shop (item : (shop count).planOf "Item" .json = .ok (.object (itemPlan count)))
    {plan : WirePlan} (planned : (shop count).planOf id .json = .ok plan) :
    plan = .object (itemPlan count) ∨ ∃ value, plan = .value value := by
  rcases objects_in_shop count id with other | rfl
  · obtain ⟨value, same, -⟩ := Model.planOf_other_schema other planned
    exact .inr ⟨value, same⟩
  · rw [item] at planned
    cases planned
    exact .inl rfl

theorem elements_in_shop (item : (shop count).planOf "Item" .xml = .ok (.element (itemElement count)))
    {plan : ElementPlan} (planned : (shop count).planOf id .xml = .ok (.element plan)) :
    plan = itemElement count := by
  obtain ⟨element, -, made⟩ := Model.planOf_xml planned
  obtain ⟨object, present⟩ := (Model.elementPlan_eq_ok made).1
  rcases objects_in_shop count id with other | rfl
  · rw [present] at other
    cases other
  · rw [item] at planned
    cases planned
    rfl

theorem distinct_in_shop (item : (shop count).planOf "Item" .json = .ok (.object (itemPlan count))) :
    JsonForm.Consistent (shop count) := by
  intro id plan planned
  rcases plans_in_shop item planned with rfl | ⟨value, rfl⟩
  · change JsonForm.Distinct (itemPlan count)
    simp [JsonForm.Distinct, itemPlan]
  · trivial

theorem tidy_in_shop (item : (shop count).planOf "Item" .xml = .ok (.element (itemElement count))) :
    XmlForm.Consistent (shop count) := by
  intro id plan planned
  rw [elements_in_shop item planned]
  constructor <;> simp [itemElement, ElementPlan.properties, ElementPlan.xmlNames, ElementPlan.itemNames]
  decide

end Shop

theorem counted_plan : (shop (.int 1)).planOf "Item" .json = .ok (.object (itemPlan (.int 1))) := rfl

theorem counted_element : (shop (.int 1)).planOf "Item" .xml = .ok (.element (itemElement (.int 1))) :=
  rfl

theorem lamp_strict : JsonForm.Strict (shop (.int 1)) (.object (itemPlan (.int 1))) lamp := by
  refine .of_parts (fun property member leftOut => ?_) fun nested inner part => ?_
  · simp only [itemPlan, List.mem_cons, List.not_mem_nil, or_false] at member
    rcases member with rfl | rfl | rfl | rfl
    · rcases leftOut.2 _ rfl with isNull | isNull <;> cases isNull
    · exact ⟨.int 1, rfl⟩
    · rfl
    · rfl
  · cases part with
    | property member found =>
      simp only [itemPlan, List.mem_cons, List.not_mem_nil, or_false] at member
      rcases member with rfl | rfl | rfl | rfl <;> cases found
      refine .of_parts trivial fun nested inner part => ?_
      cases part

theorem lamp_strictRecord : XmlForm.StrictRecord (itemElement (.int 1)) [("code", .json (.int 7))] := by
  refine ⟨nofun, nofun, nofun, fun child member missing => ?_⟩
  simp only [itemElement, List.mem_cons, List.not_mem_nil, or_false] at member
  rcases member with rfl | rfl | rfl | rfl
  · cases missing
  · refine ⟨rfl, fun default kind declared same => ?_⟩
    cases declared
    cases same
    exact ⟨.int 1, rfl⟩
  · exact ⟨rfl, nofun⟩
  · exact ⟨rfl, nofun⟩

theorem lamp_strictElement : XmlForm.Strict (shop (.int 1)) (.element (itemElement (.int 1))) lamp := by
  refine .of_inner lamp_strictRecord fun part value inner => ?_
  cases inner with
  | child member found =>
      simp only [itemElement, List.mem_cons, List.not_mem_nil, or_false] at member
      rcases member with rfl | rfl | rfl | rfl <;> cases found
      refine .of_inner trivial fun part value inner => ?_
      cases inner
      refine .of_inner (.int ?_) fun part value inner => ?_
      · decide
      · cases inner

theorem lampElement_named : Xml.Named lampElement := by
  refine .mk (Xml.tagNames_nil (by decide)) fun child member => ?_
  rw [List.mem_singleton.mp member]
  exact .mk (Xml.tagNames_nil (by decide)) (List.forall_mem_nil _)

theorem lamp_text {count : Json}
    (made : (XmlForm.writeElement (shop count) (lamp.depth + 1) (itemElement count) "Item" lamp).fresh =
      .ok lampElement) :
    ((XmlForm.write (shop count) (.element (itemElement count)) lamp).run {}).1 =
      .ok (Xml.document lampElement) :=
  ((XmlForm.write_steady _ lamp).run (Memo.empty_obeys _)).1.trans (XmlForm.write_element made)

theorem lamp_read (count : Json) :
    ((XmlForm.read (shop count) (.element (itemElement count)) (Xml.document lampElement)).run {}).1 =
      (XmlForm.readElement (shop count) lampElement.settled.depth (itemElement count)
        lampElement.settled).fresh :=
  ((XmlForm.read_steady (itemElement count) _).run (Memo.empty_obeys _)).1.trans
    (XmlForm.read_document lampElement_named rfl)

theorem lamp_accepted :
    JsonForm.Consistent (shop (.int 1)) ∧ XmlForm.Consistent (shop (.int 1)) ∧
      (shop (.int 1)).planOf "Item" .json = .ok (.object (itemPlan (.int 1))) ∧
      (shop (.int 1)).planOf "Item" .xml = .ok (.element (itemElement (.int 1))) ∧
      JsonForm.Strict (shop (.int 1)) (.object (itemPlan (.int 1))) lamp ∧
      XmlForm.Strict (shop (.int 1)) (.element (itemElement (.int 1))) lamp ∧
      ((JsonForm.write (shop (.int 1)) (.object (itemPlan (.int 1))) lamp).run {}).1 =
        .ok lampDocument ∧
      ((XmlForm.write (shop (.int 1)) (.element (itemElement (.int 1))) lamp).run {}).1 =
        .ok (Xml.document lampElement) ∧
      (∃ read, ((JsonForm.read (shop (.int 1)) (.object (itemPlan (.int 1))) lampDocument).run {}).1 =
        .ok read) ∧
      ∃ read, ((XmlForm.read (shop (.int 1)) (.element (itemElement (.int 1)))
        (Xml.document lampElement)).run {}).1 = .ok read := by
  obtain ⟨json, xml⟩ := @Value.written_accepted (shop (.int 1)) "Item" lamp {} {}
    (Memo.empty_obeys _) (Memo.empty_obeys _)
  have text := @lamp_text (.int 1) rfl
  have distinct := distinct_in_shop counted_plan
  have tidy := tidy_in_shop counted_element
  exact ⟨distinct, tidy, counted_plan, counted_element, lamp_strict, lamp_strictElement, rfl, text,
    json distinct _ _ counted_plan lamp_strict rfl, xml tidy _ _ counted_element lamp_strictElement text⟩

theorem many_plan :
    (shop (.string "many")).planOf "Item" .json = .ok (.object (itemPlan (.string "many"))) := rfl

theorem many_element :
    (shop (.string "many")).planOf "Item" .xml = .ok (.element (itemElement (.string "many"))) := rfl

theorem many_typed (entry : SchemaId × Schema) (member : entry ∈ (shop (.string "many")).schemas) :
    ∃ type, (shop (.string "many")).typeOf entry.1 = .ok type := by
  simp only [shop, List.mem_cons, List.not_mem_nil, or_false] at member
  rcases member with rfl | rfl | rfl | rfl | rfl <;> exact ⟨_, rfl⟩

/-- The writer makes a document of the value, and the reader rejects it. -/
def JsonForm.Rejected (model : Model) (plan : WirePlan) (value : Value) : Prop :=
  ∃ document error, ((JsonForm.write model plan value).run {}).1 = .ok document ∧
    ((JsonForm.read model plan document).run {}).1 = .error error

def XmlForm.Rejected (model : Model) (plan : ElementPlan) (value : Value) : Prop :=
  ∃ text error, ((XmlForm.write model (.element plan) value).run {}).1 = .ok text ∧
    ((XmlForm.read model (.element plan) text).run {}).1 = .error error

/-- Where the count defaults to a text, a lamp is written in both formats and rejected; and where it
defaults to a number, an item is rejected whose raw code is null, whose time is no number, or whose
size is declared in a spelling that no number has. -/
theorem items_rejected :
    (∀ entry ∈ (shop (.string "many")).schemas,
        ∃ type, (shop (.string "many")).typeOf entry.1 = .ok type) ∧
      JsonForm.Consistent (shop (.string "many")) ∧ XmlForm.Consistent (shop (.string "many")) ∧
      (shop (.string "many")).planOf "Item" .json = .ok (.object (itemPlan (.string "many"))) ∧
      (shop (.string "many")).planOf "Item" .xml = .ok (.element (itemElement (.string "many"))) ∧
      JsonForm.Rejected (shop (.string "many")) (.object (itemPlan (.string "many"))) lamp ∧
      XmlForm.Rejected (shop (.string "many")) (itemElement (.string "many")) lamp ∧
      JsonForm.Rejected (shop (.int 1)) (.object (itemPlan (.int 1)))
        (.record [("code", .json .null)]) ∧
      JsonForm.Rejected (shop (.int 1)) (.object (itemPlan (.int 1)))
        (.record [("code", .json (.int 7)), ("seen", .string "2020")]) ∧
      JsonForm.Rejected (shop (.int 1)) (.object (itemPlan (.int 1)))
        (.record [("code", .json (.int 7)), ("size", .string "007")]) := by
  refine ⟨many_typed, distinct_in_shop many_plan, tidy_in_shop many_element, many_plan, many_element,
    ?default, ?element, ?null, ?time, ?size⟩
  case default => exact ⟨lampDocument, .typeMismatch "an integer" "raw JSON", rfl, rfl⟩
  case element =>
    exact ⟨Xml.document lampElement, .typeMismatch "an integer" "raw JSON",
      lamp_text rfl, (lamp_read _).trans rfl⟩
  case null => exact ⟨.object [("code", .null)], .missingProperty "Item" "code", rfl, rfl⟩
  case time =>
    exact ⟨.object [("code", .int 7), ("seen", .string "2020")],
      .typeMismatch "an integer" "raw JSON", rfl, rfl⟩
  case size =>
    exact ⟨.object [("code", .int 7), ("size", .int 7)], .unknownEnumValue "Size" "7", rfl, rfl⟩

end ApiContract
