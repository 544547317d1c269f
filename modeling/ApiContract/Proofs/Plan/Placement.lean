import ApiContract.Proofs.Plan.Closure
import ApiContract.Proofs.Plan.References
import ApiContract.Proofs.Types.Lineage

/-!
Where an element plan puts the properties of its object: each in an attribute, the text or a child
element, and nothing else is planned. An object with such a plan belongs to no hierarchy, so its
other plan is that of a plain object and has the same properties.
-/

namespace ApiContract

/-- A place in an element that carries a property. -/
inductive Carrier where
  | inAttribute (plan : AttributePlan)
  | inText (plan : TextPlan)
  | inChild (plan : ChildPlan)

def Carrier.property : Carrier → String
  | .inAttribute plan => plan.property
  | .inText plan => plan.property
  | .inChild plan => plan.property

def ElementPlan.carriers (plan : ElementPlan) : List Carrier :=
  plan.attributes.map .inAttribute ++ plan.text.toList.map .inText ++ plan.children.map .inChild

def Property.placement (property : Property) : XmlPlacement := property.xml.getD {}

/-- The name of the attribute or of the elements of a property. -/
def Property.markupName (property : Property) : String :=
  property.placement.name.getD property.serializedName

namespace Model

/-- The place that a plan gives to a property. -/
inductive CarriedBy (model : Model) (id : SchemaId) (owner : String) (property : Property) :
    Carrier → Prop
  | inText {kind : ScalarKind} : property.placement.asText = true →
      model.scalarKind property.schema (owner ++ "." ++ property.name) = .ok (some kind) →
      CarriedBy model id owner property (.inText ⟨property.name, kind, property.required⟩)
  | inAttribute {kind : ScalarKind} : property.placement.asText = false →
      property.placement.asAttribute = true →
      model.scalarKind property.schema (owner ++ "." ++ property.name) = .ok (some kind) →
      CarriedBy model id owner property
        (.inAttribute ⟨property.name, property.markupName, kind, property.required⟩)
  | inChild {content : ChildContent} : property.placement.asText = false →
      property.placement.asAttribute = false →
      model.childContent id property property.placement property.markupName
        (owner ++ "." ++ property.name) = .ok content →
      CarriedBy model id owner property
        (.inChild ⟨property.name, property.markupName, content, property.required,
          property.defaultValue⟩)

variable {model : Model} {id : SchemaId} {owner : String}

theorem CarriedBy.name {property : Property} {carrier : Carrier}
    (carries : model.CarriedBy id owner property carrier) : carrier.property = property.name := by
  cases carries <;> rfl

theorem carriers_names {properties : List Property} {carriers : List Carrier}
    (each : List.Forall₂ (model.CarriedBy id owner) properties carriers) :
    carriers.map Carrier.property = properties.map (·.name) := by
  induction each with
  | nil => rfl
  | cons carries _ ih => rw [List.map_cons, List.map_cons, carries.name, ih]

theorem placeProperty_carried {plan placed : ElementPlan} {property : Property}
    (made : model.placeProperty id owner plan property = .ok placed) :
    ∃ carrier, model.CarriedBy id owner property carrier ∧
      placed.carriers.Perm (carrier :: plan.carriers) := by
  change (if (property.placement.asAttribute || property.placement.asText) = true then _ else _) = _
    at made
  split at made
  next scalar =>
    obtain ⟨found, kindFound, rest⟩ := bind_eq_ok made
    cases found with
    | none => cases rest
    | some kind =>
        cases asText : property.placement.asText with
        | true =>
            change (if property.placement.asText = true then _ else _) = _ at rest
            rw [if_pos asText] at rest
            split at rest
            next => cases rest
            next free =>
              have none : plan.text = none := by simpa using free
              cases rest
              refine ⟨_, .inText asText kindFound, ?_⟩
              simp only [ElementPlan.carriers, none, Option.toList_none, Option.toList_some,
                List.map_cons, List.map_nil, List.append_nil, List.append_assoc, List.cons_append,
                List.nil_append]
              exact List.perm_middle
        | false =>
            change (if property.placement.asText = true then _ else _) = _ at rest
            rw [if_neg (by simp [asText])] at rest
            cases rest
            have asAttribute : property.placement.asAttribute = true := by simpa [asText] using scalar
            refine ⟨_, .inAttribute asText asAttribute kindFound, ?_⟩
            simp only [ElementPlan.carriers, List.map_append, List.map_cons, List.map_nil,
              List.append_assoc, List.cons_append, List.nil_append]
            exact List.perm_middle
  next apart =>
    obtain ⟨content, contentMade, same⟩ := bind_eq_ok made
    cases same
    simp only [Bool.or_eq_true, not_or, Bool.not_eq_true] at apart
    refine ⟨_, .inChild apart.2 apart.1 contentMade, ?_⟩
    simp only [ElementPlan.carriers, List.map_append, List.map_cons, List.map_nil]
    rw [← List.append_assoc]
    exact List.perm_append_singleton _ _

theorem placeProperties_carried {plan placed : ElementPlan} {properties : List Property}
    (made : properties.foldlM (model.placeProperty id owner) plan = .ok placed) :
    ∃ carriers, List.Forall₂ (model.CarriedBy id owner) properties carriers ∧
      placed.carriers.Perm (carriers ++ plan.carriers) := by
  induction properties generalizing plan with
  | nil =>
      cases made
      exact ⟨[], .nil, .refl _⟩
  | cons property rest ih =>
      rw [List.foldlM_cons] at made
      obtain ⟨next, first, others⟩ := bind_eq_ok made
      obtain ⟨carrier, carries, placed'⟩ := placeProperty_carried first
      obtain ⟨carriers, each, same⟩ := ih others
      refine ⟨carrier :: carriers, .cons carries each, same.trans ?_⟩
      exact (placed'.append_left carriers).trans List.perm_middle

/-- The places of an element plan are those of the properties of its object, which is plain. -/
theorem planOf_carriers {element : ElementPlan} (planned : model.planOf id .xml = .ok (.element element)) :
    ∃ object properties carriers, model.schema? id = some (.object object) ∧
      model.hierarchyRoot id = .ok none ∧ model.inheritedProperties id = .ok properties ∧
      List.Forall₂ (model.CarriedBy id object.name) properties carriers ∧
      element.carriers.Perm carriers := by
  obtain ⟨made, same, planned'⟩ := planOf_xml planned
  cases same
  obtain ⟨schema, found, rest⟩ := bind_eq_ok planned'
  have present := schemaFor_eq_ok found
  cases schema with
  | object object =>
      obtain ⟨root, walked, rest'⟩ := bind_eq_ok rest
      split at rest'
      next => cases rest'
      next rootless =>
        obtain ⟨properties, inherited, placed⟩ := bind_eq_ok rest'
        obtain ⟨carriers, each, same⟩ := placeProperties_carried placed
        have none : root = none := by simpa using rootless
        refine ⟨object, properties, carriers, present, none ▸ walked, inherited, each, ?_⟩
        exact same.trans (by simp [ElementPlan.carriers])
  | _ => cases rest

/-! Links to other objects. -/

/-- The schema of the elements that carry the values of a schema: that of the items or of the entries,
if it is a collection. -/
def contentSchema (model : Model) (id : SchemaId) : SchemaId :=
  match model.schema? id with
  | some (.array element) => element
  | some (.dictionary value) => value
  | _ => id

/-- A property of an object, an inherited one included, is carried by elements of another object. -/
def ContentLink (model : Model) (id linked : SchemaId) : Prop :=
  ∃ properties, model.inheritedProperties id = .ok properties ∧ ∃ property ∈ properties,
    property.placement.asText = false ∧ property.placement.asAttribute = false ∧
      linked = model.contentSchema property.schema ∧ model.IsObject linked

theorem mem_itemContent {schema referrer : String} {content : ItemContent}
    (made : model.itemContent id schema referrer = .ok content) (linked : SchemaId) :
    linked ∈ ItemContent.models content ↔ linked = schema ∧ model.IsObject linked := by
  obtain ⟨kind, found, rest⟩ := bind_eq_ok made
  cases kind with
  | some kind =>
      cases rest
      obtain ⟨declared, present, scalar⟩ := bind_eq_ok found
      refine iff_of_false List.not_mem_nil ?_
      rintro ⟨rfl, object, isObject⟩
      cases (schemaFor_eq_ok present).symm.trans isObject
      cases scalar
  | none =>
      obtain ⟨declared, present, rest'⟩ := bind_eq_ok rest
      cases declared with
      | object object =>
          cases rest'
          rw [ItemContent.models, List.mem_singleton]
          refine ⟨?_, And.left⟩
          rintro rfl
          exact ⟨rfl, object, schemaFor_eq_ok present⟩
      | _ => cases rest'

theorem mem_childContent {property : Property} {name referrer : String} {content : ChildContent}
    (made : model.childContent id property property.placement name referrer = .ok content)
    (linked : SchemaId) :
    linked ∈ ChildContent.models content ↔
      linked = model.contentSchema property.schema ∧ model.IsObject linked := by
  obtain ⟨schema, found, rest⟩ := bind_eq_ok made
  rw [contentSchema, schemaFor_eq_ok found]
  cases schema <;> obtain ⟨item, ofItem, same⟩ := bind_eq_ok rest <;> cases same <;>
    exact mem_itemContent ofItem linked

/-- The objects that the plan of an object refers to are those it is linked to. -/
theorem mem_linkedModels {element : ElementPlan}
    (planned : model.planOf id .xml = .ok (.element element)) (linked : SchemaId) :
    linked ∈ linkedModels (.element element) ↔ model.ContentLink id linked := by
  obtain ⟨object, properties, carriers, -, -, inherited, each, same⟩ := planOf_carriers planned
  have children : ∀ child, child ∈ element.children ↔ .inChild child ∈ carriers := by
    intro child
    rw [← same.mem_iff, ElementPlan.carriers]
    simp
  rw [linkedModels, List.mem_flatMap]
  constructor
  · rintro ⟨child, listed, inside⟩
    obtain ⟨property, declared, carries⟩ :=
      exists_of_forall₂ each ((children child).mp listed)
    cases carries with
    | inChild apartText apartAttribute made =>
        exact ⟨properties, inherited, property, declared, apartText, apartAttribute,
          (mem_childContent made linked).mp inside⟩
  · rintro ⟨properties', inherited', property, declared, apartText, apartAttribute, contains⟩
    cases inherited.symm.trans inherited'
    obtain ⟨carrier, listed, carries⟩ := exists_of_forall₂ each.flip declared
    cases carries with
    | inText asText _ => cases apartText.symm.trans asText
    | inAttribute _ asAttribute _ => cases apartAttribute.symm.trans asAttribute
    | inChild _ _ made =>
        exact ⟨_, (children _).mpr listed, (mem_childContent made linked).mpr contains⟩

/-- What is reachable through plans is reachable through links. -/
theorem XmlReachable.links {root schema : SchemaId} (reachable : model.XmlReachable root schema) :
    Relation.ReflTransGen model.ContentLink root schema := by
  induction reachable with
  | root => exact .refl
  | next _ planned member ih =>
      obtain ⟨element, rfl, -⟩ := planOf_xml planned
      exact ih.tail ((mem_linkedModels planned _).mp member)

/-- What is reachable through links is reachable through plans, as far as there are plans. -/
theorem reachable_of_links {root schema : SchemaId}
    (planned : ∀ id, model.XmlReachable root id →
      ∃ plan, model.planOf id .xml = .ok (.element plan))
    (links : Relation.ReflTransGen model.ContentLink root schema) :
    model.XmlReachable root schema := by
  induction links with
  | refl => exact .root
  | tail _ link ih =>
      obtain ⟨plan, made⟩ := planned _ ih
      exact .next ih made ((mem_linkedModels made _).mpr link)

/-- An object without a hierarchy has the JSON plan of a plain object. -/
theorem planOf_plain {object : ObjectType} {plan : WirePlan} {properties : List Property}
    (present : model.schema? id = some (.object object))
    (rootless : model.hierarchyRoot id = .ok none)
    (inherited : model.inheritedProperties id = .ok properties)
    (planned : model.planOf id .json = .ok plan) :
    ∃ shape : ObjectPlan, plan = .object shape ∧
      properties.mapM (model.propertyPlan object.name) = .ok shape.properties := by
  cases plannedAs_of_planOf planned with
  | value other _ =>
      rw [present] at other
      cases other
  | plain found _ _ shaped =>
      cases present.symm.trans found
      obtain ⟨_, inherited', rest⟩ := bind_eq_ok shaped
      obtain ⟨planned', mapped, same⟩ := bind_eq_ok rest
      rw [inherited] at inherited'
      cases inherited'
      cases same
      have kept : properties.filter (fun property => none != some property.serializedName) =
          properties :=
        List.filter_eq_self.mpr fun _ _ => rfl
      rw [kept] at mapped
      exact ⟨_, rfl, mapped⟩
  | derived _ _ walked _ _ =>
      rw [rootless] at walked
      cases walked
  | base present declared _ _ =>
      -- A declared discriminator would make the object a root of its own.
      have own := hierarchyRoot_eq_some.mpr ⟨_, .here present (by rw [declared]; rfl)⟩
      rw [rootless] at own
      cases own

end Model

end ApiContract
