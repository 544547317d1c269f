import ApiContract.Code.Field
import ApiContract.Proofs.Types.VisitOrder
import ApiContract.Code.ObjectFile

/-!
Boxed fields. The search behind a field expands each model once and is never cut short by its limit,
so a field without a box leads to models that do not lead back to its owner.
-/

namespace ApiContract.Model

open Planning

variable {model : Model} {owner id : SchemaId}

/-- The variants that the type of a schema lists. -/
theorem variantSchemas_length {type : RustType} (computed : model.typeOf id = .ok type) :
    type.variantSchemas.length ≤ model.schemas.length := by
  cases type with
  | model name schema role =>
      obtain ⟨object, present, has⟩ := typeOf_shape computed
      cases has with
      | base declared collected =>
          simpa [RustType.variantSchemas] using (variants_below present collected).2
      | _ => exact Nat.zero_le _
  | _ => exact Nat.zero_le _

/-- What a model holds are its variants and the models of its properties. -/
theorem heldModels_eq_ok {held : List SchemaId}
    (expanded : (model.heldModels owner id).fresh = .ok held) :
    ∃ type object properties uses, model.typeOf id = .ok type ∧
      model.schema? id = some (.object object) ∧ model.inheritedProperties id = .ok properties ∧
      properties.mapM (fun property => (model.resolveProperty object.name property).fresh) =
        .ok uses ∧
      held = type.variantSchemas ++ uses.filterMap (·.type.model?) := by
  simp only [heldModels, fresh_bind, fresh_liftM, fresh_mapM, fresh_resolve] at expanded
  obtain ⟨used, resolved, rest⟩ := bind_eq_ok expanded
  obtain ⟨type, computed, same⟩ := map_eq_ok resolved
  obtain ⟨object, present, rest⟩ := bind_eq_ok rest
  obtain ⟨properties, inherited, rest⟩ := bind_eq_ok rest
  obtain ⟨uses, mapped, made⟩ := bind_eq_ok rest
  cases same
  cases made
  exact ⟨type, object, properties, uses, computed, objectFor_eq_ok present, inherited, mapped, rfl⟩

/-- A model that is expanded is one of the schemas, and holds at most as many others as there are
schemas and properties. -/
theorem heldModels_le {held : List SchemaId}
    (expanded : (model.heldModels owner id).fresh = .ok held) :
    (∃ schema, model.schema? id = some schema) ∧
      held.length ≤ model.walkLimit + model.propertyCount := by
  obtain ⟨type, object, properties, uses, computed, present, inherited, mapped, rfl⟩ :=
    heldModels_eq_ok expanded
  refine ⟨⟨_, present⟩, ?_⟩
  have variants := variantSchemas_length computed
  have declared := inheritedProperties_le inherited
  have each := (mapM_eq_ok_iff.mp mapped).length_eq
  have models := List.length_filterMap_le (fun used : TypeUse => used.type.model?) uses
  rw [List.length_append, walkLimit]
  omega

/-- A model is expanded, and all models it holds are in the list. -/
def HeldInto (model : Model) (owner : SchemaId) (known : List SchemaId) (id : SchemaId) : Prop :=
  ∃ held, (model.heldModels owner id).fresh = .ok held ∧ held ⊆ known

theorem HeldInto.mono {known more : List SchemaId} (subset : known ⊆ more)
    (within : model.HeldInto owner known id) : model.HeldInto owner more id := by
  obtain ⟨held, expanded, inside⟩ := within
  exact ⟨held, expanded, List.Subset.trans inside subset⟩

/-- A model that is expanded moves to the visited ones, and what it holds becomes pending. -/
theorem heldInto_visit {visited pending held : List SchemaId}
    (expanded : (model.heldModels owner id).fresh = .ok held)
    (known : ∀ other ∈ visited, model.HeldInto owner (visited ++ id :: pending) other) :
    visited ++ id :: pending ⊆ (id :: visited) ++ (held.reverse ++ pending) ∧
      ∀ other ∈ id :: visited,
        model.HeldInto owner ((id :: visited) ++ (held.reverse ++ pending)) other :=
  visit_leads (model.HeldInto owner) HeldInto.mono ⟨held, expanded, List.Subset.refl _⟩ known

/-- Models from which a search has not come to the owner: all of them are expanded, and the owner is
not among them. -/
structure Apart (model : Model) (owner : SchemaId) (closure : List SchemaId) : Prop where
  missed : owner ∉ closure
  expanded : ∀ id ∈ closure, model.HeldInto owner closure id

/-- With enough fuel a search that fails has seen everything that the pending models lead to. -/
theorem leadsTo_apart {fuel : Nat} {visited pending : List SchemaId}
    (enough : pending.length +
      (model.walkLimit + model.propertyCount) * unseen (fun _ => 1) visited model.schemas ≤ fuel)
    (known : ∀ id ∈ visited, model.HeldInto owner (visited ++ pending) id)
    (before : owner ∉ visited)
    (missed : (model.leadsTo owner fuel visited pending).fresh = .ok false) :
    ∃ closure, visited ++ pending ⊆ closure ∧ model.Apart owner closure := by
  -- The fuel pays for the pending models and for what all models not seen yet may hold.
  induction fuel generalizing visited pending with
  | zero =>
      have none : pending = [] := List.length_eq_zero_iff.mp (by omega)
      subst none
      rw [List.append_nil] at known ⊢
      exact ⟨visited, List.Subset.refl _, before, known⟩
  | succ fuel ih =>
      cases pending with
      | nil =>
          rw [List.append_nil] at known ⊢
          exact ⟨visited, List.Subset.refl _, before, known⟩
      | cons id pending =>
          rw [List.length_cons] at enough
          rw [leadsTo] at missed
          split at missed
          next => cases missed
          next other =>
            split at missed
            next old =>
              have subset := @subset_skip id visited pending (List.contains_iff_mem.mp old)
              obtain ⟨closure, within, apart⟩ := ih (by omega)
                (fun next member => (known next member).mono subset) before missed
              exact ⟨closure, List.Subset.trans subset within, apart⟩
            next new =>
              have unvisited : id ∉ visited := fun old => new (List.contains_iff_mem.mpr old)
              rw [fresh_bind] at missed
              obtain ⟨held, expanded, rest⟩ := bind_eq_ok missed
              -- what `id` holds costs no more than `id`, seen from now on, had in store
              obtain ⟨⟨schema, present⟩, bounded⟩ := heldModels_le expanded
              have paid := unseen_visit (fun _ => 1) unvisited present
              have cost := Nat.mul_le_mul_left (model.walkLimit + model.propertyCount) paid
              rw [Nat.mul_add, Nat.mul_one] at cost
              have enough' : (held.reverse ++ pending).length +
                  (model.walkLimit + model.propertyCount) *
                    unseen (fun _ => 1) (id :: visited) model.schemas ≤ fuel := by
                rw [List.length_append, List.length_reverse]
                omega
              obtain ⟨moved, known'⟩ := heldInto_visit expanded known
              have before' : owner ∉ id :: visited :=
                List.not_mem_cons_of_ne_of_not_mem (Ne.symm other) before
              obtain ⟨closure, within, apart⟩ := ih enough' known' before' rest
              exact ⟨closure, List.Subset.trans moved within, apart⟩

/-- A field without a box leads to models apart from its owner. -/
theorem needsBox_eq_false {type : RustType} {target : SchemaId} (held : type.model? = some target)
    (unboxed : (model.needsBox owner type).fresh = .ok false) :
    ∃ closure, target ∈ closure ∧ model.Apart owner closure := by
  simp only [needsBox, held] at unboxed
  have enough : [target].length + (model.walkLimit + model.propertyCount) *
      unseen (fun _ => 1) [] model.schemas ≤
      model.walkLimit * (model.walkLimit + model.propertyCount) + 1 := by
    rw [schemas_count, List.length_singleton, Nat.mul_comm model.walkLimit, Nat.add_comm]
    exact Nat.add_le_add_right (Nat.mul_le_mul_left _ (Nat.le_succ _)) 1
  obtain ⟨closure, within, apart⟩ :=
    leadsTo_apart enough (List.forall_mem_nil _) List.not_mem_nil unboxed
  exact ⟨closure, within (by simp), apart⟩

/-- The fields of an object are those of its properties, inherited ones too. -/
theorem modelFields_eq_ok {left : Option String} {fields : List ModelField}
    (made : (model.modelFields id left).fresh = .ok fields) {field : ModelField}
    (member : field ∈ fields) :
    ∃ object properties, model.schema? id = some (.object object) ∧
      model.inheritedProperties id = .ok properties ∧ field.property ∈ properties ∧
      (model.resolveProperty object.name field.property).fresh = .ok field.type ∧
      (model.needsBox id field.type.type).fresh = .ok field.boxed := by
  simp only [modelFields, fresh_bind, fresh_liftM, fresh_mapM] at made
  obtain ⟨object, present, rest⟩ := bind_eq_ok made
  obtain ⟨properties, inherited, mapped⟩ := bind_eq_ok rest
  obtain ⟨property, kept, built⟩ := mem_of_mapM_eq_ok mapped member
  simp only [modelField, fresh_bind, fresh_liftM] at built
  obtain ⟨type, resolved, rest⟩ := bind_eq_ok built
  obtain ⟨kind, -, rest⟩ := bind_eq_ok rest
  obtain ⟨boxed, searched, same⟩ := bind_eq_ok rest
  cases same
  exact ⟨object, properties, objectFor_eq_ok present, inherited, List.mem_of_mem_filter kept,
    resolved, searched⟩

end ApiContract.Model

/-!
Generated types have a finite size. A type holds another one directly where a field of it is neither
a collection nor boxed, where it is an enum and the other one of its variants, or the struct of its
base shape. Boxes cut every cycle through a field, and links between schemas cut the others.
-/

namespace ApiContract

open Planning Relation

/-- A type that is generated for an object schema. -/
inductive GeneratedType where
  /-- The struct of a schema, or its enum if it roots a hierarchy. -/
  | named (schema : SchemaId)
  /-- The struct of the base shape of a root. -/
  | shape (schema : SchemaId)
  deriving DecidableEq, Repr

def GeneratedType.schema : GeneratedType → SchemaId
  | named schema | shape schema => schema

namespace Model

variable {model : Model}

/-- The fields of a generated struct. -/
inductive StructOf (model : Model) : GeneratedType → List ModelField → Prop
  | plain {id : SchemaId} {name : String} {fields : List ModelField} :
      model.typeOf id = .ok (.model name id .plain) →
      (model.modelFields id none).fresh = .ok fields → StructOf model (.named id) fields
  | derived {id base : SchemaId} {name value : String} {root : ObjectType}
      {fields : List ModelField} :
      model.typeOf id = .ok (.model name id (.derived base value)) →
      model.objectFor base id = .ok root →
      (model.modelFields id (some (root.discriminator.getD ""))).fresh = .ok fields →
      StructOf model (.named id) fields
  | shape {id : SchemaId} {name discriminator : String} {variants : List Variant}
      {fields : List ModelField} :
      model.typeOf id = .ok (.model name id (.base discriminator variants)) →
      (model.modelFields id (some discriminator)).fresh = .ok fields →
      StructOf model (.shape id) fields

/-- A generated enum holds its variants and the struct of its base shape. -/
inductive EnumHolds (model : Model) : GeneratedType → GeneratedType → Prop
  | variant {id : SchemaId} {name discriminator : String} {variants : List Variant}
      {variant : Variant} :
      model.typeOf id = .ok (.model name id (.base discriminator variants)) → variant ∈ variants →
      EnumHolds model (.named id) (.named variant.schema)
  | shape {id : SchemaId} {name discriminator : String} {variants : List Variant} :
      model.typeOf id = .ok (.model name id (.base discriminator variants)) →
      EnumHolds model (.named id) (.shape id)

/-- A generated struct holds the models of its fields that are not boxed, optional or not. -/
inductive StructHolds (model : Model) : GeneratedType → GeneratedType → Prop
  | field {type : GeneratedType} {fields : List ModelField} {field : ModelField}
      {target : SchemaId} :
      model.StructOf type fields → field ∈ fields → field.boxed = false →
      field.type.type.model? = some target → StructHolds model type (.named target)

/-- A generated type holds a value of another one within its own. -/
def Holds (model : Model) (holder held : GeneratedType) : Prop :=
  model.EnumHolds holder held ∨ model.StructHolds holder held

theorem StructOf.modelFields {type : GeneratedType} {fields : List ModelField}
    (generated : model.StructOf type fields) :
    ∃ left, (model.modelFields type.schema left).fresh = .ok fields := by
  cases generated with
  | plain _ made => exact ⟨_, made⟩
  | derived _ _ made => exact ⟨_, made⟩
  | shape _ made => exact ⟨_, made⟩

/-- What a generated type holds is of its own schema or of one that the search expands it to. -/
theorem Holds.held {owner : SchemaId} {held : List SchemaId} {holder next : GeneratedType}
    (holds : model.Holds holder next)
    (expanded : (model.heldModels owner holder.schema).fresh = .ok held) :
    next.schema = holder.schema ∨ next.schema ∈ held := by
  obtain ⟨type, object, properties, uses, computed, present, inherited, mapped, rfl⟩ :=
    heldModels_eq_ok expanded
  rcases holds with enum | struct
  · cases enum with
    | variant computed' listed =>
        cases computed.symm.trans computed'
        right
        simp only [RustType.variantSchemas, List.mem_append, List.mem_map]
        exact .inl ⟨_, listed, rfl⟩
    | shape => exact .inl rfl
  · cases struct with
    | field generated member _ target =>
        right
        obtain ⟨left, made⟩ := generated.modelFields
        obtain ⟨object', properties', present', inherited', declared, resolved, -⟩ :=
          modelFields_eq_ok made member
        cases present.symm.trans present'
        cases inherited.symm.trans inherited'
        obtain ⟨used, inside, resolved'⟩ := mapM_eq_ok_mem mapped declared
        cases resolved.symm.trans resolved'
        exact List.mem_append_right _ (List.mem_filterMap.mpr ⟨_, inside, target⟩)

/-- Types do not leave the models that a search has found apart from its owner. -/
theorem Apart.confines {owner : SchemaId} {closure : List SchemaId}
    (apart : model.Apart owner closure) {holder last : GeneratedType}
    (inside : holder.schema ∈ closure) (path : ReflTransGen model.Holds holder last) :
    last.schema ∈ closure := by
  induction path with
  | refl => exact inside
  | tail _ holds ih =>
      obtain ⟨held, expanded, within⟩ := apart.expanded _ ih
      rcases holds.held expanded with same | member
      · exact same ▸ ih
      · exact within member

/-- What a struct holds without a box does not lead back to it. -/
theorem StructHolds.acyclic {holder held : GeneratedType} (holds : model.StructHolds holder held) :
    ¬ ReflTransGen model.Holds held holder := by
  intro back
  cases holds with
  | @field _ _ target generated member unboxed isModel =>
      obtain ⟨left, made⟩ := generated.modelFields
      obtain ⟨-, -, -, -, -, -, searched⟩ := modelFields_eq_ok made member
      rw [unboxed] at searched
      obtain ⟨closure, inside, apart⟩ := needsBox_eq_false isModel searched
      have started : (GeneratedType.named target).schema ∈ closure := inside
      exact apart.missed (apart.confines started back)

/-- Enums hold one another along links to derived schemas only. -/
theorem enums_below {first last : GeneratedType} (path : TransGen model.EnumHolds first last) :
    (∃ id, first = .named id) ∧
      ∀ id, last = .named id → TransGen model.DerivedLink first.schema id := by
  have step : ∀ {holder held : GeneratedType}, model.EnumHolds holder held →
      (∃ id, holder = .named id) ∧
        ∀ id, held = .named id → TransGen model.DerivedLink holder.schema id := by
    intro holder held holds
    cases holds with
    | variant computed listed =>
        obtain ⟨object, present, has⟩ := typeOf_shape computed
        cases has with
        | base declared collected =>
            refine ⟨⟨_, rfl⟩, fun id same => ?_⟩
            cases same
            exact (variants_below present collected).1 _ listed
    | shape => exact ⟨⟨_, rfl⟩, fun _ same => by cases same⟩
  induction path with
  | single holds => exact step holds
  | tail _ holds ih =>
      obtain ⟨⟨id, same⟩, below⟩ := step holds
      refine ⟨ih.1, fun id' same' => (ih.2 id same).trans ?_⟩
      have onward := below id' same'
      rwa [same] at onward

/-- A path between generated types follows enums only, or passes through a field of a struct. -/
theorem holds_path {first last : GeneratedType} (path : TransGen model.Holds first last) :
    TransGen model.EnumHolds first last ∨
      ∃ holder held, ReflTransGen model.Holds first holder ∧ model.StructHolds holder held ∧
        ReflTransGen model.Holds held last := by
  induction path with
  | single holds =>
      rcases holds with enum | struct
      · exact .inl (.single enum)
      · exact .inr ⟨_, _, .refl, struct, .refl⟩
  | tail before holds ih =>
      rcases ih with enums | ⟨holder, held, into, struct, onward⟩
      · rcases holds with enum | struct
        · exact .inl (enums.tail enum)
        · exact .inr ⟨_, _, before.to_reflTransGen, struct, .refl⟩
      · exact .inr ⟨holder, held, into, struct, onward.tail holds⟩

/-- Where links to derived schemas form no cycle, no generated type holds itself. -/
theorem generatedTypes_finite (unlooped : ∀ id, ¬ TransGen model.DerivedLink id id)
    (type : GeneratedType) : ¬ TransGen model.Holds type type := by
  intro cycle
  -- enums alone only lead down the links; a struct on the cycle would lead back to itself
  rcases holds_path cycle with enums | ⟨holder, held, into, struct, onward⟩
  · obtain ⟨⟨id, rfl⟩, below⟩ := enums_below enums
    exact unlooped id (below id rfl)
  · exact struct.acyclic (onward.trans into)

/-- The struct in the file of an object has the fields of one of its generated types. -/
theorem objectFile_structOf {id : SchemaId} {asElement : Bool} {file : ModelFile}
    (made : (model.objectFile id asElement).fresh = .ok file) :
    ∃ type fields name description leading rules code,
      type.schema = id ∧ model.StructOf type fields ∧
      ObjectFile.structCode model name description fields leading rules = .ok code ∧
      code <:+: file.code := by
  simp only [objectFile, fresh_bind, fresh_mapError, fresh_lift, fresh_resolve] at made
  obtain ⟨object, present, rest⟩ := bind_eq_ok made
  obtain ⟨used, resolved, rest⟩ := bind_eq_ok rest
  obtain ⟨type, computed, same⟩ := map_eq_ok (mapError_eq_ok.mp resolved)
  obtain ⟨role, has, shaped⟩ := typeOf_object (objectFor_eq_ok (mapError_eq_ok.mp present)) computed
  subst same
  subst shaped
  cases role with
  | plain =>
      simp only [ObjectFile.plainFile, fresh_bind, fresh_mapError, fresh_liftM] at rest
      obtain ⟨code, written, filed⟩ := bind_eq_ok rest
      have same := Except.ok.inj filed
      subst same
      obtain ⟨fields, listed, written⟩ := bind_eq_ok written
      obtain ⟨body, built, written⟩ := bind_eq_ok written
      -- a model that travels as an element has its codec behind the struct
      have whole : ∃ element, body ++ element = code := by
        split at written
        all_goals
          rw [fresh_bind] at written
          obtain ⟨element, -, same⟩ := bind_eq_ok written
          exact ⟨element, Except.ok.inj same⟩
      obtain ⟨element, whole⟩ := whole
      exact ⟨_, _, _, _, _, _, _, rfl, .plain computed (mapError_eq_ok.mp listed), built,
        ⟨[], element, whole⟩⟩
  | derived base value =>
      simp only [ObjectFile.variantFile, fresh_bind, fresh_mapError, fresh_lift, fresh_liftM] at rest
      obtain ⟨code, written, filed⟩ := bind_eq_ok rest
      have same := Except.ok.inj filed
      subst same
      obtain ⟨root, above, written⟩ := bind_eq_ok written
      obtain ⟨fields, listed, built⟩ := bind_eq_ok written
      exact ⟨_, _, _, _, _, _, _, rfl,
        .derived computed (mapError_eq_ok.mp above) (mapError_eq_ok.mp listed), built,
        List.infix_rfl⟩
  | base discriminator variants =>
      simp only [ObjectFile.hierarchyFile, fresh_bind, fresh_mapError, fresh_liftM] at rest
      obtain ⟨code, written, filed⟩ := bind_eq_ok rest
      have same := Except.ok.inj filed
      subst same
      obtain ⟨fields, listed, written⟩ := bind_eq_ok written
      obtain ⟨body, built, same⟩ := bind_eq_ok written
      have whole := Except.ok.inj same
      refine ⟨_, _, _, _, _, _, _, rfl, .shape computed (mapError_eq_ok.mp listed), built, ?_⟩
      change body <:+: code
      rw [← whole]
      exact (List.suffix_append _ _).isInfix

end Model

/-- A root with a variant that refers back to it, and models between them. -/
def shelter : Model :=
  { name := "Shelter"
    schemas :=
      [("Cat", .object { name := "Cat", base := some "Pet", discriminatorValue := some "cat" }),
       ("Collar", .object { name := "Collar", properties := [.mandatory "text" "Text"] }),
       ("Dog", .object
          { name := "Dog", base := some "Pet", discriminatorValue := some "dog"
            properties := [.mandatory "collar" "Collar", .mandatory "keeper" "Keeper"] }),
       ("Keeper", .object { name := "Keeper", properties := [.optional "favorite" "Pet"] }),
       ("Pet", .object
          { name := "Pet", discriminator := some "kind", derived := ["Dog", "Cat"]
            properties := [.mandatory "kind" "Text", .optional "friend" "Pet"] }),
       ("Text", .primitive .string none)] }

theorem shelter_link {base id : SchemaId} (link : shelter.DerivedLink base id) :
    base = "Pet" ∧ id ≠ "Pet" := by
  obtain ⟨object, present, listed⟩ := link
  simp only [Model.schema?, shelter, lookup_cons_if, List.lookup_nil] at present
  split_ifs at present with cat collar dog keeper pet text
  all_goals cases present
  all_goals simp at listed
  exact ⟨pet, by rcases listed with rfl | rfl <;> decide⟩

theorem shelter_unlooped (id : SchemaId) : ¬ TransGen shelter.DerivedLink id id := by
  intro cycle
  obtain ⟨next, link, -⟩ := TransGen.head'_iff.mp cycle
  obtain ⟨last, -, link'⟩ := TransGen.tail'_iff.mp cycle
  exact (shelter_link link').2 (shelter_link link).1

/-- The fields of dogs that lead back to dogs, through the root or through their keeper, are boxed. -/
theorem dog_fields : (List.map fun field => (field.boxed, field.type.type.model?)) <$>
      (shelter.modelFields "Dog" (some "kind")).fresh =
    .ok [(true, some "Pet"), (false, some "Collar"), (true, some "Keeper")] := by
  decide +kernel

/-- The enum over pets holds dogs, and they hold their collars. -/
theorem shelter_finite : (∀ id, ¬ TransGen shelter.DerivedLink id id) ∧
    TransGen shelter.Holds (.named "Pet") (.named "Collar") ∧
    ∀ type, ¬ TransGen shelter.Holds type type := by
  refine ⟨shelter_unlooped, ?_, Model.generatedTypes_finite shelter_unlooped⟩
  have dog : shelter.EnumHolds (.named "Pet") (.named "Dog") :=
    @Model.EnumHolds.variant _ "Pet" "Pet" "kind" _ ⟨"Dog", "Dog", "dog"⟩ rfl List.mem_cons_self
  obtain ⟨fields, made, same⟩ := map_eq_ok dog_fields
  have listed : (false, some "Collar") ∈ fields.map fun field =>
      (field.boxed, field.type.type.model?) := by
    rw [same]
    simp
  obtain ⟨collar, member, unboxed⟩ := List.mem_map.mp listed
  have collar : shelter.StructHolds (.named "Dog") (.named "Collar") :=
    .field (.derived rfl rfl made) member (Prod.mk.inj unboxed).1 (Prod.mk.inj unboxed).2
  exact .tail (.single (.inl dog)) (.inr collar)

end ApiContract
