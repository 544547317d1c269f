import ApiContract.Proofs.Types.Variants

/-!
The two walks of a hierarchy. One leads from an object up its bases to the first that declares a
discriminator, the other from a root down to everything derived from it. Where an object is listed
by exactly the object that it names as its base, and nothing below a root is a root itself, the two
agree: what an object is planned to say of itself is what its root says of it.
-/

namespace ApiContract.Model

open Planning Relation

variable {model : Model} {memo : Memo} {root id : SchemaId}

/-- So many links to bases lead from an object to the first object that declares a discriminator. -/
inductive RootedAt (model : Model) (root : SchemaId) : SchemaId → Nat → Prop where
  | here {object : ObjectType} : model.schema? root = some (.object object) →
      object.discriminator.isSome → RootedAt model root root 0
  | up {id base : SchemaId} {object : ObjectType} {levels : Nat} :
      model.schema? id = some (.object object) → object.discriminator = none →
      object.base = some base → RootedAt model root base levels → RootedAt model root id (levels + 1)

namespace RootedAt

theorem unique {levels levels' : Nat} (rooted : model.RootedAt root id levels)
    (rooted' : model.RootedAt root id levels') : levels' = levels := by
  induction rooted generalizing levels' with
  | here present declares =>
      cases rooted' with
      | here => rfl
      | up present' silent _ _ =>
          cases present.symm.trans present'
          rw [silent] at declares
          cases declares
  | up present silent base _ ih =>
      cases rooted' with
      | here present' declares =>
          cases present.symm.trans present'
          rw [silent] at declares
          cases declares
      | up present' _ base' rest =>
          cases present.symm.trans present'
          cases base.symm.trans base'
          rw [ih rest]

theorem declares {levels : Nat} (rooted : model.RootedAt root id levels) :
    ∃ object wireName, model.schema? root = some (.object object) ∧
      object.discriminator = some wireName := by
  induction rooted with
  | here present declares =>
      obtain ⟨wireName, declared⟩ := Option.isSome_iff_exists.mp declares
      exact ⟨_, wireName, present, declared⟩
  | up _ _ _ _ ih => exact ih

-- What was visited before stands further down, so the walk never comes back to it.
theorem findRoot {start : SchemaId} {levels : Nat} (rooted : model.RootedAt root id levels)
    {visited : List SchemaId} {fuel : Nat}
    (below : ∀ seen ∈ visited, ∃ lower, levels < lower ∧ model.RootedAt root seen lower)
    (enough : unseen (fun _ => 1) visited model.schemas < fuel) :
    model.findRoot start fuel visited id = .ok (some root) := by
  have fresh : id ∉ visited := by
    intro seen
    obtain ⟨lower, further, rooted'⟩ := below id seen
    exact absurd (rooted.unique rooted') (Nat.ne_of_gt further)
  obtain ⟨fuel, rfl⟩ := Nat.exists_eq_add_of_le' (Nat.lt_of_le_of_lt (Nat.zero_le _) enough)
  induction rooted generalizing visited fuel with
  | here present declares =>
      rw [Model.findRoot, if_neg (mt List.contains_iff_mem.mp fresh),
        objectFor_of_object? (object?_eq_some.mpr present), ok_bind, if_pos declares]
      rfl
  | @up id base object levels present silent link rest ih =>
      have paid := unseen_visit (fun _ => 1) fresh present
      have below' : ∀ seen ∈ id :: visited,
          ∃ lower, levels < lower ∧ model.RootedAt root seen lower := by
        intro seen member
        rcases List.mem_cons.mp member with rfl | earlier
        · exact ⟨levels + 1, Nat.lt_succ_self _, .up present silent link rest⟩
        · obtain ⟨lower, further, rooted⟩ := below seen earlier
          exact ⟨lower, Nat.lt_of_succ_lt further, rooted⟩
      have fresh' : base ∉ id :: visited := by
        intro seen
        obtain ⟨lower, further, rooted⟩ := below' base seen
        exact absurd (rest.unique rooted) (Nat.ne_of_gt further)
      obtain ⟨fuel, rfl⟩ := Nat.exists_eq_add_of_le' (show 1 ≤ fuel by omega)
      rw [Model.findRoot, if_neg (mt List.contains_iff_mem.mp fresh),
        objectFor_of_object? (object?_eq_some.mpr present), ok_bind, silent, link]
      exact ih below' fresh' fuel (by omega)

end RootedAt

theorem rootedAt_of_findRoot {start : SchemaId} {fuel : Nat} {visited : List SchemaId}
    (walked : model.findRoot start fuel visited id = .ok (some root)) :
    ∃ levels, model.RootedAt root id levels := by
  induction fuel generalizing visited id with
  | zero => cases walked
  | succ fuel ih =>
      rw [findRoot] at walked
      split at walked
      next => cases walked
      next =>
        obtain ⟨object, found, rest⟩ := bind_eq_ok walked
        have present := objectFor_eq_ok found
        split at rest
        next declares =>
          cases rest
          exact ⟨0, .here present declares⟩
        next silent =>
          rw [Option.not_isSome_iff_eq_none] at silent
          split at rest
          next base link =>
            obtain ⟨levels, rooted⟩ := ih rest
            exact ⟨levels + 1, .up present silent link rooted⟩
          next => cases rest

theorem hierarchyRoot_eq_some :
    model.hierarchyRoot id = .ok (some root) ↔ ∃ levels, model.RootedAt root id levels := by
  constructor
  · exact rootedAt_of_findRoot
  · rintro ⟨levels, rooted⟩
    apply rooted.findRoot (List.forall_mem_nil _)
    rw [schemas_count, walkLimit]
    omega

/-- A root is resolved by itself, whatever there is above it. -/
theorem typeOf_root {object : ObjectType} {discriminator : String}
    (present : model.schema? root = some (.object object))
    (declares : object.discriminator = some discriminator) :
    model.typeOf root =
      (fun variants => .model (Naming.typeName object.name) root (.base discriminator variants)) <$>
        model.variants root object := by
  have resolved := fresh_resolve_root present declares
  rw [fresh_resolve] at resolved
  cases computed : model.typeOf root <;> cases collected : model.variants root object <;>
    rw [computed, collected] at resolved <;> cases resolved <;> rfl

/-- An object is resolved as derived exactly if its bases lead to a root that is resolved. -/
theorem typeOf_derived {name value : String} :
    model.typeOf id = .ok (.model name id (.derived root value)) ↔
      ∃ object levels type, model.schema? id = some (.object object) ∧
        object.discriminator = none ∧ model.RootedAt root id levels ∧ model.typeOf root = .ok type ∧
        name = Naming.typeName object.name ∧ value = object.variantValue := by
  constructor
  · intro computed
    obtain ⟨object, present, -⟩ := typeOf_shape computed
    obtain ⟨role, has, same⟩ := typeOf_object present computed
    obtain ⟨named, -, rfl⟩ := RustType.model.inj same
    cases has with
    | derived silent walked resolved =>
        obtain ⟨levels, rooted⟩ := hierarchyRoot_eq_some.mp walked
        exact ⟨object, levels, _, present, silent, rooted, resolved, named, rfl⟩
  · rintro ⟨object, levels, type, present, silent, rooted, resolved, named, valued⟩
    rw [named, valued]
    obtain ⟨declared, wireName, rootPresent, declares⟩ := rooted.declares
    have walked := hierarchyRoot_eq_some.mpr ⟨levels, rooted⟩
    -- the root refers to no other type, so it is resolved in one step
    have ends : model.Ends root 0 := .here (by simp [typeLink?, rootPresent, declares])
    have inner : (model.resolveWithin model.walkLimit root id).fresh = .ok type := by
      calc (model.resolveWithin model.walkLimit root id).fresh
          = (model.resolveWithin (model.walkLimit + 1) root id).fresh :=
            ends.fresh_resolveWithin (by rw [walkLimit]; omega) (by omega) id
        _ = .ok type := fresh_resolveWithin_referrer resolved id
    rw [typeOf, fresh_resolveWithin_succ]
    simp only [computeType, schemaFor, present, liftM_ok_bind, roleOf, silent, walked, fresh_bind,
      inner, ok_bind, fresh_pure]

/-- The variants of a root stand for the schemas below it, each of them once. -/
theorem variants_listed {object : ObjectType} {variants : List Variant}
    (present : model.schema? root = some (.object object))
    (collected : model.variants root object = .ok variants) :
    (variants.map Variant.schema).Nodup ∧
      (∀ id, id ∈ variants.map Variant.schema ↔ model.Below root id) ∧
      ∀ variant ∈ variants, model.Stands variant := by
  obtain ⟨order, walk⟩ := @VisitOrder.exists_order model [root] object.derived
  have stand := visitVariants_stands collected (List.forall_mem_nil _)
  rw [variants_eq walk] at collected
  obtain ⟨found, listed, rfl⟩ := map_eq_ok collected
  rcases @listVariants_outcome model root object.name order with
    ⟨-, outcome⟩ | ⟨earlier, later, -, -, outcome⟩
  · rw [outcome] at listed
    obtain ⟨objects, mapped, same⟩ := bind_eq_ok listed
    cases same
    obtain ⟨-, schemas⟩ := leadingVariants_of_objects (mapM_objectFor_eq_ok.mp ⟨objects, mapped⟩)
    rw [List.reverse_reverse] at stand ⊢
    rw [schemas]
    exact ⟨walk.fresh.1, walk.mem_iff present, stand⟩
  · rw [outcome] at listed
    cases listed

/-- Two objects tell of a link between them in the same words, from either end, and what is derived
from a root is no root itself. Bases may still go in a circle that no root is on. -/
structure Coherent (model : Model) : Prop where
  linked {base id : SchemaId} {above object : ObjectType} :
    model.schema? base = some (.object above) → model.schema? id = some (.object object) →
      (id ∈ above.derived ↔ object.base = some base)
  oneRoot {root id : SchemaId} {declared object : ObjectType} :
    model.schema? root = some (.object declared) → declared.discriminator.isSome →
      TransGen model.DerivedLink root id → model.schema? id = some (.object object) →
        object.discriminator = none

namespace Coherent

theorem rootedAt_link (coherent : model.Coherent) {base : SchemaId} {levels : Nat}
    (rooted : model.RootedAt root base levels) (link : model.DerivedLink base id)
    {object : ObjectType} (present : model.schema? id = some (.object object))
    (silent : object.discriminator = none) : model.RootedAt root id (levels + 1) := by
  obtain ⟨above, found, listed⟩ := link
  exact .up present silent ((coherent.linked found present).mp listed) rooted

/-- The links down from a root are links up to it. -/
theorem rootedAt (coherent : model.Coherent) {declared : ObjectType}
    (rootPresent : model.schema? root = some (.object declared))
    (declares : declared.discriminator.isSome) (path : TransGen model.DerivedLink root id)
    {object : ObjectType} (present : model.schema? id = some (.object object)) :
    ∃ levels, model.RootedAt root id levels := by
  have silent := coherent.oneRoot rootPresent declares path present
  induction path generalizing object with
  | single link => exact ⟨1, coherent.rootedAt_link (.here rootPresent declares) link present silent⟩
  | @tail between next above link ih =>
      obtain ⟨middle, found, listed⟩ := link
      obtain ⟨levels, rooted⟩ := ih found (coherent.oneRoot rootPresent declares above found)
      exact ⟨levels + 1, coherent.rootedAt_link rooted ⟨middle, found, listed⟩ present silent⟩

/-- The links up to a root are links down from it. -/
theorem path_down (coherent : model.Coherent) {levels : Nat}
    (rooted : model.RootedAt root id levels) :
    (∃ object, model.schema? id = some (.object object)) ∧
      ReflTransGen model.DerivedLink root id := by
  induction rooted with
  | here present _ => exact ⟨⟨_, present⟩, .refl⟩
  | up present _ link _ ih =>
      obtain ⟨⟨above, found⟩, path⟩ := ih
      have listed := (coherent.linked found present).mpr link
      exact ⟨⟨_, present⟩, path.tail ⟨above, found, listed⟩⟩

theorem below_iff (coherent : model.Coherent) {declared object : ObjectType}
    (rootPresent : model.schema? root = some (.object declared))
    (declares : declared.discriminator.isSome)
    (present : model.schema? id = some (.object object)) :
    model.Below root id ↔ object.discriminator = none ∧ ∃ levels, model.RootedAt root id levels := by
  constructor
  · rintro ⟨-, path⟩
    exact ⟨coherent.oneRoot rootPresent declares path present,
      coherent.rootedAt rootPresent declares path present⟩
  · rintro ⟨silent, levels, rooted⟩
    have other : id ≠ root := by
      rintro rfl
      cases present.symm.trans rootPresent
      rw [silent] at declares
      cases declares
    rcases reflTransGen_iff_eq_or_transGen.mp (coherent.path_down rooted).2 with same | path
    · exact absurd same other
    · exact ⟨other, path⟩

end Coherent

/-- A schema that is listed once has one entry. -/
theorem filter_schema {variants : List Variant} (once : (variants.map Variant.schema).Nodup)
    {variant : Variant} (member : variant ∈ variants) :
    variants.filter (·.schema == variant.schema) = [variant] := by
  induction variants with
  | nil => cases member
  | cons first rest ih =>
      obtain ⟨new, once'⟩ := List.nodup_cons.mp once
      rcases List.mem_cons.mp member with rfl | later
      · have others : rest.filter (·.schema == variant.schema) = [] := by
          rw [List.filter_eq_nil_iff]
          intro other inside same
          exact new (List.mem_map.mpr ⟨other, inside, beq_iff_eq.mp same⟩)
        rw [List.filter_cons, if_pos (beq_self_eq_true _), others]
      · have different : ¬ (first.schema == variant.schema) = true := by
          intro same
          exact new (List.mem_map.mpr ⟨variant, later, (beq_iff_eq.mp same).symm⟩)
        rw [List.filter_cons, if_neg different, ih once' later]

/-- On these tables a schema is resolved to a model with this role. -/
def TakesRole (model : Model) (memo : Memo) (id : SchemaId) (role : HierarchyRole) : Prop :=
  ∃ name schema nullable,
    ((model.resolve id).run memo).1 = .ok ⟨.model name schema role, nullable⟩

theorem takesRole_iff (lawful : memo.Obeys model.tableLaw) {role : HierarchyRole} :
    model.TakesRole memo id role ↔ ∃ object, model.schema? id = some (.object object) ∧
      model.typeOf id = .ok (.model (Naming.typeName object.name) id role) := by
  have steady : (model.resolve id).Steady model.tableLaw := resolveUse_steady id false id
  rw [TakesRole, (steady.run lawful).1, fresh_resolve]
  constructor
  · rintro ⟨name, schema, nullable, resolved⟩
    obtain ⟨type, computed, same⟩ := map_eq_ok resolved
    cases same
    obtain ⟨object, present, -⟩ := typeOf_shape computed
    obtain ⟨role', -, same⟩ := typeOf_object present computed
    obtain ⟨named, rfl, rfl⟩ := RustType.model.inj same
    exact ⟨object, present, named ▸ computed⟩
  · rintro ⟨object, present, computed⟩
    exact ⟨_, _, _, by rw [computed]; rfl⟩

theorem takesRole_base_iff (lawful : memo.Obeys model.tableLaw) {discriminator : String}
    {variants : List Variant} :
    model.TakesRole memo root (.base discriminator variants) ↔
      ∃ declared, model.schema? root = some (.object declared) ∧
        declared.discriminator = some discriminator ∧
        model.variants root declared = .ok variants := by
  rw [takesRole_iff lawful]
  constructor
  · rintro ⟨declared, present, computed⟩
    obtain ⟨role, has, same⟩ := typeOf_object present computed
    cases (RustType.model.inj same).2.2
    cases has with
    | base declares collected => exact ⟨declared, present, declares, collected⟩
  · rintro ⟨declared, present, declares, collected⟩
    exact ⟨declared, present, by rw [typeOf_root present declares, collected]; rfl⟩

theorem takesRole_derived_iff (lawful : memo.Obeys model.tableLaw) {value : String} :
    model.TakesRole memo id (.derived root value) ↔
      ∃ object declared discriminator variants levels, model.schema? id = some (.object object) ∧
        object.discriminator = none ∧ model.schema? root = some (.object declared) ∧
        declared.discriminator = some discriminator ∧ model.RootedAt root id levels ∧
        model.variants root declared = .ok variants ∧ value = object.variantValue := by
  rw [takesRole_iff lawful]
  constructor
  · rintro ⟨object, present, computed⟩
    obtain ⟨object', levels, type, present', silent, rooted, resolved, -, same⟩ :=
      typeOf_derived.mp computed
    cases present.symm.trans present'
    obtain ⟨declared, discriminator, rootPresent, declares⟩ := rooted.declares
    rw [typeOf_root rootPresent declares] at resolved
    obtain ⟨variants, collected, -⟩ := map_eq_ok resolved
    exact ⟨object, declared, discriminator, variants, levels, present, silent, rootPresent,
      declares, rooted, collected, same⟩
  · rintro ⟨object, declared, discriminator, variants, levels, present, silent, rootPresent,
      declares, rooted, collected, same⟩
    have resolved : model.typeOf root =
        .ok (.model (Naming.typeName declared.name) root (.base discriminator variants)) := by
      rw [typeOf_root rootPresent declares, collected]
      rfl
    exact ⟨object, present,
      typeOf_derived.mpr ⟨object, levels, _, present, silent, rooted, resolved, rfl, same⟩⟩

/-- The JSON plan of a derived object is that of its properties, those under the wire name of the
root left out, together with the discriminator. -/
theorem planOf_derived {object declared : ObjectType} {name discriminator value : String}
    (present : model.schema? id = some (.object object))
    (computed : model.typeOf id = .ok (.model name id (.derived root value)))
    (rootPresent : model.schema? root = some (.object declared))
    (declares : declared.discriminator = some discriminator) :
    model.planOf id .json =
      (fun plan => WirePlan.object { plan with discriminator := some ⟨discriminator, value⟩ }) <$>
        model.objectPlan id object (some discriminator) := by
  rw [planOf_eq]
  simp only [makePlan, jsonPlan, schemaFor_of_some present, liftM_ok_bind, fresh_bind,
    fresh_resolve, computed]
  change model.hierarchyPlan id object name (.derived root value) = _
  rw [hierarchyPlan, objectFor_of_object? (object?_eq_some.mpr rootPresent), ok_bind, declares]
  dsimp only [Option.getD_some]
  cases model.objectPlan id object (some discriminator) <;> rfl

/-- The two walks of a coherent model agree: an object is derived from a root exactly if it is one of
the variants of the root, it is that once and under the value that it carries, and its JSON plan
writes this value under the wire name of the root. -/
theorem derived_iff_variant (coherent : model.Coherent) (lawful : memo.Obeys model.tableLaw)
    (root id : SchemaId) (value : String) :
    (model.TakesRole memo id (.derived root value) ↔
      ∃ discriminator variants typeName, model.TakesRole memo root (.base discriminator variants) ∧
        variants.filter (·.schema == id) = [⟨id, typeName, value⟩]) ∧
    (model.TakesRole memo id (.derived root value) →
      ∃ object declared discriminator, model.schema? id = some (.object object) ∧
        model.schema? root = some (.object declared) ∧
        declared.discriminator = some discriminator ∧
        ((model.plan id .json).run memo).1 =
          (fun plan => .object { plan with discriminator := some ⟨discriminator, value⟩ }) <$>
            model.objectPlan id object (some discriminator)) := by
  constructor
  · rw [takesRole_derived_iff lawful]
    constructor
    · rintro ⟨object, declared, discriminator, variants, levels, present, silent, rootPresent,
        declares, rooted, collected, rfl⟩
      obtain ⟨once, reached, stand⟩ := variants_listed rootPresent collected
      have isRoot : declared.discriminator.isSome := Option.isSome_of_eq_some declares
      have below := (coherent.below_iff rootPresent isRoot present).mpr ⟨silent, levels, rooted⟩
      obtain ⟨variant, member, rfl⟩ := List.mem_map.mp ((reached id).mpr below)
      obtain ⟨object', present', same⟩ := stand variant member
      cases present.symm.trans present'
      refine ⟨discriminator, variants, variant.typeName,
        (takesRole_base_iff lawful).mpr ⟨declared, rootPresent, declares, collected⟩, ?_⟩
      rw [filter_schema once member, ← same]
    · rintro ⟨discriminator, variants, typeName, role, only⟩
      obtain ⟨declared, rootPresent, declares, collected⟩ := (takesRole_base_iff lawful).mp role
      obtain ⟨-, reached, stand⟩ := variants_listed rootPresent collected
      have isRoot : declared.discriminator.isSome := Option.isSome_of_eq_some declares
      have member : (⟨id, typeName, value⟩ : Variant) ∈ variants := by
        apply List.mem_of_mem_filter (p := (·.schema == id))
        rw [only]
        exact List.mem_singleton_self _
      obtain ⟨object, present, same⟩ := stand _ member
      have below := (reached id).mp (List.mem_map.mpr ⟨_, member, rfl⟩)
      obtain ⟨silent, levels, rooted⟩ := (coherent.below_iff rootPresent isRoot present).mp below
      exact ⟨object, declared, discriminator, variants, levels, present, silent, rootPresent,
        declares, rooted, collected, same⟩
  · intro role
    obtain ⟨object, declared, discriminator, variants, levels, present, -, rootPresent, declares,
      -, -, -⟩ := (takesRole_derived_iff lawful).mp role
    obtain ⟨object', present', computed⟩ := (takesRole_iff lawful).mp role
    refine ⟨object, declared, discriminator, present, rootPresent, declares, ?_⟩
    rw [run_plan lawful]
    exact planOf_derived present computed rootPresent declares

def pets : List (SchemaId × ObjectType) :=
  [("Cat", { name := "Cat", base := some "Pet", derived := ["Lion"] }),
    ("Dog", { name := "Dog", base := some "Pet" }),
    ("Lion", { name := "Lion", base := some "Cat", discriminatorValue := some "leo" }),
    ("Pet", { name := "Pet", discriminator := some "kind", derived := ["Dog", "Cat"] })]

/-- Pets, with lions two links below the root. -/
def household : Model where
  name := "Household"
  schemas := pets.map fun (id, object) => (id, .object object)

theorem household_object {id : SchemaId} {object : ObjectType}
    (present : household.schema? id = some (.object object)) : (id, object) ∈ pets := by
  have listed : (id, Schema.object object) ∈ household.schemas := mem_of_lookup present
  obtain ⟨entry, inside, same⟩ := List.mem_map.mp listed
  cases same
  exact inside

theorem household_coherent : household.Coherent where
  linked above below := by
    have agree : ∀ first ∈ pets, ∀ second ∈ pets,
        (second.1 ∈ first.2.derived ↔ second.2.base = some first.1) := by decide
    exact agree _ (household_object above) _ (household_object below)
  oneRoot {root id declared object} _ _ path present := by
    have silent : ∀ first ∈ pets, ∀ second ∈ pets, second.1 ∈ first.2.derived →
        second.2.discriminator = none := by decide
    obtain ⟨between, -, above, found, listed⟩ := TransGen.tail'_iff.mp path
    exact silent _ (household_object found) _ (household_object present) listed

theorem household_derived :
    household.Coherent ∧ Memo.Obeys household.tableLaw {} ∧
      household.TakesRole {} "Lion" (.derived "Pet" "leo") ∧
      ∃ object declared discriminator, household.schema? "Lion" = some (.object object) ∧
        household.schema? "Pet" = some (.object declared) ∧
        declared.discriminator = some discriminator ∧
        ((household.plan "Lion" .json).run {}).1 =
          (fun plan => .object { plan with discriminator := some ⟨discriminator, "leo"⟩ }) <$>
            household.objectPlan "Lion" object (some discriminator) := by
  have lawful := Memo.empty_obeys household.tableLaw
  have agree := derived_iff_variant household_coherent lawful "Pet" "Lion" "leo"
  have derived : household.TakesRole {} "Lion" (.derived "Pet" "leo") :=
    agree.1.mpr ⟨"kind", _, _, ⟨_, _, _, rfl⟩, rfl⟩
  exact ⟨household_coherent, lawful, derived, agree.2 derived⟩

end ApiContract.Model
