import ApiContract.Proofs.Memo.Plans
import ApiContract.Proofs.Types.VisitOrder

/-!
The variants of a root are those of the schemas below it, in the order of first visits. Two things
end the collection early: a schema that is no object, and a value that an earlier schema has. What
comes first in that order decides which of them is told.
-/

namespace ApiContract.Model

open Planning Relation

variable {model : Model} {root : SchemaId} {hierarchy : String}

def variant? (model : Model) (id : SchemaId) : Option Variant :=
  (model.object? id).map fun object => ⟨id, Naming.typeName object.name, object.variantValue⟩

/-- The variants of the schemas of an order, up to the first that is no object. -/
def leadingVariants (model : Model) : List SchemaId → List Variant
  | [] => []
  | id :: rest =>
      match model.variant? id with
      | some variant => variant :: leadingVariants model rest
      | none => []

/-- Collects the variants of schemas in the order given. -/
def listVariants (model : Model) (root : SchemaId) (hierarchy : String) (found : List Variant) :
    List SchemaId → Except ModelError (List Variant)
  | [] => .ok found
  | id :: rest => do
      let object ← model.objectFor id root
      let variant : Variant := ⟨id, Naming.typeName object.name, object.variantValue⟩
      match found.find? (·.value == variant.value) with
      | some first =>
          .error (.duplicateDiscriminator hierarchy variant.value first.typeName variant.typeName)
      | none => listVariants model root hierarchy (variant :: found) rest

theorem objectFor_of_object? {id : SchemaId} {object : ObjectType}
    (present : model.object? id = some object) (referrer : String) :
    model.objectFor id referrer = .ok object := by
  rw [objectFor, schemaFor_of_some (object?_eq_some.mp present)]
  rfl

theorem objectFor_of_none {id : SchemaId} (absent : model.object? id = none) (referrer : String) :
    ∃ e, model.objectFor id referrer = .error e ∧
      ∀ base value first second, e ≠ .duplicateDiscriminator base value first second := by
  cases found : model.schema? id with
  | none => exact ⟨_, by simp [objectFor, schemaFor, found]; rfl, by simp⟩
  | some schema =>
      rw [objectFor, schemaFor_of_some found]
      cases schema with
      | object object => simp [object?, found, Schema.object?] at absent
      | _ => exact ⟨_, rfl, by simp⟩

theorem listVariants_append (found : List Variant) (first second : List SchemaId) :
    model.listVariants root hierarchy found (first ++ second) =
      model.listVariants root hierarchy found first >>= fun found =>
        model.listVariants root hierarchy found second := by
  induction first generalizing found with
  | nil => rfl
  | cons id first ih =>
      rw [List.cons_append, listVariants, listVariants]
      cases model.objectFor id root with
      | error e => rfl
      | ok object =>
          rw [ok_bind, ok_bind]
          dsimp only
          split
          · rfl
          · exact ih _

def derivedCount : Schema → Nat
  | .object object => object.derived.length
  | _ => 0

theorem derivedLinks_length (model : Model) :
    model.derivedLinks.length = unseen derivedCount [] model.schemas := by
  rw [derivedLinks]
  induction model.schemas with
  | nil => rfl
  | cons entry rest ih =>
      obtain ⟨id, schema⟩ := entry
      rw [List.flatMap_cons, List.length_append, unseen_cons, if_neg List.not_mem_nil, ih]
      cases schema <;> rfl

-- The fuel pays for the links that are pending and for those of the schemas not visited yet. What
-- the links ahead of `pending` lead to is collected first, in the order of first visits.
theorem VisitOrder.visitVariants {visited links order : List SchemaId}
    (walk : model.VisitOrder visited links order) {found : List Variant} {pending : List SchemaId}
    {fuel : Nat}
    (enough : links.length + pending.length + unseen derivedCount visited model.schemas ≤ fuel) :
    ∃ fuel', pending.length + unseen derivedCount (order.reverse ++ visited) model.schemas ≤ fuel' ∧
      model.visitVariants root hierarchy fuel visited found (links ++ pending) =
        model.listVariants root hierarchy found order >>= fun found =>
          model.visitVariants root hierarchy fuel' (order.reverse ++ visited) found pending := by
  induction walk generalizing found pending fuel with
  | done => exact ⟨fuel, by simpa using enough, rfl⟩
  | @again visited links order id old _ ih =>
      rw [List.length_cons] at enough
      obtain ⟨fuel, rfl⟩ := Nat.exists_eq_add_of_le' (show 1 ≤ fuel by omega)
      obtain ⟨fuel', enough', same⟩ := @ih found pending fuel (by omega)
      refine ⟨fuel', enough', ?_⟩
      rw [List.cons_append, Model.visitVariants, if_pos (List.contains_iff_mem.mpr old), same]
  | @visit visited links below later id new _ _ ihBelow ihLater =>
      rw [List.length_cons] at enough
      obtain ⟨fuel, rfl⟩ := Nat.exists_eq_add_of_le' (show 1 ≤ fuel by omega)
      have unvisited : ¬ visited.contains id = true := mt List.contains_iff_mem.mp new
      simp only [List.cons_append]
      rw [Model.visitVariants, if_neg unvisited, listVariants]
      cases present : model.object? id with
      | none =>
          obtain ⟨e, failed, -⟩ := objectFor_of_none present root
          rw [failed]
          exact ⟨_, Nat.le_refl _, rfl⟩
      | some object =>
          have paid := unseen_visit derivedCount new (object?_eq_some.mp present)
          rw [derivedOf_object present] at ihBelow
          simp only [derivedCount] at paid
          rw [objectFor_of_object? present, ok_bind, ok_bind]
          dsimp only
          cases found.find? (·.value == object.variantValue) with
          | some first => exact ⟨_, Nat.le_refl _, rfl⟩
          | none =>
              dsimp only
              obtain ⟨between, enough', goesDown⟩ := @ihBelow
                (⟨id, Naming.typeName object.name, object.variantValue⟩ :: found) (links ++ pending)
                fuel (by rw [List.length_append]; omega)
              rw [List.length_append] at enough'
              rw [goesDown, listVariants_append]
              cases model.listVariants root hierarchy
                  (⟨id, Naming.typeName object.name, object.variantValue⟩ :: found) below with
              | error e => exact ⟨_, Nat.le_refl _, rfl⟩
              | ok found' =>
                  obtain ⟨fuel', enough'', goesOn⟩ := @ihLater found' pending between enough'
                  have order : (id :: (below ++ later)).reverse ++ visited =
                      later.reverse ++ (below.reverse ++ id :: visited) := by simp
                  rw [order, ok_bind, ok_bind]
                  exact ⟨fuel', enough'', goesOn⟩

/-- The variants of a root are listed in the order of first visits. -/
theorem variants_eq {object : ObjectType} {order : List SchemaId}
    (walk : model.VisitOrder [root] object.derived order) :
    model.variants root object =
      List.reverse <$> model.listVariants root object.name [] order := by
  have seen := unseen_cons_le derivedCount root [] model.schemas
  rw [← derivedLinks_length] at seen
  obtain ⟨fuel, -, same⟩ := @walk.visitVariants model root object.name _ _ _ [] []
    (object.derived.length + model.derivedLinks.length + 1) (by rw [List.length_nil]; omega)
  rw [List.append_nil] at same
  rw [variants, same]
  cases model.listVariants root object.name [] order with
  | error e => rfl
  | ok found => cases fuel <;> rfl

theorem variant?_of_object? {id : SchemaId} {object : ObjectType}
    (present : model.object? id = some object) :
    model.variant? id = some ⟨id, Naming.typeName object.name, object.variantValue⟩ := by
  rw [variant?, present, Option.map_some]

theorem variant?_eq_some {id : SchemaId} {variant : Variant}
    (present : model.variant? id = some variant) : ∃ object, model.object? id = some object ∧
      variant = ⟨id, Naming.typeName object.name, object.variantValue⟩ := by
  obtain ⟨object, found, same⟩ := Option.map_eq_some_iff.mp present
  exact ⟨object, found, same.symm⟩

theorem listVariants_cons {found : List Variant} {id : SchemaId} {rest : List SchemaId}
    {variant : Variant} (present : model.variant? id = some variant) :
    model.listVariants root hierarchy found (id :: rest) =
      match found.find? (·.value == variant.value) with
      | some first =>
          .error (.duplicateDiscriminator hierarchy variant.value first.typeName variant.typeName)
      | none => model.listVariants root hierarchy (variant :: found) rest := by
  obtain ⟨object, found, rfl⟩ := variant?_eq_some present
  rw [listVariants, objectFor_of_object? found]
  rfl

theorem find?_value {found : List Variant} (apart : (found.map Variant.value).Nodup)
    {earlier : Variant} (member : earlier ∈ found) {value : String} (same : earlier.value = value) :
    found.find? (·.value == value) = some earlier := by
  cases taken : found.find? (·.value == value) with
  | none => exact absurd (beq_iff_eq.mpr same) (List.find?_eq_none.mp taken earlier member)
  | some other =>
      have equal : other.value = value := by simpa using List.find?_some taken
      have inside := List.mem_of_find?_eq_some taken
      rw [List.inj_on_of_nodup_map apart inside member (equal.trans same.symm)]

theorem find?_fresh {front found : List Variant} {variant : Variant}
    (apart : ((front ++ variant :: found).map Variant.value).Nodup) :
    found.find? (·.value == variant.value) = none := by
  rw [List.find?_eq_none]
  intro old member equal
  rw [List.map_append, List.map_cons, List.nodup_append] at apart
  refine (List.nodup_cons.mp apart.2.1).1 (List.mem_map.mpr ⟨old, member, ?_⟩)
  exact beq_iff_eq.mp equal

-- Before the later of two variants of one value, every variant has a value of its own.
theorem listVariants_clash {found front rest : List Variant} {earlier later : Variant}
    {order : List SchemaId} (leading : model.leadingVariants order = front ++ later :: rest)
    (apart : ((front.reverse ++ found).map Variant.value).Nodup)
    (before : earlier ∈ front.reverse ++ found) (same : earlier.value = later.value) :
    model.listVariants root hierarchy found order =
      .error (.duplicateDiscriminator hierarchy later.value earlier.typeName later.typeName) := by
  induction front generalizing found order with
  | nil =>
      cases order with
      | nil => cases leading
      | cons id order =>
          rw [leadingVariants] at leading
          split at leading
          next variant present =>
            cases leading
            rw [List.reverse_nil, List.nil_append] at apart before
            rw [listVariants_cons present, find?_value apart before same]
          next => cases leading
  | cons variant front ih =>
      cases order with
      | nil => cases leading
      | cons id order =>
          rw [leadingVariants] at leading
          split at leading
          next other present =>
            obtain ⟨rfl, behind⟩ := List.cons.inj leading
            rw [List.reverse_cons, List.append_assoc, List.singleton_append] at apart before
            rw [listVariants_cons present, find?_fresh apart]
            exact ih behind apart before
          next => cases leading

-- Without two variants of one value only a schema that is no object ends the collection.
theorem listVariants_apart {found : List Variant} {order : List SchemaId}
    (apart : (((model.leadingVariants order).reverse ++ found).map Variant.value).Nodup) :
    model.listVariants root hierarchy found order =
      order.mapM (fun id => model.objectFor id root) >>= fun _ =>
        .ok ((model.leadingVariants order).reverse ++ found) := by
  induction order generalizing found with
  | nil => rfl
  | cons id order ih =>
      cases present : model.variant? id with
      | none =>
          obtain ⟨e, failed, -⟩ := objectFor_of_none (Option.map_eq_none_iff.mp present) root
          rw [listVariants, List.mapM_cons, failed]
          rfl
      | some variant =>
          obtain ⟨object, isObject, -⟩ := variant?_eq_some present
          have leading : model.leadingVariants (id :: order) =
              variant :: model.leadingVariants order := by
            rw [leadingVariants, present]
          rw [leading, List.reverse_cons, List.append_assoc, List.singleton_append] at apart ⊢
          rw [listVariants_cons present, find?_fresh apart, List.mapM_cons,
            objectFor_of_object? isObject]
          dsimp only
          rw [ih apart]
          cases order.mapM fun id => model.objectFor id root <;> rfl

theorem exists_repetition {variants : List Variant}
    (shared : ¬ (variants.map Variant.value).Nodup) :
    ∃ front later rest, variants = front ++ later :: rest ∧ (front.map Variant.value).Nodup ∧
      ∃ earlier ∈ front, earlier.value = later.value := by
  induction variants using List.reverseRecOn with
  | nil => exact absurd List.nodup_nil shared
  | append_singleton front later ih =>
      by_cases apart : (front.map Variant.value).Nodup
      · refine ⟨front, later, [], rfl, apart, ?_⟩
        by_contra fresh
        apply shared
        rw [List.map_append, List.nodup_append]
        refine ⟨apart, List.nodup_singleton _, ?_⟩
        rintro value member _ last rfl
        obtain ⟨earlier, inside, same⟩ := List.mem_map.mp member
        exact fresh ⟨earlier, inside, same.trans (by simpa using last)⟩
      · obtain ⟨front', later', rest, rfl, distinct, clash⟩ := ih apart
        exact ⟨front', later', rest ++ [later], by simp, distinct, clash⟩

/-- Of two variants of an order that share a value and stand before everything that is no object,
the first whose value an earlier one has, with that earlier one. -/
def FirstClash (model : Model) (order : List SchemaId) (earlier later : Variant) : Prop :=
  ∃ front rest, model.leadingVariants order = front ++ later :: rest ∧
    (front.map Variant.value).Nodup ∧ earlier ∈ front ∧ earlier.value = later.value

theorem leadingVariants_of_objects {order : List SchemaId}
    (objects : ∀ id ∈ order, ∃ object, model.object? id = some object) :
    model.leadingVariants order = order.filterMap model.variant? ∧
      (model.leadingVariants order).map Variant.schema = order := by
  induction order with
  | nil => exact ⟨rfl, rfl⟩
  | cons id order ih =>
      obtain ⟨object, present⟩ := objects id List.mem_cons_self
      obtain ⟨kept, schemas⟩ := ih fun other member => objects other (List.mem_cons_of_mem _ member)
      have variant := variant?_of_object? present
      rw [leadingVariants, variant]
      dsimp only
      constructor
      · rw [List.filterMap_cons_some variant, kept]
      · rw [List.map_cons, schemas]

/-- Variants have values of their own where the objects that they stand for do. -/
theorem nodup_values_iff {order : List SchemaId} (once : order.Nodup)
    (objects : ∀ id ∈ order, ∃ object, model.object? id = some object) :
    ((model.leadingVariants order).map Variant.value).Nodup ↔
      ∀ id ∈ order, ∀ id' ∈ order, ∀ below below', model.object? id = some below →
        model.object? id' = some below' → below.variantValue = below'.variantValue → id = id' := by
  obtain ⟨kept, schemas⟩ := leadingVariants_of_objects objects
  have apart : (model.leadingVariants order).Nodup := .of_map Variant.schema (by rwa [schemas])
  rw [List.nodup_map_iff_inj_on apart, kept]
  constructor
  · intro injective id member id' member' below below' isObject isObject' same
    have first := List.mem_filterMap.mpr ⟨id, member, variant?_of_object? isObject⟩
    have second := List.mem_filterMap.mpr ⟨id', member', variant?_of_object? isObject'⟩
    exact congrArg Variant.schema (injective _ first _ second same)
  · intro injective first inside second inside' same
    obtain ⟨id, member, made⟩ := List.mem_filterMap.mp inside
    obtain ⟨id', member', made'⟩ := List.mem_filterMap.mp inside'
    obtain ⟨below, isObject, rfl⟩ := variant?_eq_some made
    obtain ⟨below', isObject', rfl⟩ := variant?_eq_some made'
    cases injective id member id' member' below below' isObject isObject' same
    rw [isObject] at isObject'
    cases isObject'
    rfl

theorem mapM_objectFor_eq_ok {order : List SchemaId} :
    (∃ objects, order.mapM (fun id => model.objectFor id root) = .ok objects) ↔
      ∀ id ∈ order, ∃ object, model.object? id = some object := by
  constructor
  · rintro ⟨objects, mapped⟩ id member
    obtain ⟨object, -, found⟩ := mapM_eq_ok_mem mapped member
    exact ⟨object, object?_eq_some.mpr (objectFor_eq_ok found)⟩
  · intro objects
    apply exists_mapM_eq_ok
    intro id member
    obtain ⟨object, present⟩ := objects id member
    exact ⟨object, objectFor_of_object? present root⟩

theorem mapM_objectFor_eq_error {order : List SchemaId} {e : ModelError}
    (failed : order.mapM (fun id => model.objectFor id root) = .error e)
    (base value first second : String) : e ≠ .duplicateDiscriminator base value first second := by
  induction order with
  | nil => cases failed
  | cons id order ih =>
      rw [List.mapM_cons] at failed
      rcases bind_eq_error failed with here | ⟨object, -, rest⟩
      · cases present : model.object? id with
        | none =>
            obtain ⟨e', failed', other⟩ := objectFor_of_none present root
            rw [failed'] at here
            cases here
            exact other base value first second
        | some object =>
            rw [objectFor_of_object? present] at here
            cases here
      · rcases bind_eq_error rest with later | ⟨objects, -, done⟩
        · exact ih later
        · cases done

/-- A root is resolved together with its variants. -/
theorem fresh_resolve_root {object : ObjectType} {discriminator : String}
    (present : model.schema? root = some (.object object))
    (declares : object.discriminator = some discriminator) :
    (model.resolve root).fresh =
      (fun variants => ⟨.model (Naming.typeName object.name) root (.base discriminator variants),
        false⟩) <$> model.variants root object := by
  rw [fresh_resolve, typeOf, fresh_resolveWithin_succ]
  simp only [computeType, schemaFor, present, liftM_ok_bind, roleOf, declares, fresh_bind,
    fresh_liftM]
  cases model.variants root object <;> rfl

/-- What resolving a root comes to, told by the order in which a depth-first walk first comes to the
schemas below it. -/
structure Collected (model : Model) (root : SchemaId) (object : ObjectType)
    (discriminator : String) (order : List SchemaId) (outcome : Except ModelError TypeUse) :
    Prop where
  walk : model.VisitOrder [root] object.derived order
  only : ∀ other, model.VisitOrder [root] object.derived other → other = order
  once : order.Nodup
  reaches : ∀ id, id ∈ order ↔ model.Below root id
  succeeds : (∃ used, outcome = .ok used) ↔
    (∀ id, model.Below root id → ∃ below, model.schema? id = some (.object below)) ∧
      ∀ id id' below below', model.Below root id → model.Below root id' →
        model.schema? id = some (.object below) → model.schema? id' = some (.object below') →
        below.variantValue = below'.variantValue → id = id'
  lists : ∀ used, outcome = .ok used → ∃ variants,
    used = ⟨.model (Naming.typeName object.name) root (.base discriminator variants), false⟩ ∧
      variants.map Variant.schema = order ∧
      ∀ variant ∈ variants, ∃ below, model.schema? variant.schema = some (.object below) ∧
        variant.typeName = Naming.typeName below.name ∧ variant.value = below.variantValue
  clashes : (∃ base value first second,
      outcome = .error (.duplicateDiscriminator base value first second)) ↔
    ¬ ((model.leadingVariants order).map Variant.value).Nodup
  names : ∀ base value first second,
    outcome = .error (.duplicateDiscriminator base value first second) →
      ∃ earlier later, model.FirstClash order earlier later ∧ base = object.name ∧
        value = later.value ∧ first = earlier.typeName ∧ second = later.typeName

/-- What the walk over an order gives, by whether two of its leading variants share a value. -/
theorem listVariants_outcome (hierarchy : String) (order : List SchemaId) :
    (((model.leadingVariants order).map Variant.value).Nodup ∧
        model.listVariants root hierarchy [] order =
          order.mapM (fun id => model.objectFor id root) >>= fun _ =>
            .ok (model.leadingVariants order).reverse) ∨
      ∃ earlier later, ¬ ((model.leadingVariants order).map Variant.value).Nodup ∧
        model.FirstClash order earlier later ∧
        model.listVariants root hierarchy [] order =
          .error (.duplicateDiscriminator hierarchy later.value earlier.typeName later.typeName) := by
  by_cases apart : ((model.leadingVariants order).map Variant.value).Nodup
  · refine .inl ⟨apart, ?_⟩
    rw [listVariants_apart, List.append_nil]
    rwa [List.append_nil, List.map_reverse, List.nodup_reverse]
  · obtain ⟨front, later, rest, leading, distinct, earlier, before, same⟩ := exists_repetition apart
    refine .inr ⟨earlier, later, apart, ⟨front, rest, leading, distinct, before, same⟩, ?_⟩
    apply listVariants_clash leading
    · rwa [List.append_nil, List.map_reverse, List.nodup_reverse]
    · simpa using before
    · exact same

section
variable {object : ObjectType} {discriminator : String} {order : List SchemaId}

theorem VisitOrder.objects_iff (walk : model.VisitOrder [root] object.derived order)
    (present : model.schema? root = some (.object object)) :
    (∀ id, model.Below root id → ∃ below, model.schema? id = some (.object below)) ↔
      ∀ id ∈ order, ∃ below, model.object? id = some below := by
  simp only [walk.mem_iff present, object?_eq_some]

theorem VisitOrder.apart_iff (walk : model.VisitOrder [root] object.derived order)
    (present : model.schema? root = some (.object object))
    (objects : ∀ id ∈ order, ∃ object, model.object? id = some object) :
    ((model.leadingVariants order).map Variant.value).Nodup ↔
      ∀ id id' below below', model.Below root id → model.Below root id' →
        model.schema? id = some (.object below) → model.schema? id' = some (.object below') →
        below.variantValue = below'.variantValue → id = id' := by
  rw [nodup_values_iff walk.fresh.1 objects]
  simp only [walk.mem_iff present, object?_eq_some]
  constructor
  · intro injective id id' below below' under under' isObject isObject' same
    exact injective id under id' under' below below' isObject isObject' same
  · intro injective id under id' under' below below' isObject isObject' same
    exact injective id id' below below' under under' isObject isObject' same

/-- All schemas of the order are objects and no two of them share a value. -/
theorem VisitOrder.collected_ok (walk : model.VisitOrder [root] object.derived order)
    (present : model.schema? root = some (.object object))
    (objects : ∀ id ∈ order, ∃ object, model.object? id = some object)
    (apart : ((model.leadingVariants order).map Variant.value).Nodup) :
    model.Collected root object discriminator order
      (.ok ⟨.model (Naming.typeName object.name) root
        (.base discriminator (model.leadingVariants order)), false⟩) := by
  obtain ⟨kept, schemas⟩ := leadingVariants_of_objects objects
  refine ⟨walk, fun other walk' => walk.unique walk', walk.fresh.1, walk.mem_iff present,
    ?_, ?_, ?_, ?_⟩
  · constructor
    · exact fun _ => ⟨(walk.objects_iff present).mpr objects,
        (walk.apart_iff present objects).mp apart⟩
    · exact fun _ => ⟨_, rfl⟩
  · rintro used made
    cases made
    refine ⟨_, rfl, schemas, fun variant member => ?_⟩
    rw [kept] at member
    obtain ⟨id, -, made⟩ := List.mem_filterMap.mp member
    obtain ⟨below, isObject, rfl⟩ := variant?_eq_some made
    refine ⟨below, object?_eq_some.mp isObject, ?_⟩
    dsimp only
    exact ⟨rfl, rfl⟩
  · constructor
    · rintro ⟨base, value, first, second, failed⟩
      cases failed
    · exact fun shared => absurd apart shared
  · intro base value first second failed
    cases failed

/-- The walk comes to something that is no object before it comes to a value for the second time. -/
theorem VisitOrder.collected_missing (walk : model.VisitOrder [root] object.derived order)
    (present : model.schema? root = some (.object object)) {e : ModelError}
    (missing : ¬ ∀ id ∈ order, ∃ object, model.object? id = some object)
    (apart : ((model.leadingVariants order).map Variant.value).Nodup)
    (other : ∀ base value first second, e ≠ .duplicateDiscriminator base value first second) :
    model.Collected root object discriminator order (.error e) := by
  refine ⟨walk, fun other walk' => walk.unique walk', walk.fresh.1, walk.mem_iff present,
    ?_, ?_, ?_, ?_⟩
  · constructor
    · rintro ⟨used, made⟩
      cases made
    · exact fun ⟨all, _⟩ => absurd ((walk.objects_iff present).mp all) missing
  · intro used made
    cases made
  · constructor
    · rintro ⟨base, value, first, second, failed⟩
      exact absurd (Except.error.inj failed) (other base value first second)
    · exact fun shared => absurd apart shared
  · intro base value first second failed
    exact absurd (Except.error.inj failed) (other base value first second)

/-- The walk comes to a value for the second time. -/
theorem VisitOrder.collected_clash (walk : model.VisitOrder [root] object.derived order)
    (present : model.schema? root = some (.object object)) {earlier later : Variant}
    (shared : ¬ ((model.leadingVariants order).map Variant.value).Nodup)
    (clash : model.FirstClash order earlier later) :
    model.Collected root object discriminator order
      (.error (.duplicateDiscriminator object.name later.value earlier.typeName
        later.typeName)) := by
  refine ⟨walk, fun other walk' => walk.unique walk', walk.fresh.1, walk.mem_iff present,
    ?_, ?_, ?_, ?_⟩
  · constructor
    · rintro ⟨used, made⟩
      cases made
    · rintro ⟨all, injective⟩
      have objects := (walk.objects_iff present).mp all
      exact absurd ((walk.apart_iff present objects).mpr injective) shared
  · intro used made
    cases made
  · exact ⟨fun _ => shared, fun _ => ⟨_, _, _, _, rfl⟩⟩
  · intro base value first second failed
    cases failed
    exact ⟨earlier, later, clash, rfl, rfl, rfl, rfl⟩

end

/-- Resolving a root collects everything below it in the order of first visits, whatever the tables
hold. -/
theorem variants_exact {object : ObjectType} {discriminator : String} {memo : Memo}
    (present : model.schema? root = some (.object object))
    (declares : object.discriminator = some discriminator)
    (lawful : memo.Obeys model.tableLaw) :
    ∃ order, model.Collected root object discriminator order
      ((model.resolve root).run memo).1 := by
  obtain ⟨order, walk⟩ := @VisitOrder.exists_order model [root] object.derived
  have steady : (model.resolve root).Steady model.tableLaw := resolveUse_steady root false root
  rw [(steady.run lawful).1, fresh_resolve_root present declares, variants_eq walk]
  refine ⟨order, ?_⟩
  rcases @listVariants_outcome model root object.name order with
    ⟨apart, outcome⟩ | ⟨earlier, later, shared, clash, outcome⟩
  · rw [outcome]
    cases mapped : order.mapM fun id => model.objectFor id root with
    | ok found =>
        have objects := mapM_objectFor_eq_ok.mp ⟨found, mapped⟩
        have collected := @VisitOrder.collected_ok _ _ _ discriminator _ walk present objects apart
        rwa [← List.reverse_reverse (model.leadingVariants order)] at collected
    | error e =>
        apply walk.collected_missing present _ apart (mapM_objectFor_eq_error mapped)
        intro objects
        obtain ⟨found, mapped'⟩ := (@mapM_objectFor_eq_ok _ root _).mpr objects
        rw [mapped] at mapped'
        cases mapped'
  · rw [outcome]
    exact walk.collected_clash present shared clash

def relative (name : String) (derived : List SchemaId) : SchemaId × Schema :=
  (name, .object { name, derived })

/-- Pets whose links share the puppy, lead from a dog back to the root, and go in a circle between
cats and lions. -/
def pride : Model where
  name := "Pride"
  schemas := [relative "Cat" ["Puppy", "Lion"], relative "Dog" ["Puppy", "Pet"],
    relative "Lion" ["Cat"],
    ("Pet", .object { name := "Pet", discriminator := some "kind", derived := ["Dog", "Cat"] }),
    relative "Puppy" []]

theorem pride_exact :
    pride.schema? "Pet" = some (.object
        { name := "Pet", discriminator := some "kind", derived := ["Dog", "Cat"] }) ∧
      pride.Collected "Pet"
        { name := "Pet", discriminator := some "kind", derived := ["Dog", "Cat"] } "kind"
        ["Dog", "Puppy", "Cat", "Lion"] ((pride.resolve "Pet").run {}).1 ∧
      ∃ used, ((pride.resolve "Pet").run {}).1 = .ok used := by
  have puppy : pride.VisitOrder ["Dog", "Pet"] ["Puppy", "Pet"] ["Puppy"] :=
    @VisitOrder.visit _ _ _ [] [] _ (by decide) .done (.again (by decide) .done)
  have circle : pride.VisitOrder ["Lion", "Cat", "Puppy", "Dog", "Pet"] ["Cat"] [] :=
    .again (by decide) .done
  have cat : pride.VisitOrder ["Cat", "Puppy", "Dog", "Pet"] ["Puppy", "Lion"] ["Lion"] :=
    .again (by decide) (@VisitOrder.visit _ _ _ [] [] _ (by decide) circle .done)
  have later : pride.VisitOrder ["Puppy", "Dog", "Pet"] ["Cat"] ["Cat", "Lion"] :=
    @VisitOrder.visit _ _ _ ["Lion"] [] _ (by decide) cat .done
  have walk : pride.VisitOrder ["Pet"] ["Dog", "Cat"] ["Dog", "Puppy", "Cat", "Lion"] :=
    @VisitOrder.visit _ _ _ ["Puppy"] _ _ (by decide) puppy later
  obtain ⟨order, collected⟩ := @variants_exact pride "Pet" _ "kind" {} rfl rfl (Memo.empty_obeys _)
  cases collected.only _ walk
  exact ⟨rfl, collected, _, rfl⟩

end ApiContract.Model
