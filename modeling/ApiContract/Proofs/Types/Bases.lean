import ApiContract.Proofs.Types.Variants

/-!
Chains of bases. From an object on each link leads to the base that it names. A chain is cut before
the first schema that would come up again, so every schema has one chain, and it may end with a
schema that names no base, at a schema that is no object, or where it closes a circle. The walk for a
root and the walk for all bases go along this chain.
-/

namespace ApiContract.Model

variable {model : Model} {start current id : SchemaId} {visited chain : List SchemaId}

/-- The base that the object behind an id names. -/
def base? (model : Model) (id : SchemaId) : Option SchemaId :=
  (model.object? id).bind (·.base)

/-- The links of bases from a schema on, cut before the first schema that comes up again. -/
structure BaseChain (model : Model) (id : SchemaId) (chain : List SchemaId) : Prop where
  starts : chain.head? = some id
  linked : chain.IsChain fun lower upper => model.base? lower = some upper
  once : chain.Nodup
  cut : ∀ upper, chain.getLast?.bind model.base? = some upper → upper ∈ chain

/-- The first item of a list that does not pass. -/
inductive FirstIn {α : Type} (passes : α → Prop) : List α → α → Prop where
  | here {item : α} {rest : List α} : ¬ passes item → FirstIn passes (item :: rest) item
  | later {first item : α} {rest : List α} : passes first → FirstIn passes rest item →
      FirstIn passes (first :: rest) item

/-- An object without a discriminator. -/
def Silent (model : Model) (id : SchemaId) : Prop :=
  ∃ object, model.object? id = some object ∧ object.discriminator = none

/-- What a walk from `start` says of a schema that is missing or no object. -/
def linkError (model : Model) (start id : SchemaId) : ModelError :=
  match model.schema? id with
  | none => .unknownSchema id start
  | some _ =>
      .unsupportedSerialization id ("expected an object schema (referenced by '" ++ start ++ "')")

/-- The links still to go where some schemas were visited before. -/
inductive Climb (model : Model) : List SchemaId → SchemaId → List SchemaId → Prop where
  | again {visited : List SchemaId} {current : SchemaId} : current ∈ visited →
      Climb model visited current []
  | top {visited : List SchemaId} {current : SchemaId} : current ∉ visited →
      model.base? current = none → Climb model visited current [current]
  | up {visited chain : List SchemaId} {current base : SchemaId} : current ∉ visited →
      model.base? current = some base → Climb model (current :: visited) base chain →
      Climb model visited current (current :: chain)

theorem FirstIn.unique {α : Type} {passes : α → Prop} {items : List α} {item other : α}
    (first : FirstIn passes items item) (first' : FirstIn passes items other) : other = item := by
  induction first with
  | here fails =>
      cases first' with
      | here => rfl
      | later holds => exact absurd holds fails
  | later holds _ ih =>
      cases first' with
      | here fails => exact absurd holds fails
      | later _ rest => exact ih rest

theorem FirstIn.fails {α : Type} {passes : α → Prop} {items : List α} {item : α}
    (first : FirstIn passes items item) : ¬ passes item := by
  induction first with
  | here fails => exact fails
  | later _ _ ih => exact ih

theorem FirstIn.mem {α : Type} {passes : α → Prop} {items : List α} {item : α}
    (first : FirstIn passes items item) : item ∈ items := by
  induction first with
  | here => exact List.mem_cons_self
  | later _ _ ih => exact List.mem_cons_of_mem _ ih

theorem all_or_first {α : Type} (passes : α → Prop) (items : List α) :
    (∀ item ∈ items, passes item) ∨ ∃ item, FirstIn passes items item := by
  induction items with
  | nil => exact .inl (List.forall_mem_nil _)
  | cons item rest ih =>
      by_cases holds : passes item
      · rcases ih with all | ⟨other, first⟩
        · exact .inl (List.forall_mem_cons.mpr ⟨holds, all⟩)
        · exact .inr ⟨other, .later holds first⟩
      · exact .inr ⟨item, .here holds⟩

theorem base?_of_object? {object : ObjectType} (present : model.object? id = some object) :
    model.base? id = object.base := by
  rw [base?, present, Option.bind_some]

theorem object?_of_base? {base : SchemaId} (link : model.base? id = some base) :
    ∃ object, model.object? id = some object ∧ object.base = some base :=
  Option.bind_eq_some_iff.mp link

theorem objectFor_missing (absent : model.object? id = none) (start : SchemaId) :
    model.objectFor id start = .error (model.linkError start id) := by
  rw [objectFor, schemaFor, linkError]
  cases found : model.schema? id with
  | none => rfl
  | some schema =>
      cases schema with
      | object object => simp [object?, found, Schema.object?] at absent
      | _ => rfl

/-- A schema that is no silent object ends the walk for a root: it is the root, or it is to blame. -/
theorem findRoot_loud (new : current ∉ visited) (loud : ¬ model.Silent current) {fuel : Nat} :
    model.findRoot start (fuel + 1) visited current =
      (fun _ => some current) <$> model.objectFor current start := by
  rw [findRoot, if_neg (mt List.contains_iff_mem.mp new)]
  cases present : model.object? current with
  | none => rw [objectFor_missing present]; rfl
  | some object =>
      have declares : object.discriminator.isSome := by
        rw [Option.isSome_iff_ne_none]
        exact fun silent => loud ⟨object, present, silent⟩
      rw [objectFor_of_object? present, ok_bind, if_pos declares]
      rfl

/-- From a silent object the walk for a root goes on to the base. -/
theorem findRoot_silent (new : current ∉ visited) (silent : model.Silent current) {fuel : Nat} :
    model.findRoot start (fuel + 1) visited current =
      match model.base? current with
      | some base => model.findRoot start fuel (current :: visited) base
      | none => .ok none := by
  obtain ⟨object, present, undeclared⟩ := silent
  rw [findRoot, if_neg (mt List.contains_iff_mem.mp new), objectFor_of_object? present, ok_bind,
    base?_of_object? present, undeclared]
  cases object.base <;> rfl

namespace Climb

/-- A schema that is visited for the first time has one schema less to come to. -/
theorem exists_climb (visited : List SchemaId) (current : SchemaId) :
    ∃ chain, model.Climb visited current chain := by
  induction limit : unseen (fun _ => 1) visited model.schemas using Nat.strongRecOn
    generalizing visited current with
  | ind limit ih =>
      by_cases old : current ∈ visited
      · exact ⟨[], .again old⟩
      · cases link : model.base? current with
        | none => exact ⟨[current], .top old link⟩
        | some base =>
            obtain ⟨object, present, -⟩ := object?_of_base? link
            have paid := unseen_visit (fun _ => 1) old (object?_eq_some.mp present)
            obtain ⟨chain, climb⟩ := ih _ (by omega) (current :: visited) base rfl
            exact ⟨current :: chain, .up old link climb⟩

theorem fresh (climb : model.Climb visited current chain) :
    chain.Nodup ∧ ∀ member ∈ chain, member ∉ visited := by
  induction climb with
  | again => exact ⟨List.nodup_nil, List.forall_mem_nil _⟩
  | top new _ => exact ⟨List.nodup_singleton _, List.forall_mem_singleton.mpr new⟩
  | up new _ _ ih =>
      obtain ⟨once, apart⟩ := ih
      constructor
      · exact List.nodup_cons.mpr ⟨fun member => apart _ member List.mem_cons_self, once⟩
      · rintro member inside old
        rcases List.mem_cons.mp inside with rfl | later
        · exact new old
        · exact apart member later (List.mem_cons_of_mem _ old)

theorem starts (climb : model.Climb visited current chain) (new : current ∉ visited) :
    chain.head? = some current := by
  cases climb with
  | again old => exact absurd old new
  | top => rfl
  | up => rfl

theorem linked (climb : model.Climb visited current chain) :
    chain.IsChain fun lower upper => model.base? lower = some upper := by
  induction climb with
  | again => exact .nil
  | top => exact .singleton _
  | up _ link rest ih =>
      cases rest with
      | again => exact .singleton _
      | top => exact .cons_cons link ih
      | up => exact .cons_cons link ih

theorem cut (climb : model.Climb visited current chain) :
    ∀ upper, chain.getLast?.bind model.base? = some upper → upper ∈ visited ∨ upper ∈ chain := by
  induction climb with
  | again => exact fun upper link => by cases link
  | top _ none => exact fun upper link => by cases none.symm.trans link
  | @up visited chain current base _ link rest ih =>
      intro upper last
      cases chain with
      | nil =>
          -- the circle closes here
          cases link.symm.trans last
          cases rest with
          | again old =>
              rcases List.mem_cons.mp old with rfl | earlier
              · exact .inr (List.mem_singleton_self _)
              · exact .inl earlier
      | cons next others =>
          rw [List.getLast?_cons_cons] at last
          rcases ih upper last with old | inside
          · rcases List.mem_cons.mp old with rfl | earlier
            · exact .inr List.mem_cons_self
            · exact .inl earlier
          · exact .inr (List.mem_cons_of_mem _ inside)

/-- A chain that starts here is the rest of the way. -/
theorem of_chain {rest : List SchemaId}
    (linked : (current :: rest).IsChain fun lower upper => model.base? lower = some upper)
    (once : (current :: rest).Nodup) (apart : ∀ member ∈ current :: rest, member ∉ visited)
    (cut : ∀ upper, (current :: rest).getLast?.bind model.base? = some upper →
      upper ∈ visited ∨ upper ∈ current :: rest) :
    model.Climb visited current (current :: rest) := by
  have new := apart current List.mem_cons_self
  induction rest generalizing current visited with
  | nil =>
      cases link : model.base? current with
      | none => exact .top new link
      | some base =>
          have old : base ∈ current :: visited := by
            rcases cut base link with old | here
            · exact List.mem_cons_of_mem _ old
            · exact List.mem_singleton.mp here ▸ List.mem_cons_self
          exact .up new link (.again old)
  | cons next rest ih =>
      obtain ⟨link, linked⟩ := List.isChain_cons_cons.mp linked
      obtain ⟨below, once⟩ := List.nodup_cons.mp once
      have apart' : ∀ member ∈ next :: rest, member ∉ current :: visited := by
        intro member inside old
        rcases List.mem_cons.mp old with rfl | earlier
        · exact below inside
        · exact apart member (List.mem_cons_of_mem _ inside) earlier
      refine .up new link (ih linked once apart' ?_ (apart' next List.mem_cons_self))
      intro upper last
      rw [← List.getLast?_cons_cons (a := current)] at last
      rcases cut upper last with old | inside
      · exact .inl (List.mem_cons_of_mem _ old)
      · rcases List.mem_cons.mp inside with rfl | later
        · exact .inl List.mem_cons_self
        · exact .inr later

theorem unique (climb : model.Climb visited current chain) {other : List SchemaId}
    (climb' : model.Climb visited current other) : other = chain := by
  induction climb generalizing other with
  | again old =>
      cases climb' with
      | again => rfl
      | top new | up new => exact absurd old new
  | top new none =>
      cases climb' with
      | again old => exact absurd old new
      | top => rfl
      | up _ link => cases none.symm.trans link
  | up new link _ ih =>
      cases climb' with
      | again old => exact absurd old new
      | top _ none => cases none.symm.trans link
      | up _ link' rest =>
          cases link.symm.trans link'
          rw [ih rest]

/-- The walk over all bases asks for the objects of the chain, one after the other. -/
theorem collectBases (climb : model.Climb visited current chain) {fuel : Nat}
    (enough : unseen (fun _ => 1) visited model.schemas < fuel) :
    model.collectBases start fuel visited current = chain.mapM (model.objectFor · start) := by
  obtain ⟨fuel, rfl⟩ := Nat.exists_eq_add_of_le' (Nat.lt_of_le_of_lt (Nat.zero_le _) enough)
  induction climb generalizing fuel with
  | again old => rw [Model.collectBases, if_pos (List.contains_iff_mem.mpr old)]; rfl
  | @top visited current new none =>
      rw [Model.collectBases, if_neg (mt List.contains_iff_mem.mp new), List.mapM_cons]
      cases present : model.object? current with
      | none => rw [objectFor_missing present, error_bind, error_bind]
      | some object =>
          rw [base?_of_object? present] at none
          rw [objectFor_of_object? present, ok_bind, ok_bind, none]
          rfl
  | @up visited chain current base new link _ ih =>
      obtain ⟨object, present, named⟩ := object?_of_base? link
      have paid := unseen_visit (fun _ => 1) new (object?_eq_some.mp present)
      obtain ⟨fuel, rfl⟩ := Nat.exists_eq_add_of_le' (show 1 ≤ fuel by omega)
      rw [Model.collectBases, if_neg (mt List.contains_iff_mem.mp new), List.mapM_cons,
        objectFor_of_object? present, ok_bind, ok_bind, named]
      exact congrArg (· >>= fun bases => pure (object :: bases)) (ih fuel (by omega))

/-- The walk for a root stops with the first schema that is not silent. -/
theorem findRoot (climb : model.Climb visited current chain) {fuel : Nat}
    (enough : unseen (fun _ => 1) visited model.schemas < fuel) :
    ((∀ member ∈ chain, model.Silent member) →
      model.findRoot start fuel visited current = .ok none) ∧
    ∀ stop, FirstIn model.Silent chain stop →
      model.findRoot start fuel visited current =
        (fun _ => some stop) <$> model.objectFor stop start := by
  obtain ⟨fuel, rfl⟩ := Nat.exists_eq_add_of_le' (Nat.lt_of_le_of_lt (Nat.zero_le _) enough)
  induction climb generalizing fuel with
  | again old =>
      rw [Model.findRoot, if_pos (List.contains_iff_mem.mpr old)]
      exact ⟨fun _ => rfl, fun stop first => by cases first⟩
  | @top visited current new none =>
      constructor
      · intro silent
        rw [findRoot_silent new (silent current (List.mem_singleton_self _)), none]
      · rintro stop (loud | ⟨-, further⟩)
        · exact findRoot_loud new loud
        · cases further
  | @up visited chain current base new link _ ih =>
      obtain ⟨object, present, -⟩ := object?_of_base? link
      have paid := unseen_visit (fun _ => 1) new (object?_eq_some.mp present)
      obtain ⟨fuel, rfl⟩ := Nat.exists_eq_add_of_le' (show 1 ≤ fuel by omega)
      obtain ⟨none, some⟩ := ih fuel (by omega)
      constructor
      · intro silent
        obtain ⟨here, later⟩ := List.forall_mem_cons.mp silent
        rw [findRoot_silent new here, link]
        exact none later
      · rintro stop (loud | ⟨here, later⟩)
        · exact findRoot_loud new loud
        · rw [findRoot_silent new here, link]
          exact some stop later

theorem baseChain (climb : model.Climb [] id chain) : model.BaseChain id chain where
  starts := climb.starts List.not_mem_nil
  linked := climb.linked
  once := climb.fresh.1
  cut upper last := (climb.cut upper last).resolve_left List.not_mem_nil

end Climb

theorem BaseChain.climb (bases : model.BaseChain id chain) : model.Climb [] id chain := by
  obtain ⟨rest, rfl⟩ := List.head?_eq_some_iff.mp bases.starts
  exact .of_chain bases.linked bases.once (fun _ _ => List.not_mem_nil)
    fun upper last => .inr (bases.cut upper last)

/-- A member that is no object makes the walk over all bases fail, and nothing else does. -/
theorem mapM_objectFor_missing {bad : SchemaId}
    (first : FirstIn (fun member => (model.object? member).isSome) chain bad) :
    chain.mapM (model.objectFor · start) = .error (model.linkError start bad) := by
  induction first with
  | here absent =>
      rw [List.mapM_cons, objectFor_missing (Option.not_isSome_iff_eq_none.mp absent), error_bind]
  | later present _ ih =>
      obtain ⟨object, found⟩ := Option.isSome_iff_exists.mp present
      rw [List.mapM_cons, objectFor_of_object? found, ok_bind, ih, error_bind]

theorem mapM_objectFor_iff {objects : List ObjectType} :
    chain.mapM (model.objectFor · start) = .ok objects ↔
      List.Forall₂ (fun member object => model.object? member = some object) chain objects := by
  rw [mapM_eq_ok_iff]
  constructor
  · exact fun each => each.imp fun _ _ found => object?_eq_some.mpr (objectFor_eq_ok found)
  · exact fun each => each.imp fun _ _ present => objectFor_of_object? present start

theorem exists_mapM_objectFor
    (objects : ∀ member ∈ chain, (model.object? member).isSome) :
    ∃ found, chain.mapM (model.objectFor · start) = .ok found :=
  mapM_objectFor_eq_ok.mpr fun member inside => Option.isSome_iff_exists.mp (objects member inside)

theorem unseen_lt_walk : unseen (fun _ => 1) [] model.schemas < model.walkLimit + 1 := by
  rw [schemas_count, walkLimit]
  omega

section Walks
variable (climb : model.Climb [] id chain)
include climb

theorem inheritedProperties_eq : model.inheritedProperties id =
    (fun objects => objects.reverse.flatMap (·.properties)) <$>
      chain.mapM (model.objectFor · id) := by
  rw [inheritedProperties, climb.collectBases unseen_lt_walk]
  cases chain.mapM (model.objectFor · id) <;> rfl

theorem inheritedProperties_eq_ok {properties : List Property} :
    model.inheritedProperties id = .ok properties ↔
      ∃ objects, List.Forall₂ (fun member object => model.object? member = some object)
        chain objects ∧ properties = objects.reverse.flatMap (·.properties) := by
  rw [inheritedProperties_eq climb]
  constructor
  · intro collected
    obtain ⟨objects, mapped, same⟩ := map_eq_ok collected
    exact ⟨objects, mapM_objectFor_iff.mp mapped, same.symm⟩
  · rintro ⟨objects, each, rfl⟩
    rw [mapM_objectFor_iff.mpr each]
    rfl

theorem inheritedProperties_eq_error {failure : ModelError} :
    model.inheritedProperties id = .error failure ↔
      ∃ bad, FirstIn (fun member => (model.object? member).isSome) chain bad ∧
        failure = model.linkError id bad := by
  rw [inheritedProperties_eq climb]
  constructor
  · intro failed
    rcases all_or_first (fun member => (model.object? member).isSome) chain with
      objects | ⟨bad, first⟩
    · obtain ⟨found, mapped⟩ := exists_mapM_objectFor objects
      rw [mapped] at failed
      cases failed
    · rw [mapM_objectFor_missing first] at failed
      cases failed
      exact ⟨bad, first, rfl⟩
  · rintro ⟨bad, first, rfl⟩
    rw [mapM_objectFor_missing first]
    rfl

theorem hierarchyRoot_cases :
    ((∀ member ∈ chain, model.Silent member) ∧ model.hierarchyRoot id = .ok none) ∨
    (∃ root object, model.object? root = some object ∧ object.discriminator.isSome ∧
      FirstIn model.Silent chain root ∧ model.hierarchyRoot id = .ok (some root)) ∨
    ∃ bad, model.object? bad = none ∧ FirstIn model.Silent chain bad ∧
      model.hierarchyRoot id = .error (model.linkError id bad) := by
  obtain ⟨rootless, rooted⟩ := @Climb.findRoot model id _ _ _ climb _ unseen_lt_walk
  rw [hierarchyRoot]
  rcases all_or_first model.Silent chain with silent | ⟨stop, first⟩
  · exact .inl ⟨silent, rootless silent⟩
  · right
    rw [rooted stop first]
    cases present : model.object? stop with
    | none => exact .inr ⟨stop, present, first, by rw [objectFor_missing present]; rfl⟩
    | some object =>
        have declares : object.discriminator.isSome := by
          rw [Option.isSome_iff_ne_none]
          exact fun silent => first.fails ⟨object, present, silent⟩
        exact .inl ⟨stop, object, present, declares, first, by
          rw [objectFor_of_object? present]; rfl⟩

theorem hierarchyRoot_eq_root {root : SchemaId} :
    model.hierarchyRoot id = .ok (some root) ↔
      ∃ object, model.object? root = some object ∧ object.discriminator.isSome ∧
        FirstIn model.Silent chain root := by
  rcases hierarchyRoot_cases climb with
    ⟨silent, outcome⟩ | ⟨found, object, present, declares, first, outcome⟩ |
      ⟨bad, absent, first, outcome⟩
  all_goals
    rw [outcome]
    constructor
  · intro other; cases other
  · rintro ⟨-, -, -, first⟩
    exact absurd (silent root first.mem) first.fails
  · intro same
    cases same
    exact ⟨object, present, declares, first⟩
  · rintro ⟨-, -, -, first'⟩
    rw [first.unique first']
  · intro other; cases other
  · rintro ⟨object, present, -, first'⟩
    rw [first.unique first', absent] at present
    cases present

theorem hierarchyRoot_eq_none :
    model.hierarchyRoot id = .ok none ↔ ∀ member ∈ chain, model.Silent member := by
  rcases hierarchyRoot_cases climb with
    ⟨silent, outcome⟩ | ⟨stop, -, -, -, first, outcome⟩ | ⟨stop, -, first, outcome⟩
  · exact iff_of_true outcome silent
  all_goals
    rw [outcome]
    apply iff_of_false
    · intro other; cases other
    · exact fun silent => first.fails (silent stop first.mem)

theorem hierarchyRoot_eq_error {failure : ModelError} :
    model.hierarchyRoot id = .error failure ↔
      ∃ bad, model.object? bad = none ∧ FirstIn model.Silent chain bad ∧
        failure = model.linkError id bad := by
  rcases hierarchyRoot_cases climb with
    ⟨silent, outcome⟩ | ⟨root, object, present, -, first, outcome⟩ | ⟨bad, absent, first, outcome⟩
  all_goals
    rw [outcome]
    constructor
  · intro other; cases other
  · rintro ⟨bad, -, first, -⟩
    exact absurd (silent bad first.mem) first.fails
  · intro other; cases other
  · rintro ⟨bad, absent, first', -⟩
    rw [first.unique first', present] at absent
    cases absent
  · intro same
    cases same
    exact ⟨bad, absent, first, rfl⟩
  · rintro ⟨other, -, first', rfl⟩
    rw [first.unique first']

end Walks

/-- Every schema has one chain of bases. The properties of an object are those that the members of
its chain declare, each member once and the last one first; where members are no objects, the walk
fails with the first of these. Its root is the first member that declares a discriminator, where only
objects without one come before; the walk fails only where such objects come before a member that is
no object, and finds no root where the chain ends or closes a circle without one. -/
theorem bases_walked_once (model : Model) (id : SchemaId) :
    ∃ chain, (∀ other, model.BaseChain id other ↔ other = chain) ∧
      (∀ properties, model.inheritedProperties id = .ok properties ↔
        ∃ objects, List.Forall₂ (fun member object => model.object? member = some object)
          chain objects ∧ properties = objects.reverse.flatMap (·.properties)) ∧
      (∀ failure, model.inheritedProperties id = .error failure ↔
        ∃ bad, FirstIn (fun member => (model.object? member).isSome) chain bad ∧
          failure = model.linkError id bad) ∧
      (∀ root, model.hierarchyRoot id = .ok (some root) ↔
        ∃ object, model.object? root = some object ∧ object.discriminator.isSome ∧
          FirstIn model.Silent chain root) ∧
      (model.hierarchyRoot id = .ok none ↔ ∀ member ∈ chain, model.Silent member) ∧
      (∀ failure, model.hierarchyRoot id = .error failure ↔
        ∃ bad, model.object? bad = none ∧ FirstIn model.Silent chain bad ∧
          failure = model.linkError id bad) := by
  obtain ⟨chain, climb⟩ := @Climb.exists_climb model [] id
  refine ⟨chain, fun other => ?_, fun _ => inheritedProperties_eq_ok climb,
    fun _ => inheritedProperties_eq_error climb, fun _ => hierarchyRoot_eq_root climb,
    hierarchyRoot_eq_none climb, fun _ => hierarchyRoot_eq_error climb⟩
  constructor
  · exact fun bases => climb.unique bases.climb
  · rintro rfl
    exact climb.baseChain

/-- A hen has an egg as its base, and an egg a hen. -/
def poultry : Model :=
  { name := "Poultry"
    schemas :=
      [("Hen", .object { name := "Hen", base := some "Egg", properties := [.mandatory "age" "int32"] }),
       ("Egg", .object { name := "Egg", base := some "Hen", properties := [.mandatory "size" "int32"] })] }

example : poultry.inheritedProperties "Hen" =
      .ok [.mandatory "size" "int32", .mandatory "age" "int32"] ∧
    poultry.hierarchyRoot "Hen" = .ok none := ⟨rfl, rfl⟩

end ApiContract.Model
