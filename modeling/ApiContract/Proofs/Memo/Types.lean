import ApiContract.Proofs.Memo.Planning
import ApiContract.Plan.Building
import Mathlib.Data.List.Perm.Subperm

/-!
Resolution on shared tables. The type of a schema rests on the type of at most one other schema:
the element of an array or a dictionary, or the root that a derived object is checked with. Chains
of such links either end within the number of schemas or run into a circle, and a schema whose
chain runs into a circle never gets an entry.
-/

namespace ApiContract

namespace Model

/-- The schema whose type the type of another is made from, or checked with. -/
def typeLink? (model : Model) (id : SchemaId) : Option SchemaId :=
  match model.schema? id with
  | some (.array element) => some element
  | some (.dictionary value) => some value
  | some (.object object) =>
      if object.discriminator.isSome then none
      else
        match model.hierarchyRoot id with
        | .ok root => root
        | .error _ => none
  | _ => none

/-- The chain of links from a schema ends after so many links. -/
inductive Ends (model : Model) : SchemaId → Nat → Prop
  | here {id : SchemaId} : model.typeLink? id = none → Ends model id 0
  | next {id linked : SchemaId} {count : Nat} :
      model.typeLink? id = some linked → Ends model linked count → Ends model id (count + 1)

open Planning

variable {model : Model}

theorem Ends.unique {id : SchemaId} {first second : Nat} (left : model.Ends id first)
    (right : model.Ends id second) : first = second := by
  induction left generalizing second with
  | here closed =>
      cases right with
      | here _ => rfl
      | next linked _ => rw [closed] at linked; cases linked
  | next linked _ ih =>
      cases right with
      | here closed => rw [linked] at closed; cases closed
      | next linked' rest =>
          rw [linked] at linked'
          cases linked'
          rw [ih rest]

theorem typeLink?_mem {id linked : SchemaId} (link : model.typeLink? id = some linked) :
    id ∈ model.schemas.map (·.1) := by
  cases found : model.schema? id with
  | none => simp [typeLink?, found] at link
  | some schema =>
      obtain ⟨entry, member, same⟩ := List.lookup_isSome_iff.mp
        (show (model.schemas.lookup id).isSome by rw [← schema?, found]; rfl)
      have equal : id = entry.1 := by simpa using same
      exact List.mem_map.mpr ⟨entry, member, equal.symm⟩

/-- The schemas along a chain are pairwise distinct, since each is a different distance from its
end. -/
theorem Ends.chain {id : SchemaId} {count : Nat} (ends : model.Ends id count) :
    ∃ chain : List SchemaId, chain.length = count ∧ chain.Nodup ∧
      chain ⊆ model.schemas.map (·.1) ∧
      ∀ other ∈ chain, ∃ distance, 0 < distance ∧ distance ≤ count ∧ model.Ends other distance := by
  induction ends with
  | here _ => exact ⟨[], rfl, List.nodup_nil, by simp, by simp⟩
  | @next id linked count link rest ih =>
      obtain ⟨chain, length, nodup, inside, distances⟩ := ih
      have whole : model.Ends id (count + 1) := .next link rest
      refine ⟨id :: chain, by simp [length], ?_, ?_, ?_⟩
      · refine List.nodup_cons.mpr ⟨?_, nodup⟩
        intro member
        obtain ⟨distance, -, short, ends⟩ := distances id member
        have same := ends.unique whole
        omega
      · exact List.cons_subset.mpr ⟨typeLink?_mem link, inside⟩
      · intro other member
        rcases List.mem_cons.mp member with same | old
        · exact ⟨count + 1, by omega, by omega, same ▸ whole⟩
        · obtain ⟨distance, positive, short, ends⟩ := distances other old
          exact ⟨distance, positive, by omega, ends⟩

theorem Ends.le_schemas {id : SchemaId} {count : Nat} (ends : model.Ends id count) :
    count ≤ model.schemas.length := by
  obtain ⟨chain, length, nodup, inside, -⟩ := ends.chain
  have short := (List.subperm_of_subset nodup inside).length_le
  simpa [length] using short

section Compute
variable {next next' : SchemaId → String → Planning ModelError RustType}

/-- Without a link the type is computed at once. -/
theorem computeType_closed {id : SchemaId} (closed : model.typeLink? id = none)
    (referrer : String) :
    ∃ result, ∀ next, model.computeType next id referrer = done result := by
  cases found : model.schema? id with
  | none =>
      simp only [computeType, schemaFor, found]
      exact ⟨_, fun _ => rfl⟩
  | some schema =>
      cases schema with
      | array element => simp [typeLink?, found] at closed
      | dictionary value => simp [typeLink?, found] at closed
      | object object =>
          -- A base computes its variants and a plain object nothing; only a derived one asks
          -- further.
          cases declared : object.discriminator with
          | some discriminator =>
              simp only [computeType, schemaFor, found, liftM_ok_bind, roleOf, declared]
              cases model.variants id object <;> exact ⟨_, fun _ => rfl⟩
          | none =>
              cases walked : model.hierarchyRoot id with
              | error e =>
                  simp only [computeType, schemaFor, found, liftM_ok_bind, roleOf, declared, walked]
                  exact ⟨_, fun _ => rfl⟩
              | ok root =>
                  have none : root = none := by
                    simpa [typeLink?, found, declared, walked] using closed
                  subst none
                  simp only [computeType, schemaFor, found, liftM_ok_bind, roleOf, declared, walked]
                  exact ⟨_, fun _ => rfl⟩
      | _ =>
          simp only [computeType, schemaFor, found, liftM_ok_bind]
          exact ⟨_, fun _ => rfl⟩

/-- With a link the type is computed from the type of the link, and nothing else can fail. -/
theorem computeType_linked {id linked : SchemaId} (link : model.typeLink? id = some linked) :
    ∃ wrap : RustType → RustType, ∀ next referrer,
      model.computeType next id referrer = next linked id >>= fun type => pure (wrap type) := by
  cases found : model.schema? id with
  | none => simp [typeLink?, found] at link
  | some schema =>
      cases schema with
      | array element =>
          have same : element = linked := by simpa [typeLink?, found] using link
          subst same
          simp only [computeType, schemaFor, found, liftM_ok_bind]
          exact ⟨_, fun _ _ => rfl⟩
      | dictionary value =>
          have same : value = linked := by simpa [typeLink?, found] using link
          subst same
          simp only [computeType, schemaFor, found, liftM_ok_bind]
          exact ⟨_, fun _ _ => rfl⟩
      | object object =>
          cases declared : object.discriminator with
          | some discriminator => simp [typeLink?, found, declared] at link
          | none =>
              cases walked : model.hierarchyRoot id with
              | error e => simp [typeLink?, found, declared, walked] at link
              | ok root =>
                  have same : root = some linked := by
                    simpa [typeLink?, found, declared, walked] using link
                  subst same
                  simp only [computeType, schemaFor, found, liftM_ok_bind, roleOf, declared, walked,
                    bind_assoc, pure_bind]
                  exact ⟨fun _ => _, fun _ _ => rfl⟩
      | _ => simp [typeLink?, found] at link

/-- The type of a schema depends on how its link is resolved, and on nothing else of `next`. -/
theorem fresh_computeType_congr {id : SchemaId} (referrer : String)
    (same : ∀ linked, model.typeLink? id = some linked →
      ∀ referrer, (next linked referrer).fresh = (next' linked referrer).fresh) :
    (model.computeType next id referrer).fresh = (model.computeType next' id referrer).fresh := by
  cases link : model.typeLink? id with
  | none =>
      obtain ⟨result, computed⟩ := computeType_closed link referrer
      rw [computed, computed]
  | some linked =>
      obtain ⟨wrap, computed⟩ := computeType_linked link
      rw [computed, computed, fresh_bind, fresh_bind, same linked link]

/-- A type is computed only after the type of its link. -/
theorem fresh_computeType_link {id linked : SchemaId} {referrer : String} {type : RustType}
    (link : model.typeLink? id = some linked)
    (computed : (model.computeType next id referrer).fresh = .ok type) :
    ∃ type', (next linked id).fresh = .ok type' := by
  obtain ⟨wrap, equation⟩ := computeType_linked link
  rw [equation, fresh_bind] at computed
  obtain ⟨type', resolved, -⟩ := bind_eq_ok computed
  exact ⟨type', resolved⟩

/-- Who refers to a schema matters for the message about an unknown one only. -/
theorem fresh_computeType_referrer {id : SchemaId} {referrer : String} {type : RustType}
    (computed : (model.computeType next id referrer).fresh = .ok type) (other : String) :
    (model.computeType next id other).fresh = .ok type := by
  cases found : model.schema? id with
  | none => simp [computeType, schemaFor, found] at computed
  | some schema => simpa [computeType, schemaFor, found] using computed

end Compute

/-! Enough fuel: a chain that ends is followed to its end, whatever fuel is left over. -/

theorem fresh_resolveWithin_succ (fuel : Nat) (id : SchemaId) (referrer : String) :
    (model.resolveWithin (fuel + 1) id referrer).fresh =
      (model.computeType (model.resolveWithin fuel) id referrer).fresh := by
  change ((model.computeType (model.resolveWithin fuel) id referrer) >>= fun type =>
    keepType ⟨id, false⟩ ⟨type, false⟩ fun kept => pure kept.type).fresh = _
  rw [fresh_bind]
  cases (model.computeType (model.resolveWithin fuel) id referrer).fresh <;> rfl

theorem Ends.fresh_resolveWithin {id : SchemaId} {count : Nat} (ends : model.Ends id count)
    {fuel fuel' : Nat} (enough : count + 1 ≤ fuel) (enough' : count + 1 ≤ fuel')
    (referrer : String) :
    (model.resolveWithin fuel id referrer).fresh = (model.resolveWithin fuel' id referrer).fresh := by
  induction ends generalizing fuel fuel' referrer with
  | here closed =>
      obtain ⟨fuel, rfl⟩ := Nat.exists_eq_add_of_le' enough
      obtain ⟨fuel', rfl⟩ := Nat.exists_eq_add_of_le' enough'
      rw [fresh_resolveWithin_succ, fresh_resolveWithin_succ]
      apply fresh_computeType_congr
      intro linked link
      rw [closed] at link
      cases link
  | @next id linked count link rest ih =>
      obtain ⟨fuel, rfl⟩ : ∃ n, fuel = n + 1 := ⟨fuel - 1, by omega⟩
      obtain ⟨fuel', rfl⟩ : ∃ n, fuel' = n + 1 := ⟨fuel' - 1, by omega⟩
      rw [fresh_resolveWithin_succ, fresh_resolveWithin_succ]
      apply fresh_computeType_congr
      intro other link' referrer'
      rw [link] at link'
      cases link'
      exact ih (by omega) (by omega) referrer'

theorem ends_of_resolveWithin {fuel : Nat} {id : SchemaId} {referrer : String} {type : RustType}
    (resolved : (model.resolveWithin fuel id referrer).fresh = .ok type) :
    ∃ count, model.Ends id count ∧ count + 1 ≤ fuel := by
  induction fuel generalizing id referrer type with
  | zero => cases resolved
  | succ fuel ih =>
      rw [fresh_resolveWithin_succ] at resolved
      cases link : model.typeLink? id with
      | none => exact ⟨0, .here link, by omega⟩
      | some linked =>
          obtain ⟨type', resolved'⟩ := fresh_computeType_link link resolved
          obtain ⟨count, ends, short⟩ := ih resolved'
          exact ⟨count + 1, .next link ends, by omega⟩

theorem fresh_resolveWithin_referrer {fuel : Nat} {id : SchemaId} {referrer : String}
    {type : RustType} (resolved : (model.resolveWithin fuel id referrer).fresh = .ok type)
    (other : String) : (model.resolveWithin fuel id other).fresh = .ok type := by
  cases fuel with
  | zero => cases resolved
  | succ fuel =>
      rw [fresh_resolveWithin_succ] at resolved ⊢
      exact fresh_computeType_referrer resolved other

/-- The type that carries a schema, computed without tables. -/
def typeOf (model : Model) (id : SchemaId) : Except ModelError RustType :=
  (model.resolveWithin (model.walkLimit + 1) id id).fresh

theorem typeOf_eq_ok {fuel : Nat} {id : SchemaId} {referrer : String} {type : RustType}
    (resolved : (model.resolveWithin fuel id referrer).fresh = .ok type) :
    model.typeOf id = .ok type := by
  obtain ⟨count, ends, enough⟩ := ends_of_resolveWithin resolved
  have short := ends.le_schemas
  have limit : count + 1 ≤ model.walkLimit + 1 := by simp only [walkLimit]; omega
  rw [← fresh_resolveWithin_referrer resolved id]
  exact (ends.fresh_resolveWithin enough limit id).symm

theorem fresh_resolveUse (id : SchemaId) (nullable : Bool) (referrer : String) :
    (model.resolveUse id nullable referrer).fresh =
      (fun type => ⟨type, nullable⟩) <$>
        (model.resolveWithin (model.walkLimit + 1) id referrer).fresh := by
  cases nullable with
  | false =>
      simp only [resolveUse, Bool.false_eq_true, if_false, fresh_bind]
      cases (model.resolveWithin (model.walkLimit + 1) id referrer).fresh <;> rfl
  | true =>
      change ((model.resolveWithin (model.walkLimit + 1) id referrer) >>= fun type =>
        keepType ⟨id, true⟩ ⟨type, true⟩ pure).fresh = _
      rw [fresh_bind]
      cases (model.resolveWithin (model.walkLimit + 1) id referrer).fresh <;> rfl

/-! What a type says about its schema. -/

/-- The role of an object, without tables. -/
inductive HasRole (model : Model) (id : SchemaId) (object : ObjectType) : HierarchyRole → Prop
  | base {discriminator : String} {variants : List Variant} :
      object.discriminator = some discriminator → model.variants id object = .ok variants →
      HasRole model id object (.base discriminator variants)
  | derived {root : SchemaId} {type : RustType} :
      object.discriminator = none → model.hierarchyRoot id = .ok (some root) →
      model.typeOf root = .ok type →
      HasRole model id object (.derived root object.variantValue)
  | plain : object.discriminator = none → model.hierarchyRoot id = .ok none →
      HasRole model id object .plain

theorem typeOf_object {id : SchemaId} {object : ObjectType} {type : RustType}
    (found : model.schema? id = some (.object object)) (computed : model.typeOf id = .ok type) :
    ∃ role, model.HasRole id object role ∧ type = .model (Naming.typeName object.name) id role := by
  rw [typeOf, fresh_resolveWithin_succ] at computed
  cases declared : object.discriminator with
  | some discriminator =>
      simp only [computeType, schemaFor, found, liftM_ok_bind, roleOf, declared, fresh_bind,
        fresh_liftM] at computed
      obtain ⟨role, checked, same⟩ := bind_eq_ok computed
      obtain ⟨variants, collected, same'⟩ := bind_eq_ok checked
      cases same
      cases same'
      exact ⟨_, .base declared collected, rfl⟩
  | none =>
      simp only [computeType, schemaFor, found, liftM_ok_bind, roleOf, declared, fresh_bind,
        fresh_liftM] at computed
      obtain ⟨role, checked, same⟩ := bind_eq_ok computed
      obtain ⟨root, walked, rest⟩ := bind_eq_ok checked
      cases same
      cases root with
      | none =>
          cases rest
          exact ⟨_, .plain declared walked, rfl⟩
      | some root =>
          simp only [fresh_bind] at rest
          obtain ⟨type', resolved, same'⟩ := bind_eq_ok rest
          cases same'
          exact ⟨_, .derived declared walked (typeOf_eq_ok resolved), rfl⟩

/-- The types of schemas other than objects. -/
theorem typeOf_shape {id : SchemaId} {type : RustType} (computed : model.typeOf id = .ok type) :
    match type with
    | .collection item => ∃ element, model.schema? id = some (.array element) ∧
        model.typeLink? id = some element ∧ model.typeOf element = .ok item
    | .dictionary item => ∃ value, model.schema? id = some (.dictionary value) ∧
        model.typeLink? id = some value ∧ model.typeOf value = .ok item
    | .model _ _ role => ∃ object, model.schema? id = some (.object object) ∧
        model.HasRole id object role
    | _ => model.typeLink? id = none := by
  cases found : model.schema? id with
  | none => simp [typeOf, fresh_resolveWithin_succ, computeType, schemaFor, found] at computed
  | some schema =>
      cases schema with
      | object object =>
          obtain ⟨role, has, same⟩ := typeOf_object found computed
          subst same
          exact ⟨object, rfl, has⟩
      | array element =>
          have link : model.typeLink? id = some element := by simp [typeLink?, found]
          simp only [typeOf, fresh_resolveWithin_succ, computeType, schemaFor, found, liftM_ok_bind,
            fresh_bind] at computed
          obtain ⟨item, resolved, same⟩ := bind_eq_ok computed
          cases same
          exact ⟨element, rfl, link, typeOf_eq_ok resolved⟩
      | dictionary value =>
          have link : model.typeLink? id = some value := by simp [typeLink?, found]
          simp only [typeOf, fresh_resolveWithin_succ, computeType, schemaFor, found, liftM_ok_bind,
            fresh_bind] at computed
          obtain ⟨item, resolved, same⟩ := bind_eq_ok computed
          cases same
          exact ⟨value, rfl, link, typeOf_eq_ok resolved⟩
      | _ =>
          have closed : model.typeLink? id = none := by simp [typeLink?, found]
          simp only [typeOf, fresh_resolveWithin_succ, computeType, schemaFor, found, liftM_ok_bind,
            fresh_pure] at computed
          cases computed
          exact closed

/-! What the tables may hold. -/

/-- The plan of a schema in a format, computed without tables. -/
def planOf (model : Model) (id : SchemaId) (format : WireFormat) : Except ModelError WirePlan :=
  (model.plan id format).fresh

/-- Under a nullable entry lies the plain one, under a plain one that of its link, and under the
JSON plan of an object its type. -/
def tableLaw (model : Model) : TableLaw where
  type key := ((model.typeOf key.schema).map fun type => ⟨type, key.nullable⟩).toOption
  plan key := (model.planOf key.schema key.format).toOption
  underType key :=
    if key.nullable then [⟨key.schema, false⟩]
    else (model.typeLink? key.schema).toList.map fun linked => ⟨linked, false⟩
  underPlan key :=
    if key.format = .json ∧ ((model.schema? key.schema).bind Schema.object?).isSome then
      [⟨key.schema, false⟩]
    else []

theorem tableLaw_type {id : SchemaId} {nullable : Bool} {value : TypeUse}
    (allowed : model.tableLaw.type ⟨id, nullable⟩ = some value) :
    ∃ type, model.typeOf id = .ok type ∧ value = ⟨type, nullable⟩ := by
  cases computed : model.typeOf id with
  | error e => simp [tableLaw, computed, Except.map, Except.toOption] at allowed
  | ok type =>
      refine ⟨type, rfl, ?_⟩
      simpa [tableLaw, computed, Except.map, Except.toOption] using allowed.symm

theorem tableLaw_type_of_ok {id : SchemaId} {nullable : Bool} {type : RustType}
    (computed : model.typeOf id = .ok type) :
    model.tableLaw.type ⟨id, nullable⟩ = some ⟨type, nullable⟩ := by
  simp [tableLaw, computed, Except.map, Except.toOption]

/-- The result of a resolution, and that a type that was found is in the table. -/
def Resolves {α : Type} (p : Planning ModelError α) (id : SchemaId)
    (result : Except ModelError α) (known : List TypeKey) : Prop :=
  result = p.fresh ∧ ∀ a, result = .ok a → ⟨id, false⟩ ∈ known

theorem computeType_holds {next : SchemaId → String → Planning ModelError RustType} {id : SchemaId}
    (referrer : String)
    (each : ∀ linked, model.typeLink? id = some linked → ∀ referrer known,
      Holds model.tableLaw (Resolves (next linked referrer) linked) known (next linked referrer))
    (known : List TypeKey) :
    Holds model.tableLaw
      (fun result known' => result = (model.computeType next id referrer).fresh ∧
        ∀ type, result = .ok type → ∀ linked, model.typeLink? id = some linked →
          ⟨linked, false⟩ ∈ known')
      known (model.computeType next id referrer) := by
  cases link : model.typeLink? id with
  | none =>
      obtain ⟨result, computed⟩ := computeType_closed link referrer
      rw [computed]
      exact ⟨rfl, fun _ _ _ linked => by cases linked⟩
  | some linked =>
      obtain ⟨wrap, computed⟩ := computeType_linked link
      rw [computed]
      apply Holds.bind
      apply (each linked link id known).weaken
      intro result known' resolved
      cases result with
      | ok type =>
          refine ⟨by rw [fresh_bind, ← resolved.1]; rfl, fun _ _ other same => ?_⟩
          cases same
          exact resolved.2 type rfl
      | error e => exact ⟨by rw [fresh_bind, ← resolved.1]; rfl, fun _ same => by cases same⟩

/-- Fuel that reaches the end of a chain wherever it has one. -/
def Enough (model : Model) (fuel : Nat) (id : SchemaId) : Prop :=
  ∀ count, model.Ends id count → count + 1 ≤ fuel

theorem enough_limit (id : SchemaId) : model.Enough (model.walkLimit + 1) id := by
  intro count ends
  have short := ends.le_schemas
  simp only [walkLimit]
  omega

theorem resolveWithin_holds {fuel : Nat} {id : SchemaId} (enough : model.Enough fuel id)
    (referrer : String) (known : List TypeKey) :
    Holds model.tableLaw (Resolves (model.resolveWithin fuel id referrer) id) known
      (model.resolveWithin fuel id referrer) := by
  induction fuel generalizing id referrer known with
  | zero => exact ⟨rfl, fun _ same => by cases same⟩
  | succ fuel ih =>
      constructor
      · intro value allowed
        -- the entry found was computed with more fuel, but the chain of `id` ends in time
        obtain ⟨type, computed, rfl⟩ := tableLaw_type allowed
        obtain ⟨count, ends, short⟩ := ends_of_resolveWithin computed
        refine ⟨?_, fun _ _ => by simp⟩
        change Except.ok type = _
        rw [ends.fresh_resolveWithin (enough count ends) short referrer]
        exact (fresh_resolveWithin_referrer computed referrer).symm
      · have each : ∀ linked, model.typeLink? id = some linked → ∀ referrer known,
            Holds model.tableLaw (Resolves (model.resolveWithin fuel linked referrer) linked) known
              (model.resolveWithin fuel linked referrer) := by
          intro linked link referrer' known'
          refine ih (fun count ends => ?_) referrer' known'
          have further := enough (count + 1) (.next link ends)
          omega
        apply Holds.bind
        apply (computeType_holds referrer each known).weaken
        intro result known' computed
        obtain ⟨same, linked⟩ := computed
        rw [← fresh_resolveWithin_succ] at same
        cases result with
        | error e => exact ⟨same, fun _ equal => by cases equal⟩
        | ok type =>
            refine ⟨tableLaw_type_of_ok (typeOf_eq_ok same.symm), ?_, same, fun _ _ => by simp⟩
            intro need needed
            simp only [tableLaw, Bool.false_eq_true, if_false, List.mem_map,
              Option.mem_toList] at needed
            obtain ⟨other, link, rfl⟩ := needed
            exact linked type rfl other link

theorem resolveUse_holds (id : SchemaId) (nullable : Bool) (referrer : String)
    (known : List TypeKey) :
    Holds model.tableLaw (Resolves (model.resolveUse id nullable referrer) id) known
      (model.resolveUse id nullable referrer) := by
  have plain := resolveWithin_holds (@enough_limit model id) referrer
  cases nullable with
  | false =>
      apply Holds.bind
      apply (plain known).weaken
      intro result known' resolved
      cases result with
      | ok type =>
          exact ⟨by rw [fresh_resolveUse, ← resolved.1]; rfl, fun _ _ => resolved.2 type rfl⟩
      | error e =>
          exact ⟨by rw [fresh_resolveUse, ← resolved.1]; rfl, fun _ same => by cases same⟩
  | true =>
      constructor
      · intro value allowed
        obtain ⟨type, computed, rfl⟩ := tableLaw_type allowed
        refine ⟨?_, fun _ _ => by simp [tableLaw]⟩
        rw [fresh_resolveUse, fresh_resolveWithin_referrer computed referrer]
        rfl
      · apply Holds.bind
        apply (plain known).weaken
        intro result known' resolved
        cases result with
        | ok type =>
            refine ⟨tableLaw_type_of_ok (typeOf_eq_ok resolved.1.symm), ?_, ?_⟩
            · intro need needed
              have same : need = ⟨id, false⟩ := by simpa [tableLaw] using needed
              exact same ▸ resolved.2 type rfl
            · refine ⟨by rw [fresh_resolveUse, ← resolved.1]; rfl, fun _ _ => ?_⟩
              exact List.mem_cons_of_mem _ (resolved.2 type rfl)
        | error e =>
            exact ⟨by rw [fresh_resolveUse, ← resolved.1]; rfl, fun _ same => by cases same⟩

end Model

end ApiContract
