import ApiContract.Proofs.Types.Variants

/-!
Loops without a bound. A turn goes on from a new state or stops the loop with an outcome. A loop ends
where finitely many turns lead to one that stops; a function that counts its turns down agrees with
the loop as long as the count is not what stops it.
-/

namespace ApiContract

variable {σ ω ε α β : Type}

/-- What one turn of a loop comes to. -/
inductive Turn (σ ω : Type) where
  | next (state : σ)
  | stop (outcome : ω)

/-- Goes on with the value of a result; an error stops the loop. -/
def Turn.after (result : Except ε α) (turn : α → Turn σ (Except ε β)) : Turn σ (Except ε β) :=
  match result with
  | .ok a => turn a
  | .error e => .stop (.error e)

/-- A loop ends with an outcome. -/
inductive Loop (turn : σ → Turn σ ω) : σ → ω → Prop where
  | stop {state : σ} {outcome : ω} : turn state = .stop outcome → Loop turn state outcome
  | next {state state' : σ} {outcome : ω} :
      turn state = .next state' → Loop turn state' outcome → Loop turn state outcome

theorem Loop.unique {turn : σ → Turn σ ω} {state : σ} {outcome outcome' : ω}
    (ends : Loop turn state outcome) (ends' : Loop turn state outcome') : outcome' = outcome := by
  induction ends with
  | stop here =>
      cases ends' with
      | stop here' => exact Turn.stop.inj (here'.symm.trans here)
      | next there' _ => cases here.symm.trans there'
  | next there _ ih =>
      cases ends' with
      | stop here' => cases there.symm.trans here'
      | next there' rest =>
          cases there.symm.trans there'
          exact ih rest

end ApiContract

/-!
The walks over hierarchies as loops without a bound. Each remembers what it visited, so it ends on
every model, and it ends with what the bounded walk gives: the chain of bases pays for a turn with a
schema not visited yet, the walk below a root with a link of such a schema.
-/

namespace ApiContract.Model

variable {model : Model} {start root current : SchemaId} {hierarchy : String}

/-- One turn of the walk up to a root, from what was visited and the current schema. -/
def rootTurn (model : Model) (start : SchemaId) :
    List SchemaId × SchemaId →
      Turn (List SchemaId × SchemaId) (Except ModelError (Option SchemaId))
  | (visited, current) =>
      if visited.contains current then .stop (.ok none)
      else
        .after (model.objectFor current start) fun object =>
          if object.discriminator.isSome then .stop (.ok (some current))
          else
            match object.base with
            | some base => .next (current :: visited, base)
            | none => .stop (.ok none)

/-- One turn of the walk over all bases, with the objects found so far, the last one first. -/
def basesTurn (model : Model) (start : SchemaId) :
    List SchemaId × List ObjectType × Option SchemaId →
      Turn (List SchemaId × List ObjectType × Option SchemaId) (Except ModelError (List Property))
  | (_, chain, none) => .stop (.ok (chain.flatMap (·.properties)))
  | (visited, chain, some current) =>
      if visited.contains current then .stop (.ok (chain.flatMap (·.properties)))
      else
        .after (model.objectFor current start) fun object =>
          .next (current :: visited, object :: chain, object.base)

/-- One turn of the walk below a root, with the variants found so far, the last one first. -/
def variantsTurn (model : Model) (root : SchemaId) (hierarchy : String) :
    List SchemaId × List Variant × List SchemaId →
      Turn (List SchemaId × List Variant × List SchemaId) (Except ModelError (List Variant))
  | (_, found, []) => .stop (.ok found.reverse)
  | (visited, found, id :: pending) =>
      if visited.contains id then .next (visited, found, pending)
      else
        .after (model.objectFor id root) fun object =>
          let value := object.variantValue
          let name := Naming.typeName object.name
          match found.find? (·.value == value) with
          | some first =>
              .stop (.error (.duplicateDiscriminator hierarchy value first.typeName name))
          | none => .next (id :: visited, ⟨id, name, value⟩ :: found, object.derived ++ pending)

theorem unvisited {visited : List SchemaId} (new : ¬ visited.contains current = true) :
    current ∉ visited := fun old => new (List.contains_iff_mem.mpr old)

theorem findRoot_loop {fuel : Nat} {visited : List SchemaId}
    (enough : unseen (fun _ => 1) visited model.schemas < fuel) :
    Loop (model.rootTurn start) (visited, current) (model.findRoot start fuel visited current) := by
  induction fuel generalizing visited current with
  | zero => exact absurd enough (Nat.not_lt_zero _)
  | succ fuel ih =>
      rw [findRoot]
      by_cases old : visited.contains current
      · rw [if_pos old]
        exact .stop (by rw [rootTurn, if_pos old])
      · rw [if_neg old]
        cases found : model.objectFor current start with
        | error e => exact .stop (by rw [rootTurn, if_neg old, found]; rfl)
        | ok object =>
            have paid := unseen_visit (fun _ => 1) (unvisited old) (objectFor_eq_ok found)
            have turn : model.rootTurn start (visited, current) =
                if object.discriminator.isSome then .stop (.ok (some current))
                else
                  match object.base with
                  | some base => .next (current :: visited, base)
                  | none => .stop (.ok none) := by
              rw [rootTurn, if_neg old, found]
              rfl
            rw [ok_bind]
            by_cases declares : object.discriminator.isSome
            · rw [if_pos declares] at turn ⊢
              exact .stop turn
            · rw [if_neg declares] at turn ⊢
              cases link : object.base with
              | none =>
                  rw [link] at turn
                  exact .stop turn
              | some base =>
                  rw [link] at turn
                  exact .next turn (ih (by omega))

theorem collectBases_loop {fuel : Nat} {visited : List SchemaId} {chain : List ObjectType}
    (enough : unseen (fun _ => 1) visited model.schemas < fuel) :
    Loop (model.basesTurn start) (visited, chain, some current)
      ((fun bases => (bases.reverse ++ chain).flatMap (·.properties)) <$>
        model.collectBases start fuel visited current) := by
  induction fuel generalizing visited chain current with
  | zero => exact absurd enough (Nat.not_lt_zero _)
  | succ fuel ih =>
      rw [collectBases]
      by_cases old : visited.contains current
      · rw [if_pos old]
        exact .stop (by rw [basesTurn, if_pos old]; rfl)
      · rw [if_neg old]
        cases found : model.objectFor current start with
        | error e => exact .stop (by rw [basesTurn, if_neg old, found]; rfl)
        | ok object =>
            have paid := unseen_visit (fun _ => 1) (unvisited old) (objectFor_eq_ok found)
            have turn : model.basesTurn start (visited, chain, some current) =
                .next (current :: visited, object :: chain, object.base) := by
              rw [basesTurn, if_neg old, found]
              rfl
            refine .next turn ?_
            rw [ok_bind]
            cases link : object.base with
            | none => exact .stop rfl
            | some base =>
                have rest := @ih base (current :: visited) (object :: chain) (by omega)
                dsimp only
                cases collected : model.collectBases start fuel (current :: visited) base with
                | error e =>
                    rw [collected] at rest
                    exact rest
                | ok bases =>
                    rw [collected] at rest
                    -- the object found first stands last
                    have order : (object :: bases).reverse ++ chain =
                        bases.reverse ++ object :: chain := by simp
                    rw [ok_bind, map_pure, order]
                    exact rest

theorem visitVariants_loop {fuel : Nat} {visited pending : List SchemaId} {found : List Variant}
    (enough : pending.length + unseen derivedCount visited model.schemas ≤ fuel) :
    Loop (model.variantsTurn root hierarchy) (visited, found, pending)
      (model.visitVariants root hierarchy fuel visited found pending) := by
  induction fuel generalizing visited found pending with
  | zero =>
      cases pending with
      | nil => exact .stop rfl
      | cons id pending =>
          rw [List.length_cons] at enough
          omega
  | succ fuel ih =>
      cases pending with
      | nil => exact .stop rfl
      | cons id pending =>
          rw [List.length_cons] at enough
          rw [visitVariants]
          by_cases old : visited.contains id
          · rw [if_pos old]
            exact .next (by rw [variantsTurn, if_pos old]) (ih (by omega))
          · rw [if_neg old]
            cases present : model.objectFor id root with
            | error e => exact .stop (by rw [variantsTurn, if_neg old, present]; rfl)
            | ok object =>
                have paid := unseen_visit derivedCount (unvisited old) (objectFor_eq_ok present)
                simp only [derivedCount] at paid
                rw [ok_bind]
                dsimp only
                cases taken : found.find? (·.value == object.variantValue) with
                | some first =>
                    exact .stop (by
                      rw [variantsTurn, if_neg old, present]
                      simp only [Turn.after, taken])
                | none =>
                    have turn : model.variantsTurn root hierarchy (visited, found, id :: pending) =
                        .next (id :: visited,
                          ⟨id, Naming.typeName object.name, object.variantValue⟩ :: found,
                          object.derived ++ pending) := by
                      rw [variantsTurn, if_neg old, present]
                      simp only [Turn.after, taken]
                    exact .next turn (ih (by rw [List.length_append]; omega))

theorem hierarchyRoot_loop (id : SchemaId) :
    Loop (model.rootTurn id) ([], id) (model.hierarchyRoot id) := by
  apply findRoot_loop
  rw [schemas_count, walkLimit]
  omega

theorem inheritedProperties_loop (id : SchemaId) :
    Loop (model.basesTurn id) ([], [], some id) (model.inheritedProperties id) := by
  have ends := @collectBases_loop model id id (model.walkLimit + 1) [] [] (by
    rw [schemas_count, walkLimit]
    omega)
  simp only [List.append_nil] at ends
  rw [inheritedProperties]
  cases collected : model.collectBases id (model.walkLimit + 1) [] id <;> rw [collected] at ends <;>
    exact ends

theorem variants_loop (root : SchemaId) (object : ObjectType) :
    Loop (model.variantsTurn root object.name) ([root], [], object.derived)
      (model.variants root object) := by
  apply visitVariants_loop
  have seen := unseen_cons_le derivedCount root [] model.schemas
  rw [← derivedLinks_length] at seen
  omega

end ApiContract.Model
