import ApiContract.Proofs.Plan.References
import ApiContract.Proofs.Types.Lineage

/-!
Circles of arrays and dictionaries. Nothing guards the recursion into elements and values, so it
comes to its end exactly where the links from a schema do not run into a circle; a recursion that is
cut off says so with an error of its own.
-/

namespace ApiContract

variable {α β : Type}

/-- The result of a recursion that was not cut off: a value, or an error of the model. -/
def Ended (result : Except ModelError α) : Prop :=
  ∀ id, result ≠ .error (.endlessNesting id)

namespace Ended

theorem ok (a : α) : Ended (.ok a) := fun _ same => by cases same

theorem bind {result : Except ModelError α} {next : α → Except ModelError β}
    (first : Ended result) (rest : ∀ a, result = .ok a → Ended (next a)) :
    Ended (result >>= next) := by
  intro id failed
  rcases bind_eq_error failed with here | ⟨a, found, later⟩
  · exact first id here
  · exact rest a found id later

theorem map {result : Except ModelError α} (ended : Ended result) (f : α → β) :
    Ended (f <$> result) := by
  rw [map_eq_pure_bind]
  exact ended.bind fun a _ => .ok (f a)

theorem of_map {result : Except ModelError α} {f : α → β} (ended : Ended (f <$> result)) :
    Ended result := by
  intro id failed
  rw [failed] at ended
  exact ended id rfl

theorem mapM {f : α → Except ModelError β} {items : List α}
    (each : ∀ item ∈ items, Ended (f item)) : Ended (items.mapM f) := by
  induction items with
  | nil => exact .ok []
  | cons item rest ih =>
      rw [List.mapM_cons]
      apply (each item List.mem_cons_self).bind
      intro first _
      apply (ih fun other member => each other (List.mem_cons_of_mem _ member)).bind
      exact fun others _ => .ok (first :: others)

end Ended

namespace Model

open Planning Relation

variable {model : Model} {id next : SchemaId} {referrer : String}

/-- An array leads to the schema of its elements, a dictionary to that of its values. -/
def ElementLink (model : Model) (id next : SchemaId) : Prop :=
  model.schema? id = some (.array next) ∨ model.schema? id = some (.dictionary next)

/-- The links from a schema lead into a circle. -/
def EntersCircle (model : Model) (id : SchemaId) : Prop :=
  ∃ other, ReflTransGen model.ElementLink id other ∧ TransGen model.ElementLink other other

theorem ElementLink.unique {other : SchemaId} (link : model.ElementLink id next)
    (link' : model.ElementLink id other) : other = next := by
  rcases link with found | found <;> rcases link' with found' | found' <;>
    cases found.symm.trans found' <;> rfl

theorem ElementLink.typeLink? (link : model.ElementLink id next) :
    model.typeLink? id = some next := by
  rcases link with found | found <;> simp [Model.typeLink?, found]

namespace EntersCircle

theorem link (enters : model.EntersCircle id) : ∃ next, model.ElementLink id next := by
  obtain ⟨other, path, circle⟩ := enters
  rcases path.cases_head with rfl | ⟨next, link, -⟩
  · obtain ⟨next, link, -⟩ := TransGen.head'_iff.mp circle
    exact ⟨next, link⟩
  · exact ⟨next, link⟩

theorem step (link : model.ElementLink id next) :
    model.EntersCircle id ↔ model.EntersCircle next := by
  constructor
  · rintro ⟨other, path, circle⟩
    rcases path.cases_head with rfl | ⟨between, first, rest⟩
    · obtain ⟨between, first, rest⟩ := TransGen.head'_iff.mp circle
      cases link.unique first
      exact ⟨id, rest, circle⟩
    · cases link.unique first
      exact ⟨other, rest, circle⟩
  · rintro ⟨other, path, circle⟩
    exact ⟨other, path.head link, circle⟩

end EntersCircle

/-- An object leads into no circle. -/
theorem IsObject.not_entersCircle (isObject : model.IsObject id) : ¬ model.EntersCircle id := by
  intro enters
  obtain ⟨object, present⟩ := isObject
  obtain ⟨next, found | found⟩ := enters.link <;> cases present.symm.trans found

theorem Ends.not_entersCircle {count : Nat} (ends : model.Ends id count) :
    ¬ model.EntersCircle id := by
  induction ends with
  | here closed =>
      intro enters
      obtain ⟨next, link⟩ := enters.link
      cases closed.symm.trans link.typeLink?
  | next linked _ ih =>
      intro enters
      obtain ⟨next, link⟩ := enters.link
      cases linked.symm.trans link.typeLink?
      exact ih ((EntersCircle.step link).mp enters)

/-- A root is checked with no other type. -/
theorem typeLink?_object {root : SchemaId} {object : ObjectType}
    (present : model.schema? id = some (.object object)) (link : model.typeLink? id = some root) :
    model.typeLink? root = none := by
  have walked : model.hierarchyRoot id = .ok (some root) := by
    simp only [typeLink?, present] at link
    split at link
    next => cases link
    next =>
      split at link
      next found => rw [found, link]
      next => cases link
  obtain ⟨levels, rooted⟩ := hierarchyRoot_eq_some.mp walked
  obtain ⟨declared, wireName, rootPresent, declares⟩ := rooted.declares
  simp [typeLink?, rootPresent, declares]

-- What was visited leads to the schema, so the schema is a new one or on a circle.
theorem ends_of_not_entersCircle {visited : List SchemaId}
    (leads : ∀ other ∈ visited, TransGen model.ElementLink other id)
    (free : ¬ model.EntersCircle id) : ∃ count, model.Ends id count := by
  induction limit : unseen (fun _ => 1) visited model.schemas using Nat.strongRecOn
    generalizing visited id with
  | ind limit ih =>
      have fresh : id ∉ visited := fun old => free ⟨id, .refl, leads id old⟩
      cases link : model.typeLink? id with
      | none => exact ⟨0, .here link⟩
      | some next =>
          cases found : model.schema? id with
          | none => simp [typeLink?, found] at link
          | some schema =>
              by_cases element : model.ElementLink id next
              · have paid := unseen_visit (fun _ => 1) fresh found
                have leads' : ∀ other ∈ id :: visited, TransGen model.ElementLink other next := by
                  intro other member
                  rcases List.mem_cons.mp member with rfl | old
                  · exact .single element
                  · exact (leads other old).tail element
                obtain ⟨count, ends⟩ := ih _ (by omega) leads'
                  (fun enters => free ((EntersCircle.step element).mpr enters)) rfl
                exact ⟨count + 1, .next link ends⟩
              · cases schema with
                | object object => exact ⟨1, .next link (.here (typeLink?_object found link))⟩
                | _ => simp [typeLink?, found, ElementLink] at link element <;> simp_all

/-- The links from a schema come to an end exactly if they lead into no circle. -/
theorem ends_iff : (∃ count, model.Ends id count) ↔ ¬ model.EntersCircle id :=
  ⟨fun ⟨_, ends⟩ => ends.not_entersCircle, ends_of_not_entersCircle (List.forall_mem_nil _)⟩

/-! The walks over hierarchies are guarded. -/

theorem ended_schemaFor : Ended (model.schemaFor id referrer) := by
  intro other failed
  rw [schemaFor] at failed
  split at failed <;> cases failed

theorem ended_objectFor : Ended (model.objectFor id referrer) := by
  apply ended_schemaFor.bind
  intro schema _ other failed
  cases schema <;> cases failed

theorem ended_findRoot {start : SchemaId} {fuel : Nat} {visited : List SchemaId} :
    Ended (model.findRoot start fuel visited id) := by
  induction fuel generalizing visited id with
  | zero => exact .ok _
  | succ fuel ih =>
      rw [findRoot]
      split
      next => exact .ok _
      next =>
        apply ended_objectFor.bind
        intro object _
        split
        next => exact .ok _
        next =>
          split
          next => exact ih
          next => exact .ok _

theorem ended_hierarchyRoot : Ended (model.hierarchyRoot id) := ended_findRoot

theorem ended_collectBases {start : SchemaId} {fuel : Nat} {visited : List SchemaId} :
    Ended (model.collectBases start fuel visited id) := by
  induction fuel generalizing visited id with
  | zero => exact .ok _
  | succ fuel ih =>
      rw [collectBases]
      split
      next => exact .ok _
      next =>
        apply ended_objectFor.bind
        intro object _
        split
        next => exact ih.bind fun bases _ => .ok (object :: bases)
        next => exact .ok _

theorem ended_inheritedProperties : Ended (model.inheritedProperties id) :=
  ended_collectBases.bind fun _ _ => .ok _

theorem ended_visitVariants {root : SchemaId} {hierarchy : String} {fuel : Nat}
    {visited pending : List SchemaId} {found : List Variant} :
    Ended (model.visitVariants root hierarchy fuel visited found pending) := by
  induction fuel generalizing visited found pending with
  | zero => exact .ok _
  | succ fuel ih =>
      cases pending with
      | nil => exact .ok _
      | cons id pending =>
          rw [visitVariants]
          split
          next => exact ih
          next =>
            apply ended_objectFor.bind
            intro object _
            dsimp only
            split
            next =>
              intro other failed
              cases failed
            next => exact ih

/-! Resolution. -/

theorem ended_computeType {resolve : SchemaId → String → Planning ModelError RustType}
    (each : ∀ linked, model.typeLink? id = some linked → ∀ referrer,
      Ended (resolve linked referrer).fresh) :
    Ended (model.computeType resolve id referrer).fresh := by
  cases link : model.typeLink? id with
  | some linked =>
      obtain ⟨wrap, computed⟩ := computeType_linked link
      rw [computed, fresh_bind]
      exact (each linked link id).bind fun type _ => .ok (wrap type)
  | none =>
      cases found : model.schema? id with
      | none =>
          simp only [computeType, schemaFor, found, liftM_error_bind]
          intro other failed
          cases failed
      | some schema =>
          cases schema with
          | array element => simp [typeLink?, found] at link
          | dictionary value => simp [typeLink?, found] at link
          | object object =>
              simp only [computeType, schemaFor, found, liftM_ok_bind, fresh_bind, roleOf]
              cases declared : object.discriminator with
              | some discriminator =>
                  apply Ended.bind _ fun role _ => .ok _
                  rw [fresh_bind, fresh_liftM]
                  exact ended_visitVariants.bind fun variants _ => .ok _
              | none =>
                  apply Ended.bind _ fun role _ => .ok _
                  rw [fresh_bind, fresh_liftM]
                  apply ended_hierarchyRoot.bind
                  intro root walked
                  have none : root = none := by
                    simpa [typeLink?, found, declared, walked] using link
                  subst none
                  exact .ok _
          | _ =>
              simp only [computeType, schemaFor, found, liftM_ok_bind]
              exact .ok _

/-- A recursion that may go as deep as the links from a schema is not cut off. -/
theorem Ends.ended_resolveWithin {count fuel : Nat} (ends : model.Ends id count)
    (enough : count + 1 ≤ fuel) : Ended (model.resolveWithin fuel id referrer).fresh := by
  induction ends generalizing fuel referrer with
  | here closed =>
      obtain ⟨fuel, rfl⟩ := Nat.exists_eq_add_of_le' enough
      rw [fresh_resolveWithin_succ]
      apply ended_computeType
      intro linked link
      cases closed.symm.trans link
  | next link _ ih =>
      obtain ⟨fuel, rfl⟩ := Nat.exists_eq_add_of_le' (Nat.le_trans (Nat.le_add_left 1 _) enough)
      rw [fresh_resolveWithin_succ]
      apply ended_computeType
      intro linked link' referrer
      cases link.symm.trans link'
      exact ih (by omega)

/-- No table holds the type of a schema that leads into a circle, so the recursion is cut off
however deep it may go. -/
theorem EntersCircle.resolveWithin {memo : Memo} (lawful : memo.Obeys model.tableLaw)
    (enters : model.EntersCircle id) (fuel : Nat) :
    ∃ cut, (model.resolveWithin fuel id referrer).run memo =
      (.error (.endlessNesting cut), memo) := by
  induction fuel generalizing id referrer with
  | zero => exact ⟨id, rfl⟩
  | succ fuel ih =>
      obtain ⟨next, link⟩ := enters.link
      have missing : memo.type? ⟨id, false⟩ = none := by
        cases cached : memo.type? ⟨id, false⟩ with
        | none => rfl
        | some used =>
            obtain ⟨type, computed, -⟩ := tableLaw_type (lawful.type _ _ cached)
            obtain ⟨count, ends, -⟩ := ends_of_resolveWithin computed
            exact absurd enters ends.not_entersCircle
      obtain ⟨wrap, computed⟩ := computeType_linked link.typeLink?
      obtain ⟨cut, failed⟩ := @ih next id ((EntersCircle.step link).mp enters)
      refine ⟨cut, ?_⟩
      rw [Model.resolveWithin, Planning.run, missing]
      dsimp only
      rw [computed, run_bind_error (run_bind_error failed)]

end Model

end ApiContract
