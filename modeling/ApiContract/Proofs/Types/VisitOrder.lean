import ApiContract.Proofs.Plan.Closure
import Mathlib.Logic.Relation

/-!
The variants of a root. The walk that collects them follows links to derived schemas only, and each
variant pays for itself with a schema that has not been visited.
-/

namespace ApiContract.Model

open Relation

variable {model : Model}

/-- An object schema lists another schema as derived from it. -/
def DerivedLink (model : Model) (base id : SchemaId) : Prop :=
  ∃ object, model.schema? base = some (.object object) ∧ id ∈ object.derived

/-- What holds of the pending schemas, and of the variants found so far, is kept by a walk that
visits no schema twice. -/
theorem visitVariants_below {root : SchemaId} {hierarchy : String} {fuel : Nat}
    {visited pending : List SchemaId} {found variants : List Variant}
    (collected : model.visitVariants root hierarchy fuel visited found pending = .ok variants)
    (foundBelow : ∀ variant ∈ found, TransGen model.DerivedLink root variant.schema)
    (pendingBelow : ∀ id ∈ pending, TransGen model.DerivedLink root id) :
    (∀ variant ∈ variants, TransGen model.DerivedLink root variant.schema) ∧
      variants.length ≤ found.length + unseen (fun _ => 1) visited model.schemas := by
  have ended : ∀ {found' : List Variant} {visited' : List SchemaId},
      Except.ok (ε := ModelError) found'.reverse = .ok variants →
      (∀ variant ∈ found', TransGen model.DerivedLink root variant.schema) →
      (∀ variant ∈ variants, TransGen model.DerivedLink root variant.schema) ∧
        variants.length ≤ found'.length + unseen (fun _ => 1) visited' model.schemas := by
    intro found' visited' same below
    cases same
    rw [List.length_reverse]
    exact ⟨fun variant member => below variant (List.mem_reverse.mp member), Nat.le_add_right _ _⟩
  induction fuel generalizing visited found pending with
  | zero => exact ended collected foundBelow
  | succ fuel ih =>
      cases pending with
      | nil => exact ended collected foundBelow
      | cons id pending =>
          obtain ⟨below, later⟩ := List.forall_mem_cons.mp pendingBelow
          rw [visitVariants] at collected
          split at collected
          next => exact ih collected foundBelow later
          next new =>
            obtain ⟨object, present, rest⟩ := bind_eq_ok collected
            have schema := objectFor_eq_ok present
            have unvisited : id ∉ visited := fun old => new (List.contains_iff_mem.mpr old)
            have paid := unseen_visit (fun _ => 1) unvisited schema
            dsimp only at rest
            split at rest
            next => cases rest
            next =>
              have derived : ∀ next ∈ object.derived ++ pending,
                  TransGen model.DerivedLink root next := by
                intro next member
                rcases List.mem_append.mp member with listed | old
                · exact below.tail ⟨object, schema, listed⟩
                · exact later next old
              obtain ⟨each, bounded⟩ := ih rest (List.forall_mem_cons.mpr ⟨below, foundBelow⟩) derived
              refine ⟨each, ?_⟩
              -- the variant found is paid for by its schema, which is now visited
              rw [List.length_cons] at bounded
              omega

variable {root : SchemaId} {object : ObjectType} {variants : List Variant}

theorem variants_below (present : model.schema? root = some (.object object))
    (collected : model.variants root object = .ok variants) :
    (∀ variant ∈ variants, TransGen model.DerivedLink root variant.schema) ∧
      variants.length ≤ model.schemas.length := by
  have direct : ∀ id ∈ object.derived, TransGen model.DerivedLink root id :=
    fun id listed => .single ⟨object, present, listed⟩
  obtain ⟨below, bounded⟩ := visitVariants_below collected (List.forall_mem_nil _) direct
  have visited := unseen_cons_le (fun _ => 1) root [] model.schemas
  rw [schemas_count] at visited
  refine ⟨below, ?_⟩
  rw [List.length_nil] at bounded
  omega

end ApiContract.Model

/-!
The order of variants. A root lists what its links lead to in preorder: each schema at its first
visit, then what it leads to, then what comes after it. The walk itself keeps one list of pending
schemas, so it is compared with the recursive order.
-/

namespace ApiContract.Model

open Relation

variable {model : Model}

def object? (model : Model) (id : SchemaId) : Option ObjectType :=
  (model.schema? id).bind Schema.object?

theorem object?_eq_some {id : SchemaId} {object : ObjectType} :
    model.object? id = some object ↔ model.schema? id = some (.object object) := by
  rw [object?]
  cases model.schema? id with
  | none => simp
  | some schema => cases schema <;> simp [Schema.object?]

/-- What the object behind an id lists as derived from it, nothing where there is no object. -/
def derivedOf (model : Model) (id : SchemaId) : List SchemaId :=
  ((model.object? id).map ObjectType.derived).getD []

theorem derivedOf_object {id : SchemaId} {object : ObjectType}
    (present : model.object? id = some object) : model.derivedOf id = object.derived := by
  rw [derivedOf, present]
  rfl

theorem mem_derivedOf {base id : SchemaId} : id ∈ model.derivedOf base ↔ model.DerivedLink base id := by
  cases present : model.object? base with
  | none =>
      constructor
      · intro member
        simp [derivedOf, present] at member
      · rintro ⟨object, found, -⟩
        rw [object?_eq_some.mpr found] at present
        cases present
  | some object =>
      rw [derivedOf_object present]
      constructor
      · intro listed
        exact ⟨object, object?_eq_some.mp present, listed⟩
      · rintro ⟨other, found, listed⟩
        rw [object?_eq_some.mpr found] at present
        cases present
        exact listed

/-- The order in which a walk first comes to the schemas that some links lead to, given those
visited before: down before on, and never to a schema twice. -/
inductive VisitOrder (model : Model) : List SchemaId → List SchemaId → List SchemaId → Prop where
  | done {visited : List SchemaId} : VisitOrder model visited [] []
  | again {visited links order : List SchemaId} {id : SchemaId} : id ∈ visited →
      VisitOrder model visited links order → VisitOrder model visited (id :: links) order
  | visit {visited links below later : List SchemaId} {id : SchemaId} : id ∉ visited →
      VisitOrder model (id :: visited) (model.derivedOf id) below →
      VisitOrder model (below.reverse ++ id :: visited) links later →
      VisitOrder model visited (id :: links) (id :: below ++ later)

theorem unseen_append_le (count : Schema → Nat) (more seen : List SchemaId)
    (schemas : List (SchemaId × Schema)) :
    unseen count (more ++ seen) schemas ≤ unseen count seen schemas := by
  induction more with
  | nil => exact Nat.le_refl _
  | cons id more ih => exact Nat.le_trans (unseen_cons_le count id (more ++ seen) schemas) ih

namespace VisitOrder

variable {visited links order : List SchemaId}

/-- A walk comes to an end, whatever cycles the links form. -/
theorem exists_order (visited links : List SchemaId) :
    ∃ order, model.VisitOrder visited links order := by
  have bounded : ∀ limit visited links, unseen (fun _ => 1) visited model.schemas ≤ limit →
      ∃ order, model.VisitOrder visited links order := by
    intro limit
    induction limit using Nat.strongRecOn with
    | ind limit ih =>
        intro visited links
        induction links generalizing visited with
        | nil => exact fun _ => ⟨[], .done⟩
        | cons id links others =>
            intro within
            by_cases old : id ∈ visited
            · obtain ⟨order, walk⟩ := others visited within
              exact ⟨order, .again old walk⟩
            · -- below an object there is one schema less to come to
              have down : ∃ below, model.VisitOrder (id :: visited) (model.derivedOf id) below := by
                cases present : model.object? id with
                | none => exact ⟨[], by simpa [derivedOf, present] using .done⟩
                | some object =>
                    have paid := unseen_visit (fun _ => 1) old (object?_eq_some.mp present)
                    exact ih (unseen (fun _ => 1) (id :: visited) model.schemas) (by omega) _ _
                      (Nat.le_refl _)
              obtain ⟨below, walk⟩ := down
              have grown := unseen_append_le (fun _ => 1) (below.reverse ++ [id]) visited model.schemas
              rw [List.append_assoc, List.singleton_append] at grown
              obtain ⟨later, walk'⟩ := others _ (Nat.le_trans grown within)
              exact ⟨_, .visit old walk walk'⟩
  exact bounded _ visited links (Nat.le_refl _)

/-- The order is determined by the links. -/
theorem unique (walk : model.VisitOrder visited links order) {order' : List SchemaId}
    (walk' : model.VisitOrder visited links order') : order' = order := by
  induction walk generalizing order' with
  | done =>
      cases walk'
      rfl
  | again old _ ih =>
      cases walk' with
      | again _ walk' => exact ih walk'
      | visit new => exact absurd old new
  | visit new _ _ ihBelow ihLater =>
      cases walk' with
      | again old => exact absurd old new
      | visit _ below later =>
          cases ihBelow below
          cases ihLater later
          rfl

theorem fresh (walk : model.VisitOrder visited links order) :
    order.Nodup ∧ ∀ id ∈ order, id ∉ visited := by
  induction walk with
  | done => simp
  | again _ _ ih => exact ih
  | @visit visited links below later id new _ _ ihBelow ihLater =>
      obtain ⟨belowOnce, belowNew⟩ := ihBelow
      obtain ⟨laterOnce, laterNew⟩ := ihLater
      constructor
      · rw [List.cons_append, List.nodup_cons, List.nodup_append]
        refine ⟨fun again => ?_, belowOnce, laterOnce, ?_⟩
        · rcases List.mem_append.mp again with inBelow | inLater
          · exact belowNew id inBelow List.mem_cons_self
          · exact laterNew id inLater (by simp)
        · rintro other inBelow _ inLater rfl
          exact laterNew other inLater (by simp [inBelow])
      · intro other member
        rw [List.cons_append, List.mem_cons, List.mem_append] at member
        rcases member with rfl | inBelow | inLater
        · exact new
        · exact fun old => belowNew other inBelow (List.mem_cons_of_mem _ old)
        · exact fun old => laterNew other inLater (by simp [old])

/-- What a walk comes to leads only to what it comes to, or to what was visited before. -/
theorem closed (walk : model.VisitOrder visited links order) :
    (∀ id ∈ links, id ∈ order ∨ id ∈ visited) ∧
      ∀ id ∈ order, ∀ next ∈ model.derivedOf id, next ∈ order ∨ next ∈ visited := by
  induction walk with
  | done => simp
  | again old _ ih =>
      refine ⟨fun id member => ?_, ih.2⟩
      rcases List.mem_cons.mp member with rfl | later
      · exact .inr old
      · exact ih.1 id later
  | @visit visited links below later id new _ _ ihBelow ihLater =>
      have settled : ∀ next, next ∈ below ∨ next ∈ id :: visited →
          next ∈ id :: below ++ later ∨ next ∈ visited := by
        intro next known
        simp only [List.cons_append, List.mem_cons, List.mem_append] at known ⊢
        tauto
      have settled' : ∀ next, next ∈ later ∨ next ∈ below.reverse ++ id :: visited →
          next ∈ id :: below ++ later ∨ next ∈ visited := by
        intro next known
        simp only [List.cons_append, List.mem_cons, List.mem_append, List.mem_reverse] at known ⊢
        tauto
      constructor
      · intro link member
        rcases List.mem_cons.mp member with rfl | other
        · exact .inl (by simp)
        · exact settled' link (ihLater.1 link other)
      · intro other member next derived
        rw [List.cons_append, List.mem_cons, List.mem_append] at member
        rcases member with rfl | inBelow | inLater
        · exact settled next (ihBelow.1 next derived)
        · exact settled next (ihBelow.2 other inBelow next derived)
        · exact settled' next (ihLater.2 other inLater next derived)

theorem reached (walk : model.VisitOrder visited links order) {start : SchemaId}
    (from_ : ∀ id ∈ links, TransGen model.DerivedLink start id) :
    ∀ id ∈ order, TransGen model.DerivedLink start id := by
  induction walk with
  | done => simp
  | again _ _ ih => exact ih fun id member => from_ id (List.mem_cons_of_mem _ member)
  | @visit visited links below later id _ _ _ ihBelow ihLater =>
      have here := from_ id List.mem_cons_self
      intro other member
      rw [List.cons_append, List.mem_cons, List.mem_append] at member
      rcases member with rfl | inBelow | inLater
      · exact here
      · exact ihBelow (fun next derived => here.tail (mem_derivedOf.mp derived)) other inBelow
      · exact ihLater (fun next listed => from_ next (List.mem_cons_of_mem _ listed)) other inLater

end VisitOrder

/-- A schema below a root: links lead to it, and it is not the root itself. -/
def Below (model : Model) (root id : SchemaId) : Prop :=
  id ≠ root ∧ TransGen model.DerivedLink root id

/-- The walk below a root comes to all that is below it. -/
theorem VisitOrder.mem_iff {root : SchemaId} {object : ObjectType} {order : List SchemaId}
    (present : model.schema? root = some (.object object))
    (walk : model.VisitOrder [root] object.derived order) (id : SchemaId) :
    id ∈ order ↔ model.Below root id := by
  have rootLinks : model.derivedOf root = object.derived :=
    derivedOf_object (object?_eq_some.mpr present)
  constructor
  · intro member
    refine ⟨fun same => walk.fresh.2 id member (by simp [same]), ?_⟩
    exact walk.reached (fun next listed => .single ⟨object, present, listed⟩) id member
  · rintro ⟨other, path⟩
    -- a path may come back to the root, whose links are known too
    have known : id ∈ order ∨ id ∈ [root] := by
      induction path with
      | single link => exact walk.closed.1 _ (rootLinks ▸ mem_derivedOf.mpr link)
      | @tail between next _ link ih =>
          by_cases back : between = root
          · subst back
            exact walk.closed.1 _ (rootLinks ▸ mem_derivedOf.mpr link)
          · rcases ih back with inside | visited
            · exact walk.closed.2 _ inside _ (mem_derivedOf.mpr link)
            · exact absurd (List.mem_singleton.mp visited) back
    rcases known with inside | visited
    · exact inside
    · exact absurd (List.mem_singleton.mp visited) other

end ApiContract.Model
