import ApiContract.Proofs.Memo.Plans
import ApiContract.Proofs.Plan.Roles
import ApiContract.Proofs.Value.Entries
import Mathlib.Algebra.GroupWithZero.Nat

/-!
The closure of an object under the content of elements. A walk that visits no schema twice pays for
each visit out of the schemas it has not seen yet, and so does the work list: an object that is
planned pays for all objects it refers to. The limit therefore never cuts the closure short.
-/

namespace ApiContract.Model

variable {model : Model}

/-- What the schemas that have not been seen count together. -/
def unseen (count : Schema → Nat) (seen : List SchemaId) : List (SchemaId × Schema) → Nat
  | [] => 0
  | entry :: rest => (if entry.1 ∈ seen then 0 else count entry.2) + unseen count seen rest

theorem unseen_cons (count : Schema → Nat) (seen : List SchemaId) (entry : SchemaId × Schema)
    (rest : List (SchemaId × Schema)) : unseen count seen (entry :: rest) =
      (if entry.1 ∈ seen then 0 else count entry.2) + unseen count seen rest := rfl

theorem unseen_cons_le (count : Schema → Nat) (id : SchemaId) (seen : List SchemaId)
    (schemas : List (SchemaId × Schema)) :
    unseen count (id :: seen) schemas ≤ unseen count seen schemas := by
  induction schemas with
  | nil => exact Nat.le_refl 0
  | cons entry rest ih =>
      rw [unseen_cons, unseen_cons]
      refine Nat.add_le_add ?_ ih
      split
      next => exact Nat.zero_le _
      next new =>
        rw [if_neg fun old => new (List.mem_cons_of_mem _ old)]

/-- A schema pays once, at its first visit. -/
theorem unseen_visit (count : Schema → Nat) {id : SchemaId} {seen : List SchemaId}
    {schemas : List (SchemaId × Schema)} {schema : Schema} (fresh : id ∉ seen)
    (found : schemas.lookup id = some schema) :
    count schema + unseen count (id :: seen) schemas ≤ unseen count seen schemas := by
  induction schemas with
  | nil => cases found
  | cons entry rest ih =>
      rw [lookup_cons_if] at found
      rw [unseen_cons, unseen_cons]
      split at found
      next same =>
        cases found
        have less := unseen_cons_le count id seen rest
        rw [if_pos (by simp [same]), if_neg (same ▸ fresh)]
        omega
      next other =>
        have less := ih found
        have known : entry.1 ∈ id :: seen ↔ entry.1 ∈ seen := by simp [Ne.symm other]
        simp only [known]
        omega

/-- The properties that a schema declares. -/
def declaredCount : Schema → Nat
  | .object object => object.properties.length
  | _ => 0

theorem foldl_count {step : Nat → SchemaId × Schema → Nat} {count : Schema → Nat}
    (adds : ∀ total entry, step total entry = total + count entry.2)
    (schemas : List (SchemaId × Schema)) (total : Nat) :
    schemas.foldl step total = total + unseen count [] schemas := by
  induction schemas generalizing total with
  | nil => rfl
  | cons entry rest ih =>
      rw [List.foldl_cons, ih, adds, unseen_cons, if_neg List.not_mem_nil, Nat.add_assoc]

theorem propertyCount_eq : model.propertyCount = unseen declaredCount [] model.schemas := by
  rw [propertyCount, @foldl_count _ declaredCount, Nat.zero_add]
  rintro total ⟨id, schema⟩
  cases schema <;> rfl

theorem schemas_count (schemas : List (SchemaId × Schema)) :
    unseen (fun _ => 1) [] schemas = schemas.length := by
  induction schemas with
  | nil => rfl
  | cons entry rest ih => rw [unseen_cons, ih, if_neg List.not_mem_nil, List.length_cons, Nat.add_comm]

theorem collectBases_le {start : SchemaId} {fuel : Nat} {visited : List SchemaId}
    {current : SchemaId} {objects : List ObjectType}
    (collected : model.collectBases start fuel visited current = .ok objects) :
    (objects.map fun object => object.properties.length).sum ≤
      unseen declaredCount visited model.schemas := by
  induction fuel generalizing visited current objects with
  | zero =>
      cases collected
      exact Nat.zero_le _
  | succ fuel ih =>
      rw [collectBases] at collected
      split at collected
      next =>
        cases collected
        exact Nat.zero_le _
      next new =>
        obtain ⟨object, found, rest⟩ := bind_eq_ok collected
        have fresh : current ∉ visited := fun old => new (List.contains_iff_mem.mpr old)
        have visit := @unseen_visit declaredCount _ visited _ _ fresh (objectFor_eq_ok found)
        simp only [declaredCount] at visit
        split at rest
        next base _ =>
          obtain ⟨bases, collected', same⟩ := bind_eq_ok rest
          cases same
          have others := ih collected'
          rw [List.map_cons, List.sum_cons]
          omega
        next =>
          cases rest
          rw [List.map_singleton, List.sum_singleton]
          omega

theorem inheritedProperties_le {id : SchemaId} {properties : List Property}
    (inherited : model.inheritedProperties id = .ok properties) :
    properties.length ≤ model.propertyCount := by
  obtain ⟨bases, collected, same⟩ := bind_eq_ok inherited
  cases same
  have bounded := collectBases_le collected
  rw [propertyCount_eq, List.length_flatMap, List.map_reverse, List.sum_reverse]
  exact bounded

theorem placeProperty_le {id : SchemaId} {owner : String} {plan placed : ElementPlan}
    {property : Property} (placedOk : model.placeProperty id owner plan property = .ok placed) :
    placed.children.length ≤ plan.children.length + 1 := by
  rw [placeProperty] at placedOk
  split at placedOk
  next =>
    obtain ⟨kind, -, rest⟩ := bind_eq_ok placedOk
    cases kind with
    | none => cases rest
    | some kind =>
        dsimp only at rest
        split at rest
        next =>
          split at rest
          next => cases rest
          next => cases rest; exact Nat.le_succ _
        next => cases rest; exact Nat.le_succ _
  next =>
    obtain ⟨content, -, rest⟩ := bind_eq_ok placedOk
    cases rest
    simp

theorem placeProperties_le {id : SchemaId} {owner : String} {properties : List Property}
    {plan placed : ElementPlan}
    (placedOk : properties.foldlM (model.placeProperty id owner) plan = .ok placed) :
    placed.children.length ≤ plan.children.length + properties.length := by
  induction properties generalizing plan with
  | nil => cases placedOk; exact Nat.le_refl _
  | cons property rest ih =>
      rw [List.foldlM_cons] at placedOk
      obtain ⟨next, first, others⟩ := bind_eq_ok placedOk
      have := placeProperty_le first
      have := ih others
      rw [List.length_cons]
      omega

theorem linkedModels_le (plan : ElementPlan) :
    (linkedModels (.element plan)).length ≤ plan.children.length := by
  have single : ∀ content, (ItemContent.models content).length ≤ 1 := fun content => by
    cases content <;> simp [ItemContent.models]
  have one : ∀ content, (ChildContent.models content).length ≤ 1 := fun content => by
    cases content <;> exact single _
  -- Each child refers to one object at most.
  rw [linkedModels]
  induction plan.children with
  | nil => exact Nat.le_refl 0
  | cons child rest ih =>
      have := one child.content
      rw [List.flatMap_cons, List.length_append, List.length_cons]
      omega

/-- An object that is planned is one of the schemas, and refers to at most as many objects as the
model has properties. -/
theorem elementPlan_eq_ok {id : SchemaId} {plan : ElementPlan}
    (planned : model.elementPlan id = .ok plan) :
    (∃ object, model.schema? id = some (.object object)) ∧
      (linkedModels (.element plan)).length ≤ model.propertyCount := by
  obtain ⟨schema, found, rest⟩ := bind_eq_ok planned
  have found' := schemaFor_eq_ok found
  cases schema with
  | object object =>
      refine ⟨⟨object, found'⟩, ?_⟩
      obtain ⟨root, -, rest'⟩ := bind_eq_ok rest
      split at rest'
      next => cases rest'
      next =>
        obtain ⟨properties, inherited, placed⟩ := bind_eq_ok rest'
        have bounded := placeProperties_le placed
        have limited := inheritedProperties_le inherited
        have linked := linkedModels_le plan
        rw [List.length_nil] at bounded
        omega
  | _ => cases rest

theorem planOf_xml {id : SchemaId} {plan : WirePlan} (planned : model.planOf id .xml = .ok plan) :
    ∃ element, plan = .element element ∧ model.elementPlan id = .ok element := by
  rw [planOf_eq, makePlan, Planning.fresh_lift] at planned
  obtain ⟨element, made, same⟩ := map_eq_ok planned
  exact ⟨element, same.symm, made⟩

/-- A schema has an XML plan, and all objects it refers to are in the list. -/
def PlannedInto (model : Model) (known : List SchemaId) (id : SchemaId) : Prop :=
  ∃ plan, model.planOf id .xml = .ok (.element plan) ∧ linkedModels (.element plan) ⊆ known

theorem PlannedInto.mono {known more : List SchemaId} {id : SchemaId} (subset : known ⊆ more)
    (planned : model.PlannedInto known id) : model.PlannedInto more id := by
  obtain ⟨plan, made, links⟩ := planned
  exact ⟨plan, made, fun linked member => subset (links member)⟩

/-- The work list with the first pending schema taken off holds all that it held, if the schema was
seen before. -/
theorem subset_skip {id : SchemaId} {seen pending : List SchemaId} (old : id ∈ seen) :
    seen ++ id :: pending ⊆ seen ++ pending := by
  intro other member
  rcases List.mem_append.mp member with inside | inside
  · exact List.mem_append_left _ inside
  · rcases List.mem_cons.mp inside with same | later
    · exact List.mem_append_left _ (same ▸ old)
    · exact List.mem_append_right _ later

/-- When a pending schema moves to the seen ones, and what it leads to becomes pending, nothing is
lost, and every schema seen leads into the work list again. -/
theorem visit_leads (into : List SchemaId → SchemaId → Prop)
    (mono : ∀ {known more id}, known ⊆ more → into known id → into more id)
    {id : SchemaId} {seen pending links : List SchemaId} (own : into links id)
    (known : ∀ other ∈ seen, into (seen ++ id :: pending) other) :
    seen ++ id :: pending ⊆ (id :: seen) ++ (links.reverse ++ pending) ∧
      ∀ other ∈ id :: seen, into ((id :: seen) ++ (links.reverse ++ pending)) other := by
  have moved : seen ++ id :: pending ⊆ (id :: seen) ++ (links.reverse ++ pending) := by
    intro other member
    simp only [List.mem_append, List.mem_cons] at member ⊢
    tauto
  have entered : links ⊆ (id :: seen) ++ (links.reverse ++ pending) := by
    intro other member
    simp [member]
  refine ⟨moved, fun other member => ?_⟩
  rcases List.mem_cons.mp member with same | before
  · rw [same]
    exact mono entered own
  · exact mono moved (known other before)

/-- A schema that is planned moves to the seen ones, and what it refers to becomes pending. -/
theorem plannedInto_visit {id : SchemaId} {seen pending : List SchemaId} {element : ElementPlan}
    (planned : model.planOf id .xml = .ok (.element element))
    (known : ∀ other ∈ seen, model.PlannedInto (seen ++ id :: pending) other) :
    seen ++ id :: pending ⊆
        (id :: seen) ++ ((linkedModels (.element element)).reverse ++ pending) ∧
      ∀ other ∈ id :: seen, model.PlannedInto
        ((id :: seen) ++ ((linkedModels (.element element)).reverse ++ pending)) other :=
  visit_leads model.PlannedInto PlannedInto.mono ⟨element, planned, List.Subset.refl _⟩ known

/-- With enough fuel the work list is emptied: what was seen or pending is in the result, which is
closed under links. -/
theorem closeXml_closed {fuel : Nat} {seen pending closure : List SchemaId}
    (enough : pending.length + model.propertyCount * unseen (fun _ => 1) seen model.schemas ≤ fuel)
    (known : ∀ id ∈ seen, model.PlannedInto (seen ++ pending) id)
    (closed : (model.closeXml fuel seen pending).fresh = .ok closure) :
    seen ++ pending ⊆ closure ∧ ∀ id ∈ closure, model.PlannedInto closure id := by
  -- The fuel pays for the pending schemas and for the links of all schemas not seen yet.
  induction fuel generalizing seen pending with
  | zero =>
      have none : pending = [] := List.length_eq_zero_iff.mp (by omega)
      subst none
      cases closed
      rw [List.append_nil] at known ⊢
      exact ⟨List.Subset.refl _, known⟩
  | succ fuel ih =>
      cases pending with
      | nil =>
          cases closed
          rw [List.append_nil] at known ⊢
          exact ⟨List.Subset.refl _, known⟩
      | cons id pending =>
          rw [List.length_cons] at enough
          rw [closeXml] at closed
          split at closed
          next old =>
            have subset := @subset_skip id seen pending (List.contains_iff_mem.mp old)
            obtain ⟨within, each⟩ := ih (by omega)
              (fun other member => (known other member).mono subset) closed
            exact ⟨List.Subset.trans subset within, each⟩
          next new =>
            have fresh : id ∉ seen := fun old => new (List.contains_iff_mem.mpr old)
            rw [Planning.fresh_bind] at closed
            obtain ⟨plan, planned, rest⟩ := bind_eq_ok closed
            obtain ⟨element, same, made⟩ := planOf_xml planned
            subst same
            obtain ⟨⟨object, found⟩, links⟩ := elementPlan_eq_ok made
            have paid := unseen_visit (fun _ => 1) fresh found
            have cost := Nat.mul_le_mul_left model.propertyCount paid
            rw [Nat.mul_add, Nat.mul_one] at cost
            have enough' : ((linkedModels (.element element)).reverse ++ pending).length +
                model.propertyCount * unseen (fun _ => 1) (id :: seen) model.schemas ≤ fuel := by
              rw [List.length_append, List.length_reverse]
              omega
            obtain ⟨moved, known'⟩ := plannedInto_visit planned known
            obtain ⟨within, each⟩ := ih enough' known' rest
            exact ⟨List.Subset.trans moved within, each⟩

/-- The objects that an object leads to through the content of elements, itself among them. -/
inductive XmlReachable (model : Model) (root : SchemaId) : SchemaId → Prop
  | root : XmlReachable model root root
  | next {schema linked : SchemaId} {plan : WirePlan} : XmlReachable model root schema →
      model.planOf schema .xml = .ok plan → linked ∈ linkedModels plan →
      XmlReachable model root linked

section Reached
variable {root : SchemaId} {fuel : Nat} {seen pending closure : List SchemaId}

/-- What is pending after a visit is reachable if what was pending before is. -/
theorem pending_reached {id : SchemaId} {plan : WirePlan}
    (pendingReached : ∀ other ∈ id :: pending, model.XmlReachable root other)
    (planned : model.planOf id .xml = .ok plan) :
    ∀ other ∈ (linkedModels plan).reverse ++ pending, model.XmlReachable root other := by
  intro other member
  rcases List.mem_append.mp member with linked | later
  · have here := pendingReached id List.mem_cons_self
    exact .next here planned (List.mem_reverse.mp linked)
  · exact pendingReached other (List.mem_cons_of_mem _ later)

/-- The work list takes up nothing that is not reachable. -/
theorem closeXml_reached (seenReached : ∀ id ∈ seen, model.XmlReachable root id)
    (pendingReached : ∀ id ∈ pending, model.XmlReachable root id)
    (closed : (model.closeXml fuel seen pending).fresh = .ok closure) :
    ∀ id ∈ closure, model.XmlReachable root id := by
  induction fuel generalizing seen pending with
  | zero =>
      cases closed
      exact seenReached
  | succ fuel ih =>
      cases pending with
      | nil =>
          cases closed
          exact seenReached
      | cons id pending =>
          rw [closeXml] at closed
          split at closed
          next =>
            have fewer := fun other later => pendingReached other (List.mem_cons_of_mem id later)
            exact ih seenReached fewer closed
          next =>
            rw [Planning.fresh_bind] at closed
            obtain ⟨plan, planned, rest⟩ := bind_eq_ok closed
            have seenReached' : ∀ other ∈ id :: seen, model.XmlReachable root other :=
              List.forall_mem_cons.mpr ⟨pendingReached id List.mem_cons_self, seenReached⟩
            exact ih seenReached' (pending_reached pendingReached planned) rest

/-- The work list stops at nothing if everything reachable has an XML plan. -/
theorem closeXml_ends
    (planned : ∀ id, model.XmlReachable root id → ∃ plan, model.planOf id .xml = .ok (.element plan))
    (pendingReached : ∀ id ∈ pending, model.XmlReachable root id) :
    ∃ closure, (model.closeXml fuel seen pending).fresh = .ok closure := by
  induction fuel generalizing seen pending with
  | zero => exact ⟨seen, rfl⟩
  | succ fuel ih =>
      cases pending with
      | nil => exact ⟨seen, rfl⟩
      | cons id pending =>
          rw [closeXml]
          split
          next => exact ih fun other later => pendingReached other (List.mem_cons_of_mem id later)
          next =>
            obtain ⟨plan, made⟩ := planned id (pendingReached id List.mem_cons_self)
            have made' : (model.plan id .xml).fresh = .ok (.element plan) := made
            rw [Planning.fresh_bind, made', ok_bind]
            exact ih (pending_reached pendingReached made)

end Reached

/-- With the limit of the closure, the work list is closed under links from the root on. -/
theorem closeXml_limit {root : SchemaId} {closure : List SchemaId}
    (closed : (model.closeXml (model.walkLimit * model.propertyCount + 1) [] [root]).fresh =
      .ok closure) : root ∈ closure ∧ ∀ id ∈ closure, model.PlannedInto closure id := by
  have enough : [root].length + model.propertyCount * unseen (fun _ => 1) [] model.schemas ≤
      model.walkLimit * model.propertyCount + 1 := by
    rw [schemas_count, walkLimit, Nat.mul_comm, Nat.add_mul]
    simp only [List.length_singleton]
    omega
  obtain ⟨within, each⟩ := closeXml_closed enough (List.forall_mem_nil _) closed
  exact ⟨within (by simp), each⟩

/-- What is closed under links and holds the root, holds everything reachable. -/
theorem XmlReachable.mem {root schema : SchemaId} (reachable : model.XmlReachable root schema)
    {closure : List SchemaId} (start : root ∈ closure)
    (each : ∀ id ∈ closure, model.PlannedInto closure id) : schema ∈ closure := by
  induction reachable with
  | root => exact start
  | next _ planned member ih =>
      obtain ⟨plan, made, links⟩ := each _ ih
      rw [planned] at made
      cases made
      exact links member

/-- Where the closure succeeds, everything reachable has an XML plan. -/
theorem planned_of_closure {root : SchemaId} {ids : List SchemaId}
    (closed : (model.xmlClosure root).fresh = .ok ids) {schema : SchemaId}
    (reachable : model.XmlReachable root schema) :
    ∃ plan, model.planOf schema .xml = .ok (.element plan) := by
  rw [xmlClosure, Planning.fresh_bind] at closed
  obtain ⟨closure, closed', -⟩ := bind_eq_ok closed
  obtain ⟨start, each⟩ := closeXml_limit closed'
  obtain ⟨plan, made, -⟩ := each schema (reachable.mem start each)
  exact ⟨plan, made⟩

theorem closure_of_planned {root : SchemaId}
    (planned : ∀ id, model.XmlReachable root id →
      ∃ plan, model.planOf id .xml = .ok (.element plan)) :
    ∃ ids, (model.xmlClosure root).fresh = .ok ids := by
  have start : ∀ id ∈ [root], model.XmlReachable root id := by
    intro id member
    rw [List.mem_singleton.mp member]
    exact .root
  obtain ⟨closure, closed⟩ := closeXml_ends planned start
  exact ⟨_, by rw [xmlClosure, Planning.fresh_bind, closed]; rfl⟩

/-- The closure is what is reachable, in order and each once. -/
theorem mem_closure {root : SchemaId} {ids : List SchemaId}
    (closed : (model.xmlClosure root).fresh = .ok ids) :
    ids.Pairwise (· < ·) ∧ ∀ id, id ∈ ids ↔ model.XmlReachable root id := by
  rw [xmlClosure, Planning.fresh_bind] at closed
  obtain ⟨closure, closed', same⟩ := bind_eq_ok closed
  cases same
  obtain ⟨start, each⟩ := closeXml_limit closed'
  obtain ⟨ascending, members⟩ := collected_keys closure
  refine ⟨ascending, fun id => (members id).trans ⟨fun inside => ?_, fun reachable => ?_⟩⟩
  · have start : ∀ id ∈ [root], model.XmlReachable root id := by
      intro id member
      rw [List.mem_singleton.mp member]
      exact .root
    exact closeXml_reached (List.forall_mem_nil _) start closed' id inside
  · exact reachable.mem start each

end ApiContract.Model
