import ApiContract.Proofs.Plan.Circles
import ApiContract.Proofs.Types.Walks

/-!
Where planning comes to its end. The walks over hierarchies and the closure of an object end on every
model, since each of them remembers where it was. The recursion into elements and values is not
guarded, and it ends exactly where no circle of arrays and dictionaries is entered.
-/

namespace ApiContract.Model

open Planning Relation

variable {model : Model} {id : SchemaId} {referrer : String}

/-! Value plans. -/

theorem ended_scalarKind : Ended (model.scalarKind id referrer) := by
  apply ended_schemaFor.bind
  intro schema _
  split <;> exact .ok _

/-- What a value plan comes to: a scalar or an object at once, else the plan of the link. -/
theorem valuePlanWithin_succ (fuel : Nat) (id : SchemaId) (referrer : String) :
    (∃ next wrap, model.ElementLink id next ∧
      model.valuePlanWithin (fuel + 1) id referrer = wrap <$> model.valuePlanWithin fuel next id) ∨
    (∀ next, ¬ model.ElementLink id next) ∧
      Ended (model.valuePlanWithin (fuel + 1) id referrer) := by
  rw [valuePlanWithin]
  cases found : model.schema? id with
  | none =>
      refine .inr ⟨?_, ?_⟩
      · rintro next (present | present) <;> cases found.symm.trans present
      · rw [scalarKind, schemaFor, found]
        intro other failed
        cases failed
  | some schema =>
      simp only [scalarKind, schemaFor_of_some found, ok_bind]
      cases schema with
      | array element => exact .inl ⟨element, .list, .inl found, rfl⟩
      | dictionary value => exact .inl ⟨value, .dictionary, .inr found, rfl⟩
      | primitive kind format =>
          refine .inr ⟨?_, ?_⟩
          · rintro next (present | present) <;> cases found.symm.trans present
          · cases kind <;> exact .ok _
      | _ =>
          refine .inr ⟨?_, .ok _⟩
          rintro next (present | present) <;> cases found.symm.trans present

theorem Ends.ended_valuePlanWithin {count fuel : Nat} (ends : model.Ends id count)
    (enough : count + 1 ≤ fuel) : Ended (model.valuePlanWithin fuel id referrer) := by
  induction fuel generalizing id referrer count with
  | zero => omega
  | succ fuel ih =>
      rcases @valuePlanWithin_succ model fuel id referrer with ⟨next, wrap, link, same⟩ | ⟨-, ended⟩
      · cases ends with
        | here closed => cases closed.symm.trans link.typeLink?
        | next linked rest =>
            cases linked.symm.trans link.typeLink?
            rw [same]
            exact (ih rest (by omega)).map wrap
      · exact ended

theorem EntersCircle.valuePlanWithin (enters : model.EntersCircle id) (fuel : Nat) :
    ∃ cut, model.valuePlanWithin fuel id referrer = .error (.endlessNesting cut) := by
  induction fuel generalizing id referrer with
  | zero => exact ⟨id, rfl⟩
  | succ fuel ih =>
      obtain ⟨linked, link⟩ := enters.link
      rcases @valuePlanWithin_succ model fuel id referrer with ⟨next, wrap, link', same⟩ | ⟨none, -⟩
      · obtain ⟨cut, failed⟩ := @ih next id ((EntersCircle.step link').mp enters)
        exact ⟨cut, by rw [same, failed]; rfl⟩
      · exact absurd link (none linked)

theorem ended_valuePlan (free : ¬ model.EntersCircle id) : Ended (model.valuePlan id referrer) := by
  obtain ⟨count, ends⟩ := ends_iff.mpr free
  exact ends.ended_valuePlanWithin (enough_limit id count ends)

/-! XML plans, which nest nothing. -/

theorem ended_itemContent {owner : SchemaId} : Ended (model.itemContent owner id referrer) := by
  apply ended_scalarKind.bind
  intro kind _
  cases kind with
  | some kind => exact .ok _
  | none =>
      apply ended_schemaFor.bind
      intro schema _ other failed
      cases schema <;> cases failed

theorem ended_childContent {owner : SchemaId} {property : Property} {xml : XmlPlacement}
    {name : String} : Ended (model.childContent owner property xml name referrer) := by
  apply ended_schemaFor.bind
  intro schema _
  cases schema <;> exact ended_itemContent.bind fun _ _ => .ok _

theorem ended_placeProperty {owner : String} {plan : ElementPlan} {property : Property} :
    Ended (model.placeProperty id owner plan property) := by
  rw [placeProperty]
  split
  next =>
    apply ended_scalarKind.bind
    intro kind _ other failed
    cases kind with
    | none => cases failed
    | some kind =>
        dsimp only at failed
        split at failed
        next => split at failed <;> cases failed
        next => cases failed
  next => exact ended_childContent.bind fun _ _ => .ok _

theorem ended_placeProperties {owner : String} {plan : ElementPlan} {properties : List Property} :
    Ended (properties.foldlM (model.placeProperty id owner) plan) := by
  induction properties generalizing plan with
  | nil => exact .ok plan
  | cons property rest ih =>
      rw [List.foldlM_cons]
      exact ended_placeProperty.bind fun _ _ => ih

theorem ended_elementPlan : Ended (model.elementPlan id) := by
  apply ended_schemaFor.bind
  intro schema _
  cases schema with
  | object object =>
      apply ended_hierarchyRoot.bind
      intro root _
      split
      next =>
        intro other failed
        cases failed
      next => exact ended_inheritedProperties.bind fun _ _ => ended_placeProperties
  | _ =>
      intro other failed
      cases failed

theorem ended_planOf_xml : Ended (model.planOf id .xml) := by
  rw [planOf_eq, makePlan, fresh_lift]
  exact ended_elementPlan.map _

/-- The ids of a list in order, each of them once. -/
def sortedIds (ids : List SchemaId) : List SchemaId :=
  (ids.foldl (fun sorted id => insertSorted id () sorted) []).map (·.1)

/-- One turn of the closure of an object, from the tables, the objects seen and those pending. -/
def closureTurn (model : Model) :
    Memo × List SchemaId × List SchemaId →
      Turn (Memo × List SchemaId × List SchemaId) (Except ModelError (List SchemaId) × Memo)
  | (memo, seen, []) => .stop (.ok (sortedIds seen), memo)
  | (memo, seen, id :: pending) =>
      if seen.contains id then .next (memo, seen, pending)
      else
        match (model.plan id .xml).run memo with
        | (.ok plan, memo) => .next (memo, id :: seen, (linkedModels plan).reverse ++ pending)
        | (.error e, memo) => .stop (.error e, memo)

-- The fuel pays for the pending objects and for all that the objects not seen yet may lead to.
theorem closeXml_loop {fuel : Nat} {seen pending : List SchemaId} {memo : Memo}
    (lawful : memo.Obeys model.tableLaw)
    (enough : pending.length + model.propertyCount * unseen (fun _ => 1) seen model.schemas ≤ fuel) :
    Loop model.closureTurn (memo, seen, pending)
      ((model.closeXml fuel seen pending >>= fun seen => pure (sortedIds seen)).run memo) := by
  induction fuel generalizing seen pending memo with
  | zero =>
      have none : pending = [] := List.length_eq_zero_iff.mp (by omega)
      subst none
      exact .stop rfl
  | succ fuel ih =>
      cases pending with
      | nil => exact .stop rfl
      | cons id pending =>
          rw [List.length_cons] at enough
          rw [closeXml]
          by_cases old : seen.contains id
          · rw [if_pos old]
            exact .next (by rw [closureTurn, if_pos old]) (ih lawful (by omega))
          · rw [if_neg old]
            obtain ⟨same, lawful'⟩ := (plan_steady id .xml).run lawful
            cases ran : (model.plan id .xml).run memo with
            | mk result memo' =>
                have turn : model.closureTurn (memo, seen, id :: pending) =
                    match (result, memo') with
                    | (.ok plan, memo) =>
                        .next (memo, id :: seen, (linkedModels plan).reverse ++ pending)
                    | (.error e, memo) => .stop (.error e, memo) := by
                  rw [closureTurn, if_neg old, ran]
                rw [ran] at same lawful'
                cases result with
                | error e =>
                    rw [run_bind_error (run_bind_error ran)]
                    exact .stop turn
                | ok plan =>
                    obtain ⟨element, shape, made⟩ := planOf_xml same.symm
                    obtain ⟨⟨object, found⟩, links⟩ := elementPlan_eq_ok made
                    have paid := unseen_visit (fun _ => 1) (unvisited old) found
                    have cost := Nat.mul_le_mul_left model.propertyCount paid
                    rw [Nat.mul_add, Nat.mul_one] at cost
                    rw [bind_assoc, run_bind ran]
                    refine .next turn (ih lawful' ?_)
                    rw [List.length_append, List.length_reverse, shape]
                    omega

theorem xmlClosure_loop {memo : Memo} (lawful : memo.Obeys model.tableLaw) (root : SchemaId) :
    Loop model.closureTurn (memo, [], [root]) ((model.xmlClosure root).run memo) := by
  apply closeXml_loop lawful
  rw [schemas_count, walkLimit, Nat.mul_comm, Nat.add_mul, List.length_singleton]
  omega

theorem ended_closeXml {fuel : Nat} {seen pending : List SchemaId} :
    Ended (model.closeXml fuel seen pending).fresh := by
  induction fuel generalizing seen pending with
  | zero => exact .ok seen
  | succ fuel ih =>
      cases pending with
      | nil => exact .ok seen
      | cons id pending =>
          rw [closeXml]
          split
          next => exact ih
          next =>
            rw [fresh_bind]
            exact ended_planOf_xml.bind fun _ _ => ih

theorem xmlClosure_steady (root : SchemaId) : (model.xmlClosure root).Steady model.tableLaw :=
  (closeXml_steady _ _ _).bind fun _ _ => steady_pure _

/-! JSON plans, which carry the properties of one object. -/

theorem ended_objectPlan {object : ObjectType} {discriminator : Option String}
    (free : ∀ properties, model.inheritedProperties id = .ok properties →
      ∀ property ∈ properties, ¬ model.EntersCircle property.schema) :
    Ended (model.objectPlan id object discriminator) := by
  apply ended_inheritedProperties.bind
  intro inherited found
  apply Ended.bind _ fun properties _ => .ok _
  apply Ended.mapM
  intro property carried
  have own := free inherited found property (List.mem_filter.mp carried).1
  exact (ended_valuePlan own).bind fun value _ => .ok _

theorem ended_hierarchyPlan {object : ObjectType} {name : String} {role : HierarchyRole}
    (free : ∀ properties, model.inheritedProperties id = .ok properties →
      ∀ property ∈ properties, ¬ model.EntersCircle property.schema) :
    Ended (model.hierarchyPlan id object name role) := by
  cases role with
  | plain => exact (ended_objectPlan free).bind fun _ _ => .ok _
  | base discriminator variants => exact (ended_objectPlan free).bind fun _ _ => .ok _
  | derived base value =>
      apply ended_objectFor.bind
      intro root _
      exact (ended_objectPlan free).bind fun _ _ => .ok _

theorem ended_typeOf (free : ¬ model.EntersCircle id) : Ended (model.typeOf id) := by
  obtain ⟨count, ends⟩ := ends_iff.mpr free
  exact ends.ended_resolveWithin (enough_limit id count ends)

theorem ended_planOf_json (free : ¬ model.EntersCircle id)
    (carried : ∀ properties, model.inheritedProperties id = .ok properties →
      ∀ property ∈ properties, ¬ model.EntersCircle property.schema) :
    Ended (model.planOf id .json) := by
  have value : Ended ((fun plan => WirePlan.value plan) <$> model.valuePlan id id) :=
    (ended_valuePlan free).map _
  rw [planOf_eq, makePlan, jsonPlan]
  cases found : model.schema? id with
  | none =>
      simp only [schemaFor, found, liftM_error_bind]
      intro other failed
      cases failed
  | some schema =>
      simp only [schemaFor_of_some found, liftM_ok_bind]
      cases schema with
      | object object =>
          simp only [fresh_bind, fresh_resolve]
          apply ((ended_typeOf free).map _).bind
          intro target _
          cases target.type with
          | model name schema role => exact ended_hierarchyPlan carried
          | _ => simpa using value
      | _ => simpa using value

/-! What planning comes to on any lawful tables. -/

/-- Every walk ends, the closure of an object ends, a recursion ends if and only if no circle of
arrays and dictionaries is entered, and what the bounded definitions give is what the unbounded ones
end with. -/
structure Ending (model : Model) (memo : Memo) (id : SchemaId) : Prop where
  root : Loop (model.rootTurn id) ([], id) (model.hierarchyRoot id)
  bases : Loop (model.basesTurn id) ([], [], some id) (model.inheritedProperties id)
  variants (object : ObjectType) :
    Loop (model.variantsTurn id object.name) ([id], [], object.derived) (model.variants id object)
  xml : Ended ((model.plan id .xml).run memo).1
  closure : Loop model.closureTurn (memo, [], [id]) ((model.xmlClosure id).run memo)
  closed : Ended ((model.xmlClosure id).run memo).1
  resolution :
    (∃ fuel, Ended ((model.resolveWithin fuel id id).run memo).1) ↔ ¬ model.EntersCircle id
  resolved : Ended ((model.resolve id).run memo).1 ↔ ¬ model.EntersCircle id
  deeper : ¬ model.EntersCircle id → ∀ fuel, model.walkLimit < fuel →
    ((model.resolve id).run memo).1 =
      (fun type => ⟨type, false⟩) <$> ((model.resolveWithin fuel id id).run memo).1
  values (referrer : String) :
    (∃ fuel, Ended (model.valuePlanWithin fuel id referrer)) ↔ ¬ model.EntersCircle id
  json : ¬ model.EntersCircle id →
    (∀ properties, model.inheritedProperties id = .ok properties →
      ∀ property ∈ properties, ¬ model.EntersCircle property.schema) →
    Ended ((model.plan id .json).run memo).1

theorem run_resolveWithin {memo : Memo} (lawful : memo.Obeys model.tableLaw) {fuel : Nat}
    (enough : model.walkLimit < fuel) :
    ((model.resolveWithin fuel id referrer).run memo).1 =
      (model.resolveWithin fuel id referrer).fresh := by
  have reaches : model.Enough fuel id := fun count ends =>
    Nat.le_trans (enough_limit id count ends) enough
  obtain ⟨-, -, known, -, same, -⟩ :=
    (resolveWithin_holds reaches referrer []).run lawful (List.forall_mem_nil _)
  exact same

theorem run_resolve {memo : Memo} (lawful : memo.Obeys model.tableLaw) (id : SchemaId) :
    ((model.resolve id).run memo).1 = (fun type => ⟨type, false⟩) <$> model.typeOf id := by
  have steady : (model.resolve id).Steady model.tableLaw := resolveUse_steady id false id
  rw [(steady.run lawful).1, fresh_resolve]

/-- Planning ends on every model but for circles of arrays and dictionaries. -/
theorem planning_ends {memo : Memo} (lawful : memo.Obeys model.tableLaw) (id : SchemaId) :
    model.Ending memo id where
  root := hierarchyRoot_loop id
  bases := inheritedProperties_loop id
  variants object := variants_loop id object
  xml := by
    rw [run_plan lawful]
    exact ended_planOf_xml
  closure := xmlClosure_loop lawful id
  closed := by
    rw [((xmlClosure_steady id).run lawful).1, xmlClosure, fresh_bind]
    exact ended_closeXml.bind fun _ _ => .ok _
  resolution := by
    constructor
    · rintro ⟨fuel, ended⟩ enters
      obtain ⟨cut, failed⟩ := @EntersCircle.resolveWithin model id id memo lawful enters fuel
      exact ended cut (congrArg Prod.fst failed)
    · intro free
      refine ⟨model.walkLimit + 1, ?_⟩
      rw [run_resolveWithin lawful (Nat.lt_succ_self _)]
      exact ended_typeOf free
  resolved := by
    rw [run_resolve lawful]
    constructor
    · intro ended enters
      obtain ⟨cut, failed⟩ := @EntersCircle.resolveWithin model id id memo lawful enters
        (model.walkLimit + 1)
      have same := @run_resolveWithin model id id memo lawful _ (Nat.lt_succ_self model.walkLimit)
      rw [failed] at same
      exact ended.of_map cut same.symm
    · exact fun free => (ended_typeOf free).map _
  deeper free fuel enough := by
    obtain ⟨count, ends⟩ := ends_iff.mpr free
    rw [run_resolve lawful, run_resolveWithin lawful enough, typeOf,
      ends.fresh_resolveWithin (enough_limit id count ends)
        (Nat.le_trans (enough_limit id count ends) enough)]
  values referrer := by
    constructor
    · rintro ⟨fuel, ended⟩ enters
      obtain ⟨cut, failed⟩ := @EntersCircle.valuePlanWithin model id referrer enters fuel
      exact ended cut failed
    · exact fun free => ⟨model.walkLimit + 1, ended_valuePlan free⟩
  json free carried := by
    rw [run_plan lawful]
    exact ended_planOf_json free carried

/-- A list of lists without end, and a node that is its own base and holds nodes. -/
def tangle : Model where
  name := "Tangle"
  schemas :=
    [("Chain", .array "Chain"),
      ("Node", .object
        { name := "Node", base := some "Node", derived := ["Node"]
          properties := [.optional "next" "Node", .optional "nodes" "Nodes"] }),
      ("Nodes", .array "Node")]

theorem tangle_ends :
    (Memo.Obeys tangle.tableLaw {} ∧ tangle.Ending {} "Chain" ∧ tangle.Ending {} "Node") ∧
      (tangle.EntersCircle "Chain" ∧ ¬ Ended ((tangle.resolve "Chain").run {}).1) ∧
      Ended ((tangle.resolve "Node").run {}).1 ∧ Ended ((tangle.plan "Node" .json).run {}).1 := by
  have lawful := Memo.empty_obeys tangle.tableLaw
  have chain := planning_ends lawful "Chain"
  have node := planning_ends lawful "Node"
  have circle : tangle.EntersCircle "Chain" := ⟨"Chain", .refl, .single (.inl rfl)⟩
  have free : ¬ tangle.EntersCircle "Node" := IsObject.not_entersCircle ⟨_, rfl⟩
  have list : ¬ tangle.EntersCircle "Nodes" := by
    rwa [EntersCircle.step (.inl rfl : tangle.ElementLink "Nodes" "Node")]
  refine ⟨⟨lawful, chain, node⟩, ⟨circle, fun ended => chain.resolved.mp ended circle⟩,
    node.resolved.mpr free, node.json free ?_⟩
  intro properties inherited property member
  cases inherited
  rcases List.mem_cons.mp member with rfl | later
  · exact free
  · rw [List.mem_singleton.mp later]
    exact list

end ApiContract.Model
