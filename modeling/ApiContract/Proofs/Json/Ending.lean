import ApiContract.Proofs.Json.Limit
import ApiContract.Proofs.Json.Places
import ApiContract.Proofs.Json.Tables
import Mathlib.Logic.Relation

/-!
Where reading comes to its end. A step is cut off only if it gets to a place that is cut off; so a way
leads on for as long as reading is cut off, and a way as long as the limit is at some place twice.
Conversely, a place that reading comes back to is cut off however many steps it is given.
-/

namespace ApiContract.JsonForm

open Planning Relation

variable {model : Model} {α β : Type}

/-! More steps. -/

theorem mapM_settled {f g : α → Except ValueError β} {items : List α}
    (each : ∀ item, Settled (f item) → g item = f item) (settled : Settled (items.mapM f)) :
    items.mapM g = items.mapM f := by
  induction items with
  | nil => rfl
  | cons item rest ih =>
      simp only [List.mapM_cons] at settled ⊢
      rw [each item settled.of_bind]
      cases here : f item with
      | error e => rfl
      | ok result =>
          rw [here, ok_bind] at settled
          rw [ok_bind, ok_bind, ih settled.of_bind]

theorem readAt_succ (place : WirePlan × Json) :
    ∃ finish : List Value → Except ValueError Value, (∀ values, Settled (finish values)) ∧
      ∀ fuel, readAt model (fuel + 1) place =
        (called model place).mapM (readAt model fuel) >>= finish := readAt_runs place

/-- More steps change no result that was not cut off. -/
theorem readAt_more {fuel : Nat} {place : WirePlan × Json} (settled : Settled (readAt model fuel place)) :
    readAt model (fuel + 1) place = readAt model fuel place := by
  induction fuel generalizing place with
  | zero => exact absurd rfl settled
  | succ fuel ih =>
      -- The step runs through the same places, each of which may take one step more.
      obtain ⟨finish, -, same⟩ := @readAt_succ model place
      rw [same] at settled
      rw [same, same, mapM_settled (fun _ => ih) settled.of_bind]

theorem readAt_mono {fuel more : Nat} {place : WirePlan × Json} (le : fuel ≤ more)
    (settled : Settled (readAt model fuel place)) :
    readAt model more place = readAt model fuel place := by
  induction le with
  | refl => rfl
  | step _ ih =>
      rw [← ih]
      apply readAt_more
      rwa [ih]

theorem ReadsWithin.more {fuel : Nat} {plan : WirePlan} {document : Json} {value : Value}
    (reads : ReadsWithin model fuel plan document value) :
    ReadsWithin model (fuel + 1) plan document value := by
  have read : readAt model fuel (plan, document) = .ok value := reads
  exact (readAt_more (read ▸ settled_ok value)).trans read

/-- Two numbers of steps that are enough lead to the same result. -/
theorem readAt_unique {fuel other : Nat} {place : WirePlan × Json}
    (settled : Settled (readAt model fuel place)) (settled' : Settled (readAt model other place)) :
    readAt model fuel place = readAt model other place :=
  (readAt_mono (Nat.le_max_left fuel other) settled).symm.trans
    (readAt_mono (Nat.le_max_right fuel other) settled')

/-! Ways of reading. -/

/-- Reading a place gets to another one: the step calls it, and what it calls before is read. -/
def GetsTo (model : Model) (place next : WirePlan × Json) : Prop :=
  ∃ before after, called model place = before ++ next :: after ∧
    ∀ earlier ∈ before, ∃ fuel value, readAt model fuel earlier = .ok value

/-- Reading comes back to a place that it is in the middle of. -/
def ComesBack (model : Model) (place : WirePlan × Json) : Prop :=
  ∃ again, ReflTransGen (GetsTo model) place again ∧ TransGen (GetsTo model) again again

variable {place next : WirePlan × Json}

theorem GetsTo.call (gets : GetsTo model place next) (made : Made model place.1) :
    Call model place.2 next.1 next.2 := by
  obtain ⟨before, after, calls, -⟩ := gets
  have member : next ∈ called model place := by
    rw [calls]
    exact List.mem_append_right _ List.mem_cons_self
  exact (calls_of_mem_called member).call made

/-- A step that is cut off gets to a place that is cut off. -/
theorem exists_getsTo {fuel : Nat} (cut : ¬ Settled (readAt model (fuel + 1) place)) :
    ∃ next, GetsTo model place next ∧ ¬ Settled (readAt model fuel next) := by
  obtain ⟨finish, settled, same⟩ := @readAt_succ model place
  rw [same, Settled, not_not] at cut
  rcases bind_eq_error cut with mapped | ⟨values, -, finished⟩
  · obtain ⟨before, next, after, calls, read, failed⟩ := mapM_eq_error mapped
    exact ⟨next, ⟨before, after, calls, fun earlier member => ⟨fuel, read earlier member⟩⟩,
      fun ends => ends failed⟩
  · exact absurd finished (settled values)

theorem settled_of_mapM {f : α → Except ValueError β} {before after : List α} {item : α}
    (each : ∀ earlier ∈ before, Settled (f earlier) → ∃ result, f earlier = .ok result)
    (settled : Settled ((before ++ item :: after).mapM f)) : Settled (f item) := by
  induction before with
  | nil =>
      rw [List.nil_append, List.mapM_cons] at settled
      exact settled.of_bind
  | cons first before ih =>
      rw [List.cons_append, List.mapM_cons] at settled
      obtain ⟨result, read⟩ := each first List.mem_cons_self settled.of_bind
      rw [read, ok_bind] at settled
      exact ih (fun earlier member => each earlier (List.mem_cons_of_mem _ member)) settled.of_bind

/-- A step that is not cut off gets to no place that is cut off. -/
theorem GetsTo.settled (gets : GetsTo model place next) {fuel : Nat}
    (settled : Settled (readAt model (fuel + 1) place)) : Settled (readAt model fuel next) := by
  obtain ⟨before, after, calls, read⟩ := gets
  obtain ⟨finish, -, same⟩ := @readAt_succ model place
  rw [same, calls] at settled
  apply settled_of_mapM _ settled.of_bind
  -- What is read with some number of steps is read with this one, if that is not too small.
  intro earlier member ends
  obtain ⟨enough, value, done⟩ := read earlier member
  exact ⟨value, (readAt_unique ends (by rw [done]; exact settled_ok value)).trans done⟩

/-- As long as reading is cut off, a way leads on. -/
theorem exists_way {fuel : Nat} (cut : ¬ Settled (readAt model fuel place)) :
    ∃ places, places.length = fuel ∧ List.IsChain (GetsTo model) (place :: places) := by
  induction fuel generalizing place with
  | zero => exact ⟨[], rfl, .singleton _⟩
  | succ fuel ih =>
      obtain ⟨next, gets, cut'⟩ := exists_getsTo cut
      obtain ⟨places, length, way⟩ := ih cut'
      exact ⟨next :: places, congrArg (· + 1) length, List.isChain_cons_cons.mpr ⟨gets, way⟩⟩

theorem way_calls {places : List (WirePlan × Json)} (made : Made model place.1)
    (way : List.IsChain (GetsTo model) (place :: places)) :
    List.IsChain (fun place next => Call model place.2 next.1 next.2) (place :: places) := by
  induction places generalizing place with
  | nil => exact .singleton _
  | cons next rest ih =>
      obtain ⟨gets, way'⟩ := List.isChain_cons_cons.mp way
      have call := gets.call made
      exact List.isChain_cons_cons.mpr ⟨call, ih call.made way'⟩

/-- A way that is at some place twice comes back to it. -/
theorem way_nodup {places : List (WirePlan × Json)} (forth : ¬ ComesBack model place)
    (way : List.IsChain (GetsTo model) (place :: places)) : places.Nodup := by
  have far : List.IsChain (TransGen (GetsTo model)) (place :: places) := way.imp fun _ _ => .single
  obtain ⟨ahead, apart⟩ := List.pairwise_cons.mp (List.isChain_iff_pairwise.mp far)
  apply apart.imp_of_mem
  rintro here _ member - between rfl
  exact forth ⟨here, (ahead here member).to_reflTransGen, between⟩

theorem settled_of_forth {fuel : Nat} (made : Made model place.1) (forth : ¬ ComesBack model place)
    (enough : readLimit model place.2 ≤ fuel) : Settled (readAt model fuel place) := by
  by_contra cut
  obtain ⟨places, length, way⟩ := exists_way cut
  have short := way_lt_readLimit (way_calls made way) (way_nodup forth way)
  omega

/-- What gets to a place that is cut off is cut off itself. -/
theorem cut_of_reaches {fuel : Nat} (reaches : ReflTransGen (GetsTo model) place next)
    (cut : ¬ Settled (readAt model fuel next)) : ¬ Settled (readAt model fuel place) := by
  induction reaches using ReflTransGen.head_induction_on with
  | refl => exact cut
  | head gets _ ih =>
      intro settled
      have more := readAt_more settled
      rw [← more] at settled
      exact ih (gets.settled settled)

/-- Coming back takes more steps than any number. -/
theorem cut_of_comesBack (back : ComesBack model place) (fuel : Nat) :
    ¬ Settled (readAt model fuel place) := by
  obtain ⟨again, reaches, round⟩ := back
  apply cut_of_reaches reaches
  -- Every round costs a step, and the place is reached again with no step left.
  induction fuel with
  | zero => exact fun settled => settled rfl
  | succ fuel ih =>
      obtain ⟨next, gets, rest⟩ := TransGen.head'_iff.mp round
      exact fun settled => cut_of_reaches rest ih (gets.settled settled)

/-- Reading ends if and only if it does not come back, and within the limit if at all. -/
theorem settled_iff (made : Made model place.1) :
    (∃ fuel, Settled (readAt model fuel place)) ↔ ¬ ComesBack model place := by
  constructor
  · rintro ⟨fuel, settled⟩ back
    exact cut_of_comesBack back fuel settled
  · exact fun forth => ⟨_, settled_of_forth made forth (Nat.le_refl _)⟩

theorem read_of_settled {fuel : Nat} (made : Made model place.1)
    (settled : Settled (readAt model fuel place)) :
    (read model place.1 place.2).fresh = readAt model fuel place := by
  have forth := (settled_iff made).mp ⟨fuel, settled⟩
  exact readAt_unique (settled_of_forth made forth (Nat.le_refl _)) settled

/-- Reading that ends with a value at all ends with it within the limit. -/
theorem ReadsWithin.read {fuel : Nat} {plan : WirePlan} {document : Json} {value : Value}
    (reads : ReadsWithin model fuel plan document value) (made : Made model plan) :
    (read model plan document).fresh = .ok value := by
  have same : readAt model fuel (plan, document) = .ok value := reads
  rw [← same]
  exact read_of_settled made (same ▸ settled_ok value)

/-! Models in which reading never comes back: from one place to the next the document is less deep, or
it stays the same and the plan goes from a reference to a base to a record. -/

/-- What stands in for a missing property is a scalar. -/
def ScalarDefaults (model : Model) : Prop :=
  ∀ owner object, model.schema? owner = some (.object object) → ∀ property ∈ object.properties,
    property.defaultValue.isSome → ∃ kind, model.valuePlan property.schema owner = .ok (.scalar kind)

/-- No variant of a polymorphic base is a polymorphic base itself. -/
def FlatHierarchies (model : Model) : Prop :=
  ∀ root plan, model.planOf root .json = .ok (.hierarchy plan) → ∀ choice ∈ plan.variants,
    ∀ nested, model.planOf choice.schema .json ≠ .ok (.hierarchy nested)

def rank : WirePlan → Nat
  | .value (.reference _) => 2
  | .hierarchy _ => 1
  | _ => 0

theorem rank_le (plan : WirePlan) : rank plan ≤ 2 := by
  rw [rank.eq_def]
  split <;> omega

theorem isObject_of_reference {fuel : Nat} {id schema : SchemaId} {referrer : String}
    (planned : model.valuePlanWithin fuel id referrer = .ok (.reference schema)) :
    model.IsObject id := by
  cases fuel with
  | zero => cases planned
  | succ fuel =>
      rw [Model.valuePlanWithin] at planned
      obtain ⟨kind, found, rest⟩ := bind_eq_ok planned
      cases kind with
      | some kind => cases rest
      | none =>
          obtain ⟨schema', present, shape⟩ := Model.scalarKind_none found
          simp only [present, ok_bind] at rest
          rcases shape with isObject | ⟨element, rfl | rfl⟩
          · cases schema' <;> cases isObject
            exact ⟨_, Model.schemaFor_eq_ok present⟩
          · obtain ⟨inner, -, same⟩ := bind_eq_ok rest
            cases same
          · obtain ⟨inner, -, same⟩ := bind_eq_ok rest
            cases same

/-- The plan of a schema is no mere reference. -/
theorem planOf_rank {id : SchemaId} {plan : WirePlan} (planned : model.planOf id .json = .ok plan) :
    rank plan ≤ 1 := by
  cases Model.plannedAs_of_planOf planned with
  | @value value other valuePlanned =>
      cases value with
      | reference schema =>
          obtain ⟨object, present⟩ := isObject_of_reference valuePlanned
          rw [present] at other
          cases other
      | _ => simp [rank]
  | _ => simp [rank]

theorem called_default (scalars : ScalarDefaults model) {wire : WirePlan}
    (made : ∃ id, model.planOf id .json = .ok wire) {property : PropertyPlan}
    (carried : property ∈ wire.properties) {document : Json}
    (declared : property.default = some document) :
    called model (.value property.value, document) = [] := by
  obtain ⟨id, planned⟩ := made
  obtain ⟨source, owner, holder, referrer, present, inside, propertyPlanned⟩ :=
    Model.planOf_declared planned carried
  obtain ⟨valuePlanned, -, -, -, -, sameDefault⟩ := Model.propertyPlan_eq_ok propertyPlanned
  have declares : source.defaultValue.isSome := by
    rw [← sameDefault, declared]
    rfl
  obtain ⟨kind, scalar⟩ := scalars owner holder present source inside declares
  have same := Model.valuePlanWithin_referrer scalar (referrer ++ "." ++ source.name)
  rw [Model.valuePlan, same] at valuePlanned
  rw [← Except.ok.inj valuePlanned]
  rfl

/-- How much is left to read at a place. -/
def weight (place : WirePlan × Json) : Nat := 3 * place.2.depth + rank place.1

theorem weight_part {plan nested : WirePlan} {document part : Json}
    (below : part.depth < document.depth) : weight (nested, part) < weight (plan, document) := by
  have := rank_le nested
  simp only [weight]
  omega

theorem weight_same {plan nested : WirePlan} {document : Json} (below : rank nested < rank plan) :
    weight (nested, document) < weight (plan, document) := Nat.add_lt_add_left below _

theorem GetsTo.weight_lt (scalars : ScalarDefaults model) (flat : FlatHierarchies model)
    (gets : GetsTo model place next) (made : Made model place.1) (onward : called model next ≠ []) :
    weight next < weight place := by
  obtain ⟨plan, document⟩ := place
  obtain ⟨nested, part⟩ := next
  obtain ⟨before, after, calls, -⟩ := gets
  have member : (nested, part) ∈ called model (plan, document) := by
    rw [calls]
    exact List.mem_append_right _ List.mem_cons_self
  have fromProperty : ∀ {wire : WirePlan} {object : ObjectPlan} {members value},
      (∃ id, model.planOf id .json = .ok wire) → object.properties ⊆ wire.properties →
      nested = .value value → CallsProperty object members value part →
      part.depth < (Json.object members).depth := by
    rintro wire object members value planned carried rfl ⟨property, listed, rfl, present | declared⟩
    · rw [Json.depth]
      exact Nat.lt_succ_of_le (Json.depth_le_members (mem_of_lookup present))
    · exact absurd (called_default scalars planned (carried listed) declared) onward
  cases calls_of_mem_called member with
  | item listed =>
      apply weight_part
      rw [Json.depth]
      exact Nat.lt_succ_of_le (Json.depth_le_items listed)
  | entry listed =>
      apply weight_part
      rw [Json.depth]
      exact Nat.lt_succ_of_le (Json.depth_le_members listed)
  | reference planned => exact weight_same (Nat.lt_succ_of_le (planOf_rank planned))
  | property inside =>
      rcases made with ⟨value, same⟩ | planned
      · cases same
      · exact weight_part (fromProperty planned (List.Subset.refl _) rfl inside)
  | base inside =>
      rcases made with ⟨value, same⟩ | planned
      · cases same
      · exact weight_part (fromProperty planned (List.Subset.refl _) rfl inside)
  | @variant hierarchy choice _ _ listed nestedPlanned =>
      rcases made with ⟨value, same⟩ | ⟨root, planned⟩
      · cases same
      · have low := planOf_rank nestedPlanned
        have other := flat root hierarchy planned choice listed
        apply weight_same
        cases nested with
        | hierarchy inner => exact absurd nestedPlanned (other inner)
        | value value => cases value <;> simp_all [rank]
        | _ => simp [rank]

theorem not_comesBack (scalars : ScalarDefaults model) (flat : FlatHierarchies model)
    (made : Made model place.1) : ¬ ComesBack model place := by
  rintro ⟨again, reaches, round⟩
  have made' : ∀ {other}, ReflTransGen (GetsTo model) place other → Made model other.1 := by
    intro other path
    induction path with
    | refl => exact made
    | tail _ gets ih => exact (gets.call ih).made
  have onward : ∀ {here there}, GetsTo model here there → called model here ≠ [] := by
    rintro here there ⟨before, after, calls, -⟩ none
    rw [none] at calls
    simp at calls
  have lighter : ∀ {here there}, ReflTransGen (GetsTo model) place here →
      TransGen (GetsTo model) here there → called model there ≠ [] → weight there < weight here := by
    intro here there path way
    induction way with
    | single gets => exact gets.weight_lt scalars flat (made' path)
    | tail way gets ih =>
        intro live
        have below := gets.weight_lt scalars flat (made' (path.trans way.to_reflTransGen)) live
        exact Nat.lt_trans below (ih (onward gets))
  obtain ⟨first, gets, -⟩ := TransGen.head'_iff.mp round
  exact Nat.lt_irrefl _ (lighter reaches round (onward gets))

/-- A run on lawful tables ends if and only if it is not cut off. -/
theorem ends_iff_settled {memo : Memo} (lawful : memo.Obeys model.tableLaw)
    (plans : model.PlansObjects) {id : SchemaId} {plan : WirePlan}
    (planned : model.planOf id .json = .ok plan) (fuel : Nat) (document : Json) :
    FailsOnly ValueError.OfContent ((readWithin model fuel plan document).run memo).1 ↔
      Settled (readAt model fuel (plan, document)) := by
  have valued := @readWithin_failsOnly model plans fuel plan (grounded_of_planned plans planned) document
  rw [((readWithin_steady fuel plan document).run lawful).1, readAt]
  cases result : (readWithin model fuel plan document).fresh with
  | ok value => exact iff_of_true trivial (settled_ok value)
  | error e =>
      have ofValue := valued.of_error result
      constructor
      · rintro only cut
        cases cut
        exact only
      · intro settled
        cases e <;> first | exact ofValue | exact settled rfl

/-- Where all objects have plans, reading ends, with a value or with an error that lies in the
document, if and only if it does not come back to a place that it is in the middle of; and what
the bounded reading gives is what it ends with. It never comes back if declared defaults are scalars
and no variant of a polymorphic base is a polymorphic base itself. -/
theorem read_ends_iff {memo : Memo} (lawful : memo.Obeys model.tableLaw) (plans : model.PlansObjects)
    {id : SchemaId} {plan : WirePlan} (planned : model.planOf id .json = .ok plan) (document : Json) :
    ((∃ fuel, FailsOnly ValueError.OfContent ((readWithin model fuel plan document).run memo).1) ↔
        ¬ ComesBack model (plan, document)) ∧
      (FailsOnly ValueError.OfContent ((read model plan document).run memo).1 ↔
        ¬ ComesBack model (plan, document)) ∧
      (∀ fuel, FailsOnly ValueError.OfContent ((readWithin model fuel plan document).run memo).1 →
        ((read model plan document).run memo).1 =
          ((readWithin model fuel plan document).run memo).1) ∧
      (ScalarDefaults model → FlatHierarchies model → ¬ ComesBack model (plan, document)) := by
  have made : Made model plan := .inr ⟨id, planned⟩
  have ends := fun fuel => ends_iff_settled lawful plans planned fuel document
  refine ⟨?unbounded, ?bounded, ?same, ?never⟩
  case unbounded =>
    simp only [ends]
    exact settled_iff made
  case bounded =>
    rw [read, ends]
    constructor
    · exact fun settled => (settled_iff made).mp ⟨_, settled⟩
    · exact fun forth => settled_of_forth made forth (Nat.le_refl _)
  case same =>
    intro fuel ended
    rw [((read_steady plan document).run lawful).1, ((readWithin_steady fuel plan document).run lawful).1]
    exact read_of_settled made ((ends fuel).mp ended)
  case never => exact fun scalars flat => not_comesBack scalars flat made

/-- A folder may be in another one and has one page unless it says otherwise. -/
def folders : Model where
  name := "Folders"
  schemas :=
    [("Count", .primitive .int32 none),
      ("Folder", .object
        { name := "Folder"
          properties :=
            [.optional "parent" "Folder",
              { Property.optional "pages" "Count" with defaultValue := some (.int 1) }] })]

def folderPlan : ObjectPlan :=
  { schema := "Folder", typeName := "Folder", discriminator := none
    properties :=
      [⟨"parent", "parent", .reference "Folder", false, false, false, none⟩,
        ⟨"pages", "pages", .scalar (.primitive .int32 none), false, false, false, some (.int 1)⟩] }

theorem planOf_folder : folders.planOf "Folder" .json = .ok (.object folderPlan) := rfl

theorem folders_plansObjects : folders.PlansObjects := by
  rintro id ⟨object, present⟩
  have listed := mem_of_lookup present
  simp only [folders, List.mem_cons, List.not_mem_nil, or_false, Prod.mk.injEq] at listed
  rcases listed with ⟨-, other⟩ | ⟨rfl, -⟩
  · cases other
  · exact ⟨_, planOf_folder⟩

theorem folders_scalarDefaults : ScalarDefaults folders := by
  intro owner object present property member declared
  have listed := mem_of_lookup present
  simp only [folders, List.mem_cons, List.not_mem_nil, or_false, Prod.mk.injEq] at listed
  rcases listed with ⟨-, other⟩ | ⟨-, same⟩
  · cases other
  · cases same
    rcases List.mem_cons.mp member with rfl | later
    · cases declared
    · rw [List.mem_singleton.mp later]
      exact ⟨.primitive .int32 none, rfl⟩

theorem folders_flat : FlatHierarchies folders := by
  intro root plan planned
  obtain ⟨schema, present⟩ := Model.planOf_schema planned
  have listed := mem_of_lookup present
  simp only [folders, List.mem_cons, List.not_mem_nil, or_false, Prod.mk.injEq] at listed
  rcases listed with ⟨rfl, -⟩ | ⟨rfl, -⟩ <;> cases planned

/-- A folder inside a folder is read to its end. -/
theorem folders_read_ends :
    (Memo.Obeys folders.tableLaw {} ∧ folders.PlansObjects ∧
        folders.planOf "Folder" .json = .ok (.object folderPlan)) ∧
      (ScalarDefaults folders ∧ FlatHierarchies folders) ∧
      ¬ ComesBack folders (.object folderPlan, .object [("parent", .object [])]) ∧
      FailsOnly ValueError.OfContent
        ((read folders (.object folderPlan) (.object [("parent", .object [])])).run {}).1 ∧
      ((read folders (.object folderPlan) (.object [("parent", .object [])])).run {}).1 =
        .ok (.record [("pages", .int 1), ("parent", .record [("pages", .int 1)])]) := by
  have lawful := Memo.empty_obeys folders.tableLaw
  obtain ⟨-, bounded, -, never⟩ := read_ends_iff lawful folders_plansObjects planOf_folder
    (.object [("parent", .object [])])
  have forth := never folders_scalarDefaults folders_flat
  exact ⟨⟨lawful, folders_plansObjects, planOf_folder⟩,
    ⟨folders_scalarDefaults, folders_flat⟩, forth, bounded.mpr forth, rfl⟩

/-- A property that defaults to an empty record of its own object, and two bases that are variants
of each other. -/
def mirrors : Model where
  name := "Mirrors"
  schemas :=
    [("Left", .object
        { name := "Left", derived := ["Right"], discriminator := some "side"
          discriminatorValue := some "other" }),
      ("Node", .object
        { name := "Node"
          properties :=
            [{ Property.optional "next" "Node" with defaultValue := some (.object []) }] }),
      ("Right", .object
        { name := "Right", derived := ["Left"], discriminator := some "side"
          discriminatorValue := some "other" })]

def nodePlan : ObjectPlan :=
  { schema := "Node", typeName := "Node", discriminator := none
    properties :=
      [⟨"next", "next", .reference "Node", false, false, false, some (.object [])⟩] }

/-- One of the two bases, with the other one as its variant. -/
def sidePlan (id other : SchemaId) : HierarchyPlan :=
  { schema := id, typeName := id, discriminator := "side"
    base := { schema := id, typeName := id, discriminator := none, properties := [] }
    variants := [⟨"other", other⟩] }

theorem planOf_node : mirrors.planOf "Node" .json = .ok (.object nodePlan) := rfl

theorem planOf_left : mirrors.planOf "Left" .json = .ok (.hierarchy (sidePlan "Left" "Right")) := rfl

theorem planOf_right : mirrors.planOf "Right" .json = .ok (.hierarchy (sidePlan "Right" "Left")) := rfl

theorem mirrors_plansObjects : mirrors.PlansObjects := by
  rintro id ⟨object, present⟩
  have listed := mem_of_lookup present
  simp only [mirrors, List.mem_cons, List.not_mem_nil, or_false, Prod.mk.injEq] at listed
  rcases listed with ⟨rfl, -⟩ | ⟨rfl, -⟩ | ⟨rfl, -⟩
  · exact ⟨_, planOf_left⟩
  · exact ⟨_, planOf_node⟩
  · exact ⟨_, planOf_right⟩

theorem mirrors_typed (entry : SchemaId × Schema) (member : entry ∈ mirrors.schemas) :
    ∃ type, mirrors.typeOf entry.1 = .ok type := by
  simp only [mirrors, List.mem_cons, List.not_mem_nil, or_false] at member
  rcases member with rfl | rfl | rfl <;> exact ⟨_, rfl⟩

theorem getsTo_first {rest : List (WirePlan × Json)} (calls : called model place = next :: rest) :
    GetsTo model place next := ⟨[], rest, calls, List.forall_mem_nil _⟩

theorem node_comesBack : ComesBack mirrors (.object nodePlan, .object []) := by
  refine ⟨_, .refl, .head (getsTo_first rfl) (.single ?_)⟩
  exact @getsTo_first mirrors (.value (.reference "Node"), .object []) _ [] rfl

theorem left_comesBack :
    ComesBack mirrors (.hierarchy (sidePlan "Left" "Right"), .object [("side", .string "other")]) := by
  refine ⟨_, .refl, .head (getsTo_first rfl) (.single ?_)⟩
  exact @getsTo_first mirrors (.hierarchy (sidePlan "Right" "Left"), .object [("side", .string "other")])
    _ [] rfl

/-- Schemas that resolve and objects that plan do not make reading end: a node is read from an empty
record, and a base whose variant is a base, however many steps they are given. -/
theorem mirrors_endless :
    (∀ entry ∈ mirrors.schemas, ∃ type, mirrors.typeOf entry.1 = .ok type) ∧ mirrors.PlansObjects ∧
      mirrors.planOf "Node" .json = .ok (.object nodePlan) ∧
      mirrors.planOf "Left" .json = .ok (.hierarchy (sidePlan "Left" "Right")) ∧
      ∀ fuel,
        ((readWithin mirrors fuel (.object nodePlan) (.object [])).run {}).1 = .error .endless ∧
        ((readWithin mirrors fuel (.hierarchy (sidePlan "Left" "Right"))
          (.object [("side", .string "other")])).run {}).1 = .error .endless := by
  have lawful := Memo.empty_obeys mirrors.tableLaw
  refine ⟨mirrors_typed, mirrors_plansObjects, planOf_node, planOf_left, fun fuel => ?_⟩
  rw [((readWithin_steady fuel _ _).run lawful).1, ((readWithin_steady fuel _ _).run lawful).1]
  exact ⟨not_not.mp (cut_of_comesBack node_comesBack fuel),
    not_not.mp (cut_of_comesBack left_comesBack fuel)⟩

end ApiContract.JsonForm
