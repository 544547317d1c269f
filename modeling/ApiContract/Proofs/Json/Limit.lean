import ApiContract.Proofs.Json.Steps
import ApiContract.Proofs.Plan.References
import ApiContract.Proofs.Value.Nesting
import Mathlib.Algebra.GroupWithZero.Nat

/-!
How far reading can go without coming back. A way from place to place that is nowhere twice meets
each document with each plan of an object at most once, and it enters each declared default at most
once; so it is shorter than the limit of reading.
-/

namespace ApiContract.JsonForm

/-- The defaults that an object declares, each with the schema that it is read by. -/
def defaultsOf : Schema → List (SchemaId × Json)
  | .object object => object.properties.filterMap fun property =>
      property.defaultValue.map fun document => (property.schema, document)
  | _ => []

def declaredDefaults (model : Model) : List (SchemaId × Json) :=
  model.schemas.flatMap fun entry => defaultsOf entry.2

def levels (defaults : List (SchemaId × Json)) : Nat := (defaults.map fun entry => entry.2.depth).sum

variable {model : Model}

theorem levels_erase {defaults : List (SchemaId × Json)} {entry : SchemaId × Json}
    (member : entry ∈ defaults) : levels (defaults.erase entry) + entry.2.depth = levels defaults := by
  have permuted := (List.perm_cons_erase member).map fun entry => entry.2.depth
  rw [levels, levels, permuted.sum_nat, List.map_cons, List.sum_cons, Nat.add_comm]

theorem levels_flatMap {α : Type} (parts : α → List (SchemaId × Json)) (items : List α) :
    levels (items.flatMap parts) = (items.map fun item => levels (parts item)).sum := by
  induction items with
  | nil => rfl
  | cons first rest ih => simp [levels] at ih ⊢; omega

theorem le_foldl {α : Type} {f : Nat → α → Nat} {worth : α → Nat}
    (each : ∀ total item, total + worth item ≤ f total item) (items : List α) (start : Nat) :
    start + (items.map worth).sum ≤ items.foldl f start := by
  induction items generalizing start with
  | nil => simp
  | cons first rest ih =>
      have here := each start first
      have later := ih (f start first)
      simp only [List.map_cons, List.sum_cons, List.foldl_cons]
      omega

theorem levels_filterMap (properties : List Property) :
    levels (properties.filterMap fun property =>
        property.defaultValue.map fun document => (property.schema, document)) =
      (properties.map fun property => (property.defaultValue.map Json.depth).getD 0).sum := by
  induction properties with
  | nil => rfl
  | cons property rest ih =>
      cases declared : property.defaultValue <;> simp [levels, declared] at ih ⊢ <;> omega

theorem levels_le_defaultLevels (model : Model) :
    levels (declaredDefaults model) ≤ defaultLevels model := by
  rw [declaredDefaults, levels_flatMap, ← Nat.zero_add (List.sum _), defaultLevels]
  apply le_foldl
  rintro total ⟨id, schema⟩
  cases schema with
  | object object =>
      rw [defaultsOf, levels_filterMap]
      apply le_foldl
      intro total property
      cases property.defaultValue <;> simp
  | _ => simp [defaultsOf, levels]

theorem mem_declaredDefaults {owner : SchemaId} {object : ObjectType} {property : Property}
    {document : Json} (present : model.schema? owner = some (.object object))
    (member : property ∈ object.properties) (declared : property.defaultValue = some document) :
    (property.schema, document) ∈ declaredDefaults model := by
  refine List.mem_flatMap.mpr ⟨(owner, .object object), mem_of_lookup present, ?_⟩
  exact List.mem_filterMap.mpr ⟨property, member, by rw [declared]; rfl⟩

/-- A plan of a value, or the plan of a schema. -/
def Made (model : Model) (plan : WirePlan) : Prop :=
  (∃ value, plan = .value value) ∨ ∃ id, model.planOf id .json = .ok plan

/-- What a step calls: a part of the document, the same document at the plan of a schema, or a
declared default. -/
inductive Call (model : Model) (document : Json) : WirePlan → Json → Prop
  | part {plan : WirePlan} {part : Json} : (∃ value, plan = .value value) →
      part.depth < document.depth → Call model document plan part
  | same {id : SchemaId} {plan : WirePlan} : model.planOf id .json = .ok plan →
      Call model document plan document
  | default {id : SchemaId} {referrer : String} {value : ValuePlan} {default : Json} :
      (id, default) ∈ declaredDefaults model → model.valuePlan id referrer = .ok value →
      Call model document (.value value) default

theorem CallsProperty.call {wire : WirePlan} (made : ∃ id, model.planOf id .json = .ok wire)
    {plan : ObjectPlan} (carried : plan.properties ⊆ wire.properties)
    {members : List (String × Json)} {nested : ValuePlan} {document : Json}
    (calls : CallsProperty plan members nested document) :
    Call model (.object members) (.value nested) document := by
  obtain ⟨property, member, rfl, present | declared⟩ := calls
  · have below := Json.depth_le_members (mem_of_lookup present)
    simp only at below
    refine .part ⟨_, rfl⟩ ?_
    rw [Json.depth]
    omega
  · obtain ⟨id, planned⟩ := made
    obtain ⟨source, owner, holder, referrer, known, inside, propertyPlanned⟩ :=
      Model.planOf_declared planned (carried member)
    obtain ⟨valuePlanned, -, -, -, -, sameDefault⟩ := Model.propertyPlan_eq_ok propertyPlanned
    exact .default (mem_declaredDefaults known inside (sameDefault ▸ declared)) valuePlanned

theorem Calls.call {plan nested : WirePlan} {document part : Json} (made : Made model plan)
    (calls : Calls model plan document nested part) : Call model document nested part := by
  cases calls with
  | item member =>
      have below := Json.depth_le_items member
      refine .part ⟨_, rfl⟩ ?_
      rw [Json.depth]
      omega
  | entry member =>
      have below := Json.depth_le_members member
      refine .part ⟨_, rfl⟩ ?_
      rw [Json.depth]
      omega
  | reference planned => exact .same planned
  | variant _ planned => exact .same planned
  | property calls =>
      rcases made with ⟨value, same⟩ | planned
      · cases same
      · exact calls.call planned (List.Subset.refl _)
  | base calls =>
      rcases made with ⟨value, same⟩ | planned
      · cases same
      · exact calls.call planned (List.Subset.refl _)

theorem Call.made {nested : WirePlan} {document part : Json}
    (call : Call model document nested part) : Made model nested := by
  cases call with
  | part isValue => exact .inl isValue
  | same planned => exact .inr ⟨_, planned⟩
  | default => exact .inl ⟨_, rfl⟩

/-- What is still ahead of a way that was at the places `met` and stands at a document: the defaults
not entered yet are `defaults`, the schemas whose plans have not met the document are `schemas`. -/
structure Ahead (model : Model) (met : List (WirePlan × Json)) (document : Json)
    (defaults : List (SchemaId × Json)) (schemas : List SchemaId) : Prop where
  entered : ∀ id default, (id, default) ∈ declaredDefaults model → (id, default) ∉ defaults →
    ∀ referrer value, model.valuePlan id referrer = .ok value → (.value value, default) ∈ met
  planned : ∀ id, id ∉ schemas → ∀ plan, model.planOf id .json = .ok plan → (plan, document) ∈ met

def known (model : Model) : List SchemaId := model.schemas.map (·.1)

theorem mem_known {id : SchemaId} {plan : WirePlan} (planned : model.planOf id .json = .ok plan) :
    id ∈ known model := by
  obtain ⟨schema, present⟩ := Model.planOf_schema planned
  exact List.mem_map.mpr ⟨_, mem_of_lookup present, rfl⟩

section Ways
variable {met : List (WirePlan × Json)} {document : Json} {defaults : List (SchemaId × Json)}
  {schemas : List SchemaId}

theorem Ahead.start (model : Model) (document : Json) :
    Ahead model [] document (declaredDefaults model) (known model) where
  entered _ _ listed gone := absurd listed gone
  planned _ unknown _ planned := absurd (mem_known planned) unknown

/-- At another document every schema is ahead again. -/
theorem Ahead.elsewhere (ahead : Ahead model met document defaults schemas)
    (place : WirePlan × Json) (other : Json) :
    Ahead model (place :: met) other defaults (known model) where
  entered id default listed gone referrer value planned :=
    List.mem_cons_of_mem _ (ahead.entered id default listed gone referrer value planned)
  planned _ unknown _ planned := absurd (mem_known planned) unknown

theorem mem_of_not_mem_erase {α : Type} [BEq α] [LawfulBEq α] {items : List α} {item removed : α}
    (missing : item ∉ items.erase removed) : item = removed ∨ item ∉ items := by
  by_cases same : item = removed
  · exact .inl same
  · exact .inr fun member => missing ((List.mem_erase_of_ne same).mpr member)

/-- The same document met at the plan of one more schema. -/
theorem Ahead.meet (ahead : Ahead model met document defaults schemas) {id : SchemaId}
    {plan : WirePlan} (found : model.planOf id .json = .ok plan) :
    Ahead model ((plan, document) :: met) document defaults (schemas.erase id) where
  entered := (ahead.elsewhere (plan, document) document).entered
  planned other gone nested planned := by
    rcases mem_of_not_mem_erase gone with rfl | earlier
    · rw [found] at planned
      cases planned
      exact List.mem_cons_self
    · exact List.mem_cons_of_mem _ (ahead.planned other earlier nested planned)

/-- One more default entered. -/
theorem Ahead.enter (ahead : Ahead model met document defaults schemas) {id : SchemaId}
    {referrer : String} {value : ValuePlan} {default : Json}
    (found : model.valuePlan id referrer = .ok value) :
    Ahead model ((.value value, default) :: met) default (defaults.erase (id, default))
      (known model) where
  entered other declared listed gone referrer' value' planned := by
    rcases mem_of_not_mem_erase gone with same | earlier
    · cases same
      -- Who refers to the schema of the default does not matter.
      have found' := Model.valuePlanWithin_referrer found referrer'
      rw [Model.valuePlan, found'] at planned
      cases planned
      exact List.mem_cons_self
    · exact List.mem_cons_of_mem _
        (ahead.entered other declared listed earlier referrer' value' planned)
  planned := (ahead.elsewhere (.value value, default) default).planned

/-- How long a way is at most that is nowhere twice, by what is ahead of it. -/
theorem way_le {plan : WirePlan} {places : List (WirePlan × Json)}
    (ahead : Ahead model met document defaults schemas)
    (way : List.IsChain (fun place next => Call model place.2 next.1 next.2)
      ((plan, document) :: places))
    (apart : places.Nodup) (new : ∀ place ∈ places, place ∉ met) :
    places.length ≤ ((known model).length + 1) * (document.depth - 1 + levels defaults) +
      schemas.length := by
  induction places generalizing plan document met defaults schemas with
  | nil => exact Nat.zero_le _
  | cons next rest ih =>
      obtain ⟨nested, part⟩ := next
      obtain ⟨call, way'⟩ := List.isChain_cons_cons.mp way
      obtain ⟨once, apart'⟩ := List.nodup_cons.mp apart
      obtain ⟨unmet, later⟩ := List.forall_mem_cons.mp new
      have new' : ∀ place ∈ rest, place ∉ (nested, part) :: met := by
        intro place member again
        rcases List.mem_cons.mp again with rfl | before
        · exact once member
        · exact later place member before
      have inside := document.depth_pos
      have inside' := part.depth_pos
      rw [List.length_cons]
      cases call with
      | part isValue below =>
          -- A part is less deep, which pays for meeting every schema again.
          simp only at below
          have steps := ih (ahead.elsewhere (nested, part) part) way' apart' new'
          have narrower : ((known model).length + 1) * (part.depth - 1 + levels defaults + 1) ≤
              ((known model).length + 1) * (document.depth - 1 + levels defaults) :=
            Nat.mul_le_mul_left _ (by omega)
          rw [Nat.mul_add_one] at narrower
          omega
      | @same id _ planned =>
          have member : id ∈ schemas := by
            by_contra gone
            exact unmet (ahead.planned id gone nested planned)
          have steps := ih (ahead.meet planned) way' apart' new'
          have := List.length_pos_of_mem member
          rw [List.length_erase_of_mem member] at steps
          omega
      | @default id referrer value _ listed planned =>
          -- A default is entered once; its levels pay for its own parts.
          have member : (id, part) ∈ defaults := by
            by_contra gone
            exact unmet (ahead.entered id part listed gone referrer value planned)
          have steps := ih (ahead.enter planned) way' apart' new'
          have removed := levels_erase member
          have narrower : ((known model).length + 1) *
                (part.depth - 1 + levels (defaults.erase (id, part)) + 1) ≤
              ((known model).length + 1) * (document.depth - 1 + levels defaults) :=
            Nat.mul_le_mul_left _ (by simp only at removed; omega)
          rw [Nat.mul_add_one] at narrower
          omega

end Ways

/-- A way that is nowhere twice is shorter than the limit. -/
theorem way_lt_readLimit {plan : WirePlan} {document : Json} {places : List (WirePlan × Json)}
    (way : List.IsChain (fun place next => Call model place.2 next.1 next.2)
      ((plan, document) :: places))
    (apart : places.Nodup) : places.length < readLimit model document := by
  have steps := way_le (Ahead.start model document) way apart fun _ _ => List.not_mem_nil
  have declared := levels_le_defaultLevels model
  have inside := document.depth_pos
  have counted : (known model).length = model.schemas.length := List.length_map _
  have wider : (model.schemas.length + 1) *
        (document.depth - 1 + levels (declaredDefaults model) + 1) ≤
      (model.schemas.length + 2) * (document.depth + defaultLevels model + 1) :=
    Nat.mul_le_mul (by omega) (by omega)
  rw [Nat.mul_add_one] at wider
  rw [counted] at steps
  rw [readLimit]
  omega

end ApiContract.JsonForm
