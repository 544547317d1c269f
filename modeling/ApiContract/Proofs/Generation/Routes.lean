import ApiContract.Proofs.Generation.Artifacts

/-!
What the operations of a run are generated from. Every operation has one route in the tables of the
groups and one pair of methods in the client of its group, and both are those of the plan of the
last operation of its name. This is its own plan where no later operation has its name.
-/

namespace ApiContract

open Planning

variable {model : Model} {configuration : Configuration} {policy : GroupingPolicy}
  {formatter : Formatter} {made : List Artifact} {plans : List OperationPlan}

namespace Code

/-- A template whose pieces are those of two templates is written by writing both. -/
theorem write_append {whole first second : String} (parts : List (String × Code))
    (pieces : Template.scan whole.toList.length whole.toList =
      Template.scan first.toList.length first.toList ++
        Template.scan second.toList.length second.toList) :
    write whole parts = write first parts ++ write second parts := by
  simp only [write, pieces, List.flatMap_append]

/-- A part that a template has no hole for is left out. -/
theorem write_cons_unused {template name : String} (part : Code) (parts : List (String × Code))
    (unused : .hole name ∉ Template.scan template.toList.length template.toList) :
    write template ((name, part) :: parts) = write template parts := by
  rw [write, write, List.flatMap_def, List.flatMap_def]
  congr 1
  apply List.map_congr_left
  intro piece member
  cases piece with
  | token => rfl
  | hole other =>
      have different : (other == name) = false := by
        rw [beq_eq_false_iff_ne]
        rintro rfl
        exact unused member
      rw [Template.fillPiece, Template.fillPiece, List.lookup_cons, different]

/-- What fills a hole stands in the code. -/
theorem part_infix {template name : String} {parts : List (String × Code)} {part : Code}
    (hole : .hole name ∈ Template.scan template.toList.length template.toList)
    (filled : parts.lookup name = some part) : part <:+: write template parts := by
  have piece : Template.fillPiece parts (.hole name) = part := by
    rw [Template.fillPiece, filled, Option.getD_some]
  rw [write, List.flatMap_def, ← piece]
  exact List.infix_of_mem_flatten (List.mem_map_of_mem hole)

end Code

namespace HandlerCode

def routesTemplate : String :=
  r#"
    /// Routes served by the handler as `(method, route template, handler method)`.
    pub const ROUTES: &[(&str, &str, &str)] = &[ $routes ];"#

/-- The code of a table of routes. -/
def routesCode (routes : List RouteEntry) : Code :=
  Code.write routesTemplate [("routes", Code.commaSeparated (routes.map RouteEntry.code))]

set_option maxRecDepth 2000 in
/-- The code of a handler ends in the table of its routes. -/
theorem code_routes (handler : HandlerCode) : routesCode handler.routes <:+ handler.code := by
  have own : ∀ name ∈ ["doc", "name", "methods"], .hole name ∉
      Template.scan routesTemplate.toList.length routesTemplate.toList := by
    -- a literal is made of its characters; the kernel would decode it to find them
    rw [routesTemplate, String.toList_ofList]
    decide +kernel
  simp only [List.forall_mem_cons] at own
  rw [code, @Code.write_append _ r#"
    $doc
    #[allow(async_fn_in_trait)]
    pub trait $name { $methods }"# routesTemplate]
  case pieces =>
    rw [routesTemplate, String.toList_ofList, String.toList_ofList, String.toList_ofList]
    decide +kernel
  rw [routesCode, Code.write_cons_unused _ _ own.1, Code.write_cons_unused _ _ own.2.1,
    Code.write_cons_unused _ _ own.2.2.1]
  exact List.suffix_append _ _

end HandlerCode

set_option maxRecDepth 4000 in
theorem ClientCode.code_methods (client : ClientCode) :
    Code.sequence (client.methods.map fun method => method.create ++ method.send) <:+:
      client.code := by
  rw [code]
  apply @Code.part_infix _ "methods"
  case hole =>
    rw [String.toList_ofList]
    decide +kernel
  case filled => rfl

namespace Model

/-- The last operation of the name of an operation. -/
def namesake (model : Model) (operation : Operation) : Operation :=
  (model.operations.reverse.find? (·.name == operation.name)).getD operation

variable {operation : Operation}

theorem find_namesake (member : operation ∈ model.operations) :
    model.operations.reverse.find? (·.name == operation.name) =
      some (model.namesake operation) := by
  rw [namesake]
  cases found : model.operations.reverse.find? (·.name == operation.name) with
  | some last => rfl
  | none =>
      have different := List.find?_eq_none.mp found operation (List.mem_reverse.mpr member)
      simp at different

theorem namesake_mem (member : operation ∈ model.operations) :
    model.namesake operation ∈ model.operations ∧
      (model.namesake operation).name = operation.name := by
  have found := find_namesake member
  exact ⟨List.mem_reverse.mp (List.mem_of_find?_eq_some found), by simpa using List.find?_some found⟩

/-- Every operation is the last of its name where names tell operations apart. -/
theorem namesake_self_iff :
    (∀ operation ∈ model.operations, model.namesake operation = operation) ↔
      ∀ a ∈ model.operations, ∀ b ∈ model.operations, a.name = b.name → a = b := by
  constructor
  · intro last a inA b inB same
    have found := find_namesake inA
    rw [same, find_namesake inB, last a inA, last b inB] at found
    exact (Option.some.inj found).symm
  · intro apart operation member
    obtain ⟨listed, same⟩ := namesake_mem member
    exact apart _ listed _ member same

/-- The plan that an operation is generated from. -/
def Uses (model : Model) (operation : Operation) (plan : OperationPlan) : Prop :=
  (model.operationPlan (model.namesake operation)).fresh = .ok plan

/-- An operation is generated from its own plan exactly where it is the last of its name. -/
theorem Uses.own_iff {plan : OperationPlan} (used : model.Uses operation plan) :
    (model.operationPlan operation).fresh = .ok plan ↔ model.namesake operation = operation := by
  constructor
  · intro own
    exact (operationPlan_eq_ok used).1.symm.trans (operationPlan_eq_ok own).1
  · intro last
    rw [Uses, last] at used
    exact used

theorem plans_own_iff {operations : List Operation}
    (uses : List.Forall₂ model.Uses operations plans) :
    List.Forall₂ (fun operation plan => (model.operationPlan operation).fresh = .ok plan)
        operations plans ↔
      ∀ operation ∈ operations, model.namesake operation = operation := by
  induction uses with
  | nil => simp
  | cons used _ ih => rw [List.forall₂_cons, List.forall_mem_cons, ih, used.own_iff]

theorem planNamed_uses (planned : model.planOperations.fresh = .ok plans)
    (member : operation ∈ model.operations) :
    ∃ plan, planNamed plans operation.name = some plan ∧ model.Uses operation plan := by
  -- plans stand in the order of the operations, so the last of a name is that of the namesake
  rw [planOperations, fresh_mapM, mapM_eq_ok_iff, ← List.forall₂_reverse_iff] at planned
  have alike : ∀ listed plan, (model.operationPlan listed).fresh = .ok plan →
      (listed.name == operation.name) = (plan.operation.name == operation.name) :=
    fun _ _ made => by rw [(operationPlan_eq_ok made).1]
  have found := find?_of_forall₂ alike planned
  rw [find_namesake member] at found
  rw [planNamed]
  generalize plans.reverse.find? (·.operation.name == operation.name) = plan at found ⊢
  cases found with
  | some made => exact ⟨_, rfl, made⟩

/-- No operation of a model loses its plan, or has two. -/
theorem plans_used (planned : model.planOperations.fresh = .ok plans)
    {operations : List Operation} (inside : operations ⊆ model.operations) :
    List.Forall₂ model.Uses operations
      (operations.filterMap fun operation => planNamed plans operation.name) := by
  induction operations with
  | nil => exact .nil
  | cons operation rest ih =>
      obtain ⟨here, later⟩ := List.cons_subset.mp inside
      obtain ⟨plan, named, used⟩ := planNamed_uses planned here
      rw [List.filterMap_cons, named]
      exact .cons used (ih later)

/-- What the file of a group carries: a route and a pair of methods for each plan that its
operations use. -/
structure Carries (model : Model) (group : OperationGroup) (plans : List OperationPlan)
    (source : GroupSource) : Prop where
  path : source.path = group.path
  uses : List.Forall₂ model.Uses group.operations plans
  routes : source.handler.routes = plans.map OperationPlan.routeEntry
  methods : List.Forall₂ (fun plan pair => (plan.methods model).fresh = .ok pair) plans
    source.client.methods
  table : HandlerCode.routesCode source.handler.routes <:+ source.code
  pairs : Code.sequence (source.client.methods.map fun pair => pair.create ++ pair.send) <:+:
    source.code

theorem ofGroup_carries {group : OperationGroup} {source : GroupSource}
    (uses : List.Forall₂ model.Uses group.operations plans)
    (made : (GroupSource.ofGroup model configuration group plans).fresh = .ok source) :
    model.Carries group plans source := by
  have table : HandlerCode.routesCode source.handler.routes <:+ source.code :=
    source.handler.code_routes.trans (List.suffix_append _ _)
  have pairs : Code.sequence (source.client.methods.map fun pair => pair.create ++ pair.send) <:+:
      source.code :=
    source.client.code_methods.trans ⟨source.documentation, source.handler.code, rfl⟩
  obtain ⟨methods, served, called, -, same⟩ := Generation.ofGroup_eq_ok made
  subst same
  exact ⟨rfl, uses, rfl, mapM_eq_ok_iff.mp called, table, pairs⟩

end Model

namespace Generation

/-- How the operations of a model come into the files of its groups: all routes together are those
of the plans that the operations use, each operation using one. -/
structure Routed (model : Model) (policy : GroupingPolicy) (formatter : Formatter)
    (made : List Artifact) (sources : List GroupSource) (plans : List OperationPlan) : Prop where
  groups : List.Forall₂ (fun group source => ∃ plans, model.Carries group plans source)
    (Grouping.partition policy model.operations) sources
  files : ∀ source ∈ sources, ∃ text,
    formatter.format source.path source.code.render = .ok text ∧ ⟨source.path, text⟩ ∈ made
  uses : List.Forall₂ model.Uses model.operations plans
  routes : (sources.flatMap (·.handler.routes)).Perm (plans.map OperationPlan.routeEntry)
  own : ∀ operation ∈ model.operations, ∃ own used,
    (model.operationPlan operation).fresh = .ok own ∧ model.Uses operation used ∧
      (used = own ↔ model.namesake operation = operation)

theorem groupSources_carries {groups : List OperationGroup} {sources : List GroupSource}
    (planned : model.planOperations.fresh = .ok plans)
    (inside : ∀ group ∈ groups, group.operations ⊆ model.operations)
    (made : (groupSources model configuration plans groups).fresh = .ok sources) :
    List.Forall₂ (fun group source => model.Carries group (groupPlans plans group) source)
      groups sources := by
  have each := groupSources_forall₂ made
  clear made
  induction each with
  | nil => exact .nil
  | cons single _ ih =>
      obtain ⟨here, later⟩ := List.forall_mem_cons.mp inside
      exact .cons (Model.ofGroup_carries (Model.plans_used planned here) single) (ih later)

theorem Passed.routed {stages : Stages} (passed : Passed model configuration policy stages)
    (written : artifacts model configuration formatter (stages.sources model configuration) =
      .ok made) :
    Routed model policy formatter made stages.groupSources
      (model.operations.filterMap fun operation => planNamed stages.plans operation.name) := by
  have perm := Grouping.partition_perm policy model.operations
  have inside : ∀ group ∈ Grouping.partition policy model.operations,
      group.operations ⊆ model.operations := by
    intro group member operation listed
    exact perm.mem_iff.mp (List.mem_flatMap.mpr ⟨group, member, listed⟩)
  have made := passed.groupSources
  rw [Grouping.group_eq_ok passed.groups] at made
  have carries := groupSources_carries passed.plans inside made
  constructor
  case groups => exact carries.imp fun _ _ carries => ⟨_, carries⟩
  case files =>
    intro source member
    have listed : (source.path, source.code) ∈ (stages.sources model configuration).files := by
      simp only [Sources.files, Stages.sources, List.mem_cons, List.mem_append, List.mem_map]
      exact .inr ⟨source, member, rfl⟩
    exact artifacts_file written listed
  case uses => exact Model.plans_used passed.plans (List.Subset.refl _)
  case routes =>
    have tables : stages.groupSources.map (·.handler.routes) =
        (Grouping.partition policy model.operations).map fun group =>
          (groupPlans stages.plans group).map OperationPlan.routeEntry := by
      rw [← List.forall₂_eq_eq_eq, List.forall₂_map_left_iff, List.forall₂_map_right_iff]
      exact (carries.imp fun _ _ carries => carries.routes).flip
    -- grouping only reorders the operations, and so the plans that they use
    have used := (perm.filterMap fun operation => planNamed stages.plans operation.name).map
      OperationPlan.routeEntry
    rw [List.filterMap_flatMap, List.map_flatMap] at used
    rw [List.flatMap_def, tables, ← List.flatMap_def]
    exact used
  case own =>
    intro operation member
    obtain ⟨used, -, uses⟩ := Model.planNamed_uses passed.plans member
    have planned := passed.plans
    rw [Model.planOperations, fresh_mapM] at planned
    obtain ⟨own, -, made⟩ := mapM_eq_ok_mem planned member
    refine ⟨own, used, made, uses, ?_⟩
    rw [← uses.own_iff, made, Except.ok.injEq, eq_comm]

/-- Every operation of a run is generated once, from the plan of the last operation of its name;
all are generated from their own plans exactly where names tell the operations apart. -/
theorem generate_routed (generated : generate model configuration formatter = .ok made) :
    ∃ policy sources plans, configuration.validate = .ok policy ∧
      Routed model policy formatter made sources plans ∧
      (List.Forall₂ (fun operation plan => (model.operationPlan operation).fresh = .ok plan)
          model.operations plans ↔
        ∀ a ∈ model.operations, ∀ b ∈ model.operations, a.name = b.name → a = b) := by
  obtain ⟨policy, stages, validated, passed, written⟩ := generate_eq_ok.mp generated
  have routed := passed.routed written
  refine ⟨policy, _, _, validated, routed, ?_⟩
  rw [← Model.namesake_self_iff]
  exact Model.plans_own_iff routed.uses

/-- An operation under a constant route; its name is no part of the route. -/
def listUnder (route : String) : Operation :=
  { name := "list", method := .get, path := [.constant route]
    responses := [{ statusCodes := [.code 204] }] }

/-- A model with two operations of one name, in different groups. -/
def twins : Model := { name := "Twins", operations := [listUnder "/users", listUnder "/orders"] }

def segmentConfiguration : Configuration :=
  { outputFolder := "out", namespaceHint := "api", groupBy := "first-path-segment" }

def twinGroups : List OperationGroup :=
  [⟨"orders", "", [listUnder "/orders"]⟩, ⟨"users", "", [listUnder "/users"]⟩]

def twinPlan (route : String) : OperationPlan := constantPlan (listUnder route) route

theorem twins_passed : ∃ sources, Passed twins segmentConfiguration .firstPathSegment
    ⟨[twinPlan "/users", twinPlan "/orders"], twinGroups, [], [], sources⟩ := by
  have modelless : (ModelFile.all twins [] []).fresh = .ok [] := by
    simp [ModelFile.all, twins, ModelFile.distinctHeaders]
  have grouped : group .firstPathSegment twins.operations = .ok twinGroups := by decide +kernel
  apply passed_of_complete rfl rfl grouped rfl modelless
  case sourced => exact List.forall_mem_cons.mpr ⟨⟨_, rfl⟩, List.forall_mem_singleton.mpr ⟨_, rfl⟩⟩
  case modules => decide +kernel
  case each =>
    have complete (route : String) : (twinPlan route).Complete twins := by
      apply constantPlan_complete
      dsimp only [listUnder]
      decide +kernel
    exact List.forall_mem_cons.mpr ⟨complete _, List.forall_mem_singleton.mpr (complete _)⟩
  case named => decide +kernel
  case exported => exact List.forall_mem_nil _
  case written => exact List.forall_mem_nil _

/-- Both operations of the twins are generated from the plan of the later one: its route stands
twice in the tables, the route of the earlier one nowhere. -/
theorem twins_routed : ∃ made, generate twins segmentConfiguration .standard = .ok made ∧
    ∃ sources plans, Routed twins .firstPathSegment .standard made sources plans ∧
      sources.flatMap (·.handler.routes) = [⟨"GET", "orders", "list"⟩, ⟨"GET", "orders", "list"⟩] ∧
      (twinPlan "/users").routeEntry = ⟨"GET", "users", "list"⟩ := by
  obtain ⟨sources, passed⟩ := twins_passed
  have validated : segmentConfiguration.validate = .ok .firstPathSegment := by cbv
  have distinct : (names segmentConfiguration (Stages.sources twins segmentConfiguration
      ⟨[twinPlan "/users", twinPlan "/orders"], twinGroups, [], [], sources⟩)).Nodup := by
    rw [passed.names_eq]
    exact (by decide +kernel : ["lib.rs", "shared.rs", "models/mod.rs",
      OperationGroup.path ⟨"orders", "", [listUnder "/orders"]⟩,
      OperationGroup.path ⟨"users", "", [listUnder "/users"]⟩, metadataName].Nodup)
  obtain ⟨made, generated⟩ := passed.generates_standard validated distinct
  obtain ⟨policy, sources, plans, validated', routed, -⟩ := generate_routed generated
  rw [validated] at validated'
  cases validated'
  have later : ∀ operation ∈ twins.operations,
      twins.namesake operation = listUnder "/orders" := by
    decide +kernel
  have planned : (twins.operationPlan (listUnder "/orders")).fresh = .ok (twinPlan "/orders") := rfl
  have same : ∀ plan ∈ plans, plan = twinPlan "/orders" := by
    intro plan listed
    obtain ⟨operation, member, used⟩ := exists_of_forall₂ routed.uses listed
    rw [Model.Uses, later operation member, planned] at used
    exact (Except.ok.inj used).symm
  have both : plans = List.replicate 2 (twinPlan "/orders") :=
    List.eq_replicate_iff.mpr ⟨routed.uses.length_eq.symm, same⟩
  have entry : (twinPlan "/orders").routeEntry = ⟨"GET", "orders", "list"⟩ := by decide +kernel
  have routes := routed.routes
  rw [both, List.map_replicate, entry] at routes
  exact ⟨made, generated, sources, plans, routed, List.perm_replicate.mp routes, by decide +kernel⟩

end Generation

end ApiContract
