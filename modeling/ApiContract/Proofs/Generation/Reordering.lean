import ApiContract.Proofs.Generation.Artifacts
import ApiContract.Proofs.Generation.Independence
import ApiContract.Proofs.Generation.Routes
import ApiContract.Proofs.Grouping.Partition
import ApiContract.Proofs.Value.Entries

/-!
The order of operations has no part in what a run gives. Each operation is planned on its own, its
plan is found by its name, and whatever is collected over all plans is sorted before it is used: the
objects that travel as elements by id, the files of models by module, the artifacts by name. Two
operations may declare headers of one type; their order tells nothing where they declare the same.
-/

namespace ApiContract

open Planning

variable {model : Model} {configuration : Configuration} {policy : GroupingPolicy}
  {formatter : Formatter} {made : List Artifact} {plans plans' : List OperationPlan}

/-- Mapping permuted items permutes the results. -/
theorem mapM_reordered {ε α β : Type} {f : α → Except ε β} {items items' : List α}
    {results : List β} (mapped : items.mapM f = .ok results) (reordered : items'.Perm items) :
    ∃ results', items'.mapM f = .ok results' ∧ results'.Perm results := by
  obtain ⟨results', related, perm⟩ :=
    List.perm_comp_forall₂ reordered (mapM_eq_ok_iff.mp mapped)
  exact ⟨results', mapM_eq_ok_iff.mpr related, perm⟩

/-- Where names tell plans apart, the plan of a name is the one that has it. -/
theorem planNamed_eq_some (apart : (plans.map (·.operation.name)).Nodup) {name : String}
    {plan : OperationPlan} :
    planNamed plans name = some plan ↔ plan ∈ plans ∧ plan.operation.name = name := by
  rw [planNamed]
  constructor
  · intro found
    exact ⟨List.mem_reverse.mp (List.mem_of_find?_eq_some found),
      by simpa using List.find?_some found⟩
  · rintro ⟨member, named⟩
    cases found : plans.reverse.find? (·.operation.name == name) with
    | none =>
        have absent := List.find?_eq_none.mp found plan (List.mem_reverse.mpr member)
        exact absurd (beq_iff_eq.mpr named) absent
    | some other =>
        have listed := List.mem_reverse.mp (List.mem_of_find?_eq_some found)
        have same : other.operation.name = name := by simpa using List.find?_some found
        rw [← named] at same
        rw [List.inj_on_of_nodup_map apart listed member same]

theorem planNamed_reordered (apart : (plans.map (·.operation.name)).Nodup)
    (reordered : plans'.Perm plans) : planNamed plans' = planNamed plans := by
  funext name
  have apart' := (reordered.map (·.operation.name)).nodup_iff.mpr apart
  ext plan
  rw [planNamed_eq_some apart, planNamed_eq_some apart', reordered.mem_iff]

namespace Model

/-- A sorted set is known by its members. -/
theorem sortedSet_ext {ids ids' : List SchemaId} (same : ∀ id, id ∈ ids' ↔ id ∈ ids) :
    sortedSet ids' = sortedSet ids := by
  obtain ⟨ascending, found⟩ := @foldl_sortedKeys ids [] List.Pairwise.nil
  obtain ⟨ascending', found'⟩ := @foldl_sortedKeys ids' [] List.Pairwise.nil
  have equal := ascending'.ext ascending fun key => by simp only [found, found', same]
  rw [sortedSet, equal, sortedSet]

theorem elementModels_reordered (reordered : plans'.Perm plans) :
    model.elementModels plans' = model.elementModels plans := by
  have roots : sortedSet (plans'.flatMap OperationPlan.elementRoots) =
      sortedSet (plans.flatMap OperationPlan.elementRoots) :=
    sortedSet_ext fun _ => (reordered.flatMap_right _).mem_iff
  rw [elementModels, elementModels, roots]

/-- The header models that the responses of a model declare. -/
def headerModels (model : Model) : List HeaderModel :=
  model.operations.flatMap fun operation => operation.responses.filterMap (·.headers)

/-- Header models of one type name are the same. -/
def HeadersAgree (model : Model) : Prop :=
  ∀ first ∈ model.headerModels, ∀ second ∈ model.headerModels,
    Naming.typeName first.name = Naming.typeName second.name →
      first.name = second.name ∧ first.headers = second.headers

variable {operation operation' : Operation}

/-- The plan of a header model does not depend on the operation that declares it. -/
theorem headerPlan_unique {headers : HeaderModel} {plan plan' : HeaderPlan}
    (planned : (model.headerPlan operation headers).fresh = .ok plan)
    (planned' : (model.headerPlan operation' headers).fresh = .ok plan') : plan' = plan := by
  have binding : ∀ {field : HeaderField} {bound bound' : HeaderBinding},
      (model.headerBinding operation headers field).fresh = .ok bound →
      (model.headerBinding operation' headers field).fresh = .ok bound' → bound' = bound := by
    intro field bound bound' made made'
    simp only [headerBinding, fresh_bind, fresh_liftM, bind_eq_ok_iff] at made made'
    obtain ⟨kind, carried, made⟩ := made
    obtain ⟨kind', carried', made'⟩ := made'
    rw [carried] at carried'
    cases carried'
    cases kind with
    | none => cases made
    | some kind =>
        simp only [fresh_bind, bind_eq_ok_iff] at made made'
        obtain ⟨type, resolved, same⟩ := made
        obtain ⟨type', resolved', same'⟩ := made'
        rw [resolved] at resolved'
        cases resolved'
        cases same
        cases same'
        rfl
  simp only [headerPlan, fresh_bind, fresh_mapM, bind_eq_ok_iff] at planned planned'
  obtain ⟨fields, each, same⟩ := planned
  obtain ⟨fields', each', same'⟩ := planned'
  cases same
  cases same'
  rw [mapM_eq_ok_iff] at each each'
  have equal : fields' = fields := by
    generalize headers.headers = declared at each each'
    induction each generalizing fields' with
    | nil =>
        cases each'
        rfl
    | cons made _ ih =>
        cases each' with
        | cons made' others' => rw [binding made made', ih _ others']
  rw [equal]

/-- Whatever header plan a table has is that of a response that went into it. -/
def HeadersPlanned (model : Model) (operation : Operation) (responses : List Response)
    (known : Option HeaderPlan) : Prop :=
  ∀ plan, known = some plan → ∃ response ∈ responses, ∃ headers,
    response.headers = some headers ∧ (model.headerPlan operation headers).fresh = .ok plan

theorem HeadersPlanned.join {responses : List Response} {response : Response}
    {known joined : Option HeaderPlan} (planned : model.HeadersPlanned operation responses known)
    (agreed : (model.joinHeaders operation known response.headers).fresh = .ok joined) :
    model.HeadersPlanned operation (responses ++ [response]) joined := by
  have kept : model.HeadersPlanned operation (responses ++ [response]) known := by
    intro plan has
    obtain ⟨earlier, member, headers, declares, made⟩ := planned plan has
    exact ⟨earlier, List.mem_append_left _ member, headers, declares, made⟩
  -- a second header model is only compared with the first
  obtain ⟨rfl, -⟩ | ⟨-, headers, plan, declared, made, rfl⟩ := joinHeaders_cases agreed
  · exact kept
  · rintro _ ⟨⟩
    exact ⟨response, by simp, headers, declared, made⟩

theorem HeadersPlanned.add {responses : List Response} {response : Response}
    {table next : DispatchTable}
    (planned : model.HeadersPlanned operation responses table.headers)
    (added : (model.addResponse operation table response).fresh = .ok next) :
    model.HeadersPlanned operation (responses ++ [response]) next.headers := by
  obtain ⟨_, _, _, _, -, -, headed, rfl⟩ := addResponse_eq_ok added
  exact planned.join headed

theorem dispatchTable_headers {table : DispatchTable} {plan : HeaderPlan}
    (planned : (model.dispatchTable operation).fresh = .ok table)
    (has : table.headers = some plan) :
    ∃ response ∈ operation.responses, ∃ headers, response.headers = some headers ∧
      (model.headerPlan operation headers).fresh = .ok plan := by
  simp only [dispatchTable, fresh_bind, bind_eq_ok_iff] at planned
  obtain ⟨filled, ran, same⟩ := planned
  cases same
  have nothing : model.HeadersPlanned operation [] none := by
    intro plan has
    cases has
  have whole := addResponses_keeps
    (motive := fun responses table => model.HeadersPlanned operation responses table.headers)
    HeadersPlanned.add nothing ran
  exact whole plan has

/-- Header plans of one type are the same where header models of one type are. -/
theorem HeadersAgree.planned (agree : model.HeadersAgree)
    (planned : model.planOperations.fresh = .ok plans) :
    ∀ first ∈ plans.filterMap (·.dispatch.headers), ∀ second ∈ plans.filterMap (·.dispatch.headers),
      first.typeName = second.typeName → first = second := by
  rw [planOperations, fresh_mapM] at planned
  have source : ∀ plan ∈ plans.filterMap (·.dispatch.headers), ∃ operation headers,
      headers ∈ model.headerModels ∧ (model.headerPlan operation headers).fresh = .ok plan := by
    intro plan member
    obtain ⟨whole, listed, has⟩ := List.mem_filterMap.mp member
    obtain ⟨operation, inside, made⟩ := mem_of_mapM_eq_ok planned listed
    obtain ⟨response, declared, headers, declares, ofHeaders⟩ :=
      dispatchTable_headers (operationPlan_eq_ok made).2.2 has
    exact ⟨operation, headers, List.mem_flatMap.mpr
      ⟨operation, inside, List.mem_filterMap.mpr ⟨response, declared, declares⟩⟩, ofHeaders⟩
  intro first inFirst second inSecond same
  obtain ⟨operation, headers, listed, made⟩ := source first inFirst
  obtain ⟨operation', headers', listed', made'⟩ := source second inSecond
  rw [HeaderPlan.typeName, HeaderPlan.typeName, headerPlan_eq_ok made, headerPlan_eq_ok made']
    at same
  obtain ⟨names, fields⟩ := agree headers listed headers' listed' same
  have equal : headers = headers' := by
    cases headers
    cases headers'
    cases names
    cases fields
    rfl
  subst equal
  exact headerPlan_unique made' made

end Model

namespace ModelFile

theorem mem_distinctHeaders {seen : List String} {headers : List HeaderPlan}
    (agree : ∀ first ∈ headers, ∀ second ∈ headers, first.typeName = second.typeName → first = second)
    {plan : HeaderPlan} :
    plan ∈ distinctHeaders seen headers ↔ plan ∈ headers ∧ plan.typeName ∉ seen := by
  have types := (@distinctHeaders_types seen headers).2
  constructor
  · intro member
    exact ⟨distinctHeaders_subset member, ((types _).mp (List.mem_map_of_mem member)).1⟩
  · rintro ⟨member, new⟩
    have listed := (types _).mpr ⟨new, List.mem_map_of_mem member⟩
    obtain ⟨other, kept, same⟩ := List.mem_map.mp listed
    rwa [agree other (distinctHeaders_subset kept) plan member same] at kept

/-- Header plans that agree leave the same plans in whatever order they come. -/
theorem distinctHeaders_reordered {headers headers' : List HeaderPlan}
    (agree : ∀ first ∈ headers, ∀ second ∈ headers, first.typeName = second.typeName → first = second)
    (reordered : headers'.Perm headers) :
    (distinctHeaders [] headers').Perm (distinctHeaders [] headers) := by
  have nodup : ∀ {headers}, (distinctHeaders [] headers).Nodup := fun {headers} =>
    .of_map _ (@distinctHeaders_types [] headers).1
  have agree' : ∀ first ∈ headers', ∀ second ∈ headers',
      first.typeName = second.typeName → first = second := fun first inFirst second inSecond =>
    agree first (reordered.mem_iff.mp inFirst) second (reordered.mem_iff.mp inSecond)
  apply (List.perm_ext_iff_of_nodup nodup nodup).mpr
  intro plan
  rw [mem_distinctHeaders agree', mem_distinctHeaders agree, reordered.mem_iff]

/-- The files of models are sorted by module, which tells them apart. -/
theorem all_reordered {asElements : List SchemaId} {headers headers' : List HeaderPlan}
    {files : List ModelFile} (filed : (all model asElements headers).fresh = .ok files)
    (apart : (files.map ModelFile.module).Nodup)
    (agree : ∀ first ∈ headers, ∀ second ∈ headers, first.typeName = second.typeName → first = second)
    (reordered : headers'.Perm headers) :
    (all model asElements headers').fresh = .ok files := by
  simp only [all, fresh_bind, fresh_mapM, fresh_lift, bind_eq_ok_iff] at filed ⊢
  obtain ⟨ofSchemas, schemas, ofHeaders, written, same⟩ := filed
  obtain ⟨ofHeaders', written', perm⟩ :=
    mapM_reordered written (distinctHeaders_reordered agree reordered)
  refine ⟨ofSchemas, schemas, ofHeaders', written', ?_⟩
  cases same
  refine congrArg Except.ok ?_
  have sorted : ∀ files : List ModelFile, (files.mergeSort fun a b => a.module ≤ b.module).Pairwise
      fun a b => decide (a.module ≤ b.module) = true := fun files =>
    List.pairwise_mergeSort
      (fun _ _ _ first second => by simpa using le_trans (by simpa using first) (by simpa using second))
      (fun a b => by simpa using le_total a.module b.module) _
  have whole := ((List.mergeSort_perm (ofSchemas.filterMap id ++ ofHeaders')
    fun a b => decide (a.module ≤ b.module)).trans (perm.append_left _)).trans
      (List.mergeSort_perm (ofSchemas.filterMap id ++ ofHeaders)
        fun a b => decide (a.module ≤ b.module)).symm
  apply whole.eq_of_pairwise _ (sorted _) (sorted _)
  intro a b inA inB less more
  exact List.inj_on_of_nodup_map apart (whole.mem_iff.mp inA) inB
    (le_antisymm (by simpa using less) (by simpa using more))

end ModelFile

namespace Generation

theorem groupSources_withOperations (operations : List Operation)
    (same : groupPlans plans' = groupPlans plans) (groups : List OperationGroup) :
    groupSources (model.withOperations operations) configuration plans' groups =
      groupSources model configuration plans groups := by
  induction groups with
  | nil => rfl
  | cons group rest ih =>
      rw [groupSources, groupSources, ih, same, GroupSource.ofGroup_withOperations]

/-- All stages come to the same with the operations in another order, only the plans come in that
order too. -/
theorem Passed.reordered {stages : Stages} (passed : Passed model configuration policy stages)
    (apart : (model.operations.map Operation.name).Nodup) (agree : model.HeadersAgree)
    (distinct : (Generation.names configuration (stages.sources model configuration)).Nodup)
    {operations : List Operation} (reordered : operations.Perm model.operations) :
    ∃ plans, Passed (model.withOperations operations) configuration policy
      { stages with plans := plans } := by
  have planned := passed.plans
  rw [Model.planOperations, fresh_mapM] at planned
  obtain ⟨plans, planned', perm⟩ := mapM_reordered planned reordered
  have names : (stages.plans.map (·.operation.name)).Nodup := by
    have same : stages.plans.map (·.operation.name) = model.operations.map Operation.name := by
      rw [List.map_eq_flatMap, List.map_eq_flatMap]
      exact flatMap_of_mapM_eq_ok (fun operation _ plan made =>
        congrArg (fun operation => [operation.name]) (Model.operationPlan_eq_ok made).1) planned
    rwa [same]
  have modules : (stages.models.map ModelFile.module).Nodup := by
    rw [passed.names_eq, List.nodup_append, List.nodup_append, List.nodup_append] at distinct
    have paths := distinct.1.1.2.1
    exact .of_map (fun module => "models/" ++ module ++ ".rs") (by rwa [List.map_map])
  have found : groupPlans plans = groupPlans stages.plans := by
    funext group
    rw [groupPlans, groupPlans, planNamed_reordered names perm]
  refine ⟨plans, ?_⟩
  constructor
  case schemas => rw [Model.planSchemas_withOperations, passed.schemas]
  case plans =>
    rw [Model.planOperations, fresh_mapM]
    rw [Model.operationPlan_withOperations]
    exact planned'
  case groups => exact (Grouping.group_reordered policy apart reordered).trans passed.groups
  case asElements =>
    rw [Model.elementModels_withOperations, Model.elementModels_reordered perm, passed.asElements]
  case models =>
    rw [ModelFile.all_withOperations]
    exact ModelFile.all_reordered passed.models modules (agree.planned passed.plans)
      (perm.filterMap _)
  case groupSources => rw [groupSources_withOperations operations found, passed.groupSources]
  case modules => exact passed.modules
  case complete => exact passed.complete

/-- A run on the operations in another order gives the same artifacts. -/
theorem generate_reordered (apart : (model.operations.map Operation.name).Nodup)
    (agree : model.HeadersAgree) (generated : generate model configuration formatter = .ok made)
    {operations : List Operation} (reordered : operations.Perm model.operations) :
    generate { model with operations } configuration formatter = .ok made := by
  obtain ⟨policy, stages, validated, passed, written⟩ := generate_eq_ok.mp generated
  have distinct := (artifacts_eq_ok.mp written).1
  obtain ⟨plans, passed'⟩ := passed.reordered apart agree distinct reordered
  exact generate_eq_ok.mpr ⟨policy, _, validated, passed', written⟩

/-- Headers that several operations answer with. -/
def receipt : HeaderModel := ⟨"Receipt", [⟨"grade", "X-Grade", "Grade"⟩]⟩

def orderOf (name : String) : Operation :=
  { name, method := .get, path := [.constant ("/" ++ name)]
    responses := [{ statusCodes := [.code 204], headers := some receipt }] }

def stock : Model :=
  { name := "Stock", schemas := [("Grade", .enumeration grades)]
    operations := [orderOf "parts", orderOf "goods"] }

def receiptPlan : HeaderPlan :=
  ⟨"Receipt", [⟨"grade", "X-Grade", .enumeration ⟨"Grade", ["fine"], false, .string⟩,
    ⟨.enumeration "Grade" "Grade" false, false⟩⟩]⟩

def orderPlan (name : String) : OperationPlan :=
  { operation := orderOf name
    call :=
      { operation := name, method := .get, signature := []
        steps := [.appendConstant ("/" ++ name)] }
    dispatch :=
      { operation := name, value := none, valueOptional := false, headers := some receiptPlan
        branches := [⟨.code 204, .noContent⟩] } }

theorem orderPlan_complete {name : String} (named : Naming.fieldName name ≠ "_") :
    (orderPlan name).Complete stock := by
  refine .of_constant named rfl rfl (fun code made => ?_) fun branch listed => ?_
  · cases made
    rfl
  · rw [List.mem_singleton.mp listed]
    apply Code.isComplete_write
    rw [List.forall_mem_cons, List.forall_mem_singleton]
    refine ⟨rfl, Code.isComplete_write ?_⟩
    rw [List.forall_mem_cons, List.forall_mem_singleton]
    exact ⟨Code.isComplete_plain "()", Code.isComplete_write (by decide +kernel)⟩

theorem receipt_file : ∃ file, receiptPlan.file = .ok file ∧ file.module = "receipt" ∧
    file.exports = ["Receipt"] ∧ file.code.isComplete = true := by
  have typed : ∀ binding ∈ receiptPlan.fields, ∃ code, binding.type.type.code = .ok code ∧
      code.isComplete = true := by
    rw [receiptPlan, List.forall_mem_singleton]
    exact ⟨modelPath "Grade", rfl, by decide +kernel⟩
  obtain ⟨file, made, exports⟩ := HeaderPlan.exists_file fun binding member =>
    (typed binding member).imp fun _ => And.left
  have module := HeaderPlan.file_module made
  refine ⟨file, made, ?_, ?_, ?_⟩
  · rw [module]
    decide +kernel
  · rw [exports]
    decide +kernel
  · apply HeaderPlan.file_complete made (by decide +kernel)
    intro binding member
    obtain ⟨code, coded, complete⟩ := typed binding member
    refine ⟨?_, fun other same => ?_⟩
    · rw [List.mem_singleton.mp member]
      decide +kernel
    · rw [coded] at same
      exact Except.ok.inj same ▸ complete

theorem stock_files : ∃ grade header,
    (ModelFile.all stock [] [receiptPlan, receiptPlan]).fresh = .ok [grade, header] ∧
      (grade.module = "grade" ∧ grade.exports = ["Grade"] ∧ grade.code.isComplete = true) ∧
      header.module = "receipt" ∧ header.exports = ["Receipt"] ∧
      header.code.isComplete = true := by
  obtain ⟨grade, gradeMade, gradeIs⟩ := grades_file
  obtain ⟨header, headerMade, headerIs⟩ := receipt_file
  refine ⟨grade, header, ?_, gradeIs, headerIs⟩
  have once : ModelFile.distinctHeaders [] [receiptPlan, receiptPlan] = [receiptPlan] := by
    decide +kernel
  have ofHeaders : [receiptPlan].mapM HeaderPlan.file = .ok [header] :=
    mapM_eq_ok_iff.mpr (.cons headerMade .nil)
  have ofSchemas : stock.schemas.mapM (fun entry => (ModelFile.ofSchema stock [] entry).fresh) =
      .ok [some grade] := by
    apply mapM_eq_ok_iff.mpr
    refine .cons ?_ .nil
    rw [ModelFile.ofSchema, fresh_bind, fresh_liftM, gradeMade]
    rfl
  have filed : (ModelFile.all stock [] [receiptPlan, receiptPlan]).fresh =
      .ok ([some grade].filterMap id ++ [header]) := by
    have modules : ([some grade].filterMap id ++ [header]).map ModelFile.module =
        ["grade", "receipt"] := by
      simp [gradeIs, headerIs]
    apply ModelFile.all_of_ordered ofSchemas (once ▸ ofHeaders)
    rw [modules]
    decide +kernel
  exact filed

def stockGroups : List OperationGroup :=
  [⟨"goods", "", [orderOf "goods"]⟩, ⟨"parts", "", [orderOf "parts"]⟩]

theorem stock_passed : ∃ grade header sources,
    (grade.module = "grade" ∧ header.module = "receipt") ∧
    Passed stock segmentConfiguration .firstPathSegment
      ⟨[orderPlan "parts", orderPlan "goods"], stockGroups, [], [grade, header], sources⟩ := by
  obtain ⟨grade, header, filed, ⟨gradeModule, gradeExports, gradeComplete⟩, module, exports,
    complete⟩ := stock_files
  refine ⟨grade, header, ?_⟩
  have grouped : group .firstPathSegment stock.operations = .ok stockGroups := by decide +kernel
  have plans : stock.planOperations.fresh = .ok [orderPlan "parts", orderPlan "goods"] := rfl
  have passed : ∃ sources, Passed stock segmentConfiguration .firstPathSegment
      ⟨[orderPlan "parts", orderPlan "goods"], stockGroups, [], [grade, header], sources⟩ := by
    apply passed_of_complete rfl plans grouped rfl filed
    case sourced =>
      exact List.forall_mem_cons.mpr ⟨⟨_, rfl⟩, List.forall_mem_singleton.mpr ⟨_, rfl⟩⟩
    case modules => decide +kernel
    case each =>
      rw [List.forall_mem_cons, List.forall_mem_singleton]
      exact ⟨orderPlan_complete (by decide +kernel), orderPlan_complete (by decide +kernel)⟩
    case named => decide +kernel
    case exported => simp [gradeModule, gradeExports, module, exports]
    case written => simp [gradeComplete, complete]
  exact passed.imp fun sources passed => ⟨⟨gradeModule, module⟩, passed⟩

/-- The stock is generated alike whichever of its operations comes first. -/
theorem stock_reordered :
    (stock.operations.map Operation.name).Nodup ∧ stock.HeadersAgree ∧ ∃ made,
      generate stock segmentConfiguration .standard = .ok made ∧
        generate { stock with operations := [orderOf "goods", orderOf "parts"] }
          segmentConfiguration .standard = .ok made := by
  obtain ⟨grade, header, sources, ⟨gradeModule, module⟩, passed⟩ := stock_passed
  have validated : segmentConfiguration.validate = .ok .firstPathSegment := by cbv
  have distinct : (names segmentConfiguration (Stages.sources stock segmentConfiguration
      ⟨[orderPlan "parts", orderPlan "goods"], stockGroups, [], [grade, header], sources⟩)).Nodup := by
    rw [passed.names_eq, List.map_cons, List.map_singleton, Sources.modelPath, Sources.modelPath,
      gradeModule, module]
    exact (by decide +kernel :
      ["lib.rs", "shared.rs", "models/mod.rs", "models/grade.rs", "models/receipt.rs",
        OperationGroup.path ⟨"goods", "", [orderOf "goods"]⟩,
        OperationGroup.path ⟨"parts", "", [orderOf "parts"]⟩, metadataName].Nodup)
  obtain ⟨made, generated⟩ := passed.generates_standard validated distinct
  have agree : stock.HeadersAgree := by
    have declared : ∀ headers ∈ stock.headerModels, headers = receipt := by
      rw [show stock.headerModels = [receipt, receipt] from rfl]
      simp
    intro first inFirst second inSecond _
    rw [declared first inFirst, declared second inSecond]
    exact ⟨rfl, rfl⟩
  have apart : (stock.operations.map Operation.name).Nodup := by decide
  exact ⟨apart, agree, made, generated, generate_reordered apart agree generated (.swap _ _ [])⟩

end Generation

end ApiContract
