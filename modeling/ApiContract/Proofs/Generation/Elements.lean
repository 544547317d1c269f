import ApiContract.Proofs.Call.Completeness
import ApiContract.Proofs.Generation.Routes
import ApiContract.Proofs.Generation.Sketches
import ApiContract.Proofs.Plan.Ending
import ApiContract.Proofs.Plan.Placement

/-!
The objects that travel as elements. The closure of an object is what is reachable from it through the
content of elements, and it fails where one of these objects cannot be carried so. A run starts from
the objects that its operations send and receive; each object it gets to has code that carries it, and
no code asks for that of another one.
-/

namespace ApiContract

open Planning

variable {model : Model} {configuration : Configuration} {policy : GroupingPolicy}
  {formatter : Formatter} {made : List Artifact}

namespace Model

/-- One object is reachable from another through the content of elements. -/
def Reaches (model : Model) : SchemaId → SchemaId → Prop := Relation.ReflTransGen model.ContentLink

/-- A schema can be carried as an element. -/
def AsElement (model : Model) (id : SchemaId) : Prop :=
  ∃ plan, model.planOf id .xml = .ok (.element plan)

theorem reachable_iff {root : SchemaId} (planned : ∀ id, model.XmlReachable root id → model.AsElement id)
    (id : SchemaId) : model.XmlReachable root id ↔ model.Reaches root id :=
  ⟨XmlReachable.links, reachable_of_links planned⟩

/-- The closure of an object succeeds exactly where all that is reachable can be carried as elements,
and is then all that is reachable, in order and each once. -/
theorem closure_exact {memo : Memo} (lawful : memo.Obeys model.tableLaw) (root : SchemaId) :
    ((∃ ids, ((model.xmlClosure root).run memo).1 = .ok ids) ↔
        ∀ id, model.Reaches root id → model.AsElement id) ∧
      ∀ ids, ((model.xmlClosure root).run memo).1 = .ok ids →
        ids.Pairwise (· < ·) ∧ ∀ id, id ∈ ids ↔ model.Reaches root id := by
  rw [((xmlClosure_steady root).run lawful).1]
  have planned : ∀ {ids}, (model.xmlClosure root).fresh = .ok ids →
      ∀ id, model.XmlReachable root id → model.AsElement id :=
    fun closed _ reachable => planned_of_closure closed reachable
  refine ⟨⟨?_, fun each => ?_⟩, fun ids closed => ?_⟩
  · rintro ⟨ids, closed⟩ id reaches
    exact planned closed id ((reachable_iff (planned closed) id).mpr reaches)
  · exact closure_of_planned fun id reachable => each id reachable.links
  · obtain ⟨ascending, members⟩ := mem_closure closed
    exact ⟨ascending, fun id => (members id).trans (reachable_iff (planned closed) id)⟩

theorem AsElement.isObject {id : SchemaId} (asElement : model.AsElement id) : model.IsObject id := by
  obtain ⟨plan, planned⟩ := asElement
  obtain ⟨object, -, -, present, -⟩ := planOf_carriers planned
  exact ⟨object, present⟩

/-- What is carried as an element is a model outside of every hierarchy. -/
theorem AsElement.type {id : SchemaId} (asElement : model.AsElement id) {type : RustType}
    (computed : model.typeOf id = .ok type) : ∃ name, type = .model name id .plain := by
  obtain ⟨plan, planned⟩ := asElement
  obtain ⟨object, -, -, present, rootless, -⟩ := planOf_carriers planned
  obtain ⟨role, has, rfl⟩ := typeOf_object present computed
  cases has with
  | plain => exact ⟨_, rfl⟩
  | derived _ walked _ => cases rootless.symm.trans walked
  | base declared _ =>
      -- A declared discriminator would make the object a root of its own.
      have own := hierarchyRoot_eq_some.mpr ⟨_, .here present (by rw [declared]; rfl)⟩
      cases rootless.symm.trans own

theorem isObject_iff {id : SchemaId} : model.isObject id = true ↔ model.IsObject id := by
  rw [isObject, IsObject]
  cases model.schema? id with
  | none => simp
  | some schema => cases schema <;> simp [Schema.object?]

theorem mem_sortedSet {ids : List SchemaId} {id : SchemaId} : id ∈ sortedSet ids ↔ id ∈ ids :=
  (collected_keys ids).2 id

/-- The objects of a run that travel as elements are those reachable from what its operations carry,
and all of them can. -/
theorem mem_elementModels {plans : List OperationPlan} {elements : List SchemaId}
    (collected : (model.elementModels plans).fresh = .ok elements) (id : SchemaId) :
    (id ∈ elements ↔ ∃ plan ∈ plans, ∃ root ∈ plan.elementRoots,
        model.IsObject root ∧ model.Reaches root id) ∧
      (id ∈ elements → model.AsElement id) := by
  simp only [elementModels, fresh_bind, fresh_mapM, fresh_pure, bind_eq_ok_iff, Except.ok.injEq]
    at collected
  obtain ⟨closures, closed, rfl⟩ := collected
  have lawful := Memo.empty_obeys model.tableLaw
  have exact : ∀ {root ids}, (model.xmlClosure root).fresh = .ok ids →
      (∀ id, id ∈ ids ↔ model.Reaches root id) ∧ ∀ id ∈ ids, model.AsElement id := by
    intro root ids closed
    have ran : ((model.xmlClosure root).run {}).1 = .ok ids := by
      rw [((xmlClosure_steady root).run lawful).1, closed]
    obtain ⟨ends, members⟩ := closure_exact lawful root
    refine ⟨(members ids ran).2, fun id inside => ?_⟩
    exact ends.mp ⟨ids, ran⟩ id (((members ids ran).2 id).mp inside)
  have isRoot : ∀ root, root ∈ (sortedSet (plans.flatMap OperationPlan.elementRoots)).filter
      model.isObject ↔ (∃ plan ∈ plans, root ∈ plan.elementRoots) ∧ model.IsObject root := by
    intro root
    rw [List.mem_filter, mem_sortedSet, List.mem_flatMap, isObject_iff]
  have member : id ∈ (sortedSet closures.flatten).filter model.isObject ↔
      (∃ ids ∈ closures, id ∈ ids) ∧ model.IsObject id := by
    rw [List.mem_filter, mem_sortedSet, List.mem_flatten, isObject_iff]
  rw [member]
  refine ⟨⟨?_, ?_⟩, ?_⟩
  · rintro ⟨⟨ids, listed, inside⟩, -⟩
    obtain ⟨root, starts, closedFrom⟩ := mem_of_mapM_eq_ok closed listed
    obtain ⟨⟨plan, planned, isOf⟩, isObject⟩ := (isRoot root).mp starts
    exact ⟨plan, planned, root, isOf, isObject, ((exact closedFrom).1 id).mp inside⟩
  · rintro ⟨plan, planned, root, isOf, isObject, reaches⟩
    obtain ⟨ids, listed, closedFrom⟩ :=
      mapM_eq_ok_mem closed ((isRoot root).mpr ⟨⟨plan, planned, isOf⟩, isObject⟩)
    have inside := ((exact closedFrom).1 id).mpr reaches
    exact ⟨⟨ids, listed, inside⟩, ((exact closedFrom).2 id inside).isObject⟩
  · rintro ⟨⟨ids, listed, inside⟩, -⟩
    obtain ⟨root, -, closedFrom⟩ := mem_of_mapM_eq_ok closed listed
    exact (exact closedFrom).2 id inside

section Calls
variable {operation : Operation} {call : CallPlan}

/-- The parts that a call plan is put together from. -/
theorem callPlan_eq_ok (planned : (model.callPlan operation).fresh = .ok call) :
    (model.signature operation).fresh = .ok call.signature ∧
      ∃ before body, model.textSteps operation = .ok before ∧
        (model.bodySteps operation).fresh = .ok body ∧ call.steps = before ++ body := by
  simp only [callPlan, fresh_bind, fresh_liftM, fresh_pure, bind_eq_ok_iff, Except.ok.injEq]
    at planned
  obtain ⟨signature, signed, before, textMade, body, bodyMade, rfl⟩ := planned
  exact ⟨signed, before, body, textMade, bodyMade, rfl⟩

/-- Each parameter that is no constant is in the signature, and nothing else is. -/
theorem mem_signature (planned : (model.callPlan operation).fresh = .ok call)
    (bound : SignatureParameter) : bound ∈ call.signature ↔
      ∃ parameter ∈ operation.parameters, parameter.constant = none ∧
        (model.signatureParameter operation parameter).fresh = .ok bound := by
  have signed := (callPlan_eq_ok planned).1
  simp only [signature, fresh_bind, fresh_mapM, bind_eq_ok_iff] at signed
  obtain ⟨all, each, parts⟩ := signed
  simp only [List.partition_eq_filter_filter] at parts
  have order : bound ∈ call.signature ↔ bound ∈ all := by
    rw [← Except.ok.inj parts, List.mem_append, List.mem_filter, List.mem_filter]
    cases given : bound.default <;> simp [given]
  rw [order]
  constructor
  · intro inside
    obtain ⟨parameter, free, madeOf⟩ := mem_of_mapM_eq_ok each inside
    obtain ⟨declared, constant⟩ := List.mem_filter.mp free
    exact ⟨parameter, declared, Option.isNone_iff_eq_none.mp constant, madeOf⟩
  · rintro ⟨parameter, declared, constant, madeOf⟩
    have free : parameter ∈ operation.parameters.filter (·.constant.isNone) :=
      List.mem_filter.mpr ⟨declared, by rw [constant]; rfl⟩
    obtain ⟨bound', inside, madeOf'⟩ := mapM_eq_ok_mem each free
    cases madeOf.symm.trans madeOf'
    exact inside

theorem exists_signatureParameter (planned : (model.callPlan operation).fresh = .ok call)
    {parameter : Parameter} (declared : parameter ∈ operation.parameters)
    (constant : parameter.constant = none) :
    ∃ bound, (model.signatureParameter operation parameter).fresh = .ok bound := by
  have signed := (callPlan_eq_ok planned).1
  simp only [signature, fresh_bind, fresh_mapM, bind_eq_ok_iff] at signed
  obtain ⟨all, each, -⟩ := signed
  have free : parameter ∈ operation.parameters.filter (·.constant.isNone) :=
    List.mem_filter.mpr ⟨declared, by rw [constant]; rfl⟩
  obtain ⟨bound, -, madeOf⟩ := mapM_eq_ok_mem each free
  exact ⟨bound, madeOf⟩

theorem signatureParameter_eq_ok {parameter : Parameter} {bound : SignatureParameter}
    (madeOf : (model.signatureParameter operation parameter).fresh = .ok bound) :
    bound.name = parameter.name ∧ model.typeOf parameter.schema = .ok bound.type.type := by
  simp only [signatureParameter, resolveParameter, fresh_bind, fresh_resolveUse, fresh_pure,
    bind_eq_ok_iff, Except.ok.injEq] at madeOf
  obtain ⟨used, resolved, rfl⟩ := madeOf
  obtain ⟨type, computed, rfl⟩ := map_eq_ok resolved
  exact ⟨rfl, typeOf_eq_ok computed⟩

/-- With distinct names, a call plan finds under a name the parameter of that name, unless it is a
constant. -/
theorem parameter?_eq_some (planned : (model.callPlan operation).fresh = .ok call)
    (distinct : (operation.parameters.map (·.name)).Nodup) {parameter : Parameter}
    (declared : parameter ∈ operation.parameters) (bound : SignatureParameter) :
    call.parameter? parameter.name = some bound ↔ parameter.constant = none ∧
      (model.signatureParameter operation parameter).fresh = .ok bound := by
  have own : ∀ {bound : SignatureParameter}, bound ∈ call.signature →
      bound.name = parameter.name → parameter.constant = none ∧
        (model.signatureParameter operation parameter).fresh = .ok bound := by
    intro bound inside named
    obtain ⟨other, declared', free, madeOf⟩ := (mem_signature planned bound).mp inside
    have sameName : other.name = parameter.name :=
      (signatureParameter_eq_ok madeOf).1.symm.trans named
    have same := find?_name distinct declared'
    rw [sameName, find?_name distinct declared] at same
    cases same
    exact ⟨free, madeOf⟩
  constructor
  · intro found
    have named : bound.name = parameter.name := by simpa using List.find?_some found
    exact own (List.mem_of_find?_eq_some found) named
  · rintro ⟨free, madeOf⟩
    have inside := (mem_signature planned bound).mpr ⟨parameter, declared, free, madeOf⟩
    have named := (signatureParameter_eq_ok madeOf).1
    cases found : call.parameter? parameter.name with
    | none =>
        have apart := List.find?_eq_none.mp found bound inside
        exact absurd named (by simpa using apart)
    | some other =>
        have named' : other.name = parameter.name := by simpa using List.find?_some found
        have madeOf' := (own (List.mem_of_find?_eq_some found) named').2
        rw [madeOf] at madeOf'
        exact congrArg some (Except.ok.inj madeOf').symm

/-- What the body of a request is planned from. -/
theorem bodyStep_source {requested : RequestBody} {body : BodyStep}
    (stepped : (model.bodyStep operation requested).fresh = .ok body) :
    match requested with
    | .schema name format _ => ∃ parameter ∈ operation.parameters, parameter.name = name ∧
        ∃ wire, model.planOf parameter.schema format = .ok wire ∧
          body.source = .planned name format wire
    | .binary name _ => body.source = .binary name
    | .text name _ => body.source = .text name
    | .flattened id initializers format _ => ∃ wire, model.planOf id format = .ok wire ∧
        body.source = .flattened id initializers format wire := by
  cases requested with
  | schema name format contentType =>
      simp only [bodyStep, fresh_bind, fresh_liftM, fresh_pure, bind_eq_ok_iff, Except.ok.injEq]
        at stepped
      obtain ⟨parameter, found, wire, planned, rfl⟩ := stepped
      obtain ⟨declared, rfl⟩ := CallPlan.declared_eq_ok found
      exact ⟨parameter, declared, rfl, wire, planned, rfl⟩
  | flattened id initializers format contentType =>
      simp only [bodyStep, fresh_bind, fresh_liftM, fresh_pure, bind_eq_ok_iff, Except.ok.injEq]
        at stepped
      obtain ⟨_, -, wire, planned, rfl⟩ := stepped
      exact ⟨wire, planned, rfl⟩
  | _ =>
      simp only [bodyStep, fresh_bind, fresh_liftM, fresh_pure, bind_eq_ok_iff, Except.ok.injEq]
        at stepped
      obtain ⟨parameter, found, _, -, rfl⟩ := stepped
      exact (CallPlan.declared_eq_ok found).2 ▸ rfl

/-- A call plan has a body where its operation has one, and it is planned from that. -/
theorem callPlan_body (planned : (model.callPlan operation).fresh = .ok call) :
    (operation.body = none ∧ call.body? = none) ∨
      ∃ requested body, operation.body = some requested ∧
        (model.bodyStep operation requested).fresh = .ok body ∧ call.body? = some body := by
  obtain ⟨-, before, steps, textMade, bodyMade, split⟩ := callPlan_eq_ok planned
  have textless : ∀ step ∈ before, ∀ body, step ≠ .setBody body := by
    rintro _ member body rfl
    exact CallPlan.textSteps_bodiless textMade member
  rw [CallPlan.body?, split, List.findSome?_append, List.findSome?_eq_none_iff.mpr, Option.none_or]
  swap
  · intro step member
    cases step with
    | setBody body => exact absurd rfl (textless _ member body)
    | _ => rfl
  rw [bodySteps] at bodyMade
  cases requests : operation.body with
  | none =>
      rw [requests] at bodyMade
      cases bodyMade
      exact .inl ⟨rfl, rfl⟩
  | some requested =>
      rw [requests] at bodyMade
      simp only [fresh_bind, fresh_pure, bind_eq_ok_iff, Except.ok.injEq] at bodyMade
      obtain ⟨body, stepped, rfl⟩ := bodyMade
      exact .inr ⟨requested, body, rfl, stepped, rfl⟩

/-- A body with a source is planned from the body of the operation. -/
theorem body?_source (planned : (model.callPlan operation).fresh = .ok call) {source : BodySource}
    (has : call.body?.map BodyStep.source = some source) :
    ∃ requested body, operation.body = some requested ∧
      (model.bodyStep operation requested).fresh = .ok body ∧ body.source = source := by
  rcases callPlan_body planned with ⟨-, none⟩ | ⟨requested, body, requests, stepped, some⟩
  · rw [none] at has
    cases has
  · rw [some] at has
    exact ⟨requested, body, requests, stepped, Option.some.inj has⟩

end Calls

section Responses
variable {operation : Operation} {table next : DispatchTable} {responses : List Response}

/-- The value of a table is that of every response with a typed body. -/
def TypedAlike (model : Model) (responses : List Response) (table : DispatchTable) : Prop :=
  ∀ response ∈ responses, ∀ id format, response.body = .typed id format →
    ∃ used, (model.resolve id).fresh = .ok used ∧ table.value = some (.typed used)

theorem joinValues_known {first joined added : Option ReturnedValue} {value : ReturnedValue}
    (agreed : joinValues operation first added = .ok joined)
    (known : first = some value ∨ added = some value) : joined = some value := by
  obtain ⟨rfl, rfl | rfl⟩ | ⟨rfl, rfl⟩ := joinValues_cases agreed <;> simpa using known

theorem addResponse_typed {response : Response} (alike : model.TypedAlike responses table)
    (added : (model.addResponse operation table response).fresh = .ok next) :
    model.TypedAlike (responses ++ [response]) next := by
  obtain ⟨action, value, headers, joined, acted, valued, -, rfl⟩ := addResponse_eq_ok added
  intro other member id format typed
  rcases List.mem_append.mp member with before | last
  · obtain ⟨used, resolved, known⟩ := alike other before id format typed
    exact ⟨used, resolved, joinValues_known valued (.inl known)⟩
  · rw [List.mem_singleton.mp last] at typed
    rw [typed] at acted
    simp only [bodyAction, fresh_bind, bind_eq_ok_iff] at acted
    obtain ⟨plan, -, used, resolved, same⟩ := acted
    cases same
    exact ⟨used, resolved, joinValues_known valued (.inr rfl)⟩

theorem dispatchTable_typed (planned : (model.dispatchTable operation).fresh = .ok table) :
    model.TypedAlike operation.responses table := by
  simp only [dispatchTable, fresh_bind, bind_eq_ok_iff] at planned
  obtain ⟨filled, added, same⟩ := planned
  cases same
  have nothing : ∀ table, model.TypedAlike [] table := fun _ _ member => by cases member
  have filledTyped : model.TypedAlike operation.responses filled :=
    addResponses_keeps addResponse_typed (nothing _) added
  exact filledTyped

/-- A response with an element for its body and a code has a branch that reads one. -/
theorem exists_elementBranch (planned : (model.dispatchTable operation).fresh = .ok table)
    {response : Response} {id : SchemaId} (member : response ∈ operation.responses)
    (coded : response.statusCodes ≠ []) (typed : response.body = .typed id .xml) :
    ∃ wire, model.planOf id .xml = .ok wire ∧
      ∃ branch ∈ table.branches, branch.action = .read .xml wire := by
  obtain ⟨code, rest, codes⟩ := List.exists_cons_of_ne_nil coded
  have declared : (code, response) ∈ codesOf operation.responses :=
    List.mem_flatMap.mpr ⟨response, member, List.mem_map.mpr ⟨code, by simp [codes], rfl⟩⟩
  have described := (dispatchTable_describes planned).1.branches
  obtain ⟨branch, listed, -, acts⟩ := exists_of_forall₂ described.flip declared
  rw [typed] at acts
  generalize same : branch.action = action at acts
  cases acts with
  | typed planned => exact ⟨_, planned, branch, listed, same⟩

/-- A branch that reads an element is that of a response with such a body and a code. -/
theorem elementBranch_response (planned : (model.dispatchTable operation).fresh = .ok table)
    {branch : DispatchBranch} {wire : WirePlan} (listed : branch ∈ table.branches)
    (reads : branch.action = .read .xml wire) :
    ∃ response ∈ operation.responses, response.statusCodes ≠ [] ∧
      ∃ id, response.body = .typed id .xml := by
  have described := (dispatchTable_describes planned).1.branches
  obtain ⟨⟨code, response⟩, declared, -, acts⟩ := exists_of_forall₂ described listed
  obtain ⟨response', member, inside⟩ := List.mem_flatMap.mp declared
  obtain ⟨code', coded, same⟩ := List.mem_map.mp inside
  cases same
  rw [reads] at acts
  generalize typed : (code, response).2.body = body at acts
  cases acts with
  | typed _ => exact ⟨response, member, List.ne_nil_of_mem coded, _, typed⟩

end Responses

end Model

/-! What operations carry. -/

/-- An operation carries a schema as an element: as a body that callers give as a whole, as one that
is put together from parameters, or as a response with a status code. -/
inductive Operation.CarriesElement (operation : Operation) : SchemaId → Prop
  | body {parameter : Parameter} {contentType : Option String} :
      (operation.parameters.map (·.name)).Nodup → parameter ∈ operation.parameters →
      parameter.constant = none →
      operation.body = some (.schema parameter.name .xml contentType) →
      CarriesElement operation parameter.schema
  | flattened {id : SchemaId} {initializers : List BodyInitializer} {contentType : Option String} :
      operation.body = some (.flattened id initializers .xml contentType) →
      CarriesElement operation id
  | response {response : Response} {id : SchemaId} : response ∈ operation.responses →
      response.statusCodes ≠ [] → response.body = .typed id .xml → CarriesElement operation id

/-- The code of an operation makes elements of values of a type, or reads such values: of a parameter,
of what it puts together, or of the result. -/
inductive OperationPlan.Converts (model : Model) (plan : OperationPlan) : RustType → Prop
  | parameter {name : String} {wire : WirePlan} {parameter : SignatureParameter} :
      plan.call.body?.map BodyStep.source = some (.planned name .xml wire) →
      plan.call.parameter? name = some parameter → Converts model plan parameter.type.type
  | flattened {id : SchemaId} {initializers : List BodyInitializer} {wire : WirePlan}
      {type : RustType} :
      plan.call.body?.map BodyStep.source = some (.flattened id initializers .xml wire) →
      model.typeOf id = .ok type → Converts model plan type
  | result {branch : DispatchBranch} {wire : WirePlan} {used : TypeUse} :
      branch ∈ plan.dispatch.branches → branch.action = .read .xml wire →
      plan.dispatch.value = some (.typed used) → Converts model plan used.type

namespace Model

section Roots
variable {operation : Operation} {plan : OperationPlan} {id : SchemaId}

theorem asElement_of_planned {wire : WirePlan} (planned : model.planOf id .xml = .ok wire) :
    model.AsElement id := by
  obtain ⟨element, rfl, -⟩ := planOf_xml planned
  exact ⟨element, planned⟩

/-- What an operation carries can be carried as an element, and the run starts from it. -/
theorem carried_root (planned : (model.operationPlan operation).fresh = .ok plan)
    (carries : operation.CarriesElement id) : model.AsElement id ∧ id ∈ plan.elementRoots := by
  obtain ⟨-, called, dispatched⟩ := operationPlan_eq_ok planned
  rw [OperationPlan.elementRoots, List.mem_append, Option.mem_toList, Option.mem_toList]
  cases carries with
  | @body parameter contentType distinct declared free requests =>
      rcases callPlan_body called with ⟨none, -⟩ | ⟨requested, body, requests', stepped, has⟩
      · cases requests.symm.trans none
      cases requests.symm.trans requests'
      obtain ⟨other, declared', named, wire, elementPlanned, source⟩ := bodyStep_source stepped
      -- The body is planned through the first parameter of the name, which is the only one.
      have same := find?_name distinct declared'
      rw [named, find?_name distinct declared] at same
      cases same
      have asElement := asElement_of_planned elementPlanned
      obtain ⟨bound, madeOf⟩ := exists_signatureParameter called declared free
      have found := (parameter?_eq_some called distinct declared bound).mpr ⟨free, madeOf⟩
      obtain ⟨name, isModel⟩ := asElement.type (signatureParameter_eq_ok madeOf).2
      refine ⟨asElement, .inl ?_⟩
      simp only [OperationPlan.sentElement?, has, Option.map_some, source, found, Option.bind_some,
        isModel, RustType.elementSchema?, RustType.schema?]
  | flattened requests =>
      rcases callPlan_body called with ⟨none, -⟩ | ⟨requested, body, requests', stepped, has⟩
      · cases requests.symm.trans none
      cases requests.symm.trans requests'
      obtain ⟨wire, elementPlanned, source⟩ := bodyStep_source stepped
      refine ⟨asElement_of_planned elementPlanned, .inl ?_⟩
      simp only [OperationPlan.sentElement?, has, Option.map_some, source]
  | @response response _ member coded typed =>
      obtain ⟨wire, elementPlanned, branch, listed, reads⟩ :=
        exists_elementBranch dispatched member coded typed
      have asElement := asElement_of_planned elementPlanned
      obtain ⟨used, resolved, value⟩ := dispatchTable_typed dispatched _ member _ _ typed
      rw [fresh_resolve] at resolved
      obtain ⟨type, computed, rfl⟩ := map_eq_ok resolved
      obtain ⟨name, rfl⟩ := asElement.type computed
      have readsElement : plan.readsElement = true :=
        List.any_eq_true.mpr ⟨branch, listed, by rw [reads]⟩
      refine ⟨asElement, .inr ?_⟩
      simp only [OperationPlan.receivedElement?, value, readsElement, if_true,
        RustType.elementSchema?, RustType.schema?]

/-- What the code of an operation converts is a model that the operation carries. -/
theorem converts_carried (planned : (model.operationPlan operation).fresh = .ok plan)
    (distinct : (operation.parameters.map (·.name)).Nodup) {type : RustType}
    (converts : plan.Converts model type) :
    ∃ id name, operation.CarriesElement id ∧ type = .model name id .plain := by
  obtain ⟨-, called, dispatched⟩ := operationPlan_eq_ok planned
  have whole : ∀ {id type}, operation.CarriesElement id → model.typeOf id = .ok type →
      ∃ id name, operation.CarriesElement id ∧ type = .model name id .plain := by
    intro id type carries computed
    obtain ⟨name, isModel⟩ := (carried_root planned carries).1.type computed
    exact ⟨id, name, carries, isModel⟩
  cases converts with
  | parameter has found =>
      obtain ⟨requested, body, requests, stepped, source⟩ := body?_source called has
      have planned := bodyStep_source stepped
      rw [source] at planned
      cases requested with
      | schema name format contentType =>
          obtain ⟨parameter, declared, named, wire, -, same⟩ := planned
          cases same
          subst named
          obtain ⟨free, madeOf⟩ := (parameter?_eq_some called distinct declared _).mp found
          exact whole (.body distinct declared free requests) (signatureParameter_eq_ok madeOf).2
      | flattened =>
          obtain ⟨wire, -, same⟩ := planned
          cases same
      | _ => cases planned
  | flattened has computed =>
      obtain ⟨requested, body, requests, stepped, source⟩ := body?_source called has
      have planned := bodyStep_source stepped
      rw [source] at planned
      cases requested with
      | flattened id initializers format contentType =>
          obtain ⟨wire, -, same⟩ := planned
          cases same
          exact whole (.flattened requests) computed
      | schema =>
          obtain ⟨_, -, -, _, -, same⟩ := planned
          cases same
      | _ => cases planned
  | result listed reads value =>
      obtain ⟨response, member, coded, id, typed⟩ := elementBranch_response dispatched listed reads
      obtain ⟨used, resolved, value'⟩ := dispatchTable_typed dispatched _ member _ _ typed
      cases value.symm.trans value'
      rw [fresh_resolve] at resolved
      obtain ⟨type, computed, rfl⟩ := map_eq_ok resolved
      exact whole (.response member coded typed) computed

end Roots

/-- The file of an object that travels as an element is its file otherwise, with the code that
carries it behind. -/
theorem objectFile_element {id : SchemaId} {file : ModelFile} (asElement : model.AsElement id)
    (written : (model.objectFile id true).fresh = .ok file) :
    ∃ bare element, (model.objectFile id false).fresh = .ok bare ∧
      (model.elementCode id).fresh = .ok element ∧ file = { bare with code := bare.code ++ element } := by
  simp only [objectFile, fresh_bind, fresh_mapError, fresh_lift, bind_eq_ok_iff, mapError_eq_ok]
    at written ⊢
  obtain ⟨object, found, used, resolved, rest⟩ := written
  have computed := resolved
  rw [fresh_resolve] at computed
  obtain ⟨type, computed, same⟩ := map_eq_ok computed
  obtain ⟨name, isModel⟩ := asElement.type computed
  have plain : used.type = .model name id .plain := by rw [← same]; exact isModel
  rw [plain] at rest
  simp only [ObjectFile.plainFile, if_true, fresh_bind, fresh_liftM, fresh_mapError, fresh_pure,
    bind_eq_ok_iff, Except.ok.injEq, mapError_eq_ok] at rest
  obtain ⟨_, ⟨fields, fielded, body, structured, element, elemented, rfl⟩, rfl⟩ := rest
  refine ⟨⟨Naming.fieldName object.name, [Naming.typeName object.name], body⟩, element,
    ⟨object, found, used, resolved, ?_⟩, elemented, rfl⟩
  rw [plain]
  simp only [ObjectFile.plainFile, fresh_bind, fresh_mapError, fresh_liftM, fresh_pure, fielded,
    mapError_ok, ok_bind, structured, Bool.false_eq_true, if_false, List.append_nil]

end Model

/-! What a run writes. -/

/-- The artifact of an object has a code behind that of its type. -/
def Model.ObjectWritten (model : Model) (formatter : Formatter) (made : List Artifact) (id : SchemaId)
    (code : Code) : Prop :=
  ∃ file, (model.objectFile id false).fresh = .ok file ∧ ∃ text,
    formatter.format (Sources.modelPath file) (file.code ++ code).render = .ok text ∧
      ⟨Sources.modelPath file, text⟩ ∈ made

/-- The objects whose artifacts have the code that carries them as elements: all that operations
carry, all that these are linked to, and so all that any code of this kind is asked for. -/
structure Model.CarriesElements (model : Model) (formatter : Formatter) (made : List Artifact)
    (elements : List SchemaId) : Prop where
  written : ∀ id, model.IsObject id → ∃ code, model.ObjectWritten formatter made id code ∧
    (id ∈ elements → (model.elementCode id).fresh = .ok code) ∧ (id ∉ elements → code = [])
  carried : ∀ operation ∈ model.operations, ∀ id, operation.CarriesElement id → id ∈ elements
  linked : ∀ id ∈ elements, model.AsElement id ∧
    ∀ linked, model.ContentLink id linked → linked ∈ elements
  converted : ∀ operation ∈ model.operations, (operation.parameters.map (·.name)).Nodup →
    ∀ plan, (model.operationPlan operation).fresh = .ok plan → ∀ type, plan.Converts model type →
      ∃ id ∈ elements, ∃ name, type = .model name id .plain

namespace Generation

theorem Passed.object_file {stages : Stages} (passed : Passed model configuration policy stages)
    {id : SchemaId} (isObject : model.IsObject id) :
    ∃ file ∈ stages.models, (model.objectFile id (stages.asElements.contains id)).fresh = .ok file := by
  obtain ⟨object, present⟩ := isObject
  have filed := passed.models
  simp only [ModelFile.all, fresh_bind, fresh_mapM, fresh_lift, fresh_pure, bind_eq_ok_iff,
    Except.ok.injEq] at filed
  obtain ⟨ofSchemas, each, ofHeaders, -, same⟩ := filed
  obtain ⟨written, listed, ofSchema⟩ := mapM_eq_ok_mem each (mem_of_lookup present)
  simp only [ModelFile.ofSchema, fresh_bind, fresh_pure, bind_eq_ok_iff, Except.ok.injEq] at ofSchema
  obtain ⟨file, ofObject, rfl⟩ := ofSchema
  refine ⟨file, ?_, ofObject⟩
  rw [← same, List.mem_mergeSort]
  exact List.mem_append_left _ (List.mem_filterMap.mpr ⟨_, listed, rfl⟩)

theorem Passed.carriesElements {stages : Stages} (passed : Passed model configuration policy stages)
    (written : artifacts model configuration formatter (stages.sources model configuration) =
      .ok made) : model.CarriesElements formatter made stages.asElements := by
  have members := Model.mem_elementModels passed.asElements
  have planned : ∀ operation ∈ model.operations, ∃ plan ∈ stages.plans,
      (model.operationPlan operation).fresh = .ok plan := by
    intro operation member
    have each := passed.plans
    rw [Model.planOperations, fresh_mapM] at each
    exact mapM_eq_ok_mem each member
  have carried : ∀ operation ∈ model.operations, ∀ id, operation.CarriesElement id →
      id ∈ stages.asElements := by
    intro operation member id carries
    obtain ⟨plan, listed, made⟩ := planned operation member
    obtain ⟨asElement, isRoot⟩ := Model.carried_root made carries
    exact (members id).1.mpr ⟨plan, listed, id, isRoot, asElement.isObject, .refl⟩
  constructor
  case carried => exact carried
  case written =>
    intro id isObject
    obtain ⟨file, listed, ofObject⟩ := passed.object_file isObject
    have inFiles : (Sources.modelPath file, file.code) ∈
        (stages.sources model configuration).files := by
      simp only [Sources.files, Stages.sources, List.mem_cons, List.mem_append, List.mem_map]
      exact .inl (.inr (.inr (.inr ⟨file, listed, rfl⟩)))
    obtain ⟨text, formatted, isMade⟩ := artifacts_file written inFiles
    by_cases inside : id ∈ stages.asElements
    · rw [List.contains_iff_mem.mpr inside] at ofObject
      obtain ⟨bare, element, bareMade, elemented, rfl⟩ :=
        Model.objectFile_element ((members id).2 inside) ofObject
      exact ⟨element, ⟨bare, bareMade, text, formatted, isMade⟩, fun _ => elemented,
        fun outside => absurd inside outside⟩
    · have without : stages.asElements.contains id = false := by simpa using inside
      rw [without] at ofObject
      refine ⟨[], ⟨file, ofObject, text, ?_, isMade⟩, fun inside' => absurd inside' inside,
        fun _ => rfl⟩
      rwa [List.append_nil]
  case linked =>
    intro id inside
    refine ⟨(members id).2 inside, fun linked link => ?_⟩
    obtain ⟨plan, listed, root, isRoot, isObject, reaches⟩ := (members id).1.mp inside
    exact (members linked).1.mpr ⟨plan, listed, root, isRoot, isObject, reaches.tail link⟩
  case converted =>
    intro operation member distinct plan made type converts
    obtain ⟨id, name, carries, isModel⟩ := Model.converts_carried made distinct converts
    exact ⟨id, carried operation member id carries, name, isModel⟩

/-- The closure of an object succeeds exactly where all objects reachable from it through the content
of elements can be carried as elements, and is then exactly these. In every run that succeeds, the
objects with code that carries them as elements include all that operations carry: bodies in
parameters that callers give, bodies put together from parameters, and results of responses with a
status code; with each object they include all it is linked to; and no code converts the values of
another type. -/
theorem generate_elements (model : Model) :
    (∀ memo : Memo, memo.Obeys model.tableLaw → ∀ root,
      ((∃ ids, ((model.xmlClosure root).run memo).1 = .ok ids) ↔
          ∀ id, model.Reaches root id → model.AsElement id) ∧
        ∀ ids, ((model.xmlClosure root).run memo).1 = .ok ids →
          ids.Pairwise (· < ·) ∧ ∀ id, id ∈ ids ↔ model.Reaches root id) ∧
      ∀ configuration formatter made, generate model configuration formatter = .ok made →
        ∃ elements, model.CarriesElements formatter made elements := by
  refine ⟨fun memo lawful root => Model.closure_exact lawful root, ?_⟩
  intro configuration formatter made generated
  obtain ⟨policy, stages, -, passed, written⟩ := generate_eq_ok.mp generated
  exact ⟨stages.asElements, passed.carriesElements written⟩

/-! What is not carried. -/

theorem renderAfter_append (inWord : Bool) (first second : Code) :
    ∃ ends, Code.renderAfter inWord (first ++ second) =
      Code.renderAfter inWord first ++ Code.renderAfter ends second := by
  induction first generalizing inWord with
  | nil => exact ⟨inWord, rfl⟩
  | cons token rest ih =>
      obtain ⟨ends, same⟩ := ih ((token.spelling.getLast?.map Code.isWordChar).getD inWord)
      refine ⟨ends, ?_⟩
      rw [List.cons_append, Code.renderAfter, same, Code.renderAfter]
      simp only [List.append_assoc]

theorem render_append_ne (first second : Code) (spelled : String) (starts : spelled ≠ "") :
    (first ++ .word spelled :: second).render ≠ first.render := by
  intro same
  obtain ⟨ends, split⟩ := renderAfter_append false first (.word spelled :: second)
  have chars := String.ofList_injective same
  rw [split] at chars
  have nothing := List.append_cancel_left (chars.trans (List.append_nil _).symm)
  rw [Code.renderAfter, List.append_eq_nil_iff, List.append_eq_nil_iff] at nothing
  exact starts (String.toList_eq_nil_iff.mp nothing.1.2)

/-- A template that starts with a token makes a code that does. -/
theorem write_head {template : String} {parts : List (String × Code)} {token : Token}
    (first : (Template.scan template.toList.length template.toList).head? = some (.token token)) :
    ∃ rest, Code.write template parts = token :: rest := by
  obtain ⟨pieces, scanned⟩ := List.head?_eq_some_iff.mp first
  refine ⟨pieces.flatMap (Template.fillPiece parts), ?_⟩
  rw [Code.write, scanned, List.flatMap_cons]
  rfl

set_option maxRecDepth 4000 in
/-- The code that carries an element starts with a word. -/
theorem elementCode_eq_ok {id : SchemaId} {code : Code}
    (made : (model.elementCode id).fresh = .ok code) : ∃ rest, code = .word "impl" :: rest := by
  simp only [Model.elementCode, fresh_bind, bind_eq_ok_iff] at made
  obtain ⟨wire, -, made⟩ := made
  cases wire with
  | element plan =>
      simp only [fresh_bind, fresh_liftM, bind_eq_ok_iff, ElementModel.code, pure_eq_ok] at made
      obtain ⟨fields, -, exchanges, -, rfl⟩ := made
      apply write_head
      -- a literal is made of its characters; the kernel would decode it to find them
      rw [String.toList_ofList]
      decide +kernel
  | _ => cases made

/-- The artifact of an object outside of the carried ones has no code that carries it. -/
theorem uncarried {sources : Sources} {elements : List SchemaId} {id : SchemaId} {code : Code}
    (written : artifacts model configuration .standard sources = .ok made)
    (carries : model.CarriesElements .standard made elements) (isObject : model.IsObject id)
    (outside : id ∉ elements) (elemented : (model.elementCode id).fresh = .ok code) :
    ¬ model.ObjectWritten .standard made id code := by
  rintro ⟨file, bare, text, formatted, isMade⟩
  obtain ⟨nothing, ⟨file', bare', text', formatted', isMade'⟩, -, none⟩ := carries.written id isObject
  cases bare.symm.trans bare'
  rw [none outside, List.append_nil] at formatted'
  have apart : (made.map Artifact.name).Nodup :=
    (artifacts_names written).nodup_iff.mpr (artifacts_eq_ok.mp written).1
  have sameText : text = text' := by
    simpa using List.inj_on_of_nodup_map apart isMade isMade' rfl
  have same := formatted.trans ((congrArg Except.ok sameText).trans formatted'.symm)
  simp only [Formatter.standard, Except.ok.injEq, String.append_right_inj] at same
  obtain ⟨rest, rfl⟩ := elementCode_eq_ok elemented
  exact render_append_ne file.code rest "impl" (by decide) same

/-! A run to follow. -/

/-- The file of an element is complete if it is without the code that carries the element, and the
type and its fields have names. -/
theorem element_complete {id : SchemaId} {file bare : ModelFile} {plan : ElementPlan}
    {fields : List ModelField} (written : (model.objectFile id true).fresh = .ok file)
    (made : (model.objectFile id false).fresh = .ok bare) (complete : bare.code.isComplete = true)
    (planned : model.planOf id .xml = .ok (.element plan)) (typed : plan.typeName ≠ "_")
    (fielded : (model.modelFields id none).fresh = .ok fields)
    (named : ∀ field ∈ fields, field.name ≠ "_") :
    file.outline = bare.outline ∧ file.code.isComplete = true := by
  obtain ⟨other, element, made', elemented, rfl⟩ :=
    Model.objectFile_element (Model.asElement_of_planned planned) written
  cases made.symm.trans made'
  have fresh : (model.plan id .xml).fresh = .ok (.element plan) := planned
  simp only [Model.elementCode, fresh_bind, fresh_mapError, fresh, fielded, fresh_liftM,
    mapError_ok, ok_bind] at elemented
  refine ⟨rfl, ?_⟩
  rw [Code.isComplete_append, complete, ElementModel.code_complete typed named elemented]
  rfl

/-- Notes with files that are saved, and objects that operations declare and yet do not carry: a
result without a status code, a body that is a constant of an operation whose name another one has,
and a body in the second of two parameters of one name. -/
def office : Model :=
  { name := "Office"
    schemas :=
      [("Draft", .object { name := "Draft" }), ("Envelope", .object { name := "Envelope" }),
        ("File", .object { name := "File" }),
        ("Files", .array "File"),
        ("Note", .object { name := "Note", properties := [.optional "files" "Files"] }),
        ("Tag", .object { name := "Tag" })]
    operations := [save, draft, send, receive, tag] }
where
  save : Operation :=
    { name := "save", method := .put, path := [.constant "/notes"]
      parameters := [.mandatory "note" "Note" .body], body := some (.schema "note" .xml none)
      responses := [{ statusCodes := [.code 200], body := .typed "Note" .xml }] }
  draft : Operation :=
    { name := "draft", method := .get, path := [.constant "/drafts"]
      responses := [{ statusCodes := [], body := .typed "Draft" .xml }] }
  send : Operation :=
    { name := "send", method := .put, path := [.constant "/letters"]
      parameters := [{ Parameter.mandatory "envelope" "Envelope" .body with constant := some (.object []) }]
      body := some (.schema "envelope" .xml none), responses := [.empty 204] }
  receive : Operation :=
    { name := "send", method := .get, path := [.constant "/mail"], responses := [.empty 204] }
  tag : Operation :=
    { name := "tag", method := .put, path := [.constant "/tags"]
      parameters :=
        [{ Parameter.mandatory "tag" "Tag" .body with defaultValue := some (.object []) },
          .mandatory "tag" "Files" .body]
      body := some (.schema "tag" .xml none), responses := [.empty 204] }

def officeGroups : List OperationGroup :=
  [⟨"drafts", "", [office.draft]⟩, ⟨"letters", "", [office.send]⟩, ⟨"mail", "", [office.receive]⟩,
    ⟨"notes", "", [office.save]⟩, ⟨"tags", "", [office.tag]⟩]

def emptyTable (operation : String) : DispatchTable :=
  { operation, value := none, valueOptional := false, headers := none
    branches := [⟨.code 204, .noContent⟩] }

def useOf (id : SchemaId) : TypeUse := ⟨.model id id .plain, false⟩

def notePlan : WirePlan :=
  .element
    { schema := "Note", typeName := "Note", name := "Note", attributes := []
      children := [⟨"files", "files", .sequence false "File" (.model "File"), false, none⟩]
      text := none }

/-- The plan of an object without properties. -/
def blankPlan (id : SchemaId) : WirePlan :=
  .element { schema := id, typeName := id, name := id, attributes := [], children := [], text := none }

def savePlan : OperationPlan :=
  { operation := office.save
    call :=
      { operation := "save", method := .put
        signature := [⟨"note", "note", .body, useOf "Note", true, false, none⟩]
        steps := [.appendConstant "/notes",
          .setBody ⟨.planned "note" .xml notePlan, "application/xml"⟩] }
    dispatch :=
      { operation := "save", value := some (.typed (useOf "Note")), valueOptional := false
        headers := none, branches := [⟨.code 200, .read .xml notePlan⟩] } }

def draftPlan : OperationPlan :=
  { operation := office.draft
    call := { operation := "draft", method := .get, signature := [], steps := [.appendConstant "/drafts"] }
    dispatch :=
      { operation := "draft", value := some (.typed (useOf "Draft")), valueOptional := false
        headers := none, branches := [] } }

def sendPlan : OperationPlan :=
  { operation := office.send
    call :=
      { operation := "send", method := .put, signature := []
        steps := [.appendConstant "/letters",
          .setBody ⟨.planned "envelope" .xml (blankPlan "Envelope"), "application/xml"⟩] }
    dispatch := emptyTable "send" }

def tagPlan : OperationPlan :=
  { operation := office.tag
    call :=
      { operation := "tag", method := .put
        signature :=
          [⟨"tag", "tag", .body, ⟨.collection (.model "File" "File" .plain), false⟩, true, false, none⟩,
            ⟨"tag", "tag", .body, useOf "Tag", true, false, some (.object [])⟩]
        steps := [.appendConstant "/tags",
          .setBody ⟨.planned "tag" .xml (blankPlan "Tag"), "application/xml"⟩] }
    dispatch := emptyTable "tag" }

def officePlans : List OperationPlan :=
  [savePlan, draftPlan, sendPlan, constantPlan office.receive "/mail", tagPlan]

theorem office_complete : ∀ plan ∈ officePlans, plan.Complete office := by
  simp only [officePlans, List.forall_mem_cons]
  exact ⟨by decide +kernel, by decide +kernel, by decide +kernel, by decide +kernel,
    by decide +kernel, List.forall_mem_nil _⟩

theorem office_files : ∃ files, (ModelFile.all office ["File", "Note"] []).fresh = .ok files ∧
    files.map ModelFile.outline = (office.schemas.filterMap fun entry =>
      entry.2.object?.map ObjectType.outline) ∧ ∀ file ∈ files, file.code.isComplete = true := by
  have bare : ∀ object : BareObject, object.Alone office → object.Named →
      ["File", "Note"].contains object.id = false →
      ∃ file, (ModelFile.ofSchema office ["File", "Note"] (object.id, .object object.type)).fresh =
          .ok file ∧ file.map ModelFile.outline = some object.outline ∧
        ∀ found ∈ file, found.code.isComplete = true := by
    intro object alone named outside
    obtain ⟨file, made, outlined, complete⟩ := alone.file named
    refine ⟨some file, ?_, congrArg some outlined, ?_⟩
    · simp only [ModelFile.ofSchema, outside, fresh_bind, made, ok_bind, fresh_pure]
    · rintro _ ⟨⟩
      exact complete
  have element : ∀ {id : SchemaId} {object : ObjectType} {file : ModelFile},
      ["File", "Note"].contains id = true → (office.objectFile id true).fresh = .ok file →
      file.outline = object.outline ∧ file.code.isComplete = true →
      ∃ file, (ModelFile.ofSchema office ["File", "Note"] (id, .object object)).fresh = .ok file ∧
        file.map ModelFile.outline = some object.outline ∧
        ∀ found ∈ file, found.code.isComplete = true := by
    intro id object file inside made shaped
    refine ⟨some file, ?_, congrArg some shaped.1, ?_⟩
    · simp only [ModelFile.ofSchema, inside, fresh_bind, made, ok_bind, fresh_pure]
    · rintro _ ⟨⟩
      exact shaped.2
  obtain ⟨file, fileMade⟩ : ∃ file, (office.objectFile "File" true).fresh = .ok file := ⟨_, rfl⟩
  obtain ⟨note, noteMade⟩ : ∃ file, (office.objectFile "Note" true).fresh = .ok file := ⟨_, rfl⟩
  have fileShaped : file.outline = ObjectType.outline { name := "File" } ∧
      file.code.isComplete = true := by
    obtain ⟨plain, made, outlined, complete⟩ :=
      @BareObject.Alone.file office ⟨"File", "File", none⟩ (by decide +kernel) (by decide +kernel)
    have whole := element_complete fileMade made complete rfl (by decide +kernel) rfl
      (List.forall_mem_nil _)
    exact ⟨whole.1.trans outlined, whole.2⟩
  have noteShaped : note.outline =
      ObjectType.outline { name := "Note", properties := [.optional "files" "Files"] } ∧
      note.code.isComplete = true := by
    have made : (fun file : ModelFile => (file.outline, file.code.isComplete)) <$>
        (office.objectFile "Note" false).fresh = .ok (("note", ["Note"]), true) := by decide +kernel
    obtain ⟨plain, made, shaped⟩ := map_eq_ok made
    simp only [Prod.mk.injEq] at shaped
    have whole := element_complete noteMade made shaped.2 rfl (by decide +kernel) rfl
      (by decide +kernel)
    exact ⟨(whole.1.trans shaped.1).trans (by decide +kernel), whole.2⟩
  have all := @ModelFile.exists_all office ["File", "Note"] []
    (fun entry => entry.2.object?.map ObjectType.outline)
  rw [ModelFile.distinctHeaders, List.map_nil, List.append_nil] at all
  apply all
  case ofHeaders => exact List.forall_mem_nil _
  case ordered => decide +kernel
  case ofSchemas =>
    simp only [office, List.forall_mem_cons]
    refine ⟨?_, ?_, element rfl fileMade fileShaped, ⟨none, rfl, rfl, fun _ => by rintro ⟨⟩⟩,
      element rfl noteMade noteShaped, ?_, List.forall_mem_nil _⟩
    · exact bare ⟨"Draft", "Draft", none⟩ (by decide +kernel) (by decide +kernel) rfl
    · exact bare ⟨"Envelope", "Envelope", none⟩ (by decide +kernel) (by decide +kernel) rfl
    · exact bare ⟨"Tag", "Tag", none⟩ (by decide +kernel) (by decide +kernel) rfl

theorem office_passed : ∃ files sources,
    files.map ModelFile.outline = (office.schemas.filterMap fun entry =>
      entry.2.object?.map ObjectType.outline) ∧
    Passed office segmentConfiguration .firstPathSegment
      ⟨officePlans, officeGroups, ["File", "Note"], files, sources⟩ := by
  have planned : office.planOperations.fresh = .ok officePlans := rfl
  have grouped : group .firstPathSegment office.operations = .ok officeGroups := by decide +kernel
  have elements : (office.elementModels officePlans).fresh = .ok ["File", "Note"] := by
    decide +kernel
  obtain ⟨files, filed, outlined, complete⟩ := office_files
  have sound : ∀ outline ∈ office.schemas.filterMap fun entry =>
      entry.2.object?.map ObjectType.outline, outline.1 ≠ "_" ∧ "_" ∉ outline.2 := by decide +kernel
  have passed : ∃ sources, Passed office segmentConfiguration .firstPathSegment
      ⟨officePlans, officeGroups, ["File", "Note"], files, sources⟩ := by
    apply passed_of_complete rfl planned grouped elements filed
    case sourced =>
      simp only [officeGroups, List.forall_mem_cons]
      exact ⟨⟨_, rfl⟩, ⟨_, rfl⟩, ⟨_, rfl⟩, ⟨_, rfl⟩, ⟨_, rfl⟩, List.forall_mem_nil _⟩
    case modules => decide +kernel
    case each => exact office_complete
    case named => decide +kernel
    case exported =>
      intro file member
      apply sound file.outline
      rw [← outlined]
      exact List.mem_map_of_mem member
    case written => exact complete
  exact passed.elim fun sources passed => ⟨files, sources, outlined, passed⟩

theorem office_generated : ∃ made, generate office segmentConfiguration .standard = .ok made ∧
    (∃ sources, artifacts office segmentConfiguration .standard sources = .ok made) ∧
    office.CarriesElements .standard made ["File", "Note"] := by
  obtain ⟨files, sources, outlined, passed⟩ := office_passed
  have validated : segmentConfiguration.validate = .ok .firstPathSegment := by cbv
  have paths : files.map Sources.modelPath =
      (office.schemas.filterMap fun entry => entry.2.object?.map ObjectType.outline).map
        fun outline => "models/" ++ outline.1 ++ ".rs" := by
    rw [← outlined, List.map_map]
    rfl
  have distinct : (names segmentConfiguration (Stages.sources office segmentConfiguration
      ⟨officePlans, officeGroups, ["File", "Note"], files, sources⟩)).Nodup := by
    rw [passed.names_eq]
    simp only [paths]
    decide +kernel
  obtain ⟨made, generated⟩ := passed.generates_standard validated distinct
  obtain ⟨policy, stages, -, passed', written⟩ := generate_eq_ok.mp generated
  have plans : stages.plans = officePlans := Except.ok.inj (passed'.plans.symm.trans passed.plans)
  have elements := passed'.asElements
  rw [plans, passed.asElements] at elements
  have carries := passed'.carriesElements written
  rw [← Except.ok.inj elements] at carries
  exact ⟨made, generated, ⟨_, written⟩, carries⟩

/-- The note of a run has code that carries it, and its files have. -/
theorem office_carried : (({} : Memo).Obeys office.tableLaw ∧
      ((office.xmlClosure "Note").run {}).1 = .ok ["File", "Note"] ∧ office.Reaches "Note" "File") ∧
    ∃ made elements, generate office segmentConfiguration .standard = .ok made ∧
      office.CarriesElements .standard made elements ∧ "Note" ∈ elements ∧ "File" ∈ elements := by
  have lawful := Memo.empty_obeys office.tableLaw
  obtain ⟨closures, runs⟩ := generate_elements office
  have closed : ((office.xmlClosure "Note").run {}).1 = .ok ["File", "Note"] := by decide +kernel
  have reached := ((closures {} lawful "Note").2 _ closed).2
  have file := (reached "File").mp (by decide)
  obtain ⟨made, generated, -⟩ := office_generated
  obtain ⟨elements, carries⟩ := runs _ _ _ generated
  have note : "Note" ∈ elements :=
    carries.carried office.save List.mem_cons_self "Note"
      (Operation.CarriesElement.response (List.mem_singleton.mpr rfl) (List.cons_ne_nil _ _) rfl)
  have onward : ∀ {id}, office.Reaches "Note" id → id ∈ elements := by
    intro id reaches
    induction reaches with
    | refl => exact note
    | tail _ link ih => exact (carries.linked _ ih).2 _ link
  exact ⟨⟨lawful, closed, file⟩, made, elements, generated, carries, note, onward file⟩

/-- A result without a status code, a body that is a constant and a body in the second of two
parameters of one name are declared, and have no code that carries them. -/
theorem office_uncarried : ∃ made, generate office segmentConfiguration .standard = .ok made ∧
    [office.draft, office.send, office.tag] ⊆ office.operations ∧
    (∃ response ∈ office.draft.responses, response.body = .typed "Draft" .xml) ∧
    (∃ parameter ∈ office.send.parameters, parameter.schema = "Envelope" ∧
      office.send.body = some (.schema parameter.name .xml none)) ∧
    (∃ parameter ∈ office.tag.parameters, parameter.schema = "Tag" ∧
      office.tag.body = some (.schema parameter.name .xml none)) ∧
    ∀ id ∈ ["Draft", "Envelope", "Tag"], office.AsElement id ∧
      ¬ ∃ code, (office.elementCode id).fresh = .ok code ∧
        office.ObjectWritten .standard made id code := by
  obtain ⟨made, generated, ⟨sources, written⟩, carries⟩ := office_generated
  refine ⟨made, generated, by simp [office], ⟨_, List.mem_singleton.mpr rfl, rfl⟩,
    ⟨_, List.mem_singleton.mpr rfl, rfl, rfl⟩, ⟨_, List.mem_cons_self, rfl, rfl⟩, ?_⟩
  intro id listed
  have asElement : office.AsElement id := by
    simp only [List.mem_cons, List.not_mem_nil, or_false] at listed
    rcases listed with rfl | rfl | rfl <;> exact ⟨_, rfl⟩
  refine ⟨asElement, ?_⟩
  rintro ⟨code, elemented, inMade⟩
  have outside : id ∉ ["File", "Note"] := by
    simp only [List.mem_cons, List.not_mem_nil, or_false] at listed
    rcases listed with rfl | rfl | rfl <;> decide
  exact uncarried written carries asElement.isObject outside elemented inMade

end Generation

end ApiContract
