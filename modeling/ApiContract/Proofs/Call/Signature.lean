import ApiContract.Proofs.Call.Links

/-!
The shape of a call plan: steps of the path, links among them, then the query entries of the
parameters in the query, then headers and the body.
-/

namespace ApiContract.CallPlan

open Planning

variable {model : Model} {operation : Operation} {plan : CallPlan}

theorem routeStep_path {isFirst : Bool} {segment : RouteSegment} {step : CallStep}
    (made : model.routeStep operation isFirst segment = .ok step) : isPath step = true := by
  cases segment with
  | constant text =>
      cases made
      rfl
  | parameter name raw =>
      obtain ⟨parameter, -, rest⟩ := bind_eq_ok made
      obtain ⟨value, -, rest⟩ := bind_eq_ok rest
      obtain ⟨schema, -, rest⟩ := bind_eq_ok rest
      split at rest
      next => cases rest; rfl
      next =>
        split at rest
        next => cases rest; rfl
        next =>
          split at rest
          next => cases rest; rfl
          next => cases rest; rfl

theorem routeSteps_path {steps : List CallStep} (made : model.routeSteps operation = .ok steps) :
    ∀ step ∈ steps, isPath step = true := by
  intro step member
  rw [Model.routeSteps] at made
  split at made
  next =>
    cases made
    cases member
  next first rest _ =>
    obtain ⟨head, headMade, remaining⟩ := bind_eq_ok made
    obtain ⟨others, othersMade, same⟩ := bind_eq_ok remaining
    cases same
    rcases List.mem_cons.mp member with same | later
    · exact same ▸ routeStep_path headMade
    · obtain ⟨segment, -, stepMade⟩ := mem_of_mapM_eq_ok othersMade later
      exact routeStep_path stepMade

theorem linkStep_path {parameter : Parameter} {step : CallStep}
    (made : model.linkStep operation parameter = .ok step) : isPath step = true := by
  obtain ⟨value, -, same⟩ := map_eq_ok made
  exact same ▸ rfl

theorem queryStep_entry {parameter : Parameter} {step : CallStep}
    (made : model.queryStep operation parameter = .ok step) :
    ∃ value, step = .addQuery parameter.wireName value parameter.style parameter.escape := by
  obtain ⟨value, -, same⟩ := bind_eq_ok made
  exact ⟨value, (Except.ok.inj same).symm⟩

theorem headerStep_header {parameter : Parameter} {step : CallStep}
    (made : model.headerStep operation parameter = .ok step) :
    ∃ name value style, step = .addHeader name value style := by
  obtain ⟨value, -, same⟩ := bind_eq_ok made
  exact ⟨_, _, _, (Except.ok.inj same).symm⟩

/-- Behind the path stand entries of parameters of the query, and steps without entries. -/
def Behind (operation : Operation) (step : CallStep) : Prop :=
  isPath step = false ∧ ∀ name value style escape, step = .addQuery name value style escape →
    ∃ parameter ∈ operation.parameters, parameter.location = .query ∧
      name = parameter.wireName ∧ escape = parameter.escape

/-- First the path, then what stands behind it. -/
def Ordered (operation : Operation) (steps : List CallStep) : Prop :=
  ∃ path behind, steps = path ++ behind ∧ (∀ step ∈ path, isPath step = true) ∧
    ∀ step ∈ behind, Behind operation step

theorem Ordered.filter {steps : List CallStep} (ordered : Ordered operation steps)
    (keep : CallStep → Bool) : Ordered operation (steps.filter keep) := by
  obtain ⟨path, behind, split, allPath, allBehind⟩ := ordered
  refine ⟨path.filter keep, behind.filter keep, by rw [split, List.filter_append], ?_, ?_⟩
  · exact fun step member => allPath step (List.mem_filter.mp member).1
  · exact fun step member => allBehind step (List.mem_filter.mp member).1

/-- The groups that the steps before the body are put together from. -/
theorem textSteps_eq_ok {steps : List CallStep} (made : model.textSteps operation = .ok steps) :
    ∃ route links entries headers, model.routeSteps operation = .ok route ∧
      ((operation.parameters.filter (·.location == .query)).filter (·.nextLink)).mapM
        (model.linkStep operation) = .ok links ∧
      ((operation.parameters.filter (·.location == .query)).filter (!·.nextLink)).mapM
        (model.queryStep operation) = .ok entries ∧
      (operation.parameters.filter (·.location == .header)).mapM
        (model.headerStep operation) = .ok headers ∧
      steps = route ++ links ++ entries ++ headers := by
  simp only [Model.textSteps, List.partition_eq_filter_filter] at made
  obtain ⟨route, routeMade, rest⟩ := bind_eq_ok made
  obtain ⟨links, linksMade, rest⟩ := bind_eq_ok rest
  obtain ⟨entries, entriesMade, rest⟩ := bind_eq_ok rest
  obtain ⟨headers, headersMade, same⟩ := bind_eq_ok rest
  exact ⟨route, links, entries, headers, routeMade, linksMade, entriesMade, headersMade,
    (Except.ok.inj same).symm⟩

theorem textSteps_ordered {steps : List CallStep} (made : model.textSteps operation = .ok steps) :
    Ordered operation steps := by
  obtain ⟨route, links, entries, headers, routeMade, linksMade, entriesMade, headersMade, rfl⟩ :=
    textSteps_eq_ok made
  refine ⟨route ++ links, entries ++ headers, by simp, fun step member => ?_,
    fun step member => ?_⟩
  · rcases List.mem_append.mp member with inRoute | inLinks
    · exact routeSteps_path routeMade step inRoute
    · obtain ⟨parameter, -, stepMade⟩ := mem_of_mapM_eq_ok linksMade inLinks
      exact linkStep_path stepMade
  · rcases List.mem_append.mp member with inEntries | inHeaders
    · obtain ⟨parameter, inside, stepMade⟩ := mem_of_mapM_eq_ok entriesMade inEntries
      obtain ⟨value, same⟩ := queryStep_entry stepMade
      obtain ⟨declared, located⟩ := List.mem_filter.mp (List.mem_filter.mp inside).1
      subst same
      refine ⟨rfl, fun name _ _ escape same => ⟨parameter, declared, beq_iff_eq.mp located, ?_⟩⟩
      cases same
      exact ⟨rfl, rfl⟩
    · obtain ⟨parameter, -, stepMade⟩ := mem_of_mapM_eq_ok headersMade inHeaders
      obtain ⟨name, value, style, same⟩ := headerStep_header stepMade
      subst same
      exact ⟨rfl, fun _ _ _ _ same => by cases same⟩

theorem bodySteps_behind {steps : List CallStep} {memo memo' : Memo}
    (made : (model.bodySteps operation).run memo = (.ok steps, memo')) :
    ∀ step ∈ steps, Behind operation step := by
  intro step member
  rw [Model.bodySteps] at made
  split at made
  next =>
    cases made
    cases member
  next =>
    obtain ⟨body, between, -, same⟩ := run_bind_eq_ok made
    cases same
    rw [List.mem_singleton.mp member]
    exact ⟨rfl, fun _ _ _ _ same => by cases same⟩

/-- The parts that a call plan is put together from. -/
theorem callPlan_parts {memo memo' : Memo}
    (made : (model.callPlan operation).run memo = (.ok plan, memo')) :
    ∃ before body between between', model.textSteps operation = .ok before ∧
      (model.bodySteps operation).run between = (.ok body, between') ∧
      plan.steps = before ++ body ∧ plan.operation = operation.name := by
  obtain ⟨signature, _, -, rest⟩ := run_bind_eq_ok made
  obtain ⟨before, _, textMade, rest⟩ := run_bind_eq_ok rest
  obtain ⟨body, _, bodyMade, same⟩ := run_bind_eq_ok rest
  cases same
  exact ⟨before, body, _, _, congrArg Prod.fst textMade, bodyMade, rfl, rfl⟩

theorem callPlan_ordered {memo memo' : Memo}
    (made : (model.callPlan operation).run memo = (.ok plan, memo')) :
    Ordered operation plan.steps := by
  obtain ⟨before, body, _, _, textMade, bodyMade, joined, -⟩ := callPlan_parts made
  obtain ⟨path, behind, split, allPath, allBehind⟩ := textSteps_ordered textMade
  refine ⟨path, behind ++ body, by rw [joined, split, List.append_assoc], allPath,
    fun step member => ?_⟩
  rcases List.mem_append.mp member with inText | inBody
  · exact allBehind step inText
  · exact bodySteps_behind bodyMade step inBody

end ApiContract.CallPlan

/-!
What a plan knows of the parameters of its operation. Callers see a parameter under its name; where
several share one, the first of the signature stands for all of them, and that is one without a
default if there is one.
-/

namespace ApiContract

/-- The parameter that callers see under a name. -/
def Operation.callerParameter? (operation : Operation) (name : String) : Option Parameter :=
  let free := operation.parameters.filter (·.constant.isNone)
  (free.filter (·.defaultValue.isNone) ++ free.filter (·.defaultValue.isSome)).find? (·.name == name)

theorem find?_name {parameters : List Parameter} (distinct : (parameters.map (·.name)).Nodup)
    {parameter : Parameter} (member : parameter ∈ parameters) :
    parameters.find? (·.name == parameter.name) = some parameter := by
  induction parameters with
  | nil => cases member
  | cons first rest ih =>
      rw [List.map_cons, List.nodup_cons] at distinct
      rcases List.mem_cons.mp member with same | later
      · simp [same]
      · have other : first.name ≠ parameter.name := fun same =>
          distinct.1 (same ▸ List.mem_map_of_mem later)
        rw [List.find?_cons_of_neg (by simpa using other)]
        exact ih distinct.2 later

/-- With distinct names callers see every parameter that is no constant. -/
theorem Operation.callerParameter?_of_mem {operation : Operation}
    (distinct : (operation.parameters.map (·.name)).Nodup) {parameter : Parameter}
    (declared : parameter ∈ operation.parameters) (free : parameter.constant = none) :
    operation.callerParameter? parameter.name = some parameter := by
  have member : parameter ∈ operation.parameters.filter (·.constant.isNone) :=
    List.mem_filter.mpr ⟨declared, by simp [free]⟩
  have distinct' : ((operation.parameters.filter (·.constant.isNone)).map (·.name)).Nodup :=
    distinct.sublist (List.filter_sublist.map _)
  rw [callerParameter?]
  generalize operation.parameters.filter (·.constant.isNone) = parameters at member distinct'
  -- Sorting by whether there is a default only moves the parameters.
  have order : (parameters.filter (·.defaultValue.isNone) ++
      parameters.filter (·.defaultValue.isSome)).Perm parameters := by
    have split := List.filter_append_perm (·.defaultValue.isNone) parameters
    have same : (fun other : Parameter => !other.defaultValue.isNone) = (·.defaultValue.isSome) := by
      funext other
      cases other.defaultValue <;> rfl
    rwa [same] at split
  exact find?_name ((order.map _).nodup_iff.mpr distinct') (order.mem_iff.mpr member)

namespace CallPlan

open Planning

variable {model : Model} {operation : Operation} {plan : CallPlan}

/-- What an evaluation asks of a parameter of the signature. -/
def asked (parameter : SignatureParameter) : String × Option Json × Bool :=
  (parameter.name, parameter.default, parameter.nullable)

theorem signature_asked {parameters : List Parameter} {bound : List SignatureParameter}
    {memo memo' : Memo}
    (made : (parameters.mapM (model.signatureParameter operation)).run memo = (.ok bound, memo')) :
    bound.map asked =
      parameters.map fun parameter => (parameter.name, parameter.defaultValue, parameter.isNullable) := by
  induction parameters generalizing bound memo with
  | nil =>
      cases made
      rfl
  | cons first rest ih =>
      rw [List.mapM_cons] at made
      obtain ⟨head, between, headMade, remaining⟩ := run_bind_eq_ok made
      obtain ⟨tail, between', tailMade, same⟩ := run_bind_eq_ok remaining
      obtain ⟨type, _, -, shaped⟩ := run_bind_eq_ok headMade
      cases same
      cases shaped
      rw [List.map_cons, List.map_cons, ih tailMade]
      rfl

/-- The signature takes its parameters in declared order, those without a default first. -/
theorem callPlan_signature {memo memo' : Memo}
    (made : (model.callPlan operation).run memo = (.ok plan, memo')) :
    ∃ bound : List SignatureParameter, plan.signature =
        bound.filter (!·.default.isSome) ++ bound.filter (·.default.isSome) ∧
      bound.map asked = (operation.parameters.filter (·.constant.isNone)).map fun parameter =>
        (parameter.name, parameter.defaultValue, parameter.isNullable) := by
  obtain ⟨signature, _, signed, rest⟩ := run_bind_eq_ok made
  obtain ⟨before, _, -, rest⟩ := run_bind_eq_ok rest
  obtain ⟨body, _, -, same⟩ := run_bind_eq_ok rest
  cases same
  obtain ⟨bound, _, boundMade, same⟩ := run_bind_eq_ok signed
  simp only [List.partition_eq_filter_filter] at same
  cases same
  exact ⟨bound, rfl, signature_asked boundMade⟩

/-- The first entry of a name in a signature, as far as an evaluation asks. -/
def firstAsked (name : String) (views : List (String × Option Json × Bool)) :
    Option (String × Option Json × Bool) :=
  (views.filter (·.2.1.isNone) ++ views.filter (·.2.1.isSome)).find? (·.1 == name)

theorem find?_asked {α : Type} (view : α → String × Option Json × Bool) (items : List α)
    (name : String) :
    ((items.filter ((·.2.1.isNone) ∘ view) ++ items.filter ((·.2.1.isSome) ∘ view)).find?
      ((·.1 == name) ∘ view)).map view = firstAsked name (items.map view) := by
  rw [firstAsked, List.filter_map, List.filter_map, ← List.map_append, List.find?_map]

/-- The plan finds under a name what callers see under it. -/
theorem parameter?_asked {memo memo' : Memo}
    (made : (model.callPlan operation).run memo = (.ok plan, memo')) (name : String) :
    (plan.parameter? name).map (fun parameter => (parameter.default, parameter.nullable)) =
      (operation.callerParameter? name).map fun parameter =>
        (parameter.defaultValue, parameter.isNullable) := by
  obtain ⟨bound, split, views⟩ := callPlan_signature made
  have signature := find?_asked asked bound name
  have declared := find?_asked
    (fun parameter : Parameter => (parameter.name, parameter.defaultValue, parameter.isNullable))
    (operation.parameters.filter (·.constant.isNone)) name
  rw [views, ← declared] at signature
  have same := congrArg (Option.map Prod.snd) signature
  rw [Option.map_map, Option.map_map] at same
  rw [parameter?, split, Operation.callerParameter?]
  simpa [Function.comp_def, asked] using same

end CallPlan

end ApiContract
