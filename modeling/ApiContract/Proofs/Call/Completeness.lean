import ApiContract.Proofs.Call.Queries

/-!
Which arguments a call needs. Outside the body a constant stands for itself and an unset parameter
with a default for the default, so the arguments without a default and without a null are enough.
A body takes neither constants nor defaults: a parameter that it refers to has to be set, unless it
may be left out.
-/

namespace ApiContract

/-- The parameters that a body refers to. -/
def RequestBody.parameters : RequestBody → List String
  | .schema name _ _ | .binary name _ | .text name _ => [name]
  | .flattened _ initializers _ _ => initializers.map (·.parameter)

def BodySource.parameters : BodySource → List String
  | .planned name _ _ | .binary name | .text name => [name]
  | .flattened _ initializers _ _ => initializers.map (·.parameter)

def Operation.bodyParameters (operation : Operation) : List String :=
  operation.body.elim [] RequestBody.parameters

/-- The value that a step outside the body turns into text. -/
def CallStep.value? : CallStep → Option StepValue
  | .resetEndpoint value | .appendValue value _ | .appendRaw value | .followLink value
  | .addQuery _ value _ _ | .addHeader _ value _ => some value
  | .appendConstant _ | .setBody _ => none

/-- Every parameter that callers have to set is set. -/
def Operation.Complete (operation : Operation) (arguments : Arguments) : Prop :=
  ∀ parameter ∈ operation.parameters, parameter.constant = none → parameter.isNullable = false →
    parameter.defaultValue = none → (arguments.get? parameter.name).isSome

/-- A body refers to an unset parameter that stands for a constant or a default elsewhere. -/
structure Operation.Missed (operation : Operation) (arguments : Arguments) (name : String) : Prop where
  referred : name ∈ operation.bodyParameters
  unset : arguments.get? name = none
  fixed : ∃ parameter ∈ operation.parameters, parameter.name = name ∧
    (parameter.constant.isSome ∨ parameter.defaultValue.isSome)

/-- The arguments with one more, which counts before the others of its name. -/
def Arguments.adding (arguments : Arguments) (name : String) (value : Value) : Arguments :=
  ⟨(name, value) :: arguments.values⟩

theorem Arguments.get?_adding_other {arguments : Arguments} {name other : String} {value : Value}
    (different : other ≠ name) : (arguments.adding name value).get? other = arguments.get? other := by
  rw [get?, get?, adding, List.lookup_cons, beq_false_of_ne different]

theorem Arguments.get?_adding {arguments : Arguments} {name : String} {value : Value} :
    (arguments.adding name value).get? name = if value.isNull then none else some value := by
  rw [get?, adding, List.lookup_cons, beq_self_eq_true]
  by_cases null : value.isNull <;> simp [Option.filter, null]

namespace CallPlan

open Planning

variable {model : Model} {operation : Operation} {plan : CallPlan} {arguments : Arguments}

theorem declared_eq_ok {name : String} {parameter : Parameter}
    (found : Model.declared operation name = .ok parameter) :
    parameter ∈ operation.parameters ∧ parameter.name = name := by
  rw [Model.declared] at found
  split at found
  next other known =>
    cases found
    exact ⟨List.mem_of_find?_eq_some known, by simpa using List.find?_some known⟩
  next => cases found

/-- The value of a step of the route is that of the parameter which its segment names. -/
theorem routeStep_names {isFirst : Bool} {segment : RouteSegment} {step : CallStep}
    (made : model.routeStep operation isFirst segment = .ok step) {value : StepValue}
    (carries : step.value? = some value) :
    ∃ name raw parameter, segment = .parameter name raw ∧
      Model.declared operation name = .ok parameter ∧
      model.stepValue operation parameter = .ok value := by
  cases segment with
  | constant text =>
      cases made
      cases carries
  | parameter name raw =>
      obtain ⟨parameter, found, rest⟩ := bind_eq_ok made
      obtain ⟨own, stepped, rest⟩ := bind_eq_ok rest
      obtain ⟨schema, -, rest⟩ := bind_eq_ok rest
      have same : own = value := by
        split at rest
        next => cases rest; exact Option.some.inj carries
        next =>
          split at rest
          next => cases rest; exact Option.some.inj carries
          next =>
            split at rest
            next => cases rest; exact Option.some.inj carries
            next => cases rest; exact Option.some.inj carries
      exact ⟨name, raw, parameter, rfl, found, same ▸ stepped⟩

theorem routeStep_value {isFirst : Bool} {segment : RouteSegment} {step : CallStep}
    (made : model.routeStep operation isFirst segment = .ok step) {value : StepValue}
    (carries : step.value? = some value) :
    ∃ parameter ∈ operation.parameters, model.stepValue operation parameter = .ok value := by
  obtain ⟨name, raw, parameter, -, found, stepped⟩ := routeStep_names made carries
  exact ⟨parameter, (declared_eq_ok found).1, stepped⟩

/-- Where the steps before the body come from. -/
theorem mem_textSteps {steps : List CallStep} (made : model.textSteps operation = .ok steps)
    {step : CallStep} (member : step ∈ steps) :
    (∃ isFirst segment, model.routeStep operation isFirst segment = .ok step) ∨
      ∃ parameter ∈ operation.parameters, model.linkStep operation parameter = .ok step ∨
        model.queryStep operation parameter = .ok step ∨
        model.headerStep operation parameter = .ok step := by
  obtain ⟨route, links, entries, headers, routeMade, linksMade, entriesMade, headersMade, rfl⟩ :=
    textSteps_eq_ok made
  simp only [List.mem_append] at member
  -- Only the route is made of segments; the rest is made of one group of parameters after the other.
  rcases member with ((inRoute | inLinks) | inEntries) | inHeaders
  · rw [Model.routeSteps] at routeMade
    split at routeMade
    next =>
      cases routeMade
      cases inRoute
    next first rest _ =>
      obtain ⟨head, headMade, remaining⟩ := bind_eq_ok routeMade
      obtain ⟨others, othersMade, same⟩ := bind_eq_ok remaining
      cases same
      rcases List.mem_cons.mp inRoute with same | later
      · exact .inl ⟨true, first, same ▸ headMade⟩
      · obtain ⟨segment, -, stepMade⟩ := mem_of_mapM_eq_ok othersMade later
        exact .inl ⟨false, segment, stepMade⟩
  · obtain ⟨parameter, inside, stepMade⟩ := mem_of_mapM_eq_ok linksMade inLinks
    exact .inr ⟨parameter, (List.mem_filter.mp (List.mem_filter.mp inside).1).1, .inl stepMade⟩
  · obtain ⟨parameter, inside, stepMade⟩ := mem_of_mapM_eq_ok entriesMade inEntries
    exact .inr ⟨parameter, (List.mem_filter.mp (List.mem_filter.mp inside).1).1,
      .inr (.inl stepMade)⟩
  · obtain ⟨parameter, inside, stepMade⟩ := mem_of_mapM_eq_ok headersMade inHeaders
    exact .inr ⟨parameter, (List.mem_filter.mp inside).1, .inr (.inr stepMade)⟩

theorem textSteps_value {steps : List CallStep} (made : model.textSteps operation = .ok steps)
    {step : CallStep} (member : step ∈ steps) {value : StepValue}
    (carries : step.value? = some value) :
    ∃ parameter ∈ operation.parameters, model.stepValue operation parameter = .ok value := by
  rcases mem_textSteps made member with ⟨isFirst, segment, onRoute⟩ | ⟨parameter, known, behind⟩
  · exact routeStep_value onRoute carries
  · refine ⟨parameter, known, ?_⟩
    rcases behind with link | entry | header
    · obtain ⟨own, stepped, same⟩ := map_eq_ok link
      cases same
      cases carries
      exact stepped
    · obtain ⟨own, stepped, same⟩ := bind_eq_ok entry
      cases same
      cases carries
      exact stepped
    · obtain ⟨own, stepped, same⟩ := bind_eq_ok header
      cases same
      cases carries
      exact stepped

theorem textSteps_bodiless {steps : List CallStep} (made : model.textSteps operation = .ok steps)
    {body : BodyStep} : CallStep.setBody body ∉ steps := by
  intro member
  rcases mem_textSteps made member with ⟨isFirst, segment, onRoute⟩ | ⟨parameter, -, behind⟩
  · cases routeStep_path onRoute
  · rcases behind with link | entry | header
    · cases linkStep_path link
    · obtain ⟨value, same⟩ := queryStep_entry entry
      cases same
    · obtain ⟨name, value, style, same⟩ := headerStep_header header
      cases same

theorem declared_lone {name : String} {parameter : Parameter}
    (found : Model.declared operation name = .ok parameter) :
    [parameter.name] = [name] ∧
      ∀ other ∈ [name], ∃ parameter ∈ operation.parameters, parameter.name = other := by
  obtain ⟨known, named⟩ := declared_eq_ok found
  refine ⟨congrArg ([·]) named, fun other member => ⟨parameter, known, ?_⟩⟩
  rw [named, List.mem_singleton.mp member]

theorem initializers_declared {object : ObjectType} {properties : List Property}
    {initializers : List BodyInitializer}
    (checked : initializers.forM (Model.checkInitializer operation object properties) = .ok ()) :
    ∀ initializer ∈ initializers,
      ∃ parameter ∈ operation.parameters, parameter.name = initializer.parameter := by
  induction initializers with
  | nil => simp
  | cons first rest ih =>
      obtain ⟨_, head, tail⟩ := bind_eq_ok checked
      intro initializer member
      rcases List.mem_cons.mp member with same | later
      · rw [Model.checkInitializer] at head
        split at head
        next =>
          obtain ⟨parameter, found, -⟩ := bind_eq_ok head
          obtain ⟨known, named⟩ := declared_eq_ok found
          exact ⟨parameter, known, same ▸ named⟩
        next => cases head
      · exact ih tail initializer later

/-- A body refers to declared parameters, under the names that the operation gives. -/
theorem bodyStep_parameters {requested : RequestBody} {body : BodyStep} {memo memo' : Memo}
    (made : (model.bodyStep operation requested).run memo = (.ok body, memo')) :
    body.source.parameters = requested.parameters ∧
      ∀ name ∈ requested.parameters, ∃ parameter ∈ operation.parameters, parameter.name = name := by
  cases requested with
  | schema name format contentType =>
      obtain ⟨parameter, _, found, rest⟩ := run_bind_eq_ok made
      obtain ⟨wire, _, -, same⟩ := run_bind_eq_ok rest
      cases same
      exact declared_lone (congrArg Prod.fst found)
  | binary name contentType =>
      obtain ⟨parameter, _, found, rest⟩ := run_bind_eq_ok made
      obtain ⟨_, _, -, same⟩ := run_bind_eq_ok rest
      cases same
      exact declared_lone (congrArg Prod.fst found)
  | text name contentType =>
      obtain ⟨parameter, _, found, rest⟩ := run_bind_eq_ok made
      obtain ⟨_, _, -, same⟩ := run_bind_eq_ok rest
      cases same
      exact declared_lone (congrArg Prod.fst found)
  | flattened id initializers format contentType =>
      obtain ⟨_, _, checked, rest⟩ := run_bind_eq_ok made
      obtain ⟨wire, _, -, same⟩ := run_bind_eq_ok rest
      cases same
      refine ⟨rfl, fun name member => ?_⟩
      obtain ⟨initializer, inside, same⟩ := List.mem_map.mp member
      have passed : model.checkFlattened operation id initializers = .ok () := congrArg Prod.fst checked
      rw [Model.checkFlattened] at passed
      obtain ⟨schema, -, rest⟩ := bind_eq_ok passed
      split at rest
      next object =>
        obtain ⟨root, -, rest⟩ := bind_eq_ok rest
        split at rest
        next => cases rest
        next =>
          obtain ⟨properties, -, rest⟩ := bind_eq_ok rest
          obtain ⟨_, each, -⟩ := bind_eq_ok rest
          exact same ▸ initializers_declared each initializer inside
      next => cases rest

theorem bodySteps_eq_ok {steps : List CallStep} {memo memo' : Memo}
    (made : (model.bodySteps operation).run memo = (.ok steps, memo')) :
    (operation.body = none ∧ steps = []) ∨
      ∃ body, steps = [.setBody body] ∧ body.source.parameters = operation.bodyParameters ∧
        ∀ name ∈ operation.bodyParameters,
          ∃ parameter ∈ operation.parameters, parameter.name = name := by
  rw [Model.bodySteps] at made
  rw [Operation.bodyParameters]
  split at made
  next none =>
    cases made
    exact .inl ⟨none, rfl⟩
  next requested some =>
    obtain ⟨body, _, stepped, same⟩ := run_bind_eq_ok made
    cases same
    rw [some]
    exact .inr ⟨body, rfl, bodyStep_parameters stepped⟩

theorem step_value {memo memo' : Memo}
    (made : (model.callPlan operation).run memo = (.ok plan, memo')) {step : CallStep}
    (member : step ∈ plan.steps) {value : StepValue} (carries : step.value? = some value) :
    ∃ parameter ∈ operation.parameters, model.stepValue operation parameter = .ok value := by
  obtain ⟨before, body, _, _, textMade, bodyMade, split, -⟩ := callPlan_parts made
  rw [split] at member
  rcases List.mem_append.mp member with inText | inBody
  · exact textSteps_value textMade inText carries
  · rcases bodySteps_eq_ok bodyMade with ⟨-, none⟩ | ⟨source, single, -⟩
    · rw [none] at inBody
      cases inBody
    · rw [single, List.mem_singleton] at inBody
      rw [inBody] at carries
      cases carries

theorem body_parameters {memo memo' : Memo}
    (made : (model.callPlan operation).run memo = (.ok plan, memo')) {body : BodyStep}
    (member : .setBody body ∈ plan.steps) :
    body.source.parameters = operation.bodyParameters := by
  obtain ⟨before, steps, _, _, textMade, bodyMade, split, -⟩ := callPlan_parts made
  rw [split] at member
  rcases List.mem_append.mp member with inText | inBody
  · exact absurd inText (textSteps_bodiless textMade)
  · rcases bodySteps_eq_ok bodyMade with ⟨-, none⟩ | ⟨source, single, same, -⟩
    · rw [none] at inBody
      cases inBody
    · rw [single, List.mem_singleton] at inBody
      cases inBody
      exact same

theorem exists_body {memo memo' : Memo}
    (made : (model.callPlan operation).run memo = (.ok plan, memo')) {name : String}
    (referred : name ∈ operation.bodyParameters) :
    ∃ body, .setBody body ∈ plan.steps ∧ name ∈ body.source.parameters := by
  obtain ⟨before, steps, _, _, -, bodyMade, split, -⟩ := callPlan_parts made
  rcases bodySteps_eq_ok bodyMade with ⟨none, -⟩ | ⟨body, single, same, -⟩
  · rw [Operation.bodyParameters, none] at referred
    cases referred
  · refine ⟨body, ?_, same ▸ referred⟩
    rw [split, single]
    exact List.mem_append_right _ (List.mem_singleton.mpr rfl)

theorem body_declared {memo memo' : Memo}
    (made : (model.callPlan operation).run memo = (.ok plan, memo')) {name : String}
    (referred : name ∈ operation.bodyParameters) :
    ∃ parameter ∈ operation.parameters, parameter.name = name := by
  obtain ⟨before, steps, _, _, -, bodyMade, -, -⟩ := callPlan_parts made
  rcases bodySteps_eq_ok bodyMade with ⟨none, -⟩ | ⟨body, -, -, declared⟩
  · rw [Operation.bodyParameters, none] at referred
    cases referred
  · exact declared name referred

theorem callerParameter?_of_constant (distinct : (operation.parameters.map (·.name)).Nodup)
    {parameter : Parameter} (known : parameter ∈ operation.parameters)
    (constant : parameter.constant.isSome) : operation.callerParameter? parameter.name = none := by
  rw [Operation.callerParameter?, List.find?_eq_none]
  intro other member
  have free : other ∈ operation.parameters ∧ other.constant.isNone = true := by
    rcases List.mem_append.mp member with inside | inside
    · exact List.mem_filter.mp (List.mem_filter.mp inside).1
    · exact List.mem_filter.mp (List.mem_filter.mp inside).1
  intro same
  have first := find?_name distinct free.1
  rw [beq_iff_eq.mp same, find?_name distinct known] at first
  have equal : parameter = other := Option.some.inj first
  rw [← equal, Option.isNone_iff_eq_none] at free
  rw [free.2] at constant
  cases constant

/-- An unset parameter may be left out or is missed. -/
theorem unset_parameter {α : Type} {memo memo' : Memo}
    (made : (model.callPlan operation).run memo = (.ok plan, memo'))
    (distinct : (operation.parameters.map (·.name)).Nodup) {parameter : Parameter}
    (known : parameter ∈ operation.parameters) :
    (plan.unset parameter.name : Except RequestError (Option α)) =
      if parameter.isNullable then .ok none
      else .error (.missingArgument operation.name parameter.name) := by
  obtain ⟨_, _, _, _, -, -, -, named⟩ := callPlan_parts made
  have asked := parameter?_asked made parameter.name
  rw [unset, named]
  cases fixed : parameter.constant with
  | some document =>
      -- Callers do not see constants, and no other parameter has the name.
      have hidden := callerParameter?_of_constant distinct known (by rw [fixed]; rfl)
      rw [hidden, Option.map_none, Option.map_eq_none_iff] at asked
      simp [asked, Parameter.isNullable, fixed]
  | none =>
      rw [Operation.callerParameter?_of_mem distinct known fixed, Option.map_some] at asked
      obtain ⟨seen, found, same⟩ := Option.map_eq_some_iff.mp asked
      have flag : seen.nullable = parameter.isNullable := congrArg Prod.snd same
      rw [found, ← flag]
      clear same flag
      obtain ⟨name, wireName, location, type, required, nullable, default⟩ := seen
      cases nullable <;> rfl

/-- Outside the body a parameter is its constant, the argument or its default. -/
theorem argument_parameter {memo memo' : Memo}
    (made : (model.callPlan operation).run memo = (.ok plan, memo'))
    (distinct : (operation.parameters.map (·.name)).Nodup) {parameter : Parameter}
    (known : parameter ∈ operation.parameters) {value : StepValue}
    (stepped : model.stepValue operation parameter = .ok value) (arguments : Arguments) :
    plan.argument value arguments =
      match parameter.constant with
      | some document => argument.literal value document
      | none =>
          match arguments.get? parameter.name with
          | some given => .ok (some given)
          | none =>
              match parameter.defaultValue with
              | some document => argument.literal value document
              | none =>
                  if parameter.isNullable then .ok none
                  else .error (.missingArgument operation.name parameter.name) := by
  obtain ⟨form, -, shaped⟩ := bind_eq_ok stepped
  cases shaped
  rw [argument]
  cases fixed : parameter.constant with
  | some document => rfl
  | none =>
      cases given : arguments.get? parameter.name with
      | some argument => simp only [given]
      | none =>
          have default := congrArg (Option.bind · Prod.fst) (parameter?_asked made parameter.name)
          simp only [Option.bind_map, Function.comp_def,
            Operation.callerParameter?_of_mem distinct known fixed, Option.bind_some] at default
          simp only [given, default]
          cases parameter.defaultValue with
          | some document => rfl
          | none => exact unset_parameter made distinct known

theorem bodyArgument_parameter {memo memo' : Memo}
    (made : (model.callPlan operation).run memo = (.ok plan, memo'))
    (distinct : (operation.parameters.map (·.name)).Nodup) {parameter : Parameter}
    (known : parameter ∈ operation.parameters) (arguments : Arguments) :
    plan.bodyArgument parameter.name arguments =
      match arguments.get? parameter.name with
      | some given => .ok (some given)
      | none =>
          if parameter.isNullable then .ok none
          else .error (.missingArgument operation.name parameter.name) := by
  rw [bodyArgument]
  cases arguments.get? parameter.name with
  | some given => rfl
  | none => exact unset_parameter made distinct known

section Missing

variable {owner name : String}

theorem onUri_missing {draft : RequestDraft} {value : StepValue}
    {act : UriDraft → String → Except RequestError UriDraft}
    (acts : ∀ uri text, act uri text ≠ .error (.missingArgument owner name))
    (failed : plan.onUri arguments draft value act = .error (.missingArgument owner name)) :
    plan.texts value arguments = .error (.missingArgument owner name) := by
  rcases bind_eq_error failed with early | ⟨text, -, late⟩
  · rcases bind_eq_error early with early | ⟨texts, -, late⟩
    · exact early
    · cases late
  · cases text with
    | none => cases late
    | some text =>
        rcases bind_eq_error late with acted | ⟨uri, -, later⟩
        · exact absurd acted (acts draft.uri text)
        · cases later

theorem reset_missing (uri : UriDraft) (text : String) :
    uri.reset text ≠ .error (.missingArgument owner name) := by
  rw [UriDraft.reset]
  split <;> exact fun failed => by cases failed

theorem flattenedFields_missing {initializers : List BodyInitializer}
    (failed : plan.flattenedFields arguments initializers = .error (.missingArgument owner name)) :
    ∃ referred ∈ initializers.map (·.parameter),
      plan.bodyArgument referred arguments = .error (.missingArgument owner name) := by
  induction initializers with
  | nil => cases failed
  | cons first rest ih =>
      rcases bind_eq_error failed with early | ⟨given, -, late⟩
      · exact ⟨first.parameter, List.mem_cons_self, early⟩
      · rcases bind_eq_error late with early | ⟨fields, -, later⟩
        · obtain ⟨referred, member, missed⟩ := ih early
          exact ⟨referred, List.mem_cons_of_mem _ member, missed⟩
        · cases later

/-- A body misses an argument only for a parameter that it refers to. -/
theorem bodyContent_missing {source : BodySource} {memo memo' : Memo}
    (failed : (plan.bodyContent model arguments source).run memo =
      (.error (.missingArgument owner name), memo')) :
    ∃ referred ∈ source.parameters,
      plan.bodyArgument referred arguments = .error (.missingArgument owner name) := by
  cases source with
  | planned parameter format wire =>
      rcases run_bind_eq_error failed with early | ⟨given, _, -, late⟩
      · exact ⟨parameter, List.mem_singleton_self _, congrArg Prod.fst early⟩
      · cases given with
        | none => cases late
        | some value =>
            -- What fails later is the value itself.
            rcases run_bind_eq_error late with written | ⟨content, _, -, later⟩
            · obtain ⟨cause, same⟩ := run_mapError_eq_error written
              cases same
            · cases later
  | binary parameter =>
      rcases bind_eq_error (congrArg Prod.fst failed) with early | ⟨given, -, late⟩
      · exact ⟨parameter, List.mem_singleton_self _, early⟩
      · cases given with
        | none => cases late
        | some value => cases value <;> cases late
  | text parameter =>
      rcases bind_eq_error (congrArg Prod.fst failed) with early | ⟨given, -, late⟩
      · exact ⟨parameter, List.mem_singleton_self _, early⟩
      · cases given with
        | none => cases late
        | some value => cases value <;> cases late
  | flattened schema initializers format wire =>
      rcases run_bind_eq_error failed with early | ⟨fields, _, -, late⟩
      · exact flattenedFields_missing (congrArg Prod.fst early)
      · rcases run_bind_eq_error late with written | ⟨content, _, -, later⟩
        · obtain ⟨cause, same⟩ := run_mapError_eq_error written
          cases same
        · cases later

/-- A step misses an argument only for its value, or for a parameter of the body. -/
theorem takeStep_missing {draft : RequestDraft} {step : CallStep} {memo memo' : Memo}
    (failed : (plan.takeStep model arguments draft step).run memo =
      (.error (.missingArgument owner name), memo')) :
    (∃ value, step.value? = some value ∧
      plan.texts value arguments = .error (.missingArgument owner name)) ∨
    ∃ body, step = .setBody body ∧ ∃ referred ∈ body.source.parameters,
      plan.bodyArgument referred arguments = .error (.missingArgument owner name) := by
  cases step with
  | resetEndpoint value =>
      exact .inl ⟨value, rfl, onUri_missing reset_missing (congrArg Prod.fst failed)⟩
  | appendConstant text => cases failed
  | appendValue value escape =>
      have acted : plan.onUri arguments draft value (fun uri text =>
        .ok (uri.append (if escape then Text.Percent.encodePath text else text))) = _ := congrArg Prod.fst failed
      exact .inl ⟨value, rfl, onUri_missing (by simp) acted⟩
  | appendRaw value =>
      have acted : plan.onUri arguments draft value (fun uri text =>
        .ok (uri.append text)) = _ := congrArg Prod.fst failed
      exact .inl ⟨value, rfl, onUri_missing (by simp) acted⟩
  | followLink value =>
      have acted : plan.onUri arguments draft value (fun uri text =>
        .ok (uri.follow text)) = _ := congrArg Prod.fst failed
      exact .inl ⟨value, rfl, onUri_missing (by simp) acted⟩
  | addQuery entry value style escape =>
      rcases run_bind_eq_error failed with early | ⟨texts, _, -, late⟩
      · exact .inl ⟨value, rfl, congrArg Prod.fst early⟩
      · cases texts <;> cases late
  | addHeader header value style =>
      rcases run_bind_eq_error failed with early | ⟨texts, _, -, late⟩
      · exact .inl ⟨value, rfl, congrArg Prod.fst early⟩
      · cases texts <;> cases late
  | setBody body =>
      rcases run_bind_eq_error failed with early | ⟨content, _, -, late⟩
      · exact .inr ⟨body, rfl, bodyContent_missing early⟩
      · cases content <;> cases late

theorem takeSteps_missing {draft : RequestDraft} {steps : List CallStep} {memo memo' : Memo}
    (failed : (plan.takeSteps model arguments draft steps).run memo =
      (.error (.missingArgument owner name), memo')) :
    ∃ step ∈ steps, (∃ value, step.value? = some value ∧
      plan.texts value arguments = .error (.missingArgument owner name)) ∨
    ∃ body, step = .setBody body ∧ ∃ referred ∈ body.source.parameters,
      plan.bodyArgument referred arguments = .error (.missingArgument owner name) := by
  -- By induction on the steps, since those before the failing one only change the draft and the tables.
  induction steps generalizing draft memo with
  | nil => cases failed
  | cons step rest ih =>
      rcases run_bind_eq_error failed with here | ⟨next, _, -, later⟩
      · exact ⟨step, List.mem_cons_self, takeStep_missing here⟩
      · obtain ⟨other, member, missed⟩ := ih later
        exact ⟨other, List.mem_cons_of_mem _ member, missed⟩

theorem literal_missing (value : StepValue) (document : Json) :
    argument.literal value document ≠ .error (.missingArgument owner name) := by
  rw [argument.literal]
  split <;> exact fun failed => by cases failed

/-- Complete arguments leave no value of a step out. -/
theorem texts_complete {memo memo' : Memo}
    (made : (model.callPlan operation).run memo = (.ok plan, memo'))
    (distinct : (operation.parameters.map (·.name)).Nodup)
    (complete : operation.Complete arguments) {parameter : Parameter}
    (known : parameter ∈ operation.parameters) {value : StepValue}
    (stepped : model.stepValue operation parameter = .ok value) :
    plan.texts value arguments ≠ .error (.missingArgument owner name) := by
  intro failed
  -- A constant, an argument, a default or leave to be left out: one of them is there.
  rcases bind_eq_error failed with argued | ⟨given, -, late⟩
  · rw [argument_parameter made distinct known stepped] at argued
    split at argued
    next document _ => exact literal_missing value document argued
    next free =>
      split at argued
      next => cases argued
      next missing =>
        split at argued
        next document _ => exact literal_missing value document argued
        next noDefault =>
          split at argued
          next => cases argued
          next needed =>
            have set := complete parameter known free (by simpa using needed) noDefault
            rw [missing] at set
            cases set
  · cases given with
    | none => cases late
    | some value =>
        simp only at late
        split at late <;> cases late

end Missing

theorem flattenedFields_given {initializers : List BodyInitializer} {fields : List (String × Value)}
    (made : plan.flattenedFields arguments initializers = .ok fields) :
    ∀ name ∈ initializers.map (·.parameter),
      ∃ given, plan.bodyArgument name arguments = .ok given := by
  induction initializers generalizing fields with
  | nil => simp
  | cons first rest ih =>
      obtain ⟨given, found, others⟩ := bind_eq_ok made
      obtain ⟨later, read, -⟩ := bind_eq_ok others
      intro name member
      rcases List.mem_cons.mp member with same | inside
      · exact ⟨given, same ▸ found⟩
      · exact ih read name inside

theorem bodyContent_given {source : BodySource} {content : Option (List UInt8)} {memo memo' : Memo}
    (made : (plan.bodyContent model arguments source).run memo = (.ok content, memo')) :
    ∀ name ∈ source.parameters, ∃ given, plan.bodyArgument name arguments = .ok given := by
  intro name member
  cases source with
  | planned parameter format wire =>
      obtain ⟨given, _, found, -⟩ := run_bind_eq_ok made
      exact ⟨given, List.mem_singleton.mp member ▸ congrArg Prod.fst found⟩
  | binary parameter =>
      obtain ⟨given, found, -⟩ := bind_eq_ok (congrArg Prod.fst made)
      exact ⟨given, List.mem_singleton.mp member ▸ found⟩
  | text parameter =>
      obtain ⟨given, found, -⟩ := bind_eq_ok (congrArg Prod.fst made)
      exact ⟨given, List.mem_singleton.mp member ▸ found⟩
  | flattened schema initializers format wire =>
      obtain ⟨fields, _, found, -⟩ := run_bind_eq_ok made
      exact flattenedFields_given (congrArg Prod.fst found) name member

section Congruence

variable {other : Arguments}

theorem flattenedFields_congr {initializers : List BodyInitializer}
    (same : ∀ name ∈ initializers.map (·.parameter),
      plan.bodyArgument name other = plan.bodyArgument name arguments) :
    plan.flattenedFields other initializers = plan.flattenedFields arguments initializers := by
  induction initializers with
  | nil => rfl
  | cons first rest ih =>
      have head := same first.parameter List.mem_cons_self
      have tail := ih fun name member => same name (List.mem_cons_of_mem _ member)
      rw [flattenedFields, flattenedFields, head, tail]

theorem bodyContent_congr {source : BodySource}
    (same : ∀ name ∈ source.parameters,
      plan.bodyArgument name other = plan.bodyArgument name arguments) :
    plan.bodyContent model other source = plan.bodyContent model arguments source := by
  cases source with
  | planned parameter format wire =>
      rw [bodyContent, bodyContent, same parameter (List.mem_singleton_self _)]
  | binary parameter =>
      rw [bodyContent, bodyContent, same parameter (List.mem_singleton_self _)]
  | text parameter =>
      rw [bodyContent, bodyContent, same parameter (List.mem_singleton_self _)]
  | flattened schema initializers format wire =>
      rw [bodyContent, bodyContent, flattenedFields_congr same]

/-- A step depends on no more than the texts of its value and what a body looks up. -/
theorem takeStep_congr {step : CallStep}
    (sameTexts : ∀ value, step.value? = some value →
      plan.texts value other = plan.texts value arguments)
    (sameBody : ∀ body, step = .setBody body → ∀ name ∈ body.source.parameters,
      plan.bodyArgument name other = plan.bodyArgument name arguments)
    (draft : RequestDraft) :
    plan.takeStep model other draft step = plan.takeStep model arguments draft step := by
  have single : ∀ value, step.value? = some value →
      plan.singleText value other = plan.singleText value arguments := by
    intro value carries
    rw [singleText, singleText, sameTexts value carries]
  cases step with
  | appendConstant text => rfl
  | setBody body => rw [takeStep, takeStep, bodyContent_congr (sameBody body rfl)]
  | addQuery name value style escape => rw [takeStep, takeStep, sameTexts value rfl]
  | addHeader name value style => rw [takeStep, takeStep, sameTexts value rfl]
  | resetEndpoint value => rw [takeStep, takeStep, onUri, onUri, single value rfl]
  | appendValue value escape => rw [takeStep, takeStep, onUri, onUri, single value rfl]
  | appendRaw value => rw [takeStep, takeStep, onUri, onUri, single value rfl]
  | followLink value => rw [takeStep, takeStep, onUri, onUri, single value rfl]

theorem takeSteps_congr {steps : List CallStep}
    (same : ∀ step ∈ steps, ∀ draft,
      plan.takeStep model other draft step = plan.takeStep model arguments draft step)
    (draft : RequestDraft) :
    plan.takeSteps model other draft steps = plan.takeSteps model arguments draft steps := by
  induction steps generalizing draft with
  | nil => rfl
  | cons step rest ih =>
      have tail := ih fun later member => same later (List.mem_cons_of_mem _ member)
      rw [takeSteps, takeSteps, same step List.mem_cons_self]
      exact congrArg _ (funext tail)

end Congruence

/-- The same call is made with arguments that differ in one parameter only, where that parameter
gives the same value outside the body and the body does not refer to it. -/
theorem evaluate_adding {memo memo' : Memo}
    (made : (model.callPlan operation).run memo = (.ok plan, memo'))
    (distinct : (operation.parameters.map (·.name)).Nodup) {parameter : Parameter}
    (known : parameter ∈ operation.parameters) (unreferred : parameter.name ∉ operation.bodyParameters)
    {added : Value}
    (same : ∀ value, model.stepValue operation parameter = .ok value →
      plan.argument value (arguments.adding parameter.name added) = plan.argument value arguments)
    (endpoint : String) :
    plan.evaluate model endpoint (arguments.adding parameter.name added) =
      plan.evaluate model endpoint arguments := by
  have steps : ∀ step ∈ plan.steps, ∀ draft,
      plan.takeStep model (arguments.adding parameter.name added) draft step =
        plan.takeStep model arguments draft step := by
    intro step member
    apply takeStep_congr
    · intro value carries
      obtain ⟨carried, isDeclared, stepped⟩ := step_value made member carries
      rw [texts, texts]
      -- Names tell parameters apart, so a step has the value of this parameter or looks another name up.
      by_cases equal : carried.name = parameter.name
      · have first := find?_name distinct isDeclared
        rw [equal, find?_name distinct known] at first
        cases first
        rw [same value stepped]
      · rw [argument_parameter made distinct isDeclared stepped,
          argument_parameter made distinct isDeclared stepped, Arguments.get?_adding_other equal]
    · intro body isBody name referred
      rw [body_parameters made (isBody ▸ member)] at referred
      have different : name ≠ parameter.name := fun equal => unreferred (equal ▸ referred)
      rw [bodyArgument, bodyArgument, Arguments.get?_adding_other different]
  rw [evaluate, evaluate, takeSteps_congr steps]

theorem bodyArgument_missing {memo memo' : Memo}
    (made : (model.callPlan operation).run memo = (.ok plan, memo'))
    (distinct : (operation.parameters.map (·.name)).Nodup)
    (complete : operation.Complete arguments) {owner name referred : String}
    (inBody : referred ∈ operation.bodyParameters)
    (failed : plan.bodyArgument referred arguments = .error (.missingArgument owner name)) :
    owner = operation.name ∧ operation.Missed arguments name := by
  obtain ⟨parameter, known, named⟩ := body_declared made inBody
  rw [← named, bodyArgument_parameter made distinct known] at failed
  split at failed
  next => cases failed
  next unset =>
    split at failed
    next => cases failed
    next needed =>
      cases failed
      refine ⟨rfl, named ▸ inBody, unset, parameter, known, rfl, ?_⟩
      cases fixed : parameter.constant with
      | some document => exact .inl rfl
      | none =>
          cases default : parameter.defaultValue with
          | some document => exact .inr rfl
          | none =>
              have set := complete parameter known fixed (by simpa using needed) default
              rw [unset] at set
              cases set

/-- With complete arguments no parameter is missed but one of the body that stands for a constant or
a default elsewhere, and such a one makes the call impossible. Outside the body an unset parameter
counts as its default and a constant as itself. -/
theorem evaluate_complete {memo : Memo}
    (made : ((model.callPlan operation).run memo).1 = .ok plan)
    (distinct : (operation.parameters.map (·.name)).Nodup)
    (complete : operation.Complete arguments) (endpoint : String) (tables : Memo) :
    (∀ owner name,
      ((plan.evaluate model endpoint arguments).run tables).1 = .error (.missingArgument owner name) →
        owner = operation.name ∧ operation.Missed arguments name) ∧
    (∀ name, operation.Missed arguments name →
      ∀ request, ((plan.evaluate model endpoint arguments).run tables).1 ≠ .ok request) ∧
    (∀ parameter ∈ operation.parameters, ∀ document added,
      parameter.constant = none → parameter.defaultValue = some document →
      arguments.get? parameter.name = none → parameter.name ∉ operation.bodyParameters →
      (∀ form, model.textForm operation parameter = .ok form → form.valueOf document = .ok added) →
        plan.evaluate model endpoint (arguments.adding parameter.name added) =
          plan.evaluate model endpoint arguments) ∧
    ∀ step ∈ plan.steps, ∀ value, step.value? = some value →
      ∃ parameter ∈ operation.parameters, model.stepValue operation parameter = .ok value ∧
        ∀ document, parameter.constant = some document →
          plan.texts value arguments =
            ((value.form.literalTexts document).map some).mapError .value := by
  have made' : (model.callPlan operation).run memo = (.ok plan, _) := Prod.ext made rfl
  refine ⟨?_, ?_, ?_, ?_⟩
  · intro owner name failed
    have failed' : (plan.evaluate model endpoint arguments).run tables =
        (.error (.missingArgument owner name), _) := Prod.ext failed rfl
    -- The step that fails does not miss its own value, so it is the body.
    rcases run_bind_eq_error failed' with stepping | ⟨draft, _, -, finishing⟩
    · obtain ⟨step, member, missed⟩ := takeSteps_missing stepping
      rcases missed with ⟨value, carries, missed⟩ | ⟨body, isBody, referred, inBody, missed⟩
      · obtain ⟨parameter, known, stepped⟩ := step_value made' member carries
        exact absurd missed (texts_complete made' distinct complete known stepped)
      · rw [body_parameters made' (isBody ▸ member)] at inBody
        exact bodyArgument_missing made' distinct complete inBody missed
    · cases finishing
  · rintro name ⟨inBody, unset, parameter, known, named, fixed⟩ request evaluated
    have evaluated' : (plan.evaluate model endpoint arguments).run tables = (.ok request, _) :=
      Prod.ext evaluated rfl
    obtain ⟨final, _, taken, -⟩ := run_bind_eq_ok evaluated'
    -- For a request the body has looked the parameter up, but nothing is found for it.
    obtain ⟨body, member, referred⟩ := exists_body made' inBody
    obtain ⟨before, after, _, _, entered⟩ := takeSteps_each taken member
    obtain ⟨content, _, written, -⟩ := run_bind_eq_ok entered
    obtain ⟨given, found⟩ := bodyContent_given written name referred
    have needed : parameter.isNullable = false := by
      rw [Parameter.isNullable]
      rcases fixed with constant | default
      · simp [Option.isNone_eq_false_iff.mpr constant]
      · simp [Option.isNone_eq_false_iff.mpr default]
    rw [← named, bodyArgument_parameter made' distinct known, named, unset, needed] at found
    cases found
  · intro parameter known document added free default unset unreferred isDefault
    apply evaluate_adding made' distinct known unreferred
    intro value stepped
    obtain ⟨form, formed, shaped⟩ := bind_eq_ok stepped
    have literal : argument.literal value document = .ok (some added) := by
      cases shaped
      rw [argument.literal, isDefault form formed]
    rw [argument_parameter made' distinct known stepped, argument_parameter made' distinct known stepped,
      free, unset, default, Arguments.get?_adding]
    by_cases null : added.isNull
    · simp [null]
    · simp [null, literal]
  · intro step member value carries
    obtain ⟨parameter, known, stepped⟩ := step_value made' member carries
    refine ⟨parameter, known, stepped, fun document constant => ?_⟩
    rw [texts, argument_parameter made' distinct known stepped, constant, TextForm.literalTexts]
    simp only [argument.literal]
    cases value.form.valueOf document with
    | error e => rfl
    | ok made =>
        simp only [ok_bind]
        cases value.form.texts made <;> rfl

/-- A default in the body, another in the query and a constant in a header. -/
def saveNote : Operation :=
  { name := "saveNote"
    method := .put
    path := [.constant "/note"]
    parameters :=
      [{ name := "note", schema := "Text", location := .body, defaultValue := some (.string "empty") },
        { name := "lang", schema := "Text", location := .query, defaultValue := some (.string "en") },
        { name := "version", schema := "Text", location := .header, constant := some (.string "2") }]
    body := some (.text "note" none) }

def savePlan : CallPlan :=
  { operation := "saveNote"
    method := .put
    signature :=
      [⟨"note", "note", .body, ⟨.primitive .string, false⟩, false, false, some (.string "empty")⟩,
        ⟨"lang", "lang", .query, ⟨.primitive .string, false⟩, false, false, some (.string "en")⟩]
    steps :=
      [.appendConstant "/note",
        .addQuery "lang" ⟨.parameter "lang", .scalar (.primitive .string none)⟩ .none true,
        .addHeader "version" ⟨.constant (.string "2"), .scalar (.primitive .string none)⟩ .none,
        .setBody ⟨.text "note", "text/plain; charset=utf-8"⟩] }

/-- No argument has to be set, but without one for the body there is no request. -/
theorem saveNote_complete :
    ((saveNote.parameters.map (·.name)).Nodup ∧ saveNote.Complete ⟨[]⟩) ∧
      saveNote.Missed ⟨[]⟩ "note" ∧
      (∀ request, ((savePlan.evaluate notes "https://notes.test" ⟨[]⟩).run {}).1 ≠ .ok request) ∧
      savePlan.evaluate notes "https://notes.test" (Arguments.adding ⟨[]⟩ "lang" (.string "en")) =
        savePlan.evaluate notes "https://notes.test" ⟨[]⟩ := by
  have distinct : (saveNote.parameters.map (·.name)).Nodup := by decide
  have complete : saveNote.Complete ⟨[]⟩ := by
    intro parameter known free needed noDefault
    simp only [saveNote, List.mem_cons, List.not_mem_nil, or_false] at known
    rcases known with rfl | rfl | rfl
    · cases noDefault
    · cases noDefault
    · cases free
  have missed : saveNote.Missed ⟨[]⟩ "note" :=
    ⟨List.mem_singleton_self _, rfl, _, List.mem_cons_self, rfl, .inr rfl⟩
  have made : ((notes.callPlan saveNote).run {}).1 = .ok savePlan := rfl
  obtain ⟨-, stopped, defaults, -⟩ :=
    evaluate_complete made distinct complete "https://notes.test" {}
  refine ⟨⟨distinct, complete⟩, missed, stopped "note" missed, ?_⟩
  apply defaults _ (List.mem_cons_of_mem _ List.mem_cons_self) (.string "en") (.string "en") rfl rfl rfl
  · decide
  · intro form formed
    cases formed
    rfl

end CallPlan

end ApiContract
