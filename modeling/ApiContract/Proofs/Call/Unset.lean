import ApiContract.Proofs.Call.Completeness

/-!
What an unset parameter contributes that may be left out: nothing. A step that takes its value from
the parameter does nothing, and a flattened body lacks the fields that the parameter would fill, so
the call is that of the plan which does not know the parameter at all.
-/

namespace ApiContract

/-- The source of a body without what it takes from a parameter. -/
def BodySource.without (name : String) : BodySource → Option BodySource
  | .planned parameter format plan =>
      if parameter = name then none else some (.planned parameter format plan)
  | .binary parameter => if parameter = name then none else some (.binary parameter)
  | .text parameter => if parameter = name then none else some (.text parameter)
  | .flattened schema initializers format plan =>
      some (.flattened schema (initializers.filter (·.parameter != name)) format plan)

/-- A step without what it takes from a parameter. -/
def CallStep.without (name : String) : CallStep → Option CallStep
  | .setBody body => (body.source.without name).map fun source => .setBody { body with source }
  | step => if step.value?.any (·.source = .parameter name) then none else some step

/-- The plan in which nothing is taken from a parameter. -/
def CallPlan.without (plan : CallPlan) (name : String) : CallPlan :=
  { plan with steps := plan.steps.filterMap (CallStep.without name) }

theorem CallStep.without_of_value {name : String} {step : CallStep} {value : StepValue}
    (carries : step.value? = some value) :
    step.without name = if value.source = .parameter name then none else some step := by
  have taken : step.value?.any (·.source = .parameter name) = decide (value.source = .parameter name) := by
    rw [carries, Option.any_some]
  cases step with
  | appendConstant text => cases carries
  | setBody body => cases carries
  | _ => simp only [without, taken, decide_eq_true_eq]

namespace CallPlan

open Planning

variable {model : Model} {operation : Operation} {plan : CallPlan} {arguments : Arguments}
  {name : String}

/-- Callers may leave a parameter of this name unset, and then nothing stands in its place. -/
def Skips (plan : CallPlan) (name : String) : Prop :=
  ∃ seen, plan.parameter? name = some seen ∧ seen.nullable = true ∧ seen.default = none

section Skipped

variable (skips : plan.Skips name) (missing : arguments.get? name = none)
include skips

theorem Skips.unset {α : Type} : (plan.unset name : Except RequestError (Option α)) = .ok none := by
  obtain ⟨⟨_, _, _, _, _, nullable, _⟩, found, flag, -⟩ := skips
  cases flag
  rw [CallPlan.unset, found]

include missing

theorem Skips.argument {value : StepValue} (source : value.source = .parameter name) :
    plan.argument value arguments = .ok none := by
  obtain ⟨seen, found, -, default⟩ := id skips
  rw [CallPlan.argument, source]
  simp only [missing, found, Option.bind_some, default]
  exact skips.unset

theorem Skips.texts {value : StepValue} (source : value.source = .parameter name) :
    plan.texts value arguments = .ok none := by
  rw [CallPlan.texts, skips.argument missing source]
  rfl

theorem Skips.bodyArgument : plan.bodyArgument name arguments = .ok none := by
  rw [CallPlan.bodyArgument, missing]
  exact skips.unset

/-- The parameter adds no field to a flattened body. -/
theorem Skips.flattenedFields (initializers : List BodyInitializer) :
    plan.flattenedFields arguments initializers =
      plan.flattenedFields arguments (initializers.filter (·.parameter != name)) := by
  induction initializers with
  | nil => rfl
  | cons first rest ih =>
      rw [CallPlan.flattenedFields, ih, List.filter_cons]
      by_cases own : first.parameter = name
      · rw [if_neg (by simp [own]), own, skips.bodyArgument missing, ok_bind]
        cases plan.flattenedFields arguments (rest.filter (·.parameter != name)) <;> rfl
      · rw [if_pos (by simp [own]), CallPlan.flattenedFields]

theorem Skips.bodyContent (source : BodySource) :
    plan.bodyContent model arguments source =
      match source.without name with
      | some kept => plan.bodyContent model arguments kept
      | none => pure none := by
  cases source with
  | flattened schema initializers format wire =>
      rw [CallPlan.bodyContent, skips.flattenedFields missing initializers]
      rfl
  | planned parameter _ _ | binary parameter | text parameter =>
      rw [BodySource.without]
      by_cases own : parameter = name
      · rw [if_pos own, CallPlan.bodyContent, own, skips.bodyArgument missing]
        rfl
      · rw [if_neg own]

/-- A step whose value is taken from the parameter does nothing. -/
theorem Skips.takeStep_value {step : CallStep} {value : StepValue}
    (carries : step.value? = some value) (source : value.source = .parameter name)
    (draft : RequestDraft) : plan.takeStep model arguments draft step = pure draft := by
  have texts := skips.texts missing source
  have single : plan.singleText value arguments = .ok none := by
    rw [singleText, texts]
    rfl
  cases step with
  | appendConstant text => cases carries
  | setBody body => cases carries
  | addQuery wireName _ style escape =>
      cases carries
      rw [takeStep, texts]
      rfl
  | addHeader wireName _ style =>
      cases carries
      rw [takeStep, texts]
      rfl
  | resetEndpoint _ | appendValue _ _ | appendRaw _ | followLink _ =>
      cases carries
      rw [takeStep, onUri, single]
      rfl

theorem Skips.takeStep (draft : RequestDraft) (step : CallStep) :
    plan.takeStep model arguments draft step =
      match step.without name with
      | some kept => plan.takeStep model arguments draft kept
      | none => pure draft := by
  cases carries : step.value? with
  | some value =>
      rw [CallStep.without_of_value carries]
      by_cases own : value.source = .parameter name
      · rw [if_pos own, skips.takeStep_value missing carries own]
      · rw [if_neg own]
  | none =>
      cases step with
      | appendConstant text => rfl
      | setBody body =>
          rw [CallStep.without, CallPlan.takeStep, skips.bodyContent missing body.source]
          cases body.source.without name <;> rfl
      | _ => cases carries

theorem Skips.takeSteps (draft : RequestDraft) (steps : List CallStep) :
    plan.takeSteps model arguments draft steps =
      plan.takeSteps model arguments draft (steps.filterMap (CallStep.without name)) := by
  induction steps generalizing draft with
  | nil => rfl
  | cons step rest ih =>
      rw [CallPlan.takeSteps, skips.takeStep missing draft step, List.filterMap_cons]
      cases step.without name with
      | none => exact ih draft
      | some kept => exact congrArg _ (funext ih)

theorem Skips.evaluate (endpoint : String) :
    plan.evaluate model endpoint arguments =
      (plan.without name).evaluate model endpoint arguments := by
  have same : (plan.without name).takeSteps model arguments { uri := .ofEndpoint endpoint }
        (plan.without name).steps =
      plan.takeSteps model arguments { uri := .ofEndpoint endpoint } plan.steps := by
    rw [skips.takeSteps missing]
    exact takeSteps_replaced _ _ _
  rw [CallPlan.evaluate, CallPlan.evaluate, same]
  rfl

end Skipped

/-! What is left does not depend on the parameter. -/

theorem without_value {step kept : CallStep} (left : step.without name = some kept)
    {value : StepValue} (carries : kept.value? = some value) :
    value.source ≠ .parameter name := by
  cases taken : step.value? with
  | some own =>
      rw [CallStep.without_of_value taken] at left
      split at left
      next => cases left
      next other =>
        cases left
        rw [taken] at carries
        cases carries
        exact other
  | none =>
      cases step with
      | appendConstant text =>
          cases left
          cases carries
      | setBody body =>
          obtain ⟨source, -, same⟩ := Option.map_eq_some_iff.mp left
          rw [← same] at carries
          cases carries
      | _ => cases taken

theorem without_body {step : CallStep} {body : BodyStep}
    (left : step.without name = some (.setBody body)) : name ∉ body.source.parameters := by
  have lone : ∀ {parameter : String} {source kept : BodySource},
      (if parameter = name then none else some source) = some kept →
      source.parameters = [parameter] → name ∉ kept.parameters := by
    intro parameter source kept remains only
    split at remains
    next => cases remains
    next other =>
      cases remains
      rw [only, List.mem_singleton]
      exact fun same => other same.symm
  cases step with
  | setBody whole =>
      obtain ⟨kept, remains, same⟩ := Option.map_eq_some_iff.mp left
      cases same
      obtain ⟨source, contentType⟩ := whole
      cases source with
      | planned parameter format wire => exact lone remains rfl
      | binary parameter => exact lone remains rfl
      | text parameter => exact lone remains rfl
      | flattened schema initializers format wire =>
          cases remains
          intro member
          obtain ⟨initializer, inside, same⟩ := List.mem_map.mp member
          have other := (List.mem_filter.mp inside).2
          rw [same] at other
          simp at other
  | appendConstant text => cases left
  | _ =>
      rw [CallStep.without_of_value rfl] at left
      split at left <;> cases left

theorem texts_other {other : Arguments} {value : StepValue}
    (apart : value.source ≠ .parameter name)
    (agree : ∀ different, different ≠ name → other.get? different = arguments.get? different) :
    plan.texts value other = plan.texts value arguments := by
  rw [texts, texts, argument, argument]
  cases source : value.source with
  | constant document => rfl
  | parameter asked =>
      have different : asked ≠ name := fun same => apart (by rw [source, same])
      simp only [agree asked different]

/-- The plan without a parameter makes the same call whatever the parameter is set to. -/
theorem evaluate_without {other : Arguments}
    (agree : ∀ different, different ≠ name → other.get? different = arguments.get? different)
    (endpoint : String) :
    (plan.without name).evaluate model endpoint other =
      (plan.without name).evaluate model endpoint arguments := by
  rw [evaluate, evaluate]
  congr 1
  apply takeSteps_congr
  intro kept member draft
  obtain ⟨step, -, left⟩ := List.mem_filterMap.mp member
  apply takeStep_congr
  · exact fun value carries => texts_other (without_value left carries) agree
  · intro body isBody asked referred
    rw [isBody] at left
    have different : asked ≠ name := fun same => without_body left (same ▸ referred)
    rw [bodyArgument, bodyArgument, agree asked different]

/-! Headers, where no step sets a body. -/

/-- The header that a step adds. -/
def stepHeader? (plan : CallPlan) (arguments : Arguments) : CallStep → Option (String × String)
  | .addHeader name value style =>
      (plan.texts? arguments value).map fun texts =>
        (name, String.intercalate (style.delimiter.getD ",") texts)
  | _ => none

theorem onUri_kept {draft next : RequestDraft} {value : StepValue}
    {act : UriDraft → String → Except RequestError UriDraft} {memo memo' : Memo}
    (taken : (lift (plan.onUri arguments draft value act)).run memo = (.ok next, memo')) :
    next.headers = draft.headers ∧ next.body = draft.body := by
  have acted : plan.onUri arguments draft value act = .ok next := congrArg Prod.fst taken
  obtain ⟨text, -, rest⟩ := bind_eq_ok acted
  cases text with
  | none =>
      cases rest
      exact ⟨rfl, rfl⟩
  | some text =>
      obtain ⟨uri, -, same⟩ := bind_eq_ok rest
      cases same
      exact ⟨rfl, rfl⟩

/-- A step adds its header, and only one that has content for a body sets it. -/
theorem takeStep_headers {draft next : RequestDraft} {step : CallStep} {memo memo' : Memo}
    (taken : (plan.takeStep model arguments draft step).run memo = (.ok next, memo'))
    (idle : ∀ body, step = .setBody body →
      plan.bodyContent model arguments body.source = pure none) :
    next.headers = draft.headers ++ (plan.stepHeader? arguments step).toList ∧
      next.body = draft.body := by
  cases step with
  | appendConstant text =>
      cases taken
      exact ⟨(List.append_nil _).symm, rfl⟩
  | addQuery name value style escape =>
      obtain ⟨texts, _, -, rest⟩ := run_bind_eq_ok taken
      cases texts <;> cases rest <;> exact ⟨(List.append_nil _).symm, rfl⟩
  | addHeader name value style =>
      obtain ⟨texts, _, written, rest⟩ := run_bind_eq_ok taken
      have made : plan.texts value arguments = .ok texts := congrArg Prod.fst written
      rw [stepHeader?, texts?, made]
      cases texts with
      | none =>
          cases rest
          exact ⟨(List.append_nil _).symm, rfl⟩
      | some texts =>
          cases rest
          exact ⟨rfl, rfl⟩
  | setBody body =>
      rw [takeStep, idle body rfl] at taken
      cases taken
      exact ⟨(List.append_nil _).symm, rfl⟩
  | resetEndpoint _ | appendValue _ _ | appendRaw _ | followLink _ =>
      rw [takeStep] at taken
      obtain ⟨headers, body⟩ := onUri_kept taken
      exact ⟨headers.trans (List.append_nil _).symm, body⟩

theorem takeSteps_headers {draft final : RequestDraft} {steps : List CallStep} {memo memo' : Memo}
    (taken : (plan.takeSteps model arguments draft steps).run memo = (.ok final, memo'))
    (idle : ∀ body, .setBody body ∈ steps →
      plan.bodyContent model arguments body.source = pure none) :
    final.headers = draft.headers ++ steps.filterMap (plan.stepHeader? arguments) ∧
      final.body = draft.body := by
  induction steps generalizing draft memo with
  | nil =>
      cases taken
      exact ⟨(List.append_nil _).symm, rfl⟩
  | cons step rest ih =>
      obtain ⟨next, between, first, others⟩ := run_bind_eq_ok taken
      obtain ⟨headers, body⟩ := takeStep_headers first fun body same =>
        idle body (same ▸ List.mem_cons_self)
      obtain ⟨headers', body'⟩ := ih others fun body member => idle body (List.mem_cons_of_mem _ member)
      constructor
      · rw [headers', headers, List.append_assoc, List.filterMap_cons]
        cases plan.stepHeader? arguments step <;> rfl
      · exact body'.trans body

/-! The plan of an operation. -/

theorem mem_signature {memo memo' : Memo}
    (made : (model.callPlan operation).run memo = (.ok plan, memo'))
    {parameter : SignatureParameter} (member : parameter ∈ plan.signature) :
    ∃ declared ∈ operation.parameters, declared.constant = none ∧
      asked parameter = (declared.name, declared.defaultValue, declared.isNullable) := by
  obtain ⟨bound, split, views⟩ := callPlan_signature made
  rw [split] at member
  have inside : parameter ∈ bound := by
    rcases List.mem_append.mp member with free | given
    · exact (List.mem_filter.mp free).1
    · exact (List.mem_filter.mp given).1
  have view := List.mem_map_of_mem (f := asked) inside
  rw [views] at view
  obtain ⟨declared, known, same⟩ := List.mem_map.mp view
  obtain ⟨known, free⟩ := List.mem_filter.mp known
  exact ⟨declared, known, Option.isNone_iff_eq_none.mp free, same.symm⟩

/-- A call has at most one body. -/
theorem only_body {memo memo' : Memo}
    (made : (model.callPlan operation).run memo = (.ok plan, memo')) {body other : BodyStep}
    (isBody : .setBody body ∈ plan.steps) (isOther : .setBody other ∈ plan.steps) :
    body = other := by
  obtain ⟨before, steps, _, _, textMade, bodyMade, split, -⟩ := callPlan_parts made
  have last : ∀ {step : BodyStep}, .setBody step ∈ plan.steps → .setBody step ∈ steps := by
    intro step inside
    rw [split] at inside
    exact (List.mem_append.mp inside).resolve_left (textSteps_bodiless textMade)
  rcases bodySteps_eq_ok bodyMade with ⟨-, none⟩ | ⟨single, only, -, -⟩
  · have inside := last isBody
    rw [none] at inside
    cases inside
  · have first := last isBody
    have second := last isOther
    rw [only, List.mem_singleton] at first second
    exact CallStep.setBody.inj (first.trans second.symm)

/-- A nullable parameter of a signature may be left out, where no other has its name. -/
theorem skips_of_nullable {memo memo' : Memo}
    (made : (model.callPlan operation).run memo = (.ok plan, memo'))
    (distinct : (operation.parameters.map (·.name)).Nodup) {parameter : SignatureParameter}
    (member : parameter ∈ plan.signature) (nullable : parameter.nullable = true) :
    plan.Skips parameter.name := by
  obtain ⟨declared, known, free, same⟩ := mem_signature made member
  have named : parameter.name = declared.name := congrArg Prod.fst same
  have flag : parameter.nullable = declared.isNullable := congrArg (·.2.2) same
  have found := parameter?_asked made declared.name
  rw [Operation.callerParameter?_of_mem distinct known free, Option.map_some, ← named,
    ← flag, nullable] at found
  obtain ⟨seen, present, equal⟩ := Option.map_eq_some_iff.mp found
  obtain ⟨default, isNullable⟩ := Prod.mk.inj equal
  refine ⟨seen, present, isNullable, ?_⟩
  -- a parameter with a default is not nullable
  rw [flag, Parameter.isNullable, Bool.and_eq_true] at nullable
  rw [default, Option.isNone_iff_eq_none.mp nullable.2]

theorem get?_null : (arguments.adding name .null).get? name = none := by
  rw [Arguments.get?_adding]
  rfl

/-- An unset parameter that may be left out contributes nothing: to set it to null is to leave it
out, and both make the call of the plan that takes nothing from it, which is the same whatever the
parameter is set to. Where the body is made from it alone there is no body, and the headers are
those of the header parameters. -/
theorem evaluate_unset {memo : Memo} (made : ((model.callPlan operation).run memo).1 = .ok plan)
    (distinct : (operation.parameters.map (·.name)).Nodup) {parameter : SignatureParameter}
    (member : parameter ∈ plan.signature) (nullable : parameter.nullable = true)
    (endpoint : String) (absent : arguments.values.lookup parameter.name = none) :
    plan.evaluate model endpoint (arguments.adding parameter.name .null) =
        plan.evaluate model endpoint arguments ∧
      plan.evaluate model endpoint arguments =
        (plan.without parameter.name).evaluate model endpoint arguments ∧
      (∀ value, (plan.without parameter.name).evaluate model endpoint
          (arguments.adding parameter.name value) =
        (plan.without parameter.name).evaluate model endpoint arguments) ∧
      ∀ body, .setBody body ∈ plan.steps → body.source.without parameter.name = none →
        ∀ tables request,
          ((plan.evaluate model endpoint arguments).run tables).1 = .ok request →
          request.body = none ∧
            request.headers = plan.steps.filterMap (plan.stepHeader? arguments) := by
  have made' : (model.callPlan operation).run memo = (.ok plan, _) := Prod.ext made rfl
  have skips := skips_of_nullable made' distinct member nullable
  have missing : arguments.get? parameter.name = none := by
    rw [Arguments.get?, absent]
    rfl
  have others : ∀ value different, different ≠ parameter.name →
      (arguments.adding parameter.name value).get? different = arguments.get? different :=
    fun value different apart => Arguments.get?_adding_other apart
  refine ⟨?_, skips.evaluate missing endpoint, fun value => ?_, ?_⟩
  · rw [skips.evaluate get?_null, skips.evaluate missing]
    exact evaluate_without (others .null) endpoint
  · exact evaluate_without (others value) endpoint
  · intro body isBody alone tables request evaluated
    have evaluated' : (plan.evaluate model endpoint arguments).run tables = (.ok request, _) :=
      Prod.ext evaluated rfl
    obtain ⟨final, _, taken, same⟩ := run_bind_eq_ok evaluated'
    cases same
    have idle : ∀ other, .setBody other ∈ plan.steps →
        plan.bodyContent model arguments other.source = pure none := by
      intro other isOther
      rw [only_body made' isOther isBody, skips.bodyContent missing, alone]
    obtain ⟨headers, unchanged⟩ := takeSteps_headers taken idle
    exact ⟨unchanged, headers⟩

/-- One parameter that may be left out is used in the path, in a header and as the body. -/
def pinNote : Operation :=
  { name := "pinNote"
    method := .put
    path := [.constant "/pins", .parameter "note" true]
    parameters :=
      [{ name := "note", schema := "Text", location := .header },
        { name := "by", schema := "Text", location := .header, required := true }]
    body := some (.text "note" none) }

def pinPlan : CallPlan :=
  { operation := "pinNote"
    method := .put
    signature :=
      [⟨"note", "note", .header, ⟨.primitive .string, true⟩, false, true, none⟩,
        ⟨"by", "by", .header, ⟨.primitive .string, false⟩, true, false, none⟩]
    steps :=
      [.appendConstant "/pins",
        .appendRaw ⟨.parameter "note", .scalar (.primitive .string none)⟩,
        .addHeader "note" ⟨.parameter "note", .scalar (.primitive .string none)⟩ .none,
        .addHeader "by" ⟨.parameter "by", .scalar (.primitive .string none)⟩ .none,
        .setBody ⟨.text "note", "text/plain; charset=utf-8"⟩] }

/-- Without a note only the header of the other parameter is sent. -/
theorem pinNote_unset :
    (pinNote.parameters.map (·.name)).Nodup ∧
      pinPlan.evaluate notes "https://notes.test" (Arguments.adding ⟨[("by", .string "me")]⟩ "note" .null) =
        pinPlan.evaluate notes "https://notes.test" ⟨[("by", .string "me")]⟩ ∧
      (pinPlan.without "note").steps = [.appendConstant "/pins",
        .addHeader "by" ⟨.parameter "by", .scalar (.primitive .string none)⟩ .none] ∧
      ∃ request,
        ((pinPlan.evaluate notes "https://notes.test" ⟨[("by", .string "me")]⟩).run {}).1 = .ok request ∧
        request.body = none ∧ request.headers = [("by", "me")] := by
  have distinct : (pinNote.parameters.map (·.name)).Nodup := by decide
  have made : ((notes.callPlan pinNote).run {}).1 = .ok pinPlan := rfl
  have member : ⟨"note", "note", .header, ⟨.primitive .string, true⟩, false, true, none⟩ ∈
      pinPlan.signature := List.mem_cons_self
  obtain ⟨null, -, -, bodiless⟩ := @evaluate_unset notes pinNote pinPlan ⟨[("by", .string "me")]⟩ {}
    made distinct _ member rfl "https://notes.test" rfl
  refine ⟨distinct, null, by decide, _, rfl, ?_⟩
  exact bodiless ⟨.text "note", "text/plain; charset=utf-8"⟩ (by decide) (by decide) {} _ rfl

end CallPlan

end ApiContract
