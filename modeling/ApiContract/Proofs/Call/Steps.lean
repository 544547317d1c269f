import ApiContract.Call.Evaluation
import ApiContract.Proofs.Memo.Planning
import ApiContract.Proofs.Results

/-!
What the steps of a call do to the URI, whatever else they do: `place` follows a step on the URI
alone. A step that can be taken can be taken from any URI, with the same headers and the same body.
-/

namespace ApiContract.CallPlan

open Planning

variable {model : Model} {plan : CallPlan} {arguments : Arguments}

/-- The text of a value where it is set and can be written. -/
def text? (plan : CallPlan) (arguments : Arguments) (value : StepValue) : Option String :=
  (plan.singleText value arguments).toOption.join

def texts? (plan : CallPlan) (arguments : Arguments) (value : StepValue) : Option (List String) :=
  (plan.texts value arguments).toOption.join

/-- The query entries that a step adds. -/
def stepEntries (plan : CallPlan) (arguments : Arguments) : CallStep → List (String × String)
  | .addQuery name value style escape =>
      (plan.texts? arguments value).elim [] (queryEntries name style escape)
  | _ => []

/-- The link that a step follows. -/
def stepLink? (plan : CallPlan) (arguments : Arguments) : CallStep → Option String
  | .followLink value => plan.text? arguments value
  | _ => none

/-- What a step does to the URI. -/
def place (plan : CallPlan) (arguments : Arguments) (uri : UriDraft) : CallStep → UriDraft
  | .resetEndpoint value =>
      (plan.text? arguments value).elim uri fun text =>
        { uri with base := Text.dropTrailing '/' text }
  | .appendConstant text => uri.append text
  | .appendValue value escape =>
      (plan.text? arguments value).elim uri fun text =>
        uri.append (if escape then Text.Percent.encodePath text else text)
  | .appendRaw value => (plan.text? arguments value).elim uri uri.append
  | .followLink value => (plan.text? arguments value).elim uri uri.follow
  | .addQuery name value style escape =>
      (plan.texts? arguments value).elim uri fun texts =>
        uri.addQuery (queryEntries name style escape texts)
  | .addHeader .. | .setBody _ => uri

/-- An action on the URI that is taken from one URI is taken from every other. -/
theorem onUri_run (move : UriDraft → String → UriDraft) {draft next : RequestDraft}
    {value : StepValue} {act : UriDraft → String → Except RequestError UriDraft}
    (moves : ∀ first text moved, act first text = .ok moved →
      ∀ other, act other text = .ok (move other text)) {memo memo' : Memo}
    (taken : (lift (plan.onUri arguments draft value act)).run memo = (.ok next, memo'))
    (uri : UriDraft) :
    (lift (plan.onUri arguments { draft with uri } value act)).run memo =
      (.ok { next with uri := (plan.text? arguments value).elim uri (move uri) }, memo') := by
  obtain ⟨acted, same⟩ := Prod.mk.inj taken
  obtain ⟨text, written, rest⟩ := bind_eq_ok acted
  refine Prod.ext ?_ same
  change plan.onUri arguments { draft with uri } value act = _
  rw [onUri, written, ok_bind, text?, written]
  cases text with
  | none =>
      cases rest
      rfl
  | some text =>
      obtain ⟨moved, performed, same⟩ := bind_eq_ok rest
      cases same
      simp only [moves draft.uri text moved performed uri, ok_bind]
      rfl

/-- A step that is taken from one URI is taken from every other. -/
theorem takeStep_run {draft next : RequestDraft} {step : CallStep} {memo memo' : Memo}
    (taken : (plan.takeStep model arguments draft step).run memo = (.ok next, memo'))
    (uri : UriDraft) :
    (plan.takeStep model arguments { draft with uri } step).run memo =
      (.ok { next with uri := plan.place arguments uri step }, memo') := by
  -- Four kinds of steps act on the URI; of the others only an entry reaches it.
  cases step with
  | resetEndpoint value =>
      refine onUri_run (fun uri text => { uri with base := Text.dropTrailing '/' text })
        (fun first text moved reset other => ?_) taken uri
      rw [UriDraft.reset] at reset ⊢
      split at reset
      next => rfl
      next => cases reset
  | appendConstant text =>
      cases taken
      rfl
  | appendValue value escape =>
      exact onUri_run (fun uri text => uri.append (if escape then Text.Percent.encodePath text else text))
        (fun _ _ _ _ _ => rfl) taken uri
  | appendRaw value => exact onUri_run UriDraft.append (fun _ _ _ _ _ => rfl) taken uri
  | followLink value => exact onUri_run UriDraft.follow (fun _ _ _ _ _ => rfl) taken uri
  | addQuery name value style escape =>
      obtain ⟨texts, between, written, rest⟩ := run_bind_eq_ok taken
      have made : plan.texts value arguments = .ok texts := congrArg Prod.fst written
      rw [takeStep, run_bind written, place, texts?, made]
      cases texts with
      | none =>
          cases rest
          rfl
      | some texts =>
          cases rest
          rfl
  | addHeader name value style =>
      obtain ⟨texts, between, written, rest⟩ := run_bind_eq_ok taken
      rw [takeStep, run_bind written, place]
      cases texts with
      | none =>
          cases rest
          rfl
      | some texts =>
          cases rest
          rfl
  | setBody body =>
      obtain ⟨content, between, written, rest⟩ := run_bind_eq_ok taken
      rw [takeStep, run_bind written, place]
      cases content with
      | none =>
          cases rest
          rfl
      | some content =>
          cases rest
          rfl

/-- In a call that succeeds every step is taken. -/
theorem takeSteps_each {draft final : RequestDraft} {steps : List CallStep} {memo memo' : Memo}
    (taken : (plan.takeSteps model arguments draft steps).run memo = (.ok final, memo'))
    {step : CallStep} (member : step ∈ steps) : ∃ before after between between',
      (plan.takeStep model arguments before step).run between = (.ok after, between') := by
  induction steps generalizing draft memo with
  | nil => cases member
  | cons head rest ih =>
      obtain ⟨next, between, first, others⟩ := run_bind_eq_ok taken
      rcases List.mem_cons.mp member with same | later
      · exact ⟨draft, next, memo, between, same ▸ first⟩
      · exact ih others later

/-- All steps act on the URI as `place` does. -/
theorem takeSteps_uri {draft final : RequestDraft} {steps : List CallStep} {memo memo' : Memo}
    (taken : (plan.takeSteps model arguments draft steps).run memo = (.ok final, memo')) :
    final.uri = steps.foldl (plan.place arguments) draft.uri := by
  induction steps generalizing draft memo with
  | nil =>
      cases taken
      rfl
  | cons step rest ih =>
      obtain ⟨next, between, first, others⟩ := run_bind_eq_ok taken
      have again := takeStep_run first draft.uri
      rw [first] at again
      have placed : next.uri = plan.place arguments draft.uri step :=
        congrArg RequestDraft.uri (Except.ok.inj (congrArg Prod.fst again))
      rw [List.foldl_cons, ← placed]
      exact ih others

/-! A step asks a plan for its signature only, whatever other steps the plan has. -/

section Replaced

variable (others : List CallStep)

theorem flattenedFields_replaced (initializers : List BodyInitializer) :
    ({ plan with steps := others } : CallPlan).flattenedFields arguments initializers =
      plan.flattenedFields arguments initializers := by
  induction initializers with
  | nil => rfl
  | cons initializer rest ih =>
      rw [flattenedFields, flattenedFields, ih]
      rfl

theorem takeStep_replaced (draft : RequestDraft) (step : CallStep) :
    ({ plan with steps := others } : CallPlan).takeStep model arguments draft step =
      plan.takeStep model arguments draft step := by
  cases step with
  | setBody body =>
      obtain ⟨source, contentType⟩ := body
      cases source with
      | flattened schema initializers format wire =>
          simp only [takeStep, bodyContent, flattenedFields_replaced]
      | _ => rfl
  | _ => rfl

theorem takeSteps_replaced (draft : RequestDraft) (steps : List CallStep) :
    ({ plan with steps := others } : CallPlan).takeSteps model arguments draft steps =
      plan.takeSteps model arguments draft steps := by
  induction steps generalizing draft with
  | nil => rfl
  | cons step rest ih =>
      rw [takeSteps, takeSteps, takeStep_replaced]
      exact congrArg _ (funext ih)

end Replaced

/-- The step follows a link. -/
def isLink : CallStep → Bool
  | .followLink _ => true
  | _ => false

theorem followLink_run {draft next : RequestDraft} {value : StepValue} {memo memo' : Memo}
    (taken : (plan.takeStep model arguments draft (.followLink value)).run memo = (.ok next, memo')) :
    memo = memo' ∧ next.headers = draft.headers ∧ next.body = draft.body := by
  obtain ⟨acted, same⟩ := Prod.mk.inj taken
  obtain ⟨text, -, rest⟩ := bind_eq_ok acted
  cases text with
  | none =>
      cases rest
      exact ⟨same, rfl, rfl⟩
  | some text =>
      cases rest
      exact ⟨same, rfl, rfl⟩

/-- Steps that follow links can be left out of a call that succeeds. -/
theorem takeSteps_without_links {draft final : RequestDraft} {steps : List CallStep}
    {memo memo' : Memo}
    (taken : (plan.takeSteps model arguments draft steps).run memo = (.ok final, memo'))
    (uri : UriDraft) : ∃ other,
      (plan.takeSteps model arguments { draft with uri } (steps.filter (!isLink ·))).run memo =
        (.ok other, memo') := by
  induction steps generalizing draft memo uri with
  | nil =>
      cases taken
      exact ⟨_, rfl⟩
  | cons step rest ih =>
      obtain ⟨next, between, first, others⟩ := run_bind_eq_ok taken
      cases link : isLink step with
      | true =>
          cases step <;> cases link
          obtain ⟨same, headers, body⟩ := followLink_run first
          obtain ⟨other, ran⟩ := ih others uri
          rw [headers, body, ← same] at ran
          exact ⟨other, ran⟩
      | false =>
          rw [List.filter_cons, link, if_pos (by simp), takeSteps, run_bind (takeStep_run first uri)]
          exact ih others _

end ApiContract.CallPlan
