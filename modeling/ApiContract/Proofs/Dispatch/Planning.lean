import ApiContract.Dispatch.Building
import ApiContract.Proofs.Memo.Plans
import Mathlib.Data.List.Forall2

/-!
What a dispatch table keeps of the responses it is planned from. Every declared code has one branch,
in the order of declaration, with the action of its response; the table has a value where some
response has a body, and a header model of the name under which responses declare one.
-/

namespace ApiContract

open Planning

/-- The codes of responses, each with its response: response by response, code by code. -/
def codesOf (responses : List Response) : List (StatusCode × Response) :=
  responses.flatMap fun response => response.statusCodes.map fun code => (code, response)

def Operation.declaredCodes (operation : Operation) : List (StatusCode × Response) :=
  codesOf operation.responses

variable {model : Model} {operation : Operation} {table next : DispatchTable}
  {responses : List Response} {response : Response}

/-- What is done with a declared body. -/
inductive Model.Acts (model : Model) : ResponseBody → BodyAction → Prop
  | none : Acts model .none .noContent
  | stream : Acts model .stream .stream
  | typed {schema : SchemaId} {format : WireFormat} {plan : WirePlan} :
      model.planOf schema format = .ok plan → Acts model (.typed schema format) (.read format plan)

theorem Model.Acts.noContent_iff {body : ResponseBody} {action : BodyAction}
    (acts : model.Acts body action) : action = .noContent ↔ body = .none := by
  cases acts <;> simp

/-- The branch of a declared code. -/
def Model.Serves (model : Model) (declared : StatusCode × Response) (branch : DispatchBranch) :
    Prop :=
  branch.status = declared.1 ∧ model.Acts declared.2.body branch.action

/-- What a table has of the responses that went into it. -/
structure Model.Describes (model : Model) (operation : Operation) (responses : List Response)
    (table : DispatchTable) : Prop where
  operation : table.operation = operation.name
  branches : List.Forall₂ model.Serves (codesOf responses) table.branches
  value : table.value.isSome = true ↔ ∃ response ∈ responses, response.body ≠ .none
  headers : ∀ name, table.headers.map HeaderPlan.name = some name ↔
    ∃ response ∈ responses, response.headers.map HeaderModel.name = some name

namespace Model

theorem bodyAction_eq_ok {body : ResponseBody} {action : BodyAction} {value : Option ReturnedValue}
    (planned : (model.bodyAction body).fresh = .ok (action, value)) :
    model.Acts body action ∧ (value.isSome = true ↔ body ≠ .none) := by
  cases body with
  | none =>
      cases planned
      exact ⟨.none, by simp⟩
  | stream =>
      cases planned
      exact ⟨.stream, by simp⟩
  | typed schema format =>
      simp only [bodyAction, fresh_bind, bind_eq_ok_iff] at planned
      obtain ⟨plan, made, type, -, same⟩ := planned
      cases same
      exact ⟨.typed made, by simp⟩

/-- Values are joined where both are the same or one is missing. -/
theorem joinValues_cases {known added joined : Option ReturnedValue}
    (agreed : joinValues operation known added = .ok joined) :
    (joined = known ∧ (added = none ∨ added = known)) ∨ (joined = added ∧ known = none) := by
  rw [joinValues.eq_def] at agreed
  split at agreed
  next =>
    split at agreed
    next same => cases agreed; exact .inl ⟨rfl, .inr (congrArg some same.symm)⟩
    next => cases agreed
  next => cases agreed; exact .inl ⟨rfl, .inl rfl⟩
  next => cases agreed; exact .inr ⟨rfl, rfl⟩

theorem joinValues_eq_ok {known added joined : Option ReturnedValue}
    (agreed : joinValues operation known added = .ok joined) :
    joined.isSome = true ↔ known.isSome = true ∨ added.isSome = true := by
  obtain ⟨rfl, rfl | rfl⟩ | ⟨rfl, rfl⟩ := joinValues_cases agreed <;> simp

theorem headerPlan_eq_ok {headers : HeaderModel} {plan : HeaderPlan}
    (planned : (model.headerPlan operation headers).fresh = .ok plan) :
    plan.name = headers.name := by
  simp only [headerPlan, fresh_bind, bind_eq_ok_iff] at planned
  obtain ⟨fields, -, same⟩ := planned
  cases same
  rfl

/-- A table keeps the header plan it has, with which a declared model shares its name, or takes that
of the model. -/
theorem joinHeaders_cases {known joined : Option HeaderPlan} {added : Option HeaderModel}
    (agreed : (model.joinHeaders operation known added).fresh = .ok joined) :
    (joined = known ∧ ∀ headers, added = some headers →
      ∃ plan, known = some plan ∧ plan.name = headers.name) ∨
    (known = none ∧ ∃ headers plan, added = some headers ∧
      (model.headerPlan operation headers).fresh = .ok plan ∧ joined = some plan) := by
  rw [joinHeaders.eq_def] at agreed
  split at agreed
  next plan headers =>
    split at agreed
    next same =>
      cases agreed
      refine .inl ⟨rfl, fun other declared => ⟨plan, rfl, ?_⟩⟩
      rwa [← Option.some.inj declared]
    next => cases agreed
  next =>
    cases agreed
    exact .inl ⟨rfl, fun _ declared => by cases declared⟩
  next headers =>
    simp only [fresh_bind, bind_eq_ok_iff] at agreed
    obtain ⟨plan, planned, same⟩ := agreed
    cases same
    exact .inr ⟨rfl, headers, plan, rfl, planned, rfl⟩

theorem joinHeaders_eq_ok {known joined : Option HeaderPlan} {added : Option HeaderModel}
    (agreed : (model.joinHeaders operation known added).fresh = .ok joined) (name : String) :
    joined.map HeaderPlan.name = some name ↔
      known.map HeaderPlan.name = some name ∨ added.map HeaderModel.name = some name := by
  obtain ⟨rfl, shared⟩ | ⟨rfl, headers, plan, rfl, planned, rfl⟩ := joinHeaders_cases agreed
  · refine (or_iff_left_of_imp fun declared => ?_).symm
    obtain ⟨headers, declared, named⟩ := Option.map_eq_some_iff.mp declared
    obtain ⟨plan, has, same⟩ := shared headers declared
    rw [has, Option.map_some, same, named]
  · simp [headerPlan_eq_ok planned]

/-- The parts of a table to which one more response has been added. -/
theorem addResponse_eq_ok
    (added : (model.addResponse operation table response).fresh = .ok next) :
    ∃ action value headers joined, (model.bodyAction response.body).fresh = .ok (action, value) ∧
      joinValues operation table.value value = .ok joined ∧
      (model.joinHeaders operation table.headers response.headers).fresh = .ok headers ∧
      next = { table with
        value := joined, headers,
        branches := table.branches ++ response.statusCodes.map fun status => ⟨status, action⟩ } := by
  simp only [addResponse, fresh_bind, fresh_liftM, bind_eq_ok_iff] at added
  obtain ⟨⟨action, value⟩, acted, joined, valued, headers, headed, same⟩ := added
  exact ⟨action, value, headers, joined, acted, valued, headed, (Except.ok.inj same).symm⟩

/-- What holds of a table and its responses when one is added holds when several are. -/
theorem addResponses_keeps {motive : List Response → DispatchTable → Prop}
    (step : ∀ {responses response table next}, motive responses table →
      (model.addResponse operation table response).fresh = .ok next →
        motive (responses ++ [response]) next)
    {added : List Response} (held : motive responses table)
    (planned : (model.addResponses operation table added).fresh = .ok next) :
    motive (responses ++ added) next := by
  induction added generalizing responses table with
  | nil =>
      cases planned
      rwa [List.append_nil]
  | cons response rest ih =>
      simp only [addResponses, fresh_bind, bind_eq_ok_iff] at planned
      obtain ⟨between, first, others⟩ := planned
      have whole := ih (step held first) others
      rwa [List.append_assoc] at whole

/-- Adding a response adds the branches of its codes, its value and its headers. -/
theorem addResponse_describes (described : model.Describes operation responses table)
    (added : (model.addResponse operation table response).fresh = .ok next) :
    model.Describes operation (responses ++ [response]) next := by
  obtain ⟨action, value, headers, joined, acted, valued, headed, rfl⟩ := addResponse_eq_ok added
  obtain ⟨acts, hasValue⟩ := bodyAction_eq_ok acted
  have codes : codesOf (responses ++ [response]) =
      codesOf responses ++ response.statusCodes.map fun code => (code, response) := by
    simp [codesOf]
  constructor
  case operation => exact described.operation
  case branches =>
    rw [codes]
    apply List.rel_append described.branches
    rw [List.forall₂_map_left_iff, List.forall₂_map_right_iff]
    exact List.forall₂_same.mpr fun code _ => ⟨rfl, acts⟩
  case value =>
    rw [joinValues_eq_ok valued, described.value, hasValue]
    simp [or_and_right, exists_or]
  case headers =>
    intro name
    rw [joinHeaders_eq_ok headed, described.headers]
    simp only [List.mem_append, List.mem_singleton, or_and_right, exists_or, exists_eq_left]

/-- A table that is planned describes all responses of its operation, and its value is optional
where one of them has no body. -/
theorem dispatchTable_describes (planned : (model.dispatchTable operation).fresh = .ok table) :
    model.Describes operation operation.responses table ∧
      (table.valueOptional = true ↔ table.value.isSome = true ∧
        ∃ response ∈ operation.responses, response.body = .none) := by
  simp only [dispatchTable, fresh_bind, bind_eq_ok_iff] at planned
  obtain ⟨filled, added, same⟩ := planned
  cases same
  have nothing : model.Describes operation []
      { operation := operation.name, value := none, valueOptional := false, headers := none
        branches := [] } :=
    ⟨rfl, .nil, by simp, by simp⟩
  have described := addResponses_keeps addResponse_describes nothing added
  exact ⟨⟨described.operation, described.branches, described.value, described.headers⟩, by simp⟩

end Model

/-- The parts of a table fit together: where it promises a value, a branch without one is an option
left empty; where it promises none, no branch reads one; and what returns headers has a model of
them. -/
structure DispatchTable.Coherent (table : DispatchTable) : Prop where
  filled : table.value.isSome = true → table.valueOptional = false →
    ∀ branch ∈ table.branches, branch.action ≠ .noContent
  empty : table.returnKind = .response ∨ table.returnKind = .headers →
    ∀ branch ∈ table.branches, branch.action = .noContent
  modelled : table.returnKind = .headers ∨ table.returnKind = .headersAndValue →
    table.headers.isSome = true

theorem DispatchTable.returnKind_valueless :
    table.returnKind = .response ∨ table.returnKind = .headers ↔ table.value.isSome = false := by
  rw [returnKind]
  split <;> simp [*]

theorem DispatchTable.returnKind_headed :
    table.returnKind = .headers ∨ table.returnKind = .headersAndValue ↔
      table.headers.isSome = true := by
  rw [returnKind]
  split <;> simp [*]

theorem Model.dispatchTable_coherent
    (planned : (model.dispatchTable operation).fresh = .ok table) : table.Coherent := by
  obtain ⟨described, optional⟩ := dispatchTable_describes planned
  have declared : ∀ branch ∈ table.branches, ∃ response ∈ operation.responses,
      branch.action = .noContent ↔ response.body = .none := by
    intro branch member
    obtain ⟨⟨code, response⟩, listed, serves⟩ := exists_of_forall₂ described.branches member
    simp only [codesOf, List.mem_flatMap, List.mem_map, Prod.mk.injEq] at listed
    obtain ⟨response, inside, -, -, -, rfl⟩ := listed
    exact ⟨response, inside, serves.2.noContent_iff⟩
  -- an action is looked at only through the body of the response that it comes from
  constructor
  case filled =>
    intro valued certain branch member empty
    obtain ⟨response, inside, same⟩ := declared branch member
    rw [optional.mpr ⟨valued, response, inside, same.mp empty⟩] at certain
    cases certain
  case empty =>
    intro kind branch member
    obtain ⟨response, inside, same⟩ := declared branch member
    rw [DispatchTable.returnKind_valueless] at kind
    by_contra content
    rw [described.value.mpr ⟨response, inside, fun none => content (same.mpr none)⟩] at kind
    cases kind
  case modelled => exact DispatchTable.returnKind_headed.mp

end ApiContract
