import ApiContract.Code.Operation
import ApiContract.Proofs.Dispatch.Handling

/-!
Dispatch is sound. The earliest declared code that covers a status decides what a response gives; a
status that no code covers is unhandled. The generated arms follow the same table, and no arm of a
table that promises a value or headers falls back to the unit or to the response as received.
-/

namespace ApiContract

open Planning

variable {model : Model} {operation : Operation} {table : DispatchTable} {received : HttpResponse}

/-- The parts that a branch and a declared code of one table agree on lead to the same choice. -/
theorem Model.dispatch_serves {declared : List (StatusCode × Response)}
    {branches : List DispatchBranch} (serve : List.Forall₂ model.Serves declared branches)
    (status : Nat) :
    (branches.find? (·.status.covers status) = none ∧
        ∀ code ∈ declared, code.1.covers status = false) ∨
      ∃ branch, branches.find? (·.status.covers status) = some branch ∧
        ∃ chosen, declared.find? (·.1.covers status) = some chosen ∧
          model.Serves chosen branch := by
  have reached := find?_of_forall₂ (fun _ _ serves => congrArg (·.covers status) serves.1.symm) serve
  generalize missed : declared.find? (·.1.covers status) = chosen at reached ⊢
  generalize branches.find? (·.status.covers status) = branch at reached ⊢
  cases reached with
  | none => exact .inl ⟨rfl, by simpa using missed⟩
  | some serves => exact .inr ⟨_, rfl, _, rfl, serves⟩

namespace DispatchTable

/-- The code of the arm of a status. -/
def armCode (status : StatusCode) (body : Code) : Code :=
  Code.write "$status => $body," [("status", statusCode status), ("body", body)]

/-- The code of a result that is one value. -/
def okCode (value : Code) : Code := Code.write "Ok($value)" [("value", value)]

/-- The code of a result with headers beside its value. -/
def headedCode (headers value : Code) : Code :=
  Code.write "{ let headers = $headers; Ok((headers, $value)) }"
    [("value", value), ("headers", headers)]

/-- The code that reads the headers of a response. -/
def headersCode (table : DispatchTable) : Code :=
  (table.headersPath?.map fun path =>
    Code.write "$path::from_response(&response)?" [("path", path)]).getD []

/-- What an arm gives where the parts of its table do not fit together: the response as received,
or the unit in the place of a value. -/
inductive Fallback (table : DispatchTable) : Code → Prop
  | response : Fallback table (okCode (Code.word "response"))
  | unit : Fallback table (okCode (Code.plain "()"))
  | headed : Fallback table (headedCode table.headersCode (Code.plain "()"))

theorem armCode_injective {status : StatusCode} {first second : Code}
    (same : armCode status first = armCode status second) : first = second := by
  have arm : ∀ body, armCode status body =
      statusCode status ++ .mark "=" :: .mark ">" :: (body ++ [.mark ","]) := fun _ => rfl
  rw [arm, arm] at same
  simpa using same

theorem okCode_eq (value : Code) :
    okCode value = .word "Ok" :: .mark "(" :: (value ++ [.mark ")"]) := rfl

theorem headedCode_eq (headers value : Code) : headedCode headers value =
    .mark "\x7b" :: .word "let" :: .word "headers" :: .mark "=" :: (headers ++ .mark ";" ::
      .word "Ok" :: .mark "(" :: .mark "(" :: .word "headers" :: .mark "," ::
        (value ++ [.mark ")", .mark ")", .mark "\x7d"])) := rfl

/-- A result that is none of the response and the unit is not fallen back to. -/
theorem okCode_kept {value : Code} (present : value ≠ Code.word "response")
    (filled : value ≠ Code.plain "()") : ¬ table.Fallback (okCode value) := by
  intro fallback
  generalize written : okCode value = body at fallback
  cases fallback with
  | response =>
      rw [okCode_eq, okCode_eq] at written
      exact present (by simpa using written)
  | unit =>
      rw [okCode_eq, okCode_eq] at written
      exact filled (by simpa using written)
  | headed =>
      rw [okCode_eq, headedCode_eq] at written
      simp at written

theorem headedCode_kept {value : Code} (filled : value ≠ Code.plain "()") :
    ¬ table.Fallback (headedCode table.headersCode value) := by
  intro fallback
  generalize written : headedCode table.headersCode value = body at fallback
  cases fallback with
  | response =>
      rw [okCode_eq, headedCode_eq] at written
      simp at written
  | unit =>
      rw [okCode_eq, headedCode_eq] at written
      simp at written
  | headed =>
      rw [headedCode_eq, headedCode_eq] at written
      exact filled (by simpa using written)

theorem branchCode_value (kind : table.returnKind = .value) (branch : DispatchBranch) :
    table.branchCode branch = armCode branch.status (okCode (table.branchValue branch.action)) := by
  simp only [branchCode, kind]
  rfl

theorem branchCode_headers (kind : table.returnKind = .headers)
    (headed : table.headers.isSome = true) (branch : DispatchBranch) :
    table.branchCode branch = armCode branch.status (okCode table.headersCode) := by
  obtain ⟨plan, headed⟩ := Option.isSome_iff_exists.mp headed
  simp only [branchCode, kind, headersCode, headersPath?, headed, Option.map_some]
  rfl

theorem branchCode_headersAndValue (kind : table.returnKind = .headersAndValue)
    (headed : table.headers.isSome = true) (branch : DispatchBranch) :
    table.branchCode branch = armCode branch.status
      (headedCode table.headersCode (table.branchValue branch.action)) := by
  obtain ⟨plan, headed⟩ := Option.isSome_iff_exists.mp headed
  simp only [branchCode, kind, headersCode, headersPath?, headed, Option.map_some]
  rfl

/-- A value that is promised is none of the response as received and the unit. -/
theorem branchValue_promised {action : BodyAction}
    (filled : table.valueOptional = true ∨ action ≠ .noContent) :
    table.branchValue action ≠ Code.word "response" ∧
      table.branchValue action ≠ Code.plain "()" := by
  rw [branchValue.eq_def]
  cases optional : table.valueOptional with
  | true =>
      cases action with
      | noContent => decide +kernel
      | stream => decide +kernel
      | read format plan => cases format <;> dsimp only <;> decide +kernel
  | false =>
      rw [optional] at filled
      cases action with
      | noContent => simp at filled
      | stream => decide +kernel
      | read format plan => cases format <;> dsimp only <;> decide +kernel

/-- Headers are read through the path of their model. -/
theorem headersCode_promised (headed : table.headers.isSome = true) :
    table.headersCode ≠ Code.word "response" ∧ table.headersCode ≠ Code.plain "()" := by
  obtain ⟨plan, headed⟩ := Option.isSome_iff_exists.mp headed
  have starts : ∃ rest, table.headersCode = .word "crate" :: rest := by
    rw [headersCode, headersPath?, headed]
    exact ⟨_, rfl⟩
  obtain ⟨rest, starts⟩ := starts
  have unit : Code.plain "()" = [.mark "(", .mark ")"] := by decide +kernel
  rw [starts, unit]
  simp [Code.word]

/-- No arm of a table that promises a value or headers is a fallback. -/
theorem branchCode_kept (coherent : table.Coherent) (promises : table.returnKind ≠ .response)
    {branch : DispatchBranch} (member : branch ∈ table.branches) {body : Code}
    (emitted : table.branchCode branch = armCode branch.status body) : ¬ table.Fallback body := by
  have filled (valued : table.value.isSome = true) :
      table.valueOptional = true ∨ branch.action ≠ .noContent := by
    by_contra neither
    obtain ⟨certain, empty⟩ := not_or.mp neither
    exact coherent.filled valued (Bool.eq_false_iff.mpr certain) branch member (by simpa using empty)
  have valued (kind : ¬ (table.returnKind = .response ∨ table.returnKind = .headers)) :
      table.value.isSome = true := by
    by_contra none
    exact kind (returnKind_valueless.mpr (Bool.eq_false_iff.mpr none))
  cases kind : table.returnKind with
  | response => exact absurd kind promises
  | value =>
      obtain ⟨present, content⟩ := branchValue_promised (filled (valued (by simp [kind])))
      rw [branchCode_value kind] at emitted
      rw [← armCode_injective emitted]
      exact okCode_kept present content
  | headers =>
      have headed := coherent.modelled (.inl kind)
      obtain ⟨present, content⟩ := headersCode_promised headed
      rw [branchCode_headers kind headed] at emitted
      rw [← armCode_injective emitted]
      exact okCode_kept present content
  | headersAndValue =>
      have headed := coherent.modelled (.inr kind)
      obtain ⟨-, content⟩ := branchValue_promised (filled (valued (by simp [kind])))
      rw [branchCode_headersAndValue kind headed] at emitted
      rw [← armCode_injective emitted]
      exact headedCode_kept content

end DispatchTable

/-- The outcome of a response under the declared codes of an operation: a status that none covers
is unhandled, and else the earliest code that covers it decides. -/
structure DispatchTable.Settles (model : Model) (operation : Operation) (table : DispatchTable)
    (received : HttpResponse) (outcome : Except ResponseError Handled) : Prop where
  unhandled : (∀ declared ∈ operation.declaredCodes, declared.1.covers received.status = false) ↔
    outcome = .error (.unhandled operation.name received.status)
  decided : ∀ before code answer after,
    operation.declaredCodes = before ++ (code, answer) :: after →
    (∀ earlier ∈ before, earlier.1.covers received.status = false) →
    code.covers received.status = true →
    table.Answers model operation.name answer.body received outcome

namespace DispatchTable

theorem Fails.handled {name : String} {body : ResponseBody} {failure : ResponseError}
    (fails : table.Fails model name received body failure) (other : String) (status : Nat) :
    failure ≠ .unhandled other status := by
  cases fails <;> simp

theorem dispatch_eq_error {status : Nat}
    (uncovered : table.branches.find? (·.status.covers status) = none) :
    table.dispatch status = .error (.unhandled table.operation status) := by
  rw [dispatch, uncovered]

theorem dispatch_eq_ok {status : Nat} {branch : DispatchBranch}
    (covered : table.branches.find? (·.status.covers status) = some branch) :
    table.dispatch status = .ok branch := by
  rw [dispatch, covered]

theorem handle_settles (described : model.Describes operation operation.responses table)
    (received : HttpResponse) :
    table.Settles model operation received (table.handle model received).fresh := by
  have serve : List.Forall₂ model.Serves operation.declaredCodes table.branches :=
    described.branches
  have name := described.operation
  rw [handle_fresh]
  rcases Model.dispatch_serves serve received.status with
    ⟨missed, uncovered⟩ | ⟨branch, reached, ⟨status, response⟩, chosen, -, acts⟩
  case inl =>
    rw [dispatch_eq_error missed, error_bind]
    constructor
    case unhandled => exact ⟨fun _ => by rw [name], fun _ => uncovered⟩
    case decided =>
      intro before code answer after declared _ covers
      have never := uncovered (code, answer) (by simp [declared])
      rw [covers] at never
      cases never
  case inr =>
    have answers : table.Answers model operation.name response.body received
        ((table.readValue model received.body branch.action).fresh >>= table.outcome received) :=
      name ▸ answers_of_acts acts
    rw [dispatch_eq_ok reached, ok_bind]
    constructor
    case unhandled =>
      constructor
      · intro uncovered
        have never := uncovered _ (List.mem_of_find?_eq_some chosen)
        have covers := List.find?_some chosen
        rw [never] at covers
        cases covers
      · intro refused
        exact absurd rfl ((answers.failure _ refused).handled _ _)
    case decided =>
      intro before code answer after declared uncovered covers
      have first : operation.declaredCodes.find? (·.1.covers received.status) =
          some (code, answer) := by
        rw [List.find?_eq_some_iff_append]
        exact ⟨covers, before, after, declared, fun earlier member => by simp [uncovered earlier member]⟩
      rw [chosen] at first
      cases first
      exact answers

end DispatchTable

/-- Whatever types and plans the tables hold when a table is planned and when it is used. -/
theorem Model.dispatchTable_sound {planning handling : Memo}
    (lawful : planning.Obeys model.tableLaw) (lawful' : handling.Obeys model.tableLaw)
    (planned : ((model.dispatchTable operation).run planning).1 = .ok table) :
    (∀ received, table.Settles model operation received
        ((table.handle model received).run handling).1) ∧
      table.Coherent ∧
      (table.returnKind ≠ .response → ∀ branch ∈ table.branches, ∀ body,
        table.branchCode branch = DispatchTable.armCode branch.status body →
          ¬ table.Fallback body) := by
  have alone : (model.dispatchTable operation).fresh = .ok table :=
    ((dispatchTable_steady operation).run lawful).1.symm.trans planned
  have coherent := dispatchTable_coherent alone
  refine ⟨fun received => ?_, coherent, fun promises branch member body emitted =>
    DispatchTable.branchCode_kept coherent promises member emitted⟩
  rw [(DispatchTable.handle_steady.run lawful').1]
  exact DispatchTable.handle_settles (dispatchTable_describes alone).1 received

/-- A stock of counted items. -/
def stock : Model := { name := "Stock", schemas := [("Count", .primitive .int32 none)] }

/-- An operation with codes that overlap, a response without codes, and headers on one response. -/
def countItems : Operation :=
  { name := "countItems", method := .get, path := [.constant "items"]
    responses :=
      [{ statusCodes := [.code 204], headers := some ⟨"Limits", [⟨"left", "X-Left", "Count"⟩]⟩ },
       { statusCodes := [], body := .typed "Count" .json },
       { statusCodes := [.range 200 299, .code 404], body := .typed "Count" .json },
       { statusCodes := [.range 400 499] }] }

def countPlan : WirePlan := .value (.scalar (.primitive .int32 none))

def countItemsTable : DispatchTable :=
  let count : TypeUse := ⟨.primitive .int32, false⟩
  { operation := "countItems"
    value := some (.typed count)
    valueOptional := true
    headers := some ⟨"Limits", [⟨"left", "X-Left", .primitive .int32 none, count⟩]⟩
    branches :=
      [⟨.code 204, .noContent⟩, ⟨.range 200 299, .read .json countPlan⟩,
       ⟨.code 404, .read .json countPlan⟩, ⟨.range 400 499, .noContent⟩] }

/-- The status 404 has two answers and the earlier one counts; 503 has none. -/
theorem countItems_sound :
    ((stock.dispatchTable countItems).run {}).1 = .ok countItemsTable ∧
      (∀ received, received.status = 404 →
        countItemsTable.Answers stock "countItems" (.typed "Count" .json) received
          ((countItemsTable.handle stock received).run {}).1) ∧
      (∀ received, received.status = 503 →
        ((countItemsTable.handle stock received).run {}).1 = .error (.unhandled "countItems" 503)) ∧
      ∀ branch ∈ countItemsTable.branches, ∀ body,
        countItemsTable.branchCode branch = DispatchTable.armCode branch.status body →
          ¬ countItemsTable.Fallback body := by
  have planned : ((stock.dispatchTable countItems).run {}).1 = .ok countItemsTable := rfl
  obtain ⟨settles, -, kept⟩ :=
    Model.dispatchTable_sound (Memo.empty_obeys _) (Memo.empty_obeys _) planned
  refine ⟨planned, fun received found => ?_, fun received found => ?_, kept (by decide)⟩
  · refine (settles received).decided
      [(.code 204, countItems.responses[0]), (.range 200 299, countItems.responses[2])] (.code 404)
      countItems.responses[2] [(.range 400 499, countItems.responses[3])] rfl ?_ ?_
    · rw [found]
      decide
    · rw [found]
      rfl
  · have missed := (settles received).unhandled.mp (by rw [found]; decide)
    rwa [found] at missed

end ApiContract
