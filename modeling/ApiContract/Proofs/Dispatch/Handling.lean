import ApiContract.Code.Operation
import ApiContract.Dispatch.Handling
import ApiContract.Proofs.Dispatch.Planning
import ApiContract.Proofs.Generation.Tables
import ApiContract.Proofs.Json.Tables
import ApiContract.Proofs.Xml.Tables

/-!
What handling a response gives. The earliest declared code that covers the status decides: its
response says what is read from the body and whether there is a value at all. A status that nothing
covers is never read. The generated branches follow the same table, and none of them has to fall
back to an empty value or to the response as received.
-/

namespace ApiContract

open Planning

variable {model : Model} {operation : Operation} {table : DispatchTable} {received : HttpResponse}

namespace Handled

/-- The kind of result that a caller has got. -/
def kind : Handled → ReturnKind
  | .response _ => .response
  | .headers _ => .headers
  | .value _ => .value
  | .headersAndValue _ _ => .headersAndValue

/-- The value of a result that has a place for one, where it may be absent. -/
def value? : Handled → Option (Option Value)
  | .value held => some held
  | .headersAndValue _ held => some held
  | _ => none

end Handled

theorem readBody_steady (format : WireFormat) (plan : WirePlan) (bytes : List UInt8) :
    (readBody model format plan bytes).Steady model.tableLaw := by
  have json : ∀ text, (JsonForm.readText model plan text).Steady model.tableLaw := by
    intro text
    rw [JsonForm.readText]
    split
    next => exact JsonForm.read_steady plan _
    next => exact steady_fail _
  cases format with
  | json =>
      rw [readBody, JsonForm.readBytes]
      split
      next text _ => exact json text
      next => exact steady_fail _
  | xml =>
      rw [readBody]
      split
      next text _ =>
        cases plan with
        | element plan => exact XmlForm.read_steady plan text
        | _ => exact steady_fail _
      next => exact steady_fail _

namespace DispatchTable

/-- What is handed out with the value of the body. -/
def outcome (table : DispatchTable) (received : HttpResponse) (value : Option Value) :
    Except ResponseError Handled :=
  match table.returnKind with
  | .response => .ok (.response received)
  | .value => .ok (.value value)
  | .headers => .headers <$> table.readHeaders received
  | .headersAndValue => (.headersAndValue · value) <$> table.readHeaders received

theorem handle_fresh : (table.handle model received).fresh =
    table.dispatch received.status >>= fun branch =>
      (table.readValue model received.body branch.action).fresh >>= table.outcome received := by
  simp only [handle, fresh_bind, fresh_liftM]
  congr 1
  funext branch
  congr 1
  funext value
  rw [outcome]
  cases table.returnKind with
  | response => rfl
  | value => rfl
  | headers => cases table.readHeaders received <;> rfl
  | headersAndValue => cases table.readHeaders received <;> rfl

theorem handle_steady : (table.handle model received).Steady model.tableLaw := by
  have value : ∀ action, (table.readValue model received.body action).Steady model.tableLaw := by
    intro action
    cases action with
    | noContent => exact steady_pure none
    | stream => exact steady_pure _
    | read format plan =>
        exact ((readBody_steady _ _ _).mapError _).bind fun value _ => steady_pure _
  apply (steady_lift _).bind
  intro branch _
  apply (value branch.action).bind
  intro read _
  cases table.returnKind with
  | response => exact steady_pure _
  | value => exact steady_pure _
  | headers => exact (steady_lift _).bind fun headers _ => steady_pure _
  | headersAndValue => exact (steady_lift _).bind fun headers _ => steady_pure _

end DispatchTable

/-- The value of a declared body for the bytes received: none exactly where none is declared. -/
inductive Model.Reads (model : Model) (bytes : List UInt8) : ResponseBody → Option Value → Prop
  | none : Reads model bytes .none none
  | stream : Reads model bytes .stream (some (.bytes bytes))
  | typed {schema : SchemaId} {format : WireFormat} {plan : WirePlan} {value : Value} :
      model.planOf schema format = .ok plan → (readBody model format plan bytes).fresh = .ok value →
      Reads model bytes (.typed schema format) (some value)

theorem Model.Reads.absent_iff {bytes : List UInt8} {body : ResponseBody} {value : Option Value}
    (reads : model.Reads bytes body value) : value = Option.none ↔ body = .none := by
  cases reads <;> simp

/-- Why a response of an operation cannot be handed out: its body does not fit the plan of the
schema declared for it, or the text of a declared header is none of the header's kind. -/
inductive DispatchTable.Fails (model : Model) (operation : String) (table : DispatchTable)
    (received : HttpResponse) : ResponseBody → ResponseError → Prop
  | body {schema : SchemaId} {format : WireFormat} {plan : WirePlan} {source : ValueError} :
      model.planOf schema format = .ok plan →
      (readBody model format plan received.body).fresh = .error source →
      Fails model operation table received (.typed schema format) (.body operation source)
  | header {body : ResponseBody} {binding : HeaderBinding} {text : String} {source : ValueError} :
      binding ∈ table.bindings → received.header? binding.header = some text →
      Scalar.ofText binding.kind text = .error source →
      Fails model operation table received body (.header operation binding.header source)

namespace DispatchTable

/-- How the body that a response declares decides an outcome. -/
structure Answers (model : Model) (operation : String) (table : DispatchTable)
    (body : ResponseBody) (received : HttpResponse) (outcome : Except ResponseError Handled) :
    Prop where
  kind : ∀ handled, outcome = .ok handled → handled.kind = table.returnKind
  value : ∀ handled value, outcome = .ok handled → handled.value? = some value →
    model.Reads received.body body value
  absent : ∀ handled value, outcome = .ok handled → handled.value? = some value →
    (value = none ↔ body = .none)
  failure : ∀ failure, outcome = .error failure →
    table.Fails model operation received body failure

theorem outcome_eq_ok {value : Option Value} {handled : Handled}
    (made : table.outcome received value = .ok handled) :
    handled.kind = table.returnKind ∧ ∀ other, handled.value? = some other → other = value := by
  rw [outcome] at made
  cases kind : table.returnKind with
  | response =>
      rw [kind] at made
      cases made
      exact ⟨rfl, fun _ none => by cases none⟩
  | value =>
      rw [kind] at made
      cases made
      exact ⟨rfl, fun _ placed => (by simpa [Handled.value?] using placed.symm)⟩
  | headers =>
      rw [kind] at made
      obtain ⟨headers, -, rfl⟩ := map_eq_ok made
      exact ⟨rfl, fun _ none => by cases none⟩
  | headersAndValue =>
      rw [kind] at made
      obtain ⟨headers, -, rfl⟩ := map_eq_ok made
      exact ⟨rfl, fun _ placed => (by simpa [Handled.value?] using placed.symm)⟩

theorem readHeaderFields_eq_error {name : String} {bindings : List HeaderBinding}
    {failure : ResponseError} (failed : readHeaderFields name received bindings = .error failure) :
    ∃ binding ∈ bindings, ∃ text source, received.header? binding.header = some text ∧
      Scalar.ofText binding.kind text = .error source ∧
      failure = .header name binding.header source := by
  induction bindings with
  | nil => cases failed
  | cons binding rest ih =>
      rw [readHeaderFields] at failed
      split at failed
      next =>
        obtain ⟨found, member, reason⟩ := ih failed
        exact ⟨found, List.mem_cons_of_mem _ member, reason⟩
      next text present =>
        split at failed
        next source unread =>
          cases failed
          exact ⟨binding, List.mem_cons_self, text, source, present, unread, rfl⟩
        next =>
          rcases bind_eq_error failed with inRest | ⟨_, -, made⟩
          · obtain ⟨found, member, reason⟩ := ih inRest
            exact ⟨found, List.mem_cons_of_mem _ member, reason⟩
          · cases made

theorem outcome_eq_error {value : Option Value} {failure : ResponseError} {body : ResponseBody}
    (failed : table.outcome received value = .error failure) :
    table.Fails model table.operation received body failure := by
  have unread : table.readHeaders received = .error failure := by
    rw [outcome] at failed
    cases kind : table.returnKind with
    | response => rw [kind] at failed; cases failed
    | value => rw [kind] at failed; cases failed
    | _ =>
        rw [kind] at failed
        cases headers : table.readHeaders received with
        | ok headers => rw [headers] at failed; cases failed
        | error cause =>
            rw [headers] at failed
            cases failed
            rfl
  rw [readHeaders] at unread
  cases fields : readHeaderFields table.operation received table.bindings with
  | ok fields => rw [fields] at unread; cases unread
  | error cause =>
      rw [fields] at unread
      cases unread
      obtain ⟨binding, member, text, source, present, refused, rfl⟩ :=
        readHeaderFields_eq_error fields
      exact .header member present refused

/-- What a branch gives is what its declared body says. -/
theorem answers_of_acts {body : ResponseBody} {action : BodyAction} (acts : model.Acts body action) :
    table.Answers model table.operation body received
      ((table.readValue model received.body action).fresh >>= table.outcome received) := by
  have reads : ∀ value, (table.readValue model received.body action).fresh = .ok value →
      model.Reads received.body body value := by
    intro value read
    cases acts with
    | none => cases read; exact .none
    | stream => cases read; exact .stream
    | typed planned =>
        simp only [readValue, fresh_bind, fresh_mapError, bind_eq_ok_iff, mapError_eq_ok] at read
        obtain ⟨value, found, same⟩ := read
        cases same
        exact .typed planned found
  have value : ∀ handled value,
      (table.readValue model received.body action).fresh >>= table.outcome received =
        .ok handled → handled.value? = some value → model.Reads received.body body value := by
    intro handled value made placed
    obtain ⟨read, found, made⟩ := bind_eq_ok made
    rw [(outcome_eq_ok made).2 value placed]
    exact reads read found
  constructor
  case kind =>
    intro handled made
    obtain ⟨read, -, made⟩ := bind_eq_ok made
    exact (outcome_eq_ok made).1
  case value => exact value
  case absent => exact fun handled read made placed => (value handled read made placed).absent_iff
  case failure =>
    intro failure failed
    -- of bodies only a typed one can be refused, and what fails behind it is a header
    rcases bind_eq_error failed with unread | ⟨read, -, failed⟩
    · cases acts with
      | none => cases unread
      | stream => cases unread
      | typed planned =>
          simp only [readValue, fresh_bind, fresh_mapError] at unread
          rcases bind_eq_error unread with refused | ⟨_, -, made⟩
          · cases cause : (readBody model _ _ received.body).fresh with
            | ok value => rw [cause] at refused; cases refused
            | error source =>
                rw [cause] at refused
                cases refused
                exact .body planned cause
          · cases made
    · exact outcome_eq_error failed

end DispatchTable

end ApiContract
