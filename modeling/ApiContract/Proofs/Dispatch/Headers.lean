import ApiContract.Proofs.Dispatch.Handling
import ApiContract.Proofs.Value.Entries

/-!
The headers that handling a response gives. An operation has one header model, that of its first
response which declares one; other responses may only declare a model of the same name. The fields of
the first are read from whatever response is handled, and no others.
-/

namespace ApiContract

open Planning

variable {model : Model} {operation : Operation} {table next : DispatchTable}
  {received : HttpResponse} {first : HeaderModel} {plan : HeaderPlan}

/-- Header names that differ in the case of letters at most. -/
def SameHeader (name other : String) : Prop :=
  name.toList.map Char.toLower = other.toList.map Char.toLower

instance (name other : String) : Decidable (SameHeader name other) :=
  inferInstanceAs (Decidable (name.toList.map Char.toLower = other.toList.map Char.toLower))

/-- The first header of a name in a response has this text. -/
def HttpResponse.Carries (received : HttpResponse) (name text : String) : Prop :=
  ∃ before key after, received.headers = before ++ (key, text) :: after ∧ SameHeader key name ∧
    ∀ earlier ∈ before, ¬ SameHeader earlier.1 name

/-- The header model that a response of the operation declares first. -/
def Operation.headerModel? (operation : Operation) : Option HeaderModel :=
  operation.responses.findSome? (·.headers)

/-- The first of the declared codes that covers a status is one of this response. -/
def Operation.Decides (operation : Operation) (status : Nat) (answer : Response) : Prop :=
  ∃ before code after, operation.declaredCodes = before ++ (code, answer) :: after ∧
    (∀ earlier ∈ before, earlier.1.covers status = false) ∧ code.covers status = true

/-- The kind that reads the texts of a schema. -/
def Model.ReadsTexts (model : Model) (schema : SchemaId) (kind : ScalarKind) : Prop :=
  ∀ referrer, model.scalarKind schema referrer = .ok (some kind)

def Handled.headers? : Handled → Option Value
  | .headers held => some held
  | .headersAndValue held _ => some held
  | _ => none

theorem header?_eq_some {name text : String} :
    received.header? name = some text ↔ received.Carries name text := by
  rw [HttpResponse.header?, findHeader, Option.map_eq_some_iff]
  constructor
  · rintro ⟨⟨key, found⟩, hit, rfl⟩
    obtain ⟨same, before, after, split, missed⟩ := List.find?_eq_some_iff_append.mp hit
    refine ⟨before, key, after, split, beq_iff_eq.mp same, fun earlier member alike => ?_⟩
    have other := missed earlier member
    rw [Bool.not_eq_true'] at other
    exact beq_eq_false_iff_ne.mp other alike
  · rintro ⟨before, key, after, split, same, missed⟩
    refine ⟨(key, text), List.find?_eq_some_iff_append.mpr ?_, rfl⟩
    refine ⟨beq_iff_eq.mpr same, before, after, split, fun earlier member => ?_⟩
    rw [Bool.not_eq_true']
    exact beq_eq_false_iff_ne.mpr (missed earlier member)

/-- Whoever refers to a schema, the same kind reads its texts. -/
theorem Model.readsTexts_of_scalarKind {schema : SchemaId} {referrer : String} {kind : ScalarKind}
    (made : model.scalarKind schema referrer = .ok (some kind)) : model.ReadsTexts schema kind := by
  intro other
  rw [scalarKind] at made ⊢
  obtain ⟨found, present, -⟩ := bind_eq_ok made
  rw [schemaFor_of_some (schemaFor_eq_ok present)] at made ⊢
  exact made

theorem Model.ReadsTexts.unique {schema : SchemaId} {kind other : ScalarKind}
    (reads : model.ReadsTexts schema kind) (reads' : model.ReadsTexts schema other) :
    other = kind := by
  have same := reads ""
  rw [reads'] at same
  exact Option.some.inj (Except.ok.inj same)

theorem Operation.Decides.declared {status : Nat} {answer : Response}
    (decided : operation.Decides status answer) : answer ∈ operation.responses := by
  obtain ⟨before, code, after, split, -, -⟩ := decided
  have listed : (code, answer) ∈ operation.declaredCodes := by simp [split]
  simp only [Operation.declaredCodes, codesOf, List.mem_flatMap, List.mem_map, Prod.mk.injEq]
    at listed
  obtain ⟨response, inside, -, -, -, rfl⟩ := listed
  exact inside

namespace Model

/-- A header field as a table reads it. -/
structure Binds (model : Model) (field : HeaderField) (binding : HeaderBinding) : Prop where
  name : binding.field = field.name
  header : binding.header = field.header
  kind : model.ReadsTexts field.schema binding.kind

theorem headerBinding_eq_ok {headers : HeaderModel} {field : HeaderField} {binding : HeaderBinding}
    (planned : (model.headerBinding operation headers field).fresh = .ok binding) :
    model.Binds field binding := by
  simp only [headerBinding, fresh_bind, fresh_liftM, bind_eq_ok_iff] at planned
  obtain ⟨found, scalar, bound⟩ := planned
  cases found with
  | none => cases bound
  | some kind =>
      simp only [fresh_bind, bind_eq_ok_iff] at bound
      obtain ⟨type, -, same⟩ := bound
      cases same
      exact ⟨rfl, rfl, readsTexts_of_scalarKind scalar⟩

theorem headerPlan_fields {headers : HeaderModel}
    (planned : (model.headerPlan operation headers).fresh = .ok plan) :
    List.Forall₂ model.Binds headers.headers plan.fields := by
  simp only [headerPlan, fresh_bind, fresh_mapM, bind_eq_ok_iff] at planned
  obtain ⟨fields, mapped, same⟩ := planned
  cases same
  exact (mapM_eq_ok_iff.mp mapped).imp fun _ _ => headerBinding_eq_ok

/-- A table keeps the header model it has, or takes that of the response. -/
theorem joinHeaders_first {known joined : Option HeaderPlan} {added : Option HeaderModel}
    (agreed : (model.joinHeaders operation known added).fresh = .ok joined) :
    (∀ plan, known = some plan → joined = some plan) ∧
      (known = none → added = none → joined = none) ∧
      ∀ first, known = none → added = some first →
        ∃ plan, joined = some plan ∧ (model.headerPlan operation first).fresh = .ok plan := by
  obtain ⟨rfl, shared⟩ | ⟨rfl, headers, plan, rfl, planned, rfl⟩ := joinHeaders_cases agreed
  · refine ⟨fun _ held => held, fun headless _ => headless, fun first headless declared => ?_⟩
    obtain ⟨plan, held, -⟩ := shared first declared
    cases headless.symm.trans held
  · simp [planned]

theorem addResponses_headers {added : List Response}
    (planned : (model.addResponses operation table added).fresh = .ok next) :
    (∀ plan, table.headers = some plan → next.headers = some plan) ∧
      ∀ first, table.headers = none → added.findSome? (·.headers) = some first →
        ∃ plan, next.headers = some plan ∧ (model.headerPlan operation first).fresh = .ok plan := by
  induction added generalizing table with
  | nil =>
      cases planned
      exact ⟨fun _ held => held, fun _ _ none => by cases none⟩
  | cons response rest ih =>
      simp only [addResponses, fresh_bind, bind_eq_ok_iff] at planned
      obtain ⟨between, here, later⟩ := planned
      obtain ⟨_, _, _, _, -, -, headed, rfl⟩ := addResponse_eq_ok here
      obtain ⟨kept, passed, taken⟩ := joinHeaders_first headed
      obtain ⟨keptLater, takenLater⟩ := ih later
      refine ⟨fun plan held => keptLater plan (kept plan held), fun first headless found => ?_⟩
      cases declared : response.headers with
      | none =>
          rw [List.findSome?_cons_of_isNone (by simp [declared])] at found
          exact takenLater first (passed headless declared) found
      | some headers =>
          rw [List.findSome?_cons_of_isSome (by simp [declared]), declared] at found
          obtain ⟨plan, held, made⟩ := taken first headless (declared.trans found)
          exact ⟨plan, keptLater plan held, made⟩

theorem dispatchTable_headerModel (planned : (model.dispatchTable operation).fresh = .ok table)
    (shared : operation.headerModel? = some first) :
    ∃ plan, table.headers = some plan ∧ List.Forall₂ model.Binds first.headers plan.fields := by
  simp only [dispatchTable, fresh_bind, bind_eq_ok_iff] at planned
  obtain ⟨filled, added, same⟩ := planned
  cases same
  obtain ⟨plan, held, made⟩ := (addResponses_headers added).2 first rfl shared
  exact ⟨plan, held, headerPlan_fields made⟩

end Model

/-- The value that a response has for a binding. -/
def HeaderBinding.found? (received : HttpResponse) (binding : HeaderBinding) : Option Value :=
  (received.header? binding.header).bind fun text => (Scalar.ofText binding.kind text).toOption

namespace DispatchTable

theorem readHeaderFields_eq_ok {name : String} {bindings : List HeaderBinding}
    {fields : List (String × Value)}
    (read : readHeaderFields name received bindings = .ok fields) :
    fields = entriesOf HeaderBinding.field (·.found? received) bindings ∧
      ∀ binding ∈ bindings, ∀ text, received.header? binding.header = some text →
        ∃ value, Scalar.ofText binding.kind text = .ok value := by
  induction bindings generalizing fields with
  | nil =>
      cases read
      exact ⟨rfl, List.forall_mem_nil _⟩
  | cons binding rest ih =>
      rw [readHeaderFields] at read
      rw [List.forall_mem_cons]
      split at read
      next absent =>
        obtain ⟨entries, legible⟩ := ih read
        refine ⟨?_, ⟨fun text present => ?_, legible⟩⟩
        · rw [entries]
          simp [entriesOf, HeaderBinding.found?, absent]
        · cases absent.symm.trans present
      next text present =>
        split at read
        next => cases read
        next value legible =>
          obtain ⟨later, readLater, same⟩ := bind_eq_ok read
          cases same
          obtain ⟨entries, legibleLater⟩ := ih readLater
          refine ⟨?_, ⟨fun text' present' => ?_, legibleLater⟩⟩
          · rw [entries]
            simp [entriesOf, HeaderBinding.found?, present, legible, Except.toOption]
          · cases present.symm.trans present'
            exact ⟨value, legible⟩

theorem outcome_headers {value : Option Value} {handled : Handled}
    (headed : table.headers = some plan) (made : table.outcome received value = .ok handled) :
    ∃ fields, readHeaderFields table.operation received plan.fields = .ok fields ∧
      handled.headers? = some (.record (sortEntries fields)) := by
  have bound : table.bindings = plan.fields := by rw [bindings, headed]
  have headers : ∀ held, table.readHeaders received = .ok held →
      ∃ fields, readHeaderFields table.operation received plan.fields = .ok fields ∧
        held = .record (sortEntries fields) := by
    intro held read
    rw [readHeaders, bound] at read
    obtain ⟨fields, found, same⟩ := map_eq_ok read
    exact ⟨fields, found, same.symm⟩
  have kind := returnKind_headed.mpr (Option.isSome_of_eq_some headed)
  rw [outcome] at made
  rcases kind with kind | kind
  all_goals
    rw [kind] at made
    obtain ⟨held, read, rfl⟩ := map_eq_ok made
    obtain ⟨fields, found, rfl⟩ := headers held read
    exact ⟨fields, found, rfl⟩

/-- A field that is the only one of its name is read from the header under its header name. A name
that several fields have may hold the value of another of them. -/
theorem readHeaderFields_kept {name : String} {bindings : List HeaderBinding}
    {fields : List (String × Value)} (bound : List.Forall₂ model.Binds first.headers bindings)
    (read : readHeaderFields name received bindings = .ok fields) {field : HeaderField}
    (member : field ∈ first.headers)
    (single : ∀ other ∈ first.headers, other.name = field.name → other = field) {text : String}
    (carried : received.Carries field.header text) :
    ∃ kind value, model.ReadsTexts field.schema kind ∧ Scalar.ofText kind text = .ok value ∧
      (sortEntries fields).lookup field.name = some value := by
  obtain ⟨rfl, legible⟩ := readHeaderFields_eq_ok read
  obtain ⟨binding, inside, binds⟩ := exists_of_forall₂ bound.flip member
  have present : received.header? binding.header = some text := by
    rw [binds.header]
    exact header?_eq_some.mpr carried
  obtain ⟨value, valued⟩ := legible binding inside text present
  refine ⟨binding.kind, value, binds.kind, valued, lookup_sortEntries_agreed ?_ ?_⟩
  · rw [mem_entriesOf]
    refine ⟨binding, inside, binds.name, ?_⟩
    rw [HeaderBinding.found?, present, Option.bind_some, valued]
    rfl
  · -- another entry of the name comes from the same field, perhaps by another binding of it
    intro other listed
    obtain ⟨binding', inside', named, found⟩ := mem_entriesOf.mp listed
    obtain ⟨field', member', binds'⟩ := exists_of_forall₂ bound inside'
    have same := single field' member' (binds'.name.symm.trans named)
    subst same
    rw [HeaderBinding.found?, binds'.header, ← binds.header, present, Option.bind_some,
      binds.kind.unique binds'.kind, valued] at found
    exact (Option.some.inj found).symm

theorem readHeaderFields_absent {name key : String} {bindings : List HeaderBinding}
    {fields : List (String × Value)} (bound : List.Forall₂ model.Binds first.headers bindings)
    (read : readHeaderFields name received bindings = .ok fields)
    (absent : key ∉ first.headers.map HeaderField.name) :
    (sortEntries fields).lookup key = none := by
  obtain ⟨rfl, -⟩ := readHeaderFields_eq_ok read
  apply lookup_eq_none.mpr
  intro inside
  obtain ⟨entry, listed, rfl⟩ := List.mem_map.mp inside
  obtain ⟨binding, inside', named, -⟩ := mem_entriesOf.mp (mem_of_mem_sortEntries listed)
  obtain ⟨field, member, binds⟩ := exists_of_forall₂ bound inside'
  exact absent (List.mem_map.mpr ⟨field, member, binds.name.symm.trans named⟩)

end DispatchTable

theorem Operation.exists_headerModel {answer : Response} {declared : HeaderModel}
    (listed : answer ∈ operation.responses) (headed : answer.headers = some declared) :
    ∃ first, operation.headerModel? = some first := by
  rw [← Option.isSome_iff_exists, headerModel?, List.findSome?_isSome_iff]
  exact ⟨answer, listed, Option.isSome_of_eq_some headed⟩

/-- The header models that the responses of a planned operation declare have one name. -/
theorem Model.Describes.headers_named (described : model.Describes operation operation.responses table)
    {answer : Response} {declared : HeaderModel} (listed : answer ∈ operation.responses)
    (headed : answer.headers = some declared) (shared : operation.headerModel? = some first) :
    first.name = declared.name := by
  obtain ⟨earliest, inside, found⟩ := List.exists_of_findSome?_eq_some shared
  have named := (described.headers declared.name).mpr ⟨answer, listed, by rw [headed]; rfl⟩
  have named' := (described.headers first.name).mpr ⟨earliest, inside, by rw [found]; rfl⟩
  exact Option.some.inj (named'.symm.trans named)

/-- A header model is known by its name, and what is declared first of it counts. When a response with
declared headers is handled, each field of the first declaration that is the only one of its name has
the value of its header, if the response carries one; a name that the first declaration does not have
is the name of no field. -/
theorem Model.declared_headers_kept {planning handling : Memo}
    (lawful : planning.Obeys model.tableLaw) (lawful' : handling.Obeys model.tableLaw)
    (planned : ((model.dispatchTable operation).run planning).1 = .ok table)
    {answer : Response} {declared : HeaderModel}
    (decided : operation.Decides received.status answer) (headed : answer.headers = some declared)
    {handled : Handled} (succeeded : ((table.handle model received).run handling).1 = .ok handled) :
    ∃ first fields, operation.headerModel? = some first ∧ first.name = declared.name ∧
      handled.headers? = some (.record fields) ∧
      (∀ field ∈ first.headers,
        (∀ other ∈ first.headers, other.name = field.name → other = field) →
          ∀ text, received.Carries field.header text → ∃ kind value,
            model.ReadsTexts field.schema kind ∧ Scalar.ofText kind text = .ok value ∧
              fields.lookup field.name = some value) ∧
      ∀ name, name ∉ first.headers.map HeaderField.name → fields.lookup name = none := by
  have alone : (model.dispatchTable operation).fresh = .ok table :=
    ((dispatchTable_steady operation).run lawful).1.symm.trans planned
  have made : (table.handle model received).fresh = .ok handled :=
    (DispatchTable.handle_steady.run lawful').1.symm.trans succeeded
  obtain ⟨first, shared⟩ := Operation.exists_headerModel decided.declared headed
  obtain ⟨plan, held, bound⟩ := dispatchTable_headerModel alone shared
  rw [DispatchTable.handle_fresh] at made
  obtain ⟨branch, -, rest⟩ := bind_eq_ok made
  obtain ⟨value, -, made⟩ := bind_eq_ok rest
  obtain ⟨fields, read, returned⟩ := DispatchTable.outcome_headers held made
  have named := (dispatchTable_describes alone).1.headers_named decided.declared headed shared
  exact ⟨first, sortEntries fields, shared, named, returned,
    fun _ member single _ carried =>
      DispatchTable.readHeaderFields_kept bound read member single carried,
    fun _ absent => DispatchTable.readHeaderFields_absent bound read absent⟩

/-- Counts of what is left of a quota. -/
def quotas : Model := { name := "Quotas", schemas := [("Count", .primitive .int32 none)] }

/-- The answer to one request too many tells when to come back. -/
def overQuota : Response :=
  { statusCodes := [.code 429]
    headers := some ⟨"Limits",
      [⟨"left", "X-Left", "Count"⟩, ⟨"retry", "Retry-After", "Count"⟩]⟩ }

/-- An operation that declares a header model twice, the second time with one more field. -/
def checkQuota : Operation :=
  { name := "checkQuota", method := .get, path := [.constant "/quota"]
    responses :=
      [{ statusCodes := [.code 200], headers := some ⟨"Limits", [⟨"left", "X-Left", "Count"⟩]⟩ },
       overQuota] }

def checkQuotaTable : DispatchTable :=
  { operation := "checkQuota"
    value := none
    valueOptional := false
    headers := some ⟨"Limits",
      [⟨"left", "X-Left", .primitive .int32 none, ⟨.primitive .int32, false⟩⟩]⟩
    branches := [⟨.code 200, .noContent⟩, ⟨.code 429, .noContent⟩] }

def quotaSpent : HttpResponse :=
  { status := 429, headers := [("x-left", "0"), ("retry-after", "5")] }

theorem overQuota_decides : checkQuota.Decides 429 overQuota :=
  ⟨[(.code 200, checkQuota.responses[0])], .code 429, [], rfl, by decide, by decide⟩

theorem quotaSpent_handled : ((checkQuotaTable.handle quotas quotaSpent).run {}).1 =
    .ok (.headers (.record [("left", .int 0)])) := rfl

/-- The header that both declarations have is kept. -/
theorem checkQuota_left_kept :
    ((quotas.dispatchTable checkQuota).run {}).1 = .ok checkQuotaTable ∧
      checkQuota.Decides quotaSpent.status overQuota ∧
      ∃ handled fields kind value,
        ((checkQuotaTable.handle quotas quotaSpent).run {}).1 = .ok handled ∧
          handled.headers? = some (.record fields) ∧ quotas.ReadsTexts "Count" kind ∧
          Scalar.ofText kind "0" = .ok value ∧ fields.lookup "left" = some value := by
  have planned : ((quotas.dispatchTable checkQuota).run {}).1 = .ok checkQuotaTable := rfl
  obtain ⟨first, fields, shared, -, returned, kept, -⟩ :=
    Model.declared_headers_kept (Memo.empty_obeys _) (Memo.empty_obeys _) planned
      overQuota_decides rfl quotaSpent_handled
  cases shared
  have carried : quotaSpent.Carries "X-Left" "0" :=
    ⟨[], "x-left", [("retry-after", "5")], rfl, by decide, List.forall_mem_nil _⟩
  obtain ⟨kind, value, reads, read, found⟩ :=
    kept ⟨"left", "X-Left", "Count"⟩ (by decide) (by decide) "0" carried
  exact ⟨planned, overQuota_decides, _, fields, kind, value, quotaSpent_handled, returned, reads,
    read, found⟩

/-- The header that only the second declaration has is lost. -/
theorem checkQuota_retry_lost :
    ((quotas.dispatchTable checkQuota).run {}).1 = .ok checkQuotaTable ∧
      checkQuota.Decides quotaSpent.status overQuota ∧
      (∃ declared, overQuota.headers = some declared ∧
        (declared.headers.map HeaderField.name).Nodup ∧
        ⟨"retry", "Retry-After", "Count"⟩ ∈ declared.headers) ∧
      quotaSpent.Carries "Retry-After" "5" ∧
      ∃ handled fields, ((checkQuotaTable.handle quotas quotaSpent).run {}).1 = .ok handled ∧
        handled.headers? = some (.record fields) ∧ fields.lookup "retry" = none := by
  refine ⟨rfl, overQuota_decides, ⟨_, rfl, by decide, by decide⟩, ?_, ?_⟩
  · exact ⟨[("x-left", "0")], "retry-after", [], rfl, by decide, by decide⟩
  · exact ⟨_, _, quotaSpent_handled, rfl, rfl⟩

end ApiContract
