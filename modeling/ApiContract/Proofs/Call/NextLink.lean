import ApiContract.Proofs.Call.Signature
import ApiContract.Proofs.Http.Query

/-!
What a followed link does to the query of a request. Names are compared as they are spelled: a name
of the link replaces the operation's entry, and earlier entries of the link, where all of them spell
it alike, and is repeated otherwise. Other names are sent as without the link.
-/

namespace ApiContract.CallPlan

open Planning UriDraft

/-- The query entries that the operation itself sends. -/
def ownEntries (plan : CallPlan) (arguments : Arguments) : List (String × String) :=
  plan.steps.flatMap (plan.stepEntries arguments)

/-- The query entries that the links of a call carry. -/
def carried (plan : CallPlan) (arguments : Arguments) : List (String × String) :=
  carriedEntries (plan.steps.filterMap (plan.stepLink? arguments))

/-- The plan with the steps that follow links left out. -/
def withoutLinks (plan : CallPlan) : CallPlan :=
  { plan with steps := plan.steps.filter (!isLink ·) }

/-- All parameters in the query are escaped. -/
def Escaped (operation : Operation) : Prop :=
  ∀ parameter ∈ operation.parameters, parameter.location = .query → parameter.escape = true

/-- No piece of the path holds a question mark. -/
def PathUnmarked (plan : CallPlan) (arguments : Arguments) : Prop :=
  ∀ step ∈ plan.steps, plan.StepUnmarked arguments step

variable {model : Model} {operation : Operation} {plan : CallPlan} {arguments : Arguments}

/-- An entry that encoding made: its name is encoded, and it can be told from others. -/
theorem queryEntries_encoded {name : String} {style : ListStyle} {texts : List String}
    {entry : String × String} (member : entry ∈ queryEntries name style true texts) :
    entry.1 = Text.Percent.encodeQuery name ∧
      ∃ text, entry.2 = Text.Percent.encodeQuery text := by
  rw [queryEntries] at member
  split at member
  next => exact List.mem_singleton.mp member ▸ ⟨rfl, _, rfl⟩
  next =>
    obtain ⟨text, -, same⟩ := List.mem_map.mp member
    exact same ▸ ⟨rfl, text, rfl⟩

theorem ownEntries_encoded (escaped : Escaped operation) {behind : List CallStep}
    (isBehind : ∀ step ∈ behind, Behind operation step) {entry : String × String}
    (member : entry ∈ behind.flatMap (plan.stepEntries arguments)) :
    (∃ wireName, entry.1 = Text.Percent.encodeQuery wireName) ∧ Separable entry := by
  obtain ⟨step, inside, made⟩ := List.mem_flatMap.mp member
  cases step with
  | addQuery name value style escape =>
      obtain ⟨parameter, declared, located, -, escapes⟩ :=
        (isBehind _ inside).2 name value style escape rfl
      rw [stepEntries] at made
      cases texts : plan.texts? arguments value with
      | none =>
          rw [texts] at made
          cases made
      | some texts' =>
          rw [texts, Option.elim_some, escapes, escaped parameter declared located] at made
          obtain ⟨nameEncoded, text, valueEncoded⟩ := queryEntries_encoded made
          refine ⟨⟨name, nameEncoded⟩, ⟨?_, ?_⟩, ?_⟩
          · exact nameEncoded ▸ Text.Percent.encodeQuery_free name (by decide)
          · exact nameEncoded ▸ Text.Percent.encodeQuery_free name (by decide)
          · exact valueEncoded ▸ Text.Percent.encodeQuery_free text (by decide)
  | _ => cases made

theorem carriedEntries_separable {links : List String} {entry : String × String}
    (member : entry ∈ carriedEntries links) : Separable entry := by
  induction links using List.reverseRecOn with
  | nil => cases member
  | append_singleton rest link ih =>
      rw [carriedEntries, List.foldl_append, List.foldl_cons, List.foldl_nil, carryOn] at member
      split at member
      next => exact queryEntries_separable member
      next =>
        rcases List.mem_append.mp member with earlier | new
        · exact ih earlier
        · exact queryEntries_separable new

/-- Entries stand only behind the path. -/
theorem ownEntries_behind {path behind : List CallStep} (split : plan.steps = path ++ behind)
    (onPath : ∀ step ∈ path, isPath step = true) :
    plan.ownEntries arguments = behind.flatMap (plan.stepEntries arguments) := by
  have noEntries : path.flatMap (plan.stepEntries arguments) = [] := by
    apply List.flatMap_eq_nil_iff.mpr
    intro step member
    have kind := onPath step member
    cases step <;> first | rfl | cases kind
  rw [ownEntries, split, List.flatMap_append, noEntries, List.nil_append]

/-- The URI of an evaluated request: what the path steps make of the endpoint, with the operation's
entries that no link replaces and those of the links. -/
theorem uri_evaluate {tables tables' : Memo} (ordered : Ordered operation plan.steps)
    {endpoint : String} (endpointFree : Unmarked endpoint) (pathFree : plan.PathUnmarked arguments)
    {request : HttpRequest}
    (evaluated : (plan.evaluate model endpoint arguments).run tables = (.ok request, tables')) :
    ∃ final : RequestDraft, request = final.finish plan.method ∧
      final.uri = plan.steps.foldl (plan.place arguments) (.ofEndpoint endpoint) ∧
      Unmarked final.uri.base ∧
      final.uri.finalQuery = merged (plan.ownEntries arguments) (plan.carried arguments) := by
  obtain ⟨path, behind, split, onPath, isBehind⟩ := ordered
  obtain ⟨final, between, taken, same⟩ := run_bind_eq_ok evaluated
  cases same
  -- Links stand only on the path.
  have noLinks : behind.filterMap (plan.stepLink? arguments) = [] := by
    apply List.filterMap_eq_nil_iff.mpr
    intro step member
    have kind := (isBehind step member).1
    cases step <;> first | rfl | cases kind
  have links : plan.carried arguments =
      carriedEntries (path.filterMap (plan.stepLink? arguments)) := by
    rw [carried, split, List.filterMap_append, noLinks, List.append_nil]
  have placed : (path.foldl (plan.place arguments) (.ofEndpoint endpoint)).OnPath
      (plan.carried arguments) := by
    rw [links]
    refine place_paths ⟨Unmarked.dropTrailing endpointFree '/', rfl, rfl⟩ onPath fun step member => ?_
    exact pathFree step (by rw [split]; exact List.mem_append_left _ member)
  have uri := takeSteps_uri taken
  refine ⟨final, rfl, uri, ?_⟩
  rw [split, List.foldl_append, place_entries fun step member => (isBehind step member).1,
    ← ownEntries_behind split onPath] at uri
  constructor
  · rw [uri]
    exact placed.base
  · rw [uri, finalQuery, merged, addQuery, placed.query, placed.linkQuery, List.nil_append]

/-- The query of an evaluated request: the operation's entries that no link replaces, and those of
the links. -/
theorem entries_evaluate {tables tables' : Memo} (ordered : Ordered operation plan.steps)
    (escaped : Escaped operation) {endpoint : String} (endpointFree : Unmarked endpoint)
    (pathFree : plan.PathUnmarked arguments) {request : HttpRequest}
    (evaluated : (plan.evaluate model endpoint arguments).run tables = (.ok request, tables')) :
    request.entries = merged (plan.ownEntries arguments) (plan.carried arguments) ∧
      Encoded (plan.ownEntries arguments) := by
  obtain ⟨final, same, -, base, query⟩ := uri_evaluate ordered endpointFree pathFree evaluated
  obtain ⟨path, behind, split, onPath, isBehind⟩ := ordered
  have encoded : ∀ entry ∈ plan.ownEntries arguments,
      (∃ wireName, entry.1 = Text.Percent.encodeQuery wireName) ∧ Separable entry := by
    rw [ownEntries_behind split onPath]
    exact fun entry => ownEntries_encoded escaped isBehind
  refine ⟨?_, fun entry member => (encoded entry member).1⟩
  -- A base without a question mark leaves the query in one piece.
  rw [same, UriDraft.entries_finish base, query]
  intro entry member
  rw [query] at member
  rcases List.mem_append.mp member with inOwn | inLink
  · exact (encoded entry (List.mem_filter.mp inOwn).1).2
  · exact carriedEntries_separable (mem_of_mem_lastEach inLink)

theorem ownEntries_withoutLinks :
    plan.withoutLinks.ownEntries arguments = plan.ownEntries arguments := by
  have each : ∀ steps : List CallStep,
      (steps.filter (!isLink ·)).flatMap (plan.stepEntries arguments) =
        steps.flatMap (plan.stepEntries arguments) := by
    intro steps
    induction steps with
    | nil => rfl
    | cons step rest ih =>
        rw [List.filter_cons, List.flatMap_cons, ← ih]
        cases step <;> rfl
  exact each plan.steps

theorem carried_withoutLinks : plan.withoutLinks.carried arguments = [] := by
  have none : plan.withoutLinks.steps.filterMap (plan.stepLink? arguments) = [] := by
    apply List.filterMap_eq_nil_iff.mpr
    intro step member
    have kept := (List.mem_filter.mp member).2
    cases step <;> first | rfl | cases kept
  exact congrArg carriedEntries none

/-- A call that succeeds does so without its links, and then sends the operation's own entries. -/
theorem evaluate_withoutLinks {tables tables' : Memo} (ordered : Ordered operation plan.steps)
    (escaped : Escaped operation) {endpoint : String} (endpointFree : Unmarked endpoint)
    (pathFree : plan.PathUnmarked arguments) {request : HttpRequest}
    (evaluated : (plan.evaluate model endpoint arguments).run tables = (.ok request, tables')) :
    ∃ unlinked, (plan.withoutLinks.evaluate model endpoint arguments).run tables =
        (.ok unlinked, tables') ∧ unlinked.entries = merged (plan.ownEntries arguments) [] := by
  obtain ⟨final, between, taken, same⟩ := run_bind_eq_ok evaluated
  cases same
  obtain ⟨other, ran⟩ := takeSteps_without_links taken (.ofEndpoint endpoint)
  have evaluated' : (plan.withoutLinks.evaluate model endpoint arguments).run tables =
      (.ok (other.finish plan.method), tables') := by
    rw [evaluate, withoutLinks, takeSteps_replaced]
    exact run_bind ran
  refine ⟨_, evaluated', ?_⟩
  have free : plan.withoutLinks.PathUnmarked arguments := fun step member =>
    pathFree step (List.mem_filter.mp member).1
  rw [(entries_evaluate (ordered.filter _) escaped endpointFree free evaluated').1,
    ownEntries_withoutLinks, carried_withoutLinks]

theorem queryValues_eq (request : HttpRequest) (name : String) :
    request.queryValues name =
      (named name request.entries).map fun entry => Text.Percent.decode entry.2 := rfl

/-- Of a name that links carry the request has just one value, the last that they carry, if and only
if the name is spelled alike wherever it stands. A name that they do not carry has the values that
it has without links. -/
theorem queryValues_linked {memo tables : Memo}
    (made : ((model.callPlan operation).run memo).1 = .ok plan) (escaped : Escaped operation)
    {endpoint : String} (endpointFree : Unmarked endpoint)
    (pathFree : plan.PathUnmarked arguments) {request : HttpRequest}
    (evaluated : ((plan.evaluate model endpoint arguments).run tables).1 = .ok request) :
    (∀ name last, (named name (plan.carried arguments)).getLast? = some last →
      (request.queryValues name = [Text.Percent.decode last.2] ↔
        SpelledAlike name (plan.ownEntries arguments) (plan.carried arguments))) ∧
    ∃ unlinked,
      ((plan.withoutLinks.evaluate model endpoint arguments).run tables).1 = .ok unlinked ∧
      ∀ name, named name (plan.carried arguments) = [] →
        request.queryValues name = unlinked.queryValues name := by
  have ordered := callPlan_ordered (Prod.ext made rfl)
  have evaluated' : (plan.evaluate model endpoint arguments).run tables = (.ok request, _) :=
    Prod.ext evaluated rfl
  obtain ⟨entries, encoded⟩ := entries_evaluate ordered escaped endpointFree pathFree evaluated'
  obtain ⟨unlinked, ran, entries'⟩ :=
    evaluate_withoutLinks ordered escaped endpointFree pathFree evaluated'
  refine ⟨fun name last isLast => ?_, unlinked, congrArg Prod.fst ran, fun name unnamed => ?_⟩
  · have present : named name (plan.carried arguments) ≠ [] := by
      intro empty
      rw [empty] at isLast
      cases isLast
    rw [queryValues_eq, entries]
    constructor
    · intro single
      apply alike_of_single encoded present
      rw [← List.length_map, single]
      rfl
    · intro alike
      rw [named_merged_alike encoded alike present, isLast]
      rfl
  · rw [queryValues_eq, queryValues_eq, entries, entries', named_merged_other unnamed,
      named_merged_other rfl]

/-- A listing whose page size is named like an option of its protocol. -/
def listItems : Operation :=
  { name := "listItems"
    method := .get
    path := [.constant "/items"]
    parameters :=
      [{ name := "top", schema := "Text", location := .query, serializedName := some "$top" },
        { name := "nextLink", schema := "Text", location := .query, nextLink := true }] }

def pager : Model :=
  { name := "Pager", schemas := [("Text", .primitive .string none)], operations := [listItems] }

def listPlan : CallPlan :=
  { operation := "listItems"
    method := .get
    signature :=
      [⟨"top", "$top", .query, ⟨.primitive .string, true⟩, false, true, none⟩,
        ⟨"nextLink", "nextLink", .query, ⟨.primitive .string, true⟩, false, true, none⟩]
    steps :=
      [.appendConstant "/items",
        .followLink ⟨.parameter "nextLink", .scalar (.primitive .string none)⟩,
        .addQuery "$top" ⟨.parameter "top", .scalar (.primitive .string none)⟩ .none true] }

/-- The second page, with a page size from the caller and another from the link. -/
def secondPage : Arguments :=
  ⟨[("nextLink", .string "?$top=10&page=2"), ("top", .string "5")]⟩

def secondRequest : HttpRequest :=
  ⟨.get, "https://pager.test/items?%24top=5&$top=10&page=2", [], none⟩

/-- The caller and the link spell the page size in two ways, and the page in one. -/
theorem secondPage_linked :
    (Escaped listItems ∧ Unmarked "https://pager.test" ∧ listPlan.PathUnmarked secondPage) ∧
      secondRequest.queryValues "page" = ["2"] ∧
      ¬SpelledAlike "$top" (listPlan.ownEntries secondPage) (listPlan.carried secondPage) ∧
      ∃ unlinked, ((listPlan.withoutLinks.evaluate pager "https://pager.test" secondPage).run
        {}).1 = .ok unlinked ∧
        secondRequest.queryValues "sort" = unlinked.queryValues "sort" := by
  have escaped : ∀ parameter ∈ listItems.parameters, parameter.location = .query →
      parameter.escape = true := by decide
  have unmarked : Unmarked "https://pager.test" := by decide
  have pathFree : listPlan.PathUnmarked secondPage := by
    intro step member
    simp only [listPlan, List.mem_cons, List.not_mem_nil, or_false] at member
    rcases member with rfl | rfl | rfl
    · exact (by decide : Unmarked "/items")
    · trivial
    · trivial
  have made : ((pager.callPlan listItems).run {}).1 = .ok listPlan := rfl
  have evaluated : ((listPlan.evaluate pager "https://pager.test" secondPage).run {}).1 =
      .ok secondRequest := rfl
  obtain ⟨carried, unlinked, ran, others⟩ :=
    queryValues_linked made escaped unmarked pathFree evaluated
  refine ⟨⟨escaped, unmarked, pathFree⟩, ?_, ?_, unlinked, ran, others "sort" rfl⟩
  · exact (carried "page" ("page", "2") rfl).mpr ⟨"page", by decide, fun sent => absurd rfl sent⟩
  · intro alike
    have single := (carried "$top" ("$top", "10") rfl).mpr alike
    exact absurd single (by decide : secondRequest.queryValues "$top" ≠ ["10"])

end ApiContract.CallPlan
