import ApiContract.Proofs.Call.NextLink
import ApiContract.Proofs.Call.Signature

/-!
What the query of a call carries where no link is followed: of each parameter in the query its
texts, however they are spelled, and nothing else. The texts are those of its constant, of the
caller's argument or of the default that callers see under its name.
-/

namespace ApiContract

namespace Operation

/-- The parameters that send entries, in declared order. -/
def queryParameters (operation : Operation) : List Parameter :=
  (operation.parameters.filter (·.location == .query)).filter (!·.nextLink)

/-- The default that callers see under the name of a parameter. -/
def defaultOf? (operation : Operation) (parameter : Parameter) : Option Json :=
  (operation.callerParameter? parameter.name).bind (·.defaultValue)

theorem defaultOf?_of_mem {operation : Operation}
    (distinct : (operation.parameters.map (·.name)).Nodup) {parameter : Parameter}
    (declared : parameter ∈ operation.parameters) (free : parameter.constant = none) :
    operation.defaultOf? parameter = parameter.defaultValue := by
  rw [defaultOf?, callerParameter?_of_mem distinct declared free]
  rfl

/-- A parameter for which nothing is sent: callers may leave its name out, and did. -/
structure Unset (operation : Operation) (arguments : Arguments) (parameter : Parameter) : Prop where
  free : parameter.constant = none
  missing : arguments.get? parameter.name = none
  nullable : ∃ seen, operation.callerParameter? parameter.name = some seen ∧ seen.isNullable = true

end Operation

/-- The value of a parameter in a call: its constant, else the argument, else the default. -/
def Parameter.valueIn? (parameter : Parameter) (default : Option Json) (form : TextForm)
    (arguments : Arguments) : Option Value :=
  match parameter.constant with
  | some document => (form.valueOf document).toOption
  | none =>
      (arguments.get? parameter.name).or
        (default.bind fun document => (form.valueOf document).toOption)

/-- The texts that a call sends for a parameter. -/
def Model.sentTexts? (model : Model) (operation : Operation) (arguments : Arguments)
    (default : Option Json) (parameter : Parameter) : Option (List String) := do
  let form ← (model.textForm operation parameter).toOption
  let value ← parameter.valueIn? default form arguments
  (form.texts value).toOption

/-- The decoded entries of the texts of a parameter: one of all texts, or one for each. -/
def Parameter.sentEntries (parameter : Parameter) (texts : List String) : List (String × String) :=
  match parameter.style.delimiter with
  | some delimiter => [(parameter.wireName, String.intercalate delimiter texts)]
  | none => texts.map fun text => (parameter.wireName, text)

def decodeEntry (entry : String × String) : String × String :=
  (Text.Percent.decode entry.1, Text.Percent.decode entry.2)

namespace CallPlan

open Planning UriDraft

variable {model : Model} {operation : Operation} {plan : CallPlan} {arguments : Arguments}

theorem decode_queryEntries (parameter : Parameter) (texts : List String) :
    (queryEntries parameter.wireName parameter.style true texts).map decodeEntry =
      parameter.sentEntries texts := by
  rw [queryEntries, Parameter.sentEntries]
  cases parameter.style.delimiter with
  | some delimiter => simp [decodeEntry, Text.Percent.decode_encodeQuery]
  | none => simp [decodeEntry, Function.comp_def, Text.Percent.decode_encodeQuery]

theorem toOption_literal (value : StepValue) (document : Json) :
    (argument.literal value document).toOption.join = (value.form.valueOf document).toOption := by
  rw [argument.literal]
  cases value.form.valueOf document <;> rfl

theorem toOption_unset {α : Type} (name : String) :
    (plan.unset name : Except RequestError (Option α)).toOption.join = none := by
  rw [unset]
  split <;> rfl

/-- The value of a step of a parameter is the one that the call has for the parameter. -/
theorem argument_stepValue {memo memo' : Memo}
    (made : (model.callPlan operation).run memo = (.ok plan, memo')) {parameter : Parameter}
    {value : StepValue} (stepped : model.stepValue operation parameter = .ok value) :
    (plan.argument value arguments).toOption.join =
      parameter.valueIn? (operation.defaultOf? parameter) value.form arguments := by
  obtain ⟨form, -, shaped⟩ := bind_eq_ok stepped
  cases shaped
  rw [argument, Parameter.valueIn?]
  cases fixed : parameter.constant with
  | some document => exact toOption_literal _ document
  | none =>
      cases given : arguments.get? parameter.name with
      | some argument => simp only [given, Option.some_or, Except.toOption, Option.join_some]
      | none =>
          have default := congrArg (Option.bind · Prod.fst) (parameter?_asked made parameter.name)
          simp only [Option.bind_map, Function.comp_def] at default
          simp only [given, Option.none_or, Operation.defaultOf?, ← default]
          cases (plan.parameter? parameter.name).bind (·.default) with
          | some document => exact toOption_literal _ document
          | none => exact toOption_unset _

theorem texts?_stepValue {memo memo' : Memo}
    (made : (model.callPlan operation).run memo = (.ok plan, memo')) {parameter : Parameter}
    {value : StepValue} (stepped : model.stepValue operation parameter = .ok value) :
    plan.texts? arguments value =
      model.sentTexts? operation arguments (operation.defaultOf? parameter) parameter := by
  have given : (plan.argument value arguments).toOption.join = _ := argument_stepValue made stepped
  obtain ⟨form, formed, shaped⟩ := bind_eq_ok stepped
  cases shaped
  rw [Model.sentTexts?, formed, texts?, CallPlan.texts]
  change _ = (parameter.valueIn? _ form arguments).bind fun value => (form.texts value).toOption
  rw [← given]
  cases plan.argument _ arguments with
  | error e => rfl
  | ok set =>
      cases set with
      | none => rfl
      | some value =>
          simp only [ok_bind, Except.toOption, Option.join_some, Option.bind_some]
          cases form.texts value <;> rfl

/-- The entries of a call stand together, one step for each parameter in the query. -/
theorem callPlan_entries {memo memo' : Memo}
    (made : (model.callPlan operation).run memo = (.ok plan, memo')) :
    ∃ before entries after, plan.steps = before ++ entries ++ after ∧
      operation.queryParameters.mapM (model.queryStep operation) = .ok entries ∧
      ∀ step ∈ before ++ after, ∀ given, plan.stepEntries given step = [] := by
  obtain ⟨_, body, _, _, textMade, bodyMade, split, -⟩ := callPlan_parts made
  obtain ⟨route, links, entries, headers, routeMade, linksMade, entriesMade, headersMade, rfl⟩ :=
    textSteps_eq_ok textMade
  refine ⟨route ++ links, entries, headers ++ body, by simp [split], entriesMade, ?_⟩
  intro step member given
  rcases List.mem_append.mp member with inPath | inTail
  · have onPath : isPath step = true := by
      rcases List.mem_append.mp inPath with inRoute | inLinks
      · exact routeSteps_path routeMade step inRoute
      · obtain ⟨parameter, -, stepMade⟩ := mem_of_mapM_eq_ok linksMade inLinks
        exact linkStep_path stepMade
    cases step <;> first | rfl | cases onPath
  · rcases List.mem_append.mp inTail with inHeaders | inBody
    · obtain ⟨parameter, -, stepMade⟩ := mem_of_mapM_eq_ok headersMade inHeaders
      obtain ⟨name, value, style, same⟩ := headerStep_header stepMade
      rw [same]
      rfl
    · rw [Model.bodySteps] at bodyMade
      split at bodyMade
      next =>
        cases bodyMade
        cases inBody
      next =>
        obtain ⟨body, between, -, same⟩ := run_bind_eq_ok bodyMade
        cases same
        rw [List.mem_singleton.mp inBody]
        rfl

theorem mem_queryParameters {parameter : Parameter}
    (member : parameter ∈ operation.queryParameters) :
    parameter ∈ operation.parameters ∧ parameter.location = .query := by
  obtain ⟨declared, located⟩ := List.mem_filter.mp (List.mem_filter.mp member).1
  exact ⟨declared, beq_iff_eq.mp located⟩

theorem ownEntries_sent {memo memo' : Memo}
    (made : (model.callPlan operation).run memo = (.ok plan, memo')) (escaped : Escaped operation) :
    (plan.ownEntries arguments).map decodeEntry = operation.queryParameters.flatMap fun parameter =>
      (model.sentTexts? operation arguments (operation.defaultOf? parameter) parameter).elim []
        parameter.sentEntries := by
  obtain ⟨before, entries, after, split, stepped, others⟩ := callPlan_entries made
  have noneBefore : before.flatMap (plan.stepEntries arguments) = [] :=
    List.flatMap_eq_nil_iff.mpr fun step member => others step (List.mem_append_left _ member) _
  have noneAfter : after.flatMap (plan.stepEntries arguments) = [] :=
    List.flatMap_eq_nil_iff.mpr fun step member => others step (List.mem_append_right _ member) _
  rw [ownEntries, split, List.flatMap_append, List.flatMap_append, noneBefore, noneAfter,
    List.nil_append, List.append_nil, List.map_flatMap]
  -- Parameter by parameter: a step is worth what its parameter sends.
  have each : ∀ parameter ∈ operation.queryParameters, ∀ step,
      model.queryStep operation parameter = .ok step →
        (plan.stepEntries arguments step).map decodeEntry =
          (model.sentTexts? operation arguments (operation.defaultOf? parameter) parameter).elim []
            parameter.sentEntries := by
    intro parameter member step made'
    obtain ⟨declared, located⟩ := mem_queryParameters member
    obtain ⟨value, valued, shaped⟩ := bind_eq_ok made'
    cases shaped
    rw [stepEntries, texts?_stepValue made valued, escaped parameter declared located]
    cases model.sentTexts? operation arguments (operation.defaultOf? parameter) parameter with
    | none => rfl
    | some texts => exact decode_queryEntries parameter texts
  exact flatMap_of_mapM_eq_ok each stepped

theorem takeSteps_texts {draft final : RequestDraft} {steps : List CallStep} {memo memo' : Memo}
    (taken : (plan.takeSteps model arguments draft steps).run memo = (.ok final, memo'))
    {name : String} {value : StepValue} {style : ListStyle} {escape : Bool}
    (member : .addQuery name value style escape ∈ steps) :
    ∃ texts, plan.texts value arguments = .ok texts := by
  obtain ⟨_, _, _, _, entered⟩ := takeSteps_each taken member
  obtain ⟨texts, _, written, -⟩ := run_bind_eq_ok entered
  exact ⟨texts, congrArg Prod.fst written⟩

theorem texts_none {value : StepValue} (written : plan.texts value arguments = .ok none) :
    ∃ name seen, value.source = .parameter name ∧ arguments.get? name = none ∧
      plan.parameter? name = some seen ∧ seen.nullable = true := by
  obtain ⟨set, argued, rest⟩ := bind_eq_ok written
  cases set with
  | some given =>
      simp only at rest
      split at rest <;> cases rest
  | none =>
      rw [argument] at argued
      split at argued
      next document _ =>
        rw [argument.literal] at argued
        split at argued <;> cases argued
      next name source =>
        split at argued
        next => cases argued
        next missing =>
          split at argued
          next document _ =>
            rw [argument.literal] at argued
            split at argued <;> cases argued
          next =>
            rw [unset] at argued
            split at argued
            next seen found => exact ⟨name, _, source, missing, found, rfl⟩
            next => cases argued

/-- A step value sends nothing just where the call leaves its parameter out. -/
theorem sentTexts?_none {memo memo' : Memo}
    (made : (model.callPlan operation).run memo = (.ok plan, memo')) {parameter : Parameter}
    {value : StepValue} (stepped : model.stepValue operation parameter = .ok value)
    {texts : Option (List String)} (written : plan.texts value arguments = .ok texts) :
    model.sentTexts? operation arguments (operation.defaultOf? parameter) parameter = none ↔
      operation.Unset arguments parameter := by
  constructor
  · intro nothing
    rw [← texts?_stepValue made stepped, texts?, written] at nothing
    change texts = none at nothing
    rw [nothing] at written
    obtain ⟨name, found, source, missing, seen, nullable⟩ := texts_none written
    obtain ⟨form, -, shaped⟩ := bind_eq_ok stepped
    cases shaped
    cases fixed : parameter.constant with
    | some document =>
        simp only [fixed] at source
        cases source
    | none =>
        simp only [fixed] at source
        cases source
        have asked := parameter?_asked made parameter.name
        rw [seen] at asked
        obtain ⟨declared, called, same⟩ := Option.map_eq_some_iff.mp asked.symm
        exact ⟨fixed, missing, declared, called, (congrArg Prod.snd same).trans nullable⟩
  · rintro ⟨free, missing, seen, called, nullable⟩
    have noDefault : seen.defaultValue = none := by
      rw [Parameter.isNullable, Bool.and_eq_true] at nullable
      exact Option.isNone_iff_eq_none.mp nullable.2
    have unvalued : ∀ form,
        parameter.valueIn? (operation.defaultOf? parameter) form arguments = none := by
      intro form
      rw [Parameter.valueIn?, free, Operation.defaultOf?, called, missing, Option.bind_some, noDefault]
      rfl
    rw [Model.sentTexts?]
    cases (model.textForm operation parameter).toOption with
    | none => rfl
    | some form => simp [unvalued]

/-- The first step puts a URI of the caller in the place of the endpoint. -/
def Resets (plan : CallPlan) (arguments : Arguments) : Prop :=
  ∃ value rest text, plan.steps = .resetEndpoint value :: rest ∧
    plan.text? arguments value = some text

theorem evaluate_resets (resets : plan.Resets arguments) (endpoint other : String) :
    plan.evaluate model endpoint arguments = plan.evaluate model other arguments := by
  obtain ⟨value, rest, text, first, set⟩ := resets
  have single : plan.singleText value arguments = .ok (some text) := by
    rw [text?] at set
    cases made : plan.singleText value arguments with
    | error e =>
        rw [made] at set
        cases set
    | ok found =>
        rw [made] at set
        exact congrArg Except.ok set
  rw [evaluate, evaluate, first, takeSteps, takeSteps, takeStep, takeStep, onUri, onUri, single]
  simp only [ok_bind, UriDraft.reset, UriDraft.ofEndpoint]

/-- The path that the steps make of an endpoint. -/
def pathFrom (plan : CallPlan) (endpoint : String) (arguments : Arguments) : String :=
  (plan.steps.foldl (plan.place arguments) (.ofEndpoint endpoint)).base

theorem pathFrom_resets (resets : plan.Resets arguments) (endpoint other : String) :
    plan.pathFrom endpoint arguments = plan.pathFrom other arguments := by
  obtain ⟨value, rest, text, first, set⟩ := resets
  rw [pathFrom, pathFrom, first, List.foldl_cons, List.foldl_cons, place, place, set]
  rfl

end CallPlan

namespace UriDraft

theorem finish_parts {draft : RequestDraft} (base : Unmarked draft.uri.base) (method : HttpMethod) :
    (draft.finish method).path = draft.uri.base ∧
      ((draft.finish method).query? = none ↔ draft.uri.finalQuery = []) ∧
      (draft.finish method).uri =
        (draft.finish method).query?.elim draft.uri.base (draft.uri.base ++ "?" ++ ·) := by
  rw [HttpRequest.path, HttpRequest.query?, RequestDraft.finish]
  cases final : draft.uri.finalQuery with
  | nil =>
      have whole : draft.uri.finish = draft.uri.base := by rw [finish, final]
      simp [whole, Text.cut?_none.mpr base]
  | cons first rest =>
      have cut := Text.cut?_append base (String.intercalate "&" ((first :: rest).map entryText))
      have written : draft.uri.finish = draft.uri.base ++ String.singleton '?' ++
          String.intercalate "&" ((first :: rest).map entryText) := by
        rw [finish, final]
        rfl
      simp only [written, cut, Option.map_some, Option.elim_some, reduceCtorEq, true_and]
      exact rfl

end UriDraft

namespace CallPlan

open Planning UriDraft

variable {model : Model} {operation : Operation} {plan : CallPlan} {arguments : Arguments}

/-- No step follows a link. -/
def Unlinked (plan : CallPlan) (arguments : Arguments) : Prop :=
  ∀ step ∈ plan.steps, plan.stepLink? arguments step = none

theorem merged_unlinked (unlinked : plan.Unlinked arguments) :
    merged (plan.ownEntries arguments) (plan.carried arguments) = plan.ownEntries arguments := by
  have none : plan.steps.filterMap (plan.stepLink? arguments) = [] :=
    List.filterMap_eq_nil_iff.mpr unlinked
  rw [carried, none]
  simp [merged, carriedEntries, lastEach]

/-- Without a link the query carries just what the parameters in the query send, and the rest of the
URI is the path that the path steps make. -/
theorem entries_sent {memo tables : Memo}
    (made : ((model.callPlan operation).run memo).1 = .ok plan) (escaped : Escaped operation)
    {endpoint : String} (endpointFree : plan.Resets arguments ∨ Unmarked endpoint)
    (pathFree : plan.PathUnmarked arguments) (unlinked : plan.Unlinked arguments)
    {request : HttpRequest}
    (evaluated : ((plan.evaluate model endpoint arguments).run tables).1 = .ok request) :
    (request.entries.map decodeEntry = operation.queryParameters.flatMap fun parameter =>
      (model.sentTexts? operation arguments (operation.defaultOf? parameter) parameter).elim []
        parameter.sentEntries) ∧
    (∀ parameter ∈ operation.queryParameters,
      model.sentTexts? operation arguments (operation.defaultOf? parameter) parameter = none ↔
        operation.Unset arguments parameter) ∧
    (request.query? = none ↔ request.entries = []) ∧
    request.path = plan.pathFrom endpoint arguments ∧
    request.uri = request.query?.elim request.path (request.path ++ "?" ++ ·) := by
  have made' : (model.callPlan operation).run memo = (.ok plan, _) := Prod.ext made rfl
  -- An endpoint that is replaced may be any, so one without a mark.
  obtain ⟨free, unmarked, samePath, run⟩ : ∃ free, Unmarked free ∧
      plan.pathFrom endpoint arguments = plan.pathFrom free arguments ∧
      ((plan.evaluate model free arguments).run tables).1 = .ok request := by
    rcases endpointFree with resets | unmarked
    · refine ⟨"", by decide, pathFrom_resets resets endpoint "", ?_⟩
      rw [evaluate_resets resets "" endpoint, evaluated]
    · exact ⟨endpoint, unmarked, rfl, evaluated⟩
  have evaluated' : (plan.evaluate model free arguments).run tables = (.ok request, _) :=
    Prod.ext run rfl
  have ordered := callPlan_ordered made'
  obtain ⟨entries, -⟩ := entries_evaluate ordered escaped unmarked pathFree evaluated'
  obtain ⟨final, finished, uri, base, query⟩ := uri_evaluate ordered unmarked pathFree evaluated'
  rw [merged_unlinked unlinked] at entries query
  obtain ⟨path, noQuery, whole⟩ := finish_parts base plan.method
  rw [← finished] at path noQuery whole
  refine ⟨?_, ?_, ?_, ?_, ?_⟩
  · rw [entries, ownEntries_sent made' escaped]
  · intro parameter member
    -- The step of the parameter was taken, so its texts could be written.
    obtain ⟨before, steps, after, split, stepped, -⟩ := callPlan_entries made'
    obtain ⟨step, inside, queried⟩ := mapM_eq_ok_mem stepped member
    obtain ⟨value, valued, shaped⟩ := bind_eq_ok queried
    cases shaped
    obtain ⟨last, _, taken, -⟩ := run_bind_eq_ok evaluated'
    have inSteps : CallStep.addQuery parameter.wireName value parameter.style parameter.escape ∈
        plan.steps := by
      rw [split]
      exact List.mem_append_left _ (List.mem_append_right _ inside)
    obtain ⟨texts, written⟩ := takeSteps_texts taken inSteps
    exact sentTexts?_none made' valued written
  · rw [noQuery, query, entries]
  · rw [path, uri, samePath]
    rfl
  · rw [path, whole]

/-- A search with a parameter of each kind. -/
def findNotes : Operation :=
  { name := "findNotes"
    method := .get
    path := [.constant "/notes"]
    parameters :=
      [{ name := "text", schema := "Text", location := .query, serializedName := some "q&a" },
        { name := "tags", schema := "Texts", location := .query, style := .pipe },
        { name := "page", schema := "Text", location := .query, defaultValue := some (.string "1") },
        { name := "version", schema := "Text", location := .query, constant := some (.string "2?") },
        { name := "order", schema := "Text", location := .query }] }

def notes : Model :=
  { name := "Notes"
    schemas := [("Text", .primitive .string none), ("Texts", .array "Text")]
    operations := [findNotes] }

def notesPlan : CallPlan :=
  { operation := "findNotes"
    method := .get
    signature :=
      [⟨"text", "q&a", .query, ⟨.primitive .string, true⟩, false, true, none⟩,
        ⟨"tags", "tags", .query, ⟨.collection (.primitive .string), true⟩, false, true, none⟩,
        ⟨"order", "order", .query, ⟨.primitive .string, true⟩, false, true, none⟩,
        ⟨"page", "page", .query, ⟨.primitive .string, false⟩, false, false, some (.string "1")⟩]
    steps :=
      [.appendConstant "/notes",
        .addQuery "q&a" ⟨.parameter "text", .scalar (.primitive .string none)⟩ .none true,
        .addQuery "tags" ⟨.parameter "tags", .list (.primitive .string none)⟩ .pipe true,
        .addQuery "page" ⟨.parameter "page", .scalar (.primitive .string none)⟩ .none true,
        .addQuery "version" ⟨.constant (.string "2?"), .scalar (.primitive .string none)⟩ .none true,
        .addQuery "order" ⟨.parameter "order", .scalar (.primitive .string none)⟩ .none true] }

/-- Texts that hold every mark that separates parts of a query. -/
def notesWanted : Arguments :=
  ⟨[("text", .string "a=b&c"), ("tags", .list [.string "x|y", .string ""])]⟩

def notesRequest : HttpRequest :=
  ⟨.get, "https://notes.test/notes?q%26a=a%3Db%26c&tags=x%7Cy%7C&page=1&version=2%3F", [], none⟩

theorem notes_sent :
    (Escaped findNotes ∧ Unmarked "https://notes.test" ∧ notesPlan.PathUnmarked notesWanted ∧
      notesPlan.Unlinked notesWanted) ∧
      notesRequest.entries.map decodeEntry =
        [("q&a", "a=b&c"), ("tags", "x|y|"), ("page", "1"), ("version", "2?")] ∧
      notesRequest.path = "https://notes.test/notes" := by
  have escaped : ∀ parameter ∈ findNotes.parameters, parameter.location = .query →
      parameter.escape = true := by decide
  have unmarked : Unmarked "https://notes.test" := by decide
  have pathFree : notesPlan.PathUnmarked notesWanted := by
    intro step member
    simp only [notesPlan, List.mem_cons, List.not_mem_nil, or_false] at member
    rcases member with rfl | rfl | rfl | rfl | rfl | rfl
    · exact (by decide : Unmarked "/notes")
    all_goals trivial
  have unlinked : notesPlan.Unlinked notesWanted := by
    intro step member
    simp only [notesPlan, List.mem_cons, List.not_mem_nil, or_false] at member
    rcases member with rfl | rfl | rfl | rfl | rfl | rfl <;> rfl
  have made : ((notes.callPlan findNotes).run {}).1 = .ok notesPlan := rfl
  have evaluated : ((notesPlan.evaluate notes "https://notes.test" notesWanted).run {}).1 =
      .ok notesRequest := rfl
  obtain ⟨entries, -, -, path, -⟩ :=
    entries_sent made escaped (.inr unmarked) pathFree unlinked evaluated
  exact ⟨⟨escaped, unmarked, pathFree, unlinked⟩, entries.trans rfl, path.trans rfl⟩

/-- Two parameters of one name; callers see the one without a default. -/
def listTwice : Operation :=
  { name := "list"
    method := .get
    path := [.constant "/items"]
    parameters :=
      [{ name := "page", schema := "Text", location := .query },
        { name := "page", schema := "Text", location := .query, serializedName := some "size"
          defaultValue := some (.string "25") }] }

def twicePlan : CallPlan :=
  { operation := "list"
    method := .get
    signature :=
      [⟨"page", "page", .query, ⟨.primitive .string, true⟩, false, true, none⟩,
        ⟨"page", "size", .query, ⟨.primitive .string, false⟩, false, false, some (.string "25")⟩]
    steps :=
      [.appendConstant "/items",
        .addQuery "page" ⟨.parameter "page", .scalar (.primitive .string none)⟩ .none true,
        .addQuery "size" ⟨.parameter "page", .scalar (.primitive .string none)⟩ .none true] }

/-- The default of a parameter is not sent where callers see another one of its name. -/
theorem own_default_unsent :
    ((notes.callPlan listTwice).run {}).1 = .ok twicePlan ∧ Escaped listTwice ∧
      Unmarked "https://pager.test" ∧ twicePlan.PathUnmarked ⟨[]⟩ ∧ twicePlan.Unlinked ⟨[]⟩ ∧
      ∃ request, ((twicePlan.evaluate notes "https://pager.test" ⟨[]⟩).run {}).1 = .ok request ∧
        request.entries.map decodeEntry ≠ listTwice.queryParameters.flatMap fun parameter =>
          (notes.sentTexts? listTwice ⟨[]⟩ parameter.defaultValue parameter).elim []
            parameter.sentEntries := by
  have escaped : ∀ parameter ∈ listTwice.parameters, parameter.location = .query →
      parameter.escape = true := by decide
  refine ⟨rfl, escaped, by decide, ?_, ?_, ⟨.get, "https://pager.test/items", [], none⟩, rfl, ?_⟩
  · intro step member
    simp only [twicePlan, List.mem_cons, List.not_mem_nil, or_false] at member
    rcases member with rfl | rfl | rfl
    · exact (by decide : Unmarked "/items")
    all_goals trivial
  · intro step member
    simp only [twicePlan, List.mem_cons, List.not_mem_nil, or_false] at member
    rcases member with rfl | rfl | rfl <;> rfl
  · intro same
    have sent : ([] : List (String × String)) = [("size", "25")] := same
    cases sent

end CallPlan

end ApiContract
