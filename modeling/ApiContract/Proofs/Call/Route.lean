import ApiContract.Proofs.Call.Completeness

/-!
The path of a call as an instance of its route template. Both are joined from the pieces of the
route, and of two slashes that would meet one is dropped. No value begins or ends with a slash, so
which slashes are dropped depends on the fixed texts alone, and the path is the template with the
values in the places of the names.
-/

namespace ApiContract

namespace Text

/-- The last character of two joined texts is that of the second, unless it is empty. -/
theorem endsWith_append (mark : Char) (path piece : String) :
    endsWith mark (path ++ piece) =
      if piece = "" then endsWith mark path else endsWith mark piece := by
  rw [endsWith, endsWith, endsWith, String.toList_append, List.getLast?_append]
  by_cases empty : piece = ""
  · simp [empty]
  · have last : piece.toList.getLast? ≠ none := by simpa using empty
    obtain ⟨c, found⟩ := Option.ne_none_iff_exists'.mp last
    simp [found, empty]

theorem endsWith_dropTrailing (mark : Char) (text : String) :
    endsWith mark (dropTrailing mark text) = false := by
  rw [endsWith, dropTrailing, String.toList_ofList, List.getLast?_reverse, beq_eq_false_iff_ne]
  intro last
  have other := List.head?_dropWhile_not (· == mark) text.toList.reverse
  rw [last] at other
  simp at other

theorem dropLeading_append (mark : Char) (first rest : String) :
    dropLeading mark (first ++ rest) =
      if dropLeading mark first = "" then dropLeading mark rest
      else dropLeading mark first ++ rest := by
  have empty : dropLeading mark first = "" ↔ first.toList.dropWhile (· == mark) = [] := by
    rw [dropLeading, ← String.toList_inj, String.toList_ofList]
    rfl
  apply String.toList_injective
  by_cases all : first.toList.dropWhile (· == mark) = []
  · rw [if_pos (empty.mpr all), dropLeading, dropLeading, String.toList_ofList, String.toList_ofList,
      String.toList_append, List.dropWhile_append, all]
    rfl
  · rw [if_neg fun gone => all (empty.mp gone), dropLeading, dropLeading, String.toList_ofList,
      String.toList_append, String.toList_append, String.toList_ofList, List.dropWhile_append,
      if_neg (by simpa using all)]

theorem dropLeading_eq_self {mark : Char} {text : String} (other : startsWith mark text = false) :
    dropLeading mark text = text := by
  rw [startsWith] at other
  rw [dropLeading]
  cases chars : text.toList with
  | nil => rw [String.toList_eq_nil_iff.mp chars]; rfl
  | cons c rest =>
      have different : (c == mark) = false := by simpa [chars] using other
      rw [List.dropWhile_cons, different, if_neg (by simp), ← chars, String.ofList_toList]

theorem length_split (mark : Char) (text : String) :
    (split mark text).length = text.toList.count mark + 1 := by
  rw [split, List.length_map]
  induction text.toList with
  | nil => rfl
  | cons c rest ih =>
      rw [splitChars, List.count_cons]
      by_cases same : c = mark
      · simp [same, ih]
      · rw [if_neg same]
        split
        next none => exact absurd none (splitChars_ne_nil rest)
        next part parts cut =>
          rw [cut] at ih
          simpa [same] using ih

namespace Percent

theorem isUnreserved_plain : Plain isUnreserved := fun c kept =>
  isQuerySafe_plain c (by simp [isQuerySafe, kept])

theorem decode_encodePath (text : String) : decode (encodePath text) = text :=
  decode_encode isUnreserved_plain text

theorem encodePath_ne_empty {text : String} (some : text ≠ "") : encodePath text ≠ "" := by
  intro empty
  have back := decode_encodePath text
  rw [empty] at back
  exact some back.symm

/-- The marks that separate the parts of a URI from a path on. -/
def pathMarks : List Char := ['/', '?', '#', '&']

theorem encodePath_unmarked (text : String) {mark : Char} (separates : mark ∈ pathMarks) :
    mark ∉ (encodePath text).toList :=
  encode_without rfl (by decide) (by decide) text separates

end Percent

end Text

/-! A route is made of fixed texts and of places for values. -/

inductive RoutePart where
  | fixed (text : String)
  | place (value : StepValue) (escape : Bool)

def CallStep.routePart? : CallStep → Option RoutePart
  | appendConstant text => some (.fixed text)
  | appendValue value escape => some (.place value escape)
  | appendRaw value => some (.place value false)
  | _ => none

namespace RoutePart

/-- The text of a part, with a text for each value. -/
def fill (texts : StepValue → Bool → String) : RoutePart → String
  | fixed text => text
  | place value escape => texts value escape

/-- The text of a route. -/
def fillAll (texts : StepValue → Bool → String) (parts : List RoutePart) : String :=
  String.join (parts.map (fill texts))

/-- A text behind another: where that ends with a slash, its own first slash is dropped. -/
def behind (slash : Bool) (text : String) : String :=
  if slash && Text.startsWith '/' text then String.ofList (text.toList.drop 1) else text

/-- The parts of a route with its doubled slashes collapsed; `slash` says whether what stands before
ends with one. -/
def collapse : Bool → List RoutePart → List RoutePart
  | _, [] => []
  | slash, fixed text :: rest =>
      let kept := behind slash text
      fixed kept :: collapse (if kept = "" then slash else Text.endsWith '/' kept) rest
  | _, place value escape :: rest => place value escape :: collapse false rest

/-- The parts of a route without its leading slashes. -/
def withoutLeading : List RoutePart → List RoutePart
  | [] => []
  | fixed text :: rest =>
      let kept := Text.dropLeading '/' text
      if kept = "" then withoutLeading rest else fixed kept :: rest
  | place value escape :: rest => place value escape :: rest

end RoutePart

/-- The route of a plan: where slashes meet and where they lead is settled by its fixed texts. -/
def CallPlan.route (plan : CallPlan) : List RoutePart :=
  RoutePart.withoutLeading (RoutePart.collapse false (plan.steps.filterMap CallStep.routePart?))

/-- A text that has an end of its own on both sides: it is not empty, and no slash stands there. -/
structure Solid (text : String) : Prop where
  some : text ≠ ""
  first : Text.startsWith '/' text = false
  last : Text.endsWith '/' text = false

namespace RoutePart

variable {texts : StepValue → Bool → String} {parts : List RoutePart}

/-- All values of the parts have solid texts. -/
def Filled (texts : StepValue → Bool → String) (parts : List RoutePart) : Prop :=
  ∀ value escape, place value escape ∈ parts → Solid (texts value escape)

theorem Filled.tail {part : RoutePart} (filled : Filled texts (part :: parts)) : Filled texts parts :=
  fun value escape member => filled value escape (List.mem_cons_of_mem _ member)

theorem fillAll_cons (part : RoutePart) (parts : List RoutePart) :
    fillAll texts (part :: parts) = part.fill texts ++ fillAll texts parts := by
  rw [fillAll, List.map_cons, String.join_cons]
  rfl

theorem joinPath_eq (path piece : String) :
    Text.joinPath path piece = path ++ behind (Text.endsWith '/' path) piece := by
  rw [Text.joinPath, behind]
  split <;> rfl

/-- Joining the pieces one by one drops the slashes that collapsing drops. -/
theorem foldl_joinPath (filled : Filled texts parts) (path : String) :
    (parts.map (fill texts)).foldl Text.joinPath path =
      path ++ fillAll texts (collapse (Text.endsWith '/' path) parts) := by
  induction parts generalizing path with
  | nil => simp [collapse, fillAll]
  | cons part rest ih =>
      rw [List.map_cons, List.foldl_cons, ih filled.tail, joinPath_eq, Text.endsWith_append,
        String.append_assoc]
      cases part with
      | fixed text => rw [collapse, fillAll_cons]; rfl
      | place value escape =>
          have solid := filled value escape List.mem_cons_self
          have whole : behind (Text.endsWith '/' path) (texts value escape) = texts value escape := by
            rw [behind, solid.first, Bool.and_false, if_neg (by simp)]
          rw [collapse, fillAll_cons, fill, whole, if_neg solid.some, solid.last]

theorem dropLeading_fillAll (filled : Filled texts parts) :
    Text.dropLeading '/' (fillAll texts parts) = fillAll texts (withoutLeading parts) := by
  induction parts with
  | nil => rfl
  | cons part rest ih =>
      rw [fillAll_cons, Text.dropLeading_append, ih filled.tail]
      cases part with
      | fixed text =>
          rw [withoutLeading]
          by_cases none : Text.dropLeading '/' text = ""
          · simp [fill, none]
          · simp [fill, none, fillAll_cons]
      | place value escape =>
          have solid := filled value escape List.mem_cons_self
          rw [withoutLeading, fillAll_cons, fill, Text.dropLeading_eq_self solid.first,
            if_neg solid.some]

theorem mem_collapse {slash : Bool} {value : StepValue} {escape : Bool}
    (member : place value escape ∈ collapse slash parts) : place value escape ∈ parts := by
  induction parts generalizing slash with
  | nil => cases member
  | cons part rest ih =>
      cases part with
      | fixed text =>
          rw [collapse] at member
          rcases List.mem_cons.mp member with same | later
          · cases same
          · exact List.mem_cons_of_mem _ (ih later)
      | place other otherEscape =>
          rw [collapse] at member
          rcases List.mem_cons.mp member with same | later
          · exact same ▸ List.mem_cons_self
          · exact List.mem_cons_of_mem _ (ih later)

theorem Filled.collapse (filled : Filled texts parts) (slash : Bool) :
    Filled texts (collapse slash parts) :=
  fun value escape member => filled value escape (mem_collapse member)

end RoutePart

namespace CallPlan

open Planning UriDraft RoutePart

variable {model : Model} {operation : Operation} {plan : CallPlan} {arguments : Arguments}

/-- The text that a value is sent as in a path. -/
def rendered (plan : CallPlan) (arguments : Arguments) (value : StepValue) (escape : Bool) : String :=
  let text := (plan.text? arguments value).getD ""
  if escape then Text.Percent.encodePath text else text

/-- What the path is appended to: the endpoint, or the URI that a first step puts in its place. -/
def base (plan : CallPlan) (endpoint : String) (arguments : Arguments) : String :=
  Text.dropTrailing '/'
    (match plan.steps with
    | .resetEndpoint value :: _ => (plan.text? arguments value).getD endpoint
    | _ => endpoint)

/-- The value of a step of the path has a text, and one that is written as it is neither begins nor
ends with a slash. -/
def Renders (plan : CallPlan) (arguments : Arguments) : CallStep → Prop
  | .appendValue value true => ∃ text, plan.text? arguments value = some text ∧ text ≠ ""
  | .appendValue value false | .appendRaw value =>
      ∃ text, plan.text? arguments value = some text ∧ Solid text
  | _ => True

/-! Where the steps of the route come from. -/

theorem routeSteps_eq_ok {steps : List CallStep} (made : model.routeSteps operation = .ok steps) :
    (operation.path = [] ∧ steps = []) ∨ ∃ first rest head tail, operation.path = first :: rest ∧
      steps = head :: tail ∧ model.routeStep operation true first = .ok head ∧
      rest.mapM (model.routeStep operation false) = .ok tail := by
  rw [Model.routeSteps] at made
  split at made
  next none =>
    cases made
    exact .inl ⟨none, rfl⟩
  next first rest some =>
    obtain ⟨head, headMade, remaining⟩ := bind_eq_ok made
    obtain ⟨tail, tailMade, same⟩ := bind_eq_ok remaining
    cases same
    exact .inr ⟨first, rest, head, tail, some, rfl, headMade, tailMade⟩

/-- The step does not belong to the route. -/
def isAside : CallStep → Bool
  | .resetEndpoint _ | .appendConstant _ | .appendValue .. | .appendRaw _ => false
  | _ => true

theorem routeStep_reset {segment : RouteSegment} {step : CallStep}
    (made : model.routeStep operation false segment = .ok step) (value : StepValue) :
    step ≠ .resetEndpoint value := by
  rintro rfl
  cases segment with
  | constant text => cases made
  | parameter name raw =>
      obtain ⟨parameter, -, rest⟩ := bind_eq_ok made
      obtain ⟨own, -, rest⟩ := bind_eq_ok rest
      obtain ⟨schema, -, rest⟩ := bind_eq_ok rest
      rw [Bool.false_and, if_neg (by simp)] at rest
      split at rest
      next => cases rest
      next => split at rest <;> cases rest

theorem bodySteps_aside {steps : List CallStep} {memo memo' : Memo}
    (made : (model.bodySteps operation).run memo = (.ok steps, memo')) :
    ∀ step ∈ steps, isAside step = true := by
  intro step member
  rcases bodySteps_eq_ok made with ⟨-, none⟩ | ⟨body, single, -⟩
  · rw [none] at member
    cases member
  · rw [single, List.mem_singleton] at member
    rw [member]
    rfl

theorem callPlan_route {memo memo' : Memo}
    (made : (model.callPlan operation).run memo = (.ok plan, memo')) :
    ∃ route others, plan.steps = route ++ others ∧ model.routeSteps operation = .ok route ∧
      ∀ step ∈ others, isAside step = true := by
  obtain ⟨before, body, _, _, textMade, bodyMade, split, -⟩ := callPlan_parts made
  obtain ⟨route, links, entries, headers, routeMade, linksMade, entriesMade, headersMade, rfl⟩ :=
    textSteps_eq_ok textMade
  refine ⟨route, links ++ (entries ++ (headers ++ body)), by simp [split], routeMade, ?_⟩
  intro step member
  simp only [List.mem_append] at member
  rcases member with inLinks | inEntries | inHeaders | inBody
  · obtain ⟨parameter, -, stepMade⟩ := mem_of_mapM_eq_ok linksMade inLinks
    obtain ⟨value, -, same⟩ := map_eq_ok stepMade
    rw [← same]
    rfl
  · obtain ⟨parameter, -, stepMade⟩ := mem_of_mapM_eq_ok entriesMade inEntries
    obtain ⟨value, same⟩ := queryStep_entry stepMade
    rw [same]
    rfl
  · obtain ⟨parameter, -, stepMade⟩ := mem_of_mapM_eq_ok headersMade inHeaders
    obtain ⟨name, value, style, same⟩ := headerStep_header stepMade
    rw [same]
    rfl
  · exact bodySteps_aside bodyMade step inBody

/-- Only the first step may put another URI in the place of the endpoint. -/
theorem resets_first {memo memo' : Memo}
    (made : (model.callPlan operation).run memo = (.ok plan, memo')) {first : CallStep}
    {rest : List CallStep} (steps : plan.steps = first :: rest) (value : StepValue) :
    .resetEndpoint value ∉ rest := by
  intro member
  obtain ⟨route, others, split, routeMade, aside⟩ := callPlan_route made
  have apart : ∀ step ∈ others, step ≠ .resetEndpoint value := by
    rintro step inside rfl
    cases aside _ inside
  rcases routeSteps_eq_ok routeMade with ⟨-, none⟩ | ⟨_, _, head, tail, -, shape, -, tailMade⟩
  · rw [none, List.nil_append, steps] at split
    exact apart _ (split ▸ List.mem_cons_of_mem _ member) rfl
  · rw [shape, steps, List.cons_append, List.cons.injEq] at split
    rw [split.2] at member
    rcases List.mem_append.mp member with inTail | inOthers
    · obtain ⟨segment, -, stepMade⟩ := mem_of_mapM_eq_ok tailMade inTail
      exact routeStep_reset stepMade value rfl
    · exact apart _ inOthers rfl

end CallPlan

/-- The parameters that the route of an operation names. -/
def Operation.pathParameters (operation : Operation) : List Parameter :=
  operation.path.filterMap fun
    | .parameter name _ => operation.parameter? name
    | .constant _ => none

namespace CallPlan

open Planning UriDraft RoutePart

variable {model : Model} {operation : Operation} {plan : CallPlan} {arguments : Arguments}

/-- Without constants every value of the route is that of a parameter. -/
theorem route_source {memo memo' : Memo}
    (made : (model.callPlan operation).run memo = (.ok plan, memo'))
    (free : ∀ parameter ∈ operation.pathParameters, parameter.constant = none)
    {value : StepValue} {escape : Bool}
    (member : .place value escape ∈ plan.steps.filterMap CallStep.routePart?) :
    ∃ name, value.source = .parameter name := by
  obtain ⟨step, inside, part⟩ := List.mem_filterMap.mp member
  have carries : step.value? = some value ∧ isAside step = false := by
    cases step <;> cases part <;> exact ⟨rfl, rfl⟩
  obtain ⟨route, others, split, routeMade, aside⟩ := callPlan_route made
  have onRoute : step ∈ route := by
    rw [split] at inside
    refine (List.mem_append.mp inside).resolve_right fun inOthers => ?_
    rw [aside step inOthers] at carries
    cases carries.2
  obtain ⟨isFirst, segment, named, stepMade⟩ :
      ∃ isFirst, ∃ segment ∈ operation.path, model.routeStep operation isFirst segment = .ok step := by
    rcases routeSteps_eq_ok routeMade with
      ⟨-, none⟩ | ⟨first, rest, head, tail, path, shape, headMade, tailMade⟩
    · rw [none] at onRoute
      cases onRoute
    · rw [shape] at onRoute
      rw [path]
      rcases List.mem_cons.mp onRoute with same | inTail
      · exact ⟨true, first, List.mem_cons_self, same ▸ headMade⟩
      · obtain ⟨segment, inRest, stepMade⟩ := mem_of_mapM_eq_ok tailMade inTail
        exact ⟨false, segment, List.mem_cons_of_mem _ inRest, stepMade⟩
  obtain ⟨name, raw, parameter, same, found, stepped⟩ := routeStep_names stepMade carries.1
  have known : operation.parameter? name = some parameter := by
    rw [Model.declared] at found
    split at found
    next other known => exact (Except.ok.inj found) ▸ known
    next => cases found
  have listed : parameter ∈ operation.pathParameters :=
    List.mem_filterMap.mpr ⟨segment, named, by rw [same]; exact known⟩
  obtain ⟨form, -, shaped⟩ := bind_eq_ok stepped
  cases shaped
  exact ⟨parameter.name, by simp only [free parameter listed]⟩

/-! The two fillings of a route, with the names in braces and with the texts that are sent. -/

theorem template_solid (name : String) : Solid (ArgumentSource.template (.parameter name)) := by
  have chars : (ArgumentSource.template (.parameter name)).toList =
      '\x7b' :: (name.toList ++ ['\x7d']) := by
    simp [ArgumentSource.template]
  refine ⟨?_, ?_, ?_⟩
  · intro empty
    rw [empty] at chars
    cases chars
  · rw [Text.startsWith, chars]
    rfl
  · rw [Text.endsWith, chars, ← List.cons_append, List.getLast?_concat]
    rfl

theorem encodePath_solid {text : String} (some : text ≠ "") : Solid (Text.Percent.encodePath text) := by
  have free := @Text.Percent.encodePath_unmarked text '/' (by decide)
  refine ⟨Text.Percent.encodePath_ne_empty some, ?_, ?_⟩
  · rw [Text.startsWith, beq_eq_false_iff_ne]
    exact fun first => free (List.mem_of_head? first)
  · rw [Text.endsWith, beq_eq_false_iff_ne]
    exact fun last => free (List.mem_of_getLast? last)

theorem rendered_filled {steps : List CallStep}
    (renders : ∀ step ∈ steps, plan.Renders arguments step) :
    Filled (plan.rendered arguments) (steps.filterMap CallStep.routePart?) := by
  intro value escape member
  obtain ⟨step, inside, part⟩ := List.mem_filterMap.mp member
  have here := renders step inside
  cases step with
  | appendValue own escape' =>
      cases part
      cases escape with
      | true =>
          obtain ⟨text, set, some⟩ := here
          simp only [rendered, set, if_true, Option.getD_some]
          exact encodePath_solid some
      | false =>
          obtain ⟨text, set, solid⟩ := here
          simpa [rendered, set] using solid
  | appendRaw own =>
      cases part
      obtain ⟨text, set, solid⟩ := here
      simpa [rendered, set] using solid
  | _ => cases part

theorem routeTemplate_eq {memo memo' : Memo}
    (made : (model.callPlan operation).run memo = (.ok plan, memo'))
    (free : ∀ parameter ∈ operation.pathParameters, parameter.constant = none) :
    plan.routeTemplate = fillAll (fun value _ => value.source.template) plan.route := by
  have filled : Filled (fun value _ => value.source.template)
      (plan.steps.filterMap CallStep.routePart?) := by
    intro value escape member
    obtain ⟨name, source⟩ := route_source made free member
    simp only [source]
    exact template_solid name
  have pieces : CallStep.routePiece? = fun step =>
      step.routePart?.map (fill fun value _ => value.source.template) := by
    funext step
    cases step <;> rfl
  rw [routeTemplate, pieces, ← List.map_filterMap, foldl_joinPath filled, String.empty_append, route,
    ← dropLeading_fillAll (filled.collapse false)]
  rfl

/-- What a step behind the first does to the path. -/
theorem place_base {uri : UriDraft} {step : CallStep}
    (unlinked : plan.stepLink? arguments step = none)
    (unreset : ∀ value, step ≠ .resetEndpoint value) (renders : plan.Renders arguments step) :
    (plan.place arguments uri step).base =
      (step.routePart?.map (fill (plan.rendered arguments))).elim uri.base
        (Text.joinPath uri.base) := by
  cases step with
  | resetEndpoint value => exact absurd rfl (unreset value)
  | appendConstant text => rfl
  | appendValue value escape =>
      obtain ⟨text, set⟩ : ∃ text, plan.text? arguments value = some text := by
        cases escape <;> exact renders.imp fun _ holds => holds.1
      simp only [place, set, Option.elim_some, CallStep.routePart?, Option.map_some, fill, rendered,
        Option.getD_some]
      rfl
  | appendRaw value =>
      obtain ⟨text, set, -⟩ := renders
      simp only [place, set, Option.elim_some, CallStep.routePart?, Option.map_some, fill, rendered,
        Option.getD_some]
      rfl
  | followLink value =>
      have unset : plan.text? arguments value = none := unlinked
      rw [place, unset]
      rfl
  | addQuery name value style escape =>
      rw [place]
      cases plan.texts? arguments value <;> rfl
  | addHeader name value style => rfl
  | setBody body => rfl

theorem place_bases {uri : UriDraft} {steps : List CallStep}
    (unlinked : ∀ step ∈ steps, plan.stepLink? arguments step = none)
    (unreset : ∀ value, .resetEndpoint value ∉ steps)
    (renders : ∀ step ∈ steps, plan.Renders arguments step) :
    (steps.foldl (plan.place arguments) uri).base =
      ((steps.filterMap CallStep.routePart?).map (fill (plan.rendered arguments))).foldl
        Text.joinPath uri.base := by
  induction steps generalizing uri with
  | nil => rfl
  | cons step rest ih =>
      have first := @place_base plan arguments uri step (unlinked step List.mem_cons_self)
        (fun value same => unreset value (same ▸ List.mem_cons_self))
        (renders step List.mem_cons_self)
      rw [List.foldl_cons, ih (fun other member => unlinked other (List.mem_cons_of_mem _ member))
        (fun value member => unreset value (List.mem_cons_of_mem _ member))
        fun other member => renders other (List.mem_cons_of_mem _ member), first,
        List.filterMap_cons]
      cases step.routePart? <;> rfl

theorem pathFrom_eq {memo memo' : Memo}
    (made : (model.callPlan operation).run memo = (.ok plan, memo'))
    (unlinked : plan.Unlinked arguments) (renders : ∀ step ∈ plan.steps, plan.Renders arguments step)
    (endpoint : String) :
    plan.pathFrom endpoint arguments = plan.base endpoint arguments ++
      fillAll (plan.rendered arguments)
        (collapse false (plan.steps.filterMap CallStep.routePart?)) := by
  have filled := rendered_filled renders
  have closed : Text.endsWith '/' (plan.base endpoint arguments) = false :=
    Text.endsWith_dropTrailing '/' _
  have joined := foldl_joinPath filled (plan.base endpoint arguments)
  rw [closed] at joined
  rw [← joined, pathFrom]
  cases steps : plan.steps with
  | nil => simp [UriDraft.ofEndpoint, base, steps]
  | cons first rest =>
      have links : ∀ step ∈ first :: rest, plan.stepLink? arguments step = none := steps ▸ unlinked
      rw [steps] at renders
      have unreset := resets_first made steps
      -- The first step may lead to another base; the others all append to it.
      by_cases reset : ∃ value, first = .resetEndpoint value
      · obtain ⟨value, rfl⟩ := reset
        rw [List.foldl_cons, place_bases (fun step member => links step (List.mem_cons_of_mem _ member))
          unreset fun step member => renders step (List.mem_cons_of_mem _ member)]
        congr 1
        simp only [base, steps, place]
        cases plan.text? arguments value <;> rfl
      · have apart : ∀ value, .resetEndpoint value ∉ first :: rest := by
          intro value member
          rcases List.mem_cons.mp member with same | later
          · exact reset ⟨value, same.symm⟩
          · exact unreset value later
        rw [place_bases links apart renders]
        congr 1
        rw [base, steps]
        split
        next value _ same => exact absurd (List.cons.inj same).1 fun other => reset ⟨value, other⟩
        next => rfl

/-! The path of a request. -/

/-- Without links the path of a request is the one that its path steps make. -/
theorem path_evaluate {tables : Memo} (ordered : Ordered operation plan.steps) {endpoint : String}
    (endpointFree : plan.Resets arguments ∨ Unmarked endpoint)
    (pathFree : plan.PathUnmarked arguments) {request : HttpRequest}
    (evaluated : ((plan.evaluate model endpoint arguments).run tables).1 = .ok request) :
    request.path = plan.pathFrom endpoint arguments := by
  -- An endpoint that is replaced may be any, so one without a mark.
  obtain ⟨free, unmarked, samePath, run⟩ : ∃ free, Unmarked free ∧
      plan.pathFrom endpoint arguments = plan.pathFrom free arguments ∧
      ((plan.evaluate model free arguments).run tables).1 = .ok request := by
    rcases endpointFree with resets | unmarked
    · refine ⟨"", by decide, pathFrom_resets resets endpoint "", ?_⟩
      rw [evaluate_resets resets "" endpoint, evaluated]
    · exact ⟨endpoint, unmarked, rfl, evaluated⟩
  obtain ⟨final, finished, uri, base, -⟩ :=
    uri_evaluate ordered unmarked pathFree (Prod.ext run rfl)
  rw [finished, (finish_parts base plan.method).1, uri, samePath]
  rfl

/-- The text of an escaped value adds no slash to a route. -/
theorem count_slashes (parts : List RoutePart) :
    (fillAll (plan.rendered arguments) parts).toList.count '/' =
      (fillAll (fun value escape => if escape then "" else plan.rendered arguments value escape)
        parts).toList.count '/' := by
  induction parts with
  | nil => rfl
  | cons part rest ih =>
      rw [fillAll_cons, fillAll_cons, String.toList_append, String.toList_append, List.count_append,
        List.count_append, ih]
      cases part with
      | fixed text => rfl
      | place value escape =>
          cases escape with
          | false => rfl
          | true =>
              have none := List.count_eq_zero.mpr
                (@Text.Percent.encodePath_unmarked ((plan.text? arguments value).getD "") '/'
                  (by decide))
              simp only [fill, rendered, if_true, none]
              rfl

/-- The path of a request is its base followed by the route, and the route is the template with the
texts of the values in the places of their names. An escaped text holds no mark that separates parts
of a URI, and stands for the argument's text: the segments of the path are those that are there
without it. -/
theorem path_instantiates {memo tables : Memo}
    (made : ((model.callPlan operation).run memo).1 = .ok plan)
    (free : ∀ parameter ∈ operation.pathParameters, parameter.constant = none)
    (unlinked : plan.Unlinked arguments) {endpoint : String}
    (endpointFree : plan.Resets arguments ∨ Unmarked endpoint)
    (pathFree : plan.PathUnmarked arguments)
    (renders : ∀ step ∈ plan.steps, plan.Renders arguments step) {request : HttpRequest}
    (evaluated : ((plan.evaluate model endpoint arguments).run tables).1 = .ok request) :
    plan.routeTemplate = fillAll (fun value _ => value.source.template) plan.route ∧
    (∃ route, request.path = plan.base endpoint arguments ++ route ∧
      Text.dropLeading '/' route = fillAll (plan.rendered arguments) plan.route) ∧
    (∀ value text, plan.text? arguments value = some text →
      Text.Percent.decode (plan.rendered arguments value true) = text ∧
      ∀ mark ∈ Text.Percent.pathMarks, mark ∉ (plan.rendered arguments value true).toList) ∧
    (Text.split '/' (fillAll (plan.rendered arguments) plan.route)).length =
      (Text.split '/' (fillAll
        (fun value escape => if escape then "" else plan.rendered arguments value escape)
        plan.route)).length := by
  have made' : (model.callPlan operation).run memo = (.ok plan, _) := Prod.ext made rfl
  have path := path_evaluate (callPlan_ordered made') endpointFree pathFree evaluated
  rw [pathFrom_eq made' unlinked renders] at path
  refine ⟨routeTemplate_eq made' free, ⟨_, path, ?_⟩, fun value text set => ⟨?_, ?_⟩, ?_⟩
  · exact dropLeading_fillAll ((rendered_filled renders).collapse false)
  · simp only [rendered, set, Option.getD_some, if_true]
    exact Text.Percent.decode_encodePath text
  · intro mark separates
    exact Text.Percent.encodePath_unmarked _ separates
  · rw [Text.length_split, Text.length_split, count_slashes]

/-- A file of a user, whose path may have folders. -/
def readFile : Operation :=
  { name := "readFile"
    method := .get
    path := [.constant "/users/", .parameter "user" false, .constant "/files/", .parameter "file" true]
    parameters :=
      [{ name := "user", schema := "Text", location := .path, required := true },
        { name := "file", schema := "Text", location := .path, required := true },
        { name := "line", schema := "Text", location := .query }] }

def filePlan : CallPlan :=
  { operation := "readFile"
    method := .get
    signature :=
      [⟨"user", "user", .path, ⟨.primitive .string, false⟩, true, false, none⟩,
        ⟨"file", "file", .path, ⟨.primitive .string, false⟩, true, false, none⟩,
        ⟨"line", "line", .query, ⟨.primitive .string, true⟩, false, true, none⟩]
    steps :=
      [.appendConstant "/users/",
        .appendValue ⟨.parameter "user", .scalar (.primitive .string none)⟩ true,
        .appendConstant "/files/",
        .appendRaw ⟨.parameter "file", .scalar (.primitive .string none)⟩,
        .addQuery "line" ⟨.parameter "line", .scalar (.primitive .string none)⟩ .none true] }

def fileWanted : Arguments :=
  ⟨[("user", .string "a/b&c"), ("file", .string "notes/may.txt"), ("line", .string "7/8?")]⟩

def fileRequest : HttpRequest :=
  ⟨.get, "https://files.test/users/a%2Fb%26c/files/notes/may.txt?line=7%2F8%3F", [], none⟩

/-- The name of the user is one segment, whatever marks it holds. -/
theorem file_instantiates :
    ((∀ parameter ∈ readFile.pathParameters, parameter.constant = none) ∧
      filePlan.Unlinked fileWanted ∧ Unmarked "https://files.test/" ∧
      filePlan.PathUnmarked fileWanted ∧ ∀ step ∈ filePlan.steps, filePlan.Renders fileWanted step) ∧
    "users/\x7buser\x7d/files/\x7bfile\x7d" =
      fillAll (fun value _ => value.source.template) filePlan.route ∧
    ∃ route, fileRequest.path = "https://files.test" ++ route ∧
      Text.dropLeading '/' route = "users/a%2Fb%26c/files/notes/may.txt" := by
  have free : ∀ parameter ∈ readFile.pathParameters, parameter.constant = none := by decide
  have unmarked : Unmarked "https://files.test/" := by decide
  have file : filePlan.text? fileWanted
      ⟨.parameter "file", .scalar (.primitive .string none)⟩ = some "notes/may.txt" := rfl
  have user : filePlan.text? fileWanted
      ⟨.parameter "user", .scalar (.primitive .string none)⟩ = some "a/b&c" := rfl
  have unlinked : filePlan.Unlinked fileWanted := by
    intro step member
    simp only [filePlan, List.mem_cons, List.not_mem_nil, or_false] at member
    rcases member with rfl | rfl | rfl | rfl | rfl <;> rfl
  have pathFree : filePlan.PathUnmarked fileWanted := by
    intro step member
    simp only [filePlan, List.mem_cons, List.not_mem_nil, or_false] at member
    rcases member with rfl | rfl | rfl | rfl | rfl
    · exact (by decide : Unmarked "/users/")
    · rintro ⟨⟩
    · exact (by decide : Unmarked "/files/")
    · rintro text set
      rw [file] at set
      cases set
      decide
    · trivial
  have renders : ∀ step ∈ filePlan.steps, filePlan.Renders fileWanted step := by
    intro step member
    simp only [filePlan, List.mem_cons, List.not_mem_nil, or_false] at member
    rcases member with rfl | rfl | rfl | rfl | rfl
    · trivial
    · exact ⟨_, user, by decide⟩
    · trivial
    · exact ⟨_, file, by decide, by decide, by decide⟩
    · trivial
  have made : ((notes.callPlan readFile).run {}).1 = .ok filePlan := rfl
  have evaluated : ((filePlan.evaluate notes "https://files.test/" fileWanted).run {}).1 =
      .ok fileRequest := rfl
  obtain ⟨template, ⟨route, path, filled⟩, -, -⟩ :=
    path_instantiates made free unlinked (.inr unmarked) pathFree renders evaluated
  exact ⟨⟨free, unlinked, unmarked, pathFree, renders⟩, template, route, path, filled.trans rfl⟩

end CallPlan

end ApiContract
