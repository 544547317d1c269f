import ApiContract.Proofs.Call.Entries
import ApiContract.Proofs.Call.Steps
import ApiContract.Proofs.Text.Cut
import ApiContract.Proofs.Url.Origin

/-!
What a call makes of its links. While the path is made the query is still empty, so an absolute link
forgets nothing but earlier links; the entries of the operation come after all links. No question
mark gets into the path unless a piece of the path has one.
-/

namespace ApiContract

/-- The text holds no question mark. -/
def Unmarked (text : String) : Prop := '?' ∉ text.toList

instance (text : String) : Decidable (Unmarked text) := inferInstanceAs (Decidable (¬_))

theorem Unmarked.append {left right : String} (leftFree : Unmarked left)
    (rightFree : Unmarked right) : Unmarked (left ++ right) := by
  rw [Unmarked, String.toList_append, List.mem_append]
  rintro (inLeft | inRight)
  · exact leftFree inLeft
  · exact rightFree inRight

theorem Unmarked.joinPath {path piece : String} (pathFree : Unmarked path)
    (pieceFree : Unmarked piece) : Unmarked (Text.joinPath path piece) := by
  rw [Text.joinPath]
  split
  next =>
    refine pathFree.append ?_
    rw [Unmarked, String.toList_ofList]
    exact fun member => pieceFree (List.mem_of_mem_drop member)
  next => exact pathFree.append pieceFree

theorem Unmarked.dropTrailing {text : String} (free : Unmarked text) (mark : Char) :
    Unmarked (Text.dropTrailing mark text) := by
  rw [Unmarked, Text.dropTrailing, String.toList_ofList, List.mem_reverse]
  exact fun member => free (List.mem_reverse.mp ((List.dropWhile_sublist _).subset member))

namespace UriDraft

/-- The entries of the query of a link. -/
def linkEntries (link : String) : List (String × String) :=
  queryEntries ((Text.cut? '?' link).getD (link, "")).2

/-- The path of a link. -/
def linkPath (link : String) : String := ((Text.cut? '?' link).getD (link, "")).1

theorem follow_eq (uri : UriDraft) (link : String) :
    uri.follow link =
      if Url.isAbsolute link then
        { base := linkPath link, linkQuery := (linkEntries link).foldl addLinkEntry [] }
      else
        { uri with
          base := linkBase uri.base (linkPath link)
          linkQuery := (linkEntries link).foldl addLinkEntry uri.linkQuery } := by
  rw [follow, linkPath, linkEntries]
  generalize (Text.cut? '?' link).getD (link, "") = parts
  obtain ⟨path, query⟩ := parts
  simp only [mergeLinkQuery]

/-- The entries that are carried on after one more link. -/
def carryOn (carried : List (String × String)) (link : String) : List (String × String) :=
  if Url.isAbsolute link then linkEntries link else carried ++ linkEntries link

/-- The entries that links carry which are followed one after the other. -/
def carriedEntries (links : List String) : List (String × String) := links.foldl carryOn []

theorem linkPath_unmarked (link : String) : Unmarked (linkPath link) := by
  rw [linkPath]
  cases cut : Text.cut? '?' link with
  | none => exact Text.cut?_none.mp cut
  | some parts => exact (Text.cut?_some cut).2

theorem linkBase_unmarked {base path : String} (baseFree : Unmarked base)
    (pathFree : Unmarked path) : Unmarked (linkBase base path) := by
  rw [linkBase]
  split
  next =>
    split
    next url parsed => exact Unmarked.append (Url.origin_free parsed) pathFree
    next => exact pathFree
  next =>
    split
    next => exact baseFree
    next =>
      split
      next => exact baseFree.append pathFree
      next => exact (baseFree.append (by decide)).append pathFree

/-- A draft while its path is made, with the entries that links carried so far. -/
structure OnPath (uri : UriDraft) (carried : List (String × String)) : Prop where
  base : Unmarked uri.base
  query : uri.query = []
  linkQuery : uri.linkQuery = lastEach carried

theorem OnPath.follow {uri : UriDraft} {carried : List (String × String)}
    (placed : uri.OnPath carried) (link : String) : (uri.follow link).OnPath (carryOn carried link) := by
  have pathFree := linkPath_unmarked link
  have baseFree := linkBase_unmarked placed.base pathFree
  rw [follow_eq, carryOn]
  generalize linkBase uri.base (linkPath link) = base at baseFree
  generalize linkPath link = path at pathFree
  generalize linkEntries link = entries
  split
  next => exact ⟨pathFree, rfl, rfl⟩
  next =>
    refine ⟨baseFree, placed.query, ?_⟩
    rw [lastEach_append, ← placed.linkQuery]

end UriDraft

namespace CallPlan

open UriDraft

variable {plan : CallPlan} {arguments : Arguments}

/-- The step makes the path: it leads to an endpoint, appends a piece or follows a link. -/
def isPath : CallStep → Bool
  | .addQuery .. | .addHeader .. | .setBody _ => false
  | _ => true

/-- The piece of the path that a step adds holds no question mark. -/
def StepUnmarked (plan : CallPlan) (arguments : Arguments) : CallStep → Prop
  | .appendConstant text => Unmarked text
  | .appendValue value escape =>
      escape = false → ∀ text, plan.text? arguments value = some text → Unmarked text
  | .resetEndpoint value | .appendRaw value =>
      ∀ text, plan.text? arguments value = some text → Unmarked text
  | _ => True

theorem place_path {uri : UriDraft} {carried : List (String × String)} {step : CallStep}
    (placed : uri.OnPath carried) (path : isPath step = true)
    (unmarked : plan.StepUnmarked arguments step) :
    (plan.place arguments uri step).OnPath
      ((plan.stepLink? arguments step).elim carried (carryOn carried)) := by
  obtain ⟨base, query, linkQuery⟩ := placed
  cases step with
  | appendConstant text => exact ⟨base.joinPath unmarked, query, linkQuery⟩
  | followLink value =>
      rw [place, stepLink?]
      cases plan.text? arguments value with
      | none => exact ⟨base, query, linkQuery⟩
      | some link => exact OnPath.follow ⟨base, query, linkQuery⟩ link
  | resetEndpoint value =>
      rw [place]
      cases set : plan.text? arguments value with
      | none => exact ⟨base, query, linkQuery⟩
      | some text => exact ⟨(unmarked text set).dropTrailing '/', query, linkQuery⟩
  | appendRaw value =>
      rw [place]
      cases set : plan.text? arguments value with
      | none => exact ⟨base, query, linkQuery⟩
      | some text => exact ⟨base.joinPath (unmarked text set), query, linkQuery⟩
  | appendValue value escape =>
      rw [place]
      cases set : plan.text? arguments value with
      | none => exact ⟨base, query, linkQuery⟩
      | some text =>
          refine ⟨base.joinPath ?_, query, linkQuery⟩
          cases escape with
          | true => exact Text.Percent.encodePath_free text (by decide)
          | false => exact unmarked rfl text set
  | _ => cases path

theorem place_paths {uri : UriDraft} {carried : List (String × String)} {steps : List CallStep}
    (placed : uri.OnPath carried) (path : ∀ step ∈ steps, isPath step = true)
    (unmarked : ∀ step ∈ steps, plan.StepUnmarked arguments step) :
    (steps.foldl (plan.place arguments) uri).OnPath
      ((steps.filterMap (plan.stepLink? arguments)).foldl carryOn carried) := by
  induction steps generalizing uri carried with
  | nil => exact placed
  | cons step rest ih =>
      have first := place_path placed (path step List.mem_cons_self)
        (unmarked step List.mem_cons_self)
      have all := ih first (fun other member => path other (List.mem_cons_of_mem _ member))
        fun other member => unmarked other (List.mem_cons_of_mem _ member)
      rw [List.foldl_cons, List.filterMap_cons]
      cases linked : plan.stepLink? arguments step with
      | none =>
          rw [linked] at all
          exact all
      | some link =>
          rw [linked] at all
          exact all

/-- Behind the path only entries are added. -/
theorem place_entries {uri : UriDraft} {steps : List CallStep}
    (behind : ∀ step ∈ steps, isPath step = false) :
    steps.foldl (plan.place arguments) uri =
      uri.addQuery (steps.flatMap (plan.stepEntries arguments)) := by
  induction steps generalizing uri with
  | nil => simp [addQuery]
  | cons step rest ih =>
      -- Behind the path a step adds its entries, or leaves the URI as it is.
      have placed : plan.place arguments uri step =
          uri.addQuery (plan.stepEntries arguments step) := by
        have kind := behind step List.mem_cons_self
        cases step with
        | addQuery name value style escape =>
            rw [place, stepEntries]
            cases plan.texts? arguments value with
            | none => simp [addQuery]
            | some texts => rfl
        | addHeader name value style => simp [place, stepEntries, addQuery]
        | setBody body => simp [place, stepEntries, addQuery]
        | _ => cases kind
      rw [List.foldl_cons, placed, ih fun other member => behind other (List.mem_cons_of_mem _ member),
        List.flatMap_cons]
      simp [addQuery]

end CallPlan

end ApiContract
