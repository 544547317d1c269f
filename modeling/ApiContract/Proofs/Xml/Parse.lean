import ApiContract.Proofs.Results
import ApiContract.Proofs.Xml.Tag
import ApiContract.Xml.Reader
import Mathlib.Data.List.TakeWhile

/-!
Parsing a written document. Reading a chunk of markup moves the parser from one state to another
whatever markup follows, and moves compose; so the tree is rebuilt chunk by chunk. What the writer
cannot tell apart is lost: an empty text is no text, and blank text beside child elements is layout.
-/

namespace ApiContract.Xml

/-- A name, attributes under distinct names, and the same of all children. -/
inductive Named : Element → Prop
  | mk {name : String} {attributes : List (String × String)} {text : Option String}
      {children : List Element} : TagNames name attributes → (∀ child ∈ children, Named child) →
      Named (.mk name attributes text children)

def isBlankText (text : String) : Bool := text.toList.all Text.isBlank

/-- The text that is left of a text beside children. -/
def settledText (text : Option String) (children : List Element) : Option String :=
  text.filter fun content => content != "" && (children.isEmpty || !isBlankText content)

mutual

/-- The tree that a written tree is read as. -/
def Element.settled : Element → Element
  | .mk name attributes text children =>
      .mk name attributes (settledText text children) (settledAll children)

def settledAll : List Element → List Element
  | [] => []
  | child :: rest => child.settled :: settledAll rest

end

theorem settledAll_eq_map (children : List Element) :
    settledAll children = children.map Element.settled := by
  induction children with
  | nil => rfl
  | cons child rest ih => rw [settledAll, ih, List.map_cons]

/-! States of the parser. -/

namespace Reading

def gather (reading : Reading) (text : List Char) : Reading :=
  if text = [] then reading else reading.append (String.ofList text)

theorem append_append (reading : Reading) (first second : String) :
    (reading.append first).append second = reading.append (first ++ second) := by
  obtain ⟨stack, root⟩ := reading
  cases stack with
  | nil => rfl
  | cons top outer => simp [append, OpenElement.appendText, String.append_assoc]

theorem gather_append (reading : Reading) {first : List Char} (some : first ≠ [])
    (second : List Char) :
    (reading.append (String.ofList first)).gather second = reading.gather (first ++ second) := by
  have some' : first ++ second ≠ [] := by simp [some]
  simp only [gather, if_neg some']
  split
  next none => rw [none, List.append_nil]
  next => rw [append_append, ← String.ofList_append]

def isTextPart (c : Char) : Bool := !(c = '&' || c = '<')

/-- Whatever follows a chunk that ends by itself. -/
def Anything (_ : List Char) : Prop := True

/-- What ends a text: a reference, markup or nothing. -/
def Mark (rest : List Char) : Prop := Text.Halts isTextPart rest

/-- Reading the chunk leads from one state to the other, if what follows does. -/
def Moves (follows : List Char → Prop) (chunk : List Char) (before after : Reading) : Prop :=
  ∀ fuel rest, follows rest → (chunk ++ rest).length ≤ fuel →
    ∃ fuel', rest.length ≤ fuel' ∧
      before.takeAll (eventsOf fuel (chunk ++ rest)) = after.takeAll (eventsOf fuel' rest)

theorem Moves.nil (follows : List Char → Prop) (reading : Reading) :
    Moves follows [] reading reading :=
  fun fuel _ _ enough => ⟨fuel, enough, rfl⟩

theorem Moves.append {one two : List Char → Prop} {first second : List Char}
    {before between after : Reading} (moves : Moves one first before between)
    (moves' : Moves two second between after)
    (follows : ∀ rest, two rest → one (second ++ rest)) : Moves two (first ++ second) before after := by
  intro fuel rest behind enough
  rw [List.append_assoc] at enough ⊢
  obtain ⟨middle, enough', same⟩ := moves fuel (second ++ rest) (follows rest behind) enough
  obtain ⟨last, enough'', same'⟩ := moves' middle rest behind enough'
  exact ⟨last, enough'', same.trans same'⟩

/-- A chunk that ends by itself may be followed by any other. -/
theorem Moves.before {follows : List Char → Prop} {first second : List Char}
    {before between after : Reading} (moves : Moves Anything first before between)
    (moves' : Moves follows second between after) : Moves follows (first ++ second) before after :=
  moves.append moves' fun _ _ => trivial

theorem mark_append {first rest : List Char} (opens : Mark first) (mark : Mark rest) :
    Mark (first ++ rest) := by
  cases first with
  | nil => exact mark
  | cons c first => exact Text.halts_cons (opens c rfl)

theorem takeAll_event {reading after : Reading} {event : Event}
    (taken : reading.take event = .ok after) (rest : List (Option Event)) :
    reading.takeAll (some event :: rest) = after.takeAll rest := by
  rw [takeAll, taken]
  rfl

/-- A chunk that one step reads, at the cost of one unit of fuel. -/
theorem moves_of_step {follows : List Char → Prop} {c : Char} {chunk : List Char}
    {before after : Reading}
    (step : ∀ fuel rest, follows rest →
      before.takeAll (eventsOf (fuel + 1) (c :: chunk ++ rest)) =
        after.takeAll (eventsOf fuel rest)) : Moves follows (c :: chunk) before after := by
  intro fuel rest behind enough
  rw [List.length_append, List.length_cons] at enough
  obtain ⟨fuel, rfl⟩ : ∃ less, fuel = less + 1 := ⟨fuel - 1, by omega⟩
  exact ⟨fuel, by omega, step fuel rest behind⟩

/-! Markup. -/

theorem moves_markup {chunk : List Char} {event : Event} {before after : Reading}
    (read : ∀ rest, readMarkup (chunk ++ rest) = some (some event, rest))
    (taken : before.take event = .ok after) : Moves Anything ('<' :: chunk) before after := by
  apply moves_of_step
  intro fuel rest _
  rw [List.cons_append, eventsOf, read]
  exact takeAll_event taken _

theorem moves_over {chunk : List Char} (read : ∀ rest, readMarkup (chunk ++ rest) = some (none, rest))
    (reading : Reading) : Moves Anything ('<' :: chunk) reading reading := by
  apply moves_of_step
  intro fuel rest _
  rw [List.cons_append, eventsOf, read]

/-! Text: runs of plain characters and references between them. -/

/-- A character of the name in a reference. -/
def isReferencePart (c : Char) : Bool := !(c = ';' || c = '&' || c = '<')

theorem eventsOf_reference {name : List Char} (inName : ∀ c ∈ name, isReferencePart c = true)
    (fuel : Nat) (rest : List Char) :
    eventsOf (fuel + 1) ('&' :: (name ++ ';' :: rest)) =
      some (.reference (String.ofList name)) :: eventsOf fuel rest := by
  have whole : (name ++ ';' :: rest).takeWhile (fun c => !(c = ';' || c = '&' || c = '<')) = name :=
    Text.takeWhile_run inName (Text.halts_cons rfl)
  rw [eventsOf]
  simp only [whole, List.drop_left]

theorem reference_parts {name : List Char} {c : Char} (reference : IsReference name c) :
    ∀ d ∈ name, isReferencePart d = true := fun d member => by
  obtain ⟨plain, notEnd⟩ := reference.plain d member
  have apart : ∀ mark, isPlain mark = false → d ≠ mark := by
    rintro mark special rfl
    rw [plain] at special
    cases special
  simp [isReferencePart, notEnd, apart '&' rfl, apart '<' rfl]

theorem moves_reference {c : Char} (special : isPlain c = false) (reading : Reading) :
    Moves Anything (escapeChar c) reading (reading.append (String.ofList [c])) := by
  obtain ⟨name, same, reference⟩ := escapeChar_reference special
  have taken : reading.take (.reference (String.ofList name)) =
      .ok (reading.append (String.ofList [c])) := by
    simp only [take, String.toList_ofList, reference.resolves]
  rw [same]
  apply moves_of_step
  intro fuel rest _
  rw [List.cons_append, List.append_assoc, List.singleton_append, eventsOf_reference (reference_parts reference),
    takeAll_event taken]

theorem eventsOf_text {c : Char} (part : isTextPart c = true) (fuel : Nat) (rest : List Char) :
    eventsOf (fuel + 1) (c :: rest) =
      some (.text (String.ofList (c :: rest.takeWhile isTextPart))) ::
        eventsOf fuel (rest.dropWhile isTextPart) := by
  rw [eventsOf.eq_def]
  split
  next noFuel => cases noFuel
  next empty _ => cases empty
  next same => cases same; cases part
  next same => cases same; cases part
  next sameFuel same =>
    cases sameFuel
    cases same
    rfl

theorem isTextPart_of_plain {c : Char} (plain : isPlain c = true) : isTextPart c = true := by
  simp_all [isPlain, isTextPart]

theorem moves_run {c : Char} {run : List Char} (plain : ∀ d ∈ c :: run, isPlain d = true)
    (reading : Reading) :
    Moves Mark (c :: run) reading (reading.append (String.ofList (c :: run))) := by
  apply moves_of_step
  intro fuel rest halts
  have inside : ∀ d ∈ c :: run, isTextPart d = true := fun d member =>
    isTextPart_of_plain (plain d member)
  obtain ⟨first, others⟩ := List.forall_mem_cons.mp inside
  rw [List.cons_append, eventsOf_text first, Text.takeWhile_run others halts,
    Text.dropWhile_run others halts]
  exact takeAll_event rfl _

theorem flatMap_plain {run : List Char} (plain : ∀ d ∈ run, isPlain d = true) :
    run.flatMap escapeChar = run := by
  induction run with
  | nil => rfl
  | cons c run ih =>
      rw [List.flatMap_cons, escapeChar_plain (plain c List.mem_cons_self),
        ih fun d member => plain d (List.mem_cons_of_mem _ member), List.singleton_append]

/-- Behind a run of plain characters a reference follows, or nothing. -/
theorem mark_escaped {text : List Char} (halts : Text.Halts isPlain text) :
    Mark (text.flatMap escapeChar) := by
  cases text with
  | nil => exact Text.halts_nil
  | cons c text =>
      obtain ⟨name, same, -⟩ := escapeChar_reference (halts c rfl)
      rw [List.flatMap_cons, same]
      exact Text.halts_cons rfl

theorem halts_dropWhile (kind : Char → Bool) (text : List Char) :
    Text.Halts kind (text.dropWhile kind) := by
  intro c found
  have := List.head?_dropWhile_not kind text
  rw [found] at this
  exact this

theorem moves_text (text : List Char) (reading : Reading) :
    Moves Mark (text.flatMap escapeChar) reading (reading.gather text) := by
  induction length : text.length using Nat.strongRecOn generalizing text reading with
  | _ length ih =>
      subst length
      cases text with
      | nil => exact Moves.nil Mark reading
      | cons c text =>
          -- A reference is read alone, plain characters as far as they run.
          cases special : isPlain c with
          | false =>
              have tail := ih text.length (Nat.lt_succ_self _) text
                (reading.append (String.ofList [c])) rfl
              rw [gather_append reading (List.cons_ne_nil c [])] at tail
              exact (moves_reference special reading).before tail
          | true =>
              have inRun : ∀ d ∈ text.takeWhile isPlain, isPlain d = true := fun d member =>
                List.mem_takeWhile_imp member
              have parts := List.takeWhile_append_dropWhile (p := isPlain) (l := text)
              have tail := ih (text.dropWhile isPlain).length
                (Nat.lt_succ_of_le (List.length_dropWhile_le _ _)) (text.dropWhile isPlain)
                (reading.append (String.ofList (c :: text.takeWhile isPlain))) rfl
              rw [gather_append reading (List.cons_ne_nil c _), List.cons_append, parts] at tail
              have whole := (moves_run (List.forall_mem_cons.mpr ⟨special, inRun⟩) reading).append
                tail fun rest => mark_append (mark_escaped (halts_dropWhile isPlain text))
              rw [List.flatMap_cons, escapeChar_plain special, ← parts, List.flatMap_append,
                flatMap_plain inRun]
              simpa using whole

/-! Elements. -/

variable {name : String} {attributes : List (String × String)}

theorem moves_empty (names : TagNames name attributes) {reading after : Reading}
    (placed : reading.place (.mk name attributes none []) = .ok after) :
    Moves Anything ('<' :: (inside name attributes ++ ['/', '>'])) reading after := by
  refine @moves_markup _ (.emptyTag name attributes) _ _ (fun rest => ?_) placed
  rw [List.append_assoc]
  exact readMarkup_empty names rest

theorem moves_start (names : TagNames name attributes) (reading : Reading) :
    Moves Anything ('<' :: (inside name attributes ++ ['>'])) reading
      { reading with stack := ⟨name, attributes, none, []⟩ :: reading.stack } := by
  refine @moves_markup _ (.startTag name attributes) _ _ (fun rest => ?_) rfl
  rw [List.append_assoc]
  exact readMarkup_start names rest

theorem moves_end (named : isName name = true) {text : Option String} {children : List Element}
    {outer : List OpenElement} {root : Option Element} {after : Reading}
    (placed : (⟨outer, root⟩ : Reading).place
      (OpenElement.close ⟨name, attributes, text, children⟩) = .ok after) :
    Moves Anything ('<' :: ('/' :: name.toList ++ ['>']))
      ⟨⟨name, attributes, text, children⟩ :: outer, root⟩ after := by
  refine @moves_markup _ (.endTag name) _ _ (fun rest => ?_) ?_
  · rw [List.cons_append, List.cons_append, List.append_assoc]
    exact readMarkup_end named rest
  · simp only [take, if_true]
    exact placed

/-- What the element moves the parser to: the tree it is read as, in its place. -/
def Placed (element : Element) : Prop :=
  ∀ reading after : Reading, reading.place element.settled = .ok after →
    Moves Anything element.render.toList reading after

theorem moves_children {children : List Element} (each : ∀ child ∈ children, Placed child)
    (top : OpenElement) (outer : List OpenElement) (root : Option Element) :
    Moves Anything (renderAll children).toList ⟨top :: outer, root⟩
      ⟨{ top with children := (settledAll children).reverse ++ top.children } :: outer, root⟩ := by
  induction children generalizing top with
  | nil => exact Moves.nil Anything _
  | cons child rest ih =>
      have first := each child List.mem_cons_self ⟨top :: outer, root⟩ _ rfl
      have others := ih (fun child member => each child (List.mem_cons_of_mem _ member))
        { top with children := child.settled :: top.children }
      rw [renderAll, String.toList_append]
      have whole := first.before others
      simpa [settledAll] using whole

theorem mark_renderAll (children : List Element) {rest : List Char} (mark : Mark rest) :
    Mark ((renderAll children).toList ++ rest) := by
  cases children with
  | nil => exact mark
  | cons child others =>
      obtain ⟨name, attributes, text, children⟩ := child
      rw [renderAll, Element.render.eq_def]
      split
      rename_i same
      cases same
      dsimp only
      split
      next =>
        simp only [String.toList_append]
        exact Text.halts_cons rfl
      next =>
        simp only [String.toList_append]
        exact Text.halts_cons rfl

/-- The text gathered from what is written for an optional text. -/
def gathered (text : Option String) : Option String := text.filter (· != "")

theorem gather_fresh (text : Option String) (outer : List OpenElement) (root : Option Element) :
    (⟨⟨name, attributes, none, []⟩ :: outer, root⟩ : Reading).gather (text.getD "").toList =
      ⟨⟨name, attributes, gathered text, []⟩ :: outer, root⟩ := by
  cases text with
  | none => rfl
  | some content =>
      by_cases empty : content = ""
      · subst empty
        rfl
      · have some' : content.toList ≠ [] := by simpa using empty
        simp [gather, append, OpenElement.appendText, gathered, Option.filter, empty]

/-- Closing an element leaves the settled text. -/
theorem close_eq (text : Option String) (children : List Element) :
    OpenElement.close ⟨name, attributes, gathered text, (settledAll children).reverse⟩ =
      (Element.mk name attributes text children).settled := by
  have none : (settledAll children).reverse.isEmpty = children.isEmpty := by
    cases children <;> simp [settledAll]
  rw [OpenElement.close, Element.settled, List.reverse_reverse]
  congr 1
  cases text with
  | none => simp [gathered, settledText]
  | some content =>
      by_cases empty : content = ""
      · subst empty
        simp [gathered, settledText, Option.filter]
      · have kept : (content != "") = true := by simp [empty]
        have gather : gathered (some content) = some content := by
          simp [gathered, Option.filter, kept]
        simp only [gather, none, settledText, Option.filter_some, kept, Bool.true_and,
          Option.getD_some, isBlankText]
        cases children.isEmpty <;> cases content.toList.all Text.isBlank <;> rfl

theorem toList_render_empty (name : String) (attributes : List (String × String)) :
    (Element.mk name attributes none []).render.toList =
      '<' :: (inside name attributes ++ ['/', '>']) := by
  rw [Element.render]
  simp [inside, List.flatMap_map, toList_attributeText]

theorem toList_render {text : Option String} {children : List Element}
    (some : ¬(text = none ∧ children = [])) (name : String) (attributes : List (String × String)) :
    (Element.mk name attributes text children).render.toList =
      '<' :: (inside name attributes ++ ['>']) ++
        ((text.getD "").toList.flatMap escapeChar ++
          ((renderAll children).toList ++ '<' :: ('/' :: name.toList ++ ['>']))) := by
  rw [Element.render.eq_def]
  split
  rename_i same
  cases same
  dsimp only
  split
  next => exact absurd ⟨rfl, rfl⟩ some
  next => simp [inside, List.flatMap_map, toList_attributeText, escape]

theorem placed_of_named {element : Element} (named : Named element) : Placed element := by
  induction named with
  | @mk name attributes text children names _ each =>
      intro reading after placed
      -- An element without content is one tag, any other the content between two.
      by_cases bare : text = none ∧ children = []
      · obtain ⟨rfl, rfl⟩ := bare
        rw [toList_render_empty]
        exact moves_empty names placed
      · have start := moves_start names reading
        have text' := moves_text (text.getD "").toList
          { reading with stack := ⟨name, attributes, none, []⟩ :: reading.stack }
        rw [gather_fresh] at text'
        have inner := moves_children each ⟨name, attributes, gathered text, []⟩ reading.stack
          reading.root
        rw [List.append_nil] at inner
        rw [← close_eq] at placed
        have ends := moves_end names.name placed
        rw [toList_render bare]
        refine start.before (text'.append (inner.before ends) fun rest _ => ?_)
        rw [List.append_assoc]
        exact mark_renderAll children (Text.halts_cons rfl)

end Reading

/-! Documents. -/

theorem readMarkup_declaration (rest : List Char) :
    readMarkup (declaration.toList.tail ++ rest) = some (none, rest) := rfl

/-- Parsing undoes writing, up to the texts that leave no trace. -/
theorem parse_document {root : Element} (named : Named root) :
    parse (document root) = .ok root.settled := by
  have skipped := Reading.moves_over readMarkup_declaration {}
  have placed := Reading.placed_of_named named {} { root := some root.settled } rfl
  have whole := skipped.before placed
  have chars : (document root).toList =
      '<' :: declaration.toList.tail ++ root.render.toList := by
    rw [document, String.toList_append]
    rfl
  obtain ⟨fuel, -, same⟩ := whole _ [] trivial (Nat.le_refl _)
  rw [List.append_nil, ← chars] at same
  have all : events (document root) = eventsOf (document root).toList.length (document root).toList := by
    rw [events, chars]
    rfl
  have done : eventsOf fuel [] = [] := by cases fuel <;> rfl
  rw [parse, all, same, done]
  rfl

/-! What printing and parsing leave of a tree, as a relation of the two trees. -/

/-- What is left of the text of an element with the children. -/
inductive KeepsText (children : List Element) : Option String → Option String → Prop
  | absent : KeepsText children none none
  | empty : KeepsText children (some "") none
  | layout {content : String} : children ≠ [] → isBlankText content = true →
      KeepsText children (some content) none
  | kept {content : String} : content ≠ "" → (children ≠ [] → isBlankText content = false) →
      KeepsText children (some content) (some content)

/-- Name and attributes are the same, and so are the children, one by one. -/
inductive Restores : Element → Element → Prop
  | mk {name : String} {attributes : List (String × String)} {text text' : Option String}
      {children children' : List Element} : KeepsText children text text' →
      List.Forall₂ Restores children children' →
      Restores (.mk name attributes text children) (.mk name attributes text' children')

theorem settledText_some (content : String) (children : List Element) :
    settledText (some content) children =
      if content ≠ "" ∧ (children ≠ [] → isBlankText content = false) then some content else none := by
  rw [settledText, Option.filter_some]
  apply if_congr _ rfl rfl
  cases children <;> simp

theorem keepsText_iff {children : List Element} {text text' : Option String} :
    KeepsText children text text' ↔ text' = settledText text children := by
  constructor
  · intro keeps
    cases keeps with
    | absent => rfl
    | empty => rfl
    | layout some blank =>
        have lost : ¬(children ≠ [] → isBlankText _ = false) := fun visible => by
          rw [visible some] at blank
          cases blank
        rw [settledText_some, if_neg fun keeps => lost keeps.2]
    | kept full visible => rw [settledText_some, if_pos ⟨full, visible⟩]
  · rintro rfl
    cases text with
    | none => exact .absent
    | some content =>
        rw [settledText_some]
        split
        next keeps => exact .kept keeps.1 keeps.2
        next lost =>
          by_cases empty : content = ""
          · exact empty ▸ .empty
          · obtain ⟨some, blank⟩ := Classical.not_imp.mp fun visible => lost ⟨empty, visible⟩
            exact .layout some (by simpa using blank)

theorem restores_iff {root tree : Element} (named : Named root) :
    Restores root tree ↔ tree = root.settled := by
  induction named generalizing tree with
  | @mk name attributes text children _ _ each =>
      have related : ∀ {children'}, List.Forall₂ Restores children children' ↔
          children' = children.map Element.settled :=
        forall₂_iff_map fun child member _ => each child member
      rw [Element.settled, settledAll_eq_map]
      constructor
      · intro restores
        cases restores with
        | mk keeps others => rw [keepsText_iff.mp keeps, related.mp others]
      · rintro rfl
        exact .mk (keepsText_iff.mpr rfl) (related.mpr rfl)

/-- A written document is read as one tree, that of the written one without the texts that are empty
or blank beside children. -/
theorem parse_restores {root : Element} (named : Named root) :
    ∃ tree, parse (document root) = .ok tree ∧ ∀ other, Restores root other ↔ other = tree :=
  ⟨root.settled, parse_document named, fun _ => restores_iff named⟩

/-- A letter with blanks around its parts, one of which is empty. -/
def letter : Element :=
  .mk "letter" [("lang", "\"en\""), ("to", "Bob & Co")] (some "\n  ")
    [.mk "greeting" [] (some "") [], .mk "body" [] (some " x < y ") [.mk "line_1.a" [] none []]]

def readLetter : Element :=
  .mk "letter" [("lang", "\"en\""), ("to", "Bob & Co")] none
    [.mk "greeting" [] none [], .mk "body" [] (some " x < y ") [.mk "line_1.a" [] none []]]

theorem letter_restored : Named letter ∧ parse (document letter) = .ok readLetter := by
  have named : Named letter := by
    refine .mk ⟨by decide, by decide, by decide⟩ fun child member => ?_
    rcases List.mem_pair.mp member with rfl | rfl
    · exact .mk (tagNames_nil (by decide)) (List.forall_mem_nil _)
    · refine .mk (tagNames_nil (by decide)) fun child member => ?_
      rw [List.mem_singleton.mp member]
      exact .mk (tagNames_nil (by decide)) (List.forall_mem_nil _)
  have restores : Restores letter readLetter := by
    refine .mk (.layout (List.cons_ne_nil _ _) (by decide)) (.cons ?greeting (.cons ?body .nil))
    case greeting => exact .mk .empty .nil
    case body =>
      exact .mk (.kept (by decide) fun _ => by decide) (.cons (.mk .absent .nil) .nil)
  obtain ⟨tree, parsed, same⟩ := parse_restores named
  rw [(same readLetter).mp restores]
  exact ⟨named, parsed⟩

end ApiContract.Xml
