import ApiContract.Proofs.Xml.Tokens
import ApiContract.Value.XmlForm
import Mathlib.Logic.Relation

/-!
Layout is not content. Complete nodes act on the innermost open element alone: they give it some text
and some children, whatever is around it. So blanks among its nodes lengthen its text only, and that is
dropped as a whole when the element closes, if it is blank and children stand beside it. Comments and
instructions do nothing, and outside the root there is no element to act on.
-/

namespace ApiContract.Xml

/-! Documents that differ by layout. -/

namespace Token

/-- What a token adds to the text that it stands in. A reference that stands for no character adds no
blank. -/
def text? : Token → Option (List Char)
  | char c => some [c]
  | reference name =>
      match resolveReference name with
      | some c => some [c]
      | none => some ('&' :: name)
  | data content => some content
  | comment _ | instruction _ | documentType _ => some []
  | tag _ | endTag _ => none

def isAside : Token → Bool
  | comment _ | instruction _ => true
  | _ => false

end Token

/-- Complete nodes, with the text that they are and the number of elements among them. -/
inductive Nodes : List Token → List Char → Nat → Prop
  | nil : Nodes [] [] 0
  | text {token : Token} {rest : List Token} {piece text : List Char} {count : Nat} :
      token.text? = some piece → Nodes rest text count → Nodes (token :: rest) (piece ++ text) count
  | empty {inside : List Char} {rest : List Token} {text : List Char} {count : Nat} :
      inside.getLast? = some '/' → Nodes rest text count → Nodes (.tag inside :: rest) text (count + 1)
  | element {inside closing : List Char} {content rest : List Token} {inner text : List Char}
      {elements count : Nat} : inside.getLast? ≠ some '/' → Nodes content inner elements →
      Nodes rest text count →
      Nodes (.tag inside :: (content ++ .endTag closing :: rest)) text (count + 1)

def IsBlank (chars : List Char) : Prop := ∀ c ∈ chars, Text.isBlank c = true

instance (chars : List Char) : Decidable (IsBlank chars) := List.decidableBAll _ chars

/-- Tokens, and the same with layout inserted at one place: a comment or an instruction anywhere, blanks
outside the root, or blanks between the nodes of an element that has children and blank text else. -/
inductive Inserts : List Token → List Token → Prop
  | aside {before : List Token} {token : Token} : token.isAside = true →
      Inserts before (before ++ [token])
  | outside {before : List Token} {text blanks : List Char} {count : Nat} : Nodes before text count →
      IsBlank blanks → Inserts before (before ++ blanks.map .char)
  | inside {outer first second : List Token} {inside closing text text' blanks : List Char}
      {count count' : Nat} : inside.getLast? ≠ some '/' → Nodes first text count →
      Nodes second text' count' → 0 < count + count' → IsBlank (text ++ text') → IsBlank blanks →
      Inserts (outer ++ .tag inside :: (first ++ second ++ [.endTag closing]))
        (outer ++ .tag inside :: (first ++ (blanks.map .char ++ second) ++ [.endTag closing]))

/-- A document, and the same with layout inserted at one place; nothing is said about what follows. -/
def MoreLayout (text text' : String) : Prop :=
  ∃ tokens tokens' after, Inserts tokens tokens' ∧ (∀ token ∈ tokens', token.Sound) ∧
    text = String.ofList (spell tokens ++ after) ∧ text' = String.ofList (spell tokens' ++ after)

/-! What complete nodes do to an open element. -/

/-- Text, if there is any, and children in order. -/
structure Found where
  text : Option String
  children : List Element

def Found.join (first second : Found) : Found :=
  ⟨Option.merge (· ++ ·) first.text second.text, first.children ++ second.children⟩

/-- Both, if the first does not fail already. -/
def Found.sequence (first second : Except ValueError Found) : Except ValueError Found := do
  let found ← first
  let found' ← second
  pure (found.join found')

def OpenElement.extend (element : OpenElement) (found : Found) : OpenElement :=
  { element with
    text := Option.merge (· ++ ·) element.text found.text
    children := found.children.reverse ++ element.children }

theorem merge_assoc (first second third : Option String) :
    Option.merge (· ++ ·) (Option.merge (· ++ ·) first second) third =
      Option.merge (· ++ ·) first (Option.merge (· ++ ·) second third) := by
  cases first <;> cases second <;> cases third <;> simp [String.append_assoc]

theorem getD_merge (first second : Option String) :
    (Option.merge (· ++ ·) first second).getD "" = first.getD "" ++ second.getD "" := by
  cases first <;> cases second <;> simp

theorem OpenElement.extend_join (element : OpenElement) (first second : Found) :
    (element.extend first).extend second = element.extend (first.join second) := by
  simp [extend, Found.join, merge_assoc]

@[simp] theorem OpenElement.extend_nothing (element : OpenElement) :
    element.extend ⟨none, []⟩ = element := by
  simp [extend]

/-- The tokens give this to the innermost open element, and leave all others alone. -/
def Yields (tokens : List Token) (result : Except ValueError Found) : Prop :=
  ∀ top outer root, Reading.passAll ⟨top :: outer, root⟩ tokens =
    result >>= fun found => .ok ⟨top.extend found :: outer, root⟩

theorem yields_nil : Yields [] (.ok ⟨none, []⟩) := fun top outer root => by simp

theorem Yields.append {first second : List Token} {result result' : Except ValueError Found}
    (yields : Yields first result) (yields' : Yields second result') :
    Yields (first ++ second) (Found.sequence result result') := by
  intro top outer root
  rw [Reading.passAll_append, yields]
  cases result with
  | error e => rfl
  | ok found =>
      rw [ok_bind, ok_bind, yields']
      cases result' with
      | error e => rfl
      | ok found' =>
          rw [ok_bind, OpenElement.extend_join]
          rfl

/-- What complete nodes yield is of their text and has as many children as they have elements. -/
def Fits (result : Except ValueError Found) (text : List Char) (count : Nat) : Prop :=
  ∀ found, result = .ok found → found.text.getD "" = String.ofList text ∧ found.children.length = count

theorem fits_ok {found : Found} {text : List Char} {count : Nat}
    (ofText : found.text.getD "" = String.ofList text) (children : found.children.length = count) :
    Fits (.ok found) text count := by
  intro other same
  cases same
  exact ⟨ofText, children⟩

theorem Fits.append {result result' : Except ValueError Found} {text text' : List Char}
    {count count' : Nat} (fits : Fits result text count) (fits' : Fits result' text' count') :
    Fits (Found.sequence result result') (text ++ text') (count + count') := by
  intro joined same
  obtain ⟨found, here, same'⟩ := bind_eq_ok same
  obtain ⟨found', here', same''⟩ := bind_eq_ok same'
  cases same''
  obtain ⟨ofText, children⟩ := fits found here
  obtain ⟨ofText', children'⟩ := fits' found' here'
  constructor
  · rw [Found.join, getD_merge, ofText, ofText', String.ofList_append]
  · rw [Found.join, List.length_append, children, children']

/-- The tokens yield something of the text with so many children, or fail. -/
def Gives (tokens : List Token) (text : List Char) (count : Nat) : Prop :=
  ∃ result, Yields tokens result ∧ Fits result text count

theorem Gives.append {first second : List Token} {text text' : List Char} {count count' : Nat} :
    Gives first text count → Gives second text' count' →
      Gives (first ++ second) (text ++ text') (count + count')
  | ⟨_, yields, fits⟩, ⟨_, yields', fits'⟩ => ⟨_, yields.append yields', fits.append fits'⟩

theorem Reading.passAll_single (reading : Reading) (token : Token) :
    reading.passAll [token] = reading.pass token.event := by
  rw [passAll_cons]
  cases reading.pass token.event <;> rfl

theorem OpenElement.appendText_eq (element : OpenElement) (content : String) :
    element.appendText content = element.extend ⟨some content, []⟩ := by
  obtain ⟨name, attributes, text, children⟩ := element
  cases text <;> simp [appendText, extend]

theorem yields_content {token : Token} {content : String} (event : token.event = some (some (.text content))) :
    Yields [token] (.ok ⟨some content, []⟩) := by
  intro top outer root
  rw [Reading.passAll_single, event, ok_bind, ← OpenElement.appendText_eq]
  rfl

theorem yields_nothing {token : Token} (event : token.event = some none) :
    Yields [token] (.ok ⟨none, []⟩) := by
  intro top outer root
  rw [Reading.passAll_single, event, ok_bind, OpenElement.extend_nothing]
  rfl

theorem yields_reference (name : List Char) :
    ∃ result, Yields [.reference name] result ∧
      ∀ found, result = .ok found → ∃ c, resolveReference name = some c ∧
        found = ⟨some (String.ofList [c]), []⟩ := by
  cases resolved : resolveReference name with
  | some c =>
      refine ⟨.ok ⟨some (String.ofList [c]), []⟩, fun top outer root => ?_, fun found same => ?_⟩
      · rw [Reading.passAll_single, ok_bind, ← OpenElement.appendText_eq]
        simp [Token.event, Reading.pass, Reading.take, resolved, Reading.append]
      · cases same
        exact ⟨c, rfl, rfl⟩
  | none =>
      refine ⟨if name.head? = some '#' then .error (.xml malformed)
        else .error (.xml ("unknown entity &" ++ String.ofList name ++ ";")), fun top outer root => ?_,
        fun found same => ?_⟩
      · rw [Reading.passAll_single]
        simp only [Token.event, Reading.pass, Reading.take, String.toList_ofList, resolved]
        split <;> rfl
      · split at same <;> cases same

theorem gives_text {token : Token} {piece : List Char} (adds : token.text? = some piece) :
    Gives [token] piece 0 := by
  cases token with
  | char c =>
      cases adds
      exact ⟨_, yields_content rfl, fits_ok rfl rfl⟩
  | reference name =>
      obtain ⟨result, yields, resolves⟩ := yields_reference name
      refine ⟨result, yields, fun found same => ?_⟩
      obtain ⟨c, resolved, rfl⟩ := resolves found same
      rw [Token.text?, resolved] at adds
      cases adds
      exact ⟨rfl, rfl⟩
  | data content =>
      cases adds
      exact ⟨_, yields_content rfl, fits_ok rfl rfl⟩
  | comment | instruction | documentType =>
      cases adds
      exact ⟨_, yields_nothing rfl, fits_ok rfl rfl⟩
  | tag | endTag => cases adds

/-! Elements. -/

/-- The element of two tags and what is found between them. -/
def elementOf (inside closing : List Char) (content : Except ValueError Found) :
    Except ValueError Element :=
  match tagEvent inside with
  | some (.startTag name attributes) => do
      let found ← content
      if name = String.ofList (endTagName closing) then
        pure (OpenElement.extend ⟨name, attributes, none, []⟩ found).close
      else .error (.xml malformed)
  | _ => .error (.xml malformed)

theorem tagEvent_cases (inside : List Char) :
    tagEvent inside = none ∨ ∃ name attributes, tagEvent inside =
      some (if inside.getLast? = some '/' then .emptyTag name attributes else .startTag name attributes) := by
  cases read : tagEvent inside with
  | none => exact .inl rfl
  | some event =>
      obtain ⟨attributes, -, same⟩ := Option.map_eq_some_iff.mp read
      exact .inr ⟨_, attributes, congrArg some same.symm⟩

theorem passAll_element {inside closing : List Char} {content : List Token}
    {result : Except ValueError Found} (opens : inside.getLast? ≠ some '/')
    (yields : Yields content result) (reading : Reading) :
    reading.passAll (.tag inside :: (content ++ [.endTag closing])) =
      elementOf inside closing result >>= reading.place := by
  rw [Reading.passAll_cons, elementOf]
  rcases tagEvent_cases inside with unread | ⟨name, attributes, event⟩
  · rw [Token.event, unread]
    rfl
  · rw [if_neg opens] at event
    rw [Token.event, event]
    -- The content acts on the element that is opened here, over whatever stack there was.
    change Reading.passAll ⟨⟨name, attributes, none, []⟩ :: reading.stack, reading.root⟩ _ = _
    rw [Reading.passAll_append, yields]
    cases result with
    | error e => rfl
    | ok found =>
        rw [ok_bind, ok_bind, Reading.passAll_single, Token.event]
        simp only [Reading.pass, Reading.take, ok_bind]
        change (if name = String.ofList (endTagName closing) then _ else _) = _
        by_cases same : name = String.ofList (endTagName closing)
        · rw [if_pos same, if_pos same]
          rfl
        · rw [if_neg same, if_neg same]
          rfl

theorem gives_element {inside closing : List Char} {content : List Token} {text : List Char}
    {count : Nat} (opens : inside.getLast? ≠ some '/') :
    Gives content text count → Gives (.tag inside :: (content ++ [.endTag closing])) [] 1
  | ⟨result, yields, _⟩ => by
      refine ⟨(elementOf inside closing result).map fun element => ⟨none, [element]⟩,
        fun top outer root => ?_, fun found same => ?_⟩
      · rw [passAll_element opens yields]
        cases elementOf inside closing result with
        | error e => rfl
        | ok element => simp [Reading.place, OpenElement.extend, Except.map]
      · obtain ⟨element, -, rfl⟩ := map_eq_ok same
        exact ⟨rfl, rfl⟩

theorem gives_empty {inside : List Char} (empty : inside.getLast? = some '/') :
    Gives [.tag inside] [] 1 := by
  rcases tagEvent_cases inside with unread | ⟨name, attributes, event⟩
  · refine ⟨.error (.xml malformed), fun top outer root => ?_, nofun⟩
    rw [Reading.passAll_single, Token.event, unread]
    rfl
  · rw [if_pos empty] at event
    refine ⟨.ok ⟨none, [.mk name attributes none []]⟩, fun top outer root => ?_, fits_ok rfl rfl⟩
    rw [Reading.passAll_single, Token.event, event]
    simp [Reading.pass, Reading.take, Reading.place, OpenElement.extend]

theorem split_element (inside closing : List Char) (content rest : List Token) :
    Token.tag inside :: (content ++ .endTag closing :: rest) =
      Token.tag inside :: (content ++ [.endTag closing]) ++ rest := by simp

theorem nodes_give {tokens : List Token} {text : List Char} {count : Nat}
    (nodes : Nodes tokens text count) : Gives tokens text count := by
  -- Along the nodes: what stands first and what follows are given to the same open element.
  induction nodes with
  | nil => exact ⟨_, yields_nil, fits_ok rfl rfl⟩
  | text adds _ ih =>
      have whole := (gives_text adds).append ih
      rwa [Nat.zero_add] at whole
  | empty isEmpty _ ih => exact Nat.add_comm _ _ ▸ (gives_empty isEmpty).append ih
  | element opens _ _ ih ih' =>
      rw [split_element]
      exact Nat.add_comm _ _ ▸ (gives_element opens ih).append ih'

/-! Outside the root. -/

theorem append_outside {reading : Reading} (outside : reading.stack = []) (content : String) :
    reading.append content = reading := by
  rw [Reading.append, outside]

/-- Text outside the root does not matter. -/
theorem pass_outside {token : Token} {piece : List Char} (adds : token.text? = some piece)
    {reading after : Reading} (outside : reading.stack = [])
    (passed : reading.pass token.event = .ok after) : after = reading := by
  cases token with
  | char | data =>
      cases passed
      exact append_outside outside _
  | reference name =>
      rw [Token.event, Reading.pass, Reading.take] at passed
      split at passed
      next =>
        cases passed
        exact append_outside outside _
      next => split at passed <;> cases passed
  | comment | instruction | documentType =>
      cases passed
      rfl
  | tag | endTag => cases adds

theorem place_outside {reading after : Reading} {element : Element} (outside : reading.stack = [])
    (placed : reading.place element = .ok after) : after.stack = [] := by
  rw [Reading.place, outside] at placed
  dsimp only at placed
  split at placed
  next => cases placed
  next =>
    cases placed
    rfl

theorem nodes_outside {tokens : List Token} {text : List Char} {count : Nat}
    (nodes : Nodes tokens text count) {reading after : Reading} (outside : reading.stack = [])
    (passed : reading.passAll tokens = .ok after) : after.stack = [] := by
  induction nodes generalizing reading with
  | nil =>
      cases passed
      exact outside
  | text adds _ ih =>
      obtain ⟨between, first, others⟩ := bind_eq_ok passed
      rw [pass_outside adds outside first] at others
      exact ih outside others
  | @empty inside _ _ _ isEmpty _ ih =>
      obtain ⟨between, first, others⟩ := bind_eq_ok passed
      rcases tagEvent_cases inside with unread | ⟨name, attributes, event⟩
      all_goals change reading.pass ((tagEvent inside).map some) = _ at first
      · rw [unread] at first
        cases first
      · rw [event, if_pos isEmpty] at first
        exact ih (place_outside outside first) others
  | element opens nodes _ _ ih =>
      rw [split_element, Reading.passAll_append] at passed
      obtain ⟨between, first, others⟩ := bind_eq_ok passed
      obtain ⟨result, yields, -⟩ := nodes_give nodes
      rw [passAll_element opens yields] at first
      obtain ⟨element, -, put⟩ := bind_eq_ok first
      exact ih (place_outside outside put) others

/-! Blanks. -/

theorem yields_blanks (blanks : List Char) :
    ∃ text, Yields (blanks.map .char) (.ok ⟨text, []⟩) ∧ text.getD "" = String.ofList blanks := by
  induction blanks with
  | nil => exact ⟨none, yields_nil, rfl⟩
  | cons c blanks ih =>
      obtain ⟨text, yields, ofText⟩ := ih
      have first : Yields [.char c] (.ok ⟨some (String.ofList [c]), []⟩) := yields_content rfl
      refine ⟨_, first.append yields, ?_⟩
      rw [getD_merge, ofText, Option.getD_some, ← String.ofList_append]
      rfl

theorem isBlankText_ofList {chars : List Char} :
    isBlankText (String.ofList chars) = true ↔ IsBlank chars := by
  rw [isBlankText, String.toList_ofList, List.all_eq_true]
  exact Iff.rfl

/-- Blank text beside children is dropped when the element closes. -/
theorem close_layout (name : String) (attributes : List (String × String)) {found : Found}
    (blank : isBlankText (found.text.getD "") = true) (full : found.children ≠ []) :
    (OpenElement.extend ⟨name, attributes, none, []⟩ found).close =
      .mk name attributes none found.children := by
  have merged : Option.merge (· ++ ·) none found.text = found.text := by
    cases found.text <;> rfl
  rw [isBlankText, List.all_eq_true] at blank
  simp only [OpenElement.close, OpenElement.extend, merged, List.append_nil, List.reverse_reverse]
  rw [if_pos]
  simpa [full] using blank

/-- Only the children count then. -/
theorem elementOf_layout (inside closing : List Char) {found other : Found}
    (blank : isBlankText (found.text.getD "") = true)
    (blank' : isBlankText (other.text.getD "") = true) (full : found.children ≠ [])
    (same : found.children = other.children) :
    elementOf inside closing (.ok found) = elementOf inside closing (.ok other) := by
  rw [elementOf, elementOf]
  split
  next name attributes _ =>
    rw [ok_bind, ok_bind, close_layout name attributes blank full,
      close_layout name attributes blank' (same ▸ full), same]
  next => rfl

/-- Blanks between the nodes of an element that has children and blank text else leave it as it is. -/
theorem elementOf_blanks (inside closing : List Char) {result result' : Except ValueError Found}
    {text text' blanks : List Char} {count count' : Nat} {between : Option String}
    (fits : Fits result text count) (fits' : Fits result' text' count') (full : 0 < count + count')
    (blank : IsBlank (text ++ text')) (ofBlanks : between.getD "" = String.ofList blanks)
    (blank' : IsBlank blanks) :
    elementOf inside closing (Found.sequence result result') =
      elementOf inside closing
        (Found.sequence result (Found.sequence (.ok ⟨between, []⟩) result')) := by
  cases result with
  | error e => rfl
  | ok found =>
      cases result' with
      | error e => rfl
      | ok found' =>
          -- With the blanks and without them the text is blank and the children are the same.
          obtain ⟨ofText, children⟩ := fits found rfl
          obtain ⟨ofText', children'⟩ := fits' found' rfl
          obtain ⟨first, second⟩ := List.forall_mem_append.mp blank
          apply elementOf_layout
          · rw [Found.join, getD_merge, ofText, ofText', ← String.ofList_append, isBlankText_ofList]
            exact blank
          · rw [Found.join, Found.join, getD_merge, getD_merge, ofText, ofBlanks, ofText',
              ← String.ofList_append, ← String.ofList_append, isBlankText_ofList]
            exact List.forall_mem_append.mpr ⟨first, List.forall_mem_append.mpr ⟨blank', second⟩⟩
          · rw [Found.join, ← List.length_pos_iff, List.length_append]
            omega
          · rfl

theorem passAll_outside {reading : Reading} (outside : reading.stack = []) (chars : List Char) :
    reading.passAll (chars.map .char) = .ok reading := by
  induction chars with
  | nil => rfl
  | cons c chars ih =>
      have stays : reading.pass (Token.char c).event = .ok reading :=
        congrArg Except.ok (append_outside outside _)
      rw [List.map_cons, Reading.passAll_cons, stays, ok_bind, ih]

/-- Layout changes nothing that is read. -/
theorem passAll_inserts {tokens tokens' : List Token} (inserts : Inserts tokens tokens') :
    Reading.passAll {} tokens' = Reading.passAll {} tokens := by
  cases inserts with
  | @aside _ token isAside =>
      have nothing : token.event = some none := by
        cases token <;> first | rfl | cases isAside
      rw [Reading.passAll_append]
      simp only [Reading.passAll_single, nothing]
      exact bind_pure _
  | @outside _ _ blanks _ nodes blank =>
      rw [Reading.passAll_append]
      cases passed : Reading.passAll {} tokens with
      | error e => rfl
      | ok between => rw [ok_bind, passAll_outside (nodes_outside nodes rfl passed)]
  | @inside outer first second inside closing _ _ blanks _ _ opens nodes nodes' full blank blank' =>
      obtain ⟨result, yields, fits⟩ := nodes_give nodes
      obtain ⟨result', yields', fits'⟩ := nodes_give nodes'
      obtain ⟨between, padding, ofBlanks⟩ := yields_blanks blanks
      rw [Reading.passAll_append, Reading.passAll_append]
      refine congrArg _ (funext fun reading => ?_)
      rw [passAll_element opens (yields.append yields'),
        passAll_element opens (yields.append (padding.append yields')),
        elementOf_blanks inside closing fits fits' full blank ofBlanks blank']

theorem Inserts.sublist {tokens tokens' : List Token} (inserts : Inserts tokens tokens') :
    tokens.Sublist tokens' := by
  cases inserts with
  | aside => exact List.sublist_append_left _ _
  | outside => exact List.sublist_append_left _ _
  | inside =>
      refine .append_left (.cons_cons _ (.append_right (.append_left ?_ _) _)) _
      exact List.sublist_append_right _ _

theorem parse_layout {text text' : String} (more : MoreLayout text text') :
    parse text = parse text' := by
  obtain ⟨tokens, tokens', after, inserts, sound, rfl, rfl⟩ := more
  have sound' : ∀ token ∈ tokens, token.Sound := fun token member =>
    sound token (inserts.sublist.subset member)
  rw [parse_eq, parse_eq, String.toList_ofList, String.toList_ofList, Reading.read_tokens sound,
    Reading.read_tokens sound', passAll_inserts inserts]

end ApiContract.Xml

namespace ApiContract.XmlForm

/-- Documents that differ by layout alone are read as the same value, or fail with the same error. -/
theorem read_layout (model : Model) (plan : WirePlan) {text text' : String}
    (alike : Relation.EqvGen Xml.MoreLayout text text') : read model plan text = read model plan text' := by
  have parsed : Xml.parse text = Xml.parse text' := by
    induction alike with
    | rel _ _ more => exact Xml.parse_layout more
    | refl => rfl
    | symm _ _ _ ih => exact ih.symm
    | trans _ _ _ _ _ ih ih' => exact ih.trans ih'
  cases plan with
  | element root => rw [read, read, parsed]
  | _ => rfl

end ApiContract.XmlForm

namespace ApiContract.Xml

/-! A note on one line, and the same set out. -/

section Note
open Xml.Token

def noteText : String := "<Note><to>Ann</to></Note>"

def laidOutText : String := "<Note>\n  <to>An<!-- not Anna -->n</to></Note>\n"

def noteTag : Token := tag ['N', 'o', 't', 'e']

def noteEnd : Token := endTag ['N', 'o', 't', 'e']

def toTag : Token := tag ['t', 'o']

def toEnd : Token := endTag ['t', 'o']

def remark : Token := comment " not Anna ".toList

def compactTokens : List Token := [noteTag, toTag, char 'A', char 'n', char 'n', toEnd, noteEnd]

def laidOutTokens : List Token :=
  [noteTag, char '\n', char ' ', char ' ', toTag, char 'A', char 'n', remark, char 'n', toEnd, noteEnd,
    char '\n']

theorem laidOutTokens_sound : ∀ token ∈ laidOutTokens, token.Sound := by
  have named : ∀ {name : List Char}, (name.all fun c => c != '>' && (c != '"' && c != '\'')) = true →
      TagInside name := fun all => tagInside_of_plain (by simpa using all)
  have inNote : noteTag.Sound := ⟨named rfl, rfl⟩
  have inTo : toTag.Sound := ⟨named rfl, rfl⟩
  have noteCloses : noteEnd.Sound := named rfl
  have toCloses : toEnd.Sound := named rfl
  have unmarked : Unmarked ['-', '-', '>'] " not Anna ".toList := by decide
  simp only [laidOutTokens, List.forall_mem_cons]
  exact ⟨inNote, rfl, rfl, rfl, inTo, rfl, rfl, unmarked, rfl, toCloses, noteCloses, rfl,
    List.forall_mem_nil _⟩

theorem laidOut_nodes : ∃ text, Nodes laidOutTokens.dropLast text 1 := by
  have name : ∃ text, Nodes [char 'A', char 'n', remark, char 'n'] text 0 :=
    ⟨_, .text rfl (.text rfl (@Nodes.text remark _ _ _ _ rfl (.text rfl .nil)))⟩
  obtain ⟨text, nodes⟩ := name
  exact ⟨_, .element (by decide)
    (.text rfl (.text rfl (.text rfl (.element (by decide) nodes .nil)))) .nil⟩

theorem notes_alike : Relation.EqvGen MoreLayout noteText laidOutText := by
  have step : ∀ {tokens tokens' : List Token} (after : List Token), Inserts tokens tokens' →
      (∀ token ∈ tokens', token ∈ laidOutTokens) →
      Relation.EqvGen MoreLayout (String.ofList (spell tokens ++ spell after))
        (String.ofList (spell tokens' ++ spell after)) := fun after inserts listed =>
    .rel _ _ ⟨_, _, _, inserts, fun token member => laidOutTokens_sound token (listed token member),
      rfl, rfl⟩
  have nodes : Nodes [toTag, char 'A', char 'n', char 'n', toEnd] [] 1 :=
    .element (by decide) (.text rfl (.text rfl (.text rfl .nil))) .nil
  have broken : Inserts compactTokens
      [noteTag, char '\n', char ' ', char ' ', toTag, char 'A', char 'n', char 'n', toEnd, noteEnd] :=
    @Inserts.inside [] [] _ ['N', 'o', 't', 'e'] ['N', 'o', 't', 'e'] [] [] "\n  ".toList 0 1
      (by decide) .nil nodes (by decide) (by decide) (by decide)
  have remarked : Inserts [noteTag, char '\n', char ' ', char ' ', toTag, char 'A', char 'n']
      [noteTag, char '\n', char ' ', char ' ', toTag, char 'A', char 'n', remark] := .aside rfl
  obtain ⟨text, whole⟩ := laidOut_nodes
  have ended : Inserts laidOutTokens.dropLast laidOutTokens :=
    @Inserts.outside _ _ ['\n'] _ whole (by decide)
  have begins : noteText = String.ofList (spell compactTokens ++ spell []) := rfl
  have ends : laidOutText = String.ofList (spell laidOutTokens ++ spell []) := rfl
  rw [begins, ends]
  refine .trans _ _ _ (step [] broken (by decide)) ?_
  refine .trans _ _ _ (step [char 'n', toEnd, noteEnd] remarked (by decide)) ?_
  exact step [] ended (by decide)

theorem parse_note :
    parse noteText = .ok (.mk "Note" [] none [.mk "to" [] (some "Ann") []]) := by
  have chars : noteText.toList = spell compactTokens ++ [] := rfl
  have sound : ∀ token ∈ compactTokens, token.Sound := fun token member =>
    laidOutTokens_sound token (by revert token; decide)
  rw [parse_eq, chars, Reading.read_tokens sound]
  rfl

end Note

end ApiContract.Xml

namespace ApiContract.XmlForm

open Xml (noteText laidOutText notes_alike parse_note)

def notes : Model :=
  { name := "Notes"
    schemas :=
      [("Note", .object { name := "Note", properties := [.optional "to" "Text"] }),
        ("Text", .primitive .string none)] }

def notePlan : ElementPlan :=
  { schema := "Note", typeName := "Note", name := "Note", attributes := [], text := none
    children := [⟨"to", "to", .item (.value (.primitive .string none)), false, none⟩] }

theorem note_laidOut :
    let ann : Value := .record [("to", .string "Ann")]
    Relation.EqvGen Xml.MoreLayout noteText laidOutText ∧
      ((read notes (.element notePlan) noteText).run {}).1 = .ok ann ∧
      ((read notes (.element notePlan) laidOutText).run {}).1 = .ok ann := by
  have same := read_layout notes (.element notePlan) notes_alike
  have compact : ((read notes (.element notePlan) noteText).run {}).1 =
      .ok (.record [("to", .string "Ann")]) := by
    rw [read, parse_note]
    rfl
  exact ⟨notes_alike, compact, same ▸ compact⟩

end ApiContract.XmlForm
