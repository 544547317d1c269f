import ApiContract.Proofs.Results
import ApiContract.Proofs.Xml.Parse
import Mathlib.Data.List.Infix

/-!
Documents as sequences of tokens. A token is read alone, whatever follows: what stands behind it
decides neither where it ends nor what it does to the tree. Text is read character by character here;
that the reader takes whole runs of it makes no difference, since they are joined again.
-/

namespace ApiContract.Xml

/-- The mark does not begin before the end of the content, also not if the content is followed by it. -/
def Unmarked (mark content : List Char) : Prop := ¬mark <:+: content ++ mark.dropLast

instance (mark content : List Char) : Decidable (Unmarked mark content) :=
  inferInstanceAs (Decidable (¬_))

/-- The inside of a tag: brackets stand in quotes only. -/
inductive TagInside : List Char → Prop
  | nil : TagInside []
  | plain {c : Char} {rest : List Char} : c ≠ '>' ∧ c ≠ '"' ∧ c ≠ '\'' → TagInside rest →
      TagInside (c :: rest)
  | quoted {quote : Char} {content rest : List Char} : quote = '"' ∨ quote = '\'' →
      (∀ c ∈ content, c ≠ quote) → TagInside rest → TagInside (quote :: (content ++ quote :: rest))

theorem tagInside_of_plain {chars : List Char} (plain : ∀ c ∈ chars, c ≠ '>' ∧ c ≠ '"' ∧ c ≠ '\'') :
    TagInside chars := by
  induction chars with
  | nil => exact .nil
  | cons c rest ih =>
      obtain ⟨first, others⟩ := List.forall_mem_cons.mp plain
      exact .plain first (ih others)

/-- The inside of a document type: brackets stand in pairs. -/
inductive Bracketed : List Char → Prop
  | nil : Bracketed []
  | plain {c : Char} {rest : List Char} : c ≠ '<' ∧ c ≠ '>' → Bracketed rest → Bracketed (c :: rest)
  | nested {content rest : List Char} : Bracketed content → Bracketed rest →
      Bracketed ('<' :: (content ++ '>' :: rest))

inductive Token where
  | char (c : Char)
  | reference (name : List Char)
  | data (content : List Char)
  | comment (content : List Char)
  | instruction (content : List Char)
  | documentType (content : List Char)
  | tag (inside : List Char)
  | endTag (inside : List Char)
  deriving DecidableEq

namespace Token

def chars : Token → List Char
  | char c => [c]
  | reference name => '&' :: (name ++ [';'])
  | data content => ['<', '!', '[', 'C', 'D', 'A', 'T', 'A', '['] ++ (content ++ [']', ']', '>'])
  | comment content => ['<', '!', '-', '-'] ++ (content ++ ['-', '-', '>'])
  | instruction content => ['<', '?'] ++ (content ++ ['?', '>'])
  | documentType content => ['<', '!', 'D', 'O', 'C', 'T', 'Y', 'P', 'E'] ++ (content ++ ['>'])
  | tag inside => '<' :: (inside ++ ['>'])
  | endTag inside => '<' :: '/' :: (inside ++ ['>'])

/-- What is inside of a token does not close it. -/
def Sound : Token → Prop
  | char c => Reading.isTextPart c = true
  | reference name => ∀ c ∈ name, Reading.isReferencePart c = true
  | data content => Unmarked [']', ']', '>'] content
  | comment content => Unmarked ['-', '-', '>'] content
  | instruction content => content.head?.any (· != '>') = true ∧ Unmarked ['?', '>'] content
  | documentType content => content.all isSpace = false ∧ Bracketed content
  | tag inside => TagInside inside ∧ inside.head?.all (fun c => c != '!' && c != '/' && c != '?') = true
  | endTag inside => TagInside inside

/-- What a token is read as: an event, nothing, or no markup at all. -/
def event : Token → Option (Option Event)
  | char c => some (some (.text (String.ofList [c])))
  | reference name => some (some (.reference (String.ofList name)))
  | data content => some (some (.text (String.ofList content)))
  | comment _ | instruction _ | documentType _ => some none
  | tag inside => (tagEvent inside).map some
  | endTag inside => some (some (.endTag (String.ofList (endTagName inside))))

end Token

/-! Where tokens end. -/

section Ends
variable {mark before content rest : List Char}

theorem cutAt_unmarked (full : mark ≠ []) (unmarked : Unmarked mark content) :
    cutAt mark before (content ++ (mark ++ rest)) = some (before.reverse ++ content, rest) := by
  induction content generalizing before with
  | nil =>
      obtain ⟨c, tail, rfl⟩ := List.exists_cons_of_ne_nil full
      have here : (c :: tail).isPrefixOf (c :: (tail ++ rest)) = true := by
        simp [List.isPrefixOf_iff_prefix]
      rw [List.nil_append, List.cons_append, cutAt, if_pos here]
      simp
  | cons c content ih =>
      have later : Unmarked mark content := fun inside => unmarked (inside.trans (List.suffix_cons _ _).isInfix)
      -- A mark that begins here ends before the last character of the one behind the content.
      have here : mark.isPrefixOf (c :: (content ++ (mark ++ rest))) = false := by
        rw [Bool.eq_false_iff, ne_eq, List.isPrefixOf_iff_prefix]
        intro starts
        have other : c :: content ++ mark.dropLast <+: c :: (content ++ (mark ++ rest)) := by
          simp only [List.cons_append, List.cons_prefix_cons, true_and, List.prefix_append_right_inj]
          exact (List.dropLast_prefix mark).trans (List.prefix_append _ _)
        apply unmarked
        refine (List.prefix_of_prefix_length_le starts other ?_).isInfix
        simp only [List.length_append, List.length_cons, List.length_dropLast]
        omega
      rw [List.cons_append, cutAt, here, if_neg Bool.false_ne_true, ih later]
      simp

theorem cutTag_tagInside {inside : List Char} (ends : TagInside inside) :
    cutTag none before (inside ++ '>' :: rest) = some (before.reverse ++ inside, rest) := by
  induction ends generalizing before with
  | nil => simp [cutTag]
  | @plain c inside plain _ ih =>
      rw [List.cons_append, cutTag]
      simp [plain, ih]
  | @quoted quote content inside isQuote free _ ih =>
      have opens : cutTag none before (quote :: (content ++ quote :: (inside ++ '>' :: rest))) =
          cutTag (some quote) (quote :: before) (content ++ quote :: (inside ++ '>' :: rest)) := by
        rcases isQuote with rfl | rfl <;> rfl
      rw [List.cons_append, List.append_assoc, List.cons_append, opens, cutTag_quoted free, ih]
      simp

theorem skipDocumentType_bracketed (paired : Bracketed content) (open_ : Nat) :
    skipDocumentType open_ (content ++ rest) = skipDocumentType open_ rest := by
  induction paired generalizing open_ rest with
  | nil => rfl
  | @plain c inner plain _ ih =>
      rw [List.cons_append, skipDocumentType.eq_def]
      split
      next same => cases same
      next same => exact absurd (List.cons.inj same).1 plain.2
      next same => exact absurd (List.cons.inj same).1 plain.1
      next same =>
        cases same
        exact ih open_
  | nested _ _ ih ih' =>
      rw [List.cons_append, skipDocumentType, List.append_assoc, ih, List.cons_append,
        skipDocumentType, if_neg (Nat.succ_ne_zero _), Nat.add_sub_cancel, ih']

/-- The first visible character of a document type does not close it. -/
theorem visible_bracketed (paired : Bracketed content) (visible : content.all isSpace = false) :
    ((content ++ '>' :: rest).dropWhile isSpace).head? ≠ some '>' := by
  induction paired with
  | nil => cases visible
  | @plain c inner plain _ ih =>
      rw [List.cons_append]
      by_cases blank : isSpace c = true
      · rw [List.dropWhile_cons_of_pos blank]
        exact ih (by simpa [blank] using visible)
      · rw [List.dropWhile_cons_of_neg blank]
        exact fun same => plain.2 (Option.some.inj same)
  | nested => exact fun same => absurd (Option.some.inj same) (by decide)

end Ends

/-! Steps of the lexer: each leaves less to read, so the number of steps does not matter. -/

theorem cutAt_length {mark before chars cut rest : List Char}
    (found : cutAt mark before chars = some (cut, rest)) : rest.length ≤ chars.length := by
  induction chars generalizing before with
  | nil => cases found
  | cons c chars ih =>
      rw [cutAt] at found
      split at found
      next =>
        cases found
        rw [List.length_drop]
        exact Nat.sub_le _ _
      next => exact (ih found).trans (Nat.le_succ _)

theorem cutTag_length {quote : Option Char} {before chars cut rest : List Char}
    (found : cutTag quote before chars = some (cut, rest)) : rest.length ≤ chars.length := by
  induction chars generalizing quote before with
  | nil => cases found
  | cons c chars ih =>
      rw [cutTag.eq_def] at found
      dsimp only at found
      split at found
      next => exact (ih found).trans (Nat.le_succ _)
      next =>
        split at found
        next =>
          cases found
          exact Nat.le_succ _
        next =>
          split at found <;> exact (ih found).trans (Nat.le_succ _)

theorem skipDocumentType_length {open_ : Nat} {chars rest : List Char}
    (found : skipDocumentType open_ chars = some rest) : rest.length ≤ chars.length := by
  induction chars generalizing open_ with
  | nil => cases found
  | cons c chars ih =>
      rw [skipDocumentType.eq_def] at found
      split at found
      next same => cases same
      next same =>
        cases same
        split at found
        next =>
          cases found
          exact Nat.le_succ _
        next => exact (ih found).trans (Nat.le_succ _)
      next same =>
        cases same
        exact (ih found).trans (Nat.le_succ _)
      next same =>
        cases same
        exact (ih found).trans (Nat.le_succ _)

theorem readBang_length {chars rest : List Char} {event : Option Event}
    (found : readBang chars = some (event, rest)) : rest.length ≤ chars.length := by
  rw [readBang.eq_def] at found
  split at found
  next tail =>
    obtain ⟨⟨cut, behind⟩, ends, same⟩ := Option.map_eq_some_iff.mp found
    cases same
    have := cutAt_length ends
    simp only [List.length_cons]
    omega
  next tail =>
    split at found
    next =>
      obtain ⟨⟨cut, behind⟩, ends, same⟩ := Option.map_eq_some_iff.mp found
      cases same
      have := cutAt_length ends
      rw [List.length_drop] at this
      omega
    next => cases found
  next =>
    split at found
    next =>
      dsimp only at found
      split at found
      next => cases found
      next =>
        obtain ⟨behind, ends, same⟩ := Option.map_eq_some_iff.mp found
        cases same
        have := skipDocumentType_length ends
        rw [List.length_drop] at this
        omega
    next => cases found

theorem readMarkup_length {chars rest : List Char} {event : Option Event}
    (found : readMarkup chars = some (event, rest)) : rest.length ≤ chars.length := by
  rw [readMarkup.eq_def] at found
  split at found
  next => exact (readBang_length found).trans (Nat.le_succ _)
  next =>
    obtain ⟨⟨cut, behind⟩, ends, same⟩ := Option.map_eq_some_iff.mp found
    cases same
    exact (cutTag_length ends).trans (Nat.le_succ _)
  next => cases found
  next =>
    obtain ⟨⟨cut, behind⟩, ends, same⟩ := Option.map_eq_some_iff.mp found
    cases same
    exact (cutAt_length ends).trans (Nat.le_succ _)
  next =>
    split at found
    next inside behind ends =>
      obtain ⟨event, -, same⟩ := Option.map_eq_some_iff.mp found
      cases same
      exact cutTag_length ends
    next => cases found

theorem eventsOf_enough {fuel fuel' : Nat} {chars : List Char} (enough : chars.length ≤ fuel)
    (enough' : chars.length ≤ fuel') : eventsOf fuel chars = eventsOf fuel' chars := by
  induction fuel generalizing fuel' chars with
  | zero =>
      rw [List.eq_nil_of_length_eq_zero (Nat.le_zero.mp enough)]
      cases fuel' <;> rfl
  | succ fuel ih =>
      cases chars with
      | nil => cases fuel' <;> rfl
      | cons c rest =>
          obtain ⟨fuel', rfl⟩ : ∃ less, fuel' = less + 1 :=
            Nat.exists_eq_succ_of_ne_zero (by rw [List.length_cons] at enough'; omega)
          rw [List.length_cons, Nat.add_le_add_iff_right] at enough enough'
          -- What is behind the first step is no longer than what is behind its first character.
          have same : ∀ {behind : List Char}, behind.length ≤ rest.length →
              eventsOf fuel behind = eventsOf fuel' behind := fun short =>
            ih (short.trans enough) (short.trans enough')
          by_cases text : Reading.isTextPart c = true
          · rw [Reading.eventsOf_text text, Reading.eventsOf_text text,
              same (List.length_dropWhile_le _ _)]
          have mark : c = '&' ∨ c = '<' := by simpa [Reading.isTextPart, Decidable.or_iff_not_imp_left] using text
          rcases mark with rfl | rfl
          · rw [eventsOf, eventsOf]
            split
            next behind found =>
              have short := congrArg List.length found
              rw [List.length_drop, List.length_cons] at short
              rw [same (by omega)]
            next => rfl
          · rw [eventsOf, eventsOf]
            split
            next found => rw [same (readMarkup_length found)]
            next found => rw [same (readMarkup_length found)]
            next => rfl

namespace Reading

/-- Reads all that is left of a document. -/
def read (reading : Reading) (chars : List Char) : Except ValueError Reading :=
  reading.takeAll (eventsOf chars.length chars)

/-- Takes what a token is read as. -/
def pass (reading : Reading) : Option (Option Event) → Except ValueError Reading
  | some (some event) => reading.take event
  | some none => .ok reading
  | none => .error (.xml malformed)

variable {reading : Reading} {rest : List Char}

theorem takeAll_enough {fuel : Nat} (enough : rest.length ≤ fuel) :
    reading.takeAll (eventsOf fuel rest) = reading.read rest := by
  rw [read, eventsOf_enough enough (Nat.le_refl _)]

theorem read_markup {chars : List Char} {event : Option Event}
    (found : readMarkup chars = some (event, rest)) :
    reading.read ('<' :: chars) = reading.pass (some event) >>= fun after => after.read rest := by
  have short := readMarkup_length found
  rw [read, List.length_cons, eventsOf, found]
  cases event with
  | none => exact takeAll_enough short
  | some event =>
      rw [pass, takeAll]
      exact congrArg _ (funext fun after => takeAll_enough short)

theorem read_malformed {chars : List Char} (none : readMarkup chars = none) :
    reading.read ('<' :: chars) = .error (.xml malformed) := by
  rw [read, List.length_cons, eventsOf, none]
  rfl

/-- A text is the same read character by character as in one run. -/
theorem read_char {c : Char} (part : isTextPart c = true) :
    reading.read (c :: rest) = (reading.append (String.ofList [c])).read rest := by
  rw [read, List.length_cons, eventsOf_text part, takeAll_event rfl]
  cases rest with
  | nil => rfl
  | cons d tail =>
      -- The run that begins here takes the next character too, if that is text; read alone, the next
      -- character begins a run of its own, and the two texts are joined.
      by_cases part' : isTextPart d = true
      · have joined : (reading.append (String.ofList [c])).append
            (String.ofList (d :: tail.takeWhile isTextPart)) =
            reading.append (String.ofList (c :: d :: tail.takeWhile isTextPart)) := by
          rw [append_append, ← String.ofList_append, List.singleton_append]
        have short := List.length_dropWhile_le isTextPart tail
        have short' : (tail.dropWhile isTextPart).length ≤ (d :: tail).length :=
          short.trans (Nat.le_succ _)
        have next : ∀ after : Reading, after.read (d :: tail) =
            (after.append (String.ofList (d :: tail.takeWhile isTextPart))).read
              (tail.dropWhile isTextPart) := fun after => by
          change after.takeAll (eventsOf (tail.length + 1) (d :: tail)) = _
          rw [eventsOf_text part', takeAll_event rfl, takeAll_enough short]
        rw [List.takeWhile_cons_of_pos part', List.dropWhile_cons_of_pos part', takeAll_enough short',
          next, joined]
      · rw [List.takeWhile_cons_of_neg part', List.dropWhile_cons_of_neg part']
        rfl

theorem readMarkup_tagInside {inside : List Char} (sound : (Token.tag inside).Sound) :
    readMarkup (inside ++ '>' :: rest) = (tagEvent inside).map fun event => (some event, rest) := by
  have other : ∀ mark ∈ ['!', '/', '?'], (inside ++ '>' :: rest).head? ≠ some mark := by
    intro mark member same
    cases inside with
    | nil =>
        cases same
        exact absurd member (by decide)
    | cons c inside =>
        cases same
        exact absurd member (by simpa [and_assoc] using sound.2)
  rw [readMarkup_opening other, cutTag_tagInside sound.1]
  rfl

theorem readMarkup_instruction {content : List Char} (sound : (Token.instruction content).Sound) :
    readMarkup ('?' :: (content ++ ('?' :: '>' :: rest))) = some (none, rest) := by
  obtain ⟨full, unmarked⟩ := sound
  have cut : cutAt ['?', '>'] [] (content ++ (['?', '>'] ++ rest)) = some (content, rest) :=
    cutAt_unmarked (by decide) unmarked
  cases content with
  | nil => cases full
  | cons c content =>
      have other : c ≠ '>' := by simpa using full
      rw [readMarkup.eq_def]
      split
      next same => cases same
      next same => cases same
      next same => exact absurd (List.cons.inj (List.cons.inj same).2).1 other
      next same =>
        cases same
        exact congrArg (Option.map _) cut
      next free => exact absurd rfl (free _)

theorem readMarkup_documentType {content : List Char} (sound : (Token.documentType content).Sound) :
    readMarkup ("!DOCTYPE".toList ++ (content ++ '>' :: rest)) = some (none, rest) := by
  obtain ⟨named, paired⟩ := sound
  have skipped : skipDocumentType 0 (content ++ '>' :: rest) = some rest := by
    rw [skipDocumentType_bracketed paired]
    rfl
  have opens := @visible_bracketed content rest paired named
  change (if ((content ++ '>' :: rest).dropWhile isSpace).head? = some '>' then none
    else (skipDocumentType 0 (content ++ '>' :: rest)).map fun rest => (none, rest)) = _
  rw [if_neg opens, skipped]
  rfl

/-- A token is read alone. -/
theorem read_token {token : Token} (sound : token.Sound) (reading : Reading) (rest : List Char) :
    reading.read (token.chars ++ rest) =
      reading.pass token.event >>= fun after => after.read rest := by
  cases token with
  | char c => exact read_char sound
  | reference name =>
      have short : rest.length ≤ (name ++ ';' :: rest).length := by
        rw [List.length_append, List.length_cons]
        omega
      have whole : (Token.reference name).chars ++ rest = '&' :: (name ++ ';' :: rest) := by
        simp [Token.chars]
      rw [whole, read, List.length_cons, eventsOf_reference sound, takeAll]
      exact congrArg _ (funext fun after => takeAll_enough short)
  | data content =>
      have cut : cutAt [']', ']', '>'] [] (content ++ ([']', ']', '>'] ++ rest)) = some (content, rest) :=
        cutAt_unmarked (List.cons_ne_nil _ _) sound
      rw [Token.chars, List.append_assoc, List.append_assoc]
      exact read_markup (congrArg (Option.map _) cut)
  | comment content =>
      have cut : cutAt ['-', '-', '>'] [] (content ++ (['-', '-', '>'] ++ rest)) = some (content, rest) :=
        cutAt_unmarked (List.cons_ne_nil _ _) sound
      rw [Token.chars, List.append_assoc, List.append_assoc]
      exact read_markup (congrArg (Option.map _) cut)
  | instruction content =>
      rw [Token.chars, List.append_assoc, List.append_assoc]
      exact read_markup (readMarkup_instruction sound)
  | documentType content =>
      rw [Token.chars, List.append_assoc, List.append_assoc]
      exact read_markup (readMarkup_documentType sound)
  | tag inside =>
      have found := @readMarkup_tagInside rest _ sound
      rw [Token.chars, Token.event, List.cons_append, List.append_assoc]
      cases read : tagEvent inside with
      | none =>
          rw [read] at found
          exact read_malformed found
      | some event =>
          rw [read] at found
          exact read_markup found
  | endTag inside =>
      have cut : cutTag none [] (inside ++ '>' :: rest) = some (inside, rest) := cutTag_tagInside sound
      rw [Token.chars, List.cons_append, List.cons_append, List.append_assoc]
      exact read_markup (congrArg (Option.map _) cut)

/-- Takes what the tokens are read as, in order. -/
def passAll (reading : Reading) (tokens : List Token) : Except ValueError Reading :=
  tokens.foldlM (fun reading token => reading.pass token.event) reading

@[simp] theorem passAll_nil (reading : Reading) : reading.passAll [] = .ok reading := rfl

theorem passAll_cons (reading : Reading) (token : Token) (tokens : List Token) :
    reading.passAll (token :: tokens) =
      reading.pass token.event >>= fun after => after.passAll tokens := rfl

theorem passAll_append (reading : Reading) (first second : List Token) :
    reading.passAll (first ++ second) =
      reading.passAll first >>= fun after => after.passAll second := List.foldlM_append

end Reading

/-- The text of a sequence of tokens. -/
def spell (tokens : List Token) : List Char := tokens.flatMap Token.chars

/-- Reading tokens is taking one after the other. -/
theorem Reading.read_tokens {tokens : List Token} (sound : ∀ token ∈ tokens, token.Sound)
    (reading : Reading) (rest : List Char) :
    reading.read (spell tokens ++ rest) =
      reading.passAll tokens >>= fun after => after.read rest := by
  induction tokens generalizing reading with
  | nil => rfl
  | cons token tokens ih =>
      obtain ⟨first, others⟩ := List.forall_mem_cons.mp sound
      rw [spell, List.flatMap_cons, List.append_assoc, read_token first, passAll_cons, bind_assoc]
      exact congrArg _ (funext fun after => ih others after)

/-- A byte order mark is read over, be it at the head of the document or in front of its root. -/
theorem parse_eq (text : String) :
    parse text = (Reading.read {} text.toList) >>= Reading.finish := by
  have mark : ∀ chars, Reading.read {} ('\uFEFF' :: chars) = Reading.read {} chars := fun chars =>
    Reading.read_char rfl
  rw [parse, events]
  split
  next chars same =>
    rw [same, mark]
    rfl
  next => rfl

end ApiContract.Xml
