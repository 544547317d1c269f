import ApiContract.Proofs.Text.Run
import ApiContract.Xml.Element
import ApiContract.Xml.Event

/-!
Escaped text. Five characters are written as references, and the reader of attribute values resolves
them again; no mark of the surrounding markup is left between them.
-/

namespace ApiContract.Xml

/-- A character that is written as itself. -/
def isPlain (c : Char) : Bool := !(c = '<' || c = '>' || c = '&' || c = '\'' || c = '"')

theorem escapeChar_plain {c : Char} (plain : isPlain c = true) : escapeChar c = [c] := by
  rw [escapeChar.eq_def]
  split
  next => cases plain
  next => cases plain
  next => cases plain
  next => cases plain
  next => cases plain
  next => rfl

/-- What stands between the ampersand and the semicolon. -/
structure IsReference (name : List Char) (c : Char) : Prop where
  resolves : resolveReference name = some c
  plain : ∀ d ∈ name, isPlain d = true ∧ d ≠ ';'

theorem escapeChar_reference {c : Char} (special : isPlain c = false) :
    ∃ name, escapeChar c = '&' :: (name ++ [';']) ∧ IsReference name c := by
  have letters : ∀ {name : List Char}, (name.all fun d => isPlain d && d != ';') = true →
      ∀ d ∈ name, isPlain d = true ∧ d ≠ ';' := fun all d member => by
    simpa using List.all_eq_true.mp all d member
  -- Each of the five special characters has its own entity.
  simp only [isPlain, Bool.not_eq_false', Bool.or_eq_true, decide_eq_true_eq] at special
  rcases special with (((same | same) | same) | same) | same
  · exact ⟨['l', 't'], by rw [same]; rfl, by rw [same]; rfl, letters rfl⟩
  · exact ⟨['g', 't'], by rw [same]; rfl, by rw [same]; rfl, letters rfl⟩
  · exact ⟨['a', 'm', 'p'], by rw [same]; rfl, by rw [same]; rfl, letters rfl⟩
  · exact ⟨['a', 'p', 'o', 's'], by rw [same]; rfl, by rw [same]; rfl, letters rfl⟩
  · exact ⟨['q', 'u', 'o', 't'], by rw [same]; rfl, by rw [same]; rfl, letters rfl⟩

theorem mem_escaped {text : List Char} {d : Char} (member : d ∈ text.flatMap escapeChar) :
    isPlain d = true ∨ d = '&' := by
  obtain ⟨c, -, inside⟩ := List.mem_flatMap.mp member
  cases special : isPlain c with
  | true =>
      rw [escapeChar_plain special, List.mem_singleton] at inside
      exact .inl (inside ▸ special)
  | false =>
      obtain ⟨name, same, reference⟩ := escapeChar_reference special
      rw [same, List.mem_cons, List.mem_append, List.mem_singleton] at inside
      rcases inside with mark | letter | mark
      · exact .inr mark
      · exact .inl (reference.plain d letter).1
      · exact .inl (mark ▸ rfl)

theorem escaped_ne {text : List Char} {d mark : Char} (member : d ∈ text.flatMap escapeChar)
    (special : isPlain mark = false) (other : mark ≠ '&') : d ≠ mark := by
  rintro rfl
  rcases mem_escaped member with plain | ampersand
  · rw [special] at plain
    cases plain
  · exact other ampersand

/-! Reading references in attribute values. -/

theorem unescape_plain {c : Char} (plain : isPlain c = true) (rest : List Char) :
    unescape none (c :: rest) = (unescape none rest).map (c :: ·) := by
  have other : c ≠ '&' := by
    rintro rfl
    cases plain
  rw [unescape, if_neg other]

theorem unescape_reference {read name : List Char} {c : Char}
    (resolves : resolveReference (read.reverse ++ name) = some c)
    (plain : ∀ d ∈ name, isPlain d = true ∧ d ≠ ';') (rest : List Char) :
    unescape (some read) (name ++ ';' :: rest) = (unescape none rest).map (c :: ·) := by
  induction name generalizing read with
  | nil =>
      rw [List.append_nil] at resolves
      simp [unescape, resolves]
  | cons d name ih =>
      obtain ⟨here, notEnd⟩ := plain d List.mem_cons_self
      have other : d ≠ '&' := by
        rintro rfl
        cases here
      rw [List.cons_append, unescape]
      simp only [if_neg notEnd, if_neg other]
      exact ih (by simpa using resolves) fun d member => plain d (List.mem_cons_of_mem _ member)

theorem unescape_escape (text : List Char) : unescape none (text.flatMap escapeChar) = some text := by
  induction text with
  | nil => rfl
  | cons c text ih =>
      rw [List.flatMap_cons]
      cases special : isPlain c with
      | true => rw [escapeChar_plain special, List.singleton_append, unescape_plain special, ih,
          Option.map_some]
      | false =>
          obtain ⟨name, same, reference⟩ := escapeChar_reference special
          rw [same, List.cons_append, List.append_assoc, List.singleton_append, unescape]
          simp only [if_true]
          rw [@unescape_reference [] _ _ reference.resolves reference.plain, ih, Option.map_some]

end ApiContract.Xml

/-!
Tags. The inside of a tag is the name and one chunk for each attribute; cutting a tag off steps over
a chunk without leaving a quote open, and reading the attributes takes one chunk after the other.
-/

namespace ApiContract.Xml

def isNameStart (c : Char) : Bool := c.isAlpha || c = '_'

def isNamePart (c : Char) : Bool := c.isAlphanum || c = '_' || c = '.' || c = '-'

/-- Names of the form `[A-Za-z_][A-Za-z0-9_.-]*`. -/
def isName (name : String) : Bool :=
  match name.toList with
  | [] => false
  | first :: rest => isNameStart first && rest.all isNamePart

theorem isNamePart_of_start {c : Char} (start : isNameStart c = true) : isNamePart c = true := by
  simp only [isNameStart, Bool.or_eq_true] at start
  simp only [isNamePart, Char.isAlphanum, Bool.or_eq_true]
  rcases start with letter | underscore
  · exact .inl (.inl (.inl (.inl letter)))
  · exact .inl (.inl (.inr underscore))

structure NameChars (first : Char) (rest : List Char) : Prop where
  start : isNameStart first = true
  parts : ∀ c ∈ first :: rest, isNamePart c = true

theorem nameChars {name : String} (isName : isName name = true) :
    ∃ first rest, name.toList = first :: rest ∧ NameChars first rest := by
  rw [Xml.isName] at isName
  split at isName
  next => cases isName
  next first rest chars =>
    obtain ⟨start, parts⟩ := Bool.and_eq_true_iff.mp isName
    refine ⟨first, rest, chars, start, fun c member => ?_⟩
    rcases List.mem_cons.mp member with same | inside
    · exact same ▸ isNamePart_of_start start
    · exact List.all_eq_true.mp parts c inside

theorem isNamePart_of_mem {name : String} (isName : isName name = true) {c : Char}
    (member : c ∈ name.toList) : isNamePart c = true := by
  obtain ⟨first, rest, chars, name⟩ := nameChars isName
  exact name.parts c (chars ▸ member)

theorem namePart_ne {c mark : Char} (part : isNamePart c = true) (outside : isNamePart mark = false) :
    c ≠ mark := by
  rintro rfl
  rw [part] at outside
  cases outside

theorem nameStart_ne {c mark : Char} (start : isNameStart c = true)
    (outside : isNameStart mark = false) : c ≠ mark := by
  rintro rfl
  rw [start] at outside
  cases outside

theorem isSpace_namePart {c : Char} (part : isNamePart c = true) : isSpace c = false := by
  have apart (mark : Char) : isNamePart mark = false → c ≠ mark := namePart_ne part
  simp [isSpace, apart ' ' rfl, apart '\n' rfl, apart '\r' rfl, apart '\t' rfl]

/-! Written attributes. -/

def attributeChars (entry : String × String) : List Char :=
  ' ' :: (entry.1.toList ++ '=' :: '"' :: (entry.2.toList.flatMap escapeChar ++ ['"']))

theorem toList_attributeText (entry : String × String) :
    (attributeText entry).toList = attributeChars entry := by
  simp [attributeText, attributeChars, escape]

/-- The inside of a tag. -/
def inside (name : String) (attributes : List (String × String)) : List Char :=
  name.toList ++ attributes.flatMap attributeChars

/-! Cutting a tag off. -/

theorem cutTag_run {run before rest : List Char}
    (free : ∀ c ∈ run, c ≠ '>' ∧ c ≠ '"' ∧ c ≠ '\'') :
    cutTag none before (run ++ rest) = cutTag none (run.reverse ++ before) rest := by
  induction run generalizing before with
  | nil => rfl
  | cons c run ih =>
      obtain ⟨notEnd, notQuote, notApostrophe⟩ := free c List.mem_cons_self
      have noQuote : ¬(c = '"' ∨ c = '\'') := fun quote => quote.elim notQuote notApostrophe
      rw [List.cons_append, cutTag]
      simp only [if_neg notEnd, if_neg noQuote]
      rw [ih fun c member => free c (List.mem_cons_of_mem _ member)]
      simp

theorem cutTag_quoted {quote : Char} {run before rest : List Char} (free : ∀ c ∈ run, c ≠ quote) :
    cutTag (some quote) before (run ++ quote :: rest) =
      cutTag none (quote :: (run.reverse ++ before)) rest := by
  induction run generalizing before with
  | nil => simp [cutTag]
  | cons c run ih =>
      rw [List.cons_append, cutTag]
      simp only [if_neg (free c List.mem_cons_self)]
      rw [ih fun c member => free c (List.mem_cons_of_mem _ member)]
      simp

theorem cutTag_name {name : String} (named : isName name = true) (before rest : List Char) :
    cutTag none before (name.toList ++ rest) = cutTag none (name.toList.reverse ++ before) rest :=
  cutTag_run fun c member => by
    have part := isNamePart_of_mem named member
    exact ⟨namePart_ne part rfl, namePart_ne part rfl, namePart_ne part rfl⟩

theorem cutTag_attribute {entry : String × String} (named : isName entry.1 = true)
    (before rest : List Char) :
    cutTag none before (attributeChars entry ++ rest) =
      cutTag none ((attributeChars entry).reverse ++ before) rest := by
  have value : ∀ c ∈ entry.2.toList.flatMap escapeChar, c ≠ '"' := fun c member =>
    escaped_ne member rfl (by decide)
  have blank : ∀ rest, cutTag none before (' ' :: rest) = cutTag none (' ' :: before) rest :=
    fun rest => rfl
  have opened : ∀ before rest, cutTag none before ('=' :: '"' :: rest) =
      cutTag (some '"') ('"' :: '=' :: before) rest := fun before rest => rfl
  simp only [attributeChars, List.cons_append, List.append_assoc]
  rw [blank, cutTag_name named, opened, cutTag_quoted value]
  simp

theorem cutTag_attributes {attributes : List (String × String)}
    (named : ∀ entry ∈ attributes, isName entry.1 = true) (before rest : List Char) :
    cutTag none before (attributes.flatMap attributeChars ++ rest) =
      cutTag none ((attributes.flatMap attributeChars).reverse ++ before) rest := by
  induction attributes generalizing before with
  | nil => rfl
  | cons entry attributes ih =>
      rw [List.flatMap_cons, List.append_assoc, cutTag_attribute (named entry List.mem_cons_self),
        ih fun entry member => named entry (List.mem_cons_of_mem _ member)]
      simp

/-- The tag ends behind its inside and what else holds no quote or bracket. -/
theorem cutTag_inside {name : String} {attributes : List (String × String)}
    (named : isName name = true) (each : ∀ entry ∈ attributes, isName entry.1 = true)
    {mark : List Char} (free : ∀ c ∈ mark, c ≠ '>' ∧ c ≠ '"' ∧ c ≠ '\'') (rest : List Char) :
    cutTag none [] (inside name attributes ++ mark ++ '>' :: rest) =
      some (inside name attributes ++ mark, rest) := by
  have ends : ∀ before, cutTag none before ('>' :: rest) = some (before.reverse, rest) :=
    fun before => rfl
  simp only [inside, List.append_assoc]
  rw [cutTag_name named, cutTag_attributes each, cutTag_run free, ends]
  simp

/-! Reading attributes. -/

theorem cutAt_quote {run before rest : List Char} (free : ∀ c ∈ run, c ≠ '"') :
    cutAt ['"'] before (run ++ '"' :: rest) = some (before.reverse ++ run, rest) := by
  induction run generalizing before with
  | nil => simp [cutAt]
  | cons c run ih =>
      have other : ['"'].isPrefixOf (c :: (run ++ '"' :: rest)) = false := by
        simp [List.isPrefixOf, Ne.symm (free c List.mem_cons_self)]
      rw [List.cons_append, cutAt, other]
      simp only [Bool.false_eq_true, if_false]
      rw [ih fun c member => free c (List.mem_cons_of_mem _ member)]
      simp

theorem readAttributes_chunk {entry : String × String} (named : isName entry.1 = true)
    {read : List (String × String)} (fresh : entry.1 ∉ read.map (·.1)) (fuel : Nat)
    (rest : List Char) :
    readAttributes (fuel + 1) read (attributeChars entry ++ rest) =
      readAttributes fuel (entry :: read) rest := by
  obtain ⟨key, value⟩ := entry
  obtain ⟨first, tail, chars, name⟩ := nameChars named
  have value' : ∀ c ∈ value.toList.flatMap escapeChar, c ≠ '"' := fun c member =>
    escaped_ne member rfl (by decide)
  have visible := isSpace_namePart (name.parts first List.mem_cons_self)
  have inTail : ∀ c ∈ tail, (!(c = '=' || isSpace c)) = true := fun c member => by
    have part := name.parts c (List.mem_cons_of_mem _ member)
    simp [@namePart_ne c '=' part rfl, isSpace_namePart part]
  have key' : String.ofList (first :: tail) = key := by rw [← chars, String.ofList_toList]
  have unseen : (read.any fun entry => entry.1 == key) = false := by
    apply List.any_eq_false.mpr
    intro old member
    have different : old.1 ≠ key := fun same => fresh (List.mem_map.mpr ⟨old, member, same⟩)
    simpa using different
  have skipBlank : (' ' :: first :: (tail ++ '=' :: '"' ::
      (value.toList.flatMap escapeChar ++ '"' :: rest))).dropWhile isSpace =
      first :: (tail ++ '=' :: '"' :: (value.toList.flatMap escapeChar ++ '"' :: rest)) := by
    simp [isSpace, List.dropWhile_cons] at visible ⊢
    simp [visible]
  have equals : Text.Halts (fun c => !(c = '=' || isSpace c))
      ('=' :: '"' :: (value.toList.flatMap escapeChar ++ '"' :: rest)) := Text.halts_cons rfl
  have opened : ('=' :: '"' :: (value.toList.flatMap escapeChar ++ '"' :: rest)).dropWhile isSpace =
      '=' :: '"' :: (value.toList.flatMap escapeChar ++ '"' :: rest) := rfl
  have quote : ('"' :: (value.toList.flatMap escapeChar ++ '"' :: rest)).dropWhile isSpace =
      '"' :: (value.toList.flatMap escapeChar ++ '"' :: rest) := rfl
  simp only [attributeChars, chars, List.cons_append, List.append_assoc, List.nil_append]
  rw [readAttributes]
  simp only [skipBlank, Text.takeWhile_run inTail equals, Text.dropWhile_run inTail equals, opened,
    key', unseen, Bool.false_eq_true, if_false, quote, true_or, if_true, cutAt_quote value',
    List.reverse_nil, List.nil_append, unescape_escape, String.ofList_toList]

theorem readAttributes_chunks {attributes read : List (String × String)} {fuel : Nat}
    (named : ∀ entry ∈ attributes, isName entry.1 = true)
    (nodup : ((read.reverse ++ attributes).map (·.1)).Nodup) (enough : attributes.length < fuel) :
    readAttributes fuel read (attributes.flatMap attributeChars) = some (read.reverse ++ attributes) := by
  induction attributes generalizing read fuel with
  | nil =>
      obtain ⟨fuel, rfl⟩ : ∃ less, fuel = less + 1 := ⟨fuel - 1, by simp at enough; omega⟩
      simp [readAttributes]
  | cons entry attributes ih =>
      obtain ⟨fuel, rfl⟩ : ∃ less, fuel = less + 1 := ⟨fuel - 1, by simp at enough; omega⟩
      have fresh : entry.1 ∉ read.map (·.1) := fun old => by
        rw [List.map_append, List.nodup_append] at nodup
        refine nodup.2.2 entry.1 ?_ entry.1 (by simp) rfl
        rw [List.map_reverse, List.mem_reverse]
        exact old
      have moved : read.reverse ++ entry :: attributes = (entry :: read).reverse ++ attributes := by
        simp
      rw [List.flatMap_cons, readAttributes_chunk (named entry List.mem_cons_self) fresh, moved]
      refine ih (fun entry member => named entry (List.mem_cons_of_mem _ member)) (moved ▸ nodup) ?_
      simp only [List.length_cons] at enough
      omega

/-! The events of tags. -/

/-- What the writer promises of the names of one tag. -/
structure TagNames (name : String) (attributes : List (String × String)) : Prop where
  name : isName name = true
  each : ∀ entry ∈ attributes, isName entry.1 = true
  distinct : (attributes.map (·.1)).Nodup

variable {name : String} {attributes : List (String × String)}

theorem tagNames_nil (named : isName name = true) : TagNames name [] :=
  ⟨named, List.forall_mem_nil _, List.nodup_nil⟩

theorem getLast_inside (names : TagNames name attributes) :
    (inside name attributes).getLast? ≠ some '/' := by
  -- The last character belongs to the name or closes the last value.
  rcases List.eq_nil_or_concat attributes with none | ⟨before, last, same⟩
  · subst none
    intro slash
    rw [inside, List.flatMap_nil, List.append_nil] at slash
    exact namePart_ne (isNamePart_of_mem names.name (List.mem_of_getLast? slash)) rfl rfl
  · subst same
    have ends : attributeChars last =
        ' ' :: (last.1.toList ++ '=' :: '"' :: last.2.toList.flatMap escapeChar) ++ ['"'] := by
      simp [attributeChars]
    rw [inside, List.concat_eq_append, List.flatMap_append, List.flatMap_singleton, ends,
      ← List.append_assoc, ← List.append_assoc, List.getLast?_concat]
    decide

theorem name_halts (attributes : List (String × String)) :
    Text.Halts (fun c => !isSpace c) (attributes.flatMap attributeChars) := by
  cases attributes with
  | nil => exact Text.halts_nil
  | cons entry attributes => exact Text.halts_cons rfl

theorem length_attributes (attributes : List (String × String)) :
    attributes.length ≤ (attributes.flatMap attributeChars).length := by
  induction attributes with
  | nil => exact Nat.le_refl _
  | cons entry attributes ih =>
      simp only [List.flatMap_cons, List.length_append, List.length_cons, attributeChars]
      omega

/-- The parts of the inside of a tag are its name and its attributes. -/
theorem inside_parts (names : TagNames name attributes) :
    String.ofList ((inside name attributes).takeWhile (!isSpace ·)) = name ∧
      readAttributes (((inside name attributes).dropWhile (!isSpace ·)).length + 1) []
        ((inside name attributes).dropWhile (!isSpace ·)) = some attributes := by
  have visible : ∀ c ∈ name.toList, (!isSpace c) = true := fun c member => by
    simp [isSpace_namePart (isNamePart_of_mem names.name member)]
  have before := Text.takeWhile_run visible (name_halts attributes)
  have behind := Text.dropWhile_run visible (name_halts attributes)
  rw [inside, before, behind]
  refine ⟨String.ofList_toList, ?_⟩
  exact readAttributes_chunks names.each names.distinct
    (Nat.lt_succ_of_le (length_attributes attributes))

theorem tagEvent_start (names : TagNames name attributes) :
    tagEvent (inside name attributes) = some (.startTag name attributes) := by
  obtain ⟨tag, read⟩ := inside_parts names
  simp [tagEvent, getLast_inside names, tag, read]

theorem tagEvent_empty (names : TagNames name attributes) :
    tagEvent (inside name attributes ++ ['/']) = some (.emptyTag name attributes) := by
  obtain ⟨tag, read⟩ := inside_parts names
  simp [tagEvent, tag, read]

theorem inside_opens (names : TagNames name attributes) (rest : List Char) :
    ∃ first behind, inside name attributes ++ rest = first :: behind ∧ isNameStart first = true := by
  obtain ⟨first, tail, chars, name'⟩ := nameChars names.name
  exact ⟨first, _, by rw [inside, chars]; rfl, name'.start⟩

/-- Markup that opens in no other way is a tag with attributes. -/
theorem readMarkup_opening {chars : List Char}
    (other : ∀ mark ∈ ['!', '/', '?'], chars.head? ≠ some mark) :
    readMarkup chars = (cutTag none [] chars).bind fun (within, behind) =>
      (tagEvent within).map fun event => (some event, behind) := by
  rw [readMarkup.eq_def]
  split
  next => exact absurd rfl (other '!' (by decide))
  next => exact absurd rfl (other '/' (by decide))
  next => exact absurd rfl (other '?' (by decide))
  next => exact absurd rfl (other '?' (by decide))
  next => cases cutTag none [] chars <;> rfl

theorem readMarkup_tag {first : Char} {rest within behind : List Char} {event : Event}
    (start : isNameStart first = true) (cut : cutTag none [] (first :: rest) = some (within, behind))
    (tag : tagEvent within = some event) :
    readMarkup (first :: rest) = some (some event, behind) := by
  have marks : (['!', '/', '?'].all (!isNameStart ·)) = true := by decide
  have other : ∀ mark ∈ ['!', '/', '?'], (first :: rest).head? ≠ some mark := by
    rintro mark member same
    have outside : isNameStart mark = false := by simpa using List.all_eq_true.mp marks mark member
    exact nameStart_ne start outside (Option.some.inj same)
  rw [readMarkup_opening other, cut]
  exact congrArg (Option.map fun event => (some event, behind)) tag

theorem readMarkup_start (names : TagNames name attributes) (rest : List Char) :
    readMarkup (inside name attributes ++ '>' :: rest) =
      some (some (.startTag name attributes), rest) := by
  obtain ⟨first, behind, chars, start⟩ := inside_opens names ('>' :: rest)
  have cut := @cutTag_inside _ _ names.name names.each [] (List.forall_mem_nil _) rest
  rw [List.append_nil, chars] at cut
  rw [chars]
  exact readMarkup_tag start cut (tagEvent_start names)

theorem readMarkup_empty (names : TagNames name attributes) (rest : List Char) :
    readMarkup (inside name attributes ++ '/' :: '>' :: rest) =
      some (some (.emptyTag name attributes), rest) := by
  obtain ⟨first, behind, chars, start⟩ := inside_opens names ('/' :: '>' :: rest)
  have slash : ∀ c ∈ ['/'], c ≠ '>' ∧ c ≠ '"' ∧ c ≠ '\'' := fun c member => by
    rw [List.mem_singleton.mp member]
    decide
  have cut := cutTag_inside names.name names.each slash rest
  rw [List.append_assoc, List.singleton_append, chars] at cut
  rw [chars]
  exact readMarkup_tag start cut (tagEvent_empty names)

theorem readMarkup_end (named : isName name = true) (rest : List Char) :
    readMarkup ('/' :: (name.toList ++ '>' :: rest)) = some (some (.endTag name), rest) := by
  have cut := @cutTag_inside name [] named (List.forall_mem_nil _) [] (List.forall_mem_nil _) rest
  simp only [inside, List.flatMap_nil, List.append_nil] at cut
  have visible : ∀ c ∈ name.toList.reverse, isSpace c = false := fun c member =>
    isSpace_namePart (isNamePart_of_mem named (List.mem_reverse.mp member))
  have trimmed : trimEnd name.toList = name.toList := by
    rw [trimEnd]
    cases reversed : name.toList.reverse with
    | nil => simp_all
    | cons c behind =>
        have last : isSpace c = false := visible c (reversed ▸ List.mem_cons_self)
        rw [List.dropWhile_cons, last, if_neg (by simp), ← reversed, List.reverse_reverse]
  have whole : endTagName name.toList = name.toList := by
    simp [endTagName, trimmed]
  rw [readMarkup, cut]
  simp [whole]

end ApiContract.Xml
