import ApiContract.Proofs.Json.Numbers
import ApiContract.Proofs.Json.Properties

/-!
Compact text is read back as the document it was written from. A document that text carries has
integers of 64 bits, finite floats, each key of an object once, and no more levels of containers
than the reader follows.
-/

namespace ApiContract.Json

open Document (Node)

/-! Strings. -/

theorem hexUnit_escape {c : Char} (control : c.toNat < 32) :
    hexUnit '0' '0' (hexDigit (c.toNat / 16)) (hexDigit (c.toNat % 16)) = some c.toNat := by
  -- Only 32 characters are written as hexadecimal units.
  have table : ∀ code < 32,
      hexUnit '0' '0' (hexDigit (code / 16)) (hexDigit (code % 16)) = some code := by decide
  exact table c.toNat control

theorem readString_plain {c : Char} (notQuote : c ≠ '"') (notBackslash : c ≠ '\\')
    (visible : ¬c.toNat < 32) (read rest : List Char) :
    readString read (c :: rest) = readString (c :: read) rest := by
  rw [readString.eq_def]
  split
  next same => cases same
  next same => cases same; exact absurd rfl notQuote
  next same => cases same; exact absurd rfl notBackslash
  next same => cases same; exact absurd rfl notBackslash
  next same =>
    cases same
    rw [if_neg]
    rintro (control | backslash)
    · exact visible control
    · exact notBackslash backslash

theorem readString_escaped (c : Char) (read rest : List Char) :
    readString read (escapeChar c ++ rest) = readString (c :: read) rest := by
  rw [escapeChar]
  split
  next same => rw [same]; rfl
  next notQuote =>
    split
    next same => rw [same]; rfl
    next notBackslash =>
      split
      next same => rw [same]; rfl
      next =>
        split
        next same => rw [same]; rfl
        next =>
          split
          next same => rw [same]; rfl
          next =>
            split
            next code =>
              have same : c = '\x08' := by rw [← Char.ofNat_toNat c, code]
              rw [same]
              rfl
            next =>
              split
              next code =>
                have same : c = '\x0c' := by rw [← Char.ofNat_toNat c, code]
                rw [same]
                rfl
              next =>
                split
                next control =>
                  have below : c.toNat < 0xD800 := by omega
                  simp only [List.cons_append, List.nil_append, readString, hexUnit_escape control,
                    below, true_or, if_true, Char.ofNat_toNat]
                next visible => exact readString_plain notQuote notBackslash visible read rest

theorem readString_escapes (text read rest : List Char) :
    readString read (text.flatMap escapeChar ++ '"' :: rest) =
      some (some (String.ofList (read.reverse ++ text)), rest) := by
  induction text generalizing read with
  | nil => simp [readString]
  | cons c text ih =>
      rw [List.flatMap_cons, List.append_assoc, readString_escaped, ih]
      simp

theorem readString_quote (text : String) (rest : List Char) :
    ∃ opened, (quote text).toList ++ rest = '"' :: opened ∧
      readString [] opened = some (some text, rest) := by
  refine ⟨text.toList.flatMap escapeChar ++ '"' :: rest, by simp [quote], ?_⟩
  rw [readString_escapes]
  simp

/-! Numbers, by the characters they open with. -/

def OpensNumber (chars : List Char) : Prop :=
  ∃ c rest, chars = c :: rest ∧ (Decimal.isDigit c = true ∨ c = '-')

theorem OpensNumber.append {chars : List Char} (opens : OpensNumber chars) (rest : List Char) :
    OpensNumber (chars ++ rest) := by
  obtain ⟨c, behind, same, start⟩ := opens
  exact ⟨c, behind ++ rest, by rw [same]; rfl, start⟩

theorem int_opens (n : Int) : OpensNumber (toString n).toList := by
  have layout := Decimal.toDigits_layout n.natAbs
  obtain ⟨c, rest, same, digit⟩ := Decimal.pointed_head layout
  rw [Decimal.toList_toString_int, Decimal.intChars]
  split
  next => exact ⟨'-', _, rfl, .inr rfl⟩
  next => exact ⟨c, rest, same, .inl digit⟩

theorem pointed_opens (negative : Bool) {whole fraction : List Char}
    (layout : Decimal.IsLayout whole fraction) :
    OpensNumber ((Decimal.Binary64.sign negative).toList ++ Decimal.pointed whole fraction) := by
  cases negative with
  | true => exact ⟨'-', _, rfl, .inr rfl⟩
  | false =>
      obtain ⟨c, rest, same, digit⟩ := Decimal.pointed_head layout
      exact ⟨c, rest, same, .inl digit⟩

theorem json_opens {x : Decimal.Binary64} (finite : x.isFinite = true) :
    OpensNumber x.json.toList := by
  cases x with
  | nan => cases finite
  | infinite negative => cases finite
  | finite negative mantissa scale canonical =>
      rcases json_forms negative canonical with
        ⟨whole, fraction, zeros, written, -, chars⟩ | ⟨exponent, -, -, chars⟩
      · rw [chars]
        exact pointed_opens negative written.layout
      · obtain ⟨whole, fraction, layout, significand, -⟩ :=
          (Decimal.shortest mantissa scale).significand_layout
        rw [chars, significand, ← List.append_assoc]
        exact (pointed_opens negative layout).append _

theorem isSpace_false {c : Char} (start : Decimal.isDigit c = true ∨ c = '-') :
    isSpace c = false := by
  rcases start with digit | minus
  · have bounds := Decimal.isDigit_iff.mp digit
    have apart : ∀ other : Char, other.toNat < 48 → c ≠ other := fun other small same => by
      rw [same] at bounds
      omega
    simp [isSpace, apart ' ' (by decide), apart '\n' (by decide), apart '\t' (by decide),
      apart '\r' (by decide)]
  · rw [minus]
    rfl

theorem skipSpace_cons {c : Char} (visible : isSpace c = false) (rest : List Char) :
    skipSpace (c :: rest) = c :: rest := by
  simp [skipSpace, visible]

theorem readNode_number {chars : List Char} (opens : OpensNumber chars) (room fuel : Nat) :
    readNode room (fuel + 1) chars = readNumber chars := by
  obtain ⟨c, rest, same, start⟩ := opens
  subst same
  have notLetter : ∀ letter : Char, Decimal.isDigit letter = false → letter ≠ '-' → c ≠ letter := by
    rintro letter noDigit noMinus rfl
    rcases start with digit | minus
    · rw [noDigit] at digit
      cases digit
    · exact noMinus minus
  rw [readNode, skipSpace_cons (isSpace_false start)]
  split
  next same => cases same; exact absurd rfl (notLetter 'n' rfl (by decide))
  next same => cases same; exact absurd rfl (notLetter 't' rfl (by decide))
  next same => cases same; exact absurd rfl (notLetter 'f' rfl (by decide))
  next same => cases same; exact absurd rfl (notLetter '"' rfl (by decide))
  next same => cases same; exact absurd rfl (notLetter '[' rfl (by decide))
  next same => cases same; exact absurd rfl (notLetter '\x7b' rfl (by decide))
  next => rfl

/-- The documents that text carries, with at most `levels` levels of containers. -/
inductive Carried : Nat → Json → Prop
  | null {levels : Nat} : Carried levels .null
  | bool {levels : Nat} {value : Bool} : Carried levels (.bool value)
  | int {levels : Nat} {n : Int} : FitsNumber n → Carried levels (.int n)
  | float {levels : Nat} {x : Decimal.Binary64} : x.isFinite = true → Carried levels (.float x)
  | string {levels : Nat} {text : String} : Carried levels (.string text)
  | array {levels : Nat} {items : List Json} : (∀ item ∈ items, Carried levels item) →
      Carried (levels + 1) (.array items)
  | object {levels : Nat} {members : List (String × Json)} : (members.map (·.1)).Nodup →
      (∀ member ∈ members, Carried levels member.2) → Carried (levels + 1) (.object members)

/-- What a compact document opens with is no blank and closes nothing. -/
theorem compact_opens {levels : Nat} {document : Json} (carried : Carried levels document) :
    ∃ c rest, document.compact.toList = c :: rest ∧ isSpace c = false ∧ c ≠ ']' := by
  have number : ∀ {chars}, OpensNumber chars →
      ∃ c rest, chars = c :: rest ∧ isSpace c = false ∧ c ≠ ']' := by
    rintro chars ⟨c, rest, same, start⟩
    refine ⟨c, rest, same, isSpace_false start, ?_⟩
    rintro rfl
    rcases start with digit | minus
    · cases digit
    · cases minus
  cases carried with
  | null => exact ⟨'n', _, rfl, rfl, by decide⟩
  | @bool _ value => cases value <;> exact ⟨_, _, rfl, rfl, by decide⟩
  | int _ =>
      rw [compact]
      exact number (int_opens _)
  | float finite =>
      rw [compact]
      exact number (json_opens finite)
  | string =>
      rw [compact, quote, String.toList_append, String.toList_append]
      exact ⟨'"', _, rfl, rfl, by decide⟩
  | array _ =>
      rw [compact, String.toList_append, String.toList_append]
      exact ⟨'[', _, rfl, rfl, by decide⟩
  | object _ _ =>
      rw [compact, String.toList_append, String.toList_append]
      exact ⟨'\x7b', _, rfl, rfl, by decide⟩

/-! Reading with enough fuel. A container takes one step more than its longest run of items, and an
item takes two steps for each of its characters at most. -/

def ReadsNodes (fuel : Nat) : Prop :=
  ∀ {room : Nat} {document : Json} {rest : List Char}, Carried room document →
    Text.Halts isNumberPart rest → 2 * document.compact.toList.length ≤ fuel →
    readNode room fuel (document.compact.toList ++ rest) = some (.ofJson document, rest)

def ReadsItems (fuel : Nat) : Prop :=
  ∀ {room : Nat} {items : List Json} {read : List Node} {rest : List Char}, items ≠ [] →
    (∀ item ∈ items, Carried room item) → 2 * (compactItems items).toList.length + 1 ≤ fuel →
    readItems room fuel read ((compactItems items).toList ++ ']' :: rest) =
      some (read.reverse ++ Node.ofJsonItems items, rest)

def ReadsMembers (fuel : Nat) : Prop :=
  ∀ {room : Nat} {members : List (String × Json)} {read : List (Node × Node)} {rest : List Char},
    members ≠ [] → (∀ member ∈ members, Carried room member.2) →
    2 * (compactMembers members).toList.length + 1 ≤ fuel →
    readMembers room fuel read ((compactMembers members).toList ++ '\x7d' :: rest) =
      some (read.reverse ++ Node.ofJsonMembers members, rest)

variable {fuel : Nat}

theorem halts_mark {mark : Char} (other : isNumberPart mark = false) (rest : List Char) :
    Text.Halts isNumberPart (mark :: rest) := Text.halts_cons other

theorem readsItems_succ (nodes : ReadsNodes fuel) (items : ReadsItems fuel) :
    ReadsItems (fuel + 1) := by
  intro room documents read rest some carried enough
  cases documents with
  | nil => exact absurd rfl some
  | cons first others =>
      have head := carried first List.mem_cons_self
      cases others with
      | nil =>
          rw [compactItems] at enough ⊢
          rw [readItems, nodes head (halts_mark rfl rest) (by omega)]
          simp [skipSpace_cons, isSpace, Node.ofJsonItems]
      | cons next others =>
          have tail : ∀ item ∈ next :: others, Carried room item := fun item member =>
            carried item (List.mem_cons_of_mem _ member)
          rw [compactItems] at enough ⊢
          simp only [String.toList_append, List.length_append, List.append_assoc] at enough ⊢
          have comma : ",".toList = [','] := rfl
          rw [comma, List.length_singleton] at enough
          rw [comma, List.singleton_append, readItems, nodes head (halts_mark rfl _) (by omega)]
          simp only [skipSpace_cons (show isSpace ',' = false from rfl)]
          rw [items (List.cons_ne_nil _ _) tail (by omega)]
          simp [Node.ofJsonItems]

theorem readsMembers_succ (nodes : ReadsNodes fuel) (members : ReadsMembers fuel) :
    ReadsMembers (fuel + 1) := by
  intro room entries read rest some carried enough
  cases entries with
  | nil => exact absurd rfl some
  | cons first others =>
      obtain ⟨key, document⟩ := first
      have head : Carried room document := carried (key, document) List.mem_cons_self
      cases others with
      | nil =>
          rw [compactMembers] at enough ⊢
          simp only [String.toList_append, List.length_append, List.append_assoc] at enough ⊢
          have colon : ":".toList = [':'] := rfl
          obtain ⟨opened, quoted, unquoted⟩ := readString_quote key
            (':' :: (document.compact.toList ++ '\x7d' :: rest))
          rw [colon, List.singleton_append, quoted, readMembers,
            skipSpace_cons (show isSpace '"' = false from rfl)]
          simp only [unquoted, skipSpace_cons (show isSpace ':' = false from rfl)]
          rw [nodes head (halts_mark rfl rest) (by omega)]
          simp [skipSpace_cons, isSpace, Node.ofJsonMembers]
      | cons next others =>
          have tail : ∀ member ∈ next :: others, Carried room member.2 := fun member inside =>
            carried member (List.mem_cons_of_mem _ inside)
          rw [compactMembers] at enough ⊢
          simp only [String.toList_append, List.length_append, List.append_assoc] at enough ⊢
          have colon : ":".toList = [':'] := rfl
          have comma : ",".toList = [','] := rfl
          rw [colon, comma, List.length_singleton] at enough
          obtain ⟨opened, quoted, unquoted⟩ := readString_quote key
            (':' :: (document.compact.toList ++
              ',' :: ((compactMembers (next :: others)).toList ++ '\x7d' :: rest)))
          rw [colon, comma, List.singleton_append, List.singleton_append, quoted, readMembers,
            skipSpace_cons (show isSpace '"' = false from rfl)]
          simp only [unquoted, skipSpace_cons (show isSpace ':' = false from rfl)]
          rw [nodes head (halts_mark rfl _) (by omega)]
          simp only [skipSpace_cons (show isSpace ',' = false from rfl)]
          rw [members (List.cons_ne_nil _ _) tail (by omega)]
          simp [Node.ofJsonMembers]

theorem readNode_array {room : Nat} {items : List Json} {rest : List Char}
    (reads : ReadsItems fuel) (carried : ∀ item ∈ items, Carried room item)
    (enough : 2 * (compactItems items).toList.length + 1 ≤ fuel) :
    readNode (room + 1) (fuel + 1) ('[' :: ((compactItems items).toList ++ ']' :: rest)) =
      some (.sequence (Node.ofJsonItems items), rest) := by
  rw [readNode, skipSpace_cons (show isSpace '[' = false from rfl)]
  cases items with
  | nil =>
      rw [compactItems]
      simp [skipSpace_cons, isSpace, readNode.within, Node.ofJsonItems]
  | cons first others =>
      -- The first item is not taken for the closing bracket.
      obtain ⟨c, behind, opens, visible, notClosing⟩ :=
        compact_opens (carried first List.mem_cons_self)
      have head : ∃ behind', (compactItems (first :: others)).toList ++ ']' :: rest = c :: behind' := by
        cases others with
        | nil =>
            rw [compactItems, opens]
            exact ⟨_, rfl⟩
        | cons next others =>
            rw [compactItems, String.toList_append, String.toList_append, opens]
            exact ⟨_, rfl⟩
      have read := @reads room (first :: others) [] rest (List.cons_ne_nil _ _) carried enough
      obtain ⟨behind', same⟩ := head
      rw [same] at read ⊢
      simp only [skipSpace_cons visible]
      split
      next closing => cases closing; exact absurd rfl notClosing
      next => simp [read, readNode.within]

theorem readNode_object {room : Nat} {members : List (String × Json)} {rest : List Char}
    (reads : ReadsMembers fuel) (carried : ∀ member ∈ members, Carried room member.2)
    (enough : 2 * (compactMembers members).toList.length + 1 ≤ fuel) :
    readNode (room + 1) (fuel + 1)
        ('\x7b' :: ((compactMembers members).toList ++ '\x7d' :: rest)) =
      some (.mapping (Node.ofJsonMembers members), rest) := by
  rw [readNode, skipSpace_cons (show isSpace '\x7b' = false from rfl)]
  cases members with
  | nil =>
      rw [compactMembers]
      simp [skipSpace_cons, isSpace, readNode.within, Node.ofJsonMembers]
  | cons first others =>
      obtain ⟨key, document⟩ := first
      have head : ∃ behind, (compactMembers ((key, document) :: others)).toList ++ '\x7d' :: rest =
          '"' :: behind := by
        cases others with
        | nil =>
            rw [compactMembers, quote]
            exact ⟨_, by simp only [String.toList_append, List.append_assoc]; rfl⟩
        | cons next others =>
            rw [compactMembers, quote]
            exact ⟨_, by simp only [String.toList_append, List.append_assoc]; rfl⟩
      have read := @reads room ((key, document) :: others) [] rest (List.cons_ne_nil _ _) carried enough
      obtain ⟨behind, same⟩ := head
      rw [same] at read ⊢
      simp only [skipSpace_cons (show isSpace '"' = false from rfl)]
      simp [read, readNode.within]

theorem readsNodes_succ (items : ReadsItems fuel) (members : ReadsMembers fuel) :
    ReadsNodes (fuel + 1) := by
  intro room document rest carried halts enough
  cases carried with
  | null => rfl
  | @bool _ value => cases value <;> rfl
  | @int _ n fits =>
      rw [compact, readNode_number ((int_opens _).append rest), readNumber_int fits halts]
      rfl
  | float finite =>
      rw [compact, readNode_number ((json_opens finite).append rest), readNumber_json finite halts]
      rfl
  | @string _ text =>
      obtain ⟨opened, quoted, unquoted⟩ := readString_quote text rest
      rw [compact, quoted, readNode, skipSpace_cons (show isSpace '"' = false from rfl)]
      simp [unquoted, Node.ofJson]
  | @array levels documents each =>
      rw [compact] at enough ⊢
      simp only [String.toList_append, List.length_append, List.append_assoc] at enough ⊢
      have brackets : "[".toList = ['['] ∧ "]".toList = [']'] := ⟨rfl, rfl⟩
      rw [brackets.1, brackets.2, List.length_singleton, List.length_singleton] at enough
      rw [brackets.1, brackets.2]
      exact readNode_array items each (by omega)
  | @object levels entries nodup each =>
      rw [compact] at enough ⊢
      simp only [String.toList_append, List.length_append, List.append_assoc] at enough ⊢
      have braces : "\x7b".toList = ['\x7b'] ∧ "\x7d".toList = ['\x7d'] := ⟨rfl, rfl⟩
      rw [braces.1, braces.2, List.length_singleton, List.length_singleton] at enough
      rw [braces.1, braces.2]
      exact readNode_object members each (by omega)

theorem reads_all (fuel : Nat) : ReadsNodes fuel ∧ ReadsItems fuel ∧ ReadsMembers fuel := by
  induction fuel with
  | zero =>
      refine ⟨fun carried _ enough => ?_, fun _ _ enough => absurd enough (by omega),
        fun _ _ enough => absurd enough (by omega)⟩
      obtain ⟨c, rest, opens, -⟩ := compact_opens carried
      rw [opens, List.length_cons] at enough
      omega
  | succ fuel ih =>
      obtain ⟨nodes, items, members⟩ := ih
      exact ⟨readsNodes_succ items members, readsItems_succ nodes items,
        readsMembers_succ nodes members⟩

/-! What the node stands for is the document. -/

theorem jsonItems?_ofJsonItems {items : List Json}
    (each : ∀ item ∈ items, (Node.ofJson item).json? = some item) :
    Node.jsonItems? (Node.ofJsonItems items) = some items := by
  induction items with
  | nil => rfl
  | cons first rest ih =>
      rw [Node.ofJsonItems, Node.jsonItems?, each first List.mem_cons_self,
        ih fun item member => each item (List.mem_cons_of_mem _ member)]

theorem jsonMembers?_ofJsonMembers {members : List (String × Json)}
    (each : ∀ member ∈ members, (Node.ofJson member.2).json? = some member.2) :
    Node.jsonMembers? (Node.ofJsonMembers members) = some members := by
  induction members with
  | nil => rfl
  | cons first rest ih =>
      obtain ⟨key, document⟩ := first
      have head : (Node.ofJson document).json? = some document := each _ List.mem_cons_self
      rw [Node.ofJsonMembers, Node.jsonMembers?, head,
        ih fun member inside => each member (List.mem_cons_of_mem _ inside)]
      rfl

theorem json?_ofJson {levels : Nat} {document : Json} (carried : Carried levels document) :
    (Node.ofJson document).json? = some document := by
  induction carried with
  | null | bool | int | string => rfl
  | float finite => simp [Node.ofJson, Node.json?, Node.finite, finite]
  | array _ ih => rw [Node.ofJson, Node.json?, jsonItems?_ofJsonItems ih, Option.map_some]
  | object _ _ ih => rw [Node.ofJson, Node.json?, jsonMembers?_ofJsonMembers ih, Option.map_some]

theorem normalizeItems_eq {items : List Json} (each : ∀ item ∈ items, item.normalize = item) :
    normalizeItems items = items := by
  induction items with
  | nil => rfl
  | cons first rest ih =>
      rw [normalizeItems, each first List.mem_cons_self,
        ih fun item member => each item (List.mem_cons_of_mem _ member)]

theorem normalizeMembers_eq {kept members : List (String × Json)}
    (nodup : ((kept ++ members).map (·.1)).Nodup)
    (each : ∀ member ∈ members, member.2.normalize = member.2) :
    normalizeMembers kept members = kept ++ members := by
  induction members generalizing kept with
  | nil => rw [normalizeMembers, List.append_nil]
  | cons first rest ih =>
      obtain ⟨key, document⟩ := first
      have fresh : key ∉ kept.map (·.1) := fun old => by
        rw [List.map_append, List.nodup_append] at nodup
        exact nodup.2.2 key old key (by simp) rfl
      have moved : kept ++ (key, document) :: rest = kept ++ [(key, document)] ++ rest := by simp
      have same : document.normalize = document := each _ List.mem_cons_self
      rw [normalizeMembers, same, JsonForm.setMember_fresh fresh, moved]
      exact ih (moved ▸ nodup) fun member inside => each member (List.mem_cons_of_mem _ inside)

theorem normalize_eq {levels : Nat} {document : Json} (carried : Carried levels document) :
    document.normalize = document := by
  induction carried with
  | null | bool | int | float | string => rfl
  | array _ ih => rw [normalize, normalizeItems_eq ih]
  | object nodup _ ih => rw [normalize, @normalizeMembers_eq [] _ nodup ih, List.nil_append]

/-- Compact text spells the tree of the document it was written from. -/
theorem nodeOfText?_compact {document : Json} (carried : Carried depthLimit document) :
    nodeOfText? document.compact = some (.ofJson document) := by
  -- The fuel of the reader is twice the length and two.
  have read := @(reads_all (2 * document.compact.toList.length + 2)).1 _ _ [] carried
    Text.halts_nil (by omega)
  rw [List.append_nil] at read
  simp [nodeOfText?, read, skipSpace]

/-- Compact text holds the document it was written from. -/
theorem valueOfText?_compact {document : Json} (carried : Carried depthLimit document) :
    valueOfText? document.compact = some document := by
  rw [valueOfText?, ofText?, nodeOfText?_compact carried, Option.bind_some, json?_ofJson carried,
    Option.map_some, normalize_eq carried]

end ApiContract.Json
