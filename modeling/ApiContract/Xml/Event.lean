import ApiContract.Decimal.Notation
import ApiContract.Text.Hexadecimal

/-!
Markup as a sequence of events: tags, texts and references. Comments, processing instructions, the
declaration and the document type are read over; they have to be closed, but what they hold does
not matter. Text is neither trimmed nor changed.
-/

namespace ApiContract.Xml

inductive Event where
  | startTag (name : String) (attributes : List (String × String))
  | emptyTag (name : String) (attributes : List (String × String))
  | endTag (name : String)
  | text (content : String)
  /-- What stands between an ampersand and its semicolon. -/
  | reference (name : String)
  deriving DecidableEq, Repr, Inhabited

def isSpace (c : Char) : Bool := c = ' ' || c = '\n' || c = '\r' || c = '\t'

/-- What stands before the first occurrence of a mark, and what after it. -/
def cutAt (mark : List Char) (before : List Char) : List Char → Option (List Char × List Char)
  | [] => none
  | c :: rest =>
      if mark.isPrefixOf (c :: rest) then
        some (before.reverse, (c :: rest).drop mark.length)
      else cutAt mark (c :: before) rest

/-- The inside of a tag up to the first closing bracket outside quotes. -/
def cutTag (quote : Option Char) (before : List Char) :
    List Char → Option (List Char × List Char)
  | [] => none
  | c :: rest =>
      match quote with
      | some q => cutTag (if c = q then none else some q) (c :: before) rest
      | none =>
          if c = '>' then some (before.reverse, rest)
          else if c = '"' ∨ c = '\'' then cutTag (some c) (c :: before) rest
          else cutTag none (c :: before) rest

/-- The rest after a document type, whose brackets may nest. -/
def skipDocumentType (open_ : Nat) : List Char → Option (List Char)
  | [] => none
  | '>' :: rest => if open_ = 0 then some rest else skipDocumentType (open_ - 1) rest
  | '<' :: rest => skipDocumentType (open_ + 1) rest
  | _ :: rest => skipDocumentType open_ rest

/-- The digits of a base, at least one, as a number. -/
def readBase (base : Nat) (chars : List Char) : Option Nat :=
  if chars.isEmpty then none
  else chars.foldl
    (fun n c =>
      match n, Text.hexValue c with
      | some n, some d => if d < base then some (n * base + d) else none
      | _, _ => none)
    (some 0)

/-- The character a number names: not zero, no surrogate, at most the last code point. -/
def characterOf (n : Nat) : Option Char :=
  if n = 0 ∨ 0x10FFFF < n ∨ (0xD800 ≤ n ∧ n < 0xE000) then none else some (Char.ofNat n)

/-- The character of a numeric reference, after its hash. -/
def numericReference : List Char → Option Char
  | 'x' :: digits => (readBase 16 digits).bind characterOf
  | digits => (readBase 10 digits).bind characterOf

/-- The five predefined names. -/
def predefined (name : String) : Option Char :=
  [("lt", '<'), ("gt", '>'), ("amp", '&'), ("apos", '\''), ("quot", '"')].lookup name

/-- What a reference stands for, if it is numeric or predefined. -/
def resolveReference (name : List Char) : Option Char :=
  match name with
  | '#' :: digits => numericReference digits
  | name => predefined (String.ofList name)

/-- Text with its references resolved; `name` holds the reference being read, in reverse. -/
def unescape (name : Option (List Char)) : List Char → Option (List Char)
  | [] => if name.isSome then none else some []
  | c :: rest =>
      match name with
      | none => if c = '&' then unescape (some []) rest else (unescape none rest).map (c :: ·)
      | some read =>
          if c = ';' then
            match resolveReference read.reverse with
            | some resolved => (unescape none rest).map (resolved :: ·)
            | none => none
          else if c = '&' then none
          else unescape (some (c :: read)) rest

/-- Attributes after the name of a tag: each key once, each value quoted. `fuel` bounds their
number. -/
def readAttributes : Nat → List (String × String) → List Char → Option (List (String × String))
  | 0, _, _ => none
  | fuel + 1, read, chars =>
      match chars.dropWhile isSpace with
      | [] => some read.reverse
      | first :: rest =>
          let keyTail := rest.takeWhile fun c => !(c = '=' || isSpace c)
          let afterKey := (rest.dropWhile fun c => !(c = '=' || isSpace c)).dropWhile isSpace
          match afterKey with
          | '=' :: rest =>
              let key := String.ofList (first :: keyTail)
              if read.any (·.1 == key) then none
              else
                match rest.dropWhile isSpace with
                | quote :: rest =>
                    if quote = '"' ∨ quote = '\'' then
                      match cutAt [quote] [] rest with
                      | some (raw, rest) =>
                          match unescape none raw with
                          | some value =>
                              readAttributes fuel ((key, String.ofList value) :: read) rest
                          | none => none
                      | none => none
                    else none
                | [] => none
          | _ => none

/-- The event of a tag, from its inside. -/
def tagEvent (inside : List Char) : Option Event :=
  let empty := inside.getLast? = some '/'
  let inside := if empty then inside.dropLast else inside
  let name := String.ofList (inside.takeWhile (!isSpace ·))
  let rest := inside.dropWhile (!isSpace ·)
  (readAttributes (rest.length + 1) [] rest).map fun attributes =>
    if empty then .emptyTag name attributes else .startTag name attributes

def trimEnd (chars : List Char) : List Char := (chars.reverse.dropWhile isSpace).reverse

/-- The name in an end tag: blanks may stand before its bracket. -/
def endTagName (inside : List Char) : List Char :=
  let trimmed := trimEnd inside
  if trimmed.isEmpty then inside else trimmed

def lowerChars (chars : List Char) : List Char := chars.map Char.toLower

/-- Reads over markup that opens with an exclamation mark, or gives the text of a section of
character data. -/
def readBang (rest : List Char) : Option (Option Event × List Char) :=
  match rest with
  | '-' :: '-' :: rest => (cutAt "-->".toList [] rest).map fun (_, rest) => (none, rest)
  | '[' :: _ =>
      if "[CDATA[".toList.isPrefixOf rest then
        (cutAt "]]>".toList [] (rest.drop 7)).map fun (content, rest) =>
          (some (.text (String.ofList content)), rest)
      else none
  | _ =>
      if "doctype".toList.isPrefixOf (lowerChars (rest.take 7)) then
        let named := (rest.drop 7).dropWhile isSpace
        if named.head? = some '>' then none
        else (skipDocumentType 0 (rest.drop 7)).map fun rest => (none, rest)
      else none

/-- Markup after its opening bracket, with what follows it. -/
def readMarkup (rest : List Char) : Option (Option Event × List Char) :=
  match rest with
  | '!' :: rest => readBang rest
  | '/' :: rest =>
      (cutTag none [] rest).map fun (inside, rest) =>
        (some (.endTag (String.ofList (endTagName inside))), rest)
  | '?' :: '>' :: _ => none
  | '?' :: rest => (cutAt "?>".toList [] rest).map fun (_, rest) => (none, rest)
  | rest =>
      match cutTag none [] rest with
      | some (inside, rest) => (tagEvent inside).map fun event => (some event, rest)
      | none => none

/-- The events of a text in order; `none` in place of an event ends the sequence where the text is
no markup. Every step consumes a character. -/
def eventsOf : Nat → List Char → List (Option Event)
  | 0, _ => []
  | _, [] => []
  | fuel + 1, '<' :: rest =>
      match readMarkup rest with
      | some (some event, rest) => some event :: eventsOf fuel rest
      | some (none, rest) => eventsOf fuel rest
      | none => [none]
  | fuel + 1, '&' :: rest =>
      let name := rest.takeWhile fun c => !(c = ';' || c = '&' || c = '<')
      match rest.drop name.length with
      | ';' :: rest => some (.reference (String.ofList name)) :: eventsOf fuel rest
      | _ => [none]
  | fuel + 1, c :: rest =>
      let content := c :: rest.takeWhile fun c => !(c = '&' || c = '<')
      some (.text (String.ofList content)) ::
        eventsOf fuel (rest.dropWhile fun c => !(c = '&' || c = '<'))

/-- The events of a document; a byte order mark at its head is no text. -/
def events (text : String) : List (Option Event) :=
  let chars := match text.toList with
    | '\uFEFF' :: rest => rest
    | chars => chars
  eventsOf chars.length chars

end ApiContract.Xml
