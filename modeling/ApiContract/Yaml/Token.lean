import ApiContract.Text.Utf8
import ApiContract.Yaml.Scalar
import ApiContract.Yaml.Text

/-!
The tokens of a YAML text: scalars, the marks of collections and of documents, and the names in
front of nodes. What may begin a key is not known to be one before its colon is met, so the token of a key
is put in front of it afterwards.
-/

namespace ApiContract.Yaml

inductive Token where
  | version (major minor : Nat)
  | tagHandle (handle : String) (start : List UInt8)
  | documentStart
  | documentEnd
  | blockSequence
  | blockMapping
  /-- The end of the innermost block. -/
  | blockEnd
  | flowSequence
  | flowSequenceEnd
  | flowMapping
  | flowMappingEnd
  | item
  | comma
  | key
  | value
  | alias (name : String)
  | anchor (name : String)
  | tag (handle : String) (suffix : List UInt8)
  | scalar (text : String) (style : Style)
  deriving DecidableEq, Repr

/-- What may turn out to be a key: where it stands among the tokens and in the text. A key that
stands at the column of its block has to be one. -/
structure KeyStart where
  isRequired : Bool
  token : Nat
  line : Nat
  index : Nat
  column : Nat

/-- How far the tokens of a text are known. -/
structure Lexer where
  /-- More than the characters of the text, so that it bounds the steps of any loop. -/
  size : Nat
  cursor : Cursor
  /-- The tokens, in reverse. -/
  tokens : List Token := []
  count : Nat := 0
  /-- The open flow collections, the innermost first, and the block around them, each with the
  token that may yet be a key of it. -/
  key : Option KeyStart := none
  outer : List (Option KeyStart) := []
  /-- The columns of the open blocks, the innermost first. -/
  blocks : List Nat := []
  /-- Whether a key may begin here. -/
  keyAllowed : Bool := true
  isDone : Bool := false

namespace Lexer

def inFlow (lexer : Lexer) : Bool := !lexer.outer.isEmpty

/-- The least column of what stands inside the innermost block. -/
def least (lexer : Lexer) : Nat :=
  match lexer.blocks with
  | [] => 0
  | column :: _ => column + 1

def push (lexer : Lexer) (token : Token) : Lexer :=
  { lexer with tokens := token :: lexer.tokens, count := lexer.count + 1 }

/-- Puts a token in front of the one with the given number. -/
def insert (lexer : Lexer) (place : Nat) (token : Token) : Lexer :=
  let behind := lexer.count - place
  { lexer with
    tokens := lexer.tokens.take behind ++ token :: lexer.tokens.drop behind
    count := lexer.count + 1 }

/-- The mark ahead as a token. -/
def pushMark (lexer : Lexer) (token : Token) (length : Nat) : Lexer :=
  { lexer.push token with cursor := lexer.cursor.skip length }

/-- Closes the blocks whose column is behind the given one. -/
def closeBlocks (lexer : Lexer) (isBehind : Nat → Bool) : Lexer :=
  if lexer.inFlow then lexer
  else
    let closed := lexer.blocks.takeWhile isBehind
    { lexer with
      blocks := lexer.blocks.dropWhile isBehind
      tokens := List.replicate closed.length .blockEnd ++ lexer.tokens
      count := lexer.count + closed.length }

/-- Whether a block opens at a column, behind that of the innermost one. -/
def opensBlock (lexer : Lexer) (column : Nat) : Bool := !lexer.inFlow && lexer.least ≤ column

/-- Gives up what might have been a key. -/
def dropKey (lexer : Lexer) : Option Lexer :=
  if lexer.key.any (·.isRequired) then none else some { lexer with key := none }

/-- Notes that what begins here may be a key. -/
def saveKey (lexer : Lexer) : Option Lexer :=
  if lexer.keyAllowed then do
    let c := lexer.cursor
    let start : KeyStart :=
      { isRequired := !lexer.inFlow && lexer.blocks.head? == some c.column
        token := lexer.count, line := c.line, index := c.index, column := c.column }
    return { ← lexer.dropKey with key := some start }
  else some lexer

/-- A key ends on the line on which it begins, and within 1024 bytes. -/
def isStale (cursor : Cursor) (start : KeyStart) : Bool :=
  start.line < cursor.line || start.index + 1024 < cursor.index

/-- Gives up what cannot be a key any more. -/
def dropStale (lexer : Lexer) : Option Lexer :=
  let isStale := isStale lexer.cursor
  if (lexer.key :: lexer.outer).any (·.any fun start => isStale start && start.isRequired) then none
  else
    some { lexer with
      key := lexer.key.filter fun start => !isStale start
      outer := lexer.outer.map (·.filter fun start => !isStale start) }

/-- Goes to the next token behind blanks, comments and ends of lines. In blocks a tab is a blank
where no key may begin. -/
def skipBlanks : Nat → Lexer → Lexer
  | 0, lexer => lexer
  | fuel + 1, lexer =>
      let tabs := lexer.inFlow || !lexer.keyAllowed
      let cursor := lexer.cursor.dropWhile fun c => c == ' ' || (tabs && c == '\t')
      let cursor :=
        if cursor.rest.head? == some '#' then cursor.dropWhile fun c => !isBreak c else cursor
      match cursor.lineEnd? with
      | some (_, next) =>
          skipBlanks fuel
            { lexer with cursor := next, keyAllowed := lexer.keyAllowed || !lexer.inFlow }
      | none => { lexer with cursor }

/-- The bound of a document or the first character of a directive ends all blocks. -/
def endBlocks (lexer : Lexer) : Option Lexer := do
  return { ← (lexer.closeBlocks fun _ => true).dropKey with keyAllowed := false }

def openFlow (lexer : Lexer) (token : Token) : Option Lexer := do
  let lexer ← lexer.saveKey
  return { lexer.pushMark token 1 with
    key := none, outer := lexer.key :: lexer.outer, keyAllowed := true }

def closeFlow (lexer : Lexer) (token : Token) : Option Lexer := do
  let lexer ← lexer.dropKey
  let lexer := { lexer.pushMark token 1 with keyAllowed := false }
  match lexer.outer with
  | [] => return lexer
  | key :: outer => return { lexer with key, outer }

/-- Opens a block at the cursor where a mark of its own stands there. In a block the mark has to
stand where a key may begin. -/
def openBlock (lexer : Lexer) (token : Token) : Option Lexer :=
  if lexer.inFlow then some lexer
  else if !lexer.keyAllowed then none
  else
    let column := lexer.cursor.column
    some (if lexer.opensBlock column then
      { lexer.push token with blocks := column :: lexer.blocks } else lexer)

def itemMark (lexer : Lexer) : Option Lexer := do
  let lexer ← (← lexer.openBlock .blockSequence).dropKey
  return { lexer.pushMark .item 1 with keyAllowed := true }

def keyMark (lexer : Lexer) : Option Lexer := do
  let lexer ← (← lexer.openBlock .blockMapping).dropKey
  return { lexer.pushMark .key 1 with keyAllowed := !lexer.inFlow }

/-- The colon behind a key, which is put in its place now, or behind one with a mark of its own. -/
def valueMark (lexer : Lexer) : Option Lexer :=
  match lexer.key with
  | some start =>
      let marked := lexer.insert start.token .key
      let marked :=
        if lexer.opensBlock start.column then
          { marked.insert start.token .blockMapping with blocks := start.column :: lexer.blocks }
        else marked
      some { marked.pushMark .value 1 with key := none, keyAllowed := false }
  | none => do
      let lexer ← lexer.openBlock .blockMapping
      return { lexer.pushMark .value 1 with keyAllowed := !lexer.inFlow }

/-- The characters that may follow the name of a node. -/
def endsName (chars : List Char) : Bool :=
  endsWord chars ||
    chars.head?.any fun c =>
      c == '?' || c == ':' || c == ',' || c == ']' || c == '\x7d' || c == '%' || c == '@' ||
        c == '\x60'

/-- The name of a node behind its mark. -/
def name (lexer : Lexer) (token : String → Token) : Option Lexer := do
  let lexer ← lexer.saveKey
  let (name, after) := (lexer.cursor.skip 1).takeWhile isWordChar
  if name.isEmpty || !endsName after.rest then none
  else return { lexer.push (token (String.ofList name)) with cursor := after, keyAllowed := false }

def isUriChar (verbatim : Bool) (c : Char) : Bool :=
  isWordChar c || ";/?:@&=+$.!~*'()".toList.contains c ||
    (verbatim && (c == ',' || c == '[' || c == ']'))

/-- The bytes of a tag, of which some are written as a percent sign and two digits. -/
def uriBytes (verbatim : Bool) : Nat → List UInt8 → Cursor → Option (List UInt8 × Cursor)
  | 0, _, _ => none
  | fuel + 1, read, cursor =>
      match cursor.rest with
      | '%' :: rest =>
          match rest with
          | a :: b :: _ =>
              match Text.natOfBase? 16 [a, b] with
              | some n => uriBytes verbatim fuel (UInt8.ofNat n :: read) (cursor.skip 3)
              | none => none
          | _ => none
      | c :: _ =>
          if isUriChar verbatim c then
            uriBytes verbatim fuel ((String.utf8EncodeChar c).reverse ++ read) (cursor.skip 1)
          else some (read.reverse, cursor)
      | [] => some (read.reverse, cursor)

def uri (verbatim : Bool) (cursor : Cursor) : Option (List UInt8 × Cursor) :=
  uriBytes verbatim (cursor.rest.length + 1) [] cursor

/-- The handle of a tag: a word between exclamation marks, or as much of it as there is. -/
def handle (cursor : Cursor) : List Char × Cursor :=
  let (word, after) := (cursor.skip 1).takeWhile isWordChar
  match after.rest with
  | '!' :: _ => ('!' :: word ++ ['!'], after.skip 1)
  | _ => ('!' :: word, after)

/-- A tag: its handle and what follows that. A tag in angle brackets has no handle. -/
def tagParts (cursor : Cursor) : Option (String × List UInt8 × Cursor) :=
  match cursor.rest with
  | '!' :: '<' :: _ =>
      match uri true (cursor.skip 2) with
      | some (suffix, after) =>
          if suffix.isEmpty || after.rest.head? != some '>' then none
          else some ("", suffix, after.skip 1)
      | none => none
  | _ =>
      let (start, after) := handle cursor
      match uri false after with
      | none => none
      | some (suffix, after) =>
          if start.length > 1 && start.getLast? == some '!' then
            (if suffix.isEmpty then none else some (String.ofList start, suffix, after))
          else
            let suffix := Text.utf8 (String.ofList (start.drop 1)) ++ suffix
            if suffix.isEmpty then some ("", Text.utf8 "!", after) else some ("!", suffix, after)

def tag (lexer : Lexer) : Option Lexer := do
  let lexer ← lexer.saveKey
  let (handle, suffix, after) ← tagParts lexer.cursor
  if endsWord after.rest || (lexer.inFlow && after.rest.head? == some ',') then
    return { lexer.push (.tag handle suffix) with cursor := after, keyAllowed := false }
  else none

/-- At most nine digits. -/
def number (cursor : Cursor) : Option (Nat × Cursor) :=
  let (digits, after) := cursor.takeWhile Decimal.isDigit
  if digits.isEmpty || 9 < digits.length then none else some (Decimal.natOfDigits digits, after)

def versionDirective (cursor : Cursor) : Option (Token × Cursor) := do
  let (major, after) ← number cursor
  if after.rest.head? != some '.' then none
  else
    let (minor, after) ← number (after.skip 1)
    return (.version major minor, after)

def tagDirective (cursor : Cursor) : Option (Token × Cursor) :=
  if cursor.rest.head? != some '!' then none
  else
    let (word, after) := handle cursor
    if word.length > 1 && word.getLast? != some '!' then none
    else if !after.rest.head?.any isSpace then none
    else
      match uri true (after.dropWhile isSpace) with
      | some (start, after) =>
          if start.isEmpty || !endsWord after.rest then none
          else some (.tagHandle (String.ofList word) start, after)
      | none => none

/-- A directive, alone on its line but for a comment. -/
def directive (lexer : Lexer) : Option Lexer := do
  let lexer ← lexer.endBlocks
  let (name, after) := (lexer.cursor.skip 1).takeWhile isWordChar
  if !endsWord after.rest then none
  else
    let argument := after.dropWhile isSpace
    let (token, after) ← match String.ofList name with
      | "YAML" => versionDirective argument
      | "TAG" => tagDirective argument
      | _ => none
    let after := after.dropWhile isSpace
    let after :=
      if after.rest.head? == some '#' then after.dropWhile fun c => !isBreak c else after
    match after.rest, after.lineEnd? with
    | [], _ => return { lexer.push token with cursor := after }
    | _, some (_, next) => return { lexer.push token with cursor := next }
    | _, none => none

def bound (lexer : Lexer) (token : Token) : Option Lexer := do
  return (← lexer.endBlocks).pushMark token 3

def blockScalar (lexer : Lexer) (folded : Bool) : Option Lexer := do
  let lexer ← lexer.dropKey
  let (text, after) ← blockText folded lexer.least lexer.size (lexer.cursor.skip 1)
  let style := if folded then .quoted else .literal
  return { lexer.push (.scalar (String.ofList text) style) with cursor := after, keyAllowed := true }

def quotedScalar (lexer : Lexer) (double : Bool) : Option Lexer := do
  let lexer ← lexer.saveKey
  let start := lexer.cursor.skip 1
  let (text, after) ← quotedText double lexer.size [] start
  return { lexer.push (.scalar (String.ofList text) .quoted) with
    cursor := after, keyAllowed := false }

def plainScalar (lexer : Lexer) : Option Lexer := do
  let lexer ← lexer.saveKey
  let plain ← plainText lexer.inFlow lexer.least lexer.size [] {} lexer.cursor
  return { lexer.push (.scalar (String.ofList plain.text) .plain) with
    cursor := plain.after, keyAllowed := plain.isBroken }

/-- The characters with which no plain scalar begins. -/
def isIndicator (c : Char) : Bool := "-?:,[]\x7b\x7d#&*!|>'\"%@\x60".toList.contains c

def startsPlain (inFlow : Bool) (c : Char) (rest : List Char) : Bool :=
  !(isSpace c || isBreak c || isIndicator c) || (c == '-' && !rest.head?.any isSpace) ||
    (!inFlow && (c == '?' || c == ':') && !endsWord rest)

/-- The end of the text ends all blocks. -/
def finish (lexer : Lexer) : Option Lexer := do
  return { ← lexer.endBlocks with isDone := true }

/-- The token at the cursor. -/
def token (lexer : Lexer) : Option Lexer :=
  let cursor := lexer.cursor
  match cursor.rest with
  | [] => lexer.finish
  | c :: rest =>
      if cursor.column = 0 ∧ c = '%' then lexer.directive
      else if cursor.isAtMarker '-' then lexer.bound .documentStart
      else if cursor.isAtMarker '.' then lexer.bound .documentEnd
      else
        match c with
        | '[' => lexer.openFlow .flowSequence
        | '\x7b' => lexer.openFlow .flowMapping
        | ']' => lexer.closeFlow .flowSequenceEnd
        | '\x7d' => lexer.closeFlow .flowMappingEnd
        | ',' => do return { (← lexer.dropKey).pushMark .comma 1 with keyAllowed := true }
        | '*' => lexer.name .alias
        | '&' => lexer.name .anchor
        | '!' => lexer.tag
        | '\'' => lexer.quotedScalar false
        | '"' => lexer.quotedScalar true
        | _ =>
            if c = '-' ∧ endsWord rest then lexer.itemMark
            else if c = '?' ∧ (lexer.inFlow ∨ endsWord rest) then lexer.keyMark
            else if c = ':' ∧ (lexer.inFlow ∨ endsWord rest) then lexer.valueMark
            else if c = '|' ∧ !lexer.inFlow then lexer.blockScalar false
            else if c = '>' ∧ !lexer.inFlow then lexer.blockScalar true
            else if startsPlain lexer.inFlow c rest then lexer.plainScalar
            else none

/-- Adds the next token. -/
def next (lexer : Lexer) : Option Lexer :=
  let lexer := lexer.skipBlanks lexer.size
  match lexer.dropStale with
  | none => none
  | some lexer =>
      let column := lexer.cursor.column
      (lexer.closeBlocks fun block => column < block).token

def run : Nat → Lexer → Option (List Token)
  | 0, _ => none
  | fuel + 1, lexer => if lexer.isDone then some lexer.tokens.reverse else lexer.next.bind (run fuel)

end Lexer

/-- The tokens of a text. A mark of the byte order may stand in front of it. Every step but the last
passes over a character. -/
def tokens? (text : String) : Option (List Token) :=
  let chars := text.toList
  if chars.all isAllowed then
    let start : Cursor := { rest := chars }
    let cursor := if chars.head? == some '\ufeff' then start.skip 1 else start
    Lexer.run (chars.length + 2) { size := chars.length + 2, cursor }
  else none

end ApiContract.Yaml
