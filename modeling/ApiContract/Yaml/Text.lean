import ApiContract.Text.Hexadecimal

/-!
A place in a YAML text: the characters ahead, and the line and the column of the first of them.
Structure hangs on columns, so every step keeps count.
-/

namespace ApiContract.Yaml

/-- The ends of lines: line feeds, carriage returns, and the three separators beyond ASCII. -/
def isBreak (c : Char) : Bool :=
  c == '\n' || c == '\r' || c == '\u0085' || c == '\u2028' || c == '\u2029'

def isSpace (c : Char) : Bool := c == ' ' || c == '\t'

/-- Letters, digits, the underscore and the hyphen: what names are made of. -/
def isWordChar (c : Char) : Bool := c.isAlphanum || c == '_' || c == '-'

/-- Whether a word ends here: with the text, at a blank, or at the end of a line. -/
def endsWord : List Char → Bool
  | [] => true
  | c :: _ => isSpace c || isBreak c

/-- The characters a text may hold: no controls but the tab and the ends of lines. -/
def isAllowed (c : Char) : Bool :=
  let n := c.toNat
  n = 9 || n = 10 || n = 13 || (32 ≤ n && n ≤ 0x7E) || n = 0x85 || (0xA0 ≤ n && n ≤ 0xD7FF) ||
    (0xE000 ≤ n && n ≤ 0xFFFD) || 0x10000 ≤ n

def byteCount (chars : List Char) : Nat := chars.foldl (fun n c => n + c.utf8Size) 0

structure Cursor where
  rest : List Char
  /-- The count of bytes passed over. -/
  index : Nat := 0
  line : Nat := 0
  column : Nat := 0

namespace Cursor

/-- Passes over characters of one line. -/
def skip (cursor : Cursor) (count : Nat) : Cursor :=
  { cursor with
    rest := cursor.rest.drop count
    index := cursor.index + byteCount (cursor.rest.take count)
    column := cursor.column + count }

/-- The longest run of characters of one line that pass a test. -/
def takeWhile (cursor : Cursor) (test : Char → Bool) : List Char × Cursor :=
  let run := cursor.rest.takeWhile test
  (run, cursor.skip run.length)

def dropWhile (cursor : Cursor) (test : Char → Bool) : Cursor := (cursor.takeWhile test).2

/-- Where a line ends here, the character its end stands for in a text, and the next line. -/
def lineEnd? (cursor : Cursor) : Option (Char × Cursor) :=
  match cursor.rest with
  | '\r' :: '\n' :: rest => some ('\n', next rest 2)
  | c :: rest =>
      if isBreak c then
        some (if c == '\u2028' || c == '\u2029' then c else '\n', next rest c.utf8Size)
      else none
  | [] => none
where
  next (rest : List Char) (bytes : Nat) : Cursor :=
    { rest, index := cursor.index + bytes, line := cursor.line + 1, column := 0 }

/-- Whether the line begins with these three characters as a word of their own. -/
def isAtMarker (cursor : Cursor) (mark : Char) : Bool :=
  cursor.column == 0 &&
    match cursor.rest with
    | a :: b :: c :: rest => a == mark && b == mark && c == mark && endsWord rest
    | _ => false

/-- Whether three hyphens or three points, the bounds of documents, stand here. -/
def isAtBound (cursor : Cursor) : Bool := cursor.isAtMarker '-' || cursor.isAtMarker '.'

end Cursor

/-- A stretch of blanks and ends of lines inside a scalar. -/
structure Gap where
  /-- The blanks, of a stretch on one line. -/
  blanks : List Char := []
  /-- What the ends of lines stand for. -/
  ends : List Char := []
  /-- Whether an end of a line in front of the stretch was written off. -/
  escaped : Bool := false

namespace Gap

def isBroken (gap : Gap) : Bool := gap.escaped || !gap.ends.isEmpty

/-- What a gap adds to its text: its blanks, or a blank for one end of a line, or the ends of lines
after the first. Ends that are characters of their own are kept. -/
def text (gap : Gap) : List Char :=
  if gap.escaped then gap.ends
  else
    match gap.ends with
    | [] => gap.blanks
    | ['\n'] => [' ']
    | '\n' :: others => others
    | ends => ends

/-- Reads on in a gap. Behind the end of a line no tab may stand in front of column `least`. -/
def read (least : Nat) : Nat → Gap → Cursor → Option (Gap × Cursor)
  | 0, _, _ => none
  | fuel + 1, gap, cursor =>
      let (blanks, after) := cursor.takeWhile isSpace
      let spaces := (blanks.takeWhile (· == ' ')).length
      if gap.isBroken && spaces < blanks.length && cursor.column + spaces < least then none
      else
        match after.lineEnd? with
        | some (c, next) => read least fuel { gap with ends := gap.ends ++ [c] } next
        | none => some (if gap.isBroken then gap else { gap with blanks }, after)

end Gap

end ApiContract.Yaml

/-!
The texts of YAML scalars: plain, in single or double quotes, and as blocks of lines. Ends of lines
are folded in all but literal blocks.
-/

namespace ApiContract.Yaml

open Text (natOfBase?)

def isFlowMark (c : Char) : Bool :=
  c == ',' || c == '[' || c == ']' || c == '\x7b' || c == '\x7d'

/-- The characters up to a blank or to a mark that ends a plain scalar. In flow collections a colon
may not stand before a mark. -/
def plainRun (flow : Bool) (read : List Char) : List Char → Option (List Char)
  | [] => some read.reverse
  | c :: rest =>
      if isSpace c || isBreak c then some read.reverse
      else if flow && c == ':' && rest.head?.any (fun d => isFlowMark d || d == '?') then none
      else if (c == ':' && endsWord rest) || (flow && isFlowMark c) then some read.reverse
      else plainRun flow (c :: read) rest

/-- A plain scalar: its text, whether the cursor went on to another line behind it, and the
cursor. -/
structure PlainText where
  text : List Char
  isBroken : Bool
  after : Cursor

/-- A plain scalar; in a block its later lines stand at the column `least` or behind it. `read`
holds what was read, in reverse, `gap` what stands between that and the cursor. -/
def plainText (flow : Bool) (least : Nat) : Nat → List Char → Gap → Cursor → Option PlainText
  | 0, _, _, _ => none
  | fuel + 1, read, gap, cursor =>
      let stop : PlainText := { text := read.reverse, isBroken := gap.isBroken, after := cursor }
      if cursor.isAtBound || cursor.rest.head? == some '#' then some stop
      else
        match plainRun flow [] cursor.rest with
        | none => none
        | some [] => some stop
        | some run =>
            let read := run.reverse ++ gap.text.reverse ++ read
            match Gap.read least fuel {} (cursor.skip run.length) with
            | none => none
            | some (gap, after) =>
                let stop : PlainText := { text := read.reverse, isBroken := gap.isBroken, after }
                if gap.blanks.isEmpty && !gap.isBroken then some stop
                else if !flow && after.column < least then some stop
                else plainText flow least fuel read gap after

/-- The character a letter behind a backslash stands for. -/
def escapes : List (Char × Char) :=
  [('0', '\x00'), ('a', '\x07'), ('b', '\x08'), ('t', '\t'), ('\t', '\t'), ('n', '\n'),
   ('v', '\x0b'), ('f', '\x0c'), ('r', '\x0d'), ('e', '\x1b'), (' ', ' '), ('"', '"'), ('/', '/'),
   ('\\', '\\'), ('N', '\u0085'), ('_', '\u00a0'), ('L', '\u2028'), ('P', '\u2029')]

/-- How many hexadecimal digits follow a letter behind a backslash. -/
def hexCount : List (Char × Nat) := [('x', 2), ('u', 4), ('U', 8)]

def charOfHex? (count : Nat) (chars : List Char) : Option Char :=
  let digits := chars.take count
  if digits.length < count then none
  else (natOfBase? 16 digits).bind fun n => if n.isValidChar then some (Char.ofNat n) else none

/-- A scalar behind its opening quote, which is a double one or a single one; `read` holds what was
read, in reverse. -/
def quotedText (double : Bool) : Nat → List Char → Cursor → Option (List Char × Cursor)
  | 0, _, _ => none
  | fuel + 1, read, cursor =>
      if cursor.isAtBound then none
      else
        match double, cursor.rest with
        | _, [] => none
        | false, '\'' :: '\'' :: _ => quotedText double fuel ('\'' :: read) (cursor.skip 2)
        | false, '\'' :: _ => some (read.reverse, cursor.skip 1)
        | true, '"' :: _ => some (read.reverse, cursor.skip 1)
        | true, '\\' :: letter :: rest =>
            match (cursor.skip 1).lineEnd?, escapes.lookup letter, hexCount.lookup letter with
            | some (_, next), _, _ => across fuel read next true
            | none, some c, _ => quotedText double fuel (c :: read) (cursor.skip 2)
            | none, none, some count =>
                match charOfHex? count rest with
                | some c => quotedText double fuel (c :: read) (cursor.skip (2 + count))
                | none => none
            | none, none, none => none
        | true, ['\\'] => none
        | _, c :: _ =>
            if isSpace c || isBreak c then across fuel read cursor false
            else quotedText double fuel (c :: read) (cursor.skip 1)
where
  /-- Goes on behind a gap. -/
  across (fuel : Nat) (read : List Char) (cursor : Cursor) (escaped : Bool) :
      Option (List Char × Cursor) :=
    match Gap.read 0 fuel { escaped } cursor with
    | some (gap, after) => quotedText double fuel (gap.text.reverse ++ read) after
    | none => none

/-- What becomes of the ends of lines at the end of a block scalar. -/
inductive Chomping where
  | strip
  | clip
  | keep

structure BlockHeader where
  chomping : Chomping := .clip
  increment : Option Nat := none

/-- The marks behind the sign of a block scalar, each at most once and in either order. -/
def BlockHeader.read (chars : List Char) : BlockHeader × Nat :=
  match chars with
  | a :: b :: _ =>
      match chomping? a, digit? a, chomping? b, digit? b with
      | some chomping, _, _, some n => (⟨chomping, some n⟩, 2)
      | some chomping, _, _, none => (⟨chomping, none⟩, 1)
      | none, some n, some chomping, _ => (⟨chomping, some n⟩, 2)
      | none, some n, none, _ => (⟨.clip, some n⟩, 1)
      | none, none, _, _ => ({}, 0)
  | [a] =>
      match chomping? a, digit? a with
      | some chomping, _ => (⟨chomping, none⟩, 1)
      | none, some n => (⟨.clip, some n⟩, 1)
      | none, none => ({}, 0)
  | [] => ({}, 0)
where
  chomping? (c : Char) : Option Chomping :=
    if c = '+' then some .keep else if c = '-' then some .strip else none
  digit? (c : Char) : Option Nat :=
    if '1' ≤ c ∧ c ≤ '9' then some (c.toNat - 48) else none

/-- Passes over the indentation of a line of a block scalar and over empty lines before it, which
may be shorter. Where the indentation is open yet it is the deepest one found, `least` at the
least. A tab may not stand for indentation. -/
def blockGap (least : Nat) (indentation : Option Nat) :
    Nat → (deepest : Nat) → (ends : List Char) → Cursor → Option (Nat × List Char × Cursor)
  | 0, _, _, _ => none
  | fuel + 1, deepest, ends, cursor =>
      let spaces := (cursor.rest.takeWhile (· == ' ')).length
      let after := cursor.skip (match indentation with
        | some n => min spaces (n - cursor.column)
        | none => spaces)
      let deepest := max deepest after.column
      let open? := match indentation with
        | some n => after.column < n
        | none => true
      if open? && after.rest.head? == some '\t' then none
      else
        match after.lineEnd? with
        | some (c, next) => blockGap least indentation fuel deepest (ends ++ [c]) next
        | none => some (indentation.getD (max (max deepest least) 1), ends, after)

/-- What was read of a block scalar: its text in reverse, the end of its last line, and the ends of
the empty lines behind that. -/
structure BlockText where
  read : List Char := []
  ended : List Char := []
  ends : List Char := []
  after : Cursor

/-- The lines of a block scalar; `blank` says whether the line before began with a blank. -/
def blockLines (folded : Bool) (indentation : Nat) :
    Nat → (blank : Bool) → BlockText → Option BlockText
  | 0, _, _ => none
  | fuel + 1, blank, block =>
      let cursor := block.after
      if cursor.column ≠ indentation ∨ cursor.rest.isEmpty then some block
      else
        let startsBlank := cursor.rest.head?.any isSpace
        let between :=
          if folded && block.ended == ['\n'] && !blank && !startsBlank then
            (if block.ends.isEmpty then [' '] else block.ends)
          else block.ended ++ block.ends
        let (line, behind) := cursor.takeWhile fun c => !isBreak c
        let (ended, next) := match behind.lineEnd? with
          | some (c, next) => ([c], next)
          | none => ([], behind)
        match blockGap 0 (some indentation) fuel 0 [] next with
        | none => none
        | some (_, ends, after) =>
            blockLines folded indentation fuel startsBlank
              { read := line.reverse ++ between.reverse ++ block.read, ended, ends, after }

/-- A block scalar behind its sign; `least` is the least column its lines may have. -/
def blockText (folded : Bool) (least fuel : Nat) (cursor : Cursor) :
    Option (List Char × Cursor) :=
  let (header, marks) := BlockHeader.read cursor.rest
  let behind := (cursor.skip marks).dropWhile isSpace
  let behind :=
    if behind.rest.head? == some '#' then behind.dropWhile fun c => !isBreak c else behind
  match behind.rest, behind.lineEnd? with
  | _ :: _, none => none
  | _, some (_, next) => lines header next
  | [], none => lines header behind
where
  lines (header : BlockHeader) (start : Cursor) : Option (List Char × Cursor) :=
    match blockGap least (header.increment.map (least - 1 + ·)) fuel 0 [] start with
    | none => none
    | some (indentation, ends, after) =>
        (blockLines folded indentation fuel false { ends, after }).map fun block =>
          let text := match header.chomping with
            | .strip => block.read
            | .clip => block.ended.reverse ++ block.read
            | .keep => block.ends.reverse ++ block.ended.reverse ++ block.read
          (text.reverse, block.after)

end ApiContract.Yaml
