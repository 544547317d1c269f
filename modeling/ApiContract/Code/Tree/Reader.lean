import ApiContract.Code.Tree.Literal

/-!
Token trees of a text. Blanks and comments part the trees; comments that document something become
attributes.
-/

namespace ApiContract.Tree

/-- Blanks, among them the two marks of a writing direction. -/
def isBlank (c : Char) : Bool :=
  Text.isBlank c || c.toNat == 0x200e || c.toNat == 0x200f

/-- A line, and what follows it from the line end on. -/
def splitLine : List Char → List Char × List Char
  | [] => ([], [])
  | '\n' :: rest => ([], '\n' :: rest)
  | '\r' :: '\n' :: rest => ([], '\n' :: rest)
  | c :: rest =>
      let (line, rest) := splitLine rest
      (c :: line, rest)

/-- A comment without its end, and what follows it; comments nest. -/
def splitBlock (depth : Nat) : List Char → Option (List Char × List Char)
  | [] => none
  | '/' :: '*' :: rest =>
      (splitBlock (depth + 1) rest).map fun (comment, rest) => ('/' :: '*' :: comment, rest)
  | '*' :: '/' :: rest =>
      if depth = 0 then some ([], rest)
      else (splitBlock (depth - 1) rest).map fun (comment, rest) => ('*' :: '/' :: comment, rest)
  | c :: rest => (splitBlock depth rest).map fun (comment, rest) => (c :: comment, rest)

/-- Whether a return stands without a line end behind it. -/
def hasLoneReturn : List Char → Bool
  | [] => false
  | '\r' :: '\n' :: rest => hasLoneReturn rest
  | c :: rest => c == '\r' || hasLoneReturn rest

/-- A comment as an attribute, the trees in reverse. -/
def documentation? (inner : Bool) (comment : List Char) : Option (List Tree) :=
  if hasLoneReturn comment then none
  else
    let content :=
      [.word "doc", .mark '=' false, .literal (.text (String.ofList comment))]
    let bang := if inner then [.mark '!' false] else []
    some (.group .brackets content :: bang ++ [.mark '#' false])

/-- The trees that a comment stands for, in reverse, and what follows it. The text starts behind the
first slash. -/
def comment? : List Char → Option (List Tree × List Char)
  | '/' :: '!' :: rest => documented true (splitLine rest)
  | '/' :: '/' :: '/' :: rest => some ([], (splitLine rest).2)
  | '/' :: '/' :: rest => documented false (splitLine rest)
  | '/' :: rest => some ([], (splitLine rest).2)
  | '*' :: '!' :: rest => splitBlock 0 rest >>= documented true
  | '*' :: '*' :: '/' :: rest => some ([], rest)
  | '*' :: '*' :: '*' :: rest => plain (splitBlock 0 ('*' :: '*' :: rest))
  | '*' :: '*' :: rest => splitBlock 0 rest >>= documented false
  | '*' :: rest => plain (splitBlock 0 rest)
  | _ => none
where
  documented (inner : Bool) (split : List Char × List Char) : Option (List Tree × List Char) :=
    (documentation? inner split.1).map (·, split.2)
  plain (split : Option (List Char × List Char)) : Option (List Tree × List Char) :=
    split.map fun (_, rest) => ([], rest)

def isCommentStart : List Char → Bool
  | '/' :: '/' :: _ | '/' :: '*' :: _ => true
  | _ => false

def punctuation : List Char := "~!@#$%^&*-=+|;:,<.>/?'".toList

def isMarkStart (chars : List Char) : Bool :=
  chars.head?.any punctuation.contains && !isCommentStart chars

/-- A lifetime, given behind its quote; another quote would make it a broken character. -/
def lifetime? (chars : List Char) : Option (Tree × List Char) := do
  let (name, rest) ← Literal.word? chars
  let isRaw := chars.take 2 == ['r', '#']
  if rest.head? = some '\'' || rest.head? = some '#' && !isRaw then none
  else some (.lifetime name, rest)

/-- Starts of literals: where none was read, no word is. -/
def literalStarts : List (List Char) :=
  ["r\"", "r#\"", "r##", "b\"", "b'", "br\"", "br#", "c\"", "cr\"", "cr#"].map String.toList

/-- A tree that is no group. -/
def leaf? (chars : List Char) : Option (Tree × List Char) :=
  match Literal.read? chars with
  | some (value, rest) => some (.literal value, rest)
  | none =>
      match chars with
      | '\'' :: rest => lifetime? rest
      | c :: rest =>
          if isMarkStart chars then some (.mark c (isMarkStart rest), rest)
          else if literalStarts.any (·.isPrefixOf chars) then none
          else (Literal.word? chars).map fun (spelled, rest) => (.word spelled, rest)
      | [] => none

/-- A group that is not closed yet, by its delimiter, and the trees before it. -/
abbrev OpenGroup := Delimiter × List Tree

/-- The trees of a text; those read so far are given in reverse. Each step takes at least one
character. -/
def read (outer : List OpenGroup) (trees : List Tree) : Nat → List Char → Option (List Tree)
  | 0, _ => none
  | _ + 1, [] => if outer.isEmpty then some trees.reverse else none
  | fuel + 1, c :: rest =>
      if isBlank c then read outer trees fuel rest
      else if isCommentStart (c :: rest) then do
        let (comment, rest) ← comment? rest
        read outer (comment ++ trees) fuel rest
      else
        match Delimiter.ofOpening? c, Delimiter.ofClosing? c with
        | some delimiter, _ => read ((delimiter, trees) :: outer) [] fuel rest
        | none, some delimiter =>
            match outer with
            | (opened, before) :: outer =>
                if opened = delimiter then
                  read outer (.group delimiter trees.reverse :: before) fuel rest
                else none
            | [] => none
        | none, none => do
            let (tree, rest) ← leaf? (c :: rest)
            read outer (tree :: trees) fuel rest

/-- The trees of a text, if it has no broken ones. A mark of the byte order may stand in front. -/
def ofText? (text : String) : Option (List Tree) :=
  let chars := match text.toList with
    | c :: rest => if c.toNat = 0xfeff then rest else c :: rest
    | [] => []
  read [] [] (chars.length + 1) chars

end ApiContract.Tree
