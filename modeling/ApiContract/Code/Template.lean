import ApiContract.Code.Token

/-!
Templates: code written as text, with holes that start with a dollar sign. Lines that start with
three slashes, or two and an exclamation mark, are comments kept as attributes.
-/

namespace ApiContract.Template

inductive Piece where
  | token (token : Token)
  | hole (name : String)
  deriving DecidableEq, Repr

/-- The content of a string literal behind its opening quote, and what follows the closing one. -/
def readText (content : List Char) : List Char → List Char × List Char
  | [] => (content.reverse, [])
  | '"' :: rest => (content.reverse, rest)
  | '\\' :: 'n' :: rest => readText ('\n' :: content) rest
  | '\\' :: c :: rest => readText (c :: content) rest
  | c :: rest => readText (c :: content) rest

def isLineEnd (c : Char) : Bool := c == '\n'

def line (chars : List Char) : String := String.ofList (chars.takeWhile (!isLineEnd ·))

def afterLine (chars : List Char) : List Char := chars.dropWhile (!isLineEnd ·)

def leadingWord (chars : List Char) : String := String.ofList (chars.takeWhile Code.isWordChar)

def afterWord (chars : List Char) : List Char := chars.dropWhile Code.isWordChar

def tokens (code : Code) : List Piece := code.map .token

/-- The pieces of a template; each step takes at least one character. -/
def scan : Nat → List Char → List Piece
  | 0, _ => []
  | _, [] => []
  | fuel + 1, '/' :: '/' :: '/' :: rest =>
      tokens (Code.doc (line rest)) ++ scan fuel (afterLine rest)
  | fuel + 1, '/' :: '/' :: '!' :: rest =>
      tokens (Code.innerDoc (line rest)) ++ scan fuel (afterLine rest)
  | fuel + 1, '$' :: rest => .hole (leadingWord rest) :: scan fuel (afterWord rest)
  | fuel + 1, '"' :: rest =>
      let (content, rest) := readText [] rest
      .token (.literal (String.ofList content)) :: scan fuel rest
  | fuel + 1, 'b' :: '\'' :: c :: '\'' :: rest =>
      .token (.word (String.ofList ['b', '\'', c, '\''])) :: scan fuel rest
  | fuel + 1, '\'' :: c :: '\'' :: rest =>
      .token (.mark (String.ofList ['\'', c, '\''])) :: scan fuel rest
  | fuel + 1, c :: rest =>
      if c.isWhitespace then scan fuel rest
      else if Code.isWordChar c then
        .token (.word (leadingWord (c :: rest))) :: scan fuel (afterWord rest)
      else .token (.mark c.toString) :: scan fuel rest

/-- A piece with its hole filled; a hole without a part keeps its name. -/
def fillPiece (parts : List (String × Code)) : Piece → Code
  | .token token => [token]
  | .hole name => (parts.lookup name).getD [.word name]

end ApiContract.Template

namespace ApiContract.Code

/-- The code of a template with its holes filled. -/
def write (template : String) (parts : List (String × Code)) : Code :=
  let chars := template.toList
  (Template.scan chars.length chars).flatMap (Template.fillPiece parts)

/-- The code of a template without holes. -/
def plain (template : String) : Code := write template []

/-- Codes one after another. -/
def sequence (codes : List Code) : Code := codes.flatten

end ApiContract.Code
