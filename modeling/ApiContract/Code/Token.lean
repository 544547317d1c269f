import ApiContract.Failure
import ApiContract.Text.CharClass

/-!
Code as a sequence of tokens. Layout is left to formatters: two tokens are parted by one space
exactly where they would otherwise run into one word.
-/

namespace ApiContract

inductive Token where
  /-- A keyword, a number, a lifetime, or a word that may be blank. -/
  | word (spelled : String)
  /-- A word where only an identifier can stand. -/
  | name (spelled : String)
  /-- Punctuation, or a character literal. -/
  | mark (spelled : String)
  /-- A string literal, by its content. -/
  | literal (content : String)
  deriving DecidableEq, Repr, Inhabited

abbrev Code := List Token

namespace Token

/-- Only the quote, the backslash and line ends are escaped. -/
def escapeChar (c : Char) : List Char :=
  if c = '"' then ['\\', '"']
  else if c = '\\' then ['\\', '\\']
  else if c = '\n' then ['\\', 'n']
  else [c]

def spelling : Token → List Char
  | word spelled | name spelled | mark spelled => spelled.toList
  | literal content => '"' :: content.toList.flatMap escapeChar ++ ['"']

end Token

namespace Code

def isWordChar (c : Char) : Bool := Text.isAlphanumeric c || c == '_'

/-- The text of a code behind a text that ends in a word or does not. -/
def renderAfter (inWord : Bool) : Code → List Char
  | [] => []
  | token :: rest =>
      let spelled := token.spelling
      let space := if inWord && spelled.head?.any isWordChar then [' '] else []
      let ends := (spelled.getLast?.map isWordChar).getD inWord
      space ++ spelled ++ renderAfter ends rest

def render (code : Code) : String := String.ofList (renderAfter false code)

def word (text : String) : Code := [.word text]

/-- An identifier that is declared or selected. -/
def ident (name : String) : Code := [.name name]

def text (content : String) : Code := [.literal content]

/-- A comment on what follows, as an attribute. -/
def doc (comment : String) : Code :=
  [.mark "#", .mark "[", .word "doc", .mark "=", .literal comment, .mark "]"]

/-- A comment on what encloses it. -/
def innerDoc (comment : String) : Code := .mark "#" :: .mark "!" :: (doc comment).drop 1

/-- Codes with commas between them. -/
def commaSeparated : List Code → Code
  | [] => []
  | [code] => code
  | code :: rest => code ++ .mark "," :: commaSeparated rest

/-- Whether every identifier is one: names that lose all their characters leave a blank. -/
def isComplete (code : Code) : Bool :=
  code.all fun
    | .name name => name != "_"
    | _ => true

/-- The code, if it is one. -/
def checked (code : Code) : Except GenerationError Code :=
  if isComplete code then .ok code
  else .error (.code ("Generated code is invalid: " ++ malformed))

end Code

end ApiContract
