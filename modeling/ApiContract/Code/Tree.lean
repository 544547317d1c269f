import ApiContract.Code.Token
import ApiContract.Naming

/-!
Token trees: words, lifetimes, literals and single punctuation characters, and groups of trees
between matching delimiters. What stands ahead in a sequence of trees is told by tests on its start.
-/

namespace ApiContract

inductive Delimiter where
  | parentheses
  | brackets
  | braces
  deriving DecidableEq, Repr, Inhabited

namespace Delimiter

def opening : Delimiter → Char
  | parentheses => '('
  | brackets => '['
  | braces => '\x7b'

def closing : Delimiter → Char
  | parentheses => ')'
  | brackets => ']'
  | braces => '\x7d'

def ofOpening? (c : Char) : Option Delimiter :=
  [parentheses, brackets, braces].find? (·.opening == c)

def ofClosing? (c : Char) : Option Delimiter :=
  [parentheses, brackets, braces].find? (·.closing == c)

end Delimiter

inductive Literal where
  /-- A string, by its content. -/
  | text (content : String)
  | whole (spelled : String)
  | fraction (spelled : String)
  /-- A character, a byte, or a string of bytes. -/
  | other (spelled : String)
  deriving DecidableEq, Repr, Inhabited

namespace Literal

def token : Literal → Token
  | text content => .literal content
  | whole spelled | fraction spelled | other spelled => .word spelled

def isNumber : Literal → Bool
  | whole _ | fraction _ => true
  | text _ | other _ => false

end Literal

inductive Tree where
  /-- A keyword or an identifier, which may be a raw one. -/
  | word (spelled : String)
  | lifetime (name : String)
  /-- A punctuation character; it is joint if another one follows without a blank. -/
  | mark (char : Char) (joint : Bool)
  | literal (value : Literal)
  | group (delimiter : Delimiter) (content : List Tree)
  deriving Repr, Inhabited

namespace Tree

mutual

/-- The tokens of a tree. -/
def code : Tree → Code
  | word spelled => [.word spelled]
  | lifetime name => [.mark ("'" ++ name)]
  | mark char _ => [.mark char.toString]
  | literal value => [value.token]
  | group delimiter content =>
      .mark delimiter.opening.toString :: (codeOf content ++ [.mark delimiter.closing.toString])

/-- The tokens of trees in a row. -/
def codeOf : List Tree → Code
  | [] => []
  | tree :: rest => tree.code ++ codeOf rest

end

def isBraces : Tree → Bool
  | group .braces _ => true
  | _ => false

end Tree

abbrev Trees := List Tree

namespace Trees

/-- Whether punctuation stands ahead: all its characters but the last one are joint. -/
def marks : List Char → Trees → Bool
  | [], _ => true
  | [c], .mark char _ :: _ => c == char
  | c :: text, .mark char joint :: rest => c == char && joint && marks text rest
  | _, _ => false

/-- Whether a keyword or punctuation stands ahead. -/
def spells (text : String) (trees : Trees) : Bool :=
  if text.toList.any Code.isWordChar then
    match trees with
    | .word spelled :: _ => spelled == text
    | _ => false
  else marks text.toList trees

/-- What stands behind the first tree. -/
def second (trees : Trees) : Trees := trees.drop 1

/-- What stands behind the first two trees. -/
def third (trees : Trees) : Trees := trees.drop 2

def spellsAny (texts : List String) (trees : Trees) : Bool := texts.any (spells · trees)

/-- Whether a word stands ahead, be it a keyword. -/
def isWord : Trees → Bool
  | .word _ :: _ => true
  | _ => false

/-- Words that name nothing. The keyword of a later edition is still a name. -/
def reserved : List String := "_" :: Naming.keywords.filter (· != "gen")

/-- Whether an identifier stands ahead. -/
def isName : Trees → Bool
  | .word spelled :: _ => !reserved.contains spelled
  | _ => false

def isLifetime : Trees → Bool
  | .lifetime _ :: _ => true
  | _ => false

/-- Whether a literal stands ahead: a truth value is one, and so is a number with its sign. -/
def isLiteral : Trees → Bool
  | .literal _ :: _ => true
  | .word spelled :: _ => spelled == "true" || spelled == "false"
  | .mark '-' _ :: .literal value :: _ => value.isNumber
  | _ => false

def isText : Trees → Bool
  | .literal (.text _) :: _ => true
  | _ => false

def isGroup (delimiter : Delimiter) : Trees → Bool
  | .group found _ :: _ => found == delimiter
  | _ => false

def isAnyGroup : Trees → Bool
  | .group _ _ :: _ => true
  | _ => false

end Trees

end ApiContract
