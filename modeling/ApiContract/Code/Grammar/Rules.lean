import ApiContract.Code.Tree

/-!
Rules of a grammar over token trees. A rule takes trees from what stands ahead and writes their
tokens, which it may also write in another order, change or leave out; it fails where the trees do
not fit.
-/

namespace ApiContract

/-- How far the trees have been read. -/
structure Reading where
  ahead : Trees
  /-- The tokens written so far, in reverse. -/
  written : Code
  /-- Whether the tree taken last was a group in braces. -/
  endsInBraces : Bool
  deriving Inhabited

abbrev Rule := StateT Reading Option

namespace Rule

def ahead : Rule Trees := return (← get).ahead

/-- Whether what stands ahead passes a test. -/
def sees (test : Trees → Bool) : Rule Bool := return test (← ahead)

def atEnd : Rule Bool := sees List.isEmpty

def require (condition : Bool) : Rule Unit := if condition then pure () else failure

def write (code : Code) : Rule Unit :=
  modify fun reading => { reading with written := code.reverse ++ reading.written }

/-- Takes that many trees. -/
def advance (count : Nat) : Rule Unit := do
  let taken := (← ahead).take count
  require (taken.length == count)
  write (Tree.codeOf taken)
  modify fun reading =>
    { reading with
      ahead := reading.ahead.drop count, endsInBraces := taken.getLast?.any Tree.isBraces }

def spells (text : String) : Rule Bool := sees (·.spells text)

/-- The number of trees that a keyword or punctuation is made of. -/
def width (text : String) : Nat := if text.toList.any Code.isWordChar then 1 else text.length

def take (text : String) : Rule Unit := do
  require (← spells text)
  advance (width text)

/-- Takes a keyword or punctuation if it stands ahead. -/
def accept (text : String) : Rule Bool := do
  if ← spells text then
    take text
    pure true
  else pure false

def accepted (text : String) : Rule Unit := do
  let _ ← accept text

/-- Takes one tree that passes a test. -/
def takeIf (test : Trees → Bool) : Rule Unit := do
  require (← sees test)
  advance 1

def name : Rule Unit := takeIf Trees.isName

/-- A word, be it a keyword. -/
def anyWord : Rule Unit := takeIf Trees.isWord

def lifetime : Rule Unit := takeIf Trees.isLifetime

/-- A literal; a number may have a sign. -/
def literal : Rule Unit := do
  require (← sees Trees.isLiteral)
  if ← spells "-" then advance 2 else advance 1

def anyGroup : Rule Unit := takeIf Trees.isAnyGroup

/-- Runs a rule on the content of the group ahead, all of which it has to take. -/
def within {α : Type} (delimiter : Delimiter) (rule : Rule α) : Rule α := do
  match ← ahead with
  | .group found content :: rest =>
      require (found == delimiter)
      write [.mark delimiter.opening.toString]
      modify fun reading => { reading with ahead := content }
      let result ← rule
      require (← atEnd)
      write [.mark delimiter.closing.toString]
      modify fun reading => { reading with ahead := rest, endsInBraces := delimiter == .braces }
      pure result
  | _ => failure

/-- Runs a rule and answers the code it would write. -/
def capture {α : Type} (rule : Rule α) : Rule (α × Code) := do
  let written := (← get).written
  modify fun reading => { reading with written := [] }
  let result ← rule
  let code := (← get).written.reverse
  modify fun reading => { reading with written }
  pure (result, code)

/-- Runs a rule and writes nothing. -/
def silently {α : Type} (rule : Rule α) : Rule α := return (← capture rule).1

/-- Runs a rule and writes the trees it takes as they are. -/
def verbatim (rule : Rule Unit) : Rule Unit := do
  let before ← ahead
  silently rule
  write (Tree.codeOf (before.take (before.length - (← ahead).length)))

/-- Runs a rule and writes the trees it takes as they are where it answers so. -/
def verbatimIf (rule : Rule Bool) : Rule Bool := do
  let before ← ahead
  let (isVerbatim, code) ← capture rule
  if isVerbatim then write (Tree.codeOf (before.take (before.length - (← ahead).length)))
  else write code
  pure isVerbatim

/-- What would stand ahead behind a rule, if it would succeed. -/
def behind? (rule : Rule Unit) : Rule (Option Trees) :=
  return (rule.run (← get)).map (·.2.ahead)

/-- Runs a rule on as many items as there are; each item takes a tree. -/
def repeatUntil (stop : Trees → Bool) (item : Rule Unit) : Rule Unit := do
  loop (← ahead).length
where
  loop : Nat → Rule Unit
    | 0 => do require (← sees stop)
    | fuel + 1 => do
        if ← sees stop then pure ()
        else
          item
          loop fuel

/-- Items with commas between them, and maybe behind the last one. -/
def listUntil (stop : Trees → Bool) (item : Rule Unit) : Rule Unit :=
  repeatUntil stop do
    item
    if !(← sees stop) then take ","

/-- Items with commas between them that fill a group. -/
def items (item : Rule Unit) : Rule Unit := listUntil List.isEmpty item

/-- An item of a list that is written in another order than it is read. -/
structure Entry where
  /-- Whether it is written before those that are not so. -/
  leads : Bool
  code : Code
  hasComma : Bool

/-- Leading entries first; where the last of them has no comma it gets one. -/
def arranged (entries : List Entry) : Code :=
  let leading := entries.filter (·.leads)
  let others := entries.filter (!·.leads)
  let code (entry : Entry) : Code := entry.code ++ (if entry.hasComma then [.mark ","] else [])
  let comma :=
    if leading.getLast?.any (!·.hasComma) && !others.isEmpty then [.mark ","] else []
  leading.flatMap code ++ comma ++ others.flatMap code

/-- The items of a list in angle brackets; an item tells whether it is a lifetime. -/
def angleEntries (item : Rule Bool) : Rule (List Entry) := do
  loop (← ahead).length
where
  loop : Nat → Rule (List Entry)
    | 0 => failure
    | fuel + 1 => do
        if ← spells ">" then pure []
        else
          let (leads, code) ← capture item
          if ← spells ">" then pure [⟨leads, code, false⟩]
          else
            silently (take ",")
            return ⟨leads, code, true⟩ :: (← loop fuel)

/-- A list in angle brackets, the lifetimes first. -/
def angleList (item : Rule Bool) : Rule Unit := do
  take "<"
  write (arranged (← angleEntries item))
  take ">"

/-- Items with a mark between them up to where the test stops, and maybe behind the last one;
without the mark the items end. -/
def separatedUntil (stop : Trees → Bool) (mark : String) (item : Rule Unit) : Rule Unit := do
  loop (← ahead).length
where
  loop : Nat → Rule Unit
    | 0 => do require (← sees stop)
    | fuel + 1 => do
        if ← sees stop then pure ()
        else
          item
          if ← accept mark then loop fuel

end Rule

end ApiContract

/-!
The rules that refer to each other, and what they tell about what they took. Each rule is defined
over the others; the whole grammar ties them together.
-/

namespace ApiContract

/-- What a type turned out to be, where that decides what may follow it. -/
inductive TypeShape where
  /-- A path of one segment, which may also be the name of an associated type. -/
  | segment
  | path
  /-- Bounds without a keyword: whether there is just one without a plus sign, and whether that one
  stands in parentheses. -/
  | bounds (single parenthesized : Bool)
  | other
  deriving DecidableEq, Repr, Inhabited

/-- What an expression turned out to be, where that decides what may follow it. -/
inductive ExpressionShape where
  /-- A block or a control structure: a statement without a semicolon. -/
  | block
  | invocation (inBraces : Bool)
  | range
  | comparison
  | other
  deriving DecidableEq, Repr, Inhabited

inductive PatternShape where
  /-- A range without one of its ends. -/
  | openRange
  /-- Two points that stand for any number of elements. -/
  | rest
  | other
  deriving DecidableEq, Repr, Inhabited

/-- How strongly operators bind. -/
inductive Precedence where
  | jump | assignment | range | or | and | binding | comparison
  | bitOr | bitXor | bitAnd | shift | sum | product | cast
  deriving DecidableEq, Repr, Inhabited

def Precedence.rank : Precedence → Nat
  | jump => 0
  | assignment => 1
  | range => 2
  | or => 3
  | and => 4
  | binding => 5
  | comparison => 6
  | bitOr => 7
  | bitXor => 8
  | bitAnd => 9
  | shift => 10
  | sum => 11
  | product => 12
  | cast => 13

/-- What may be said of a bound. -/
structure BoundKind where
  /-- Whether captured parameters may be given. -/
  captures : Bool
  /-- Whether it may be one for constants. -/
  constant : Bool
  deriving DecidableEq, Repr, Inhabited

structure Rules where
  /-- A type; whether plus signs between bounds may follow it. -/
  type (plus : Bool) : Rule TypeShape
  /-- A bound; it answers whether that is a trait. -/
  bound (kind : BoundKind) : Rule Bool
  /-- An expression; whether a path may go on as a literal of a structure. -/
  expression (structures : Bool) : Rule ExpressionShape
  /-- An operand with the operators in front of it and behind it. -/
  operand (structures : Bool) : Rule ExpressionShape
  /-- What follows an operand, down to the given precedence. -/
  following (structures : Bool) (lowest : Precedence) (left : ExpressionShape) :
    Rule ExpressionShape
  /-- An expression at the start of a statement. -/
  statementExpression : Rule ExpressionShape
  /-- A pattern that is no alternative of others. -/
  pattern : Rule PatternShape
  /-- The statements of a block. -/
  statements : Rule Unit
  item : Rule Unit
  /-- Fields with names, in braces. -/
  fields : Rule Unit
  /-- What is imported. -/
  imported : Rule Unit

/-- Rules that take nothing. -/
def Rules.none : Rules where
  type _ := failure
  bound _ := failure
  expression _ := failure
  operand _ := failure
  following _ _ _ := failure
  statementExpression := failure
  pattern := failure
  statements := failure
  item := failure
  fields := failure
  imported := failure

namespace Rules

def anyType (rules : Rules) : Rule Unit := do
  let _ ← rules.type true

/-- A type that ends before a plus sign. -/
def typeOnly (rules : Rules) : Rule Unit := do
  let _ ← rules.type false

/-- A bound as most places have it. -/
def anyBound (rules : Rules) : Rule Unit := do
  let _ ← rules.bound ⟨false, true⟩

/-- A bound of a trait object. -/
def objectBound (rules : Rules) : Rule Unit := do
  let _ ← rules.bound ⟨false, false⟩

def anyExpression (rules : Rules) : Rule Unit := do
  let _ ← rules.expression true

/-- An expression that ends before an opening brace. -/
def condition (rules : Rules) : Rule Unit := do
  let _ ← rules.expression false

/-- Statements in braces. -/
def block (rules : Rules) : Rule Unit := Rule.within .braces rules.statements

end Rules

end ApiContract
