import ApiContract.Code.Grammar.Pattern
import ApiContract.Text.Cut

/-!
Expressions. Comparisons do not chain, nothing follows a range, and a path goes on as a literal of a
structure only where no block may follow it.
-/

namespace ApiContract.Grammar

open Rule

/-- Operators between two operands, longer ones before those they start with. -/
def operators : List (String × Precedence) :=
  [("+=", .assignment), ("-=", .assignment), ("*=", .assignment), ("/=", .assignment),
   ("%=", .assignment), ("^=", .assignment), ("&=", .assignment), ("|=", .assignment),
   ("<<=", .assignment), (">>=", .assignment), ("&&", .and), ("||", .or), ("<<", .shift),
   (">>", .shift), ("==", .comparison), ("<=", .comparison), ("!=", .comparison),
   (">=", .comparison), ("+", .sum), ("-", .sum), ("*", .product), ("/", .product),
   ("%", .product), ("^", .bitXor), ("&", .bitAnd), ("|", .bitOr), ("<", .comparison),
   (">", .comparison)]

def operator? (trees : Trees) : Option (String × Precedence) :=
  operators.find? (trees.spells ·.1)

def isAssignment (trees : Trees) : Bool := trees.spells "=" && !trees.spells "=>"

/-- How strongly what stands ahead binds to the operand before it. -/
def nextPrecedence (trees : Trees) : Precedence :=
  match operator? trees with
  | some (_, precedence) => precedence
  | none =>
      if isAssignment trees then .assignment
      else if trees.spells ".." then .range
      else if trees.spells "as" then .cast
      else .jump

/-- The operand behind an operator, with all that binds stronger. -/
def rightOperand (rules : Rules) (structures : Bool) (precedence : Precedence) : Rule Unit := do
  let shape ← rules.operand structures
  loop (← ahead).length shape
where
  loop : Nat → ExpressionShape → Rule Unit
    | 0, _ => pure ()
    | fuel + 1, shape => do
        let trees ← ahead
        let next := nextPrecedence trees
        if precedence.rank < next.rank ||
            next == precedence && precedence == .assignment then
          let shape ← rules.following structures next shape
          if (← ahead).length < trees.length then loop fuel shape

/-- Whether a range has no end here. -/
def endsOpenRange (structures : Bool) (trees : Trees) : Bool :=
  trees.isEmpty ||
    trees.spellsAny
      [",", ";", "?", "=>", "=", "+", "/", "%", "^", ">", "<=", "!=", "-=", "*=", "&=", "|=",
       "<<=", "as"] ||
    trees.spells "." && !trees.spells ".." || !structures && trees.isGroup .braces

/-- A range from its points on. -/
def rangeFromPoints (rules : Rules) (structures : Bool) : Rule Unit := do
  let isClosed ← rangePoints false
  if isClosed || !(← sees (endsOpenRange structures)) then rightOperand rules structures .range

/-- Whether a field, a call or an index would be taken from what is cast. -/
def followsCast (trees : Trees) : Bool :=
  trees.spells "." && !trees.spells ".." || trees.spells "?" || trees.isGroup .brackets ||
    trees.isGroup .parentheses

/-- What follows an operand, down to the given precedence. -/
def following (rules : Rules) (structures : Bool) (lowest : Precedence) :
    Nat → ExpressionShape → Rule ExpressionShape
  | 0, shape => pure shape
  | fuel + 1, shape => do
      let trees ← ahead
      let reaches (precedence : Precedence) : Bool := lowest.rank ≤ precedence.rank
      if shape == .range then pure shape
      else
        match operator? trees with
        | some (operator, precedence) =>
            if reaches precedence then
              require !(precedence == .comparison && shape == .comparison)
              take operator
              rightOperand rules structures precedence
              following rules structures lowest fuel
                (if precedence == .comparison then .comparison else .other)
            else pure shape
        | none =>
            if reaches .assignment && isAssignment trees then
              take "="
              rightOperand rules structures .assignment
              following rules structures lowest fuel .other
            else if reaches .range && trees.spells ".." then
              rangeFromPoints rules structures
              following rules structures lowest fuel .range
            else if reaches .cast && trees.spells "as" then
              take "as"
              rules.typeOnly
              require !(← sees followsCast)
              following rules structures lowest fuel .other
            else pure shape

/-- The arguments of a call. -/
def callOperands (rules : Rules) : Rule Unit :=
  within .parentheses (items rules.anyExpression)

/-- Positions behind a point that are spelled as one fraction. -/
def positions (spelled : String) : Rule Unit := do
  let parts := Text.split '.' spelled
  let isOpen := parts.getLast? == some ""
  let parts := if isOpen then parts.dropLast else parts
  match parts.mapM position? with
  | some positions =>
      silently (advance 1)
      write (positions.intersperse "." |>.map fun text =>
        if text = "." then Token.mark text else Token.word text)
      if isOpen then write [.mark "."]
  | none => failure

/-- What stands behind a point: positions, a field, or a method with its arguments. -/
def selection (rules : Rules) : Rule Unit := do
  let isDone ← match ← ahead with
    | .literal (.fraction spelled) :: _ => do
        positions spelled
        pure !(Text.endsWith '.' spelled)
    | _ => pure false
  if !isDone then
    if !(← accept "await") then
      let isNamed ← member
      if isNamed then
        let hasArguments ← accept "::"
        if hasArguments then
          angleList (argument rules)
          callOperands rules
        else if ← sees (·.isGroup .parentheses) then callOperands rules

/-- What is taken from an operand: results of calls, fields, elements, and early returns. -/
def trailers (rules : Rules) : Nat → ExpressionShape → Rule ExpressionShape
  | 0, shape => pure shape
  | fuel + 1, shape => do
      let trees ← ahead
      if trees.isGroup .parentheses then
        callOperands rules
        trailers rules fuel .other
      else if trees.spells "." && !trees.spells ".." && shape != .range then
        take "."
        selection rules
        trailers rules fuel .other
      else if trees.isGroup .brackets then
        within .brackets rules.anyExpression
        trailers rules fuel .other
      else if trees.spells "?" && shape != .range then
        take "?"
        trailers rules fuel .other
      else pure shape

/-- Fields of a structure, and maybe the value that has all others. -/
def fieldValues (rules : Rules) : Nat → Rule Unit
  | 0 => do require (← atEnd)
  | fuel + 1 => do
      if !(← atEnd) then
        if ← accept ".." then
          if !(← atEnd) then rules.anyExpression
        else
          attributes rules
          let isNamed ← member
          if !isNamed || (← sees fun trees => trees.spells ":" && !trees.spells "::") then
            take ":"
            rules.anyExpression
          if !(← atEnd) then
            take ","
            fieldValues rules fuel

/-- A path, the invocation of a macro, or the literal of a structure. -/
def pathExpression (rules : Rules) (structures : Bool) : Rule ExpressionShape := do
  let shape? ← qualifiedPath rules true
  let trees ← ahead
  if shape?.any (·.isPlain) && trees.spells "!" && !trees.spells "!=" then
    take "!"
    let inBraces ← sees (·.isGroup .braces)
    anyGroup
    pure (.invocation inBraces)
  else
    if structures && trees.isGroup .braces then
      within .braces do fieldValues rules (← ahead).length
    pure .other

/-- Elements of an array, or one and how often it stands. -/
def elements (rules : Rules) : Rule Unit := do
  if !(← atEnd) then
    rules.anyExpression
    if ← accept ";" then rules.anyExpression
    else if !(← atEnd) then
      take ","
      items rules.anyExpression

/-- Whether a binder stands ahead, and not a loop over elements. -/
def startsBinder (trees : Trees) : Bool :=
  trees.spells "for" && trees.second.spells "<" &&
    (trees.third.isLifetime || trees.third.spells ">")

/-- Whether a function without a name stands ahead. -/
def startsClosure (trees : Trees) : Bool :=
  let behind := trees.second
  trees.spells "|" || trees.spells "move" || startsBinder trees ||
    trees.spells "const" && !behind.isGroup .braces || trees.spells "static" ||
    trees.spells "async" && (behind.spells "|" || behind.spells "move")

def closure (rules : Rules) (structures : Bool) : Rule Unit := do
  if ← spells "for" then binder rules
  accepted "const"
  accepted "static"
  accepted "async"
  accepted "move"
  take "|"
  listUntil (·.spells "|") do
    attributes rules
    let _ ← rules.pattern
    if ← accept ":" then rules.anyType
  take "|"
  if ← accept "->" then
    rules.anyType
    rules.block
  else
    let _ ← rules.expression structures

/-- Whether an expression stands ahead. -/
def startsExpression (trees : Trees) : Bool :=
  trees.isWord || trees.isAnyGroup || trees.isLiteral || trees.isLifetime ||
    trees.spellsAny ["..", "::", "#"] || trees.spells "!" && !trees.spells "!=" ||
    trees.spells "-" && !trees.spells "-=" && !trees.spells "->" ||
    trees.spells "*" && !trees.spells "*=" || trees.spells "|" && !trees.spells "|=" ||
    trees.spells "&" && !trees.spells "&=" ||
    trees.spells "<" && !trees.spells "<=" && !trees.spells "<<="

def optionalExpression (rules : Rules) : Rule Unit := do
  if ← sees startsExpression then rules.anyExpression

/-- A jump out of a loop or a block, maybe with a value. A loop with a label of its own is no value
here. -/
def jump (rules : Rules) (structures : Bool) : Rule Unit := do
  take "break"
  if ← sees Trees.isLifetime then
    lifetime
    require !(← spells ":")
  let takesValue (trees : Trees) : Bool :=
    startsExpression trees && (structures || !trees.isGroup .braces)
  if ← sees takesValue then
    let _ ← rules.expression structures

/-- Conditions with their blocks. -/
def conditional (rules : Rules) : Nat → Rule Unit
  | 0 => failure
  | fuel + 1 => do
      take "if"
      rules.condition
      rules.block
      if ← accept "else" then
        if ← spells "if" then conditional rules fuel else rules.block

/-- A loop, or a block with a label. -/
def loop (rules : Rules) : Rule Unit := do
  if ← accept "while" then rules.condition
  else if ← accept "for" then
    anyPattern rules
    take "in"
    rules.condition
  else accepted "loop"
  attributedBlock rules

/-- A case of a selection; only a block as its result needs no comma behind it. -/
def arm (rules : Rules) : Rule Unit := do
  attributes rules
  anyPattern rules
  if ← accept "if" then rules.anyExpression
  take "=>"
  let shape ← rules.statementExpression
  if shape == .block || (← atEnd) then accepted "," else take ","

/-- A selection by patterns. -/
def selectionByPattern (rules : Rules) : Rule Unit := do
  take "match"
  rules.condition
  within .braces do
    innerAttributes rules
    repeatUntil List.isEmpty (arm rules)

/-- Whether a block or a control structure stands ahead. -/
def startsControl (trees : Trees) : Bool :=
  trees.spellsAny ["if", "while", "loop", "match", "unsafe"] || trees.isLifetime ||
    trees.isGroup .braces || trees.spells "for" && !startsBinder trees ||
    trees.spellsAny ["try", "const"] && trees.second.isGroup .braces

/-- A block or a control structure. -/
def control (rules : Rules) : Rule Unit := do
  let trees ← ahead
  if trees.spells "if" then conditional rules trees.length
  else if trees.spells "match" then selectionByPattern rules
  else if ← accept "try" then rules.block
  else if trees.spellsAny ["unsafe", "const"] then
    anyWord
    attributedBlock rules
  else
    if trees.isLifetime then
      lifetime
      take ":"
    loop rules

/-- Whether a block that runs later stands ahead. -/
def startsAsync (trees : Trees) : Bool :=
  let behind := trees.second
  trees.spells "async" &&
    (behind.isGroup .braces || behind.spells "move" && trees.third.isGroup .braces)

def startsPathExpression (trees : Trees) : Bool :=
  isPlainSegment trees || trees.spells "::" || trees.spells "<" ||
    trees.spells "try" && trees.second.spellsAny ["!", "::"]

/-- An operand without operators around it. -/
def atom (rules : Rules) (structures : Bool) : Rule ExpressionShape := do
  let trees ← ahead
  if startsControl trees then
    control rules
    pure .block
  else if trees.isLiteral then
    literal
    pure .other
  else if startsAsync trees then
    take "async"
    accepted "move"
    rules.block
    pure .other
  else if startsClosure trees then
    closure rules structures
    pure .other
  else if trees.spells "builtin" && trees.second.spells "#" then
    advance 2
    name
    takeIf (·.isGroup .parentheses)
    pure .other
  else if startsPathExpression trees then pathExpression rules structures
  else if trees.spells ".." then
    rangeFromPoints rules structures
    pure .range
  else
    if trees.isGroup .parentheses then within .parentheses (items rules.anyExpression)
    else if trees.isGroup .brackets then within .brackets (elements rules)
    else if trees.spells "break" then jump rules structures
    else if ← accept "continue" then
      if ← sees Trees.isLifetime then lifetime
    else if trees.spellsAny ["return", "yield"] then
      anyWord
      optionalExpression rules
    else if trees.spells "become" then
      verbatim do
        take "become"
        rules.anyExpression
    else if ← accept "let" then
      anyPattern rules
      take "="
      let shape ← rules.operand structures
      let _ ← rules.following structures .comparison shape
    else take "_"
    pure .other

/-- An operand with the operators in front of it and behind it. A range that starts with its points
has no attributes. -/
def operand (rules : Rules) (structures : Bool) : Rule ExpressionShape := do
  let isMarked ← spells "#"
  attributes rules
  if ← accept "&" then
    let trees ← ahead
    if trees.spells "raw" && trees.second.spellsAny ["mut", "const"] then advance 2
    else accepted "mut"
    let _ ← rules.operand structures
    pure .other
  else if (← ahead).spellsAny ["*", "!", "-"] then
    advance 1
    let _ ← rules.operand structures
    pure .other
  else
    let shape ← atom rules structures
    let shape ← trailers rules (← ahead).length shape
    require !(isMarked && shape == .range)
    pure shape

def expression (rules : Rules) (structures : Bool) : Rule ExpressionShape := do
  let shape ← rules.operand structures
  rules.following structures .jump shape

/-- An expression at the start of a statement or behind an arrow: a block or a control structure
ends it, unless a point or a question mark follows. -/
def statementExpression (rules : Rules) : Rule ExpressionShape := do
  attributes rules
  if ← sees startsControl then
    control rules
    let trees ← ahead
    if trees.spells "." && !trees.spells ".." || trees.spells "?" then
      let shape ← trailers rules trees.length .block
      rules.following true .jump shape
    else pure .block
  else
    let shape ← rules.operand true
    rules.following true .jump shape

end ApiContract.Grammar
