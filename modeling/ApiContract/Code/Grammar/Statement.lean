import ApiContract.Code.Grammar.Item

/-!
Statements. One that is an expression ends with a semicolon unless it is the last one or a block.
-/

namespace ApiContract.Grammar

open Rule

/-- A declaration of names. A block for the case that the pattern fails may follow a value that does
not end in braces. -/
def declaration (rules : Rules) : Rule Unit := do
  take "let"
  let _ ← rules.pattern
  if ← accept ":" then rules.anyType
  if ← accept "=" then
    rules.anyExpression
    if !(← get).endsInBraces && (← spells "else") then
      take "else"
      rules.block
  take ";"

/-- Whether a keyword of an item stands ahead. -/
def startsItem (trees : Trees) : Bool :=
  let behind := trees.second
  trees.spellsAny
      ["pub", "extern", "use", "fn", "mod", "type", "struct", "enum", "trait", "impl", "macro"] ||
    trees.spells "crate" && !behind.spells "::" ||
    trees.spells "static" && (behind.spells "mut" || behind.isName) ||
    trees.spells "const" &&
      !(behind.isGroup .braces || behind.spellsAny ["static", "move", "|"] ||
        behind.spells "async" && !trees.third.spellsAny ["unsafe", "extern", "fn"]) ||
    trees.spells "unsafe" && !behind.isGroup .braces ||
    trees.spells "async" && behind.spellsAny ["unsafe", "extern", "fn"] ||
    trees.spells "union" && behind.isName ||
    trees.spells "auto" && behind.spells "trait" ||
    trees.spells "default" && behind.spellsAny ["unsafe", "impl"]

/-- What a macro at the start of a statement is. -/
inductive Invoked where
  | item
  | statement
  | none
  deriving DecidableEq, Repr

/-- A macro that defines something is an item, one with braces a statement of its own unless
something is taken from it. -/
def invoked (behindPath : Option Trees) : Invoked :=
  match behindPath with
  | some trees =>
      let group := trees.second
      let behind := trees.third
      if !trees.spells "!" then .none
      else if group.isName || group.spells "try" then .item
      else if group.isGroup .braces &&
          !(behind.spells "." && !behind.spells ".." || behind.spells "?") then .statement
      else .none
  | none => .none

/-- A statement; it answers whether no other one may follow it. -/
def statement (rules : Rules) : Rule Bool := do
  attributes rules
  let trees ← ahead
  let invoked := invoked (← behind? plainPath)
  if invoked == .statement then
    plainPath
    take "!"
    anyGroup
    accepted ";"
    pure false
  else if trees.spells "let" then
    declaration rules
    pure false
  else if startsItem trees || invoked == .item then
    itemRest rules
    pure false
  else
    let shape ← rules.statementExpression
    let isClosed ← accept ";"
    pure !(isClosed || shape == .block || shape == .invocation true)

/-- The statements of a block. -/
def statements (rules : Rules) : Nat → Rule Unit
  | 0 => do require (← atEnd)
  | fuel + 1 => do
      if ← accept ";" then statements rules fuel
      else if !(← atEnd) then
        let isLast ← statement rules
        require (!isLast || (← atEnd))
        statements rules fuel

end ApiContract.Grammar
