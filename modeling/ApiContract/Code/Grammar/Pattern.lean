import ApiContract.Code.Grammar.Path
import ApiContract.Code.Tree.Literal

/-!
Patterns. Three points between the ends of a range are written as two and an equals sign.
-/

namespace ApiContract.Grammar

open Rule

/-- Whether another alternative follows. -/
def hasAlternative (trees : Trees) : Bool :=
  trees.spells "|" && !trees.spells "||" && !trees.spells "|="

/-- Alternatives with bars between them, and maybe in front of the first one. -/
def alternatives (rules : Rules) : Rule PatternShape := do
  let isMarked ← accept "|"
  let shape ← rules.pattern
  if isMarked || (← sees hasAlternative) then
    repeatUntil (!hasAlternative ·) do
      take "|"
      let _ ← rules.pattern
    pure .other
  else pure shape

def anyPattern (rules : Rules) : Rule Unit := do
  let _ ← alternatives rules

/-- The position of an element, as a number without leading zeros. -/
def position? (spelled : String) : Option String := do
  let position ← Literal.value? spelled
  if position ≤ 0xFFFFFFFF then some (toString position) else none

/-- A field by its name, or by its position; it answers whether it has a name. -/
def member : Rule Bool := do
  match ← ahead with
  | .literal (.whole spelled) :: _ =>
      silently (advance 1)
      match position? spelled with
      | some position => write [.word position]
      | none => failure
      pure false
  | _ =>
      name
      pure true

/-- Whether a range has no end here. -/
def endsRange (trees : Trees) : Bool :=
  trees.isEmpty || trees.spellsAny ["|", "=", ",", ";", "if"] ||
    trees.spells ":" && !trees.spells "::"

/-- A block that is a constant. -/
def constantBlock (rules : Rules) : Rule Unit := do
  take "const"
  attributedBlock rules

/-- An end of a range; it answers whether there is one. -/
def rangeEnd (rules : Rules) : Rule Bool := do
  let trees ← ahead
  if endsRange trees then pure false
  else
    if trees.isLiteral then literal
    else if trees.spells "const" then constantBlock rules
    else
      require (isPlainSegment trees || trees.spells "::" || trees.spells "<")
      let _ ← qualifiedPath rules true
    pure true

/-- The points of a range; it answers whether the range needs an end. -/
def rangePoints (three : Bool) : Rule Bool := do
  let trees ← ahead
  if trees.spells "..=" then
    take "..="
    pure true
  else if trees.spells "..." then
    require three
    silently (take "...")
    write [.mark ".", .mark ".", .mark "="]
    pure true
  else
    take ".."
    pure false

/-- A range behind its start. -/
def rangeRest (rules : Rules) : Rule PatternShape := do
  let isClosed ← rangePoints true
  let hasEnd ← rangeEnd rules
  require (hasEnd || !isClosed)
  pure (if hasEnd then .other else .openRange)

/-- A field of a structure and its pattern; a name may stand for itself. -/
def fieldPattern (rules : Rules) : Rule Unit := do
  if (← ahead).spellsAny ["box", "ref", "mut"] then
    accepted "box"
    accepted "ref"
    accepted "mut"
    name
  else
    let isNamed ← member
    if !isNamed || (← spells ":") then
      take ":"
      anyPattern rules

/-- The fields of a structure, and maybe two points for all others. -/
def fieldPatterns (rules : Rules) : Nat → Rule Unit
  | 0 => do require (← atEnd)
  | fuel + 1 => do
      if !(← atEnd) then
        attributes rules
        if !(← accept "..") then
          fieldPattern rules
          if !(← atEnd) then
            take ","
            fieldPatterns rules fuel

/-- A pattern that starts with a path. -/
def pathPattern (rules : Rules) : Rule PatternShape := do
  let shape? ← qualifiedPath rules true
  let trees ← ahead
  if shape?.any (·.isPlain) && trees.spells "!" && !trees.spells "!=" then
    take "!"
    anyGroup
    pure .other
  else if trees.isGroup .braces then
    within .braces do fieldPatterns rules (← ahead).length
    pure .other
  else if trees.isGroup .parentheses then
    within .parentheses (items (anyPattern rules))
    pure .other
  else if trees.spells ".." then rangeRest rules
  else pure .other

/-- A name that is bound, and maybe a pattern for its value. -/
def binding (rules : Rules) : Rule Unit := do
  accepted "ref"
  accepted "mut"
  if !(← accept "self") then name
  if ← accept "@" then
    let _ ← rules.pattern

def startsPathPattern (trees : Trees) : Bool :=
  let behind := trees.second
  trees.isName &&
      (behind.spellsAny ["::", "!", ".."] || behind.isGroup .braces ||
        behind.isGroup .parentheses) ||
    trees.spells "self" && behind.spells "::" ||
    trees.spellsAny ["::", "<", "Self", "super", "crate"]

def pattern (rules : Rules) : Rule PatternShape := do
  let trees ← ahead
  if startsPathPattern trees then pathPattern rules
  else if trees.spells "-" || trees.isLiteral || trees.spells "const" then
    let _ ← rangeEnd rules
    if ← spells ".." then rangeRest rules else pure .other
  else if trees.spells ".." && !trees.spells "..." then
    let isClosed ← rangePoints false
    let hasEnd ← rangeEnd rules
    require (hasEnd || !isClosed)
    pure (if hasEnd then .openRange else .rest)
  else
    if trees.isGroup .parentheses then within .parentheses (items (anyPattern rules))
    else if trees.isGroup .brackets then
      within .brackets <| items do
        let shape ← alternatives rules
        require (shape != .openRange)
    else if ← accept "&" then
      accepted "mut"
      let _ ← rules.pattern
    else if ← accept "box" then
      let _ ← rules.pattern
    else if trees.spells "_" then anyWord
    else binding rules
    pure .other

end ApiContract.Grammar
