import ApiContract.Code.Grammar.Rules

/-!
Attributes, paths, their arguments, bounds and generic parameters. Lifetimes among arguments are
written first, and a colon without bounds behind it is left out.
-/

namespace ApiContract.Grammar

open Rule

/-- A segment of a path without arguments. -/
def isPlainSegment (trees : Trees) : Bool :=
  trees.isName || trees.spellsAny ["super", "self", "Self", "crate"]

/-- A path without any arguments. -/
def plainPath : Rule Unit := do
  accepted "::"
  takeIf isPlainSegment
  repeatUntil (!·.spells "::") do
    take "::"
    takeIf isPlainSegment

/-- The content of an attribute. -/
def attributeContent (rules : Rules) : Rule Unit := do
  if !(← accept "unsafe") then plainPath
  if ← sees Trees.isAnyGroup then anyGroup
  else if (← spells "=") && !(← ahead).spellsAny ["==", "=>"] then
    take "="
    require !((← spells "#") && (← ahead).second.isGroup .brackets)
    let value := do
      literal
      require (← atEnd)
    if (← behind? value).isSome then value else rules.anyExpression

/-- Attributes of what follows. -/
def attributes (rules : Rules) : Rule Unit :=
  repeatUntil (!·.spells "#") do
    take "#"
    within .brackets (attributeContent rules)

/-- Attributes of what encloses them. -/
def innerAttributes (rules : Rules) : Rule Unit :=
  repeatUntil (fun trees => !(trees.spells "#" && trees.second.spells "!")) do
    take "#"
    take "!"
    within .brackets (attributeContent rules)

/-- A block that may have attributes. -/
def attributedBlock (rules : Rules) : Rule Unit :=
  within .braces do
    innerAttributes rules
    rules.statements

def isConstant (trees : Trees) : Bool := trees.isLiteral || trees.isGroup .braces

/-- A constant as an argument: a literal or a block. -/
def constant (rules : Rules) : Rule Unit := do
  if ← sees Trees.isLiteral then literal else attributedBlock rules

/-- What a path turned out to be. -/
structure PathShape where
  isSegment : Bool
  /-- Whether no segment has arguments. -/
  isPlain : Bool
  /-- Whether the last segment has none. -/
  endsPlain : Bool
  deriving DecidableEq, Repr

/-- Whether a path goes on with another segment. -/
def hasMoreSegments (trees : Trees) : Bool :=
  trees.spells "::" && !trees.third.isGroup .parentheses

/-- The type behind an arrow, if there is one. -/
def result (rules : Rules) (plus : Bool) : Rule Unit := do
  if ← accept "->" then
    let _ ← rules.type plus

/-- Arguments in parentheses, and the result. -/
def callArguments (rules : Rules) : Rule Unit := do
  within .parentheses (items rules.anyType)
  result rules false

/-- Parameters that a type captures. -/
def captured : Rule Unit := do
  take "use"
  angleList do
    if ← sees Trees.isLifetime then
      lifetime
      pure true
    else
      takeIf fun trees => trees.isName || trees.spells "Self"
      pure false

/-- An argument in angle brackets: a lifetime, a constant, a type, or the value or the bounds of an
associated type. It answers whether it is a lifetime. -/
def argument (rules : Rules) : Rule Bool := do
  let trees ← ahead
  if trees.isLifetime && !trees.second.spells "+" then
    lifetime
    pure true
  else
    if isConstant trees then constant rules
    else if (← rules.type true) == .segment then
      if ← accept "=" then
        if ← sees isConstant then constant rules else rules.anyType
      else if ← accept ":" then separatedUntil (·.spellsAny [",", ">"]) "+" rules.anyBound
    pure false

/-- Whether arguments in angle brackets stand ahead. In an expression an angle bracket compares
unless two colons are in front of it. -/
def hasArguments (inExpression : Bool) (trees : Trees) : Bool :=
  !inExpression && trees.spells "<" && !trees.spells "<=" && !trees.spells "<<=" ||
    trees.spells "::" && trees.third.spells "<"

/-- A segment of a path; it answers whether it has arguments. -/
def segment (rules : Rules) (inExpression : Bool) : Rule Bool := do
  if (← ahead).spellsAny ["super", "self", "crate", "try"] then
    anyWord
    pure false
  else
    if ← spells "Self" then anyWord else name
    if ← sees (hasArguments inExpression) then
      accepted "::"
      angleList (argument rules)
      pure true
    else pure false

/-- The segments that follow a path so far, while the test finds more of them. -/
def moreSegments (rules : Rules) (inExpression : Bool) (more : Trees → Bool) :
    Nat → PathShape → Rule PathShape
  | 0, shape => pure shape
  | fuel + 1, shape => do
      if ← sees more then
        take "::"
        let hasArguments ← segment rules inExpression
        moreSegments rules inExpression more fuel
          ⟨false, shape.isPlain && !hasArguments, !hasArguments⟩
      else pure shape

def path (rules : Rules) (inExpression : Bool) : Rule PathShape := do
  let isRooted ← accept "::"
  let hasArguments ← segment rules inExpression
  moreSegments rules inExpression hasMoreSegments (← ahead).length
    ⟨!isRooted, !hasArguments, !hasArguments⟩

/-- A path, which may start at a type in angle brackets; only one that does not has a shape. -/
def qualifiedPath (rules : Rules) (inExpression : Bool) : Rule (Option PathShape) := do
  if ← accept "<" then
    rules.anyType
    if ← accept "as" then
      let _ ← path rules false
    take ">"
    take "::"
    let hasArguments ← segment rules inExpression
    let _ ← moreSegments rules inExpression (·.spells "::") (← ahead).length
      ⟨false, !hasArguments, !hasArguments⟩
    pure none
  else return some (← path rules inExpression)

/-- Bounds behind a colon; the colon is left out if none follow. -/
def declaredBounds (stop : Trees → Bool) (bound : Rule Unit) : Rule Unit := do
  let (hasColon, colon) ← capture (accept ":")
  if hasColon then
    let (_, bounds) ← capture (separatedUntil stop "+" bound)
    if !bounds.isEmpty then write (colon ++ bounds)

/-- A generic parameter; it answers whether it is a lifetime. -/
def parameter (rules : Rules) : Rule Bool := do
  attributes rules
  let isEnd (trees : Trees) : Bool := trees.isEmpty || trees.spellsAny [",", ">"]
  if ← sees Trees.isLifetime then
    lifetime
    declaredBounds isEnd lifetime
    pure true
  else
    if ← accept "const" then
      name
      take ":"
      rules.anyType
      if ← accept "=" then
        require (← sees isConstant)
        constant rules
    else
      name
      declaredBounds (fun trees => isEnd trees || trees.spells "=") rules.anyBound
      if ← accept "=" then rules.anyType
    pure false

/-- The binder of a higher-ranked type. -/
def binder (rules : Rules) : Rule Unit := do
  take "for"
  take "<"
  listUntil (·.spells ">") do
    let _ ← parameter rules
  take ">"

/-- Generic parameters, lifetimes first; without any the brackets are left out. -/
def generics (rules : Rules) : Rule Unit := do
  if ← spells "<" then
    silently (take "<")
    let entries ← angleEntries do
      if ← spells "_" then
        anyWord
        pure false
      else parameter rules
    silently (take ">")
    if !entries.isEmpty then write (.mark "<" :: (arranged entries ++ [.mark ">"]))

/-- A trait as a bound. It answers whether it is one for constants, which is written as it is; else
a binder is written in front of a question mark. -/
def traitBound (rules : Rules) (kind : BoundKind) : Rule Bool := do
  let hasBinder ← spells "for"
  if hasBinder then binder rules
  let isOptional ← sees (·.isGroup .brackets)
  if isOptional then within .brackets (take "const")
  let isConstant ← if isOptional then pure true else accept "const"
  require (!isConstant || kind.constant)
  let (isMaybe, mark) ← capture (accept "?")
  if isMaybe && !hasBinder then
    if ← spells "for" then binder rules
  write mark
  let shape ← path rules false
  if shape.endsPlain then
    let trees ← ahead
    if trees.isGroup .parentheses then callArguments rules
    else if trees.spells "::" && trees.third.isGroup .parentheses then
      silently (take "::")
      callArguments rules
  pure isConstant

/-- A bound; it answers whether that is a trait. -/
def bound (rules : Rules) (kind : BoundKind) : Rule Bool := do
  let trees ← ahead
  if trees.isLifetime then
    lifetime
    pure false
  else if trees.spells "use" then
    require kind.captures
    captured
    pure false
  else
    let _ ← verbatimIf
      (if trees.isGroup .parentheses then within .parentheses (traitBound rules kind)
       else traitBound rules kind)
    pure true

/-- Whether another bound may follow a plus sign. -/
def startsBound (kind : BoundKind) (trees : Trees) : Bool :=
  trees.isWord || trees.spells "::" || trees.spells "?" || trees.isLifetime ||
    trees.isGroup .parentheses || kind.constant && trees.isGroup .brackets

/-- Bounds behind the first one, the last of which may be missing; it answers whether one of them is
a trait. -/
def moreBounds (rules : Rules) (kind : BoundKind) : Nat → Rule Bool
  | 0 => pure false
  | fuel + 1 => do
      if ← accept "+" then
        if ← sees (startsBound kind) then
          let isTrait ← rules.bound kind
          return (← moreBounds rules kind fuel) || isTrait
        else pure false
      else pure false

/-- Bounds of a type, one of them a trait. -/
def bounds (rules : Rules) (plus : Bool) (kind : BoundKind) : Rule Unit := do
  let isTrait ← rules.bound kind
  let hasMore ← if plus then moreBounds rules kind (← ahead).length else pure false
  require (isTrait || hasMore)

/-- Whether the predicates of an item end here. -/
def endsPredicate (trees : Trees) : Bool :=
  trees.isEmpty || trees.isGroup .braces || trees.spellsAny [",", ";", "="] ||
    trees.spells ":" && !trees.spells "::"

/-- A predicate on a type or a lifetime. -/
def predicate (rules : Rules) : Rule Unit := do
  let trees ← ahead
  if trees.isLifetime && trees.second.spells ":" then
    lifetime
    take ":"
    separatedUntil endsPredicate "+" lifetime
  else
    if trees.spells "for" then binder rules
    rules.anyType
    take ":"
    separatedUntil endsPredicate "+" rules.anyBound

/-- Predicates on the parameters of an item; without any the keyword is left out. -/
def whereClause (rules : Rules) : Rule Unit := do
  let (isThere, keyword) ← capture (accept "where")
  if isThere then
    let (_, predicates) ← capture (separatedUntil endsPredicate "," (predicate rules))
    if !predicates.isEmpty then write (keyword ++ predicates)

end ApiContract.Grammar
