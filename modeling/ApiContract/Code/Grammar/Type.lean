import ApiContract.Code.Grammar.Path

/-!
Types. Plus signs join bounds only where the place of the type lets them.
-/

namespace ApiContract.Grammar

open Rule

/-- An argument of a function type, whose first may be the receiver. A mutable receiver is written
as it is. -/
def functionArgument (rules : Rules) (isFirst : Bool) : Rule Unit := do
  let isMutableReceiver (trees : Trees) : Bool :=
    isFirst && trees.spells "mut" && trees.second.spells "self"
  let _ ← verbatimIf do
    let isMutable ← sees isMutableReceiver
    if isMutable then take "mut"
    let trees ← ahead
    let isReceiver := isFirst && trees.spells "self"
    let isNamed := (trees.isName || trees.spells "_" || isReceiver) &&
      trees.second.spells ":" && !trees.second.spells "::"
    if isNamed then advance 2
    if !(isNamed && isReceiver) && isMutableReceiver (← ahead) then
      advance 2
      pure true
    else if isMutable && !isNamed then
      take "self"
      pure true
    else
      rules.anyType
      pure isMutable

/-- Whether an argument stands for any number of them. -/
def isVariadic (trees : Trees) : Bool :=
  trees.spells "..." ||
    (trees.isName || trees.spells "_") && trees.second.spells ":" && trees.third.spells "..."

def functionArguments (rules : Rules) (isFirst : Bool) : Nat → Rule Unit
  | 0 => do require (← atEnd)
  | fuel + 1 => do
      if !(← atEnd) then
        attributes rules
        if ← sees isVariadic then
          if !(← spells "...") then advance 2
          take "..."
          accepted ","
        else
          functionArgument rules isFirst
          if !(← atEnd) then
            take ","
            functionArguments rules false fuel

/-- How a function is called from outside. -/
def callingConvention : Rule Unit := do
  if ← accept "extern" then
    if ← sees Trees.isText then literal

/-- A function type behind its binder. -/
def functionType (rules : Rules) : Rule Unit := do
  accepted "unsafe"
  callingConvention
  take "fn"
  within .parentheses do functionArguments rules true (← ahead).length
  result rules false

/-- The bounds of a type behind the first one; it answers whether no plus sign was there. -/
def objectBounds (rules : Rules) (plus : Bool) : Rule Bool := do
  if plus && (← spells "+") then
    let _ ← moreBounds rules ⟨false, false⟩ (← ahead).length
    pure false
  else pure true

/-- Bounds behind the first one, none of which may be missing. -/
def allBounds (rules : Rules) : Rule Unit := do
  repeatUntil (!·.spells "+") do
    take "+"
    rules.objectBound

/-- A type that is a path, or the bounds or the invocation that start with one. -/
def pathType (rules : Rules) (plus hasBinder : Bool) (binder : Code) : Rule TypeShape := do
  let (shape?, code) ← capture (qualifiedPath rules false)
  let trees ← ahead
  match shape? with
  | none =>
      write code
      pure .other
  | some shape =>
      if shape.isPlain && trees.spells "!" && !trees.spells "!=" then
        write code
        take "!"
        anyGroup
        pure .other
      else if hasBinder || plus && trees.spells "+" then
        write (binder ++ code)
        return .bounds (← objectBounds rules plus) false
      else
        write code
        pure (if shape.isSegment then .segment else .path)

/-- The content of parentheses that hold types; it answers what a single one of them is. -/
def parenthesized (rules : Rules) : Rule (Option TypeShape) :=
  within .parentheses do
    let shape ← rules.type true
    if ← accept "," then
      items rules.anyType
      pure none
    else pure (some shape)

/-- A type in parentheses, a tuple, or bounds that start with one in parentheses. Such a bound is
written without doubled parentheses. -/
def groupedType (rules : Rules) (plus : Bool) (content : Trees) : Rule TypeShape := do
  if content.isEmpty then
    advance 1
    pure .other
  else if content.isLifetime then
    within .parentheses (bounds rules true ⟨false, false⟩)
    pure .other
  else if content.spells "?" then
    within .parentheses do
      let _ ← traitBound rules ⟨false, false⟩
    let isSingle := !(← spells "+")
    allBounds rules
    pure (.bounds isSingle true)
  else
    let (shape?, code) ← capture (parenthesized rules)
    let bound? : Option Code :=
      match shape? with
      | some .segment | some .path | some (.bounds true false) => some code
      | some (.bounds true true) => some ((code.drop 1).dropLast)
      | _ => none
    match bound? with
    | some bound =>
        if plus && (← spells "+") then
          write bound
          allBounds rules
          pure (.bounds false true)
        else
          write code
          pure .other
    | none =>
        write code
        pure .other

/-- A slice or an array. -/
def sequenceType (rules : Rules) : Rule Unit :=
  within .brackets do
    rules.anyType
    if ← accept ";" then rules.anyExpression

/-- A trait object with its keyword; one with a star is written as it is. -/
def objectType (rules : Rules) (plus : Bool) : Rule Unit := do
  let isStarred := (← ahead).second.spells "*"
  let object : Rule Unit := do
    take "dyn"
    accepted "*"
    bounds rules plus ⟨false, false⟩
  if isStarred then verbatim object else object

/-- What may follow a binder. -/
def takesBinder (trees : Trees) : Bool :=
  trees.isName || trees.spellsAny ["fn", "unsafe", "extern", "super", "self", "Self", "crate"]

def startsPath (trees : Trees) : Bool :=
  isPlainSegment trees || trees.spells "::" || trees.spells "<"

def type (rules : Rules) (plus : Bool) : Rule TypeShape := do
  let hasBinder ← spells "for"
  let (_, binder) ← capture (if hasBinder then binder rules else pure ())
  if hasBinder then require (← sees takesBinder)
  let trees ← ahead
  if trees.spellsAny ["fn", "unsafe", "extern"] then
    write binder
    functionType rules
    pure .other
  else if startsPath trees then pathType rules plus hasBinder binder
  else
    match trees with
    | .group .parentheses content :: _ => groupedType rules plus content
    | _ =>
        if trees.isGroup .brackets then sequenceType rules
        else if trees.spells "dyn" then objectType rules plus
        else if ← accept "impl" then bounds rules plus ⟨true, true⟩
        else if ← accept "*" then
          takeIf (·.spellsAny ["const", "mut"])
          rules.typeOnly
        else if ← accept "&" then
          if ← sees Trees.isLifetime then lifetime
          accepted "mut"
          rules.typeOnly
        else if trees.isLifetime then bounds rules true ⟨false, false⟩
        else takeIf (·.spellsAny ["!", "_"])
        pure .other

end ApiContract.Grammar
