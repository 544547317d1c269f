import ApiContract.Code.Grammar.Expression
import ApiContract.Code.Grammar.Type

/-!
Items: functions, constants, types, modules and what declares or implements them. An item that has
no form of its own is written as it is.
-/

namespace ApiContract.Grammar

open Rule

/-- Whether parentheses tell where an item may be used; else they belong to a type. -/
def isPlace : Trees → Bool
  | .group .parentheses content :: _ =>
      let content : Trees := content
      content.spells "in" ||
        content.spellsAny ["crate", "self", "super"] && content.second.isEmpty
  | _ => false

/-- Who may use an item. -/
def visibility : Rule Unit := do
  if ← accept "pub" then
    if ← sees isPlace then
      within .parentheses do
        if ← accept "in" then plainPath else anyWord

/-- What stands in front of the keyword of a function. -/
def functionQualifiers : Rule Unit := do
  accepted "const"
  accepted "async"
  if !(← accept "unsafe") then
    if (← ahead).second.spellsAny ["fn", "extern"] then accepted "safe"
  callingConvention

def isFunction : Rule Bool := do
  match ← behind? functionQualifiers with
  | some trees => pure (trees.spells "fn")
  | none => pure false

/-- The receiver of a method. -/
def receiver (rules : Rules) : Rule Unit := do
  if ← accept "&" then
    if ← sees Trees.isLifetime then lifetime
    accepted "mut"
    take "self"
  else
    accepted "mut"
    take "self"
    if ← accept ":" then rules.anyType

/-- The parameters of a function, the first of which may be a receiver. -/
def functionParameters (rules : Rules) (isFirst : Bool) : Nat → Rule Unit
  | 0 => do require (← atEnd)
  | fuel + 1 => do
      if !(← atEnd) then
        attributes rules
        let isLast ←
          if ← accept "..." then pure true
          else if (← behind? (receiver rules)).isSome then
            require isFirst
            receiver rules
            pure false
          else if ← sees fun trees => trees.isName && trees.second.spells "<" then
            write [.word "_", .mark ":"]
            rules.anyType
            pure false
          else
            let _ ← rules.pattern
            take ":"
            if ← accept "..." then pure true
            else
              rules.anyType
              pure false
        if !(← atEnd) then
          take ","
          if !isLast then functionParameters rules false fuel

/-- A function; it answers whether it has no body. -/
def function (rules : Rules) : Rule Bool := do
  functionQualifiers
  take "fn"
  name
  generics rules
  within .parentheses do functionParameters rules true (← ahead).length
  result rules true
  whereClause rules
  if ← accept ";" then pure true
  else
    attributedBlock rules
    pure false

/-- Bounds behind a colon up to what may follow them; the colon is left out if none do. -/
def itemBounds (rules : Rules) (ends : List String) : Rule Unit :=
  declaredBounds (fun trees => trees.isGroup .braces || trees.spellsAny ends) rules.anyBound

/-- A type with another name; it answers whether it has bounds or no definition. -/
def typeDefinition (rules : Rules) : Rule Bool := do
  take "type"
  name
  generics rules
  let hasBounds ← spells ":"
  itemBounds rules ["where", "=", ";"]
  whereClause rules
  let isDefined ← accept "="
  if isDefined then rules.anyType
  whereClause rules
  take ";"
  pure (hasBounds || !isDefined)

/-- A constant; it answers whether it has parameters or no value. -/
def constantDefinition (rules : Rules) : Rule Bool := do
  take "const"
  takeIf fun trees => trees.isName || trees.spells "_"
  let hasParameters ← spells "<"
  generics rules
  take ":"
  rules.anyType
  let isDefined ← accept "="
  if isDefined then rules.anyExpression
  let hasPredicates ← spells "where"
  whereClause rules
  take ";"
  pure (hasParameters || hasPredicates || !isDefined)

/-- A variable of the program, whose type or value may be missing. -/
def staticDefinition (rules : Rules) : Rule Unit := do
  take "static"
  accepted "mut"
  name
  if ← accept ":" then
    rules.anyType
    if ← accept "=" then rules.anyExpression
  else
    take "="
    rules.anyExpression
  take ";"

def invocation : Rule Unit := do
  plainPath
  take "!"
  if ← spells "try" then anyWord
  else if ← sees Trees.isName then name
  let inBraces ← sees (·.isGroup .braces)
  anyGroup
  if !inBraces then take ";"

/-- A part of a trait, of an implementation or of a foreign module. -/
def itemPart (rules : Rules) : Rule Unit := do
  attributes rules
  visibility
  if !(← ahead).second.spells "!" then accepted "default"
  let trees ← ahead
  let _ ←
    if ← isFunction then function rules
    else if trees.spells "const" then constantDefinition rules
    else if trees.spells "type" then typeDefinition rules
    else
      if trees.spells "static" then staticDefinition rules else invocation
      pure false

def itemParts (rules : Rules) : Rule Unit :=
  within .braces do
    innerAttributes rules
    repeatUntil List.isEmpty (itemPart rules)

/-- A field with its name, or with the fields it is made of. -/
def namedField (rules : Rules) : Rule Unit := do
  attributes rules
  visibility
  if ← accept "_" then
    take ":"
    let isInner (trees : Trees) : Bool :=
      trees.spells "struct" || trees.spells "union" && trees.second.isGroup .braces
    if ← sees isInner then verbatim (anyWord *> rules.fields) else rules.anyType
  else
    name
    take ":"
    rules.anyType

def unnamedField (rules : Rules) : Rule Unit := do
  attributes rules
  visibility
  rules.anyType

def namedFields (rules : Rules) : Rule Unit := within .braces (items (namedField rules))

def unnamedFields (rules : Rules) : Rule Unit := within .parentheses (items (unnamedField rules))

def record (rules : Rules) : Rule Unit := do
  take "struct"
  name
  generics rules
  if ← sees (·.isGroup .parentheses) then
    unnamedFields rules
    whereClause rules
    take ";"
  else
    whereClause rules
    if ← sees (·.isGroup .braces) then namedFields rules else take ";"

/-- A case of an enumeration; who may use it is not said. -/
def variant (rules : Rules) : Rule Unit := do
  attributes rules
  silently visibility
  name
  let trees ← ahead
  if trees.isGroup .braces then namedFields rules
  else if trees.isGroup .parentheses then unnamedFields rules
  if ← accept "=" then rules.anyExpression

def enumeration (rules : Rules) : Rule Unit := do
  take "enum"
  name
  generics rules
  whereClause rules
  within .braces (items (variant rules))

def union (rules : Rules) : Rule Unit := do
  take "union"
  name
  generics rules
  whereClause rules
  namedFields rules

/-- The other name of what is imported. -/
def otherName : Rule Unit := do
  if ← accept "as" then takeIf fun trees => trees.isName || trees.spells "_"

/-- What is imported: everything, a group, or a name and maybe what is in it. -/
def imported (rules : Rules) : Rule Unit := do
  let trees ← ahead
  if trees.spells "*" then take "*"
  else if trees.isGroup .braces then
    within .braces <| items do
      accepted "::"
      rules.imported
  else
    takeIf fun trees => trees.isName || trees.spellsAny ["self", "super", "crate", "try"]
    if ← accept "::" then rules.imported else otherName

def importation (rules : Rules) : Rule Unit := do
  take "use"
  accepted "::"
  rules.imported
  take ";"

def externCrate : Rule Unit := do
  take "extern"
  take "crate"
  takeIf fun trees => trees.isName || trees.spells "self"
  otherName
  take ";"

/-- A module, written out or elsewhere. -/
def moduleDefinition (rules : Rules) : Rule Unit := do
  accepted "unsafe"
  take "mod"
  takeIf fun trees => trees.isName || trees.spells "try"
  if !(← accept ";") then
    within .braces do
      innerAttributes rules
      repeatUntil List.isEmpty rules.item

def foreignModule (rules : Rules) : Rule Unit := do
  accepted "unsafe"
  callingConvention
  itemParts rules

/-- A trait, or another name for bounds. -/
def traitDefinition (rules : Rules) : Rule Unit := do
  accepted "unsafe"
  accepted "auto"
  take "trait"
  name
  generics rules
  if ← accept "=" then
    separatedUntil (·.spellsAny ["where", ";"]) "+" rules.anyBound
    whereClause rules
    take ";"
  else
    itemBounds rules ["where"]
    whereClause rules
    itemParts rules

/-- Whether an angle bracket starts parameters and not a type. -/
def startsGenerics (trees : Trees) : Bool :=
  let behind := trees.second
  trees.spells "<" &&
    (behind.spellsAny [">", "#", "const"] ||
      (behind.isLifetime || behind.isName) &&
        (trees.third.spellsAny [">", ",", "="] ||
          trees.third.spells ":" && !trees.third.spells "::"))

def implementation (rules : Rules) : Rule Unit := do
  accepted "default"
  accepted "unsafe"
  take "impl"
  if ← sees startsGenerics then generics rules
  if (← ahead).second.spells "const" then accepted "?"
  accepted "const"
  if !(← ahead).second.isGroup .braces then accepted "!"
  rules.anyType
  if ← accept "for" then rules.anyType
  whereClause rules
  itemParts rules

/-- A macro with its own name. -/
def macroDefinition : Rule Unit := do
  take "macro"
  name
  if ← sees (·.isGroup .parentheses) then anyGroup
  takeIf (·.isGroup .braces)

/-- An item behind its attributes. -/
def itemRest (rules : Rules) : Rule Unit := do
  let _ ← verbatimIf do
    let isPublic ← spells "pub"
    visibility
    let trees ← ahead
    let behind := trees.second
    let behindUnsafe := if trees.spells "unsafe" then behind else trees
    if ← isFunction then function rules
    else if trees.spells "const" then constantDefinition rules
    else if trees.spells "type" then typeDefinition rules
    else
      if trees.spells "extern" && behind.spells "crate" then externCrate
      else if behindUnsafe.spells "extern" then foreignModule rules
      else if trees.spells "use" then importation rules
      else if trees.spells "static" then staticDefinition rules
      else if behindUnsafe.spells "mod" then moduleDefinition rules
      else if trees.spells "struct" then record rules
      else if trees.spells "enum" then enumeration rules
      else if trees.spells "union" && behind.isName then union rules
      else if behindUnsafe.spells "trait" ||
          behindUnsafe.spells "auto" && behindUnsafe.second.spells "trait" then
        traitDefinition rules
      else if behindUnsafe.spells "impl" || trees.spells "default" && !behind.spells "!" then
        implementation rules
      else if trees.spells "macro" then macroDefinition
      else
        require !isPublic
        invocation
      pure false

def item (rules : Rules) : Rule Unit := do
  attributes rules
  itemRest rules

end ApiContract.Grammar
