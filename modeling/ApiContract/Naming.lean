import ApiContract.Text.Casing

/-!
Identifiers of generated code. Types are written in camel case, fields, functions and modules in
snake case. What no identifier can hold is dropped, a name that would start with a digit gets a
letter in front, and a keyword gets an underscore behind.
-/

namespace ApiContract.Naming

def keywords : List String :=
  ["abstract", "as", "async", "await", "become", "box", "break", "const", "continue", "crate",
   "do", "dyn", "else", "enum", "extern", "false", "final", "fn", "for", "gen", "if", "impl",
   "in", "let", "loop", "macro", "match", "mod", "move", "mut", "override", "priv", "pub", "ref",
   "return", "self", "static", "struct", "super", "trait", "true", "try", "type", "typeof",
   "unsafe", "unsized", "use", "virtual", "where", "while", "yield", "Self"]

def isIdentifierChar (c : Char) : Bool := c.isAlphanum || c = '_'

def startsWithDigit (chars : List Char) : Bool := chars.head?.any Char.isDigit

/-- Makes an identifier of a cased name; `lead` is what stands before a digit and for nothing. -/
def sanitize (lead : String) (cased : String) : String :=
  let cleaned := cased.toList.filter isIdentifierChar
  let name := String.ofList cleaned
  if cleaned.isEmpty then lead
  else if startsWithDigit cleaned then lead ++ name
  else if keywords.contains name then name ++ "_"
  else name

def typeName (name : String) : String := sanitize "V" (Text.upperCamel name)

def fieldName (name : String) : String := sanitize "_" (Text.snake name)

/-- The client type of a group of operations; the group without a key has the bare name. -/
def clientName (key : String) : String := if key.isEmpty then "Api" else typeName key ++ "Api"

def clientFile (key : String) : String :=
  if key.isEmpty then "api.rs" else fieldName key ++ "_api.rs"

/-- Names that the generated methods use for themselves. -/
def reserved : List String :=
  ["uri", "headers", "body", "value", "texts", "request", "response", "status", "item"]

/-- The name of a method's argument, kept apart from the names the method uses itself. -/
def argumentName (name : String) : String :=
  let field := fieldName name
  if reserved.contains field then field ++ "_arg" else field

end ApiContract.Naming
