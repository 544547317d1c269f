import ApiContract.Code.Tree
import ApiContract.Text.Hexadecimal
import ApiContract.Text.WordTable

/-!
Words and literals of the generated language, read off the start of a text. Each reader answers what
follows; a literal may carry a suffix that is a word.
-/

namespace ApiContract.Literal

def isWordStart (c : Char) : Bool := c == '_' || Text.inside Text.wordStartBounds c.toNat

def isWordPart (c : Char) : Bool := Text.inside Text.wordContinueBounds c.toNat

/-- A word that is not raw. -/
def plainWord? : List Char → Option (String × List Char)
  | c :: rest =>
      if isWordStart c then
        some (String.ofList (c :: rest.takeWhile isWordPart), rest.dropWhile isWordPart)
      else none
  | [] => none

/-- A word; those that stand for a place in the module tree have no raw form. -/
def word? : List Char → Option (String × List Char)
  | 'r' :: '#' :: rest => do
      let (name, rest) ← plainWord? rest
      if ["_", "super", "self", "Self", "crate"].contains name then none
      else some ("r#" ++ name, rest)
  | chars => plainWord? chars

def afterSuffix (chars : List Char) : List Char :=
  match plainWord? chars with
  | some (_, rest) => rest
  | none => chars

/-- What the characters of a quoted literal may be. -/
inductive Alphabet where
  | text
  | bytes
  /-- A text that ends at its first null character. -/
  | terminated
  deriving DecidableEq, Repr

namespace Alphabet

def takes (alphabet : Alphabet) (c : Char) : Bool :=
  match alphabet with
  | text => true
  | bytes => c.toNat < 128
  | terminated => c.toNat != 0

def takesByte (alphabet : Alphabet) (byte : Nat) : Bool :=
  match alphabet with
  | text => byte < 128
  | bytes => true
  | terminated => byte != 0

end Alphabet

/-- A code point in at most six digits before a closing brace; a gap may follow a digit. -/
def codePoint (value count : Nat) : List Char → Option (Nat × List Char)
  | [] => none
  | '_' :: rest => if count = 0 then none else codePoint value count rest
  | '\x7d' :: rest => if count = 0 then none else some (value, rest)
  | c :: rest =>
      match Text.hexValue c with
      | some digit => if count = 6 then none else codePoint (16 * value + digit) (count + 1) rest
      | none => none

/-- A character by its code point. -/
def scalar? : List Char → Option (Char × List Char)
  | '\x7b' :: rest => do
      let (value, rest) ← codePoint 0 0 rest
      if value.isValidChar then some (Char.ofNat value, rest) else none
  | _ => none

def byte? : List Char → Option (Nat × List Char)
  | high :: low :: rest => do
      let high ← Text.hexValue high
      let low ← Text.hexValue low
      some (16 * high + low, rest)
  | _ => none

/-- What follows an escape, given behind its backslash. -/
def afterEscape (alphabet : Alphabet) : List Char → Option (List Char)
  | 'x' :: rest => do
      let (byte, rest) ← byte? rest
      if alphabet.takesByte byte then some rest else none
  | 'u' :: rest => do
      let (c, rest) ← scalar? rest
      if alphabet != .bytes && alphabet.takes c then some rest else none
  | '0' :: rest => if alphabet = .terminated then none else some rest
  | c :: rest => if ['n', 'r', 't', '\\', '\'', '"'].contains c then some rest else none
  | [] => none

/-- What follows the blanks of a line that goes on; a return comes with a line end. -/
def afterContinuation (afterReturn : Bool) : List Char → Option (List Char)
  | [] => none
  | '\n' :: rest => afterContinuation false rest
  | c :: rest =>
      if afterReturn then none
      else if c = '\r' then afterContinuation true rest
      else if c = ' ' ∨ c = '\t' then afterContinuation false rest
      else some (c :: rest)

/-- What follows the closing quote. Each step takes at least one character. -/
def afterQuoted (alphabet : Alphabet) : Nat → List Char → Option (List Char)
  | 0, _ | _, [] => none
  | _, '"' :: rest => some rest
  | fuel + 1, '\r' :: '\n' :: rest => afterQuoted alphabet fuel rest
  | fuel + 1, '\\' :: '\n' :: rest => afterContinuation false rest >>= afterQuoted alphabet fuel
  | fuel + 1, '\\' :: '\r' :: rest => afterContinuation true rest >>= afterQuoted alphabet fuel
  | fuel + 1, '\\' :: rest => afterEscape alphabet rest >>= afterQuoted alphabet fuel
  | fuel + 1, c :: rest =>
      if c = '\r' || !alphabet.takes c then none else afterQuoted alphabet fuel rest

/-- What follows the closing quote and as many hashes as stood before the opening one. -/
def afterRaw (alphabet : Alphabet) (hashes : Nat) : List Char → Option (List Char)
  | [] => none
  | '"' :: rest =>
      if rest.take hashes == List.replicate hashes '#' then some (rest.drop hashes)
      else afterRaw alphabet hashes rest
  | '\r' :: '\n' :: rest => afterRaw alphabet hashes rest
  | c :: rest => if c = '\r' || !alphabet.takes c then none else afterRaw alphabet hashes rest

/-- The characters of a text before one of its ends. -/
def before (chars rest : List Char) : List Char := chars.take (chars.length - rest.length)

/-- The content of a raw literal, given behind its first letter, and what follows its end. -/
def raw? (alphabet : Alphabet) (chars : List Char) : Option (List Char × List Char) := do
  let hashes := (chars.takeWhile (· == '#')).length
  match chars.drop hashes with
  | '"' :: content =>
      if hashes ≤ 255 then
        let rest ← afterRaw alphabet hashes content
        some (content.take (content.length - rest.length - hashes - 1), rest)
      else none
  | _ => none

/-- The content of a quoted literal, given behind its quote, and what follows its end. -/
def quoted? (alphabet : Alphabet) (chars : List Char) : Option (List Char × List Char) := do
  let rest ← afterQuoted alphabet chars.length chars
  some (chars.take (chars.length - rest.length - 1), rest)

def escaped (c : Char) : Char :=
  if c = 'n' then '\n' else if c = 'r' then '\r' else if c = 't' then '\t'
  else if c = '0' then Char.ofNat 0 else c

/-- The text that a quoted content stands for. Each step takes at least one character. -/
def unescape : Nat → List Char → List Char
  | 0, _ | _, [] => []
  | fuel + 1, '\r' :: '\n' :: rest => '\n' :: unescape fuel rest
  | fuel + 1, '\\' :: c :: rest =>
      if c = '\n' ∨ c = '\r' then unescape fuel (rest.dropWhile Text.isBlank)
      else if c = 'x' then
        match byte? rest with
        | some (byte, rest) => Char.ofNat byte :: unescape fuel rest
        | none => []
      else if c = 'u' then
        match scalar? rest with
        | some (c, rest) => c :: unescape fuel rest
        | none => []
      else escaped c :: unescape fuel rest
  | fuel + 1, c :: rest => c :: unescape fuel rest

/-- What follows a character and its closing quote, given behind the opening one. -/
def afterCharacter (alphabet : Alphabet) (chars : List Char) : Option (List Char) := do
  let rest ← match chars with
    | '\\' :: rest => afterEscape alphabet rest
    | c :: rest => if alphabet.takes c then some rest else none
    | [] => none
  match rest with
  | '\'' :: rest => some rest
  | _ => none

def isDigitOrGap (c : Char) : Bool := c.isDigit || c == '_'

/-- What follows an exponent, given behind its letter: a sign may stand before its digits. -/
def afterExponent (chars : List Char) : Option (List Char) :=
  let digits := match chars.dropWhile (· == '_') with
    | '+' :: rest | '-' :: rest => rest
    | rest => rest
  if (digits.takeWhile isDigitOrGap).any Char.isDigit then some (digits.dropWhile isDigitOrGap)
  else none

/-- What follows the digits of a number with a point or an exponent. A point before a name or a
second point belongs to those. -/
def afterFraction (chars : List Char) : Option (List Char) :=
  if !chars.head?.any Char.isDigit then none
  else
    match chars.dropWhile isDigitOrGap with
    | '.' :: rest =>
        if rest.head?.any (fun c => c == '.' || isWordStart c) then none
        else
          let rest := rest.dropWhile isDigitOrGap
          match rest with
          | 'e' :: exponent | 'E' :: exponent => some ((afterExponent exponent).getD rest)
          | rest => some rest
    | 'e' :: rest | 'E' :: rest => afterExponent rest
    | _ => none

/-- What follows the digits of a whole number; a letter that is no digit of the base ends it. -/
def afterDigits (base : Nat) (found : Bool) : List Char → Option (List Char)
  | [] => if found then some [] else none
  | c :: rest =>
      if c = '_' then (if found || base != 10 then afterDigits base found rest else none)
      else
        match Text.hexValue c with
        | some digit =>
            if digit < base then afterDigits base true rest
            else if digit < 10 || !found then none
            else some (c :: rest)
        | none => if found then some (c :: rest) else none

/-- The base of a whole number, and its digits. -/
def base : List Char → Nat × List Char
  | '0' :: 'x' :: rest => (16, rest)
  | '0' :: 'o' :: rest => (8, rest)
  | '0' :: 'b' :: rest => (2, rest)
  | chars => (10, chars)

def afterWhole (chars : List Char) : Option (List Char) :=
  let (base, digits) := base chars
  afterDigits base false digits

/-- The value of a whole number without a suffix. -/
def value? (spelled : String) : Option Nat :=
  let (base, digits) := base spelled.toList
  Text.natOfBase? base (digits.filter (· != '_'))

/-- What follows a number, given behind its digits. -/
def afterNumber (chars : List Char) : Option (List Char) :=
  let rest := afterSuffix chars
  if rest.head?.any isWordPart then none else some rest

/-- A literal that stands for a string. -/
def text? (chars : List Char) : Option (String × List Char) := do
  let (content, rest) ← match chars with
    | '"' :: chars => do
        let (content, rest) ← quoted? .text chars
        some (unescape content.length content, rest)
    | 'r' :: chars => raw? .text chars
    | _ => none
  some (String.ofList content, afterSuffix rest)

/-- What follows a character, a byte, or a string of bytes. -/
def afterOther? (chars : List Char) : Option (List Char) := do
  let rest ← match chars with
    | 'b' :: '"' :: chars => (quoted? .bytes chars).map (·.2)
    | 'b' :: 'r' :: chars => (raw? .bytes chars).map (·.2)
    | 'c' :: '"' :: chars => (quoted? .terminated chars).map (·.2)
    | 'c' :: 'r' :: chars => (raw? .terminated chars).map (·.2)
    | 'b' :: '\'' :: chars => afterCharacter .bytes chars
    | '\'' :: chars => afterCharacter .text chars
    | _ => none
  some (afterSuffix rest)

/-- The literal at the start of a text, and what follows it. -/
def read? (chars : List Char) : Option (Literal × List Char) :=
  let spelled (rest : List Char) : String := String.ofList (before chars rest)
  match text? chars with
  | some (content, rest) => some (.text content, rest)
  | none =>
      match afterOther? chars with
      | some rest => some (.other (spelled rest), rest)
      | none =>
          match afterFraction chars >>= afterNumber with
          | some rest => some (.fraction (spelled rest), rest)
          | none => (afterWhole chars >>= afterNumber).map fun rest => (.whole (spelled rest), rest)

end ApiContract.Literal
