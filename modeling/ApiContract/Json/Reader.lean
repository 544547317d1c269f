import ApiContract.Document.Node

/-!
Reading JSON text. A text is a document or it is none: the reader has one kind of failure.
Containers nest at most 127 deep, escapes that name half a surrogate pair are refused, and so are
numbers no finite value is nearest to. A record that is read from a text passes over such data where
it does not know the field, so the reader builds a tree in which they are unreadable. Repeated keys
are kept.
-/

namespace ApiContract.Json

open Decimal (Binary64 isDigit natOfDigits readInt)
open Document (Node)
open Text (hexValue)

def isSpace (c : Char) : Bool := c = ' ' || c = '\n' || c = '\t' || c = '\r'

def skipSpace (chars : List Char) : List Char := chars.dropWhile isSpace

def hexUnit (a b c d : Char) : Option Nat :=
  match hexValue a, hexValue b, hexValue c, hexValue d with
  | some a, some b, some c, some d => some (4096 * a + 256 * b + 16 * c + d)
  | _, _, _, _ => none

/-- The letters behind a backslash and the characters they stand for. -/
def escapes : List (Char × Char) :=
  [('"', '"'), ('\\', '\\'), ('/', '/'), ('b', '\x08'), ('f', '\x0c'), ('n', '\n'), ('r', '\r'),
   ('t', '\t')]

/-- The text behind the closing quote of a string whose characters do not matter. -/
def skipString : List Char → Option (List Char)
  | [] => none
  | '"' :: rest => some rest
  | '\\' :: 'u' :: a :: b :: c :: d :: rest =>
      if (hexUnit a b c d).isSome then skipString rest else none
  | '\\' :: c :: rest => if (escapes.lookup c).isSome then skipString rest else none
  | c :: rest => if c.toNat < 32 ∨ c = '\\' then none else skipString rest

/-- The rest of a string after its opening quote; `read` holds what was read, in reverse. Half a
surrogate pair makes the string unreadable. -/
def readString (read : List Char) : List Char → Option (Option String × List Char)
  | [] => none
  | '"' :: rest => some (some (String.ofList read.reverse), rest)
  | '\\' :: 'u' :: a :: b :: c :: d :: rest =>
      match hexUnit a b c d with
      | none => none
      | some unit =>
          if unit < 0xD800 ∨ 0xDFFF < unit then readString (Char.ofNat unit :: read) rest
          else
            match rest with
            | '\\' :: 'u' :: e :: f :: g :: h :: rest' =>
                match hexUnit e f g h with
                | some low =>
                    if unit < 0xDC00 ∧ 0xDC00 ≤ low ∧ low ≤ 0xDFFF then
                      readString
                        (Char.ofNat (0x10000 + (unit - 0xD800) * 1024 + (low - 0xDC00)) :: read) rest'
                    else (skipString rest').map fun rest => (none, rest)
                | none => none
            | rest => (skipString rest).map fun rest => (none, rest)
  | '\\' :: letter :: rest =>
      match escapes.lookup letter with
      | some c => readString (c :: read) rest
      | none => none
  | c :: rest => if c.toNat < 32 ∨ c = '\\' then none else readString (c :: read) rest

def finiteNumber (f : Binary64) : Node := if f.isFinite then .float f else .unreadable

/-- An integer that 64 bits hold, signed or unsigned, stays one; others become floating point. -/
def numberOfInteger (negative : Bool) (digits : List Char) : Node :=
  let n := natOfDigits digits
  if negative then
    (if n = 0 then .float (.zero true)
     else if n ≤ 0x8000000000000000 then .int (-(n : Int))
     else finiteNumber (.ofDecimal true n 0))
  else if n ≤ 0xFFFFFFFFFFFFFFFF then .int n
  else finiteNumber (.ofDecimal false n 0)

/-- Reads the exponent after its letter. -/
def readExponent (chars : List Char) : Option (Int × List Char) :=
  let (sign, rest) := match chars with
    | '-' :: rest => (['-'], rest)
    | '+' :: rest => ([], rest)
    | rest => ([], rest)
  (readInt (sign ++ rest.takeWhile isDigit)).map fun e => (e, rest.dropWhile isDigit)

/-- A number after its sign: no superfluous leading zero, at least one digit after a point. -/
def readMagnitude (negative : Bool) (chars : List Char) : Option (Node × List Char) :=
  let whole := chars.takeWhile isDigit
  let afterWhole := chars.dropWhile isDigit
  if whole.isEmpty ∨ (whole.head? = some '0' ∧ 1 < whole.length) then none
  else
    match afterWhole with
    | '.' :: rest =>
        let fraction := rest.takeWhile isDigit
        let afterFraction := rest.dropWhile isDigit
        if fraction.isEmpty then none
        else
          match afterFraction with
          | 'e' :: rest | 'E' :: rest => floating whole fraction (readExponent rest)
          | rest => floating whole fraction (some (0, rest))
    | 'e' :: rest | 'E' :: rest => floating whole [] (readExponent rest)
    | rest => some (numberOfInteger negative whole, rest)
where
  floating (whole fraction : List Char) :
      Option (Int × List Char) → Option (Node × List Char)
    | none => none
    | some (e, rest) =>
        let f := Binary64.ofDecimal negative (natOfDigits (whole ++ fraction)) (e - fraction.length)
        some (finiteNumber f, rest)

def readNumber : List Char → Option (Node × List Char)
  | '-' :: rest => readMagnitude true rest
  | chars => readMagnitude false chars

mutual

/-- One node at the head of the text, with the text after it; `room` counts the levels of readable
containers still allowed. -/
def readNode (room : Nat) : Nat → List Char → Option (Node × List Char)
  | 0, _ => none
  | fuel + 1, chars =>
      match skipSpace chars with
      | 'n' :: 'u' :: 'l' :: 'l' :: rest => some (.null, rest)
      | 't' :: 'r' :: 'u' :: 'e' :: rest => some (.bool true, rest)
      | 'f' :: 'a' :: 'l' :: 's' :: 'e' :: rest => some (.bool false, rest)
      | '"' :: rest =>
          (readString [] rest).map fun (text, rest) =>
            (match text with | some text => .string text | none => .unreadable, rest)
      | '[' :: rest =>
          match skipSpace rest with
          | ']' :: rest => some (within room (.sequence []), rest)
          | rest =>
              (readItems (room - 1) fuel [] rest).map fun (items, rest) =>
                (within room (.sequence items), rest)
      | '\x7b' :: rest =>
          match skipSpace rest with
          | '\x7d' :: rest => some (within room (.mapping []), rest)
          | rest =>
              (readMembers (room - 1) fuel [] rest).map fun (members, rest) =>
                (within room (.mapping members), rest)
      | rest => readNumber rest
where
  within (room : Nat) (container : Node) : Node := if room = 0 then .unreadable else container

def readItems (room : Nat) : Nat → List Node → List Char → Option (List Node × List Char)
  | 0, _, _ => none
  | fuel + 1, read, chars =>
      match readNode room fuel chars with
      | none => none
      | some (item, rest) =>
          match skipSpace rest with
          | ',' :: rest => readItems room fuel (item :: read) rest
          | ']' :: rest => some ((item :: read).reverse, rest)
          | _ => none

def readMembers (room : Nat) :
    Nat → List (Node × Node) → List Char → Option (List (Node × Node) × List Char)
  | 0, _, _ => none
  | fuel + 1, read, chars =>
      match skipSpace chars with
      | '"' :: rest =>
          match readString [] rest with
          | none => none
          | some (text, rest) =>
              let key := match text with | some text => Node.string text | none => .unreadable
              match skipSpace rest with
              | ':' :: rest =>
                  match readNode room fuel rest with
                  | none => none
                  | some (value, rest) =>
                      match skipSpace rest with
                      | ',' :: rest => readMembers room fuel ((key, value) :: read) rest
                      | '\x7d' :: rest => some (((key, value) :: read).reverse, rest)
                      | _ => none
              | _ => none
      | _ => none

end

/-- Containers nested deeper than this are unreadable. -/
def depthLimit : Nat := 127

/-- The tree a text spells, unreadable data within it. Every step but one at each level consumes a
character, so twice the length bounds the steps. -/
def nodeOfText? (text : String) : Option Node :=
  let chars := text.toList
  match readNode depthLimit (2 * chars.length + 2) chars with
  | some (node, rest) => if (skipSpace rest).isEmpty then some node else none
  | none => none

/-- The document a text holds, repeated keys kept. -/
def ofText? (text : String) : Option Json := (nodeOfText? text).bind Node.json?

/-- The value a text holds. -/
def valueOfText? (text : String) : Option Json := (ofText? text).map normalize

end ApiContract.Json
