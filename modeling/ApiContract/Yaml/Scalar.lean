import ApiContract.Decimal.Notation
import ApiContract.Json.Basic
import ApiContract.Text.Hexadecimal

/-!
YAML scalars and what they stand for. An unquoted scalar is null, a truth value, a whole number in
one of four bases, a floating point number, and a text otherwise; a tag can ask for one of them.
-/

namespace ApiContract.Yaml

open Decimal (Binary64 isDigit readFloat)
open Text (natOfBase?)

/-- How a scalar is written, as far as that bears on its meaning. -/
inductive Style where
  | plain
  /-- Lines behind a bar. -/
  | literal
  | quoted
  deriving DecidableEq, Repr

/-- The tag in front of a node. -/
inductive Tag where
  /-- A tag of the core schema, without the part that all of them share. -/
  | core (name : String)
  /-- A tag behind an exclamation mark. -/
  | own (name : String)
  | other
  deriving DecidableEq, Repr

structure Scalar where
  text : String
  style : Style := .plain
  tag : Option Tag := none
  deriving DecidableEq, Repr

/-- The plain texts that stand for null where something is written at all. -/
def isNullWord (text : String) : Bool :=
  text = "~" || text = "null" || text = "Null" || text = "NULL"

def truth? (text : String) : Option Bool :=
  if text = "true" ∨ text = "True" ∨ text = "TRUE" then some true
  else if text = "false" ∨ text = "False" ∨ text = "FALSE" then some false
  else none

/-- Digits behind a superfluous zero make a text. -/
def isPadded (digits : List Char) : Bool :=
  1 < digits.length && digits.head? == some '0' && digits.all isDigit

def magnitude? : List Char → Option Nat
  | '0' :: 'x' :: digits => natOfBase? 16 digits
  | '0' :: 'o' :: digits => natOfBase? 8 digits
  | '0' :: 'b' :: digits => natOfBase? 2 digits
  | digits => if isPadded digits then none else natOfBase? 10 digits

/-- A whole number that 128 bits hold. -/
def integer? : List Char → Option Int
  | '-' :: rest =>
      (magnitude? rest).bind fun n => if n ≤ Nat.pow 2 127 then some (-(n : Int)) else none
  | '+' :: rest => positive? rest
  | chars => positive? chars
where
  positive? (chars : List Char) : Option Int :=
    (magnitude? chars).bind fun n => if n < Nat.pow 2 128 then some (n : Int) else none

/-- The number without a plus sign; a second sign behind it is none of a number. -/
def unsigned? : List Char → Option (List Char)
  | '+' :: '+' :: _ | '+' :: '-' :: _ => none
  | '+' :: rest => some rest
  | chars => some chars

/-- A number with a point or an exponent, or one of the words for what is no finite number. -/
def float? (chars : List Char) : Option Binary64 :=
  match unsigned? chars with
  | none => none
  | some rest =>
      let word := String.ofList rest
      let whole := String.ofList chars
      if word = ".inf" ∨ word = ".Inf" ∨ word = ".INF" then some (.infinite false)
      else if whole = "-.inf" ∨ whole = "-.Inf" ∨ whole = "-.INF" then some (.infinite true)
      else if whole = ".nan" ∨ whole = ".NaN" ∨ whole = ".NAN" then some .nan
      else (readFloat word).bind fun number => if number.isFinite then some number else none

/-- The digits of a number behind its sign. -/
def unsignedDigits : List Char → List Char
  | '-' :: digits | '+' :: digits => digits
  | digits => digits

/-- A whole number as a document holds it: in 64 bits, signed or not. -/
def storable? (number : Int) : Option Json :=
  if -0x8000000000000000 ≤ number ∧ number ≤ 0xFFFFFFFFFFFFFFFF then some (.int number) else none

/-- What an unquoted scalar without a tag stands for; nothing holds a whole number too large. -/
def plainMeaning? (text : String) : Option Json :=
  if text = "" ∨ isNullWord text then some .null
  else
    match truth? text, integer? text.toList with
    | some value, _ => some (.bool value)
    | none, some number => storable? number
    | none, none =>
        if isPadded (unsignedDigits text.toList) then some (.string text)
        else
          match float? text.toList with
          | some number => some (.float number)
          | none => some (.string text)

namespace Scalar

/-- Nothing is written at all: a collection without members, too. -/
def isEmpty (scalar : Scalar) : Bool := scalar.style == .plain && scalar.text = ""

/-- What a scalar stands for to a reader without expectations, if anything. -/
def meaning? (scalar : Scalar) : Option Json :=
  match scalar.tag with
  | none => if scalar.style = .plain then plainMeaning? scalar.text else some (.string scalar.text)
  | some (.core "null") => if isNullWord scalar.text then some .null else none
  | some (.core "bool") => (truth? scalar.text).map .bool
  | some (.core "int") => (integer? scalar.text.toList).bind storable?
  | some (.core "float") => (float? scalar.text.toList).map .float
  | some (.own _) => none
  | some _ => some (.string scalar.text)

/-- The truth value that a plain scalar holds, or lines behind a bar that are tagged so. -/
def boolean? (scalar : Scalar) : Option Bool :=
  if scalar.style = .plain ∨ (scalar.style = .literal ∧ scalar.tag = some (.core "bool")) then
    truth? scalar.text
  else none

/-- Whether anything is there where nothing may be; a scalar tagged as null has to be null. -/
def isPresent? (scalar : Scalar) : Option Bool :=
  if scalar.style ≠ .plain then some true
  else
    match scalar.tag with
    | none => some (scalar.text ≠ "" && !isNullWord scalar.text)
    | some (.core "null") => if isNullWord scalar.text then some false else none
    | some _ => some true

/-- Whether a scalar says nothing beside its tag. -/
def isUnit (scalar : Scalar) : Bool :=
  scalar.style == .plain && (scalar.text = "" || isNullWord scalar.text)

end Scalar

end ApiContract.Yaml
