import ApiContract.Text.CharClass
import ApiContract.Json.Printer

/-!
A text quoted as a literal: the quote, the backslash and the usual control characters take a
backslash, and every other character that does not print is written by its code point.
-/

namespace ApiContract.Text

def isPrintable (c : Char) : Bool := inside printableBounds c.toNat

def hexText (n : Nat) : List Char := Nat.toDigits 16 n

def escapeLiteral (c : Char) : List Char :=
  if c = '"' then ['\\', '"']
  else if c = '\\' then ['\\', '\\']
  else if c = '\n' then ['\\', 'n']
  else if c = '\r' then ['\\', 'r']
  else if c = '\t' then ['\\', 't']
  else if c.toNat = 0 then ['\\', '0']
  else if isPrintable c then [c]
  else ['\\', 'u', '\x7b'] ++ hexText c.toNat ++ ['\x7d']

def literal (text : String) : String :=
  "\"" ++ String.ofList (text.toList.flatMap escapeLiteral) ++ "\""

end ApiContract.Text
