import ApiContract.Text.Hexadecimal
import ApiContract.Text.Utf8

/-!
Percent encoding: every byte of a character that is not kept is written as a percent sign and two
upper-case hexadecimal digits. Decoding leaves a percent sign alone that no two digits follow.
-/

namespace ApiContract.Text.Percent

def hexDigit (n : Nat) : Char := if n < 10 then Char.ofNat (48 + n) else Char.ofNat (55 + n)

def encodeByte (byte : UInt8) : List Char :=
  ['%', hexDigit (byte.toNat / 16), hexDigit (byte.toNat % 16)]

def encodeChar (keep : Char → Bool) (c : Char) : List Char :=
  if keep c then [c] else (String.utf8EncodeChar c).flatMap encodeByte

def encode (keep : Char → Bool) (text : String) : String :=
  String.ofList (text.toList.flatMap (encodeChar keep))

/-- Letters, digits and the four marks that never need escaping. -/
def isUnreserved (c : Char) : Bool :=
  c.isAlphanum || c == '-' || c == '.' || c == '_' || c == '~'

/-- In queries a comma is kept too: it joins the texts of a list. -/
def isQuerySafe (c : Char) : Bool := isUnreserved c || c == ','

def encodePath (text : String) : String := encode isUnreserved text

def encodeQuery (text : String) : String := encode isQuerySafe text

def decodeBytes : List UInt8 → List UInt8
  | [] => []
  | 0x25 :: a :: b :: rest =>
      match Text.hexValue (Char.ofNat a.toNat), Text.hexValue (Char.ofNat b.toNat) with
      | some high, some low => UInt8.ofNat (high * 16 + low) :: decodeBytes rest
      | _, _ => 0x25 :: decodeBytes (a :: b :: rest)
  | byte :: rest => byte :: decodeBytes rest

/-- The decoded text, with replacement characters where the bytes spell none. -/
def decode (text : String) : String := ofUtf8Lossy (decodeBytes (utf8 text))

end ApiContract.Text.Percent
