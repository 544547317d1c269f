import ApiContract.Text.Utf8

/-!
Base64 with the standard alphabet, padded, and with the URL-safe alphabet, without padding.
Reading is strict: exactly the written forms are accepted, unused bits are zero.
-/

namespace ApiContract.Text.Base64

inductive Alphabet where
  | standard
  | urlSafe
  deriving DecidableEq, Repr

def Alphabet.digits : Alphabet → List Char
  | standard => "ABCDEFGHIJKLMNOPQRSTUVWXYZabcdefghijklmnopqrstuvwxyz0123456789+/".toList
  | urlSafe => "ABCDEFGHIJKLMNOPQRSTUVWXYZabcdefghijklmnopqrstuvwxyz0123456789-_".toList

def digit (alphabet : Alphabet) (n : Nat) : Char := alphabet.digits.getD (n % 64) 'A'

/-- What fills a group up to four characters. -/
def padding (alphabet : Alphabet) (count : Nat) : List Char :=
  match alphabet with
  | .standard => List.replicate count '='
  | .urlSafe => []

def encodeBytes (alphabet : Alphabet) : List UInt8 → List Char
  | [] => []
  | [a] =>
      let n := a.toNat * 16
      [digit alphabet (n / 64), digit alphabet n] ++ padding alphabet 2
  | [a, b] =>
      let n := (a.toNat * 256 + b.toNat) * 4
      [digit alphabet (n / 4096), digit alphabet (n / 64), digit alphabet n] ++ padding alphabet 1
  | a :: b :: c :: rest =>
      let n := (a.toNat * 256 + b.toNat) * 256 + c.toNat
      [digit alphabet (n / 262144), digit alphabet (n / 4096), digit alphabet (n / 64),
        digit alphabet n] ++ encodeBytes alphabet rest

def encode (alphabet : Alphabet) (bytes : List UInt8) : String :=
  String.ofList (encodeBytes alphabet bytes)

def value? (alphabet : Alphabet) (c : Char) : Option Nat := alphabet.digits.findIdx? (· == c)

/-- The last group, without its padding. -/
def decodeTail (alphabet : Alphabet) : List Char → Option (List UInt8)
  | [] => some []
  | [a, b] => do
      let a ← value? alphabet a
      let b ← value? alphabet b
      let n := a * 64 + b
      if n % 16 = 0 then some [UInt8.ofNat (n / 16)] else none
  | [a, b, c] => do
      let a ← value? alphabet a
      let b ← value? alphabet b
      let c ← value? alphabet c
      let n := (a * 64 + b) * 64 + c
      if n % 4 = 0 then some [UInt8.ofNat (n / 1024), UInt8.ofNat (n / 4)] else none
  | _ => none

def decodeChars (alphabet : Alphabet) : List Char → Option (List UInt8)
  | [a, b, '=', '='] =>
      match alphabet with
      | .standard => decodeTail alphabet [a, b]
      | .urlSafe => none
  | [a, b, c, '='] =>
      match alphabet with
      | .standard => decodeTail alphabet [a, b, c]
      | .urlSafe => none
  | a :: b :: c :: d :: rest => do
      let a ← value? alphabet a
      let b ← value? alphabet b
      let c ← value? alphabet c
      let d ← value? alphabet d
      let n := ((a * 64 + b) * 64 + c) * 64 + d
      let rest ← decodeChars alphabet rest
      some (UInt8.ofNat (n / 65536) :: UInt8.ofNat (n / 256) :: UInt8.ofNat n :: rest)
  | tail =>
      match alphabet with
      | .standard => if tail.isEmpty then some [] else none
      | .urlSafe => decodeTail alphabet tail

def decode? (alphabet : Alphabet) (text : String) : Option (List UInt8) :=
  decodeChars alphabet text.toList

end ApiContract.Text.Base64
