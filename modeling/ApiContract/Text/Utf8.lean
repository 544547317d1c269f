/-!
Texts as bytes. Decoding either refuses bytes that are no UTF-8, or puts a replacement character
in the place of each longest piece that begins no valid character.
-/

namespace ApiContract.Text

def utf8 (text : String) : List UInt8 := text.toList.flatMap String.utf8EncodeChar

/-- Takes `count` continuation bytes, the first of them within the given bounds, and appends their
six bits each. Gives the bytes left where one is missing. -/
def continuation (low high : UInt8) : Nat → Nat → List UInt8 → Except (List UInt8) (Nat × List UInt8)
  | 0, code, rest => .ok (code, rest)
  | count + 1, code, byte :: rest =>
      if low ≤ byte ∧ byte ≤ high then
        continuation 0x80 0xBF count (code * 64 + (byte.toNat - 0x80)) rest
      else .error (byte :: rest)
  | _ + 1, _, [] => .error []

/-- The character that starts with a byte, with the bytes after it; or the bytes after the piece
that starts no character. -/
def decodeChar (first : UInt8) (rest : List UInt8) : Except (List UInt8) (Char × List UInt8) :=
  if first < 0x80 then .ok (Char.ofNat first.toNat, rest)
  else if first < 0xC2 then .error rest
  else if first < 0xE0 then more 0x80 0xBF 1 (first.toNat - 0xC0)
  else if first = 0xE0 then more 0xA0 0xBF 2 0
  else if first = 0xED then more 0x80 0x9F 2 13
  else if first < 0xF0 then more 0x80 0xBF 2 (first.toNat - 0xE0)
  else if first = 0xF0 then more 0x90 0xBF 3 0
  else if first < 0xF4 then more 0x80 0xBF 3 (first.toNat - 0xF0)
  else if first = 0xF4 then more 0x80 0x8F 3 4
  else .error rest
where
  more (low high : UInt8) (count bits : Nat) : Except (List UInt8) (Char × List UInt8) :=
    (continuation low high count bits rest).map fun (code, rest) => (Char.ofNat code, rest)

/-- Decodes bytes, `replacement` standing for pieces that are no character. No step gives back a
byte, so the number of bytes bounds the steps. -/
def decodeWith (replacement : Option Char) : Nat → List UInt8 → Option (List Char)
  | _, [] => some []
  | 0, _ => some []
  | fuel + 1, first :: rest =>
      match decodeChar first rest with
      | .ok (c, rest) => (decodeWith replacement fuel rest).map (c :: ·)
      | .error rest =>
          match replacement with
          | some r => (decodeWith replacement fuel rest).map (r :: ·)
          | none => none

/-- The text that the bytes spell, if they spell one. -/
def ofUtf8? (bytes : List UInt8) : Option String :=
  (decodeWith none bytes.length bytes).map String.ofList

/-- The text that the bytes spell, with replacement characters where they spell none. -/
def ofUtf8Lossy (bytes : List UInt8) : String :=
  String.ofList ((decodeWith (some '\uFFFD') bytes.length bytes).getD [])

end ApiContract.Text
