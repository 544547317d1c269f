import ApiContract.Text.Utf8
import Mathlib.Data.List.Basic
import ApiContract.Text.Percent

/-!
Decoding the bytes of a text gives the text. A character has one to four bytes; each of them after
the first carries six bits, and the first says by its size how many follow.
-/

namespace ApiContract.Text

/-- One more continuation byte, given the six bits that it carries. -/
theorem continuation_cons {low high : UInt8} {bits : Nat} (small : bits < 64)
    (within : low.toNat ≤ bits + 128 ∧ bits + 128 ≤ high.toNat) (count code : Nat)
    (rest : List UInt8) :
    continuation low high (count + 1) code (UInt8.ofNat (bits + 128) :: rest) =
      continuation 0x80 0xBF count (code * 64 + bits) rest := by
  have value : (UInt8.ofNat (bits + 128)).toNat = bits + 128 := by
    rw [UInt8.toNat_ofNat']
    omega
  rw [continuation, if_pos, value, Nat.add_sub_cancel]
  rw [UInt8.le_iff_toNat_le, UInt8.le_iff_toNat_le, value]
  exact within

/-- What the size of a first byte says. -/
theorem decodeChar_eq (n : Nat) (small : n < 256) (rest : List UInt8) :
    decodeChar (UInt8.ofNat n) rest =
      if n < 0x80 then .ok (Char.ofNat n, rest)
      else if n < 0xC2 then .error rest
      else if n < 0xE0 then decodeChar.more rest 0x80 0xBF 1 (n - 0xC0)
      else if n = 0xE0 then decodeChar.more rest 0xA0 0xBF 2 0
      else if n = 0xED then decodeChar.more rest 0x80 0x9F 2 13
      else if n < 0xF0 then decodeChar.more rest 0x80 0xBF 2 (n - 0xE0)
      else if n = 0xF0 then decodeChar.more rest 0x90 0xBF 3 0
      else if n < 0xF4 then decodeChar.more rest 0x80 0xBF 3 (n - 0xF0)
      else if n = 0xF4 then decodeChar.more rest 0x80 0x8F 3 4
      else .error rest := by
  have value : (UInt8.ofNat n).toNat = n := by
    rw [UInt8.toNat_ofNat']
    omega
  simp only [decodeChar, UInt8.lt_iff_toNat_lt, ← UInt8.toNat_inj, value, UInt8.reduceToNat]

/-- A first byte of three: the bounds of the second keep out what fewer bytes spell, and what no
character is. -/
theorem decodeChar_three {bits : Nat} (small : bits < 16) :
    ∃ low high, (∀ rest, decodeChar (UInt8.ofNat (bits + 0xE0)) rest =
        decodeChar.more rest low high 2 bits) ∧
      ∀ second < 64, (bits = 0 → 32 ≤ second) → (bits = 13 → second < 32) →
        low.toNat ≤ second + 128 ∧ second + 128 ≤ high.toNat := by
  by_cases least : bits = 0
  · subst least
    exact ⟨0xA0, 0xBF, fun rest => rfl, fun second _ _ _ => by simp; omega⟩
  by_cases surrogates : bits = 13
  · subst surrogates
    exact ⟨0x80, 0x9F, fun rest => rfl, fun second _ _ _ => by simp; omega⟩
  · refine ⟨0x80, 0xBF, fun rest => ?_, fun second _ _ _ => by simp; omega⟩
    rw [decodeChar_eq _ (by omega), if_neg (by omega), if_neg (by omega), if_neg (by omega),
      if_neg (by omega), if_neg (by omega), if_pos (by omega), Nat.add_sub_cancel]

/-- A first byte of four, likewise. -/
theorem decodeChar_four {bits : Nat} (small : bits ≤ 4) :
    ∃ low high, (∀ rest, decodeChar (UInt8.ofNat (bits + 0xF0)) rest =
        decodeChar.more rest low high 3 bits) ∧
      ∀ second < 64, (bits = 0 → 16 ≤ second) → (bits = 4 → second < 16) →
        low.toNat ≤ second + 128 ∧ second + 128 ≤ high.toNat := by
  by_cases least : bits = 0
  · subst least
    exact ⟨0x90, 0xBF, fun rest => rfl, fun second _ _ _ => by simp; omega⟩
  by_cases greatest : bits = 4
  · subst greatest
    exact ⟨0x80, 0x8F, fun rest => rfl, fun second _ _ _ => by simp; omega⟩
  · refine ⟨0x80, 0xBF, fun rest => ?_, fun second _ _ _ => by simp; omega⟩
    rw [decodeChar_eq _ (by omega), if_neg (by omega), if_neg (by omega), if_neg (by omega),
      if_neg (by omega), if_neg (by omega), if_neg (by omega), if_neg (by omega),
      if_pos (by omega), Nat.add_sub_cancel]

theorem more_eq_ok {low high : UInt8} {count bits code : Nat} {bytes rest : List UInt8}
    (continued : continuation low high count bits bytes = .ok (code, rest)) {c : Char}
    (spelled : Char.ofNat code = c) : decodeChar.more bytes low high count bits = .ok (c, rest) := by
  rw [decodeChar.more, continued, ← spelled]
  rfl

/-- The bytes of a character, before whatever follows, are decoded to it. -/
theorem decodeChar_utf8EncodeChar (c : Char) (rest : List UInt8) :
    ∃ first more, String.utf8EncodeChar c = first :: more ∧
      decodeChar first (more ++ rest) = .ok (c, rest) := by
  have valid : c.val.toNat < 0xD800 ∨ 0xDFFF < c.val.toNat ∧ c.val.toNat < 0x110000 := c.valid
  have back : Char.ofNat c.val.toNat = c := Char.ofNat_toNat c
  simp only [String.utf8EncodeChar]
  generalize c.val.toNat = n at valid back
  -- One case for each length, by the ranges that `utf8EncodeChar` distinguishes.
  by_cases one : n ≤ 0x7f
  · refine ⟨_, _, if_pos one, ?_⟩
    rw [decodeChar_eq n (by omega), if_pos (by omega), back]
    rfl
  by_cases two : n ≤ 0x7ff
  · refine ⟨_, _, (if_neg one).trans (if_pos two), ?_⟩
    rw [decodeChar_eq _ (by omega), if_neg (by omega), if_neg (by omega), if_pos (by omega)]
    apply more_eq_ok _ back
    rw [List.cons_append, continuation_cons (by omega) (by simp; omega), continuation]
    exact congrArg (fun code => Except.ok (code, rest)) (by omega)
  by_cases three : n ≤ 0xffff
  · refine ⟨_, _, (if_neg one).trans ((if_neg two).trans (if_pos three)), ?_⟩
    obtain ⟨low, high, decoded, bounds⟩ := decodeChar_three (by omega : n / 4096 % 0x10 < 16)
    rw [decoded]
    apply more_eq_ok _ back
    have within := bounds (n / 64 % 0x40) (by omega) (by omega) (by omega)
    rw [List.cons_append, continuation_cons (by omega) within, List.cons_append,
      continuation_cons (by omega) (by simp; omega), continuation]
    exact congrArg (fun code => Except.ok (code, rest)) (by omega)
  · refine ⟨_, _, (if_neg one).trans ((if_neg two).trans (if_neg three)), ?_⟩
    obtain ⟨low, high, decoded, bounds⟩ := decodeChar_four (by omega : n / 262144 % 0x08 ≤ 4)
    rw [decoded]
    apply more_eq_ok _ back
    have within := bounds (n / 4096 % 0x40) (by omega) (by omega) (by omega)
    rw [List.cons_append, continuation_cons (by omega) within, List.cons_append,
      continuation_cons (by omega) (by simp; omega), List.cons_append,
      continuation_cons (by omega) (by simp; omega), continuation]
    exact congrArg (fun code => Except.ok (code, rest)) (by omega)

theorem utf8_cons (c : Char) (chars : List Char) :
    (c :: chars).flatMap String.utf8EncodeChar =
      String.utf8EncodeChar c ++ chars.flatMap String.utf8EncodeChar := rfl

theorem decodeWith_utf8 (replacement : Option Char) (chars : List Char) {fuel : Nat}
    (enough : (chars.flatMap String.utf8EncodeChar).length ≤ fuel) :
    decodeWith replacement fuel (chars.flatMap String.utf8EncodeChar) = some chars := by
  induction chars generalizing fuel with
  | nil => cases fuel <;> rfl
  | cons c rest ih =>
      obtain ⟨first, more, bytes, decoded⟩ :=
        decodeChar_utf8EncodeChar c (rest.flatMap String.utf8EncodeChar)
      rw [utf8_cons, bytes, List.cons_append] at enough ⊢
      cases fuel with
      | zero => simp at enough
      | succ fuel =>
          have fewer : (rest.flatMap String.utf8EncodeChar).length ≤ fuel := by
            simp only [List.length_cons, List.length_append] at enough
            omega
          rw [decodeWith, decoded]
          dsimp only
          rw [ih fewer]
          rfl

theorem ofUtf8?_utf8 (text : String) : ofUtf8? (utf8 text) = some text := by
  rw [ofUtf8?, utf8, decodeWith_utf8 none text.toList (Nat.le_refl _), Option.map_some,
    String.ofList_toList]

theorem ofUtf8Lossy_utf8 (text : String) : ofUtf8Lossy (utf8 text) = text := by
  rw [ofUtf8Lossy, utf8, decodeWith_utf8 _ text.toList (Nat.le_refl _), Option.getD_some,
    String.ofList_toList]

end ApiContract.Text

/-!
Percent encoding is undone by decoding, and encoded text holds no mark but those that are kept.
-/

namespace ApiContract.Text.Percent

theorem hexValue_hexDigit {n : Nat} (small : n < 16) : hexValue (hexDigit n) = some n := by
  have each : ∀ n : Fin 16, hexValue (hexDigit n) = some n.val := by decide
  exact each ⟨n, small⟩

theorem hexDigit_toNat {n : Nat} (small : n < 16) :
    (hexDigit n).toNat < 128 ∧ (hexDigit n).toNat ≠ 0x25 := by
  have each : ∀ n : Fin 16, (hexDigit n).toNat < 128 ∧ (hexDigit n).toNat ≠ 0x25 := by decide
  exact each ⟨n, small⟩

theorem utf8EncodeChar_ascii {c : Char} (ascii : c.toNat < 128) :
    String.utf8EncodeChar c = [UInt8.ofNat c.toNat] :=
  if_pos (Nat.le_of_lt_succ ascii)

theorem ofNat_ascii {c : Char} (ascii : c.toNat < 128) :
    Char.ofNat (UInt8.ofNat c.toNat).toNat = c := by
  have value : (UInt8.ofNat c.toNat).toNat = c.toNat := by
    rw [UInt8.toNat_ofNat']
    omega
  rw [value, Char.ofNat_toNat]

theorem decodeBytes_plain {byte : UInt8} (plain : byte ≠ 0x25) (rest : List UInt8) :
    decodeBytes (byte :: rest) = byte :: decodeBytes rest := by
  rw [decodeBytes]
  rintro a b others same
  exact absurd same plain

theorem decodeBytes_digits {high low : Nat} (highSmall : high < 16) (lowSmall : low < 16)
    (rest : List UInt8) :
    decodeBytes (0x25 :: UInt8.ofNat (hexDigit high).toNat :: UInt8.ofNat (hexDigit low).toNat ::
      rest) = UInt8.ofNat (high * 16 + low) :: decodeBytes rest := by
  rw [decodeBytes, ofNat_ascii (hexDigit_toNat highSmall).1, ofNat_ascii (hexDigit_toNat lowSmall).1,
    hexValue_hexDigit highSmall, hexValue_hexDigit lowSmall]

theorem decodeBytes_encodeByte (byte : UInt8) (rest : List UInt8) :
    decodeBytes ((encodeByte byte).flatMap String.utf8EncodeChar ++ rest) =
      byte :: decodeBytes rest := by
  have size := byte.toNat_lt
  have highSmall : byte.toNat / 16 < 16 := by omega
  have lowSmall : byte.toNat % 16 < 16 := by omega
  have bytes : (encodeByte byte).flatMap String.utf8EncodeChar =
      [0x25, UInt8.ofNat (hexDigit (byte.toNat / 16)).toNat,
        UInt8.ofNat (hexDigit (byte.toNat % 16)).toNat] := by
    rw [encodeByte, List.flatMap_cons, List.flatMap_cons, List.flatMap_cons,
      utf8EncodeChar_ascii (hexDigit_toNat highSmall).1,
      utf8EncodeChar_ascii (hexDigit_toNat lowSmall).1]
    rfl
  have whole : byte.toNat / 16 * 16 + byte.toNat % 16 = byte.toNat := by omega
  rw [bytes, List.cons_append, List.cons_append, List.cons_append, List.nil_append,
    decodeBytes_digits highSmall lowSmall, whole, UInt8.ofNat_toNat]

theorem decodeBytes_encodeBytes (bytes rest : List UInt8) :
    decodeBytes ((bytes.flatMap encodeByte).flatMap String.utf8EncodeChar ++ rest) =
      bytes ++ decodeBytes rest := by
  induction bytes with
  | nil => rfl
  | cons byte others ih =>
      rw [List.flatMap_cons, List.flatMap_append, List.append_assoc, decodeBytes_encodeByte, ih]
      rfl

variable {keep : Char → Bool}

/-- Characters that are kept are ASCII, and the percent sign is none of them. -/
def Plain (keep : Char → Bool) : Prop := ∀ c, keep c = true → c.toNat < 128 ∧ c.toNat ≠ 0x25

theorem decodeBytes_encodeChar (plain : Plain keep) (c : Char) (rest : List UInt8) :
    decodeBytes ((encodeChar keep c).flatMap String.utf8EncodeChar ++ rest) =
      String.utf8EncodeChar c ++ decodeBytes rest := by
  rw [encodeChar]
  split
  next kept =>
    obtain ⟨ascii, notSign⟩ := plain c kept
    have different : UInt8.ofNat c.toNat ≠ 0x25 := by
      intro same
      have value := congrArg UInt8.toNat same
      rw [UInt8.toNat_ofNat'] at value
      have reduced : (0x25 : UInt8).toNat = 0x25 := rfl
      omega
    rw [List.flatMap_singleton, utf8EncodeChar_ascii ascii, List.singleton_append,
      decodeBytes_plain different, List.singleton_append]
  next => exact decodeBytes_encodeBytes _ rest

theorem decode_encode (plain : Plain keep) (text : String) : decode (encode keep text) = text := by
  have bytes : ∀ chars : List Char,
      decodeBytes ((chars.flatMap (encodeChar keep)).flatMap String.utf8EncodeChar) =
        chars.flatMap String.utf8EncodeChar := by
    intro chars
    induction chars with
    | nil => rfl
    | cons c rest ih =>
        rw [List.flatMap_cons, List.flatMap_append, decodeBytes_encodeChar plain, ih]
        rfl
  rw [decode, utf8, encode, String.toList_ofList, bytes]
  exact ofUtf8Lossy_utf8 text

theorem toNat_of_isAlphanum {c : Char} (alphanumeric : c.isAlphanum = true) :
    48 ≤ c.toNat ∧ c.toNat ≤ 57 ∨ 65 ≤ c.toNat ∧ c.toNat ≤ 122 := by
  have upper : c.isUpper = decide (c.val ≥ 'A'.val ∧ c.val ≤ 'Z'.val) := rfl
  have lower : c.isLower = (decide (c.val ≥ 'a'.val) && decide (c.val ≤ 'z'.val)) := rfl
  have digit : c.isDigit = (decide (c.val ≥ '0'.val) && decide (c.val ≤ '9'.val)) := rfl
  have all : c.isAlphanum = ((c.isUpper || c.isLower) || c.isDigit) := rfl
  simp only [all, upper, lower, digit, Bool.or_eq_true, Bool.and_eq_true, decide_eq_true_eq,
    ge_iff_le, UInt32.le_iff_toNat_le, Char.reduceVal, UInt32.reduceToNat] at alphanumeric
  simp only [Char.toNat]
  omega

theorem isQuerySafe_range {c : Char} (kept : isQuerySafe c = true) :
    (48 ≤ c.toNat ∧ c.toNat ≤ 57 ∨ 65 ≤ c.toNat ∧ c.toNat ≤ 122) ∨ c ∈ ['-', '.', '_', '~', ','] := by
  simp only [isQuerySafe, isUnreserved, Bool.or_eq_true, beq_iff_eq] at kept
  rcases kept with ((((alphanumeric | mark) | mark) | mark) | mark) | mark
  · exact .inl (toNat_of_isAlphanum alphanumeric)
  all_goals exact .inr (by simp [mark])

theorem isQuerySafe_plain : Plain isQuerySafe := by
  intro c kept
  rcases isQuerySafe_range kept with range | mark
  · omega
  · simp only [List.mem_cons, List.not_mem_nil, or_false] at mark
    rcases mark with rfl | rfl | rfl | rfl | rfl <;> decide

theorem decode_encodeQuery (text : String) : decode (encodeQuery text) = text :=
  decode_encode isQuerySafe_plain text

/-- What encoded text is made of. -/
theorem mem_encode {text : String} {c : Char} (member : c ∈ (encode keep text).toList) :
    keep c = true ∨ c = '%' ∨ ∃ n < 16, c = hexDigit n := by
  rw [encode, String.toList_ofList, List.mem_flatMap] at member
  obtain ⟨source, -, made⟩ := member
  rw [encodeChar] at made
  split at made
  next kept => exact .inl (List.mem_singleton.mp made ▸ kept)
  next =>
    obtain ⟨byte, -, spelled⟩ := List.mem_flatMap.mp made
    have size := byte.toNat_lt
    simp only [encodeByte, List.mem_cons, List.not_mem_nil, or_false] at spelled
    rcases spelled with sign | high | low
    · exact .inr (.inl sign)
    · exact .inr (.inr ⟨_, by omega, high⟩)
    · exact .inr (.inr ⟨_, by omega, low⟩)

/-- The marks that separate the parts of a query. -/
def separators : List Char := ['&', '=', '?']

theorem hexDigit_not_separator {n : Nat} (small : n < 16) : hexDigit n ∉ separators := by
  have each : ∀ n : Fin 16, hexDigit n ∉ separators := by decide
  exact each ⟨n, small⟩

/-- Marks that are not kept are nowhere in what is encoded. -/
theorem encode_without {marks : List Char} (unkept : marks.all (!keep ·) = true)
    (unsigned : '%' ∉ marks) (digits : ∀ n : Fin 16, hexDigit n ∉ marks) (text : String)
    {mark : Char} (separates : mark ∈ marks) : mark ∉ (encode keep text).toList := by
  intro member
  rcases mem_encode member with kept | sign | ⟨n, small, digit⟩
  · have dropped := List.all_eq_true.mp unkept mark separates
    rw [kept] at dropped
    cases dropped
  · subst sign
    exact absurd separates unsigned
  · exact digits ⟨n, small⟩ (digit ▸ separates)

theorem encode_free (unkept : separators.all (!keep ·) = true) (text : String)
    {mark : Char} (separates : mark ∈ separators) : mark ∉ (encode keep text).toList :=
  encode_without unkept (by decide) (fun n => hexDigit_not_separator n.isLt) text separates

theorem encodeQuery_free (text : String) {mark : Char} (separates : mark ∈ separators) :
    mark ∉ (encodeQuery text).toList := encode_free rfl text separates

theorem encodePath_free (text : String) {mark : Char} (separates : mark ∈ separators) :
    mark ∉ (encodePath text).toList := encode_free rfl text separates

end ApiContract.Text.Percent
