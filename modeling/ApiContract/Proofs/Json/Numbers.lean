import ApiContract.Json.Reader
import ApiContract.Proofs.Decimal.Notation

/-!
Numbers in JSON text. What follows a number in a compact document ends it: a comma, a closing
bracket or nothing. Integers of 64 bits, signed or unsigned, are read as integers, finite floats as
the same floats.
-/

namespace ApiContract.Json

open Decimal (Binary64 IsLayout isDigit pointed natOfDigits)
open Document (Node)

/-- A character that may go on with a number. -/
def isNumberPart (c : Char) : Bool := isDigit c || c = '.' || c = 'e' || c = 'E'

variable {rest : List Char}

theorem halts_digits (halts : Text.Halts isNumberPart rest) : Text.Halts isDigit rest := by
  intro c found
  have := halts c found
  simp only [isNumberPart, Bool.or_eq_false_iff] at this
  exact this.1.1.1

theorem head_of_halts {c : Char} (halts : Text.Halts isNumberPart (c :: rest)) :
    c ≠ '.' ∧ c ≠ 'e' ∧ c ≠ 'E' := by
  have := halts c rfl
  simp only [isNumberPart, Bool.or_eq_false_iff, decide_eq_false_iff_not] at this
  exact ⟨this.1.1.2, this.1.2, this.2⟩

theorem not_superfluous {whole fraction : List Char} (layout : IsLayout whole fraction) :
    ¬(whole.isEmpty = true ∨ (whole.head? = some '0' ∧ 1 < whole.length)) := by
  rintro (empty | zeros)
  · exact layout.nonempty (List.isEmpty_iff.mp empty)
  · exact layout.lead zeros

theorem readMagnitude_whole (negative : Bool) {whole : List Char} (layout : IsLayout whole [])
    (halts : Text.Halts isNumberPart rest) :
    readMagnitude negative (whole ++ rest) = some (numberOfInteger negative whole, rest) := by
  have before := Text.takeWhile_run layout.wholeDigits (halts_digits halts)
  have behind := Text.dropWhile_run layout.wholeDigits (halts_digits halts)
  simp only [readMagnitude, before, behind, if_neg (not_superfluous layout)]
  cases rest with
  | nil => rfl
  | cons c rest =>
      obtain ⟨notPoint, notLower, notUpper⟩ := head_of_halts halts
      split
      next same => cases same; exact absurd rfl notPoint
      next same => cases same; exact absurd rfl notLower
      next same => cases same; exact absurd rfl notUpper
      next => rfl

theorem readMagnitude_fraction (negative : Bool) {whole fraction : List Char}
    (layout : IsLayout whole fraction) (some : fraction ≠ [])
    (halts : Text.Halts isNumberPart rest) :
    readMagnitude negative (pointed whole fraction ++ rest) =
      .some (finiteNumber (.ofDecimal negative (natOfDigits (whole ++ fraction))
        (-(fraction.length : Int))), rest) := by
  have point : Text.Halts isDigit ('.' :: (fraction ++ rest)) := Text.halts_cons rfl
  have notEmpty : fraction.isEmpty = false := by simp [some]
  have whole' := Text.takeWhile_run layout.wholeDigits point
  have behind := Text.dropWhile_run layout.wholeDigits point
  have fraction' := Text.takeWhile_run layout.fractionDigits (halts_digits halts)
  have after := Text.dropWhile_run layout.fractionDigits (halts_digits halts)
  rw [Decimal.pointed_of_ne_nil some, List.append_assoc, List.cons_append]
  simp only [readMagnitude, whole', behind, if_neg (not_superfluous layout), fraction', after,
    notEmpty, Bool.false_eq_true, if_false]
  cases rest with
  | nil => simp [readMagnitude.floating]
  | cons c rest =>
      obtain ⟨-, notLower, notUpper⟩ := head_of_halts halts
      split
      next same => cases same; exact absurd rfl notLower
      next same => cases same; exact absurd rfl notUpper
      next => simp [readMagnitude.floating]

theorem readMagnitude_exponent (negative : Bool) {whole fraction exponent : List Char} {e : Int}
    (layout : IsLayout whole fraction) (read : readExponent (exponent ++ rest) = some (e, rest)) :
    readMagnitude negative (pointed whole fraction ++ 'e' :: (exponent ++ rest)) =
      some (finiteNumber (.ofDecimal negative (natOfDigits (whole ++ fraction))
        (e - fraction.length)), rest) := by
  have letter : Text.Halts isDigit ('e' :: (exponent ++ rest)) := Text.halts_cons rfl
  by_cases none : fraction = []
  · subst none
    have whole' := Text.takeWhile_run layout.wholeDigits letter
    have behind := Text.dropWhile_run layout.wholeDigits letter
    simp only [readMagnitude, pointed, whole', behind, if_neg (not_superfluous layout), read,
      readMagnitude.floating]
  · have point : Text.Halts isDigit ('.' :: (fraction ++ 'e' :: (exponent ++ rest))) :=
      Text.halts_cons rfl
    have notEmpty : fraction.isEmpty = false := by simp [none]
    have whole' := Text.takeWhile_run layout.wholeDigits point
    have behind := Text.dropWhile_run layout.wholeDigits point
    have fraction' := Text.takeWhile_run layout.fractionDigits letter
    have after := Text.dropWhile_run layout.fractionDigits letter
    rw [Decimal.pointed_of_ne_nil none]
    simp only [List.append_assoc, List.cons_append]
    simp only [readMagnitude, whole', behind, if_neg (not_superfluous layout), fraction', after,
      notEmpty, Bool.false_eq_true, if_false, read, readMagnitude.floating]

/-- An exponent as it is written: a plus or a minus, then digits. -/
theorem readExponent_plus {digits : List Char} (nonempty : digits ≠ [])
    (inside : ∀ c ∈ digits, isDigit c = true) (halts : Text.Halts isDigit rest) :
    readExponent ('+' :: digits ++ rest) = some ((natOfDigits digits : Int), rest) := by
  simp only [readExponent, List.cons_append, List.nil_append, Text.takeWhile_run inside halts,
    Text.dropWhile_run inside halts, Decimal.readInt_digits nonempty inside, Option.map_some]

theorem readExponent_minus {digits : List Char} (nonempty : digits ≠ [])
    (inside : ∀ c ∈ digits, isDigit c = true) (halts : Text.Halts isDigit rest) :
    readExponent ('-' :: digits ++ rest) = some (-(natOfDigits digits : Int), rest) := by
  simp only [readExponent, List.cons_append, List.nil_append, Text.takeWhile_run inside halts,
    Text.dropWhile_run inside halts, Decimal.readInt_minus nonempty inside, Option.map_some]

/-- The integers that one of the two kinds of 64 bits holds. -/
def FitsNumber (n : Int) : Prop := -0x8000000000000000 ≤ n ∧ n ≤ 0xFFFFFFFFFFFFFFFF

instance (n : Int) : Decidable (FitsNumber n) := inferInstanceAs (Decidable (_ ∧ _))

theorem readNumber_digit {c : Char} (digit : isDigit c = true) (rest : List Char) :
    readNumber (c :: rest) = readMagnitude false (c :: rest) := by
  rw [readNumber.eq_def]
  split
  next same =>
    cases same
    cases digit
  next => rfl

theorem readNumber_layout (negative : Bool) {whole fraction : List Char}
    (layout : IsLayout whole fraction) (rest : List Char) :
    readNumber ((Binary64.sign negative).toList ++ pointed whole fraction ++ rest) =
      readMagnitude negative (pointed whole fraction ++ rest) := by
  cases negative with
  | true => rfl
  | false =>
      obtain ⟨c, behind, opens, digit⟩ := Decimal.pointed_head layout
      rw [opens]
      exact readNumber_digit digit (behind ++ rest)

theorem readNumber_int {n : Int} (fits : FitsNumber n) (halts : Text.Halts isNumberPart rest) :
    readNumber ((toString n).toList ++ rest) = some (.int n, rest) := by
  have layout := Decimal.toDigits_layout n.natAbs
  have read := fun negative => readMagnitude_whole negative layout halts
  have low := fits.1
  have high := fits.2
  rw [Decimal.toList_toString_int, Decimal.intChars]
  split
  next negative =>
    have opened := readNumber_layout true layout rest
    rw [pointed, read] at opened
    refine opened.trans ?_
    have nonzero : n.natAbs ≠ 0 := by omega
    have inside : n.natAbs ≤ 0x8000000000000000 := by omega
    have same : -(n.natAbs : Int) = n := by omega
    simp only [numberOfInteger, Decimal.natOfDigits_toDigits, if_true, if_neg nonzero,
      if_pos inside, same]
  next notNegative =>
    have opened := readNumber_layout false layout rest
    rw [pointed, read] at opened
    refine opened.trans ?_
    have inside : n.natAbs ≤ 0xFFFFFFFFFFFFFFFF := by omega
    have same : (n.natAbs : Int) = n := by omega
    simp only [numberOfInteger, Decimal.natOfDigits_toDigits, Bool.false_eq_true, if_false,
      if_pos inside, same]

section Floats
variable {mantissa scale : Nat} (canonical : Decimal.Canonical mantissa scale)
include canonical

theorem readNumber_pointed (negative : Bool) {whole fraction : List Char} {zeros : Nat}
    (written : (Decimal.shortest mantissa scale).Written whole fraction zeros)
    (some : fraction ≠ []) (halts : Text.Halts isNumberPart rest) :
    readNumber ((Binary64.sign negative).toList ++ pointed whole fraction ++ rest) =
      .some (.float (.finite negative mantissa scale canonical), rest) := by
  rw [readNumber_layout negative written.layout,
    readMagnitude_fraction negative written.layout some halts,
    Binary64.ofDecimal_written negative canonical written]
  rfl

/-- The exponent behind a significand restores what its point took away. -/
theorem readNumber_significand (negative : Bool) {exponent : List Char} {magnitude : Int}
    (isMagnitude : (Decimal.shortest mantissa scale).magnitude = magnitude)
    (nonzero : (Decimal.shortest mantissa scale).digits ≠ 0)
    (read : readExponent (exponent ++ rest) = some (magnitude, rest)) :
    readNumber ((Binary64.sign negative).toList ++
        (Decimal.shortest mantissa scale).significand.toList ++ 'e' :: (exponent ++ rest)) =
      some (.float (.finite negative mantissa scale canonical), rest) := by
  obtain ⟨whole, fraction, layout, chars, digits, places⟩ :=
    (Decimal.shortest mantissa scale).significand_layout
  have restored : magnitude - fraction.length = (Decimal.shortest mantissa scale).exponent := by
    rw [← isMagnitude, Decimal.Digits.magnitude, if_neg nonzero]
    omega
  have value := Binary64.ofDecimal_shortest negative canonical 0
  rw [show Decimal.tenTo 0 = 1 from rfl, Nat.mul_one, Nat.cast_zero, sub_zero] at value
  rw [chars, readNumber_layout negative layout, readMagnitude_exponent negative layout read, digits,
    restored, value]
  rfl

end Floats

theorem magnitude_chars {n : Int} (notNegative : 0 ≤ n) :
    ∃ digits : List Char, digits ≠ [] ∧ (∀ c ∈ digits, isDigit c = true) ∧
      (toString n).toList = digits ∧ (natOfDigits digits : Int) = n := by
  refine ⟨Nat.toDigits 10 n.natAbs, Nat.toDigits_ne_nil,
    fun c => Decimal.isDigit_of_mem_toDigits, ?_, ?_⟩
  · rw [Decimal.toList_toString_int, Decimal.intChars, if_neg (by omega)]
  · rw [Decimal.natOfDigits_toDigits]
    omega

theorem negative_chars {n : Int} (negative : n < 0) :
    ∃ digits : List Char, digits ≠ [] ∧ (∀ c ∈ digits, isDigit c = true) ∧
      (toString n).toList = '-' :: digits ∧ -(natOfDigits digits : Int) = n := by
  refine ⟨Nat.toDigits 10 n.natAbs, Nat.toDigits_ne_nil,
    fun c => Decimal.isDigit_of_mem_toDigits, ?_, ?_⟩
  · rw [Decimal.toList_toString_int, Decimal.intChars, if_pos negative]
  · rw [Decimal.natOfDigits_toDigits]
    omega

/-- A finite float is written with a fraction, or as a significand and a signed exponent. -/
theorem json_forms (negative : Bool) {mantissa scale : Nat}
    (canonical : Decimal.Canonical mantissa scale) :
    (∃ whole fraction zeros, (Decimal.shortest mantissa scale).Written whole fraction zeros ∧
      fraction ≠ [] ∧ (Binary64.finite negative mantissa scale canonical).json.toList =
        (Binary64.sign negative).toList ++ pointed whole fraction) ∨
    ∃ exponent, (Decimal.shortest mantissa scale).digits ≠ 0 ∧
      (∀ rest, Text.Halts isDigit rest → readExponent (exponent ++ rest) =
        some ((Decimal.shortest mantissa scale).magnitude, rest)) ∧
      (Binary64.finite negative mantissa scale canonical).json.toList =
        (Binary64.sign negative).toList ++
          ((Decimal.shortest mantissa scale).significand.toList ++ 'e' :: exponent) := by
  have normal := Decimal.shortest_normal canonical
  -- Zero has the magnitude zero, so it is written in plain notation.
  have nonzero : ¬(-5 ≤ (Decimal.shortest mantissa scale).magnitude ∧
      (Decimal.shortest mantissa scale).magnitude < 16) →
      (Decimal.shortest mantissa scale).digits ≠ 0 := fun outside zero =>
    outside (by simp [Decimal.Digits.magnitude, zero])
  simp only [Binary64.json, String.toList_append]
  split
  next =>
    split
    next notNegative =>
      have written := Decimal.Digits.zeros_fraction_written normal notNegative
      refine .inl ⟨_, _, _, written, List.cons_ne_nil _ _, ?_⟩
      rw [String.toList_append, Decimal.Digits.plain_zeros notNegative]
      rfl
    next isNegative =>
      obtain ⟨whole, fraction, zeros, written, chars, bare⟩ := Decimal.Digits.plain_written normal
      exact .inl ⟨whole, fraction, zeros, written, fun none => isNegative (bare.mp none), by rw [chars]⟩
  next outside =>
    split
    next notNegative =>
      obtain ⟨digits, nonempty, inside, chars, value⟩ := magnitude_chars notNegative
      refine .inr ⟨'+' :: digits, nonzero outside, fun rest halts => ?_, ?_⟩
      · rw [readExponent_plus nonempty inside halts, value]
      · rw [String.toList_append, String.toList_append, chars]
        simp
    next isNegative =>
      obtain ⟨digits, nonempty, inside, chars, value⟩ := negative_chars (not_le.mp isNegative)
      refine .inr ⟨'-' :: digits, nonzero outside, fun rest halts => ?_, ?_⟩
      · rw [readExponent_minus nonempty inside halts, value]
      · rw [String.toList_append, String.toList_append, chars]
        simp

theorem readNumber_json {x : Binary64} (finite : x.isFinite = true)
    (halts : Text.Halts isNumberPart rest) :
    readNumber (x.json.toList ++ rest) = some (.float x, rest) := by
  cases x with
  | nan => cases finite
  | infinite negative => cases finite
  | finite negative mantissa scale canonical =>
      rcases json_forms negative canonical with
        ⟨whole, fraction, zeros, written, some, chars⟩ | ⟨exponent, nonzero, read, chars⟩
      · rw [chars]
        exact readNumber_pointed canonical negative written some halts
      · have whole := readNumber_significand canonical negative rfl nonzero
          (read rest (halts_digits halts))
        rw [chars]
        simpa using whole

end ApiContract.Json
