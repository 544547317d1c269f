import ApiContract.Decimal.Notation
import ApiContract.Proofs.Text.Run

/-!
Decimal digits: the reader of whole numbers undoes their written form.
-/

namespace ApiContract.Decimal

theorem isDigit_eq (c : Char) : isDigit c = c.isDigit := by
  have lower : ('0' ≤ c) = (c.val ≥ '0'.val) := rfl
  have upper : (c ≤ '9') = (c.val ≤ '9'.val) := rfl
  simp only [isDigit, Char.isDigit, lower, upper, Bool.decide_and]

theorem isDigit_iff {c : Char} : isDigit c = true ↔ 48 ≤ c.toNat ∧ c.toNat ≤ 57 := by
  simp only [isDigit, decide_eq_true_eq]
  exact Iff.rfl

theorem natOfDigits_eq (chars : List Char) : natOfDigits chars = Nat.ofDigitChars 10 chars 0 :=
  Nat.ofDigitChars_eq_foldl.symm

theorem natOfDigits_toDigits (n : Nat) : natOfDigits (Nat.toDigits 10 n) = n := by
  rw [natOfDigits_eq, Nat.ofDigitChars_ten_toDigits]

theorem isDigit_of_mem_toDigits {n : Nat} {c : Char} (member : c ∈ Nat.toDigits 10 n) :
    isDigit c = true := by
  rw [isDigit_eq]
  exact Nat.isDigit_of_mem_toDigits (by decide) (by decide) member

theorem graphic_of_isDigit {c : Char} (digit : isDigit c = true) : Text.IsGraphic c := by
  have bounds := isDigit_iff.mp digit
  exact ⟨by omega, by omega⟩

theorem ne_of_isDigit {c other : Char} (digit : isDigit c = true)
    (outside : isDigit other = false) : c ≠ other := by
  intro same
  rw [same, outside] at digit
  cases digit

/-- The characters of a whole number: its digits, behind a minus where it is negative. -/
def intChars (n : Int) : List Char :=
  if n < 0 then '-' :: Nat.toDigits 10 n.natAbs else Nat.toDigits 10 n.natAbs

theorem toList_toString_int (n : Int) : (toString n).toList = intChars n := by
  cases n with
  | ofNat m =>
      have notNegative : ¬ (Int.ofNat m < 0) := by simp
      rw [intChars, if_neg notNegative]
      change (Nat.repr m).toList = Nat.toDigits 10 m
      exact Nat.toList_repr
  | negSucc m =>
      have negative : Int.negSucc m < 0 := Int.negSucc_lt_zero m
      rw [intChars, if_pos negative]
      change ("-" ++ Nat.repr (m + 1)).toList = _
      rw [String.toList_append, Nat.toList_repr]
      rfl

theorem intChars_graphic (n : Int) : ∀ c ∈ intChars n, Text.IsGraphic c := by
  intro c member
  have digits : ∀ c ∈ Nat.toDigits 10 n.natAbs, Text.IsGraphic c := fun c member =>
    graphic_of_isDigit (isDigit_of_mem_toDigits member)
  rw [intChars] at member
  split at member
  next =>
    rcases List.mem_cons.mp member with same | inside
    · subst same
      decide
    · exact digits c inside
  next => exact digits c member

/-- Digits alone, at least one, are read as their number. -/
theorem readInt_digits {chars : List Char} (nonempty : chars ≠ [])
    (digits : ∀ c ∈ chars, isDigit c = true) : readInt chars = some (natOfDigits chars : Int) := by
  cases chars with
  | nil => exact absurd rfl nonempty
  | cons c rest =>
      have notMinus : c ≠ '-' := ne_of_isDigit (digits c (by simp)) (by decide)
      have notPlus : c ≠ '+' := ne_of_isDigit (digits c (by simp)) (by decide)
      have all : (c :: rest).all isDigit = true := List.all_eq_true.mpr digits
      rw [readInt.eq_def]
      split
      rename_i negative rest' split
      split at split
      next same => cases same; exact absurd rfl notMinus
      next same => cases same; exact absurd rfl notPlus
      next =>
        cases split
        simp [all]

theorem readInt_minus {chars : List Char} (nonempty : chars ≠ [])
    (digits : ∀ c ∈ chars, isDigit c = true) :
    readInt ('-' :: chars) = some (-(natOfDigits chars : Int)) := by
  have all : chars.all isDigit = true := List.all_eq_true.mpr digits
  simp [readInt, all, nonempty]

theorem readInt_intChars (n : Int) : readInt (intChars n) = some n := by
  have digits : ∀ c ∈ Nat.toDigits 10 n.natAbs, isDigit c = true := fun c =>
    isDigit_of_mem_toDigits
  rw [intChars]
  split
  next negative =>
    rw [readInt_minus Nat.toDigits_ne_nil digits, natOfDigits_toDigits]
    congr 1
    omega
  next notNegative =>
    rw [readInt_digits Nat.toDigits_ne_nil digits, natOfDigits_toDigits]
    congr 1
    omega

theorem readInt_toString (n : Int) : readInt (toString n).toList = some n := by
  rw [toList_toString_int, readInt_intChars]

end ApiContract.Decimal
