import ApiContract.Proofs.Decimal.Digits
import ApiContract.Proofs.Decimal.Shortest
import ApiContract.Proofs.Text.Run
import Mathlib.Tactic.IntervalCases

/-!
Written numbers are read back. Plain notation lays the shortest digits out around a point, with
zeros to fill up; the reader collects the digits and counts those behind the point, which is the
number of zeros taken off the exponent.
-/

namespace ApiContract.Decimal

theorem natOfDigits_append (first second : List Char) :
    natOfDigits (first ++ second) =
      natOfDigits first * tenTo second.length + natOfDigits second := by
  simp only [natOfDigits_eq, Nat.ofDigitChars_append]
  rw [Nat.ofDigitChars_eq_ofDigitChars_zero, Nat.mul_comm]
  rfl

theorem natOfDigits_zeros (count : Nat) : natOfDigits (List.replicate count '0') = 0 := by
  rw [natOfDigits_eq, Nat.ofDigitChars_replicate_zero, Nat.mul_zero]

theorem isDigit_of_mem_zeros {count : Nat} {c : Char} (member : c ∈ List.replicate count '0') :
    isDigit c = true := by
  rw [List.eq_of_mem_replicate member]
  rfl

/-- Only zero is written with a leading zero. -/
theorem head_toDigits_ne {n : Nat} (nonzero : n ≠ 0) : (Nat.toDigits 10 n).head? ≠ some '0' := by
  induction n using Nat.strong_induction_on with
  | _ n ih =>
      rcases Nat.lt_or_ge n 10 with small | large
      · rw [Nat.toDigits_of_lt_base small]
        interval_cases n <;> simp_all [Nat.digitChar]
      · rw [Nat.toDigits_of_base_le (by decide) large]
        have shorter := ih (n / 10) (by omega) (by omega)
        cases digits : Nat.toDigits 10 (n / 10) with
        | nil => exact absurd digits Nat.toDigits_ne_nil
        | cons c rest =>
            rw [digits] at shorter
            exact shorter

/-- Digits around a point, which stands only where a fraction follows. -/
def pointed (whole : List Char) : List Char → List Char
  | [] => whole
  | c :: fraction => whole ++ '.' :: c :: fraction

/-- Parts of a number as they are written: some digits before the point, the first of several not
zero. -/
structure IsLayout (whole fraction : List Char) : Prop where
  nonempty : whole ≠ []
  wholeDigits : ∀ c ∈ whole, isDigit c = true
  fractionDigits : ∀ c ∈ fraction, isDigit c = true
  lead : ¬(whole.head? = some '0' ∧ 1 < whole.length)

theorem toDigits_layout (n : Nat) : IsLayout (Nat.toDigits 10 n) [] := by
  refine ⟨Nat.toDigits_ne_nil, fun c => isDigit_of_mem_toDigits, nofun, fun zeros => ?_⟩
  by_cases zero : n = 0
  · subst zero
    exact absurd zeros.2 (by decide)
  · exact head_toDigits_ne zero zeros.1

theorem pointed_of_ne_nil {fraction : List Char} (some : fraction ≠ []) (whole : List Char) :
    pointed whole fraction = whole ++ '.' :: fraction := by
  cases fraction with
  | nil => exact absurd rfl some
  | cons c rest => rfl

/-- What `placePoint` lays out before and behind the point. -/
theorem placePoint_layout {digits places : Nat} (nonzero : digits ≠ 0) (pos : 0 < places) :
    ∃ whole fraction, IsLayout whole fraction ∧ fraction ≠ [] ∧
      (placePoint digits places).toList = pointed whole fraction ∧
      natOfDigits (whole ++ fraction) = digits ∧ fraction.length = places := by
  let zeros := List.replicate (places + 1 - (Nat.toDigits 10 digits).length) '0'
  let padded := zeros ++ Nat.toDigits 10 digits
  let cut := padded.length - places
  have length : padded.length =
      (places + 1 - (Nat.toDigits 10 digits).length) + (Nat.toDigits 10 digits).length := by
    simp [padded, zeros]
  have positive : 0 < (Nat.toDigits 10 digits).length := Nat.length_toDigits_pos
  have inside : ∀ c ∈ padded, isDigit c = true := fun c member =>
    (List.mem_append.mp member).elim isDigit_of_mem_zeros isDigit_of_mem_toDigits
  have behind : (padded.drop cut).length = places := by
    rw [List.length_drop]
    omega
  have some : padded.drop cut ≠ [] := List.ne_nil_of_length_pos (by omega)
  have before : (padded.take cut).length = cut := by
    rw [List.length_take]
    omega
  refine ⟨padded.take cut, padded.drop cut, ⟨?_, ?_, ?_, ?_⟩, some, ?_, ?_, behind⟩
  · exact List.ne_nil_of_length_pos (by omega)
  · exact fun c member => inside c (List.mem_of_mem_take member)
  · exact fun c member => inside c (List.mem_of_mem_drop member)
  · -- with zeros to fill up there is one digit before the point, else the first digit leads
    rintro ⟨lead, several⟩
    have unpadded : places + 1 - (Nat.toDigits 10 digits).length = 0 := by omega
    have same : padded = Nat.toDigits 10 digits := by simp [padded, zeros, unpadded]
    rw [List.head?_take, if_neg (by omega), same] at lead
    exact head_toDigits_ne nonzero lead
  · rw [pointed_of_ne_nil some]
    simp [placePoint, padded, zeros, cut]
  · rw [List.take_append_drop, natOfDigits_append, natOfDigits_zeros, natOfDigits_toDigits,
      Nat.zero_mul, Nat.zero_add]

namespace Digits

/-- The written digits of a number, and the zeros among them that its exponent stood for. -/
structure Written (d : Digits) (whole fraction : List Char) (zeros : Nat) : Prop where
  layout : IsLayout whole fraction
  digits : natOfDigits (whole ++ fraction) = d.digits * tenTo zeros
  places : -(fraction.length : Int) = d.exponent - zeros

/-- Zero has one form. -/
def Normal (d : Digits) : Prop := d.digits = 0 → d.exponent = 0

theorem zeros_written {d : Digits} (normal : d.Normal) (notNegative : 0 ≤ d.exponent) :
    d.Written (Nat.toDigits 10 d.digits ++ List.replicate d.exponent.toNat '0') []
      d.exponent.toNat := by
  refine ⟨⟨by simp [Nat.toDigits_ne_nil], fun c member => ?_, nofun, fun zeros => ?_⟩, ?_, ?_⟩
  · exact (List.mem_append.mp member).elim isDigit_of_mem_toDigits isDigit_of_mem_zeros
  · by_cases zero : d.digits = 0
    · rw [zero, normal zero] at zeros
      exact absurd zeros.2 (by decide)
    · have lead := head_toDigits_ne zero
      cases digits : Nat.toDigits 10 d.digits with
      | nil => exact Nat.toDigits_ne_nil digits
      | cons c rest =>
          rw [digits] at lead zeros
          exact lead zeros.1
  · rw [List.append_nil, natOfDigits_append, natOfDigits_zeros, natOfDigits_toDigits,
      List.length_replicate, Nat.add_zero]
  · simp only [List.length_nil]
    omega

theorem plain_zeros {d : Digits} (notNegative : 0 ≤ d.exponent) :
    d.plain.toList = Nat.toDigits 10 d.digits ++ List.replicate d.exponent.toNat '0' := by
  rw [plain, if_pos notNegative, String.toList_append, String.toList_ofList]
  congr 1
  exact Nat.toList_repr

theorem plain_written {d : Digits} (normal : d.Normal) :
    ∃ whole fraction zeros, d.Written whole fraction zeros ∧
      d.plain.toList = pointed whole fraction ∧ (fraction = [] ↔ 0 ≤ d.exponent) := by
  by_cases notNegative : 0 ≤ d.exponent
  · exact ⟨_, [], _, zeros_written normal notNegative, plain_zeros notNegative,
      by simp [notNegative]⟩
  · have nonzero : d.digits ≠ 0 := fun zero => notNegative (normal zero ▸ Int.le_refl 0)
    obtain ⟨whole, fraction, layout, some, written, digits, places⟩ :=
      @placePoint_layout _ (-d.exponent).toNat nonzero (by omega)
    refine ⟨whole, fraction, 0, ⟨layout, ?_, ?_⟩, ?_, by simp [some, notNegative]⟩
    · rw [digits]
      exact (Nat.mul_one _).symm
    · omega
    · rw [plain, if_neg notNegative, written]

/-- A whole number with a fraction of one zero. -/
theorem zeros_fraction_written {d : Digits} (normal : d.Normal) (notNegative : 0 ≤ d.exponent) :
    d.Written (Nat.toDigits 10 d.digits ++ List.replicate d.exponent.toNat '0') ['0']
      (d.exponent.toNat + 1) := by
  obtain ⟨layout, digits, places⟩ := zeros_written normal notNegative
  refine ⟨⟨layout.nonempty, layout.wholeDigits, by simp [isDigit], layout.lead⟩, ?_, ?_⟩
  · rw [List.append_nil] at digits
    rw [natOfDigits_append, digits, tenTo_add]
    simp [natOfDigits, tenTo, Nat.mul_assoc]
  · simp only [List.length_nil, List.length_singleton] at places ⊢
    omega

theorem significand_layout (d : Digits) :
    ∃ whole fraction, IsLayout whole fraction ∧ d.significand.toList = pointed whole fraction ∧
      natOfDigits (whole ++ fraction) = d.digits ∧
      (fraction.length : Int) = (digitCount d.digits : Int) - 1 := by
  have positive : 0 < digitCount d.digits := Nat.length_toDigits_pos
  by_cases single : digitCount d.digits ≤ 1
  · refine ⟨Nat.toDigits 10 d.digits, [], toDigits_layout d.digits, ?_, ?_, ?_⟩
    · simp only [significand, if_pos single]
      exact Nat.toList_repr
    · rw [List.append_nil, natOfDigits_toDigits]
    · simp only [List.length_nil]
      omega
  · have nonzero : d.digits ≠ 0 := fun zero => by
      rw [zero] at single
      exact single (by decide)
    obtain ⟨whole, fraction, layout, -, written, digits, places⟩ :=
      @placePoint_layout _ (digitCount d.digits - 1) nonzero (by omega)
    refine ⟨whole, fraction, layout, ?_, digits, by omega⟩
    simp only [significand, if_neg single]
    exact written

end Digits

theorem shortest_normal {mantissa scale : Nat} (canonical : Canonical mantissa scale) :
    (shortest mantissa scale).Normal := by
  intro zero
  rcases Nat.eq_zero_or_pos mantissa with none | pos
  · rw [none, shortest_zero]
  · exact absurd zero (shortest_contains canonical pos).1

namespace Binary64

/-- The shortest digits are rounded to their value however they are written. -/
theorem ofDecimal_written (negative : Bool) {mantissa scale : Nat}
    (canonical : Canonical mantissa scale) {whole fraction : List Char} {zeros : Nat}
    (written : (shortest mantissa scale).Written whole fraction zeros) :
    ofDecimal negative (natOfDigits (whole ++ fraction)) (-(fraction.length : Int)) =
      .finite negative mantissa scale canonical := by
  rw [written.digits, written.places, ofDecimal_shortest negative canonical]

end Binary64

theorem isDigit_of_mem_pointed {whole fraction : List Char} (layout : IsLayout whole fraction)
    {c : Char} (member : c ∈ pointed whole fraction) : isDigit c = true ∨ c = '.' := by
  cases fraction with
  | nil => exact .inl (layout.wholeDigits c member)
  | cons first rest =>
      rcases List.mem_append.mp member with before | behind
      · exact .inl (layout.wholeDigits c before)
      · rcases List.mem_cons.mp behind with point | after
        · exact .inr point
        · exact .inl (layout.fractionDigits c after)

theorem pointed_head {whole fraction : List Char} (layout : IsLayout whole fraction) :
    ∃ c rest, pointed whole fraction = c :: rest ∧ isDigit c = true := by
  cases whole with
  | nil => exact absurd rfl layout.nonempty
  | cons c rest =>
      cases fraction with
      | nil => exact ⟨c, rest, rfl, layout.wholeDigits c List.mem_cons_self⟩
      | cons d fraction => exact ⟨c, _, rfl, layout.wholeDigits c List.mem_cons_self⟩

theorem readMagnitude_pointed (negative : Bool) {whole fraction : List Char}
    (layout : IsLayout whole fraction) :
    readMagnitude negative (pointed whole fraction) =
      some (.ofDecimal negative (natOfDigits (whole ++ fraction)) (-(fraction.length : Int))) := by
  have notEmpty : whole.isEmpty = false := by simp [layout.nonempty]
  cases fraction with
  | nil =>
      have before : whole.takeWhile isDigit = whole := by
        simpa using Text.takeWhile_run layout.wholeDigits Text.halts_nil
      have behind : whole.dropWhile isDigit = [] := by
        simpa using Text.dropWhile_run layout.wholeDigits Text.halts_nil
      simp [readMagnitude, pointed, before, behind, notEmpty]
  | cons c fraction =>
      have point : Text.Halts isDigit ('.' :: c :: fraction) := Text.halts_cons rfl
      have after : (c :: fraction).takeWhile isDigit = c :: fraction := by
        simpa using Text.takeWhile_run layout.fractionDigits Text.halts_nil
      have ended : (c :: fraction).dropWhile isDigit = [] := by
        simpa using Text.dropWhile_run layout.fractionDigits Text.halts_nil
      simp only [readMagnitude, pointed, Text.takeWhile_run layout.wholeDigits point,
        Text.dropWhile_run layout.wholeDigits point, after, ended, notEmpty, Bool.false_and,
        Bool.false_eq_true, if_false]

theorem toLower_of_isDigit {c : Char} (digit : isDigit c = true) : c.toLower = c := by
  have bounds := isDigit_iff.mp digit
  have named : c = Char.ofNat c.toNat := (Char.ofNat_toNat c).symm
  rw [named]
  have low := bounds.1
  have high := bounds.2
  generalize c.toNat = code at low high
  interval_cases code <;> rfl

/-- A text that opens with a digit is none of the words for special values. -/
theorem ofList_lower_ne {c : Char} (digit : isDigit c = true) (rest : List Char) {word : String}
    {first : Char} (opens : word.toList.head? = some first) (letter : isDigit first = false) :
    String.ofList ((c :: rest).map Char.toLower) ≠ word := by
  intro same
  have chars := congrArg String.toList same
  rw [String.toList_ofList, List.map_cons, toLower_of_isDigit digit] at chars
  rw [← chars] at opens
  cases opens
  rw [digit] at letter
  cases letter

theorem readFloat_pointed (negative : Bool) {whole fraction : List Char}
    (layout : IsLayout whole fraction) {text : String}
    (written : text.toList = (Binary64.sign negative).toList ++ pointed whole fraction) :
    readFloat text =
      some (.ofDecimal negative (natOfDigits (whole ++ fraction)) (-(fraction.length : Int))) := by
  obtain ⟨c, rest, opens, digit⟩ := pointed_head layout
  have read := readMagnitude_pointed negative layout
  have notInf := @ofList_lower_ne c digit rest "inf" 'i' rfl rfl
  have notInfinity := @ofList_lower_ne c digit rest "infinity" 'i' rfl rfl
  have notNan := @ofList_lower_ne c digit rest "nan" 'n' rfl rfl
  have notMinus : c ≠ '-' := ne_of_isDigit digit rfl
  have notPlus : c ≠ '+' := ne_of_isDigit digit rfl
  rw [opens] at written read
  cases negative with
  | true =>
      have chars : text.toList = '-' :: c :: rest := written
      simp only [readFloat, chars, notInf, notInfinity, notNan, or_self, if_false, read]
  | false =>
      have chars : text.toList = c :: rest := written
      -- Without a sign the first digit is told from both signs.
      rw [readFloat, chars]
      split
      rename_i sign rest' split
      split at split
      next same => cases same; exact absurd rfl notMinus
      next same => cases same; exact absurd rfl notPlus
      next =>
        cases split
        simp only [notInf, notInfinity, notNan, or_self, if_false, read]

/-- Plain notation is read back as the value it was written for. -/
theorem readFloat_plain {x : Binary64} (number : x ≠ .nan) : readFloat x.plain = some x := by
  cases x with
  | nan => exact absurd rfl number
  | infinite negative => cases negative <;> rfl
  | finite negative mantissa scale canonical =>
      obtain ⟨whole, fraction, zeros, written, chars, -⟩ :=
        Digits.plain_written (shortest_normal canonical)
      rw [readFloat_pointed negative written.layout (by rw [Binary64.plain, String.toList_append, chars]),
        Binary64.ofDecimal_written negative canonical written]

theorem plain_graphic (x : Binary64) : ∀ c ∈ x.plain.toList, Text.IsGraphic c := by
  have signs : ∀ negative, ∀ c ∈ (Binary64.sign negative).toList, Text.IsGraphic c := by
    intro negative
    cases negative <;> exact Text.graphic_of_all rfl
  cases x with
  | nan => exact Text.graphic_of_all rfl
  | infinite negative => cases negative <;> exact Text.graphic_of_all rfl
  | finite negative mantissa scale canonical =>
      intro c member
      obtain ⟨whole, fraction, zeros, written, chars, -⟩ :=
        Digits.plain_written (shortest_normal canonical)
      rw [Binary64.plain, String.toList_append, chars] at member
      rcases List.mem_append.mp member with sign | number
      · exact signs negative c sign
      · rcases isDigit_of_mem_pointed written.layout number with digit | point
        · exact graphic_of_isDigit digit
        · rw [point]
          decide

end ApiContract.Decimal
