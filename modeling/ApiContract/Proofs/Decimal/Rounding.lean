import ApiContract.Decimal.Shortest
import Mathlib.Algebra.Order.Ring.Nat
import Mathlib.Tactic.Linarith
import Mathlib.Tactic.Ring

/-!
Ratios that round to a given value. The interval of a finite value is its share of the reals: every
ratio inside is rounded to that value, a ratio at an end only where the mantissa is even.
-/

namespace ApiContract.Decimal

theorem twoTo_pos (exponent : Nat) : 0 < twoTo exponent := Nat.two_pow_pos exponent

theorem tenTo_pos (exponent : Nat) : 0 < tenTo exponent := Nat.pow_pos (by decide)

theorem twoTo_add (a b : Nat) : twoTo (a + b) = twoTo a * twoTo b := Nat.pow_add 2 a b

theorem tenTo_add (a b : Nat) : tenTo (a + b) = tenTo a * tenTo b := Nat.pow_add 10 a b

theorem twoTo_mono {a b : Nat} (le : a ≤ b) : twoTo a ≤ twoTo b :=
  Nat.pow_le_pow_right (by decide) le

theorem tenTo_mono {a b : Nat} (le : a ≤ b) : tenTo a ≤ tenTo b :=
  Nat.pow_le_pow_right (by decide) le

namespace Interval

theorem le_of_holds {i : Interval} {num den : Nat} (closed : i.closed = true)
    (holds : i.holds num den = true) : i.low * den ≤ num ∧ num ≤ i.high * den := by
  rw [Interval.holds, if_pos closed] at holds
  exact of_decide_eq_true holds

theorem lt_of_holds {i : Interval} {num den : Nat} (opened : i.closed = false)
    (holds : i.holds num den = true) : i.low * den < num ∧ num < i.high * den := by
  rw [Interval.holds, if_neg (by simp [opened])] at holds
  exact of_decide_eq_true holds

end Interval

/-- The interval as linear bounds on a ratio `num / den`, in the units of the interval; `unit` is
`den` times the weight of the last bit. -/
structure Around (mantissa scale num unit : Nat) : Prop where
  low : 4 * (mantissa * unit) ≤ num + 2 * unit
  high : num ≤ 4 * (mantissa * unit) + 2 * unit
  odd : mantissa % 2 = 1 →
    4 * (mantissa * unit) < num + 2 * unit ∧ num < 4 * (mantissa * unit) + 2 * unit
  /-- Below a power of two the neighbour is half as far. -/
  power : mantissa = twoTo 52 → 0 < scale → 4 * (mantissa * unit) ≤ num + unit

theorem around_of_holds {mantissa scale num den : Nat} (pos : 0 < mantissa)
    (holds : (interval mantissa scale).holds num den = true) :
    Around mantissa scale num (den * twoTo scale) := by
  have upper : (4 * mantissa + 2) * twoTo scale * den =
      4 * (mantissa * (den * twoTo scale)) + 2 * (den * twoTo scale) := by ring
  have lower : (4 * mantissa - 2) * twoTo scale * den + 2 * (den * twoTo scale) =
      4 * (mantissa * (den * twoTo scale)) := by
    obtain ⟨k, same⟩ := Nat.exists_eq_add_of_le' pos
    have shifted : 4 * mantissa - 2 = 4 * k + 2 := by omega
    rw [shifted, same]
    ring
  have lowerPower : (4 * mantissa - 1) * twoTo scale * den + den * twoTo scale =
      4 * (mantissa * (den * twoTo scale)) := by
    obtain ⟨k, same⟩ := Nat.exists_eq_add_of_le' pos
    have shifted : 4 * mantissa - 1 = 4 * k + 3 := by omega
    rw [shifted, same]
    ring
  -- An even mantissa owns both ends of its interval, an odd one neither.
  by_cases even : mantissa % 2 = 0
  · have closed : (interval mantissa scale).closed = true := decide_eq_true even
    obtain ⟨fromLow, fromHigh⟩ := Interval.le_of_holds closed holds
    simp only [interval] at fromLow fromHigh
    split at fromLow
    next atPower =>
      exact ⟨by omega, by omega, fun odd => by omega, fun _ _ => by omega⟩
    next notPower =>
      refine ⟨by omega, by omega, fun odd => by omega, fun power scaled => ?_⟩
      exact absurd ⟨power, scaled⟩ notPower
  · have opened : (interval mantissa scale).closed = false := decide_eq_false even
    obtain ⟨fromLow, fromHigh⟩ := Interval.lt_of_holds opened holds
    have notPower : ¬(mantissa = twoTo 52 ∧ 0 < scale) := fun atPower =>
      even (atPower.1 ▸ by decide)
    simp only [interval, if_neg notPower] at fromLow fromHigh
    refine ⟨by omega, by omega, fun _ => ⟨by omega, by omega⟩, fun power scaled => ?_⟩
    exact absurd ⟨power, scaled⟩ notPower

namespace Binary64

/-- The nearest number is the one at most half away, an even one where it is exactly half. -/
theorem roundDiv_eq {num den nearest : Nat} (pos : 0 < den)
    (low : 2 * (nearest * den) ≤ 2 * num + den) (high : 2 * num ≤ 2 * (nearest * den) + den)
    (tie : nearest % 2 = 1 →
      2 * (nearest * den) < 2 * num + den ∧ 2 * num < 2 * (nearest * den) + den) :
    roundDiv num den = nearest := by
  have divided : num / den * den + num % den = num := by
    rw [Nat.mul_comm]
    exact Nat.div_add_mod num den
  have small : num % den < den := Nat.mod_lt num pos
  rw [roundDiv]
  generalize num / den = quotient at *
  generalize num % den = rest at *
  -- What is at most half away is the quotient or its successor.
  have near : nearest = quotient ∨ nearest = quotient + 1 := by
    have below : nearest * den < (quotient + 2) * den := by
      rw [Nat.add_mul]
      omega
    have above : quotient * den < (nearest + 1) * den := by
      rw [Nat.add_mul]
      omega
    have := Nat.lt_of_mul_lt_mul_right below
    have := Nat.lt_of_mul_lt_mul_right above
    omega
  rcases near with same | next
  · subst same
    split
    next => rfl
    next => split <;> omega
  · subst next
    rw [Nat.add_mul] at low high tie
    split
    next => omega
    next => split <;> omega

theorem log2_div_eq {num den k : Nat} (pos : 0 < den) (low : twoTo k * den ≤ num)
    (high : num < twoTo (k + 1) * den) : (num / den).log2 = k := by
  have above : twoTo k ≤ num / den := (Nat.le_div_iff_mul_le pos).mpr low
  have nonzero : num / den ≠ 0 := by
    have := twoTo_pos k
    omega
  exact (Nat.log2_eq_iff nonzero).mpr ⟨above, (Nat.div_lt_iff_lt_mul pos).mpr high⟩

variable {mantissa scale : Nat} (negative : Bool) {num den : Nat}

/-- Where the scale is known, rounding the ratio at that scale is all there is. -/
theorem ofRatio_at_scale (canonical : Canonical mantissa scale)
    (scaleIs : (num * twoTo 1074 / den).log2 - 52 = scale)
    (rounded : roundDiv (num * twoTo 1074) (den * twoTo scale) = mantissa) :
    ofRatio negative num den = .finite negative mantissa scale canonical := by
  have notNext : mantissa ≠ twoTo 53 := Nat.ne_of_lt canonical.1
  simp only [ofRatio, scaleIs, rounded, if_neg notNext, pack, dif_pos canonical]

/-- A ratio just below a power of two may be rounded up to it from the scale below. -/
theorem ofRatio_at_power (canonical : Canonical (twoTo 52) (scale + 1))
    (scaleIs : (num * twoTo 1074 / den).log2 - 52 = scale)
    (rounded : roundDiv (num * twoTo 1074) (den * twoTo scale) = twoTo 53) :
    ofRatio negative num den = .finite negative (twoTo 52) (scale + 1) canonical := by
  simp only [ofRatio, scaleIs, rounded, if_true, pack, dif_pos canonical]

theorem twoTo_mul_weight (k scale den : Nat) :
    twoTo (k + scale) * den = twoTo k * (den * twoTo scale) := by
  rw [twoTo_add]
  ring

/-- Below a power of two only that power is as close as its interval allows. -/
theorem ofRatio_below_power (canonical : Canonical (twoTo 52) (scale + 1)) (denPos : 0 < den)
    (close : 4 * (twoTo 52 * (den * twoTo (scale + 1))) ≤
      4 * (num * twoTo 1074) + den * twoTo (scale + 1))
    (below : num * twoTo 1074 < twoTo (52 + (scale + 1)) * den) :
    ofRatio negative num den = .finite negative (twoTo 52) (scale + 1) canonical := by
  have halved : den * twoTo (scale + 1) = 2 * (den * twoTo scale) := by
    rw [twoTo_add]
    simp only [show twoTo 1 = 2 from rfl]
    ring
  have unitPos : 0 < den * twoTo scale := Nat.mul_pos denPos (twoTo_pos scale)
  have small : twoTo 52 = 4503599627370496 := rfl
  have large : twoTo 53 = 9007199254740992 := rfl
  rw [twoTo_mul_weight, halved] at below
  rw [halved, small] at close
  rw [small] at below
  refine ofRatio_at_power negative canonical ?_ ?_
  · have reached : twoTo (52 + scale) * den ≤ num * twoTo 1074 := by
      rw [twoTo_mul_weight, small]
      omega
    have within : num * twoTo 1074 < twoTo (52 + scale + 1) * den := by
      rw [show 52 + scale + 1 = 53 + scale from by omega, twoTo_mul_weight, large]
      omega
    rw [log2_div_eq denPos reached within]
    omega
  · refine roundDiv_eq unitPos ?_ ?_ fun isOdd => absurd isOdd (by decide)
    · rw [large]
      omega
    · rw [large]
      omega

theorem ofRatio_of_around (canonical : Canonical mantissa scale) (pos : 0 < mantissa)
    (denPos : 0 < den) (around : Around mantissa scale (num * twoTo 1076) (den * twoTo scale)) :
    ofRatio negative num den = .finite negative mantissa scale canonical := by
  obtain ⟨low, high, odd, power⟩ := around
  have quadruple : num * twoTo 1076 = 4 * (num * twoTo 1074) := by
    rw [show twoTo 1076 = twoTo 1074 * twoTo 2 from twoTo_add 1074 2]
    simp only [show twoTo 2 = 4 from rfl]
    ring
  rw [quadruple] at low high odd power
  have unitPos : 0 < den * twoTo scale := Nat.mul_pos denPos (twoTo_pos scale)
  have rounded : roundDiv (num * twoTo 1074) (den * twoTo scale) = mantissa :=
    roundDiv_eq unitPos (by omega) (by omega) fun isOdd => by have := odd isOdd; omega
  have bound : mantissa < twoTo 53 := canonical.1
  have above : mantissa * (den * twoTo scale) + den * twoTo scale ≤
      twoTo 53 * (den * twoTo scale) := by
    have := Nat.mul_le_mul_right (den * twoTo scale) bound
    rwa [Nat.succ_mul] at this
  rcases Nat.eq_zero_or_pos scale with zero | scaled
  · -- at the smallest scale only the upper end matters
    subst zero
    refine ofRatio_at_scale negative canonical ?_ rounded
    have small : num * twoTo 1074 / den < twoTo 53 := by
      rw [Nat.div_lt_iff_lt_mul denPos]
      simp only [show twoTo 0 = 1 from rfl, Nat.mul_one] at high above
      omega
    by_cases none : num * twoTo 1074 / den = 0
    · simp [none]
    · have := (Nat.log2_lt none).mpr small
      omega
  · have full : twoTo 52 ≤ mantissa := canonical.2.2.resolve_left (by omega)
    have below : num * twoTo 1074 < twoTo (52 + scale + 1) * den := by
      rw [show 52 + scale + 1 = 53 + scale from by omega, twoTo_mul_weight]
      omega
    -- Below the least number of the scale only a power of two still gets the ratio.
    by_cases reached : twoTo (52 + scale) * den ≤ num * twoTo 1074
    · refine ofRatio_at_scale negative canonical ?_ rounded
      rw [log2_div_eq denPos reached below]
      omega
    · have atPower : mantissa = twoTo 52 := by
        by_contra other
        have more : twoTo 52 + 1 ≤ mantissa := by omega
        have := Nat.mul_le_mul_right (den * twoTo scale) more
        rw [Nat.succ_mul, ← twoTo_mul_weight] at this
        omega
      subst atPower
      obtain ⟨smaller, rfl⟩ : ∃ smaller, scale = smaller + 1 := ⟨scale - 1, by omega⟩
      exact ofRatio_below_power negative canonical denPos (power rfl scaled) (by omega)

/-- A ratio in the interval of a value is rounded to that value. -/
theorem ofRatio_of_holds (canonical : Canonical mantissa scale) (pos : 0 < mantissa)
    (denPos : 0 < den)
    (holds : (interval mantissa scale).holds (num * twoTo 1076) den = true) :
    ofRatio negative num den = .finite negative mantissa scale canonical :=
  ofRatio_of_around negative canonical pos denPos (around_of_holds pos holds)

theorem roundDiv_bounds (num den : Nat) :
    num / den ≤ roundDiv num den ∧ roundDiv num den ≤ num / den + 1 := by
  simp only [roundDiv]
  split
  · omega
  · split
    · omega
    · have := Nat.mod_lt (num / den) (show 0 < 2 by decide)
      omega

/-- A ratio below the largest scale is rounded to a finite value. -/
theorem ofRatio_isFinite (negative : Bool)
    (small : (num * twoTo 1074 / den).log2 ≤ 2096) : (ofRatio negative num den).isFinite = true := by
  obtain ⟨low, high⟩ := roundDiv_bounds (num * twoTo 1074)
    (den * twoTo ((num * twoTo 1074 / den).log2 - 52))
  rw [← Nat.div_div_eq_div_mul] at low high
  simp only [ofRatio]
  generalize num * twoTo 1074 / den = ratio at low high small ⊢
  generalize roundDiv _ _ = mantissa at low high ⊢
  have below : ratio < twoTo (ratio.log2 + 1) := Nat.lt_log2_self
  -- What is left of the ratio at its scale has at most 53 bits, and 53 of them above the smallest.
  have upper : ratio / twoTo (ratio.log2 - 52) < twoTo 53 := by
    rw [Nat.div_lt_iff_lt_mul (twoTo_pos _), ← twoTo_add]
    exact Nat.lt_of_lt_of_le below (twoTo_mono (by omega))
  have lower : ratio.log2 - 52 ≠ 0 → twoTo 52 ≤ ratio / twoTo (ratio.log2 - 52) := by
    intro scaled
    rw [Nat.le_div_iff_mul_le (twoTo_pos _), ← twoTo_add]
    have whole : 52 + (ratio.log2 - 52) = ratio.log2 := by omega
    rw [whole]
    exact Nat.log2_self_le (by rintro rfl; exact scaled rfl)
  split
  next =>
    have canonical : Canonical (twoTo 52) (ratio.log2 - 52 + 1) :=
      ⟨by decide, by omega, .inr (Nat.le_refl _)⟩
    rw [pack, dif_pos canonical]
    rfl
  next notPower =>
    have canonical : Canonical mantissa (ratio.log2 - 52) := by
      refine ⟨by omega, by omega, ?_⟩
      by_cases smallest : ratio.log2 - 52 = 0
      · exact .inl smallest
      · exact .inr (Nat.le_trans (lower smallest) low)
    rw [pack, dif_pos canonical]
    rfl

theorem log2_lt_of_lt {n k : Nat} (nonzero : n ≠ 0) (below : n < twoTo k) : n.log2 < k :=
  (Nat.log2_lt nonzero).mpr below

/-- Whole numbers of no more than 65 bits round to finite values. -/
theorem ofInt_isFinite {n : Int} (small : n.natAbs < twoTo 65) : (ofInt n).isFinite = true := by
  apply ofRatio_isFinite
  have below : n.natAbs * twoTo 1074 / 1 < twoTo (65 + 1074) := by
    rw [Nat.div_one, twoTo_add]
    exact Nat.mul_lt_mul_of_pos_right small (twoTo_pos 1074)
  by_cases zero : n.natAbs * twoTo 1074 / 1 = 0
  · rw [zero]
    decide
  · have := log2_lt_of_lt zero below
    omega

end Binary64

end ApiContract.Decimal
