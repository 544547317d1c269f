import ApiContract.Proofs.Decimal.Rounding

/-!
The shortest digits of a value read back as the value. The grid of seventeen digits after the first
is finer than the interval of any value, so the search ends with a hit, and what it hits lies in the
interval, whatever power of ten is taken out of it.
-/

namespace ApiContract.Decimal

/-! `digits · 10 ^ exponent`, in the units of an interval, is
`digits · gridStep exponent / gridDen exponent`. -/

def gridStep (exponent : Int) : Nat :=
  if 0 ≤ exponent then tenTo exponent.toNat * twoTo 1076 else twoTo 1076

def gridDen (exponent : Int) : Nat := if 0 ≤ exponent then 1 else tenTo (-exponent).toNat

theorem gridStep_pos (exponent : Int) : 0 < gridStep exponent := by
  rw [gridStep]
  split
  next => exact Nat.mul_pos (tenTo_pos _) (twoTo_pos _)
  next => exact twoTo_pos _

theorem gridDen_pos (exponent : Int) : 0 < gridDen exponent := by
  rw [gridDen]
  split
  next => exact Nat.one_pos
  next => exact tenTo_pos _

/-- Moving `k` powers of ten from the digits to the exponent does not change the number. -/
theorem grid_shift (exponent : Int) (k : Nat) :
    gridStep (exponent + k) * gridDen exponent =
      tenTo k * gridStep exponent * gridDen (exponent + k) := by
  rcases lt_or_ge exponent 0 with negative | notNegative
  · rcases lt_or_ge (exponent + k) 0 with stays | crosses
    · have split : (-exponent).toNat = k + (-(exponent + k)).toNat := by omega
      simp only [gridStep, gridDen, if_neg (not_le.mpr negative), if_neg (not_le.mpr stays), split,
        tenTo_add]
      ring
    · have split : k = (exponent + k).toNat + (-exponent).toNat := by omega
      simp only [gridStep, gridDen, if_neg (not_le.mpr negative), if_pos crosses, Nat.mul_one]
      rw [mul_right_comm, ← tenTo_add, ← split]
  · have crosses : 0 ≤ exponent + k := by omega
    have split : (exponent + k).toNat = k + exponent.toNat := by omega
    simp only [gridStep, gridDen, if_pos notNegative, if_pos crosses, split, tenTo_add]
    ring

namespace Interval

theorem holds_of_le {i : Interval} {num den : Nat} (low : i.low * den < num)
    (high : num < i.high * den) : i.holds num den = true := by
  rw [Interval.holds]
  split
  next => exact decide_eq_true ⟨Nat.le_of_lt low, Nat.le_of_lt high⟩
  next => exact decide_eq_true ⟨low, high⟩

/-- Membership depends on the ratio only. -/
theorem holds_of_cross {i : Interval} {num den num' den' : Nat} (pos : 0 < den) (pos' : 0 < den')
    (same : num * den' = num' * den) (holds : i.holds num den = true) :
    i.holds num' den' = true := by
  have move : ∀ bound, bound * den' * den = bound * den * den' := fun bound => by ring
  rw [Interval.holds] at holds ⊢
  split at holds
  next closed =>
    obtain ⟨low, high⟩ := of_decide_eq_true holds
    rw [if_pos closed]
    refine decide_eq_true ⟨Nat.le_of_mul_le_mul_right ?_ pos, Nat.le_of_mul_le_mul_right ?_ pos⟩
    · rw [move, ← same]
      exact Nat.mul_le_mul_right den' low
    · rw [move, ← same]
      exact Nat.mul_le_mul_right den' high
  next opened =>
    obtain ⟨low, high⟩ := of_decide_eq_true holds
    rw [if_neg opened]
    refine decide_eq_true ⟨Nat.lt_of_mul_lt_mul_right (a := den) ?_,
      Nat.lt_of_mul_lt_mul_right (a := den) ?_⟩
    · rw [move, ← same]
      exact Nat.mul_lt_mul_of_pos_right low pos'
    · rw [move, ← same]
      exact Nat.mul_lt_mul_of_pos_right high pos'

/-- The number `digits · 10 ^ exponent` lies in the interval. -/
def Contains (i : Interval) (digits : Nat) (exponent : Int) : Prop :=
  i.holds (digits * gridStep exponent) (gridDen exponent) = true

theorem contains_shift {i : Interval} {digits k : Nat} {exponent : Int} :
    i.Contains (digits * tenTo k) exponent ↔ i.Contains digits (exponent + k) := by
  have same : digits * gridStep (exponent + k) * gridDen exponent =
      digits * tenTo k * gridStep exponent * gridDen (exponent + k) := by
    rw [Nat.mul_assoc, grid_shift]
    ring
  exact ⟨holds_of_cross (gridDen_pos _) (gridDen_pos _) same.symm,
    holds_of_cross (gridDen_pos _) (gridDen_pos _) same⟩

theorem onGrid_contains {i : Interval} {exponent : Int} {digits : Nat}
    (hit : onGrid i exponent = some digits) : digits ≠ 0 ∧ i.Contains digits exponent := by
  have step : (if 0 ≤ exponent then tenTo exponent.toNat * twoTo 1076 else twoTo 1076) =
      gridStep exponent := rfl
  have den : (if 0 ≤ exponent then 1 else tenTo (-exponent).toNat) = gridDen exponent := rfl
  simp only [onGrid, step, den] at hit
  generalize i.value * gridDen exponent / gridStep exponent = below at hit
  split at hit
  next both =>
    split at hit
    next => cases hit; exact both.1
    next => cases hit; exact ⟨Nat.succ_ne_zero _, both.2⟩
  next =>
    split at hit
    next low => cases hit; exact low
    next =>
      split at hit
      next high => cases hit; exact ⟨Nat.succ_ne_zero _, high⟩
      next => cases hit

/-- Where the upper neighbour on a grid lies below the upper end, the grid has a hit. -/
theorem onGrid_isSome {i : Interval} {exponent : Int} (low : i.low ≤ i.value)
    (high : i.value * gridDen exponent + gridStep exponent < i.high * gridDen exponent) :
    (onGrid i exponent).isSome = true := by
  have step : (if 0 ≤ exponent then tenTo exponent.toNat * twoTo 1076 else twoTo 1076) =
      gridStep exponent := rfl
  have den : (if 0 ≤ exponent then 1 else tenTo (-exponent).toNat) = gridDen exponent := rfl
  have divided := Nat.div_add_mod' (i.value * gridDen exponent) (gridStep exponent)
  have rest := Nat.mod_lt (i.value * gridDen exponent) (gridStep_pos exponent)
  have lowest := Nat.mul_le_mul_right (gridDen exponent) low
  have hit : i.holds ((i.value * gridDen exponent / gridStep exponent + 1) * gridStep exponent)
      (gridDen exponent) = true := by
    apply holds_of_le <;> rw [Nat.succ_mul] <;> omega
  simp only [onGrid, step, den, hit]
  split
  next => split <;> rfl
  next => split <;> rfl

/-- A search that would end with a hit finds one. -/
theorem searchGrids_hit {i : Interval} {top : Int} {finest : Nat}
    (last : (onGrid i (top - finest)).isSome = true) (room : Nat) :
    onGrid i (searchGrids i top finest room).exponent =
      some (searchGrids i top finest room).digits := by
  induction room with
  | zero =>
      rw [searchGrids]
      split
      next found => exact found
      next missed =>
        rw [missed] at last
        cases last
  | succ room ih =>
      rw [searchGrids]
      split
      next found => exact found
      next => exact ih

theorem stripZeros_contains {i : Interval} {digits : Nat} {exponent : Int}
    (contains : i.Contains digits exponent) (room : Nat) :
    i.Contains (stripZeros room digits exponent).digits (stripZeros room digits exponent).exponent := by
  induction room generalizing digits exponent with
  | zero => exact contains
  | succ room ih =>
      rw [stripZeros]
      split
      next zero =>
        refine ih (contains_shift (k := 1) |>.mp ?_)
        have whole : digits / 10 * tenTo 1 = digits := Nat.div_mul_cancel (Nat.dvd_of_mod_eq_zero zero.2)
        rw [whole]
        exact contains
      next => exact contains

theorem stripZeros_ne_zero {digits : Nat} {exponent : Int} (nonzero : digits ≠ 0) (room : Nat) :
    (stripZeros room digits exponent).digits ≠ 0 := by
  induction room generalizing digits exponent with
  | zero => exact nonzero
  | succ room ih =>
      rw [stripZeros]
      split
      next zero => exact ih (by omega)
      next => exact nonzero

end Interval

theorem le_of_digitCount {n : Nat} (nonzero : n ≠ 0) : tenTo (digitCount n - 1) ≤ n := by
  rcases Nat.eq_zero_or_pos (digitCount n - 1) with one | more
  · rw [one]
    exact Nat.one_le_iff_ne_zero.mpr nonzero
  · apply Nat.le_of_not_lt
    intro less
    have := (Nat.length_toDigits_le_iff (by decide : 1 < 10) more).mpr less
    rw [digitCount] at this more
    omega

variable {mantissa scale : Nat}

/-- The value has its first digit at the place before the top of the search. -/
theorem le_value_of_top {value : Nat} (large : twoTo 1076 ≤ value * tenTo 400) :
    gridStep (-400 + (digitCount (value * tenTo 400 / twoTo 1076) - 1 : Nat)) ≤
      value * gridDen (-400 + (digitCount (value * tenTo 400 / twoTo 1076) - 1 : Nat)) := by
  have nonzero : value * tenTo 400 / twoTo 1076 ≠ 0 :=
    Nat.ne_of_gt (Nat.div_pos large (twoTo_pos _))
  have first := le_of_digitCount nonzero
  generalize digitCount (value * tenTo 400 / twoTo 1076) - 1 = place at *
  have shifted := grid_shift (-400) place
  have units : gridStep (-400) = twoTo 1076 := if_neg (by decide)
  have den : gridDen (-400) = tenTo 400 := if_neg (by decide)
  rw [units, den] at shifted
  have bounded : tenTo place * twoTo 1076 ≤ value * tenTo 400 :=
    (Nat.le_div_iff_mul_le (twoTo_pos _)).mp first
  refine Nat.le_of_mul_le_mul_right ?_ (tenTo_pos 400)
  rw [shifted]
  calc tenTo place * twoTo 1076 * gridDen (-400 + place)
      ≤ value * tenTo 400 * gridDen (-400 + place) := Nat.mul_le_mul_right _ bounded
    _ = value * gridDen (-400 + place) * tenTo 400 := by ring

theorem finest_hit (canonical : Canonical mantissa scale) (pos : 0 < mantissa) :
    (onGrid (interval mantissa scale)
      ((digitCount ((interval mantissa scale).value * tenTo 400 / twoTo 1076) : Int) - 400 -
        (18 : Nat))).isSome = true := by
  have unitPos := twoTo_pos scale
  have large : twoTo 1076 ≤ (interval mantissa scale).value * tenTo 400 := by
    have small : twoTo 1076 ≤ 4 * tenTo 400 := by decide +kernel
    refine small.trans (Nat.mul_le_mul_right _ ?_)
    have := Nat.mul_le_mul pos unitPos
    simp only [interval]
    rw [Nat.mul_assoc]
    omega
  have first := le_value_of_top large
  have positive : 0 < digitCount ((interval mantissa scale).value * tenTo 400 / twoTo 1076) :=
    Nat.length_toDigits_pos
  generalize digitCount ((interval mantissa scale).value * tenTo 400 / twoTo 1076) = count at *
  have finest : (-400 + (count - 1 : Nat) : Int) = ((count : Int) - 400 - (18 : Nat)) + (17 : Nat) := by
    omega
  rw [finest] at first
  generalize (count : Int) - 400 - (18 : Nat) = exponent at *
  have shifted := grid_shift exponent 17
  -- seventeen places after the first digit are finer than the last bit
  have fine : tenTo 17 * gridStep exponent ≤
      4 * mantissa * twoTo scale * gridDen exponent := by
    refine Nat.le_of_mul_le_mul_right ?_ (gridDen_pos (exponent + (17 : Nat)))
    rw [← shifted]
    calc gridStep (exponent + (17 : Nat)) * gridDen exponent
        ≤ (interval mantissa scale).value * gridDen (exponent + (17 : Nat)) * gridDen exponent :=
          Nat.mul_le_mul_right _ first
      _ = 4 * mantissa * twoTo scale * gridDen exponent * gridDen (exponent + (17 : Nat)) := by
          simp only [interval]
          ring
  have bounded : 4 * mantissa * (twoTo scale * gridDen exponent) ≤
      4 * twoTo 53 * (twoTo scale * gridDen exponent) :=
    Nat.mul_le_mul_right _ (Nat.mul_le_mul_left 4 (Nat.le_of_lt canonical.1))
  have unitDen : 0 < twoTo scale * gridDen exponent := Nat.mul_pos unitPos (gridDen_pos _)
  refine Interval.onGrid_isSome ?_ ?_
  · simp only [interval]
    refine Nat.mul_le_mul_right _ ?_
    split <;> omega
  · simp only [interval]
    rw [Nat.mul_assoc] at fine
    rw [Nat.mul_assoc, Nat.mul_assoc _ _ (gridDen exponent), Nat.add_mul]
    simp only [show tenTo 17 = 100000000000000000 from rfl,
      show twoTo 53 = 9007199254740992 from rfl] at fine bounded
    omega

theorem shortest_contains (canonical : Canonical mantissa scale) (pos : 0 < mantissa) :
    (shortest mantissa scale).digits ≠ 0 ∧
      (interval mantissa scale).Contains (shortest mantissa scale).digits
        (shortest mantissa scale).exponent := by
  have nonzero : (interval mantissa scale).value ≠ 0 :=
    Nat.ne_of_gt (Nat.mul_pos (by omega) (twoTo_pos scale))
  have found := Interval.searchGrids_hit (finest_hit canonical pos) 17
  obtain ⟨digits, contains⟩ := Interval.onGrid_contains found
  simp only [shortest, Interval.shortest, if_neg nonzero]
  exact ⟨Interval.stripZeros_ne_zero digits 20, Interval.stripZeros_contains contains 20⟩

theorem shortest_zero (scale : Nat) : shortest 0 scale = ⟨0, 0⟩ := by
  simp [shortest, Interval.shortest, interval]

/-- No finite value is as large as `10 ^ 310`. -/
theorem not_contains_large (canonical : Canonical mantissa scale) {digits : Nat} {exponent : Int}
    (nonzero : digits ≠ 0) (contains : (interval mantissa scale).Contains digits exponent) :
    exponent < 310 := by
  by_contra large
  obtain ⟨k, rfl⟩ : ∃ k : Nat, exponent = 310 + k := ⟨(exponent - 310).toNat, by omega⟩
  have high : digits * tenTo k * gridStep 310 ≤
      (interval mantissa scale).high * gridDen 310 := by
    have moved := Interval.contains_shift.mpr contains
    rw [Interval.Contains, Interval.holds] at moved
    split at moved
    next => exact (of_decide_eq_true moved).2
    next => exact Nat.le_of_lt (of_decide_eq_true moved).2
  have step : gridStep 310 = tenTo 310 * twoTo 1076 := by simp [gridStep]
  have den : gridDen 310 = 1 := by simp [gridDen]
  have least : 1 ≤ digits * tenTo k := Nat.mul_pos (Nat.pos_of_ne_zero nonzero) (tenTo_pos k)
  -- The largest mantissa at the largest scale stays below 310 digits.
  have top : (interval mantissa scale).high ≤ 4 * twoTo 53 * twoTo 2045 := by
    have bound : mantissa < twoTo 53 := canonical.1
    exact Nat.mul_le_mul (by omega) (twoTo_mono canonical.2.1)
  have beyond : 4 * twoTo 53 * twoTo 2045 < tenTo 310 * twoTo 1076 := by decide +kernel
  rw [step, den, Nat.mul_one] at high
  have := Nat.mul_le_mul_right (tenTo 310 * twoTo 1076) least
  omega

/-- No positive value is so small that its exponent outweighs its digits by 400. -/
theorem not_contains_small (pos : 0 < mantissa) {digits : Nat} {exponent : Int}
    (contains : (interval mantissa scale).Contains digits exponent) :
    -exponent ≤ (digits.log2 + 400 : Int) := by
  by_contra small
  have negative : ¬ 0 ≤ exponent := by omega
  have low : (interval mantissa scale).low * gridDen exponent ≤ digits * gridStep exponent := by
    rw [Interval.Contains, Interval.holds] at contains
    split at contains
    next => exact (of_decide_eq_true contains).1
    next => exact Nat.le_of_lt (of_decide_eq_true contains).1
  have positive : 1 ≤ (interval mantissa scale).low := by
    refine Nat.mul_pos ?_ (twoTo_pos scale)
    split <;> omega
  have weight : tenTo (digits.log2 + 401) ≤ tenTo (-exponent).toNat := tenTo_mono (by omega)
  have digitsBelow : digits < twoTo (digits.log2 + 1) := Nat.lt_log2_self
  have scaled : digits * twoTo 1076 < twoTo (digits.log2 + 1) * twoTo 1076 :=
    Nat.mul_lt_mul_of_pos_right digitsBelow (twoTo_pos _)
  have binary : twoTo (digits.log2 + 1) * twoTo 1076 ≤ tenTo (digits.log2 + 401) := by
    rw [← twoTo_add, show digits.log2 + 1 + 1076 = digits.log2 + 1077 by omega, twoTo_add, tenTo_add]
    exact Nat.mul_le_mul (Nat.pow_le_pow_left (by decide) _) (by decide +kernel)
  simp only [gridStep, gridDen, if_neg negative] at low
  have := Nat.mul_le_mul_right (tenTo (-exponent).toNat) positive
  omega

namespace Binary64

/-- Digits in the interval of a value are rounded to that value. -/
theorem ofDecimal_of_contains (negative : Bool) (canonical : Canonical mantissa scale)
    (pos : 0 < mantissa) {digits : Nat} {exponent : Int} (nonzero : digits ≠ 0)
    (contains : (interval mantissa scale).Contains digits exponent) :
    ofDecimal negative digits exponent = .finite negative mantissa scale canonical := by
  have notLarge := not_contains_large canonical nonzero contains
  have notSmall := not_contains_small pos contains
  -- The cuts to infinity and to zero lie outside of every interval.
  rw [ofDecimal, if_neg nonzero]
  split
  next notNegative =>
    rw [if_neg (by omega)]
    refine ofRatio_of_holds negative canonical pos Nat.one_pos ?_
    rw [Interval.Contains, gridStep, gridDen, if_pos notNegative, if_pos notNegative,
      ← Nat.mul_assoc] at contains
    exact contains
  next isNegative =>
    rw [if_neg (by omega)]
    refine ofRatio_of_holds negative canonical pos (tenTo_pos _) ?_
    rw [Interval.Contains, gridStep, gridDen, if_neg isNegative, if_neg isNegative] at contains
    exact contains

/-- Rounding the shortest digits, written with any number of zeros behind them, gives the value. -/
theorem ofDecimal_shortest (negative : Bool) (canonical : Canonical mantissa scale) (zeros : Nat) :
    ofDecimal negative ((shortest mantissa scale).digits * tenTo zeros)
      ((shortest mantissa scale).exponent - zeros) = .finite negative mantissa scale canonical := by
  rcases Nat.eq_zero_or_pos mantissa with zero | pos
  · have atScale : scale = 0 := canonical.2.2.resolve_right (by
      have := twoTo_pos 52
      omega)
    subst zero atScale
    simp [shortest_zero, ofDecimal, Binary64.zero]
  · obtain ⟨nonzero, contains⟩ := shortest_contains canonical pos
    refine ofDecimal_of_contains negative canonical pos ?_ ?_
    · exact Nat.ne_of_gt (Nat.mul_pos (Nat.pos_of_ne_zero nonzero) (tenTo_pos zeros))
    · rw [Interval.contains_shift, sub_add_cancel]
      exact contains

end Binary64

end ApiContract.Decimal
