/-!
Binary floating point of 64 bits as exact numbers. A finite value is
`± mantissa · 2 ^ scale / 2 ^ 1074`, where the mantissa has at most 53 bits and fewer only at
scale 0, so that each value has one form. Rounding is defined on ratios of natural numbers;
nothing here depends on hardware arithmetic.
-/

namespace ApiContract.Decimal

def twoTo (exponent : Nat) : Nat := Nat.pow 2 exponent

def tenTo (exponent : Nat) : Nat := Nat.pow 10 exponent

/-- The one form of a finite value: 53 bits, or fewer at the smallest scale. -/
def Canonical (mantissa scale : Nat) : Prop :=
  mantissa < twoTo 53 ∧ scale ≤ 2045 ∧ (scale = 0 ∨ twoTo 52 ≤ mantissa)

instance (mantissa scale : Nat) : Decidable (Canonical mantissa scale) :=
  inferInstanceAs (Decidable (_ ∧ _ ∧ _))

inductive Binary64 where
  | nan
  | infinite (negative : Bool)
  | finite (negative : Bool) (mantissa scale : Nat) (canonical : Canonical mantissa scale)
  deriving DecidableEq

namespace Binary64

def zero (negative : Bool) : Binary64 := .finite negative 0 0 (by decide)

instance : Inhabited Binary64 := ⟨zero false⟩

/-- The quotient rounded to the nearest natural number, a tie going to the even one. -/
def roundDiv (num den : Nat) : Nat :=
  let quotient := num / den
  let twice := 2 * (num % den)
  if twice < den then quotient
  else if den < twice then quotient + 1
  else quotient + quotient % 2

/-- A mantissa that fits no scale is beyond the largest finite value. -/
def pack (negative : Bool) (mantissa scale : Nat) : Binary64 :=
  if canonical : Canonical mantissa scale then .finite negative mantissa scale canonical
  else .infinite negative

/-- The value nearest to `num / den`, a tie going to the even mantissa. -/
def ofRatio (negative : Bool) (num den : Nat) : Binary64 :=
  let scaled := num * twoTo 1074
  let scale := (scaled / den).log2 - 52
  let mantissa := roundDiv scaled (den * twoTo scale)
  if mantissa = twoTo 53 then pack negative (twoTo 52) (scale + 1)
  else pack negative mantissa scale

/-- The value nearest to `digits · 10 ^ exponent`. Exponents so far out that the result is
certainly infinite or zero are not expanded. -/
def ofDecimal (negative : Bool) (digits : Nat) (exponent : Int) : Binary64 :=
  if digits = 0 then zero negative
  else if 0 ≤ exponent then
    (if 310 ≤ exponent then .infinite negative
     else ofRatio negative (digits * tenTo exponent.toNat) 1)
  else if (digits.log2 + 400 : Int) < -exponent then zero negative
  else ofRatio negative digits (tenTo (-exponent).toNat)

def isNegative : Binary64 → Bool
  | nan => false
  | infinite negative => negative
  | finite negative _ _ _ => negative

def isFinite : Binary64 → Bool
  | finite _ _ _ _ => true
  | _ => false

def neg : Binary64 → Binary64
  | nan => nan
  | infinite negative => infinite !negative
  | finite negative mantissa scale canonical => finite (!negative) mantissa scale canonical

def ofInt (n : Int) : Binary64 := ofRatio (decide (n < 0)) n.natAbs 1

/-- The integer a value stands for, if it stands for one. -/
def toInt? : Binary64 → Option Int
  | finite negative mantissa scale _ =>
      let scaled := mantissa * twoTo scale
      if scaled % twoTo 1074 = 0 then
        let whole : Int := (scaled / twoTo 1074 : Nat)
        some (if negative then -whole else whole)
      else none
  | _ => none

end Binary64

end ApiContract.Decimal

/-!
The shortest decimal that reads back. For 1, 2, … 17 digits the two neighbours of the value on
that decimal grid are tested against the interval of reals that round to it; the first grid with
a hit wins, and of two hits the nearer.
-/

namespace ApiContract.Decimal

/-- The number `digits · 10 ^ exponent`; zero has no digits to normalise, otherwise the last
digit is not zero. -/
structure Digits where
  digits : Nat
  exponent : Int
  deriving DecidableEq, Repr

/-- Count of decimal digits, at least one. -/
def digitCount (n : Nat) : Nat := (Nat.toDigits 10 n).length

/-- Removes trailing zeros; `room` bounds how many there can be. -/
def stripZeros : Nat → Nat → Int → Digits
  | 0, digits, exponent => ⟨digits, exponent⟩
  | room + 1, digits, exponent =>
      if digits ≠ 0 ∧ digits % 10 = 0 then stripZeros room (digits / 10) (exponent + 1)
      else ⟨digits, exponent⟩

/-- The reals that round to a finite value, in units of `2 ^ -1076`: the lower end, the value, the
upper end, and whether the ends themselves belong to it. -/
structure Interval where
  low : Nat
  value : Nat
  high : Nat
  closed : Bool

def interval (mantissa scale : Nat) : Interval where
  low :=
    (if mantissa = twoTo 52 ∧ 0 < scale then 4 * mantissa - 1 else 4 * mantissa - 2) * twoTo scale
  value := 4 * mantissa * twoTo scale
  high := (4 * mantissa + 2) * twoTo scale
  closed := mantissa % 2 = 0

/-- Whether the ratio `num / den`, in the units of the interval, lies in it. -/
def Interval.holds (i : Interval) (num den : Nat) : Bool :=
  if i.closed then i.low * den ≤ num ∧ num ≤ i.high * den
  else i.low * den < num ∧ num < i.high * den

/-- The better of the value's two neighbours on the grid of step `10 ^ exponent`, if one of them
rounds to the value. -/
def onGrid (i : Interval) (exponent : Int) : Option Nat :=
  -- digits · 10 ^ exponent · 2 ^ 1076 as the ratio digits · step / den
  let step := if 0 ≤ exponent then tenTo exponent.toNat * twoTo 1076 else twoTo 1076
  let den := if 0 ≤ exponent then 1 else tenTo (-exponent).toNat
  let target := i.value * den
  let below := target / step
  let above := below + 1
  let lowHit := below ≠ 0 ∧ i.holds (below * step) den
  let highHit := i.holds (above * step) den
  let down := target - below * step
  let up := above * step - target
  if lowHit ∧ highHit then
    (if down < up ∨ (down = up ∧ below % 2 = 0) then some below else some above)
  else if lowHit then some below
  else if highHit then some above
  else none

/-- Tries grids from the coarsest on; seventeen digits always suffice. -/
def searchGrids (i : Interval) (top : Int) (finest : Nat) : Nat → Digits
  | 0 =>
      match onGrid i (top - finest) with
      | some digits => ⟨digits, top - finest⟩
      | none => ⟨0, 0⟩
  | room + 1 =>
      match onGrid i (top - (finest - (room + 1) : Nat)) with
      | some digits => ⟨digits, top - (finest - (room + 1) : Nat)⟩
      | none => searchGrids i top finest room

/-- The shortest decimal in an interval around its value. -/
def Interval.shortest (i : Interval) : Digits :=
  if i.value = 0 then ⟨0, 0⟩
  else
    -- the value lies between 10 ^ (top - 1) and 10 ^ top
    let top : Int := (digitCount (i.value * tenTo 400 / twoTo 1076) : Int) - 400
    let found := searchGrids i top 18 17
    stripZeros 20 found.digits found.exponent

/-- The shortest decimal that reads back as the value `mantissa · 2 ^ scale / 2 ^ 1074`. -/
def shortest (mantissa scale : Nat) : Digits := (interval mantissa scale).shortest

end ApiContract.Decimal
