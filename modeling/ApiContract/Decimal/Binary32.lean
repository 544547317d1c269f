import ApiContract.Decimal.Notation

/-!
Rounding to binary floating point of 32 bits. The rounded value is kept in the units of the wider
format, as `mantissa · 2 ^ scale / 2 ^ 1074` with a mantissa of at most 24 bits.
-/

namespace ApiContract.Decimal

/-- The scale of the smallest value of 32 bits, `2 ^ -149`. -/
def smallestScale32 : Nat := 925

/-- Mantissa and scale of the nearest value of 32 bits, a tie going to the even mantissa. -/
def round32 (mantissa scale : Nat) : Nat × Nat :=
  let units := mantissa * twoTo scale
  let scale := max smallestScale32 (units.log2 - 23)
  let rounded := Binary64.roundDiv units (twoTo scale)
  if rounded = twoTo 24 then (twoTo 23, scale + 1) else (rounded, scale)

/-- The reals that round to a value of 32 bits. -/
def interval32 (mantissa scale : Nat) : Interval where
  low :=
    (if mantissa = twoTo 23 ∧ smallestScale32 < scale then 4 * mantissa - 1
      else 4 * mantissa - 2) * twoTo scale
  value := 4 * mantissa * twoTo scale
  high := (4 * mantissa + 2) * twoTo scale
  closed := mantissa % 2 = 0

/-- The plain notation of the nearest value of 32 bits, if that value is finite. -/
def Binary64.plain32? : Binary64 → Option String
  | .finite negative mantissa scale _ =>
      let (mantissa, scale) := round32 mantissa scale
      if twoTo (1074 + 128) ≤ mantissa * twoTo scale then none
      else some (sign negative ++ (interval32 mantissa scale).shortest.plain)
  | _ => none

end ApiContract.Decimal
