import ApiContract.Decimal.Shortest

/-!
Written forms of binary floating point: the shortest digits laid out in plain decimal notation,
in scientific notation, or by the rule of JSON documents; and the reader of decimal texts.
-/

namespace ApiContract.Decimal

/-- The digits of a number as text with the point moved `places` to the left of their end. -/
def placePoint (digits : Nat) (places : Nat) : String :=
  let text := Nat.toDigits 10 digits
  let padded := List.replicate (places + 1 - text.length) '0' ++ text
  let cut := padded.length - places
  String.ofList (padded.take cut) ++ "." ++ String.ofList (padded.drop cut)

/-- Plain decimal notation: as many digits as needed, never an exponent. -/
def Digits.plain (d : Digits) : String :=
  if 0 ≤ d.exponent then
    toString d.digits ++ String.ofList (List.replicate d.exponent.toNat '0')
  else placePoint d.digits (-d.exponent).toNat

/-- One digit before the point, the others after it. -/
def Digits.significand (d : Digits) : String :=
  let count := digitCount d.digits
  if count ≤ 1 then toString d.digits else placePoint d.digits (count - 1)

/-- The power of ten of the first digit. -/
def Digits.magnitude (d : Digits) : Int :=
  if d.digits = 0 then 0 else d.exponent + (digitCount d.digits : Int) - 1

namespace Binary64

def sign (negative : Bool) : String := if negative then "-" else ""

/-- Plain notation, as query entries, headers and markup carry a number. -/
def plain : Binary64 → String
  | nan => "NaN"
  | infinite negative => sign negative ++ "inf"
  | finite negative mantissa scale _ => sign negative ++ (shortest mantissa scale).plain

/-- Scientific notation with the exponent always written. -/
def scientific : Binary64 → String
  | nan => "NaN"
  | infinite negative => sign negative ++ "inf"
  | finite negative mantissa scale _ =>
      let d := shortest mantissa scale
      sign negative ++ d.significand ++ "e" ++ toString d.magnitude

/-- The JSON form of a finite value: plain notation with a fraction from `1e-5` up to below
`1e16`, scientific notation with a signed exponent outside. Other values have no JSON form. -/
def json : Binary64 → String
  | finite negative mantissa scale _ =>
      let d := shortest mantissa scale
      let m := d.magnitude
      sign negative ++
        (if -5 ≤ m ∧ m < 16 then
          (if 0 ≤ d.exponent then d.plain ++ ".0" else d.plain)
        else if 0 ≤ m then d.significand ++ "e+" ++ toString m
        else d.significand ++ "e" ++ toString m)
  | _ => "null"

end Binary64

def isDigit (c : Char) : Bool := '0' ≤ c ∧ c ≤ '9'

/-- The value of a run of decimal digits. -/
def natOfDigits (chars : List Char) : Nat :=
  chars.foldl (fun n c => 10 * n + (c.toNat - '0'.toNat)) 0

/-- An optional sign, then at least one decimal digit and nothing else. -/
def readInt (chars : List Char) : Option Int :=
  let (negative, rest) := match chars with
    | '-' :: rest => (true, rest)
    | '+' :: rest => (false, rest)
    | rest => (false, rest)
  if rest.isEmpty || !rest.all isDigit then none
  else
    let n : Int := natOfDigits rest
    some (if negative then -n else n)

/-- Digits around an optional point and an optional exponent, at least one digit before the
exponent and at least one in it. -/
def readMagnitude (negative : Bool) (chars : List Char) : Option Binary64 :=
  let whole := chars.takeWhile isDigit
  let afterWhole := chars.dropWhile isDigit
  let (fraction, afterFraction) := match afterWhole with
    | '.' :: rest => (rest.takeWhile isDigit, rest.dropWhile isDigit)
    | rest => ([], rest)
  if whole.isEmpty && fraction.isEmpty then none
  else
    let digits := natOfDigits (whole ++ fraction)
    match afterFraction with
    | [] => some (.ofDecimal negative digits (-(fraction.length : Int)))
    | c :: rest =>
        if c = 'e' ∨ c = 'E' then
          (readInt rest).map fun e => .ofDecimal negative digits (e - fraction.length)
        else none

/-- Reads a decimal text: an optional sign, then a number or one of the words `inf`, `infinity`
and `nan` in any case. -/
def readFloat (s : String) : Option Binary64 :=
  let (negative, rest) := match s.toList with
    | '-' :: rest => (true, rest)
    | '+' :: rest => (false, rest)
    | rest => (false, rest)
  let word := String.ofList (rest.map Char.toLower)
  if word = "inf" ∨ word = "infinity" then some (.infinite negative)
  else if word = "nan" then some .nan
  else readMagnitude negative rest

end ApiContract.Decimal
