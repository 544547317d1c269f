/-!
Digits of bases up to sixteen, in either case.
-/

namespace ApiContract.Text

def hexValue (c : Char) : Option Nat :=
  if '0' ≤ c ∧ c ≤ '9' then some (c.toNat - 48)
  else if 'a' ≤ c ∧ c ≤ 'f' then some (c.toNat - 87)
  else if 'A' ≤ c ∧ c ≤ 'F' then some (c.toNat - 55)
  else none

/-- At least one digit of the base, and nothing else. -/
def natOfBase? (base : Nat) (chars : List Char) : Option Nat :=
  if chars.isEmpty then none
  else
    chars.foldlM (fun n c =>
      match hexValue c with
      | some digit => if digit < base then some (base * n + digit) else none
      | none => none) 0

end ApiContract.Text
