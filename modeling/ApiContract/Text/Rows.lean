import ApiContract.Text.Cut
import ApiContract.Text.Hexadecimal

/-!
Tables written as texts: numbers in hexadecimal digits with blanks between them, or rows of numbers
with commas inside a row.
-/

namespace ApiContract.Text

/-- What stands between blanks and ends of lines. -/
def words (text : String) : List (List Char) :=
  (splitChars ' ' (text.toList.map fun c => if c = '\n' then ' ' else c)).filter (!·.isEmpty)

/-- The value of hexadecimal digits, nothing counting for other characters. -/
def hexNumber (digits : List Char) : Nat :=
  digits.foldl (fun n c => 16 * n + (hexValue c).getD 0) 0

def numbers (text : String) : List Nat := (words text).map hexNumber

def rows (text : String) : List (List Nat) :=
  (words text).map fun row => (splitChars ',' row).map hexNumber

/-- Stretches of code points with a common distance to their images: first, last, step and image of
the first. A row may leave out a step of one, and the last where that is the first. -/
def stretches (text : String) : List (Nat × Nat × Nat × Nat) :=
  (rows text).filterMap fun
    | [point, image] => some (point, point, 1, image)
    | [first, last, image] => some (first, last, 1, image)
    | [first, last, step, image] => some (first, last, step, image)
    | _ => none

/-- Code points and the sequences they stand for. -/
def expansions (text : String) : List (Nat × List Nat) :=
  (rows text).filterMap fun
    | point :: image => some (point, image)
    | [] => none

end ApiContract.Text
