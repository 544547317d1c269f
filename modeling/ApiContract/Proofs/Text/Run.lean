import ApiContract.Text.CharClass
import Mathlib.Data.List.Basic

/-!
Runs of characters of one kind: a run ends where the text ends or a character of another kind
follows. Texts without blanks at their ends, which trimming leaves alone.
-/

namespace ApiContract.Text

variable {kind : Char → Bool} {run rest : List Char}

/-- No character of the kind stands at the head. -/
def Halts (kind : Char → Bool) (rest : List Char) : Prop := ∀ c, rest.head? = some c → kind c = false

theorem halts_nil : Halts kind [] := fun _ found => nomatch found

theorem halts_cons {c : Char} (other : kind c = false) : Halts kind (c :: rest) := by
  intro found same
  cases same
  exact other

theorem takeWhile_run (inside : ∀ c ∈ run, kind c = true) (halts : Halts kind rest) :
    (run ++ rest).takeWhile kind = run := by
  rw [List.takeWhile_append_of_pos inside]
  cases rest with
  | nil => simp
  | cons c rest => simp [halts c rfl]

theorem dropWhile_run (inside : ∀ c ∈ run, kind c = true) (halts : Halts kind rest) :
    (run ++ rest).dropWhile kind = rest := by
  rw [List.dropWhile_append_of_pos inside]
  cases rest with
  | nil => rfl
  | cons c rest => simp [halts c rfl]


/-- Printable characters of the ASCII range other than the space. -/
def IsGraphic (c : Char) : Prop := 33 ≤ c.toNat ∧ c.toNat < 127

instance (c : Char) : Decidable (IsGraphic c) := inferInstanceAs (Decidable (_ ∧ _))

theorem graphic_of_all {chars : List Char} (all : (chars.all fun c => decide (IsGraphic c)) = true) :
    ∀ c ∈ chars, IsGraphic c := fun c member =>
  of_decide_eq_true (List.all_eq_true.mp all c member)

theorem isBlank_of_graphic {c : Char} (graphic : IsGraphic c) : isBlank c = false := by
  have table : ∀ n < 127, 33 ≤ n → inside blankBounds n = false := by decide
  exact table c.toNat graphic.2 graphic.1

theorem trimStart_eq {chars : List Char} (visible : ∀ c ∈ chars, isBlank c = false) :
    trimStart chars = chars := by
  cases chars with
  | nil => rfl
  | cons c rest => simp [trimStart, visible c]

theorem trim_eq {text : String} (visible : ∀ c ∈ text.toList, isBlank c = false) :
    trim text = text := by
  have reversed : ∀ c ∈ text.toList.reverse, isBlank c = false := by simpa using visible
  rw [trim, trimStart_eq visible, trimStart_eq reversed, List.reverse_reverse, String.ofList_toList]

theorem trim_of_graphic {text : String} (graphic : ∀ c ∈ text.toList, IsGraphic c) :
    trim text = text :=
  trim_eq fun c member => isBlank_of_graphic (graphic c member)

end ApiContract.Text
