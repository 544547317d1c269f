import ApiContract.Text.CompositionTable

/-!
Canonical composition: a letter and the marks that follow it are written as one character where
there is one, and the marks that remain stand in the order of their classes.
-/

namespace ApiContract.Text

/-- The class of a mark, zero for a character that is none. -/
def markClass (c : Char) : Nat :=
  go c.toNat markClasses
where
  go (n : Nat) : List (List Nat) → Nat
    | [first, last, order] :: rest =>
        if n < first then 0 else if n ≤ last then order else go n rest
    | [first, order] :: rest => if n < first then 0 else if n = first then order else go n rest
    | _ => 0

/-- Syllables of three letters, or of two, have code points in the order of their letters. -/
def syllableLetters (n : Nat) : List Char :=
  let place := n - 0xAC00
  let final := place % 28
  [Char.ofNat (0x1100 + place / 588), Char.ofNat (0x1161 + place % 588 / 28)] ++
    (if final = 0 then [] else [Char.ofNat (0x11A7 + final)])

/-- The characters a character is composed of, all the way down; a composition has at most four
levels. -/
def decomposeChar : Nat → Char → List Char
  | 0, c => [c]
  | depth + 1, c =>
      let n := c.toNat
      if 0xAC00 ≤ n ∧ n ≤ 0xD7A3 then syllableLetters n
      else
        match (composedPairs.lookup n).or (replacedCharacters.lookup n) with
        | some parts => parts.flatMap fun part => decomposeChar depth (Char.ofNat part)
        | none => [c]

/-- Puts a mark in front of those of higher classes at the end of a text given in reverse. -/
def insertMark (order : Nat) (mark : Char) : List Char → List Char
  | [] => [mark]
  | c :: before =>
      if order < markClass c then c :: insertMark order mark before else mark :: c :: before

/-- The text with its marks in order, in reverse. -/
def orderMarks (chars : List Char) : List Char :=
  chars.foldl (fun read c =>
    let order := markClass c
    if order = 0 then c :: read else insertMark order c read) []

/-- The character composed of two. -/
def composePair? (a b : Char) : Option Char :=
  let m := a.toNat
  let n := b.toNat
  if 0x1100 ≤ m ∧ m ≤ 0x1112 ∧ 0x1161 ≤ n ∧ n ≤ 0x1175 then
    some (Char.ofNat (0xAC00 + (m - 0x1100) * 588 + (n - 0x1161) * 28))
  else if 0xAC00 ≤ m ∧ m ≤ 0xD7A3 ∧ (m - 0xAC00) % 28 = 0 ∧ 0x11A8 ≤ n ∧ n ≤ 0x11C2 then
    some (Char.ofNat (m + (n - 0x11A7)))
  else (composedPairs.find? fun (_, parts) => parts == [m, n]).map fun (c, _) => Char.ofNat c

/-- Composes what follows `start`. Between them stand marks that were not composed, in reverse; one
whose class is not below that of a mark keeps it from being composed. -/
def composeAfter (start : Char) (marks : List Char) : List Char → List Char
  | [] => start :: marks.reverse
  | c :: rest =>
      let order := markClass c
      let isOpen := match marks with
        | [] => true
        | mark :: _ => markClass mark < order
      match if isOpen then composePair? start c else none with
      | some composed => composeAfter composed marks rest
      | none =>
          if order = 0 then start :: marks.reverse ++ composeAfter c [] rest
          else composeAfter start (c :: marks) rest

/-- The text in composed form. -/
def compose (chars : List Char) : List Char :=
  let ordered := (orderMarks (chars.flatMap (decomposeChar 5))).reverse
  let leading := ordered.takeWhile fun c => markClass c != 0
  match ordered.drop leading.length with
  | [] => leading
  | c :: rest => leading ++ composeAfter c [] rest

end ApiContract.Text
