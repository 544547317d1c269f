import ApiContract.Text.CharTable

/-!
Membership in the character classes and the case maps of single characters and of texts.
-/

namespace ApiContract.Text

/-- Membership flips at each bound, so a number is inside when an odd count of them is at most it. -/
def inside : List Nat → Nat → Bool
  | [], _ => false
  | bound :: rest, n => if n < bound then false else !inside rest n

def isAlphanumeric (c : Char) : Bool := inside alphanumericBounds c.toNat
def isLowercase (c : Char) : Bool := inside lowercaseBounds c.toNat
def isUppercase (c : Char) : Bool := inside uppercaseBounds c.toNat
def isCased (c : Char) : Bool := inside casedBounds c.toNat
def isCaseIgnorable (c : Char) : Bool := inside caseIgnorableBounds c.toNat
def isBlank (c : Char) : Bool := inside blankBounds c.toNat

/-- The image of a code point under stretches sorted by their first code point. -/
def stretchImage : List (Nat × Nat × Nat × Nat) → Nat → Option Nat
  | [], _ => none
  | (first, last, step, image) :: rest, n =>
      if n < first then none
      else if n ≤ last ∧ (n - first) % step = 0 then some (image + (n - first))
      else stretchImage rest n

def mapCase (stretches : List (Nat × Nat × Nat × Nat)) (expansions : List (Nat × List Nat))
    (c : Char) : List Char :=
  match expansions.lookup c.toNat with
  | some image => image.map Char.ofNat
  | none =>
      match stretchImage stretches c.toNat with
      | some n => [Char.ofNat n]
      | none => [c]

def lower (c : Char) : List Char := mapCase lowerStretches lowerExpansions c
def upper (c : Char) : List Char := mapCase upperStretches upperExpansions c

/-- Whether the first character that case does not look through is a cased one. -/
def casedAhead (chars : List Char) : Bool :=
  match chars.dropWhile isCaseIgnorable with
  | [] => false
  | c :: _ => isCased c

/-- Lower case of what follows `before` (given in reverse): a capital sigma that ends a word
becomes a final sigma, every other character is mapped on its own. -/
def lowerAfter : List Char → List Char → List Char
  | _, [] => []
  | before, c :: rest =>
      let image :=
        if c = 'Σ' then
          (if casedAhead before && !casedAhead rest then ['ς'] else ['σ'])
        else lower c
      image ++ lowerAfter (c :: before) rest

def toLower (s : String) : String := String.ofList (lowerAfter [] s.toList)

def trimStart (chars : List Char) : List Char := chars.dropWhile isBlank

def trim (s : String) : String :=
  String.ofList (trimStart (trimStart s.toList).reverse).reverse

end ApiContract.Text
