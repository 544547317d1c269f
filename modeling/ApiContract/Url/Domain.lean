import ApiContract.Text.CharClass
import ApiContract.Text.Composition
import ApiContract.Url.DomainTable

/-!
Labels of domains as ASCII texts: the ASCII characters of the label, and behind a hyphen the others
as digits of a variable-length encoding. They are written in ascending order, each as the distance
that a walk over the places of the label covers from the one before.
-/

namespace ApiContract.Url.Punycode

/-- The digit of a value below 36. -/
def digit (n : Nat) : Char := if n < 26 then Char.ofNat (97 + n) else Char.ofNat (22 + n)

def digitValue (c : Char) : Option Nat :=
  if c.isAlpha then some (c.toLower.toNat - 97)
  else if c.isDigit then some (c.toNat - 22)
  else none

/-- The least value of a digit that another digit follows. -/
def threshold (bias position : Nat) : Nat :=
  if position ≤ bias then 1 else if bias + 26 ≤ position then 26 else position - bias

/-- Bias after a code point was written; `delta` is brought below the threshold by divisions. -/
def adapt (delta points : Nat) (first : Bool) : Nat :=
  let scaled := if first then delta / 700 else delta / 2
  go 64 (scaled + scaled / points) 0
where
  go : Nat → Nat → Nat → Nat
    | 0, delta, k => k + 36 * delta / (delta + 38)
    | fuel + 1, delta, k =>
        if 455 < delta then go fuel (delta / 35) (k + 36) else k + 36 * delta / (delta + 38)

/-- A variable-length integer; each digit divides what is left. -/
def writeInteger (bias : Nat) : Nat → Nat → Nat → List Char
  | 0, _, _ => []
  | fuel + 1, position, value =>
      let t := threshold bias position
      if value < t then [digit value]
      else
        digit (t + (value - t) % (36 - t)) ::
          writeInteger bias fuel (position + 36) ((value - t) / (36 - t))

structure Writing where
  delta : Nat
  bias : Nat
  handled : Nat
  output : List Char

/-- Writes every occurrence of one code point. -/
def writePoint (n basic : Nat) (state : Writing) (point : Nat) : Writing :=
  if point < n then { state with delta := state.delta + 1 }
  else if point = n then
    { delta := 0
      bias := adapt state.delta (state.handled + 1) (state.handled == basic)
      handled := state.handled + 1
      output := state.output ++ writeInteger state.bias 64 36 state.delta }
  else state

/-- Takes the remaining code points in ascending order. -/
def writePoints (points : List Nat) (basic : Nat) : List Nat → Nat → Writing → List Char
  | [], _, state => state.output
  | m :: rest, n, state =>
      let state := { state with delta := state.delta + (m - n) * (state.handled + 1) }
      let state := points.foldl (writePoint m basic) state
      writePoints points basic rest (m + 1) { state with delta := state.delta + 1 }

/-- The ASCII characters of a label, a hyphen, and the others as integers. -/
def encode (label : List Char) : List Char :=
  let points := label.map Char.toNat
  let basic := label.filter (·.toNat < 128)
  let extended := ((points.filter (128 ≤ ·)).mergeSort (· ≤ ·)).eraseDups
  let output := basic ++ (if basic.isEmpty then [] else ['-'])
  writePoints points basic.length extended 128 ⟨0, 72, basic.length, output⟩

/-- A variable-length integer added to a value, and what follows it. -/
def readInteger (bias : Nat) : Nat → Nat → Nat → List Char → Option (Nat × List Char)
  | _, _, _, [] => none
  | position, weight, value, c :: rest =>
      match digitValue c with
      | none => none
      | some d =>
          let t := threshold bias position
          if d < t then some (value + d * weight, rest)
          else readInteger bias (position + 36) (weight * (36 - t)) (value + d * weight) rest

/-- Puts code points into those read so far. An integer takes a character at least, which bounds
their number. -/
def readPoints : Nat → Nat → Nat → Nat → List Nat → List Char → Option (List Nat)
  | 0, _, _, _, points, _ | _, _, _, _, points, [] => some points
  | fuel + 1, n, i, bias, points, chars =>
      match readInteger bias 36 1 i chars with
      | none => none
      | some (value, rest) =>
          let count := points.length + 1
          let n := n + value / count
          let place := value % count
          if n.isValidChar then
            readPoints fuel n (place + 1) (adapt (value - i) count (i == 0))
              (points.take place ++ n :: points.drop place) rest
          else none

/-- The label that an encoded text stands for. A hyphen ends its ASCII characters where there are
any. -/
def decode? (text : List Char) : Option (List Char) :=
  let tail := (text.reverse.takeWhile (· != '-')).reverse
  let basic := (text.take (text.length - tail.length)).dropLast
  let points := basic.map Char.toNat
  let digits := if basic.isEmpty then text else tail
  (readPoints digits.length 128 0 72 points digits).map (·.map Char.ofNat)

end ApiContract.Url.Punycode

/-!
Domains in their ASCII form. Characters are replaced by their images, composed, and cut into labels;
a label that is not ASCII is written behind the mark `xn--`, and a label that has the mark already
has to be such a form. Labels obey the rules about joiners and about the direction of writing.
-/

namespace ApiContract.Url

open Text (inside)

/-- Characters no domain may hold in its ASCII form. -/
def isForbidden (c : Char) : Bool :=
  c.toNat ≤ 32 || c.toNat = 127 || "#/:<>?@[\\]^|%".toList.contains c

/-- What a character of a domain stands for, its composition apart. -/
def domainImage (c : Char) : List Char :=
  let n := c.toNat
  if inside ignoredBounds n then []
  else
    match imageExpansions.lookup n, Text.stretchImage imageStretches n with
    | some image, _ => image.map Char.ofNat
    | none, some image => [Char.ofNat image]
    | none, none => Text.lower c

/-- The characters a domain stands for, composed. -/
def domainChars? (domain : List Char) : Option (List Char) :=
  if domain.all fun c => inside domainBounds c.toNat then
    some (Text.compose (domain.flatMap domainImage))
  else none

/-- Marks that suppress the vowel of the letter before them. -/
def isVirama (c : Char) : Bool := Text.markClass c == 9

/-- Whether a letter that joins with what follows stands before a non-joiner, given in reverse, and
one that joins with what precedes after it. -/
def joinsAcross (before after : List Char) : Bool :=
  let joins (bounds : List Nat) (chars : List Char) : Bool :=
    match chars.dropWhile fun c => inside transparentBounds c.toNat with
    | c :: _ => inside bounds c.toNat || inside dualJoiningBounds c.toNat
    | [] => false
  joins leftJoiningBounds before && joins rightJoiningBounds after

/-- Whether the joiners of a label stand where they make a difference; `before` is given in
reverse. -/
def joinersFit (before : List Char) : List Char → Bool
  | [] => true
  | c :: rest =>
      let fits :=
        if c = '\u200c' then before.head?.any isVirama || joinsAcross before rest
        else if c = '\u200d' then before.head?.any isVirama
        else true
      fits && joinersFit (c :: before) rest

/-- How a character takes part in the direction of writing. -/
inductive Direction where
  | leftToRight
  | rightToLeft
  | arabicNumber
  | europeanNumber
  | nonspacing
  | neutral
  deriving DecidableEq, Repr

def Direction.ofChar (c : Char) : Direction :=
  let n := c.toNat
  if inside rightToLeftBounds n then .rightToLeft
  else if inside arabicNumberBounds n then .arabicNumber
  else if inside europeanNumberBounds n then .europeanNumber
  else if inside nonspacingBounds n then .nonspacing
  else if inside undirectedBounds n then .neutral
  else .leftToRight

/-- Whether a domain with these characters has to follow the rules about directions. -/
def isBidirectional (domain : List Char) : Bool :=
  domain.any fun c =>
    let direction := Direction.ofChar c
    direction == .rightToLeft || direction == .arabicNumber

/-- Whether a label reads in one direction only: it begins with a letter, ends in a letter or a
number, and holds nothing that reads in the other direction. -/
def isUnidirectional (label : List Char) : Bool :=
  let directions := label.map Direction.ofChar
  let last := (directions.reverse.dropWhile (· == .nonspacing)).head?
  match directions.head? with
  | none => true
  | some .leftToRight =>
      directions.all (fun d => d != .rightToLeft && d != .arabicNumber) &&
        (last == some .leftToRight || last == some .europeanNumber)
  | some .rightToLeft =>
      directions.all (· != .leftToRight) && last != some .neutral &&
        !(directions.contains .europeanNumber && directions.contains .arabicNumber)
  | some _ => false

/-- A text longer than this is not decoded, and a label longer than half of it not encoded. -/
def lengthLimit : Nat := 2000

/-- The label that a marked text stands for, if it had to be marked and is as composing leaves it. -/
def markedLabel? (text : List Char) : Option (List Char) :=
  if lengthLimit < text.length || text.getLast? == some '-' then none
  else
    match Punycode.decode? text with
    | none => none
    | some label =>
        if label.any (128 ≤ ·.toNat) && domainChars? label == some label &&
            label.all fun c => domainImage c == [c] then
          some label
        else none

/-- A label of a domain: its characters, and its ASCII form. -/
structure Label where
  chars : List Char
  ascii : List Char
  deriving DecidableEq, Repr

/-- A label of composed characters. -/
def Label.ofChars? (chars : List Char) : Option Label :=
  match chars with
  | 'x' :: 'n' :: '-' :: '-' :: text =>
      (markedLabel? text).map fun label => ⟨label, chars⟩
  | chars =>
      if chars.all (·.toNat < 128) then some ⟨chars, chars⟩
      else if lengthLimit < 2 * chars.length then none
      else some ⟨chars, "xn--".toList ++ Punycode.encode chars⟩

/-- Whether a label may stand in a domain, as far as that does not hang on other labels. -/
def Label.isValid (label : Label) : Bool :=
  !(label.chars.head?.any fun c => inside markBounds c.toNat) && joinersFit [] label.chars

/-- The ASCII form of a domain. -/
def asciiDomain? (domain : List Char) : Option (List Char) :=
  match (domainChars? domain).bind fun chars => (Text.splitChars '.' chars).mapM Label.ofChars? with
  | none => none
  | some labels =>
      let ascii := List.intercalate ['.'] (labels.map (·.ascii))
      let isDirected := (labels.any fun label => isBidirectional label.chars)
      if ascii.any isForbidden || !labels.all Label.isValid ||
          (isDirected && !labels.all fun label => isUnidirectional label.chars) then none
      else some ascii

end ApiContract.Url
