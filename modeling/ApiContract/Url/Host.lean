import ApiContract.Text.Hexadecimal
import ApiContract.Text.Cut
import ApiContract.Text.Percent
import ApiContract.Url.Domain

/-!
Addresses of hosts, of version 4 and 6, in all their spellings, and their written forms.
-/

namespace ApiContract.Url

/-! Numbers in addresses of version 4. -/

def ofBase? (base : Nat) (digits : List Char) : Option Nat :=
  digits.foldl
    (fun n c =>
      match n, Text.hexValue c with
      | some n, some d => if d < base then some (n * base + d) else none
      | _, _ => none)
    (some 0)

/-- A number in decimal, in octal after a zero, or in hexadecimal after `0x`. -/
def readNumber : List Char → Option Nat
  | [] => none
  | '0' :: 'x' :: digits | '0' :: 'X' :: digits => ofBase? 16 digits
  | '0' :: d :: digits => ofBase? 8 (d :: digits)
  | digits => ofBase? 10 digits

/-- The labels of a domain without the empty one behind a final dot. -/
def labels (domain : List Char) : List (List Char) :=
  let parts := Text.splitChars '.' domain
  if 1 < parts.length && parts.getLast? == some [] then parts.dropLast else parts

def endsInNumber (domain : List Char) : Bool :=
  match (labels domain).getLast? with
  | some last => (!last.isEmpty && last.all Char.isDigit) || (readNumber last).isSome
  | none => false

/-- The address of up to four numbers; the last one fills the bytes that are left. -/
def ipv4OfNumbers (numbers : List Nat) : Option Nat :=
  match numbers.reverse with
  | [] => none
  | last :: reversed =>
      let before := reversed.reverse
      let room := Nat.pow 256 (4 - before.length)
      if 3 < before.length || before.any (255 < ·) || room ≤ last then none
      else some (before.foldl (fun n b => n * 256 + b) 0 * room + last)

def readIpv4 (domain : List Char) : Option Nat :=
  ((labels domain).mapM readNumber).bind ipv4OfNumbers

def ipv4Text (address : Nat) : String :=
  String.intercalate "."
    ([address / 16777216, address / 65536 % 256, address / 256 % 256, address % 256].map toString)

/-! Addresses of version 6. -/

def readPiece (digits : List Char) : Option Nat :=
  if digits.isEmpty || 4 < digits.length then none else ofBase? 16 digits

/-- A byte in decimal without superfluous zeros. -/
def readByte (digits : List Char) : Option Nat :=
  if digits.isEmpty || !digits.all Char.isDigit || (digits.head? == some '0' && 1 < digits.length)
  then none
  else (ofBase? 10 digits).filter (· < 256)

/-- The two pieces that four bytes in decimal stand for. -/
def readDottedPieces (text : List Char) : Option (List Nat) :=
  match (Text.splitChars '.' text).mapM readByte with
  | some [a, b, c, d] => some [a * 256 + b, c * 256 + d]
  | _ => none

/-- Pieces between colons; the last ones may be written as four bytes. -/
def readPieces : List (List Char) → Option (List Nat)
  | [] => some []
  | [last] =>
      if last.contains '.' then readDottedPieces last else (readPiece last).map fun n => [n]
  | piece :: rest =>
      match readPiece piece, readPieces rest with
      | some n, some ns => some (n :: ns)
      | _, _ => none

/-- Text before and after the first double colon. -/
def cutDoubleColon : List Char → Option (List Char × List Char)
  | [] => none
  | ':' :: ':' :: rest => some ([], rest)
  | c :: rest => (cutDoubleColon rest).map fun (before, after) => (c :: before, after)

def readSide (text : List Char) : Option (List Nat) :=
  if text.isEmpty then some [] else readPieces (Text.splitChars ':' text)

def readIpv6 (text : List Char) : Option (List Nat) :=
  match cutDoubleColon text with
  | some (before, after) =>
      if before.contains '.' then none
      else
        match readSide before, readSide after with
        | some high, some low =>
            if high.length + low.length < 8 then
              some (high ++ List.replicate (8 - high.length - low.length) 0 ++ low)
            else none
        | _, _ => none
  | none =>
      match readSide text with
      | some pieces => if pieces.length = 8 then some pieces else none
      | none => none

/-- The longest run of zero pieces, at least two, the first of equal ones: start and length. -/
def longestZeros (pieces : List Nat) : Option (Nat × Nat) :=
  let runs := (List.range 8).map fun i => (i, ((pieces.drop i).takeWhile (· == 0)).length)
  runs.foldl
    (fun best run =>
      match best with
      | some (_, length) => if length < run.2 then some run else best
      | none => if 2 ≤ run.2 then some run else none)
    none

def hexText (n : Nat) : String := String.ofList (Nat.toDigits 16 n)

def joinPieces (pieces : List Nat) : String := String.intercalate ":" (pieces.map hexText)

def ipv6Text (pieces : List Nat) : String :=
  match longestZeros pieces with
  | some (start, length) =>
      joinPieces (pieces.take start) ++ "::" ++ joinPieces (pieces.drop (start + length))
  | none => joinPieces pieces

end ApiContract.Url

/-!
Hosts of URLs. A host of a scheme with known hosts is percent-decoded and brought to its ASCII form;
if its last label is a number it has to be an address.
-/

namespace ApiContract.Url

/-- Why a text is no URL. -/
inductive UrlError where
  | relative
  | emptyHost
  | port
  | ipv4
  | ipv6
  | domain
  | domainCharacter
  deriving DecidableEq, Repr

def UrlError.message : UrlError → String
  | relative => "relative URL without a base"
  | emptyHost => "empty host"
  | port => "invalid port number"
  | ipv4 => "invalid IPv4 address"
  | ipv6 => "invalid IPv6 address"
  | domain => "invalid international domain name"
  | domainCharacter => "invalid domain character"

inductive Host where
  | domain (name : String)
  | ipv4 (address : Nat)
  | ipv6 (pieces : List Nat)
  deriving DecidableEq, Repr

/-- A host of a scheme with known hosts. -/
def readHost (text : List Char) : Except UrlError Host :=
  match text with
  | '[' :: rest =>
      if rest.getLast? = some ']' then
        match readIpv6 rest.dropLast with
        | some pieces => .ok (.ipv6 pieces)
        | none => .error .ipv6
      else .error .ipv6
  | text =>
      let decoded := Text.ofUtf8? (Text.Percent.decodeBytes (Text.utf8 (String.ofList text)))
      match decoded.bind fun decoded => asciiDomain? decoded.toList with
      | none => .error .domain
      | some domain =>
          if domain.isEmpty then .error .emptyHost
          else if endsInNumber domain then
            match readIpv4 domain with
            | some address => .ok (.ipv4 address)
            | none => .error .ipv4
          else .ok (.domain (String.ofList domain))

/-- A host of any other scheme: kept as it is. -/
def readOpaqueHost (text : List Char) : Except UrlError Host :=
  match text with
  | '[' :: _ => readHost text
  | text =>
      let forbidden (c : Char) := c.toNat = 0 || " \t\n\r#/:<>?@[\\]^|".toList.contains c
      if text.any forbidden then .error .domainCharacter else .ok (.domain (String.ofList text))

def Host.text : Host → String
  | .domain name => name
  | .ipv4 address => ipv4Text address
  | .ipv6 pieces => "[" ++ ipv6Text pieces ++ "]"

end ApiContract.Url
