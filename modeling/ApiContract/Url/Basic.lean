import ApiContract.Url.Host

/-!
Absolute URLs, as far as their scheme, host and port: whether a text is one, and its origin.
-/

namespace ApiContract

structure Url where
  scheme : String
  host : Option Url.Host
  port : Option Nat
  /-- What follows the scheme and its colon, or the authority where there is one. -/
  rest : String
  deriving DecidableEq, Repr

namespace Url

/-- The ports that schemes with known hosts use where none is written. -/
def defaultPort : String → Option Nat
  | "http" | "ws" => some 80
  | "https" | "wss" => some 443
  | "ftp" => some 21
  | _ => none

/-- Blanks and controls around a URL do not count, tabs and line ends inside neither. -/
def cleaned (text : String) : List Char :=
  let edge (c : Char) : Bool := c.toNat ≤ 32
  let trimmed := ((text.toList.dropWhile edge).reverse.dropWhile edge).reverse
  trimmed.filter fun c => !(c == '\t' || c == '\n' || c == '\r')

def isSchemeChar (c : Char) : Bool := c.isAlphanum || c == '+' || c == '-' || c == '.'

/-- The lower-cased scheme, and what follows its colon. -/
def readScheme (chars : List Char) : Option (String × List Char) :=
  let name := chars.takeWhile isSchemeChar
  match chars.drop name.length with
  | ':' :: rest =>
      if name.head?.any Char.isAlpha then some (String.ofList (name.map Char.toLower), rest) else none
  | _ => none

def isSlash (c : Char) : Bool := c == '/' || c == '\\'

/-- What ends an authority. -/
def endsAuthority (special : Bool) (c : Char) : Bool :=
  c == '/' || c == '?' || c == '#' || (special && c == '\\')

/-- What stands before the last at-sign of an authority, if there is one, and what after it. -/
def cutUser (chars : List Char) : Option (List Char) × List Char :=
  if chars.contains '@' then
    let after := (chars.reverse.takeWhile (· != '@')).reverse
    (some (chars.take (chars.length - after.length - 1)), after)
  else (none, chars)

/-- Whether the part of an authority before its host asks for one: a user does, and so does an
empty part before the rest of the URL. -/
def needsHost (user : Option (List Char)) (rest : List Char) : Bool :=
  match user with
  | none | some [':'] => false
  | some [] => !rest.isEmpty
  | some _ => true

/-- The end of the host: the first colon outside square brackets. -/
def cutHost (inBrackets : Bool) : List Char → List Char × List Char
  | [] => ([], [])
  | c :: rest =>
      if c = ':' ∧ !inBrackets then ([], c :: rest)
      else
        let inside := if c = '[' then true else if c = ']' then false else inBrackets
        let (host, after) := cutHost inside rest
        (c :: host, after)

/-- A port after its colon, nothing where no digit stands or where it is the usual one. -/
def readPort (scheme : String) (special : Bool) (digits : List Char) :
    Except UrlError (Option Nat) :=
  let number := digits.takeWhile Char.isDigit
  let value := (ofBase? 10 number).getD 0
  if 65535 < value then .error .port
  else if number.length < digits.length ∧ !(!special ∧ (digits.drop number.length).head? = some '\\')
  then .error .port
  else if number.isEmpty ∨ defaultPort scheme = some value then .ok none
  else .ok (some value)

def readAuthority (scheme : String) (special : Bool) (chars : List Char) :
    Except UrlError Url := do
  let whole := chars.takeWhile (!endsAuthority special ·)
  let rest := chars.drop whole.length
  let (user, located) := cutUser whole
  let (hostText, portText) := cutHost false located
  if hostText.isEmpty ∧ (special ∨ !portText.isEmpty ∨ needsHost user rest) then
    .error .emptyHost
  let host ← if special then readHost hostText else readOpaqueHost hostText
  match portText with
  | ':' :: digits => do
      let port ← readPort scheme special digits
      pure ⟨scheme, some host, port, String.ofList rest⟩
  | _ => pure ⟨scheme, some host, none, String.ofList rest⟩

/-- A file URL: its host may be empty, and a drive letter is none. -/
def readFile (chars : List Char) : Except UrlError Url :=
  match chars with
  | a :: b :: rest =>
      if isSlash a && isSlash b then
        let host := rest.takeWhile (!endsAuthority true ·)
        let after := String.ofList (rest.drop host.length)
        let isDrive := match host with
          | [letter, mark] => letter.isAlpha && (mark == ':' || mark == '|')
          | _ => false
        if host.isEmpty || isDrive then .ok ⟨"file", none, none, after⟩
        else (readHost host).map fun host => ⟨"file", some host, none, after⟩
      else .ok ⟨"file", none, none, String.ofList chars⟩
  | _ => .ok ⟨"file", none, none, String.ofList chars⟩

/-- The URL that a text spells without any base. -/
def parse (text : String) : Except UrlError Url :=
  match readScheme (cleaned text) with
  | none => .error .relative
  | some (scheme, rest) =>
      if scheme = "file" then readFile rest
      else if (defaultPort scheme).isSome then
        readAuthority scheme true (rest.dropWhile isSlash)
      else
        match rest with
        | '/' :: '/' :: rest => readAuthority scheme false rest
        | rest => .ok ⟨scheme, none, none, String.ofList rest⟩

def isAbsolute (text : String) : Bool := (parse text).isOk

/-- What follows, up to the query or the fragment, in printable ASCII. -/
def path (url : Url) : String :=
  Text.Percent.encode (fun c => 32 ≤ c.toNat && c.toNat < 127)
    (String.ofList (url.rest.toList.takeWhile fun c => !(c == '?' || c == '#')))

/-- The origin of a URL, or of the URL inside one that only wraps another; each wrapping is one
level of `fuel`. -/
def originWithin : Nat → Url → String
  | 0, _ => "null"
  | fuel + 1, url =>
      if url.scheme = "blob" then
        match parse url.path with
        | .ok inner => originWithin fuel inner
        | .error _ => "null"
      else
        match defaultPort url.scheme, url.host with
        | some _, some host =>
            url.scheme ++ "://" ++ host.text ++
              (match url.port with
              | some port => ":" ++ toString port
              | none => "")
        | _, _ => "null"

/-- Scheme, host and port of a URL whose scheme has known hosts; other origins are opaque. -/
def origin (url : Url) : String := originWithin (url.rest.length + 1) url

end Url

end ApiContract
