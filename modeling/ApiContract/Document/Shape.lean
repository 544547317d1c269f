import ApiContract.Document.Node

/-!
Reading typed records out of documents. The first fault in document order is reported; fields that
are absent are reported after every fault inside the document, in the order in which the record
declares them.
-/

namespace ApiContract.Document

/-- Why a document has not the shape of a record. -/
inductive ShapeError where
  | missingField (name : String)
  | duplicateField (name : String)
  | unknownVariant (name : String) (expected : List String)
  | invalidType (found expected : String)
  | invalidValue (found expected : String)
  | invalidLength (length : Nat) (expected : String)
  | noVariant (type : String)
  /-- A value of a kind that cannot even begin here. -/
  | expectedValue
  /-- A sequence with more items than the record has fields. -/
  | trailing
  /-- Data that can only be passed over. -/
  | unreadable
  deriving DecidableEq, Repr

namespace ShapeError

def tick (text : String) : String := "`" ++ text ++ "`"

/-- The accepted words, as an alternative of two or a list. -/
def oneOf : List String → String
  | [] => "there are no variants"
  | [a] => "expected " ++ tick a
  | [a, b] => "expected " ++ tick a ++ " or " ++ tick b
  | names => "expected one of " ++ String.intercalate ", " (names.map tick)

def message : ShapeError → String
  | missingField name => "missing field " ++ tick name
  | duplicateField name => "duplicate field " ++ tick name
  | unknownVariant name expected => "unknown variant " ++ tick name ++ ", " ++ oneOf expected
  | invalidType found expected => "invalid type: " ++ found ++ ", expected " ++ expected
  | invalidValue found expected => "invalid value: " ++ found ++ ", expected " ++ expected
  | invalidLength length expected =>
      "invalid length " ++ toString length ++ ", expected " ++ expected
  | noVariant type => "data did not match any variant of untagged enum " ++ type
  | expectedValue => "expected value"
  | trailing => "trailing characters"
  | unreadable => "unreadable value"

end ShapeError

/-- Whether a node is read where it stands, in a notation with brackets or in one laid out by
indentation, or from a buffer that its tag was taken out of. -/
inductive Origin where
  | direct
  | layout
  | buffered
  deriving DecidableEq, Repr

abbrev Reader (α : Type) := Origin → Node → Except ShapeError α

/-- A text. Outside buffers a scalar is a text whatever else it may stand for. -/
def text : Reader String
  | _, .string text => .ok text
  | _, .scalar scalar => .ok scalar.text
  | _, node => .error (.invalidType node.found "a string")

def boolean : Reader Bool
  | _, .bool value => .ok value
  | _, .scalar scalar =>
      match scalar.boolean? with
      | some value => .ok value
      | none => .error (.invalidType (Node.scalar scalar).found "a boolean")
  | _, node => .error (.invalidType node.found "a boolean")

def listOf (item : Reader α) : Reader (List α) := fun origin node =>
  match node.bare with
  | .sequence items => items.mapM (item origin)
  | .scalar scalar =>
      if scalar.isEmpty then .ok [] else .error (.invalidType node.found "a sequence")
  | other => .error (.invalidType other.found "a sequence")

/-- A value that may be absent: null stands for absence. -/
def maybe (item : Reader α) : Reader (Option α)
  | _, .null => .ok none
  | origin, .scalar scalar =>
      match scalar.isPresent? with
      | none => .error .unreadable
      | some false => .ok none
      | some true => (item origin (.scalar scalar)).map some
  | origin, node => (item origin node).map some

/-- Any document, as the JSON value it stands for. -/
def anything : Reader Json := fun _ node =>
  match node.json? with
  | some document => .ok document.normalize
  | none => .error .unreadable

/-- What follows a word in a mapping: nothing, for which a buffer may hold an empty mapping. -/
def unit : Reader Unit
  | _, .null => .ok ()
  | .buffered, .mapping [] => .ok ()
  | _, node => .error (.invalidType node.found "unit")

/-- A word out of a list of spellings, also as the one member of a mapping. A buffer may hold the
place of the word in the list, and a layout may have the word as the tag of nothing. -/
def word (spellings : List (String × α)) : Reader α
  | _, .string text => choose text
  | _, .scalar ⟨text, style, some (.own tag)⟩ =>
      if Yaml.Scalar.isUnit ⟨text, style, none⟩ then choose tag else .error .unreadable
  | _, .scalar scalar => choose scalar.text
  | .direct, .mapping [] => .error .expectedValue
  | .direct, .mapping ((key, value) :: rest) => do
      let a ← ofKey key
      unit .direct value
      if rest.isEmpty then pure a else throw .expectedValue
  | .direct, _ => .error .expectedValue
  | .buffered, .mapping [(key, value)] => do
      let a ← ofKey key
      unit .buffered value
      pure a
  | .buffered, .mapping _ => .error (.invalidValue "map" "map with a single key")
  | .buffered, node => .error (.invalidType node.found "string or map")
  | .layout, node => .error (.invalidType node.found "a word")
where
  choose (text : String) : Except ShapeError α :=
    match spellings.lookup text with
    | some a => .ok a
    | none => .error (.unknownVariant text (spellings.map (·.1)))
  ofKey : Node → Except ShapeError α
    | .string text => choose text
    | .int place =>
        match if 0 ≤ place then spellings[place.toNat]? else none with
        | some (_, a) => .ok a
        | none => .error .unreadable
    | node => .error (.invalidType node.found "variant identifier")

/-- A fault and its place among the members; absent fields come after all of them. -/
structure Fault where
  place : Nat
  error : ShapeError

/-- Readers of some fields of a record: how many there are, how to read them from the members of a
mapping, and how to read them from the items of a sequence, in order. Both are given the number of
fields that come before, and the items also the words for the whole record. -/
structure Fields (α : Type) where
  count : Nat
  ofMembers : Origin → Nat → List (Node × Node) → Except Fault α
  ofItems : Origin → String → Nat → List Node → Except ShapeError (α × List Node)

namespace Fields

protected def pure (a : α) : Fields α where
  count := 0
  ofMembers := fun _ _ _ => .ok a
  ofItems := fun _ _ _ items => .ok (a, items)

protected def map (f : α → β) (fields : Fields α) : Fields β where
  count := fields.count
  ofMembers := fun origin taken members => (fields.ofMembers origin taken members).map f
  ofItems := fun origin whole taken items =>
    (fields.ofItems origin whole taken items).map fun (a, rest) => (f a, rest)

/-- Of two faults the one that stands first in the document counts. -/
def earlier (a b : Fault) : Fault := if b.place < a.place then b else a

protected def both (f : Fields (α → β)) (x : Fields α) : Fields β where
  count := f.count + x.count
  ofMembers := fun origin taken members =>
    match f.ofMembers origin taken members, x.ofMembers origin (taken + f.count) members with
    | .ok f, .ok a => .ok (f a)
    | .error e, .ok _ => .error e
    | .ok _, .error e => .error e
    | .error e, .error e' => .error (earlier e e')
  ofItems := fun origin whole taken items => do
    let (g, rest) ← f.ofItems origin whole taken items
    let (a, rest) ← x.ofItems origin whole (taken + f.count) rest
    pure (g a, rest)

instance : Applicative Fields where
  pure := Fields.pure
  map := Fields.map
  seq f x := Fields.both f (x ())

/-- Whether a key names a field, or gives its place in the record. -/
def isKey (name : String) (place : Nat) (key : Node) : Bool :=
  match key with
  | .int number => number == (place : Int)
  | key => key.keyText? == some name

/-- The first of the members a key selects, and where a second one stands. -/
def occurrences (selects : Node → Bool) (place : Nat) :
    List (Node × Node) → Option (Nat × Node) × Option Nat
  | [] => (none, none)
  | (key, value) :: rest =>
      let (first, second) := occurrences selects (place + 1) rest
      if selects key then (some (place, value), first.map (·.1)) else (first, second)

/-- A field, with what to do where it is absent. -/
def field (name : String) (read : Reader α) (absent : Option α) : Fields α where
  count := 1
  ofMembers := fun origin taken members =>
    match occurrences (isKey name taken) 0 members with
    | (none, _) =>
        match absent with
        | some a => .ok a
        | none => .error ⟨members.length + taken, .missingField name⟩
    | (some (place, node), second) =>
        match read origin node with
        | .error e => .error ⟨place, e⟩
        | .ok a =>
            match second with
            | some place => .error ⟨place, .duplicateField name⟩
            | none => .ok a
  ofItems := fun origin whole taken items =>
    match items with
    | [] =>
        match absent with
        | some a => .ok (a, [])
        | none => .error (.invalidLength taken whole)
    | item :: rest => (read origin item).map fun a => (a, rest)

def required (name : String) (read : Reader α) : Fields α := field name read none

def withDefault (name : String) (read : Reader α) (absent : α) : Fields α :=
  field name read (some absent)

def optional (name : String) (read : Reader α) : Fields (Option α) :=
  field name (maybe read) (some none)

end Fields

def elements (count : Nat) : String :=
  toString count ++ (if count = 1 then " element" else " elements")

/-- Items of a sequence beyond the fields of a record. -/
def leftover (origin : Origin) (count : Nat) : List Node → Except ShapeError Unit
  | [] => .ok ()
  | rest =>
      match origin with
      | .direct | .layout => .error .trailing
      | .buffered =>
          .error (.invalidLength (count + rest.length) (elements count ++ " in sequence"))

/-- Whether a key of a record can be told from the names of its fields. -/
def isFieldKey : Node → Bool
  | .int place => 0 ≤ place
  | key => key.keyText?.isSome

/-- A record, written as a mapping or, outside layouts, as a sequence of its fields in order. -/
def record (name : String) (fields : Fields α) : Reader α := fun origin node =>
  match origin, node.bare with
  | origin, .mapping members =>
      if members.all fun (key, _) => isFieldKey key then
        (fields.ofMembers origin 0 members).mapError (·.error)
      else .error .unreadable
  | _, .scalar scalar =>
      if scalar.isEmpty then (fields.ofMembers .direct 0 []).mapError (·.error)
      else .error (.invalidType node.found name)
  | .layout, other => .error (.invalidType other.found name)
  | origin, .sequence items => do
      let whole := name ++ " with " ++ elements fields.count
      let (a, rest) ← fields.ofItems origin whole 0 items
      leftover origin fields.count rest
      pure a
  | _, other => .error (.invalidType other.found name)

/-- One case of a tagged choice: what reads the rest once the tag is taken out. -/
structure Case (α : Type) where
  tag : String
  read : Reader α

/-- A case without fields: anything may follow its tag in a mapping, nothing in a sequence. -/
def Case.unit (tag : String) (a : α) : Case α where
  tag
  read := fun origin node =>
    match node with
    | .sequence items => (leftover origin 0 items).map fun _ => a
    | _ => .ok a

/-- A choice tagged by one of its fields. The tag is looked up first, what remains is buffered, and
so all of it has to be readable. -/
def tagged (name tag : String) (cases : List (Case α)) : Reader α
  | _, .mapping members =>
      match members.mapM buffer? with
      | none => .error .unreadable
      | some members => do
          let node ← match Fields.occurrences isTag 0 members with
            | (none, _) => .error (.missingField tag)
            | (some (_, node), second) => pure (node, second)
          let case ← choose node.1
          if node.2.isSome then .error (.duplicateField tag)
          case.read .buffered (.mapping (members.filter fun (key, _) => !isTag key))
  | _, .sequence [] => .error (.missingField tag)
  | _, .sequence (first :: rest) => do
      let case ← choose first
      match Node.settleItems? rest with
      | some rest => case.read .buffered (.sequence rest)
      | none => .error .unreadable
  | _, node => .error (.invalidType node.found ("internally tagged enum " ++ name))
where
  isTag : Node → Bool
    | .string text => text == tag
    | _ => false
  buffer? : Node × Node → Option (Node × Node)
    | (key, value) =>
        match key.settle? with
        | none => none
        | some key =>
            if isTag key then some (key, value) else value.settle?.map fun value => (key, value)
  find (text : String) : Except ShapeError (Case α) :=
    match cases.find? (·.tag == text) with
    | some case => .ok case
    | none => .error (.unknownVariant text (cases.map (·.tag)))
  choose : Node → Except ShapeError (Case α)
    | .string text => find text
    | .scalar scalar => find scalar.text
    | node => .error (.invalidType node.found "variant identifier")

end ApiContract.Document
