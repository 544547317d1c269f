import ApiContract.Json.Printer
import ApiContract.Text.Literal
import ApiContract.Yaml.Scalar

/-!
Documents as they were read: trees of scalars, sequences and mappings, in which a key may be repeated
and what a scalar of a notation laid out by indentation stands for is left to its reader. What no
reader may look into stands in the tree as well, since a reader passes over what it does not know.
-/

namespace ApiContract.Document

inductive Node where
  | null
  | bool (value : Bool)
  | int (value : Int)
  | float (value : Decimal.Binary64)
  | string (text : String)
  /-- A scalar whose kind depends on what is expected of it. -/
  | scalar (leaf : Yaml.Scalar)
  | sequence (items : List Node)
  | mapping (members : List (Node × Node))
  /-- A collection under a tag of its own: a reader without expectations refuses it. -/
  | tagged (collection : Node)
  /-- Data that can only be passed over. -/
  | unreadable
  deriving Inhabited

namespace Node

mutual

def ofJson : Json → Node
  | .null => .null
  | .bool value => .bool value
  | .int value => .int value
  | .float value => .float value
  | .string text => .string text
  | .array items => .sequence (ofJsonItems items)
  | .object members => .mapping (ofJsonMembers members)

def ofJsonItems : List Json → List Node
  | [] => []
  | item :: rest => ofJson item :: ofJsonItems rest

def ofJsonMembers : List (String × Json) → List (Node × Node)
  | [] => []
  | (key, value) :: rest => (.string key, ofJson value) :: ofJsonMembers rest

end

/-- The text of a key. -/
def keyText? : Node → Option String
  | .string text => some text
  | .scalar leaf => some leaf.text
  | _ => none

def finite : Json → Json
  | .float value => if value.isFinite then .float value else .null
  | document => document

mutual

/-- The JSON document a node stands for, repeated keys kept; a number that is not finite is null. -/
def json? : Node → Option Json
  | .null => some .null
  | .bool value => some (.bool value)
  | .int value => some (.int value)
  | .float value => some (finite (.float value))
  | .string text => some (.string text)
  | .scalar leaf => leaf.meaning?.map finite
  | .sequence items => (jsonItems? items).map .array
  | .mapping members => (jsonMembers? members).map .object
  | .tagged _ | .unreadable => none

def jsonItems? : List Node → Option (List Json)
  | [] => some []
  | item :: rest =>
      match item.json?, jsonItems? rest with
      | some item, some rest => some (item :: rest)
      | _, _ => none

def jsonMembers? : List (Node × Node) → Option (List (String × Json))
  | [] => some []
  | (key, value) :: rest =>
      match key.keyText?, value.json?, jsonMembers? rest with
      | some key, some value, some rest => some ((key, value) :: rest)
      | _, _, _ => none

end

mutual

/-- The node with each scalar replaced by what it stands for: the view of a reader that has to
buffer the document before it knows which record to read. -/
def settle? : Node → Option Node
  | .scalar leaf => leaf.meaning?.map ofJson
  | .sequence items => (settleItems? items).map .sequence
  | .mapping members => (settleMembers? members).map .mapping
  | .tagged _ | .unreadable => none
  | node => some node

def settleItems? : List Node → Option (List Node)
  | [] => some []
  | item :: rest =>
      match item.settle?, settleItems? rest with
      | some item, some rest => some (item :: rest)
      | _, _ => none

def settleMembers? : List (Node × Node) → Option (List (Node × Node))
  | [] => some []
  | (key, value) :: rest =>
      match key.settle?, value.settle?, settleMembers? rest with
      | some key, some value, some rest => some ((key, value) :: rest)
      | _, _, _ => none

end

/-- The collection under a tag. -/
def bare : Node → Node
  | .tagged collection => collection.bare
  | node => node

/-- How a message calls a scalar that is none of the expected kind. -/
def foundJson : Json → String
  | .null => "null"
  | .bool value => "boolean `" ++ (if value then "true" else "false") ++ "`"
  | .int value => "integer `" ++ toString value ++ "`"
  | .float value => "floating point `" ++ value.json ++ "`"
  | .string text => "string " ++ Text.literal text
  | .array _ => "sequence"
  | .object _ => "map"

def found : Node → String
  | .null => "null"
  | .bool value => foundJson (.bool value)
  | .int value => foundJson (.int value)
  | .float value => foundJson (.float value)
  | .string text => foundJson (.string text)
  | .scalar leaf => foundJson (.string leaf.text)
  | .sequence _ => "sequence"
  | .mapping _ => "map"
  | .tagged _ => "tagged value"
  | .unreadable => "unreadable value"

end Node

end ApiContract.Document
