import ApiContract.Failure
import ApiContract.Json.Printer
import ApiContract.Model.Basic

/-!
Values as calls carry them. A record is keyed by property names, not by wire names; a value read
through a hierarchy is a variant under the discriminator value it was read with. The entries of
maps and records are sorted by key.
-/

namespace ApiContract

inductive Value where
  | null
  | bool (value : Bool)
  | int (value : Int64)
  | float (value : Decimal.Binary64)
  | string (text : String)
  | bytes (content : List UInt8)
  | list (items : List Value)
  | map (entries : List (String × Value))
  | record (fields : List (String × Value))
  | variant (discriminator : String) (value : Value)
  | json (document : Json)
  deriving Inhabited

namespace Value

/-- A record of the given fields, of equal names the last counting. -/
def ofFields (fields : List (String × Value)) : Value :=
  .record (fields.foldl (fun sorted (key, value) => insertSorted key value sorted) [])

/-- A map of the given entries, of equal keys the last counting. -/
def ofEntries (entries : List (String × Value)) : Value :=
  .map (entries.foldl (fun sorted (key, value) => insertSorted key value sorted) [])

/-- A field of a record, or of the record inside a variant. -/
def field? : Value → String → Option Value
  | record fields, name => fields.lookup name
  | variant _ value, name => value.field? name
  | _, _ => none

def isNull : Value → Bool
  | null => true
  | _ => false

/-- How a message calls a value of this kind. -/
def label : Value → String
  | null => "null"
  | bool _ => "a boolean"
  | int _ => "an integer"
  | float _ => "a float"
  | string _ => "a string"
  | bytes _ => "bytes"
  | list _ => "a list"
  | map _ => "a map"
  | record _ => "a record"
  | variant _ _ => "a variant"
  | json _ => "raw JSON"

mutual

/-- Levels of nesting. -/
def depth : Value → Nat
  | list items => depthOfItems items + 1
  | map entries => depthOfEntries entries + 1
  | record fields => depthOfEntries fields + 1
  | variant _ value => value.depth + 1
  | _ => 1

def depthOfItems : List Value → Nat
  | [] => 0
  | item :: rest => max item.depth (depthOfItems rest)

def depthOfEntries : List (String × Value) → Nat
  | [] => 0
  | (_, value) :: rest => max value.depth (depthOfEntries rest)

end

end Value

/-- The value does not have the expected kind. -/
def ValueError.mismatch (expected : String) (found : Value) : ValueError :=
  .typeMismatch expected found.label

end ApiContract
