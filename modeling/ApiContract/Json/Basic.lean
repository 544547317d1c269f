import ApiContract.Decimal.Notation

/-!
JSON documents. Numbers are integers or binary floating point; an object keeps its members in the
order they were written. A document read from text may repeat a key, `normalize` gives the value
it stands for: the last member of a key, at the place of the first.
-/

namespace ApiContract

open Decimal (Binary64)

inductive Json where
  | null
  | bool (value : Bool)
  | int (value : Int)
  | float (value : Binary64)
  | string (text : String)
  | array (items : List Json)
  | object (members : List (String × Json))
  deriving Inhabited

namespace Json

mutual

def decEq : (a b : Json) → Decidable (a = b)
  | .null, .null => isTrue rfl
  | .bool a, .bool b => decidable_of_iff (a = b) (by simp)
  | .int a, .int b => decidable_of_iff (a = b) (by simp)
  | .float a, .float b => decidable_of_iff (a = b) (by simp)
  | .string a, .string b => decidable_of_iff (a = b) (by simp)
  | .array a, .array b => match decEqItems a b with
    | isTrue same => isTrue (by rw [same])
    | isFalse other => isFalse (by intro same; cases same; exact other rfl)
  | .object a, .object b => match decEqMembers a b with
    | isTrue same => isTrue (by rw [same])
    | isFalse other => isFalse (by intro same; cases same; exact other rfl)
  | .null, .bool _ | .null, .int _ | .null, .float _ | .null, .string _ | .null, .array _
  | .null, .object _ | .bool _, .null | .bool _, .int _ | .bool _, .float _ | .bool _, .string _
  | .bool _, .array _ | .bool _, .object _ | .int _, .null | .int _, .bool _ | .int _, .float _
  | .int _, .string _ | .int _, .array _ | .int _, .object _ | .float _, .null | .float _, .bool _
  | .float _, .int _ | .float _, .string _ | .float _, .array _ | .float _, .object _
  | .string _, .null | .string _, .bool _ | .string _, .int _ | .string _, .float _
  | .string _, .array _ | .string _, .object _ | .array _, .null | .array _, .bool _
  | .array _, .int _ | .array _, .float _ | .array _, .string _ | .array _, .object _
  | .object _, .null | .object _, .bool _ | .object _, .int _ | .object _, .float _
  | .object _, .string _ | .object _, .array _ => isFalse (by intro same; cases same)

def decEqItems : (a b : List Json) → Decidable (a = b)
  | [], [] => isTrue rfl
  | a :: as, b :: bs => match decEq a b, decEqItems as bs with
    | isTrue head, isTrue tail => isTrue (by rw [head, tail])
    | isFalse other, _ => isFalse (by intro same; cases same; exact other rfl)
    | _, isFalse other => isFalse (by intro same; cases same; exact other rfl)
  | [], _ :: _ | _ :: _, [] => isFalse (by intro same; cases same)

def decEqMembers : (a b : List (String × Json)) → Decidable (a = b)
  | [], [] => isTrue rfl
  | (k, a) :: as, (l, b) :: bs =>
    if keys : k = l then
      match decEq a b, decEqMembers as bs with
      | isTrue head, isTrue tail => isTrue (by rw [keys, head, tail])
      | isFalse other, _ => isFalse (by intro same; cases same; exact other rfl)
      | _, isFalse other => isFalse (by intro same; cases same; exact other rfl)
    else isFalse (by intro same; cases same; exact keys rfl)
  | [], _ :: _ | _ :: _, [] => isFalse (by intro same; cases same)

end

instance : DecidableEq Json := decEq

/-- Sets the value of a key: in place where the key stands, at the end otherwise. -/
def setMember (members : List (String × Json)) (key : String) (value : Json) :
    List (String × Json) :=
  match members with
  | [] => [(key, value)]
  | (k, v) :: rest =>
      if k = key then (k, value) :: rest else (k, v) :: setMember rest key value

/-- The value of a key of an object, nothing for other documents. -/
def field? (document : Json) (key : String) : Option Json :=
  match document with
  | .object members => members.lookup key
  | _ => none

mutual

/-- The value a document stands for: of the members of one key the last counts, at the place of
the first. -/
def normalize : Json → Json
  | .array items => .array (normalizeItems items)
  | .object members => .object (normalizeMembers [] members)
  | document => document

def normalizeItems : List Json → List Json
  | [] => []
  | item :: rest => item.normalize :: normalizeItems rest

def normalizeMembers (kept : List (String × Json)) :
    List (String × Json) → List (String × Json)
  | [] => kept
  | (key, value) :: rest => normalizeMembers (setMember kept key value.normalize) rest

end

/-- The word for a kind of document. -/
def kind : Json → String
  | .null => "null"
  | .bool _ => "boolean"
  | .int _ | .float _ => "number"
  | .string _ => "string"
  | .array _ => "array"
  | .object _ => "object"

end Json

end ApiContract
