import ApiContract.Model.Basic

/-!
Wire plans: how a schema is carried in a wire format. Nested objects are referred to by id and
planned on their own, so the plan of a recursive schema is finite.
-/

namespace ApiContract

/-- The raw values of an enum. -/
structure EnumValues where
  name : String
  values : List String
  extensible : Bool
  underlying : PrimitiveKind
  deriving DecidableEq, Repr, Inhabited

/-- What is carried as a single JSON value or a single text. -/
inductive ScalarKind where
  | primitive (kind : PrimitiveKind) (format : Option PrimitiveFormat)
  | enumeration (values : EnumValues)
  | any
  deriving DecidableEq, Repr, Inhabited

/-- How a value inside a JSON document is carried. -/
inductive ValuePlan where
  | scalar (kind : ScalarKind)
  | list (element : ValuePlan)
  | dictionary (value : ValuePlan)
  /-- An object, by the id of its own plan. -/
  | reference (schema : SchemaId)
  deriving DecidableEq, Repr, Inhabited

structure PropertyPlan where
  name : String
  wireName : String
  value : ValuePlan
  required : Bool
  nullable : Bool
  readOnly : Bool
  default : Option Json
  deriving DecidableEq, Inhabited

/-- A wire name and the constant text written under it. -/
structure Discriminator where
  wireName : String
  value : String
  deriving DecidableEq, Repr, Inhabited

/-- A JSON object with fixed properties, inherited ones first. A variant of a hierarchy has a
discriminator that is written before any property. -/
structure ObjectPlan where
  schema : SchemaId
  typeName : String
  discriminator : Option Discriminator
  properties : List PropertyPlan
  deriving DecidableEq, Inhabited

/-- A value that selects a variant, and the schema of the variant. -/
structure VariantChoice where
  value : String
  schema : SchemaId
  deriving DecidableEq, Repr, Inhabited

/-- A hierarchy root: the discriminator selects the plan of a variant; the base shape serves where
its value is not recognized. -/
structure HierarchyPlan where
  schema : SchemaId
  typeName : String
  discriminator : String
  base : ObjectPlan
  variants : List VariantChoice
  deriving DecidableEq, Inhabited

structure AttributePlan where
  property : String
  name : String
  kind : ScalarKind
  required : Bool
  deriving DecidableEq, Repr, Inhabited

/-- What a single element carries. -/
inductive ItemContent where
  | value (kind : ScalarKind)
  | model (schema : SchemaId)
  deriving DecidableEq, Repr, Inhabited

/-- What a property carried by elements holds. The items of a sequence are the children of a wrapper
element, or repeated siblings; the entries of a dictionary are children named by their keys. -/
inductive ChildContent where
  | item (content : ItemContent)
  | sequence (wrapped : Bool) (itemName : String) (item : ItemContent)
  | dictionary (entry : ItemContent)
  deriving DecidableEq, Repr, Inhabited

structure ChildPlan where
  property : String
  name : String
  content : ChildContent
  required : Bool
  default : Option Json
  deriving DecidableEq, Inhabited

structure TextPlan where
  property : String
  kind : ScalarKind
  required : Bool
  deriving DecidableEq, Repr, Inhabited

/-- An object as an element; `name` is its name at the root of a document. -/
structure ElementPlan where
  schema : SchemaId
  typeName : String
  name : String
  attributes : List AttributePlan
  children : List ChildPlan
  text : Option TextPlan
  deriving DecidableEq, Inhabited

/-- Bodies without structure. -/
inductive RawFormat where
  | binary
  | text
  deriving DecidableEq, Repr, Inhabited

def RawFormat.name : RawFormat → String
  | binary => "binary"
  | text => "text"

inductive WirePlan where
  | object (plan : ObjectPlan)
  | hierarchy (plan : HierarchyPlan)
  /-- A value that is no object of its own. -/
  | value (plan : ValuePlan)
  | element (plan : ElementPlan)
  | raw (format : RawFormat)
  deriving DecidableEq, Inhabited

namespace WirePlan

/-- The wire format a plan belongs to; raw bodies have none. -/
def format : WirePlan → Option WireFormat
  | element _ => some .xml
  | raw _ => none
  | _ => some .json

end WirePlan

end ApiContract
