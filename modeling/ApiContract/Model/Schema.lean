import ApiContract.Json.Printer

/-!
Schemas: the shapes of all values that cross the wire. A model stores each schema once under its
id and refers to it by id everywhere else.
-/

namespace ApiContract

/-- Two references with equal ids denote the same schema. -/
abbrev SchemaId := String

inductive PrimitiveKind where
  | string | boolean | int32 | int64 | float32 | float64 | date | dateTime | duration | uuid | uri
  | bytes | any
  deriving DecidableEq, Repr, Inhabited

namespace PrimitiveKind

def all : List PrimitiveKind :=
  [.string, .boolean, .int32, .int64, .float32, .float64, .date, .dateTime, .duration, .uuid, .uri,
   .bytes, .any]

def name : PrimitiveKind → String
  | string => "string"
  | boolean => "boolean"
  | int32 => "int32"
  | int64 => "int64"
  | float32 => "float32"
  | float64 => "float64"
  | date => "date"
  | dateTime => "date-time"
  | duration => "duration"
  | uuid => "uuid"
  | uri => "uri"
  | bytes => "bytes"
  | any => "any"

def ofName? (text : String) : Option PrimitiveKind := all.find? (·.name == text)

/-- Kinds carried as whole numbers. -/
def isInteger (kind : PrimitiveKind) : Bool := kind matches int32 | int64

/-- Kinds carried as floating-point numbers. -/
def isFloat (kind : PrimitiveKind) : Bool := kind matches float32 | float64

end PrimitiveKind

/-- Refinements of how a primitive is written. `unixTime` counts seconds as an integer. -/
inductive PrimitiveFormat where
  | rfc3339 | rfc1123 | unixTime | base64 | base64Url
  deriving DecidableEq, Repr, Inhabited

namespace PrimitiveFormat

def all : List PrimitiveFormat := [.rfc3339, .rfc1123, .unixTime, .base64, .base64Url]

def name : PrimitiveFormat → String
  | rfc3339 => "rfc3339"
  | rfc1123 => "rfc1123"
  | unixTime => "unix-time"
  | base64 => "base64"
  | base64Url => "base64-url"

def ofName? (text : String) : Option PrimitiveFormat := all.find? (·.name == text)

end PrimitiveFormat

inductive WireFormat where
  | json | xml
  deriving DecidableEq, Repr, Inhabited

namespace WireFormat

def all : List WireFormat := [.json, .xml]

def name : WireFormat → String
  | json => "json"
  | xml => "xml"

def ofName? (text : String) : Option WireFormat := all.find? (·.name == text)

end WireFormat

/-- A declared member of an enum: the name of the generated variant and the raw value. -/
structure EnumValue where
  name : String
  value : Json
  deriving DecidableEq, Inhabited

/-- The raw value as text: strings unquoted, other documents as written compactly. -/
def EnumValue.rawText (member : EnumValue) : String :=
  match member.value with
  | .string text => text
  | other => other.compact

/-- An enumeration of raw values; an extensible one accepts values outside the declared set. -/
structure EnumType where
  name : String
  description : Option String := none
  values : List EnumValue
  extensible : Bool := false
  underlying : PrimitiveKind := .string
  deriving DecidableEq, Inhabited

/-- Where a property goes in an element: an attribute, the text, or children. -/
structure XmlPlacement where
  name : Option String := none
  asAttribute : Bool := false
  wrapped : Bool := false
  asText : Bool := false
  itemName : Option String := none
  deriving DecidableEq, Inhabited

structure Property where
  name : String
  serializedName : String
  schema : SchemaId
  required : Bool := false
  nullable : Bool := false
  defaultValue : Option Json := none
  readOnly : Bool := false
  description : Option String := none
  xml : Option XmlPlacement := none
  deriving DecidableEq, Inhabited

namespace Property

/-- A required property whose wire name is its name. -/
def mandatory (name : String) (schema : SchemaId) : Property :=
  { name, serializedName := name, schema, required := true }

def optional (name : String) (schema : SchemaId) : Property :=
  { mandatory name schema with required := false }

end Property

/-- The element name of an object that is the root of a document. -/
structure XmlRoot where
  name : Option String := none
  deriving DecidableEq, Inhabited

/-- An object, possibly in a polymorphic hierarchy: its root declares `discriminator`, the wire name
of the property that selects the variant, and lists its direct `derived` schemas; each derived
schema names its `base`. -/
structure ObjectType where
  name : String
  description : Option String := none
  properties : List Property := []
  discriminator : Option String := none
  discriminatorValue : Option String := none
  base : Option SchemaId := none
  derived : List SchemaId := []
  xml : Option XmlRoot := none
  deriving DecidableEq, Inhabited

namespace ObjectType

/-- Whether the object roots a hierarchy or belongs to one. -/
def isPolymorphic (object : ObjectType) : Bool :=
  object.discriminator.isSome || object.base.isSome || !object.derived.isEmpty

def property? (object : ObjectType) (name : String) : Option Property :=
  object.properties.find? (·.name == name)

/-- The value that selects this object among the variants: the declared one, else its name. -/
def variantValue (object : ObjectType) : String := object.discriminatorValue.getD object.name

/-- The element name of the object as a document root. -/
def rootName (object : ObjectType) : String :=
  (object.xml.bind (·.name)).getD object.name

end ObjectType

inductive Schema where
  | primitive (kind : PrimitiveKind) (format : Option PrimitiveFormat)
  | enumeration (type : EnumType)
  | object (type : ObjectType)
  | array (element : SchemaId)
  | dictionary (value : SchemaId)
  /-- An existing type, referred to by its path. -/
  | framework (typePath : String)
  deriving DecidableEq, Inhabited

namespace Schema

def object? : Schema → Option ObjectType
  | object type => some type
  | _ => none

def primitiveKind? : Schema → Option PrimitiveKind
  | primitive kind _ => some kind
  | _ => none

end Schema

end ApiContract
