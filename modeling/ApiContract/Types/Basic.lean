import ApiContract.Model.Basic

/-!
The types that carry schemas in generated code. A type knows the schema it stands for where that
is a model or an enum; a use of a type says whether the value may be missing.
-/

namespace ApiContract

/-- The type that carries a primitive kind. -/
def PrimitiveKind.rustName : PrimitiveKind → String
  | string | duration => "String"
  | boolean => "bool"
  | int32 => "i32"
  | int64 => "i64"
  | float32 => "f32"
  | float64 => "f64"
  | date => "chrono::NaiveDate"
  | dateTime => "chrono::DateTime<chrono::Utc>"
  | uuid => "uuid::Uuid"
  | uri => "url::Url"
  | bytes => "Vec<u8>"
  | any => "serde_json::Value"

/-- A schema below a hierarchy root, with the value that selects it. -/
structure Variant where
  schema : SchemaId
  typeName : String
  value : String
  deriving DecidableEq, Repr, Inhabited

/-- The place of an object in a polymorphic hierarchy. -/
inductive HierarchyRole where
  | plain
  /-- A root: the wire name of its discriminator and all variants below it. -/
  | base (discriminator : String) (variants : List Variant)
  /-- Below a root: the root and the value that selects this object. -/
  | derived (base : SchemaId) (value : String)
  deriving DecidableEq, Repr, Inhabited

inductive RustType where
  | primitive (kind : PrimitiveKind)
  | enumeration (name : String) (schema : SchemaId) (extensible : Bool)
  | model (name : String) (schema : SchemaId) (role : HierarchyRole)
  | collection (element : RustType)
  | dictionary (value : RustType)
  /-- An opaque reference to an existing type. -/
  | framework (path : String)
  deriving DecidableEq, Repr, Inhabited

namespace RustType

def name : RustType → String
  | primitive kind => kind.rustName
  | enumeration name _ _ => name
  | model name _ _ => name
  | collection element => "Vec<" ++ element.name ++ ">"
  | dictionary value => "std::collections::HashMap<String, " ++ value.name ++ ">"
  | framework path => path

/-- The schema of a model or an enum. -/
def schema? : RustType → Option SchemaId
  | enumeration _ schema _ => some schema
  | model _ schema _ => some schema
  | _ => none

def primitive? : RustType → Option PrimitiveKind
  | primitive kind => some kind
  | _ => none

end RustType

/-- A type where it is used: a nullable use may have no value. -/
structure TypeUse where
  type : RustType
  nullable : Bool
  deriving DecidableEq, Repr, Inhabited

/-- The written type, optional where the use is nullable. -/
def TypeUse.rustName (used : TypeUse) : String :=
  if used.nullable then "Option<" ++ used.type.name ++ ">" else used.type.name

end ApiContract
