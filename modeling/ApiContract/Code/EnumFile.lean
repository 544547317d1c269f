import ApiContract.Code.Conversion
import ApiContract.Code.ModelFile

/-!
The generated file of an enumeration: an enum where the declared values are all there are, a newtype
with constants where others may come.
-/

namespace ApiContract

namespace EnumFile

/-- A declared member of an enum as the generated code names it. -/
structure Member where
  /-- The case of a closed enum. -/
  caseName : String
  /-- The constant of an extensible one. -/
  constName : String
  raw : String
  deriving DecidableEq, Repr, Inhabited

def member (value : EnumValue) : Member where
  caseName := Naming.typeName value.name
  constName := String.ofList ((Naming.fieldName value.name).toList.map Char.toUpper)
  raw := value.rawText

/-- The number of a member of an enum that carries integers. -/
def number (enumName : String) (member : Member) : Except GenerationError Int64 :=
  match Scalar.readInt64 member.raw with
  | some n => .ok n
  | none =>
      .error (.code (enumName ++ " declares '" ++ member.raw ++ "' but carries integers"))

/-- A template once for each member. -/
def each (members : List (Member × Code)) (template : String) : Code :=
  Code.sequence (members.map fun (member, value) => Code.write template
    [("case", Code.ident member.caseName), ("const", Code.word member.constName),
     ("raw", Code.text member.raw), ("value", value)])

/-- A closed enum carried as texts, or as integers. -/
def closedCode (parts : List (String × Code)) (isInteger : Bool)
    (members : List (Member × Code)) : Code :=
  let derives := Code.plain (if isInteger then
      "#[derive(Debug, Clone, Copy, PartialEq, Eq, Hash)]"
    else
      "#[derive(Debug, Clone, Copy, PartialEq, Eq, Hash, serde::Serialize, serde::Deserialize)]")
  let cases := each members (if isInteger then "$case," else "#[serde(rename = $raw)] $case,")
  let integers := if !isInteger then [] else Code.write r#"
    impl serde::Serialize for $name {
      fn serialize<S: serde::Serializer>(&self, serializer: S) -> Result<S::Ok, S::Error> {
        let value = match self { $writes };
        serializer.serialize_i64(value)
      }
    }
    impl<'de> serde::Deserialize<'de> for $name {
      fn deserialize<D: serde::Deserializer<'de>>(deserializer: D) -> Result<Self, D::Error> {
        let value = <i64 as serde::Deserialize>::deserialize(deserializer)?;
        match value {
          $reads
          other => Err(serde::de::Error::custom(format!(
            "{} is not a known {} value",
            other, $text
          ))),
        }
      }
    }"# (("writes", each members "Self::$case => $value,") ::
         ("reads", each members "$value => Ok(Self::$case),") :: parts)
  Code.write r#"
    $doc
    $derives
    pub enum $name { $cases }
    impl $name {
      /// Returns the wire text of this value.
      pub fn as_str(&self) -> &'static str {
        match self { $texts }
      }
    }
    impl std::fmt::Display for $name {
      fn fmt(&self, f: &mut std::fmt::Formatter<'_>) -> std::fmt::Result {
        f.write_str(self.as_str())
      }
    }
    impl std::str::FromStr for $name {
      type Err = crate::shared::ApiError;
      fn from_str(s: &str) -> Result<Self, Self::Err> {
        match s {
          $parses
          _ => Err(crate::shared::ApiError::UnknownEnumValue {
            enum_name: $text,
            value: s.to_string(),
          }),
        }
      }
    }
    $integers"#
    (("derives", derives) :: ("cases", cases) :: ("integers", integers) ::
     ("texts", each members "Self::$case => $raw,") ::
     ("parses", each members "$raw => Ok(Self::$case),") :: parts)

/-- An extensible enum carried as text: a newtype with constants. -/
def openTextCode (parts : List (String × Code)) (members : List (Member × Code)) : Code :=
  Code.write r#"
    $doc
    ///
    /// Values outside the known constants are carried unchanged.
    #[derive(Debug, Clone, PartialEq, Eq, Hash, serde::Serialize, serde::Deserialize)]
    #[serde(transparent)]
    pub struct $name(std::borrow::Cow<'static, str>);
    impl $name {
      $constants
      pub fn as_str(&self) -> &str { &self.0 }
    }
    impl From<&str> for $name {
      fn from(value: &str) -> Self { Self(std::borrow::Cow::Owned(value.to_string())) }
    }
    impl From<String> for $name {
      fn from(value: String) -> Self { Self(std::borrow::Cow::Owned(value)) }
    }
    impl std::fmt::Display for $name {
      fn fmt(&self, f: &mut std::fmt::Formatter<'_>) -> std::fmt::Result {
        f.write_str(&self.0)
      }
    }
    impl std::str::FromStr for $name {
      type Err = std::convert::Infallible;
      fn from_str(s: &str) -> Result<Self, Self::Err> { Ok(Self::from(s)) }
    }"#
    (("constants", each members
        "pub const $const: Self = Self(std::borrow::Cow::Borrowed($raw));") :: parts)

/-- An extensible enum carried as an integer. -/
def openIntegerCode (parts : List (String × Code)) (members : List (Member × Code)) : Code :=
  Code.write r#"
    $doc
    ///
    /// Values outside the known constants are carried unchanged.
    #[derive(Debug, Clone, Copy, PartialEq, Eq, Hash, serde::Serialize, serde::Deserialize)]
    #[serde(transparent)]
    pub struct $name(pub i64);
    impl $name { $constants }
    impl std::fmt::Display for $name {
      fn fmt(&self, f: &mut std::fmt::Formatter<'_>) -> std::fmt::Result {
        write!(f, "{}", self.0)
      }
    }
    impl std::str::FromStr for $name {
      type Err = std::num::ParseIntError;
      fn from_str(s: &str) -> Result<Self, Self::Err> { s.trim().parse().map(Self) }
    }"#
    (("constants", each members "pub const $const: Self = Self($value);") :: parts)

end EnumFile

/-- The file of an enum schema. -/
def EnumType.file (type : EnumType) : Except GenerationError ModelFile := do
  let name := Naming.typeName type.name
  let isInteger := type.underlying.isInteger
  let members := type.values.map EnumFile.member
  let members ← members.mapM fun member =>
    if isInteger then do
      let n ← EnumFile.number name member
      pure (member, int64Code n)
    else pure (member, [])
  let parts :=
    [("doc", docComment type.description), ("name", Code.ident name), ("text", Code.text name)]
  let code :=
    if !type.extensible then EnumFile.closedCode parts isInteger members
    else if isInteger then EnumFile.openIntegerCode parts members
    else EnumFile.openTextCode parts members
  pure { module := Naming.fieldName type.name, exports := [name], code }

end ApiContract
