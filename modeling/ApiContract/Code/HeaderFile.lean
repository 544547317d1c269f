import ApiContract.Code.Conversion
import ApiContract.Code.ModelFile
import ApiContract.Dispatch.Basic

/-!
The generated file of the headers of a response: a struct with an optional field for each header.
-/

namespace ApiContract

namespace HeaderPlan

/-- The declaration of a header's field, and the code that reads it. -/
def fieldCode (binding : HeaderBinding) : Except GenerationError (Code × Code) := do
  let name := Naming.fieldName binding.field
  let type ← binding.type.type.code
  let declared := Code.write "$doc pub $name: Option<$type>,"
    [("doc", Code.doc (" The `" ++ binding.header ++ "` response header.")),
     ("name", Code.word name), ("type", type)]
  let read := Code.write "$name: response.header($header).map(|text| $parse).transpose()?,"
    [("name", Code.ident name), ("header", Code.text binding.header),
     ("parse", binding.kind.parseCode (Code.word "text") binding.header)]
  pure (declared, read)

/-- The file of the headers of a response. -/
def file (plan : HeaderPlan) : Except GenerationError ModelFile := do
  let fields ← plan.fields.mapM fieldCode
  let code := Code.write r#"
    /// Headers read from a response; absent headers are `None`.
    #[derive(Debug, Clone, Default, PartialEq)]
    pub struct $name { $fields }
    impl $name {
      /// Extracts the declared headers present on a response.
      ///
      /// ## Errors
      ///
      /// Returns `ApiError::InvalidValue` when a header does not parse.
      pub fn from_response(response: &crate::shared::RawResponse) -> Result<Self, crate::shared::ApiError> {
        Ok(Self { $reads })
      }
    }"#
    [("name", Code.ident plan.typeName),
     ("fields", Code.sequence (fields.map (·.1))), ("reads", Code.sequence (fields.map (·.2)))]
  pure { module := Naming.fieldName plan.typeName, exports := [plan.typeName], code }

end HeaderPlan

end ApiContract
