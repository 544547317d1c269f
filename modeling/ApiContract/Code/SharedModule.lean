import ApiContract.Code.Template

/-!
The runtime module of generated crates: the error type, the carriers of requests and responses, the
URI builder, text conversions, adapters for formatted primitives, and an element tree. It is the
same for every model.
-/

namespace ApiContract.SharedModule

/-- The errors that every generated call returns. -/
def errorType : Code := Code.plain r#"
  /// Errors raised while building, sending or reading an API call.
  #[derive(Debug, thiserror::Error)]
  pub enum ApiError {
    /// The HTTP request failed (network error, timeout, etc.).
    #[error("HTTP request failed: {0}")]
    Http(#[from] reqwest::Error),
    #[error("JSON serialization failed: {0}")]
    Json(#[from] serde_json::Error),
    #[error("XML serialization failed: {0}")]
    Xml(String),
    /// The response status is not declared by the operation.
    ///
    /// The body is never deserialized in this case.
    #[error("operation '{operation}' does not handle status {status}")]
    UnhandledStatus {
      operation: &'static str,
      status: u16,
      body: Vec<u8>,
    },
    #[error("invalid value for '{name}': {reason}")]
    InvalidValue { name: String, reason: String },
    #[error("invalid URI '{value}': {reason}")]
    InvalidUri { value: String, reason: String },
    /// A closed enum received a value it does not declare.
    #[error("'{value}' is not a known {enum_name} value")]
    UnknownEnumValue {
      enum_name: &'static str,
      value: String,
    },
    #[error("missing required {what} '{name}'")]
    Missing { what: &'static str, name: String },
  }"#

/-- Requests and responses as generated code carries them, and the function that sends one. -/
def transport : Code := Code.plain r#"
  /// A fully assembled HTTP request.
  #[derive(Debug, Clone, PartialEq, Eq)]
  pub struct RequestParts {
    pub method: &'static str,
    pub uri: String,
    pub headers: Vec<(String, String)>,
    pub body: Option<Vec<u8>>,
  }
  /// A received HTTP response with its body fully read.
  #[derive(Debug, Clone, PartialEq, Eq)]
  pub struct RawResponse {
    pub status: u16,
    pub headers: Vec<(String, String)>,
    pub body: Vec<u8>,
  }
  impl RawResponse {
    /// Returns the first header with a matching name (case-insensitive).
    pub fn header(&self, name: &str) -> Option<&str> {
      self.headers
        .iter()
        .find(|(key, _)| key.eq_ignore_ascii_case(name))
        .map(|(_, value)| value.as_str())
    }
  }
  /// Sends a request and reads the complete response.
  ///
  /// ## Errors
  ///
  /// Returns `ApiError::Http` when the request cannot be sent or the
  /// body cannot be read.
  pub async fn send(client: &reqwest::Client, parts: RequestParts) -> Result<RawResponse, ApiError> {
    let method = reqwest::Method::from_bytes(parts.method.as_bytes()).map_err(|e| {
      ApiError::InvalidValue {
        name: "method".to_string(),
        reason: e.to_string(),
      }
    })?;
    let mut builder = client.request(method, parts.uri.as_str());
    for (name, value) in parts.headers {
      builder = builder.header(name, value);
    }
    if let Some(body) = parts.body {
      builder = builder.body(body);
    }
    let response = builder.send().await?;
    let status = response.status().as_u16();
    let headers = response
      .headers()
      .iter()
      .filter_map(|(name, value)| {
        value
          .to_str()
          .ok()
          .map(|value| (name.as_str().to_string(), value.to_string()))
      })
      .collect();
    let body = response.bytes().await?.to_vec();
    Ok(RawResponse { status, headers, body })
  }"#

/-- The URI under assembly. It takes the steps of call plans one by one. -/
def uriBuilder : Code := Code.plain r#"
  /// URI under assembly; query entries are kept encoded.
  ///
  /// Entries carried by a followed next link replace same-named
  /// operation entries when the URI is finished.
  #[derive(Debug, Clone, Default)]
  pub struct UriBuilder {
    base: String,
    query: Vec<(String, String)>,
    link_query: Vec<(String, String)>,
  }
  impl UriBuilder {
    pub fn new(endpoint: &str) -> Self {
      Self {
        base: endpoint.trim_end_matches('/').to_string(),
        ..Self::default()
      }
    }
    /// Appends route text, collapsing a doubled `/`.
    pub fn append(&mut self, text: &str) {
      if self.base.ends_with('/') && text.starts_with('/') {
        self.base.push_str(&text[1..]);
      } else {
        self.base.push_str(text);
      }
    }
    /// Appends a path value, percent-encoding it when `escape` is set.
    pub fn append_value(&mut self, text: &str, escape: bool) {
      if escape {
        let encoded = utf8_percent_encode(text, PATH_ESCAPE).to_string();
        self.append(&encoded);
      } else {
        self.append(text);
      }
    }
    /// Replaces the endpoint.
    ///
    /// ## Errors
    ///
    /// Returns `ApiError::InvalidUri` if `uri` is not absolute.
    pub fn reset(&mut self, uri: &str) -> Result<(), ApiError> {
      url::Url::parse(uri).map_err(|e| ApiError::InvalidUri {
        value: uri.to_string(),
        reason: e.to_string(),
      })?;
      self.base = uri.trim_end_matches('/').to_string();
      Ok(())
    }
    fn merge_link_query(&mut self, query: &str) {
      for entry in query.split('&').filter(|entry| !entry.is_empty()) {
        let (name, value) = entry.split_once('=').unwrap_or((entry, ""));
        self.link_query.retain(|(existing, _)| existing != name);
        self.link_query.push((name.to_string(), value.to_string()));
      }
    }
    /// Follows a paging link.
    ///
    /// Absolute links replace the URI; relative links are merged into
    /// it, their query entries overriding existing ones.
    pub fn next_link(&mut self, link: &str) -> Result<(), ApiError> {
      if url::Url::parse(link).is_ok() {
        let (base, query) = link.split_once('?').unwrap_or((link, ""));
        self.base = base.to_string();
        self.query.clear();
        self.link_query.clear();
        self.merge_link_query(query);
        return Ok(());
      }
      let (path, query) = link.split_once('?').unwrap_or((link, ""));
      if path.starts_with('/') {
        self.base = match url::Url::parse(&self.base) {
          Ok(current) => format!("{}{}", current.origin().ascii_serialization(), path),
          Err(_) => path.to_string(),
        };
      } else if !path.is_empty() {
        if !self.base.ends_with('/') {
          self.base.push('/');
        }
        self.base.push_str(path);
      }
      self.merge_link_query(query);
      Ok(())
    }
    /// Adds query entries: one joined entry with a delimiter, one
    /// entry per value without.
    pub fn push_query(&mut self, name: &str, texts: Vec<String>, delimiter: Option<&str>, escape: bool) {
      let encode = |text: &str| {
        if escape {
          utf8_percent_encode(text, QUERY_ESCAPE).to_string()
        } else {
          text.to_string()
        }
      };
      let name = encode(name);
      match delimiter {
        Some(delimiter) => {
          let joined = encode(&texts.join(delimiter));
          self.query.push((name, joined));
        }
        None => {
          for text in &texts {
            self.query.push((name.clone(), encode(text)));
          }
        }
      }
    }
    pub fn finish(self) -> String {
      let carried = |name: &str| self.link_query.iter().any(|(existing, _)| existing == name);
      let query: Vec<String> = self
        .query
        .iter()
        .filter(|(name, _)| !carried(name))
        .chain(self.link_query.iter())
        .map(|(name, value)| format!("{}={}", name, value))
        .collect();
      if query.is_empty() {
        return self.base;
      }
      format!("{}?{}", self.base, query.join("&"))
    }
  }"#

/-- Text conversions of the kinds that do not convert themselves. -/
def textHelpers : Code := Code.plain r#"
  pub fn encode_base64(bytes: &[u8]) -> String {
    base64::engine::general_purpose::STANDARD.encode(bytes)
  }
  pub fn encode_base64_url(bytes: &[u8]) -> String {
    base64::engine::general_purpose::URL_SAFE_NO_PAD.encode(bytes)
  }
  pub fn decode_base64(text: &str, what: &str) -> Result<Vec<u8>, ApiError> {
    base64::engine::general_purpose::STANDARD
      .decode(text.trim())
      .map_err(|e| invalid(what, e))
  }
  pub fn decode_base64_url(text: &str, what: &str) -> Result<Vec<u8>, ApiError> {
    base64::engine::general_purpose::URL_SAFE_NO_PAD
      .decode(text.trim().trim_end_matches('='))
      .map_err(|e| invalid(what, e))
  }
  /// Formats a timestamp as an RFC 1123 date, e.g. `Sun, 06 Nov 1994 08:49:37 GMT`.
  pub fn format_rfc1123(value: &chrono::DateTime<chrono::Utc>) -> String {
    value.format("%a, %d %b %Y %H:%M:%S GMT").to_string()
  }
  pub fn parse_rfc1123(text: &str, what: &str) -> Result<chrono::DateTime<chrono::Utc>, ApiError> {
    chrono::DateTime::parse_from_rfc2822(text.trim())
      .map(|value| value.with_timezone(&chrono::Utc))
      .map_err(|e| invalid(what, e))
  }
  pub fn parse_unix_time(text: &str, what: &str) -> Result<chrono::DateTime<chrono::Utc>, ApiError> {
    let seconds: i64 = text.trim().parse().map_err(|e| invalid(what, e))?;
    chrono::DateTime::from_timestamp(seconds, 0)
      .ok_or_else(|| invalid(what, "timestamp out of range"))
  }
  /// Parses wire text with the target type's `FromStr`.
  pub fn parse_text<T>(text: &str, what: &str) -> Result<T, ApiError>
  where
    T: FromStr,
    T::Err: Display,
  {
    text.trim().parse().map_err(|e| invalid(what, e))
  }
  fn invalid(what: &str, reason: impl Display) -> ApiError {
    ApiError::InvalidValue {
      name: what.to_string(),
      reason: reason.to_string(),
    }
  }"#

/-- Encoders and decoders of bodies. -/
def bodyHelpers : Code := Code.plain r#"
  pub fn to_json<T: serde::Serialize>(value: &T) -> Result<Vec<u8>, ApiError> {
    Ok(serde_json::to_vec(value)?)
  }
  pub fn from_json<T: serde::de::DeserializeOwned>(body: &[u8]) -> Result<T, ApiError> {
    Ok(serde_json::from_slice(body)?)
  }
  /// Writes a model as an XML document rooted at `name`.
  pub fn to_xml<T: xml::XmlModel>(value: &T, name: &str) -> Result<Vec<u8>, ApiError> {
    value.to_element(name).write().map(String::into_bytes)
  }
  pub fn from_xml<T: xml::XmlModel>(body: &[u8]) -> Result<T, ApiError> {
    let text = std::str::from_utf8(body).map_err(|e| ApiError::Xml(e.to_string()))?;
    T::from_element(&xml::Element::parse(text)?)
  }"#

/-- An adapter that carries a value as a JSON string. -/
def textAdapter (name type encode decode : String) : Code := Code.write r#"
  pub mod $name {
    pub fn serialize<S: serde::Serializer>(value: &$type, serializer: S) -> Result<S::Ok, S::Error> {
      serializer.serialize_str(&$encode)
    }
    pub fn deserialize<'de, D: serde::Deserializer<'de>>(deserializer: D) -> Result<$type, D::Error> {
      let text: String = serde::Deserialize::deserialize(deserializer)?;
      $decode.map_err(serde::de::Error::custom)
    }
    pub mod option {
      pub fn serialize<S: serde::Serializer>(
        value: &Option<$type>,
        serializer: S,
      ) -> Result<S::Ok, S::Error> {
        match value {
          Some(value) => serializer.serialize_some(&$encode),
          None => serializer.serialize_none(),
        }
      }
      pub fn deserialize<'de, D: serde::Deserializer<'de>>(
        deserializer: D,
      ) -> Result<Option<$type>, D::Error> {
        let text: Option<String> = serde::Deserialize::deserialize(deserializer)?;
        text.map(|text| $decode.map_err(serde::de::Error::custom))
          .transpose()
      }
    }
  }"#
  [("name", Code.plain name), ("type", Code.plain type), ("encode", Code.plain encode),
   ("decode", Code.plain decode)]

/-- Adapters for primitives whose JSON form is not that of their type. -/
def adapters : Code := Code.write r#"
  /// `serde` adapters for primitives with a non-default JSON form.
  pub mod serde_formats {
    $bytes
    $urlBytes
    $rfc1123
    /// Seconds since the epoch, carried as a JSON number.
    pub mod unix_time {
      pub fn serialize<S: serde::Serializer>(
        value: &chrono::DateTime<chrono::Utc>,
        serializer: S,
      ) -> Result<S::Ok, S::Error> {
        serializer.serialize_i64(value.timestamp())
      }
      pub fn deserialize<'de, D: serde::Deserializer<'de>>(
        deserializer: D,
      ) -> Result<chrono::DateTime<chrono::Utc>, D::Error> {
        let seconds: i64 = serde::Deserialize::deserialize(deserializer)?;
        chrono::DateTime::from_timestamp(seconds, 0)
          .ok_or_else(|| serde::de::Error::custom("timestamp out of range"))
      }
      pub mod option {
        pub fn serialize<S: serde::Serializer>(
          value: &Option<chrono::DateTime<chrono::Utc>>,
          serializer: S,
        ) -> Result<S::Ok, S::Error> {
          match value {
            Some(value) => serializer.serialize_some(&value.timestamp()),
            None => serializer.serialize_none(),
          }
        }
        pub fn deserialize<'de, D: serde::Deserializer<'de>>(
          deserializer: D,
        ) -> Result<Option<chrono::DateTime<chrono::Utc>>, D::Error> {
          let seconds: Option<i64> = serde::Deserialize::deserialize(deserializer)?;
          seconds
            .map(|seconds| {
              chrono::DateTime::from_timestamp(seconds, 0)
                .ok_or_else(|| serde::de::Error::custom("timestamp out of range"))
            })
            .transpose()
        }
      }
    }
  }"#
  [("bytes", textAdapter "base64_bytes" "Vec<u8>" "crate::shared::encode_base64(value)"
      "crate::shared::decode_base64(&text, \"bytes\")"),
   ("urlBytes", textAdapter "base64_url" "Vec<u8>" "crate::shared::encode_base64_url(value)"
      "crate::shared::decode_base64_url(&text, \"bytes\")"),
   ("rfc1123", textAdapter "rfc1123" "chrono::DateTime<chrono::Utc>"
      "crate::shared::format_rfc1123(value)"
      "crate::shared::parse_rfc1123(&text, \"date-time\")")]

/-- The element tree, its writer and its reader. -/
def elementTree : Code := Code.plain r#"
  /// A minimal XML element tree used by generated `XmlModel` impls.
  pub mod xml {
    use quick_xml::events::{BytesDecl, BytesEnd, BytesStart, BytesText, Event};
    use quick_xml::{Reader, Writer};
    use super::ApiError;
    /// Models carried as XML documents.
    pub trait XmlModel: Sized {
      /// Builds the element for this value under the given name.
      fn to_element(&self, name: &str) -> Element;
      fn from_element(element: &Element) -> Result<Self, ApiError>;
    }
    #[derive(Debug, Clone, Default, PartialEq, Eq)]
    pub struct Element {
      pub name: String,
      pub attributes: Vec<(String, String)>,
      pub children: Vec<Element>,
      pub text: Option<String>,
    }
    fn xml_error(err: impl std::fmt::Display) -> ApiError {
      ApiError::Xml(err.to_string())
    }
    impl Element {
      pub fn named(name: &str) -> Self {
        Self {
          name: name.to_string(),
          ..Self::default()
        }
      }
      pub fn with_text(mut self, text: String) -> Self {
        self.text = Some(text);
        self
      }
      pub fn attribute(&self, name: &str) -> Option<&str> {
        self.attributes
          .iter()
          .find(|(key, _)| key == name)
          .map(|(_, value)| value.as_str())
      }
      pub fn child(&self, name: &str) -> Option<&Element> {
        self.children.iter().find(|child| child.name == name)
      }
      pub fn children_named<'a>(&'a self, name: &'a str) -> impl Iterator<Item = &'a Element> + 'a {
        self.children.iter().filter(move |child| child.name == name)
      }
      pub fn text(&self) -> &str {
        self.text.as_deref().unwrap_or_default()
      }
      /// Returns a required child element.
      pub fn required_child(&self, name: &str) -> Result<&Element, ApiError> {
        self.child(name).ok_or_else(|| ApiError::Missing {
          what: "element",
          name: name.to_string(),
        })
      }
      /// Returns a required attribute.
      pub fn required_attribute(&self, name: &str) -> Result<&str, ApiError> {
        self.attribute(name).ok_or_else(|| ApiError::Missing {
          what: "attribute",
          name: name.to_string(),
        })
      }
      /// Writes the element as a complete document.
      pub fn write(&self) -> Result<String, ApiError> {
        let mut writer = Writer::new(Vec::new());
        writer
          .write_event(Event::Decl(BytesDecl::new("1.0", Some("utf-8"), None)))
          .map_err(xml_error)?;
        self.write_to(&mut writer)?;
        String::from_utf8(writer.into_inner()).map_err(xml_error)
      }
      fn write_to(&self, writer: &mut Writer<Vec<u8>>) -> Result<(), ApiError> {
        let mut start = BytesStart::new(self.name.as_str());
        for (key, value) in &self.attributes {
          start.push_attribute((key.as_str(), value.as_str()));
        }
        if self.children.is_empty() && self.text.is_none() {
          return writer.write_event(Event::Empty(start)).map_err(xml_error);
        }
        writer.write_event(Event::Start(start)).map_err(xml_error)?;
        if let Some(text) = &self.text {
          writer
            .write_event(Event::Text(BytesText::new(text)))
            .map_err(xml_error)?;
        }
        for child in &self.children {
          child.write_to(writer)?;
        }
        writer
          .write_event(Event::End(BytesEnd::new(self.name.as_str())))
          .map_err(xml_error)
      }
      /// Parses a document into its root element.
      pub fn parse(xml: &str) -> Result<Element, ApiError> {
        let mut reader = Reader::from_str(xml);
        let mut stack: Vec<Element> = Vec::new();
        let mut root = None;
        loop {
          match reader.read_event().map_err(xml_error)? {
            Event::Start(start) => stack.push(start_element(&start)?),
            Event::Empty(start) => {
              let element = start_element(&start)?;
              close(&mut stack, &mut root, element)?;
            }
            Event::End(_) => {
              let mut element = stack
                .pop()
                .ok_or_else(|| ApiError::Xml("unbalanced end tag".to_string()))?;
              if !element.children.is_empty()
                && element.text.as_deref().is_some_and(|t| t.trim().is_empty())
              {
                element.text = None;
              }
              close(&mut stack, &mut root, element)?;
            }
            Event::Text(text) => append_text(&mut stack, &String::from_utf8_lossy(&text)),
            Event::CData(data) => append_text(&mut stack, &String::from_utf8_lossy(&data)),
            Event::GeneralRef(reference) => {
              let resolved = match reference.resolve_char_ref().map_err(xml_error)? {
                Some(ch) => ch.to_string(),
                None => {
                  let name = reference.decode().map_err(xml_error)?;
                  quick_xml::escape::resolve_predefined_entity(&name)
                    .map(str::to_string)
                    .ok_or_else(|| ApiError::Xml(format!("unknown entity &{};", name)))?
                }
              };
              append_text(&mut stack, &resolved);
            }
            Event::Eof => break,
            _ => {}
          }
        }
        if !stack.is_empty() {
          return Err(ApiError::Xml("document ended inside an element".to_string()));
        }
        root.ok_or_else(|| ApiError::Xml("document has no root element".to_string()))
      }
    }
    fn start_element(start: &BytesStart<'_>) -> Result<Element, ApiError> {
      let mut element = Element::named(&String::from_utf8_lossy(start.name().as_ref()));
      for attribute in start.attributes() {
        let attribute = attribute.map_err(xml_error)?;
        let key = String::from_utf8_lossy(attribute.key.as_ref()).into_owned();
        let value = attribute.unescape_value().map_err(xml_error)?.into_owned();
        element.attributes.push((key, value));
      }
      Ok(element)
    }
    fn close(stack: &mut [Element], root: &mut Option<Element>, element: Element) -> Result<(), ApiError> {
      match stack.last_mut() {
        Some(parent) => parent.children.push(element),
        None if root.is_none() => *root = Some(element),
        None => return Err(ApiError::Xml("document has more than one root".to_string())),
      }
      Ok(())
    }
    fn append_text(stack: &mut [Element], text: &str) {
      if let Some(top) = stack.last_mut() {
        top.text.get_or_insert_with(String::new).push_str(text);
      }
    }
  }"#

/-- What stands in front of all sections. -/
def preamble : Code := Code.plain r#"
  //! Runtime support shared by every generated API module.
  use std::fmt::Display;
  use std::str::FromStr;
  use base64::Engine as _;
  use percent_encoding::{AsciiSet, NON_ALPHANUMERIC, utf8_percent_encode};
  /// Characters escaped in query names and values.
  pub const QUERY_ESCAPE: &AsciiSet = &NON_ALPHANUMERIC
    .remove(b'-')
    .remove(b'.')
    .remove(b'_')
    .remove(b'~')
    .remove(b',');
  /// Characters escaped in path segment values.
  pub const PATH_ESCAPE: &AsciiSet = &NON_ALPHANUMERIC
    .remove(b'-')
    .remove(b'.')
    .remove(b'_')
    .remove(b'~');"#

/-- The whole module. -/
def module : Code :=
  Code.sequence
    [preamble, errorType, transport, uriBuilder, textHelpers, bodyHelpers, adapters, elementTree]

end ApiContract.SharedModule
