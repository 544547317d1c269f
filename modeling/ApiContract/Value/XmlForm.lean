import ApiContract.Value.JsonForm
import ApiContract.Xml.Reader

/-!
Values in XML documents. A record becomes an element tree, which is written without layout; reading
parses the document into a tree and interprets that. An empty list without a wrapper and an empty
optional text leave nothing in the document, so they are read back as absent.
-/

namespace ApiContract.XmlForm

open JsonForm (nestedPlan)
open Xml (Element)

def notXml : ValueError := .xml "plan does not describe an XML document"

/-- The element plan of a nested model. -/
def nestedElement (model : Model) (id : SchemaId) : Planning ValueError ElementPlan := do
  match ← nestedPlan model id .xml with
  | .element plan => pure plan
  | _ => .fail notXml

/-- A field that has a value. -/
def present (fields : List (String × Value)) (property : String) : Option Value :=
  match fields.lookup property with
  | some .null => none
  | found => found

def writeAttributes (typeName : String) (fields : List (String × Value)) :
    List AttributePlan → Except ValueError (List (String × String))
  | [] => .ok []
  | planned :: rest =>
      match present fields planned.property with
      | some value => do
          let text ← Scalar.toText planned.kind value
          let attributes ← writeAttributes typeName fields rest
          pure ((planned.name, text) :: attributes)
      | none =>
          if planned.required then .error (.missingProperty typeName planned.property)
          else writeAttributes typeName fields rest

def writeContentText (typeName : String) (fields : List (String × Value)) :
    Option TextPlan → Except ValueError (Option String)
  | none => .ok none
  | some text =>
      match present fields text.property with
      | some value => (Scalar.toText text.kind value).map some
      | none =>
          if text.required then .error (.missingProperty typeName text.property) else .ok none

/-- The elements of one property. -/
def writeChild (writeItem : ItemContent → String → Value → Planning ValueError Element)
    (child : ChildPlan) (value : Value) : Planning ValueError (List Element) :=
  match child.content with
  | .sequence wrapped itemName item =>
      match value with
      | .list items => do
          let built ← items.mapM (writeItem item (if wrapped then itemName else child.name))
          pure (if wrapped then [.mk child.name [] none built] else built)
      | other => .fail (.mismatch "a list" other)
  | .dictionary entry =>
      match value with
      | .map entries => do
          let built ← entries.mapM fun (key, value) => writeItem entry key value
          pure [.mk child.name [] none built]
      | other => .fail (.mismatch "a map" other)
  | .item content => do
      let element ← writeItem content child.name value
      pure [element]

def writeChildren (writeItem : ItemContent → String → Value → Planning ValueError Element)
    (typeName : String) (fields : List (String × Value)) :
    List ChildPlan → Planning ValueError (List Element)
  | [] => pure []
  | child :: rest =>
      match present fields child.property with
      | some value => do
          let elements ← writeChild writeItem child value
          let others ← writeChildren writeItem typeName fields rest
          pure (elements ++ others)
      | none =>
          if child.required then .fail (.missingProperty typeName child.property)
          else writeChildren writeItem typeName fields rest

/-- A record as an element; each nested record is one level of `fuel`. -/
def writeElement (model : Model) :
    Nat → ElementPlan → String → Value → Planning ValueError Element
  | 0, _, _, _ => .fail .endless
  | fuel + 1, plan, name, value =>
      let writeItem (content : ItemContent) (name : String) (value : Value) :
          Planning ValueError Element :=
        match content with
        | .value kind => do
            let text ← Scalar.toText kind value
            pure (.mk name [] (some text) [])
        | .model schema => do
            let nested ← nestedElement model schema
            writeElement model fuel nested name value
      match value with
      | .record fields => do
          let attributes ← writeAttributes plan.typeName fields plan.attributes
          let text ← writeContentText plan.typeName fields plan.text
          let children ← writeChildren writeItem plan.typeName fields plan.children
          pure (.mk name attributes text children)
      | other => .fail (.mismatch ("a " ++ plan.typeName ++ " record") other)

/-- Writes a value through a plan as a document. -/
def write (model : Model) (plan : WirePlan) (value : Value) : Planning ValueError String :=
  match plan with
  | .element element => do
      let root ← writeElement model (value.depth + 1) element element.name value
      pure (Xml.document root)
  | _ => .fail notXml

def readAttributes (typeName : String) (element : Element) :
    List AttributePlan → Except ValueError (List (String × Value))
  | [] => .ok []
  | planned :: rest =>
      match element.attributes.lookup planned.name with
      | some text => do
          let value ← Scalar.ofText planned.kind text
          let fields ← readAttributes typeName element rest
          pure ((planned.property, value) :: fields)
      | none =>
          if planned.required then .error (.missingProperty typeName planned.property)
          else readAttributes typeName element rest

/-- The text property; a required one is read from the empty text where there is none. -/
def readContentText (element : Element) :
    Option TextPlan → Except ValueError (List (String × Value))
  | none => .ok []
  | some text =>
      let read (content : String) :=
        (Scalar.ofText text.kind content).map fun value => [(text.property, value)]
      match element.text? with
      | some content => read content
      | none => if text.required then read "" else .ok []

/-- The value of one property, if its elements are there. -/
def readChild (readItem : ItemContent → Element → Planning ValueError Value) (child : ChildPlan)
    (element : Element) : Planning ValueError (Option Value) :=
  match child.content with
  | .sequence true itemName item =>
      match element.child? child.name with
      | some wrapper => do
          let items ← (wrapper.childrenNamed itemName).mapM (readItem item)
          pure (some (.list items))
      | none => pure none
  | .sequence false _ item =>
      let found := element.childrenNamed child.name
      if found.isEmpty && !child.required then pure none
      else do
        let items ← found.mapM (readItem item)
        pure (some (.list items))
  | .dictionary entry =>
      match element.child? child.name with
      | some found => do
          let entries ← found.children.mapM fun child => do
            let value ← readItem entry child
            pure (child.name, value)
          pure (some (.ofEntries entries))
      | none => pure none
  | .item content =>
      match element.child? child.name with
      | some found => do
          let value ← readItem content found
          pure (some value)
      | none => pure none

/-- What an absent child stands for: the declared default of a scalar, or nothing. -/
def absentChild (typeName : String) (child : ChildPlan) :
    Except ValueError (List (String × Value)) :=
  match child.default, child.content with
  | some document, .item (.value kind) =>
      (Scalar.ofJson kind document).map fun value => [(child.property, value)]
  | _, _ =>
      if child.required then .error (.missingProperty typeName child.property) else .ok []

def readChildren (readItem : ItemContent → Element → Planning ValueError Value)
    (typeName : String) (element : Element) :
    List ChildPlan → Planning ValueError (List (String × Value))
  | [] => pure []
  | child :: rest => do
      let found ← match ← readChild readItem child element with
        | some value => pure [(child.property, value)]
        | none => absentChild typeName child
      let fields ← readChildren readItem typeName element rest
      pure (found ++ fields)

/-- The record of an element; each level of elements is one level of `fuel`. -/
def readElement (model : Model) : Nat → ElementPlan → Element → Planning ValueError Value
  | 0, _, _ => .fail .endless
  | fuel + 1, plan, element => do
      let readItem (content : ItemContent) (element : Element) : Planning ValueError Value :=
        match content with
        | .value kind => .lift (Scalar.ofText kind element.content)
        | .model schema => do
            let nested ← nestedElement model schema
            readElement model fuel nested element
      let attributes ← readAttributes plan.typeName element plan.attributes
      let text ← readContentText element plan.text
      let children ← readChildren readItem plan.typeName element plan.children
      pure (.ofFields (attributes ++ text ++ children))

/-- Reads a document through a plan. -/
def read (model : Model) (plan : WirePlan) (text : String) : Planning ValueError Value :=
  match plan with
  | .element root => do
      let document ← Xml.parse text
      if document.name = root.name then readElement model document.depth root document
      else
        .fail (.xml
          ("expected root element <" ++ root.name ++ ">, found <" ++ document.name ++ ">"))
  | _ => .fail notXml

end ApiContract.XmlForm
