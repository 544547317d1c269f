import ApiContract.Failure
import ApiContract.Text.CharClass
import ApiContract.Xml.Element
import ApiContract.Xml.Event

/-!
Element trees from events. Whether the text of an element counts is decided when the element
closes: blank text beside child elements is layout. Text, comments and instructions outside the
root do not matter.
-/

namespace ApiContract.Xml

/-- An element whose end has not come yet; its children are in reverse. -/
structure OpenElement where
  name : String
  attributes : List (String × String)
  text : Option String
  children : List Element

namespace OpenElement

def appendText (element : OpenElement) (content : String) : OpenElement :=
  { element with text := some (element.text.getD "" ++ content) }

/-- Blank text beside child elements is dropped. -/
def close (element : OpenElement) : Element :=
  let layout := !element.children.isEmpty && (element.text.getD "").toList.all Text.isBlank
  .mk element.name element.attributes (if layout then none else element.text)
    element.children.reverse

end OpenElement

/-- What has been read: the open elements, the innermost first, and the root once it is closed. -/
structure Reading where
  stack : List OpenElement := []
  root : Option Element := none

namespace Reading

/-- Puts a finished element where it belongs. -/
def place (reading : Reading) (element : Element) : Except ValueError Reading :=
  match reading.stack with
  | parent :: outer =>
      .ok { reading with
        stack := { parent with children := element :: parent.children } :: outer }
  | [] =>
      if reading.root.isSome then .error (.xml "document has more than one root")
      else .ok { reading with root := some element }

def append (reading : Reading) (content : String) : Reading :=
  match reading.stack with
  | top :: outer => { reading with stack := top.appendText content :: outer }
  | [] => reading

def take (reading : Reading) : Event → Except ValueError Reading
  | .startTag name attributes =>
      .ok { reading with stack := ⟨name, attributes, none, []⟩ :: reading.stack }
  | .emptyTag name attributes => reading.place (.mk name attributes none [])
  | .endTag name =>
      match reading.stack with
      | top :: outer =>
          if top.name = name then { reading with stack := outer }.place top.close
          else .error (.xml malformed)
      | [] => .error (.xml malformed)
  | .text content => .ok (reading.append content)
  | .reference name =>
      match resolveReference name.toList with
      | some c => .ok (reading.append (String.ofList [c]))
      | none =>
          if name.toList.head? = some '#' then .error (.xml malformed)
          else .error (.xml ("unknown entity &" ++ name ++ ";"))

/-- Takes all events up to the first that is no markup. -/
def takeAll (reading : Reading) : List (Option Event) → Except ValueError Reading
  | [] => .ok reading
  | none :: _ => .error (.xml malformed)
  | some event :: rest => do
      let reading ← reading.take event
      reading.takeAll rest

def finish (reading : Reading) : Except ValueError Element :=
  if !reading.stack.isEmpty then .error (.xml "document ended inside an element")
  else
    match reading.root with
    | some root => .ok root
    | none => .error (.xml "document has no root element")

end Reading

/-- The element tree of a document. -/
def parse (text : String) : Except ValueError Element := do
  let reading ← Reading.takeAll {} (events text)
  reading.finish

end ApiContract.Xml
