/-!
Element trees and their written form. An element has attributes, an optional text and child
elements; its text stands before its children. Five characters are written as references, in
texts and in attribute values alike; names are written as they are.
-/

namespace ApiContract.Xml

inductive Element where
  | mk (name : String) (attributes : List (String × String)) (text : Option String)
      (children : List Element)
  deriving Inhabited

namespace Element

def name : Element → String
  | mk name _ _ _ => name

def attributes : Element → List (String × String)
  | mk _ attributes _ _ => attributes

def text? : Element → Option String
  | mk _ _ text _ => text

def children : Element → List Element
  | mk _ _ _ children => children

/-- The text of an element, nothing where it has none. -/
def content (element : Element) : String := element.text?.getD ""

def child? (element : Element) (name : String) : Option Element :=
  element.children.find? (·.name == name)

/-- The children of one name, in order. -/
def childrenNamed (element : Element) (name : String) : List Element :=
  element.children.filter (·.name == name)

mutual

/-- Levels of nesting. -/
def depth : Element → Nat
  | mk _ _ _ children => depthOfChildren children + 1

def depthOfChildren : List Element → Nat
  | [] => 0
  | child :: rest => max child.depth (depthOfChildren rest)

end

end Element

def escapeChar (c : Char) : List Char :=
  match c with
  | '<' => "&lt;".toList
  | '>' => "&gt;".toList
  | '&' => "&amp;".toList
  | '\'' => "&apos;".toList
  | '"' => "&quot;".toList
  | c => [c]

def escape (text : String) : String := String.ofList (text.toList.flatMap escapeChar)

def attributeText (entry : String × String) : String :=
  " " ++ entry.1 ++ "=\"" ++ escape entry.2 ++ "\""

mutual

/-- An element without text and children is one empty tag. -/
def Element.render : Element → String
  | .mk name attributes text children =>
      let start := "<" ++ name ++ String.join (attributes.map attributeText)
      match text, children with
      | none, [] => start ++ "/>"
      | text, children =>
          start ++ ">" ++ escape (text.getD "") ++ renderAll children ++ "</" ++ name ++ ">"

def renderAll : List Element → String
  | [] => ""
  | child :: rest => child.render ++ renderAll rest

end

def declaration : String := "<?xml version=\"1.0\" encoding=\"utf-8\"?>"

/-- A document: the declaration and the root, with no layout. -/
def document (root : Element) : String := declaration ++ root.render

end ApiContract.Xml
