import ApiContract.Document.Node
import ApiContract.Yaml.Token

/-!
YAML documents. A text holds exactly one; what its aliases stand for is put in their place. Its
containers nest at most 128 deep, and what nests deeper can only be passed over.
-/

namespace ApiContract.Yaml

open Document (Node)

/-- The part that the tags of the core schema share. -/
def coreStart : String := "tag:yaml.org,2002:"

def Tag.ofBytes? (bytes : List UInt8) : Option Tag :=
  (String.fromUTF8? ⟨bytes.toArray⟩).map fun text =>
    match text.toList with
    | '!' :: rest => .own (String.ofList rest)
    | chars =>
        if coreStart.toList.isPrefixOf chars then
          .core (String.ofList (chars.drop coreStart.length))
        else .other

/-- A node under an anchor, while it is read and afterwards, with the count of the aliases that were
followed for it. -/
structure Anchor where
  name : String
  node : Option Node
  weight : Nat

/-- The tokens ahead, what tags and aliases mean, and how many aliases were followed and nodes
read. -/
structure Building where
  tokens : List Token
  handles : List (String × List UInt8) := []
  anchors : List Anchor := []
  followed : Nat := 0
  nodes : Nat := 0

/-- Reads from the tokens; there is one kind of failure. -/
abbrev Build := StateT Building Option

namespace Build

def peek : Build (Option Token) := return (← get).tokens.head?

def skip : Build Unit := modify fun s => { s with tokens := s.tokens.tail }

/-- Passes over a token where it comes next. -/
def accept (token : Token) : Build Bool := do
  if (← peek) == some token then
    skip
    return true
  else return false

def absent : Node := .scalar { text := "" }

/-- The first handle counts, so those of a document go before the standard ones. -/
def standardHandles : List (String × List UInt8) :=
  [("!", Text.utf8 "!"), ("!!", Text.utf8 coreStart)]

def tagOf (handle : String) (suffix : List UInt8) : Build Tag := do
  if handle.isEmpty then Tag.ofBytes? suffix
  else
    match ((← get).handles ++ standardHandles).lookup handle with
    | some start => Tag.ofBytes? (start ++ suffix)
    | none => failure

def takeAnchor : Build (Option String) := do
  match ← peek with
  | some (.anchor name) => do
      skip
      return some name
  | _ => return none

def takeTag : Build (Option Tag) := do
  match ← peek with
  | some (.tag handle suffix) => do
      skip
      return some (← tagOf handle suffix)
  | _ => return none

/-- The anchor and the tag in front of a node, in either order. -/
def properties : Build (Option String × Option Tag) := do
  match ← takeAnchor with
  | some name => return (some name, ← takeTag)
  | none => do
      let tag ← takeTag
      match tag with
      | none => return (none, none)
      | some _ => return (← takeAnchor, tag)

/-- The node that an alias stands for. One inside the node itself leads in a circle. -/
def follow (name : String) : Build Node := do
  match (← get).anchors.find? (·.name == name) with
  | none => failure
  | some anchor => do
      modify fun s => { s with followed := s.followed + 1 + anchor.weight }
      return anchor.node.getD .unreadable

def anchored (name : Option String) (read : Build Node) : Build Node := do
  match name with
  | none => read
  | some name => do
      let before := (← get).followed
      modify fun s => { s with anchors := ⟨name, none, 0⟩ :: s.anchors }
      let node ← read
      modify fun s =>
        { s with anchors := ⟨name, some node, s.followed - before⟩ :: s.anchors }
      return node

/-- A scalar under a tag; the tag that is a mark alone says nothing of a scalar that is there. -/
def scalarOf (tag : Option Tag) (text : String) (style : Style) : Node :=
  match tag with
  | some (.own "") => .scalar { text, style }
  | tag => .scalar { text, style, tag }

def collectionOf (tag : Option Tag) (collection : Node) : Node :=
  match tag with
  | some (.own _) => .tagged collection
  | _ => collection

mutual

/-- A node; `block` says whether a block may open here, and `bare` whether the items of one may
stand here at the column of the block around them. -/
def node (block bare : Bool) : Nat → Build Node
  | 0 => failure
  | fuel + 1 => do
      modify fun s => { s with nodes := s.nodes + 1 }
      match ← peek with
      | some (.alias name) => do
          skip
          follow name
      | _ => do
          let (name, tag) ← properties
          anchored name do
            match ← peek with
            | some (.scalar text style) => do
                skip
                return scalarOf tag text style
            | some .flowSequence => do
                skip
                return collectionOf tag (.sequence (← flowItems fuel))
            | some .flowMapping => do
                skip
                return collectionOf tag (.mapping (← flowMembers fuel))
            | some .item =>
                if bare then return collectionOf tag (.sequence (← bareItems fuel))
                else if name.isSome || tag.isSome then return emptyScalar tag
                else failure
            | some .blockSequence =>
                if block then do
                  skip
                  return collectionOf tag (.sequence (← blockItems fuel))
                else if name.isSome || tag.isSome then return emptyScalar tag
                else failure
            | some .blockMapping =>
                if block then do
                  skip
                  return collectionOf tag (.mapping (← blockMembers fuel))
                else if name.isSome || tag.isSome then return emptyScalar tag
                else failure
            | _ => if name.isSome || tag.isSome then return emptyScalar tag else failure
where
  emptyScalar (tag : Option Tag) : Node := .scalar { text := "", tag }

/-- A node unless one of some tokens comes next. -/
def nodeUnless (stops : List Token) (block bare : Bool) : Nat → Build Node
  | 0 => failure
  | fuel + 1 => do
      match ← peek with
      | some token => if stops.contains token then return absent else node block bare fuel
      | none => node block bare fuel

/-- The items of a block behind its opening. -/
def blockItems : Nat → Build (List Node)
  | 0 => failure
  | fuel + 1 => do
      if ← accept .blockEnd then return []
      else if ← accept .item then do
        let item ← nodeUnless [.item, .blockEnd] true false fuel
        return item :: (← blockItems fuel)
      else failure

/-- Items that stand at the column of the mapping around them. -/
def bareItems : Nat → Build (List Node)
  | 0 => failure
  | fuel + 1 => do
      if ← accept .item then do
        let item ← nodeUnless [.item, .key, .value, .blockEnd] true false fuel
        return item :: (← bareItems fuel)
      else return []

/-- The members of a block behind its opening. -/
def blockMembers : Nat → Build (List (Node × Node))
  | 0 => failure
  | fuel + 1 => do
      if ← accept .blockEnd then return []
      else if ← accept .key then do
        let key ← nodeUnless [.key, .value, .blockEnd] true true fuel
        let value ←
          if ← accept .value then nodeUnless [.key, .value, .blockEnd] true true fuel
          else pure absent
        return (key, value) :: (← blockMembers fuel)
      else failure

/-- The items of a flow collection; one with a key is a mapping of one member. -/
def flowItems : Nat → Build (List Node)
  | 0 => failure
  | fuel + 1 => do
      if ← accept .flowSequenceEnd then return []
      else if ← accept .key then do
        let member ← soleMember fuel
        return .mapping [member] :: (← moreItems fuel)
      else do
        let item ← node false false fuel
        return item :: (← moreItems fuel)

def moreItems : Nat → Build (List Node)
  | 0 => failure
  | fuel + 1 => do
      if ← accept .flowSequenceEnd then return []
      else if ← accept .comma then flowItems fuel
      else failure

/-- The member of a mapping without braces. The token behind an absent key is passed over. -/
def soleMember : Nat → Build (Node × Node)
  | 0 => failure
  | fuel + 1 => do
      let next ← peek
      let isAbsent := next == some .value || next == some .comma || next == some .flowSequenceEnd
      let key ← if isAbsent then do
          skip
          pure absent
        else node false false fuel
      let value ←
        if ← accept .value then nodeUnless [.comma, .flowSequenceEnd] false false fuel
        else pure absent
      return (key, value)

/-- The members of a flow collection; one without a colon has a null value. -/
def flowMembers : Nat → Build (List (Node × Node))
  | 0 => failure
  | fuel + 1 => do
      if ← accept .flowMappingEnd then return []
      else if ← accept .key then do
        let key ← nodeUnless [.value, .comma, .flowMappingEnd] false false fuel
        let value ←
          if ← accept .value then nodeUnless [.comma, .flowMappingEnd] false false fuel
          else pure absent
        return (key, value) :: (← moreMembers fuel)
      else do
        let key ← node false false fuel
        return (key, absent) :: (← moreMembers fuel)

def moreMembers : Nat → Build (List (Node × Node))
  | 0 => failure
  | fuel + 1 => do
      if ← accept .flowMappingEnd then return []
      else if ← accept .comma then flowMembers fuel
      else failure

end

/-- The directives in front of a document: at most one version, of a known kind, and no handle
twice. -/
def directives : Nat → (versions : Nat) → Build Unit
  | 0, _ => failure
  | fuel + 1, versions => do
      match ← peek with
      | some (.version major minor) =>
          if versions = 0 ∧ major = 1 ∧ (minor = 1 ∨ minor = 2) then do
            skip
            directives fuel 1
          else failure
      | some (.tagHandle handle start) =>
          if ((← get).handles.lookup handle).isSome then failure
          else do
            skip
            modify fun s => { s with handles := s.handles ++ [(handle, start)] }
            directives fuel versions
      | _ => return ()

def isDirective : Token → Bool
  | .version _ _ | .tagHandle _ _ => true
  | _ => false

def skipEnds : Nat → Build Unit
  | 0 => return ()
  | fuel + 1 => do if ← accept .documentEnd then skipEnds fuel

/-- The one document of a text. -/
def document (fuel : Nat) : Build Node := do
  let first ← peek
  let root ←
    if first.any fun token => isDirective token || token == .documentStart then do
      directives fuel 0
      if ← accept .documentStart then
        match ← peek with
        | none | some .documentStart | some .documentEnd => pure absent
        | some token => if isDirective token then pure absent else node true false fuel
      else failure
    else node true false fuel
  skipEnds fuel
  if (← peek).isSome then failure else return root

end Build

mutual

/-- The node with containers beyond a depth made unreadable. -/
def limit : Nat → Node → Node
  | 0, .sequence _ | 0, .mapping _ | 0, .tagged _ => .unreadable
  | room + 1, .sequence items => .sequence (limitItems room items)
  | room + 1, .mapping members => .mapping (limitMembers room members)
  | room + 1, .tagged collection => .tagged (limit (room + 1) collection)
  | _, node => node

def limitItems (room : Nat) : List Node → List Node
  | [] => []
  | item :: rest => limit room item :: limitItems room rest

def limitMembers (room : Nat) : List (Node × Node) → List (Node × Node)
  | [] => []
  | (key, value) :: rest => (limit room key, limit room value) :: limitMembers room rest

end

/-- Containers nested deeper than this are unreadable. -/
def depthLimit : Nat := 128

/-- For each node of a text this many aliases may be followed. -/
def aliasLimit : Nat := 100

/-- The document that a text holds. Between two steps that pass over a token there are at most
three others. -/
def ofText? (text : String) : Option Node :=
  match tokens? text with
  | none => none
  | some tokens =>
      match (Build.document (4 * tokens.length + 4)).run { tokens } with
      | some (root, s) =>
          if s.followed ≤ aliasLimit * s.nodes then some (limit depthLimit root) else none
      | none => none

end ApiContract.Yaml
