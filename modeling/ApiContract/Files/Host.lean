import ApiContract.Files.Tree

/-!
What a program asks of its surroundings: to read and change files, and to print. Programs are
written against this interface; a workspace, a file tree with what was printed, is a model of it.
-/

namespace ApiContract

class Host (m : Type → Type) where
  /-- The text of a file, or why it cannot be read. -/
  readText : String → m (Except String String)
  isFile : String → m Bool
  /-- Makes a folder and all folders above it. -/
  createFolders : String → m (Except String Unit)
  writeText : String → String → m (Except String Unit)
  /-- Moves a file, replacing a file at its new path. -/
  rename : String → String → m (Except String Unit)
  /-- Writes to the output. -/
  print : String → m Unit
  /-- Writes to the messages for the user. -/
  report : String → m Unit

/-- A file tree, what was printed and reported, and which of the coming changes of the tree fail
although nothing in the tree is in their way. -/
structure Workspace where
  tree : FileTree := {}
  printed : String := ""
  reported : String := ""
  disturbed : List Bool := []

namespace Workspace

/-- A change of the tree: it happens whole, or nothing changes. -/
def change (f : FileTree → Option FileTree) : StateM Workspace (Except String Unit) := do
  let workspace ← get
  let later := workspace.disturbed.tail
  match workspace.disturbed.head?.getD false, f workspace.tree with
  | false, some tree => do
      set { workspace with tree, disturbed := later }
      pure (.ok ())
  | _, _ => do
      set { workspace with disturbed := later }
      pure (.error "failed")

instance : Host (StateM Workspace) where
  readText path := do
    match (← get).tree.read? path with
    | some text => pure (.ok text)
    | none => pure (.error "not found")
  isFile path := do return ((← get).tree.read? path).isSome
  createFolders path := change (·.createFolders path)
  writeText path text := change (·.write path text)
  rename source target := change (·.rename source target)
  print text := modify fun workspace => { workspace with printed := workspace.printed ++ text }
  report text := modify fun workspace => { workspace with reported := workspace.reported ++ text }

end Workspace

end ApiContract
