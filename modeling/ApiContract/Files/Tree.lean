import ApiContract.Text.Cut

/-!
Path texts. A path is a list of names between slashes; empty names and single points stand for
nothing, two points for the folder above.
-/

namespace ApiContract.Path

/-- The names of a path that lead somewhere. -/
def names (path : String) : List String :=
  (Text.split '/' path).filter fun name => name != "" && name != "."

/-- A name inside a folder. An empty folder is the current one, and a name from the root down
stands for itself. -/
def join (folder name : String) : String :=
  if folder = "" ∨ Text.startsWith '/' name then name
  else if Text.endsWith '/' folder then folder ++ name
  else folder ++ "/" ++ name

/-- Drops slashes and single points that lead nowhere from a reversed path. -/
def trimEnd : List Char → List Char
  | '/' :: rest => trimEnd rest
  | '.' :: '/' :: rest => trimEnd rest
  | rest => rest

/-- The folder a path lies in; empty for a bare name. -/
def parent (path : String) : String :=
  String.ofList (trimEnd ((trimEnd path.toList.reverse).dropWhile (· != '/'))).reverse

/-- Whether a path can only name a folder. -/
def namesFolder (path : String) : Bool :=
  match path.toList.reverse with
  | '/' :: _ | '.' :: '/' :: _ => true
  | _ => false

/-- What stands behind the last point of the last name, if something stands before it. -/
def extension? (path : String) : Option String :=
  match (names path).getLast? with
  | none => none
  | some name =>
      match (Text.split '.' name).reverse with
      | _ :: [] | [] => none
      | [_, ""] => none
      | last :: _ => if name = ".." then none else some last

end ApiContract.Path

/-!
File trees: texts and folders at paths below a root, and the steps that change them. A step happens
whole or not at all.
-/

namespace ApiContract

/-- The names from the root of a tree down to a place in it. -/
abbrev Place := List String

inductive TreeEntry where
  | folder
  | file (text : String)
  deriving DecidableEq, Repr, Inhabited

/-- What stands at which place. The root is a folder that stands nowhere. -/
structure FileTree where
  entries : List (Place × TreeEntry) := []
  deriving DecidableEq, Repr, Inhabited

namespace FileTree

def entry? (tree : FileTree) : Place → Option TreeEntry
  | [] => some .folder
  | place => tree.entries.lookup place

def isFolder (tree : FileTree) (place : Place) : Bool := tree.entry? place == some .folder

/-- The text of the file at a place. -/
def text? (tree : FileTree) (place : Place) : Option String :=
  match tree.entry? place with
  | some (.file text) => some text
  | _ => none

def erase (tree : FileTree) (place : Place) : FileTree :=
  { entries := tree.entries.filter (·.1 != place) }

def put (tree : FileTree) (place : Place) (entry : TreeEntry) : FileTree :=
  { entries := (place, entry) :: (tree.erase place).entries }

/-- Goes along names from a place; every name but the last has to be one of a folder. -/
def walk (tree : FileTree) (place : Place) : List String → Option Place
  | [] => some place
  | name :: rest =>
      if !tree.isFolder place then none
      else if name = ".." then (if place = [] then none else walk tree place.dropLast rest)
      else walk tree (place ++ [name]) rest

/-- The place of a path. -/
def place? (tree : FileTree) (path : String) : Option Place := tree.walk [] (Path.names path)

/-- The place of a path that may name a file. -/
def filePlace? (tree : FileTree) (path : String) : Option Place :=
  if Path.namesFolder path then none else tree.place? path

/-- The text of the file of a path. -/
def read? (tree : FileTree) (path : String) : Option String :=
  (tree.filePlace? path).bind tree.text?

/-- Makes a folder of every name on the way. -/
def makeFolders (tree : FileTree) (place : Place) : List String → Option FileTree
  | [] => if tree.isFolder place then some tree else none
  | name :: rest =>
      if !tree.isFolder place then none
      else if name = ".." then
        (if place = [] then none else makeFolders tree place.dropLast rest)
      else
        let next := place ++ [name]
        match tree.entry? next with
        | none => makeFolders (tree.put next .folder) next rest
        | some _ => makeFolders tree next rest

def createFolders (tree : FileTree) (path : String) : Option FileTree :=
  tree.makeFolders [] (Path.names path)

/-- Writes a text where no folder stands. -/
def write (tree : FileTree) (path text : String) : Option FileTree :=
  match tree.filePlace? path with
  | none => none
  | some place => if tree.isFolder place then none else some (tree.put place (.file text))

/-- Moves a file to where no folder stands. -/
def rename (tree : FileTree) (source target : String) : Option FileTree :=
  match tree.filePlace? source, tree.filePlace? target with
  | some source, some target =>
      match tree.text? source with
      | none => none
      | some text =>
          if tree.isFolder target then none
          else some ((tree.erase source).put target (.file text))
  | _, _ => none

/-- A tree of files below folders made for them; a file whose place is taken is left out. -/
def ofFiles (files : List (String × String)) : FileTree :=
  files.foldl (fun tree (path, text) =>
    match (tree.createFolders (Path.parent path)).bind fun tree => tree.write path text with
    | some next => next
    | none => tree) {}

/-- All files with their paths, sorted by path. -/
def files (tree : FileTree) : List (String × String) :=
  (tree.entries.filterMap fun (place, entry) =>
    match entry with
    | .file text => some (String.intercalate "/" place, text)
    | .folder => none).mergeSort fun a b => a.1 ≤ b.1

end FileTree

end ApiContract
