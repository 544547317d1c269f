import ApiContract.Code.Documentation

/-!
The root module of a generated library: its documentation, the two fixed modules, and one module for
each group, whose client it exports where clients are public.
-/

namespace ApiContract

structure LibraryModule where
  name : String
  /-- Where the file is, for modules in folders. -/
  path : Option String
  client : String
  deriving DecidableEq, Repr, Inhabited

namespace LibraryModule

def ofGroup (group : OperationGroup) : LibraryModule where
  name := group.moduleName
  path := if group.folder.isEmpty then none else some group.path
  client := group.clientName

def declaration (isPublic : Bool) (declared : LibraryModule) : Code :=
  let path := match declared.path with
    | some path => Code.write "#[path = $path]" [("path", Code.text path)]
    | none => []
  let template :=
    if isPublic then "$path pub mod $name; pub use $name::$client;" else "$path pub mod $name;"
  Code.write template
    [("path", path), ("name", Code.ident declared.name), ("client", Code.ident declared.client)]

end LibraryModule

namespace Library

/-- The first group whose module name another group has already: the name and the two paths. -/
def nameCollision (seen : List (String × String)) : List OperationGroup → Option ModelError
  | [] => none
  | group :: rest =>
      match seen.lookup group.moduleName with
      | some first => some (.artifactCollision group.moduleName first group.path)
      | none => nameCollision ((group.moduleName, group.path) :: seen) rest

/-- The modules of the groups, each under a name of its own. -/
def modules (groups : List OperationGroup) : Except ModelError (List LibraryModule) :=
  match nameCollision [] groups with
  | some collision => .error collision
  | none => .ok (groups.map LibraryModule.ofGroup)

def code (model : Model) (groups : List OperationGroup) (declared : List LibraryModule)
    (isPublic : Bool) : Code :=
  LibraryDocumentation.code model groups ++
    Code.plain "pub mod models; pub mod shared;" ++
    Code.sequence (declared.map (LibraryModule.declaration isPublic))

end Library

end ApiContract
