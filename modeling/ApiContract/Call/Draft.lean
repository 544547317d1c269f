import ApiContract.Failure
import ApiContract.Http.Message
import ApiContract.Url.Basic

/-!
A request being made. The entries of the query are kept encoded; those that a followed link carries
are kept apart, and in the finished URI they replace the entries of equal names.
-/

namespace ApiContract

structure UriDraft where
  base : String
  query : List (String × String) := []
  /-- Entries of the followed link, each name once. -/
  linkQuery : List (String × String) := []
  deriving DecidableEq, Repr, Inhabited

namespace UriDraft

def ofEndpoint (endpoint : String) : UriDraft := { base := Text.dropTrailing '/' endpoint }

def append (draft : UriDraft) (piece : String) : UriDraft :=
  { draft with base := Text.joinPath draft.base piece }

/-- Puts an absolute URI in the place of all that stands there. -/
def reset (draft : UriDraft) (uri : String) : Except RequestError UriDraft :=
  match Url.parse uri with
  | .ok _ => .ok { draft with base := Text.dropTrailing '/' uri }
  | .error reason => .error (.invalidUri uri reason.message)

def addQuery (draft : UriDraft) (entries : List (String × String)) : UriDraft :=
  { draft with query := draft.query ++ entries }

/-- Of entries of one name the last counts. -/
def addLinkEntry (carried : List (String × String)) (entry : String × String) :
    List (String × String) :=
  carried.filter (·.1 != entry.1) ++ [entry]

def mergeLinkQuery (draft : UriDraft) (query : String) : UriDraft :=
  { draft with linkQuery := (queryEntries query).foldl addLinkEntry draft.linkQuery }

/-- The path that a relative link leads to: from the origin behind a slash, else below the base. -/
def linkBase (base path : String) : String :=
  if Text.startsWith '/' path then
    match Url.parse base with
    | .ok url => Url.origin url ++ path
    | .error _ => path
  else if path.isEmpty then base
  else if Text.endsWith '/' base then base ++ path
  else base ++ "/" ++ path

def follow (draft : UriDraft) (link : String) : UriDraft :=
  let (path, query) := (Text.cut? '?' link).getD (link, "")
  if Url.isAbsolute link then { base := path : UriDraft }.mergeLinkQuery query
  else { draft with base := linkBase draft.base path }.mergeLinkQuery query

/-- The entries of the finished query. -/
def finalQuery (draft : UriDraft) : List (String × String) :=
  draft.query.filter (fun entry => !draft.linkQuery.any (·.1 == entry.1)) ++ draft.linkQuery

def entryText (entry : String × String) : String := entry.1 ++ "=" ++ entry.2

def finish (draft : UriDraft) : String :=
  match draft.finalQuery with
  | [] => draft.base
  | entries => draft.base ++ "?" ++ String.intercalate "&" (entries.map entryText)

end UriDraft

structure RequestDraft where
  uri : UriDraft
  headers : List (String × String) := []
  body : Option (List UInt8) := none
  deriving DecidableEq, Repr, Inhabited

def RequestDraft.finish (draft : RequestDraft) (method : HttpMethod) : HttpRequest :=
  { method, uri := draft.uri.finish, headers := draft.headers, body := draft.body }

end ApiContract
