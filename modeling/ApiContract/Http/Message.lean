import ApiContract.Model.Operation
import ApiContract.Text.Cut
import ApiContract.Text.Percent

/-!
Requests as they are sent and responses as they are received. The query of a request is read back
from its URI; header names are compared without regard to case.
-/

namespace ApiContract

/-- The first header of a name. -/
def findHeader (headers : List (String × String)) (name : String) : Option String :=
  let lowered (text : String) := text.toList.map Char.toLower
  (headers.find? fun (key, _) => lowered key == lowered name).map (·.2)

structure HttpRequest where
  method : HttpMethod
  uri : String
  headers : List (String × String)
  body : Option (List UInt8)
  deriving DecidableEq, Repr, Inhabited

/-- The entries of an encoded query: name and value around the first equals sign. -/
def queryEntries (query : String) : List (String × String) :=
  ((Text.split '&' query).filter (!·.isEmpty)).map fun entry =>
    (Text.cut? '=' entry).getD (entry, "")

namespace HttpRequest

def header? (request : HttpRequest) (name : String) : Option String :=
  findHeader request.headers name

/-- The query as it is written. -/
def query? (request : HttpRequest) : Option String := (Text.cut? '?' request.uri).map (·.2)

/-- The entries of the query as they are written, in order. -/
def entries (request : HttpRequest) : List (String × String) :=
  match request.query? with
  | some query => queryEntries query
  | none => []

/-- The decoded values of all entries of a decoded name. -/
def queryValues (request : HttpRequest) (name : String) : List String :=
  (request.entries.filter fun (key, _) => Text.Percent.decode key == name).map fun (_, value) =>
    Text.Percent.decode value

/-- The URI without its query. -/
def path (request : HttpRequest) : String :=
  match Text.cut? '?' request.uri with
  | some (path, _) => path
  | none => request.uri

end HttpRequest

structure HttpResponse where
  status : Nat
  headers : List (String × String) := []
  body : List UInt8 := []
  deriving DecidableEq, Repr, Inhabited

def HttpResponse.header? (response : HttpResponse) (name : String) : Option String :=
  findHeader response.headers name

end ApiContract
