import ApiContract.Failure
import ApiContract.Json.Reader
import ApiContract.Model.Reading
import ApiContract.Yaml.Reader

/-!
Models from the text of a document, written as JSON or as YAML.
-/

namespace ApiContract.Model

/-- The model a document describes. -/
def ofDocument (document : Json) : Except GenerationError Model :=
  match Reading.model .direct (.ofJson document) with
  | .ok model => .ok model
  | .error e => .error (.parse e.message)

/-- The model that a JSON text describes. Of a text that is no document, since what could be passed
over could not be read, faults in its shape are not told. -/
def ofJsonText (text : String) : Except GenerationError Model :=
  match Json.nodeOfText? text with
  | none => .error (.parse malformed)
  | some node =>
      match Reading.model .direct node with
      | .ok model => .ok model
      | .error e => .error (.parse (if node.json?.isSome then e.message else malformed))

/-- The model that a YAML text describes. -/
def ofYamlText (text : String) : Except GenerationError Model :=
  match (Yaml.ofText? text).map (Reading.model .layout) with
  | some (.ok model) => .ok model
  | _ => .error (.parse malformed)

end ApiContract.Model
