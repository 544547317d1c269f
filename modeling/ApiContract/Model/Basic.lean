import ApiContract.Model.Operation

/-!
The whole model of an API: its schemas, sorted by id, and its operations in the order declared.
-/

namespace ApiContract

/-- Inserts into a list sorted by key, replacing the entry of an equal key. -/
def insertSorted (key : String) (value : α) : List (String × α) → List (String × α)
  | [] => [(key, value)]
  | (k, v) :: rest =>
      if key < k then (key, value) :: (k, v) :: rest
      else if key = k then (key, value) :: rest
      else (k, v) :: insertSorted key value rest

structure Model where
  name : String
  description : Option String := none
  schemas : List (SchemaId × Schema) := []
  operations : List Operation := []
  deriving DecidableEq, Inhabited

namespace Model

def schema? (model : Model) (id : SchemaId) : Option Schema := model.schemas.lookup id

def operation? (model : Model) (name : String) : Option Operation :=
  model.operations.find? (·.name == name)

def withSchema (model : Model) (id : SchemaId) (schema : Schema) : Model :=
  { model with schemas := insertSorted id schema model.schemas }

/-- Adds a schema for each primitive kind under the kind's name, unless that id is taken. -/
def withPrimitives (model : Model) : Model :=
  PrimitiveKind.all.foldl
    (fun model kind =>
      if (model.schema? kind.name).isSome then model
      else model.withSchema kind.name (.primitive kind none))
    model

end Model

end ApiContract
