import ApiContract.Plan.Building
import ApiContract.Text.Utf8
import ApiContract.Value.Scalar

/-!
Values in JSON documents. Writing puts the discriminator of a variant before all properties and
leaves out optional properties without a value. Reading ignores unknown keys, fills absent
properties from their declared defaults, and falls back to the base shape of a hierarchy where
it does not know the discriminator value.
-/

namespace ApiContract

namespace Json

mutual

/-- Levels of nesting. -/
def depth : Json → Nat
  | .array items => depthOfItems items + 1
  | .object members => depthOfMembers members + 1
  | _ => 1

def depthOfItems : List Json → Nat
  | [] => 0
  | item :: rest => max item.depth (depthOfItems rest)

def depthOfMembers : List (String × Json) → Nat
  | [] => 0
  | (_, value) :: rest => max value.depth (depthOfMembers rest)

end

end Json

namespace JsonForm

/-- The plan of a nested model. -/
def nestedPlan (model : Model) (id : SchemaId) (format : WireFormat) :
    Planning ValueError WirePlan :=
  (model.plan id format).mapError .model

def notJson : ValueError := .json "plan does not describe a JSON document"

/-- Writes the planned properties of a record behind the members that are there. -/
def writeProperties (writeValue : ValuePlan → Value → Planning ValueError Json)
    (typeName : String) (fields : List (String × Value)) :
    List (String × Json) → List PropertyPlan → Planning ValueError (List (String × Json))
  | members, [] => pure members
  | members, property :: rest =>
      match fields.lookup property.name with
      | some .null =>
          if !property.required then writeProperties writeValue typeName fields members rest
          else if property.nullable then
            writeProperties writeValue typeName fields
              (Json.setMember members property.wireName .null) rest
          else .fail (.missingProperty typeName property.name)
      | none =>
          if !property.required then writeProperties writeValue typeName fields members rest
          else .fail (.missingProperty typeName property.name)
      | some value => do
          let document ← writeValue property.value value
          writeProperties writeValue typeName fields
            (Json.setMember members property.wireName document) rest

/-- Writes a record, its discriminator first. -/
def writeObject (writeValue : ValuePlan → Value → Planning ValueError Json) (plan : ObjectPlan)
    (fields : List (String × Value)) : Planning ValueError Json := do
  let first := match plan.discriminator with
    | some d => [(d.wireName, Json.string d.value)]
    | none => []
  let members ← writeProperties writeValue plan.typeName fields first plan.properties
  pure (.object members)

/-- Writes a value; `fuel` bounds the steps. -/
def writeWithin (model : Model) : Nat → WirePlan → Value → Planning ValueError Json
  | 0, _, _ => .fail .endless
  | fuel + 1, plan, value =>
      let writeValue (plan : ValuePlan) := writeWithin model fuel (.value plan)
      match plan with
      | .object object =>
          match value with
          | .record fields => writeObject writeValue object fields
          | .variant _ value => writeWithin model fuel plan value
          | other => .fail (.mismatch ("a " ++ object.typeName ++ " record") other)
      | .hierarchy hierarchy =>
          match value with
          | .variant discriminator value =>
              match hierarchy.variants.find? (·.value == discriminator) with
              | some variant => do
                  let nested ← nestedPlan model variant.schema .json
                  writeWithin model fuel nested value
              | none =>
                  match value with
                  | .record fields => do
                      let members ← writeProperties writeValue hierarchy.base.typeName fields
                        [(hierarchy.discriminator, .string discriminator)]
                        hierarchy.base.properties
                      pure (.object members)
                  | other => .fail (.mismatch ("a " ++ hierarchy.typeName ++ " record") other)
          | .record fields => writeObject writeValue hierarchy.base fields
          | other => .fail (.mismatch ("a " ++ hierarchy.typeName ++ " variant") other)
      | .value (.scalar kind) => .lift (Scalar.toJson kind value)
      | .value (.list element) =>
          match value with
          | .list items => do
              let documents ← items.mapM (writeValue element)
              pure (.array documents)
          | other => .fail (.mismatch "a list" other)
      | .value (.dictionary entry) =>
          match value with
          | .map entries => do
              let members ← entries.mapM fun (key, value) => do
                let document ← writeValue entry value
                pure (key, document)
              pure (.object members)
          | other => .fail (.mismatch "a map" other)
      | .value (.reference schema) => do
          let nested ← nestedPlan model schema .json
          writeWithin model fuel nested value
      | .element _ | .raw _ => .fail notJson

/-- Writes a value through a plan. From a reference to what it refers to is one step at each level
of the value. -/
def write (model : Model) (plan : WirePlan) (value : Value) : Planning ValueError Json :=
  writeWithin model (2 * value.depth + 2) plan value

/-- Reads the planned properties out of the members of an object. -/
def readProperties (readValue : ValuePlan → Json → Planning ValueError Value) (typeName : String)
    (members : List (String × Json)) :
    List PropertyPlan → Planning ValueError (List (String × Value))
  | [] => pure []
  | property :: rest =>
      let next := readProperties readValue typeName members rest
      let read (document : Json) : Planning ValueError (List (String × Value)) := do
        let value ← readValue property.value document
        let fields ← next
        pure ((property.name, value) :: fields)
      let absent : Planning ValueError (List (String × Value)) :=
        match property.default with
        | some document => read document
        | none =>
            if property.required then .fail (.missingProperty typeName property.name) else next
      match members.lookup property.wireName with
      | some .null =>
          if property.required && property.nullable then do
            let fields ← next
            pure ((property.name, .null) :: fields)
          else absent
      | some document => read document
      | none => absent

def readObject (readValue : ValuePlan → Json → Planning ValueError Value) (plan : ObjectPlan)
    (members : List (String × Json)) : Planning ValueError Value := do
  let fields ← readProperties readValue plan.typeName members plan.properties
  pure (.ofFields fields)

/-- Reads a document; `fuel` bounds the steps. -/
def readWithin (model : Model) : Nat → WirePlan → Json → Planning ValueError Value
  | 0, _, _ => .fail .endless
  | fuel + 1, plan, document =>
      let found := Value.json document
      let readValue (plan : ValuePlan) := readWithin model fuel (.value plan)
      match plan with
      | .object object =>
          match document with
          | .object members => readObject readValue object members
          | _ => .fail (.mismatch ("a " ++ object.typeName ++ " object") found)
      | .hierarchy hierarchy =>
          match document with
          | .object members =>
              match members.lookup hierarchy.discriminator with
              | some (.string discriminator) => do
                  let value ← match hierarchy.variants.find? (·.value == discriminator) with
                    | some variant => do
                        let nested ← nestedPlan model variant.schema .json
                        readWithin model fuel nested document
                    | none => readObject readValue hierarchy.base members
                  pure (.variant discriminator value)
              | _ => readObject readValue hierarchy.base members
          | _ => .fail (.mismatch ("a " ++ hierarchy.typeName ++ " object") found)
      | .value (.scalar kind) => .lift (Scalar.ofJson kind document)
      | .value (.list element) =>
          match document with
          | .array items => do
              let values ← items.mapM (readValue element)
              pure (.list values)
          | _ => .fail (.mismatch "an array" found)
      | .value (.dictionary entry) =>
          match document with
          | .object members => do
              let entries ← members.mapM fun (key, document) => do
                let value ← readValue entry document
                pure (key, value)
              pure (.ofEntries entries)
          | _ => .fail (.mismatch "an object" found)
      | .value (.reference schema) => do
          let nested ← nestedPlan model schema .json
          readWithin model fuel nested document
      | .element _ | .raw _ => .fail notJson

/-- The levels that declared defaults can add to a document, each default entered once. -/
def defaultLevels (model : Model) : Nat :=
  model.schemas.foldl
    (fun levels (_, schema) =>
      match schema with
      | .object object =>
          object.properties.foldl
            (fun levels property =>
              match property.defaultValue with
              | some document => levels + document.depth + 1
              | none => levels)
            levels
      | _ => levels)
    0

/-- More steps than reading takes without coming back to a plan and a document it is at already:
at each level of the document, or of a default, a plan is entered at most once per schema. -/
def readLimit (model : Model) (document : Json) : Nat :=
  (model.schemas.length + 2) * (document.depth + defaultLevels model + 1) + 1

/-- Reads a document through a plan. -/
def read (model : Model) (plan : WirePlan) (document : Json) : Planning ValueError Value :=
  readWithin model (readLimit model document) plan document

/-- Writes a value through a plan as compact text. -/
def writeText (model : Model) (plan : WirePlan) (value : Value) : Planning ValueError String := do
  let document ← write model plan value
  pure document.compact

/-- Reads a text through a plan. -/
def readText (model : Model) (plan : WirePlan) (text : String) : Planning ValueError Value :=
  match Json.valueOfText? text with
  | some document => read model plan document
  | none => .fail (.json malformed)

/-- Reads bytes through a plan; they have to spell a text. -/
def readBytes (model : Model) (plan : WirePlan) (bytes : List UInt8) : Planning ValueError Value :=
  match Text.ofUtf8? bytes with
  | some text => readText model plan text
  | none => .fail (.json malformed)

end JsonForm

end ApiContract
