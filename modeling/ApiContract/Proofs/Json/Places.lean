import ApiContract.Proofs.Json.Failures

/-!
The order in which a step of reading calls other places. Which places those are can be told from the
plan and the document alone; the step runs through them one after the other up to the first that
fails, and what it does after the last of them cannot be cut off.
-/

namespace ApiContract.JsonForm

open Planning

variable {model : Model} {α β : Type}

/-- What a property is read from. -/
inductive Source where
  | document (document : Json)
  | known (value : Option Value)
  | missing

/-- The source of a property without a member of its own. -/
def defaultSource (property : PropertyPlan) : Source :=
  match property.default with
  | some document => .document document
  | none => if property.required then .missing else .known none

def sourceOf (members : List (String × Json)) (property : PropertyPlan) : Source :=
  match members.lookup property.wireName with
  | some .null =>
      if property.required && property.nullable then .known (some .null) else defaultSource property
  | some document => .document document
  | none => defaultSource property

/-- The places that properties are read at, in order, up to a property that is missing. -/
def calledProperties (members : List (String × Json)) : List PropertyPlan → List (WirePlan × Json)
  | [] => []
  | property :: rest =>
      match sourceOf members property with
      | .document document => (.value property.value, document) :: calledProperties members rest
      | .known _ => calledProperties members rest
      | .missing => []

/-- The same document at the plan of a schema, if that has one. -/
def nestedPlaces (model : Model) (id : SchemaId) (document : Json) : List (WirePlan × Json) :=
  match model.planOf id .json with
  | .ok nested => [(nested, document)]
  | .error _ => []

/-- The places that a step of reading calls, in order; it calls each of them if it gets there. -/
def called (model : Model) : WirePlan × Json → List (WirePlan × Json)
  | (.object plan, .object members) => calledProperties members plan.properties
  | (.hierarchy plan, .object members) =>
      match members.lookup plan.discriminator with
      | some (.string selector) =>
          match plan.variants.find? (·.value == selector) with
          | some choice => nestedPlaces model choice.schema (.object members)
          | none => calledProperties members plan.base.properties
      | _ => calledProperties members plan.base.properties
  | (.value (.list element), .array items) => items.map fun item => (.value element, item)
  | (.value (.dictionary entry), .object members) =>
      members.map fun member => (.value entry, member.2)
  | (.value (.reference schema), document) => nestedPlaces model schema document
  | _ => []

theorem readProperty_eq (readValue : ValuePlan → Json → Except ValueError Value) (typeName : String)
    (members : List (String × Json)) (property : PropertyPlan) :
    readProperty readValue typeName members property =
      match sourceOf members property with
      | .document document => (readValue property.value document).map some
      | .known value => .ok value
      | .missing => .error (.missingProperty typeName property.name) := by
  have absent : readDefault readValue typeName property =
      match defaultSource property with
      | .document document => (readValue property.value document).map some
      | .known value => .ok value
      | .missing => .error (.missingProperty typeName property.name) := by
    rw [readDefault, defaultSource]
    cases property.default with
    | some document => rfl
    | none => cases property.required <;> rfl
  rw [readProperty, sourceOf]
  cases members.lookup property.wireName with
  | none => exact absent
  | some document =>
      cases document with
      | null =>
          by_cases kept : property.required && property.nullable
          · simp only [kept, if_true]
          · simp only [kept]
            exact absent
      | _ => rfl

theorem mem_nestedPlaces {id : SchemaId} {document : Json} {place : WirePlan × Json}
    (member : place ∈ nestedPlaces model id document) :
    model.planOf id .json = .ok place.1 ∧ place.2 = document := by
  rw [nestedPlaces] at member
  split at member
  next nested planned =>
    rw [List.mem_singleton.mp member]
    exact ⟨planned, rfl⟩
  next => cases member

theorem source_document {members : List (String × Json)} {property : PropertyPlan} {document : Json}
    (source : sourceOf members property = .document document) :
    members.lookup property.wireName = some document ∨ property.default = some document := by
  have absent : defaultSource property = .document document → property.default = some document := by
    intro same
    rw [defaultSource] at same
    cases declared : property.default with
    | some default =>
        rw [declared] at same
        cases same
        rfl
    | none =>
        simp only [declared] at same
        split at same <;> cases same
  rw [sourceOf] at source
  split at source
  next =>
    split at source
    next => cases source
    next => exact .inr (absent source)
  next found =>
    cases source
    exact .inl found
  next => exact .inr (absent source)

theorem mem_calledProperties {members : List (String × Json)} {properties : List PropertyPlan}
    {place : WirePlan × Json} (member : place ∈ calledProperties members properties) :
    ∃ property ∈ properties, place.1 = .value property.value ∧
      (members.lookup property.wireName = some place.2 ∨ property.default = some place.2) := by
  induction properties with
  | nil => cases member
  | cons property rest ih =>
      have later : place ∈ calledProperties members rest →
          ∃ other ∈ property :: rest, place.1 = .value other.value ∧
            (members.lookup other.wireName = some place.2 ∨ other.default = some place.2) := by
        intro inside
        obtain ⟨other, listed, calls⟩ := ih inside
        exact ⟨other, List.mem_cons_of_mem _ listed, calls⟩
      rw [calledProperties] at member
      cases source : sourceOf members property with
      | document document =>
          rw [source] at member
          rcases List.mem_cons.mp member with rfl | inside
          · exact ⟨property, List.mem_cons_self, rfl, source_document source⟩
          · exact later inside
      | known value =>
          rw [source] at member
          exact later member
      | missing =>
          rw [source] at member
          cases member

theorem callsProperty_of_mem {object : ObjectPlan} {members : List (String × Json)}
    {nested : WirePlan} {part : Json}
    (member : (nested, part) ∈ calledProperties members object.properties) :
    ∃ value, nested = .value value ∧ CallsProperty object members value part := by
  obtain ⟨property, listed, same, found⟩ := mem_calledProperties member
  exact ⟨property.value, same, property, listed, rfl, found⟩

theorem calls_of_hierarchy {hierarchy : HierarchyPlan} {members : List (String × Json)}
    {nested : WirePlan} {part : Json}
    (member : (nested, part) ∈ called model (.hierarchy hierarchy, .object members)) :
    Calls model (.hierarchy hierarchy) (.object members) nested part := by
  have ofBase : (nested, part) ∈ calledProperties members hierarchy.base.properties →
      Calls model (.hierarchy hierarchy) (.object members) nested part := by
    intro inside
    obtain ⟨value, rfl, calls⟩ := callsProperty_of_mem inside
    exact .base calls
  rw [called] at member
  split at member
  next =>
    split at member
    next choice chosen =>
      obtain ⟨planned, rfl⟩ := mem_nestedPlaces member
      exact .variant (List.mem_of_find?_eq_some chosen) planned
    next => exact ofBase member
  next => exact ofBase member

theorem calls_of_mem_called {place next : WirePlan × Json} (member : next ∈ called model place) :
    Calls model place.1 place.2 next.1 next.2 := by
  obtain ⟨plan, document⟩ := place
  obtain ⟨nested, part⟩ := next
  cases plan with
  | object object =>
      cases document with
      | object members =>
          obtain ⟨value, rfl, calls⟩ := callsProperty_of_mem member
          exact .property calls
      | _ => cases member
  | hierarchy hierarchy =>
      cases document with
      | object members => exact calls_of_hierarchy member
      | _ => cases member
  | value value =>
      cases value with
      | scalar kind => cases member
      | list element =>
          cases document with
          | array items =>
              obtain ⟨item, listed, same⟩ := List.mem_map.mp member
              cases same
              exact .item listed
          | _ => cases member
      | dictionary entry =>
          cases document with
          | object members =>
              obtain ⟨listed, inside, same⟩ := List.mem_map.mp member
              cases same
              exact .entry inside
          | _ => cases member
      | reference schema =>
          obtain ⟨planned, rfl⟩ := mem_nestedPlaces member
          exact .reference planned
  | element element => cases member
  | raw kind => cases member

/-! Running through places. -/

/-- A result that was not cut off. -/
def Settled (result : Except ValueError α) : Prop := result ≠ .error .endless

theorem settled_ok (a : α) : Settled (.ok a : Except ValueError α) := fun same => by cases same

theorem Settled.bind {result : Except ValueError α} {next : α → Except ValueError β}
    (first : Settled result) (rest : ∀ a, Settled (next a)) : Settled (result >>= next) := by
  intro cut
  rcases bind_eq_error cut with here | ⟨a, -, later⟩
  · exact first here
  · exact rest a later

theorem Settled.of_bind {result : Except ValueError α} {next : α → Except ValueError β}
    (settled : Settled (result >>= next)) : Settled result := by
  intro cut
  rw [cut] at settled
  exact settled rfl

/-- A place, read in so many steps at most. -/
def readAt (model : Model) (fuel : Nat) (place : WirePlan × Json) : Except ValueError Value :=
  (readWithin model fuel place.1 place.2).fresh

/-- A result that comes of reading the places in order, and is not cut off after that. -/
def RunsThrough (model : Model) (places : List (WirePlan × Json))
    (result : Nat → Except ValueError α) : Prop :=
  ∃ finish : List Value → Except ValueError α, (∀ values, Settled (finish values)) ∧
    ∀ fuel, result fuel = places.mapM (readAt model fuel) >>= finish

namespace RunsThrough

theorem none {result : Except ValueError α} (settled : Settled result) :
    RunsThrough model [] fun _ => result :=
  ⟨fun _ => result, fun _ => settled, fun _ => rfl⟩

theorem of_eq {places : List (WirePlan × Json)} {result other : Nat → Except ValueError α}
    (runs : RunsThrough model places result) (same : ∀ fuel, result fuel = other fuel) :
    RunsThrough model places other := funext same ▸ runs

theorem bind {places : List (WirePlan × Json)} {result : Nat → Except ValueError α}
    (runs : RunsThrough model places result) {next : α → Except ValueError β}
    (rest : ∀ a, Settled (next a)) : RunsThrough model places fun fuel => result fuel >>= next := by
  obtain ⟨finish, settled, same⟩ := runs
  refine ⟨fun values => finish values >>= next, fun values => (settled values).bind rest, ?_⟩
  intro fuel
  simp only [same, bind_assoc]

theorem first {places : List (WirePlan × Json)} {result : Nat → Except ValueError α}
    (runs : RunsThrough model places result) (place : WirePlan × Json)
    (next : Value → α → Except ValueError β) (rest : ∀ value a, Settled (next value a)) :
    RunsThrough model (place :: places) fun fuel =>
      readAt model fuel place >>= fun value => result fuel >>= next value := by
  obtain ⟨finish, settled, same⟩ := runs
  refine ⟨fun
    | value :: values => finish values >>= next value
    | [] => .error (.json malformed), ?_, ?_⟩
  · rintro (_ | ⟨value, values⟩)
    · exact fun same => by cases same
    · exact (settled values).bind (rest value)
  · intro fuel
    simp only [same, List.mapM_cons, bind_assoc]
    rfl

theorem one (place : WirePlan × Json) :
    RunsThrough model [place] fun fuel => readAt model fuel place := by
  apply ((none (settled_ok ())).first place (fun value _ => .ok value) fun _ _ => settled_ok _).of_eq
  intro fuel
  cases readAt model fuel place <;> rfl

theorem all (places : List (WirePlan × Json)) :
    RunsThrough model places fun fuel => places.mapM (readAt model fuel) := by
  refine ⟨.ok, settled_ok, fun fuel => ?_⟩
  change places.mapM (readAt model fuel) = _
  cases places.mapM (readAt model fuel) <;> rfl

end RunsThrough

theorem readProperties_runs (typeName : String) (members : List (String × Json))
    (properties : List PropertyPlan) :
    RunsThrough model (calledProperties members properties) fun fuel =>
      (readProperties (fun nested => readWithin model fuel (.value nested)) typeName members
        properties).fresh := by
  induction properties with
  | nil => exact .none (settled_ok [])
  | cons property rest ih =>
      simp only [fresh_readProperties_cons, readProperty_eq, calledProperties]
      cases sourceOf members property with
      | document document =>
          apply (ih.first (.value property.value, document)
            (fun value fields => .ok ((property.name, value) :: fields)) fun _ _ => settled_ok _).of_eq
          intro fuel
          change _ = Except.map some (readAt model fuel (.value property.value, document)) >>= _
          cases readAt model fuel (.value property.value, document) <;> rfl
      | known value => exact ih.bind fun _ => settled_ok _
      | missing => exact .none fun same => by cases same

theorem readObject_runs (plan : ObjectPlan) (members : List (String × Json)) :
    RunsThrough model (calledProperties members plan.properties) fun fuel =>
      (readObject (fun nested => readWithin model fuel (.value nested)) plan members).fresh := by
  simp only [readObject, fresh_bind]
  exact (readProperties_runs _ _ _).bind fun _ => settled_ok _

theorem nested_runs (id : SchemaId) (document : Json) :
    RunsThrough model (nestedPlaces model id document) fun fuel =>
      (nestedPlan model id .json >>= fun nested => readWithin model fuel nested document).fresh := by
  have same : (nestedPlan model id .json).fresh = (model.planOf id .json).mapError .model := by
    rw [nestedPlan, fresh_mapError]
    rfl
  simp only [fresh_bind, same, nestedPlaces]
  cases model.planOf id .json with
  | error e => exact .none fun same => by cases same
  | ok nested => exact .one (nested, document)

theorem readEntries_runs (entry : ValuePlan) (members : List (String × Json)) :
    RunsThrough model (members.map fun member => (.value entry, member.2)) fun fuel =>
      (members.mapM fun ((key, document) : String × Json) => do
        let value ← readWithin model fuel (.value entry) document
        pure (key, value)).fresh := by
  induction members with
  | nil => exact .none (settled_ok [])
  | cons member rest ih =>
      apply (ih.first (.value entry, member.2)
        (fun value entries => .ok ((member.1, value) :: entries)) fun _ _ => settled_ok _).of_eq
      intro fuel
      simp only [fresh_mapM, List.mapM_cons, fresh_bind, bind_assoc]
      rfl

theorem readHierarchy_runs (hierarchy : HierarchyPlan) (members : List (String × Json)) :
    RunsThrough model (called model (.hierarchy hierarchy, .object members)) fun fuel =>
      readAt model (fuel + 1) (.hierarchy hierarchy, .object members) := by
  simp only [readAt, readWithin, called]
  cases members.lookup hierarchy.discriminator with
  | none => exact readObject_runs hierarchy.base members
  | some found =>
      cases found with
      | string selector =>
          dsimp only
          cases hierarchy.variants.find? (·.value == selector) with
          | some choice =>
              apply ((nested_runs choice.schema (.object members)).bind
                fun value => settled_ok (Value.variant selector value)).of_eq
              intro fuel
              simp only [fresh_bind, bind_assoc]
              rfl
          | none =>
              simp only [fresh_bind]
              exact (readObject_runs hierarchy.base members).bind fun _ => settled_ok _
      | _ => exact readObject_runs hierarchy.base members

/-- What a step comes to is settled by the places that it calls. -/
theorem readAt_runs (place : WirePlan × Json) :
    RunsThrough model (called model place) fun fuel => readAt model (fuel + 1) place := by
  obtain ⟨plan, document⟩ := place
  have refused : ∀ expected, RunsThrough model [] fun _ =>
      (.error (.mismatch expected (.json document)) : Except ValueError Value) :=
    fun _ => .none fun same => by cases same
  cases plan with
  | object object =>
      cases document with
      | object members => exact readObject_runs object members
      | _ => exact refused _
  | hierarchy hierarchy =>
      cases document with
      | object members => exact readHierarchy_runs hierarchy members
      | _ => exact refused _
  | value value =>
      cases value with
      | scalar kind =>
          apply RunsThrough.none
          intro cut
          exact (Scalar.ofJson_failsOnly kind document).of_error cut
      | list element =>
          cases document with
          | array items =>
              simp only [readAt, readWithin, fresh_bind, fresh_mapM, called]
              apply ((RunsThrough.all _).bind fun values => settled_ok (.list values)).of_eq
              intro fuel
              simp only [List.mapM_map]
              rfl
          | _ => exact refused _
      | dictionary entry =>
          cases document with
          | object members =>
              simp only [readAt, readWithin, fresh_bind, called]
              exact (readEntries_runs entry members).bind fun _ => settled_ok _
          | _ => exact refused _
      | reference schema => exact nested_runs schema document
  | element element => exact .none fun same => by cases same
  | raw kind => exact .none fun same => by cases same

end ApiContract.JsonForm
