import ApiContract.Model.Loading
import ApiContract.Proofs.Document.Choice
import ApiContract.Proofs.Json.Text

/-!
A model is restored from what is written of it: in whatever spelling a text has described it, with
fields in sequence or by name, with other names of words, with defaults left out and with keys that no
record knows, the compact text of its document describes the same model.
-/

namespace ApiContract.Reading

open Document Document.Fields

/-! Words are found under their names. -/

theorem primitiveKind_found (kind : PrimitiveKind) :
    (wordsOf PrimitiveKind.all PrimitiveKind.name).lookup kind.name = some kind := by
  cases kind <;> rfl

theorem primitiveFormat_found (format : PrimitiveFormat) :
    (wordsOf PrimitiveFormat.all PrimitiveFormat.name).lookup format.name = some format := by
  cases format <;> rfl

theorem wireFormat_found (format : WireFormat) :
    (wordsOf WireFormat.all WireFormat.name).lookup format.name = some format := by
  cases format <;> rfl

theorem httpMethod_found (method : HttpMethod) :
    (wordsOf HttpMethod.all HttpMethod.name).lookup method.name = some method := by
  cases method <;> rfl

theorem parameterLocation_found (location : ParameterLocation) :
    (wordsOf ParameterLocation.all ParameterLocation.name).lookup location.name = some location := by
  cases location <;> rfl

theorem listStyle_found (style : ListStyle) : ListStyle.spellings.lookup style.name = some style := by
  cases style <;> rfl

/-! Schemas. -/

theorem enumValue_faithful : Faithful enumValue EnumValue.toJson 1 := by
  refine record_faithful (Law.first (.required text_faithful) ?_
    |>.next (.required anything_faithful)) ?_
  · exact fun _ _ => rfl
  · decide

theorem xmlPlacement_faithful : Faithful xmlPlacement XmlPlacement.toJson 1 := by
  refine record_faithful (Law.first (.optional text_faithful fun _ _ _ => nofun) ?_
    |>.next (.withDefault boolean_faithful fun _ => boolean_kept _ _)
    |>.next (.withDefault boolean_faithful fun _ => boolean_kept _ _)
    |>.next (.withDefault boolean_faithful fun _ => boolean_kept _ _)
    |>.next (.optional text_faithful fun _ _ _ => nofun)) ?_
  · exact fun _ _ _ _ _ => rfl
  · decide

theorem xmlRoot_faithful : Faithful xmlRoot XmlRoot.toJson 1 := by
  refine record_faithful (.first (.optional text_faithful fun _ _ _ => nofun) ?_) ?_
  · exact fun _ => rfl
  · decide

theorem property_faithful : Faithful property Property.toJson 2 := by
  refine record_faithful (Law.first (.required text_faithful) ?_
    |>.next (.required text_faithful)
    |>.next (.required text_faithful)
    |>.next (.withDefault boolean_faithful fun _ => boolean_kept _ _)
    |>.next (.withDefault boolean_faithful fun _ => boolean_kept _ _)
    |>.next (.optional anything_faithful anything_nullsApart)
    |>.next (.withDefault boolean_faithful fun _ => boolean_kept _ _)
    |>.next (.optional text_faithful fun _ _ _ => nofun)
    |>.next (.optional xmlPlacement_faithful fun _ _ _ => nofun)) ?_
  · intro name serializedName schema required nullable default readOnly description xml
    cases default <;> rfl
  · decide

/-- Reads the fields of an enum and of an object behind the tag of a schema. -/
theorem schema_faithful : Faithful schema Schema.toJson 4 := by
  refine tagged_faithful (fun case member => ?_) ?_
  · simp only [List.mem_cons, List.not_mem_nil, or_false] at member
    rcases member with rfl | rfl | rfl | rfl | rfl | rfl
    · refine Case.record_faithful (Law.first (.required (word_faithful primitiveKind_found)) ?_
        |>.next (.optional (word_faithful primitiveFormat_found) fun _ _ _ => nofun)) ?_
      · intro kind format
        cases format <;> rfl
      · decide
    · refine Case.map_faithful (Case.record_faithful (Law.first (.required text_faithful) ?_
        |>.next (.optional text_faithful fun _ _ _ => nofun)
        |>.next (.required ((listOf_faithful enumValue_faithful).mono (by decide)))
        |>.next (.withDefault boolean_faithful fun _ => boolean_kept _ _)
        |>.next (.withDefault (word_faithful primitiveKind_found)
          fun _ => word_kept primitiveKind_found _ _)) ?_)
      · exact fun _ _ _ _ _ => rfl
      · decide
    · refine Case.map_faithful (Case.record_faithful (Law.first (.required text_faithful) ?_
        |>.next (.optional text_faithful fun _ _ _ => nofun)
        |>.next (.withDefault (listOf_faithful property_faithful) fun enough => listOf_nil (by omega))
        |>.next (.optional text_faithful fun _ _ _ => nofun)
        |>.next (.optional text_faithful fun _ _ _ => nofun)
        |>.next (.optional text_faithful fun _ _ _ => nofun)
        |>.next (.unlessEmpty text_faithful)
        |>.next (.optional (xmlRoot_faithful.mono (by decide)) fun _ _ _ => nofun)) ?_)
      · intro name description properties discriminator discriminatorValue base derived xml
        cases derived <;> rfl
      · decide
    · refine Case.record_faithful (.first (.required text_faithful) ?_) ?_
      · exact fun _ => rfl
      · decide
    · refine Case.record_faithful (.first (.required text_faithful) ?_) ?_
      · exact fun _ => rfl
      · decide
    · refine Case.record_faithful (.first (.required text_faithful) ?_) ?_
      · exact fun _ => rfl
      · decide
  · decide

/-- Entries inserted one by one stay sorted, and each was read. -/
theorem schemaTable_entries {origin : Origin} {members : List (Node × Node)}
    {table made : List (SchemaId × Schema)} {Good : Schema → Prop} (sorted : SortedKeys table)
    (good : ∀ entry ∈ table, Good entry.2)
    (each : ∀ member ∈ members, ∀ read, schema origin member.2 = .ok read → Good read)
    (spelled : members.foldlM
      (fun table (key, node) => do
        let id ← text origin key
        let schema ← schema origin node
        pure (insertSorted id schema table)) table = .ok made) :
    SortedKeys made ∧ ∀ entry ∈ made, Good entry.2 := by
  induction members generalizing table with
  | nil =>
      cases spelled
      exact ⟨sorted, good⟩
  | cons member rest ih =>
      obtain ⟨here, later⟩ := List.forall_mem_cons.mp each
      rw [List.foldlM_cons] at spelled
      obtain ⟨grown, one, spelled⟩ := bind_eq_ok spelled
      obtain ⟨id, -, one⟩ := bind_eq_ok one
      obtain ⟨read, spelling, same⟩ := bind_eq_ok one
      cases same
      refine ih (insertSorted_sorted id read sorted) (fun entry inside => ?_) later spelled
      rcases mem_insertSorted inside with new | old
      · rw [new]
        exact here read spelling
      · exact good entry old

/-- Written entries are inserted as they stand. -/
theorem schemaTable_written {origin : Origin} {entries table : List (SchemaId × Schema)}
    (back : ∀ entry ∈ entries, schema origin (.ofJson entry.2.toJson) = .ok entry.2) :
    (Node.ofJsonMembers (entries.map fun (id, schema) => (id, schema.toJson))).foldlM
      (fun table (key, node) => do
        let id ← text origin key
        let schema ← schema origin node
        pure (insertSorted id schema table)) table =
      .ok (entries.foldl (fun sorted entry => insertSorted entry.1 entry.2 sorted) table) := by
  induction entries generalizing table with
  | nil => rfl
  | cons entry rest ih =>
      obtain ⟨here, later⟩ := List.forall_mem_cons.mp back
      rw [List.map_cons, Node.ofJsonMembers, List.foldlM_cons, List.foldl_cons, ← ih later]
      dsimp only
      rw [here]
      rfl

theorem schemaTable_nil {levels : Nat} (enough : 1 ≤ levels) :
    Kept schemaTable (fun table => .object (table.map fun (id, schema) => (id, schema.toJson)))
      levels [] := by
  obtain ⟨levels, rfl⟩ := Nat.exists_eq_add_of_le' enough
  exact ⟨.object List.nodup_nil (List.forall_mem_nil _), fun _ _ => rfl⟩

theorem schemaTable_faithful : Faithful schemaTable
    (fun table => .object (table.map fun (id, schema) => (id, schema.toJson))) 5 := by
  constructor
  intro levels origin node table enough here plain spelled
  rw [schemaTable, plain.bare] at spelled
  cases plain with
  | @mapping levels members keys values =>
      obtain ⟨sorted, kept⟩ :=
        @schemaTable_entries origin members [] table (Kept schema Schema.toJson levels) List.Pairwise.nil
          (List.forall_mem_nil _)
          (fun member inside _ => schema_faithful.kept (by omega) here (values member inside)) spelled
      constructor
      · refine .object ?_ (List.forall_mem_map.mpr fun entry inside => (kept entry inside).carried)
        rw [List.map_map]
        exact sorted.nodup
      · intro origin here
        have written := @schemaTable_written origin table []
          fun entry inside => (kept entry inside).back origin here
        exact written.trans (congrArg Except.ok (sortEntries_of_sorted sorted))
  | _ => cases spelled

/-! Operations. -/

theorem code?_eq_some {node : Node} {value : Nat} (read : code? node = some value) :
    node = .int value ∧ value < 65536 := by
  rw [code?.eq_def] at read
  split at read
  next n =>
    split at read
    next fits =>
      cases read
      exact ⟨congrArg Node.int (Int.toNat_of_nonneg fits.1).symm, by omega⟩
    next => cases read
  next => cases read

theorem code?_int {value : Nat} (fits : value < 65536) : code? (.int value) = some value := by
  rw [code?, if_pos ⟨by omega, by omega⟩, Int.toNat_natCast]

theorem statusCode_code {n : Int} {value : Nat} (read : code? (.int n) = some value)
    (origin : Origin) : statusCode origin (.int n) = .ok (.code value) := by
  simp [statusCode, Node.settle?, read]

theorem statusCode_range {a b : Int} {first last : Nat} (readFirst : code? (.int a) = some first)
    (readLast : code? (.int b) = some last) (origin : Origin) :
    statusCode origin (.mapping [(.string "from", .int a), (.string "to", .int b)]) =
      .ok (.range first last) := by
  simp [statusCode, Node.settle?, Node.settleMembers?, occurrences, isKey, isFieldKey,
    Node.keyText?, readFirst, readLast]

theorem code_kept {value levels : Nat} (fits : value < 65536) :
    Kept statusCode StatusCode.toJson levels (.code value) := by
  constructor
  · exact .int ⟨by omega, by omega⟩
  · exact fun origin _ => statusCode_code (code?_int fits) origin

theorem range_kept {first last levels : Nat} (fitsFirst : first < 65536) (fitsLast : last < 65536) :
    Kept statusCode StatusCode.toJson (levels + 1) (.range first last) := by
  constructor
  · have distinct : ["from", "to"].Nodup := by decide
    refine .object distinct ?_
    rintro member (inside | ⟨_, inside | ⟨_, inside⟩⟩)
    · exact .int ⟨by omega, by omega⟩
    · exact .int ⟨by omega, by omega⟩
    · cases inside
  · exact fun origin _ => statusCode_range (code?_int fitsFirst) (code?_int fitsLast) origin

theorem statusCode_faithful {floor : Nat} : Faithful statusCode StatusCode.toJson floor := by
  constructor
  intro levels origin node status _ _ plain read
  rw [statusCode] at read
  split at read
  next => cases read
  next members settles =>
    have same := plain.settle? settles
    split at read
    next =>
      split at read
      next first last _ =>
        cases read
        subst same
        cases plain
        exact range_kept (code?_eq_some (by assumption)).2 (code?_eq_some (by assumption)).2
      next => cases read
    next => cases read
  next =>
    split at read
    next fits =>
      cases read
      exact code_kept (code?_eq_some fits).2
    next => cases read

theorem responseBody_faithful {floor : Nat} :
    Faithful responseBody ResponseBody.toJson (floor + 1) := by
  refine tagged_faithful (fun case member => ?_) ?_
  · simp only [List.mem_cons, List.not_mem_nil, or_false] at member
    rcases member with rfl | rfl | rfl
    · exact Case.unit_faithful rfl
    · refine Case.record_faithful (Law.first (.required text_faithful) ?_
        |>.next (.withDefault (word_faithful wireFormat_found)
          fun _ => word_kept wireFormat_found _ _)) ?_
      · exact fun _ _ => rfl
      · decide
    · exact Case.unit_faithful rfl
  · decide

theorem noBody_kept {levels : Nat} (enough : 1 ≤ levels) :
    Kept responseBody ResponseBody.toJson levels .none := by
  obtain ⟨levels, rfl⟩ := Nat.exists_eq_add_of_le' enough
  have distinct : ["kind"].Nodup := by decide
  exact ⟨.object distinct (List.forall_mem_singleton.mpr .string), fun _ _ => rfl⟩

theorem headerField_faithful : Faithful headerField HeaderField.toJson 1 := by
  refine record_faithful (Law.first (.required text_faithful) ?_
    |>.next (.required text_faithful)
    |>.next (.required text_faithful)) ?_
  · exact fun _ _ _ => rfl
  · decide

theorem headerModel_faithful : Faithful headerModel HeaderModel.toJson 3 := by
  refine record_faithful (Law.first (.required text_faithful) ?_
    |>.next (.required (listOf_faithful headerField_faithful))) ?_
  · exact fun _ _ => rfl
  · decide

/-- An omitted body is written as the case without one, which takes a level of its own. -/
theorem response_faithful : Faithful response Response.toJson 4 := by
  refine record_faithful (Law.first (.required (listOf_faithful statusCode_faithful)) ?_
    |>.next (.withDefault responseBody_faithful fun enough => noBody_kept (by omega))
    |>.next (.optional headerModel_faithful fun _ _ _ => nofun)) ?_
  · exact fun _ _ _ => rfl
  · decide

theorem routeSegment_faithful {floor : Nat} :
    Faithful routeSegment RouteSegment.toJson (floor + 1) := by
  refine tagged_faithful (fun case member => ?_) ?_
  · simp only [List.mem_cons, List.not_mem_nil, or_false] at member
    rcases member with rfl | rfl
    · refine Case.record_faithful (.first (.required text_faithful) ?_) ?_
      · exact fun _ => rfl
      · decide
    · refine Case.record_faithful (Law.first (.required text_faithful) ?_
        |>.next (.withDefault boolean_faithful fun _ => boolean_kept _ _)) ?_
      · exact fun _ _ => rfl
      · decide
  · decide

theorem parameter_faithful {floor : Nat} : Faithful parameter Parameter.toJson (floor + 1) := by
  refine record_faithful (Law.first (.required text_faithful) ?_
    |>.next (.optional text_faithful fun _ _ _ => nofun)
    |>.next (.required text_faithful)
    |>.next (.required (word_faithful parameterLocation_found))
    |>.next (.optional text_faithful fun _ _ _ => nofun)
    |>.next (.withDefault boolean_faithful fun _ => boolean_kept _ _)
    |>.next (.optional anything_faithful anything_nullsApart)
    |>.next (.optional anything_faithful anything_nullsApart)
    |>.next (.withDefault (word_faithful listStyle_found) fun _ => word_kept listStyle_found _ _)
    |>.next (.withDefault boolean_faithful fun _ => boolean_kept _ _)
    |>.next (.withDefault boolean_faithful fun _ => boolean_kept _ _)) ?_
  · intro name description schema location serializedName required default constant
    cases default <;> cases constant <;> exact fun _ _ _ => rfl
  · decide

theorem bodyInitializer_faithful : Faithful bodyInitializer BodyInitializer.toJson 1 := by
  refine record_faithful (Law.first (.required text_faithful) ?_
    |>.next (.required text_faithful)) ?_
  · exact fun _ _ => rfl
  · decide

theorem requestBody_faithful : Faithful requestBody RequestBody.toJson 3 := by
  refine tagged_faithful (fun case member => ?_) ?_
  · simp only [List.mem_cons, List.not_mem_nil, or_false] at member
    rcases member with rfl | rfl | rfl | rfl
    · refine Case.record_faithful (Law.first (.required text_faithful) ?_
        |>.next (.withDefault (word_faithful wireFormat_found)
          fun _ => word_kept wireFormat_found _ _)
        |>.next (.optional text_faithful fun _ _ _ => nofun)) ?_
      · exact fun _ _ _ => rfl
      · decide
    · refine Case.record_faithful (Law.first (.required text_faithful) ?_
        |>.next (.optional text_faithful fun _ _ _ => nofun)) ?_
      · exact fun _ _ => rfl
      · decide
    · refine Case.record_faithful (Law.first (.required text_faithful) ?_
        |>.next (.optional text_faithful fun _ _ _ => nofun)) ?_
      · exact fun _ _ => rfl
      · decide
    · refine Case.record_faithful (Law.first (.required text_faithful) ?_
        |>.next (.required (listOf_faithful bodyInitializer_faithful))
        |>.next (.withDefault (word_faithful wireFormat_found)
          fun _ => word_kept wireFormat_found _ _)
        |>.next (.optional text_faithful fun _ _ _ => nofun)) ?_
      · exact fun _ _ _ _ => rfl
      · decide
  · decide

theorem operation_faithful : Faithful operation Operation.toJson 6 := by
  refine record_faithful (Law.first (.required text_faithful) ?_
    |>.next (.optional text_faithful fun _ _ _ => nofun)
    |>.next (.required (word_faithful httpMethod_found))
    |>.next (.withDefault (listOf_faithful routeSegment_faithful) fun enough => listOf_nil (by omega))
    |>.next (.withDefault (listOf_faithful parameter_faithful) fun enough => listOf_nil (by omega))
    |>.next (.optional (requestBody_faithful.mono (by decide)) fun {_ _ _ body} _ _ _ => ?_)
    |>.next (.withDefault (listOf_faithful response_faithful) fun enough => listOf_nil (by omega))) ?_
  · exact fun _ _ _ _ _ _ _ => rfl
  · cases body <;> nofun
  · decide

theorem model_faithful : Faithful model Model.toJson 8 := by
  refine record_faithful (Law.first (.required text_faithful) ?_
    |>.next (.optional text_faithful fun _ _ _ => nofun)
    |>.next (.withDefault (schemaTable_faithful.mono (by decide))
      fun enough => schemaTable_nil (by omega))
    |>.next (.withDefault (listOf_faithful operation_faithful) fun enough => listOf_nil (by omega))) ?_
  · exact fun _ _ _ _ => rfl
  · decide

end ApiContract.Reading

namespace ApiContract.Model

/-- The compact text of the document of a model describes this very model. -/
theorem ofJsonText_compact {text : String} {model : Model} (read : ofJsonText text = .ok model) :
    ofJsonText model.toJson.compact = .ok model := by
  have described : ∃ node, Json.nodeOfText? text = some node ∧
      Reading.model .direct node = .ok model := by
    rw [ofJsonText] at read
    split at read
    next => cases read
    next node spelled =>
      split at read
      next described =>
        cases read
        exact ⟨node, spelled, described⟩
      next => cases read
  obtain ⟨node, spelled, described⟩ := described
  have enough : 8 ≤ Json.depthLimit := by decide
  have here : Document.Origin.direct ≠ .layout := nofun
  have kept := Reading.model_faithful.kept enough here (Json.nodeOfText?_plain spelled) described
  rw [ofJsonText, Json.nodeOfText?_compact kept.carried]
  dsimp only
  rw [kept.back .direct here]

-- Records in sequence and by name, a tag in front, a word as a member, another name of a word, an id
-- given twice, a key that no record knows, and defaults left out.
def shelfText : String :=
  "[\"shelf\",null,\x7b\"t\":[\"primitive\",\"uri\"],\"t\":[\"primitive\",\"string\"]," ++
    "\"book\":[\"object\",\"Book\",null,[[\"title\",\"Title\",\"t\",true]]]\x7d," ++
    "[\x7b\"name\":\"find\",\"method\":\x7b\"GET\":null\x7d,\"since\":2,\"parameters\":[" ++
    "\x7b\"name\":\"q\",\"schema\":\"t\",\"location\":\"query\",\"style\":\"simple\"," ++
    "\"default-value\":-0\x7d],\"responses\":[[[200]]]\x7d]]"

def shelf : Model where
  name := "shelf"
  schemas :=
    [("book", .object
      { name := "Book"
        properties := [{ name := "title", serializedName := "Title", schema := "t", required := true }] }),
     ("t", .primitive .string none)]
  operations :=
    [{ name := "find"
       method := .get
       parameters :=
        [{ name := "q", schema := "t", location := .query, defaultValue := some (.float (.zero true)) }]
       responses := [{ statusCodes := [.code 200] }] }]

theorem shelf_compact :
    ofJsonText shelfText = .ok shelf ∧ ofJsonText shelf.toJson.compact = .ok shelf := by
  have read : ofJsonText shelfText = .ok shelf := by decide +kernel
  exact ⟨read, ofJsonText_compact read⟩

end ApiContract.Model
