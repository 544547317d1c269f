import ApiContract.Proofs.Json.RoundTrip
import ApiContract.Proofs.Json.Steps
import ApiContract.Proofs.Json.Text

/-!
Whatever reading makes of a foreign document conforms to the plan it was read through, so one read
normalizes: what is written from it is read as the same value again. Two conditions keep readers and
writers apart. A closed enum of whole numbers takes its texts as they are spelled, so these have to
be spelled as numbers are written; and a null that a default puts in the place of an absent
property is not the null of a nullable one.
-/

namespace ApiContract

namespace Json

/-- The documents there are: numbers in range, each key once. -/
def WellFormed (document : Json) : Prop := ∃ levels, Carried levels document

theorem WellFormed.item {items : List Json} (formed : WellFormed (.array items)) :
    ∀ item ∈ items, WellFormed item := by
  obtain ⟨levels, carried⟩ := formed
  cases carried with
  | array each => exact fun item member => ⟨_, each item member⟩

theorem WellFormed.member {members : List (String × Json)} (formed : WellFormed (.object members)) :
    ∀ member ∈ members, WellFormed member.2 := by
  obtain ⟨levels, carried⟩ := formed
  cases carried with
  | object _ each => exact fun member inside => ⟨_, each member inside⟩

theorem WellFormed.lookup {members : List (String × Json)} (formed : WellFormed (.object members))
    {key : String} {document : Json} (found : members.lookup key = some document) :
    WellFormed document :=
  formed.member (key, document) (mem_of_lookup found)

end Json

namespace Scalar

open Decimal (Binary64)

/-- A closed enum of whole numbers spells its members as numbers are written. -/
def Canonical : ScalarKind → Prop
  | .enumeration values => values.extensible = false → values.underlying.isInteger = true →
      ∀ raw ∈ values.values, ∃ n : Int, raw = toString n
  | _ => True

theorem ofInt_finite {n : Int} (fits : Json.FitsNumber n) : (Binary64.ofInt n).isFinite = true := by
  obtain ⟨low, high⟩ := fits
  apply Binary64.ofInt_isFinite
  have power : Decimal.twoTo 65 = 0x20000000000000000 := by decide
  rw [power]
  omega

/-- A member that is read from a text is one that can be written. -/
theorem ofText_member {values : EnumValues} {text : String} {value : Value}
    (canonical : Canonical (.enumeration values))
    (read : ofText (.enumeration values) text = .ok value) :
    FitsJson (.enumeration values) value := by
  obtain ⟨_, checked, rest⟩ := bind_eq_ok read
  have declared := checkMember_eq_ok checked
  cases whole : values.underlying.isInteger with
  | false =>
      rw [whole] at rest
      cases rest
      exact .memberText whole declared
  | true =>
      rw [whole, if_pos rfl, ofText.whole] at rest
      split at rest
      next n spelled =>
        obtain ⟨narrow, width, same⟩ := map_eq_ok rest
        obtain ⟨equal, -⟩ := checkWidth_eq_ok width
        subst same equal
        refine .memberInt whole ?_
        cases extensible : values.extensible with
        | true => exact .inl extensible
        | false =>
            have listed : text ∈ values.values := by simpa [Declared, extensible] using declared
            obtain ⟨m, spelling⟩ := canonical extensible whole text listed
            -- The text of a number is the one spelling that its value has.
            rw [spelling, trim_toString, readInt64, Decimal.readInt_toString, Option.bind_some] at spelled
            rw [int64?_eq_some spelled, ← spelling]
            exact declared
      next => cases rest

/-- A text that is read as neither a number nor a float is plain text or bytes. -/
theorem fits_of_ofText {kind : PrimitiveKind} {format : Option PrimitiveFormat} {text : String}
    {value : Value} (notWhole : isWhole kind format = false) (notFloat : kind.isFloat = false)
    (noFlag : kind ≠ .boolean) (notAny : kind ≠ .any)
    (read : ofText (.primitive kind format) text = .ok value) :
    FitsJson (.primitive kind format) value := by
  by_cases isBytes : kind = .bytes
  · subst isBytes
    obtain ⟨content, -, same⟩ := map_eq_ok read
    exact same ▸ .bytes
  · have plain : isPlainText kind = true := by
      cases kind <;> simp_all [isPlainText, isWhole, PrimitiveKind.isInteger, PrimitiveKind.isFloat]
    rw [ofText_plain plain notWhole] at read
    cases read
    exact .text plain notWhole

/-- A scalar that is read from a document is one that can be written. -/
theorem fits_of_ofJson {kind : ScalarKind} {document : Json} {value : Value}
    (canonical : Canonical kind) (formed : document.WellFormed)
    (read : ofJson kind document = .ok value) : FitsJson kind value := by
  unfold ofJson at read
  split at read
  next =>
    cases read
    exact .any trivial
  next =>
    split at read
    next => exact ofText_member canonical read
    next => exact ofText_member canonical read
    next => exact ofText_member canonical read
    next => cases read
  next =>
    split at read
    next =>
      cases read
      exact .bool
    next => cases read
  next =>
    cases read
    exact .raw trivial
  next prim format noFlag notAny =>
    split at read
    next whole =>
      split at read
      next n =>
        split at read
        next narrow inRange =>
          obtain ⟨checked, width, same⟩ := map_eq_ok read
          obtain ⟨equal, fits⟩ := checkWidth_eq_ok width
          subst same equal
          exact .whole whole fits
        next => cases read
      next => cases read
    next notWhole =>
      split at read
      next isFloat =>
        obtain ⟨levels, carried⟩ := formed
        split at read
        next n =>
          cases read
          cases carried with
          | int fits => exact .float isFloat (ofInt_finite fits)
        next x =>
          cases read
          cases carried with
          | float finite => exact .float isFloat finite
        next => cases read
      next notFloat =>
        split at read
        next text =>
          exact fits_of_ofText (by simpa using notWhole) (by simpa using notFloat)
            noFlag notAny read
        next => cases read

theorem ofText_member_ne {values : EnumValues} {text : String} {raw : Json} :
    ofText (.enumeration values) text ≠ .ok (.json raw) := by
  intro read
  obtain ⟨_, -, rest⟩ := bind_eq_ok read
  split at rest
  next =>
    rw [ofText.whole] at rest
    split at rest
    next =>
      obtain ⟨n, -, same⟩ := map_eq_ok rest
      cases same
    next => cases rest
  next => cases rest

/-- A scalar that is read as a raw document is the document. -/
theorem ofJson_raw {kind : ScalarKind} {document raw : Json}
    (read : ofJson kind document = .ok (.json raw)) : raw = document := by
  unfold ofJson at read
  split at read
  next =>
    cases read
    rfl
  next =>
    split at read
    next => exact absurd read ofText_member_ne
    next => exact absurd read ofText_member_ne
    next => exact absurd read ofText_member_ne
    next => cases read
  next => split at read <;> cases read
  next =>
    cases read
    rfl
  next prim format noFlag notAny =>
    split at read
    next =>
      split at read
      next =>
        split at read
        next =>
          obtain ⟨n, -, same⟩ := map_eq_ok read
          cases same
        next => cases read
      next => cases read
    next notWhole =>
      split at read
      next => split at read <;> cases read
      next notFloat =>
        split at read
        next text =>
          have fits := fits_of_ofText (by simpa using notWhole) (by simpa using notFloat) noFlag notAny read
          cases fits with
          | raw => exact absurd rfl notAny
        next => cases read

end Scalar

namespace ValuePlan

/-- All scalars of a plan of values are canonical. -/
def Canonical : ValuePlan → Prop
  | .scalar kind => Scalar.Canonical kind
  | .list element => element.Canonical
  | .dictionary entry => entry.Canonical
  | .reference _ => True

end ValuePlan

namespace JsonForm

open Planning

/-- The scalars of an object are canonical, and its defaults are documents other than null, which
declares none. -/
def RegularObject (plan : ObjectPlan) : Prop :=
  ∀ property ∈ plan.properties, property.value.Canonical ∧
    ∀ document, property.default = some document → document.WellFormed ∧ document ≠ .null

/-- What one plan on its own has to promise for reading to be undone. -/
def Regular : WirePlan → Prop
  | .object plan => RegularObject plan
  | .hierarchy plan => RegularObject plan.base
  | .value plan => plan.Canonical
  | _ => True

/-- A plan and all plans of objects that it leads to are tidy and regular, where they exist. -/
structure Normal (model : Model) (plan : WirePlan) : Prop where
  regular : Regular plan
  tidy : Tidy model plan
  reached : ∀ schema, Reachable model plan schema → ∀ nested,
    model.planOf schema .json = .ok nested → Regular nested ∧ Tidy model nested

variable {model : Model}

theorem Normal.part {plan part : WirePlan} (normal : Normal model plan) (regular : Regular part)
    (tidy : Tidy model part) (subset : part.references ⊆ plan.references) : Normal model part :=
  ⟨regular, tidy, fun schema reachable => normal.reached schema (reachable.mono subset)⟩

theorem Normal.linked {plan nested : WirePlan} {linked : SchemaId} (normal : Normal model plan)
    (member : linked ∈ plan.references) (planned : model.planOf linked .json = .ok nested) :
    Normal model nested := by
  obtain ⟨regular, tidy⟩ := normal.reached linked (.direct member) nested planned
  exact ⟨regular, tidy, fun schema reachable =>
    normal.reached schema (reachable.through member planned)⟩

theorem Normal.property {plan : ObjectPlan} (normal : Normal model (.object plan))
    {property : PropertyPlan} (member : property ∈ plan.properties) :
    Normal model (.value property.value) := by
  refine normal.part (normal.regular property member).1 trivial ?_
  intro schema refers
  exact List.mem_flatMap.mpr ⟨property, member, refers⟩

theorem Normal.base {plan : HierarchyPlan} (normal : Normal model (.hierarchy plan)) :
    Normal model (.object plan.base) :=
  normal.part normal.regular normal.tidy.1 (List.subset_append_left _ _)

theorem Conforms.ne_null {plan : WirePlan} {value : Value} (conforms : Conforms model plan value) :
    value ≠ .null := by
  induction conforms with
  | scalar fits => rintro rfl; cases fits
  | reference _ _ ih => exact ih
  | _ => simp

/-- What is read as a raw document is the document. -/
theorem ReadsWithin.raw {fuel : Nat} {plan : WirePlan} {document raw : Json} {value : Value}
    (reads : ReadsWithin model fuel plan document value) (isRaw : value = .json raw) :
    raw = document := by
  induction fuel generalizing plan document value with
  | zero => cases reads
  | succ fuel ih =>
      have step := readWithin_succ.mp reads
      cases step with
      | scalar read => exact Scalar.ofJson_raw (isRaw ▸ read)
      | reference _ read => exact ih read isRaw
      | _ => cases isRaw

section Records
variable {plan : ObjectPlan} {members : List (String × Json)} {made : PropertyPlan → Option Value}

theorem lookup_readFields (distinct : (plan.properties.map (·.name)).Nodup) {property : PropertyPlan}
    (member : property ∈ plan.properties) :
    (sortEntries (entriesOf (·.name) made plan.properties)).lookup property.name = made property := by
  rw [lookup_sortEntries (distinct.sublist (keys_entriesOf _ _ _)), lookup_entriesOf distinct member]

/-- A record that is read conforms, where the values of its properties do. -/
theorem readFields_conforms {fuel : Nat} (distinct : Distinct plan) (regular : RegularObject plan)
    (reads : ReadsProperties (ReadsWithin model fuel) plan members made)
    (conforms : ∀ property ∈ plan.properties, ∀ document value,
      (members.lookup property.wireName = some document ∨ property.default = some document) →
      ReadsWithin model fuel (.value property.value) document value →
        Conforms model (.value property.value) value) :
    Conforms model (.object plan) (readFields plan made) := by
  have found := fun property member => @lookup_readFields plan made distinct.1 property member
  rw [readFields, Value.ofFields_eq]
  refine .object ⟨sortEntries_sorted _, ?_, ?_, ?_, ?_⟩ ?_
  · intro name listed
    obtain ⟨entry, member, same⟩ := List.mem_map.mp listed
    have inside := List.mem_map_of_mem (f := Prod.fst) (mem_of_mem_sortEntries member)
    exact same ▸ (keys_entriesOf _ _ _).subset inside
  · intro property member missing
    rw [found property member] at missing
    have read := reads property member
    rw [missing] at read
    cases read with
    | skip _ none optional => exact ⟨optional, none⟩
  · intro property member isNull
    rw [found property member] at isNull
    have read := reads property member
    rw [isNull] at read
    cases read with
    | null _ counts => simpa using counts
    | member present _ done =>
        exact absurd rfl (conforms property member _ _ (.inl present) done).ne_null
    | default _ declared done =>
        exact absurd rfl (conforms property member _ _ (.inr declared) done).ne_null
  · intro property member isRaw
    rw [found property member] at isRaw
    have read := reads property member
    rw [isRaw] at read
    cases read with
    | member present notNull done => exact notNull (done.raw rfl).symm
    | default _ declared done =>
        exact ((regular property member).2 _ declared).2 (done.raw rfl).symm
  · intro property member value present notNull
    rw [found property member] at present
    have read := reads property member
    rw [present] at read
    cases read with
    | null => exact absurd rfl notNull
    | member present _ done => exact conforms property member _ _ (.inl present) done
    | default _ declared done => exact conforms property member _ _ (.inr declared) done

end Records

/-- Whatever is read conforms to the plan. -/
theorem ReadsWithin.conforms {fuel : Nat} {plan : WirePlan} {document : Json} {value : Value}
    (reads : ReadsWithin model fuel plan document value) (normal : Normal model plan)
    (formed : document.WellFormed) : Conforms model plan value := by
  induction fuel generalizing plan document value with
  | zero => cases reads
  | succ fuel ih =>
      -- The fields of a record, whether it is read as itself or as the base of a hierarchy.
      have record : ∀ {plan : ObjectPlan} {members made}, Normal model (.object plan) →
          (Json.object members).WellFormed →
          ReadsProperties (ReadsWithin model fuel) plan members made →
          Conforms model (.object plan) (readFields plan made) := by
        intro plan members made normal formed each
        apply readFields_conforms normal.tidy normal.regular each
        intro property member document value origin read
        apply ih read (normal.property member)
        rcases origin with present | declared
        · exact formed.lookup present
        · exact ((normal.regular property member).2 document declared).1
      have step := readWithin_succ.mp reads
      cases step with
      | scalar read => exact .scalar (Scalar.fits_of_ofJson normal.regular formed read)
      | list each =>
          refine .list fun item member => ?_
          obtain ⟨part, inside, read⟩ := exists_of_forall₂ each member
          exact ih read (normal.part normal.regular trivial (List.Subset.refl _))
            (formed.item part inside)
      | dictionary each =>
          rw [Value.ofEntries_eq]
          refine .dictionary (sortEntries_sorted _) fun item member => ?_
          obtain ⟨part, inside, read, -⟩ := exists_of_forall₂ each (mem_of_mem_sortEntries member)
          exact ih read (normal.part normal.regular trivial (List.Subset.refl _))
            (formed.member part inside)
      | reference planned read =>
          exact .reference planned (ih read (normal.linked List.mem_cons_self planned) formed)
      | object each => exact record normal formed each
      | @variant plan members selector choice nested value selects chosen planned read =>
          have selected : choice.value = selector := by simpa using List.find?_some chosen
          subst selected
          have listed := HierarchyPlan.refers (List.mem_of_find?_eq_some chosen)
          exact .variant chosen planned (ih read (normal.linked listed planned) formed)
      | unknown selects unknown each => exact .unknown unknown (record normal.base formed each)
      | base noSelector each => exact .base (record normal.base formed each)

end JsonForm

end ApiContract
