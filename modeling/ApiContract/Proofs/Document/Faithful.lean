import ApiContract.Document.Shape
import ApiContract.Model.Writing
import ApiContract.Proofs.Document.Plain
import ApiContract.Proofs.Value.Entries

/-!
Readers that a writer undoes. What a faithful reader makes of a tree that a text spells is written as
a document no deeper than the tree, and the tree of that document is read as the same value. The
leaves are read so, and a list or a value that may be absent where its parts are. Each field of a
record has a slot in what is written: a value that is kept, or nothing where what stands for its
absence was read. The fields make the same of their slots wherever these stand, so a record is read
faithfully in any spelling.
-/

namespace ApiContract.Document

open Json (Carried)

variable {α β : Type} {read : Reader α} {write : α → Json} {floor levels : Nat}

/-- The value is written as a carried document that is read as the value. -/
structure Kept (read : Reader α) (write : α → Json) (levels : Nat) (a : α) : Prop where
  carried : Carried levels (write a)
  back : ∀ origin, origin ≠ .layout → read origin (.ofJson (write a)) = .ok a

/-- Whatever is read is kept, given room for `floor` levels: what stands for an absent field may be
written with more levels than were read. -/
structure Faithful (read : Reader α) (write : α → Json) (floor : Nat) : Prop where
  kept : ∀ {levels : Nat} {origin : Origin} {node : Node} {a : α}, floor ≤ levels →
    origin ≠ .layout → Plain levels node → read origin node = .ok a → Kept read write levels a

theorem Faithful.of_kept (kept : ∀ levels a, Kept read write levels a) :
    Faithful read write floor :=
  ⟨fun _ _ _ _ => kept _ _⟩

theorem Faithful.mono {more : Nat} (faithful : Faithful read write floor) (le : floor ≤ more) :
    Faithful read write more :=
  ⟨fun enough => faithful.kept (le.trans enough)⟩

section Leaves

theorem text_faithful : Faithful text .string floor := .of_kept fun _ _ => ⟨.string, fun _ _ => rfl⟩

theorem boolean_kept (levels : Nat) (a : Bool) : Kept boolean .bool levels a :=
  ⟨.bool, fun _ _ => rfl⟩

theorem boolean_faithful : Faithful boolean .bool floor := .of_kept boolean_kept

/-- A word is written with the spelling that is its name. -/
theorem word_kept {spellings : List (String × α)} {name : α → String}
    (found : ∀ a, spellings.lookup (name a) = some a) (levels : Nat) (a : α) :
    Kept (word spellings) (fun a => .string (name a)) levels a := by
  refine ⟨.string, fun origin _ => ?_⟩
  rw [Node.ofJson, word, word.choose, found]

theorem word_faithful {spellings : List (String × α)} {name : α → String}
    (found : ∀ a, spellings.lookup (name a) = some a) :
    Faithful (word spellings) (fun a => .string (name a)) floor :=
  .of_kept (word_kept found)

theorem anything_faithful : Faithful anything (fun document => document) floor := by
  constructor
  intro levels origin node document _ _ plain read
  rw [anything] at read
  split at read
  next stands =>
    cases read
    have carried := plain.json? stands
    refine ⟨carried, fun origin _ => ?_⟩
    rw [anything, Json.json?_ofJson carried]
    exact congrArg Except.ok (Json.normalize_eq carried)
  next => cases read

end Leaves

section Lists

theorem Plain.bare {node : Node} (plain : Plain levels node) : node.bare = node := by
  cases plain <;> rfl

theorem listOf_faithful (faithful : Faithful read write floor) :
    Faithful (listOf read) (fun items => .array (items.map write)) (floor + 1) := by
  constructor
  intro levels origin node items enough here plain spelled
  rw [listOf, plain.bare] at spelled
  cases plain with
  | @sequence levels nodes each =>
      have kept : ∀ a ∈ items, Kept read write levels a := by
        intro a member
        obtain ⟨node, inside, same⟩ := mem_of_mapM_eq_ok spelled member
        exact faithful.kept (by omega) here (each node inside) same
      constructor
      · exact .array (List.forall_mem_map.mpr fun a member => (kept a member).carried)
      · intro origin here
        rw [Node.ofJson, Node.ofJsonItems_eq_map, List.map_map]
        exact mapM_map_eq_ok fun a member => (kept a member).back origin here
  | _ => cases spelled

/-- The empty list is read from any document that holds it. -/
theorem listOf_nil (enough : 1 ≤ levels) :
    Kept (listOf read) (fun items => .array (items.map write)) levels [] := by
  obtain ⟨levels, rfl⟩ := Nat.exists_eq_add_of_le' enough
  exact ⟨.array (List.forall_mem_nil _), fun _ _ => rfl⟩

end Lists

section Absence

theorem maybe_present {origin : Origin} {node : Node} (some : node ≠ .null)
    (settled : ∀ leaf, node ≠ .scalar leaf) : maybe read origin node = (read origin node).map .some := by
  cases node with
  | null => exact absurd rfl some
  | scalar leaf => exact absurd rfl (settled leaf)
  | _ => rfl

/-- Only null is written as null. -/
def NullsApart (read : Reader α) (write : α → Json) : Prop :=
  ∀ {levels : Nat} {origin : Origin} {node : Node} {a : α}, Plain levels node → node ≠ .null →
    read origin node = .ok a → write a ≠ .null

theorem anything_nullsApart : NullsApart anything fun document => document := by
  intro levels origin node document plain some read
  rw [anything] at read
  split at read
  next stands =>
    cases read
    cases plain with
    | null => exact absurd rfl some
    | bool | int | string =>
        cases stands
        intro same
        cases same
    | float finite =>
        rw [Node.json?, Node.finite, if_pos finite] at stands
        cases stands
        intro same
        cases same
    | unreadable => cases stands
    | sequence | mapping =>
        obtain ⟨parts, -, same⟩ := Option.map_eq_some_iff.mp stands
        subst same
        rw [Json.normalize]
        intro same
        cases same
  next => cases read

/-- A value that may be absent is kept where only null is written as null. -/
theorem maybe_faithful (faithful : Faithful read write floor) (apart : NullsApart read write) :
    Faithful (maybe read) (fun a => a.elim .null write) floor := by
  constructor
  intro levels origin node a enough here plain spelled
  by_cases null : node = .null
  · subst null
    cases spelled
    exact ⟨.null, fun _ _ => rfl⟩
  · have settled : ∀ leaf, node ≠ .scalar leaf := by
      rintro leaf rfl
      cases plain
    rw [maybe_present null settled] at spelled
    obtain ⟨b, same, rfl⟩ := map_eq_ok spelled
    have kept := faithful.kept enough here plain same
    refine ⟨kept.carried, fun origin here => ?_⟩
    have present := apart plain null same
    have written : ∀ document : Json, document ≠ .null → Node.ofJson document ≠ .null ∧
        ∀ leaf, Node.ofJson document ≠ .scalar leaf := by
      intro document some
      cases document with
      | null => exact absurd rfl some
      | _ => exact ⟨nofun, nofun⟩
    obtain ⟨notNull, settled⟩ := written (write b) present
    change maybe read origin (.ofJson (write b)) = .ok b
    rw [maybe_present notNull settled, kept.back origin here]
    rfl

end Absence

/-! Records. -/

/-- A field as it is written: its name and, unless it is left out, its value. -/
abbrev Slot := String × Option Json

/-- The members of a record that are written. -/
abbrev present (slots : List Slot) : List (String × Json) := entriesOf (·.1) (·.2) slots

theorem record_slots (slots : List Slot) :
    Json.record (slots.map fun slot => Json.memberIf slot.1 slot.2) = .object (present slots) := by
  rw [Json.record, List.filterMap_map]
  rfl

/-- The fields with these names make the value of every list of members that has their slots, among
whatever else. -/
structure Holds (fields : Fields α) (names : List String) (levels : Nat) (slots : List Slot) (a : α) :
    Prop where
  named : slots.map (·.1) = names
  carried : ∀ slot ∈ slots, ∀ value, slot.2 = some value → Carried levels value
  back : ∀ {origin : Origin} {taken : Nat} {members : List (String × Json)}, origin ≠ .layout →
    (members.map (·.1)).Nodup → (∀ slot ∈ slots, members.lookup slot.1 = slot.2) →
    fields.ofMembers origin taken (Node.ofJsonMembers members) = .ok a

/-- Whatever the fields make of members or of items, they make of its slots as well, and the slots are
such as `Written` tells of the value. -/
structure Law (fields : Fields α) (names : List String) (floor : Nat)
    (Written : α → List Slot → Prop) : Prop where
  ofMembers : ∀ {levels : Nat} {origin : Origin} {taken : Nat} {members : List (Node × Node)} {a : α},
    floor ≤ levels → origin ≠ .layout → (∀ member ∈ members, Plain levels member.2) →
    fields.ofMembers origin taken members = .ok a →
    ∃ slots, Written a slots ∧ Holds fields names levels slots a
  ofItems : ∀ {levels : Nat} {origin : Origin} {whole : String} {taken : Nat} {items rest : List Node}
    {a : α}, floor ≤ levels → origin ≠ .layout → (∀ item ∈ items, Plain levels item) →
    fields.ofItems origin whole taken items = .ok (a, rest) →
    (∃ slots, Written a slots ∧ Holds fields names levels slots a) ∧ ∀ item ∈ rest, item ∈ items

section OneField
variable {name : String} {absent : Option α} {slot : α → Option Json}

/-- Of members with distinct keys a name selects at most one. -/
theorem occurrences_ofJsonMembers (name : String) (place start : Nat)
    {members : List (String × Json)} (nodup : (members.map (·.1)).Nodup) :
    ∃ place', Fields.occurrences (Fields.isKey name place) start (Node.ofJsonMembers members) =
      ((members.lookup name).map fun value => (place', .ofJson value), none) := by
  induction members generalizing start with
  | nil => exact ⟨0, rfl⟩
  | cons first rest ih =>
      obtain ⟨key, value⟩ := first
      rw [List.map_cons, List.nodup_cons] at nodup
      obtain ⟨fresh, nodup⟩ := nodup
      obtain ⟨place', later⟩ := ih (start + 1) nodup
      have keyed : Fields.isKey name place (.string key) = (key == name) := rfl
      rw [Node.ofJsonMembers, Fields.occurrences, later, lookup_cons_if, keyed]
      by_cases same : name = key
      · subst same
        rw [lookup_eq_none.mpr fresh, if_pos rfl, beq_self_eq_true]
        exact ⟨start, rfl⟩
      · rw [if_neg same, beq_false_of_ne (Ne.symm same)]
        exact ⟨place', rfl⟩

theorem field_holds {a : α} (kept : slot a = some (write a) → Kept read write levels a)
    (slots : slot a = some (write a) ∨ slot a = none ∧ absent = some a) :
    Holds (Fields.field name read absent) [name] levels [(name, slot a)] a := by
  constructor
  · rfl
  · intro written inside value has
    cases List.mem_singleton.mp inside
    rcases slots with filled | ⟨empty, -⟩
    · rw [filled, Option.some.injEq] at has
      exact has ▸ (kept filled).carried
    · rw [empty] at has
      cases has
  · intro origin taken members here nodup agree
    obtain ⟨place, occurs⟩ := occurrences_ofJsonMembers name taken 0 nodup
    rw [agree _ (List.mem_singleton_self _)] at occurs
    rw [Fields.field]
    dsimp only
    rw [occurs]
    rcases slots with filled | ⟨empty, default⟩
    · rw [filled, Option.map_some]
      dsimp only
      rw [(kept filled).back origin here]
    · rw [empty, default]
      rfl

theorem mem_of_occurrences {selects : Node → Bool} {start place : Nat} {node : Node}
    {members : List (Node × Node)}
    (occurs : (Fields.occurrences selects start members).1 = some (place, node)) :
    ∃ key, (key, node) ∈ members := by
  induction members generalizing start with
  | nil => cases occurs
  | cons first rest ih =>
      rw [Fields.occurrences] at occurs
      dsimp only at occurs
      split at occurs
      next =>
        cases occurs
        exact ⟨first.1, List.mem_cons_self⟩
      next =>
        obtain ⟨key, inside⟩ := ih occurs
        exact ⟨key, List.mem_cons_of_mem _ inside⟩

/-- A field is filled from what was read, or with what stands for its absence. -/
theorem Law.field (faithful : Faithful read write floor)
    (default : ∀ {levels : Nat} {a : α}, floor ≤ levels → absent = some a →
      slot a = some (write a) → Kept read write levels a)
    (slots : ∀ a, slot a = some (write a) ∨ slot a = none ∧ absent = some a) :
    Law (Fields.field name read absent) [name] floor fun a all => all = [(name, slot a)] := by
  constructor
  · intro levels origin taken members a enough here plain made
    have holds : (slot a = some (write a) → Kept read write levels a) →
        ∃ all, all = [(name, slot a)] ∧
          Holds (Fields.field name read absent) [name] levels all a :=
      fun kept => ⟨_, rfl, field_holds kept (slots a)⟩
    apply holds
    rw [Fields.field] at made
    dsimp only at made
    split at made
    next =>
      split at made
      next =>
        cases made
        exact default enough rfl
      next => cases made
    next occurs =>
      split at made
      next => cases made
      next spelled =>
        split at made
        next => cases made
        next =>
          cases made
          obtain ⟨key, inside⟩ := mem_of_occurrences (congrArg Prod.fst occurs)
          exact fun _ => faithful.kept enough here (plain _ inside) spelled
  · intro levels origin whole taken items rest a enough here plain made
    rw [Fields.field] at made
    dsimp only at made
    split at made
    next =>
      split at made
      next =>
        cases made
        exact ⟨⟨_, rfl, field_holds (default enough rfl) (slots a)⟩, fun _ inside => inside⟩
      next => cases made
    next item others =>
      obtain ⟨b, spelled, same⟩ := map_eq_ok made
      cases same
      have kept := faithful.kept enough here (plain item List.mem_cons_self) spelled
      exact ⟨⟨_, rfl, field_holds (fun _ => kept) (slots a)⟩,
        fun _ inside => List.mem_cons_of_mem _ inside⟩

theorem Law.required (faithful : Faithful read write floor) :
    Law (Fields.required name read) [name] floor fun a all => all = [(name, some (write a))] :=
  .field faithful nofun fun _ => .inl rfl

theorem Law.withDefault {absent : α} (faithful : Faithful read write floor)
    (kept : ∀ {levels : Nat}, floor ≤ levels → Kept read write levels absent) :
    Law (Fields.withDefault name read absent) [name] floor
      fun a all => all = [(name, some (write a))] := by
  refine .field faithful (fun enough same _ => ?_) fun _ => .inl rfl
  cases same
  exact kept enough

/-- A list that is left out where it is empty. -/
theorem Law.unlessEmpty (faithful : Faithful read write floor) :
    Law (Fields.withDefault name (listOf read) []) [name] (floor + 1) fun items all =>
      all = [(name, if items.isEmpty then none else some (.array (items.map write)))] := by
  refine .field (listOf_faithful faithful) (fun enough same _ => ?_) fun items => ?_
  · cases same
    exact listOf_nil (by omega)
  · cases items with
    | nil => exact .inr ⟨rfl, rfl⟩
    | cons => exact .inl rfl

theorem Law.optional (faithful : Faithful read write floor) (apart : NullsApart read write) :
    Law (Fields.optional name read) [name] floor fun a all => all = [(name, a.map write)] := by
  refine .field (maybe_faithful faithful apart) (fun _ same => ?_) fun a => ?_
  · cases same
    nofun
  · cases a with
    | none => exact .inr ⟨rfl, rfl⟩
    | some => exact .inl rfl

end OneField

section Composition
variable {names : List String} {name : String} {slot : α → Option Json}

/-- The first field of a record. -/
theorem Law.first {make : α → β} {x : Fields α} {Written : β → List Slot → Prop}
    (law : Law x [name] floor fun a all => all = [(name, slot a)])
    (written : ∀ a, Written (make a) [(name, slot a)]) : Law (make <$> x) [name] floor Written := by
  constructor
  · intro levels origin taken members b enough here plain made
    obtain ⟨a, one, rfl⟩ := map_eq_ok made
    obtain ⟨_, rfl, holds⟩ := law.ofMembers enough here plain one
    refine ⟨_, written a, holds.named, holds.carried, fun here nodup agree => ?_⟩
    exact congrArg (Except.map make) (holds.back here nodup agree)
  · intro levels origin whole taken items rest b enough here plain made
    obtain ⟨⟨a, others⟩, one, same⟩ := map_eq_ok made
    cases same
    obtain ⟨⟨_, rfl, holds⟩, less⟩ := law.ofItems enough here plain one
    refine ⟨⟨_, written a, holds.named, holds.carried, fun here nodup agree => ?_⟩, less⟩
    exact congrArg (Except.map make) (holds.back here nodup agree)

theorem Holds.both {f : Fields (α → β)} {x : Fields α} {g : α → β} {a : α} {all more : List Slot}
    {names' : List String} (fields : Holds f names levels all g) (last : Holds x names' levels more a) :
    Holds (f <*> x) (names ++ names') levels (all ++ more) (g a) := by
  constructor
  · rw [List.map_append, fields.named, last.named]
  · intro written inside
    rcases List.mem_append.mp inside with earlier | later
    · exact fields.carried written earlier
    · exact last.carried written later
  · intro origin taken members here nodup agree
    have before := @Holds.back _ _ _ _ _ _ fields origin taken members here nodup
      fun written inside => agree written (List.mem_append_left _ inside)
    have after := @Holds.back _ _ _ _ _ _ last origin (taken + f.count) members here nodup
      fun written inside => agree written (List.mem_append_right _ inside)
    change (Fields.both f x).ofMembers _ _ _ = _
    rw [Fields.both]
    dsimp only
    rw [before, after]

/-- One more field of a record. -/
theorem Law.next {f : Fields (α → β)} {x : Fields α} {Written : β → List Slot → Prop}
    (law : Law f names floor fun g all => ∀ a, Written (g a) (all ++ [(name, slot a)]))
    (last : Law x [name] floor fun a all => all = [(name, slot a)]) :
    Law (f <*> x) (names ++ [name]) floor Written := by
  constructor
  · intro levels origin taken members b enough here plain made
    change (Fields.both f x).ofMembers _ _ _ = _ at made
    rw [Fields.both] at made
    dsimp only at made
    split at made
    next g a before after =>
      cases made
      obtain ⟨all, written, fields⟩ := law.ofMembers enough here plain before
      obtain ⟨_, rfl, one⟩ := last.ofMembers enough here plain after
      exact ⟨_, written a, fields.both one⟩
    next => cases made
    next => cases made
    next => cases made
  · intro levels origin whole taken items rest b enough here plain made
    change (Fields.both f x).ofItems _ _ _ _ = _ at made
    rw [Fields.both] at made
    obtain ⟨⟨g, others⟩, before, made⟩ := bind_eq_ok made
    obtain ⟨⟨a, remaining⟩, after, same⟩ := bind_eq_ok made
    cases same
    obtain ⟨⟨all, written, fields⟩, less⟩ := law.ofItems enough here plain before
    obtain ⟨⟨_, rfl, one⟩, less'⟩ :=
      last.ofItems enough here (fun item inside => plain item (less item inside)) after
    exact ⟨⟨_, written a, fields.both one⟩, fun item inside => less item (less' item inside)⟩

end Composition

section Records
variable {name : String} {fields : Fields α} {names : List String} {slots : List Slot} {a : α}

theorem isFieldKey_ofJsonMembers (members : List (String × Json)) :
    ((Node.ofJsonMembers members).all fun (key, _) => isFieldKey key) = true := by
  rw [Node.ofJsonMembers_eq_map, List.all_map]
  exact List.all_eq_true.mpr fun _ _ => rfl

theorem Holds.keys (holds : Holds fields names levels slots a) :
    ((present slots).map (·.1)).Sublist names :=
  holds.named ▸ keys_entriesOf _ _ slots

theorem Holds.values (holds : Holds fields names levels slots a) :
    ∀ member ∈ present slots, Carried levels member.2 := by
  intro member inside
  obtain ⟨slot, listed, same⟩ := List.mem_filterMap.mp inside
  obtain ⟨value, has, rfl⟩ := Option.map_eq_some_iff.mp same
  exact holds.carried slot listed value has

theorem Holds.record (holds : Holds fields names levels slots a) (nodup : names.Nodup)
    {origin : Origin} (here : origin ≠ .layout) :
    record name fields origin (.mapping (Node.ofJsonMembers (present slots))) = .ok a := by
  have distinct : (slots.map (·.1)).Nodup := holds.named ▸ nodup
  have made := @Holds.back _ _ _ _ _ _ holds origin 0 (present slots) here
    (nodup.sublist holds.keys) fun slot inside => lookup_entriesOf distinct inside
  change (if _ then _ else _) = _
  rw [if_pos (isFieldKey_ofJsonMembers _), made]
  rfl

/-- A record is a mapping of its fields or a sequence of them. -/
theorem Law.record {Written : α → List Slot → Prop} (law : Law fields names floor Written)
    (enough : floor ≤ levels) {origin : Origin} (here : origin ≠ .layout) {node : Node}
    (plain : Plain (levels + 1) node) (made : record name fields origin node = .ok a) :
    ∃ slots, Written a slots ∧ Holds fields names levels slots a := by
  rw [Document.record.eq_def, plain.bare] at made
  cases plain with
  | mapping keys values =>
      dsimp only at made
      split at made
      next => exact law.ofMembers enough here values (mapError_eq_ok.mp made)
      next => cases made
  | sequence items =>
      cases origin with
      | layout => exact absurd rfl here
      | direct | buffered =>
          obtain ⟨⟨b, rest⟩, one, made⟩ := bind_eq_ok made
          obtain ⟨_, _, same⟩ := bind_eq_ok made
          cases same
          exact (law.ofItems enough here items one).1
  | _ => cases origin <;> cases made

theorem record_faithful
    (law : Law fields names floor fun a slots =>
      Json.record (slots.map fun slot => Json.memberIf slot.1 slot.2) = write a)
    (nodup : names.Nodup) : Faithful (record name fields) write (floor + 1) := by
  constructor
  intro levels origin node a enough here plain made
  obtain ⟨levels, rfl⟩ := Nat.exists_eq_add_of_le' (Nat.le_of_add_left_le enough)
  obtain ⟨slots, written, holds⟩ := law.record (by omega) here plain made
  rw [record_slots] at written
  constructor
  · rw [← written]
    exact .object (nodup.sublist holds.keys) holds.values
  · intro origin here
    rw [← written]
    exact holds.record nodup here

end Records

end ApiContract.Document
