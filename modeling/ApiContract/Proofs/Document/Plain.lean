import ApiContract.Proofs.Json.Text

/-!
The trees that JSON texts spell. Their keys are texts, their numbers are numbers that a text can
carry, and containers nest no deeper than the text may: what goes beyond this is unreadable. The tree
of a carried document is one of these, and the value of such a tree is a carried document.
-/

namespace ApiContract.Document

open Json (FitsNumber Carried)

/-- A key is a text unless it cannot be read. -/
def IsKey (key : Node) : Prop := key = .unreadable ∨ ∃ text, key = .string text

/-- The trees that JSON texts spell, with at most `levels` levels of readable containers. -/
inductive Plain : Nat → Node → Prop
  | null {levels : Nat} : Plain levels .null
  | bool {levels : Nat} {value : Bool} : Plain levels (.bool value)
  | int {levels : Nat} {n : Int} : FitsNumber n → Plain levels (.int n)
  | float {levels : Nat} {x : Decimal.Binary64} : x.isFinite = true → Plain levels (.float x)
  | string {levels : Nat} {text : String} : Plain levels (.string text)
  | unreadable {levels : Nat} : Plain levels .unreadable
  | sequence {levels : Nat} {items : List Node} : (∀ item ∈ items, Plain levels item) →
      Plain (levels + 1) (.sequence items)
  | mapping {levels : Nat} {members : List (Node × Node)} :
      (∀ member ∈ members, IsKey member.1) →
      (∀ member ∈ members, Plain levels member.2) → Plain (levels + 1) (.mapping members)

end ApiContract.Document

namespace ApiContract.Json

open Document (IsKey Node Plain)

variable {room fuel : Nat} {chars rest : List Char} {node : Node}

theorem finiteNumber_plain (x : Decimal.Binary64) : Plain room (finiteNumber x) := by
  rw [finiteNumber]
  split
  next finite => exact .float finite
  next => exact .unreadable

theorem numberOfInteger_plain (negative : Bool) (digits : List Char) :
    Plain room (numberOfInteger negative digits) := by
  rw [numberOfInteger]
  split
  next =>
    split
    next => exact .float rfl
    next =>
      split
      next => exact .int ⟨by omega, by omega⟩
      next => exact finiteNumber_plain _
  next =>
    split
    next => exact .int ⟨by omega, by omega⟩
    next => exact finiteNumber_plain _

theorem readMagnitude_plain {negative : Bool}
    (read : readMagnitude negative chars = some (node, rest)) : Plain room node := by
  have floating : ∀ {whole fraction : List Char} {exponent : Option (Int × List Char)},
      readMagnitude.floating negative whole fraction exponent = some (node, rest) →
      Plain room node := by
    intro whole fraction exponent read
    cases exponent with
    | none => cases read
    | some exponent =>
        cases read
        exact finiteNumber_plain _
  rw [readMagnitude] at read
  dsimp only at read
  split at read
  next => cases read
  next =>
    split at read
    next =>
      split at read
      next => cases read
      next => split at read <;> exact floating read
    next => exact floating read
    next => exact floating read
    next =>
      cases read
      exact numberOfInteger_plain _ _

theorem readNumber_plain (read : readNumber chars = some (node, rest)) : Plain room node := by
  rw [readNumber.eq_def] at read
  split at read <;> exact readMagnitude_plain read

/-- A container stays in the tree where there is room for it. -/
theorem within_plain {container : Node}
    (plain : ∀ levels, room = levels + 1 → Plain (levels + 1) container) :
    Plain room (readNode.within room container) := by
  rw [readNode.within]
  cases room with
  | zero => exact .unreadable
  | succ levels => exact plain levels rfl

def SpellsNodes (fuel : Nat) : Prop :=
  ∀ {room : Nat} {chars rest : List Char} {node : Node},
    readNode room fuel chars = some (node, rest) → Plain room node

def SpellsItems (fuel : Nat) : Prop :=
  ∀ {room : Nat} {chars rest : List Char} {read items : List Node},
    (∀ item ∈ read, Plain room item) → readItems room fuel read chars = some (items, rest) →
    ∀ item ∈ items, Plain room item

def SpellsMembers (fuel : Nat) : Prop :=
  ∀ {room : Nat} {chars rest : List Char} {read members : List (Node × Node)},
    (∀ member ∈ read, IsKey member.1 ∧ Plain room member.2) →
    readMembers room fuel read chars = some (members, rest) →
    ∀ member ∈ members, IsKey member.1 ∧ Plain room member.2

theorem spellsNodes_succ (items : SpellsItems fuel) (members : SpellsMembers fuel) :
    SpellsNodes (fuel + 1) := by
  intro room chars rest node read
  rw [readNode] at read
  split at read
  next => cases read; exact .null
  next => cases read; exact .bool
  next => cases read; exact .bool
  next =>
    obtain ⟨⟨text, behind⟩, -, same⟩ := Option.map_eq_some_iff.mp read
    cases same
    cases text with
    | some text => exact .string
    | none => exact .unreadable
  next =>
    split at read
    next =>
      cases read
      exact within_plain fun _ _ => .sequence (List.forall_mem_nil _)
    next =>
      obtain ⟨⟨found, behind⟩, spelled, same⟩ := Option.map_eq_some_iff.mp read
      cases same
      have each := items (List.forall_mem_nil _) spelled
      refine within_plain fun levels some => .sequence ?_
      rwa [some, Nat.add_sub_cancel] at each
  next =>
    split at read
    next =>
      cases read
      exact within_plain fun _ _ => .mapping (List.forall_mem_nil _) (List.forall_mem_nil _)
    next =>
      obtain ⟨⟨found, behind⟩, spelled, same⟩ := Option.map_eq_some_iff.mp read
      cases same
      have each := members (List.forall_mem_nil _) spelled
      refine within_plain fun levels some => ?_
      rw [some, Nat.add_sub_cancel] at each
      exact .mapping (fun member inside => (each member inside).1)
        fun member inside => (each member inside).2
  next => exact readNumber_plain read

theorem spellsItems_succ (nodes : SpellsNodes fuel) (items : SpellsItems fuel) :
    SpellsItems (fuel + 1) := by
  intro room chars rest read found plain spelled
  rw [readItems] at spelled
  split at spelled
  next => cases spelled
  next item behind first =>
    have grown : ∀ other ∈ item :: read, Plain room other :=
      List.forall_mem_cons.mpr ⟨nodes first, plain⟩
    split at spelled
    next => exact items grown spelled
    next =>
      cases spelled
      exact fun other member => grown other (List.mem_reverse.mp member)
    next => cases spelled

/-- Half a surrogate pair makes a key unreadable. -/
theorem key_plain (text : Option String) :
    IsKey (match text with | some text => Node.string text | none => .unreadable) := by
  cases text with
  | some text => exact .inr ⟨text, rfl⟩
  | none => exact .inl rfl

theorem spellsMembers_succ (nodes : SpellsNodes fuel) (members : SpellsMembers fuel) :
    SpellsMembers (fuel + 1) := by
  intro room chars rest read found plain spelled
  rw [readMembers] at spelled
  split at spelled
  next =>
    split at spelled
    next => cases spelled
    next text behind quoted =>
      dsimp only at spelled
      split at spelled
      next =>
        split at spelled
        next => cases spelled
        next value behind first =>
          have grown : ∀ key, IsKey key →
              ∀ member ∈ (key, value) :: read, IsKey member.1 ∧ Plain room member.2 :=
            fun key isKey => List.forall_mem_cons.mpr ⟨⟨isKey, nodes first⟩, plain⟩
          split at spelled
          next =>
            refine members (grown _ ?_) spelled
            exact key_plain text
          next =>
            cases spelled
            refine fun other member => grown _ ?_ other (List.mem_reverse.mp member)
            exact key_plain text
          next => cases spelled
      next => cases spelled
  next => cases spelled

theorem spells_all (fuel : Nat) : SpellsNodes fuel ∧ SpellsItems fuel ∧ SpellsMembers fuel := by
  induction fuel with
  | zero =>
      refine ⟨fun read => ?_, fun _ read => ?_, fun _ read => ?_⟩
      · rw [readNode] at read
        cases read
      · rw [readItems] at read
        cases read
      · rw [readMembers] at read
        cases read
  | succ fuel ih =>
      obtain ⟨nodes, items, members⟩ := ih
      exact ⟨spellsNodes_succ items members, spellsItems_succ nodes items,
        spellsMembers_succ nodes members⟩

theorem nodeOfText?_plain {text : String} (spelled : nodeOfText? text = some node) :
    Plain depthLimit node := by
  rw [nodeOfText?] at spelled
  split at spelled
  next read =>
    split at spelled
    next =>
      cases spelled
      exact (spells_all _).1 read
    next => cases spelled
  next => cases spelled

theorem setMember_present {members : List (String × Json)} {key : String}
    (present : key ∈ members.map (·.1)) (value : Json) :
    (setMember members key value).map (·.1) = members.map (·.1) := by
  induction members with
  | nil => cases present
  | cons first rest ih =>
      rw [setMember]
      by_cases here : first.1 = key
      · rw [if_pos here, List.map_cons, List.map_cons]
      · rw [List.map_cons, List.mem_cons] at present
        have later := present.resolve_left (Ne.symm here)
        rw [if_neg here, List.map_cons, List.map_cons, ih later]

theorem mem_setMember {members : List (String × Json)} {key : String} {value : Json}
    {member : String × Json} (inside : member ∈ setMember members key value) :
    member.2 = value ∨ member ∈ members := by
  induction members with
  | nil => exact .inl (congrArg Prod.snd (List.mem_singleton.mp inside))
  | cons first rest ih =>
      rw [setMember] at inside
      split at inside
      next =>
        rcases List.mem_cons.mp inside with same | later
        · exact .inl (congrArg Prod.snd same)
        · exact .inr (List.mem_cons_of_mem _ later)
      next =>
        rcases List.mem_cons.mp inside with same | later
        · exact .inr (same ▸ List.mem_cons_self)
        · exact (ih later).imp_right (List.mem_cons_of_mem _)

theorem setMember_nodup {members : List (String × Json)} (nodup : (members.map (·.1)).Nodup)
    (key : String) (value : Json) : ((setMember members key value).map (·.1)).Nodup := by
  by_cases present : key ∈ members.map (·.1)
  · rwa [setMember_present present]
  · rw [JsonForm.setMember_fresh present, List.map_append, List.map_singleton]
    refine List.nodup_append.mpr ⟨nodup, List.pairwise_singleton _ _, ?_⟩
    intro old inside new added same
    rw [same, List.mem_singleton.mp added] at inside
    exact present inside

theorem normalizeItems_eq_map (items : List Json) : normalizeItems items = items.map normalize := by
  induction items with
  | nil => rfl
  | cons first rest ih => rw [normalizeItems, ih, List.map_cons]

/-- Of members whose values are carried once they are normalized, normalizing leaves each key
once. -/
theorem normalizeMembers_carried {kept members : List (String × Json)}
    (nodup : (kept.map (·.1)).Nodup) (carried : ∀ member ∈ kept, Carried room member.2)
    (each : ∀ member ∈ members, Carried room member.2.normalize) :
    ((normalizeMembers kept members).map (·.1)).Nodup ∧
      ∀ member ∈ normalizeMembers kept members, Carried room member.2 := by
  induction members generalizing kept with
  | nil => exact ⟨nodup, carried⟩
  | cons first rest ih =>
      obtain ⟨key, value⟩ := first
      obtain ⟨here, later⟩ := List.forall_mem_cons.mp each
      refine ih (setMember_nodup nodup key _) (fun member inside => ?_) later
      rcases mem_setMember inside with same | old
      · rwa [same]
      · exact carried member old

end ApiContract.Json

namespace ApiContract.Document

open Json (Carried)

variable {levels : Nat} {node : Node}

namespace Node

theorem jsonItems?_forall₂ {items : List Node} {documents : List Json}
    (stand : jsonItems? items = some documents) :
    List.Forall₂ (fun item document => item.json? = some document) items documents := by
  induction items generalizing documents with
  | nil =>
      cases stand
      exact .nil
  | cons item rest ih =>
      rw [jsonItems?] at stand
      split at stand
      next here later =>
        cases stand
        exact .cons here (ih later)
      next => cases stand

theorem jsonMembers?_forall₂ {members : List (Node × Node)} {entries : List (String × Json)}
    (stand : jsonMembers? members = some entries) :
    List.Forall₂ (fun member entry => member.2.json? = some entry.2) members entries := by
  induction members generalizing entries with
  | nil =>
      cases stand
      exact .nil
  | cons member rest ih =>
      rw [jsonMembers?] at stand
      split at stand
      next here later =>
        cases stand
        exact .cons here (ih later)
      next => cases stand

theorem settleItems?_forall₂ {items settled : List Node}
    (settle : settleItems? items = some settled) :
    List.Forall₂ (fun item other => item.settle? = some other) items settled := by
  induction items generalizing settled with
  | nil =>
      cases settle
      exact .nil
  | cons item rest ih =>
      rw [settleItems?] at settle
      split at settle
      next here later =>
        cases settle
        exact .cons here (ih later)
      next => cases settle

theorem settleMembers?_forall₂ {members settled : List (Node × Node)}
    (settle : settleMembers? members = some settled) :
    List.Forall₂ (fun member other => member.1.settle? = some other.1 ∧
      member.2.settle? = some other.2) members settled := by
  induction members generalizing settled with
  | nil =>
      cases settle
      exact .nil
  | cons member rest ih =>
      rw [settleMembers?] at settle
      split at settle
      next key here later =>
        cases settle
        exact .cons ⟨key, here⟩ (ih later)
      next => cases settle

end Node

/-- The value of a tree is a carried document. -/
theorem Plain.json? (plain : Plain levels node) {document : Json}
    (stands : node.json? = some document) : Carried levels document.normalize := by
  induction plain generalizing document with
  | null | bool | string =>
      cases stands
      constructor
  | int fits =>
      cases stands
      exact .int fits
  | float finite =>
      rw [Node.json?, Node.finite, if_pos finite] at stands
      cases stands
      exact .float finite
  | unreadable => cases stands
  | sequence _ ih =>
      obtain ⟨documents, each, same⟩ := Option.map_eq_some_iff.mp stands
      subst same
      rw [Json.normalize, Json.normalizeItems_eq_map]
      apply Carried.array
      rw [List.forall_mem_map]
      intro document inside
      obtain ⟨item, member, stands⟩ := exists_of_forall₂ (Node.jsonItems?_forall₂ each) inside
      exact ih item member stands
  | @mapping levels _ _ _ ih =>
      obtain ⟨entries, each, same⟩ := Option.map_eq_some_iff.mp stands
      subst same
      have values : ∀ entry ∈ entries, Carried levels entry.2.normalize := by
        intro entry inside
        obtain ⟨member, listed, stands⟩ := exists_of_forall₂ (Node.jsonMembers?_forall₂ each) inside
        exact ih member listed stands
      obtain ⟨nodup, carried⟩ :=
        @Json.normalizeMembers_carried levels [] entries List.nodup_nil (List.forall_mem_nil _) values
      rw [Json.normalize]
      exact .object nodup carried

theorem IsKey.settle? {key settled : Node} (isKey : IsKey key)
    (settles : key.settle? = some settled) : settled = key ∧ ∃ text, key = .string text := by
  rcases isKey with rfl | ⟨text, rfl⟩
  · cases settles
  · cases settles
    exact ⟨rfl, text, rfl⟩

/-- In a tree that a text spells nothing is left to settle. -/
theorem Plain.settle? (plain : Plain levels node) {settled : Node}
    (settles : node.settle? = some settled) : settled = node := by
  induction plain generalizing settled with
  | null | bool | int | float | string =>
      cases settles
      rfl
  | unreadable => cases settles
  | sequence _ ih =>
      obtain ⟨others, each, same⟩ := Option.map_eq_some_iff.mp settles
      subst same
      rw [eq_of_forall₂ (Node.settleItems?_forall₂ each) fun item member _ => ih item member]
  | mapping keys _ ih =>
      obtain ⟨others, each, same⟩ := Option.map_eq_some_iff.mp settles
      subst same
      rw [eq_of_forall₂ (Node.settleMembers?_forall₂ each)]
      rintro member inside other ⟨key, value⟩
      exact Prod.ext ((keys member inside).settle? key).1 (ih member inside value)

namespace Node

theorem ofJsonItems_eq_map (items : List Json) : ofJsonItems items = items.map ofJson := by
  induction items with
  | nil => rfl
  | cons first rest ih => rw [ofJsonItems, ih, List.map_cons]

theorem ofJsonMembers_eq_map (members : List (String × Json)) :
    ofJsonMembers members = members.map fun member => (.string member.1, ofJson member.2) := by
  induction members with
  | nil => rfl
  | cons first rest ih => rw [ofJsonMembers, ih, List.map_cons]

end Node

mutual

/-- The tree of a document has nothing to settle either. -/
theorem settle?_ofJson : (document : Json) →
    (Node.ofJson document).settle? = some (.ofJson document)
  | .null | .bool _ | .int _ | .float _ | .string _ => rfl
  | .array items => by
      rw [Node.ofJson, Node.settle?, settleItems?_ofJsonItems items, Option.map_some]
  | .object members => by
      rw [Node.ofJson, Node.settle?, settleMembers?_ofJsonMembers members, Option.map_some]

theorem settleItems?_ofJsonItems : (items : List Json) →
    Node.settleItems? (Node.ofJsonItems items) = some (Node.ofJsonItems items)
  | [] => rfl
  | item :: rest => by
      rw [Node.ofJsonItems, Node.settleItems?, settle?_ofJson item, settleItems?_ofJsonItems rest]

theorem settleMembers?_ofJsonMembers : (members : List (String × Json)) →
    Node.settleMembers? (Node.ofJsonMembers members) = some (Node.ofJsonMembers members)
  | [] => rfl
  | (key, value) :: rest => by
      rw [Node.ofJsonMembers, Node.settleMembers?, settle?_ofJson value,
        settleMembers?_ofJsonMembers rest]
      rfl

end

end ApiContract.Document
