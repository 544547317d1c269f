import ApiContract.Proofs.Document.Faithful

/-!
Faithful readers of tagged choices. What a case reads is written behind its tag, and the tag leads
back to the case.
-/

namespace ApiContract.Document

open Json (Carried)

variable {α β : Type} {read : Reader α} {write : α → Json} {floor levels : Nat}
  {tag word : String} {case : Case α}

/-- What a case reads is written behind the tag, and is read from what stands behind the tag. -/
structure Case.Faithful (tag : String) (case : Case α) (write : α → Json) (floor : Nat) : Prop where
  kept : ∀ {levels : Nat} {node : Node} {a : α}, floor ≤ levels → Plain (levels + 1) node →
    case.read .buffered node = .ok a →
    ∃ members : List (String × Json), write a = .object ((tag, .string case.tag) :: members) ∧
      (tag :: members.map (·.1)).Nodup ∧ (∀ member ∈ members, Carried levels member.2) ∧
      case.read .buffered (.mapping (Node.ofJsonMembers members)) = .ok a

theorem Case.record_faithful {name : String} {fields : Fields α} {names : List String}
    (law : Law fields names floor fun a slots =>
      Json.record (Json.member tag (.string word) ::
        slots.map fun slot => Json.memberIf slot.1 slot.2) = write a)
    (nodup : (tag :: names).Nodup) : Case.Faithful tag ⟨word, record name fields⟩ write floor := by
  constructor
  intro levels node a enough plain made
  have here : Origin.buffered ≠ .layout := nofun
  obtain ⟨slots, written, holds⟩ := law.record enough here plain made
  refine ⟨present slots, ?_, nodup.sublist (holds.keys.cons_cons tag), holds.values,
    @Holds.record _ _ name _ _ _ _ holds nodup.of_cons _ here⟩
  rw [← written, Json.record, List.filterMap_cons, List.filterMap_map]
  rfl

theorem Case.map_faithful {make : α → β} {write : β → Json}
    (faithful : Case.Faithful tag ⟨word, read⟩ (fun a => write (make a)) floor) :
    Case.Faithful tag ⟨word, fun origin node => (read origin node).map make⟩ write floor := by
  constructor
  intro levels node b enough plain made
  obtain ⟨a, one, rfl⟩ := map_eq_ok made
  obtain ⟨members, written, nodup, carried, back⟩ := faithful.kept enough plain one
  exact ⟨members, written, nodup, carried, congrArg (Except.map make) back⟩

theorem Case.unit_faithful {a : α} (written : write a = .object [(tag, .string word)]) :
    Case.Faithful tag (Case.unit word a) write floor := by
  constructor
  intro levels node b enough plain made
  have same : b = a := by
    rw [Case.unit] at made
    dsimp only at made
    split at made
    next =>
      obtain ⟨_, _, same⟩ := map_eq_ok made
      exact same.symm
    next =>
      cases made
      rfl
  subst same
  exact ⟨[], written, List.pairwise_singleton _ tag, List.forall_mem_nil _, rfl⟩

theorem buffer?_plain {key value : Node} (isKey : IsKey key) (plain : Plain levels value)
    {other : Node × Node} (buffers : tagged.buffer? tag (key, value) = some other) :
    other = (key, value) := by
  rw [tagged.buffer?] at buffers
  split at buffers
  next => cases buffers
  next settled settles =>
    rw [(isKey.settle? settles).1] at buffers
    split at buffers
    next =>
      cases buffers
      rfl
    next =>
      obtain ⟨settled, settles, same⟩ := Option.map_eq_some_iff.mp buffers
      cases same
      rw [plain.settle? settles]

theorem buffer?_ofJson (key : String) (value : Json) :
    tagged.buffer? tag (.string key, .ofJson value) = some (.string key, .ofJson value) := by
  have settles : (Node.string key).settle? = some (.string key) := rfl
  rw [tagged.buffer?, settles]
  dsimp only
  split
  next => rfl
  next => rw [settle?_ofJson, Option.map_some]

theorem mapM_buffer?_plain {members settled : List (Node × Node)}
    (keys : ∀ member ∈ members, IsKey member.1) (values : ∀ member ∈ members, Plain levels member.2)
    (buffers : members.mapM (tagged.buffer? tag) = some settled) : settled = members := by
  induction members generalizing settled with
  | nil =>
      cases buffers
      rfl
  | cons first rest ih =>
      obtain ⟨isKey, keys⟩ := List.forall_mem_cons.mp keys
      obtain ⟨plain, values⟩ := List.forall_mem_cons.mp values
      rw [List.mapM_cons] at buffers
      obtain ⟨here, one, buffers⟩ := Option.bind_eq_some_iff.mp buffers
      obtain ⟨others, more, same⟩ := Option.bind_eq_some_iff.mp buffers
      cases same
      rw [buffer?_plain isKey plain one, ih keys values more]

theorem mapM_buffer?_ofJson (members : List (String × Json)) :
    (Node.ofJsonMembers members).mapM (tagged.buffer? tag) = some (Node.ofJsonMembers members) := by
  induction members with
  | nil => rfl
  | cons first rest ih =>
      rw [Node.ofJsonMembers, List.mapM_cons, buffer?_ofJson, ih]
      rfl

theorem mem_of_choose {cases : List (Case α)} {node : Node}
    (chosen : tagged.choose cases node = .ok case) : case ∈ cases := by
  have found : ∀ text, tagged.find cases text = .ok case → case ∈ cases := by
    intro text found
    rw [tagged.find] at found
    split at found
    next passes =>
      cases found
      exact List.mem_of_find?_eq_some passes
    next => cases found
  rw [tagged.choose.eq_def] at chosen
  split at chosen
  next => exact found _ chosen
  next => exact found _ chosen
  next => cases chosen

/-- Of cases with distinct tags a tag chooses its own. -/
theorem choose_tag {cases : List (Case α)} (nodup : (cases.map (·.tag)).Nodup) (member : case ∈ cases) :
    tagged.choose cases (.string case.tag) = .ok case := by
  have found : cases.find? (·.tag == case.tag) = some case := by
    induction cases with
    | nil => cases member
    | cons first rest ih =>
        rw [List.map_cons, List.nodup_cons] at nodup
        obtain ⟨fresh, nodup⟩ := nodup
        rcases List.mem_cons.mp member with rfl | later
        · exact List.find?_cons_of_pos (beq_self_eq_true _)
        · have other : first.tag ≠ case.tag := fun same =>
            fresh (same ▸ List.mem_map_of_mem later)
          rw [List.find?_cons_of_neg (by simpa using other), ih nodup later]
  rw [tagged.choose, tagged.find, found]

theorem isTag_string (tag key : String) : tagged.isTag tag (.string key) = (key == tag) := rfl

theorem occurrences_fresh {rest : List (String × Json)} (fresh : tag ∉ rest.map (·.1)) (start : Nat) :
    Fields.occurrences (tagged.isTag tag) start (Node.ofJsonMembers rest) = (none, none) := by
  induction rest generalizing start with
  | nil => rfl
  | cons first rest ih =>
      rw [List.map_cons, List.mem_cons, not_or] at fresh
      obtain ⟨other, fresh⟩ := fresh
      rw [Node.ofJsonMembers, Fields.occurrences, ih fresh, isTag_string,
        beq_false_of_ne (Ne.symm other)]
      rfl

theorem filter_fresh {rest : List (String × Json)} (fresh : tag ∉ rest.map (·.1)) :
    ((Node.ofJsonMembers rest).filter fun (key, _) => !tagged.isTag tag key) =
      Node.ofJsonMembers rest := by
  rw [Node.ofJsonMembers_eq_map, List.filter_eq_self, List.forall_mem_map]
  intro member inside
  have other : member.1 ≠ tag := fun same => fresh (same ▸ List.mem_map_of_mem inside)
  simpa [isTag_string] using other

/-- Behind its tag a case is read from the rest. -/
theorem tagged_written {name : String} {cases : List (Case α)} (nodup : (cases.map (·.tag)).Nodup)
    (member : case ∈ cases) {rest : List (String × Json)} (fresh : tag ∉ rest.map (·.1))
    (origin : Origin) :
    tagged name tag cases origin
        (.mapping (Node.ofJsonMembers ((tag, .string case.tag) :: rest))) =
      case.read .buffered (.mapping (Node.ofJsonMembers rest)) := by
  have selected : Fields.occurrences (tagged.isTag tag) 0
      (Node.ofJsonMembers ((tag, .string case.tag) :: rest)) = (some (0, .string case.tag), none) := by
    rw [Node.ofJsonMembers, Fields.occurrences, occurrences_fresh fresh, isTag_string,
      beq_self_eq_true]
    rfl
  have remaining : ((Node.ofJsonMembers ((tag, .string case.tag) :: rest)).filter
      fun (key, _) => !tagged.isTag tag key) = Node.ofJsonMembers rest := by
    rw [Node.ofJsonMembers, List.filter_cons_of_neg (by simp [isTag_string]), filter_fresh fresh]
  rw [tagged, mapM_buffer?_ofJson]
  dsimp only
  rw [selected, remaining]
  change (tagged.choose cases (.string case.tag) >>= _) = _
  rw [choose_tag nodup member]
  rfl

theorem tagged_faithful {name : String} {cases : List (Case α)}
    (each : ∀ case ∈ cases, Case.Faithful tag case write floor) (nodup : (cases.map (·.tag)).Nodup) :
    Faithful (tagged name tag cases) write (floor + 1) := by
  constructor
  intro levels origin node a enough here plain made
  obtain ⟨levels, rfl⟩ := Nat.exists_eq_add_of_le' (Nat.le_of_add_left_le enough)
  -- Whatever the spelling, some case has read a collection of what is not the tag.
  have chosen : ∃ case ∈ cases, ∃ rest, Plain (levels + 1) rest ∧ case.read .buffered rest = .ok a := by
    rw [tagged.eq_def] at made
    cases plain with
    | @mapping _ members keys values =>
        dsimp only at made
        split at made
        next => cases made
        next settled buffers =>
          rw [mapM_buffer?_plain keys values buffers] at made
          split at made
          next => cases made
          next =>
            obtain ⟨_, -, made⟩ := bind_eq_ok made
            obtain ⟨case, picks, made⟩ := bind_eq_ok made
            split at made
            next => cases made
            next =>
              refine ⟨case, mem_of_choose picks, _, .mapping ?_ ?_, made⟩
              · exact fun member inside => keys member (List.mem_of_mem_filter inside)
              · exact fun member inside => values member (List.mem_of_mem_filter inside)
    | @sequence _ items each =>
        cases items with
        | nil => cases made
        | cons first rest =>
            obtain ⟨case, picks, made⟩ := bind_eq_ok made
            split at made
            next settled settles =>
              have kept : settled = rest := eq_of_forall₂ (Node.settleItems?_forall₂ settles)
                fun item inside _ => (each item (List.mem_cons_of_mem _ inside)).settle?
              rw [kept] at made
              refine ⟨case, mem_of_choose picks, _, .sequence ?_, made⟩
              exact fun item inside => each item (List.mem_cons_of_mem _ inside)
            next => cases made
    | _ => cases made
  obtain ⟨case, member, rest, plain, one⟩ := chosen
  obtain ⟨members, written, distinct, carried, back⟩ := (each case member).kept (by omega) plain one
  constructor
  · rw [written]
    exact .object distinct (List.forall_mem_cons.mpr ⟨.string, carried⟩)
  · intro origin _
    rw [written, Node.ofJson, tagged_written nodup member (List.nodup_cons.mp distinct).1, back]

end ApiContract.Document
