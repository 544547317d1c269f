import ApiContract.Proofs.Grouping.Filing
import ApiContract.Proofs.Naming
import Mathlib.Data.List.Induction
import Mathlib.Data.List.Perm.Basic
import Mathlib.Data.String.Basic
import Mathlib.Tactic.Choose

/-!
The groups of a list of operations are a partition of it. An operation is told apart from its
repetitions by its position in the list: every position is in exactly one group, groups are ordered
by key and folder, the operations of a group by name and then by position. Groups are refused
exactly where two places that occur have the same path. Where names tell operations apart, sorting by
name leaves no trace of the order in which they came.
-/

namespace ApiContract.Grouping

variable {policy : GroupingPolicy} {operations : List Operation} {groups : List OperationGroup}

/-- The order inside a group: by name, equal names by position. -/
def Earlier (a b : Operation × Nat) : Prop :=
  a.1.name < b.1.name ∨ a.1.name = b.1.name ∧ a.2 < b.2

theorem Earlier.trans {a b c : Operation × Nat} (first : Earlier a b) (second : Earlier b c) :
    Earlier a c :=
  textFirst_trans (· < ·) Nat.lt_trans first second

/-- An entry behind all positions so far is inserted after the entries of its name. -/
theorem insertByName_entries {sorted : List (Operation × Nat)} {entry : Operation × Nat}
    (behind : ∀ other ∈ sorted, other.2 < entry.2) (earlier : sorted.Pairwise Earlier) :
    ∃ inserted : List (Operation × Nat), inserted.Perm (entry :: sorted) ∧
      inserted.Pairwise Earlier ∧
      insertByName entry.1 (sorted.map Prod.fst) = inserted.map Prod.fst := by
  induction sorted with
  | nil => exact ⟨[entry], .refl _, List.pairwise_singleton _ _, rfl⟩
  | cons first rest ih =>
      obtain ⟨firstEarlier, restEarlier⟩ := List.pairwise_cons.mp earlier
      by_cases less : entry.1.name < first.1.name
      · refine ⟨entry :: first :: rest, .refl _, ?_, by simp [insertByName, less]⟩
        refine List.pairwise_cons.mpr ⟨?_, earlier⟩
        intro other member
        rcases List.mem_cons.mp member with rfl | later
        · exact .inl less
        · exact Earlier.trans (.inl less) (firstEarlier other later)
      · obtain ⟨inserted, perm, ordered, same⟩ :=
          ih (fun other member => behind other (List.mem_cons_of_mem _ member)) restEarlier
        refine ⟨first :: inserted, ?_, ?_, ?_⟩
        · exact (perm.cons first).trans (.swap entry first rest)
        · refine List.pairwise_cons.mpr ⟨?_, ordered⟩
          intro other member
          rcases List.mem_cons.mp (perm.mem_iff.mp member) with rfl | old
          · by_cases equal : first.1.name = other.1.name
            · exact .inr ⟨equal, behind first List.mem_cons_self⟩
            · exact .inl (lt_of_not_lt_of_ne less (Ne.symm equal))
          · exact firstEarlier other old
        · rw [List.map_cons, insertByName, if_neg less, same, List.map_cons]

/-- Sorting keeps the entries and puts them in the order of a group. -/
theorem sortByName_entries {entries : List (Operation × Nat)}
    (numbered : entries.Pairwise fun a b => a.2 < b.2) :
    ∃ sorted : List (Operation × Nat), sorted.Perm entries ∧ sorted.Pairwise Earlier ∧
      sortByName (entries.map Prod.fst) = sorted.map Prod.fst := by
  induction entries using List.reverseRecOn with
  | nil => exact ⟨[], .refl _, List.Pairwise.nil, rfl⟩
  | append_singleton before entry ih =>
      obtain ⟨numberedBefore, -, behind⟩ := List.pairwise_append.mp numbered
      obtain ⟨sorted, perm, earlier, same⟩ := ih numberedBefore
      have last : ∀ other ∈ sorted, other.2 < entry.2 := fun other member =>
        behind other (perm.mem_iff.mp member) entry (List.mem_singleton.mpr rfl)
      obtain ⟨inserted, perm', earlier', same'⟩ := insertByName_entries last earlier
      refine ⟨inserted, ?_, earlier', ?_⟩
      · exact perm'.trans ((perm.cons entry).trans (List.perm_append_singleton entry before).symm)
      · rw [← same', ← same, sortByName, List.map_append, List.foldl_append]
        rfl

theorem zipIdx_numbered (operations : List Operation) :
    operations.zipIdx.Pairwise fun a b => a.2 < b.2 := by
  have increasing : (operations.zipIdx.map Prod.snd).Pairwise (· < ·) := by
    rw [List.zipIdx_map_snd]
    exact List.pairwise_lt_range'
  exact List.pairwise_map.mp increasing

theorem sortByName_perm (operations : List Operation) :
    (sortByName operations).Perm operations := by
  have whole : operations.zipIdx.map Prod.fst = operations := List.zipIdx_map_fst 0 operations
  obtain ⟨sorted, perm, -, same⟩ := sortByName_entries (zipIdx_numbered operations)
  rw [whole] at same
  rw [same]
  exact whole ▸ perm.map Prod.fst

/-- The groups hold every operation as often as the list does. -/
theorem partition_perm (policy : GroupingPolicy) (operations : List Operation) :
    ((partition policy operations).flatMap (·.operations)).Perm operations := by
  have filed : ∀ groups : List OperationGroup, ((operations.foldl
      (fun groups operation =>
        insertOperation (key policy operation, folder policy operation) operation groups)
      groups).flatMap (·.operations)).Perm (operations ++ groups.flatMap (·.operations)) := by
    induction operations with
    | nil => exact fun groups => .refl _
    | cons operation rest ih =>
        intro groups
        exact ((ih _).trans (insertOperation_perm.append_left rest)).trans List.perm_middle
  rw [partition, List.flatMap_map]
  refine (List.Perm.flatMap_left _ fun g _ => sortByName_perm g.operations).trans ?_
  simpa only [List.flatMap_nil, List.append_nil] using filed []

/-- The path of the group at a place. -/
def pathAt (place : String × String) : String := OperationGroup.path ⟨place.1, place.2, []⟩

theorem path_eq_pathAt (g : OperationGroup) : g.path = pathAt g.place := rfl

/-- A path of a file that lies directly in a folder; the empty folder is the output folder. -/
def LiesIn (folder path : String) : Prop :=
  ∃ file, '/' ∉ file.toList ∧ path = if folder.isEmpty then file else folder ++ "/" ++ file

theorem path_liesIn (g : OperationGroup) : LiesIn g.folder g.path :=
  ⟨Naming.clientFile g.key, Naming.clientFile_free g.key, rfl⟩

/-- No two places that occur among the operations share a path. -/
def PathsApart (policy : GroupingPolicy) (operations : List Operation) : Prop :=
  ∀ a ∈ operations, ∀ b ∈ operations,
    pathAt (place policy a) = pathAt (place policy b) → place policy a = place policy b

theorem firstCollision_go_none {seen groups : List OperationGroup}
    (none : firstCollision.go seen groups = none) :
    (∀ h ∈ seen, ∀ g ∈ groups, h.path ≠ g.path) ∧
      groups.Pairwise fun g h => g.path ≠ h.path := by
  induction groups generalizing seen with
  | nil => exact ⟨fun _ _ _ member => absurd member List.not_mem_nil, List.Pairwise.nil⟩
  | cons g rest ih =>
      rw [firstCollision.go] at none
      split at none
      next => cases none
      next unseen =>
        obtain ⟨apart, restApart⟩ := ih none
        constructor
        · intro h before other member
          rcases List.mem_cons.mp member with rfl | later
          · simpa using List.find?_eq_none.mp unseen h before
          · exact apart h (List.mem_cons_of_mem _ before) other later
        · exact List.pairwise_cons.mpr ⟨apart g List.mem_cons_self, restApart⟩

theorem firstCollision_go_some {seen groups : List OperationGroup} {first second : OperationGroup}
    (found : firstCollision.go seen groups = some (first, second)) :
    first.path = second.path ∧ second ∈ groups ∧
      (first ∈ seen ∨ [first, second].Sublist groups) := by
  induction groups generalizing seen with
  | nil => cases found
  | cons g rest ih =>
      rw [firstCollision.go] at found
      split at found
      next other earlier =>
        cases found
        exact ⟨by simpa using List.find?_some earlier, List.mem_cons_self,
          .inl (List.mem_of_find?_eq_some earlier)⟩
      next =>
        obtain ⟨same, member, before⟩ := ih found
        refine ⟨same, List.mem_cons_of_mem _ member, ?_⟩
        rcases before with inSeen | inRest
        · rcases List.mem_cons.mp inSeen with rfl | old
          · exact .inr (List.Sublist.cons_cons _ (List.singleton_sublist.mpr member))
          · exact .inl old
        · exact .inr (inRest.cons g)

/-- What it means that groups are a partition of a list of operations; `members` gives the
operations of a group with their positions in the list. -/
structure Partition (policy : GroupingPolicy) (operations : List Operation)
    (groups : List OperationGroup) (members : OperationGroup → List (Operation × Nat)) : Prop where
  lists : ∀ g ∈ groups, g.operations = (members g).map Prod.fst
  inhabited : ∀ g ∈ groups, members g ≠ []
  occurs : ∀ g ∈ groups, ∀ entry ∈ members g, entry ∈ operations.zipIdx
  once : ∀ entry ∈ operations.zipIdx, ∃! g, g ∈ groups ∧ entry ∈ members g
  keyed : ∀ g ∈ groups, ∀ entry ∈ members g, g.key = key policy entry.1
  carries : ∀ g ∈ groups, ∀ entry ∈ members g, LiesIn (folder policy entry.1) g.path
  ordered : groups.Pairwise fun g h => g.key < h.key ∨ g.key = h.key ∧ g.folder < h.folder
  sorted : ∀ g ∈ groups, (members g).Pairwise Earlier
  apart : (groups.map OperationGroup.path).Nodup

/-- The operations that a policy puts at a place, with their positions in the list. -/
def entriesAt (policy : GroupingPolicy) (operations : List Operation) (place : String × String) :
    List (Operation × Nat) :=
  operations.zipIdx.filter fun entry => Grouping.place policy entry.1 = place

theorem mem_entriesAt {place : String × String} {entry : Operation × Nat} :
    entry ∈ entriesAt policy operations place ↔
      entry ∈ operations.zipIdx ∧ Grouping.place policy entry.1 = place := by
  rw [entriesAt, List.mem_filter, decide_eq_true_iff]

theorem entriesAt_operations (place : String × String) :
    (entriesAt policy operations place).map Prod.fst =
      operations.filter fun operation => Grouping.place policy operation = place := by
  have whole : operations.zipIdx.map Prod.fst = operations := List.zipIdx_map_fst 0 operations
  conv_rhs => rw [← whole]
  rw [List.filter_map]
  rfl

theorem entriesAt_numbered (place : String × String) :
    (entriesAt policy operations place).Pairwise fun a b => a.2 < b.2 :=
  List.Pairwise.filter _ (zipIdx_numbered operations)

theorem filed (policy : GroupingPolicy) (operations : List Operation) :
    Filed policy operations
      (operations.foldl
        (fun groups operation => insertOperation (place policy operation) operation groups) []) :=
  (Filed.nil policy).run operations

theorem partition_ordered : Ordered (partition policy operations) :=
  List.pairwise_map.mpr (filed policy operations).ordered

theorem partition_places {place : String × String} :
    (∃ g ∈ partition policy operations, g.place = place) ↔
      ∃ operation ∈ operations, Grouping.place policy operation = place := by
  rw [← (filed policy operations).places place]
  constructor
  · rintro ⟨g, member, same⟩
    obtain ⟨unsorted, inside, rfl⟩ := List.mem_map.mp member
    exact ⟨unsorted, inside, same⟩
  · rintro ⟨unsorted, inside, same⟩
    exact ⟨_, List.mem_map_of_mem inside, same⟩

theorem group_eq_ok (grouped : group policy operations = .ok groups) :
    groups = partition policy operations := by
  rw [group] at grouped
  split at grouped
  next => cases grouped
  next => exact (Except.ok.inj grouped).symm

theorem partition_operations {g : OperationGroup} (member : g ∈ partition policy operations) :
    g.operations = sortByName ((entriesAt policy operations g.place).map Prod.fst) := by
  obtain ⟨unsorted, inside, rfl⟩ := List.mem_map.mp member
  have ordered := (filed policy operations).ordered
  have holds := (filed policy operations).holds unsorted.place
  rw [ordered.operationsAt_place inside] at holds
  rw [OperationGroup.place_with, entriesAt_operations, ← holds]

theorem partition_apart (apart : PathsApart policy operations) :
    (partition policy operations).Pairwise fun g h => g.path ≠ h.path := by
  apply List.Pairwise.imp_of_mem _ partition_ordered
  intro g h memberG memberH precedes same
  obtain ⟨a, inA, atA⟩ := partition_places.mp ⟨g, memberG, rfl⟩
  obtain ⟨b, inB, atB⟩ := partition_places.mp ⟨h, memberH, rfl⟩
  rw [path_eq_pathAt, path_eq_pathAt, ← atA, ← atB] at same
  rw [← atA, ← atB] at precedes
  exact precedes.ne (apart a inA b inB same)

theorem partition_members (apart : PathsApart policy operations) :
    ∃ members, Partition policy operations (partition policy operations) members := by
  choose members perm sorted same using fun g : OperationGroup =>
    sortByName_entries (@entriesAt_numbered policy operations g.place)
  have mem_members : ∀ {g entry}, entry ∈ members g ↔
      entry ∈ operations.zipIdx ∧ place policy entry.1 = g.place := fun {g _} =>
    (perm g).mem_iff.trans mem_entriesAt
  refine ⟨members, ?_⟩
  constructor
  case lists => exact fun g member => (partition_operations member).trans (same g)
  case inhabited =>
    intro g member empty
    obtain ⟨operation, inside, there⟩ := partition_places.mp ⟨g, member, rfl⟩
    obtain ⟨position, found⟩ := List.mem_iff_getElem?.mp inside
    have numbered := List.mk_mem_zipIdx_iff_getElem?.mpr found
    have listed : (operation, position) ∈ members g := mem_members.mpr ⟨numbered, there⟩
    rw [empty] at listed
    cases listed
  case occurs => exact fun g _ entry listed => (mem_members.mp listed).1
  case once =>
    intro entry numbered
    have inside : entry.1 ∈ operations := List.fst_mem_of_mem_zipIdx numbered
    obtain ⟨g, member, there⟩ := partition_places.mpr ⟨entry.1, inside, rfl⟩
    refine ⟨g, ⟨member, mem_members.mpr ⟨numbered, there.symm⟩⟩, ?_⟩
    rintro h ⟨member', listed⟩
    apply partition_ordered.eq_of_place member' member
    rw [there, (mem_members.mp listed).2]
  case keyed => exact fun g _ entry listed => (congrArg Prod.fst (mem_members.mp listed).2).symm
  case carries =>
    intro g _ entry listed
    have folders : folder policy entry.1 = g.folder := congrArg Prod.snd (mem_members.mp listed).2
    rw [folders]
    exact path_liesIn g
  case ordered => exact partition_ordered
  case sorted => exact fun g _ => sorted g
  case apart => exact List.pairwise_map.mpr (partition_apart apart)

/-- Grouping succeeds exactly where no two places that occur share a path, and its groups are then
a partition of the operations; otherwise it names two places that do. -/
theorem group_partitions (policy : GroupingPolicy) (operations : List Operation) :
    ((∃ groups, group policy operations = .ok groups) ↔ PathsApart policy operations) ∧
    match group policy operations with
    | .ok groups => ∃ members, Partition policy operations groups members
    | .error failure =>
        ∃ a ∈ operations, ∃ b ∈ operations, Precedes (place policy a) (place policy b) ∧
          pathAt (place policy a) = pathAt (place policy b) ∧
          failure = .artifactCollision (pathAt (place policy a))
            (Naming.clientName (key policy a)) (Naming.clientName (key policy b)) := by
  cases collision : firstCollision (partition policy operations) with
  | none =>
      have grouped : group policy operations = .ok (partition policy operations) := by
        rw [group, collision]
      have distinct := (firstCollision_go_none collision).2
      have apart : PathsApart policy operations := by
        intro a inA b inB same
        obtain ⟨g, memberG, atG⟩ := partition_places.mpr ⟨a, inA, rfl⟩
        obtain ⟨h, memberH, atH⟩ := partition_places.mpr ⟨b, inB, rfl⟩
        rw [← atG, ← atH] at same ⊢
        exact congrArg _ (List.inj_on_of_nodup_map (List.pairwise_map.mpr distinct) memberG memberH same)
      rw [grouped]
      exact ⟨iff_of_true ⟨_, rfl⟩ apart, partition_members apart⟩
  | some pair =>
      obtain ⟨first, second⟩ := pair
      obtain ⟨same, inside, before⟩ := firstCollision_go_some collision
      have sub : [first, second].Sublist (partition policy operations) :=
        before.resolve_left List.not_mem_nil
      have precedes : Precedes first.place second.place :=
        List.rel_of_pairwise_cons (List.Pairwise.sublist sub partition_ordered)
          (List.mem_singleton.mpr rfl)
      obtain ⟨a, inA, atA⟩ := partition_places.mp ⟨first, sub.subset List.mem_cons_self, rfl⟩
      obtain ⟨b, inB, atB⟩ := partition_places.mp ⟨second, inside, rfl⟩
      have shared : pathAt (place policy a) = pathAt (place policy b) := by
        rw [atA, atB]
        exact same
      have refused : group policy operations = .error (.artifactCollision second.path
          first.clientName second.clientName) := by
        rw [group, collision]
      rw [refused]
      constructor
      · refine iff_of_false ?_ ?_
        · rintro ⟨groups, succeeded⟩
          cases succeeded
        · intro apart
          rw [← atA, ← atB] at precedes
          exact precedes.ne (apart a inA b inB shared)
      · refine ⟨a, inA, b, inB, by rwa [atA, atB], shared, ?_⟩
        rw [shared, atB, ← path_eq_pathAt, OperationGroup.clientName, OperationGroup.clientName]
        rw [show key policy a = first.key from congrArg Prod.fst atA,
          show key policy b = second.key from congrArg Prod.fst atB]

/-! Groups do not depend on the order of operations. -/

variable {operations' : List Operation}

theorem sortByName_ascending (operations : List Operation) :
    (sortByName operations).Pairwise fun a b => a.name ≤ b.name := by
  have whole : operations.zipIdx.map Prod.fst = operations := List.zipIdx_map_fst 0 operations
  obtain ⟨sorted, -, earlier, same⟩ := sortByName_entries (zipIdx_numbered operations)
  rw [whole] at same
  rw [same, List.pairwise_map]
  apply earlier.imp
  rintro a b (less | ⟨equal, -⟩)
  · exact le_of_lt less
  · exact le_of_eq equal

/-- Two sorted lists of the same operations are equal where names tell operations apart. -/
theorem sortByName_reordered (apart : (operations.map Operation.name).Nodup)
    (reordered : operations'.Perm operations) : sortByName operations' = sortByName operations := by
  have perm : (sortByName operations').Perm (sortByName operations) :=
    (sortByName_perm operations').trans (reordered.trans (sortByName_perm operations).symm)
  apply perm.eq_of_pairwise _ (sortByName_ascending operations') (sortByName_ascending operations)
  intro a b inA inB less more
  have first := reordered.mem_iff.mp ((sortByName_perm operations').mem_iff.mp inA)
  have second := (sortByName_perm operations).mem_iff.mp inB
  exact List.inj_on_of_nodup_map apart first second (String.le_antisymm less more)

/-- A group of the partition holds the operations of a place that occurs, sorted. -/
theorem mem_partition {g : OperationGroup} : g ∈ partition policy operations ↔
    (∃ operation ∈ operations, place policy operation = g.place) ∧
      g.operations = sortByName (operations.filter fun operation =>
        place policy operation = g.place) := by
  constructor
  · intro member
    rw [partition_operations member, entriesAt_operations]
    exact ⟨partition_places.mp ⟨g, member, rfl⟩, rfl⟩
  · rintro ⟨occurs, holds⟩
    obtain ⟨h, member, there⟩ := partition_places.mpr occurs
    have same : h.operations = g.operations := by
      rw [partition_operations member, entriesAt_operations, there, holds]
    obtain ⟨key, folder, operations⟩ := g
    obtain ⟨key', folder', operations'⟩ := h
    cases there
    cases same
    exact member

theorem partition_reordered (policy : GroupingPolicy)
    (apart : (operations.map Operation.name).Nodup) (reordered : operations'.Perm operations) :
    partition policy operations' = partition policy operations := by
  have members : ∀ g, g ∈ partition policy operations' ↔ g ∈ partition policy operations := by
    intro g
    have sorted := @sortByName_reordered
      (operations.filter fun operation => place policy operation = g.place) _
      (apart.sublist (List.filter_sublist.map _)) (reordered.filter _)
    rw [mem_partition, mem_partition, sorted]
    simp only [reordered.mem_iff]
  have nodup : ∀ {operations}, (partition policy operations).Nodup := fun {operations} =>
    List.Pairwise.imp (fun precedes same => precedes.ne (congrArg _ same))
      (@partition_ordered policy operations)
  -- one order holds of both lists, and no two places precede each other
  apply ((List.perm_ext_iff_of_nodup nodup nodup).mpr members).eq_of_pairwise _
    partition_ordered partition_ordered
  intro g h _ _ before after
  exact absurd rfl (before.trans after).ne

theorem group_reordered (policy : GroupingPolicy) (apart : (operations.map Operation.name).Nodup)
    (reordered : operations'.Perm operations) :
    group policy operations' = group policy operations := by
  rw [group, group, partition_reordered policy apart reordered]

end ApiContract.Grouping
