import ApiContract.Value.Basic
import Mathlib.Data.List.Induction
import Mathlib.Data.String.Basic

/-!
Records and maps as lists sorted by key. Inserting is updating a look-up, and a sorted list is
known by its look-ups; so a record is the same in whatever order its fields are collected.
-/

namespace ApiContract

/-- Strictly ascending keys: the entries of a map, each key once. -/
def SortedKeys {α : Type} (entries : List (String × α)) : Prop :=
  entries.Pairwise fun first second => first.1 < second.1

instance {α : Type} (entries : List (String × α)) : Decidable (SortedKeys entries) :=
  inferInstanceAs (Decidable (entries.Pairwise _))

/-- Entries in any order, of equal keys the last counting, as a sorted list. -/
def sortEntries {α : Type} (entries : List (String × α)) : List (String × α) :=
  entries.foldl (fun sorted entry => insertSorted entry.1 entry.2 sorted) []

variable {α : Type}

theorem lookup_cons_if (key : String) (entry : String × α) (entries : List (String × α)) :
    (entry :: entries).lookup key = if key = entry.1 then some entry.2 else entries.lookup key := by
  obtain ⟨k, v⟩ := entry
  by_cases same : key = k
  · simp [same]
  · simp [List.lookup_cons, same, beq_false_of_ne same]

theorem lookup_insertSorted (key : String) (value : α) (entries : List (String × α))
    (other : String) :
    (insertSorted key value entries).lookup other =
      if other = key then some value else entries.lookup other := by
  induction entries with
  | nil => simp [insertSorted, lookup_cons_if]
  | cons entry rest ih =>
      obtain ⟨k, v⟩ := entry
      simp only [insertSorted]
      split
      next => simp [lookup_cons_if]
      next =>
        split
        next equal =>
          subst equal
          by_cases same : other = key <;> simp [lookup_cons_if, same]
        next different =>
          rw [lookup_cons_if, lookup_cons_if, ih]
          by_cases head : other = k
          · subst head
            simp [Ne.symm different]
          · simp [head]

theorem mem_insertSorted {key : String} {value : α} {entries : List (String × α)}
    {entry : String × α} (member : entry ∈ insertSorted key value entries) :
    entry = (key, value) ∨ entry ∈ entries := by
  induction entries with
  | nil => simpa [insertSorted] using member
  | cons first rest ih =>
      simp only [insertSorted] at member
      split at member
      next => exact List.mem_cons.mp member
      next =>
        split at member
        next =>
          rcases List.mem_cons.mp member with same | old
          · exact .inl same
          · exact .inr (List.mem_cons_of_mem _ old)
        next =>
          rcases List.mem_cons.mp member with same | later
          · exact .inr (same ▸ List.mem_cons_self)
          · exact (ih later).imp_right (List.mem_cons_of_mem _)

theorem insertSorted_sorted (key : String) (value : α) {entries : List (String × α)}
    (sorted : SortedKeys entries) : SortedKeys (insertSorted key value entries) := by
  induction entries with
  | nil => simp [insertSorted, SortedKeys]
  | cons first rest ih =>
      obtain ⟨least, sorted'⟩ := List.pairwise_cons.mp sorted
      simp only [insertSorted]
      split
      next before =>
        refine List.pairwise_cons.mpr ⟨fun other member => ?_, sorted⟩
        rcases List.mem_cons.mp member with same | later
        · exact same ▸ before
        · exact lt_trans before (least other later)
      next notBefore =>
        split
        next equal =>
          subst equal
          exact List.pairwise_cons.mpr ⟨least, sorted'⟩
        next different =>
          refine List.pairwise_cons.mpr ⟨fun other member => ?_, ih sorted'⟩
          rcases mem_insertSorted member with same | old
          · subst same
            exact lt_of_le_of_ne (not_lt.mp notBefore) (Ne.symm different)
          · exact least other old

theorem sortEntries_append (entries : List (String × α)) (entry : String × α) :
    sortEntries (entries ++ [entry]) = insertSorted entry.1 entry.2 (sortEntries entries) := by
  simp [sortEntries]

theorem sortEntries_sorted (entries : List (String × α)) : SortedKeys (sortEntries entries) := by
  induction entries using List.reverseRecOn with
  | nil => exact List.Pairwise.nil
  | append_singleton entries entry ih =>
      rw [sortEntries_append]
      exact insertSorted_sorted entry.1 entry.2 ih

theorem mem_of_mem_sortEntries {entries : List (String × α)} {entry : String × α}
    (member : entry ∈ sortEntries entries) : entry ∈ entries := by
  induction entries using List.reverseRecOn with
  | nil => exact member
  | append_singleton rest last ih =>
      rw [sortEntries_append] at member
      rw [List.mem_append]
      rcases mem_insertSorted member with same | earlier
      · exact .inr (by simp [same])
      · exact .inl (ih earlier)

theorem lookup_of_nodup {entries : List (String × α)} (nodup : (entries.map (·.1)).Nodup)
    {entry : String × α} (member : entry ∈ entries) : entries.lookup entry.1 = some entry.2 := by
  induction entries with
  | nil => cases member
  | cons first rest ih =>
      obtain ⟨fresh, nodup'⟩ := List.nodup_cons.mp nodup
      rcases List.mem_cons.mp member with same | later
      · rw [← same, lookup_cons_if, if_pos rfl]
      · have different : entry.1 ≠ first.1 := by
          intro same
          exact fresh (List.mem_map.mpr ⟨entry, later, same⟩)
        rw [lookup_cons_if, if_neg different]
        exact ih nodup' later

theorem SortedKeys.nodup {entries : List (String × α)} (sorted : SortedKeys entries) :
    (entries.map (·.1)).Nodup :=
  List.pairwise_map.mpr (sorted.imp fun less => ne_of_lt less)

theorem SortedKeys.lookup_of_mem {entries : List (String × α)} (sorted : SortedKeys entries)
    {entry : String × α} (member : entry ∈ entries) : entries.lookup entry.1 = some entry.2 :=
  lookup_of_nodup sorted.nodup member

theorem mem_of_lookup {entries : List (String × α)} {key : String} {value : α}
    (found : entries.lookup key = some value) : (key, value) ∈ entries := by
  induction entries with
  | nil => cases found
  | cons first rest ih =>
      rw [lookup_cons_if] at found
      split at found
      next same =>
        have equal : first = (key, value) := Prod.ext same.symm (Option.some.inj found)
        exact equal ▸ List.mem_cons_self
      next => exact List.mem_cons_of_mem _ (ih found)

theorem lookup_eq_none {entries : List (String × α)} {key : String} :
    entries.lookup key = none ↔ key ∉ entries.map (·.1) := by
  induction entries with
  | nil => simp
  | cons first rest ih =>
      rw [lookup_cons_if, List.map_cons, List.mem_cons, not_or, ← ih]
      by_cases same : key = first.1 <;> simp [same]

/-- Sorted lists with equal look-ups are equal: their heads are the least keys of both. -/
theorem SortedKeys.ext {left right : List (String × α)} (sortedLeft : SortedKeys left)
    (sortedRight : SortedKeys right) (same : ∀ key, left.lookup key = right.lookup key) :
    left = right := by
  have perm : left.Perm right := by
    refine (List.perm_ext_iff_of_nodup ?_ ?_).mpr fun entry => ⟨fun member => ?_, fun member => ?_⟩
    · exact sortedLeft.imp fun less equal => (ne_of_lt less) (congrArg Prod.fst equal)
    · exact sortedRight.imp fun less equal => (ne_of_lt less) (congrArg Prod.fst equal)
    · exact mem_of_lookup ((same entry.1).symm.trans (sortedLeft.lookup_of_mem member))
    · exact mem_of_lookup ((same entry.1).trans (sortedRight.lookup_of_mem member))
  exact perm.eq_of_pairwise (fun _ _ _ _ less more => absurd less (lt_asymm more))
    sortedLeft sortedRight

/-- Where each key occurs once, sorting does not change what is found. -/
theorem lookup_sortEntries {entries : List (String × α)} (nodup : (entries.map (·.1)).Nodup)
    (key : String) : (sortEntries entries).lookup key = entries.lookup key := by
  induction entries using List.reverseRecOn with
  | nil => rfl
  | append_singleton entries entry ih =>
      rw [List.map_append, List.nodup_append] at nodup
      obtain ⟨nodup', -, apart⟩ := nodup
      rw [sortEntries_append, lookup_insertSorted, ih nodup', List.lookup_append]
      by_cases same : key = entry.1
      -- The new key is none of the old ones, so it hides nothing.
      · have absent : entries.lookup key = none := by
          apply lookup_eq_none.mpr
          intro member
          exact apart key member entry.1 (by simp) same
        rw [if_pos same, absent, lookup_cons_if, if_pos same]
        rfl
      · simp [same, lookup_cons_if]

/-- Where all entries of a key agree, sorting keeps what they say. -/
theorem lookup_sortEntries_agreed {entries : List (String × α)} {key : String} {value : α}
    (member : (key, value) ∈ entries) (agreed : ∀ other, (key, other) ∈ entries → other = value) :
    (sortEntries entries).lookup key = some value := by
  induction entries using List.reverseRecOn with
  | nil => cases member
  | append_singleton entries entry ih =>
      rw [sortEntries_append, lookup_insertSorted]
      split
      next last =>
        have same := agreed entry.2 (List.mem_append_right _ (by simp [last]))
        rw [same]
      next other =>
        rcases List.mem_append.mp member with earlier | last
        · exact ih earlier fun found listed => agreed found (List.mem_append_left _ listed)
        · rw [← List.mem_singleton.mp last] at other
          exact absurd rfl other

theorem sortEntries_eq {entries sorted : List (String × α)} (isSorted : SortedKeys sorted)
    (nodup : (entries.map (·.1)).Nodup)
    (same : ∀ key, entries.lookup key = sorted.lookup key) : sortEntries entries = sorted :=
  (sortEntries_sorted entries).ext isSorted fun key => (lookup_sortEntries nodup key).trans (same key)

theorem sortEntries_of_sorted {entries : List (String × α)} (sorted : SortedKeys entries) :
    sortEntries entries = entries :=
  sortEntries_eq sorted sorted.nodup fun _ => rfl

/-- Collecting keys one by one into a sorted list of keys. -/
theorem foldl_sortedKeys (keys : List String) {sorted : List (String × Unit)}
    (isSorted : SortedKeys sorted) :
    SortedKeys (keys.foldl (fun sorted key => insertSorted key () sorted) sorted) ∧
      ∀ key, (keys.foldl (fun sorted key => insertSorted key () sorted) sorted).lookup key =
        if key ∈ keys then some () else sorted.lookup key := by
  induction keys generalizing sorted with
  | nil => exact ⟨isSorted, fun key => rfl⟩
  | cons first rest ih =>
      obtain ⟨ascending, found⟩ := ih (insertSorted_sorted first () isSorted)
      refine ⟨ascending, fun key => ?_⟩
      rw [List.foldl_cons, found, lookup_insertSorted]
      by_cases later : key ∈ rest
      · simp [later]
      · by_cases here : key = first
        · simp [here]
        · simp [here, later]

/-- The keys collected are those given, in order and each once. -/
theorem collected_keys (keys : List String) :
    ((keys.foldl (fun sorted key => insertSorted key () sorted) []).map (·.1)).Pairwise (· < ·) ∧
      ∀ key, key ∈ (keys.foldl (fun sorted key => insertSorted key () sorted) []).map (·.1) ↔
        key ∈ keys := by
  obtain ⟨ascending, found⟩ := @foldl_sortedKeys keys [] List.Pairwise.nil
  refine ⟨List.pairwise_map.mpr ascending, fun key => ?_⟩
  have absent := found key
  by_cases given : key ∈ keys
  · rw [if_pos given] at absent
    exact iff_of_true (List.mem_map.mpr ⟨_, mem_of_lookup absent, rfl⟩) given
  · rw [if_neg given] at absent
    exact iff_of_false (lookup_eq_none.mp absent) given

variable {β : Type}

/-- The entries of the items that have a value, in their order. -/
def entriesOf (key : α → String) (value : α → Option β) (items : List α) : List (String × β) :=
  items.filterMap fun item => (value item).map fun b => (key item, b)

theorem mem_entriesOf {key : α → String} {value : α → Option β} {items : List α}
    {entry : String × β} : entry ∈ entriesOf key value items ↔
      ∃ item ∈ items, key item = entry.1 ∧ value item = some entry.2 := by
  obtain ⟨name, b⟩ := entry
  simp only [entriesOf, List.mem_filterMap, Option.map_eq_some_iff, Prod.mk.injEq]
  constructor
  · rintro ⟨item, member, found, valued, named, rfl⟩
    exact ⟨item, member, named, valued⟩
  · rintro ⟨item, member, named, valued⟩
    exact ⟨item, member, b, valued, named, rfl⟩

theorem keys_entriesOf (key : α → String) (value : α → Option β) (items : List α) :
    ((entriesOf key value items).map (·.1)).Sublist (items.map key) := by
  induction items with
  | nil => exact List.Sublist.refl _
  | cons item rest ih =>
      cases has : value item with
      | none => simpa [entriesOf, has] using ih.cons (key item)
      | some b => simpa [entriesOf, has] using ih.cons_cons (key item)

theorem lookup_entriesOf {key : α → String} {value : α → Option β} {items : List α}
    (nodup : (items.map key).Nodup) {item : α} (member : item ∈ items) :
    (entriesOf key value items).lookup (key item) = value item := by
  induction items with
  | nil => cases member
  | cons first rest ih =>
      rw [List.map_cons, List.nodup_cons] at nodup
      obtain ⟨fresh, nodup'⟩ := nodup
      have split : entriesOf key value (first :: rest) =
          ((value first).map fun b => (key first, b)).toList ++ entriesOf key value rest := by
        cases has : value first <;> simp [entriesOf, has]
      rw [split]
      rcases List.mem_cons.mp member with same | later
      · subst same
        cases has : value item with
        | some b => simp
        | none =>
            refine lookup_eq_none.mpr fun present => fresh ?_
            exact (keys_entriesOf key value rest).subset present
      · have different : key item ≠ key first := fun same =>
          fresh (same ▸ List.mem_map_of_mem later)
        cases has : value first with
        | none => simpa using ih nodup' later
        | some b => simpa [lookup_cons_if, different] using ih nodup' later

theorem entriesOf_map {key : α → String} {value : α → Option β} {look : String → Option β}
    {items : List α} (same : ∀ item ∈ items, value item = look (key item)) :
    entriesOf key value items = entriesOf id look (items.map key) := by
  rw [entriesOf, entriesOf, List.filterMap_map]
  apply List.filterMap_congr
  intro item member
  rw [same item member]
  rfl

theorem entriesOf_append (key : α → String) (value : α → Option β) (first second : List α) :
    entriesOf key value (first ++ second) =
      entriesOf key value first ++ entriesOf key value second := List.filterMap_append

/-- A sorted list is restored from what is found under names that cover its keys. -/
theorem sortEntries_entriesOf {sorted : List (String × α)} (isSorted : SortedKeys sorted)
    {names : List String} (nodup : names.Nodup) (covered : ∀ key ∈ sorted.map (·.1), key ∈ names) :
    sortEntries (entriesOf id (fun name => sorted.lookup name) names) = sorted := by
  have keys := keys_entriesOf id (fun name => sorted.lookup name) names
  rw [List.map_id] at keys
  apply sortEntries_eq isSorted (nodup.sublist keys)
  intro key
  by_cases named : key ∈ names
  · exact @lookup_entriesOf _ _ id (fun name => sorted.lookup name) names (by simpa using nodup) key named
  · have absent : key ∉ (entriesOf id (fun name => sorted.lookup name) names).map (·.1) := fun inside =>
      named (keys.subset inside)
    rw [lookup_eq_none.mpr absent, lookup_eq_none.mpr fun inside => named (covered key inside)]

namespace Value

theorem ofFields_eq (fields : List (String × Value)) :
    ofFields fields = .record (sortEntries fields) := rfl

theorem ofEntries_eq (entries : List (String × Value)) :
    ofEntries entries = .map (sortEntries entries) := rfl

end Value

end ApiContract
