import ApiContract.Grouping
import Mathlib.Data.List.Nodup

/-!
Filing operations one after another. The groups of a list of operations are ordered by key and
folder, one group stands at each place that occurs, and it holds the operations of its place in
the order of the list.
-/

namespace ApiContract

/-- Where a group stands: its key and its folder. -/
def OperationGroup.place (g : OperationGroup) : String × String := (g.key, g.folder)

@[simp] theorem OperationGroup.place_mk (place : String × String) (operations : List Operation) :
    OperationGroup.place ⟨place.1, place.2, operations⟩ = place := rfl

@[simp] theorem OperationGroup.place_with (g : OperationGroup) (operations : List Operation) :
    OperationGroup.place { g with operations := operations } = g.place := rfl

namespace Grouping

/-- Where a policy puts an operation. -/
def place (policy : GroupingPolicy) (operation : Operation) : String × String :=
  (key policy operation, folder policy operation)

/-- The order of places: by key, then by folder. -/
def Precedes (a b : String × String) : Prop := a.1 < b.1 ∨ a.1 = b.1 ∧ a.2 < b.2

variable {a b c place place' : String × String} {groups : List OperationGroup}
  {operation : Operation}

theorem before_iff : before a b = true ↔ Precedes a b := by
  simp [before, Precedes]

theorem Precedes.ne (precedes : Precedes a b) : a ≠ b := by
  rintro rfl
  rcases precedes with less | ⟨_, less⟩
  · exact String.lt_irrefl _ less
  · exact String.lt_irrefl _ less

/-- An order by texts, where equal texts are ordered in another way. -/
theorem textFirst_trans {α : Type} (precedes : α → α → Prop)
    (trans : ∀ {x y z}, precedes x y → precedes y z → precedes x z) {s t u : String} {x y z : α}
    (first : s < t ∨ s = t ∧ precedes x y) (second : t < u ∨ t = u ∧ precedes y z) :
    s < u ∨ s = u ∧ precedes x z := by
  rcases first with less | ⟨same, less⟩
  · rcases second with less' | ⟨same', _⟩
    · exact .inl (String.lt_trans less less')
    · exact .inl (same' ▸ less)
  · rcases second with less' | ⟨same', less'⟩
    · exact .inl (same ▸ less')
    · exact .inr ⟨same.trans same', trans less less'⟩

theorem Precedes.trans (first : Precedes a b) (second : Precedes b c) : Precedes a c :=
  textFirst_trans (· < ·) String.lt_trans first second

theorem lt_of_not_lt_of_ne {s t : String} (least : ¬ s < t) (different : s ≠ t) : t < s := by
  by_contra notGreater
  exact different (String.le_antisymm (String.not_lt.mp notGreater) (String.not_lt.mp least))

theorem precedes_of_not_precedes (least : ¬ Precedes a b) (different : a ≠ b) : Precedes b a := by
  obtain ⟨notKey, notFolder⟩ := not_or.mp least
  by_cases same : a.1 = b.1
  · have folders : a.2 ≠ b.2 := fun equal => different (Prod.ext same equal)
    exact .inr ⟨same.symm, lt_of_not_lt_of_ne (fun less => notFolder ⟨same, less⟩) folders⟩
  · exact .inl (lt_of_not_lt_of_ne notKey same)

/-- Groups in the order of their places, no two at one place. -/
def Ordered (groups : List OperationGroup) : Prop :=
  groups.Pairwise fun g h => Precedes g.place h.place

/-- The operations of the group at a place, none where no group stands. -/
def operationsAt (place : String × String) : List OperationGroup → List Operation
  | [] => []
  | g :: rest => if g.place = place then g.operations else operationsAt place rest

theorem operationsAt_absent (absent : ∀ g ∈ groups, g.place ≠ place) :
    operationsAt place groups = [] := by
  induction groups with
  | nil => rfl
  | cons g rest ih =>
      rw [operationsAt, if_neg (absent g List.mem_cons_self)]
      exact ih fun h member => absent h (List.mem_cons_of_mem _ member)

theorem Ordered.tail_ne {g : OperationGroup} (ordered : Ordered (g :: groups)) :
    ∀ h ∈ groups, h.place ≠ g.place := fun _ member =>
  (List.rel_of_pairwise_cons ordered member).ne.symm

/-- A place that comes before the first group has no group. -/
theorem Ordered.absent_of_precedes {g : OperationGroup} (ordered : Ordered (g :: groups))
    (precedes : Precedes place g.place) : ∀ h ∈ g :: groups, h.place ≠ place := by
  intro h member
  rcases List.mem_cons.mp member with rfl | later
  · exact precedes.ne.symm
  · exact (precedes.trans (List.rel_of_pairwise_cons ordered later)).ne.symm

theorem Ordered.operationsAt_place {g : OperationGroup} (ordered : Ordered groups)
    (member : g ∈ groups) : operationsAt g.place groups = g.operations := by
  induction groups with
  | nil => cases member
  | cons first rest ih =>
      rcases List.mem_cons.mp member with rfl | later
      · exact if_pos rfl
      · rw [operationsAt, if_neg (ordered.tail_ne g later).symm]
        exact ih (List.Pairwise.of_cons ordered) later

theorem Ordered.eq_of_place {g h : OperationGroup} (ordered : Ordered groups) (first : g ∈ groups)
    (second : h ∈ groups) (same : g.place = h.place) : g = h := by
  have apart : (groups.map OperationGroup.place).Nodup :=
    List.pairwise_map.mpr (List.Pairwise.imp Precedes.ne ordered)
  exact List.inj_on_of_nodup_map apart first second same

/-- Filing an operation adds its place to the places, and no other. -/
theorem place_insertOperation :
    (∃ g ∈ insertOperation place operation groups, g.place = place') ↔
      place' = place ∨ ∃ g ∈ groups, g.place = place' := by
  induction groups with
  | nil => simp [insertOperation, eq_comm]
  | cons first rest ih =>
      rw [insertOperation]
      split
      next => simp only [List.exists_mem_cons_iff, OperationGroup.place_mk, eq_comm]
      next =>
        split
        next same =>
          simp only [List.exists_mem_cons_iff]
          constructor
          · rintro (atFirst | later)
            · exact .inr (.inl atFirst)
            · exact .inr (.inr later)
          · rintro (equal | atFirst | later)
            · exact .inl (equal ▸ same.symm)
            · exact .inl atFirst
            · exact .inr later
        next =>
          rw [List.exists_mem_cons_iff, ih, List.exists_mem_cons_iff]
          exact or_left_comm

/-- Filing an operation adds it to the operations of the groups, once. -/
theorem insertOperation_perm :
    ((insertOperation place operation groups).flatMap (·.operations)).Perm
      (operation :: groups.flatMap (·.operations)) := by
  induction groups with
  | nil => exact .refl _
  | cons first rest ih =>
      rw [insertOperation]
      split
      next => exact .refl _
      next =>
        split
        next =>
          rw [List.flatMap_cons, List.flatMap_cons, List.append_assoc]
          exact List.perm_middle
        next =>
          rw [List.flatMap_cons, List.flatMap_cons]
          exact (ih.append_left _).trans List.perm_middle

theorem insertOperation_ordered (ordered : Ordered groups) :
    Ordered (insertOperation place operation groups) := by
  induction groups with
  | nil => exact List.pairwise_singleton _ _
  | cons first rest ih =>
      have others : Ordered rest := List.Pairwise.of_cons ordered
      rw [insertOperation]
      split
      next earlier =>
        have precedes : Precedes place first.place := before_iff.mp earlier
        refine List.pairwise_cons.mpr ⟨?_, ordered⟩
        intro h member
        rcases List.mem_cons.mp member with rfl | later
        · exact precedes
        · exact precedes.trans (List.rel_of_pairwise_cons ordered later)
      next notEarlier =>
        split
        next => exact List.pairwise_cons.mpr ⟨fun h => List.rel_of_pairwise_cons ordered, others⟩
        next different =>
          refine List.pairwise_cons.mpr ⟨?_, ih others⟩
          intro h member
          -- what comes behind `first` is at the new place or was there before
          rcases place_insertOperation.mp ⟨h, member, rfl⟩ with new | ⟨old, inside, same⟩
          · rw [new]
            exact precedes_of_not_precedes (fun less => notEarlier (before_iff.mpr less)) different
          · rw [← same]
            exact List.rel_of_pairwise_cons ordered inside

/-- Filing an operation appends it at its place and leaves the other places as they are. -/
theorem operationsAt_insertOperation (ordered : Ordered groups) :
    operationsAt place' (insertOperation place operation groups) =
      operationsAt place' groups ++ if place = place' then [operation] else [] := by
  induction groups with
  | nil =>
      by_cases same : place = place'
      · simp [insertOperation, operationsAt, same]
      · simp [insertOperation, operationsAt, same]
  | cons first rest ih =>
      rw [insertOperation]
      split
      next earlier =>
        have precedes : Precedes place first.place := before_iff.mp earlier
        by_cases same : place = place'
        · rw [operationsAt, OperationGroup.place_mk, if_pos same, if_pos same, ← same,
            operationsAt_absent (ordered.absent_of_precedes precedes), List.nil_append]
        · rw [operationsAt, OperationGroup.place_mk, if_neg same, if_neg same, List.append_nil]
      next =>
        split
        next atFirst =>
          have here : first.place = place := atFirst.symm
          rw [operationsAt, operationsAt, OperationGroup.place_with, here]
          by_cases same : place = place'
          · rw [if_pos same, if_pos same, if_pos same]
          · rw [if_neg same, if_neg same, if_neg same, List.append_nil]
        next different =>
          by_cases same : first.place = place'
          · have apart : place ≠ place' := fun equal => different (equal.trans same.symm)
            rw [operationsAt, operationsAt, if_pos same, if_pos same, if_neg apart, List.append_nil]
          · rw [operationsAt, operationsAt, if_neg same, if_neg same]
            exact ih (List.Pairwise.of_cons ordered)

/-- What filing a list of operations has made of them. -/
structure Filed (policy : GroupingPolicy) (operations : List Operation)
    (groups : List OperationGroup) : Prop where
  ordered : Ordered groups
  places : ∀ place, (∃ g ∈ groups, g.place = place) ↔
    ∃ operation ∈ operations, Grouping.place policy operation = place
  holds : ∀ place, operationsAt place groups =
    operations.filter fun operation => Grouping.place policy operation = place

theorem Filed.nil (policy : GroupingPolicy) : Filed policy [] [] where
  ordered := List.Pairwise.nil
  places := by simp
  holds _ := rfl

theorem Filed.step {policy : GroupingPolicy} {operations : List Operation}
    (filed : Filed policy operations groups) (operation : Operation) :
    Filed policy (operations ++ [operation])
      (insertOperation (Grouping.place policy operation) operation groups) where
  ordered := insertOperation_ordered filed.ordered
  places place := by
    rw [place_insertOperation, filed.places]
    constructor
    · rintro (new | ⟨old, member, same⟩)
      · exact ⟨operation, by simp, new.symm⟩
      · exact ⟨old, List.mem_append_left _ member, same⟩
    · rintro ⟨found, member, same⟩
      rcases List.mem_append.mp member with old | new
      · exact .inr ⟨found, old, same⟩
      · rw [List.mem_singleton.mp new] at same
        exact .inl same.symm
  holds place := by
    rw [operationsAt_insertOperation filed.ordered, filed.holds, List.filter_append]
    by_cases here : Grouping.place policy operation = place
    · simp [here]
    · simp [here]

theorem Filed.run {policy : GroupingPolicy} {filedBefore : List Operation}
    (filed : Filed policy filedBefore groups) (operations : List Operation) :
    Filed policy (filedBefore ++ operations)
      (operations.foldl
        (fun groups operation => insertOperation (Grouping.place policy operation) operation groups)
        groups) := by
  induction operations generalizing filedBefore groups with
  | nil =>
      rw [List.append_nil]
      exact filed
  | cons operation rest ih =>
      have stepped := ih (filed.step operation)
      rw [List.append_assoc] at stepped
      exact stepped

end Grouping

end ApiContract
