import ApiContract.Value.JsonForm

/-!
Parts are nested less deeply than the whole, for values and for documents.
-/

namespace ApiContract

theorem le_foldr_max {α : Type} (size : α → Nat) {items : List α} {item : α}
    (member : item ∈ items) : size item ≤ items.foldr (fun item most => max (size item) most) 0 := by
  induction items with
  | nil => cases member
  | cons first rest ih =>
      rw [List.foldr_cons]
      rcases List.mem_cons.mp member with same | later
      · rw [same]
        exact Nat.le_max_left ..
      · exact Nat.le_trans (ih later) (Nat.le_max_right ..)

namespace Value

theorem depth_pos (value : Value) : 0 < value.depth := by
  cases value <;> simp [depth]

theorem depthOfItems_eq (items : List Value) :
    depthOfItems items = items.foldr (fun item most => max item.depth most) 0 := by
  induction items with
  | nil => rfl
  | cons first rest ih => rw [depthOfItems, ih, List.foldr_cons]

theorem depthOfEntries_eq (entries : List (String × Value)) :
    depthOfEntries entries = entries.foldr (fun entry most => max entry.2.depth most) 0 := by
  induction entries with
  | nil => rfl
  | cons first rest ih => rw [depthOfEntries, ih, List.foldr_cons]

theorem depth_le_items {items : List Value} {item : Value} (member : item ∈ items) :
    item.depth ≤ depthOfItems items := by
  rw [depthOfItems_eq]
  exact le_foldr_max depth member

theorem depth_le_entries {entries : List (String × Value)} {entry : String × Value}
    (member : entry ∈ entries) : entry.2.depth ≤ depthOfEntries entries := by
  rw [depthOfEntries_eq]
  exact le_foldr_max (fun entry => entry.2.depth) member

end Value

namespace Json

theorem depth_pos (document : Json) : 0 < document.depth := by
  cases document <;> simp [depth]

theorem depthOfItems_eq (items : List Json) :
    depthOfItems items = items.foldr (fun item most => max item.depth most) 0 := by
  induction items with
  | nil => rfl
  | cons first rest ih => rw [depthOfItems, ih, List.foldr_cons]

theorem depthOfMembers_eq (members : List (String × Json)) :
    depthOfMembers members = members.foldr (fun entry most => max entry.2.depth most) 0 := by
  induction members with
  | nil => rfl
  | cons first rest ih => rw [depthOfMembers, ih, List.foldr_cons]

theorem depth_le_items {items : List Json} {item : Json} (member : item ∈ items) :
    item.depth ≤ depthOfItems items := by
  rw [depthOfItems_eq]
  exact le_foldr_max depth member

theorem depth_le_members {members : List (String × Json)} {entry : String × Json}
    (member : entry ∈ members) : entry.2.depth ≤ depthOfMembers members := by
  rw [depthOfMembers_eq]
  exact le_foldr_max (fun entry => entry.2.depth) member

end Json

end ApiContract
