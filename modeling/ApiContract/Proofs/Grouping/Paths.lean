import ApiContract.Proofs.Files.Path
import ApiContract.Proofs.Grouping.Partition
import ApiContract.Proofs.Text.Casing

/-!
The paths of groups, part by part. The file of a group is a proper name in every case. Its folders
are the parts of a route in snake case, which may leave nothing of a part: an empty part inside the
path, or in front of it, where the path then starts at the root.
-/

namespace ApiContract.Grouping

variable {operation : Operation} {g : OperationGroup}

/-- Snake case leaves nothing of a part that has no letter and no number. -/
def Lost (part : String) : Prop := ∀ c ∈ part.toList, Text.isAlphanumeric c = false

instance (part : String) : Decidable (Lost part) :=
  inferInstanceAs (Decidable (∀ c ∈ part.toList, Text.isAlphanumeric c = false))

/-- The parts of a route that are always folders: a single part that is lost makes no folder. -/
def nestingParts (operation : Operation) : List String :=
  match operation.constantRoute? with
  | some route => if (slashParts route).length < 2 then [] else slashParts route
  | none => []

theorem snake_part_free (part : String) :
    '/' ∉ (Text.snake part).toList ∧ '.' ∉ (Text.snake part).toList := by
  constructor
  · exact Text.snake_free (by decide) (by decide) (by decide) (by decide)
  · exact Text.snake_free (by decide) (by decide) (by decide) (by decide)

theorem snake_eq_empty_iff {part : String} : Text.snake part = "" ↔ Lost part :=
  Text.snake_eq_empty

/-- The parts of a group's path are its folders, if it has any, and its file. -/
theorem split_path (g : OperationGroup) : Text.split '/' g.path =
    (if g.folder = "" then [] else Text.split '/' g.folder) ++ [Naming.clientFile g.key] := by
  have file := Text.split_free (Naming.clientFile_free g.key)
  rw [OperationGroup.path]
  by_cases empty : g.folder = ""
  · simp [empty, file]
  · have parts := @Text.split_append '/' g.folder (Naming.clientFile g.key)
    change Text.split '/' (g.folder ++ "/" ++ _) = _ at parts
    simp [empty, parts, file]

theorem clientFile_proper (key : String) : Naming.clientFile key ≠ "" ∧
    Naming.clientFile key ≠ "." ∧ Naming.clientFile key ≠ ".." := by
  have inside : 's' ∈ (Naming.clientFile key).toList := by
    rw [Naming.clientFile]
    split
    next => decide
    next => simp
  have proper := Path.proper_of_free (Naming.clientFile_free key) inside (by decide)
  rw [Path.Proper, Text.split_free (Naming.clientFile_free key)] at proper
  exact proper _ (List.mem_singleton.mpr rfl)

/-- Parts in snake case are found again in the path they are joined to. A single part that is lost
leaves the empty path. -/
theorem split_snake (parts : List String) :
    let joined := String.intercalate "/" (parts.map Text.snake)
    joined = "" ∧ parts.length < 2 ∨
      joined ≠ "" ∧ Text.split '/' joined = parts.map Text.snake ∧
        ∀ single, parts = [single] → ¬ Lost single := by
  have free : ∀ part ∈ parts.map Text.snake, '/' ∉ part.toList := by
    intro part member
    obtain ⟨original, -, rfl⟩ := List.mem_map.mp member
    exact (snake_part_free original).1
  match parts with
  | [] => exact .inl ⟨rfl, Nat.two_pos⟩
  | [single] =>
      by_cases lost : Lost single
      · exact .inl ⟨by simp [snake_eq_empty_iff.mpr lost], by simp⟩
      · refine .inr ⟨?_, ?_, ?_⟩
        · simpa using fun empty => lost (snake_eq_empty_iff.mp empty)
        · simpa using Text.split_free (free _ (List.mem_singleton.mpr rfl))
        · rintro _ ⟨⟩
          exact lost
  | first :: second :: rest =>
      refine .inr ⟨?_, Text.split_intercalate (List.cons_ne_nil _ _) free, ?_⟩
      · have slash :
            '/' ∈ (String.intercalate "/" ((first :: second :: rest).map Text.snake)).toList := by
          simp [String.intercalate_cons_cons]
        intro empty
        rw [empty] at slash
        cases slash
      · rintro _ ⟨⟩

/-- Where an operation is nested under its route, the folders of its group are the parts of the
route in snake case. -/
theorem split_nested (nested : g.folder = routeFolder operation) :
    ∃ folders, Text.split '/' g.path = folders ++ [Naming.clientFile g.key] ∧
      (folders = (nestingParts operation).map Text.snake ∨
        nestingParts operation = [] ∧ ∃ part, ¬ Lost part ∧ folders = [Text.snake part]) := by
  rw [split_path, nested, routeFolder, nestingParts]
  cases operation.constantRoute? with
  | none => exact ⟨[], rfl, .inl rfl⟩
  | some route =>
      dsimp only
      rcases split_snake (slashParts route) with ⟨empty, short⟩ | ⟨inhabited, parts, kept⟩
      · exact ⟨[], by rw [if_pos empty], .inl (by rw [if_pos short]; rfl)⟩
      · refine ⟨_, by rw [if_neg inhabited, parts], ?_⟩
        by_cases short : (slashParts route).length < 2
        · rw [if_pos short]
          -- the path of a single part is cut only where the part is kept, see split_snake
          match found : slashParts route with
          | [] => exact .inl rfl
          | [single] => exact .inr ⟨rfl, single, kept single found, rfl⟩
          | first :: second :: rest =>
              rw [found] at short
              exact absurd short (by simp)
        · rw [if_neg short]
          exact .inl rfl

theorem snake_ne_points (part : String) : Text.snake part ≠ "." ∧ Text.snake part ≠ ".." := by
  have free := (snake_part_free part).2
  constructor
  all_goals
    intro same
    rw [same] at free
    exact free (by decide)

theorem flat_proper (flat : g.folder = "") : Path.Proper g.path := by
  intro part member
  rw [split_path, if_pos flat, List.nil_append, List.mem_singleton] at member
  rw [member]
  exact clientFile_proper g.key

section Nested
variable (nested : g.folder = routeFolder operation)
include nested

/-- The parts of a group's path are its file and parts of the route in snake case. -/
theorem mem_split_nested {part : String} (member : part ∈ Text.split '/' g.path) :
    part = Naming.clientFile g.key ∨ ∃ original, part = Text.snake original := by
  obtain ⟨folders, parts, made⟩ := split_nested nested
  rw [parts, List.mem_append, List.mem_singleton] at member
  rcases member with inside | last
  · rcases made with rfl | ⟨-, single, -, rfl⟩
    · obtain ⟨original, -, same⟩ := List.mem_map.mp inside
      exact .inr ⟨original, same.symm⟩
    · exact .inr ⟨single, List.mem_singleton.mp inside⟩
  · exact .inl last

theorem nested_without_points :
    ∀ part ∈ Text.split '/' g.path, part ≠ "." ∧ part ≠ ".." := by
  intro part member
  rcases mem_split_nested nested member with rfl | ⟨original, rfl⟩
  · exact (clientFile_proper g.key).2
  · exact snake_ne_points original

/-- A group's path is proper exactly where no part of the route is lost. -/
theorem nested_proper :
    Path.Proper g.path ↔ ∀ part ∈ nestingParts operation, ¬ Lost part := by
  obtain ⟨folders, parts, made⟩ := split_nested nested
  constructor
  · intro proper part member lost
    rcases made with rfl | ⟨none, -⟩
    · refine (proper (Text.snake part) ?_).1 (snake_eq_empty_iff.mpr lost)
      rw [parts]
      exact List.mem_append_left _ (List.mem_map_of_mem member)
    · rw [none] at member
      cases member
  · intro kept part member
    refine ⟨?_, nested_without_points nested part member⟩
    rw [parts, List.mem_append, List.mem_singleton] at member
    rcases member with inside | rfl
    · rcases made with rfl | ⟨-, single, whole, rfl⟩
      · obtain ⟨original, listed, rfl⟩ := List.mem_map.mp inside
        exact fun empty => kept original listed (snake_eq_empty_iff.mp empty)
      · rw [List.mem_singleton.mp inside]
        exact fun empty => whole (snake_eq_empty_iff.mp empty)
    · exact (clientFile_proper g.key).1

/-- A group's path starts at the root exactly where the first part of the route is lost. -/
theorem nested_absolute : Text.startsWith '/' g.path = true ↔
    ∃ part, (nestingParts operation).head? = some part ∧ Lost part := by
  obtain ⟨folders, parts, made⟩ := split_nested nested
  rw [Path.startsWith_iff, parts]
  constructor
  · rintro ⟨rest, -, empty⟩
    rcases made with rfl | ⟨-, single, whole, rfl⟩
    · cases listed : nestingParts operation with
      | nil =>
          rw [listed] at empty
          -- without folders the file is the first part
          exact absurd (List.head_eq_of_cons_eq empty) (clientFile_proper g.key).1
      | cons first others =>
          rw [listed, List.map_cons, List.cons_append] at empty
          exact ⟨first, rfl, snake_eq_empty_iff.mp (List.head_eq_of_cons_eq empty)⟩
    · exact absurd (snake_eq_empty_iff.mp (List.head_eq_of_cons_eq empty)) whole
  · rintro ⟨part, first, lost⟩
    rcases made with rfl | ⟨none, -⟩
    · obtain ⟨others, whole⟩ := List.head?_eq_some_iff.mp first
      refine ⟨others.map Text.snake ++ [Naming.clientFile g.key], by simp, ?_⟩
      rw [whole, List.map_cons, snake_eq_empty_iff.mpr lost]
      rfl
    · rw [none] at first
      cases first

example :
    OperationGroup.path ⟨"list", routeFolder
      { name := "list", method := .get, path := [.constant "/~/items"] }, []⟩ =
        "/items/list_api.rs" := by
  decide +kernel

/-- A group's path that does not start at the root leads below every folder it is joined to. -/
theorem nested_below (relative : Text.startsWith '/' g.path = false) (folder : String) :
    Path.Below folder (Path.join folder g.path) := by
  have points := nested_without_points nested
  have file := clientFile_proper g.key
  apply Path.below_join relative (fun part member => (points part member).2) _ ⟨file.1, file.2.1⟩
  rw [split_path]
  exact List.mem_append_right _ (List.mem_singleton.mpr rfl)

end Nested

end ApiContract.Grouping
