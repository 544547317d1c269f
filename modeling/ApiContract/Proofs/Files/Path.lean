import ApiContract.Files.Tree
import ApiContract.Proofs.Text.Cut

/-!
Paths inside a folder. A relative path whose names lead somewhere and never out again leads to a
place below every folder it is joined to.
-/

namespace ApiContract.Path

variable {folder name : String}

/-- Every part of the path is the name of a file or of a folder. -/
def Proper (path : String) : Prop :=
  ∀ part ∈ Text.split '/' path, part ≠ "" ∧ part ≠ "." ∧ part ≠ ".."

instance (path : String) : Decidable (Proper path) :=
  inferInstanceAs (Decidable (∀ part ∈ Text.split '/' path, part ≠ "" ∧ part ≠ "." ∧ part ≠ ".."))

/-- Behind the names of the folder stand more, and none of these leads out again. -/
def Below (folder path : String) : Prop :=
  ∃ inner, inner ≠ [] ∧ ".." ∉ inner ∧ names path = names folder ++ inner

theorem names_append (folder name : String) :
    names (folder ++ "/" ++ name) = names folder ++ names name := by
  have parts := @Text.split_append '/' folder name
  change Text.split '/' (folder ++ "/" ++ name) = _ at parts
  rw [names, parts, List.filter_append]
  rfl

/-- A name that does not start at the root stands behind the folder. -/
theorem names_join (relative : Text.startsWith '/' name = false) (folder : String) :
    names (join folder name) = names folder ++ names name := by
  rw [join]
  by_cases empty : folder = ""
  · rw [if_pos (.inl empty), empty]
    rfl
  · rw [if_neg (by simp [empty, relative])]
    split
    next ends =>
      -- the slash at the end of the folder is the one between folder and name
      rw [Text.endsWith, beq_iff_eq, List.getLast?_eq_some_iff] at ends
      obtain ⟨before, chars⟩ := ends
      have whole : folder = String.ofList before ++ "/" ++ "" := by
        apply String.toList_injective
        simp [chars]
      rw [whole, names_append, String.append_empty, names_append]
      simp [names, Text.split, Text.splitChars]
    next => exact names_append folder name

/-- A path starts at the root where its first part is empty and others follow. -/
theorem startsWith_iff : Text.startsWith '/' name = true ↔
    ∃ rest, rest ≠ [] ∧ Text.split '/' name = "" :: rest := by
  rw [Text.startsWith, beq_iff_eq, Text.split]
  cases name.toList with
  | nil => simp [Text.splitChars]
  | cons c rest =>
      rw [Text.splitChars]
      by_cases slash : c = '/'
      · simp [slash, Text.splitChars_ne_nil]
      · simp only [List.head?_cons, Option.some.injEq, slash, false_iff, if_false]
        rintro ⟨others, -, parts⟩
        split at parts
        all_goals
          have first := List.head_eq_of_cons_eq parts
          rw [String.ofList_eq_empty_iff] at first
          cases first

theorem Proper.relative (proper : Proper name) : Text.startsWith '/' name = false := by
  by_contra absolute
  rw [Bool.not_eq_false] at absolute
  obtain ⟨rest, -, parts⟩ := startsWith_iff.mp absolute
  have first : "" ∈ Text.split '/' name := by
    rw [parts]
    exact List.mem_cons_self
  exact (proper "" first).1 rfl

theorem join_absolute (absolute : Text.startsWith '/' name = true) (folder : String) :
    join folder name = name := by
  rw [join, if_pos (.inr absolute)]

/-- A relative path that leads to some part and never out leads below its folder. -/
theorem below_join (relative : Text.startsWith '/' name = false)
    (stays : ∀ part ∈ Text.split '/' name, part ≠ "..") {part : String}
    (inside : part ∈ Text.split '/' name) (leads : part ≠ "" ∧ part ≠ ".") (folder : String) :
    Below folder (join folder name) := by
  refine ⟨names name, ?_, ?_, names_join relative folder⟩
  · have named : part ∈ names name := List.mem_filter.mpr ⟨inside, by simp [leads]⟩
    exact List.ne_nil_of_mem named
  · intro leaves
    exact stays ".." (List.mem_filter.mp leaves).1 rfl

theorem Proper.below (proper : Proper name) (folder : String) :
    Below folder (join folder name) := by
  obtain ⟨part, inside⟩ := List.exists_mem_of_ne_nil _ (Text.split_ne_nil name)
  have leads := proper part inside
  apply below_join proper.relative (fun other member => (proper other member).2.2) inside
  exact ⟨leads.1, leads.2.1⟩

/-- A name without slashes is proper if it is more than points. -/
theorem proper_of_free {c : Char} (free : '/' ∉ name.toList) (member : c ∈ name.toList)
    (different : c ≠ '.') : Proper name := by
  intro part inside
  rw [Text.split_free free, List.mem_singleton] at inside
  rw [inside]
  refine ⟨?_, ?_, ?_⟩
  all_goals
    rintro rfl
    simp [different] at member

end ApiContract.Path
