import ApiContract.Text.Cut
import Mathlib.Data.List.Basic

/-!
Cutting at a mark undoes joining with it, where no part holds the mark.
-/

namespace ApiContract.Text

variable {mark : Char}

theorem cutChars_none {chars : List Char} : cutChars mark chars = none ↔ mark ∉ chars := by
  induction chars with
  | nil => simp [cutChars]
  | cons c rest ih =>
      rw [cutChars, List.mem_cons, not_or]
      by_cases same : c = mark
      · simp [same]
      · simp [same, Ne.symm same, ih]

theorem cutChars_append {before : List Char} (free : mark ∉ before) (after : List Char) :
    cutChars mark (before ++ mark :: after) = some (before, after) := by
  induction before with
  | nil => simp [cutChars]
  | cons c rest ih =>
      rw [List.mem_cons, not_or] at free
      rw [List.cons_append, cutChars, if_neg (Ne.symm free.1), ih free.2]
      rfl

theorem cutChars_some {chars before after : List Char}
    (found : cutChars mark chars = some (before, after)) :
    chars = before ++ mark :: after ∧ mark ∉ before := by
  induction chars generalizing before with
  | nil => cases found
  | cons c rest ih =>
      rw [cutChars] at found
      split at found
      next same =>
        cases found
        exact ⟨by rw [same]; rfl, List.not_mem_nil⟩
      next different =>
        obtain ⟨⟨inner, behind⟩, cut, same⟩ := Option.map_eq_some_iff.mp found
        cases same
        obtain ⟨whole, free⟩ := ih cut
        refine ⟨by rw [whole]; rfl, ?_⟩
        rw [List.mem_cons, not_or]
        exact ⟨Ne.symm different, free⟩

theorem cut?_none {text : String} : cut? mark text = none ↔ mark ∉ text.toList := by
  rw [cut?, Option.map_eq_none_iff, cutChars_none]

theorem cut?_append {before : String} (free : mark ∉ before.toList) (after : String) :
    cut? mark (before ++ String.singleton mark ++ after) = some (before, after) := by
  have chars : (before ++ String.singleton mark ++ after).toList =
      before.toList ++ mark :: after.toList := by simp
  rw [cut?, chars, cutChars_append free]
  simp only [Option.map_some, String.ofList_toList]

theorem cut?_some {text before after : String} (found : cut? mark text = some (before, after)) :
    text = before ++ String.singleton mark ++ after ∧ mark ∉ before.toList := by
  obtain ⟨⟨first, behind⟩, cut, same⟩ := Option.map_eq_some_iff.mp found
  cases same
  obtain ⟨whole, free⟩ := cutChars_some cut
  refine ⟨?_, by rwa [String.toList_ofList]⟩
  apply String.toList_injective
  simp [whole]

theorem splitChars_ne_nil (chars : List Char) : splitChars mark chars ≠ [] := by
  cases chars with
  | nil => simp [splitChars]
  | cons c rest =>
      rw [splitChars]
      split
      next => simp
      next => split <;> simp

theorem split_ne_nil (text : String) : split mark text ≠ [] := by
  rw [split, Ne, List.map_eq_nil_iff]
  exact splitChars_ne_nil _

theorem splitChars_free {chars : List Char} (free : mark ∉ chars) :
    splitChars mark chars = [chars] := by
  induction chars with
  | nil => rfl
  | cons c rest ih =>
      rw [List.mem_cons, not_or] at free
      rw [splitChars, if_neg (Ne.symm free.1), ih free.2]

/-- A mark between two texts parts them, whatever marks they hold themselves. -/
theorem splitChars_append (before after : List Char) :
    splitChars mark (before ++ mark :: after) = splitChars mark before ++ splitChars mark after := by
  induction before with
  | nil => simp [splitChars]
  | cons c rest ih =>
      rw [List.cons_append, splitChars, splitChars, ih]
      by_cases same : c = mark
      · rw [if_pos same, if_pos same, List.cons_append]
      · rw [if_neg same, if_neg same]
        cases parts : splitChars mark rest with
        | nil => exact absurd parts (splitChars_ne_nil rest)
        | cons part others => rfl

theorem not_mem_of_mem_splitChars {chars part : List Char} (member : part ∈ splitChars mark chars) :
    mark ∉ part := by
  induction chars generalizing part with
  | nil =>
      rw [splitChars, List.mem_singleton] at member
      rw [member]
      exact List.not_mem_nil
  | cons c rest ih =>
      rw [splitChars] at member
      split at member
      next =>
        rcases List.mem_cons.mp member with empty | later
        · rw [empty]
          exact List.not_mem_nil
        · exact ih later
      next different =>
        split at member
        next empty => exact absurd empty (splitChars_ne_nil rest)
        next first others parts =>
          rw [parts] at ih
          rcases List.mem_cons.mp member with same | later
          · rw [same, List.mem_cons, not_or]
            exact ⟨Ne.symm different, ih List.mem_cons_self⟩
          · exact ih (List.mem_cons_of_mem _ later)

theorem not_mem_of_mem_split {text part : String} (member : part ∈ split mark text) :
    mark ∉ part.toList := by
  obtain ⟨chars, inside, same⟩ := List.mem_map.mp member
  rw [← same, String.toList_ofList]
  exact not_mem_of_mem_splitChars inside

theorem split_free {text : String} (free : mark ∉ text.toList) : split mark text = [text] := by
  rw [split, splitChars_free free, List.map_singleton, String.ofList_toList]

theorem split_append (before after : String) :
    split mark (before ++ String.singleton mark ++ after) = split mark before ++ split mark after := by
  have chars : (before ++ String.singleton mark ++ after).toList =
      before.toList ++ mark :: after.toList := by simp
  rw [split, chars, splitChars_append, List.map_append, split, split]

/-- What is added to a text without a mark in it is added to the last part. -/
theorem split_extend {suffix : String} (free : mark ∉ suffix.toList) (text : String) :
    ∃ before last, split mark text = before ++ [last] ∧
      split mark (text ++ suffix) = before ++ [last ++ suffix] := by
  have chars (whole : List Char) : ∃ before last, splitChars mark whole = before ++ [last] ∧
      splitChars mark (whole ++ suffix.toList) = before ++ [last ++ suffix.toList] := by
    induction whole with
    | nil => exact ⟨[], [], rfl, splitChars_free free⟩
    | cons c rest ih =>
        obtain ⟨before, last, parts, parts'⟩ := ih
        rw [List.cons_append, splitChars, splitChars, parts, parts']
        by_cases same : c = mark
        · rw [if_pos same, if_pos same]
          exact ⟨[] :: before, last, rfl, rfl⟩
        · rw [if_neg same, if_neg same]
          cases before with
          | nil => exact ⟨[], c :: last, rfl, rfl⟩
          | cons first before => exact ⟨(c :: first) :: before, last, rfl, rfl⟩
  obtain ⟨before, last, parts, parts'⟩ := chars text.toList
  refine ⟨before.map String.ofList, String.ofList last, ?_, ?_⟩
  · rw [split, parts, List.map_append, List.map_singleton]
  · rw [split, String.toList_append, parts', List.map_append, List.map_singleton,
      String.ofList_append, String.ofList_toList]

theorem intercalate_splitChars (chars : List Char) :
    List.intercalate [mark] (splitChars mark chars) = chars := by
  induction chars with
  | nil => rfl
  | cons c rest ih =>
      rw [splitChars]
      cases parts : splitChars mark rest with
      | nil => exact absurd parts (splitChars_ne_nil rest)
      | cons first others =>
          rw [parts] at ih
          split
          next same => rw [same, List.intercalate_cons_cons, ih]; rfl
          next =>
            dsimp only
            cases others with
            | nil => rw [← ih]; simp
            | cons => rw [← ih]; simp [List.intercalate_cons_cons]

/-- A text is known by its parts. -/
theorem split_injective (mark : Char) : Function.Injective (split mark) := by
  intro first second same
  have parts := List.map_injective_iff.mpr (fun _ _ => String.ofList_injective) same
  apply String.toList_injective
  rw [← @intercalate_splitChars mark first.toList, parts, intercalate_splitChars]

/-- Joined parts are found again. -/
theorem split_intercalate {parts : List String} (nonempty : parts ≠ [])
    (free : ∀ part ∈ parts, mark ∉ part.toList) :
    split mark (String.intercalate (String.singleton mark) parts) = parts := by
  induction parts with
  | nil => exact absurd rfl nonempty
  | cons first rest ih =>
      have firstFree := free first List.mem_cons_self
      cases rest with
      | nil => rw [String.intercalate_singleton, split_free firstFree]
      | cons second others =>
          have joined := ih (List.cons_ne_nil _ _) fun part member =>
            free part (List.mem_cons_of_mem _ member)
          rw [String.intercalate_cons_cons, split_append, split_free firstFree, joined]
          rfl

theorem mem_of_mem_intercalate {c : Char} {between : String} {parts : List String}
    (member : c ∈ (String.intercalate between parts).toList) :
    c ∈ between.toList ∨ ∃ part ∈ parts, c ∈ part.toList := by
  induction parts with
  | nil => simp at member
  | cons first rest ih =>
      cases rest with
      | nil =>
          rw [String.intercalate_singleton] at member
          exact .inr ⟨first, List.mem_cons_self, member⟩
      | cons second others =>
          rw [String.intercalate_cons_cons, String.toList_append, String.toList_append,
            List.mem_append, List.mem_append] at member
          rcases member with (inFirst | inBetween) | inRest
          · exact .inr ⟨first, List.mem_cons_self, inFirst⟩
          · exact .inl inBetween
          · rcases ih inRest with inBetween | ⟨part, inside, found⟩
            · exact .inl inBetween
            · exact .inr ⟨part, List.mem_cons_of_mem _ inside, found⟩

/-- Joining loses no character of a part. -/
theorem mem_intercalate {c : Char} {between part : String} {parts : List String}
    (inside : part ∈ parts) (member : c ∈ part.toList) :
    c ∈ (String.intercalate between parts).toList := by
  induction parts with
  | nil => cases inside
  | cons first rest ih =>
      cases rest with
      | nil =>
          rw [String.intercalate_singleton, ← List.mem_singleton.mp inside]
          exact member
      | cons second others =>
          rw [String.intercalate_cons_cons, String.toList_append, String.toList_append,
            List.mem_append, List.mem_append]
          rcases List.mem_cons.mp inside with rfl | later
          · exact .inl (.inl member)
          · exact .inr (ih later)

end ApiContract.Text
