import ApiContract.Call.Draft
import ApiContract.Proofs.Text.Percent
import Mathlib.Data.List.Induction

/-!
Entries of a followed link, merged by the names as they are spelled: of each spelling the last entry
stays. What a reader finds under a decoded name depends on how many spellings the name has.
-/

namespace ApiContract.UriDraft

/-- Of each spelling of a name the last entry. -/
def lastEach (entries : List (String × String)) : List (String × String) :=
  entries.foldl addLinkEntry []

theorem lastEach_append (entries more : List (String × String)) :
    lastEach (entries ++ more) = more.foldl addLinkEntry (lastEach entries) :=
  List.foldl_append

theorem lastEach_concat (entries : List (String × String)) (entry : String × String) :
    lastEach (entries ++ [entry]) = (lastEach entries).filter (·.1 != entry.1) ++ [entry] :=
  lastEach_append entries [entry]

theorem mem_of_mem_lastEach {entries : List (String × String)} {entry : String × String}
    (member : entry ∈ lastEach entries) : entry ∈ entries := by
  induction entries using List.reverseRecOn with
  | nil => exact member
  | append_singleton rest last ih =>
      rw [lastEach_concat] at member
      rw [List.mem_append]
      rcases List.mem_append.mp member with kept | new
      · exact .inl (ih (List.mem_filter.mp kept).1)
      · exact .inr new

/-- No spelling is lost. -/
theorem spelling_mem_lastEach {entries : List (String × String)} {entry : String × String}
    (member : entry ∈ entries) : ∃ kept ∈ lastEach entries, kept.1 = entry.1 := by
  induction entries using List.reverseRecOn with
  | nil => cases member
  | append_singleton rest last ih =>
      rw [lastEach_concat]
      by_cases same : last.1 = entry.1
      · exact ⟨last, by simp, same⟩
      · have earlier : entry ∈ rest := by
          rcases List.mem_append.mp member with old | new
          · exact old
          · exact absurd (congrArg Prod.fst (List.mem_singleton.mp new)).symm same
        obtain ⟨kept, inside, equal⟩ := ih earlier
        refine ⟨kept, List.mem_append_left _ (List.mem_filter.mpr ⟨inside, ?_⟩), equal⟩
        rw [equal, bne_iff_ne]
        exact Ne.symm same

/-- Keeping the last entries commutes with choosing some of the names. -/
theorem filter_lastEach (choose : String → Bool) (entries : List (String × String)) :
    (lastEach entries).filter (fun entry => choose entry.1) =
      lastEach (entries.filter fun entry => choose entry.1) := by
  induction entries using List.reverseRecOn with
  | nil => rfl
  | append_singleton rest last ih =>
      rw [lastEach_concat, List.filter_append, List.filter_append, List.filter_filter]
      cases chosen : choose last.1 with
      | true =>
          rw [List.filter_cons, chosen, if_pos rfl, List.filter_nil, lastEach_concat, ← ih, List.filter_filter]
          simp only [Bool.and_comm]
      | false =>
          rw [List.filter_cons, chosen, if_neg (by simp), List.filter_nil, List.append_nil, List.append_nil,
            ← ih]
          apply List.filter_congr
          intro entry _
          by_cases same : entry.1 = last.1
          · rw [same, chosen]
            rfl
          · simp [same]

theorem lastEach_ne_nil {entries : List (String × String)} (present : entries ≠ []) :
    lastEach entries ≠ [] := by
  obtain ⟨entry, member⟩ := List.exists_mem_of_ne_nil entries present
  obtain ⟨kept, inside, -⟩ := spelling_mem_lastEach member
  exact List.ne_nil_of_mem inside

/-- Entries with one spelling come down to the last of them. -/
theorem lastEach_alike {entries : List (String × String)} {spelling : String}
    (alike : ∀ entry ∈ entries, entry.1 = spelling) : lastEach entries = entries.getLast?.toList := by
  induction entries using List.reverseRecOn with
  | nil => rfl
  | append_singleton rest last ih =>
      have noOther : (lastEach rest).filter (·.1 != last.1) = [] := by
        apply List.filter_eq_nil_iff.mpr
        intro entry member
        have old := alike entry (List.mem_append_left _ (mem_of_mem_lastEach member))
        have new := alike last (by simp)
        simp [old, new]
      rw [lastEach_concat, noOther, List.getLast?_concat]
      rfl

/-- The entries under a decoded name. -/
def named (name : String) (entries : List (String × String)) : List (String × String) :=
  entries.filter fun entry => Text.Percent.decode entry.1 == name

theorem mem_named {name : String} {entries : List (String × String)} {entry : String × String} :
    entry ∈ named name entries ↔ entry ∈ entries ∧ Text.Percent.decode entry.1 = name := by
  rw [named, List.mem_filter, beq_iff_eq]

/-- The entries of an operation that a link replaces by its own, and the link's. -/
def merged (own carried : List (String × String)) : List (String × String) :=
  own.filter (fun entry => !(lastEach carried).any (·.1 == entry.1)) ++ lastEach carried

/-- The link spells a name in one way, and if the operation has the name too, then as encoding it
does. -/
def SpelledAlike (name : String) (own carried : List (String × String)) : Prop :=
  ∃ spelling, (∀ entry ∈ named name carried, entry.1 = spelling) ∧
    (named name own ≠ [] → spelling = Text.Percent.encodeQuery name)

variable {name : String} {own carried : List (String × String)}

theorem named_merged :
    named name (merged own carried) =
      (named name own).filter (fun entry => !(lastEach carried).any (·.1 == entry.1)) ++
        lastEach (named name carried) := by
  have kept := filter_lastEach (fun key => Text.Percent.decode key == name) carried
  rw [merged, named, List.filter_append, kept, List.filter_filter, named, List.filter_filter]
  simp only [Bool.and_comm, named]

theorem replaced_iff {entry : String × String} :
    (!(lastEach carried).any (·.1 == entry.1)) = false ↔ ∃ other ∈ carried, other.1 = entry.1 := by
  rw [Bool.not_eq_false', List.any_eq_true]
  constructor
  · rintro ⟨kept, member, same⟩
    exact ⟨kept, mem_of_mem_lastEach member, beq_iff_eq.mp same⟩
  · rintro ⟨other, member, same⟩
    obtain ⟨kept, inside, equal⟩ := spelling_mem_lastEach member
    exact ⟨kept, inside, by rw [equal, same, beq_self_eq_true]⟩

/-- Names that the operation sends are spelled as encoding spells them. -/
def Encoded (own : List (String × String)) : Prop :=
  ∀ entry ∈ own, ∃ wireName, entry.1 = Text.Percent.encodeQuery wireName

theorem Encoded.spelling (encoded : Encoded own) {entry : String × String}
    (member : entry ∈ named name own) : entry.1 = Text.Percent.encodeQuery name := by
  obtain ⟨inside, decoded⟩ := mem_named.mp member
  obtain ⟨wireName, spelled⟩ := encoded entry inside
  rw [spelled, Text.Percent.decode_encodeQuery] at decoded
  rw [spelled, decoded]

/-- A name that is spelled alike has one entry in the end, the last of the link. -/
theorem named_merged_alike (encoded : Encoded own) (alike : SpelledAlike name own carried)
    (present : named name carried ≠ []) :
    named name (merged own carried) = (named name carried).getLast?.toList := by
  obtain ⟨spelling, linkSpelled, ownSpelled⟩ := alike
  -- The link has an entry under every spelling that the operation uses.
  have noOwn : (named name own).filter (fun entry => !(lastEach carried).any (·.1 == entry.1)) =
      [] := by
    apply List.filter_eq_nil_iff.mpr
    intro entry member
    obtain ⟨other, inside⟩ := List.exists_mem_of_ne_nil _ present
    have same : other.1 = entry.1 := by
      rw [linkSpelled other inside, ownSpelled (List.ne_nil_of_mem member),
        encoded.spelling member]
    rw [Bool.not_eq_true]
    exact replaced_iff.mpr ⟨other, (mem_named.mp inside).1, same⟩
  rw [named_merged, noOwn, lastEach_alike linkSpelled, List.nil_append]

/-- A name with one entry in the end is spelled alike. -/
theorem alike_of_single (encoded : Encoded own) (present : named name carried ≠ [])
    (single : (named name (merged own carried)).length = 1) : SpelledAlike name own carried := by
  rw [named_merged, List.length_append] at single
  have left : 0 < (lastEach (named name carried)).length :=
    List.length_pos_iff.mpr (lastEach_ne_nil present)
  obtain ⟨kept, only⟩ := List.length_eq_one_iff.mp
    (show (lastEach (named name carried)).length = 1 by omega)
  -- One entry is left of the link, and none of the operation.
  have linkSpelled : ∀ entry ∈ named name carried, entry.1 = kept.1 := by
    intro entry member
    obtain ⟨other, inside, same⟩ := spelling_mem_lastEach member
    rw [only, List.mem_singleton] at inside
    rw [← same, inside]
  refine ⟨kept.1, linkSpelled, fun sent => ?_⟩
  obtain ⟨entry, member⟩ := List.exists_mem_of_ne_nil _ sent
  have noOwn : (named name own).filter (fun entry => !(lastEach carried).any (·.1 == entry.1)) =
      [] := List.length_eq_zero_iff.mp (by omega)
  have replaced := List.filter_eq_nil_iff.mp noOwn entry member
  rw [Bool.not_eq_true] at replaced
  obtain ⟨other, inside, same⟩ := replaced_iff.mp replaced
  have decoded : Text.Percent.decode other.1 = name := by
    rw [same]
    exact (mem_named.mp member).2
  rw [← linkSpelled other (mem_named.mpr ⟨inside, decoded⟩), same, encoded.spelling member]

/-- What a link does not name stays as the operation has it. -/
theorem named_merged_other (unnamed : named name carried = []) :
    named name (merged own carried) = named name own := by
  rw [named_merged, unnamed]
  refine (List.append_nil _).trans (List.filter_eq_self.mpr fun entry member => ?_)
  cases replaced : (!(lastEach carried).any (·.1 == entry.1)) with
  | true => rfl
  | false =>
      obtain ⟨other, inside, same⟩ := replaced_iff.mp replaced
      have found : other ∈ named name carried := by
        refine mem_named.mpr ⟨inside, ?_⟩
        rw [same]
        exact (mem_named.mp member).2
      rw [unnamed] at found
      cases found

end ApiContract.UriDraft
