import ApiContract.Call.Draft
import ApiContract.Proofs.Text.Cut

/-!
The entries of a query are read back as they were written, where no part of them holds a mark that
separates parts.
-/

namespace ApiContract

/-- An entry whose name and value can be told apart, and told from other entries. -/
structure Separable (entry : String × String) : Prop where
  name : '&' ∉ entry.1.toList ∧ '=' ∉ entry.1.toList
  value : '&' ∉ entry.2.toList

/-- What is read from a query is separable. -/
theorem queryEntries_separable {query : String} {entry : String × String}
    (member : entry ∈ queryEntries query) : Separable entry := by
  obtain ⟨text, kept, same⟩ := List.mem_map.mp member
  have free := Text.not_mem_of_mem_split (List.mem_filter.mp kept).1
  cases cut : Text.cut? '=' text with
  | none =>
      rw [cut, Option.getD_none] at same
      rw [← same]
      exact ⟨⟨free, Text.cut?_none.mp cut⟩, List.not_mem_nil⟩
  | some parts =>
      obtain ⟨name, value⟩ := parts
      rw [cut, Option.getD_some] at same
      obtain ⟨whole, nameFree⟩ := Text.cut?_some cut
      rw [whole, String.toList_append, String.toList_append] at free
      rw [← same]
      refine ⟨⟨fun inName => free ?_, nameFree⟩, fun inValue => free ?_⟩
      · exact List.mem_append_left _ (List.mem_append_left _ inName)
      · exact List.mem_append_right _ inValue

namespace UriDraft

theorem entryText_eq (entry : String × String) :
    entryText entry = entry.1 ++ String.singleton '=' ++ entry.2 := rfl

theorem cut_entryText {entry : String × String} (separable : Separable entry) :
    Text.cut? '=' (entryText entry) = some entry :=
  Text.cut?_append separable.name.2 entry.2

theorem entryText_free {entry : String × String} (separable : Separable entry) :
    '&' ∉ (entryText entry).toList := by
  rw [entryText_eq, String.toList_append, String.toList_append, List.mem_append, List.mem_append]
  rintro ((inName | inMark) | inValue)
  · exact separable.name.1 inName
  · simp at inMark
  · exact separable.value inValue

theorem entryText_not_empty (entry : String × String) : (entryText entry).isEmpty = false := by
  rw [← Bool.not_eq_true, String.isEmpty_iff]
  intro empty
  have noChars : (entryText entry).toList = [] := by rw [empty]; rfl
  rw [entryText_eq] at noChars
  simp at noChars

theorem queryEntries_join {entries : List (String × String)}
    (separable : ∀ entry ∈ entries, Separable entry) :
    queryEntries (String.intercalate "&" (entries.map entryText)) = entries := by
  cases entries with
  | nil => rfl
  | cons first rest =>
      have free : ∀ part ∈ (first :: rest).map entryText, '&' ∉ part.toList := by
        intro part member
        obtain ⟨entry, inside, same⟩ := List.mem_map.mp member
        exact same ▸ entryText_free (separable entry inside)
      have kept : ((first :: rest).map entryText).filter (fun part => !part.isEmpty) =
          (first :: rest).map entryText := by
        rw [List.filter_eq_self]
        intro part member
        obtain ⟨entry, -, same⟩ := List.mem_map.mp member
        rw [← same, entryText_not_empty]
        rfl
      have parts := Text.split_intercalate (by simp) free
      change ((Text.split '&' (String.intercalate (String.singleton '&') _)).filter _).map _ = _
      rw [parts, kept, List.map_map]
      conv => rhs; rw [← List.map_id (first :: rest)]
      apply List.map_congr_left
      intro entry member
      rw [Function.comp_apply, cut_entryText (separable entry member)]
      rfl

/-- The entries of a finished request are those of its draft. -/
theorem entries_finish {draft : RequestDraft} (base : '?' ∉ draft.uri.base.toList)
    (separable : ∀ entry ∈ draft.uri.finalQuery, Separable entry) (method : HttpMethod) :
    (draft.finish method).entries = draft.uri.finalQuery := by
  rw [HttpRequest.entries, HttpRequest.query?, RequestDraft.finish]
  cases final : draft.uri.finalQuery with
  | nil => rw [finish, final, Text.cut?_none.mpr base]; rfl
  | cons first rest =>
      rw [final] at separable
      have cut := Text.cut?_append base (String.intercalate "&" ((first :: rest).map entryText))
      have written : draft.uri.finish = draft.uri.base ++ String.singleton '?' ++
          String.intercalate "&" ((first :: rest).map entryText) := by
        rw [finish, final]
        rfl
      rw [written, cut]
      exact queryEntries_join separable

end UriDraft

end ApiContract
