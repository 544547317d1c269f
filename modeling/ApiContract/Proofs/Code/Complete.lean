import ApiContract.Code.Template
import Mathlib.Data.List.Basic

/-!
Complete code. Templates bring words, marks and literals but no identifier of their own, so code is
complete where the parts that fill the templates are.
-/

namespace ApiContract.Code

variable {code first second : Code}

@[simp] theorem isComplete_nil : isComplete [] = true := rfl

@[simp] theorem isComplete_append :
    isComplete (first ++ second) = (isComplete first && isComplete second) :=
  List.all_append

@[simp] theorem isComplete_word (text : String) : isComplete (word text) = true := rfl

@[simp] theorem isComplete_text (content : String) : isComplete (text content) = true := rfl

@[simp] theorem isComplete_doc (comment : String) : isComplete (doc comment) = true := rfl

@[simp] theorem isComplete_innerDoc (comment : String) : isComplete (innerDoc comment) = true := rfl

@[simp] theorem isComplete_ident {name : String} : isComplete (ident name) = true ↔ name ≠ "_" := by
  simp [ident, isComplete]

@[simp] theorem isComplete_sequence_nil : isComplete (sequence []) = true := rfl

@[simp] theorem isComplete_sequence_cons {codes : List Code} :
    isComplete (sequence (code :: codes)) = (isComplete code && isComplete (sequence codes)) := by
  rw [sequence, List.flatten_cons, isComplete_append, sequence]

theorem isComplete_sequence {codes : List Code} (each : ∀ code ∈ codes, isComplete code = true) :
    isComplete (sequence codes) = true := by
  induction codes with
  | nil => rfl
  | cons code rest ih =>
      have others := ih fun other member => each other (List.mem_cons_of_mem _ member)
      rw [isComplete_sequence_cons, each code List.mem_cons_self, others]
      rfl

theorem isComplete_sequence_map {α : Type} {items : List α} {write : α → Code}
    (each : ∀ item ∈ items, isComplete (write item) = true) :
    isComplete (sequence (items.map write)) = true :=
  isComplete_sequence (List.forall_mem_map.mpr each)

theorem isComplete_commaSeparated {codes : List Code}
    (each : ∀ code ∈ codes, isComplete code = true) : isComplete (commaSeparated codes) = true := by
  fun_induction commaSeparated codes with
  | case1 => rfl
  | case2 code => exact each code List.mem_cons_self
  | case3 code rest _ ih =>
      have others := ih fun other member => each other (List.mem_cons_of_mem _ member)
      rw [isComplete_append, each code List.mem_cons_self]
      exact others

theorem isComplete_of_mem {token : Token} (complete : isComplete code = true)
    (member : token ∈ code) : isComplete [token] = true := by
  rw [isComplete, List.all_cons, List.all_eq_true.mp complete token member]
  rfl

/-- The tokens of a template are no identifiers. -/
theorem isComplete_of_mem_scan {fuel : Nat} {chars : List Char} {token : Token}
    (member : .token token ∈ Template.scan fuel chars) : isComplete [token] = true := by
  have comment : ∀ {code : Code}, isComplete code = true →
      .token token ∈ Template.tokens code → isComplete [token] = true := by
    intro code complete inside
    obtain ⟨found, listed, same⟩ := List.mem_map.mp inside
    cases same
    exact isComplete_of_mem complete listed
  fun_induction Template.scan fuel chars with
  | case1 => cases member
  | case2 => cases member
  | case3 fuel rest ih =>
      rcases List.mem_append.mp member with inside | later
      · exact comment (isComplete_doc _) inside
      · exact ih later
  | case4 fuel rest ih =>
      rcases List.mem_append.mp member with inside | later
      · exact comment (isComplete_innerDoc _) inside
      · exact ih later
  | case5 fuel rest ih =>
      rcases List.mem_cons.mp member with same | later
      · cases same
      · exact ih later
  | case9 =>
      rename_i ih
      exact ih member
  | _ =>
      rcases List.mem_cons.mp member with same | later
      · cases same
        rfl
      · rename_i ih
        exact ih later

/-- A template filled with complete parts is complete. -/
theorem isComplete_write {template : String} {parts : List (String × Code)}
    (each : ∀ part ∈ parts, isComplete part.2 = true) :
    isComplete (write template parts) = true := by
  rw [isComplete, List.all_eq_true]
  intro token member
  obtain ⟨piece, scanned, filled⟩ := List.mem_flatMap.mp member
  cases piece with
  | token found =>
      rw [List.mem_singleton.mp filled]
      exact List.all_eq_true.mp (isComplete_of_mem_scan scanned) _ (List.mem_singleton.mpr rfl)
  | hole name =>
      rw [Template.fillPiece] at filled
      cases found : parts.lookup name with
      | none =>
          rw [found] at filled
          rw [List.mem_singleton.mp filled]
      | some part =>
          rw [found] at filled
          obtain ⟨before, after, split, -⟩ := List.lookup_eq_some_iff.mp found
          have listed : (name, part) ∈ parts := by simp [split]
          exact List.all_eq_true.mp (each _ listed) token filled

@[simp] theorem isComplete_plain (template : String) : isComplete (plain template) = true :=
  isComplete_write (List.forall_mem_nil _)

end ApiContract.Code
