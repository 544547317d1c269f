import ApiContract.Proofs.Xml.Returns
import ApiContract.Proofs.Xml.Tables

/-!
Reading undoes writing. The tree of a record is the one that parsing rebuilds, up to the texts that
leave no trace, and those are the texts that no conforming record has.
-/

namespace ApiContract.XmlForm

open Planning
open Xml (Element)

variable {model : Model}

theorem fresh_write {plan : ElementPlan} {value : Value} {element : Element}
    (returns : ReturnsRecord model plan plan.name value element) :
    (write model (.element plan) value).fresh = .ok (Xml.document element) :=
  write_element (returns.write _ (Nat.le_succ _))

theorem fresh_read {plan : ElementPlan} {value : Value} {element : Element}
    (returns : ReturnsRecord model plan plan.name value element) :
    (read model (.element plan) (Xml.document element)).fresh = .ok value := by
  rw [read_document returns.named returns.name]
  exact returns.read _ (Nat.le_refl _)

/-- A conforming record is written, and the text that is written is read as the record, whatever
types and plans the tables hold. -/
theorem read_written {root : SchemaId} {plan : ElementPlan} {value : Value}
    (planned : Planned model root plan) (conforms : Conforms model (.element plan) value)
    {memo : Memo} (lawful : memo.Obeys model.tableLaw) :
    ∃ text, ((write model (.element plan) value).run memo).1 = .ok text ∧
      ((write model (.element plan) value).run memo).2.Obeys model.tableLaw ∧
      ∀ memo', memo'.Obeys model.tableLaw →
        ((read model (.element plan) text).run memo').1 = .ok value ∧
          ((read model (.element plan) text).run memo').2.Obeys model.tableLaw := by
  have tidy := planned.tidy root plan .root planned.made
  have named : Xml.isName plan.name = true := tidy.names _ List.mem_cons_self
  -- The root leads to the objects that its plan refers to, so their plans are tidy as well.
  have returned : Returned model (.element plan) value :=
    planned.returned conforms fun linked member => .next .root planned.made member
  obtain ⟨element, returns⟩ := returned tidy plan.name named
  obtain ⟨ran, lawful'⟩ := (write_steady plan value).run lawful
  refine ⟨_, ran.trans (fresh_write returns), lawful', fun memo' lawful'' => ?_⟩
  obtain ⟨ran', lawful'''⟩ := (read_steady plan _).run lawful''
  exact ⟨ran'.trans (fresh_read returns), lawful'''⟩

/-- Books with an attribute, a text, a wrapped list of books, a bare list and a dictionary. -/
def library : Model :=
  { name := "Library"
    schemas :=
      [("Book", .object
          { name := "Book"
            properties :=
              [{ Property.mandatory "edition" "Count" with xml := some { asAttribute := true } },
                { Property.optional "blurb" "Text" with xml := some { asText := true } },
                { Property.optional "sequels" "Books" with
                  xml := some { wrapped := true, itemName := some "book" } },
                Property.optional "tags" "Tags",
                Property.optional "titles" "Titles"] }),
        ("Books", .array "Book"),
        ("Count", .primitive .int32 none),
        ("Tags", .array "Text"),
        ("Text", .primitive .string none),
        ("Titles", .dictionary "Text")] }

def textKind : ScalarKind := .primitive .string none

def bookPlan : ElementPlan :=
  { schema := "Book"
    typeName := "Book"
    name := "Book"
    attributes := [⟨"edition", "edition", .primitive .int32 none, true⟩]
    children :=
      [⟨"sequels", "sequels", .sequence true "book" (.model "Book"), false, none⟩,
        ⟨"tags", "tags", .sequence false "tags" (.value textKind), false, none⟩,
        ⟨"titles", "titles", .dictionary (.value textKind), false, none⟩]
    text := some ⟨"blurb", textKind, false⟩ }

theorem planOf_book : library.planOf "Book" .xml = .ok (.element bookPlan) := rfl

theorem bookPlan_tidy : Tidy bookPlan := ⟨by decide, by decide, by decide, by decide⟩

theorem library_planned : Planned library "Book" bookPlan := by
  have known : ∀ schema, library.XmlReachable "Book" schema → schema = "Book" := by
    intro schema reachable
    induction reachable with
    | root => rfl
    -- The only link of a book is to books.
    | next _ made member ih =>
        subst ih
        rw [planOf_book] at made
        cases made
        exact List.mem_singleton.mp member
  refine ⟨⟨["Book"], rfl⟩, planOf_book, fun schema nested reachable made => ?_⟩
  rw [known schema reachable, planOf_book] at made
  cases made
  exact bookPlan_tidy

/-- A book whose blurb is blank, which is kept because no child stands beside it. -/
def sequel : Value := .record [("blurb", .string "\n"), ("edition", .int 2)]

def novel : Value :=
  .record
    [("blurb", .string "cats & dogs <3"), ("edition", .int 1), ("sequels", .list [sequel]),
      ("tags", .list [.string "", .string " \"new\" "]), ("titles", .map [("fr", .string "é")])]

theorem text_fits (text : String) : Scalar.FitsText textKind (.string text) := .text rfl rfl

/-- A book with an edition and a blurb conforms if its children do. -/
theorem book_conforms {fields : List (String × Value)} (shaped : Shaped bookPlan fields) {n : Int64}
    (edition : fields.lookup "edition" = some (.int n)) (narrow : Scalar.FitsInt32 n)
    {blurb : String} (carried : fields.lookup "blurb" = some (.string blurb))
    (children : ∀ child ∈ bookPlan.children, ∀ value, fields.lookup child.property = some value →
      Conforms library (.child child.content) value) :
    Conforms library (.element bookPlan) (.record fields) := by
  refine .record shaped ?_ ?_ children
  · intro entry member value found
    rw [List.mem_singleton.mp member] at found ⊢
    rw [edition] at found
    cases found
    exact .whole rfl fun _ => narrow
  · intro text same value found
    cases same
    rw [carried] at found
    cases found
    exact text_fits blurb

theorem sequel_conforms : Conforms library (.element bookPlan) sequel := by
  have childless : ¬HasChildren bookPlan [("blurb", .string "\n"), ("edition", .int 2)] := by
    simp [HasChildren, bookPlan, lookup_cons_if]
  have shaped : Shaped bookPlan [("blurb", .string "\n"), ("edition", .int 2)] :=
    { sorted := by decide
      planned := by decide
      notNull := fun name => by simp only [lookup_cons_if]; split <;> simp
      attributes := by simp [bookPlan, lookup_cons_if]
      text := by simp [bookPlan, lookup_cons_if]
      children := by simp [bookPlan, Defaulted]
      lists := by simp [bookPlan, lookup_cons_if]
      empty := by
        rintro text same - value found
        cases same
        cases found
        decide
      blank := fun _ _ _ _ _ _ _ _ => childless }
  refine book_conforms shaped rfl ⟨by decide, by decide⟩ rfl ?_
  simp [bookPlan, lookup_cons_if]

theorem novel_conforms : Conforms library (.element bookPlan) novel := by
  have shaped : Shaped bookPlan
      [("blurb", .string "cats & dogs <3"), ("edition", .int 1), ("sequels", .list [sequel]),
        ("tags", .list [.string "", .string " \"new\" "]),
        ("titles", .map [("fr", .string "é")])] :=
    { sorted := by decide
      planned := by decide
      notNull := fun name => by
        simp only [lookup_cons_if]
        repeat' split
        all_goals simp
      attributes := by simp [bookPlan, lookup_cons_if]
      text := by simp [bookPlan, lookup_cons_if]
      children := by simp [bookPlan, lookup_cons_if]
      lists := by simp [bookPlan, lookup_cons_if, Traceless]
      empty := by
        rintro text same - value found
        cases same
        cases found
        decide
      blank := by
        rintro text same value found written made - blank
        cases same
        cases found
        cases made
        cases blank }
  refine book_conforms shaped rfl ⟨by decide, by decide⟩ rfl fun child member value found => ?_
  rcases List.mem_cons.mp member with same | member
  · subst same
    cases found
    refine .list fun item inside => ?_
    rw [List.mem_singleton.mp inside]
    refine .nested fun plan made => ?_
    rw [planOf_book] at made
    cases made
    exact sequel_conforms
  rcases List.mem_cons.mp member with same | member
  · subst same
    cases found
    refine .list fun item inside => ?_
    rcases List.mem_pair.mp inside with same | same
    · rw [same]
      exact .scalar (text_fits "")
    · rw [same]
      exact .scalar (text_fits " \"new\" ")
  · rw [List.mem_singleton.mp member] at found ⊢
    cases found
    refine .dictionary (by decide) (by decide) fun entry inside => ?_
    rw [List.mem_singleton.mp inside]
    exact .scalar (text_fits "é")

theorem novel_read_written : Planned library "Book" bookPlan ∧
    Conforms library (.element bookPlan) novel ∧ ∃ text,
      ((write library (.element bookPlan) novel).run {}).1 = .ok text ∧
        ((read library (.element bookPlan) text).run {}).1 = .ok novel := by
  obtain ⟨text, written, -, read⟩ :=
    read_written library_planned novel_conforms (Memo.empty_obeys _)
  exact ⟨library_planned, novel_conforms, text, written, (read {} (Memo.empty_obeys _)).1⟩

end ApiContract.XmlForm
