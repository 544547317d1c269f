import Mathlib.Data.List.Basic
import Mathlib.Data.List.Forall2

/-!
Results that are values or errors: what has to succeed for a chain of steps to succeed.
-/

namespace ApiContract

variable {ε α β : Type}

@[simp] theorem ok_bind (a : α) (f : α → Except ε β) : (Except.ok a >>= f) = f a := rfl

@[simp] theorem error_bind (e : ε) (f : α → Except ε β) :
    (Except.error e >>= f) = Except.error e := rfl

theorem bind_eq_ok {r : Except ε α} {f : α → Except ε β} {b : β} (succeeded : r >>= f = .ok b) :
    ∃ a, r = .ok a ∧ f a = .ok b := by
  cases r with
  | ok a => exact ⟨a, rfl, succeeded⟩
  | error e => cases succeeded

theorem bind_eq_ok_iff {r : Except ε α} {f : α → Except ε β} {b : β} :
    r >>= f = .ok b ↔ ∃ a, r = .ok a ∧ f a = .ok b := by
  constructor
  · exact bind_eq_ok
  · rintro ⟨a, rfl, succeeded⟩
    exact succeeded

theorem mapError_ok {ε' : Type} (f : ε → ε') (a : α) : Except.mapError f (.ok a) = .ok a := rfl

theorem mapError_eq_ok {ε' : Type} {r : Except ε α} {f : ε → ε'} {a : α} :
    r.mapError f = .ok a ↔ r = .ok a := by
  cases r <;> simp [Except.mapError]

theorem pure_eq_ok {a b : α} : (pure a : Except ε α) = .ok b ↔ a = b :=
  ⟨Except.ok.inj, congrArg Except.ok⟩

theorem bind_eq_error {r : Except ε α} {f : α → Except ε β} {e : ε} (failed : r >>= f = .error e) :
    r = .error e ∨ ∃ a, r = .ok a ∧ f a = .error e := by
  cases r with
  | ok a => exact .inr ⟨a, rfl, failed⟩
  | error other =>
      cases failed
      exact .inl rfl

theorem map_eq_ok {r : Except ε α} {f : α → β} {b : β} (succeeded : f <$> r = .ok b) :
    ∃ a, r = .ok a ∧ f a = b := by
  cases r with
  | ok a => exact ⟨a, rfl, Except.ok.inj succeeded⟩
  | error e => cases succeeded

theorem mapM_eq_ok {f : α → Except ε β} {g : α → β} {items : List α}
    (each : ∀ item ∈ items, f item = .ok (g item)) : items.mapM f = .ok (items.map g) := by
  induction items with
  | nil => rfl
  | cons item rest ih =>
      have first := each item List.mem_cons_self
      have others := ih fun other member => each other (List.mem_cons_of_mem _ member)
      rw [List.mapM_cons, first, others]
      rfl

/-- Undoing item by item undoes the whole. -/
theorem mapM_map_eq_ok {f : α → β} {g : β → Except ε α} {items : List α}
    (each : ∀ item ∈ items, g (f item) = .ok item) : (items.map f).mapM g = .ok items := by
  induction items with
  | nil => rfl
  | cons item rest ih =>
      have first := each item List.mem_cons_self
      have others := ih fun other member => each other (List.mem_cons_of_mem _ member)
      rw [List.map_cons, List.mapM_cons, first, others]
      rfl

theorem mem_of_mapM_eq_ok {f : α → Except ε β} {items : List α} {results : List β}
    (mapped : items.mapM f = .ok results) {result : β} (member : result ∈ results) :
    ∃ item ∈ items, f item = .ok result := by
  induction items generalizing results with
  | nil => cases mapped; cases member
  | cons item rest ih =>
      rw [List.mapM_cons] at mapped
      obtain ⟨first, done, remaining⟩ := bind_eq_ok mapped
      obtain ⟨others, mapped', same⟩ := bind_eq_ok remaining
      cases same
      rcases List.mem_cons.mp member with equal | later
      · exact ⟨item, List.mem_cons_self, equal ▸ done⟩
      · obtain ⟨found, inside, made⟩ := ih mapped' later
        exact ⟨found, List.mem_cons_of_mem _ inside, made⟩

/-- Mapping all items is mapping them one by one. -/
theorem mapM_eq_ok_iff {f : α → Except ε β} {items : List α} {results : List β} :
    items.mapM f = .ok results ↔ List.Forall₂ (fun item result => f item = .ok result) items results := by
  induction items generalizing results with
  | nil =>
      constructor
      · intro mapped
        cases mapped
        exact .nil
      · intro related
        cases related
        rfl
  | cons item rest ih =>
      constructor
      · intro mapped
        rw [List.mapM_cons] at mapped
        obtain ⟨first, done, remaining⟩ := bind_eq_ok mapped
        obtain ⟨others, mapped', same⟩ := bind_eq_ok remaining
        cases same
        exact .cons done (ih.mp mapped')
      · intro related
        cases related with
        | cons done others =>
            rw [List.mapM_cons, done, ih.mpr others]
            rfl

theorem mapM_congr {f : α → Except ε β} {items others : List α}
    (each : List.Forall₂ (fun item other => f item = f other) items others) :
    items.mapM f = others.mapM f := by
  induction each with
  | nil => rfl
  | cons here _ ih => rw [List.mapM_cons, List.mapM_cons, here, ih]

/-- Items that become results one by one, and what results and items are worth. -/
theorem flatMap_of_mapM_eq_ok {γ : Type} {f : α → Except ε β} {worth : β → List γ}
    {worth' : α → List γ} {items : List α} {results : List β}
    (same : ∀ item ∈ items, ∀ result, f item = .ok result → worth result = worth' item)
    (mapped : items.mapM f = .ok results) : results.flatMap worth = items.flatMap worth' := by
  induction items generalizing results with
  | nil =>
      cases mapped
      rfl
  | cons item rest ih =>
      rw [List.mapM_cons] at mapped
      obtain ⟨first, done, remaining⟩ := bind_eq_ok mapped
      obtain ⟨others, mapped', shaped⟩ := bind_eq_ok remaining
      cases shaped
      have later := ih (fun other member => same other (List.mem_cons_of_mem _ member)) mapped'
      rw [List.flatMap_cons, List.flatMap_cons, same item List.mem_cons_self first done, later]

theorem mapM_eq_ok_mem {f : α → Except ε β} {items : List α} {results : List β}
    (mapped : items.mapM f = .ok results) {item : α} (member : item ∈ items) :
    ∃ result ∈ results, f item = .ok result := by
  induction items generalizing results with
  | nil => cases member
  | cons head rest ih =>
      rw [List.mapM_cons] at mapped
      obtain ⟨first, done, remaining⟩ := bind_eq_ok mapped
      obtain ⟨others, mapped', shaped⟩ := bind_eq_ok remaining
      cases shaped
      rcases List.mem_cons.mp member with equal | later
      · exact ⟨first, List.mem_cons_self, equal ▸ done⟩
      · obtain ⟨result, inside, made⟩ := ih mapped' later
        exact ⟨result, List.mem_cons_of_mem _ inside, made⟩

theorem exists_mapM_eq_ok {f : α → Except ε β} {items : List α}
    (each : ∀ item ∈ items, ∃ result, f item = .ok result) : ∃ results, items.mapM f = .ok results := by
  induction items with
  | nil => exact ⟨[], rfl⟩
  | cons item rest ih =>
      obtain ⟨first, done⟩ := each item List.mem_cons_self
      obtain ⟨others, mapped⟩ := ih fun other member => each other (List.mem_cons_of_mem _ member)
      refine ⟨first :: others, ?_⟩
      rw [List.mapM_cons, done, ok_bind, mapped]
      rfl

/-- Mapping fails with the first item that fails. -/
theorem mapM_eq_error {f : α → Except ε β} {items : List α} {e : ε}
    (failed : items.mapM f = .error e) :
    ∃ before item after, items = before ++ item :: after ∧
      (∀ earlier ∈ before, ∃ result, f earlier = .ok result) ∧ f item = .error e := by
  induction items with
  | nil => cases failed
  | cons item rest ih =>
      rw [List.mapM_cons] at failed
      rcases bind_eq_error failed with here | ⟨first, done, later⟩
      · exact ⟨[], item, rest, rfl, List.forall_mem_nil _, here⟩
      · rcases bind_eq_error later with failed' | ⟨others, -, finished⟩
        · obtain ⟨before, other, after, rfl, each, fails⟩ := ih failed'
          exact ⟨item :: before, other, after, rfl,
            List.forall_mem_cons.mpr ⟨⟨first, done⟩, each⟩, fails⟩
        · cases finished

/-- Items that succeed one by one, with results of a shape, succeed together. -/
theorem exists_mapM_shaped {γ : Type} {f : α → Except ε β} {shape : β → γ} {shape' : α → γ}
    {holds : β → Prop} {items : List α}
    (each : ∀ item ∈ items, ∃ result, f item = .ok result ∧ shape result = shape' item ∧
      holds result) :
    ∃ results, items.mapM f = .ok results ∧ results.map shape = items.map shape' ∧
      ∀ result ∈ results, holds result := by
  induction items with
  | nil => exact ⟨[], rfl, rfl, List.forall_mem_nil _⟩
  | cons item rest ih =>
      obtain ⟨⟨result, made, shaped, first⟩, later⟩ := List.forall_mem_cons.mp each
      obtain ⟨results, mapped, others, all⟩ := ih later
      refine ⟨result :: results, ?_, ?_, List.forall_mem_cons.mpr ⟨first, all⟩⟩
      · rw [List.mapM_cons, made, ok_bind, mapped]
        rfl
      · rw [List.map_cons, List.map_cons, shaped, others]

theorem exists_of_forall₂ {related : α → β → Prop} {items : List α} {results : List β}
    (each : List.Forall₂ related items results) {result : β} (member : result ∈ results) :
    ∃ item ∈ items, related item result := by
  induction each with
  | nil => cases member
  | cons first _ ih =>
      rcases List.mem_cons.mp member with same | later
      · exact ⟨_, List.mem_cons_self, same ▸ first⟩
      · obtain ⟨item, inside, holds⟩ := ih later
        exact ⟨item, List.mem_cons_of_mem _ inside, holds⟩

theorem eq_of_forall₂ {related : α → α → Prop} {items results : List α}
    (each : List.Forall₂ related items results)
    (same : ∀ item ∈ items, ∀ result, related item result → result = item) : results = items := by
  induction each with
  | nil => rfl
  | cons first _ ih =>
      obtain ⟨here, later⟩ := List.forall_mem_cons.mp same
      rw [here _ first, ih later]

/-- Where each item is related to one result only, so are the lists. -/
theorem forall₂_iff_map {related : α → β → Prop} {f : α → β} {items : List α} {results : List β}
    (each : ∀ item ∈ items, ∀ result, related item result ↔ result = f item) :
    List.Forall₂ related items results ↔ results = items.map f := by
  induction items generalizing results with
  | nil => rw [List.forall₂_nil_left_iff, List.map_nil]
  | cons item rest ih =>
      obtain ⟨first, others⟩ := List.forall_mem_cons.mp each
      simp only [List.forall₂_cons_left_iff, ih others, first, List.map_cons]
      constructor
      · rintro ⟨_, _, rfl, rfl, rfl⟩
        rfl
      · exact fun same => ⟨_, _, rfl, rfl, same⟩

/-- Tests that related items pass alike find related items, or none on both sides. -/
theorem find?_of_forall₂ {related : α → β → Prop} {p : α → Bool} {q : β → Bool}
    (alike : ∀ item result, related item result → p item = q result) {items : List α}
    {results : List β} (each : List.Forall₂ related items results) :
    Option.Rel related (items.find? p) (results.find? q) := by
  induction each with
  | nil => exact .none
  | @cons item result _ _ first _ ih =>
      cases passes : p item with
      | true =>
          rw [List.find?_cons_of_pos passes, List.find?_cons_of_pos (alike item result first ▸ passes)]
          exact .some first
      | false =>
          have fails : ¬ p item = true := by simp [passes]
          rw [List.find?_cons_of_neg fails, List.find?_cons_of_neg (alike item result first ▸ fails)]
          exact ih

end ApiContract
