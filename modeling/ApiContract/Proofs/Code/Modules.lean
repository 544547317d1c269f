import ApiContract.Code.ModelFile
import ApiContract.Generation.Library
import Mathlib.Data.List.Basic

/-!
The modules that a file declares, and the names that it exports out of them. The index of the models
declares the module of each model file and exports its types. The root of a library declares the two
fixed modules and then the module of each group, and exports the public clients.
-/

namespace ApiContract

namespace Code

/-- The modules that a code declares in files of their own. -/
def declaredModules : Code → List String
  | [] => []
  | .word "mod" :: .word module :: .mark ";" :: rest => module :: declaredModules rest
  | .word "mod" :: .name module :: .mark ";" :: rest => module :: declaredModules rest
  | _ :: rest => declaredModules rest

/-- Code without the keyword declares no modules. -/
theorem declaredModules_append {before : Code} (plain : .word "mod" ∉ before) (rest : Code) :
    declaredModules (before ++ rest) = declaredModules rest := by
  induction before with
  | nil => rfl
  | cons token before ih =>
      obtain ⟨other, plain⟩ := not_or.mp (mt List.mem_cons.mpr plain)
      rw [List.cons_append, declaredModules.eq_def]
      split
      next none => cases none
      next same => exact absurd (List.cons.inj same).1.symm other
      next same => exact absurd (List.cons.inj same).1.symm other
      next same =>
        rw [← (List.cons.inj same).2]
        exact ih plain

theorem keyword_free_idents (keyword : String) (names : List String) :
    .word keyword ∉ commaSeparated (names.map ident) := by
  induction names with
  | nil => simp [commaSeparated]
  | cons name rest ih =>
      cases rest with
      | nil => simp [commaSeparated, ident]
      | cons next rest =>
          rw [List.map_cons, List.map_cons, commaSeparated, ← List.map_cons]
          · simpa [ident] using ih
          · simp

theorem declaredModules_sequence {α : Type} {declare : α → Code} {module : α → String}
    (each : ∀ item rest,
      declaredModules (declare item ++ rest) = module item :: declaredModules rest)
    (items : List α) : declaredModules (sequence (items.map declare)) = items.map module := by
  induction items with
  | nil => rfl
  | cons item rest ih =>
      rw [List.map_cons, sequence, List.flatten_cons, each, ← sequence, ih, List.map_cons]

end Code

open Code

theorem ModelFile.declaration_modules (file : ModelFile) (rest : Code) :
    declaredModules (file.declaration ++ rest) = file.module :: declaredModules rest := by
  let exported : Code :=
    .word "pub" :: .word "use" :: .name file.module :: .mark ":" :: .mark ":" :: .mark "\x7b" ::
      (commaSeparated (file.exports.map ident) ++ [.mark "\x7d", .mark ";"])
  have written : file.declaration =
      .word "mod" :: .name file.module :: .mark ";" :: exported := rfl
  have free : .word "mod" ∉ exported := by
    simp [exported, keyword_free_idents]
  rw [written]
  exact congrArg _ (declaredModules_append free rest)

/-- The index of the models declares the module of each model file. -/
theorem ModelFile.index_modules (files : List ModelFile) :
    declaredModules (ModelFile.index files) = files.map ModelFile.module := by
  have comment : .word "mod" ∉ innerDoc " Data models exchanged with the service." := by decide
  rw [index, declaredModules_append comment, declaredModules_sequence declaration_modules]

/-- The declaration of a group's module stands between the path of a nested file and the export of a
public client. -/
theorem LibraryModule.declaration_parts (isPublic : Bool) (declared : LibraryModule) :
    ∃ path : Code, (.word "mod" ∉ path ∧ .word "pub" ∉ path) ∧
      declared.declaration isPublic =
        path ++ .word "pub" :: .word "mod" :: .name declared.name :: .mark ";" ::
          if isPublic then [.word "pub", .word "use", .name declared.name, .mark ":", .mark ":",
            .name declared.client, .mark ";"] else [] := by
  cases nested : declared.path with
  | none =>
      refine ⟨[], by simp, ?_⟩
      rw [declaration, nested]
      cases isPublic <;> rfl
  | some path =>
      refine ⟨[.mark "#", .mark "[", .word "path", .mark "=", .literal path, .mark "]"], by simp, ?_⟩
      rw [declaration, nested]
      cases isPublic <;> rfl

theorem LibraryModule.declaration_modules (isPublic : Bool) (declared : LibraryModule)
    (rest : Code) :
    declaredModules (declared.declaration isPublic ++ rest) =
      declared.name :: declaredModules rest := by
  obtain ⟨path, ⟨free, -⟩, written⟩ := declared.declaration_parts isPublic
  rw [written, List.append_assoc, declaredModules_append free]
  cases isPublic <;> rfl

theorem Library.fixedModules : Code.plain "pub mod models; pub mod shared;" =
    [.word "pub", .word "mod", .word "models", .mark ";",
     .word "pub", .word "mod", .word "shared", .mark ";"] := by decide +kernel

/-- The root of a library declares the two fixed modules, then the module of each group. -/
theorem Library.code_modules (model : Model) (groups : List OperationGroup)
    (declared : List LibraryModule) (isPublic : Bool) :
    declaredModules (Library.code model groups declared isPublic) =
      "models" :: "shared" :: declared.map LibraryModule.name := by
  have comments : .word "mod" ∉ LibraryDocumentation.code model groups := by
    simp [LibraryDocumentation.code, innerDoc, doc]
  rw [Library.code, List.append_assoc, declaredModules_append comments, fixedModules,
    ← declaredModules_sequence (LibraryModule.declaration_modules isPublic)]
  rfl

/-! Exports. -/

namespace Code

/-- The identifiers up to the end of an item. -/
def itemNames : Code → List String
  | [] | .mark ";" :: _ => []
  | .name name :: rest => name :: itemNames rest
  | _ :: rest => itemNames rest

/-- The names that a code exports out of its modules. -/
def exportedNames : Code → List String
  | [] => []
  | .word "pub" :: .word "use" :: .name _ :: .mark ":" :: .mark ":" :: rest =>
      itemNames rest ++ exportedNames rest
  | _ :: rest => exportedNames rest

/-- Code without the keyword exports nothing. -/
theorem exportedNames_append {before : Code} (plain : .word "pub" ∉ before) (rest : Code) :
    exportedNames (before ++ rest) = exportedNames rest := by
  induction before with
  | nil => rfl
  | cons token before ih =>
      obtain ⟨other, plain⟩ := not_or.mp (mt List.mem_cons.mpr plain)
      rw [List.cons_append, exportedNames.eq_def]
      split
      next none => cases none
      next same => exact absurd (List.cons.inj same).1.symm other
      next same =>
        rw [← (List.cons.inj same).2]
        exact ih plain

theorem itemNames_idents (names : List String) (rest : Code) :
    itemNames (commaSeparated (names.map ident) ++ .mark "\x7d" :: .mark ";" :: rest) = names := by
  induction names with
  | nil => rfl
  | cons name others ih =>
      cases others with
      | nil => rfl
      | cons next others =>
          rw [List.map_cons, List.map_cons, commaSeparated, ← List.map_cons]
          · exact congrArg (name :: ·) ih
          · simp

theorem exportedNames_sequence {α : Type} {declare : α → Code} {exported : α → List String}
    (each : ∀ item rest,
      exportedNames (declare item ++ rest) = exported item ++ exportedNames rest)
    (items : List α) : exportedNames (sequence (items.map declare)) = items.flatMap exported := by
  induction items with
  | nil => rfl
  | cons item rest ih =>
      rw [List.map_cons, sequence, List.flatten_cons, each, ← sequence, ih, List.flatMap_cons]

end Code

theorem ModelFile.declaration_exports (file : ModelFile) (rest : Code) :
    exportedNames (file.declaration ++ rest) = file.exports ++ exportedNames rest := by
  let listed : Code := commaSeparated (file.exports.map ident) ++ [.mark "\x7d", .mark ";"]
  have written : file.declaration =
      .word "mod" :: .name file.module :: .mark ";" :: .word "pub" :: .word "use" ::
        .name file.module :: .mark ":" :: .mark ":" :: .mark "\x7b" :: listed := rfl
  have names : itemNames (.mark "\x7b" :: (listed ++ rest)) = file.exports := by
    rw [List.append_assoc]
    exact itemNames_idents file.exports rest
  have free : .word "pub" ∉ listed := by
    simp [listed, keyword_free_idents]
  rw [written]
  change itemNames (.mark "\x7b" :: (listed ++ rest)) ++ exportedNames (listed ++ rest) = _
  rw [names, exportedNames_append free]

/-- The index of the models exports the types of each model file. -/
theorem ModelFile.index_exports (files : List ModelFile) :
    exportedNames (ModelFile.index files) = files.flatMap ModelFile.exports := by
  have comment : .word "pub" ∉ innerDoc " Data models exchanged with the service." := by decide
  rw [index, exportedNames_append comment, exportedNames_sequence declaration_exports]

theorem LibraryModule.declaration_exports (isPublic : Bool) (declared : LibraryModule)
    (rest : Code) :
    exportedNames (declared.declaration isPublic ++ rest) =
      (if isPublic then [declared.client] else []) ++ exportedNames rest := by
  obtain ⟨path, ⟨-, free⟩, written⟩ := declared.declaration_parts isPublic
  rw [written, List.append_assoc, exportedNames_append free]
  cases isPublic <;> rfl

/-- The root of a library exports the client of each group where clients are public. -/
theorem Library.code_exports (model : Model) (groups : List OperationGroup)
    (declared : List LibraryModule) (isPublic : Bool) :
    exportedNames (Library.code model groups declared isPublic) =
      if isPublic then declared.map LibraryModule.client else [] := by
  have comments : .word "pub" ∉ LibraryDocumentation.code model groups := by
    simp [LibraryDocumentation.code, innerDoc, doc]
  have each := exportedNames_sequence (LibraryModule.declaration_exports isPublic) declared
  rw [Library.code, List.append_assoc, exportedNames_append comments, fixedModules]
  refine each.trans ?_
  cases isPublic with
  | true => rw [if_pos rfl, List.map_eq_flatMap]; rfl
  | false => simp

end ApiContract
