import ApiContract.Proofs.Generation.Complete
import ApiContract.Proofs.Generation.Files
import ApiContract.Proofs.Grouping.Paths
import Mathlib

/-!
Where artifacts are written. All names but those of groups are proper paths. The name of a group is
one unless its operations are nested under a route of which snake case leaves some part empty; where
that is the first part, the name starts at the root and the output folder does not count.
-/

namespace ApiContract

variable {model : Model} {configuration : Configuration} {policy : GroupingPolicy}
  {formatter : Formatter} {made : List Artifact}

theorem Sources.modelPath_proper {file : ModelFile} {name : String}
    (named : file.module = Naming.fieldName name) : Path.Proper (modelPath file) := by
  have whole : modelPath file = "models" ++ String.singleton '/' ++ (file.module ++ ".rs") := by
    apply String.toList_injective
    simp [modelPath]
  have free : '/' ∉ (file.module ++ ".rs").toList := by
    rw [String.toList_append, List.mem_append, not_or, named]
    exact ⟨(Naming.fieldName_identifier name).not_mem rfl, by decide⟩
  intro part member
  rw [whole, Text.split_append, List.mem_append] at member
  rcases member with folder | last
  · exact Path.proper_of_free (c := 's') (by decide) (by decide) (by decide) part folder
  · exact Path.proper_of_free (c := 's') free (by simp) (by decide) part last

namespace Generation

open Planning

theorem fixed_proper {name : String} (fixed : name ∈ ["lib.rs", "shared.rs", "models/mod.rs"]) :
    Path.Proper name := by
  simp only [List.mem_cons, List.not_mem_nil, or_false] at fixed
  rcases fixed with rfl | rfl | rfl
  · decide +kernel
  · decide +kernel
  · decide +kernel

section Stages
variable {stages : Stages}

/-- A group is flat, or its operations are nested under a route. -/
theorem Passed.group_nested (passed : Passed model configuration policy stages) {g : OperationGroup}
    (member : g ∈ stages.groups) : g.folder = "" ∨
      policy = .operation ∧ ∃ operation ∈ model.operations,
        g.folder = Grouping.routeFolder operation := by
  rw [Grouping.group_eq_ok passed.groups] at member
  obtain ⟨operation, listed, place⟩ := Grouping.partition_places.mp ⟨g, member, rfl⟩
  have folder : Grouping.folder policy operation = g.folder := congrArg Prod.snd place
  cases policy with
  | operation => exact .inr ⟨rfl, operation, listed, folder.symm⟩
  | _ => exact .inl folder.symm

theorem Passed.group_of_operation (passed : Passed model configuration .operation stages)
    {operation : Operation} (listed : operation ∈ model.operations) :
    ∃ g ∈ stages.groups, g.folder = Grouping.routeFolder operation := by
  rw [Grouping.group_eq_ok passed.groups]
  obtain ⟨g, member, place⟩ := Grouping.partition_places.mpr ⟨operation, listed, rfl⟩
  exact ⟨g, member, congrArg Prod.snd place⟩

/-- A name is a proper path, or it is the path of a group nested under a route. -/
theorem Passed.name_cases (passed : Passed model configuration policy stages) {name : String}
    (given : name ∈ names configuration (stages.sources model configuration)) :
    Path.Proper name ∨ policy = .operation ∧ ∃ operation ∈ model.operations, ∃ g : OperationGroup,
      g.folder = Grouping.routeFolder operation ∧ g.path = name := by
  rw [passed.names_eq, List.mem_append, List.mem_append, List.mem_append] at given
  rcases given with ((fixed | ofModel) | ofGroup) | record
  · exact .inl (fixed_proper fixed)
  · obtain ⟨file, member, rfl⟩ := List.mem_map.mp ofModel
    obtain ⟨original, named⟩ := ModelFile.all_modules passed.models file member
    exact .inl (Sources.modelPath_proper named)
  · obtain ⟨g, member, rfl⟩ := List.mem_map.mp ofGroup
    rcases passed.group_nested member with flat | ⟨nests, operation, listed, nested⟩
    · exact .inl (Grouping.flat_proper flat)
    · exact .inr ⟨nests, operation, listed, g, nested, rfl⟩
  · left
    split at record
    next =>
      rw [List.mem_singleton.mp record]
      decide +kernel
    next => cases record

theorem Passed.path_given (passed : Passed model configuration .operation stages)
    {g : OperationGroup} (member : g ∈ stages.groups) :
    g.path ∈ names configuration (stages.sources model configuration) := by
  rw [passed.names_eq]
  simp only [List.mem_append, List.mem_map]
  exact .inl (.inr ⟨g, member, rfl⟩)

end Stages

/-- The artifacts of a run: each has a proper name or the path of a group that is nested under the
route of an operation, and where operations are nested each of them has such an artifact. -/
theorem generated_names (generated : generate model configuration formatter = .ok made) :
    ∃ policy, configuration.validate = .ok policy ∧
      (∀ artifact ∈ made, Path.Proper artifact.name ∨
        policy = .operation ∧ ∃ operation ∈ model.operations, ∃ g : OperationGroup,
          g.folder = Grouping.routeFolder operation ∧ g.path = artifact.name) ∧
      (policy = .operation → ∀ operation ∈ model.operations, ∃ artifact ∈ made,
        ∃ g : OperationGroup, g.folder = Grouping.routeFolder operation ∧
          g.path = artifact.name) := by
  obtain ⟨policy, stages, validated, passed, written⟩ := generate_eq_ok.mp generated
  have names := artifacts_names written
  refine ⟨policy, validated, ?_, ?_⟩
  · intro artifact member
    exact passed.name_cases (names.subset (List.mem_map_of_mem member))
  · rintro rfl operation listed
    obtain ⟨g, member, nested⟩ := passed.group_of_operation listed
    have given := names.symm.subset (passed.path_given member)
    obtain ⟨artifact, inside, name⟩ := List.mem_map.mp given
    exact ⟨artifact, inside, g, nested, name.symm⟩

open Grouping (nestingParts Lost)

/-- Names of artifacts never lead out of the folder they start from. They are proper paths exactly
where no part of a route that nests operations is lost, and they start from the output folder
exactly where no first part is; then they lead below whatever folder this is. -/
theorem artifacts_confined (generated : generate model configuration formatter = .ok made) :
    (∀ artifact ∈ made, ∀ part ∈ Text.split '/' artifact.name, part ≠ "." ∧ part ≠ "..") ∧
    ((∀ artifact ∈ made, Path.Proper artifact.name) ↔
      (configuration.validate = .ok .operation → ∀ operation ∈ model.operations,
        ∀ part ∈ nestingParts operation, ¬ Lost part)) ∧
    ((∀ artifact ∈ made, Text.startsWith '/' artifact.name = false) ↔
      (configuration.validate = .ok .operation → ∀ operation ∈ model.operations,
        ∀ part, (nestingParts operation).head? = some part → ¬ Lost part)) ∧
    ∀ artifact ∈ made, ∀ folder,
      if Text.startsWith '/' artifact.name then Path.join folder artifact.name = artifact.name
      else Path.Below folder (Path.join folder artifact.name) := by
  obtain ⟨policy, validated, given, pathOf⟩ := generated_names generated
  refine ⟨?_, ?_, ?_, ?_⟩
  · intro artifact member
    rcases given artifact member with proper | ⟨-, operation, -, g, nested, path⟩
    · exact fun part inside => (proper part inside).2
    · rw [← path]
      exact Grouping.nested_without_points nested
  · constructor
    -- an operation has an artifact, so its route is as good as the name of this artifact
    · intro proper nests operation listed
      rw [validated] at nests
      obtain ⟨artifact, member, g, nested, path⟩ := pathOf (Except.ok.inj nests) operation listed
      apply (Grouping.nested_proper nested).mp
      rw [path]
      exact proper artifact member
    · intro kept artifact member
      rcases given artifact member with proper | ⟨rfl, operation, listed, g, nested, path⟩
      · exact proper
      · rw [← path]
        exact (Grouping.nested_proper nested).mpr (kept validated operation listed)
  · constructor
    · intro relative nests operation listed part first lost
      rw [validated] at nests
      obtain ⟨artifact, member, g, nested, path⟩ := pathOf (Except.ok.inj nests) operation listed
      have absolute := (Grouping.nested_absolute nested).mpr ⟨part, first, lost⟩
      rw [path, relative artifact member] at absolute
      cases absolute
    · intro kept artifact member
      rcases given artifact member with proper | ⟨rfl, operation, listed, g, nested, path⟩
      · exact proper.relative
      · by_contra absolute
        rw [Bool.not_eq_false, ← path] at absolute
        obtain ⟨part, first, lost⟩ := (Grouping.nested_absolute nested).mp absolute
        exact kept validated operation listed part first lost
  · intro artifact member folder
    split
    next absolute => exact Path.join_absolute absolute folder
    next relative =>
      rw [Bool.not_eq_true] at relative
      rcases given artifact member with proper | ⟨-, operation, -, g, nested, path⟩
      · exact proper.below folder
      · rw [← path] at relative ⊢
        exact Grouping.nested_below nested relative folder

/-- The operation of a bazaar, under a route of two parts. -/
def listGoods : Operation :=
  { name := "list", method := .get, path := [.constant "/bazaar/goods"]
    responses := [{ statusCodes := [.code 204] }] }

def bazaar : Model := { name := "Bazaar", operations := [listGoods] }

theorem listGoods_kept : ∀ part ∈ nestingParts listGoods, ¬ Lost part := by
  have parts : nestingParts listGoods = ["bazaar", "goods"] := by decide +kernel
  rw [parts]
  have letters : Text.isAlphanumeric 'b' = true ∧ Text.isAlphanumeric 'g' = true := by decide
  intro part member lost
  simp only [List.mem_cons, List.not_mem_nil, or_false] at member
  rcases member with rfl | rfl
  · rw [lost 'b' (by decide)] at letters
    cases letters.1
  · rw [lost 'g' (by decide)] at letters
    cases letters.2

/-- A configuration that nests operations under their routes. -/
def nestingConfiguration : Configuration :=
  { outputFolder := "out", namespaceHint := "api", groupBy := "operation" }

def listPlan : OperationPlan :=
  { operation := listGoods
    call :=
      { operation := "list", method := .get, signature := []
        steps := [.appendConstant "/bazaar/goods"] }
    dispatch :=
      { operation := "list", value := none, valueOptional := false, headers := none
        branches := [⟨.code 204, .noContent⟩] } }

def listGroup : OperationGroup := ⟨"list", "bazaar/goods", [listGoods]⟩

/-- The plan of an operation without parameters, under a constant route, with an empty answer. -/
def constantPlan (operation : Operation) (route : String) : OperationPlan :=
  { operation
    call :=
      { operation := operation.name, method := .get, signature := []
        steps := [.appendConstant route] }
    dispatch :=
      { operation := operation.name, value := none, valueOptional := false, headers := none
        branches := [⟨.code 204, .noContent⟩] } }

theorem constantPlan_complete {operation : Operation}
    (named : Naming.fieldName operation.name ≠ "_") (route : String) (model : Model) :
    (constantPlan operation route).Complete model := by
  refine .of_constant named rfl rfl (fun code made => ?_) fun branch listed => ?_
  · cases made
    exact Code.isComplete_plain "()"
  · rw [List.mem_singleton.mp listed]
    apply Code.isComplete_write
    rw [List.forall_mem_cons, List.forall_mem_singleton]
    refine ⟨rfl, Code.isComplete_write ?_⟩
    simp [constantPlan, DispatchTable.branchValue, DispatchTable.headersPath?]

/-- A run on a model with this operation alone gets through all its stages where its schemas are
planned and their files are complete. -/
theorem listGoods_passed {model : Model} {models : List ModelFile}
    (operations : model.operations = [listGoods]) (schemas : model.planSchemas.fresh = .ok ())
    (filed : (ModelFile.all model [] []).fresh = .ok models)
    (named : ∀ file ∈ models, file.module ≠ "_" ∧ "_" ∉ file.exports)
    (written : ∀ file ∈ models, file.code.isComplete = true) :
    ∃ sources, Passed model nestingConfiguration .operation
      ⟨[listPlan], [listGroup], [], models, sources⟩ := by
  have planned : model.planOperations.fresh = .ok [listPlan] := by
    rw [Model.planOperations, operations]
    rfl
  have grouped : group .operation model.operations = .ok [listGroup] := by
    rw [operations]
    decide +kernel
  have ownPlans : groupPlans [listPlan] listGroup = [listPlan] := by decide +kernel
  apply passed_of_complete schemas planned grouped rfl filed
  case sourced =>
    rw [List.forall_mem_singleton, ownPlans]
    exact ⟨_, rfl⟩
  case modules => decide +kernel
  case each =>
    rw [List.forall_mem_singleton]
    exact constantPlan_complete (by decide +kernel) "/bazaar/goods" model
  case named => decide +kernel
  case exported => exact named
  case written => exact written

theorem bazaar_passed : ∃ sources, Passed bazaar nestingConfiguration .operation
    ⟨[listPlan], [listGroup], [], [], sources⟩ := by
  have modelless : (ModelFile.all bazaar [] []).fresh = .ok [] := by
    simp [ModelFile.all, bazaar, ModelFile.distinctHeaders]
  exact listGoods_passed rfl rfl modelless (List.forall_mem_nil _) (List.forall_mem_nil _)

/-- The names of a run on the bazaar are proper paths, and lead below its output folder. -/
theorem bazaar_confined : ∃ made,
    generate bazaar nestingConfiguration .standard = .ok made ∧
      (∀ artifact ∈ made, ∀ part ∈ Text.split '/' artifact.name, part ≠ "." ∧ part ≠ "..") ∧
      (∀ artifact ∈ made, Path.Proper artifact.name) ∧
      ∀ artifact ∈ made, Path.Below "out" (Path.join "out" artifact.name) := by
  obtain ⟨sources, passed⟩ := bazaar_passed
  have validated : nestingConfiguration.validate = .ok .operation := by cbv
  have distinct : (names nestingConfiguration (Stages.sources bazaar nestingConfiguration
      ⟨[listPlan], [listGroup], [], [], sources⟩)).Nodup := by
    rw [passed.names_eq]
    exact (by decide +kernel :
      ["lib.rs", "shared.rs", "models/mod.rs", listGroup.path, metadataName].Nodup)
  obtain ⟨made, generated⟩ := passed.generates_standard validated distinct
  obtain ⟨points, proper, -, -⟩ := artifacts_confined generated
  have named := proper.mpr fun _ operation listed => by
    rw [List.mem_singleton.mp listed]
    exact listGoods_kept
  exact ⟨made, generated, points, named, fun artifact member => (named artifact member).below "out"⟩

end Generation

end ApiContract
