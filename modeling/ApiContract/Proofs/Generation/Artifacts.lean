import ApiContract.Proofs.Code.Modules
import ApiContract.Proofs.Dispatch.Planning
import ApiContract.Proofs.Generation.Confinement
import ApiContract.Proofs.Plan.Roles

/-!
Which artifacts a run gives. Their names follow from the model alone: three fixed files, one for
each object, each enum and each type of response headers, one for each group of operations, and the
record where one is asked for. A run gives exactly these, and none where two of them are the same.
-/

namespace ApiContract

open Planning

variable {model : Model} {configuration : Configuration} {policy : GroupingPolicy}
  {formatter : Formatter} {made : List Artifact}

namespace Model

/-- What the file of a schema is named after: the object of the id, or an enum. -/
def fileSubject? (model : Model) : SchemaId × Schema → Option String
  | (id, .object _) => ((model.schema? id).bind Schema.object?).map (·.name)
  | (_, .enumeration type) => some type.name
  | _ => none

/-- The types of response headers, each once. -/
def headerTypes (model : Model) : List String :=
  (model.operations.flatMap fun operation => operation.responses.filterMap fun response =>
    response.headers.map fun headers => Naming.typeName headers.name).dedup

/-- The modules of the files of models. -/
def fileModules (model : Model) : List String :=
  (model.schemas.filterMap model.fileSubject? ++ model.headerTypes).map Naming.fieldName

/-- The names of all artifacts that a model is to be generated into. -/
def artifactNames (model : Model) (configuration : Configuration) (policy : GroupingPolicy) :
    List String :=
  ["lib.rs", "shared.rs", "models/mod.rs"] ++
    model.fileModules.map (fun module => "models/" ++ module ++ ".rs") ++
    (Grouping.partition policy model.operations).map OperationGroup.path ++
    if configuration.generateMetadata then [metadataName] else []

end Model

namespace ModelFile

theorem distinctHeaders_types {seen : List String} {plans : List HeaderPlan} :
    ((distinctHeaders seen plans).map HeaderPlan.typeName).Nodup ∧
      ∀ name, name ∈ (distinctHeaders seen plans).map HeaderPlan.typeName ↔
        name ∉ seen ∧ name ∈ plans.map HeaderPlan.typeName := by
  induction plans generalizing seen with
  | nil => simp [distinctHeaders]
  | cons plan rest ih =>
      rw [distinctHeaders]
      by_cases known : plan.typeName ∈ seen
      · rw [if_pos (List.contains_iff_mem.mpr known)]
        refine ⟨ih.1, fun name => ?_⟩
        rw [ih.2, List.map_cons, List.mem_cons]
        constructor
        · rintro ⟨new, listed⟩
          exact ⟨new, .inr listed⟩
        · rintro ⟨new, same | listed⟩
          · exact absurd (same ▸ known) new
          · exact ⟨new, listed⟩
      · rw [if_neg (mt List.contains_iff_mem.mp known), List.map_cons, List.nodup_cons]
        refine ⟨⟨fun again => ?_, ih.1⟩, fun name => ?_⟩
        · exact ((ih.2 _).mp again).1 List.mem_cons_self
        · rw [List.mem_cons, ih.2, List.map_cons, List.mem_cons, List.mem_cons, not_or]
          constructor
          · rintro (same | ⟨⟨other, new⟩, listed⟩)
            · exact ⟨same ▸ known, .inl same⟩
            · exact ⟨new, .inr listed⟩
          · rintro ⟨new, same | listed⟩
            · exact .inl same
            · by_cases same : name = plan.typeName
              · exact .inl same
              · exact .inr ⟨⟨same, new⟩, listed⟩

/-- The types come in the order of the plans or of the responses, and in both lists each once. -/
theorem distinctHeaders_perm {headers : List HeaderPlan}
    (typed : ∀ name, name ∈ headers.map HeaderPlan.typeName ↔ name ∈ model.headerTypes) :
    ((distinctHeaders [] headers).map HeaderPlan.typeName).Perm model.headerTypes := by
  have distinct : model.headerTypes.Nodup := List.nodup_dedup _
  rw [List.perm_ext_iff_of_nodup distinctHeaders_types.1 distinct]
  intro name
  rw [distinctHeaders_types.2, typed]
  simp

/-- The file of a schema that has one. -/
theorem ofSchema_module {asElements : List SchemaId} {entry : SchemaId × Schema}
    {file : Option ModelFile} (made : (ofSchema model asElements entry).fresh = .ok file) :
    file.map ModelFile.module = (model.fileSubject? entry).map Naming.fieldName := by
  obtain ⟨id, schema⟩ := entry
  cases schema with
  | object type =>
      rw [ofSchema, fresh_bind] at made
      obtain ⟨written, ofObject, same⟩ := bind_eq_ok made
      cases same
      obtain ⟨object, found, named⟩ := Model.objectFile_module ofObject
      simp [Model.fileSubject?, Model.objectFor_eq_ok found, Schema.object?, named]
  | enumeration type =>
      rw [ofSchema, fresh_bind] at made
      obtain ⟨written, ofEnum, same⟩ := bind_eq_ok made
      cases same
      simp [Model.fileSubject?, EnumType.file_module ofEnum]
  | _ =>
      cases made
      rfl

/-- The files of models have the modules of the objects, the enums and the header types. -/
theorem all_modules_perm {asElements : List SchemaId} {headers : List HeaderPlan}
    {files : List ModelFile} (made : (all model asElements headers).fresh = .ok files)
    (typed : ∀ name, name ∈ headers.map HeaderPlan.typeName ↔ name ∈ model.headerTypes) :
    (files.map ModelFile.module).Perm model.fileModules := by
  simp only [all, fresh_bind, fresh_mapM, fresh_lift, bind_eq_ok_iff] at made
  obtain ⟨ofSchemas, schemas, ofHeaders, plans, same⟩ := made
  cases same
  apply ((List.mergeSort_perm _ _).map ModelFile.module).trans
  rw [List.map_append, Model.fileModules, List.map_append]
  have ofSubjects : (ofSchemas.filterMap id).map ModelFile.module =
      (model.schemas.filterMap model.fileSubject?).map Naming.fieldName := by
    rw [List.map_filterMap, List.map_filterMap, List.filterMap_eq_flatMap_toList,
      List.filterMap_eq_flatMap_toList]
    exact flatMap_of_mapM_eq_ok (fun _ _ _ made => congrArg Option.toList (ofSchema_module made))
      schemas
  have ofTypes : ofHeaders.map ModelFile.module =
      ((distinctHeaders [] headers).map HeaderPlan.typeName).map Naming.fieldName := by
    have each : ofHeaders.flatMap (fun file => [file.module]) =
        (distinctHeaders [] headers).flatMap fun plan => [Naming.fieldName plan.typeName] :=
      flatMap_of_mapM_eq_ok
        (fun _ _ _ made => congrArg (fun module => [module]) (HeaderPlan.file_module made)) plans
    rw [← List.map_eq_flatMap, ← List.map_eq_flatMap] at each
    rw [each, List.map_map, Function.comp_def]
  rw [ofSubjects, ofTypes]
  exact .append (.refl _) ((distinctHeaders_perm typed).map _)

end ModelFile

namespace Model

theorem operationPlan_eq_ok {operation : Operation} {plan : OperationPlan}
    (planned : (model.operationPlan operation).fresh = .ok plan) :
    plan.operation = operation ∧ (model.callPlan operation).fresh = .ok plan.call ∧
      (model.dispatchTable operation).fresh = .ok plan.dispatch := by
  simp only [operationPlan, fresh_bind, bind_eq_ok_iff] at planned
  obtain ⟨call, called, dispatch, dispatched, same⟩ := planned
  cases same
  exact ⟨rfl, called, dispatched⟩

/-- The header models of planned operations are of the types that responses declare. -/
theorem plans_headerTypes {plans : List OperationPlan}
    (planned : model.planOperations.fresh = .ok plans) (name : String) :
    name ∈ (plans.filterMap (·.dispatch.headers)).map HeaderPlan.typeName ↔
      name ∈ model.headerTypes := by
  rw [planOperations, fresh_mapM] at planned
  have described : ∀ {operation : Operation} {plan : OperationPlan},
      (model.operationPlan operation).fresh = .ok plan → ∀ declared,
        plan.dispatch.headers.map HeaderPlan.name = some declared ↔
          ∃ response ∈ operation.responses,
            response.headers.map HeaderModel.name = some declared :=
    fun planned => (dispatchTable_describes (operationPlan_eq_ok planned).2.2).1.headers
  simp only [headerTypes, List.mem_dedup, List.mem_flatMap, List.mem_filterMap, List.mem_map,
    Option.map_eq_some_iff] at described ⊢
  constructor
  · rintro ⟨headers, ⟨plan, listed, has⟩, named⟩
    subst named
    obtain ⟨operation, member, made⟩ := mem_of_mapM_eq_ok planned listed
    obtain ⟨response, inside, declared, declares, same⟩ :=
      (described made headers.name).mp ⟨headers, has, rfl⟩
    exact ⟨operation, member, response, inside, declared, declares, congrArg Naming.typeName same⟩
  · rintro ⟨operation, member, response, inside, declared, declares, named⟩
    subst named
    obtain ⟨plan, listed, made⟩ := mapM_eq_ok_mem planned member
    obtain ⟨headers, has, same⟩ :=
      (described made declared.name).mpr ⟨response, inside, declared, declares, rfl⟩
    exact ⟨headers, ⟨plan, listed, has⟩, congrArg Naming.typeName same⟩

end Model

namespace Generation

/-- The names that a run gives out are those that its model asks for. -/
theorem Passed.names_perm {stages : Stages} (passed : Passed model configuration policy stages) :
    (names configuration (stages.sources model configuration)).Perm
      (model.artifactNames configuration policy) := by
  have modules := ModelFile.all_modules_perm passed.models (Model.plans_headerTypes passed.plans)
  have paths : (stages.models.map Sources.modelPath) =
      (stages.models.map ModelFile.module).map fun module => "models/" ++ module ++ ".rs" := by
    rw [List.map_map]
    rfl
  rw [passed.names_eq, Model.artifactNames, ← Grouping.group_eq_ok passed.groups, paths]
  exact (((modules.map _).append_left _).append_right _).append_right _

variable {sources : Sources}

/-- Each file of the sources is an artifact, as the formatter lays it out. -/
theorem artifacts_file (written : artifacts model configuration formatter sources = .ok made)
    {file : String × Code} (member : file ∈ sources.files) :
    ∃ text, formatter.format file.1 file.2.render = .ok text ∧ ⟨file.1, text⟩ ∈ made := by
  obtain ⟨-, files, laid, rfl⟩ := artifacts_eq_ok.mp written
  obtain ⟨artifact, inside, formatted⟩ := mapM_eq_ok_mem laid member
  obtain ⟨text, formats, same⟩ := bind_eq_ok formatted
  cases same
  exact ⟨text, formats, List.mem_mergeSort.mpr (List.mem_append_left _ inside)⟩

theorem index_written {stages : Stages}
    (written : artifacts model configuration formatter (stages.sources model configuration) =
      .ok made) :
    ∃ text, formatter.format "models/mod.rs" (ModelFile.index stages.models).render = .ok text ∧
      ⟨"models/mod.rs", text⟩ ∈ made := by
  have listed : ("models/mod.rs", ModelFile.index stages.models) ∈
      (stages.sources model configuration).files := by
    simp [Sources.files, Stages.sources]
  exact artifacts_file written listed

theorem library_written {stages : Stages}
    (written : artifacts model configuration formatter (stages.sources model configuration) =
      .ok made) :
    ∃ text, formatter.format "lib.rs" (stages.sources model configuration).library.render =
      .ok text ∧ ⟨"lib.rs", text⟩ ∈ made := by
  have listed : ("lib.rs", (stages.sources model configuration).library) ∈
      (stages.sources model configuration).files := by
    simp [Sources.files]
  exact artifacts_file written listed

theorem artifacts_increasing
    (written : artifacts model configuration formatter sources = .ok made) :
    (made.map Artifact.name).Pairwise (· < ·) := by
  have perm := artifacts_names written
  obtain ⟨distinct, files, -, rfl⟩ := artifacts_eq_ok.mp written
  have sorted : ((files ++ record model configuration sources).mergeSort
      fun a b => a.name ≤ b.name).Pairwise fun a b => decide (a.name ≤ b.name) = true :=
    List.pairwise_mergeSort
      (fun _ _ _ first second => by simpa using le_trans (by simpa using first) (by simpa using second))
      (fun a b => by simpa using le_total a.name b.name) _
  have apart := List.pairwise_map.mp (perm.nodup_iff.mpr distinct)
  rw [List.pairwise_map]
  exact sorted.imp₂ (fun a b le ne => lt_of_le_of_ne (by simpa using le) ne) apart

theorem metadata_members (names : List String) : ∃ members,
    metadata model configuration names = ⟨metadataName, (Json.object members).pretty⟩ ∧
      members.lookup "artifacts" =
        some (.array ((names.mergeSort fun a b => a ≤ b).map .string)) :=
  ⟨_, rfl, rfl⟩

/-- The record lists all other names, in the order of the artifacts. -/
theorem artifacts_record (written : artifacts model configuration formatter sources = .ok made)
    (asked : configuration.generateMetadata = true) :
    ∃ members, ⟨metadataName, (Json.object members).pretty⟩ ∈ made ∧
      members.lookup "artifacts" =
        some (.array (((made.map Artifact.name).filter (· ≠ metadataName)).map .string)) := by
  have increasing := artifacts_increasing written
  have perm := artifacts_names written
  obtain ⟨distinct, files, -, rfl⟩ := artifacts_eq_ok.mp written
  rw [names, asked, if_pos rfl] at perm distinct
  have others : ((sources.files.map (·.1) ++ [metadataName]).filter (· ≠ metadataName)) =
      sources.files.map (·.1) := by
    have absent : metadataName ∉ sources.files.map (·.1) := by
      rw [List.nodup_append_comm, List.singleton_append, List.nodup_cons] at distinct
      exact distinct.1
    rw [List.filter_append, List.filter_eq_self.mpr]
    · simp
    · intro name member
      simpa using ne_of_mem_of_not_mem member absent
  -- the names in the record are sorted by themselves, the artifacts with their texts
  have same : (sources.files.map (·.1)).mergeSort (fun a b => decide (a ≤ b)) =
      ((((files ++ record model configuration sources).mergeSort
        fun a b => a.name ≤ b.name).map Artifact.name).filter (· ≠ metadataName)) := by
    apply @List.Perm.eq_of_pairwise _ (· ≤ ·) _ _ (fun _ _ _ _ => le_antisymm)
    · exact List.pairwise_mergeSort' _ _
    · exact (increasing.imp le_of_lt).filter _
    · refine (List.mergeSort_perm _ _).trans ?_
      rw [← others]
      exact (perm.filter _).symm
  obtain ⟨members, recorded, listed⟩ :=
    @metadata_members model configuration (sources.files.map (·.1))
  rw [← same]
  refine ⟨members, List.mem_mergeSort.mpr (List.mem_append_right _ ?_), listed⟩
  rw [record, asked, if_pos rfl, recorded]
  exact List.mem_singleton_self _

theorem Stages.library_modules (stages : Stages) :
    Code.declaredModules (stages.sources model configuration).library =
      "models" :: "shared" :: stages.groups.map OperationGroup.moduleName := by
  have names : (stages.groups.map LibraryModule.ofGroup).map LibraryModule.name =
      stages.groups.map OperationGroup.moduleName := by
    simp only [List.map_map, Function.comp_def, LibraryModule.ofGroup]
  rw [← names, Stages.sources]
  exact Library.code_modules _ _ _ _

theorem Stages.library_exports (stages : Stages) :
    Code.exportedNames (stages.sources model configuration).library =
      if configuration.publicClients then stages.groups.map OperationGroup.clientName else [] := by
  have names : (stages.groups.map LibraryModule.ofGroup).map LibraryModule.client =
      stages.groups.map OperationGroup.clientName := by
    simp only [List.map_map, Function.comp_def, LibraryModule.ofGroup]
  rw [← names, Stages.sources]
  exact Library.code_exports _ _ _ _

/-- The artifacts that a run has to give: those of the names that follow from its model, in order,
with an index of the models, a root of the library and a record that agree with them. -/
structure Exact (model : Model) (configuration : Configuration) (policy : GroupingPolicy)
    (formatter : Formatter) (made : List Artifact) : Prop where
  increasing : (made.map Artifact.name).Pairwise (· < ·)
  names : (made.map Artifact.name).Perm (model.artifactNames configuration policy)
  distinct : (model.artifactNames configuration policy).Nodup
  index : ∃ code text, formatter.format "models/mod.rs" (Code.render code) = .ok text ∧
    ⟨"models/mod.rs", text⟩ ∈ made ∧ code.declaredModules.Perm model.fileModules
  library : ∃ code text, formatter.format "lib.rs" (Code.render code) = .ok text ∧
    ⟨"lib.rs", text⟩ ∈ made ∧ code.declaredModules = "models" :: "shared" ::
      (Grouping.partition policy model.operations).map OperationGroup.moduleName
  record : configuration.generateMetadata = true → ∃ members,
    ⟨metadataName, (Json.object members).pretty⟩ ∈ made ∧ members.lookup "artifacts" =
      some (.array (((made.map Artifact.name).filter (· ≠ metadataName)).map .string))

theorem Passed.exact {stages : Stages} (passed : Passed model configuration policy stages)
    (written : artifacts model configuration formatter (stages.sources model configuration) =
      .ok made) : Exact model configuration policy formatter made where
  increasing := artifacts_increasing written
  names := (artifacts_names written).trans passed.names_perm
  distinct := passed.names_perm.nodup_iff.mp (artifacts_eq_ok.mp written).1
  index := by
    obtain ⟨text, formatted, member⟩ := index_written written
    refine ⟨_, text, formatted, member, ?_⟩
    rw [ModelFile.index_modules]
    exact ModelFile.all_modules_perm passed.models (Model.plans_headerTypes passed.plans)
  library := by
    obtain ⟨text, formatted, member⟩ := library_written written
    refine ⟨_, text, formatted, member, ?_⟩
    rw [stages.library_modules, Grouping.group_eq_ok passed.groups]
  record := artifacts_record written

/-- The grades of the goods of a market. -/
def grades : EnumType := { name := "Grade", values := [⟨"Fine", .string "fine"⟩] }

theorem grades_file : ∃ file, grades.file = .ok file ∧
    file.module = "grade" ∧ file.exports = ["Grade"] ∧ file.code.isComplete = true := by
  obtain ⟨file, made⟩ : ∃ file, grades.file = .ok file := ⟨_, rfl⟩
  have complete := EnumType.file_complete made (by decide +kernel) (by decide +kernel)
  cases made
  exact ⟨_, rfl, by decide +kernel, by decide +kernel, complete⟩

/-- A model whose object and whose response headers are of one type. -/
def clash : Model :=
  { name := "Clash"
    schemas := [("Page", .object { name := "Page" }), ("Text", .primitive .string none)]
    operations :=
      [{ listGoods with
          responses :=
            [{ statusCodes := [.code 204], headers := some ⟨"page", [⟨"next", "X-Next", "Text"⟩]⟩ }] }] }

end Generation

end ApiContract
