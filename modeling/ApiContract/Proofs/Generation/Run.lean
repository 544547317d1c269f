import ApiContract.Proofs.Generation.Tables

/-!
What a successful run has done. A run is a chain of stages; it succeeds exactly where every stage
does, where no two files share a name and where the formatter takes every file. The artifacts are
then the files, and the record if there is one, each under its own name.
-/

namespace ApiContract

variable {model : Model} {configuration : Configuration} {policy : GroupingPolicy}
  {formatter : Formatter} {made : List Artifact}

theorem checkDistinct_eq_ok {seen names : List String} :
    checkDistinct seen names = .ok () ↔ names.Nodup ∧ ∀ name ∈ names, name ∉ seen := by
  induction names generalizing seen with
  | nil => simp [checkDistinct]
  | cons name rest ih =>
      rw [checkDistinct]
      by_cases taken : name ∈ seen
      · simp [taken]
      · simp only [List.contains_eq_mem, taken, decide_false, Bool.false_eq_true, if_false, ih,
          List.mem_cons, not_or, List.nodup_cons, forall_eq_or_imp]
        constructor
        · rintro ⟨distinct, fresh⟩
          exact ⟨⟨fun member => (fresh name member).1 rfl, distinct⟩, id,
            fun other member => (fresh other member).2⟩
        · rintro ⟨⟨absent, distinct⟩, -, fresh⟩
          refine ⟨distinct, fun other member => ⟨?_, fresh other member⟩⟩
          rintro rfl
          exact absent member

theorem Code.checked_eq_ok {code checked : Code} :
    code.checked = .ok checked ↔ code.isComplete = true ∧ checked = code := by
  rw [Code.checked]
  by_cases complete : code.isComplete = true
  · simp [complete, eq_comm]
  · simp [complete]

namespace Generation

open Planning

/-- What the stages of a run give, in the order in which they follow one another. -/
structure Stages where
  plans : List OperationPlan
  groups : List OperationGroup
  asElements : List SchemaId
  models : List ModelFile
  groupSources : List GroupSource

/-- The sources that a run makes of its stages. -/
def Stages.sources (model : Model) (configuration : Configuration) (stages : Stages) : Sources :=
  let modules := stages.groups.map LibraryModule.ofGroup
  { groups := stages.groupSources
    modules
    library := Library.code model stages.groups modules configuration.publicClients
    models := stages.models }

/-- Every stage of a run succeeds on what the stages before it give. -/
structure Passed (model : Model) (configuration : Configuration) (policy : GroupingPolicy)
    (stages : Stages) : Prop where
  schemas : model.planSchemas.fresh = .ok ()
  plans : model.planOperations.fresh = .ok stages.plans
  groups : group policy model.operations = .ok stages.groups
  asElements : (model.elementModels stages.plans).fresh = .ok stages.asElements
  models : (ModelFile.all model stages.asElements
    (stages.plans.filterMap (·.dispatch.headers))).fresh = .ok stages.models
  groupSources : (groupSources model configuration stages.plans stages.groups).fresh =
    .ok stages.groupSources
  modules : Library.nameCollision [] stages.groups = none
  complete : ∀ file ∈ (stages.sources model configuration).files, file.2.isComplete = true

theorem modules_eq_ok {groups : List OperationGroup} {modules : List LibraryModule} :
    Library.modules groups = .ok modules ↔
      Library.nameCollision [] groups = none ∧ modules = groups.map LibraryModule.ofGroup := by
  rw [Library.modules]
  cases Library.nameCollision [] groups with
  | none => simp [eq_comm]
  | some collision => simp

/-- A run makes its sources exactly where it gets through all stages. -/
theorem sources_eq_ok {made : Sources} :
    (sources model configuration policy).fresh = .ok made ↔
      ∃ stages, Passed model configuration policy stages ∧
        made = stages.sources model configuration := by
  simp only [sources, fresh_bind, fresh_mapError, fresh_lift, fresh_pure, fresh_mapM,
    bind_eq_ok_iff, mapError_eq_ok, modules_eq_ok]
  constructor
  · rintro ⟨⟨⟩, schemas, plans, planned, groups, grouped, asElements, closed, models, filed,
      groupSources, written, _, ⟨apart, rfl⟩, checked, complete, same⟩
    refine ⟨⟨plans, groups, asElements, models, groupSources⟩, ?_, (Except.ok.inj same).symm⟩
    -- the last stage gives the checked codes, of which only the check itself counts
    refine ⟨schemas, planned, grouped, closed, filed, written, apart, fun file member => ?_⟩
    obtain ⟨_, -, passed⟩ := mapM_eq_ok_mem complete member
    exact (Code.checked_eq_ok.mp passed).1
  · rintro ⟨stages, passed, rfl⟩
    have checked : ∀ file ∈ (stages.sources model configuration).files,
        ∃ code, file.2.checked = .ok code := fun file member =>
      ⟨file.2, Code.checked_eq_ok.mpr ⟨passed.complete file member, rfl⟩⟩
    obtain ⟨codes, complete⟩ := exists_mapM_eq_ok checked
    exact ⟨(), passed.schemas, stages.plans, passed.plans, stages.groups, passed.groups,
      stages.asElements, passed.asElements, stages.models, passed.models, stages.groupSources,
      passed.groupSources, _, ⟨passed.modules, rfl⟩, codes, complete, rfl⟩

/-- The record of a run, where one is asked for. -/
def record (model : Model) (configuration : Configuration) (sources : Sources) : List Artifact :=
  if configuration.generateMetadata then
    [metadata model configuration (sources.files.map (·.1))]
  else []

/-- A file as the formatter lays it out. -/
def laidOut (formatter : Formatter) (file : String × Code) : Except GenerationError Artifact := do
  let text ← formatter.format file.1 file.2.render
  pure { name := file.1, text }

theorem laidOut_name {file : String × Code} {artifact : Artifact}
    (made : laidOut formatter file = .ok artifact) : artifact.name = file.1 := by
  obtain ⟨text, -, same⟩ := bind_eq_ok made
  exact (Except.ok.inj same) ▸ rfl

theorem record_names (sources : Sources) : (record model configuration sources).map Artifact.name =
    if configuration.generateMetadata then [metadataName] else [] := by
  rw [record]
  split <;> rfl

/-- The names that a run gives out: of all files, then of the record. -/
def names (configuration : Configuration) (sources : Sources) : List String :=
  sources.files.map (·.1) ++ if configuration.generateMetadata then [metadataName] else []

theorem artifacts_eq_ok {sources : Sources} :
    artifacts model configuration formatter sources = .ok made ↔
      (names configuration sources).Nodup ∧ ∃ files,
        sources.files.mapM (laidOut formatter) = .ok files ∧
          made = (files ++ record model configuration sources).mergeSort
            fun a b => a.name ≤ b.name := by
  rw [artifacts]
  dsimp only
  cases checked : checkDistinct [] (names configuration sources) with
  | error e =>
      have shared : ¬ (names configuration sources).Nodup := fun distinct => by
        rw [checkDistinct_eq_ok.mpr ⟨distinct, fun _ _ => List.not_mem_nil⟩] at checked
        cases checked
      rw [names] at checked
      simp [checked, shared]
  | ok _ =>
      have distinct := (checkDistinct_eq_ok.mp checked).1
      rw [names] at checked
      simp only [checked, distinct, true_and, bind_eq_ok_iff]
      constructor
      · rintro ⟨files, written, same⟩
        exact ⟨files, written, (Except.ok.inj same).symm⟩
      · rintro ⟨files, written, rfl⟩
        exact ⟨files, written, rfl⟩

/-- A run succeeds exactly where the configuration is valid, every stage succeeds, no name is given
out twice and the formatter takes every file. -/
theorem generate_eq_ok :
    generate model configuration formatter = .ok made ↔
      ∃ policy stages, configuration.validate = .ok policy ∧
        Passed model configuration policy stages ∧
        artifacts model configuration formatter (stages.sources model configuration) =
          .ok made := by
  rw [generate]
  cases validated : configuration.validate with
  | error e => simp
  | ok policy =>
      have steady : (sources model configuration policy).Steady model.tableLaw :=
        sources_steady configuration policy
      simp only [(steady.run (Memo.empty_obeys model.tableLaw)).1, bind_eq_ok_iff, sources_eq_ok]
      constructor
      · rintro ⟨_, ⟨stages, passed, rfl⟩, written⟩
        exact ⟨policy, stages, rfl, passed, written⟩
      · rintro ⟨_, stages, same, passed, written⟩
        cases same
        exact ⟨_, ⟨stages, passed, rfl⟩, written⟩

/-- The artifacts of a run have the names it gives out, each once. -/
theorem artifacts_names {sources : Sources}
    (written : artifacts model configuration formatter sources = .ok made) :
    (made.map Artifact.name).Perm (names configuration sources) := by
  obtain ⟨-, files, laid, rfl⟩ := artifacts_eq_ok.mp written
  apply ((List.mergeSort_perm _ _).map Artifact.name).trans
  have same : files.flatMap (fun artifact => [artifact.name]) =
      sources.files.flatMap (fun file => [file.1]) :=
    flatMap_of_mapM_eq_ok (fun _ _ _ made => congrArg (fun name => [name]) (laidOut_name made)) laid
  rw [← List.map_eq_flatMap, ← List.map_eq_flatMap] at same
  rw [List.map_append, record_names, same, names]

variable {plans : List OperationPlan} {groups : List OperationGroup} {sources : List GroupSource}

/-- What the source of a group is made of: the methods of its plans, and their routes. -/
theorem ofGroup_eq_ok {group : OperationGroup} {source : GroupSource}
    (made : (GroupSource.ofGroup model configuration group plans).fresh = .ok source) :
    ∃ methods served, plans.mapM (fun plan => (plan.methods model).fresh) = .ok methods ∧
      plans.mapM OperationPlan.handlerMethod = .ok served ∧
      source =
        { path := group.path
          documentation := GroupDocumentation.code model group configuration.namespaceHint plans
          client := ⟨group.clientName, group.key, configuration.publicClients, methods⟩
          handler := ⟨group.handlerName, group.clientName, served,
            plans.map OperationPlan.routeEntry⟩ } := by
  simp only [GroupSource.ofGroup, ClientCode.ofGroup, HandlerCode.ofGroup, fresh_bind, fresh_liftM,
    fresh_mapM, fresh_pure, bind_eq_ok_iff, pure_eq_ok, Except.ok.injEq] at made
  obtain ⟨client, ⟨methods, called, ofMethods⟩, handler, ⟨served, serves, ofServed⟩, same⟩ := made
  subst ofMethods ofServed
  exact ⟨methods, served, called, serves, same.symm⟩

/-- A group has a source where its plans have methods. -/
theorem exists_ofGroup {group : OperationGroup}
    (each : ∀ plan ∈ plans, (∃ methods, (plan.methods model).fresh = .ok methods) ∧
      ∃ served, plan.handlerMethod = .ok served) :
    ∃ source, (GroupSource.ofGroup model configuration group plans).fresh = .ok source := by
  obtain ⟨methods, called⟩ := exists_mapM_eq_ok fun plan member => (each plan member).1
  obtain ⟨served, serves⟩ := exists_mapM_eq_ok fun plan member => (each plan member).2
  simp only [GroupSource.ofGroup, ClientCode.ofGroup, HandlerCode.ofGroup, fresh_bind, fresh_liftM,
    fresh_mapM, called, serves, ok_bind]
  exact ⟨_, rfl⟩

/-- Each group has a source of its own, made of the plans of its operations. -/
theorem groupSources_forall₂
    (made : (groupSources model configuration plans groups).fresh = .ok sources) :
    List.Forall₂ (fun group source => (GroupSource.ofGroup model configuration group
      (groupPlans plans group)).fresh = .ok source) groups sources := by
  induction groups generalizing sources with
  | nil =>
      cases made
      exact .nil
  | cons group rest ih =>
      simp only [groupSources, fresh_bind, bind_eq_ok_iff] at made
      obtain ⟨source, single, code, -, others, written, same⟩ := made
      cases same
      exact .cons single (ih written)

/-- The sources of groups stand where the groups do. -/
theorem groupSources_paths
    (made : (groupSources model configuration plans groups).fresh = .ok sources) :
    sources.map GroupSource.path = groups.map OperationGroup.path := by
  have each := groupSources_forall₂ made
  clear made
  induction each with
  | nil => rfl
  | @cons group source _ _ single _ ih =>
      obtain ⟨_, _, -, -, same⟩ := ofGroup_eq_ok single
      rw [List.map_cons, List.map_cons, ih, same]

/-- The names of a run: three fixed files, one for each model file and each group, then the
record. -/
theorem Passed.names_eq {stages : Stages} (passed : Passed model configuration policy stages) :
    names configuration (stages.sources model configuration) =
      ["lib.rs", "shared.rs", "models/mod.rs"] ++ stages.models.map Sources.modelPath ++
        stages.groups.map OperationGroup.path ++
        if configuration.generateMetadata then [metadataName] else [] := by
  rw [← groupSources_paths passed.groupSources, Generation.names, Sources.files]
  simp only [List.map_cons, List.map_append, List.map_map]
  rfl

/-- A formatter that takes every source never keeps sources from their artifacts. -/
theorem exists_artifacts {sources : Sources}
    (distinct : (Generation.names configuration sources).Nodup)
    (formats : ∀ name source, ∃ text, formatter.format name source = .ok text) :
    ∃ made, artifacts model configuration formatter sources = .ok made := by
  have each : ∀ file ∈ sources.files, ∃ artifact, laidOut formatter file = .ok artifact := by
    intro file _
    obtain ⟨text, formatted⟩ := formats file.1 file.2.render
    exact ⟨{ name := file.1, text }, by rw [laidOut, formatted]; rfl⟩
  obtain ⟨files, laid⟩ := exists_mapM_eq_ok each
  exact ⟨_, artifacts_eq_ok.mpr ⟨distinct, files, laid, rfl⟩⟩

theorem Passed.generates {stages : Stages} (passed : Passed model configuration policy stages)
    (validated : configuration.validate = .ok policy)
    (distinct : (Generation.names configuration (stages.sources model configuration)).Nodup)
    (formats : ∀ name source, ∃ text, formatter.format name source = .ok text) :
    ∃ made, generate model configuration formatter = .ok made := by
  obtain ⟨made, written⟩ := exists_artifacts distinct formats
  exact ⟨made, generate_eq_ok.mpr ⟨policy, stages, validated, passed, written⟩⟩

theorem Passed.generates_standard {stages : Stages}
    (passed : Passed model configuration policy stages)
    (validated : configuration.validate = .ok policy)
    (distinct : (Generation.names configuration (stages.sources model configuration)).Nodup) :
    ∃ made, generate model configuration .standard = .ok made :=
  passed.generates validated distinct fun _ _ => ⟨_, rfl⟩

end Generation

end ApiContract
