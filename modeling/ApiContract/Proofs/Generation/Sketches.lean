import ApiContract.Proofs.Generation.Artifacts

/-!
Models that are small enough to be followed through a run: objects without properties, each under an
id, and operations that answer with headers of which none is read. A run gets through its stages
where everything has a name, and its files have the modules and the exports that the names say.
-/

namespace ApiContract

open Planning

variable {model : Model} {configuration : Configuration} {policy : GroupingPolicy}

def ModelFile.outline (file : ModelFile) : String × List String := (file.module, file.exports)

/-- The module of an object and its exports. -/
def ObjectType.outline (object : ObjectType) : String × List String :=
  (Naming.fieldName object.name, Naming.typeName object.name ::
    if object.discriminator.isSome then [Model.baseType object.name] else [])

/-- An object without properties, which may be the base of a hierarchy without variants. -/
structure BareObject where
  id : SchemaId
  name : String
  discriminator : Option String := none

namespace ObjectFile

variable {id : SchemaId} {object : ObjectType} {name : String}

/-- A struct without fields is written, and is complete if it has a name. -/
theorem plainFile_bare (fields : (model.modelFields id none).fresh = .ok []) (named : name ≠ "_") :
    ∃ code, (plainFile model id object name false).fresh = .ok code ∧ code.isComplete = true := by
  have whole : (plainFile model id object name false).fresh =
      structCode model name object.description [] [] [] := by
    simp [plainFile, fields, mapError_ok]
  obtain ⟨code, written⟩ : ∃ code, structCode model name object.description [] [] [] = .ok code :=
    ⟨_, rfl⟩
  exact ⟨code, whole.trans written,
    structCode_complete written named (List.forall_mem_nil _) rfl rfl⟩

/-- A hierarchy without fields and variants is written. -/
theorem hierarchyFile_bare {discriminator : String}
    (fields : (model.modelFields id (some discriminator)).fresh = .ok [])
    (named : name ≠ "_") (base : name ++ "Base" ≠ "_")
    (field : Naming.fieldName discriminator ≠ "_") :
    ∃ code, (hierarchyFile model id object name discriminator []).fresh = .ok code ∧
      code.isComplete = true := by
  obtain ⟨code, made⟩ : ∃ code,
      (hierarchyFile model id object name discriminator []).fresh = .ok code := by
    simp only [hierarchyFile, fresh_bind, fresh_mapError, fields, mapError_ok, ok_bind]
    exact ⟨_, rfl⟩
  refine ⟨code, made, ?_⟩
  simp only [hierarchyFile, fresh_bind, fresh_mapError, fields, mapError_ok, ok_bind, fresh_liftM,
    fresh_pure, bind_eq_ok_iff, Except.ok.injEq] at made
  obtain ⟨struct, written, same⟩ := made
  rw [← same, Code.isComplete_append, Bool.and_eq_true]
  constructor
  · exact hierarchyCode_complete named base field (List.forall_mem_nil _)
  · exact structCode_complete written base (List.forall_mem_nil _)
      (Code.isComplete_write (by simp)) rfl

end ObjectFile

namespace BareObject

variable {object : BareObject}

def type (object : BareObject) : ObjectType :=
  { name := object.name, discriminator := object.discriminator }

def outline (object : BareObject) : String × List String :=
  (Naming.fieldName object.name, Naming.typeName object.name ::
    if object.discriminator.isSome then [Model.baseType object.name] else [])

def role (object : BareObject) : HierarchyRole :=
  match object.discriminator with
  | some discriminator => .base discriminator []
  | none => .plain

/-- A model has the object under its id, and nothing above or below it. -/
def Alone (model : Model) (object : BareObject) : Prop :=
  model.objectFor object.id object.id = .ok object.type ∧
    model.inheritedProperties object.id = .ok [] ∧
    (fun used : TypeUse => used.type) <$> (model.resolve object.id).fresh =
      .ok (.model (Naming.typeName object.name) object.id object.role)

instance : Decidable (Alone model object) := inferInstanceAs (Decidable (_ ∧ _ ∧ _))

def Named (object : BareObject) : Prop :=
  (Naming.typeName object.name ≠ "_" ∧ Model.baseType object.name ≠ "_") ∧
    ∀ discriminator ∈ object.discriminator, Naming.fieldName discriminator ≠ "_"

instance : Decidable object.Named := inferInstanceAs (Decidable (_ ∧ _))

theorem Alone.file (alone : Alone model object) (named : object.Named) :
    ∃ file, (model.objectFile object.id false).fresh = .ok file ∧
      file.outline = object.outline ∧ file.code.isComplete = true := by
  obtain ⟨found, inherited, resolved⟩ := alone
  obtain ⟨⟨typed, based⟩, field⟩ := named
  obtain ⟨used, ofId, isModel⟩ := map_eq_ok resolved
  have fields : ∀ left, (model.modelFields object.id left).fresh = .ok [] := by
    intro left
    simp [Model.modelFields, found, inherited]
  simp only [Model.objectFile, found, ofId, isModel, role, outline, fresh_bind, fresh_mapError,
    fresh_lift, mapError_ok, ok_bind]
  cases declared : object.discriminator with
  | none =>
      obtain ⟨code, made, complete⟩ := @ObjectFile.plainFile_bare _ _ object.type
        (Naming.typeName object.type.name) (fields _) typed
      refine ⟨⟨Naming.fieldName object.type.name, [Naming.typeName object.type.name], code⟩, ?_, ?_,
        complete⟩
      · rw [fresh_bind, made, ok_bind, fresh_pure]
      · simp [ModelFile.outline, type]
  | some discriminator =>
      obtain ⟨code, made, complete⟩ := @ObjectFile.hierarchyFile_bare _ _ object.type
        (Naming.typeName object.type.name) _ (fields _) typed based (field discriminator declared)
      refine ⟨⟨Naming.fieldName object.type.name,
        [Naming.typeName object.type.name, Model.baseType object.type.name], code⟩, ?_, ?_, complete⟩
      · rw [fresh_bind, made, ok_bind, fresh_pure, Model.baseType]
      · simp [ModelFile.outline, type]

end BareObject

namespace HeaderPlan

variable {plan : HeaderPlan}

def outline (plan : HeaderPlan) : String × List String :=
  (Naming.fieldName plan.typeName, [plan.typeName])

theorem bare_file (bare : plan.fields = []) (typed : plan.typeName ≠ "_") :
    ∃ file, plan.file = .ok file ∧ file.outline = plan.outline ∧ file.code.isComplete = true := by
  obtain ⟨file, made, exports⟩ := @exists_file plan (by simp [bare])
  have complete := file_complete made typed (by simp [bare])
  refine ⟨file, made, ?_, complete⟩
  rw [ModelFile.outline, file_module made, exports, outline]

end HeaderPlan

namespace ModelFile

/-- The files of all schemas and headers are made where each is, have the outlines of each, and are
complete where each is. -/
theorem exists_all {elements : List SchemaId} {headers : List HeaderPlan}
    {outlined : SchemaId × Schema → Option (String × List String)}
    (ofSchemas : ∀ entry ∈ model.schemas, ∃ file, (ofSchema model elements entry).fresh = .ok file ∧
      file.map outline = outlined entry ∧ ∀ found ∈ file, found.code.isComplete = true)
    (ofHeaders : ∀ plan ∈ distinctHeaders [] headers, ∃ file, plan.file = .ok file ∧
      file.outline = plan.outline ∧ file.code.isComplete = true)
    (ordered : ((model.schemas.filterMap outlined ++
      (distinctHeaders [] headers).map HeaderPlan.outline).map Prod.fst).Pairwise (· ≤ ·)) :
    ∃ files, (all model elements headers).fresh = .ok files ∧
      files.map outline = model.schemas.filterMap outlined ++
        (distinctHeaders [] headers).map HeaderPlan.outline ∧
      ∀ file ∈ files, file.code.isComplete = true := by
  obtain ⟨written, schemas, ofWritten, complete⟩ := exists_mapM_shaped ofSchemas
  obtain ⟨writtenHeaders, plans, ofWrittenHeaders, completeHeaders⟩ := exists_mapM_shaped ofHeaders
  have outlines : (written.filterMap id ++ writtenHeaders).map outline =
      model.schemas.filterMap outlined ++ (distinctHeaders [] headers).map HeaderPlan.outline := by
    have kept := congrArg (List.filterMap id) ofWritten
    rw [List.filterMap_map, List.filterMap_map] at kept
    rw [List.map_append, ofWrittenHeaders, List.map_filterMap]
    exact congrArg (· ++ _) kept
  refine ⟨_, all_of_ordered schemas plans ?_, outlines, ?_⟩
  · rw [← outlines, List.map_map] at ordered
    exact ordered
  · intro file member
    rcases List.mem_append.mp member with inside | inside
    · obtain ⟨found, listed, same⟩ := List.mem_filterMap.mp inside
      exact complete found listed file same
    · exact completeHeaders file inside

end ModelFile

/-- An operation under a route of its name that answers with headers alone. -/
structure Reply where
  name : String
  header : String

namespace Reply

def headers (reply : Reply) : HeaderPlan := ⟨reply.header, []⟩

def operation (reply : Reply) : Operation :=
  { name := reply.name, method := .get, path := [.constant ("/" ++ reply.name)]
    responses := [{ statusCodes := [.code 204], headers := some ⟨reply.header, []⟩ }] }

def plan (reply : Reply) : OperationPlan :=
  { operation := reply.operation
    call :=
      { operation := reply.name, method := .get, signature := []
        steps := [.appendConstant ("/" ++ reply.name)] }
    dispatch :=
      { operation := reply.name, value := none, valueOptional := false
        headers := some reply.headers, branches := [⟨.code 204, .noContent⟩] } }

def Named (reply : Reply) : Prop :=
  Naming.fieldName reply.name ≠ "_" ∧ reply.headers.typeName ≠ "_"

instance {reply : Reply} : Decidable reply.Named := inferInstanceAs (Decidable (_ ∧ _))

theorem Named.complete {reply : Reply} (named : reply.Named) : reply.plan.Complete model := by
  refine .of_constant named.1 rfl rfl (fun code made => ?_) fun branch listed => ?_
  · cases made
    exact Code.isComplete_write (by simpa using named.2)
  · rw [List.mem_singleton.mp listed]
    apply Code.isComplete_write
    rw [List.forall_mem_cons, List.forall_mem_singleton]
    refine ⟨rfl, Code.isComplete_write ?_⟩
    rw [List.forall_mem_cons, List.forall_mem_singleton]
    refine ⟨Code.isComplete_plain "()", Code.isComplete_write ?_⟩
    rw [List.forall_mem_singleton]
    exact Code.isComplete_write (by simpa using named.2)

end Reply

/-- The objects and the replies of a small model. -/
structure Sketch where
  objects : List BareObject
  replies : List Reply

namespace Sketch

variable {sketch : Sketch}

def toModel (sketch : Sketch) : Model :=
  { name := "Sketch"
    schemas := sketch.objects.map fun object => (object.id, .object object.type)
    operations := sketch.replies.map Reply.operation }

def headers (sketch : Sketch) : List HeaderPlan :=
  ModelFile.distinctHeaders [] (sketch.replies.map Reply.headers)

def outlines (sketch : Sketch) : List (String × List String) :=
  sketch.objects.map BareObject.outline ++ sketch.headers.map HeaderPlan.outline

/-- Everything has a name, and files come in the order of their modules. -/
def Drawn (sketch : Sketch) : Prop :=
  (∀ object ∈ sketch.objects, object.Alone sketch.toModel ∧ object.Named) ∧
    (∀ reply ∈ sketch.replies, reply.Named) ∧
    (∀ outline ∈ sketch.outlines, outline.1 ≠ "_" ∧ "_" ∉ outline.2) ∧
    (sketch.outlines.map Prod.fst).Pairwise (· ≤ ·)

instance : Decidable sketch.Drawn := inferInstanceAs (Decidable (_ ∧ _ ∧ _ ∧ _))

theorem Drawn.files (drawn : sketch.Drawn) :
    ∃ files,
      (ModelFile.all sketch.toModel [] (sketch.replies.map Reply.headers)).fresh = .ok files ∧
      files.map ModelFile.outline = sketch.outlines ∧
      ∀ file ∈ files, file.code.isComplete = true := by
  obtain ⟨objects, replies, -, ordered⟩ := drawn
  have outlines : sketch.toModel.schemas.filterMap (fun entry => entry.2.object?.map ObjectType.outline) ++
      sketch.headers.map HeaderPlan.outline = sketch.outlines := by
    rw [toModel, List.filterMap_map, Sketch.outlines]
    exact congrArg (· ++ _) (congrFun List.filterMap_eq_map sketch.objects)
  rw [← outlines]
  apply ModelFile.exists_all
  case ofSchemas =>
    intro entry listed
    obtain ⟨object, member, rfl⟩ := List.mem_map.mp listed
    obtain ⟨alone, named⟩ := objects object member
    obtain ⟨file, made, outlined, complete⟩ := alone.file named
    refine ⟨some file, ?_, congrArg some outlined, ?_⟩
    · rw [ModelFile.ofSchema, fresh_bind, List.contains_nil, made]
      rfl
    · rintro _ ⟨⟩
      exact complete
  case ofHeaders =>
    intro plan member
    obtain ⟨reply, listed, rfl⟩ := List.mem_map.mp (ModelFile.distinctHeaders_subset member)
    exact HeaderPlan.bare_file rfl (replies reply listed).2
  case ordered =>
    rw [← outlines] at ordered
    exact ordered

theorem planOperations_eq_ok :
    sketch.toModel.planOperations.fresh = .ok (sketch.replies.map Reply.plan) := by
  rw [Model.planOperations, fresh_mapM]
  have each : ∀ replies : List Reply, (replies.map Reply.operation).mapM
      (fun operation => (sketch.toModel.operationPlan operation).fresh) =
        .ok (replies.map Reply.plan) := by
    intro replies
    induction replies with
    | nil => rfl
    | cons reply rest ih =>
        rw [List.map_cons, List.mapM_cons, ih]
        rfl
  exact each sketch.replies

/-- The groups of operations whose names come in order, each on its own. -/
def groups (sketch : Sketch) : List OperationGroup :=
  sketch.replies.map fun reply => ⟨reply.name, "", [reply.operation]⟩

/-- A run on a sketch gets through its stages. -/
theorem Drawn.passed (drawn : sketch.Drawn)
    (schemas : sketch.toModel.planSchemas.fresh = .ok ())
    (grouped : group policy sketch.toModel.operations = .ok sketch.groups)
    (modules : Library.nameCollision [] sketch.groups = none)
    (named : ∀ group ∈ sketch.groups, Generation.Named group) :
    ∃ files sources, files.map ModelFile.outline = sketch.outlines ∧
      Generation.Passed sketch.toModel configuration policy
        ⟨sketch.replies.map Reply.plan, sketch.groups, [], files, sources⟩ := by
  have headers : (sketch.replies.map Reply.plan).filterMap (·.dispatch.headers) =
      sketch.replies.map Reply.headers := by
    rw [List.filterMap_map]
    exact congrFun List.filterMap_eq_map sketch.replies
  have elements :
      (sketch.toModel.elementModels (sketch.replies.map Reply.plan)).fresh = .ok [] := by
    have none : (sketch.replies.map Reply.plan).flatMap OperationPlan.elementRoots = [] := by
      rw [List.flatMap_map, List.flatMap_eq_nil_iff]
      exact fun _ _ => rfl
    rw [Model.elementModels, none]
    rfl
  obtain ⟨files, filed, outlined, complete⟩ := drawn.files
  obtain ⟨-, replies, outlines, -⟩ := drawn
  rw [← headers] at filed
  have passed : ∃ sources, Generation.Passed sketch.toModel configuration policy
      ⟨sketch.replies.map Reply.plan, sketch.groups, [], files, sources⟩ := by
    apply Generation.passed_of_complete schemas planOperations_eq_ok grouped elements filed
    case sourced =>
      intro group _
      apply Generation.exists_ofGroup
      intro plan member
      obtain ⟨reply, -, rfl⟩ := List.mem_map.mp (Generation.groupPlans_subset _ _ member)
      exact ⟨⟨_, rfl⟩, _, rfl⟩
    case modules => exact modules
    case each =>
      intro plan member
      obtain ⟨reply, listed, rfl⟩ := List.mem_map.mp member
      exact (replies reply listed).complete
    case named => exact named
    case exported =>
      intro file member
      apply outlines file.outline
      rw [← outlined]
      exact List.mem_map_of_mem member
    case written => exact complete
  exact passed.elim fun sources passed => ⟨files, sources, outlined, passed⟩

/-- A run on a sketch succeeds where no two artifacts have the same name, and exports what the
outlines and the groups say. -/
theorem Drawn.generates (drawn : sketch.Drawn) (validated : configuration.validate = .ok policy)
    (schemas : sketch.toModel.planSchemas.fresh = .ok ())
    (grouped : group policy sketch.toModel.operations = .ok sketch.groups)
    (modules : Library.nameCollision [] sketch.groups = none)
    (named : ∀ group ∈ sketch.groups, Generation.Named group)
    (distinct : (sketch.toModel.artifactNames configuration policy).Nodup) :
    ∃ made, generate sketch.toModel configuration .standard = .ok made ∧
      (∃ code text, Formatter.standard.format "models/mod.rs" (Code.render code) = .ok text ∧
        ⟨"models/mod.rs", text⟩ ∈ made ∧ code.exportedNames = sketch.outlines.flatMap Prod.snd) ∧
      ∃ code text, Formatter.standard.format "lib.rs" (Code.render code) = .ok text ∧
        ⟨"lib.rs", text⟩ ∈ made ∧ code.exportedNames =
          if configuration.publicClients then sketch.groups.map OperationGroup.clientName
          else [] := by
  obtain ⟨files, sources, outlined, passed⟩ :=
    @Drawn.passed configuration policy sketch drawn schemas grouped modules named
  obtain ⟨made, written⟩ := @Generation.exists_artifacts sketch.toModel configuration .standard _
    (passed.names_perm.nodup_iff.mpr distinct) fun _ _ => ⟨_, rfl⟩
  refine ⟨made, Generation.generate_eq_ok.mpr ⟨policy, _, validated, passed, written⟩, ?_, ?_⟩
  · obtain ⟨text, formatted, member⟩ := Generation.index_written written
    refine ⟨_, text, formatted, member, ?_⟩
    rw [ModelFile.index_exports, ← outlined, List.flatMap_map]
    rfl
  · obtain ⟨text, formatted, member⟩ := Generation.library_written written
    exact ⟨_, text, formatted, member, Generation.Stages.library_exports _⟩

end Sketch

end ApiContract
