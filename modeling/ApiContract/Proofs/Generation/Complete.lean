import ApiContract.Proofs.Code.Complete
import ApiContract.Proofs.Generation.Run

/-!
When generated files are complete. Besides the codes of types and values that a file is put together
from, the names of its clients, handlers, methods and modules are all that it can be incomplete for.
A run whose operations and models are planned gets through its stages if nothing lacks a name.
-/

namespace ApiContract

open Code Planning

theorem SharedModule.module_complete : isComplete module = true := by
  have texts : ∀ name type encode decode,
      isComplete (textAdapter name type encode decode) = true := by
    intro name type encode decode
    apply isComplete_write
    simp
  have ofAdapters : isComplete adapters = true := by
    apply isComplete_write
    simp [texts]
  unfold module
  simp only [isComplete_sequence_cons, ofAdapters, Bool.and_eq_true]
  refine ⟨?_, ?_, ?_, ?_, ?_, ?_, trivial, ?_, isComplete_sequence_nil⟩
  all_goals exact isComplete_plain _

namespace OperationPlan

variable {plan : OperationPlan} {arguments steps returns : Code}

theorem createCode_complete (ofArguments : isComplete arguments = true)
    (ofSteps : isComplete steps = true) : isComplete (plan.createCode arguments steps) = true := by
  have binding : ∀ flag : Bool, isComplete (if flag then word "mut" else []) = true := by
    intro flag
    cases flag <;> rfl
  apply isComplete_write
  simp only [List.forall_mem_cons, binding, ofArguments, ofSteps]
  simp

theorem sendCode_complete (named : plan.methodName ≠ "_")
    (ofArguments : isComplete arguments = true) (ofReturns : isComplete returns = true)
    (ofBranches : ∀ branch ∈ plan.dispatch.branches,
      isComplete (plan.dispatch.branchCode branch) = true) :
    isComplete (plan.sendCode arguments returns) = true := by
  have branches : isComplete
      (sequence (plan.dispatch.branches.map plan.dispatch.branchCode)) = true := by
    apply isComplete_sequence_map
    intro branch listed
    exact ofBranches branch listed
  have names : isComplete (commaSeparated (plan.call.argumentNames.map word)) = true := by
    apply isComplete_commaSeparated
    intro code member
    obtain ⟨name, -, rfl⟩ := List.mem_map.mp member
    rfl
  apply isComplete_write
  simp only [List.forall_mem_cons, ofArguments, ofReturns, branches, names]
  simp [named]

theorem handlerMethod_complete (named : plan.methodName ≠ "_") {code : Code}
    (ofArguments : ∀ code, plan.call.argumentsCode = .ok code → isComplete code = true)
    (ofReturns : ∀ code, plan.dispatch.returnCode = .ok code → isComplete code = true)
    (made : plan.handlerMethod = .ok code) : isComplete code = true := by
  simp only [handlerMethod, bind_eq_ok_iff, pure_eq_ok] at made
  obtain ⟨arguments, argued, returns, returned, same⟩ := made
  rw [← same]
  apply isComplete_write
  simp only [List.forall_mem_cons, ofArguments _ argued, ofReturns _ returned]
  simp [named]

/-- An operation whose method has a name and whose parts have complete codes. -/
structure Complete (model : Model) (plan : OperationPlan) : Prop where
  named : plan.methodName ≠ "_"
  arguments : ∀ code, plan.call.argumentsCode = .ok code → isComplete code = true
  steps : ∀ step ∈ plan.call.steps, ∀ code,
    (plan.call.stepCode model step).fresh = .ok code → isComplete code = true
  returns : ∀ code, plan.dispatch.returnCode = .ok code → isComplete code = true
  branches : ∀ branch ∈ plan.dispatch.branches,
    isComplete (plan.dispatch.branchCode branch) = true

theorem forall_ok_iff {ε α : Type} {r : Except ε α} {p : α → Bool} :
    (∀ a, r = .ok a → p a = true) ↔ r.toOption.all p = true := by
  cases r <;> simp [Except.toOption]

instance (model : Model) (plan : OperationPlan) : Decidable (plan.Complete model) :=
  decidable_of_iff
    (plan.methodName ≠ "_" ∧ plan.call.argumentsCode.toOption.all isComplete = true ∧
      (∀ step ∈ plan.call.steps,
        (plan.call.stepCode model step).fresh.toOption.all isComplete = true) ∧
      plan.dispatch.returnCode.toOption.all isComplete = true ∧
      ∀ branch ∈ plan.dispatch.branches, isComplete (plan.dispatch.branchCode branch) = true)
    (by
      simp only [← forall_ok_iff]
      exact ⟨fun ⟨named, arguments, steps, returns, branches⟩ =>
          ⟨named, arguments, steps, returns, branches⟩,
        fun complete => ⟨complete.named, complete.arguments, complete.steps, complete.returns,
          complete.branches⟩⟩)

/-- The code of a call without parameters, under a constant route, is complete where that of its
answers is. -/
theorem Complete.of_constant {model : Model} {route : String} (named : plan.methodName ≠ "_")
    (unsigned : plan.call.signature = []) (fixed : plan.call.steps = [.appendConstant route])
    (returns : ∀ code, plan.dispatch.returnCode = .ok code → isComplete code = true)
    (branches : ∀ branch ∈ plan.dispatch.branches,
      isComplete (plan.dispatch.branchCode branch) = true) : plan.Complete model where
  named := named
  arguments code made := by
    rw [CallPlan.argumentsCode, unsigned] at made
    cases made
    rfl
  steps step listed code made := by
    rw [fixed, List.mem_singleton] at listed
    rw [listed] at made
    cases made
    exact isComplete_write (by simp)
  returns := returns
  branches := branches

theorem Complete.methods {model : Model} (complete : plan.Complete model)
    {methods : OperationMethods} (made : (plan.methods model).fresh = .ok methods) :
    isComplete methods.create = true ∧ isComplete methods.send = true := by
  simp only [OperationPlan.methods, fresh_bind, fresh_liftM, fresh_mapM, fresh_pure, bind_eq_ok_iff,
    Except.ok.injEq] at made
  obtain ⟨arguments, argued, steps, stepped, returns, returned, same⟩ := made
  have ofSteps : isComplete (sequence steps) = true := by
    apply isComplete_sequence
    intro code member
    obtain ⟨step, listed, coded⟩ := mem_of_mapM_eq_ok stepped member
    exact complete.steps step listed code coded
  have ofArguments := complete.arguments arguments argued
  rw [← same]
  dsimp only
  exact ⟨createCode_complete ofArguments ofSteps,
    sendCode_complete complete.named ofArguments (complete.returns _ returned) complete.branches⟩

end OperationPlan

theorem ClientCode.code_complete {client : ClientCode} (named : client.name ≠ "_")
    (ofMethods : ∀ method ∈ client.methods,
      isComplete method.create = true ∧ isComplete method.send = true) :
    isComplete client.code = true := by
  have methods : isComplete (sequence (client.methods.map fun method =>
      method.create ++ method.send)) = true := by
    apply isComplete_sequence_map
    intro method listed
    rw [isComplete_append, (ofMethods method listed).1, (ofMethods method listed).2]
    rfl
  apply isComplete_write
  simp only [List.forall_mem_cons, methods]
  simp [named]

theorem HandlerCode.code_complete {handler : HandlerCode} (named : handler.name ≠ "_")
    (ofMethods : ∀ method ∈ handler.methods, isComplete method = true) :
    isComplete handler.code = true := by
  have routes : isComplete (commaSeparated (handler.routes.map RouteEntry.code)) = true := by
    apply isComplete_commaSeparated
    intro code member
    obtain ⟨entry, -, rfl⟩ := List.mem_map.mp member
    apply isComplete_write
    simp
  apply isComplete_write
  simp only [List.forall_mem_cons, routes, isComplete_sequence ofMethods]
  simp [named]

/-- The source of a group is complete if its operations are and client and handler have names. -/
theorem GroupSource.ofGroup_complete {model : Model} {configuration : Configuration}
    {group : OperationGroup} {plans : List OperationPlan} {source : GroupSource}
    (made : (GroupSource.ofGroup model configuration group plans).fresh = .ok source)
    (client : group.clientName ≠ "_") (handler : group.handlerName ≠ "_")
    (each : ∀ plan ∈ plans, plan.Complete model) : isComplete source.code = true := by
  obtain ⟨methods, handled, called, served, same⟩ := Generation.ofGroup_eq_ok made
  subst same
  rw [GroupSource.code, isComplete_append, isComplete_append, Bool.and_eq_true, Bool.and_eq_true]
  refine ⟨⟨?_, ?_⟩, ?_⟩
  · simp [GroupDocumentation.code]
  · apply ClientCode.code_complete client
    intro method member
    obtain ⟨plan, listed, coded⟩ := mem_of_mapM_eq_ok called member
    exact (each plan listed).methods coded
  · apply HandlerCode.code_complete handler
    intro method member
    obtain ⟨plan, listed, coded⟩ := mem_of_mapM_eq_ok served member
    have complete := each plan listed
    exact plan.handlerMethod_complete complete.named complete.arguments complete.returns coded

theorem Library.code_complete {model : Model} {groups : List OperationGroup}
    {declared : List LibraryModule} {isPublic : Bool}
    (named : ∀ entry ∈ declared, entry.name ≠ "_" ∧ entry.client ≠ "_") :
    isComplete (Library.code model groups declared isPublic) = true := by
  have declarations : isComplete
      (sequence (declared.map (LibraryModule.declaration isPublic))) = true := by
    apply isComplete_sequence_map
    intro entry listed
    obtain ⟨module, client⟩ := named entry listed
    apply isComplete_write
    simp only [List.forall_mem_cons, isComplete_ident]
    refine ⟨?_, module, client, List.forall_mem_nil _⟩
    split
    next path _ =>
      apply isComplete_write
      simp
    next => rfl
  rw [Library.code, isComplete_append, isComplete_append, declarations, isComplete_plain]
  rfl

namespace EnumFile

variable {parts : List (String × Code)} {members : List (Member × Code)}

theorem each_complete
    (ofMembers : ∀ member ∈ members, member.1.caseName ≠ "_" ∧ isComplete member.2 = true)
    (template : String) : isComplete (each members template) = true := by
  apply isComplete_sequence_map
  rintro ⟨declared, value⟩ listed
  obtain ⟨named, complete⟩ := ofMembers _ listed
  apply isComplete_write
  simp only [List.forall_mem_cons, isComplete_ident, complete]
  simp [named]

theorem closedCode_complete {isInteger : Bool} (ofParts : ∀ part ∈ parts, isComplete part.2 = true)
    (ofMembers : ∀ member ∈ members, member.1.caseName ≠ "_" ∧ isComplete member.2 = true) :
    isComplete (closedCode parts isInteger members) = true := by
  apply isComplete_write
  simp only [List.forall_mem_cons, each_complete ofMembers, isComplete_plain, true_and]
  refine ⟨?_, ofParts⟩
  split
  next => rfl
  next =>
    apply isComplete_write
    simpa only [List.forall_mem_cons, each_complete ofMembers, true_and] using ofParts

end EnumFile

theorem docComment_complete (description : Option String) :
    isComplete (docComment description) = true := by
  rw [docComment]
  split <;> rfl

namespace ObjectFile

variable {model : Model}

/-- A struct is complete if it has a name and its fields and attributes are complete. -/
theorem structCode_complete {name : String} {description : Option String} {fields : List ModelField}
    {leading rules code : Code}
    (made : structCode model name description fields leading rules = .ok code)
    (named : name ≠ "_")
    (ofFields : ∀ field ∈ fields, ∀ parts, field.declaration model name = .ok parts →
      isComplete parts.1 = true ∧ isComplete parts.2 = true)
    (ofLeading : isComplete leading = true) (ofRules : isComplete rules = true) :
    isComplete code = true := by
  simp only [structCode, bind_eq_ok_iff, pure_eq_ok] at made
  obtain ⟨declarations, mapped, rfl⟩ := made
  have ofDeclarations : ∀ parts ∈ declarations,
      isComplete parts.1 = true ∧ isComplete parts.2 = true := by
    intro parts inside
    obtain ⟨field, listed, declared⟩ := mem_of_mapM_eq_ok mapped inside
    exact ofFields field listed parts declared
  have declared : isComplete (sequence (declarations.map (·.1))) = true := by
    apply isComplete_sequence_map
    intro parts inside
    exact (ofDeclarations parts inside).1
  have functions : isComplete (sequence (declarations.map (·.2))) = true := by
    apply isComplete_sequence_map
    intro parts inside
    exact (ofDeclarations parts inside).2
  apply isComplete_write
  simp only [List.forall_mem_cons, docComment_complete, ofRules, ofLeading, declared]
  refine ⟨trivial, trivial, by simp [named], trivial, trivial, ?_, List.forall_mem_nil _⟩
  split
  next => rfl
  next =>
    apply isComplete_write
    simp [named, functions]

/-- The enum of a hierarchy is complete if it, its base shape, the discriminator and the variants
have names. -/
theorem hierarchyCode_complete {name baseName discriminator : String} {description : Option String}
    {variants : List Variant} (named : name ≠ "_") (base : baseName ≠ "_")
    (field : Naming.fieldName discriminator ≠ "_")
    (cases : ∀ variant ∈ variants, variant.typeName ≠ "_") :
    isComplete (hierarchyCode name baseName description discriminator variants) = true := by
  have each : ∀ template, isComplete (sequence (variants.map fun variant =>
      write template
        [("case", ident variant.typeName), ("value", text variant.value),
         ("doc", doc (" \x60" ++ discriminator ++ ": \"" ++ variant.value ++ "\"\x60"))])) = true := by
    intro template
    apply isComplete_sequence_map
    intro variant listed
    apply isComplete_write
    simp [cases variant listed]
  apply isComplete_write
  simp only [List.forall_mem_cons, docComment_complete, each]
  simp [named, base, field]

end ObjectFile

theorem ScalarKind.textCode_complete (kind : ScalarKind) {value : Code}
    (ofValue : isComplete value = true) : isComplete (kind.textCode value) = true :=
  isComplete_write (by simpa using ofValue)

theorem ScalarKind.parseCode_complete (kind : ScalarKind) {text : Code} (what : String)
    (ofText : isComplete text = true) : isComplete (kind.parseCode text what) = true :=
  isComplete_write (by simpa using ofText)

theorem ItemContent.writeCode_complete (content : ItemContent) {name value : Code} (boxed : Bool)
    (ofName : isComplete name = true) (ofValue : isComplete value = true) :
    isComplete (content.writeCode name value boxed) = true := by
  cases content with
  | value kind =>
      have text := kind.textCode_complete ofValue
      exact isComplete_write (by simp [ofName, text])
  | model id => exact isComplete_write (by simp [ofName, ofValue])

theorem ItemContent.readCode_complete (content : ItemContent) {element : Code} (what : String)
    (boxed : Bool) (ofElement : isComplete element = true) :
    isComplete (content.readCode element what boxed) = true := by
  cases content with
  | value kind => exact kind.parseCode_complete what (isComplete_write (by simp [ofElement]))
  | model id => exact isComplete_write (by simp [ofElement])

namespace ModelField

variable {field : ModelField}

theorem withValue_complete (named : field.name ≠ "_") {body : Code}
    (ofBody : isComplete body = true) : isComplete (field.withValue body) = true :=
  isComplete_write (by simp [named, ofBody])

theorem initializer_complete (named : field.name ≠ "_") {value : Code}
    (ofValue : isComplete value = true) : isComplete (field.initializer value) = true :=
  isComplete_write (by simp [named, ofValue])

theorem readText_complete (named : field.name ≠ "_") {optional required parse : Code}
    (ofOptional : isComplete optional = true) (ofRequired : isComplete required = true)
    (ofParse : isComplete parse = true) :
    isComplete (field.readText optional required parse) = true :=
  initializer_complete named (isComplete_write (by simp [ofOptional, ofRequired, ofParse]))

end ModelField

namespace ElementModel

variable {field : ModelField}

/-- Both codes of a property are complete. -/
def Exchange.Complete (exchange : Exchange) : Prop :=
  isComplete exchange.write = true ∧ isComplete exchange.read = true

theorem attributeExchange_complete (named : field.name ≠ "_") (planned : AttributePlan) :
    (attributeExchange field planned).Complete := by
  have text := planned.kind.textCode_complete (isComplete_word "value")
  constructor
  · exact ModelField.withValue_complete named (isComplete_write (by simp [text]))
  · exact ModelField.readText_complete named (isComplete_write (by simp))
      (isComplete_write (by simp)) (planned.kind.parseCode_complete _ (isComplete_word _))

theorem textExchange_complete (named : field.name ≠ "_") (text : TextPlan) :
    (textExchange field text).Complete := by
  have written := text.kind.textCode_complete (isComplete_word "value")
  constructor
  · exact ModelField.withValue_complete named (isComplete_write (by simp [written]))
  · exact ModelField.readText_complete named (isComplete_plain _) (isComplete_plain _)
      (text.kind.parseCode_complete _ (isComplete_word _))

theorem singleExchange_complete (named : field.name ≠ "_") (child : ChildPlan) {build read : Code}
    (ofBuild : isComplete build = true) (ofRead : isComplete read = true) :
    (singleExchange field child build read).Complete := by
  constructor
  · exact ModelField.withValue_complete named (isComplete_write (by simp [ofBuild, ofRead]))
  · exact ModelField.initializer_complete named (isComplete_write (by simp [ofBuild, ofRead]))

theorem wrappedExchange_complete (named : field.name ≠ "_") (child : ChildPlan) (itemName : String)
    (item : ItemContent) : (wrappedExchange field child itemName item).Complete := by
  have build := item.writeCode_complete field.boxed (isComplete_text itemName)
    (isComplete_word "item")
  have read := item.readCode_complete child.name field.boxed (isComplete_word "item")
  constructor
  · exact ModelField.withValue_complete named (isComplete_write (by simp [build, read]))
  · apply ModelField.initializer_complete named
    apply isComplete_write
    rw [List.forall_mem_cons, List.forall_mem_singleton]
    constructor
    · apply isComplete_write
      simp [build, read]
    · exact isComplete_word _

theorem repeatedExchange_complete (named : field.name ≠ "_") (child : ChildPlan)
    (item : ItemContent) : (repeatedExchange field child item).Complete := by
  have build := item.writeCode_complete field.boxed (isComplete_text child.name)
    (isComplete_word "item")
  have read := item.readCode_complete child.name field.boxed (isComplete_word "item")
  have empty : ∀ template, isComplete
      (Code.write template [("default", Code.word field.defaultName)]) = true := by
    intro template
    exact isComplete_write (by simp)
  constructor
  · exact ModelField.withValue_complete named (isComplete_write (by simp [build, read, empty]))
  · exact ModelField.initializer_complete named (isComplete_write (by simp [build, read, empty]))

theorem childExchange_complete (named : field.name ≠ "_") (child : ChildPlan) :
    (childExchange field child).Complete := by
  rw [childExchange]
  split
  next itemName item _ => exact wrappedExchange_complete named child itemName item
  next item _ => exact repeatedExchange_complete named child item
  next entry _ =>
    have build := entry.writeCode_complete false (isComplete_word "key") (isComplete_word "entry")
    have read := entry.readCode_complete child.name false (isComplete_word "entry")
    exact singleExchange_complete named child (isComplete_write (by simp [build]))
      (isComplete_write (by simp [read]))
  next content _ =>
    exact singleExchange_complete named child
      (content.writeCode_complete _ (isComplete_text _) (isComplete_word _))
      (content.readCode_complete _ _ (isComplete_word _))

/-- The code that carries a model as an element is complete if its type and its fields have names. -/
theorem code_complete {plan : ElementPlan} {fields : List ModelField} {code : Code}
    (typed : plan.typeName ≠ "_") (named : ∀ field ∈ fields, field.name ≠ "_")
    (made : ElementModel.code plan fields = .ok code) : isComplete code = true := by
  have found : ∀ {property field}, fieldOf plan fields property = .ok field → field.name ≠ "_" := by
    intro property field made
    rw [fieldOf] at made
    split at made
    next found =>
      cases made
      exact named _ (List.mem_of_find?_eq_some found)
    next => cases made
  simp only [ElementModel.code, exchanges, bind_eq_ok_iff, pure_eq_ok] at made
  obtain ⟨all, ⟨attributes, ofAttributes, text, ofText, children, ofChildren, rfl⟩, rfl⟩ := made
  have each : ∀ exchange ∈ attributes ++ text ++ children, exchange.Complete := by
    intro exchange member
    rw [List.mem_append, List.mem_append] at member
    rcases member with (inside | inside) | inside
    · obtain ⟨planned, -, made⟩ := mem_of_mapM_eq_ok ofAttributes inside
      obtain ⟨field, got, made⟩ := bind_eq_ok made
      cases made
      exact attributeExchange_complete (found got) planned
    · obtain ⟨planned, -, made⟩ := mem_of_mapM_eq_ok ofText inside
      obtain ⟨field, got, made⟩ := bind_eq_ok made
      cases made
      exact textExchange_complete (found got) planned
    · obtain ⟨planned, -, made⟩ := mem_of_mapM_eq_ok ofChildren inside
      obtain ⟨field, got, made⟩ := bind_eq_ok made
      cases made
      exact childExchange_complete (found got) planned
  apply isComplete_write
  simp only [List.forall_mem_cons, isComplete_ident]
  exact ⟨typed, isComplete_sequence_map fun exchange member => (each exchange member).1,
    isComplete_sequence_map fun exchange member => (each exchange member).2, List.forall_mem_nil _⟩

end ElementModel

/-- The file of an enum is complete if the enum and its members have names. -/
theorem EnumType.file_complete {type : EnumType} {file : ModelFile} (made : type.file = .ok file)
    (named : Naming.typeName type.name ≠ "_")
    (ofValues : ∀ value ∈ type.values, Naming.typeName value.name ≠ "_") :
    isComplete file.code = true := by
  simp only [EnumType.file, bind_eq_ok_iff, pure_eq_ok] at made
  obtain ⟨members, mapped, rfl⟩ := made
  have ofParts : ∀ part ∈ [("doc", docComment type.description),
      ("name", ident (Naming.typeName type.name)), ("text", text (Naming.typeName type.name))],
      isComplete part.2 = true := by
    simp [docComment_complete, named]
  have ofMembers : ∀ member ∈ members,
      member.1.caseName ≠ "_" ∧ isComplete member.2 = true := by
    intro member inside
    obtain ⟨declared, listed, built⟩ := mem_of_mapM_eq_ok mapped inside
    obtain ⟨value, isValue, rfl⟩ := List.mem_map.mp listed
    have case : (EnumFile.member value).caseName ≠ "_" := by
      simpa only [EnumFile.member] using ofValues value isValue
    split at built
    next =>
      obtain ⟨n, -, same⟩ := bind_eq_ok built
      rw [← pure_eq_ok.mp same]
      exact ⟨case, isComplete_word _⟩
    next =>
      rw [← pure_eq_ok.mp built]
      exact ⟨case, isComplete_nil⟩
  dsimp only
  split
  next => exact EnumFile.closedCode_complete ofParts ofMembers
  next =>
    split
    all_goals
      apply isComplete_write
      rw [List.forall_mem_cons]
      exact ⟨EnumFile.each_complete ofMembers _, ofParts⟩

/-- The file of headers is complete if its type and its fields have names and the fields have types
that are. -/
theorem HeaderPlan.file_complete {plan : HeaderPlan} {file : ModelFile}
    (made : plan.file = .ok file) (named : plan.typeName ≠ "_")
    (ofFields : ∀ binding ∈ plan.fields, Naming.fieldName binding.field ≠ "_" ∧
      ∀ code, binding.type.type.code = .ok code → isComplete code = true) :
    isComplete file.code = true := by
  simp only [HeaderPlan.file, bind_eq_ok_iff, pure_eq_ok] at made
  obtain ⟨fields, mapped, rfl⟩ := made
  have ofParts : ∀ part ∈ fields, isComplete part.1 = true ∧ isComplete part.2 = true := by
    intro part inside
    obtain ⟨binding, listed, built⟩ := mem_of_mapM_eq_ok mapped inside
    obtain ⟨type, typed, same⟩ := bind_eq_ok built
    obtain ⟨field, ofType⟩ := ofFields binding listed
    rw [← pure_eq_ok.mp same]
    constructor
    · apply isComplete_write
      simp only [List.forall_mem_cons, ofType type typed]
      simp
    · have parse := fun what => @isComplete_write "crate::shared::$reader($text, $what)"
        [("reader", word binding.kind.readerName), ("text", word "text"), ("what", text what)]
        (by simp)
      apply isComplete_write
      simp only [List.forall_mem_cons, ScalarKind.parseCode, parse]
      simp [field]
  have declared : isComplete (sequence (fields.map (·.1))) = true := by
    apply isComplete_sequence_map
    intro part inside
    exact (ofParts part inside).1
  have read : isComplete (sequence (fields.map (·.2))) = true := by
    apply isComplete_sequence_map
    intro part inside
    exact (ofParts part inside).2
  dsimp only
  apply isComplete_write
  simp only [List.forall_mem_cons, declared, read]
  simp [named]

theorem ModelFile.index_complete {files : List ModelFile}
    (named : ∀ file ∈ files, file.module ≠ "_" ∧ "_" ∉ file.exports) :
    isComplete (ModelFile.index files) = true := by
  rw [ModelFile.index, isComplete_append, isComplete_innerDoc, Bool.true_and]
  apply isComplete_sequence_map
  intro file listed
  have exports : isComplete (commaSeparated (file.exports.map ident)) = true := by
    apply isComplete_commaSeparated
    intro code inside
    obtain ⟨name, exported, rfl⟩ := List.mem_map.mp inside
    apply isComplete_ident.mpr
    rintro rfl
    exact (named file listed).2 exported
  apply isComplete_write
  simp only [List.forall_mem_cons, exports, isComplete_ident]
  simp [(named file listed).1]

namespace Generation

variable {model : Model} {configuration : Configuration} {policy : GroupingPolicy}
  {plans : List OperationPlan} {groups : List OperationGroup}

theorem groupPlans_subset (plans : List OperationPlan) (group : OperationGroup) :
    groupPlans plans group ⊆ plans := by
  intro plan member
  obtain ⟨operation, -, found⟩ := List.mem_filterMap.mp member
  exact List.mem_reverse.mp (List.mem_of_find?_eq_some found)

/-- Groups whose sources are made and complete get through their stage. -/
theorem groupSources_complete
    (sourced : ∀ group ∈ groups, ∃ source, (GroupSource.ofGroup model configuration group
      (groupPlans plans group)).fresh = .ok source ∧ isComplete source.code = true) :
    ∃ sources, (groupSources model configuration plans groups).fresh = .ok sources ∧
      ∀ source ∈ sources, isComplete source.code = true := by
  induction groups with
  | nil => exact ⟨[], rfl, List.forall_mem_nil _⟩
  | cons group rest ih =>
      obtain ⟨⟨source, made, complete⟩, later⟩ := List.forall_mem_cons.mp sourced
      obtain ⟨sources, others, each⟩ := ih later
      refine ⟨source :: sources, ?_, List.forall_mem_cons.mpr ⟨complete, each⟩⟩
      rw [groupSources, fresh_bind, made, ok_bind, fresh_bind, fresh_liftM,
        checked_eq_ok.mpr ⟨complete, rfl⟩, ok_bind, fresh_bind, others]
      rfl

/-- Nothing that a group is generated into lacks a name. -/
structure Named (group : OperationGroup) : Prop where
  client : group.clientName ≠ "_"
  handler : group.handlerName ≠ "_"
  module : group.moduleName ≠ "_"

instance (group : OperationGroup) : Decidable (Named group) :=
  decidable_of_iff (group.clientName ≠ "_" ∧ group.handlerName ≠ "_" ∧ group.moduleName ≠ "_")
    ⟨fun ⟨client, handler, module⟩ => ⟨client, handler, module⟩,
     fun named => ⟨named.client, named.handler, named.module⟩⟩

/-- A run gets through all its stages where its plans and models are complete and its groups are
named. -/
theorem passed_of_complete {asElements : List SchemaId} {models : List ModelFile}
    (schemas : model.planSchemas.fresh = .ok ())
    (planned : model.planOperations.fresh = .ok plans)
    (grouped : group policy model.operations = .ok groups)
    (elements : (model.elementModels plans).fresh = .ok asElements)
    (filed : (ModelFile.all model asElements (plans.filterMap (·.dispatch.headers))).fresh =
      .ok models)
    (sourced : ∀ group ∈ groups, ∃ source, (GroupSource.ofGroup model configuration group
      (groupPlans plans group)).fresh = .ok source)
    (modules : Library.nameCollision [] groups = none)
    (each : ∀ plan ∈ plans, plan.Complete model) (named : ∀ group ∈ groups, Named group)
    (exported : ∀ file ∈ models, file.module ≠ "_" ∧ "_" ∉ file.exports)
    (written : ∀ file ∈ models, file.code.isComplete = true) :
    ∃ sources, Passed model configuration policy ⟨plans, groups, asElements, models, sources⟩ := by
  obtain ⟨sources, made, complete⟩ := groupSources_complete fun group member => by
    obtain ⟨source, made⟩ := sourced group member
    refine ⟨source, made, ?_⟩
    exact GroupSource.ofGroup_complete made (named group member).client (named group member).handler
      fun plan listed => each plan (groupPlans_subset plans group listed)
  refine ⟨sources, schemas, planned, grouped, elements, filed, made, modules, ?_⟩
  have library : isComplete (Library.code model groups (groups.map LibraryModule.ofGroup)
      configuration.publicClients) = true := by
    apply Library.code_complete
    intro entry listed
    obtain ⟨group, member, rfl⟩ := List.mem_map.mp listed
    dsimp only [LibraryModule.ofGroup]
    exact ⟨(named group member).module, (named group member).client⟩
  intro file member
  simp only [Sources.files, Stages.sources, List.cons_append, List.mem_cons, List.mem_append,
    List.mem_map] at member
  rcases member with rfl | rfl | rfl | ⟨ofModel, listed, rfl⟩ | ⟨source, listed, rfl⟩
  all_goals dsimp only
  · exact library
  · exact SharedModule.module_complete
  · exact ModelFile.index_complete exported
  · exact written ofModel listed
  · exact complete source listed

end Generation

end ApiContract
