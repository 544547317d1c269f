import ApiContract.Generation.Run
import ApiContract.Proofs.Memo.Plans

/-!
A generation run on shared tables. Types and plans are all that a run asks the tables for, so every
stage of it gives what it gives on empty tables.
-/

namespace ApiContract

open Planning

variable {model : Model}

namespace Model

section Fields

theorem heldModels_steady (owner id : SchemaId) :
    (model.heldModels owner id).Steady model.tableLaw := by
  apply (resolveUse_steady id false id).bind
  intro used _
  refine (steady_lift _).bind fun object _ => (steady_lift _).bind fun properties _ => ?_
  apply (steady_mapM properties fun property _ => resolveUse_steady _ _ _).bind
  intro types _
  exact steady_pure _

theorem leadsTo_steady (owner : SchemaId) (fuel : Nat) (visited pending : List SchemaId) :
    (model.leadsTo owner fuel visited pending).Steady model.tableLaw := by
  induction fuel generalizing visited pending with
  | zero => exact steady_pure false
  | succ fuel ih =>
      cases pending with
      | nil => exact steady_pure false
      | cons id pending =>
          rw [leadsTo]
          split
          next => exact steady_pure true
          next =>
            split
            next => exact ih visited pending
            next => exact (heldModels_steady owner id).bind fun held _ => ih _ _

theorem modelField_steady (id : SchemaId) (owner : ObjectType) (property : Property) :
    (model.modelField id owner property).Steady model.tableLaw := by
  have box : ∀ type, (model.needsBox id type).Steady model.tableLaw := by
    intro type
    rw [needsBox]
    split
    next => exact steady_pure false
    next => exact leadsTo_steady id _ [] _
  apply (resolveUse_steady _ _ _).bind
  intro type _
  apply (steady_lift _).bind
  intro kind _
  exact (box type.type).bind fun boxed _ => steady_pure _

theorem modelFields_steady (id : SchemaId) (left : Option String) :
    (model.modelFields id left).Steady model.tableLaw := by
  refine (steady_lift _).bind fun owner _ => (steady_lift _).bind fun inherited _ => ?_
  exact steady_mapM _ fun property _ => modelField_steady id owner property

end Fields

section Planned

theorem planSchemas_steady : model.planSchemas.Steady model.tableLaw := by
  have each : ∀ entry : SchemaId × Schema, (model.planSchema entry).Steady model.tableLaw := by
    rintro ⟨id, schema⟩
    rw [planSchema.eq_def]
    split
    next =>
      exact (resolveUse_steady _ _ _).bind fun _ _ => (plan_steady _ _).bind fun _ _ => steady_pure ()
    next => exact (resolveUse_steady _ _ _).bind fun _ _ => steady_pure ()
  exact (steady_mapM model.schemas fun entry _ => each entry).bind fun _ _ => steady_pure ()

theorem bodySteps_steady (operation : Operation) :
    (model.bodySteps operation).Steady model.tableLaw := by
  have planned : ∀ body, (model.bodyStep operation body).Steady model.tableLaw := by
    intro body
    cases body with
    | schema name format contentType =>
        exact (steady_lift _).bind fun _ _ => (plan_steady _ _).bind fun _ _ => steady_pure _
    | binary name contentType =>
        exact (steady_lift _).bind fun _ _ => (steady_lift _).bind fun _ _ => steady_pure _
    | text name contentType =>
        exact (steady_lift _).bind fun _ _ => (steady_lift _).bind fun _ _ => steady_pure _
    | flattened id initializers format contentType =>
        exact (steady_lift _).bind fun _ _ => (plan_steady _ _).bind fun _ _ => steady_pure _
  rw [bodySteps]
  split
  next => exact steady_pure []
  next body _ => exact (planned body).bind fun step _ => steady_pure _

theorem callPlan_steady (operation : Operation) :
    (model.callPlan operation).Steady model.tableLaw := by
  have parameters : (model.signature operation).Steady model.tableLaw :=
    (steady_mapM _ fun parameter _ =>
      (resolveUse_steady _ _ _).bind fun type _ => steady_pure _).bind fun bound _ => steady_pure _
  apply parameters.bind
  intro signature _
  apply (steady_lift _).bind
  intro before _
  exact (bodySteps_steady operation).bind fun body _ => steady_pure _

theorem headerPlan_steady (operation : Operation) (headers : HeaderModel) :
    (model.headerPlan operation headers).Steady model.tableLaw := by
  have binding : ∀ field, (model.headerBinding operation headers field).Steady model.tableLaw := by
    intro field
    apply (steady_lift _).bind
    intro kind _
    cases kind with
    | none => exact steady_fail _
    | some kind => exact (resolveUse_steady _ _ _).bind fun type _ => steady_pure _
  exact (steady_mapM _ fun field _ => binding field).bind fun fields _ => steady_pure _

theorem addResponse_steady (operation : Operation) (table : DispatchTable) (response : Response) :
    (model.addResponse operation table response).Steady model.tableLaw := by
  have action : ∀ body, (model.bodyAction body).Steady model.tableLaw := by
    intro body
    cases body with
    | none => exact steady_pure _
    | stream => exact steady_pure _
    | typed schema format =>
        exact (plan_steady _ _).bind fun _ _ => (resolveUse_steady _ _ _).bind fun _ _ => steady_pure _
  have joined : (model.joinHeaders operation table.headers response.headers).Steady
      model.tableLaw := by
    rw [joinHeaders.eq_def]
    split
    next =>
      split
      next => exact steady_pure _
      next => exact steady_fail _
    next => exact steady_pure _
    next => exact (headerPlan_steady operation _).bind fun plan _ => steady_pure _
  apply (action response.body).bind
  rintro ⟨action, added⟩ _
  apply (steady_lift _).bind
  intro value _
  exact joined.bind fun headers _ => steady_pure _

theorem dispatchTable_steady (operation : Operation) :
    (model.dispatchTable operation).Steady model.tableLaw := by
  have all : ∀ responses table, (model.addResponses operation table responses).Steady
      model.tableLaw := by
    intro responses
    induction responses with
    | nil => exact fun table => steady_pure table
    | cons response rest ih =>
        exact fun table => (addResponse_steady operation table response).bind fun next _ => ih next
  exact (all _ _).bind fun table _ => steady_pure _

theorem planOperations_steady : model.planOperations.Steady model.tableLaw := by
  apply steady_mapM
  intro operation _
  apply (callPlan_steady operation).bind
  intro call _
  exact (dispatchTable_steady operation).bind fun dispatch _ => steady_pure _

theorem elementModels_steady (plans : List OperationPlan) :
    (model.elementModels plans).Steady model.tableLaw := by
  have closure : ∀ root, (model.xmlClosure root).Steady model.tableLaw := fun root =>
    (closeXml_steady _ [] [root]).bind fun seen _ => steady_pure _
  exact (steady_mapM _ fun root _ => closure root).bind fun closures _ => steady_pure _

end Planned

section Files

theorem elementCode_steady (id : SchemaId) : (model.elementCode id).Steady model.tableLaw := by
  apply ((plan_steady id .xml).mapError _).bind
  intro plan _
  cases plan with
  | element plan => exact ((modelFields_steady id none).mapError _).bind fun fields _ => steady_lift _
  | _ => exact steady_fail _

theorem objectFile_steady (id : SchemaId) (asElement : Bool) :
    (model.objectFile id asElement).Steady model.tableLaw := by
  apply ((steady_lift _).mapError _).bind
  intro object _
  apply ((resolveUse_steady id false id).mapError _).bind
  intro used _
  dsimp only
  split
  next =>
    refine Steady.bind ?_ fun code _ => steady_pure _
    apply ((modelFields_steady id none).mapError _).bind
    intro fields _
    apply (steady_lift _).bind
    intro body _
    split
    next => exact (elementCode_steady id).bind fun element _ => steady_pure _
    next => exact steady_pure _
  next =>
    refine Steady.bind ?_ fun code _ => steady_pure _
    apply ((steady_lift _).mapError _).bind
    intro root _
    exact ((modelFields_steady id _).mapError _).bind fun fields _ => steady_lift _
  next =>
    refine Steady.bind ?_ fun code _ => steady_pure _
    apply ((modelFields_steady id _).mapError _).bind
    intro fields _
    exact (steady_lift _).bind fun base _ => steady_pure _
  next => exact steady_fail _

end Files

end Model

theorem ModelFile.all_steady (asElements : List SchemaId) (headers : List HeaderPlan) :
    (ModelFile.all model asElements headers).Steady model.tableLaw := by
  have each : ∀ entry : SchemaId × Schema, (ofSchema model asElements entry).Steady model.tableLaw := by
    rintro ⟨id, schema⟩
    rw [ofSchema.eq_def]
    split
    next => exact (Model.objectFile_steady _ _).bind fun file _ => steady_pure _
    next => exact (steady_lift _).bind fun file _ => steady_pure _
    next => exact steady_pure none
  apply (steady_mapM _ fun entry _ => each entry).bind
  intro ofSchemas _
  exact (steady_mapM _ fun plan _ => steady_lift _).bind fun ofHeaders _ => steady_pure _

theorem CallPlan.bodyCode_steady (plan : CallPlan) (body : BodyStep) :
    (plan.bodyCode model body).Steady model.tableLaw := by
  rw [bodyCode.eq_def]
  split
  next => exact steady_lift _
  next => exact steady_lift _
  next => exact steady_lift _
  next =>
    apply ((steady_lift _).mapError _).bind
    intro object _
    apply ((Model.modelFields_steady _ none).mapError _).bind
    intro fields _
    exact (steady_mapM _ fun field _ => steady_lift _).bind fun inits _ => steady_pure _

theorem OperationPlan.methods_steady (plan : OperationPlan) :
    (plan.methods model).Steady model.tableLaw := by
  have step : ∀ step, (plan.call.stepCode model step).Steady model.tableLaw := by
    intro step
    cases step with
    | setBody body => exact plan.call.bodyCode_steady body
    | appendConstant text => exact steady_pure _
    | _ => exact steady_lift _
  apply (steady_lift _).bind
  intro arguments _
  apply (steady_mapM _ fun item _ => step item).bind
  intro steps _
  exact (steady_lift _).bind fun returns _ => steady_pure _

namespace Generation

theorem groupSources_steady (configuration : Configuration) (plans : List OperationPlan)
    (groups : List OperationGroup) :
    (groupSources model configuration plans groups).Steady model.tableLaw := by
  have single : ∀ group plans, (GroupSource.ofGroup model configuration group plans).Steady
      model.tableLaw := by
    intro group plans
    have client : (ClientCode.ofGroup model group plans configuration.publicClients).Steady
        model.tableLaw :=
      (steady_mapM _ fun plan _ => plan.methods_steady).bind fun methods _ => steady_pure _
    exact client.bind fun client _ => (steady_lift _).bind fun handler _ => steady_pure _
  induction groups with
  | nil => exact steady_pure []
  | cons group rest ih =>
      apply (single group _).bind
      intro source _
      apply (steady_lift _).bind
      intro checked _
      exact ih.bind fun sources _ => steady_pure _

theorem sources_steady (configuration : Configuration) (policy : GroupingPolicy) :
    (sources model configuration policy).Steady model.tableLaw := by
  apply (Model.planSchemas_steady.mapError _).bind
  intro _ _
  apply (Model.planOperations_steady.mapError _).bind
  intro plans _
  apply ((steady_lift _).mapError _).bind
  intro groups _
  apply ((Model.elementModels_steady plans).mapError _).bind
  intro asElements _
  apply (ModelFile.all_steady asElements _).bind
  intro models _
  apply (groupSources_steady configuration plans groups).bind
  intro groupSources _
  apply ((steady_lift _).mapError _).bind
  intro modules _
  exact (steady_mapM _ fun file _ => steady_lift _).bind fun checked _ => steady_pure _

end Generation

end ApiContract
