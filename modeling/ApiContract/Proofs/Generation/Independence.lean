import ApiContract.Generation.Run

/-!
What a model declares beside its operations. Schemas are resolved, planned and written as code
without a look at the operations, and an operation is planned without a look at the others: with
other operations, a model does all of this alike.
-/

namespace ApiContract

namespace Model

variable (model : Model) (operations : List Operation)

/-- The model with other operations. -/
def withOperations : Model := { model with operations }

@[simp] theorem schema?_withOperations :
    (model.withOperations operations).schema? = model.schema? := rfl

@[simp] theorem schemaFor_withOperations :
    (model.withOperations operations).schemaFor = model.schemaFor := rfl

@[simp] theorem objectFor_withOperations :
    (model.withOperations operations).objectFor = model.objectFor := rfl

@[simp] theorem walkLimit_withOperations :
    (model.withOperations operations).walkLimit = model.walkLimit := rfl

@[simp] theorem findRoot_withOperations :
    (model.withOperations operations).findRoot = model.findRoot := by
  funext start fuel visited current
  induction fuel generalizing visited current with
  | zero => rfl
  | succ fuel ih => simp only [findRoot, ih, objectFor_withOperations]

@[simp] theorem collectBases_withOperations :
    (model.withOperations operations).collectBases = model.collectBases := by
  funext start fuel visited current
  induction fuel generalizing visited current with
  | zero => rfl
  | succ fuel ih => simp only [collectBases, ih, objectFor_withOperations]

@[simp] theorem hierarchyRoot_withOperations :
    (model.withOperations operations).hierarchyRoot = model.hierarchyRoot := by
  funext id
  simp only [hierarchyRoot, findRoot_withOperations, walkLimit_withOperations]

@[simp] theorem inheritedProperties_withOperations :
    (model.withOperations operations).inheritedProperties = model.inheritedProperties := by
  funext id
  simp only [inheritedProperties, collectBases_withOperations, walkLimit_withOperations]

@[simp] theorem visitVariants_withOperations :
    (model.withOperations operations).visitVariants = model.visitVariants := by
  funext root hierarchy fuel visited found pending
  induction fuel generalizing visited found pending with
  | zero => rfl
  | succ fuel ih =>
      cases pending with
      | nil => rfl
      | cons id pending => simp only [visitVariants, ih, objectFor_withOperations]

@[simp] theorem variants_withOperations :
    (model.withOperations operations).variants = model.variants := by
  funext root object
  simp only [variants, visitVariants_withOperations]
  rfl

@[simp] theorem resolveWithin_withOperations :
    (model.withOperations operations).resolveWithin = model.resolveWithin := by
  funext fuel id referrer
  induction fuel generalizing id referrer with
  | zero => rfl
  | succ fuel ih =>
      have next : (model.withOperations operations).resolveWithin fuel = model.resolveWithin fuel :=
        funext fun id => funext (ih id)
      simp only [resolveWithin, computeType, roleOf, next, schemaFor_withOperations,
        variants_withOperations, hierarchyRoot_withOperations]

@[simp] theorem resolveUse_withOperations :
    (model.withOperations operations).resolveUse = model.resolveUse := by
  funext id nullable referrer
  simp only [resolveUse, resolveWithin_withOperations, walkLimit_withOperations]

@[simp] theorem resolve_withOperations :
    (model.withOperations operations).resolve = model.resolve := by
  funext id
  simp only [resolve, resolveUse_withOperations]

@[simp] theorem resolveProperty_withOperations :
    (model.withOperations operations).resolveProperty = model.resolveProperty := by
  funext owner property
  simp only [resolveProperty, resolveUse_withOperations]

@[simp] theorem scalarKind_withOperations :
    (model.withOperations operations).scalarKind = model.scalarKind := rfl

@[simp] theorem valuePlanWithin_withOperations :
    (model.withOperations operations).valuePlanWithin = model.valuePlanWithin := by
  funext fuel id referrer
  induction fuel generalizing id referrer with
  | zero => rfl
  | succ fuel ih =>
      simp only [valuePlanWithin, ih, scalarKind_withOperations, schemaFor_withOperations]

@[simp] theorem objectPlan_withOperations :
    (model.withOperations operations).objectPlan = model.objectPlan := by
  have planned : (model.withOperations operations).propertyPlan = model.propertyPlan := by
    funext owner property
    simp only [propertyPlan, valuePlan, valuePlanWithin_withOperations, walkLimit_withOperations]
  funext id object discriminator
  simp only [objectPlan, planned, inheritedProperties_withOperations]

@[simp] theorem jsonPlan_withOperations :
    (model.withOperations operations).jsonPlan = model.jsonPlan := by
  have hierarchy : (model.withOperations operations).hierarchyPlan = model.hierarchyPlan := by
    funext id object typeName role
    cases role <;> simp only [hierarchyPlan, objectPlan_withOperations, objectFor_withOperations]
  funext id
  simp only [jsonPlan, hierarchy, valuePlan, valuePlanWithin_withOperations,
    walkLimit_withOperations, schemaFor_withOperations, resolve_withOperations]

@[simp] theorem elementPlan_withOperations :
    (model.withOperations operations).elementPlan = model.elementPlan := by
  have placed : (model.withOperations operations).placeProperty = model.placeProperty := rfl
  funext id
  simp only [elementPlan, placed, schemaFor_withOperations, hierarchyRoot_withOperations,
    inheritedProperties_withOperations]

@[simp] theorem plan_withOperations :
    (model.withOperations operations).plan = model.plan := by
  funext id format
  simp only [plan, jsonPlan_withOperations, elementPlan_withOperations]

@[simp] theorem xmlClosure_withOperations :
    (model.withOperations operations).xmlClosure = model.xmlClosure := by
  have closed : (model.withOperations operations).closeXml = model.closeXml := by
    funext fuel seen pending
    induction fuel generalizing seen pending with
    | zero => rfl
    | succ fuel ih =>
        cases pending with
        | nil => rfl
        | cons id pending => simp only [closeXml, ih, plan_withOperations]
  funext root
  simp only [xmlClosure, closed]
  rfl

/-- What an operation sends is planned alike. -/
@[simp] theorem callPlan_withOperations :
    (model.withOperations operations).callPlan = model.callPlan := by
  have text : (model.withOperations operations).textSteps = model.textSteps := rfl
  have flattened : (model.withOperations operations).checkFlattened = model.checkFlattened := by
    funext operation id initializers
    simp only [checkFlattened, schemaFor_withOperations, hierarchyRoot_withOperations,
      inheritedProperties_withOperations]
  have binary : (model.withOperations operations).checkBinary = model.checkBinary := rfl
  have plain : (model.withOperations operations).checkText = model.checkText := rfl
  have body : (model.withOperations operations).bodyStep = model.bodyStep := by
    funext operation body
    cases body <;> simp only [bodyStep, flattened, binary, plain, plan_withOperations]
  have parameter : (model.withOperations operations).signatureParameter =
      model.signatureParameter := by
    funext operation parameter
    simp only [signatureParameter, resolveParameter, resolveUse_withOperations]
  funext operation
  simp only [callPlan, signature, bodySteps, text, body, parameter]

/-- What an operation makes of responses is planned alike. -/
@[simp] theorem dispatchTable_withOperations :
    (model.withOperations operations).dispatchTable = model.dispatchTable := by
  have body : (model.withOperations operations).bodyAction = model.bodyAction := by
    funext body
    cases body <;> simp only [bodyAction, plan_withOperations, resolve_withOperations]
  have binding : (model.withOperations operations).headerBinding = model.headerBinding := by
    funext operation headers field
    simp only [headerBinding, scalarKind_withOperations, resolve_withOperations]
  have headers : (model.withOperations operations).joinHeaders = model.joinHeaders := by
    funext operation known added
    simp only [joinHeaders, headerPlan, binding]
  have responses : (model.withOperations operations).addResponses = model.addResponses := by
    funext operation table responses
    induction responses generalizing table with
    | nil => rfl
    | cons response rest ih => simp only [addResponses, addResponse, ih, body, headers]
  funext operation
  simp only [dispatchTable, responses]

@[simp] theorem operationPlan_withOperations :
    (model.withOperations operations).operationPlan = model.operationPlan := by
  funext operation
  simp only [operationPlan, callPlan_withOperations, dispatchTable_withOperations]

@[simp] theorem planSchemas_withOperations :
    (model.withOperations operations).planSchemas = model.planSchemas := by
  have schema : (model.withOperations operations).planSchema = model.planSchema := by
    funext entry
    obtain ⟨id, schema⟩ := entry
    cases schema <;> simp only [planSchema, resolve_withOperations, plan_withOperations]
  simp only [planSchemas, schema]
  rfl

@[simp] theorem elementModels_withOperations :
    (model.withOperations operations).elementModels = model.elementModels := by
  have isObject : (model.withOperations operations).isObject = model.isObject := rfl
  funext plans
  simp only [elementModels, isObject, xmlClosure_withOperations]

@[simp] theorem modelFields_withOperations :
    (model.withOperations operations).modelFields = model.modelFields := by
  have held : (model.withOperations operations).heldModels = model.heldModels := by
    funext owner id
    simp only [heldModels, resolve_withOperations, objectFor_withOperations,
      inheritedProperties_withOperations, resolveProperty_withOperations]
  have leads : (model.withOperations operations).leadsTo = model.leadsTo := by
    funext owner fuel visited pending
    induction fuel generalizing visited pending with
    | zero => rfl
    | succ fuel ih =>
        cases pending with
        | nil => rfl
        | cons id pending => simp only [leadsTo, ih, held]
  have box : (model.withOperations operations).needsBox = model.needsBox := by
    funext owner type
    simp only [needsBox, leads]
    rfl
  have field : (model.withOperations operations).modelField = model.modelField := by
    funext id owner property
    simp only [modelField, box, resolveProperty_withOperations, scalarKind_withOperations]
  funext id left
  simp only [modelFields, field, objectFor_withOperations, inheritedProperties_withOperations]

/-- An object is written alike. -/
@[simp] theorem objectFile_withOperations :
    (model.withOperations operations).objectFile = model.objectFile := by
  have body : ObjectFile.structCode (model.withOperations operations) =
      ObjectFile.structCode model := rfl
  have element : (model.withOperations operations).elementCode = model.elementCode := by
    funext id
    simp only [elementCode, plan_withOperations, modelFields_withOperations]
  funext id asElement
  simp only [objectFile, ObjectFile.plainFile, ObjectFile.variantFile, ObjectFile.hierarchyFile,
    body, element, objectFor_withOperations, resolve_withOperations, modelFields_withOperations]

end Model

variable (model : Model) (operations : List Operation)

/-- All models are written alike. -/
@[simp] theorem ModelFile.all_withOperations :
    ModelFile.all (model.withOperations operations) = ModelFile.all model := by
  have schema : ModelFile.ofSchema (model.withOperations operations) =
      ModelFile.ofSchema model := by
    funext asElements entry
    obtain ⟨id, schema⟩ := entry
    cases schema <;> simp only [ModelFile.ofSchema, Model.objectFile_withOperations]
  funext asElements headers
  simp only [ModelFile.all, schema]
  rfl

/-- An operation of which the plan is known is written alike. -/
@[simp] theorem OperationPlan.methods_withOperations :
    OperationPlan.methods (model.withOperations operations) = OperationPlan.methods model := by
  have body : CallPlan.bodyCode (model.withOperations operations) = CallPlan.bodyCode model := by
    funext plan body
    simp only [CallPlan.bodyCode, Model.objectFor_withOperations, Model.modelFields_withOperations]
  have step : CallPlan.stepCode (model.withOperations operations) = CallPlan.stepCode model := by
    funext plan step
    cases step <;> simp only [CallPlan.stepCode, body]
  funext plan
  simp only [OperationPlan.methods, step]

@[simp] theorem GroupSource.ofGroup_withOperations :
    GroupSource.ofGroup (model.withOperations operations) = GroupSource.ofGroup model := by
  funext configuration group plans
  simp only [GroupSource.ofGroup, ClientCode.ofGroup, OperationPlan.methods_withOperations]
  rfl

end ApiContract
