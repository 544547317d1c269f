import ApiContract.Proofs.Memo.Types

/-!
Planning on shared tables: the plan of a schema is the same whatever the tables hold, and the JSON
plan of an object is kept only once its type is.
-/

namespace ApiContract.Model

open Planning

variable {model : Model}

theorem resolve_holds (id : SchemaId) (known : List TypeKey) :
    Holds model.tableLaw (Resolves (model.resolve id) id) known (model.resolve id) :=
  resolveUse_holds id false id known

theorem fresh_resolve (id : SchemaId) :
    (model.resolve id).fresh = (fun type => ⟨type, false⟩) <$> model.typeOf id :=
  fresh_resolveUse id false id

theorem resolveUse_steady (id : SchemaId) (nullable : Bool) (referrer : String) :
    (model.resolveUse id nullable referrer).Steady model.tableLaw := fun known =>
  (resolveUse_holds id nullable referrer known).weaken fun _ _ resolved => resolved.1

/-- Behind the type of an object nothing is asked, and before it nothing is kept. -/
theorem jsonPlan_holds (id : SchemaId) (known : List TypeKey) :
    Holds model.tableLaw
      (fun result known' => result = (model.jsonPlan id).fresh ∧
        (((model.schema? id).bind Schema.object?).isSome →
          ∀ plan, result = .ok plan → ⟨id, false⟩ ∈ known'))
      known (model.jsonPlan id) := by
  cases found : model.schema? id with
  | none =>
      simp only [jsonPlan, schemaFor, found, liftM_error_bind]
      exact ⟨rfl, fun isObject => by simp at isObject⟩
  | some schema =>
      cases schema with
      | object object =>
          simp only [jsonPlan, schemaFor, found, liftM_ok_bind]
          apply Holds.bind
          apply (resolve_holds id known).weaken
          intro result known' resolved
          cases result with
          | error e =>
              exact ⟨by rw [fresh_bind, ← resolved.1]; rfl, fun _ _ same => by cases same⟩
          | ok target =>
              have kept : ⟨id, false⟩ ∈ known' := resolved.2 target rfl
              rw [fresh_bind, ← resolved.1, ok_bind]
              obtain ⟨type, nullable⟩ := target
              cases type with
              | model name schema role => exact ⟨rfl, fun _ _ _ => kept⟩
              | _ => cases model.valuePlan id id <;> exact ⟨rfl, fun _ _ _ => kept⟩
      | _ =>
          simp only [jsonPlan, schemaFor, found, liftM_ok_bind]
          cases model.valuePlan id id <;>
            exact ⟨rfl, fun isObject => by simp [Schema.object?] at isObject⟩

/-- A plan that is not kept yet is made and kept. -/
def makePlan (model : Model) (id : SchemaId) : WireFormat → Planning ModelError WirePlan
  | .json => model.jsonPlan id
  | .xml => .lift (WirePlan.element <$> model.elementPlan id)

theorem plan_eq (id : SchemaId) (format : WireFormat) :
    model.plan id format = findPlan ⟨id, format⟩ fun
      | some kept => pure kept
      | none => model.makePlan id format >>= fun made => keepPlan ⟨id, format⟩ made pure := by
  unfold plan
  congr 1
  funext found
  cases found with
  | some kept => rfl
  | none =>
      cases format with
      | json => rfl
      | xml => cases computed : model.elementPlan id <;> simp [makePlan, computed] <;> rfl

theorem planOf_eq (id : SchemaId) (format : WireFormat) :
    model.planOf id format = (model.makePlan id format).fresh := by
  rw [planOf, plan_eq]
  change ((model.makePlan id format) >>= fun made => keepPlan ⟨id, format⟩ made pure).fresh = _
  rw [fresh_bind]
  cases (model.makePlan id format).fresh <;> rfl

theorem makePlan_holds (id : SchemaId) (format : WireFormat) (known : List TypeKey) :
    Holds model.tableLaw
      (fun result known' => result = model.planOf id format ∧
        ∀ plan, result = .ok plan → ∀ need ∈ model.tableLaw.underPlan ⟨id, format⟩, need ∈ known')
      known (model.makePlan id format) := by
  cases format with
  | xml => exact ⟨(planOf_eq id .xml).symm, fun _ _ need needed => by simp [tableLaw] at needed⟩
  | json =>
      apply (jsonPlan_holds id known).weaken
      intro result known' outcome
      refine ⟨outcome.1.trans (planOf_eq id .json).symm, fun plan same need needed => ?_⟩
      simp only [tableLaw, true_and] at needed
      split at needed
      next isObject =>
        have equal : need = ⟨id, false⟩ := by simpa using needed
        exact equal ▸ outcome.2 isObject plan same
      next => cases needed

theorem tableLaw_plan {key : PlanKey} {value : WirePlan} :
    model.tableLaw.plan key = some value ↔ model.planOf key.schema key.format = .ok value := by
  cases planned : model.planOf key.schema key.format <;>
    simp [tableLaw, planned, Except.toOption]

theorem plan_steady (id : SchemaId) (format : WireFormat) :
    (model.plan id format).Steady model.tableLaw := by
  intro known
  change Holds model.tableLaw (fun result _ => result = model.planOf id format) known _
  rw [plan_eq]
  refine ⟨fun value allowed => (tableLaw_plan.mp allowed).symm, ?_⟩
  apply Holds.bind
  apply (makePlan_holds id format known).weaken
  intro result known' outcome
  cases result with
  | error e => exact outcome.1
  | ok made => exact ⟨tableLaw_plan.mpr outcome.1.symm, outcome.2 made rfl, outcome.1⟩

/-- On lawful tables planning gives the plan that it gives alone. -/
theorem run_plan {memo : Memo} (lawful : memo.Obeys model.tableLaw) (id : SchemaId)
    (format : WireFormat) : ((model.plan id format).run memo).1 = model.planOf id format :=
  ((plan_steady id format).run lawful).1

theorem closeXml_steady (fuel : Nat) (seen pending : List SchemaId) :
    (model.closeXml fuel seen pending).Steady model.tableLaw := by
  induction fuel generalizing seen pending with
  | zero => exact steady_pure seen
  | succ fuel ih =>
      cases pending with
      | nil => exact steady_pure seen
      | cons id pending =>
          rw [closeXml]
          split
          next => exact ih seen pending
          next => exact (plan_steady id .xml).bind fun plan _ => ih _ _

end ApiContract.Model
