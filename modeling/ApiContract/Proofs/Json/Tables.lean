import ApiContract.Proofs.Memo.Plans
import ApiContract.Value.JsonForm

/-!
Writing and reading on shared tables: all they ask the tables for are plans, so what they give does
not depend on what was planned before.
-/

namespace ApiContract.JsonForm

open Planning

variable {model : Model} {law : TableLaw}

theorem nestedPlan_steady (id : SchemaId) (format : WireFormat) :
    (nestedPlan model id format).Steady model.tableLaw :=
  (Model.plan_steady id format).mapError ValueError.model

section Writing
variable {writeValue : ValuePlan → Value → Planning ValueError Json}

theorem writeProperties_steady (each : ∀ plan value, (writeValue plan value).Steady law)
    (typeName : String) (fields : List (String × Value)) (members : List (String × Json))
    (properties : List PropertyPlan) :
    (writeProperties writeValue typeName fields members properties).Steady law := by
  induction properties generalizing members with
  | nil => exact steady_pure members
  | cons property rest ih =>
      rw [writeProperties]
      split
      next =>
        split
        next => exact ih members
        next =>
          split
          next => exact ih _
          next => exact steady_fail _
      next =>
        split
        next => exact ih members
        next => exact steady_fail _
      next => exact (each _ _).bind fun document _ => ih _

theorem writeObject_steady (each : ∀ plan value, (writeValue plan value).Steady law)
    (plan : ObjectPlan) (fields : List (String × Value)) :
    (writeObject writeValue plan fields).Steady law :=
  (writeProperties_steady each _ _ _ _).bind fun _ _ => steady_pure _

end Writing

theorem writeWithin_steady (fuel : Nat) (plan : WirePlan) (value : Value) :
    (writeWithin model fuel plan value).Steady model.tableLaw := by
  induction fuel generalizing plan value with
  | zero => exact steady_fail _
  | succ fuel ih =>
      have each := fun plan value => ih (.value plan) value
      cases plan with
      | object plan =>
          cases value with
          | record fields => exact writeObject_steady each plan fields
          | variant discriminator value => exact ih (.object plan) value
          | _ => exact steady_fail _
      | hierarchy plan =>
          cases value with
          | record fields => exact writeObject_steady each plan.base fields
          | variant discriminator value =>
              simp only [writeWithin]
              split
              next => exact (nestedPlan_steady _ _).bind fun nested _ => ih nested value
              next =>
                cases value with
                | record fields =>
                    exact (writeProperties_steady each _ _ _ _).bind fun _ _ => steady_pure _
                | _ => exact steady_fail _
          | _ => exact steady_fail _
      | value plan =>
          cases plan with
          | scalar kind => exact steady_lift _
          | list element =>
              cases value with
              | list items =>
                  exact (steady_mapM items fun item _ => each element item).bind
                    fun _ _ => steady_pure _
              | _ => exact steady_fail _
          | dictionary entry =>
              cases value with
              | map entries =>
                  exact (steady_mapM entries fun item _ =>
                    (each entry item.2).bind fun _ _ => steady_pure _).bind
                      fun _ _ => steady_pure _
              | _ => exact steady_fail _
          | reference schema =>
              exact (nestedPlan_steady _ _).bind fun nested _ => ih nested value
      | element plan => exact steady_fail _
      | raw format => exact steady_fail _

section Reading
variable {readValue : ValuePlan → Json → Planning ValueError Value}

theorem readProperties_steady (each : ∀ plan document, (readValue plan document).Steady law)
    (typeName : String) (members : List (String × Json)) (properties : List PropertyPlan) :
    (readProperties readValue typeName members properties).Steady law := by
  induction properties with
  | nil => exact steady_pure []
  | cons property rest ih =>
      have read : ∀ document, (readValue property.value document >>= fun value =>
          readProperties readValue typeName members rest >>= fun fields =>
            pure ((property.name, value) :: fields)).Steady law := fun document =>
        (each property.value document).bind fun _ _ => ih.bind fun _ _ => steady_pure _
      simp only [readProperties]
      split
      next =>
        split
        next => exact ih.bind fun _ _ => steady_pure _
        next =>
          split
          next => exact read _
          next =>
            split
            next => exact steady_fail _
            next => exact ih
      next => exact read _
      next =>
        split
        next => exact read _
        next =>
          split
          next => exact steady_fail _
          next => exact ih

theorem readObject_steady (each : ∀ plan document, (readValue plan document).Steady law)
    (plan : ObjectPlan) (members : List (String × Json)) :
    (readObject readValue plan members).Steady law :=
  (readProperties_steady each _ _ _).bind fun _ _ => steady_pure _

end Reading

theorem readWithin_steady (fuel : Nat) (plan : WirePlan) (document : Json) :
    (readWithin model fuel plan document).Steady model.tableLaw := by
  induction fuel generalizing plan document with
  | zero => exact steady_fail _
  | succ fuel ih =>
      have each := fun plan document => ih (.value plan) document
      cases plan with
      | object plan =>
          cases document with
          | object members => exact readObject_steady each plan members
          | _ => exact steady_fail _
      | hierarchy plan =>
          cases document with
          | object members =>
              simp only [readWithin]
              split
              next =>
                split
                next =>
                  exact (nestedPlan_steady _ _).bind fun nested _ =>
                    (ih nested _).bind fun _ _ => steady_pure _
                next => exact (readObject_steady each _ _).bind fun _ _ => steady_pure _
              next => exact readObject_steady each plan.base members
          | _ => exact steady_fail _
      | value plan =>
          cases plan with
          | scalar kind => exact steady_lift _
          | list element =>
              cases document with
              | array items =>
                  exact (steady_mapM items fun item _ => each element item).bind
                    fun _ _ => steady_pure _
              | _ => exact steady_fail _
          | dictionary entry =>
              cases document with
              | object members =>
                  exact (steady_mapM members fun item _ =>
                    (each entry item.2).bind fun _ _ => steady_pure _).bind
                      fun _ _ => steady_pure _
              | _ => exact steady_fail _
          | reference schema =>
              exact (nestedPlan_steady _ _).bind fun nested _ => ih nested document
      | element plan => exact steady_fail _
      | raw format => exact steady_fail _

theorem write_steady (plan : WirePlan) (value : Value) :
    (write model plan value).Steady model.tableLaw := writeWithin_steady _ plan value

theorem read_steady (plan : WirePlan) (document : Json) :
    (read model plan document).Steady model.tableLaw := readWithin_steady _ plan document

end ApiContract.JsonForm
