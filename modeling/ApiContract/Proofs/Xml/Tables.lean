import ApiContract.Proofs.Json.Tables
import ApiContract.Proofs.Xml.Children

/-!
Writing and reading elements on shared tables: here too plans are all that the tables are asked for.
-/

namespace ApiContract.XmlForm

open Planning
open Xml (Element)

variable {model : Model} {law : TableLaw}

theorem nestedElement_steady (id : SchemaId) : (nestedElement model id).Steady model.tableLaw := by
  apply (JsonForm.nestedPlan_steady id .xml).bind
  intro plan _
  cases plan with
  | element plan => exact steady_pure plan
  | _ => exact steady_fail _

section Writing
variable {writeItem : ItemContent → String → Value → Planning ValueError Element}

theorem writeChild_steady (each : ∀ content name value, (writeItem content name value).Steady law)
    (child : ChildPlan) (value : Value) : (writeChild writeItem child value).Steady law := by
  rw [writeChild.eq_def]
  split
  next =>
    cases value with
    | list items =>
        exact (steady_mapM items fun value _ => each _ _ value).bind fun _ _ => steady_pure _
    | _ => exact steady_fail _
  next =>
    cases value with
    | map entries =>
        exact (steady_mapM entries fun item _ => each _ item.1 item.2).bind
          fun _ _ => steady_pure _
    | _ => exact steady_fail _
  next => exact (each _ _ value).bind fun _ _ => steady_pure _

theorem writeChildren_steady
    (each : ∀ content name value, (writeItem content name value).Steady law) (typeName : String)
    (fields : List (String × Value)) (children : List ChildPlan) :
    (writeChildren writeItem typeName fields children).Steady law := by
  induction children with
  | nil => exact steady_pure []
  | cons child rest ih =>
      rw [writeChildren]
      split
      next =>
        exact (writeChild_steady each child _).bind fun _ _ => ih.bind fun _ _ => steady_pure _
      next =>
        split
        next => exact steady_fail _
        next => exact ih

end Writing

theorem writeItem_steady {fuel : Nat}
    (nested : ∀ plan name value, (writeElement model fuel plan name value).Steady model.tableLaw)
    (content : ItemContent) (name : String) (value : Value) :
    (writeItem model fuel content name value).Steady model.tableLaw := by
  cases content with
  | value kind => exact (steady_lift _).bind fun _ _ => steady_pure _
  | model schema => exact (nestedElement_steady schema).bind fun plan _ => nested plan name value

theorem writeElement_steady (fuel : Nat) (plan : ElementPlan) (name : String) (value : Value) :
    (writeElement model fuel plan name value).Steady model.tableLaw := by
  induction fuel generalizing plan name value with
  | zero => exact steady_fail _
  | succ fuel ih =>
      cases value with
      | record fields =>
          rw [writeElement_record]
          exact (steady_lift _).bind fun _ _ => (steady_lift _).bind fun _ _ =>
            (writeChildren_steady (writeItem_steady ih) _ _ _).bind fun _ _ => steady_pure _
      | _ => exact steady_fail _

section Reading
variable {readItem : ItemContent → Element → Planning ValueError Value}

theorem readChild_steady (each : ∀ content element, (readItem content element).Steady law)
    (child : ChildPlan) (element : Element) : (readChild readItem child element).Steady law := by
  rw [readChild.eq_def]
  split
  next =>
    split
    next =>
      exact (steady_mapM _ fun element _ => each _ element).bind fun _ _ => steady_pure _
    next => exact steady_pure _
  next =>
    dsimp only
    split
    next => exact steady_pure _
    next =>
      exact (steady_mapM _ fun element _ => each _ element).bind fun _ _ => steady_pure _
  next =>
    split
    next =>
      exact (steady_mapM _ fun element _ =>
        (each _ element).bind fun _ _ => steady_pure _).bind fun _ _ => steady_pure _
    next => exact steady_pure _
  next =>
    split
    next => exact (each _ _).bind fun _ _ => steady_pure _
    next => exact steady_pure _

theorem readChildren_steady (each : ∀ content element, (readItem content element).Steady law)
    (typeName : String) (element : Element) (children : List ChildPlan) :
    (readChildren readItem typeName element children).Steady law := by
  induction children with
  | nil => exact steady_pure []
  | cons child rest ih =>
      rw [readChildren]
      apply (readChild_steady each child element).bind
      intro found _
      cases found with
      | some value => exact (steady_pure _).bind fun _ _ => ih.bind fun _ _ => steady_pure _
      | none => exact (steady_lift _).bind fun _ _ => ih.bind fun _ _ => steady_pure _

end Reading

theorem readItem_steady {fuel : Nat}
    (nested : ∀ plan element, (readElement model fuel plan element).Steady model.tableLaw)
    (content : ItemContent) (element : Element) :
    (readItem model fuel content element).Steady model.tableLaw := by
  cases content with
  | value kind => exact steady_lift _
  | model schema => exact (nestedElement_steady schema).bind fun plan _ => nested plan element

theorem readElement_steady (fuel : Nat) (plan : ElementPlan) (element : Element) :
    (readElement model fuel plan element).Steady model.tableLaw := by
  induction fuel generalizing plan element with
  | zero => exact steady_fail _
  | succ fuel ih =>
      rw [readElement_succ]
      exact (steady_lift _).bind fun _ _ => (steady_lift _).bind fun _ _ =>
        (readChildren_steady (readItem_steady ih) _ _ _).bind fun _ _ => steady_pure _

theorem write_steady (plan : ElementPlan) (value : Value) :
    (write model (.element plan) value).Steady model.tableLaw :=
  (writeElement_steady _ plan plan.name value).bind fun _ _ => steady_pure _

theorem read_steady (plan : ElementPlan) (text : String) :
    (read model (.element plan) text).Steady model.tableLaw := by
  apply (steady_lift _).bind
  intro document _
  split
  next => exact readElement_steady _ plan document
  next => exact steady_fail _

end ApiContract.XmlForm
