import ApiContract.Proofs.Plan.Closure
import ApiContract.Proofs.Value.Failures
import ApiContract.Proofs.Xml.Children
import ApiContract.Proofs.Xml.Returns

/-!
How writing and reading XML can fail. Where the closure of an object succeeds, every object that
its elements lead to has a plan, so writing fails by the value only, and reading by the document:
by a text in it or by its markup.
-/

namespace ApiContract

namespace Xml

/-- What can be said against a document as markup. -/
inductive Fault : String → Prop
  | malformed : Fault malformed
  | secondRoot : Fault "document has more than one root"
  | noRoot : Fault "document has no root element"
  | cutOff : Fault "document ended inside an element"
  | entity (name : String) : Fault ("unknown entity &" ++ name ++ ";")
  | otherRoot (expected found : String) :
      Fault ("expected root element <" ++ expected ++ ">, found <" ++ found ++ ">")

end Xml

/-- The failure lies in a document: in what its texts stand for, or in its markup. -/
def ValueError.OfDocument (e : ValueError) : Prop :=
  e.OfText ∨ ∃ reason, e = .xml reason ∧ Xml.Fault reason

theorem ValueError.OfValue.ofDocument {e : ValueError} (ofValue : e.OfValue) : e.OfDocument :=
  .inl (.inl ofValue)

namespace Xml

end Xml

namespace XmlForm

open Planning
open Xml (Element)

variable {model : Model} {ways : ValueError → Prop}

section Writing
variable {writeItem : ItemContent → String → Value → Planning ValueError Element}

end Writing

/-- Everything that the elements of an object lead to has a plan. -/
def Closed (model : Model) (root : SchemaId) : Prop :=
  ∀ schema, model.XmlReachable root schema → ∃ plan, model.planOf schema .xml = .ok (.element plan)

section Reading
variable {readItem : ItemContent → Element → Planning ValueError Value}

end Reading

end XmlForm

end ApiContract
