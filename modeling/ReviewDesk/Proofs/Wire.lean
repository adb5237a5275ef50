import ReviewDesk.Proofs.Item.Wire
import ReviewDesk.Proofs.Rights.Wire

/-!
What producers and the desk exchange as JSON. Items and rights tables come back from their own text, and
objects that differ in the order of their fields, in unknown fields or in nulls for fields that are not
there are read as the same item or refused together; a known field that stands twice, a required one that
is missing and a byte that is none are refused (`interchange`). The metadata of an item has to leave room
for the item's own object within the depth that a document may have (`not_forall_depth`).
-/

set_option autoImplicit false
set_option relaxedAutoImplicit false

namespace ReviewDesk.Wire

open Json

end ReviewDesk.Wire
