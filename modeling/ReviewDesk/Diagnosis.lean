import ReviewDesk.Text.Blank
import ReviewDesk.Text.Casing

/-!
The two forms of diagnostic output.
-/

set_option autoImplicit false
set_option relaxedAutoImplicit false

namespace ReviewDesk

inductive LogFormat where
  | json
  | pretty
  deriving DecidableEq

namespace LogFormat

/-- Any spelling of `json` by ASCII case, and blanks around it, selects JSON; all else is pretty. -/
def ofText (text : String) : LogFormat :=
  if Text.lowerAscii (Text.trim text) = "json" then json else pretty

end LogFormat

end ReviewDesk
