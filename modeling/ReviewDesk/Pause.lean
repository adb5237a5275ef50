/-!
Pauses. Whoever pauses asks for a number of milliseconds, and no pause is longer than thirty years,
however much was asked for. A limit on a wait is not a pause and is kept to as it is.
-/

set_option autoImplicit false
set_option relaxedAutoImplicit false

namespace ReviewDesk.Pause

/-- The longest pause: thirty years of 365 days, in milliseconds. -/
def longest : Nat := 946080000000

/-- How long a pause of `asked` milliseconds is. -/
def length (asked : Nat) : Nat := if asked ≤ longest then asked else longest

end ReviewDesk.Pause
