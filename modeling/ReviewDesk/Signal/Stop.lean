/-!
The stop signal. It is observed in two ways: whether a stop was requested, and whether a wait for
one is over, which it also is when the owner of the signal has gone.
-/

set_option autoImplicit false
set_option relaxedAutoImplicit false

namespace ReviewDesk

structure Stop where
  requested : Bool := false
  ownerGone : Bool := false
  deriving DecidableEq

namespace Stop

def trigger (s : Stop) : Stop := { s with requested := true }

def dropOwner (s : Stop) : Stop := { s with ownerGone := true }

/-- Whether whoever waits for a stop goes on. -/
def resolves (s : Stop) : Bool := s.requested || s.ownerGone

end Stop

end ReviewDesk
