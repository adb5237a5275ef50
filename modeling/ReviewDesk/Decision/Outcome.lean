import ReviewDesk.Json.Value
import ReviewDesk.Text.Blank
import ReviewDesk.Text.Casing

/-!
What the decision service answered. Only the status and the ticket are looked at, and an answer
without them is an outcome too.
-/

set_option autoImplicit false
set_option relaxedAutoImplicit false

namespace ReviewDesk

structure Outcome where
  status : String
  ticket : Option String
  payload : Json

namespace Outcome

/-- The text under a name, trimmed, unless it is blank or no text. -/
def field? (payload : Json) (name : String) : Option String :=
  (((payload.get? name).bind Json.text?).map Text.trim).filter fun text ↦ !text.isEmpty

def ofPayload (payload : Json) : Outcome :=
  ⟨(field? payload "status").getD "", field? payload "ticket", payload⟩

def startsWith (outcome : Outcome) (word : String) : Bool :=
  word.toList.isPrefixOf (Text.lowerAscii outcome.status).toList

def isApproved (outcome : Outcome) : Bool := outcome.startsWith "approved"

def isRejected (outcome : Outcome) : Bool := outcome.startsWith "rejected"

end Outcome

end ReviewDesk
