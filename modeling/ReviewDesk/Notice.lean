import ReviewDesk.Text.Blank
import ReviewDesk.Text.Casing
import ReviewDesk.Text.Lowercase

/-!
Notices that producers put on the bus, and which of the two loops a notice concerns. A notice
carries no work: it only says that one of the loops should look at the whole state again.
-/

set_option autoImplicit false
set_option relaxedAutoImplicit false

namespace ReviewDesk.Notice

/-- The loop that a notice concerns. -/
inductive Topic where
  | dispatch
  | accessSync
  deriving DecidableEq

/-- How a notice about access starts. -/
def accessLead : String := "access_sync:"

/-- A notice concerns access if it starts, after blanks and whatever its ASCII case, with
`access_sync:`; every other notice concerns dispatch. -/
def topic (payload : String) : Topic :=
  let head := (Text.dropBlanks payload.toList).take accessLead.length
  if Text.sameIgnoringCase head accessLead.toList then .accessSync else .dispatch

/-- The notice for an item: its kind in lower case, a colon and its identifier. An item whose
identifier is blank is not announced. -/
def dispatch? (kind id : String) : Option String :=
  let id := Text.trim id
  if id.isEmpty then none
  else
    let kind := Text.lower (Text.trim kind)
    some ((if kind.isEmpty then "unknown" else kind) ++ ":" ++ id)

def accessSync (reason : String) : String := accessLead ++ Text.trim reason

/-- The part of a payload that is kept for diagnosis: its first 180 characters. -/
def excerpt (payload : String) : String := String.ofList (payload.toList.take 180)

end ReviewDesk.Notice
