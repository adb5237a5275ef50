import ReviewDesk.Json.Record
import ReviewDesk.Rights

/-!
Rights tables as JSON objects. The names are the reviewers' numbers as JSON writes whole numbers,
without escapes; of several members for one reviewer the last counts.
-/

set_option autoImplicit false
set_option relaxedAutoImplicit false

namespace ReviewDesk

open Json

namespace ReviewerId

def ofName? (name : Quoted) : Option ReviewerId :=
  (name.plain?.bind Numeral.ofChars?).bind fun numeral ↦
    (numeral.integer?.bind Text.int64OfInt?).map ReviewerId.mk

end ReviewerId

namespace Rights

def entry? (member : Quoted × Node) : Option (ReviewerId × Bool) := do
  let reviewer ← ReviewerId.ofName? member.1
  let allowed ← member.2.bool?
  some (reviewer, allowed)

def ofNode? : Node → Option Rights
  | .object members => (members.mapM entry?).map ofList
  | _ => none

def ofText? (text : String) : Option Rights := (Node.ofText? text).bind ofNode?

def toJson (rights : Rights) : Json :=
  ofMembers (rights.entries.map fun entry ↦ (entry.1.text, Json.bool entry.2))

end Rights

end ReviewDesk
