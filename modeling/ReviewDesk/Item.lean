import ReviewDesk.Identity
import ReviewDesk.Json.Value
import ReviewDesk.Kind
import ReviewDesk.Time.Instant

/-!
Review items: what a producer asks moderators to check. An item is pending until it is claimed, and
claimed by the message that it was posted as.
-/

set_option autoImplicit false
set_option relaxedAutoImplicit false

namespace ReviewDesk

/-- The evidence that goes with an item. -/
structure Attachment where
  fileName : Option String := none
  bytes : List UInt8 := []
  deriving DecidableEq

namespace Attachment

/-- Without bytes there is nothing to post yet. -/
def isEmpty (attachment : Attachment) : Bool := attachment.bytes.isEmpty

end Attachment

structure Item where
  id : ItemId
  kind : Kind
  createdAt : Instant
  /-- The number that the ledger gave the item. -/
  seed : Int64
  /-- The message that the item was claimed with. -/
  target : Option MessageRef := none
  attachment : Attachment := {}
  /-- Business fields, which nobody here looks into. -/
  metadata : Json := .null

namespace Item

def isClaimed (item : Item) : Bool := item.target.isSome

/-- The order in which pending items are served: by age, and by identifier among equally old. -/
def precedes (a b : Item) : Bool :=
  a.createdAt < b.createdAt || (a.createdAt = b.createdAt && !decide (b.id < a.id))

/-- How many seconds the item has been waiting. -/
def waited (item : Item) (now : Instant) : Float := item.createdAt.waited now

end Item

end ReviewDesk
