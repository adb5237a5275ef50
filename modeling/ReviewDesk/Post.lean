import ReviewDesk.ActionRef
import ReviewDesk.Item
import ReviewDesk.TicketCode

/-!
Posts: what the messaging platform gets to show for one item, with the references behind its two
buttons.
-/

set_option autoImplicit false
set_option relaxedAutoImplicit false

namespace ReviewDesk

structure Post where
  item : ItemId
  kind : Kind
  ticket : String
  createdAt : Instant
  fileName : String
  attachment : List UInt8
  metadata : Json
  approve : ActionRef
  reject : ActionRef

namespace Post

/-- The name to show for the attachment: the producer's, unless it is blank. -/
def fileNameOf (item : Item) : String :=
  let name := Text.trim (item.attachment.fileName.getD "")
  if name.isEmpty then item.kind.defaultFileName else name

def ofItem (item : Item) : Post where
  item := item.id
  kind := item.kind
  ticket := TicketCode.encode item.kind item.seed item.id.text
  createdAt := item.createdAt
  fileName := fileNameOf item
  attachment := item.attachment.bytes
  metadata := item.metadata
  approve := ⟨item.kind, .approve, item.id⟩
  reject := ⟨item.kind, .reject, item.id⟩

end Post

end ReviewDesk
