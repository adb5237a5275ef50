import ReviewDesk.Item
import ReviewDesk.Json.Record
import ReviewDesk.Time.Written

/-!
Items as JSON. Identifier, kind, time and ledger number have to be there; target, attachment and
metadata may be left out, and target and file name may be null. A kind is its name, alone or as the
one member of an object, with null.
-/

set_option autoImplicit false
set_option relaxedAutoImplicit false

namespace ReviewDesk

open Json

def Kind.ofNode? : Node → Option Kind
  | .string name => name.text?.bind Kind.ofName?
  | .object [(name, .null)] => name.text?.bind Kind.ofName?
  | _ => none

def Instant.ofNode? (node : Node) : Option Instant := node.text?.bind Instant.ofText?

namespace MessageRef

def ofNode? (node : Node) : Option MessageRef := do
  let fields ← node.fields? ["channel", "message_id"]
  let channel ← Node.required? fields "channel" Node.int64?
  let message ← Node.required? fields "message_id" Node.int64?
  some ⟨⟨channel⟩, message.toInt⟩

def toJson (ref : MessageRef) : Json :=
  ofMembers [("channel", ofInt ref.channel.number.toInt), ("message_id", ofInt ref.message)]

end MessageRef

namespace Attachment

def byte? (node : Node) : Option UInt8 := (node.natBelow? 256).map Nat.toUInt8

def ofNode? (node : Node) : Option Attachment := do
  let fields ← node.fields? ["file_name", "bytes"]
  let fileName ← Node.defaulted? fields "file_name" none (Node.optional? Node.text?)
  let bytes ← Node.defaulted? fields "bytes" [] (Node.listOf? byte?)
  some ⟨fileName, bytes⟩

def toJson (attachment : Attachment) : Json :=
  let name := attachment.fileName.toList.map fun name ↦ ("file_name", string name)
  ofMembers (name ++ [("bytes", array (attachment.bytes.map fun byte ↦ ofNat byte.toNat))])

end Attachment

namespace Item

/-- Reads an item. Its own object counts toward the depth that a document may have. -/
def ofNode? (node : Node) : Option Item := do
  let fields ← node.fields?
    ["id", "kind", "created_at", "ticket_seed", "dispatch_target", "attachment", "metadata"]
  let id ← Node.required? fields "id" Node.text?
  let kind ← Node.required? fields "kind" Kind.ofNode?
  let createdAt ← Node.required? fields "created_at" Instant.ofNode?
  let seed ← Node.required? fields "ticket_seed" Node.int64?
  let target ← Node.defaulted? fields "dispatch_target" none (Node.optional? MessageRef.ofNode?)
  let attachment ← Node.defaulted? fields "attachment" {} Attachment.ofNode?
  let metadata ← Node.defaulted? fields "metadata" null (Node.value? (maxDepth - 1))
  some ⟨⟨id⟩, kind, createdAt, seed, target, attachment, metadata⟩

def ofText? (text : String) : Option Item := (Node.ofText? text).bind ofNode?

def toJson (item : Item) : Json :=
  let target := item.target.toList.map fun ref ↦ ("dispatch_target", ref.toJson)
  ofMembers ([("id", string item.id.text), ("kind", string item.kind.name),
    ("created_at", string item.createdAt.text), ("ticket_seed", ofInt item.seed.toInt)]
    ++ target ++ [("attachment", item.attachment.toJson), ("metadata", item.metadata)])

end Item

end ReviewDesk
