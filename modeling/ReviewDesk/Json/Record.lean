import ReviewDesk.Json.Node
import ReviewDesk.Text.Bounded

/-!
Reading the parts of a tree as what they are wanted to be. A record is an object whose known names
stand at most once each, with unknown names passed over, or an array of its first fields in order.
-/

set_option autoImplicit false
set_option relaxedAutoImplicit false

namespace ReviewDesk.Json.Node

def text? : Node → Option String
  | .string quoted => quoted.text?
  | _ => none

def bool? : Node → Option Bool
  | .bool value => some value
  | _ => none

def int? : Node → Option Int
  | .number numeral => numeral.integer?
  | _ => none

def int64? (node : Node) : Option Int64 := node.int?.bind Text.int64OfInt?

/-- A whole number from 0 up to, and not including, `bound`. -/
def natBelow? (bound : Nat) (node : Node) : Option Nat :=
  node.int?.bind fun n ↦ if 0 ≤ n ∧ n.toNat < bound then some n.toNat else none

def items? : Node → Option (List Node)
  | .array items => some items
  | _ => none

def listOf? {α : Type} (read? : Node → Option α) (node : Node) : Option (List α) :=
  node.items?.bind fun items ↦ items.mapM read?

/-- What is read, or nothing where null is written. -/
def optional? {α : Type} (read? : Node → Option α) : Node → Option (Option α)
  | .null => some none
  | node => (read? node).map some

/-- The fields found so far, by name; a second one of a known name is refused. -/
def addField? (names : List String) (found : List (String × Node)) (member : Quoted × Node) :
    Option (List (String × Node)) := do
  let name ← member.1.text?
  if names.contains name then
    if found.any (·.1 == name) then none else some ((name, member.2) :: found)
  else some found

/-- The fields of a record whose fields have the given names, in that order. -/
def fields? (names : List String) : Node → Option (List (String × Node))
  | .object members => members.foldlM (addField? names) []
  | .array items => if items.length ≤ names.length then some (names.zip items) else none
  | _ => none

/-- The value of a field, which has to be there. -/
def required? {α : Type} (fields : List (String × Node)) (name : String)
    (read? : Node → Option α) : Option α :=
  (fields.find? (·.1 == name)).bind fun field ↦ read? field.2

/-- The value of a field, or the given one if the field is not there. -/
def defaulted? {α : Type} (fields : List (String × Node)) (name : String) (fallback : α)
    (read? : Node → Option α) : Option α :=
  match fields.find? (·.1 == name) with
  | some field => read? field.2
  | none => some fallback

end ReviewDesk.Json.Node
