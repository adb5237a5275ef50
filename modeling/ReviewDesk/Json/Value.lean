/-!
JSON values. A whole number that fits in 64 bits stays exact and every other number is a double;
the members of an object have distinct names in ascending order, so that equal objects are equal
values.
-/

set_option autoImplicit false
set_option relaxedAutoImplicit false

namespace ReviewDesk

namespace Json

inductive Number where
  | whole (value : Int)
  /-- A double, by its bits. -/
  | double (bits : UInt64)
  deriving DecidableEq

end Json

inductive Json where
  | null
  | bool (value : Bool)
  | number (value : Json.Number)
  | string (value : String)
  | array (items : List Json)
  | object (members : List (String × Json))

namespace Json

/-- Puts a member in its place by name; an earlier one of that name gives way. -/
def putMember (name : String) (value : Json) : List (String × Json) → List (String × Json)
  | [] => [(name, value)]
  | (other, held) :: rest =>
    if name = other then (name, value) :: rest
    else if name < other then (name, value) :: (other, held) :: rest
    else (other, held) :: putMember name value rest

/-- The object with the given members, of which the last one of a name counts. -/
def ofMembers (members : List (String × Json)) : Json :=
  object (members.foldl (fun held member ↦ putMember member.1 member.2 held) [])

def ofInt (n : Int) : Json := number (.whole n)

def ofNat (n : Nat) : Json := number (.whole n)

def get? (name : String) : Json → Option Json
  | object members => (members.find? fun member ↦ member.1 == name).map (·.2)
  | _ => none

def text? : Json → Option String
  | string value => some value
  | _ => none

end Json

end ReviewDesk
