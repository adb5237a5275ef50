import ReviewDesk.Text.Digits

/-!
Integers read from text: at most one sign, then ASCII digits and nothing else, within the range of
a 64-bit word. An unsigned number takes no minus sign.
-/

set_option autoImplicit false
set_option relaxedAutoImplicit false

namespace ReviewDesk.Text

/-- A nonempty run of digits that fills the text. -/
def digits? (cs : List Char) : Option Nat :=
  match Digit.span cs with
  | ([], _) => none
  | (ds, []) => some (Digits.value ds)
  | (_, _ :: _) => none

/-- An unsigned 64-bit number, with an optional plus sign. -/
def unsigned64? (s : String) : Option Nat :=
  let number := match s.toList with
    | '+' :: cs => digits? cs
    | cs => digits? cs
  number.filter (· < UInt64.size)

def int64OfInt? (n : Int) : Option Int64 :=
  if Int64.minValue.toInt ≤ n ∧ n ≤ Int64.maxValue.toInt then some (Int64.ofInt n) else none

/-- A signed 64-bit number, with an optional sign. -/
def signed64? (s : String) : Option Int64 :=
  let number := match s.toList with
    | '-' :: cs => (digits? cs).map fun n ↦ -(n : Int)
    | '+' :: cs => (digits? cs).map Int.ofNat
    | cs => (digits? cs).map Int.ofNat
  number.bind int64OfInt?

theorem int64OfInt?_toInt (n : Int64) : int64OfInt? n.toInt = some n := by
  rw [int64OfInt?, if_pos ⟨n.minValue_le_toInt, n.toInt_le⟩, Int64.ofInt_toInt]

end ReviewDesk.Text
