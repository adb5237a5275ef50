/-!
Doubles as exact numbers: the bits of a double name a sign, a significand and a power of two.
-/

set_option autoImplicit false
set_option relaxedAutoImplicit false

namespace ReviewDesk.Decimal

/-- The finite number `(-1)^negative * significand * 2^exponent` that the bits of a double stand
for. -/
structure Binary64 where
  negative : Bool
  significand : Nat
  exponent : Int
  /-- Whether the next smaller double is only half as far away as the next larger one. -/
  atPower : Bool

namespace Binary64

/-- The value of a significand's leading bit, which is not written down. The smallest doubles have
none. -/
def leadingBit : Nat := 0x10000000000000

def ofBits (bits : UInt64) : Binary64 :=
  let n := bits.toNat
  let fraction := n % leadingBit
  let biased : Nat := n / leadingBit % 0x800
  let negative := 0x8000000000000000 ≤ n
  if biased = 0 then ⟨negative, fraction, -1074, false⟩
  else ⟨negative, fraction + leadingBit, (biased : Int) - 1075, fraction = 0 ∧ 1 < biased⟩

end Binary64

end ReviewDesk.Decimal
