import ReviewDesk.Decimal.Binary64
import ReviewDesk.Text.Digits

/-!
The fewest decimal digits that read back as the same double and, of those, the digits nearest to
it. For one digit, two digits and so on the two neighbours of the number on that decimal grid are
tried against the interval of reals that round to the double; seventeen digits always suffice.
-/

set_option autoImplicit false
set_option relaxedAutoImplicit false

namespace ReviewDesk.Decimal

/-- The number `0.d₁d₂… * 10^point`. -/
structure Scientific where
  digits : List Digit
  point : Int

/-- A fraction scaled by a power of ten. -/
def scaled (num den : Nat) (k : Int) : Nat × Nat :=
  if 0 ≤ k then (num * Nat.pow 10 k.toNat, den) else (num, den * Nat.pow 10 (-k).toNat)

/-- The interval of reals that round to a positive double: its value and its ends, all over four
times the denominator, and whether the ends belong to it. -/
structure Rounding where
  low : Nat
  mid : Nat
  high : Nat
  den : Nat
  closed : Bool

namespace Rounding

def ofBinary (x : Binary64) : Rounding :=
  let (up, den) :=
    if 0 ≤ x.exponent then (Nat.pow 2 x.exponent.toNat, 4)
    else (1, 4 * Nat.pow 2 (-x.exponent).toNat)
  let m := 4 * x.significand
  ⟨(m - if x.atPower then 1 else 2) * up, m * up, (m + 2) * up, den, x.significand % 2 == 0⟩

/-- Whether `c * 10^k` rounds to the double. -/
def admits (r : Rounding) (c : Nat) (k : Int) : Bool :=
  let (c, unit) := scaled c 1 k
  let point := c * r.den
  let (low, high) := (r.low * unit, r.high * unit)
  if r.closed then low ≤ point && point ≤ high else low < point && point < high

/-- The better of the two neighbours on the grid of multiples of `10^k`, if one rounds to the
double. -/
def neighbour? (r : Rounding) (k : Int) : Option Nat :=
  let (num, den) := scaled r.mid r.den (-k)
  let below := num / den
  let above := below + 1
  let fits (c : Nat) : Bool := 0 < c && r.admits c k
  match fits below, fits above with
  | true, true => some (if 2 * (num % den) ≤ den then below else above)
  | true, false => some below
  | false, true => some above
  | false, false => none

/-- The power of ten just above the number. -/
def point (r : Rounding) : Int :=
  (Digits.ofNat (r.mid * Nat.pow 10 400 / r.den)).length - 400

/-- Tries grids of ever more digits. -/
def search (r : Rounding) : Nat → Int → Nat × Int
  | 0, k => (r.mid / r.den, k)
  | tries + 1, k => match r.neighbour? k with
    | some c => (c, k)
    | none => search r tries (k - 1)

end Rounding

/-- The shortest decimal that reads back as a positive double. -/
def shortest (x : Binary64) : Scientific :=
  let r := Rounding.ofBinary x
  let (c, k) := r.search 18 (r.point - 1)
  let digits := Digits.ofNat c
  ⟨digits, digits.length + k⟩

end ReviewDesk.Decimal
