import ReviewDesk.Decimal.Shortest
import ReviewDesk.Json.Value

/-!
Numbers as JSON writes them, and the values they stand for. A numeral without a point and an
exponent that fits in 64 bits is exact. Any other is a double: as many of its digits as a 64-bit
word holds are scaled once by a power of ten, and a result beyond the doubles is refused.
-/

set_option autoImplicit false
set_option relaxedAutoImplicit false

namespace ReviewDesk.Json

/-- A number as written: sign, digits before and after the point, and the exponent with its sign. -/
structure Numeral where
  negative : Bool
  whole : List Digit
  fraction : List Digit
  exponent : Option (Bool × List Digit)
  deriving DecidableEq

namespace Numeral

def readExponent? : List Char → Option (Option (Bool × List Digit) × List Char)
  | [] => some (none, [])
  | c :: cs =>
    if c = 'e' ∨ c = 'E' then
      let (negative, cs) := match cs with
        | '-' :: cs => (true, cs)
        | '+' :: cs => (false, cs)
        | cs => (false, cs)
      match Digit.span cs with
      | ([], _) => none
      | (ds, rest) => some (some (negative, ds), rest)
    else some (none, c :: cs)

def readFraction? : List Char → Option (List Digit × List Char)
  | '.' :: cs => match Digit.span cs with
    | ([], _) => none
    | (ds, rest) => some (ds, rest)
  | cs => some ([], cs)

/-- Reads a numeral at the front of a text. The digits before the point start with a zero only if
there is no other. -/
def read? (cs : List Char) : Option (Numeral × List Char) := do
  let (negative, cs) := match cs with
    | '-' :: cs => (true, cs)
    | cs => (false, cs)
  let (whole, cs) := Digit.span cs
  if whole = [] ∨ (whole.length ≠ 1 ∧ whole.head? = some .zero) then none
  else
    let (fraction, cs) ← readFraction? cs
    let (exponent, cs) ← readExponent? cs
    some (⟨negative, whole, fraction, exponent⟩, cs)

/-- A numeral that fills the whole text. -/
def ofChars? (cs : List Char) : Option Numeral := (read? cs).bind fun (n, rest) ↦
  if rest.isEmpty then some n else none

def text (n : Numeral) : List Char :=
  (if n.negative then ['-'] else []) ++ Digits.text n.whole
    ++ (if n.fraction.isEmpty then [] else '.' :: Digits.text n.fraction)
    ++ (match n.exponent with
      | none => []
      | some (negative, ds) => 'e' :: (if negative then ['-'] else []) ++ Digits.text ds)

/-- Appends digits to a number for as long as 64 bits hold it, and gives the digits left. -/
def absorb : Nat → List Digit → Nat × List Digit
  | n, [] => (n, [])
  | n, d :: ds => if 10 * n + d.val < UInt64.size then absorb (10 * n + d.val) ds else (n, d :: ds)

/-- Divides by a power of ten, by at most 10^308 at a time. -/
def divideByTens (x : Float) (e : Nat) : Float :=
  if h : e ≤ 308 then x / Float.ofScientific 1 false e
  else if x == 0 then x
  else divideByTens (x / Float.ofScientific 1 false 308) (e - 308)
termination_by e
decreasing_by omega

/-- A 64-bit number times a power of ten, if that is a double. -/
def scale? (n : Nat) (e : Int) : Option Float :=
  let x := n.toUInt64.toFloat
  if e < 0 then some (divideByTens x (-e).toNat)
  else if 308 < e then if x == 0 then some x else none
  else
    let y := x * Float.ofScientific 1 false e.toNat
    if y.isInf then none else some y

/-- The double that a numeral stands for. An exponent that does not fit in 31 bits makes a zero, or
is refused if it is not negative and there is a digit other than zero to scale. -/
def double? (n : Numeral) : Option Float :=
  let (sum, left) := absorb 0 n.whole
  let (sum, unread) := absorb sum n.fraction
  let point : Int := left.length - (n.fraction.length - unread.length : Nat)
  let size := match n.exponent with
    | none => scale? sum point
    | some (negative, ds) =>
      let e := Digits.value ds
      if 0x80000000 ≤ e then if sum ≠ 0 ∧ ¬negative then none else some 0
      else scale? sum (if negative then point - e else point + e)
  size.map fun x ↦ if n.negative then -x else x

/-- The exact value of a numeral without point and exponent, where 64 bits hold it. A negative zero
has none. -/
def integer? (n : Numeral) : Option Int :=
  if n.fraction ≠ [] ∨ n.exponent.isSome then none
  else
    let size := Digits.value n.whole
    if n.negative then if 0 < size ∧ size ≤ 0x8000000000000000 then some (-size) else none
    else if size < UInt64.size then some size else none

def value? (n : Numeral) : Option Number :=
  match n.integer? with
  | some value => some (.whole value)
  | none => n.double?.map fun x ↦ .double x.toBits

def ofInt (n : Int) : Numeral := ⟨n < 0, Digits.ofNat n.natAbs, [], none⟩

/-- Up to sixteen places the shortest digits are written out with a point; beyond, and below one
part in a hundred thousand, with an exponent. -/
def ofScientific (negative : Bool) (x : Decimal.Scientific) : Numeral :=
  let count : Int := x.digits.length
  if count ≤ x.point ∧ x.point ≤ 16 then
    ⟨negative, x.digits ++ List.replicate (x.point - count).toNat .zero, [.zero], none⟩
  else if 0 < x.point ∧ x.point ≤ 16 then
    ⟨negative, x.digits.take x.point.toNat, x.digits.drop x.point.toNat, none⟩
  else if -5 < x.point ∧ x.point ≤ 0 then
    ⟨negative, [.zero], List.replicate (-x.point).toNat .zero ++ x.digits, none⟩
  else
    let e := x.point - 1
    ⟨negative, x.digits.take 1, x.digits.drop 1, some (e < 0, Digits.ofNat e.natAbs)⟩

def ofDouble (bits : UInt64) : Numeral :=
  let x := Decimal.Binary64.ofBits bits
  if x.significand = 0 then ⟨x.negative, [.zero], [.zero], none⟩
  else ofScientific x.negative (Decimal.shortest x)

def ofNumber : Number → Numeral
  | .whole value => ofInt value
  | .double bits => ofDouble bits

end Numeral

end ReviewDesk.Json
