import ReviewDesk.Time.Calendar

/-!
Points in time: whole seconds since the start of 1970 in UTC and nanoseconds within the second. A
leap second is the second before it with a billion or more nanoseconds.
-/

set_option autoImplicit false
set_option relaxedAutoImplicit false

namespace ReviewDesk

structure Instant where
  seconds : Int
  nanos : Nat
  deriving DecidableEq

namespace Instant

def days (t : Instant) : Int := t.seconds.fdiv 86400

def secondOfDay (t : Instant) : Int := t.seconds - t.days * 86400

instance : LT Instant := ⟨fun a b ↦ a.seconds < b.seconds ∨ a.seconds = b.seconds ∧ a.nanos < b.nanos⟩

instance (a b : Instant) : Decidable (a < b) :=
  inferInstanceAs (Decidable (a.seconds < b.seconds ∨ a.seconds = b.seconds ∧ a.nanos < b.nanos))

/-- The instant so many milliseconds after the start of 1970. -/
def ofMillis (ms : Nat) : Instant := ⟨ms / 1000, ms % 1000 * 1000000⟩

/-- A leap second counts when only one of the two times of day lies beyond it. -/
def leapBetween (start stop : Instant) : Int :=
  if start.secondOfDay < stop.secondOfDay then if 1000000000 ≤ start.nanos then 1 else 0
  else if stop.secondOfDay < start.secondOfDay then if 1000000000 ≤ stop.nanos then -1 else 0
  else 0

/-- The nanoseconds from one instant to another. -/
def nanosBetween (start stop : Instant) : Int :=
  (stop.seconds - start.seconds + leapBetween start stop) * 1000000000
    + (stop.nanos - start.nanos : Int)

/-- The seconds from one instant to another in whole milliseconds, cut toward zero, and not below
zero. -/
def waited (start stop : Instant) : Float :=
  let ms := (nanosBetween start stop).tdiv 1000000
  if ms ≤ 0 then 0 else ms.toNat.toUInt64.toFloat / 1000

end Instant

end ReviewDesk
