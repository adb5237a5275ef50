import ReviewDesk.Proofs.Text.Decimal
import ReviewDesk.Text.Bounded

/-!
Which texts are numbers, and which. Zeros in front do not matter (`IsDecimal`); an unsigned number may
have a plus sign and a signed one either sign, and both have to fit in 64 bits. Reading takes exactly
these texts (`unsigned64?_eq_some_iff`, `signed64?_eq_some_iff`).
-/

set_option autoImplicit false
set_option relaxedAutoImplicit false

namespace ReviewDesk.Text

/-- Characters that are the digits of a number, with any zeros in front. -/
def IsDecimal (cs : List Char) (n : Nat) : Prop :=
  ∃ ds, ds ≠ [] ∧ cs = Digits.text ds ∧ Digits.value ds = n

theorem digits?_eq_some_iff {cs : List Char} {n : Nat} : digits? cs = some n ↔ IsDecimal cs n := by
  have hwhole := Digits.text_span cs
  constructor
  · intro h
    unfold digits? at h
    split at h
    · cases h
    · next ds hfull hspan =>
      rw [hspan] at hwhole
      exact ⟨ds, hfull, by simpa using hwhole.symm, Option.some.inj h⟩
    · cases h
  · rintro ⟨ds, hfull, rfl, rfl⟩
    rw [digits?, Digits.span_text]
    cases ds with
    | nil => exact absurd rfl hfull
    | cons d ds => rfl

theorem not_isDecimal_sign {sign : Char} (h : Digit.ofChar? sign = none) (cs : List Char) (n : Nat) :
    ¬IsDecimal (sign :: cs) n := by
  rintro ⟨ds, hfull, htext, -⟩
  cases ds with
  | nil => exact hfull rfl
  | cons d ds =>
    obtain rfl : sign = d.char := (List.cons.inj htext).1
    cases (Digit.ofChar?_char d).symm.trans h

/-- A text that is an unsigned number of 64 bits, with a plus sign or without. -/
structure IsUnsigned (text : String) (n : Nat) : Prop where
  spelled : ∃ cs, (text.toList = cs ∨ text.toList = '+' :: cs) ∧ IsDecimal cs n
  bounded : n < UInt64.size

/-- A text that is a signed number of 64 bits, with a sign or without. -/
def IsSigned (text : String) (n : Int64) : Prop :=
  ∃ cs size, IsDecimal cs size ∧
    ((text.toList = cs ∨ text.toList = '+' :: cs) ∧ n.toInt = size ∨
      text.toList = '-' :: cs ∧ n.toInt = -(size : Int))

theorem unsigned64?_eq_some_iff {text : String} {n : Nat} :
    unsigned64? text = some n ↔ IsUnsigned text n := by
  have hplus : Digit.ofChar? '+' = none := by decide
  rw [unsigned64?, Option.filter_eq_some_iff, decide_eq_true_iff]
  constructor
  · rintro ⟨hspelled, hbounded⟩
    refine ⟨?_, hbounded⟩
    split at hspelled
    · next cs htext => exact ⟨cs, Or.inr htext, digits?_eq_some_iff.mp hspelled⟩
    · exact ⟨_, Or.inl rfl, digits?_eq_some_iff.mp hspelled⟩
  · rintro ⟨⟨cs, htext, hdecimal⟩, hbounded⟩
    refine ⟨?_, hbounded⟩
    rcases htext with htext | htext
    · split
      · next rest hsign =>
        rw [← htext, hsign] at hdecimal
        exact absurd hdecimal (not_isDecimal_sign hplus rest n)
      · rw [htext]
        exact digits?_eq_some_iff.mpr hdecimal
    · rw [htext]
      exact digits?_eq_some_iff.mpr hdecimal

theorem int64OfInt?_eq_some_iff {i : Int} {n : Int64} : int64OfInt? i = some n ↔ n.toInt = i := by
  constructor
  · intro h
    unfold int64OfInt? at h
    split at h
    · next hrange =>
      obtain rfl := Option.some.inj h
      exact Int64.toInt_ofInt_of_le hrange.1 (Int.lt_of_le_of_lt hrange.2 (by decide))
    · cases h
  · rintro rfl
    exact int64OfInt?_toInt n

theorem signed64?_eq_some_iff {text : String} {n : Int64} :
    signed64? text = some n ↔ IsSigned text n := by
  have hplus : Digit.ofChar? '+' = none := by decide
  have hminus : Digit.ofChar? '-' = none := by decide
  rw [signed64?, Option.bind_eq_some_iff]
  simp only [int64OfInt?_eq_some_iff]
  constructor
  · rintro ⟨i, hspelled, hn⟩
    split at hspelled
    · next cs htext =>
      obtain ⟨_, hlifted, rfl⟩ := Option.map_eq_some_iff.mp hspelled
      obtain ⟨size, hsize, hlift⟩ := Option.bind_eq_some_iff.mp hlifted
      obtain rfl := Option.some.inj hlift
      exact ⟨cs, size, digits?_eq_some_iff.mp hsize, Or.inr ⟨htext, hn⟩⟩
    · next cs htext =>
      obtain ⟨size, hsize, rfl⟩ := Option.map_eq_some_iff.mp hspelled
      exact ⟨cs, size, digits?_eq_some_iff.mp hsize, Or.inl ⟨Or.inr htext, hn⟩⟩
    · obtain ⟨size, hsize, rfl⟩ := Option.map_eq_some_iff.mp hspelled
      exact ⟨_, size, digits?_eq_some_iff.mp hsize, Or.inl ⟨Or.inl rfl, hn⟩⟩
  · rintro ⟨cs, size, hdecimal, ⟨htext | htext, hn⟩ | ⟨htext, hn⟩⟩
    · refine ⟨size, ?_, hn⟩
      split
      · next rest hsign =>
        rw [← htext, hsign] at hdecimal
        exact absurd hdecimal (not_isDecimal_sign hminus rest size)
      · next rest hsign =>
        rw [← htext, hsign] at hdecimal
        exact absurd hdecimal (not_isDecimal_sign hplus rest size)
      · rw [htext, digits?_eq_some_iff.mpr hdecimal]
        rfl
    · refine ⟨size, ?_, hn⟩
      rw [htext]
      exact congrArg (Option.map _) (digits?_eq_some_iff.mpr hdecimal)
    · refine ⟨-(size : Int), ?_, hn⟩
      simp only [htext, digits?_eq_some_iff.mpr hdecimal]
      rfl

end ReviewDesk.Text
