import ReviewDesk.Text.Blank
import ReviewDesk.Text.Digits

/-!
Decimal texts. The shortest digits of a number read as the number is usually printed, and so do its
last digits, as many as it has.
-/

set_option autoImplicit false
set_option relaxedAutoImplicit false

namespace ReviewDesk

theorem Digit.char_eq_digitChar (d : Digit) : d.char = Nat.digitChar d.val := by
  revert d
  decide

theorem Digit.isBlank_char (d : Digit) : Text.isBlank d.char = false := by
  revert d
  decide

namespace Digits

theorem text_ofNat (n : Nat) : text (ofNat n) = Nat.toDigits 10 n := by
  induction n using ofNat.induct with
  | case1 n hlt =>
    rw [ofNat, dif_pos hlt, Nat.toDigits_of_lt_base hlt, ← Digit.char_eq_digitChar ⟨n, hlt⟩]
    rfl
  | case2 n hle ih =>
    have hdigit : n % 10 < 10 := Nat.mod_lt _ (by decide)
    rw [ofNat, dif_neg hle, Nat.toDigits_of_base_le (by decide) (Nat.le_of_not_lt hle), ← ih,
      ← Digit.char_eq_digitChar ⟨n % 10, hdigit⟩]
    exact List.map_append

theorem span_text (ds : List Digit) : Digit.span (text ds) = (ds, []) := by
  have hend : Digit.span (text ds ++ []) = (ds, []) := span_text_append ds rfl
  rwa [List.append_nil] at hend

/-- A number that is just so wide loses nothing. -/
theorem fixed_eq_ofNat {width n : Nat} (hle : Nat.pow 10 width ≤ n)
    (hlt : n < Nat.pow 10 (width + 1)) : fixed (width + 1) n = ofNat n := by
  induction width generalizing n with
  | zero =>
    have hten : n < 10 := hlt
    rw [fixed, fixed, ofNat, dif_pos hten]
    simp only [List.nil_append, List.cons.injEq, Fin.mk.injEq, and_true]
    exact Nat.mod_eq_of_lt hten
  | succ width ih =>
    have hten : Nat.pow 10 (width + 1) = Nat.pow 10 width * 10 := rfl
    have hhundred : Nat.pow 10 (width + 1 + 1) = Nat.pow 10 (width + 1) * 10 := rfl
    have hpos : 0 < Nat.pow 10 width := Nat.pow_pos (by decide)
    have hnot : ¬n < 10 := by omega
    calc fixed (width + 1 + 1) n
        = ofNat (n / 10) ++ [⟨n % 10, Nat.mod_lt _ (by decide)⟩] := by
          rw [fixed, ih (by omega) (by omega)]
      _ = ofNat n := by rw [ofNat.eq_1 n, dif_neg hnot]

end Digits

namespace Text

theorem ofNat_eq_toString (n : Nat) : ofNat n = toString n := by
  rw [ofNat, Digits.text_ofNat]
  rfl

theorem ofInt_eq_toString (n : Int) : ofInt n = toString n := by
  rw [ofInt, ofNat_eq_toString]
  cases n with
  | ofNat n => rfl
  | negSucc n => exact if_pos (Int.negSucc_lt_zero n)

end Text

end ReviewDesk
