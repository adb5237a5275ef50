import ReviewDesk.Text.Blank
import ReviewDesk.Text.Casing

/-!
ASCII letter case against blanks. Lowering moves the capitals alone (`toNat_toLower`), so it makes
nothing blank that was not (`isBlank_toLower`), and a text can be trimmed before it or after it
(`trimChars_map_toLower`).
-/

set_option autoImplicit false
set_option relaxedAutoImplicit false

namespace ReviewDesk.Text

theorem toNat_toLower (c : Char) :
    c.toLower.toNat = if 65 ≤ c.toNat ∧ c.toNat ≤ 90 then c.toNat + 32 else c.toNat := by
  have hupper : c.val ≥ 'A'.val ∧ c.val ≤ 'Z'.val ↔ 65 ≤ c.toNat ∧ c.toNat ≤ 90 := Iff.rfl
  by_cases h : c.val ≥ 'A'.val ∧ c.val ≤ 'Z'.val
  · obtain ⟨hlow, hhigh⟩ := hupper.mp h
    have hlower : c.toLower.val = c.val + ('a'.val - 'A'.val) := congrArg Char.val (dif_pos h)
    have hval : (c.val + ('a'.val - 'A'.val)).toNat = (c.toNat + 32) % UInt32.size :=
      UInt32.toNat_add c.val 32
    have hsmall : (c.toNat + 32) % UInt32.size = c.toNat + 32 :=
      Nat.mod_eq_of_lt (Nat.lt_of_le_of_lt (Nat.add_le_add_right hhigh 32) (by decide))
    rw [if_pos ⟨hlow, hhigh⟩]
    exact (congrArg UInt32.toNat hlower).trans (hval.trans hsmall)
  · rw [if_neg (mt hupper.mpr h)]
    exact congrArg Char.toNat (dif_neg h)

theorem toLower_eq_self {c : Char} (h : ¬(65 ≤ c.toNat ∧ c.toNat ≤ 90)) : c.toLower = c := by
  have hnat : c.toLower.toNat = c.toNat := by rw [toNat_toLower, if_neg h]
  exact Char.toNat_inj.mp hnat

@[simp] theorem isBlank_toLower (c : Char) : isBlank c.toLower = isBlank c := by
  unfold isBlank
  rw [toNat_toLower]
  generalize c.toNat = n
  split
  · rw [Bool.eq_iff_iff]
    simp
    omega
  · rfl

theorem dropBlanks_map_toLower (cs : List Char) :
    dropBlanks (cs.map Char.toLower) = (dropBlanks cs).map Char.toLower := by
  have hblank : isBlank ∘ Char.toLower = isBlank := funext isBlank_toLower
  rw [dropBlanks, List.dropWhile_map, hblank, dropBlanks]

theorem trimChars_map_toLower (cs : List Char) :
    trimChars (cs.map Char.toLower) = (trimChars cs).map Char.toLower := by
  rw [trimChars, dropBlanksEnd, dropBlanks_map_toLower, ← List.map_reverse, dropBlanks_map_toLower,
    ← List.map_reverse, trimChars, dropBlanksEnd]

end ReviewDesk.Text
