import Mathlib.Data.List.DropRight
import ReviewDesk.Text.Blank

/-!
Trimming on the characters of a text. Taking the blanks off either end never touches the other, so
the order does not matter and doing it twice changes nothing (`trimChars_trimChars`); characters
that are not blank keep everything between them (`trimChars_append`).
-/

set_option autoImplicit false
set_option relaxedAutoImplicit false

namespace ReviewDesk.Text

theorem dropBlanksEnd_dropBlanksEnd (cs : List Char) :
    dropBlanksEnd (dropBlanksEnd cs) = dropBlanksEnd cs :=
  List.rdropWhile_idempotent isBlank cs

/-- What is not blank stays when blanks are taken off the end behind it. -/
theorem dropBlanksEnd_concat_append (lead : List Char) {last : Char} (h : isBlank last = false)
    (rest : List Char) :
    dropBlanksEnd (lead ++ last :: rest) = lead ++ last :: dropBlanksEnd rest := by
  have hdrop : dropBlanks (rest.reverse ++ last :: lead.reverse) =
      dropBlanks rest.reverse ++ last :: lead.reverse := by
    induction rest.reverse with
    | nil => simp [dropBlanks, h]
    | cons c cs ih =>
      by_cases hc : isBlank c
      · simpa [dropBlanks, hc] using ih
      · simp [dropBlanks, hc]
  rw [dropBlanksEnd, dropBlanksEnd, List.reverse_append, List.reverse_cons, List.append_assoc,
    List.singleton_append, hdrop]
  simp

/-- A lead of at least one character that starts and ends with no blank survives trimming. -/
theorem trimChars_append {first last : Char} (hfirst : isBlank first = false)
    (hlast : isBlank last = false) (middle rest : List Char) :
    trimChars (first :: middle ++ last :: rest) =
      first :: middle ++ last :: dropBlanksEnd rest := by
  have hstart : dropBlanks (first :: middle ++ last :: rest) =
      first :: middle ++ last :: rest := by
    simp [dropBlanks, hfirst]
  rw [trimChars, hstart, dropBlanksEnd_concat_append _ hlast]

/-- The blanks at one end do not matter for those at the other. -/
theorem dropBlanks_dropBlanksEnd (cs : List Char) :
    dropBlanks (dropBlanksEnd cs) = dropBlanksEnd (dropBlanks cs) := by
  induction cs with
  | nil => rfl
  | cons c cs ih =>
    by_cases hc : isBlank c
    · have hfront : dropBlanks (c :: cs) = dropBlanks cs := List.dropWhile_cons_of_pos hc
      by_cases hall : ∀ x ∈ cs, isBlank x
      · have hnil : dropBlanks cs = [] := List.dropWhile_eq_nil_iff.mpr hall
        have hend : dropBlanksEnd (c :: cs) = [] :=
          List.rdropWhile_eq_nil_iff.mpr (List.forall_mem_cons.mpr ⟨hc, hall⟩)
        rw [hfront, hnil, hend]
        rfl
      · simp only [not_forall, Bool.not_eq_true] at hall
        obtain ⟨last, hmem, hlast⟩ := hall
        obtain ⟨lead, rest, rfl⟩ := List.append_of_mem hmem
        have hend : dropBlanksEnd (c :: (lead ++ last :: rest)) =
            c :: dropBlanksEnd (lead ++ last :: rest) := by
          rw [← List.cons_append, dropBlanksEnd_concat_append _ hlast,
            dropBlanksEnd_concat_append _ hlast, List.cons_append]
        rw [hfront, hend, ← ih]
        exact List.dropWhile_cons_of_pos hc
    · rw [Bool.not_eq_true] at hc
      have hfront : dropBlanks (c :: cs) = c :: cs := by simp [dropBlanks, hc]
      have hend : dropBlanksEnd (c :: cs) = c :: dropBlanksEnd cs :=
        dropBlanksEnd_concat_append [] hc cs
      rw [hfront, hend]
      simp [dropBlanks, hc]

theorem trimChars_dropBlanksEnd (cs : List Char) : trimChars (dropBlanksEnd cs) = trimChars cs := by
  rw [trimChars, dropBlanks_dropBlanksEnd, dropBlanksEnd_dropBlanksEnd, trimChars]

theorem trimChars_trimChars (cs : List Char) : trimChars (trimChars cs) = trimChars cs := by
  have hfront : dropBlanks (dropBlanks cs) = dropBlanks cs := List.dropWhile_idempotent isBlank cs
  rw [trimChars, trimChars, dropBlanks_dropBlanksEnd, hfront, dropBlanksEnd_dropBlanksEnd]

end ReviewDesk.Text
