import ReviewDesk.Proofs.Text.Casing
import ReviewDesk.Text.Lowercase

/-!
What lowering a whole text cannot bring forth. No run of the case data leads onto a blank or onto an
ASCII capital (`lowerRuns_clear`), and the capitals themselves are on a run. So the lowered text has
no ASCII capitals (`map_toLower_lower`), and it starts with no blank if the text did not
(`exists_lower_cons`).
-/

set_option autoImplicit false
set_option relaxedAutoImplicit false

namespace ReviewDesk.Text

/-- The blanks, as ranges of code points. -/
def blankRanges : List (Nat × Nat) :=
  [(0x09, 0x0D), (0x20, 0x20), (0x85, 0x85), (0xA0, 0xA0), (0x1680, 0x1680), (0x2000, 0x200A),
    (0x2028, 0x2029), (0x202F, 0x202F), (0x205F, 0x205F), (0x3000, 0x3000)]

theorem isBlank_iff {c : Char} : isBlank c = true ↔ inRanges blankRanges c = true := by
  simp [isBlank, inRanges, blankRanges]
  omega

theorem lowerRuns_clear : ∀ run ∈ lowerRuns, ∀ range ∈ (65, 90) :: blankRanges,
    run.2.1 + run.2.2.2 < range.1 ∨ range.2 < run.1 + run.2.2.2 := by
  decide +kernel

theorem toNat_ofNat_le (n : Nat) : (Char.ofNat n).toNat = n ∨ (Char.ofNat n).toNat = 0 := by
  by_cases hvalid : n.isValidChar
  · exact Or.inl (congrArg Char.toNat (dif_pos hvalid))
  · exact Or.inr (congrArg Char.toNat (dif_neg hvalid))

/-- A character that is lowered lands on neither a blank nor a capital. -/
theorem lowerChar_clear {c : Char} (h : lowerChar c ≠ c) {range : Nat × Nat}
    (hrange : range ∈ (65, 90) :: blankRanges) :
    (lowerChar c).toNat < range.1 ∨ range.2 < (lowerChar c).toNat := by
  have hpositive : ∀ range ∈ (65, 90) :: blankRanges, 0 < range.1 := by decide
  have hstart := hpositive range hrange
  rw [lowerChar] at h ⊢
  split at h
  · rename_i run hfound
    have hclear := lowerRuns_clear run (List.mem_of_find?_eq_some hfound) range hrange
    have hin := List.find?_some hfound
    simp only [Bool.and_eq_true, decide_eq_true_eq] at hin
    rcases toNat_ofNat_le (c.toNat + run.2.2.2).toNat with heq | heq <;> rw [heq] <;> omega
  · exact absurd rfl h

theorem isBlank_lowerChar {c : Char} (h : isBlank c = false) : isBlank (lowerChar c) = false := by
  by_cases hsame : lowerChar c = c
  · rw [hsame, h]
  · rw [Bool.eq_false_iff, ne_eq, isBlank_iff, inRanges, List.any_eq_true]
    rintro ⟨range, hrange, hin⟩
    have hclear := lowerChar_clear hsame (List.mem_cons_of_mem _ hrange)
    simp only [Bool.and_eq_true, decide_eq_true_eq] at hin
    omega

theorem lowerChar_ne_of_capital {c : Char} (h : 65 ≤ c.toNat ∧ c.toNat ≤ 90) :
    lowerChar c ≠ c := by
  -- The capitals are the first run of the case data.
  have hfind : (lowerRuns.find? fun run ↦ run.1 ≤ c.toNat && c.toNat ≤ run.2.1 &&
      (c.toNat - run.1) % run.2.2.1 == 0) = some (0x41, 0x5A, 1, 32) := by
    apply List.find?_cons_of_pos
    simp [h.1, h.2, Nat.mod_one]
  intro hsame
  rw [lowerChar, hfind] at hsame
  have hnat := congrArg Char.toNat hsame
  rcases toNat_ofNat_le (c.toNat + 32 : Int).toNat with heq | heq <;> rw [heq] at hnat <;> omega

/-- No ASCII capital is left after lowering. -/
theorem toLower_lowerChar (c : Char) : (lowerChar c).toLower = lowerChar c := by
  apply toLower_eq_self
  intro hcapital
  by_cases hsame : lowerChar c = c
  · exact lowerChar_ne_of_capital (hsame ▸ hcapital) hsame
  · have hclear := lowerChar_clear hsame List.mem_cons_self
    omega

/-- What one character becomes within a text. -/
theorem exists_lowerFrom_cons (before : List Char) (c : Char) (cs : List Char) :
    ∃ first rest, lowerFrom before (c :: cs) = first :: rest ++ lowerFrom (c :: before) cs ∧
      (∀ d ∈ first :: rest, d.toLower = d) ∧ (isBlank c = false → isBlank first = false) := by
  by_cases hsigma : c = 'Σ'
  · obtain ⟨form, hform, hlower, hblank⟩ : ∃ form,
        (if meetsLetter before && !meetsLetter cs then 'ς' else 'σ') = form ∧
          form.toLower = form ∧ isBlank form = false := by
      split
      · exact ⟨'ς', rfl, by decide, by decide⟩
      · exact ⟨'σ', rfl, by decide, by decide⟩
    refine ⟨form, [], ?_, by simpa using hlower, fun _ ↦ hblank⟩
    rw [lowerFrom, if_pos hsigma, hform]
  · by_cases hdot : c = 'İ'
    · have hdots : ∀ d ∈ ['i', '\u0307'], d.toLower = d :=
        List.forall_mem_cons.mpr ⟨by decide, List.forall_mem_singleton.mpr (by decide)⟩
      refine ⟨'i', ['\u0307'], ?_, hdots, fun _ ↦ by decide⟩
      rw [lowerFrom, if_neg hsigma, if_pos hdot]
    · refine ⟨lowerChar c, [], ?_, by simpa using toLower_lowerChar c, isBlank_lowerChar⟩
      rw [lowerFrom, if_neg hsigma, if_neg hdot]

theorem toLower_of_mem_lowerFrom {before cs : List Char} {c : Char}
    (h : c ∈ lowerFrom before cs) : c.toLower = c := by
  induction cs generalizing before with
  | nil => cases h
  | cons d cs ih =>
    obtain ⟨first, rest, hsplit, hlower, -⟩ := exists_lowerFrom_cons before d cs
    rw [hsplit, List.mem_append] at h
    exact h.elim (hlower c) ih

theorem toLower_of_mem_lower {s : String} {c : Char} (h : c ∈ (lower s).toList) :
    c.toLower = c := by
  rw [lower, String.toList_ofList] at h
  exact toLower_of_mem_lowerFrom h

theorem map_toLower_lower (s : String) : (lower s).toList.map Char.toLower = (lower s).toList := by
  have hid : (lower s).toList.map Char.toLower = (lower s).toList.map id :=
    List.map_congr_left fun c hc ↦ toLower_of_mem_lower hc
  rw [hid, List.map_id]

/-- A text that starts with no blank is lowered to one that starts with none. -/
theorem exists_lower_cons {s : String} {c : Char} {cs : List Char} (hs : s.toList = c :: cs)
    (hc : isBlank c = false) :
    ∃ first rest, (lower s).toList = first :: rest ∧ isBlank first = false := by
  obtain ⟨first, rest, hsplit, -, hblank⟩ := exists_lowerFrom_cons [] c cs
  refine ⟨first, rest ++ lowerFrom [c] cs, ?_, hblank hc⟩
  rw [lower, String.toList_ofList, hs, hsplit, List.cons_append]

end ReviewDesk.Text
