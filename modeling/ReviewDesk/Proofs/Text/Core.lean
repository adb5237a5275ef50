import ReviewDesk.Proofs.Text.Trim

/-!
What trimming leaves of a text, said without trimming: its core, the part that neither starts nor
ends with a blank and has nothing but blanks around it. A text has one core, and trimming finds it
(`trimChars_eq_iff`), so blanks that are put around a text or taken away from there make no
difference (`trimChars_surround`).
-/

set_option autoImplicit false
set_option relaxedAutoImplicit false

namespace ReviewDesk.Text

/-- Neither the first character nor the last one is blank. -/
def IsBare (cs : List Char) : Prop :=
  (∀ c ∈ cs.head?, isBlank c = false) ∧ ∀ c ∈ cs.getLast?, isBlank c = false

/-- A text is its core with blanks around it. -/
structure IsCore (core cs : List Char) : Prop where
  bare : IsBare core
  blanks : ∃ lead trail : List Char, (∀ c ∈ lead, isBlank c) ∧ (∀ c ∈ trail, isBlank c) ∧
    cs = lead ++ core ++ trail

theorem head?_dropBlanks (cs : List Char) : ∀ c ∈ (dropBlanks cs).head?, isBlank c = false := by
  intro c hc
  have hfirst := List.head?_dropWhile_not isBlank cs
  rw [Option.mem_def, dropBlanks] at hc
  rwa [hc] at hfirst

theorem getLast?_dropBlanksEnd (cs : List Char) :
    ∀ c ∈ (dropBlanksEnd cs).getLast?, isBlank c = false := by
  rw [dropBlanksEnd, List.getLast?_reverse]
  exact head?_dropBlanks cs.reverse

theorem dropBlanks_eq_self {cs : List Char} (h : ∀ c ∈ cs.head?, isBlank c = false) :
    dropBlanks cs = cs := by
  cases cs with
  | nil => rfl
  | cons c cs => simp [dropBlanks, h c rfl]

theorem dropBlanksEnd_eq_self {cs : List Char} (h : ∀ c ∈ cs.getLast?, isBlank c = false) :
    dropBlanksEnd cs = cs := by
  rw [dropBlanksEnd, dropBlanks_eq_self, List.reverse_reverse]
  rwa [List.head?_reverse]

theorem trimChars_eq_self {cs : List Char} (h : IsBare cs) : trimChars cs = cs := by
  rw [trimChars, dropBlanks_eq_self h.1, dropBlanksEnd_eq_self h.2]

theorem isBare_trimChars (cs : List Char) : IsBare (trimChars cs) := by
  refine ⟨?_, getLast?_dropBlanksEnd _⟩
  rw [trimChars, ← dropBlanks_dropBlanksEnd]
  exact head?_dropBlanks _

theorem dropBlanks_blanks_append {lead : List Char} (h : ∀ c ∈ lead, isBlank c) (cs : List Char) :
    dropBlanks (lead ++ cs) = dropBlanks cs :=
  List.dropWhile_append_of_pos h

theorem dropBlanksEnd_append_blanks {trail : List Char} (h : ∀ c ∈ trail, isBlank c)
    (cs : List Char) : dropBlanksEnd (cs ++ trail) = dropBlanksEnd cs := by
  have hreverse : ∀ c ∈ trail.reverse, isBlank c := fun c hc ↦ h c (List.mem_reverse.mp hc)
  rw [dropBlanksEnd, List.reverse_append, dropBlanks_blanks_append hreverse, dropBlanksEnd]

/-- Blanks around a text are lost on trimming. -/
theorem trimChars_surround {lead trail : List Char} (hlead : ∀ c ∈ lead, isBlank c)
    (htrail : ∀ c ∈ trail, isBlank c) (cs : List Char) :
    trimChars (lead ++ cs ++ trail) = trimChars cs := by
  rw [List.append_assoc, trimChars, dropBlanks_blanks_append hlead, ← dropBlanks_dropBlanksEnd,
    dropBlanksEnd_append_blanks htrail, dropBlanks_dropBlanksEnd, trimChars]

theorem isCore_trimChars (cs : List Char) : IsCore (trimChars cs) cs := by
  have hlead : ∀ c ∈ cs.takeWhile isBlank, isBlank c := fun c ↦ List.mem_takeWhile_imp
  have htrail : ∀ c ∈ (dropBlanks cs).rtakeWhile isBlank, isBlank c := fun c ↦
    List.mem_rtakeWhile_imp
  refine ⟨isBare_trimChars cs, _, _, hlead, htrail, ?_⟩
  calc cs = cs.takeWhile isBlank ++ dropBlanks cs := List.takeWhile_append_dropWhile.symm
    _ = cs.takeWhile isBlank ++ (trimChars cs ++ (dropBlanks cs).rtakeWhile isBlank) :=
      congrArg _ List.rdropWhile_append_rtakeWhile.symm
    _ = cs.takeWhile isBlank ++ trimChars cs ++ (dropBlanks cs).rtakeWhile isBlank :=
      (List.append_assoc _ _ _).symm

/-- Trimming finds the core. -/
theorem trimChars_eq_iff {cs core : List Char} : trimChars cs = core ↔ IsCore core cs := by
  constructor
  · rintro rfl
    exact isCore_trimChars cs
  · rintro ⟨hbare, lead, trail, hlead, htrail, rfl⟩
    rw [trimChars_surround hlead htrail, trimChars_eq_self hbare]

/-- Only of blanks nothing is left. -/
theorem trimChars_eq_nil_iff {cs : List Char} : trimChars cs = [] ↔ ∀ c ∈ cs, isBlank c := by
  constructor
  · intro h
    obtain ⟨-, lead, trail, hlead, htrail, rfl⟩ := trimChars_eq_iff.mp h
    simpa [or_imp, forall_and] using ⟨hlead, htrail⟩
  · intro h
    exact trimChars_eq_iff.mpr ⟨⟨nofun, nofun⟩, cs, [], h, nofun, by simp⟩

end ReviewDesk.Text
