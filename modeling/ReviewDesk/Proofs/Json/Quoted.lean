import ReviewDesk.Json.Quoted

/-!
Strings between quotes. Whatever the characters of a text are, what is written of them up to the closing
quote is read back as pieces that stand for them (`exists_isReadAs`). Control characters without a
short escape come back as units, and all others as they are.
-/

set_option autoImplicit false
set_option relaxedAutoImplicit false

namespace ReviewDesk.Json.Quoted

theorem decode?_char (c : Char) (pieces : Quoted) :
    decode? (.char c :: pieces) = (decode? pieces).map (c :: ·) := by
  rw [decode?]

/-- A unit that is no surrogate stands for itself. -/
theorem decode?_unit {u : Fin 65536} (hhigh : isHigh u = false) (hlow : isLow u = false)
    (pieces : Quoted) :
    decode? (.unit u :: pieces) = (decode? pieces).map (Char.ofNat u.val :: ·) := by
  rcases pieces with _ | ⟨_ | v, pieces⟩ <;> simp [decode?, hhigh, hlow]

/-- A character between quotes is read as the one piece that stands for it. -/
structure IsRead (c : Char) (piece : Piece) : Prop where
  read : ∀ rest, read? (escape c ++ rest) = (read? rest).map (Prod.map (piece :: ·) id)
  decode : ∀ pieces, decode? (piece :: pieces) = (decode? pieces).map (c :: ·)
  plain : 0x20 ≤ c.toNat → piece = .char c

theorem isRead_short {c e : Char} (hescape : escape c = ['\\', e]) (hshort : shortEscape? e = some c) :
    IsRead c (.char c) := by
  refine ⟨fun rest ↦ ?_, decode?_char c, fun _ ↦ rfl⟩
  have hunit : e ≠ 'u' := by
    rintro rfl
    cases hshort
  rw [hescape, List.cons_append, List.cons_append, List.nil_append, read?.eq_4, hshort]
  · cases read? rest <;> rfl
  · exact fun _ _ _ _ _ hu ↦ absurd hu hunit

/-- The character with a number below 32 and the unit of that number. -/
theorem hexUnit?_hexText (n : Fin 32) :
    hexUnit? (Nat.digitChar (n / 4096 % 16)) (Nat.digitChar (n / 256 % 16))
      (Nat.digitChar (n / 16 % 16)) (Nat.digitChar (n % 16)) = some ⟨n, by omega⟩ := by
  revert n
  decide

theorem isRead_control {c : Char} (h : c.toNat < 0x20)
    (hescape : escape c = '\\' :: 'u' :: hexText c.toNat) :
    IsRead c (.unit ⟨c.toNat, by omega⟩) := by
  refine ⟨fun rest ↦ ?_, fun pieces ↦ ?_, fun hplain ↦ absurd hplain (Nat.not_le_of_lt h)⟩
  · have htext : escape c ++ rest = '\\' :: 'u' :: Nat.digitChar (c.toNat / 4096 % 16) ::
        Nat.digitChar (c.toNat / 256 % 16) :: Nat.digitChar (c.toNat / 16 % 16) ::
        Nat.digitChar (c.toNat % 16) :: rest := by
      rw [hescape]
      rfl
    rw [htext, read?, hexUnit?_hexText ⟨c.toNat, h⟩]
    cases read? rest <;> rfl
  · have hhigh : isHigh ⟨c.toNat, by omega⟩ = false := by
      simp only [isHigh, Bool.and_eq_false_iff, decide_eq_false_iff_not]
      omega
    have hlow : isLow ⟨c.toNat, by omega⟩ = false := by
      simp only [isLow, Bool.and_eq_false_iff, decide_eq_false_iff_not]
      omega
    rw [decode?_unit hhigh hlow, Char.ofNat_toNat]

theorem isRead_plain {c : Char} (h : 0x20 ≤ c.toNat) (hquote : c ≠ '"') (hslash : c ≠ '\\')
    (hescape : escape c = [c]) : IsRead c (.char c) := by
  refine ⟨fun rest ↦ ?_, decode?_char c, fun _ ↦ rfl⟩
  rw [hescape, List.singleton_append, read?.eq_5]
  · rw [if_neg (by simp [Nat.not_lt_of_le h, hslash])]
    cases read? rest <;> rfl
  · exact hquote
  · exact fun _ _ _ _ _ heq ↦ absurd heq hslash
  · exact fun _ _ heq ↦ absurd heq hslash

theorem exists_isRead (c : Char) : ∃ piece, IsRead c piece := by
  by_cases hshort : ∃ e, escape c = ['\\', e] ∧ shortEscape? e = some c
  · obtain ⟨e, hescape, hback⟩ := hshort
    exact ⟨_, isRead_short hescape hback⟩
  · have hne (d e : Char) (hescape : escape d = ['\\', e]) (hback : shortEscape? e = some d) : c ≠ d := by
      rintro rfl
      exact hshort ⟨e, hescape, hback⟩
    have hquote := hne '"' '"' (by decide) (by decide)
    have hslash := hne '\\' '\\' (by decide) (by decide)
    have hescape : escape c = if c.toNat < 0x20 then '\\' :: 'u' :: hexText c.toNat else [c] := by
      rw [escape, if_neg hquote, if_neg hslash, if_neg (hne '\x08' 'b' (by decide) (by decide)),
        if_neg (hne '\x0c' 'f' (by decide) (by decide)), if_neg (hne '\n' 'n' (by decide) (by decide)),
        if_neg (hne '\r' 'r' (by decide) (by decide)), if_neg (hne '\t' 't' (by decide) (by decide))]
    by_cases hcontrol : c.toNat < 0x20
    · exact ⟨_, isRead_control hcontrol (hescape.trans (if_pos hcontrol))⟩
    · exact ⟨_, isRead_plain (Nat.le_of_not_lt hcontrol) hquote hslash (hescape.trans (if_neg hcontrol))⟩

/-- Pieces that are read where a text is written between quotes. -/
structure IsReadAs (cs : List Char) (pieces : Quoted) : Prop where
  read : ∀ rest, read? (cs.flatMap escape ++ '"' :: rest) = some (pieces, rest)
  decode : decode? pieces = some cs
  plain : (∀ c ∈ cs, 0x20 ≤ c.toNat) → pieces = cs.map .char

theorem exists_isReadAs (cs : List Char) : ∃ pieces, IsReadAs cs pieces := by
  induction cs with
  | nil => exact ⟨[], ⟨fun _ ↦ rfl, rfl, fun _ ↦ rfl⟩⟩
  | cons c cs ih =>
    obtain ⟨pieces, hpieces⟩ := ih
    obtain ⟨piece, hpiece⟩ := exists_isRead c
    refine ⟨piece :: pieces, ⟨fun rest ↦ ?_, ?_, fun hplain ↦ ?_⟩⟩
    · rw [List.flatMap_cons, List.append_assoc, hpiece.read, hpieces.read]
      rfl
    · rw [hpiece.decode, hpieces.decode]
      rfl
    · rw [List.forall_mem_cons] at hplain
      rw [hpiece.plain hplain.1, hpieces.plain hplain.2]
      rfl

theorem text_ofText (text : String) :
    (ofText text).text = '"' :: (text.toList.flatMap escape ++ ['"']) := by
  rw [Quoted.text, ofText, List.flatMap_map]
  rfl

theorem text?_eq_some_of_decode? {pieces : Quoted} {text : String}
    (h : decode? pieces = some text.toList) : text? pieces = some text := by
  rw [text?, h, Option.map_some, String.ofList_toList]

end ReviewDesk.Json.Quoted
