import Mathlib.Algebra.Ring.Int.Defs
import ReviewDesk.Json.Numeral
import ReviewDesk.Proofs.Text.Decimal

/-!
Numerals within a text. A numeral ends where no part of it can go on, so what is read off the front of a
text does not depend on a separator or a closing bracket behind it (`Numeral.read?_append`). A whole
number that fits in 64 bits is written as the numeral that is read back (`Numeral.ofChars?_ofInt`).
-/

set_option autoImplicit false
set_option relaxedAutoImplicit false

namespace ReviewDesk

theorem Digit.span_append (cs : List Char) {rest : List Char}
    (h : rest.head?.bind Digit.ofChar? = none) :
    span (cs ++ rest) = ((span cs).1, (span cs).2 ++ rest) := by
  induction cs with
  | nil => exact Digits.span_text_append [] h
  | cons c cs ih =>
    rw [List.cons_append, span, span]
    cases ofChar? c with
    | none => rfl
    | some d => simp only [ih]

theorem Digit.char_ne_minus (d : Digit) : d.char ≠ '-' := by
  revert d
  decide

namespace Digits

theorem ofNat_ne_nil (n : Nat) : ofNat n ≠ [] := by
  rw [ofNat]
  split <;> simp

theorem head?_ofNat {n : Nat} (h : n ≠ 0) : (ofNat n).head? ≠ some .zero := by
  induction n using ofNat.induct with
  | case1 n hlt =>
    rw [ofNat, dif_pos hlt]
    intro hzero
    exact h (congrArg Fin.val (Option.some.inj hzero))
  | case2 n hle ih =>
    rw [ofNat, dif_neg hle, List.head?_append, Option.or_of_isSome (by simp [ofNat_ne_nil])]
    exact ih (by omega)

/-- Only zero starts with a zero. -/
theorem length_ofNat_of_head? {n : Nat} (h : (ofNat n).head? = some .zero) : (ofNat n).length = 1 := by
  by_cases hn : n = 0
  · rw [hn, ofNat, dif_pos (by decide)]
    rfl
  · exact absurd h (head?_ofNat hn)

end Digits

namespace Json

/-- Nothing, or what stands behind a value within a container. -/
def Delimited (rest : List Char) : Prop := ∀ c ∈ rest.head?, c = ',' ∨ c = ']' ∨ c = '}'

theorem delimited_nil : Delimited [] := by simp [Delimited]

theorem delimited_cons {c : Char} (h : c = ',' ∨ c = ']' ∨ c = '}') (rest : List Char) :
    Delimited (c :: rest) := by
  simpa [Delimited] using h

theorem Delimited.ofChar?_eq_none {rest : List Char} (h : Delimited rest) :
    rest.head?.bind Digit.ofChar? = none := by
  cases rest with
  | nil => rfl
  | cons c rest =>
    obtain rfl | rfl | rfl := h c rfl <;> rfl

namespace Numeral

variable {rest : List Char}

/-- At least one digit. -/
def someDigits? (cs : List Char) : Option (List Digit × List Char) :=
  if (Digit.span cs).1 = [] then none else some (Digit.span cs)

theorem someDigits?_append (h : Delimited rest) (cs : List Char) :
    someDigits? (cs ++ rest) = (someDigits? cs).map (Prod.map id (· ++ rest)) := by
  rw [someDigits?, someDigits?, Digit.span_append cs h.ofChar?_eq_none]
  split <;> rfl

/-- What stands behind a sign, and behind no sign. -/
def unsigned (signs cs : List Char) : List Char :=
  if cs.head?.any signs.contains then cs.tail else cs

theorem unsigned_append (h : Delimited rest) {signs : List Char} (hsigns : signs ⊆ ['-', '+'])
    (cs : List Char) : unsigned signs (cs ++ rest) = unsigned signs cs ++ rest := by
  cases cs with
  | nil =>
    cases rest with
    | nil => rfl
    | cons c rest =>
      have hc : c ∉ signs := by
        intro hsign
        obtain rfl | rfl | rfl := h c rfl <;> simpa using hsigns hsign
      simp [unsigned, hc]
  | cons c cs =>
    by_cases hsign : c ∈ signs <;> simp [unsigned, hsign]

theorem isMinus_append (h : Delimited rest) (cs : List Char) :
    decide ((cs ++ rest).head? = some '-') = decide (cs.head? = some '-') := by
  cases cs with
  | nil =>
    cases rest with
    | nil => rfl
    | cons c rest => obtain rfl | rfl | rfl := h c rfl <;> rfl
  | cons c cs => rfl

theorem readExponent?_cons (c : Char) (cs : List Char) :
    readExponent? (c :: cs) =
      if c = 'e' ∨ c = 'E' then
        (someDigits? (unsigned ['-', '+'] cs)).map fun p ↦ (some (decide (cs.head? = some '-'), p.1), p.2)
      else some (none, c :: cs) := by
  have hdigits (sign : Char) (cs : List Char) : unsigned ['-', '+'] (sign :: cs) =
      if sign = '-' ∨ sign = '+' then cs else sign :: cs := by
    simp [unsigned]
  unfold readExponent?
  dsimp only
  congr 1
  cases cs with
  | nil => rfl
  | cons sign cs =>
    rw [hdigits, someDigits?]
    by_cases hminus : sign = '-'
    · subst hminus
      simp only [List.head?_cons, decide_true, Char.reduceEq, or_false, ↓reduceIte]
      rcases Digit.span cs with ⟨_ | _, left⟩ <;> simp
    · by_cases hplus : sign = '+'
      · subst hplus
        simp only [List.head?_cons, Option.some.injEq, Char.reduceEq, decide_false, or_true, ↓reduceIte]
        rcases Digit.span cs with ⟨_ | _, left⟩ <;> simp
      · simp only [List.cons.injEq, hminus, hplus, false_and, imp_self, implies_true, List.head?_cons,
          Option.some.injEq, decide_false, or_self, ↓reduceIte]
        rcases Digit.span (sign :: cs) with ⟨_ | _, left⟩ <;> simp

theorem readExponent?_append (h : Delimited rest) (cs : List Char) :
    readExponent? (cs ++ rest) = (readExponent? cs).map (Prod.map id (· ++ rest)) := by
  cases cs with
  | nil =>
    cases rest with
    | nil => rfl
    | cons c rest => obtain rfl | rfl | rfl := h c rfl <;> rfl
  | cons c cs =>
    rw [List.cons_append, readExponent?_cons, readExponent?_cons, unsigned_append h (by simp),
      someDigits?_append h, isMinus_append h]
    split
    · rw [Option.map_map, Option.map_map]
      rfl
    · rfl

theorem readFraction?_append (h : Delimited rest) (cs : List Char) :
    readFraction? (cs ++ rest) = (readFraction? cs).map (Prod.map id (· ++ rest)) := by
  have hpoint (cs : List Char) : readFraction? ('.' :: cs) = someDigits? cs := by
    rw [readFraction?, someDigits?]
    rcases Digit.span cs with ⟨_ | _, left⟩ <;> rfl
  cases cs with
  | nil =>
    cases rest with
    | nil => rfl
    | cons c rest => obtain rfl | rfl | rfl := h c rfl <;> rfl
  | cons c cs =>
    by_cases hc : c = '.'
    · rw [hc, List.cons_append, hpoint, hpoint, someDigits?_append h]
    · simp [readFraction?, hc]

/-- Reads what follows the digits before the point. -/
def readTail? (negative : Bool) (whole : List Digit) (cs : List Char) : Option (Numeral × List Char) :=
  (readFraction? cs).bind fun fraction ↦ (readExponent? fraction.2).bind fun exponent ↦
    some (⟨negative, whole, fraction.1, exponent.1⟩, exponent.2)

theorem readTail?_append (h : Delimited rest) (negative : Bool) (whole : List Digit) (cs : List Char) :
    readTail? negative whole (cs ++ rest) = (readTail? negative whole cs).map (Prod.map id (· ++ rest)) := by
  rw [readTail?, readFraction?_append h, readTail?]
  cases readFraction? cs with
  | none => rfl
  | some fraction =>
    simp only [Option.map_some, Option.bind_some, Prod.map_snd, Prod.map_fst, id, readExponent?_append h]
    cases readExponent? fraction.2 <;> rfl

theorem read?_eq (cs : List Char) :
    read? cs =
      if (Digit.span (unsigned ['-'] cs)).1 = [] ∨ ((Digit.span (unsigned ['-'] cs)).1.length ≠ 1 ∧
          (Digit.span (unsigned ['-'] cs)).1.head? = some .zero) then none
      else readTail? (decide (cs.head? = some '-')) (Digit.span (unsigned ['-'] cs)).1
        (Digit.span (unsigned ['-'] cs)).2 := by
  cases cs with
  | nil => rfl
  | cons c cs =>
    have hunsigned : unsigned ['-'] (c :: cs) = if c = '-' then cs else c :: cs := by simp [unsigned]
    rw [hunsigned]
    by_cases hminus : c = '-'
    · rw [hminus]
      rfl
    · simp only [read?, List.cons.injEq, hminus, false_and, imp_self, implies_true, ne_eq,
        Option.bind_eq_bind, ↓reduceIte, List.head?_cons, Option.some.injEq, decide_false]
      rfl

theorem read?_append (h : Delimited rest) (cs : List Char) :
    read? (cs ++ rest) = (read? cs).map (Prod.map id (· ++ rest)) := by
  rw [read?_eq, read?_eq, unsigned_append h (by simp), Digit.span_append _ h.ofChar?_eq_none,
    isMinus_append h]
  split
  · rfl
  · exact readTail?_append h ..

/-- A numeral that fills a text is read off its front. -/
theorem ofChars?_eq_some_iff {cs : List Char} {n : Numeral} :
    ofChars? cs = some n ↔ read? cs = some (n, []) := by
  rw [ofChars?, Option.bind_eq_some_iff]
  constructor
  · rintro ⟨⟨m, left⟩, hread, hfull⟩
    cases left with
    | nil =>
      obtain rfl := Option.some.inj hfull
      exact hread
    | cons c left => cases hfull
  · exact fun hread ↦ ⟨(n, []), hread, rfl⟩

theorem read?_of_ofChars? {cs : List Char} {n : Numeral} (hcs : ofChars? cs = some n)
    (h : Delimited rest) : read? (cs ++ rest) = some (n, rest) := by
  rw [read?_append h, ofChars?_eq_some_iff.mp hcs]
  rfl

/-- A numeral starts with a minus sign or a digit. -/
theorem start_of_read? {c : Char} {cs : List Char} {p : Numeral × List Char}
    (h : read? (c :: cs) = some p) : c = '-' ∨ (Digit.ofChar? c).isSome := by
  cases hdigit : Digit.ofChar? c with
  | some d => exact Or.inr rfl
  | none =>
    by_cases hminus : c = '-'
    · exact Or.inl hminus
    · have hunsigned : unsigned ['-'] (c :: cs) = c :: cs := by simp [unsigned, hminus]
      have hspan : Digit.span (c :: cs) = ([], c :: cs) := by rw [Digit.span, hdigit]
      rw [read?_eq, hunsigned, hspan, if_pos (Or.inl rfl)] at h
      cases h

/-! ### Whole numbers -/

theorem ofChars?_text_whole {negative : Bool} {ds : List Digit} (hfull : ds ≠ [])
    (hzero : ds.head? = some .zero → ds.length = 1) :
    ofChars? (Numeral.text ⟨negative, ds, [], none⟩) = some ⟨negative, ds, [], none⟩ := by
  have hspan := Digits.span_text ds
  have hguard : ¬(ds = [] ∨ (ds.length ≠ 1 ∧ ds.head? = some .zero)) := by
    rintro (hempty | ⟨hlength, hhead⟩)
    · exact hfull hempty
    · exact hlength (hzero hhead)
  rw [ofChars?_eq_some_iff, read?_eq]
  cases negative with
  | true =>
    have htext : Numeral.text ⟨true, ds, [], none⟩ = '-' :: Digits.text ds := by simp [text]
    have hunsigned : unsigned ['-'] ('-' :: Digits.text ds) = Digits.text ds := by simp [unsigned]
    rw [htext, hunsigned, hspan, if_neg hguard]
    rfl
  | false =>
    have htext : Numeral.text ⟨false, ds, [], none⟩ = Digits.text ds := by simp [text]
    have hhead : (Digits.text ds).head? ≠ some '-' := by
      cases ds with
      | nil => exact absurd rfl hfull
      | cons d ds => exact fun hminus ↦ d.char_ne_minus (Option.some.inj hminus)
    have hunsigned : unsigned ['-'] (Digits.text ds) = Digits.text ds := by
      simp [unsigned, Option.any_eq_true, hhead]
    rw [htext, hunsigned, hspan, if_neg hguard, decide_eq_false hhead]
    rfl

theorem ofChars?_ofInt (n : Int) : ofChars? (ofInt n).text = some (ofInt n) :=
  ofChars?_text_whole (Digits.ofNat_ne_nil _) Digits.length_ofNat_of_head?

theorem integer?_ofInt {n : Int} (hlow : -(2 : Int) ^ 63 ≤ n) (hhigh : n < 2 ^ 64) :
    (ofInt n).integer? = some n := by
  have hsize : UInt64.size = 2 ^ 64 := rfl
  rw [integer?, if_neg (by simp [ofInt])]
  simp only [ofInt, Digits.value_ofNat, decide_eq_true_eq, hsize]
  split
  · rw [if_pos (by omega)]
    exact congrArg some (by omega)
  · rw [if_pos (by omega)]
    exact congrArg some (by omega)

theorem value?_ofInt {n : Int} (hlow : -(2 : Int) ^ 63 ≤ n) (hhigh : n < 2 ^ 64) :
    (ofInt n).value? = some (.whole n) := by
  rw [value?, integer?_ofInt hlow hhigh]

end Numeral

end Json

end ReviewDesk
