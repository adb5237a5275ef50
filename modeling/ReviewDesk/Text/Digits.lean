/-!
Decimal digits: the shortest digit list of a number, the value of a digit list, and digit lists of
a fixed width.
-/

set_option autoImplicit false
set_option relaxedAutoImplicit false

namespace ReviewDesk

/-- One decimal digit. -/
abbrev Digit := Fin 10

namespace Digit

def zero : Digit := ⟨0, by decide⟩

def char (d : Digit) : Char := Char.ofNat (48 + d.val)

def ofChar? (c : Char) : Option Digit :=
  if h : 48 ≤ c.toNat ∧ c.toNat ≤ 57 then some ⟨c.toNat - 48, by omega⟩ else none

theorem ofChar?_char (d : Digit) : ofChar? d.char = some d := by
  revert d
  decide

theorem char_of_ofChar? {c : Char} {d : Digit} (h : ofChar? c = some d) : d.char = c := by
  unfold ofChar? at h
  split at h
  · next hc =>
    obtain rfl := Option.some.inj h
    have hn : 48 + (c.toNat - 48) = c.toNat := by omega
    simp [char, hn]
  · exact absurd h (by simp)

/-- The digits at the front of a text and what follows them. -/
def span : List Char → List Digit × List Char
  | [] => ([], [])
  | c :: cs => match ofChar? c with
    | some d => let (ds, rest) := span cs; (d :: ds, rest)
    | none => ([], c :: cs)

end Digit

namespace Digits

/-- The number that a digit list stands for, continuing from `start`. -/
def valueFrom (start : Nat) (ds : List Digit) : Nat := ds.foldl (fun n d ↦ 10 * n + d.val) start

def value (ds : List Digit) : Nat := valueFrom 0 ds

/-- The digits of `n` without leading zeros; zero is the single digit 0. -/
def ofNat (n : Nat) : List Digit :=
  if h : n < 10 then [⟨n, h⟩] else ofNat (n / 10) ++ [⟨n % 10, Nat.mod_lt _ (by decide)⟩]
termination_by n
decreasing_by omega

/-- The last `width` digits of `n`. -/
def fixed : Nat → Nat → List Digit
  | 0, _ => []
  | width + 1, n => fixed width (n / 10) ++ [⟨n % 10, Nat.mod_lt _ (by decide)⟩]

def text (ds : List Digit) : List Char := ds.map Digit.char

theorem value_ofNat (n : Nat) : value (ofNat n) = n := by
  induction n using Nat.strongRecOn with
  | _ n ih =>
    rw [ofNat]
    split
    · simp [value, valueFrom]
    · have h := ih (n / 10) (by omega)
      simp only [value, valueFrom] at h ⊢
      rw [List.foldl_append, h]
      simp only [List.foldl_cons, List.foldl_nil]
      omega

theorem text_span (cs : List Char) : text (Digit.span cs).1 ++ (Digit.span cs).2 = cs := by
  induction cs with
  | nil => rfl
  | cons c cs ih =>
    unfold Digit.span
    split
    · next d hd =>
      have hc : d.char = c := Digit.char_of_ofChar? hd
      simpa [text, hc] using ih
    · rfl

/-- Digits are read back as far as they go, provided that what follows starts with none. -/
theorem span_text_append (ds : List Digit) {rest : List Char}
    (h : (rest.head?.bind Digit.ofChar?) = none) :
    Digit.span (text ds ++ rest) = (ds, rest) := by
  induction ds with
  | nil =>
    cases rest with
    | nil => rfl
    | cons c cs =>
      have hc : Digit.ofChar? c = none := h
      simp [text, Digit.span, hc]
  | cons d ds ih =>
    have hcons : text (d :: ds) ++ rest = d.char :: (text ds ++ rest) := rfl
    rw [hcons, Digit.span, Digit.ofChar?_char]
    simp only [ih]

theorem length_fixed (width n : Nat) : (fixed width n).length = width := by
  induction width generalizing n with
  | zero => rfl
  | succ width ih => simp [fixed, ih]

end Digits

namespace Text

/-- The decimal text of a number. -/
def ofNat (n : Nat) : String := String.ofList (Digits.text (Digits.ofNat n))

/-- The decimal text of an integer, with a minus sign below zero. -/
def ofInt (n : Int) : String := if n < 0 then "-" ++ ofNat n.natAbs else ofNat n.natAbs

end Text

end ReviewDesk
