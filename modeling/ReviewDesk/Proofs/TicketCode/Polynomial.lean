import Mathlib.Algebra.BigOperators.Fin
import Mathlib.Tactic.Ring
import ReviewDesk.TicketCode

/-!
The exact numbers behind a ticket code. A text stands for the number whose digits, to some base, are
its characters. Reducing at every character comes to reducing that number once (`rolling_eq`), and
lifting twice to lifting once, so both parts of a code can be said without a loop (`number_eq`,
`letters_eq`).
-/

set_option autoImplicit false
set_option relaxedAutoImplicit false

namespace ReviewDesk.TicketCode

/-- The number whose digits are the characters of a text, the first of them the highest. -/
def poly (base : Nat) (cs : List Char) : Nat :=
  ∑ i : Fin cs.length, cs[i].toNat * base ^ (cs.length - 1 - i)

theorem poly_nil (base : Nat) : poly base [] = 0 := rfl

theorem poly_cons (base : Nat) (c : Char) (cs : List Char) :
    poly base (c :: cs) = c.toNat * base ^ cs.length + poly base cs := by
  refine (Fin.sum_univ_succ _).trans (congrArg _ (Finset.sum_congr rfl fun i _ ↦ ?_))
  have hexponent : (c :: cs).length - 1 - i.succ = cs.length - 1 - i := by
    rw [List.length_cons, Fin.val_succ]
    omega
  rw [hexponent]
  rfl

theorem poly_append (base : Nat) (cs ds : List Char) :
    poly base (cs ++ ds) = poly base cs * base ^ ds.length + poly base ds := by
  induction cs with
  | nil => rw [List.nil_append, poly_nil, zero_mul, zero_add]
  | cons c cs ih =>
    rw [List.cons_append, poly_cons, poly_cons, ih, List.length_append]
    ring

theorem poly_singleton (base : Nat) (c : Char) : poly base [c] = c.toNat := by
  rw [poly_cons, List.length_nil, pow_zero, mul_one, poly_nil, add_zero]

/-- Reducing at every character comes to reducing once. -/
theorem rolling_eq (base modulus : Nat) (cs : List Char) :
    rolling base modulus cs = poly base cs % modulus := by
  induction cs using List.reverseRecOn with
  | nil => exact (Nat.zero_mod modulus).symm
  | append_singleton cs c ih =>
    calc rolling base modulus (cs ++ [c])
        = (rolling base modulus cs * base + c.toNat) % modulus := List.foldl_append
      _ = (poly base cs % modulus * base + c.toNat) % modulus := by rw [ih]
      _ = (poly base cs * base + c.toNat) % modulus := by
        rw [Nat.add_mod, Nat.mod_mul_mod, ← Nat.add_mod]
      _ = poly base (cs ++ [c]) % modulus := by
        rw [poly_append, poly_singleton, List.length_singleton, pow_one]

/-! ### The two parts of a code -/

theorem lift_eq (n : Nat) : lift n = n + if n < 1000000 then 1000000 else 0 := by
  rw [lift]
  split <;> rfl

theorem le_lift (n : Nat) : 1000000 ≤ lift n := by
  rw [lift]
  split <;> omega

theorem lift_lift (n : Nat) : lift (lift n) = lift n :=
  if_neg (Nat.not_lt.mpr (le_lift n))

theorem lift_lt {n bound : Nat} (hn : n < bound) (hbound : 2000000 ≤ bound) : lift n < bound := by
  rw [lift]
  split <;> omega

/-- The number in a code: the last seven digits of the ledger number, or the identifier's where these
are all zero, and a million more below a million. -/
def exactNumber (seed : Int64) (id : String) : Nat :=
  let tail := seed.toInt.natAbs % 10000000
  let drawn := poly 33 id.toList % 9000000
  if tail ≠ 0 then tail + (if tail < 1000000 then 1000000 else 0)
  else drawn + (if drawn < 1000000 then 1000000 else 0)

theorem number_eq (seed : Int64) (id : String) : number seed id = exactNumber seed id := by
  simp only [number, exactNumber, idNumber, rolling_eq]
  by_cases h : seed.toInt.natAbs % 10000000 = 0
  · rw [if_pos h, if_neg (not_not.mpr h), lift_lift, lift_eq]
  · rw [if_neg h, if_pos h, lift_eq]

/-- Seven digits, the first of them no zero. -/
theorem number_mem (seed : Int64) (id : String) :
    1000000 ≤ number seed id ∧ number seed id ≤ 9999999 := by
  refine ⟨le_lift _, Nat.le_of_lt_succ (lift_lt ?_ (by decide))⟩
  split
  · rw [idNumber, rolling_eq]
    have hlt : poly 33 id.toList % 9000000 < 9000000 := Nat.mod_lt _ (by decide)
    exact (lift_lt hlt (by decide)).trans (by decide)
  · exact Nat.mod_lt _ (by decide)

/-- The letters of a code are two digits to the base 26. -/
theorem letters_eq (cs : List Char) :
    letters cs =
      let sum := poly 131 cs % 676
      [Char.ofNat (97 + sum / 26), Char.ofNat (97 + sum % 26)] := by
  rw [letters, rolling_eq]
  have hlt : poly 131 cs % 676 < 676 := Nat.mod_lt _ (by decide)
  have hhigh : poly 131 cs % 676 / 26 < 26 := by omega
  simp only [letter, Nat.mod_eq_of_lt hhigh]

end ReviewDesk.TicketCode
