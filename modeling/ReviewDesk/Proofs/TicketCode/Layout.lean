import Mathlib.Data.Bool.AllAny
import ReviewDesk.Proofs.Text.Decimal
import ReviewDesk.Proofs.TicketCode.Words

/-!
How a ticket code reads. After the lead of its kind come the seven digits of one number and, as two
small letters, the two digits of another to the base 26. Both numbers can be told without running the
coder, so a code that was issued long ago can be checked by hand (`encode_exact`).
-/

set_option autoImplicit false
set_option relaxedAutoImplicit false

namespace ReviewDesk.TicketCode

/-- What the letters of a code stand for. -/
def exactSum (kind : Kind) (seed : Int64) (id : String) : Nat :=
  poly 131 (kind.ledgerName ++ ":" ++ toString seed.toInt ++ ":" ++ id).toList % 676

/-- A number below 676 to the base 26, with letters for digits. -/
def pair (sum : Nat) : List Char := [Char.ofNat (97 + sum / 26), Char.ofNat (97 + sum % 26)]

/-- A code that shows a number in its digits and a sum in its letters. -/
structure Reads (kind : Kind) (n sum : Nat) (code : String) : Prop where
  spelled : code = kind.ticketLead ++ toString n ++ String.ofList (pair sum)
  number : 1000000 ≤ n ∧ n ≤ 9999999
  digits : (toString n).length = 7 ∧ ∀ c ∈ (toString n).toList, c.isDigit
  letters : sum < 26 * 26 ∧ ∀ c ∈ pair sum, c.isLower
  length : code.length = TicketCode.length kind
  /-- Every character is one byte. -/
  bytes : (Text.bytes code).length = TicketCode.length kind

theorem digits_toString {n : Nat} (h : 1000000 ≤ n ∧ n ≤ 9999999) :
    (toString n).length = 7 ∧ ∀ c ∈ (toString n).toList, c.isDigit := by
  have htext : (toString n).toList = Digits.text (Digits.fixed 7 n) := by
    rw [Digits.fixed_eq_ofNat h.1 (Nat.lt_succ_of_le h.2), Digits.text_ofNat]
    exact String.toList_ofList
  constructor
  · rw [← String.length_toList, htext, Digits.text, List.length_map, Digits.length_fixed]
  · rw [Nat.toString_eq_ofList_toDigits, String.toList_ofList]
    exact fun c ↦ Nat.isDigit_of_mem_toDigits (by decide) (by decide)

theorem isLower_of_mem_pair {sum : Nat} (h : sum < 26 * 26) : ∀ c ∈ pair sum, c.isLower := by
  have hletter : ∀ place < 26, (Char.ofNat (97 + place)).isLower := by decide
  rintro c hc
  rcases List.mem_pair.mp hc with rfl | rfl
  · exact hletter _ (Nat.div_lt_of_lt_mul h)
  · exact hletter _ (Nat.mod_lt _ (by decide))

theorem toNat_le_of_mem_ticketLead (kind : Kind) :
    ∀ c ∈ kind.ticketLead.toList, c.toNat ≤ 127 := by
  rw [← List.all_iff_forall_prop]
  cases kind <;> decide

theorem reads_of_spelled {kind : Kind} {n sum : Nat} {code : String}
    (hspelled : code = kind.ticketLead ++ toString n ++ String.ofList (pair sum))
    (hn : 1000000 ≤ n ∧ n ≤ 9999999) (hsum : sum < 26 * 26) : Reads kind n sum code := by
  have hdigits := digits_toString hn
  have hletters := isLower_of_mem_pair hsum
  have hlength : code.length = TicketCode.length kind := by
    rw [hspelled, String.length_append, String.length_append, hdigits.1, String.length_ofList,
      TicketCode.length]
    rfl
  refine ⟨hspelled, hn, hdigits, ⟨hsum, hletters⟩, hlength, ?_⟩
  rw [Text.length_bytes_of_ascii, hlength]
  intro c hc
  rw [hspelled, String.toList_append, String.toList_append, String.toList_ofList, List.mem_append,
    List.mem_append] at hc
  rcases hc with (hlead | hdigit) | hletter
  · exact toNat_le_of_mem_ticketLead kind c hlead
  · exact (Char.isDigit_iff_toNat.mp (hdigits.2 c hdigit)).2.trans (by decide)
  · have hlower : (decide (c.val ≥ 'a'.val) && decide (c.val ≤ 'z'.val)) = true := hletters c hletter
    rw [Bool.and_eq_true, decide_eq_true_eq, decide_eq_true_eq] at hlower
    exact (UInt32.le_iff_toNat_le.mp hlower.2).trans (by decide)

/-- Every code reads as told, and no sum or product on the way to it leaves its word. -/
theorem encode_exact (kind : Kind) (seed : Int64) (id : String) :
    Reads kind (exactNumber seed id) (exactSum kind seed id) (encode kind seed id) ∧
      encode? kind seed id = some (encode kind seed id) := by
  have hn : 1000000 ≤ exactNumber seed id ∧ exactNumber seed id ≤ 9999999 :=
    number_eq seed id ▸ number_mem seed id
  have hsum : exactSum kind seed id < 26 * 26 := Nat.mod_lt _ (by decide)
  refine ⟨reads_of_spelled ?_ hn hsum, encode?_eq kind seed id⟩
  rw [encode, number_eq, Digits.fixed_eq_ofNat hn.1 (Nat.lt_succ_of_le hn.2), letters_eq, letterText,
    Text.ofInt_eq_toString, String.ofList_append, String.ofList_append, String.ofList_toList,
    ← Text.ofNat_eq_toString]
  rfl

end ReviewDesk.TicketCode
