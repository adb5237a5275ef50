import ReviewDesk.Proofs.Text.Bytes
import ReviewDesk.Proofs.TicketCode.Polynomial

/-!
Ticket codes in words of 64 bits. Here every sum and every product has to fit in its word, and there
is no code if one does not. They always do (`encode?_eq`): a reduced sum is small enough for one
more character, and the magnitude of a ledger number is at most the half of what a word holds.
-/

set_option autoImplicit false
set_option relaxedAutoImplicit false

namespace ReviewDesk.TicketCode

/-! ### Checked arithmetic -/

def add? (a b : UInt64) : Option UInt64 :=
  if a.toNat + b.toNat < UInt64.size then some (a + b) else none

def mul? (a b : UInt64) : Option UInt64 :=
  if a.toNat * b.toNat < UInt64.size then some (a * b) else none

/-- A computation that gives a number, in a word that it fits in. -/
def Gives (result : Option UInt64) (n : Nat) : Prop := ∃ word, result = some word ∧ word.toNat = n

theorem gives_some (word : UInt64) : Gives (some word) word.toNat := ⟨word, rfl, rfl⟩

theorem gives_add? {a b : UInt64} (h : a.toNat + b.toNat < UInt64.size) :
    Gives (add? a b) (a.toNat + b.toNat) :=
  ⟨a + b, if_pos h, (UInt64.toNat_add a b).trans (Nat.mod_eq_of_lt h)⟩

theorem gives_mul? {a b : UInt64} (h : a.toNat * b.toNat < UInt64.size) :
    Gives (mul? a b) (a.toNat * b.toNat) :=
  ⟨a * b, if_pos h, (UInt64.toNat_mul a b).trans (Nat.mod_eq_of_lt h)⟩

theorem Gives.bind {result : Option UInt64} {n m : Nat} {next : UInt64 → Option UInt64}
    (h : Gives result n) (hnext : ∀ word, word.toNat = n → Gives (next word) m) :
    Gives (result >>= next) m := by
  obtain ⟨word, rfl, hword⟩ := h
  exact hnext word hword

/-! ### The parts of a code -/

def rollingStep? (base modulus sum : UInt64) (c : Char) : Option UInt64 := do
  let shifted ← mul? sum base
  let total ← add? shifted c.val.toUInt64
  some (total % modulus)

def rolling? (base modulus : UInt64) (cs : List Char) : Option UInt64 :=
  cs.foldlM (rollingStep? base modulus) 0

def lift? (n : UInt64) : Option UInt64 := if n < 1000000 then add? n 1000000 else some n

def idNumber? (id : String) : Option UInt64 := rolling? 33 9000000 id.toList >>= lift?

/-- The magnitude of a ledger number. -/
def magnitude (seed : Int64) : UInt64 := UInt64.ofNat seed.toInt.natAbs

def seedNumber? (seed : Int64) (id : String) : Option UInt64 :=
  if magnitude seed = 0 then idNumber? id else some (magnitude seed)

def tail? (seed : Int64) (id : String) : Option UInt64 := do
  let tail := (← seedNumber? seed id) % 10000000
  if tail = 0 then idNumber? id >>= fun n ↦ some (n % 10000000) else some tail

def number? (seed : Int64) (id : String) : Option UInt64 := tail? seed id >>= lift?

/-- The letter at a place in the alphabet, a sum of bytes. -/
def letter? (n : UInt64) : Option Char :=
  let index := (n % 26).toUInt8
  if 97 + index.toNat < UInt8.size then some (Char.ofUInt8 (97 + index)) else none

def letters? (cs : List Char) : Option (List Char) := do
  let sum ← rolling? 131 676 cs
  let first ← letter? (sum / 26 % 26)
  let second ← letter? (sum % 26)
  some [first, second]

def encode? (kind : Kind) (seed : Int64) (id : String) : Option String := do
  let body ← number? seed id
  let pair ← letters? (letterText kind seed id).toList
  some (String.ofList (kind.ticketLead.toList ++ Digits.text (Digits.fixed 7 body.toNat) ++ pair))

theorem gives_rollingStep? {base modulus sum : UInt64} {c : Char}
    (h : sum.toNat * base.toNat + c.toNat < UInt64.size) :
    Gives (rollingStep? base modulus sum c)
      ((sum.toNat * base.toNat + c.toNat) % modulus.toNat) := by
  have hchar : c.val.toUInt64.toNat = c.toNat := UInt32.toNat_toUInt64 c.val
  refine (gives_mul? (by omega)).bind fun shifted hshifted ↦ ?_
  rw [← hshifted, ← hchar] at h ⊢
  refine (gives_add? h).bind fun total htotal ↦ ?_
  rw [← htotal]
  exact ⟨_, rfl, UInt64.toNat_mod total modulus⟩

theorem rolling_lt {base modulus : Nat} (h : 0 < modulus) (cs : List Char) :
    rolling base modulus cs < modulus := by
  rw [rolling_eq]
  exact Nat.mod_lt _ h

/-- A reduced sum leaves room for one more character. -/
theorem gives_rolling? {base modulus : UInt64} (hmodulus : 0 < modulus.toNat)
    (h : modulus.toNat * base.toNat + 1114112 ≤ UInt64.size) (cs : List Char) :
    Gives (rolling? base modulus cs) (rolling base.toNat modulus.toNat cs) := by
  induction cs using List.reverseRecOn with
  | nil => exact gives_some 0
  | append_singleton cs c ih =>
    have hfold : rolling? base modulus (cs ++ [c]) =
        rolling? base modulus cs >>= fun sum ↦ rollingStep? base modulus sum c := by
      rw [rolling?, List.foldlM_append]
      exact bind_congr fun sum ↦ bind_pure _
    have hstep : rolling base.toNat modulus.toNat (cs ++ [c]) =
        (rolling base.toNat modulus.toNat cs * base.toNat + c.toNat) % modulus.toNat :=
      List.foldl_append
    rw [hfold, hstep]
    refine ih.bind fun sum hsum ↦ ?_
    have hsum_lt : sum.toNat < modulus.toNat := hsum ▸ rolling_lt hmodulus cs
    have hprod : sum.toNat * base.toNat ≤ modulus.toNat * base.toNat :=
      Nat.mul_le_mul_right _ hsum_lt.le
    have hchar := Text.toNat_lt c
    rw [← hsum]
    exact gives_rollingStep? (by omega)

theorem gives_lift? {n : UInt64} (h : n.toNat < 10000000) : Gives (lift? n) (lift n.toNat) := by
  rw [lift?, lift]
  have hlow : n < 1000000 ↔ n.toNat < 1000000 := UInt64.lt_iff_toNat_lt
  by_cases hn : n < 1000000
  · rw [if_pos hn, if_pos (hlow.mp hn)]
    refine gives_add? ?_
    have hsize : 20000000 < UInt64.size := by decide
    have hmillion : (1000000 : UInt64).toNat = 1000000 := rfl
    omega
  · rw [if_neg hn, if_neg (hn ∘ hlow.mpr)]
    exact gives_some n

theorem gives_idNumber? (id : String) : Gives (idNumber? id) (idNumber id) := by
  have hrolling : Gives (rolling? 33 9000000 id.toList) (rolling 33 9000000 id.toList) :=
    gives_rolling? (by decide) (by decide) id.toList
  refine hrolling.bind fun sum hsum ↦ ?_
  have hlt : rolling 33 9000000 id.toList < 9000000 := rolling_lt (by decide) _
  rw [idNumber, ← hsum]
  exact gives_lift? (by omega)

theorem idNumber_lt (id : String) : idNumber id < 9000000 :=
  lift_lt (rolling_lt (by decide) _) (by decide)

theorem toNat_magnitude (seed : Int64) : (magnitude seed).toNat = seed.toInt.natAbs := by
  have hle : seed.toInt ≤ 9223372036854775807 := seed.toInt_le
  have hge : -9223372036854775808 ≤ seed.toInt := seed.minValue_le_toInt
  rw [magnitude, UInt64.toNat_ofNat']
  omega

theorem toNat_eq_zero_iff {word : UInt64} : word = 0 ↔ word.toNat = 0 :=
  UInt64.toNat_inj.symm

theorem gives_seedNumber? (seed : Int64) (id : String) :
    Gives (seedNumber? seed id)
      (if seed.toInt.natAbs = 0 then idNumber id else seed.toInt.natAbs) := by
  have hzero : magnitude seed = 0 ↔ seed.toInt.natAbs = 0 := by
    rw [toNat_eq_zero_iff, toNat_magnitude]
  rw [seedNumber?]
  by_cases h : magnitude seed = 0
  · rw [if_pos h, if_pos (hzero.mp h)]
    exact gives_idNumber? id
  · rw [if_neg h, if_neg (hzero.not.mp h)]
    exact ⟨_, rfl, toNat_magnitude seed⟩

/-- The identifier's number has seven digits already, so reducing it once more leaves it as it is. -/
theorem gives_tail? (seed : Int64) (id : String) :
    Gives (tail? seed id)
      (if seed.toInt.natAbs % 10000000 = 0 then idNumber id else seed.toInt.natAbs % 10000000) := by
  have hlt := idNumber_lt id
  have hpos : 1000000 ≤ idNumber id := le_lift _
  refine (gives_seedNumber? seed id).bind fun drawn hdrawn ↦ ?_
  have htail : (drawn % 10000000).toNat = drawn.toNat % 10000000 := UInt64.toNat_mod ..
  have hzero : drawn % 10000000 = 0 ↔ drawn.toNat % 10000000 = 0 := by
    rw [toNat_eq_zero_iff, htail]
  by_cases h : drawn % 10000000 = 0
  · have hseed : seed.toInt.natAbs % 10000000 = 0 := by
      have hmod := hzero.mp h
      split at hdrawn <;> omega
    rw [if_pos h, if_pos hseed]
    refine (gives_idNumber? id).bind fun n hn ↦ ⟨_, rfl, ?_⟩
    calc (n % 10000000).toNat = n.toNat % 10000000 := UInt64.toNat_mod ..
      _ = idNumber id := by omega
  · rw [if_neg h]
    refine ⟨_, rfl, ?_⟩
    have hmod := hzero.not.mp h
    rw [htail]
    split at hdrawn <;> split <;> omega

theorem gives_number? (seed : Int64) (id : String) : Gives (number? seed id) (number seed id) := by
  refine (gives_tail? seed id).bind fun tail htail ↦ ?_
  have hlt : tail.toNat < 10000000 := by
    have hid := idNumber_lt id
    rw [htail]
    split <;> omega
  have hnumber : number seed id = lift tail.toNat := congrArg lift htail.symm
  rw [hnumber]
  exact gives_lift? hlt

/-! ### A whole code -/

theorem letter?_eq (n : UInt64) : letter? n = some (letter n.toNat) := by
  have hindex : (n % 26).toUInt8.toNat = n.toNat % 26 := by
    rw [UInt64.toNat_toUInt8, UInt64.toNat_mod]
    change n.toNat % 26 % 256 = n.toNat % 26
    omega
  have hfits : 97 + (n % 26).toUInt8.toNat < UInt8.size := by
    have hsize : UInt8.size = 256 := rfl
    omega
  have hbyte : (97 + (n % 26).toUInt8).toNat = 97 + n.toNat % 26 := by
    rw [← hindex]
    exact (UInt8.toNat_add ..).trans (Nat.mod_eq_of_lt hfits)
  rw [letter?, if_pos hfits, letter, ← hbyte]
  exact congrArg some (Char.ofNat_toNat (Char.ofUInt8 (97 + (n % 26).toUInt8))).symm

theorem letter_mod (n : Nat) : letter (n % 26) = letter n := by
  rw [letter, Nat.mod_mod, letter]

theorem letters?_eq (cs : List Char) : letters? cs = some (letters cs) := by
  obtain ⟨sum, hrolling, hsum⟩ : Gives (rolling? 131 676 cs) (rolling 131 676 cs) :=
    gives_rolling? (by decide) (by decide) cs
  have hfirst : letter? (sum / 26 % 26) = some (letter (rolling 131 676 cs / 26)) := by
    rw [letter?_eq, UInt64.toNat_mod, UInt64.toNat_div, hsum]
    exact congrArg some (letter_mod _)
  have hsecond : letter? (sum % 26) = some (letter (rolling 131 676 cs)) := by
    rw [letter?_eq, UInt64.toNat_mod, hsum]
    exact congrArg some (letter_mod _)
  rw [letters?, hrolling]
  simp only [Option.bind_eq_bind, Option.bind_some, hfirst, hsecond]
  rfl

/-- No sum and no product leaves its word, whatever the ledger number and the identifier. -/
theorem encode?_eq (kind : Kind) (seed : Int64) (id : String) :
    encode? kind seed id = some (encode kind seed id) := by
  obtain ⟨body, hbody, hnumber⟩ := gives_number? seed id
  rw [encode?, hbody, letters?_eq, encode, ← hnumber]
  rfl

example : encode? .kyc Int64.minValue "abc" = some "BXkyc4775808op" := by decide +kernel

end ReviewDesk.TicketCode
