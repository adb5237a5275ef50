import Mathlib.Order.Defs.LinearOrder
import ReviewDesk.Identity
import ReviewDesk.Proofs.Text.Casing

/-!
Texts by their bytes. In UTF-8 a character with a greater code point never begins with a smaller
byte, and where two characters take up as many bytes the first byte that differs decides
(`encode_append_lt`). So texts stand in the same order by their bytes as by their characters
(`bytes_lt_bytes_iff`), and comparing identifiers comes to comparing bytes. Whether a text begins
with a lead in ASCII shows in its bytes as well, since no byte of any other character is an ASCII
byte (`prefix_map_lowerByte_iff`).
-/

set_option autoImplicit false
set_option relaxedAutoImplicit false

namespace ReviewDesk

namespace Text

open String (utf8EncodeChar)

/-- The bytes of a text in UTF-8. -/
def bytes (text : String) : List UInt8 := text.toUTF8.data.toList

theorem bytes_eq_flatMap (text : String) : bytes text = text.toList.flatMap utf8EncodeChar := by
  rw [bytes, String.toUTF8_eq_toByteArray, ← String.utf8Encode_toList]
  exact List.toList_data_toByteArray

theorem toNat_lt (c : Char) : c.toNat < 1114112 := by
  have hvalid := c.valid
  simp only [UInt32.isValidChar, Nat.isValidChar] at hvalid
  change c.val.toNat < 1114112
  omega

/-- The character with the smaller code point goes first, whatever follows the two. -/
theorem encode_append_lt {c d : Char} (h : c < d) (rest rest' : List UInt8) :
    utf8EncodeChar c ++ rest < utf8EncodeChar d ++ rest' := by
  have hlt : c.val.toNat < d.val.toNat := h
  have hbound : d.val.toNat < 1114112 := toNat_lt d
  simp only [utf8EncodeChar]
  generalize c.val.toNat = m at hlt
  generalize d.val.toNat = n at hlt hbound
  -- One case for each pair of widths. Of two widths the greater one shows in the first byte; within
  -- a width the bytes are the digits of the code point to the base 64.
  split_ifs <;>
    simp only [List.cons_append, List.nil_append, List.cons_lt_cons_iff, UInt8.lt_iff_toNat_lt,
      ← UInt8.toNat_inj, UInt8.toNat_ofNat'] <;>
    simp (disch := omega) only [Nat.mod_eq_of_lt] <;>
    omega

theorem encode_ne_nil (c : Char) : utf8EncodeChar c ≠ [] := by
  unfold utf8EncodeChar
  dsimp only
  split_ifs <;> exact List.cons_ne_nil _ _

theorem flatMap_encode_lt {a b : List Char} (h : a < b) :
    a.flatMap utf8EncodeChar < b.flatMap utf8EncodeChar := by
  induction a generalizing b with
  | nil =>
    cases b with
    | nil => exact absurd h (List.lt_irrefl [])
    | cons d b =>
      obtain ⟨first, rest, hencode⟩ := List.exists_cons_of_ne_nil (encode_ne_nil d)
      rw [List.flatMap_nil, List.flatMap_cons, hencode, List.cons_append]
      exact List.nil_lt_cons first _
  | cons c a ih =>
    cases b with
    | nil => exact absurd h (List.not_lt_nil _)
    | cons d b =>
      rw [List.flatMap_cons, List.flatMap_cons]
      rcases List.cons_lt_cons_iff.mp h with hlt | ⟨rfl, hlt⟩
      · exact encode_append_lt hlt _ _
      · exact List.append_left_lt (ih hlt)

/-- Comparing texts by their bytes is comparing them by their characters. -/
theorem bytes_lt_bytes_iff {a b : String} : bytes a < bytes b ↔ a < b := by
  have hmono : ∀ {a b : String}, a < b → bytes a < bytes b := by
    intro a b h
    rw [bytes_eq_flatMap, bytes_eq_flatMap]
    exact flatMap_encode_lt (String.lt_iff.mp h)
  refine ⟨fun h ↦ ?_, hmono⟩
  by_contra hnot
  rcases Std.lt_trichotomy a b with hlt | rfl | hgt
  · exact hnot hlt
  · exact List.lt_irrefl _ h
  · exact List.lt_asymm h (hmono hgt)

/-! ### Leads in ASCII -/

/-- Lowers the byte of an ASCII capital and leaves every other byte as it is. -/
def lowerByte (b : UInt8) : UInt8 := if 65 ≤ b.toNat ∧ b.toNat ≤ 90 then b + 32 else b

theorem toNat_lowerByte (b : UInt8) :
    (lowerByte b).toNat = if 65 ≤ b.toNat ∧ b.toNat ≤ 90 then b.toNat + 32 else b.toNat := by
  rw [lowerByte]
  split
  · rename_i h
    have hsum : (b + 32).toNat = (b.toNat + 32) % 256 := UInt8.toNat_add b 32
    omega
  · rfl

theorem encode_of_ascii {c : Char} (h : c.toNat ≤ 127) : utf8EncodeChar c = [UInt8.ofNat c.toNat] :=
  if_pos h

/-- A text in ASCII takes up a byte for each character. -/
theorem length_bytes_of_ascii {text : String} (h : ∀ c ∈ text.toList, c.toNat ≤ 127) :
    (bytes text).length = text.length := by
  have hone : text.toList.map (fun c ↦ (utf8EncodeChar c).length) = text.toList.map fun _ ↦ 1 :=
    List.map_congr_left fun c hc ↦ congrArg List.length (encode_of_ascii (h c hc))
  rw [bytes_eq_flatMap, List.length_flatMap, hone, List.map_const', List.sum_replicate_nat,
    Nat.mul_one, String.length_toList]

/-- Beyond ASCII the first byte is none of an ASCII character. -/
theorem exists_encode_cons {c : Char} (h : ¬c.toNat ≤ 127) :
    ∃ first rest, utf8EncodeChar c = first :: rest ∧ 128 ≤ first.toNat := by
  have hencode : utf8EncodeChar c = ite (c.toNat ≤ 127) _ _ := rfl
  rw [hencode, if_neg h]
  split_ifs <;>
    refine ⟨_, _, rfl, ?_⟩ <;>
    rw [UInt8.toNat_ofNat'] <;>
    omega

/-- Whether a text begins with a lead in ASCII, whatever the case of the letters, can be told from
its bytes. -/
theorem prefix_map_lowerByte_iff {lead : List Char} (h : ∀ l ∈ lead, l.toNat ≤ 127)
    (cs : List Char) :
    lead.flatMap utf8EncodeChar <+: (cs.flatMap utf8EncodeChar).map lowerByte ↔
      lead <+: cs.map Char.toLower := by
  induction lead generalizing cs with
  | nil => simp
  | cons l lead ih =>
    obtain ⟨hl, hlead⟩ := List.forall_mem_cons.mp h
    rw [List.flatMap_cons, encode_of_ascii hl, List.singleton_append]
    cases cs with
    | nil => simp
    | cons c cs =>
      rw [List.flatMap_cons, List.map_append, List.map_cons, List.cons_prefix_cons]
      by_cases hc : c.toNat ≤ 127
      · have hbyte : UInt8.ofNat l.toNat = lowerByte (UInt8.ofNat c.toNat) ↔ l = c.toLower := by
          rw [← UInt8.toNat_inj, ← Char.toNat_inj, toNat_lowerByte, toNat_toLower,
            UInt8.toNat_ofNat', UInt8.toNat_ofNat', Nat.mod_eq_of_lt (by omega),
            Nat.mod_eq_of_lt (by omega)]
        rw [encode_of_ascii hc, List.map_singleton, List.singleton_append, List.cons_prefix_cons,
          hbyte, ih hlead]
      · obtain ⟨first, rest, hencode, hfirst⟩ := exists_encode_cons hc
        have hbyte : UInt8.ofNat l.toNat ≠ lowerByte first := by
          intro heq
          have hnat := congrArg UInt8.toNat heq
          rw [UInt8.toNat_ofNat', toNat_lowerByte] at hnat
          split at hnat <;> omega
        have hchar : l ≠ c.toLower := by
          intro heq
          have hnat := congrArg Char.toNat heq
          rw [toNat_toLower] at hnat
          split at hnat <;> omega
        rw [hencode, List.map_cons, List.cons_append, List.cons_prefix_cons]
        simp only [hbyte, hchar, false_and]

end Text

namespace ItemId

/-- The bytes of an identifier. -/
def bytes (id : ItemId) : List UInt8 := Text.bytes id.text

theorem bytes_lt_bytes_iff {a b : ItemId} : a.bytes < b.bytes ↔ a < b := Text.bytes_lt_bytes_iff

end ItemId

end ReviewDesk
