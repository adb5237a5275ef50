import Mathlib.Data.Bool.AllAny
import ReviewDesk.Kind
import ReviewDesk.Notice
import ReviewDesk.Proofs.Text.Bytes
import ReviewDesk.Proofs.Text.Core
import ReviewDesk.Proofs.Text.Lowercase

/-!
The topics of notices. A notice concerns access if, with its letters lowered and the blanks at its
front gone, it begins with the lead of such notices (`topic_eq_accessSync_iff`). So neither blanks
around a notice nor the case of its letters matter, and what is kept of it for diagnosis is on the
same topic (`topic_excerpt_trim`). What is announced about rights is heard as that
(`topic_accessSync`), and what is announced for an item is heard as dispatch unless the kind it is
announced under is itself such a lead (`topic_of_dispatch?_iff`).
-/

set_option autoImplicit false
set_option relaxedAutoImplicit false

namespace ReviewDesk

namespace Notice

open Text

/-! ### Recognition -/

theorem topic_eq_accessSync_iff {payload : String} :
    topic payload = .accessSync ↔
      accessLead.toList <+: dropBlanks (payload.toList.map Char.toLower) := by
  have hlead : accessLead.toList.map Char.toLower = accessLead.toList := by decide
  have hlength : accessLead.length = accessLead.toList.length := rfl
  have hif : topic payload = .accessSync ↔
      sameIgnoringCase ((dropBlanks payload.toList).take accessLead.length) accessLead.toList := by
    rw [topic]
    split <;> simp_all
  rw [hif, sameIgnoringCase, beq_iff_eq, hlead, List.map_take, ← dropBlanks_map_toLower, hlength,
    List.prefix_iff_eq_take, eq_comm]

/-- Cutting the first twelve bytes off tells the same, also where a character reaches over the cut. -/
theorem topic_eq_accessSync_iff_bytes {payload : String} :
    topic payload = .accessSync ↔
      ((bytes (trimStart payload)).take 12).map lowerByte = bytes accessLead := by
  have hascii : ∀ l ∈ accessLead.toList, l.toNat ≤ 127 :=
    List.all_iff_forall_prop.mp (by decide)
  have hlength : (bytes accessLead).length = 12 := by decide
  rw [topic_eq_accessSync_iff, dropBlanks_map_toLower, ← prefix_map_lowerByte_iff hascii,
    ← bytes_eq_flatMap, List.prefix_iff_eq_take, hlength, ← List.map_take, eq_comm,
    bytes_eq_flatMap (trimStart payload), trimStart, String.toList_ofList]

theorem topic_eq_topic_iff {payload other : String} :
    topic payload = topic other ↔ (topic payload = .accessSync ↔ topic other = .accessSync) := by
  cases topic payload <;> cases topic other <;> simp

/-- The case of ASCII letters does not matter. -/
theorem topic_congr {payload other : String}
    (h : sameIgnoringCase payload.toList other.toList) : topic payload = topic other := by
  rw [sameIgnoringCase, beq_iff_eq] at h
  rw [topic_eq_topic_iff, topic_eq_accessSync_iff, topic_eq_accessSync_iff, h]

/-- A lead that ends with no blank is not touched when blanks are taken off the end. -/
theorem prefix_dropBlanksEnd_iff {lead : List Char} {last : Char} (h : isBlank last = false)
    {cs : List Char} : lead ++ [last] <+: dropBlanksEnd cs ↔ lead ++ [last] <+: cs := by
  constructor
  · exact fun hprefix ↦ hprefix.trans (List.rdropWhile_prefix isBlank cs)
  · rintro ⟨rest, rfl⟩
    rw [List.append_assoc, List.singleton_append, dropBlanksEnd_concat_append lead h]
    exact ⟨dropBlanksEnd rest, by simp⟩

theorem topic_trim (payload : String) : topic (trim payload) = topic payload := by
  have hlast : accessLead.toList = "access_sync".toList ++ [':'] := rfl
  rw [topic_eq_topic_iff, topic_eq_accessSync_iff, topic_eq_accessSync_iff, toList_trim,
    ← trimChars_map_toLower, dropBlanks_eq_self (isBare_trimChars _).1, hlast, trimChars,
    prefix_dropBlanksEnd_iff (by decide)]

/-- Blanks around a notice do not matter. -/
theorem topic_surround {lead trail : List Char} (hlead : ∀ c ∈ lead, isBlank c)
    (htrail : ∀ c ∈ trail, isBlank c) (payload : String) :
    topic (String.ofList (lead ++ payload.toList ++ trail)) = topic payload := by
  have hsame : trim (String.ofList (lead ++ payload.toList ++ trail)) = trim payload := by
    rw [trim, String.toList_ofList, trimChars_surround hlead htrail, trim]
  rw [← topic_trim, hsame, topic_trim]

/-- What is kept of a notice for diagnosis is on its topic. -/
theorem topic_excerpt_trim (payload : String) : topic (excerpt (trim payload)) = topic payload := by
  have hbare : IsBare ((trim payload).toList.map Char.toLower) := by
    rw [toList_trim, ← trimChars_map_toLower]
    exact isBare_trimChars _
  have hlength : accessLead.toList.length ≤ 180 := by decide
  rw [← topic_trim payload, topic_eq_topic_iff, topic_eq_accessSync_iff, topic_eq_accessSync_iff,
    excerpt, String.toList_ofList, List.map_take, dropBlanks_eq_self hbare.1, dropBlanks_eq_self,
    List.prefix_take_iff]
  · exact and_iff_left hlength
  · rw [List.head?_take, if_neg (by decide)]
    exact hbare.1

/-! ### What producers announce -/

theorem topic_accessSync (reason : String) :
    topic (trim (accessSync reason)) = .accessSync := by
  have hlead : accessLead.toList.map Char.toLower = 'a' :: "ccess_sync:".toList := rfl
  rw [topic_trim, topic_eq_accessSync_iff, accessSync, String.toList_append, List.map_append, hlead,
    dropBlanks_eq_self]
  · exact List.prefix_append _ _
  · rintro c ⟨⟩
    decide

/-- A word and a mark that is not in it begin a text before whose first mark another word stands,
exactly if they begin that word or the two words are the same. -/
theorem prefix_append_cons_iff {word other rest : List Char} {mark : Char} (h : mark ∉ word) :
    word ++ [mark] <+: other ++ mark :: rest ↔ other = word ∨ word ++ [mark] <+: other := by
  constructor
  · intro hprefix
    rcases Nat.lt_or_ge word.length other.length with hlength | hlength
    · refine Or.inr (List.prefix_of_prefix_length_le hprefix (List.prefix_append _ _) ?_)
      rwa [List.length_append, List.length_singleton]
    · refine Or.inl ?_
      obtain ⟨more, rfl⟩ : other <+: word :=
        List.prefix_of_prefix_length_le (List.prefix_append _ _)
          ((List.prefix_append word [mark]).trans hprefix) hlength
      rw [List.append_assoc, List.prefix_append_right_inj] at hprefix
      cases more with
      | nil => exact (List.append_nil other).symm
      | cons c more =>
        obtain ⟨rfl, -⟩ := List.cons_prefix_cons.mp hprefix
        exact absurd (List.mem_append_right other List.mem_cons_self) h
  · rintro (rfl | hprefix)
    · exact (List.prefix_append_right_inj other).mpr (List.cons_prefix_cons.mpr ⟨rfl, List.nil_prefix⟩)
    · exact hprefix.trans (List.prefix_append _ _)

theorem dispatch?_eq_none_iff {kind id : String} :
    dispatch? kind id = none ↔ ∀ c ∈ id.toList, isBlank c := by
  rw [dispatch?, ← trimChars_eq_nil_iff, ← toList_trim, String.toList_eq_nil_iff,
    ← String.isEmpty_iff]
  split <;> simp_all

/-- A notice under a lowered name is recognised by that name alone. -/
theorem topic_name_iff {name : String} (hlower : name.toList.map Char.toLower = name.toList)
    (hfirst : ∃ first rest, name.toList = first :: rest ∧ isBlank first = false) (id : String) :
    topic (name ++ ":" ++ id) = .accessSync ↔
      name = "access_sync" ∨ "access_sync:".toList <+: name.toList := by
  obtain ⟨first, rest, hname, hblank⟩ := hfirst
  have hlist : (name ++ ":" ++ id).toList.map Char.toLower =
      name.toList ++ ':' :: id.toList.map Char.toLower := by
    rw [String.toList_append, String.toList_append, List.append_assoc, List.map_append, hlower]
    rfl
  have hstart : dropBlanks (name.toList ++ ':' :: id.toList.map Char.toLower) =
      name.toList ++ ':' :: id.toList.map Char.toLower := by
    apply dropBlanks_eq_self
    rw [hname]
    rintro c ⟨⟩
    exact hblank
  have hword : ':' ∉ "access_sync".toList := by decide
  rw [topic_eq_accessSync_iff, hlist, hstart, ← String.toList_inj]
  exact prefix_append_cons_iff hword

/-- The notice for an item concerns dispatch, unless the kind it is announced under reads like a
notice about access. -/
theorem topic_of_dispatch?_iff {kind id payload : String} (h : dispatch? kind id = some payload) :
    topic payload = .accessSync ↔
      lower (trim kind) = "access_sync" ∨ "access_sync:".toList <+: (lower (trim kind)).toList := by
  rw [dispatch?] at h
  split at h
  · cases h
  · obtain rfl := Option.some.inj h
    by_cases hempty : (lower (trim kind)).isEmpty
    · have hunknown := @topic_name_iff "unknown" (by decide)
        ⟨'u', "nknown".toList, rfl, by decide⟩ (trim id)
      rw [if_pos hempty, hunknown, String.isEmpty_iff.mp hempty]
      decide
    · rw [if_neg hempty]
      refine topic_name_iff (map_toLower_lower _) ?_ (trim id)
      cases hkind : (trim kind).toList with
      | nil =>
        refine absurd ?_ hempty
        rw [String.toList_eq_nil_iff.mp hkind]
        rfl
      | cons c cs =>
        have hbare : IsBare (trim kind).toList := toList_trim kind ▸ isBare_trimChars kind.toList
        rw [hkind] at hbare
        exact exists_lower_cons hkind (hbare.1 c rfl)

theorem lower_ledgerName (kind : Kind) : lower (trim kind.ledgerName) = kind.ledgerName := by
  cases kind <;> decide +kernel

theorem dispatch?_eq (kind : Kind) (id : String) :
    dispatch? kind.ledgerName id =
      if (trim id).isEmpty then none else some (kind.ledgerName ++ ":" ++ trim id) := by
  have hnamed : kind.ledgerName.isEmpty = false := by cases kind <;> decide
  rw [dispatch?, lower_ledgerName]
  simp only [hnamed, Bool.false_eq_true, if_false]

/-- No name in the ledger reads like a notice about access. -/
theorem topic_of_dispatch? {kind : Kind} {id payload : String}
    (h : dispatch? kind.ledgerName id = some payload) : topic (trim payload) = .dispatch := by
  have haccess : ¬topic payload = .accessSync := by
    rw [topic_of_dispatch?_iff h, lower_ledgerName]
    cases kind <;> decide
  rw [topic_trim]
  cases htopic : topic payload with
  | dispatch => rfl
  | accessSync => exact absurd htopic haccess

end Notice

end ReviewDesk
