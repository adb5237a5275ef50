import ReviewDesk.Proofs.ActionRef.Reading
import ReviewDesk.Proofs.Text.Casing
import ReviewDesk.Proofs.Text.Core

/-!
The grammar of action references. A text spells a reference if its core is the mark of the kind, the
action up to blanks and ASCII case, and the identifier up to blanks, with a colon between each two
(`Spells`). Reading takes exactly the texts that spell a reference, and gives that reference
(`read?_eq_some_iff`). Of all its spellings the written text is the one that every reference that
can be read has to itself (`canonical_read?`).
-/

set_option autoImplicit false
set_option relaxedAutoImplicit false

namespace ReviewDesk

theorem Kind.ofMark?_eq_some_iff {kind : Kind} {mark : List Char} :
    Kind.ofMark? mark = some kind ↔ mark = kind.mark.toList := by
  refine ⟨fun h ↦ ?_, fun h ↦ h ▸ Kind.ofMark?_mark kind⟩
  have hfound := List.find?_some h
  exact (beq_iff_eq.mp hfound).symm

theorem Action.read?_eq_some_iff {action : Action} {word : List Char} :
    Action.read? (String.ofList word) = some action ↔
      Text.sameIgnoringCase (Text.trimChars word) action.name.toList := by
  have hlower : ∀ action : Action, action.name.toList.map Char.toLower = action.name.toList := by
    intro action
    cases action <;> decide
  have hname : ∀ action : Action,
      (action.name == Text.lowerAscii (Text.trim (String.ofList word))) =
        Text.sameIgnoringCase (Text.trimChars word) action.name.toList := by
    intro action
    rw [Text.sameIgnoringCase, hlower, Text.lowerAscii, Text.toList_trim, String.toList_ofList,
      Bool.eq_iff_iff, beq_iff_eq, beq_iff_eq, eq_comm, ← String.toList_inj, String.toList_ofList]
  rw [Action.read?]
  simp only [hname, Action.all]
  constructor
  · intro h
    have hfound := List.find?_some h
    exact hfound
  · intro h
    cases action with
    | approve => simp [h]
    | reject =>
      -- A word is not both actions.
      have hother : Text.sameIgnoringCase (Text.trimChars word) Action.approve.name.toList = false := by
        rw [Text.sameIgnoringCase, beq_iff_eq] at h
        rw [Text.sameIgnoringCase, h]
        decide
      simp [h, hother]

namespace ItemId

open Text

theorem isEmpty_iff {id : ItemId} : id.isEmpty = true ↔ id.text.toList = [] := by
  rw [isEmpty, String.isEmpty_iff, String.toList_eq_nil_iff]

theorem toList_ofText (cs : List Char) : (ofText (String.ofList cs)).text.toList = trimChars cs := by
  rw [ofText, toList_trim, String.toList_ofList]

theorem ofText_eq_iff {cs : List Char} {id : ItemId} :
    ofText (String.ofList cs) = id ↔ trimChars cs = id.text.toList := by
  refine ⟨fun h ↦ h ▸ (toList_ofText cs).symm, fun h ↦ ?_⟩
  rw [ofText, trim, String.toList_ofList, h, String.ofList_toList]

theorem isTrimmed_iff {id : ItemId} : id.IsTrimmed ↔ trimChars id.text.toList = id.text.toList := by
  rw [IsTrimmed, ← ofText_eq_iff, String.ofList_toList]

end ItemId

namespace ActionRef

open Text

/-- How a reference is spelled: the mark as it is, the action and the identifier with blanks around
them, the action in any ASCII case, and blanks around the whole. -/
def Spells (text : String) (ref : ActionRef) : Prop :=
  ∃ action id : List Char,
    IsCore (ref.kind.mark.toList ++ ':' :: (action ++ ':' :: id)) text.toList ∧
      ':' ∉ action ∧
      (∃ word, IsCore word action ∧ sameIgnoringCase word ref.action.name.toList) ∧
      (∃ c ∈ id, isBlank c = false) ∧ IsCore ref.item.text.toList id

theorem cut?_eq_some_iff {cs before after : List Char} :
    cut? cs = some (before, after) ↔ ':' ∉ before ∧ cs = before ++ ':' :: after := by
  constructor
  · intro h
    rw [cut?, List.span_eq_takeWhile_dropWhile] at h
    have hwhole := List.takeWhile_append_dropWhile (p := (· != ':')) (l := cs)
    have hfirst := List.head?_dropWhile_not (· != ':') cs
    cases hrest : cs.dropWhile (· != ':') with
    | nil => simp [hrest] at h
    | cons c rest =>
      rw [hrest] at h hwhole hfirst
      obtain ⟨rfl, rfl⟩ := Prod.mk.inj (Option.some.inj h)
      obtain rfl : c = ':' := by simpa using hfirst
      refine ⟨fun hmem ↦ ?_, hwhole.symm⟩
      simpa using List.mem_takeWhile_imp hmem
  · rintro ⟨hbefore, rfl⟩
    exact cut?_append hbefore after

/-- A text is read part by part, and each part says what it has to. -/
theorem read?_eq_some_iff_parts {text : String} {ref : ActionRef} :
    read? text = some ref ↔ ∃ action id : List Char,
      trimChars text.toList = ref.kind.mark.toList ++ ':' :: (action ++ ':' :: id) ∧
        ':' ∉ action ∧ sameIgnoringCase (trimChars action) ref.action.name.toList ∧
        trimChars id ≠ [] ∧ trimChars id = ref.item.text.toList := by
  have hmark : ':' ∉ ref.kind.mark.toList := by cases ref.kind <;> decide
  constructor
  · intro h
    simp only [read?, Option.bind_eq_bind, Option.bind_eq_some_iff] at h
    obtain ⟨⟨mark, rest⟩, hfirst, ⟨action, id⟩, hsecond, kind, hkind, decision, haction, hitem⟩ := h
    split at hitem
    · cases hitem
    · rename_i hfull
      cases hitem
      rw [cut?_eq_some_iff] at hfirst hsecond
      rw [Kind.ofMark?_eq_some_iff] at hkind
      rw [ItemId.isEmpty_iff, ItemId.toList_ofText] at hfull
      refine ⟨action, id, ?_, hsecond.1, Action.read?_eq_some_iff.mp haction, hfull,
        ItemId.ofText_eq_iff.mp rfl⟩
      exact hfirst.2.trans (congrArg₂ (· ++ ':' :: ·) hkind hsecond.2)
  · rintro ⟨action, id, htext, hcolon, haction, hfull, hitem⟩
    have hid := ItemId.ofText_eq_iff.mpr hitem
    have hempty : ref.item.isEmpty ≠ true := by rwa [ne_eq, ItemId.isEmpty_iff, ← hitem]
    rw [read?, htext, cut?_append hmark]
    simp only [Option.bind_eq_bind, Option.bind_some, cut?_append hcolon, Kind.ofMark?_mark,
      Action.read?_eq_some_iff.mpr haction, hid, if_neg hempty]

theorem read?_eq_some_iff {text : String} {ref : ActionRef} :
    read? text = some ref ↔ Spells text ref := by
  rw [read?_eq_some_iff_parts]
  refine exists_congr fun action ↦ exists_congr fun id ↦ ?_
  have hword : (∃ word, IsCore word action ∧ sameIgnoringCase word ref.action.name.toList) ↔
      sameIgnoringCase (trimChars action) ref.action.name.toList := by
    simp only [← trimChars_eq_iff, exists_eq_left']
  have hfull : (∃ c ∈ id, isBlank c = false) ↔ trimChars id ≠ [] := by
    simp [trimChars_eq_nil_iff]
  rw [hword, hfull, trimChars_eq_iff, trimChars_eq_iff]

/-- A reference with an identifier that is not blank and has no blanks around it. -/
def IsReadable (ref : ActionRef) : Prop :=
  (∃ c ∈ ref.item.text.toList, isBlank c = false) ∧ IsBare ref.item.text.toList

theorem isReadable_iff {ref : ActionRef} :
    ref.IsReadable ↔ ref.item.isEmpty = false ∧ ref.item.IsTrimmed := by
  rw [ItemId.isTrimmed_iff, Bool.eq_false_iff, ne_eq, ItemId.isEmpty_iff]
  constructor
  · rintro ⟨⟨c, hc, -⟩, hbare⟩
    exact ⟨List.ne_nil_of_mem hc, trimChars_eq_self hbare⟩
  · rintro ⟨hfull, htrim⟩
    refine ⟨?_, (trimChars_eq_iff.mp htrim).bare⟩
    by_contra hblank
    refine hfull (htrim.symm.trans (trimChars_eq_nil_iff.mpr fun c hc ↦ ?_))
    by_contra hc'
    exact hblank ⟨c, hc, Bool.eq_false_iff.mpr hc'⟩

theorem read?_text_of_isReadable {ref : ActionRef} (h : ref.IsReadable) :
    read? ref.text = some ref :=
  (read?_text_eq_some_iff ref).mpr (isReadable_iff.mp h)

theorem isReadable_of_read? {text : String} {ref : ActionRef} (h : read? text = some ref) :
    ref.IsReadable := by
  obtain ⟨action, id, -, -, -, hfull, hid⟩ := read?_eq_some_iff_parts.mp h
  rw [isReadable_iff, ItemId.isTrimmed_iff, Bool.eq_false_iff, ne_eq, ItemId.isEmpty_iff, ← hid]
  exact ⟨hfull, trimChars_trimChars id⟩

theorem canonical_read? :
    (∀ text ref, read? text = some ref ↔ Spells text ref) ∧
      (∀ text ref, read? text = some ref → read? ref.text = some ref) ∧
      (∀ ref, IsReadable ref → read? ref.text = some ref) ∧
      ∀ ref other, IsReadable ref → IsReadable other → ref.text = other.text → ref = other := by
  refine ⟨fun _ _ ↦ read?_eq_some_iff, fun _ _ h ↦ read?_text_of_isReadable (isReadable_of_read? h),
    fun _ ↦ read?_text_of_isReadable, fun ref other href hother htext ↦ ?_⟩
  have hread : some ref = some other := calc
    some ref = read? ref.text := (read?_text_of_isReadable href).symm
    _ = read? other.text := congrArg read? htext
    _ = some other := read?_text_of_isReadable hother
  exact Option.some.inj hread

/-- Blanks and capitals where they may be, a colon in the identifier, and a mark with capitals. -/
theorem canonical_read?_loose :
    Spells " kyc: ReJect :\ta:b\u2003" ⟨.kyc, .reject, ⟨"a:b"⟩⟩ ∧
      (∀ ref, ¬Spells "KYC:reject:a:b" ref) ∧
      IsReadable ⟨.kyc, .reject, ⟨"a:b"⟩⟩ ∧
      read? "kyc:reject:a:b" = some ⟨.kyc, .reject, ⟨"a:b"⟩⟩ ∧
      ∀ ref, IsReadable ref → ref.text = "kyc:reject:a:b" → ref = ⟨.kyc, .reject, ⟨"a:b"⟩⟩ := by
  obtain ⟨hspells, hback, -, hone⟩ := canonical_read?
  have hread : read? " kyc: ReJect :\ta:b\u2003" = some ⟨.kyc, .reject, ⟨"a:b"⟩⟩ := by
    decide +kernel
  have hreadable : IsReadable ⟨.kyc, .reject, ⟨"a:b"⟩⟩ := isReadable_iff.mpr (by decide +kernel)
  have htext : ActionRef.text ⟨.kyc, .reject, ⟨"a:b"⟩⟩ = "kyc:reject:a:b" := by decide +kernel
  have hnone : read? "KYC:reject:a:b" = none := by decide +kernel
  refine ⟨(hspells _ _).mp hread, fun ref h ↦ ?_, hreadable, ?_, fun ref href hsame ↦ ?_⟩
  · exact Option.some_ne_none ref (((hspells _ _).mpr h).symm.trans hnone)
  · rw [← htext]
    exact hback _ _ hread
  · exact hone _ _ href hreadable (hsame.trans htext.symm)

end ActionRef

end ReviewDesk
