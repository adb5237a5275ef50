import Mathlib.Data.List.TakeDrop
import ReviewDesk.ActionRef
import ReviewDesk.Proofs.Text.Trim

/-!
Reading an action reference back from its text. Neither the mark of a kind nor the name of an action
holds a colon or a blank, so both come back as they were written, and so does the identifier but for
the blanks around it (`read?_text`). A reference is therefore read back as itself exactly if its
identifier is not empty and has none (`read?_text_eq_some_iff`).
-/

set_option autoImplicit false
set_option relaxedAutoImplicit false

namespace ReviewDesk

namespace ItemId

/-- An identifier with no blanks around it. -/
def IsTrimmed (id : ItemId) : Prop := ofText id.text = id

instance (id : ItemId) : Decidable id.IsTrimmed := inferInstanceAs (Decidable (ofText id.text = id))

theorem ofText_dropBlanksEnd (cs : List Char) :
    ofText (String.ofList (Text.dropBlanksEnd cs)) = ofText (String.ofList cs) := by
  rw [ofText, ofText, Text.trim, Text.trim, String.toList_ofList, String.toList_ofList,
    Text.trimChars_dropBlanksEnd]

end ItemId

theorem Action.read?_name (action : Action) : Action.read? action.name = some action := by
  cases action <;> decide +kernel

namespace ActionRef

theorem cut?_append {before : List Char} (h : ':' ∉ before) (after : List Char) :
    cut? (before ++ ':' :: after) = some (before, after) := by
  have hbefore : ∀ c ∈ before, (c != ':') = true := by
    intro c hc
    rw [bne_iff_ne]
    rintro rfl
    exact h hc
  have hspan : (before ++ ':' :: after).span (· != ':') = (before, ':' :: after) := by
    rw [List.span_eq_takeWhile_dropWhile, List.takeWhile_append_of_pos hbefore,
      List.dropWhile_append_of_pos hbefore]
    simp
  rw [cut?, hspan]

theorem toList_text (ref : ActionRef) :
    ref.text.toList =
      ref.kind.mark.toList ++ ':' :: (ref.action.name.toList ++ ':' :: ref.item.text.toList) := by
  simp [text]

/-- Trimming the text of a reference takes no blanks but those behind the identifier. -/
theorem trimChars_text (ref : ActionRef) :
    Text.trimChars ref.text.toList =
      ref.kind.mark.toList ++
        ':' :: (ref.action.name.toList ++ ':' :: Text.dropBlanksEnd ref.item.text.toList) := by
  obtain ⟨first, rest, hmark, hfirst⟩ : ∃ first rest,
      ref.kind.mark.toList = first :: rest ∧ Text.isBlank first = false := by
    cases ref.kind with
    | deposit => exact ⟨'d', "ep".toList, rfl, by decide⟩
    | kyc => exact ⟨'k', "yc".toList, rfl, by decide⟩
  have hlist : ref.text.toList =
      first :: (rest ++ ':' :: ref.action.name.toList) ++ ':' :: ref.item.text.toList := by
    rw [toList_text, hmark]
    simp
  rw [hlist, Text.trimChars_append hfirst (by decide), hmark]
  simp

theorem read?_text (ref : ActionRef) :
    read? ref.text =
      if (ItemId.ofText ref.item.text).isEmpty then none
      else some ⟨ref.kind, ref.action, ItemId.ofText ref.item.text⟩ := by
  have hmark : ':' ∉ ref.kind.mark.toList := by cases ref.kind <;> decide
  have hname : ':' ∉ ref.action.name.toList := by cases ref.action <;> decide
  have hitem := ItemId.ofText_dropBlanksEnd ref.item.text.toList
  rw [String.ofList_toList] at hitem
  rw [read?, trimChars_text, cut?_append hmark]
  simp only [Option.bind_eq_bind, Option.bind_some]
  rw [cut?_append hname]
  simp only [Option.bind_some, Kind.ofMark?_mark, String.ofList_toList, Action.read?_name, hitem]

theorem read?_text_eq_some_iff (ref : ActionRef) :
    read? ref.text = some ref ↔ ref.item.isEmpty = false ∧ ref.item.IsTrimmed := by
  rw [read?_text, ItemId.IsTrimmed]
  constructor
  · intro h
    split at h
    · cases h
    · rename_i hempty
      have hitem : ItemId.ofText ref.item.text = ref.item :=
        congrArg ActionRef.item (Option.some.inj h)
      rw [hitem, Bool.not_eq_true] at hempty
      exact ⟨hempty, hitem⟩
  · rintro ⟨hempty, hitem⟩
    rw [hitem, hempty]
    rfl

end ActionRef

end ReviewDesk
