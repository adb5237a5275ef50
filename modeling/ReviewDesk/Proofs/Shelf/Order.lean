import Mathlib.Data.List.Nodup
import ReviewDesk.Proofs.Shelf.Claims

/-!
The order in which pending items are served. It is total, and since no two items of a shelf have one
identifier it leaves no choice: what is pending is one list, and claiming an item takes that item
out of it and leaves the rest in place (`pending_setTarget`).
-/

set_option autoImplicit false
set_option relaxedAutoImplicit false

namespace ReviewDesk

namespace Instant

theorem lt_iff {a b : Instant} :
    a < b ↔ a.seconds < b.seconds ∨ a.seconds = b.seconds ∧ a.nanos < b.nanos := Iff.rfl

theorem lt_irrefl (a : Instant) : ¬a < a := by
  rw [lt_iff]
  omega

theorem lt_trans {a b c : Instant} (hab : a < b) (hbc : b < c) : a < c := by
  rw [lt_iff] at *
  omega

theorem lt_or_eq_or_gt (a b : Instant) : a < b ∨ a = b ∨ b < a := by
  cases a
  cases b
  rw [lt_iff, lt_iff, Instant.mk.injEq]
  dsimp only
  omega

end Instant

namespace Item

theorem precedes_iff {a b : Item} :
    a.precedes b ↔ a.createdAt < b.createdAt ∨ a.createdAt = b.createdAt ∧ ¬b.id < a.id := by
  simp [precedes]

theorem precedes_total (a b : Item) : a.precedes b || b.precedes a := by
  rw [Bool.or_eq_true, precedes_iff, precedes_iff]
  rcases Instant.lt_or_eq_or_gt a.createdAt b.createdAt with hlt | heq | hgt
  · exact Or.inl (Or.inl hlt)
  · rcases String.le_total a.id.text b.id.text with hle | hle
    · exact Or.inl (Or.inr ⟨heq, String.not_lt.mpr hle⟩)
    · exact Or.inr (Or.inr ⟨heq.symm, String.not_lt.mpr hle⟩)
  · exact Or.inr (Or.inl hgt)

theorem precedes_trans (a b c : Item) (hab : a.precedes b) (hbc : b.precedes c) :
    a.precedes c := by
  rw [precedes_iff] at *
  rcases hab with hab | ⟨hab, hba'⟩
  · rcases hbc with hbc | ⟨hbc, -⟩
    · exact Or.inl (Instant.lt_trans hab hbc)
    · exact Or.inl (hbc ▸ hab)
  · rcases hbc with hbc | ⟨hbc, hcb'⟩
    · exact Or.inl (hab ▸ hbc)
    · exact Or.inr ⟨hab.trans hbc, String.not_lt.mpr
        (String.le_trans (String.not_lt.mp hba') (String.not_lt.mp hcb'))⟩

theorem id_eq_of_precedes {a b : Item} (hab : a.precedes b) (hba : b.precedes a) :
    a.id = b.id := by
  rw [precedes_iff] at *
  rcases hab with hab | ⟨hab, hba'⟩
  · rcases hba with hba | ⟨hba, -⟩
    · exact absurd (Instant.lt_trans hab hba) (Instant.lt_irrefl _)
    · exact absurd (hba ▸ hab) (Instant.lt_irrefl _)
  · rcases hba with hba | ⟨-, hab'⟩
    · exact absurd (hab ▸ hba) (Instant.lt_irrefl _)
    · have htext : a.id.text = b.id.text :=
        String.le_antisymm (String.not_lt.mp hba') (String.not_lt.mp hab')
      exact congrArg ItemId.mk htext

end Item

namespace Shelf

theorem pending_perm (shelf : Shelf) (kind : Kind) :
    (shelf.pending kind).Perm
      (shelf.items.filter fun item ↦ item.kind = kind && !item.isClaimed) :=
  List.mergeSort_perm _ _

theorem pairwise_precedes_pending (shelf : Shelf) (kind : Kind) :
    (shelf.pending kind).Pairwise fun a b ↦ a.precedes b :=
  List.pairwise_mergeSort Item.precedes_trans Item.precedes_total _

theorem nodup_map_id (shelf : Shelf) : (shelf.items.map Item.id).Nodup :=
  List.pairwise_map.mpr shelf.distinct

theorem nodup_map_id_pending (shelf : Shelf) (kind : Kind) :
    ((shelf.pending kind).map Item.id).Nodup := by
  rw [((shelf.pending_perm kind).map Item.id).nodup_iff]
  exact shelf.nodup_map_id.sublist (List.filter_sublist.map Item.id)

theorem nodup_pending (shelf : Shelf) (kind : Kind) : (shelf.pending kind).Nodup :=
  .of_map Item.id (shelf.nodup_map_id_pending kind)

/-- Whatever stands in the order of service and holds the pending items is the list of them. -/
theorem eq_pending {shelf : Shelf} {kind : Kind} {items : List Item}
    (hperm : items.Perm (shelf.items.filter fun item ↦ item.kind = kind && !item.isClaimed))
    (hsorted : items.Pairwise fun a b ↦ a.precedes b) : items = shelf.pending kind := by
  have hperm' := hperm.trans (shelf.pending_perm kind).symm
  refine List.Perm.eq_of_pairwise (fun a b ha hb hab hba ↦ ?_) hsorted
    (shelf.pairwise_precedes_pending kind) hperm'
  have hamem := (mem_pending.mp (hperm'.subset ha)).1
  have hbmem := (mem_pending.mp hb).1
  exact eq_of_id_eq hamem hbmem (Item.id_eq_of_precedes hab hba)

theorem filter_pending_map_mark (kind : Kind) (target : MessageRef) (id : ItemId)
    (items : List Item) :
    ((items.map (mark target id)).filter fun item ↦ item.kind = kind && !item.isClaimed) =
      (items.filter fun item ↦ item.kind = kind && !item.isClaimed).filter (·.id ≠ id) := by
  induction items with
  | nil => rfl
  | cons head rest ih =>
    by_cases hid : head.id = id
    · have hclaimed : (mark target id head).isClaimed = true := by
        rw [← hid, mark_self]
        rfl
      rw [List.map_cons, List.filter_cons_of_neg (by simp [hclaimed]), ih, List.filter_filter,
        List.filter_filter, List.filter_cons_of_neg (by simp [hid])]
    · rw [List.map_cons, mark_of_ne hid, List.filter_cons, List.filter_cons, ih]
      split
      · rw [List.filter_cons_of_pos (by simpa using hid)]
      · rfl

/-- A claimed item is pending no longer, and the others stay in their order. -/
theorem pending_setTarget (shelf : Shelf) (id : ItemId) (target : MessageRef) (kind : Kind) :
    (shelf.setTarget id target).pending kind = (shelf.pending kind).filter (·.id ≠ id) := by
  symm
  refine eq_pending ?_ ((shelf.pairwise_precedes_pending kind).filter _)
  rw [setTarget, filter_pending_map_mark]
  exact (shelf.pending_perm kind).filter _

end Shelf

namespace Store

/-- A fetch brings unclaimed items of the kind asked for, and none of them twice. -/
theorem fetch_ok {store : Store} {kind : Kind} {limit : Nat} {items : List Item}
    (h : (store.fetch kind limit).1 = .ok items) :
    (∀ item ∈ items, store.get? item.id = some item ∧ item.kind = kind ∧ item.target = none) ∧
      (items.map Item.id).Nodup := by
  rw [mem_pending_of_fetch h]
  have hsublist := List.take_sublist (max limit 1) (store.shelf.pending kind)
  refine ⟨fun item hitem ↦ ?_, (store.shelf.nodup_map_id_pending kind).sublist (hsublist.map _)⟩
  obtain ⟨hmem, hkind, hclaimed⟩ := Shelf.mem_pending.mp (hsublist.subset hitem)
  have hnone : item.target = none := by
    rwa [Item.isClaimed, Option.isSome_eq_false_iff, Option.isNone_iff_eq_none] at hclaimed
  exact ⟨Shelf.get?_of_mem hmem, hkind, hnone⟩

end Store

end ReviewDesk
