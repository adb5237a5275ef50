import ReviewDesk.Proofs.Shelf.Order
import ReviewDesk.Proofs.Text.Bytes

/-!
The oldest pending items. One item is before another if it was created earlier, or at the same
instant and its identifier is smaller byte by byte. The pending items of a kind ascend in this order
(`pairwise_before_pending`), so that the first so many of them are the oldest ones
(`oldest_pending`), and what stands before one of them is what is before it (`exists_queue_eq`).
-/

set_option autoImplicit false
set_option relaxedAutoImplicit false

namespace ReviewDesk

namespace Item

/-- An item is older than another, or as old and has the smaller identifier. -/
def Before (a b : Item) : Prop :=
  a.createdAt < b.createdAt ∨ a.createdAt = b.createdAt ∧ a.id.bytes < b.id.bytes

instance (a b : Item) : Decidable (a.Before b) := inferInstanceAs (Decidable (_ ∨ _))

/-- The order in which items are served allows ties; this is the order without them. -/
theorem before_iff {a b : Item} : a.Before b ↔ ¬b.precedes a := by
  rw [Before, ItemId.bytes_lt_bytes_iff, precedes_iff, not_or, not_and, not_not]
  constructor
  · rintro (holder | ⟨hsame, hid⟩)
    · have hne : b.createdAt ≠ a.createdAt := fun heq ↦ Instant.lt_irrefl _ (heq ▸ holder)
      exact ⟨fun hlt ↦ Instant.lt_irrefl _ (Instant.lt_trans holder hlt), fun heq ↦ absurd heq hne⟩
    · exact ⟨hsame ▸ Instant.lt_irrefl _, fun _ ↦ hid⟩
  · rintro ⟨hnot, htie⟩
    rcases Instant.lt_or_eq_or_gt a.createdAt b.createdAt with hlt | heq | hgt
    · exact Or.inl hlt
    · exact Or.inr ⟨heq, htie heq.symm⟩
    · exact absurd hgt hnot

theorem Before.precedes {a b : Item} (h : a.Before b) : a.precedes b := by
  have htotal := precedes_total a b
  rw [Bool.or_eq_true] at htotal
  exact htotal.resolve_right (before_iff.mp h)

theorem Before.asymm {a b : Item} (h : a.Before b) : ¬b.Before a :=
  fun h' ↦ before_iff.mp h' h.precedes

theorem before_of_precedes {a b : Item} (h : a.precedes b) (hne : a.id ≠ b.id) : a.Before b :=
  before_iff.mpr fun h' ↦ hne (id_eq_of_precedes h h')

end Item

namespace Shelf

theorem pairwise_before_pending (shelf : Shelf) (kind : Kind) :
    (shelf.pending kind).Pairwise Item.Before :=
  (shelf.pairwise_precedes_pending kind).imp₂ (fun _ _ ↦ Item.before_of_precedes)
    (List.pairwise_map.mp (shelf.nodup_map_id_pending kind))

/-- A shelf with the same pending items has them in the same order. -/
theorem pending_eq_of_mem_iff {shelf shelf' : Shelf} {kind : Kind}
    (h : ∀ item, item ∈ shelf.pending kind ↔ item ∈ shelf'.pending kind) :
    shelf.pending kind = shelf'.pending kind := by
  have hperm : (shelf.pending kind).Perm (shelf'.pending kind) :=
    (List.perm_ext_iff_of_nodup (shelf.nodup_pending kind) (shelf'.nodup_pending kind)).mpr h
  exact eq_pending (hperm.trans (shelf'.pending_perm kind)) (shelf.pairwise_precedes_pending kind)

/-- How many pending items of a kind that satisfy a condition are before an item. -/
def countBefore (shelf : Shelf) (kind : Kind) (p : Item → Bool) (item : Item) : Nat :=
  (shelf.pending kind).countP fun other ↦ p other && other.Before item

/-- Where a pending item stands: those ahead of it are those before it. -/
theorem exists_queue_eq {shelf : Shelf} {kind : Kind} {item : Item}
    (h : item ∈ shelf.pending kind) :
    ∃ ahead behind, shelf.pending kind = ahead ++ item :: behind ∧
      ∀ p : Item → Bool, ahead.countP p = shelf.countBefore kind p item := by
  obtain ⟨ahead, behind, heq⟩ := List.append_of_mem h
  refine ⟨ahead, behind, heq, fun p ↦ ?_⟩
  have hsorted := shelf.pairwise_before_pending kind
  rw [heq, List.pairwise_append, List.pairwise_cons] at hsorted
  obtain ⟨-, ⟨hbehind, -⟩, hahead⟩ := hsorted
  have hcounted : ahead.countP (fun other ↦ p other && other.Before item) = ahead.countP p := by
    apply List.countP_congr
    intro other hother
    simp [hahead other hother item List.mem_cons_self]
  have hrest : (item :: behind).countP (fun other ↦ p other && other.Before item) = 0 := by
    apply List.countP_eq_zero.mpr
    intro other hother
    have hnot : ¬other.Before item := by
      rcases List.mem_cons.mp hother with rfl | hother
      · exact fun hself ↦ hself.asymm hself
      · exact (hbehind other hother).asymm
    simp [hnot]
  rw [countBefore, heq, List.countP_append, hcounted, hrest, Nat.add_zero]

/-- The items are the oldest of a kind that nobody has claimed, in their order: as many as there are
up to a limit, which is taken as one if it is zero. -/
structure Oldest (shelf : Shelf) (kind : Kind) (limit : Nat) (items : List Item) : Prop where
  pending : ∀ item ∈ items, item ∈ shelf.items ∧ item.kind = kind ∧ item.target = none
  ascending : items.Pairwise Item.Before
  length : items.length = min (max limit 1)
    (shelf.items.countP fun item ↦ item.kind = kind && item.target.isNone)
  left : ∀ item ∈ shelf.items, item.kind = kind → item.target = none → item ∉ items →
    ∀ other ∈ items, other.Before item

theorem mem_pending_iff {shelf : Shelf} {kind : Kind} {item : Item} :
    item ∈ shelf.pending kind ↔
      item ∈ shelf.items ∧ item.kind = kind ∧ item.target = none := by
  rw [mem_pending, Item.isClaimed, Option.isSome_eq_false_iff, Option.isNone_iff_eq_none]

theorem length_pending (shelf : Shelf) (kind : Kind) :
    (shelf.pending kind).length =
      shelf.items.countP fun item ↦ item.kind = kind && item.target.isNone := by
  rw [(shelf.pending_perm kind).length_eq, ← List.countP_eq_length_filter]
  apply List.countP_congr
  intro item _
  simp [Item.isClaimed]

theorem oldest_pending (shelf : Shelf) (kind : Kind) (limit : Nat) :
    shelf.Oldest kind limit ((shelf.pending kind).take (max limit 1)) where
  pending item hitem := mem_pending_iff.mp (List.mem_of_mem_take hitem)
  ascending := (shelf.pairwise_before_pending kind).sublist (List.take_sublist _ _)
  length := by rw [List.length_take, length_pending]
  left item hmem hkind hnone hnot other hother := by
    have hpending : item ∈ shelf.pending kind := mem_pending_iff.mpr ⟨hmem, hkind, hnone⟩
    have hsorted := shelf.pairwise_before_pending kind
    rw [← List.take_append_drop (max limit 1) (shelf.pending kind)] at hpending hsorted
    have hlate := (List.mem_append.mp hpending).resolve_left hnot
    exact (List.pairwise_append.mp hsorted).2.2 other hother item hlate

end Shelf

end ReviewDesk
