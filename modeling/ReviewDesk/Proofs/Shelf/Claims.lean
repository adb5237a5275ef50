import Mathlib.Data.List.Pairwise
import ReviewDesk.Store

/-!
What the calls to a store do to its items. Looking an identifier up finds the one item that has it;
a claim that succeeds marks one unclaimed item and is the only call besides an insertion that
changes the shelf. `claim_of_isOpen` and `claim_of_not_isOpen` say what a claim does, and
`claimedCount_setTarget` that it adds one claimed item.
-/

set_option autoImplicit false
set_option relaxedAutoImplicit false

namespace ReviewDesk

namespace Shelf

theorem eq_of_id_eq {shelf : Shelf} {a b : Item} (ha : a ∈ shelf.items) (hb : b ∈ shelf.items)
    (h : a.id = b.id) : a = b := by
  have : Std.Symm fun a b : Item ↦ a.id ≠ b.id := ⟨fun _ _ hne ↦ hne.symm⟩
  by_contra hne
  exact shelf.distinct.forall ha hb hne h

theorem get?_eq_some_iff {shelf : Shelf} {id : ItemId} {item : Item} :
    shelf.get? id = some item ↔ item ∈ shelf.items ∧ item.id = id := by
  constructor
  · intro h
    exact ⟨List.mem_of_find?_eq_some h, by simpa using List.find?_some h⟩
  · rintro ⟨hmem, rfl⟩
    have hfound : (shelf.get? item.id).isSome := by
      rw [get?, List.find?_isSome]
      exact ⟨item, hmem, by simp⟩
    obtain ⟨other, hother⟩ := Option.isSome_iff_exists.mp hfound
    have hid : other.id = item.id := by simpa using List.find?_some hother
    rwa [eq_of_id_eq (List.mem_of_find?_eq_some hother) hmem hid] at hother

theorem get?_eq_none_iff {shelf : Shelf} {id : ItemId} :
    shelf.get? id = none ↔ ∀ item ∈ shelf.items, item.id ≠ id := by
  simp [get?, List.find?_eq_none]

theorem get?_of_mem {shelf : Shelf} {item : Item} (h : item ∈ shelf.items) :
    shelf.get? item.id = some item :=
  get?_eq_some_iff.mpr ⟨h, rfl⟩

/-- How many items are claimed. -/
def claimedCount (shelf : Shelf) : Nat := shelf.items.countP Item.isClaimed

theorem claimedCount_put {shelf : Shelf} {item : Item} (fresh : shelf.get? item.id = none)
    (unclaimed : item.target = none) : (shelf.put item).claimedCount = shelf.claimedCount := by
  have hkept : shelf.items.filter (fun other ↦ decide (other.id ≠ item.id)) = shelf.items := by
    rw [List.filter_eq_self]
    intro other hother
    simpa using get?_eq_none_iff.mp fresh other hother
  have hitems : (shelf.put item).items = shelf.items ++ [item] := congrArg (· ++ [item]) hkept
  rw [claimedCount, hitems, List.countP_append]
  simp [claimedCount, Item.isClaimed, unclaimed]

theorem mark_of_ne {target : MessageRef} {id : ItemId} {item : Item} (h : item.id ≠ id) :
    mark target id item = item := if_neg h

theorem mark_self (target : MessageRef) (item : Item) :
    mark target item.id item = { item with target := some target } := if_pos rfl

theorem kind_mark (target : MessageRef) (id : ItemId) (item : Item) :
    (mark target id item).kind = item.kind := by
  unfold mark
  split <;> rfl

theorem map_mark_of_ne {target : MessageRef} {id : ItemId} {items : List Item}
    (h : ∀ item ∈ items, item.id ≠ id) : items.map (mark target id) = items :=
  calc items.map (mark target id)
    _ = items.map (fun item ↦ item) := List.map_congr_left fun item hitem ↦ mark_of_ne (h item hitem)
    _ = items := List.map_id' items

theorem countP_mark {id : ItemId} (target : MessageRef) {items : List Item}
    (distinct : items.Pairwise fun a b ↦ a.id ≠ b.id) {item : Item} (hmem : item ∈ items)
    (hid : item.id = id) (unclaimed : item.target = none) :
    (items.map (mark target id)).countP Item.isClaimed = items.countP Item.isClaimed + 1 := by
  induction items with
  | nil => simp at hmem
  | cons head rest ih =>
    obtain ⟨hhead, hrest⟩ := List.pairwise_cons.mp distinct
    rw [List.map_cons, List.countP_cons, List.countP_cons]
    rcases List.mem_cons.mp hmem with rfl | hmem
    · have hothers : rest.map (mark target id) = rest :=
        map_mark_of_ne fun other hother he ↦ hhead other hother (hid.trans he.symm)
      rw [hothers, ← hid, mark_self]
      simp [Item.isClaimed, unclaimed]
    · have hne : head.id ≠ id := fun he ↦ hhead item hmem (he.trans hid.symm)
      rw [ih hrest hmem, mark_of_ne hne]
      omega

theorem claimedCount_setTarget {shelf : Shelf} {id : ItemId} {item : Item} (target : MessageRef)
    (h : shelf.get? id = some item) (unclaimed : item.target = none) :
    (shelf.setTarget id target).claimedCount = shelf.claimedCount + 1 := by
  obtain ⟨hmem, hid⟩ := get?_eq_some_iff.mp h
  exact countP_mark target shelf.distinct hmem hid unclaimed

/-- The message an item is claimed with, if it is on the shelf and claimed. -/
def target? (shelf : Shelf) (id : ItemId) : Option MessageRef := (shelf.get? id).bind Item.target

@[simp] theorem target?_put (shelf : Shelf) (item : Item) (id : ItemId) :
    (shelf.put item).target? id = if id = item.id then item.target else shelf.target? id := by
  unfold target?
  rw [get?_put]
  split <;> rfl

theorem target?_setTarget_of_ne {shelf : Shelf} {id other : ItemId} (target : MessageRef)
    (h : other ≠ id) : (shelf.setTarget id target).target? other = shelf.target? other := by
  unfold target?
  rw [get?_setTarget]
  cases hget : shelf.get? other with
  | none => rfl
  | some item =>
    have hid : item.id ≠ id := fun he ↦ h ((get?_eq_some_iff.mp hget).2.symm.trans he)
    rw [Option.map_some, mark_of_ne hid]

theorem target?_setTarget_self {shelf : Shelf} {id : ItemId} {item : Item} (target : MessageRef)
    (h : shelf.get? id = some item) : (shelf.setTarget id target).target? id = some target := by
  unfold target?
  rw [get?_setTarget, h, Option.map_some, ← (get?_eq_some_iff.mp h).2, mark_self]
  rfl

end Shelf

namespace Store

/-- Whether a claim of an item as one of a kind would succeed. -/
def IsOpen (store : Store) (kind : Kind) (id : ItemId) : Prop :=
  ∃ item, store.get? id = some item ∧ item.kind = kind ∧ item.target = none

theorem claim_of_isOpen {store : Store} {kind : Kind} {id : ItemId} (target : MessageRef)
    (h : store.IsOpen kind id) :
    store.claim kind id target = (true, { store with
      claimCalls := store.claimCalls + 1, shelf := store.shelf.setTarget id target }) := by
  obtain ⟨item, hget, hkind, hnone⟩ := h
  have hget' : store.shelf.get? id = some item := hget
  simp [claim, get?, hget', hkind, hnone]

theorem claim_of_not_isOpen {store : Store} {kind : Kind} {id : ItemId} (target : MessageRef)
    (h : ¬store.IsOpen kind id) :
    store.claim kind id target = (false, { store with claimCalls := store.claimCalls + 1 }) := by
  cases hget : store.shelf.get? id with
  | none => simp [claim, get?, hget]
  | some item =>
    have hclosed : ¬(item.kind = kind ∧ item.target = none) := fun hc ↦ h ⟨item, hget, hc⟩
    simp only [claim, get?, hget, if_neg hclosed]

theorem claim_eq_true_iff {store : Store} {kind : Kind} {id : ItemId} {target : MessageRef} :
    (store.claim kind id target).1 = true ↔ store.IsOpen kind id := by
  by_cases h : store.IsOpen kind id
  · simp [claim_of_isOpen target h, h]
  · simp [claim_of_not_isOpen target h, h]

/-- An item that is claimed, or missing, is open to nobody. -/
theorem not_isOpen_of_target? {store : Store} {kind : Kind} {id : ItemId} {target : MessageRef}
    (h : store.shelf.target? id = some target) : ¬store.IsOpen kind id := by
  rintro ⟨item, hget, -, hnone⟩
  have hget' : store.shelf.get? id = some item := hget
  simp [Shelf.target?, hget', hnone] at h

theorem fetch_of_no_fault {store : Store} (kind : Kind) (limit : Nat)
    (h : store.fetchFaults = 0) :
    store.fetch kind limit = (.ok ((store.shelf.pending kind).take (max limit 1)), store) := by
  simp [fetch, h]

theorem mem_pending_of_fetch {store : Store} {kind : Kind} {limit : Nat} {items : List Item}
    (h : (store.fetch kind limit).1 = .ok items) :
    items = (store.shelf.pending kind).take (max limit 1) := by
  unfold fetch at h
  split at h
  · simp at h
  · exact (Except.ok.inj h).symm

/-- An item is announced on the bus, and nowhere else. -/
theorem exists_enqueue_eq (store : Store) (item : Item) :
    ∃ bus, store.enqueue item = { store.insert item with bus := bus } := by
  unfold enqueue
  dsimp only
  split
  · exact ⟨_, rfl⟩
  · exact ⟨store.bus, rfl⟩

theorem shelf_enqueue (store : Store) (item : Item) :
    (store.enqueue item).shelf = store.shelf.put item := by
  obtain ⟨bus, heq⟩ := store.exists_enqueue_eq item
  rw [heq]
  rfl

theorem shelf_fetch (store : Store) (kind : Kind) (limit : Nat) :
    (store.fetch kind limit).2.shelf = store.shelf := by
  unfold fetch
  split <;> rfl

end Store

end ReviewDesk
