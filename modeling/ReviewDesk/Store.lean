import ReviewDesk.Bus
import ReviewDesk.Item
import ReviewDesk.Notice
import ReviewDesk.Rights

/-!
The store: items by identifier, one review channel and one rights table for each kind, and the bus
on which producers announce what they put in.
-/

set_option autoImplicit false
set_option relaxedAutoImplicit false

namespace ReviewDesk

/-- Items, of which no two have the same identifier. -/
structure Shelf where
  items : List Item
  distinct : items.Pairwise fun a b ↦ a.id ≠ b.id

namespace Shelf

def empty : Shelf := ⟨[], .nil⟩

def get? (shelf : Shelf) (id : ItemId) : Option Item := shelf.items.find? (·.id = id)

/-- Puts an item on the shelf; an earlier one with its identifier gives way. -/
def put (shelf : Shelf) (item : Item) : Shelf where
  items := shelf.items.filter (·.id ≠ item.id) ++ [item]
  distinct := by
    refine List.pairwise_append.mpr ⟨shelf.distinct.filter _, List.pairwise_singleton _ _, ?_⟩
    intro a ha b hb
    rw [List.mem_singleton.mp hb]
    simpa using (List.mem_filter.mp ha).2

/-- Marks the item with an identifier as claimed. -/
def mark (target : MessageRef) (id : ItemId) (item : Item) : Item :=
  if item.id = id then { item with target := some target } else item

theorem id_mark (target : MessageRef) (id : ItemId) (item : Item) :
    (mark target id item).id = item.id := by
  unfold mark
  split <;> rfl

def setTarget (shelf : Shelf) (id : ItemId) (target : MessageRef) : Shelf where
  items := shelf.items.map (mark target id)
  distinct := List.pairwise_map.mpr <| shelf.distinct.imp fun h ↦ by
    rw [id_mark, id_mark]
    exact h

/-- The items of a kind that nobody has claimed, in the order in which they are served. -/
def pending (shelf : Shelf) (kind : Kind) : List Item :=
  (shelf.items.filter fun item ↦ item.kind = kind && !item.isClaimed).mergeSort Item.precedes

theorem find?_filter_of_id (keep : ItemId → Bool) (id : ItemId) (items : List Item) :
    (items.filter fun item ↦ keep item.id).find? (·.id = id) =
      if keep id then items.find? (·.id = id) else none := by
  induction items with
  | nil => simp
  | cons head rest ih =>
    by_cases hid : head.id = id
    · subst hid
      by_cases h : keep head.id <;> simp_all
    · by_cases h : keep head.id <;> simp_all

@[simp] theorem get?_put (shelf : Shelf) (item : Item) (id : ItemId) :
    (shelf.put item).get? id = if id = item.id then some item else shelf.get? id := by
  rw [get?, put, List.find?_append, find?_filter_of_id (fun key ↦ key ≠ item.id)]
  by_cases h : id = item.id
  · simp [h]
  · have hne : item.id ≠ id := fun he ↦ h he.symm
    simp only [h, ne_eq, not_false_eq_true, decide_true, if_true, if_false, get?]
    simp [hne]

@[simp] theorem get?_setTarget (shelf : Shelf) (id other : ItemId) (target : MessageRef) :
    (shelf.setTarget id target).get? other = (shelf.get? other).map (mark target id) := by
  rw [get?, setTarget, List.find?_map, get?]
  simp only [Function.comp_def, id_mark]

theorem mem_pending {shelf : Shelf} {kind : Kind} {item : Item} :
    item ∈ shelf.pending kind ↔
      item ∈ shelf.items ∧ item.kind = kind ∧ item.isClaimed = false := by
  simp [pending]

end Shelf

structure Store where
  shelf : Shelf := .empty
  channels : PerKind (Option ChannelId) := ⟨none, none⟩
  rights : PerKind Rights := ⟨.empty, .empty⟩
  bus : Bus := {}
  /-- Where producers announce items and changes of rights. -/
  noticeChannel : String
  /-- How many of the next calls to fetch will fail. -/
  fetchFaults : Nat := 0
  claimCalls : Nat := 0

namespace Store

def insert (store : Store) (item : Item) : Store := { store with shelf := store.shelf.put item }

def publish (store : Store) (channel payload : String) : Store :=
  { store with bus := store.bus.publish channel payload }

/-- Puts an item in and announces it, unless its identifier is blank. -/
def enqueue (store : Store) (item : Item) : Store :=
  let store := store.insert item
  match Notice.dispatch? item.kind.ledgerName item.id.text with
  | some payload => store.publish store.noticeChannel payload
  | none => store

def announceAccess (store : Store) (reason : String) : Store :=
  store.publish store.noticeChannel (Notice.accessSync reason)

def get? (store : Store) (id : ItemId) : Option Item := store.shelf.get? id

def setChannel (store : Store) (kind : Kind) (channel : Option ChannelId) : Store :=
  { store with channels := store.channels.set kind channel }

def channel? (store : Store) (kind : Kind) : Option ChannelId := store.channels.get kind

def setRights (store : Store) (kind : Kind) (rights : Rights) : Store :=
  { store with rights := store.rights.set kind rights }

def setRight (store : Store) (kind : Kind) (reviewer : ReviewerId) (allowed : Bool) : Store :=
  store.setRights kind ((store.rights.get kind).insert reviewer allowed)

def removeReviewer (store : Store) (kind : Kind) (reviewer : ReviewerId) : Store :=
  store.setRights kind ((store.rights.get kind).erase reviewer)

/-- The oldest pending items of a kind, at most `limit` and at least one if there is one. -/
def fetch (store : Store) (kind : Kind) (limit : Nat) : Except StoreError (List Item) × Store :=
  if 0 < store.fetchFaults then
    (.error (.connection "injected fetch failure"),
      { store with fetchFaults := store.fetchFaults - 1 })
  else (.ok ((store.shelf.pending kind).take (max limit 1)), store)

/-- Claims an item of a kind. It succeeds only for the call that finds the item unclaimed. -/
def claim (store : Store) (kind : Kind) (id : ItemId) (target : MessageRef) : Bool × Store :=
  let store := { store with claimCalls := store.claimCalls + 1 }
  match store.get? id with
  | some item =>
    if item.kind = kind ∧ item.target = none then
      (true, { store with shelf := store.shelf.setTarget id target })
    else (false, store)
  | none => (false, store)

def subscribe (store : Store) (channel : String) : Except StoreError Nat × Store :=
  let (result, bus) := store.bus.subscribe channel
  (result, { store with bus := bus })

end Store

end ReviewDesk
