import ReviewDesk.Proofs.Dispatch.Alone

/-!
What a dispatch pass that nothing comes between may do, however it ends: a number of deliveries,
each of an unclaimed item to the channel of its kind, and perhaps one fetch that fails
(`delivers_pass`). Whatever every delivery keeps is therefore kept by passes that are broken off
half way as well.
-/

set_option autoImplicit false
set_option relaxedAutoImplicit false

namespace ReviewDesk

namespace Store

/-- What a failing fetch leaves behind. -/
def spendFault (store : Store) : Store := { store with fetchFaults := store.fetchFaults - 1 }

theorem fetch_of_fault {store : Store} (kind : Kind) (limit : Nat) (h : 0 < store.fetchFaults) :
    store.fetch kind limit = (.error (.connection "injected fetch failure"), store.spendFault) :=
  if_pos h

end Store

namespace Dispatch

open Outside

/-- One state of what is outside comes from another by deliveries, each of an item that is stored
unclaimed and each to the channel of the item's kind, and by fetches that fail. -/
inductive Delivers : Outside → Outside → Prop where
  | refl (o : Outside) : Delivers o o
  | deliver {o o' : Outside} {item : Item} {channel : ChannelId} (before : Delivers o o')
      (held : o'.store.shelf.get? item.id = some item) (unclaimed : item.target = none)
      (configured : o'.store.channel? item.kind = some channel) :
      Delivers o (Outside.deliver channel o' item)
  | fault {o o' : Outside} (before : Delivers o o') :
      Delivers o { o' with store := o'.store.spendFault }

namespace Delivers

variable {o o' o'' : Outside}

theorem trans (h : Delivers o o') (h' : Delivers o' o'') : Delivers o o'' := by
  induction h' with
  | refl => exact h
  | deliver _ held unclaimed configured ih => exact .deliver ih held unclaimed configured
  | fault _ ih => exact .fault ih

theorem channel? (h : Delivers o o') (kind : Kind) :
    o'.store.channel? kind = o.store.channel? kind := by
  induction h with
  | refl => rfl
  | deliver _ _ _ _ ih => exact ih
  | fault _ ih => exact ih

theorem plain (h : Delivers o o') (plain : o.Plain) : o'.Plain := by
  induction h with
  | refl => exact plain
  | deliver _ _ _ _ ih => exact ⟨ih.outages, ih.rivals⟩
  | fault _ ih => exact ih.with_store _

end Delivers

theorem get?_deliver_of_ne {o : Outside} {item other : Item}
    (hget : o.store.shelf.get? other.id = some other) (channel : ChannelId)
    (hne : other.id ≠ item.id) :
    (deliver channel o item).store.shelf.get? other.id = some other := by
  change (o.store.shelf.setTarget item.id (o.nextTarget channel)).get? other.id = some other
  rw [Shelf.get?_setTarget, hget, Option.map_some, Shelf.mark_of_ne hne]

theorem delivers_deliverAll {kind : Kind} {channel : ChannelId} {items : List Item} {o : Outside}
    (hchannel : o.store.channel? kind = some channel)
    (hitems : ∀ item ∈ items, o.store.shelf.get? item.id = some item ∧ item.kind = kind ∧
      item.target = none)
    (hnodup : (items.map Item.id).Nodup) : Delivers o (deliverAll channel o items) := by
  induction items generalizing o with
  | nil => exact .refl o
  | cons item items ih =>
    rw [List.map_cons, List.nodup_cons] at hnodup
    obtain ⟨hnew, hnodup⟩ := hnodup
    obtain ⟨hget, hkind, hnone⟩ := hitems item List.mem_cons_self
    have hfirst : Delivers o (deliver channel o item) :=
      .deliver (.refl o) hget hnone (hkind ▸ hchannel)
    refine hfirst.trans (ih ((hfirst.channel? kind).trans hchannel) ?_ hnodup)
    intro other hother
    obtain ⟨hget', hkind', hnone'⟩ := hitems other (List.mem_cons_of_mem item hother)
    have hne : other.id ≠ item.id := fun hid ↦ hnew (hid ▸ List.mem_map_of_mem hother)
    exact ⟨get?_deliver_of_ne hget' channel hne, hkind', hnone'⟩

section Alone

variable {o : Outside} (plain : o.Plain)
include plain

/-- A fetch that fails breaks a pass off. -/
theorem run_passKind_of_fault (hfault : 0 < o.store.fetchFaults) (limit : Nat) {kind : Kind}
    {channel : ChannelId} (hchannel : o.store.channel? kind = some channel) (report : Report) :
    (passKind limit kind report).run o =
      (.error (.store (.connection "injected fetch failure")),
        { o with store := o.store.spendFault }) := by
  rw [passKind, Procedure.run, answer_resolveChannel plain, hchannel]
  simp only [Procedure.run]
  rw [answer_fetchPending plain, Store.fetch_of_fault kind limit hfault]
  rfl

theorem delivers_passKind (limit : Nat) (kind : Kind) (report : Report) :
    Delivers o ((passKind limit kind report).run o).2 := by
  cases hchannel : o.store.channel? kind with
  | none =>
    rw [passKind, Procedure.run, answer_resolveChannel plain, hchannel]
    exact .refl o
  | some channel =>
    by_cases hfault : 0 < o.store.fetchFaults
    · rw [run_passKind_of_fault plain hfault limit hchannel]
      exact .fault (.refl o)
    · have hnofault : o.store.fetchFaults = 0 := Nat.eq_zero_of_not_pos hfault
      have hfetch : (o.store.fetch kind limit).1 =
          .ok ((o.store.shelf.pending kind).take (max limit 1)) := by
        rw [Store.fetch_of_no_fault kind limit hnofault]
      obtain ⟨hitems, hnodup⟩ := Store.fetch_ok hfetch
      rw [run_passKind plain hnofault, passed, batch, hchannel]
      refine delivers_deliverAll hchannel (fun item hitem ↦ ?_)
        (hnodup.sublist (List.filter_sublist.map Item.id))
      exact hitems item (List.mem_filter.mp hitem).1

theorem delivers_passKinds (limit : Nat) (kinds : List Kind) (report : Report) :
    Delivers o ((passKinds limit kinds report).run o).2 := by
  induction kinds generalizing o report with
  | nil => exact .refl o
  | cons kind kinds ih =>
    have hfirst := delivers_passKind plain limit kind report
    have hrun : (passKinds limit (kind :: kinds) report).run o = _ :=
      Procedure.run_bind (passKind limit kind report) _ o
    rw [hrun]
    cases ((passKind limit kind report).run o).1 with
    | error failure => exact hfirst
    | ok report' => exact hfirst.trans (ih (hfirst.plain plain) report')

theorem delivers_pass (limit : Nat) : Delivers o ((pass limit).run o).2 :=
  delivers_passKinds plain (max limit 1) Kind.all {}

end Alone

end Dispatch

end ReviewDesk
