import ReviewDesk.Proofs.Dispatch.Conversation
import ReviewDesk.Proofs.Outside
import ReviewDesk.Proofs.Shelf.Order

/-!
The items of a store against the calls that were made of it. `Deed` says all that one call can do
to the items, and with what reply. `Booked` is the invariant that follows for all calls made so far:
what was won is what is claimed, one item for each claim that was won.
-/

set_option autoImplicit false
set_option relaxedAutoImplicit false

namespace ReviewDesk

/-- What holds of all lines so far and of the next one. -/
theorem forall_mem_snoc {α : Type} {p : α → Prop} {lines : List α} {line : α}
    (h : ∀ other ∈ lines, p other) (hline : p line) : ∀ other ∈ lines ++ [line], p other :=
  List.forall_mem_append.mpr ⟨h, List.forall_mem_singleton.mpr hline⟩

/-- What a call, with its reply, does to the items. -/
inductive Deed (shelf : Shelf) : Exchange → Shelf → Prop where
  | win {item : Item} {id : ItemId} (target : MessageRef) (hget : shelf.get? id = some item)
      (unclaimed : item.target = none) :
      Deed shelf ⟨.claim item.kind id target, .ok true⟩ (shelf.setTarget id target)
  | lose (kind : Kind) (id : ItemId) (target : MessageRef) :
      Deed shelf ⟨.claim kind id target, .ok false⟩ shelf
  | fetch (kind : Kind) (limit : Nat) {items : List Item}
      (held : ∀ item ∈ items, shelf.get? item.id = some item ∧ item.kind = kind)
      (nodup : (items.map Item.id).Nodup) :
      Deed shelf ⟨.fetchPending kind limit, .ok items⟩ shelf
  | other {exchange : Exchange} (unclaimed : exchange.claimed? = none)
      (unfetched : exchange.fetched = []) : Deed shelf exchange shelf

theorem deed_claim (store : Store) (kind : Kind) (id : ItemId) (target : MessageRef) :
    Deed store.shelf ⟨.claim kind id target, .ok (store.claim kind id target).1⟩
      (store.claim kind id target).2.shelf := by
  by_cases hopen : store.IsOpen kind id
  · rw [Store.claim_of_isOpen target hopen]
    obtain ⟨item, hget, rfl, hnone⟩ := hopen
    exact .win target hget hnone
  · rw [Store.claim_of_not_isOpen target hopen]
    exact .lose kind id target

theorem deed_fetch (store : Store) (kind : Kind) (limit : Nat) :
    Deed store.shelf ⟨.fetchPending kind limit, (store.fetch kind limit).1⟩
      (store.fetch kind limit).2.shelf := by
  rw [Store.shelf_fetch]
  cases hreply : (store.fetch kind limit).1 with
  | error error => exact .other rfl rfl
  | ok items =>
    obtain ⟨hitems, hnodup⟩ := Store.fetch_ok hreply
    exact .fetch kind limit (fun item hitem ↦ ⟨(hitems item hitem).1, (hitems item hitem).2.1⟩) hnodup

theorem Outside.deed_answer {o : Outside} (h : o.Plain) (call : Call) :
    Deed o.store.shelf ⟨call, (o.answer call).1⟩ (o.answer call).2.store.shelf := by
  cases call with
  | resolveChannel kind =>
    rw [answer_resolveChannel h]
    exact .other rfl rfl
  | fetchPending kind limit =>
    rw [answer_fetchPending h]
    exact deed_fetch o.store kind limit
  | claim kind item target =>
    rw [answer_claim h]
    exact deed_claim o.store kind item target
  | currentRights kind =>
    rw [answer_currentRights h]
    exact .other rfl rfl
  | publish channel post =>
    rw [answer_publish h]
    exact .other rfl rfl
  | member op => exact .other rfl rfl
  | decide call => exact .other rfl rfl

/-- The items of a store agree with the calls made of it since no item was claimed. -/
structure Booked (shelf : Shelf) (talk : List Exchange) : Prop where
  held : ∀ posting ∈ Talk.won talk, shelf.target? posting.item = some posting.target
  nodup : ((Talk.won talk).map Posting.item).Nodup
  count : shelf.claimedCount = (Talk.won talk).length
  answered : ∀ exchange ∈ talk, ∀ posting, exchange.claimed? = some posting →
    exchange.won? = some posting ∨ exchange.lost? = some posting
  proper : ∀ exchange ∈ talk, exchange.Proper
  kinds : ∀ exchange ∈ talk, ∀ item ∈ exchange.fetched,
    ∃ stored, shelf.get? item.id = some stored ∧ stored.kind = item.kind

theorem booked_nil {shelf : Shelf} (h : ∀ item ∈ shelf.items, item.target = none) :
    Booked shelf [] where
  held posting hposting := by cases hposting
  nodup := List.nodup_nil
  count := List.countP_eq_zero.mpr fun item hitem ↦ by simp [Item.isClaimed, h item hitem]
  answered exchange hexchange := by cases hexchange
  proper exchange hexchange := by cases hexchange
  kinds exchange hexchange := by cases hexchange

namespace Exchange

theorem won?_of_claimed? {exchange : Exchange} (h : exchange.claimed? = none) :
    exchange.won? = none := by
  cases hwon : exchange.won? with
  | none => rfl
  | some posting =>
    rw [eq_of_won? hwon] at h
    cases h

theorem proper_of_fetched {exchange : Exchange} (h : exchange.fetched = []) : exchange.Proper := by
  rcases exchange with ⟨call, reply⟩
  cases call with
  | fetchPending kind limit =>
    rcases reply with error | items
    · trivial
    · obtain rfl : items = [] := h
      exact ⟨fun item hitem ↦ absurd hitem List.not_mem_nil, List.nodup_nil⟩
  | resolveChannel kind => trivial
  | claim kind item target => trivial
  | currentRights kind => trivial
  | publish channel post => trivial
  | member op => trivial
  | decide call => trivial

end Exchange

namespace Booked

variable {shelf : Shelf} {talk : List Exchange}

/-- Another call that wins nothing leaves the books as they are. -/
theorem snoc_of_unwon (h : Booked shelf talk) {exchange : Exchange} (hwon : exchange.won? = none)
    (hanswered : ∀ posting, exchange.claimed? = some posting → exchange.lost? = some posting)
    (hproper : exchange.Proper)
    (hkinds : ∀ item ∈ exchange.fetched, shelf.get? item.id = some item) :
    Booked shelf (talk ++ [exchange]) := by
  have hsame : Talk.won (talk ++ [exchange]) = Talk.won talk := by
    rw [Talk.won_append, Talk.won, Talk.won, List.filterMap_cons_none hwon, List.filterMap_nil,
      List.append_nil]
  refine ⟨?_, ?_, ?_, ?_, ?_, ?_⟩
  · rw [hsame]
    exact h.held
  · rw [hsame]
    exact h.nodup
  · rw [hsame]
    exact h.count
  · exact forall_mem_snoc h.answered fun posting hposting ↦ Or.inr (hanswered posting hposting)
  · exact forall_mem_snoc h.proper hproper
  · exact forall_mem_snoc h.kinds fun item hitem ↦ ⟨item, hkinds item hitem, rfl⟩

theorem snoc_of_win (h : Booked shelf talk) {item : Item} {id : ItemId} (target : MessageRef)
    (hget : shelf.get? id = some item) (unclaimed : item.target = none) :
    Booked (shelf.setTarget id target)
      (talk ++ [⟨.claim item.kind id target, .ok true⟩]) := by
  have hfree : shelf.target? id = none := by rw [Shelf.target?, hget, Option.bind_some, unclaimed]
  have hwon : Talk.won (talk ++ [⟨.claim item.kind id target, .ok true⟩]) =
      Talk.won talk ++ [⟨item.kind, id, target⟩] := Talk.won_append talk _
  have hnew : ∀ posting ∈ Talk.won talk, posting.item ≠ id := by
    intro posting hposting hid
    have hheld := h.held posting hposting
    rw [hid, hfree] at hheld
    cases hheld
  refine ⟨?_, ?_, ?_, ?_, ?_, ?_⟩
  · rw [hwon]
    refine forall_mem_snoc (fun posting hposting ↦ ?_) (Shelf.target?_setTarget_self target hget)
    rw [Shelf.target?_setTarget_of_ne target (hnew posting hposting)]
    exact h.held posting hposting
  · rw [hwon, List.map_append, List.nodup_append]
    refine ⟨h.nodup, List.nodup_singleton _, fun other hother last hlast ↦ ?_⟩
    obtain ⟨posting, hposting, rfl⟩ := List.mem_map.mp hother
    obtain rfl : last = id := List.mem_singleton.mp hlast
    exact hnew posting hposting
  · rw [hwon, Shelf.claimedCount_setTarget target hget unclaimed, h.count, List.length_append,
      List.length_singleton]
  · exact forall_mem_snoc h.answered fun posting hposting ↦ Or.inl hposting
  · exact forall_mem_snoc h.proper trivial
  · refine forall_mem_snoc (fun other hother fetched hfetched ↦ ?_) fun fetched hfetched ↦ ?_
    · obtain ⟨stored, hstored, hkind⟩ := h.kinds other hother fetched hfetched
      refine ⟨Shelf.mark target id stored, ?_, ?_⟩
      · rw [Shelf.get?_setTarget, hstored, Option.map_some]
      · rw [Shelf.kind_mark, hkind]
    · cases hfetched

theorem snoc (h : Booked shelf talk) {exchange : Exchange} {after : Shelf}
    (hdeed : Deed shelf exchange after) : Booked after (talk ++ [exchange]) := by
  cases hdeed with
  | win target hget unclaimed => exact h.snoc_of_win target hget unclaimed
  | lose kind id target =>
    exact h.snoc_of_unwon rfl (fun posting hposting ↦ hposting) trivial
      fun item hitem ↦ by cases hitem
  | fetch kind limit held nodup =>
    exact h.snoc_of_unwon rfl (fun posting hposting ↦ by cases hposting)
      ⟨fun item hitem ↦ (held item hitem).2, nodup⟩ fun item hitem ↦ (held item hitem).1
  | other unclaimed unfetched =>
    refine h.snoc_of_unwon (Exchange.won?_of_claimed? unclaimed) ?_
      (Exchange.proper_of_fetched unfetched) ?_
    · intro posting hposting
      rw [unclaimed] at hposting
      cases hposting
    · intro item hitem
      rw [unfetched] at hitem
      cases hitem

/-- A new item, put in unclaimed, leaves the books right. -/
theorem put (h : Booked shelf talk) {item : Item} (fresh : shelf.get? item.id = none)
    (unclaimed : item.target = none) : Booked (shelf.put item) talk where
  held posting hposting := by
    have hheld := h.held posting hposting
    rw [Shelf.target?_put, if_neg]
    · exact hheld
    · intro hid
      rw [hid, Shelf.target?, fresh] at hheld
      cases hheld
  nodup := h.nodup
  count := by rw [Shelf.claimedCount_put fresh unclaimed, h.count]
  answered := h.answered
  proper := h.proper
  kinds exchange hexchange other hother := by
    obtain ⟨stored, hstored, hkind⟩ := h.kinds exchange hexchange other hother
    refine ⟨stored, ?_, hkind⟩
    rw [Shelf.get?_put, if_neg]
    · exact hstored
    · intro hid
      rw [hid, fresh] at hstored
      cases hstored

end Booked

end ReviewDesk
