import ReviewDesk.Proofs.Dispatch.Alone
import ReviewDesk.Proofs.Shelf.Oldest
import ReviewDesk.Proofs.Traffic.Claimed

/-!
What a fetch brings, and that it does not matter in which order the items came in. But for the
claims, a store holds what was put in and nothing else (`bare_get?_run`), and what is pending
follows from that and from which items are claimed (`pending_eq_of_bare`). So a fetch brings the
oldest pending items, and two stores that were filled with the same items answer alike
(`oldest_fetch`).
-/

set_option autoImplicit false
set_option relaxedAutoImplicit false

namespace ReviewDesk

theorem Item.bare_of_unclaimed {item : Item} (h : item.target = none) : item.bare = item := by
  rw [bare, ← h]

namespace Shelf

theorem get?_eq_of_perm {shelf shelf' : Shelf} (h : shelf.items.Perm shelf'.items) (id : ItemId) :
    shelf.get? id = shelf'.get? id :=
  Option.ext fun item ↦ by rw [get?_eq_some_iff, get?_eq_some_iff, h.mem_iff]

/-- An item is pending exactly if it is on the shelf, but for its claim, and is not claimed. -/
theorem mem_pending_iff_bare {shelf : Shelf} {kind : Kind} {item : Item} :
    item ∈ shelf.pending kind ↔ shelf.bare.get? item.id = some item ∧ item.kind = kind ∧
      (shelf.target? item.id).isSome = false := by
  rw [mem_pending_iff, get?_bare, Option.map_eq_some_iff]
  constructor
  · rintro ⟨hmem, hkind, hnone⟩
    have hget := get?_of_mem hmem
    refine ⟨⟨item, hget, Item.bare_of_unclaimed hnone⟩, hkind, ?_⟩
    rw [target?, hget, Option.bind_some, hnone, Option.isSome_none]
  · rintro ⟨⟨stored, hget, hbare⟩, hkind, hfree⟩
    have hnone : stored.target = none := by
      rwa [target?, hget, Option.bind_some, Option.isSome_eq_false_iff,
        Option.isNone_iff_eq_none] at hfree
    obtain rfl : stored = item := (Item.bare_of_unclaimed hnone).symm.trans hbare
    exact ⟨(get?_eq_some_iff.mp hget).1, hkind, hnone⟩

/-- What is pending follows from what was put in and from what is claimed. -/
theorem pending_eq_of_bare {shelf shelf' : Shelf}
    (hitems : ∀ id, shelf.bare.get? id = shelf'.bare.get? id)
    (hclaimed : ∀ id, (shelf.target? id).isSome = (shelf'.target? id).isSome) (kind : Kind) :
    shelf.pending kind = shelf'.pending kind :=
  pending_eq_of_mem_iff fun item ↦ by
    rw [mem_pending_iff_bare, mem_pending_iff_bare, hitems, hclaimed]

end Shelf

theorem Store.bare_claim (store : Store) (kind : Kind) (id : ItemId) (target : MessageRef) :
    (store.claim kind id target).2.shelf.bare = store.shelf.bare := by
  by_cases hopen : store.IsOpen kind id
  · rw [claim_of_isOpen target hopen]
    exact store.shelf.bare_setTarget id target
  · rw [claim_of_not_isOpen target hopen]

theorem Outside.bare_answer (o : Outside) (call : Call) :
    (o.answer call).2.store.shelf.bare = o.store.shelf.bare := by
  rcases store_answer o call with heq | ⟨kind, limit, heq⟩ | ⟨kind, item, target, heq⟩
  · rw [heq]
  · rw [heq, Store.shelf_fetch]
  · rw [heq, Store.bare_claim]

namespace Traffic

/-- Nothing but putting an item in changes more than the claims. -/
theorem bare_step {event : Event} (h : event.put? = none) (t : Traffic) :
    (t.step event).shelf.bare = t.shelf.bare := by
  cases event with
  | insert item => cases h
  | enqueue item => cases h
  | claim kind id target => exact t.outside.store.bare_claim kind id target
  | proceed number =>
    rw [step]
    rcases t.proceed_eq_or_ask number with heq | ⟨call, next, hget⟩
    · rw [heq]
    · rw [proceed_of_ask hget]
      exact t.outside.bare_answer call
  | start limit => rfl
  | setChannel kind channel => rfl
  | failPost id text => rfl
  | failFetches count => rfl

/-- The items that events put in. -/
def puts (events : List Event) : List Item := events.filterMap Event.put?

/-- But for the claims, what is stored under an identifier is what was put in under it, or else what
was there before. -/
theorem bare_get?_run (t : Traffic) {events : List Event}
    (distinct : ((puts events).map Item.id).Nodup) (id : ItemId) :
    (t.run events).shelf.bare.get? id =
      (((puts events).find? (·.id = id)).map Item.bare).or (t.shelf.bare.get? id) := by
  induction events generalizing t with
  | nil => rfl
  | cons event events ih =>
    rw [run_cons]
    cases hput : event.put? with
    | none =>
      have hputs : puts (event :: events) = puts events := List.filterMap_cons_none hput
      rw [hputs] at distinct ⊢
      rw [ih _ distinct, bare_step hput]
    | some item =>
      have hputs : puts (event :: events) = item :: puts events := List.filterMap_cons_some hput
      rw [hputs, List.map_cons, List.nodup_cons] at distinct
      obtain ⟨hnew, distinct⟩ := distinct
      rw [ih _ distinct, hputs, shelf_step_of_put hput, Shelf.get?_bare, Shelf.get?_put]
      by_cases hid : id = item.id
      · have hlater : (puts events).find? (·.id = id) = none := by
          rw [List.find?_eq_none]
          intro later hlater
          rw [decide_eq_true_iff, hid]
          exact fun hsame ↦ hnew (hsame ▸ List.mem_map_of_mem hlater)
        rw [hlater, if_pos hid, List.find?_cons_of_pos (by simpa using hid.symm)]
        rfl
      · rw [if_neg hid, List.find?_cons_of_neg (by simpa using Ne.symm hid), Shelf.get?_bare]

/-- Two runs over stores that began empty have put in the same items, in whatever order and no two
with one identifier, and in the end the same items are claimed. -/
structure Alike (t t' : Traffic) (events events' : List Event) : Prop where
  empty : t.shelf = .empty
  empty' : t'.shelf = .empty
  distinct : ((puts events).map Item.id).Nodup
  perm : (puts events).Perm (puts events')
  claimed : ∀ id, ((t.run events).shelf.target? id).isSome =
    ((t'.run events').shelf.target? id).isSome

theorem Alike.pending_eq {t t' : Traffic} {events events' : List Event}
    (h : Alike t t' events events') (kind : Kind) :
    (t.run events).shelf.pending kind = (t'.run events').shelf.pending kind := by
  have hdistinct' : ((puts events').map Item.id).Nodup :=
    ((h.perm.map Item.id).nodup_iff).mp h.distinct
  have hfind : ∀ id, (puts events).find? (·.id = id) = (puts events').find? (·.id = id) :=
    @Shelf.get?_eq_of_perm ⟨puts events, List.pairwise_map.mp h.distinct⟩
      ⟨puts events', List.pairwise_map.mp hdistinct'⟩ h.perm
  refine Shelf.pending_eq_of_bare (fun id ↦ ?_) h.claimed kind
  rw [bare_get?_run t h.distinct, bare_get?_run t' hdistinct', hfind, h.empty, h.empty']

/-- A fetch that does not fail brings the oldest pending items of a kind. What it brings does not
depend on the order in which the items were put in. -/
theorem oldest_fetch (kind : Kind) (limit : Nat) :
    (∀ store : Store, store.fetchFaults = 0 → ∃ items,
        store.fetch kind limit = (.ok items, store) ∧ store.shelf.Oldest kind limit items) ∧
      ∀ (t t' : Traffic) (events events' : List Event), Alike t t' events events' →
        (t.run events).outside.store.fetchFaults = 0 →
        (t'.run events').outside.store.fetchFaults = 0 →
        ((t.run events).outside.store.fetch kind limit).1 =
          ((t'.run events').outside.store.fetch kind limit).1 := by
  refine ⟨fun store hfault ↦ ?_, fun t t' events events' halike hfault hfault' ↦ ?_⟩
  · exact ⟨_, Store.fetch_of_no_fault kind limit hfault, store.shelf.oldest_pending kind limit⟩
  · have hpending : (t.run events).outside.store.shelf.pending kind =
        (t'.run events').outside.store.shelf.pending kind := halike.pending_eq kind
    rw [Store.fetch_of_no_fault kind limit hfault, Store.fetch_of_no_fault kind limit hfault',
      hpending]

def still : Traffic where
  outside := { store := { noticeChannel := "reviews" } }

/-- A deposit as old as the lone one. -/
def twin (id : String) : Item := { lone with id := ⟨id⟩ }

def forth : List Event :=
  [.insert lone, .enqueue (twin "d2"), .insert (twin "d0"), .claim .deposit lone.id ⟨⟨-1⟩, 7⟩]

def back : List Event :=
  [.insert (twin "d0"), .insert lone, .claim .deposit lone.id ⟨⟨-2⟩, 8⟩, .insert (twin "d2")]

theorem alike_forth_back : Alike still still forth back where
  empty := rfl
  empty' := rfl
  distinct := by decide
  perm := @List.perm_append_comm _ [lone, twin "d2"] [twin "d0"]
  claimed id := by
    have hempty : Shelf.empty.target? id = none := rfl
    by_cases hid : id = lone.id
    · rw [hid]
      rfl
    · have hforth : (still.run forth).shelf.target? id = none := by
        change ((((Shelf.empty.put lone).put (twin "d2")).put (twin "d0")).setTarget
          lone.id ⟨⟨-1⟩, 7⟩).target? id = none
        rw [Shelf.target?_setTarget_of_ne _ hid]
        simp [hempty, lone, twin]
      have hback : (still.run back).shelf.target? id = none := by
        change ((((Shelf.empty.put (twin "d0")).put lone).setTarget lone.id ⟨⟨-2⟩, 8⟩).put
          (twin "d2")).target? id = none
        rw [Shelf.target?_put, Shelf.target?_setTarget_of_ne _ hid]
        simp [hempty, lone, twin]
      rw [hforth, hback]

theorem oldest_fetch_forth_back :
    (∃ items, (still.run forth).outside.store.fetch .deposit 2 =
        (.ok items, (still.run forth).outside.store) ∧
      (still.run forth).shelf.Oldest .deposit 2 items) ∧
    Alike still still forth back ∧
      ((still.run forth).outside.store.fetch .deposit 2).1 =
        ((still.run back).outside.store.fetch .deposit 2).1 :=
  ⟨(oldest_fetch .deposit 2).1 _ rfl, alike_forth_back,
    (oldest_fetch .deposit 2).2 _ _ _ _ alike_forth_back rfl rfl⟩

end Traffic

end ReviewDesk
