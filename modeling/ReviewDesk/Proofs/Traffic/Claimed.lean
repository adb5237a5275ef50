import ReviewDesk.Proofs.Outside
import ReviewDesk.Proofs.Shelf.Order
import ReviewDesk.Proofs.Traffic.Steps

/-!
How long a claim lasts. Neither passes nor rivals can undo a claim, nor win it again; what can is a
producer who puts an item with the same identifier in once more, since the store then keeps the
new item only. `keeps_iff` says that this is the only way, and exactly when it happens.
-/

set_option autoImplicit false
set_option relaxedAutoImplicit false

namespace ReviewDesk

namespace Traffic

/-- An event is a claim, by whomever, that wins an item with a message. -/
def Wins (t : Traffic) (event : Event) (id : ItemId) (target : MessageRef) : Prop :=
  ∃ entry kind, (t.step event).log = t.log ++ [entry] ∧
    entry.exchange.won? = some ⟨kind, id, target⟩

/-- An item is claimed with a message, and as things stand nobody is given it to post and nobody
can claim it. -/
structure Keeps (t : Traffic) (id : ItemId) (target : MessageRef) : Prop where
  target : t.shelf.target? id = some target
  unfetched : ∀ kind limit items, (t.outside.store.fetch kind limit).1 = .ok items →
    ∀ item ∈ items, item.id ≠ id
  unwon : ∀ kind other, (t.outside.store.claim kind id other).1 = false

theorem keeps_of_target? {t : Traffic} {id : ItemId} {target : MessageRef}
    (h : t.shelf.target? id = some target) : t.Keeps id target where
  target := h
  unfetched kind limit items hfetch item hitem hid := by
    obtain ⟨hget, -, hnone⟩ := (Store.fetch_ok hfetch).1 item hitem
    rw [hid] at hget
    have hget' : t.outside.store.shelf.get? id = some item := hget
    rw [shelf, Shelf.target?, hget', Option.bind_some, hnone] at h
    cases h
  unwon kind other := by
    rw [← Bool.not_eq_true, Store.claim_eq_true_iff]
    exact Store.not_isOpen_of_target? h

theorem shelf_step_of_put {event : Event} {item : Item} (h : event.put? = some item)
    (t : Traffic) : (t.step event).shelf = t.shelf.put item := by
  cases event with
  | insert other =>
    cases h
    rfl
  | enqueue other =>
    cases h
    exact t.outside.store.shelf_enqueue item
  | claim kind id target => cases h
  | start limit => cases h
  | proceed number => cases h
  | setChannel kind channel => cases h
  | failPost id text => cases h
  | failFetches count => cases h

/-- Nothing but putting its identifier in again touches a claimed item. -/
theorem target?_step {t : Traffic} {id : ItemId} {held : MessageRef}
    (h : t.shelf.target? id = some held) {event : Event}
    (hput : ∀ item, event.put? = some item → item.id = id → item.target = some held) :
    (t.step event).shelf.target? id = some held := by
  cases hevent : event.put? with
  | some item =>
    rw [shelf_step_of_put hevent, Shelf.target?_put]
    split
    · exact hput item hevent (Eq.symm ‹id = item.id›)
    · exact h
  | none =>
    cases event with
    | insert other => cases hevent
    | enqueue other => cases hevent
    | claim kind other target =>
      rw [step, shelf_claim]
      exact Store.target?_claim h kind other target
    | proceed number =>
      rw [step]
      rcases t.proceed_eq_or_ask number with heq | ⟨call, next, hget⟩
      · rwa [heq]
      · rw [proceed_of_ask hget]
        exact Outside.target?_answer h call
    | start limit => exact h
    | setChannel kind channel => exact h
    | failPost other text => exact h
    | failFetches count => exact h

theorem target?_run {t : Traffic} {id : ItemId} {held : MessageRef}
    (h : t.shelf.target? id = some held) {events : List Event}
    (hput : ∀ event ∈ events, ∀ item, event.put? = some item → item.id = id →
      item.target = some held) :
    (t.run events).shelf.target? id = some held := by
  induction events generalizing t with
  | nil => exact h
  | cons event events ih =>
    rw [run_cons]
    refine ih (target?_step h (hput event List.mem_cons_self)) fun later hlater ↦ ?_
    exact hput later (List.mem_cons_of_mem event hlater)

theorem target?_of_wins {t : Traffic} {event : Event} {id : ItemId} {target : MessageRef}
    (h : t.Wins event id target) : (t.step event).shelf.target? id = some target := by
  obtain ⟨⟨caller, exchange⟩, kind, hlog, hwon⟩ := h
  obtain rfl : exchange = ⟨.claim kind id target, .ok true⟩ := Exchange.eq_of_won? hwon
  have hsilent : (t.step event).log ≠ t.log := by
    rw [hlog]
    simp
  cases event with
  | claim kind' other target' =>
    rw [step, log_claim, List.append_cancel_left_eq, List.singleton_inj, Entry.mk.injEq] at hlog
    obtain ⟨hcall, hreply⟩ := Exchange.mk.inj hlog.2
    cases hcall
    rw [step, shelf_claim]
    exact Store.target?_claim_of_won (Except.ok.inj (eq_of_heq hreply))
  | proceed number =>
    rcases t.proceed_eq_or_ask number with heq | ⟨call, next, hget⟩
    · exact absurd (congrArg log heq) hsilent
    · rw [step, proceed_of_ask hget, List.append_cancel_left_eq, List.singleton_inj,
        Entry.mk.injEq] at hlog
      obtain ⟨hcall, hreply⟩ := Exchange.mk.inj hlog.2
      cases hcall
      rw [step, proceed_of_ask hget]
      exact Outside.target?_answer_of_won (eq_of_heq hreply)
  | insert item => simp [step] at hsilent
  | enqueue item => simp [step] at hsilent
  | start limit => simp [step] at hsilent
  | setChannel kind' channel => simp [step] at hsilent
  | failPost other text => simp [step] at hsilent
  | failFetches count => simp [step] at hsilent

/-- Once an item is won it stays won with the same message in all that follows exactly if every item
put in with its identifier carries that message already. -/
theorem keeps_iff {t : Traffic} {event : Event} {id : ItemId} {target : MessageRef}
    (h : t.Wins event id target) (events : List Event) :
    (∀ before after, events = before ++ after → ((t.step event).run before).Keeps id target) ↔
      ∀ later ∈ events, ∀ item, later.put? = some item → item.id = id →
        item.target = some target := by
  have hwon := target?_of_wins h
  constructor
  · intro hkeeps later hlater item hput hid
    obtain ⟨before, after, rfl⟩ := List.append_of_mem hlater
    have hnow := (hkeeps (before ++ [later]) after (by simp)).target
    rw [run_append, run_cons, run_nil, shelf_step_of_put hput, Shelf.target?_put,
      if_pos hid.symm] at hnow
    exact hnow
  · rintro hput before after rfl
    refine keeps_of_target? (target?_run hwon fun later hlater ↦ ?_)
    exact hput later (List.mem_append_left after hlater)

/-- A deposit that waits, and a store that holds nothing else. -/
def lone : Item where
  id := ⟨"d1"⟩
  kind := .deposit
  createdAt := ⟨0, 0⟩
  seed := 1
  attachment := { bytes := [1] }

def overLone : Traffic where
  outside :=
    { store :=
        { noticeChannel := "reviews"
          shelf := Shelf.empty.put lone
          channels := ⟨some ⟨-1⟩, none⟩ } }

theorem keeps_of_other_item :
    overLone.Wins (.claim .deposit lone.id ⟨⟨-1⟩, 7⟩) lone.id ⟨⟨-1⟩, 7⟩ ∧
      ((overLone.step (.claim .deposit lone.id ⟨⟨-1⟩, 7⟩)).run
        [.enqueue { lone with id := ⟨"d2"⟩ }, .start 3, .proceed 0]).Keeps lone.id ⟨⟨-1⟩, 7⟩ := by
  have hwins : overLone.Wins (.claim .deposit lone.id ⟨⟨-1⟩, 7⟩) lone.id ⟨⟨-1⟩, 7⟩ :=
    ⟨_, .deposit, rfl, rfl⟩
  refine ⟨hwins, (keeps_iff hwins _).mpr ?_ _ [] (List.append_nil _).symm⟩
  intro later hlater item hput hid
  simp only [List.mem_cons, List.not_mem_nil, or_false] at hlater
  rcases hlater with rfl | rfl | rfl
  · cases hput
    exact absurd hid (by decide)
  · cases hput
  · cases hput

/-- Putting a claimed item in once more takes the claim away. -/
theorem not_forall_keeps :
    ¬∀ (t : Traffic) (event : Event) (id : ItemId) (target : MessageRef),
      t.Wins event id target → ∀ events, ((t.step event).run events).Keeps id target := by
  intro hkeeps
  have hagain := (hkeeps overLone (.claim .deposit lone.id ⟨⟨-1⟩, 7⟩) lone.id ⟨⟨-1⟩, 7⟩
    ⟨_, .deposit, rfl, rfl⟩ [.insert lone]).target
  rw [run_cons, run_nil, shelf_step_of_put rfl, Shelf.target?_put] at hagain
  cases hagain

end Traffic

end ReviewDesk
