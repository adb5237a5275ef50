import ReviewDesk.Proofs.Traffic.Booked
import ReviewDesk.Proofs.Traffic.Claimed

/-!
Passes and rivals that race for the same items. Every item is put in once and unclaimed, and the
calls come in any order. `change_step` says all that one event can do; from it follow the
invariants of every race (`sound_of_raced`), that the books of the store are right and that each
pass is where its own calls have brought it.
-/

set_option autoImplicit false
set_option relaxedAutoImplicit false

namespace ReviewDesk

open Dispatch Procedure Talk

namespace Traffic

/-! ### What one event can do -/

inductive Change (t : Traffic) (event : Event) (t' : Traffic) : Prop where
  | quiet (shelf : t'.shelf = t.shelf) (passes : t'.passes = t.passes) (log : t'.log = t.log)
  | put {item : Item} (puts : event.put? = some item) (shelf : t'.shelf = t.shelf.put item)
      (passes : t'.passes = t.passes) (log : t'.log = t.log)
  | start (limit : Nat) (shelf : t'.shelf = t.shelf)
      (passes : t'.passes = t.passes ++ [Dispatch.pass limit]) (log : t'.log = t.log)
  | rival {exchange : Exchange} (deed : Deed t.shelf exchange t'.shelf)
      (passes : t'.passes = t.passes) (log : t'.log = t.log ++ [⟨.rival, exchange⟩])
  | call {number : Nat} {call : Call} {next : call.Reply → Procedure (Except Failure Report)}
      {reply : call.Reply} (asks : t.passes[number]? = some (.ask call next))
      (deed : Deed t.shelf ⟨call, reply⟩ t'.shelf)
      (passes : t'.passes = t.passes.set number (next reply))
      (log : t'.log = t.log ++ [⟨.pass number, ⟨call, reply⟩⟩])

theorem change_step {t : Traffic} (h : t.outside.Plain) (event : Event) :
    Change t event (t.step event) := by
  cases event with
  | insert item => exact .put rfl (shelf_step_of_put rfl t) rfl rfl
  | enqueue item => exact .put rfl (shelf_step_of_put rfl t) (by rw [step]) (by rw [step])
  | claim kind item target =>
    exact .rival (deed_claim t.outside.store kind item target) rfl (t.log_claim kind item target)
  | start limit => exact .start limit rfl rfl rfl
  | proceed number =>
    rw [step]
    rcases t.proceed_eq_or_ask number with heq | ⟨call, next, hget⟩
    · rw [heq]
      exact .quiet rfl rfl rfl
    · rw [proceed_of_ask hget]
      exact .call hget (Outside.deed_answer h call) rfl rfl
  | setChannel kind channel => exact .quiet rfl rfl rfl
  | failPost item text => exact .quiet rfl rfl rfl
  | failFetches count => exact .quiet rfl rfl rfl

theorem plain_step {t : Traffic} (h : t.outside.Plain) (event : Event) :
    (t.step event).outside.Plain := by
  cases event with
  | proceed number =>
    rw [step]
    rcases t.proceed_eq_or_ask number with heq | ⟨call, next, hget⟩
    · rwa [heq]
    · rw [proceed_of_ask hget]
      exact h.answer call
  | insert item => exact ⟨h.outages, h.rivals⟩
  | enqueue item =>
    rw [step]
    exact ⟨h.outages, h.rivals⟩
  | claim kind item target => exact ⟨h.outages, h.rivals⟩
  | start limit => exact h
  | setChannel kind channel => exact ⟨h.outages, h.rivals⟩
  | failPost item text => exact ⟨h.outages, h.rivals⟩
  | failFetches count => exact ⟨h.outages, h.rivals⟩

/-! ### Races -/

/-- An event may happen in a race: what it puts in, if anything, is new and unclaimed. -/
def Admits (t : Traffic) (event : Event) : Prop :=
  ∀ item, event.put? = some item → t.shelf.get? item.id = none ∧ item.target = none

/-- Events may happen one after the other. -/
def AdmitsAll : Traffic → List Event → Prop
  | _, [] => True
  | t, event :: events => t.Admits event ∧ (t.step event).AdmitsAll events

/-- Traffic that began with no pass and no claimed item, and into which every item was put once and
unclaimed. -/
inductive Raced : Traffic → Prop where
  | opening {o : Outside} (plain : o.Plain)
      (unclaimed : ∀ item ∈ o.store.shelf.items, item.target = none) : Raced { outside := o }
  | next {t : Traffic} {event : Event} (before : Raced t) (admits : t.Admits event) :
      Raced (t.step event)

/-- All exchanges, in order. -/
def exchanges (t : Traffic) : List Exchange := t.log.map Entry.exchange

theorem mem_exchanges_of_mem_talk {t : Traffic} {caller : Caller} {exchange : Exchange}
    (h : exchange ∈ t.talk caller) : exchange ∈ t.exchanges := by
  obtain ⟨entry, hentry, rfl⟩ := List.mem_map.mp h
  exact List.mem_map_of_mem (List.mem_filter.mp hentry).1

theorem talk_of_log {t t' : Traffic} {entry : Entry} (h : t'.log = t.log ++ [entry])
    (caller : Caller) :
    t'.talk caller = t.talk caller ++ if entry.caller = caller then [entry.exchange] else [] := by
  rw [talk, h, List.filter_append, List.map_append, ← talk]
  by_cases hcaller : entry.caller = caller <;> simp [hcaller]

/-- The invariants of a race. -/
structure Sound (t : Traffic) : Prop where
  plain : t.outside.Plain
  booked : Booked t.shelf t.exchanges
  follows : ∀ number p, t.passes[number]? = some p →
    ∃ limit, Follows (pass limit) (t.talk (.pass number)) p
  bounded : ∀ entry ∈ t.log, ∀ number, entry.caller = .pass number → number < t.passes.length

theorem sound_opening {o : Outside} (plain : o.Plain)
    (unclaimed : ∀ item ∈ o.store.shelf.items, item.target = none) :
    Sound { outside := o } where
  plain := plain
  booked := booked_nil unclaimed
  follows number p hp := by cases hp
  bounded entry hentry := by cases hentry

theorem Sound.booked_step {t : Traffic} (h : Sound t) {event : Event} (admits : t.Admits event) :
    Booked (t.step event).shelf (t.step event).exchanges := by
  rcases change_step h.plain event with
    ⟨hshelf, -, hlog⟩ | ⟨hput, hshelf, -, hlog⟩ | ⟨-, hshelf, -, hlog⟩ | ⟨hdeed, -, hlog⟩ |
      ⟨-, hdeed, -, hlog⟩
  · rw [exchanges, hlog, hshelf]
    exact h.booked
  · obtain ⟨fresh, unclaimed⟩ := admits _ hput
    rw [exchanges, hlog, hshelf]
    exact h.booked.put fresh unclaimed
  · rw [exchanges, hlog, hshelf]
    exact h.booked
  · rw [exchanges, hlog, List.map_append]
    exact h.booked.snoc hdeed
  · rw [exchanges, hlog, List.map_append]
    exact h.booked.snoc hdeed

theorem Sound.follows_step {t : Traffic} (h : Sound t) (event : Event) (number : Nat)
    (p : Procedure (Except Failure Report)) (hp : (t.step event).passes[number]? = some p) :
    ∃ limit, Follows (pass limit) ((t.step event).talk (.pass number)) p := by
  rcases change_step h.plain event with
    ⟨-, hpasses, hlog⟩ | ⟨-, -, hpasses, hlog⟩ | ⟨limit, -, hpasses, hlog⟩ | ⟨-, hpasses, hlog⟩ |
      ⟨hasks, -, hpasses, hlog⟩
  · rw [hpasses] at hp
    rw [talk, hlog]
    exact h.follows number p hp
  · rw [hpasses] at hp
    rw [talk, hlog]
    exact h.follows number p hp
  · rw [hpasses] at hp
    rw [talk, hlog, ← talk]
    by_cases hlast : number = t.passes.length
    · subst hlast
      rw [List.getElem?_concat_length, Option.some.injEq] at hp
      -- Nobody has spoken as a pass that had not been begun.
      have hsilent : t.talk (.pass t.passes.length) = [] := by
        rw [talk, List.map_eq_nil_iff, List.filter_eq_nil_iff]
        intro entry hentry hcaller
        exact Nat.lt_irrefl _ (h.bounded entry hentry _ (of_decide_eq_true hcaller))
      rw [hsilent, ← hp]
      exact ⟨limit, .stay _⟩
    · rw [List.getElem?_append] at hp
      split at hp
      · exact h.follows number p hp
      · rw [List.getElem?_singleton, if_neg (by omega)] at hp
        cases hp
  · rw [hpasses] at hp
    rw [talk_of_log hlog, if_neg Caller.noConfusion, List.append_nil]
    exact h.follows number p hp
  · rename_i caller call next reply
    rw [hpasses] at hp
    rw [talk_of_log hlog]
    by_cases hnumber : caller = number
    · subst hnumber
      obtain ⟨limit, hfollows⟩ := h.follows caller _ hasks
      have hlt : caller < t.passes.length := (List.getElem?_eq_some_iff.mp hasks).1
      rw [List.getElem?_set_self hlt, Option.some.injEq] at hp
      rw [if_pos rfl, ← hp]
      exact ⟨limit, hfollows.snoc reply⟩
    · rw [List.getElem?_set_ne hnumber] at hp
      rw [if_neg fun heq ↦ hnumber (Caller.pass.inj heq), List.append_nil]
      exact h.follows number p hp

theorem Sound.bounded_step {t : Traffic} (h : Sound t) (event : Event) :
    ∀ entry ∈ (t.step event).log, ∀ number, entry.caller = .pass number →
      number < (t.step event).passes.length := by
  rcases change_step h.plain event with
    ⟨-, hpasses, hlog⟩ | ⟨-, -, hpasses, hlog⟩ | ⟨limit, -, hpasses, hlog⟩ | ⟨-, hpasses, hlog⟩ |
      ⟨hasks, -, hpasses, hlog⟩
  · rw [hpasses, hlog]
    exact h.bounded
  · rw [hpasses, hlog]
    exact h.bounded
  · rw [hpasses, hlog, List.length_append]
    intro entry hentry number hcaller
    exact Nat.lt_add_right _ (h.bounded entry hentry number hcaller)
  · rw [hpasses, hlog]
    apply forall_mem_snoc h.bounded
    intro number hcaller
    cases hcaller
  · rw [hpasses, hlog, List.length_set]
    apply forall_mem_snoc h.bounded
    intro number hcaller
    cases hcaller
    exact (List.getElem?_eq_some_iff.mp hasks).1

theorem sound_of_raced {t : Traffic} (h : Raced t) : Sound t := by
  induction h with
  | opening plain unclaimed => exact sound_opening plain unclaimed
  | next before admits ih =>
    exact ⟨plain_step ih.plain _, ih.booked_step admits, ih.follows_step _, ih.bounded_step _⟩

theorem raced_run {t : Traffic} (h : Raced t) {events : List Event} (admits : t.AdmitsAll events) :
    Raced (t.run events) := by
  induction events generalizing t with
  | nil => exact h
  | cons event events ih =>
    obtain ⟨hadmits, hrest⟩ := admits
    exact ih (h.next hadmits) hrest

/-- Since what is put in is new, a claimed item stays as it is. -/
theorem target?_of_admitsAll {t : Traffic} {id : ItemId} {target : MessageRef}
    (h : t.shelf.target? id = some target) {events : List Event} (admits : t.AdmitsAll events) :
    (t.run events).shelf.target? id = some target := by
  induction events generalizing t with
  | nil => exact h
  | cons event events ih =>
    obtain ⟨hadmits, hrest⟩ := admits
    refine ih (target?_step h fun item hput hid ↦ ?_) hrest
    rw [← hid, Shelf.target?, (hadmits item hput).1] at h
    cases h

end Traffic

end ReviewDesk
