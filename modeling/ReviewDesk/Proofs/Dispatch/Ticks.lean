import ReviewDesk.Desk.State
import ReviewDesk.Proofs.Dispatch.Deliveries

/-!
A scheduler that has the store and the platform to itself, from tick to tick. Between two ticks
producers put items in, channels move, and posts and fetches are made to fail, in any order. A tick
comes to no more than deliveries (`delivers_tick`).
-/

set_option autoImplicit false
set_option relaxedAutoImplicit false

namespace ReviewDesk.Dispatch

inductive Event where
  | insert (item : Item)
  | enqueue (item : Item)
  | setChannel (kind : Kind) (channel : Option ChannelId)
  /-- The posts of an item are refused from now on. -/
  | failPost (item : ItemId) (text : String)
  /-- So many of the next fetches fail. -/
  | failFetches (count : Nat)
  | tick

/-- The item that an event puts into the store. -/
def Event.put? : Event → Option Item
  | .insert item | .enqueue item => some item
  | _ => none

def happen (d : Desk) : Event → Desk
  | .insert item => d.modifyStore (·.insert item)
  | .enqueue item => d.modifyStore (·.enqueue item)
  | .setChannel kind channel => d.modifyStore (·.setChannel kind channel)
  | .failPost item text =>
    { d with outside.platform := d.outside.platform.failPost item text }
  | .failFetches count => d.modifyStore fun store ↦ { store with fetchFaults := count }
  | .tick => d.dispatchTick.2

def run (d : Desk) (events : List Event) : Desk := events.foldl happen d

theorem run_snoc (d : Desk) (events : List Event) (event : Event) :
    run d (events ++ [event]) = happen (run d events) event :=
  List.foldl_append

theorem outside_dispatchTick (d : Desk) :
    d.dispatchTick.2.outside = ((pass d.dispatch.batchLimit).run d.outside).2 := by
  have hdone : ((d.report .passStarted).perform (pass d.dispatch.batchLimit)).2.outside =
      ((pass d.dispatch.batchLimit).run d.outside).2 := rfl
  rw [← hdone]
  unfold Desk.dispatchTick
  dsimp only
  split <;> rfl

/-- A tick reports what its pass reports, and nothing for a pass that fails as a whole. -/
theorem report_dispatchTick (d : Desk) :
    d.dispatchTick.1 = ((pass d.dispatch.batchLimit).run d.outside).1.toOption := by
  have hdone : ((d.report .passStarted).perform (pass d.dispatch.batchLimit)).1 =
      ((pass d.dispatch.batchLimit).run d.outside).1 := rfl
  rw [← hdone]
  unfold Desk.dispatchTick
  dsimp only
  split
  · rename_i hreport
    rw [hreport]
    rfl
  · rename_i hfailure
    rw [hfailure]
    rfl

theorem delivers_tick {d : Desk} (plain : d.outside.Plain) :
    Delivers d.outside (happen d .tick).outside := by
  rw [happen, outside_dispatchTick]
  exact delivers_pass plain d.dispatch.batchLimit

theorem plain_happen {d : Desk} (h : d.outside.Plain) (event : Event) :
    (happen d event).outside.Plain := by
  cases event with
  | insert item => exact h.with_store _
  | enqueue item => exact h.with_store _
  | setChannel kind channel => exact h.with_store _
  | failPost item text => exact h.with_platform _
  | failFetches count => exact h.with_store _
  | tick => exact (delivers_tick h).plain h

theorem plain_run {d : Desk} (h : d.outside.Plain) (events : List Event) :
    (run d events).outside.Plain := by
  induction events generalizing d with
  | nil => exact h
  | cons event events ih => exact ih (plain_happen h event)

/-- An event puts nothing in but an unclaimed item under an identifier that is new. -/
def Admits (d : Desk) (event : Event) : Prop :=
  ∀ item, event.put? = some item →
    d.outside.store.shelf.get? item.id = none ∧ item.target = none

def AdmitsAll : Desk → List Event → Prop
  | _, [] => True
  | d, event :: events => Admits d event ∧ AdmitsAll (happen d event) events

end ReviewDesk.Dispatch
