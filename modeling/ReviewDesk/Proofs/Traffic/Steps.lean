import ReviewDesk.Proofs.Dispatch.Conversation
import ReviewDesk.Proofs.Shelf.Claims

/-!
Traffic over one store and one platform: any number of dispatch passes, each between two of its
calls, rivals who claim items on their own, and producers. What happens next is one event, and every
order of events is allowed. The log keeps each call with its reply and who made it.
-/

set_option autoImplicit false
set_option relaxedAutoImplicit false

namespace ReviewDesk

/-- Who makes a call. -/
inductive Caller where
  /-- A pass, by its number. -/
  | pass (number : Nat)
  /-- Somebody who claims without being a pass. -/
  | rival
  deriving DecidableEq

/-- One line of the log. -/
structure Entry where
  caller : Caller
  exchange : Exchange

structure Traffic where
  outside : Outside
  /-- What each pass that was begun has left to do. -/
  passes : List (Procedure (Except Failure Dispatch.Report)) := []
  log : List Entry := []

namespace Traffic

inductive Event where
  | insert (item : Item)
  | enqueue (item : Item)
  /-- A rival claims an item. -/
  | claim (kind : Kind) (item : ItemId) (target : MessageRef)
  /-- A scheduler with the given batch limit begins a pass. -/
  | start (limit : Nat)
  /-- A pass makes its next call. -/
  | proceed (number : Nat)
  | setChannel (kind : Kind) (channel : Option ChannelId)
  | failPost (item : ItemId) (text : String)
  | failFetches (count : Nat)

/-- The item that an event puts into the store. -/
def Event.put? : Event → Option Item
  | .insert item | .enqueue item => some item
  | _ => none

/-- A rival claims an item, past whatever stands before the store. -/
def claim (t : Traffic) (kind : Kind) (item : ItemId) (target : MessageRef) : Traffic :=
  let (won, store) := t.outside.store.claim kind item target
  { t with
    outside.store := store
    log := t.log ++ [⟨.rival, ⟨.claim kind item target, .ok won⟩⟩] }

/-- A pass makes its next call, if it has one left. -/
def proceed (t : Traffic) (number : Nat) : Traffic :=
  match t.passes[number]? with
  | some (.ask call next) =>
    let (reply, outside) := t.outside.answer call
    { t with
      outside := outside
      passes := t.passes.set number (next reply)
      log := t.log ++ [⟨.pass number, ⟨call, reply⟩⟩] }
  | _ => t

def step (t : Traffic) : Event → Traffic
  | .insert item => { t with outside.store := t.outside.store.insert item }
  | .enqueue item => { t with outside.store := t.outside.store.enqueue item }
  | .claim kind item target => t.claim kind item target
  | .start limit => { t with passes := t.passes ++ [Dispatch.pass limit] }
  | .proceed number => t.proceed number
  | .setChannel kind channel =>
    { t with outside.store := t.outside.store.setChannel kind channel }
  | .failPost item text =>
    { t with outside.platform := t.outside.platform.failPost item text }
  | .failFetches count =>
    { t with outside.store := { t.outside.store with fetchFaults := count } }

def run (t : Traffic) (events : List Event) : Traffic := events.foldl step t

@[simp] theorem run_nil (t : Traffic) : t.run [] = t := rfl

@[simp] theorem run_cons (t : Traffic) (event : Event) (events : List Event) :
    t.run (event :: events) = (t.step event).run events := rfl

theorem run_append (t : Traffic) (events more : List Event) :
    t.run (events ++ more) = (t.run events).run more :=
  List.foldl_append

/-- The store's items. -/
def shelf (t : Traffic) : Shelf := t.outside.store.shelf

/-- The exchanges of one caller, in order. -/
def talk (t : Traffic) (caller : Caller) : List Exchange :=
  (t.log.filter fun entry ↦ entry.caller = caller).map Entry.exchange

theorem shelf_claim (t : Traffic) (kind : Kind) (item : ItemId) (target : MessageRef) :
    (t.claim kind item target).shelf = (t.outside.store.claim kind item target).2.shelf := rfl

theorem log_claim (t : Traffic) (kind : Kind) (item : ItemId) (target : MessageRef) :
    (t.claim kind item target).log =
      t.log ++ [⟨.rival, .claim kind item target, .ok (t.outside.store.claim kind item target).1⟩] :=
  rfl

theorem proceed_of_ask {t : Traffic} {number : Nat} {call : Call}
    {next : call.Reply → Procedure (Except Failure Dispatch.Report)}
    (h : t.passes[number]? = some (.ask call next)) :
    t.proceed number =
      { outside := (t.outside.answer call).2
        passes := t.passes.set number (next (t.outside.answer call).1)
        log := t.log ++ [⟨.pass number, ⟨call, (t.outside.answer call).1⟩⟩] } := by
  simp [proceed, h]

/-- A pass that is over, or was never begun, makes no call. -/
theorem proceed_eq_or_ask (t : Traffic) (number : Nat) :
    t.proceed number = t ∨ ∃ (call : Call)
      (next : call.Reply → Procedure (Except Failure Dispatch.Report)),
      t.passes[number]? = some (.ask call next) := by
  unfold proceed
  split
  · exact Or.inr ⟨_, _, ‹_›⟩
  · exact Or.inl rfl

/-- The latest pass can be brought to its end by calls of its own, and that comes to making all its
calls at once. -/
theorem exists_run_of_last (p : Procedure (Except Failure Dispatch.Report)) (t : Traffic)
    (others : List (Procedure (Except Failure Dispatch.Report)))
    (hpasses : t.passes = others ++ [p]) :
    ∃ events : List Event, (t.run events).outside = (p.run t.outside).2 ∧
      (t.run events).passes = others ++ [.done (p.run t.outside).1] := by
  induction p generalizing t with
  | done result => exact ⟨[], rfl, hpasses⟩
  | ask call next ih =>
    have hget : t.passes[others.length]? = some (.ask call next) := by simp [hpasses]
    have hstep := proceed_of_ask hget
    have hset : (t.proceed others.length).passes = others ++ [next (t.outside.answer call).1] := by
      rw [hstep, hpasses]
      simp
    obtain ⟨events, houtside, hdone⟩ := ih _ (t.proceed others.length) hset
    refine ⟨.proceed others.length :: events, ?_⟩
    rw [run_cons, step, houtside, hdone, hstep]
    exact ⟨rfl, rfl⟩

/-- A pass that nothing comes between is one of the ways in which traffic can go. -/
theorem exists_run_pass (t : Traffic) (limit : Nat) :
    ∃ events : List Event, (t.run events).outside = ((Dispatch.pass limit).run t.outside).2 ∧
      (t.run events).passes =
        t.passes ++ [.done ((Dispatch.pass limit).run t.outside).1] := by
  obtain ⟨events, houtside, hdone⟩ :=
    exists_run_of_last (Dispatch.pass limit) (t.step (.start limit)) t.passes rfl
  exact ⟨.start limit :: events, houtside, hdone⟩

end Traffic

end ReviewDesk
