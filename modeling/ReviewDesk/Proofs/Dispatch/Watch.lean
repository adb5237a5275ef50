import ReviewDesk.Proofs.Desk.Shift
import ReviewDesk.Proofs.Dispatch.Ticks

/-!
The ticks of one scheduler, seen call by call. Producers, new channels and trouble may come between
any two calls of a tick as well as between two ticks. A watch keeps the books of the tick under way
and of those that have ended: what was said, how many items went from unclaimed to claimed, and what
health showed. A tick that nothing comes between is that of the desk
(`exists_run_eq_dispatchTick`).
-/

set_option autoImplicit false
set_option relaxedAutoImplicit false

namespace ReviewDesk

/-! ### Items that go from unclaimed to claimed -/

namespace Shelf

/-- How many items of a kind are unclaimed at first and claimed later. -/
def moved (before after : Shelf) (kind : Kind) : Nat :=
  before.items.countP fun item ↦
    item.kind = kind && !item.isClaimed && (after.target? item.id).isSome

theorem target?_of_mem_pending {shelf : Shelf} {kind : Kind} {item : Item}
    (h : item ∈ shelf.pending kind) : shelf.target? item.id = none := by
  obtain ⟨hmem, -, hclaimed⟩ := mem_pending.mp h
  rw [target?, get?_of_mem hmem, Option.bind_some]
  rwa [Item.isClaimed, Option.isSome_eq_false_iff, Option.isNone_iff_eq_none] at hclaimed

theorem moved_eq_countP_pending (before after : Shelf) (kind : Kind) :
    before.moved after kind =
      (before.pending kind).countP fun item ↦ (after.target? item.id).isSome := by
  rw [(before.pending_perm kind).countP_eq, List.countP_filter, moved]
  apply List.countP_congr
  intro item _
  rw [Bool.and_comm]

theorem moved_self (shelf : Shelf) (kind : Kind) : shelf.moved shelf kind = 0 := by
  rw [moved_eq_countP_pending, List.countP_eq_zero]
  intro item hitem
  rw [target?_of_mem_pending hitem]
  exact Bool.false_ne_true

/-- Of the pending items of a kind, those are left that have not been claimed. -/
def Depletes (before after : Shelf) (kind : Kind) : Prop :=
  after.pending kind = (before.pending kind).filter fun item ↦ (after.target? item.id).isNone

theorem depletes_self (shelf : Shelf) (kind : Kind) : shelf.Depletes shelf kind := by
  rw [Depletes, eq_comm, List.filter_eq_self]
  intro item hitem
  rw [target?_of_mem_pending hitem, Option.isNone_none]

/-- Of the pending items, a claim takes the one that it is about. -/
theorem isSome_target?_setTarget {shelf : Shelf} {kind : Kind} {other : Item}
    (h : other ∈ shelf.pending kind) {id : ItemId} {item : Item} (target : MessageRef)
    (hget : shelf.get? id = some item) :
    ((shelf.setTarget id target).target? other.id).isSome = decide (other.id = id) := by
  by_cases hid : other.id = id
  · simp [hid, target?_setTarget_self target hget]
  · simp [hid, target?_setTarget_of_ne target hid, target?_of_mem_pending h]

theorem depletes_setTarget {shelf : Shelf} {id : ItemId} {item : Item} (target : MessageRef)
    (hget : shelf.get? id = some item) (kind : Kind) :
    shelf.Depletes (shelf.setTarget id target) kind := by
  rw [Depletes, pending_setTarget]
  apply List.filter_congr
  intro other hother
  rw [← Option.not_isSome, isSome_target?_setTarget hother target hget, decide_not]

/-- What is taken in two steps adds up, as long as nothing claimed is given back. -/
theorem moved_add {first second third : Shelf} {kind : Kind} (h : first.Depletes second kind)
    (kept : ∀ id, (second.target? id).isSome → (third.target? id).isSome) :
    first.moved third kind = first.moved second kind + second.moved third kind := by
  have hearly : ((first.pending kind).filter fun item ↦ (second.target? item.id).isSome).countP
      (fun item ↦ (third.target? item.id).isSome) = first.moved second kind := by
    rw [moved_eq_countP_pending, List.countP_filter]
    apply List.countP_congr
    intro item _
    rw [Bool.and_eq_true]
    exact ⟨And.right, fun hclaimed ↦ ⟨kept item.id hclaimed, hclaimed⟩⟩
  have hlate : ((first.pending kind).filter fun item ↦ !(second.target? item.id).isSome).countP
      (fun item ↦ (third.target? item.id).isSome) = second.moved third kind := by
    rw [moved_eq_countP_pending, h]
    simp only [Option.not_isSome]
  rw [moved_eq_countP_pending, List.countP_eq_countP_filter_add, hearly, hlate]

end Shelf

namespace Outside

theorem depletes_answer (o : Outside) (call : Call) (kind : Kind) :
    o.store.shelf.Depletes (o.answer call).2.store.shelf kind := by
  rcases o.store_answer call with heq | ⟨other, limit, heq⟩ | ⟨other, id, target, heq⟩
  · rw [heq]
    exact Shelf.depletes_self _ kind
  · rw [heq, Store.shelf_fetch]
    exact Shelf.depletes_self _ kind
  · rw [heq]
    by_cases hopen : o.store.IsOpen other id
    · rw [Store.claim_of_isOpen target hopen]
      obtain ⟨item, hget, -⟩ := hopen
      exact Shelf.depletes_setTarget target hget kind
    · rw [Store.claim_of_not_isOpen target hopen]
      exact Shelf.depletes_self _ kind

end Outside

/-- What was claimed stays claimed throughout a procedure. -/
theorem Procedure.isSome_target?_run {α : Type} (p : Procedure α) {o : Outside} {id : ItemId}
    (h : (o.store.shelf.target? id).isSome) : ((p.run o).2.store.shelf.target? id).isSome := by
  induction p generalizing o with
  | done a => exact h
  | ask call next ih =>
    obtain ⟨held, hheld⟩ := Option.isSome_iff_exists.mp h
    refine ih _ ?_
    rw [Outside.target?_answer hheld call]
    rfl

/-! ### Ticks, call by call -/

namespace Dispatch

/-- What a tick has done so far. -/
structure Tick where
  /-- The section of the scheduler in health, as the tick found it. -/
  found : DispatchHealth
  /-- The calls it has made, with the replies. -/
  talk : List Exchange := []
  /-- How many items of a kind went from unclaimed to claimed by its calls. -/
  moved : Kind → Nat := fun _ ↦ 0
  /-- Whether calls to the store may have begun to fail under way. -/
  disturbed : Bool := false

/-- Books one more call of a tick. -/
def Tick.enter (tick : Tick) (exchange : Exchange) (before after : Shelf) : Tick :=
  { tick with
    talk := tick.talk ++ [exchange]
    moved := fun kind ↦ tick.moved kind + before.moved after kind }

/-- A tick that has ended. -/
structure PastTick extends Tick where
  result : Except Failure Report
  /-- The section of the scheduler in health, as the tick left it. -/
  left : DispatchHealth

namespace PastTick

/-- What the tick returned. -/
def report? (tick : PastTick) : Option Report := tick.result.toOption

/-- How many items of a kind the tick reported as sent; none without a report. -/
def reported (tick : PastTick) (kind : Kind) : Nat :=
  tick.report?.elim 0 fun report ↦ report.sent.get kind

/-- The tick left its counts in health, or that its pass failed as a whole. -/
def Recorded (tick : PastTick) : Prop :=
  tick.left.lastSent = tick.report?.elim tick.found.lastSent Report.sent ∧
    tick.left.lastError = tick.report?.elim (some "dispatch_failed") fun _ ↦ none

end PastTick

/-- What may come between any two calls. -/
inductive Incident where
  | insert (item : Item)
  | enqueue (item : Item)
  | setChannel (kind : Kind) (channel : Option ChannelId)
  /-- The posts of an item are refused from now on. -/
  | failPost (item : ItemId) (text : String)
  /-- So many of the next fetches fail. -/
  | failFetches (count : Nat)
  /-- Calls to the store begin or cease to fail before they reach it. -/
  | fault (change : Outages → Outages)

namespace Incident

def strike (o : Outside) : Incident → Outside
  | insert item => { o with store := o.store.insert item }
  | enqueue item => { o with store := o.store.enqueue item }
  | setChannel kind channel => { o with store := o.store.setChannel kind channel }
  | failPost item text => { o with platform := o.platform.failPost item text }
  | failFetches count => { o with store.fetchFaults := count }
  | fault change => { o with outages := change o.outages }

/-- Whether calls to the store may begin to fail. -/
def disturbs : Incident → Bool
  | failFetches _ | fault _ => true
  | _ => false

end Incident

/-- A desk whose ticks are watched. -/
structure Watch where
  desk : Desk
  /-- The tick under way, with what is left of its pass. -/
  underWay : Option (Tick × Procedure (Except Failure Report)) := none
  /-- The ticks that have ended, in order. -/
  ended : List PastTick := []

namespace Watch

inductive Event where
  | incident (incident : Incident)
  /-- A tick begins, makes its next call or ends. -/
  | turn

def beginTick (w : Watch) : Watch :=
  { w with
    desk := w.desk.report .passStarted
    underWay := some ({ found := w.desk.health.dispatch }, pass w.desk.dispatch.batchLimit) }

def makeCall (w : Watch) (tick : Tick) (call : Call)
    (next : call.Reply → Procedure (Except Failure Report)) : Watch :=
  let (reply, outside) := w.desk.outside.answer call
  { w with
    desk.outside := outside
    underWay := some
      (tick.enter ⟨call, reply⟩ w.desk.outside.store.shelf outside.store.shelf, next reply) }

def endTick (w : Watch) (tick : Tick) (result : Except Failure Report) : Watch where
  desk := Shift.recordDispatch w.desk result
  underWay := none
  ended := w.ended ++ [⟨tick, result, (Shift.recordDispatch w.desk result).health.dispatch⟩]

def turn (w : Watch) : Watch :=
  match w.underWay with
  | none => w.beginTick
  | some (tick, .ask call next) => w.makeCall tick call next
  | some (tick, .done result) => w.endTick tick result

def step (w : Watch) : Event → Watch
  | .incident incident =>
    { w with
      desk.outside := incident.strike w.desk.outside
      underWay := w.underWay.map fun (tick, rest) ↦
        ({ tick with disturbed := tick.disturbed || incident.disturbs }, rest) }
  | .turn => w.turn

def run (w : Watch) (events : List Event) : Watch := events.foldl step w

@[simp] theorem run_cons (w : Watch) (event : Event) (events : List Event) :
    w.run (event :: events) = (w.step event).run events := rfl

section Turns

variable {w : Watch} {tick : Tick}

theorem turn_of_none (h : w.underWay = none) : w.turn = w.beginTick := by rw [turn, h]

theorem turn_of_ask {call : Call} {next : call.Reply → Procedure (Except Failure Report)}
    (h : w.underWay = some (tick, .ask call next)) : w.turn = w.makeCall tick call next := by
  rw [turn, h]

theorem turn_of_done {result : Except Failure Report}
    (h : w.underWay = some (tick, .done result)) : w.turn = w.endTick tick result := by
  rw [turn, h]

end Turns

/-! ### Ticks that nothing comes between -/

theorem exists_run_eq_endTick (p : Procedure (Except Failure Report)) {w : Watch} {tick : Tick}
    (h : w.underWay = some (tick, p)) :
    ∃ (n : Nat) (last : Tick),
      w.run (List.replicate n .turn) =
        { w with desk.outside := (p.run w.desk.outside).2 }.endTick last (p.run w.desk.outside).1 ∧
      ∀ kind, last.moved kind = tick.moved kind +
        w.desk.outside.store.shelf.moved (p.run w.desk.outside).2.store.shelf kind := by
  induction p generalizing w tick with
  | done result =>
    refine ⟨1, tick, ?_, fun kind ↦ ?_⟩
    · rw [List.replicate_one, run_cons, step, turn_of_done h]
      rfl
    · exact (congrArg (tick.moved kind + ·) (Shelf.moved_self _ kind)).symm
  | ask call next ih =>
    have hturn := turn_of_ask h
    obtain ⟨n, last, hn, hmoved⟩ :=
      ih (w.desk.outside.answer call).1 (w := w.turn) (by rw [hturn]; rfl)
    rw [hturn] at hn hmoved
    refine ⟨n + 1, last, ?_, fun kind ↦ ?_⟩
    · rw [List.replicate_succ, run_cons, step, hturn, hn]
      rfl
    · have hadd := Shelf.moved_add (w.desk.outside.depletes_answer call kind)
        fun id hid ↦ (next (w.desk.outside.answer call).1).isSome_target?_run hid
      rw [hmoved kind, Procedure.run, hadd, ← Nat.add_assoc]
      rfl

/-- The turns of a tick that nothing comes between come to a tick of the desk, and it has taken what
went from unclaimed to claimed from its beginning to its end. -/
theorem exists_run_eq_dispatchTick {w : Watch} (idle : w.underWay = none) :
    ∃ (n : Nat) (tick : PastTick),
      w.run (List.replicate n .turn) =
        { desk := w.desk.dispatchTick.2, ended := w.ended ++ [tick] } ∧
      tick.report? = w.desk.dispatchTick.1 ∧
      ∀ kind, tick.moved kind =
        w.desk.outside.store.shelf.moved w.desk.dispatchTick.2.outside.store.shelf kind := by
  obtain ⟨n, last, hn, hmoved⟩ := exists_run_eq_endTick (pass w.desk.dispatch.batchLimit)
    (w := w.beginTick) rfl
  rw [← turn_of_none idle] at hn
  refine ⟨n + 1, ⟨last, ((pass w.desk.dispatch.batchLimit).run w.desk.outside).1,
    w.desk.dispatchTick.2.health.dispatch⟩, ?_, (report_dispatchTick w.desk).symm, fun kind ↦ ?_⟩
  · rw [List.replicate_succ, run_cons, step, hn, turn_of_none idle, Shift.dispatchTick_snd]
    rfl
  · rw [outside_dispatchTick]
    exact (hmoved kind).trans (Nat.zero_add _)

end Watch

end Dispatch

end ReviewDesk
