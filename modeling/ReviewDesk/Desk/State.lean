import ReviewDesk.Decision.Gate
import ReviewDesk.Dispatch.Pass
import ReviewDesk.Membership.Pass
import ReviewDesk.Outside
import ReviewDesk.Settings
import ReviewDesk.Signal.Stop
import ReviewDesk.Signal.Wake

/-!
The desk: three loops that share two wake signals, a stop signal and the health record, and that
take turns on one thread. Time is virtual and counted in milliseconds; it moves only when nobody can
go on.
-/

set_option autoImplicit false
set_option relaxedAutoImplicit false

namespace ReviewDesk

namespace Listener

/-- Where the listener stands between two of its steps. -/
inductive Phase where
  /-- About to look for a stop and to subscribe. -/
  | starting
  /-- Waits for a subscribe that does not complete, until a time. -/
  | connecting (limit : Nat)
  /-- Holds a stream of the bus and waits for what comes. -/
  | session (stream : Nat)
  /-- Waits for the next attempt, until a time. -/
  | backoff (limit : Nat)
  | ended
  deriving DecidableEq

/-- The listener: the channel it subscribes to, the pause after a failure, and where it stands. -/
structure State where
  channel : String
  retry : Nat
  phase : Phase
  deriving DecidableEq

/-- The limit on one attempt to subscribe, in milliseconds. -/
def subscribeLimit : Nat := 10000

end Listener

namespace Dispatch

/-- Where the dispatch loop stands between two of its steps. -/
inductive Phase where
  /-- About to look for a stop and to wait. -/
  | starting
  /-- Waits for its signal, until a time at which it makes a pass all the same. -/
  | waiting (limit : Nat)
  | ended
  deriving DecidableEq

structure State where
  batchLimit : Nat
  /-- The longest wait between two passes, in milliseconds. -/
  fallback : Nat
  phase : Phase
  deriving DecidableEq

end Dispatch

namespace Membership

/-- What may be asked of the access loop. -/
inductive Command where
  | join (channel : ChannelId) (reviewer : ReviewerId)
  | sync
  deriving DecidableEq

/-- What the access loop answers. -/
inductive Answer where
  | joined (result : Except Failure JoinDecision)
  | synced (result : Except Failure AccessReport)

/-- The failure of a command that nobody serves any more. -/
def stopped : Failure := .internal "access reconciler stopped"

/-- The answer to a command that nobody serves any more. -/
def Command.refusal : Command → Answer
  | join .. => .joined (.error stopped)
  | sync => .synced (.error stopped)

/-- The access loop: what it looks after, what it tracks, and the commands that wait for it. -/
structure State where
  duty : Duty
  tracked : Tracked := {}
  running : Bool
  commands : List Command := []
  /-- The answers given so far, in the order of the commands. -/
  answers : List Answer := []

end Membership

/-- One of the three loops. -/
inductive Loop where
  | listener
  | dispatch
  | access
  deriving DecidableEq

namespace Loop

def all : List Loop := [listener, dispatch, access]

end Loop

structure Desk where
  clock : Nat := 0
  outside : Outside
  health : Health
  stop : Stop := {}
  dispatchWake : Wake := {}
  accessWake : Wake := {}
  listener : Listener.State
  dispatch : Dispatch.State
  access : Membership.State
  /-- The loops that can go on, in the order of their turns. -/
  ready : List Loop := []
  /-- The loops whose turn was cut short; they queue again once the queue has run empty. -/
  deferred : List Loop := []
  /-- How many steps the loop at the head of the queue has taken in its turn. -/
  taken : Nat := 0
  /-- The loops that have set themselves a time to wait for, in the order in which they last did. -/
  asleep : List Loop := []

namespace Desk

def now (d : Desk) : Instant := .ofMillis d.clock

def report (d : Desk) (event : Instant → Health.Event) : Desk :=
  { d with health := d.health.record (event d.now) }

def modifyStore (d : Desk) (change : Store → Store) : Desk :=
  { d with outside.store := change d.outside.store }

def modifyBus (d : Desk) (change : Bus → Bus) : Desk :=
  d.modifyStore fun store ↦ { store with bus := change store.bus }

/-- Notes that a loop has set itself a time. -/
def sleep (d : Desk) (loop : Loop) : Desk := { d with asleep := d.asleep.erase loop ++ [loop] }

def raiseDispatch (d : Desk) : Desk := { d with dispatchWake := d.dispatchWake.raise }

def raiseAccess (d : Desk) : Desk := { d with accessWake := d.accessWake.raise }

/-- Makes all calls of a procedure at once. -/
def perform {α : Type} (d : Desk) (procedure : Procedure α) : α × Desk :=
  let (result, outside) := procedure.run d.outside
  (result, { d with outside := outside })

/-- A dispatch pass that is recorded in health. -/
def dispatchTick (d : Desk) : Option Dispatch.Report × Desk :=
  let (result, d) := (d.report .passStarted).perform (Dispatch.pass d.dispatch.batchLimit)
  match result with
  | .ok report => (some report, d.report (.passFinished report.sent))
  | .error _ => (none, d.report (.passFailed "dispatch_failed"))

/-- A pass over the members that is not recorded in health. -/
def accessPass (d : Desk) : Except Failure AccessReport × Desk :=
  let ((result, tracked), d) := d.perform (Membership.pass d.access.duty d.access.tracked)
  (result, { d with access.tracked := tracked })

/-- A pass over the members that is recorded in health. -/
def accessTick (d : Desk) : Except Failure AccessReport × Desk :=
  let (result, d) := d.accessPass
  match result with
  | .ok report => (result, d.report (.accessFinished report))
  | .error _ => (result, d.report (.accessFailed "access_sync_failed"))

def join (d : Desk) (channel : ChannelId) (reviewer : ReviewerId) :
    Except Failure Membership.JoinDecision × Desk :=
  let ((result, tracked), d) :=
    d.perform (Membership.join d.access.duty d.access.tracked channel reviewer)
  (result, { d with access.tracked := tracked })

end Desk

end ReviewDesk
