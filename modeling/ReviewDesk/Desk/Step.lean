import ReviewDesk.Desk.State

/-!
The steps of the three loops. A loop that can go on takes one step at a time: the listener one
change of phase or one message, the dispatch loop one wait or one pass, the access loop one pass or
one command. A stop is looked at before anything else, a wake before a command.
-/

set_option autoImplicit false
set_option relaxedAutoImplicit false

namespace ReviewDesk

namespace Listener

/-- Pauses after an attempt or a session that failed. -/
def retreat (d : Desk) (marker : String) : Desk :=
  let d := d.report (.disconnected marker)
  { d.sleep .listener with listener.phase := .backoff (d.clock + Pause.length d.listener.retry) }

/-- A subscribe has completed. Whatever was published while nobody listened is lost, so both loops
are woken. -/
def connected (d : Desk) (stream : Nat) : Desk :=
  { (d.report .connected).raiseDispatch.raiseAccess with listener.phase := .session stream }

/-- Starts an attempt to subscribe. -/
def attempt (d : Desk) : Desk :=
  if 0 < d.outside.hangingSubscribes then
    { d.sleep .listener with
      outside.hangingSubscribes := d.outside.hangingSubscribes - 1
      listener.phase := .connecting (d.clock + subscribeLimit) }
  else
    let (result, store) := d.outside.store.subscribe d.listener.channel
    let d := { d with outside.store := store }
    match result with
    | .ok stream => connected d stream
    | .error _ => retreat d "listener_connect_failed"

/-- Wakes the loop that a notice concerns. -/
def hear (d : Desk) (payload : String) : Desk :=
  let payload := Text.trim payload
  let d := d.report (.noticed payload)
  match Notice.topic payload with
  | .accessSync => d.raiseAccess
  | .dispatch => d.raiseDispatch

/-- The stream has broken or ended, and is let go. -/
def lose (d : Desk) (stream : Nat) : Desk :=
  retreat (d.modifyBus (·.release stream)) "listener_lost"

/-- Whether the listener can go on. -/
def isReady (d : Desk) : Bool :=
  match d.listener.phase with
  | .starting => true
  | .connecting limit => limit ≤ d.clock
  | .session stream =>
    d.stop.resolves || (d.outside.store.bus.subscriptions[stream]?).any Subscription.isReady
  | .backoff limit => d.stop.resolves || limit ≤ d.clock
  | .ended => false

def step (d : Desk) : Desk :=
  match d.listener.phase with
  | .starting => if d.stop.requested then { d with listener.phase := .ended } else attempt d
  | .connecting limit => if limit ≤ d.clock then retreat d "listener_connect_timeout" else d
  | .session stream =>
    if d.stop.resolves then { d.modifyBus (·.release stream) with listener.phase := .ended }
    else
      let (taken, bus) := d.outside.store.bus.take stream
      let d := d.modifyBus fun _ ↦ bus
      match taken with
      | .delivery (.publication message) => hear d message.payload
      | .delivery (.broken _) | .ended => lose d stream
      | .nothingYet => d
  | .backoff limit =>
    if d.stop.resolves then { d with listener.phase := .ended }
    else if limit ≤ d.clock then { d with listener.phase := .starting }
    else d
  | .ended => d

end Listener

namespace Dispatch

def isReady (d : Desk) : Bool :=
  match d.dispatch.phase with
  | .starting => true
  | .waiting limit => d.stop.resolves || d.dispatchWake.raised || limit ≤ d.clock
  | .ended => false

/-- Ends a wait, takes the flag down and makes a pass. -/
def wake (d : Desk) : Desk :=
  let d := { d with dispatchWake := d.dispatchWake.clear }
  { d.dispatchTick.2 with dispatch.phase := .starting }

def step (d : Desk) : Desk :=
  match d.dispatch.phase with
  | .starting =>
    if d.stop.resolves then { d with dispatch.phase := .ended }
    else if d.dispatchWake.raised then wake d
    else { d.sleep .dispatch with dispatch.phase := .waiting (d.clock + d.dispatch.fallback) }
  | .waiting limit =>
    if d.stop.resolves then { d with dispatch.phase := .ended }
    else if d.dispatchWake.raised || limit ≤ d.clock then wake d
    else d
  | .ended => d

end Dispatch

namespace Membership

def isReady (d : Desk) : Bool :=
  d.access.running && (d.stop.resolves || d.accessWake.raised || !d.access.commands.isEmpty)

/-- Serves one command. -/
def serve (d : Desk) : Command → Desk
  | .join channel reviewer =>
    let (result, d) := d.join channel reviewer
    { d with access.answers := d.access.answers ++ [.joined result] }
  | .sync =>
    let (result, d) := d.accessTick
    { d with access.answers := d.access.answers ++ [.synced result] }

/-- Ends the loop; the commands that wait are refused. -/
def quit (d : Desk) : Desk :=
  { d with
    access.running := false
    access.commands := []
    access.answers := d.access.answers ++ d.access.commands.map Command.refusal }

def step (d : Desk) : Desk :=
  if d.access.running then
    if d.stop.resolves then quit d
    else if d.accessWake.raised then { d with accessWake := d.accessWake.clear }.accessTick.2
    else match d.access.commands with
      | command :: commands => serve { d with access.commands := commands } command
      | [] => d
  else d

end Membership

namespace Desk

def isReady (d : Desk) : Loop → Bool
  | .listener => Listener.isReady d
  | .dispatch => Dispatch.isReady d
  | .access => Membership.isReady d

def stepLoop (d : Desk) : Loop → Desk
  | .listener => Listener.step d
  | .dispatch => Dispatch.step d
  | .access => Membership.step d

end Desk

end ReviewDesk
