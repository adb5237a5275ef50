import ReviewDesk.Desk.Step

/-!
Taking turns. A loop that becomes able to go on goes to the end of the queue; the loop at its head
takes steps until it has to wait, or until its turn has been long enough and it is put off. Once the
queue has run empty the loops that were put off queue again, and when there are none the clock may
move to the next time that somebody waits for.
-/

set_option autoImplicit false
set_option relaxedAutoImplicit false

namespace ReviewDesk.Desk

/-- Puts the loops that can go on into the queue. Of those that can from the same moment, whoever
set itself a time earlier comes first. -/
def enroll (d : Desk) : Desk :=
  { d with ready := d.ready ++ (d.asleep ++ Loop.all).eraseDups.filter fun loop ↦
      d.isReady loop && !d.ready.contains loop && !d.deferred.contains loop }

/-- The most steps in one turn, so that a flood of messages does not keep the other loops waiting. -/
def turnLimit : Nat := 128

/-- One step of the loop at the head of the queue. It leaves the queue when it has to wait and when
its turn is over. -/
def step (d : Desk) : Desk :=
  match d.ready with
  | [] => d
  | loop :: rest =>
    if d.taken < turnLimit then
      if d.isReady loop then { d.stepLoop loop with taken := d.taken + 1 }.enroll
      else { d with ready := rest, taken := 0 }
    else { d with ready := rest, deferred := d.deferred ++ [loop], taken := 0 }

def steps : Nat → Desk → Desk
  | 0, d => d
  | n + 1, d => if d.ready.isEmpty then d else steps n d.step

/-- More steps than can be taken while the clock stands still: every message, every subscribe that
is made to fail and every command leads to a fixed number of them. -/
def backlog (d : Desk) : Nat :=
  let bus := d.outside.store.bus
  let messages := bus.subscriptions.foldl (fun n s ↦ n + s.waiting.length) 0
  20 * (messages + bus.subscribeFaults + d.access.commands.length + 10)

/-- Takes turns until the queue is empty. -/
def round (d : Desk) : Desk := d.steps d.backlog

/-- The loops that were put off queue again. -/
def readmit (d : Desk) : Desk := { d with ready := d.ready ++ d.deferred, deferred := [] }

/-- Takes rounds until no loop is put off any more. -/
def rounds : Nat → Desk → Desk
  | 0, d => d
  | n + 1, d =>
    let d := d.round
    if d.deferred.isEmpty then d else rounds n d.readmit

/-- Lets every loop go on until all wait, while the clock stands still. -/
def settle (d : Desk) : Desk := let d := d.enroll; d.rounds d.backlog

/-- The times that loops wait for. -/
def alarms (d : Desk) : List Nat :=
  (match d.listener.phase with
    | .connecting limit | .backoff limit => [limit]
    | _ => [])
  ++ (match d.dispatch.phase with
    | .waiting limit => [limit]
    | _ => [])

def nextAlarm? (d : Desk) : Option Nat := d.alarms.min?

/-- Lets time pass up to `target`, stopping at every time that a loop waits for before it. What is
due at `target` itself is not served yet. -/
def advanceTo (target : Nat) (d : Desk) : Desk := pass (target - d.clock) d
where
  /-- Every round but the last moves the clock, so the time that is left bounds the rounds. -/
  pass : Nat → Desk → Desk
    | 0, d => d.settle
    | left + 1, d =>
      let d := d.settle
      match d.nextAlarm?.filter fun time ↦ d.clock < time ∧ time < target with
      | some time => pass left { d with clock := time }
      | none => { d with clock := target }.enroll

/-- Somebody pauses for so long. A pause of no time is over before anybody else gets a turn. -/
def advance (d : Desk) (delay : Nat) : Desk :=
  if delay = 0 then d else d.advanceTo (d.clock + Pause.length delay)

end ReviewDesk.Desk
