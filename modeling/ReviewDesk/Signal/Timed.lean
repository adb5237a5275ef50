import ReviewDesk.Pause
import ReviewDesk.Signal.Wake

/-!
Waiting on a wake signal with a time limit. Raises that were planned, raises whose time has come and
waiters that were notified take turns from one queue. Whoever waits with a limit stands apart: they
are asked between rounds of turns, so that a crowd of raises in one millisecond may be only partly
made when they go on. The clock moves only when the queue is empty and somebody waits for it.
-/

set_option autoImplicit false
set_option relaxedAutoImplicit false

namespace ReviewDesk.Wake

namespace Lobby

/-- The seats that the next raise notifies for the first time. -/
def parked (l : Lobby) : List Nat :=
  (l.seats.zipIdx.filter fun seat ↦ seat.1 = .parked false).map (·.2)

end Lobby

/-- What somebody does in a turn. -/
inductive Turn where
  /-- Pauses for so long, and raises the signal after that. -/
  | plan (pause : Nat)
  /-- Raises the signal: the pause is over. -/
  | raise
  /-- A waiter registers and looks. -/
  | seat (i : Nat)
  deriving DecidableEq

/-- A lobby with a clock, the raises to come and the turns to come. -/
structure Timed where
  lobby : Lobby := {}
  clock : Nat := 0
  /-- The times, in ascending order, at which the signal will be raised. -/
  due : List Nat := []
  queue : List Turn := []
  /-- The seat of whoever waits with a limit; it gets no turn from the queue. -/
  apart : Option Nat := none

namespace Timed

/-- Puts a time in its place among ascending ones. -/
def addDue (time : Nat) : List Nat → List Nat
  | [] => [time]
  | other :: rest => if time < other then time :: other :: rest else other :: addDue time rest

def enqueue (t : Timed) (turns : List Turn) : Timed := { t with queue := t.queue ++ turns }

/-- Raises the signal; everybody whom that notifies gets a turn. -/
def raise (t : Timed) : Timed :=
  let notified := t.lobby.parked.filter fun i ↦ t.apart ≠ some i
  { t with lobby := t.lobby.raise }.enqueue (notified.map .seat)

def clear (t : Timed) : Timed := { t with lobby := t.lobby.clear }

/-- Somebody starts to wait without a limit. -/
def enter (t : Timed) : Timed :=
  { t with lobby := t.lobby.enter }.enqueue [.seat t.lobby.seats.length]

/-- Plans a raise after a pause. -/
def plan (t : Timed) (pause : Nat) : Timed := t.enqueue [.plan pause]

/-- Makes a turn. A pause of no time is over at once. -/
def perform (t : Timed) : Turn → Timed
  | .plan pause =>
    if pause = 0 then t.raise else { t with due := addDue (t.clock + Pause.length pause) t.due }
  | .raise => t.raise
  | .seat i => { t with lobby := t.lobby.turn i }

/-- Makes up to so many turns from the queue. -/
def turns : Nat → Timed → Timed
  | 0, t => t
  | n + 1, t =>
    match t.queue with
    | [] => t
    | turn :: rest => turns n ({ t with queue := rest }.perform turn)

/-- Makes all turns without moving the clock. A raise gives a turn to each seat at most, and no
other turn leads to one. -/
def settle (t : Timed) : Timed := t.turns (t.queue.length * (t.lobby.seats.length + 1))

/-- Moves the clock; the raises that are due by then get their turns. -/
def moveTo (t : Timed) (time : Nat) : Timed :=
  { t with clock := time, due := t.due.dropWhile (· ≤ time) }.enqueue
    ((t.due.takeWhile (· ≤ time)).map fun _ ↦ .raise)

/-- Lets time pass up to `target`, stopping at every raise before it. What is due at `target` itself
gets its turn after that. -/
def advanceTo (target : Nat) (t : Timed) : Timed := pass (target - t.clock) t
where
  /-- Every round but the last moves the clock, so the time that is left bounds the rounds. -/
  pass : Nat → Timed → Timed
    | 0, t => t
    | left + 1, t =>
      let t := t.settle
      match t.due.head?.filter (· < target) with
      | some time => pass left (t.moveTo time)
      | none => t.moveTo target

def advance (t : Timed) (delay : Nat) : Timed := t.advanceTo (t.clock + Pause.length delay)

/-- How many turns make a round. -/
def roundLength : Nat := 61

/-- A round of turns, after which seat `i` is asked. -/
def round (t : Timed) (i : Nat) : Timed :=
  let t := t.turns roundLength
  { t with lobby := t.lobby.turn i }

/-- Lets the others go on until seat `i` is served or the deadline has come. At the deadline itself
the wait ends before anybody else gets a turn. -/
def await (deadline i : Nat) : Nat → Timed → Timed
  | 0, t => t
  | n + 1, t =>
    if deadline ≤ t.clock || !t.lobby.isWaiting i then t
    else if !t.queue.isEmpty then await deadline i n (t.round i)
    else match t.due.head?.filter (· < deadline) with
      | some time => await deadline i n ((t.moveTo time).round i)
      | none => t.moveTo deadline

/-- More rounds than it takes until nobody has a turn to come: each of them makes a turn, every raise
takes two turns at most, and every seat takes one after a raise. -/
def rounds (t : Timed) : Nat :=
  (t.queue.length + t.due.length + 1) * (t.lobby.seats.length + 2)

/-- Waits for a raise for at most `limit`, and takes the flag down either way. Tells whether it was
a raise that ended the wait, and how long the wait took. -/
def wait (t : Timed) (limit : Nat) : (Bool × Nat) × Timed :=
  let i := t.lobby.seats.length
  let waiting := { t with lobby := t.lobby.enter.turn i, apart := some i }
  let ended := waiting.await (t.clock + limit) i waiting.rounds
  let lobby := { ended.lobby with seats := ended.lobby.seats.dropLast }.clear
  ((!ended.lobby.isWaiting i, ended.clock - t.clock), { ended with lobby := lobby, apart := none })

end Timed

end ReviewDesk.Wake
