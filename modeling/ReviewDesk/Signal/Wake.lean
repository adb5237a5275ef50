/-!
Wake signals. A signal is a flag: raising it any number of times before somebody waits wakes them
once. A waiter first registers to be notified and then looks at the flag, so that no raise can slip
through between the two; who finds the flag up takes it down and is served, and everybody else parks
until the next raise notifies them.
-/

set_option autoImplicit false
set_option relaxedAutoImplicit false

namespace ReviewDesk

structure Wake where
  raised : Bool := false
  raises : Nat := 0
  deriving DecidableEq

namespace Wake

def raise (w : Wake) : Wake := ⟨true, w.raises + 1⟩

/-- Takes the flag down without waiting. -/
def clear (w : Wake) : Wake := { w with raised := false }

/-- Where one waiter stands. -/
inductive Seat where
  /-- About to register. -/
  | arriving
  /-- Registered and about to look at the flag; `notified` tells of a raise since. -/
  | looking (notified : Bool)
  /-- Found the flag down and waits to be notified. -/
  | parked (notified : Bool)
  /-- Took the flag. -/
  | served
  /-- Gave up waiting. -/
  | gone
  deriving DecidableEq

namespace Seat

def notify : Seat → Seat
  | looking _ => looking true
  | parked _ => parked true
  | seat => seat

end Seat

/-- A signal with all who wait for it. Each of the steps below is one that no other step can
interrupt. -/
structure Lobby where
  signal : Wake := {}
  seats : List Seat := []
  deriving DecidableEq

namespace Lobby

/-- The first step of a raise. -/
def count (l : Lobby) : Lobby := { l with signal := { l.signal with raises := l.signal.raises + 1 } }

/-- The second step of a raise. -/
def setFlag (l : Lobby) : Lobby := { l with signal := { l.signal with raised := true } }

/-- The last step of a raise: everybody who is registered is notified. -/
def notifyAll (l : Lobby) : Lobby := { l with seats := l.seats.map Seat.notify }

def raise (l : Lobby) : Lobby := l.count.setFlag.notifyAll

def clear (l : Lobby) : Lobby := { l with signal := l.signal.clear }

/-- Somebody starts to wait; seats keep their places. -/
def enter (l : Lobby) : Lobby := { l with seats := l.seats ++ [.arriving] }

/-- Registers to be notified, on arrival or after a notification. -/
def register (l : Lobby) (i : Nat) : Lobby :=
  match l.seats[i]? with
  | some .arriving | some (.parked true) => { l with seats := l.seats.set i (.looking false) }
  | _ => l

/-- Looks at the flag and takes it down if it is up; parks otherwise. -/
def look (l : Lobby) (i : Nat) : Lobby :=
  match l.seats[i]? with
  | some (.looking notified) =>
    if l.signal.raised then ⟨l.signal.clear, l.seats.set i .served⟩
    else { l with seats := l.seats.set i (.parked notified) }
  | _ => l

/-- Gives up waiting. -/
def cancel (l : Lobby) (i : Nat) : Lobby :=
  match l.seats[i]? with
  | some .served | none => l
  | some _ => { l with seats := l.seats.set i .gone }

/-- A waiter's turn: it registers and looks. -/
def turn (l : Lobby) (i : Nat) : Lobby := (l.register i).look i

def isWaiting (l : Lobby) (i : Nat) : Bool :=
  match l.seats[i]? with
  | some .arriving | some (.looking _) | some (.parked _) => true
  | _ => false

/-- Everybody who has to gets one turn, in the order of the seats. Without a raise in between one
turn each is enough. -/
def settle (l : Lobby) : Lobby := (List.range l.seats.length).foldl turn l

def served (l : Lobby) : Nat := l.seats.count .served

end Lobby

end Wake

end ReviewDesk
