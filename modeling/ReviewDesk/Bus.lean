import ReviewDesk.Failure

/-!
The notice bus. A subscription is a stream: the notices published on its channel from its opening
until it is ended, then, if it was broken, one error, and then the end. Streams are numbered in the
order in which they were opened and are never forgotten.
-/

set_option autoImplicit false
set_option relaxedAutoImplicit false

namespace ReviewDesk

/-- A message on the bus. -/
structure Publication where
  channel : String
  payload : String
  deriving DecidableEq

/-- What a stream holds: publications, and the error it broke with. -/
inductive Delivery where
  | publication (message : Publication)
  | broken (error : StoreError)
  deriving DecidableEq

/-- One stream, from both of its ends. -/
structure Subscription where
  channel : String
  /-- What was sent and not yet taken out, oldest first. -/
  waiting : List Delivery := []
  /-- Whether the bus still sends to it. -/
  attached : Bool := true
  /-- Whether its holder still has it. -/
  held : Bool := true
  deriving DecidableEq

namespace Subscription

def isLive (s : Subscription) : Bool := s.attached && s.held

/-- Nothing reaches a stream that is ended or that nobody holds. -/
def send (s : Subscription) (delivery : Delivery) : Subscription :=
  if s.isLive then { s with waiting := s.waiting ++ [delivery] } else s

def finish (s : Subscription) : Subscription := { s with attached := false }

/-- Whether taking from the stream gives something, be it the end. -/
def isReady (s : Subscription) : Bool := !s.waiting.isEmpty || !s.attached

end Subscription

structure Bus where
  subscriptions : List Subscription := []
  subscribeCalls : Nat := 0
  /-- How many of the next calls to subscribe will fail. -/
  subscribeFaults : Nat := 0
  deriving DecidableEq

namespace Bus

/-- What taking from a stream gives. -/
inductive Taken where
  | delivery (content : Delivery)
  | nothingYet
  | ended
  deriving DecidableEq

def modify (bus : Bus) (i : Nat) (change : Subscription → Subscription) : Bus :=
  { bus with subscriptions := bus.subscriptions.modify i change }

/-- Opens a stream and gives its number. -/
def subscribe (bus : Bus) (channel : String) : Except StoreError Nat × Bus :=
  let bus := { bus with subscribeCalls := bus.subscribeCalls + 1 }
  if 0 < bus.subscribeFaults then
    (.error (.connection "injected subscribe failure"),
      { bus with subscribeFaults := bus.subscribeFaults - 1 })
  else
    (.ok bus.subscriptions.length,
      { bus with subscriptions := bus.subscriptions ++ [{ channel := channel }] })

def publish (bus : Bus) (channel payload : String) : Bus :=
  { bus with subscriptions := bus.subscriptions.map fun s ↦
      if s.channel = channel then s.send (.publication ⟨channel, payload⟩) else s }

/-- Ends every stream, as a lost connection would. -/
def dropAll (bus : Bus) : Bus :=
  { bus with subscriptions := bus.subscriptions.map Subscription.finish }

/-- Ends every stream with an error. -/
def breakAll (bus : Bus) (reason : String) : Bus :=
  { bus with subscriptions := bus.subscriptions.map fun s ↦
      (s.send (.broken (.connection reason))).finish }

/-- Takes the oldest content out of a stream. A stream that nobody holds gives nothing. -/
def take (bus : Bus) (i : Nat) : Taken × Bus :=
  match bus.subscriptions[i]? with
  | none => (.ended, bus)
  | some s => match s.waiting with
    | content :: rest => (.delivery content, bus.modify i fun s ↦ { s with waiting := rest })
    | [] => (if s.isLive then .nothingYet else .ended, bus)

/-- The holder lets go of a stream, and what was waiting in it is lost. -/
def release (bus : Bus) (i : Nat) : Bus := bus.modify i fun s ↦ { s with held := false, waiting := [] }

def liveCount (bus : Bus) (channel : String) : Nat :=
  bus.subscriptions.countP fun s ↦ s.isLive && s.channel == channel

end Bus

end ReviewDesk
