import ReviewDesk.Call

/-!
Everything that the desk calls into, with the trouble that may be made there: store calls that fail
on their way, a rival who claims items just before they are posted, subscribes that never complete,
and a decision service that answers what it was told to.
-/

set_option autoImplicit false
set_option relaxedAutoImplicit false

namespace ReviewDesk

/-- A run of calls that fail before they reach the store. -/
structure Outage where
  remaining : Nat
  error : StoreError

/-- The runs of failing calls that are under way, by call. -/
structure Outages where
  fetch : Option Outage := none
  claim : Option Outage := none
  resolve : Option Outage := none
  rights : Option Outage := none

namespace Outage

/-- Whether the next call fails, and what is left of the run after it. -/
def next : Option Outage → Option StoreError × Option Outage
  | some ⟨n + 1, error⟩ => (some error, some ⟨n, error⟩)
  | _ => (none, none)

end Outage

/-- A decision service that gives one answer, after a delay, to whoever asks. -/
structure DecisionService where
  answer : Except DecisionError Json := .ok .null
  delay : Nat := 0
  calls : List DecisionCall := []

namespace DecisionService

def decide (service : DecisionService) (call : DecisionCall) : DecisionReply × DecisionService :=
  (⟨service.answer.map Outcome.ofPayload, service.delay⟩,
    { service with calls := service.calls ++ [call] })

end DecisionService

structure Outside where
  store : Store
  platform : Platform := {}
  service : DecisionService := {}
  outages : Outages := {}
  /-- Items that a rival claims whenever they are about to be posted. -/
  rivals : List ItemId := []
  /-- How many of the listener's next subscribes never complete. -/
  hangingSubscribes : Nat := 0

namespace Outside

/-- The message that a rival claims with. -/
def rivalTarget (channel : ChannelId) : MessageRef := ⟨channel, 9999⟩

/-- A rival gets in before a post, if there is one for its item. -/
def precede (o : Outside) (channel : ChannelId) (post : Post) : Outside :=
  if post.item ∈ o.rivals then
    { o with store := (o.store.claim post.kind post.item (rivalTarget channel)).2 }
  else o

/-- Answers a call. -/
def answer (o : Outside) : (call : Call) → call.Reply × Outside
  | .resolveChannel kind => match Outage.next o.outages.resolve with
    | (some error, left) => (.error error, { o with outages.resolve := left })
    | (none, _) => (.ok (o.store.channel? kind), o)
  | .fetchPending kind limit => match Outage.next o.outages.fetch with
    | (some error, left) => (.error error, { o with outages.fetch := left })
    | (none, _) =>
      let (result, store) := o.store.fetch kind limit
      (result, { o with store := store })
  | .claim kind item target => match Outage.next o.outages.claim with
    | (some error, left) => (.error error, { o with outages.claim := left })
    | (none, _) =>
      let (won, store) := o.store.claim kind item target
      (.ok won, { o with store := store })
  | .currentRights kind => match Outage.next o.outages.rights with
    | (some error, left) => (.error error, { o with outages.rights := left })
    | (none, _) => (.ok (o.store.rights.get kind), o)
  | .publish channel post =>
    let o := o.precede channel post
    let (result, platform) := o.platform.publish channel post
    (result, { o with platform := platform })
  | .member op =>
    let (result, platform) := o.platform.perform op
    (result, { o with platform := platform })
  | .decide call =>
    let (reply, service) := o.service.decide call
    (reply, { o with service := service })

end Outside

namespace Procedure

variable {α : Type}

/-- Makes one call of a procedure. -/
def step (o : Outside) : Procedure α → Procedure α × Outside
  | done result => (done result, o)
  | ask call next =>
    let (reply, o) := o.answer call
    (next reply, o)

/-- Makes all calls of a procedure, with nothing in between. -/
def run : Procedure α → Outside → α × Outside
  | done result, o => (result, o)
  | ask call next, o =>
    let reply := o.answer call
    (next reply.1).run reply.2

end Procedure

end ReviewDesk
