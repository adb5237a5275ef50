import ReviewDesk.Rights

/-!
What has to be done to the members of a channel so that they agree with the rights. On the channel
that was looked after before, only what differs from the rights of that time has to be done; on any
other channel, everything.
-/

set_option autoImplicit false
set_option relaxedAutoImplicit false

namespace ReviewDesk.Membership

/-- The rights that the members of a channel were last brought in line with, and that channel. -/
structure Tracked where
  rights : Rights := .empty
  channel : Option ChannelId := none
  deriving DecidableEq

structure Plan where
  /-- Who has to go, in ascending order. -/
  revoke : List ReviewerId
  /-- Who may come back, in ascending order. -/
  restore : List ReviewerId
  /-- Whether the plan takes no account of what was done before. -/
  fullScan : Bool
  deriving DecidableEq

namespace Plan

def isEmpty (plan : Plan) : Bool := plan.revoke.isEmpty && plan.restore.isEmpty

end Plan

/-- Puts a reviewer in their place among ascending ones, once. -/
def insertReviewer (reviewer : ReviewerId) : List ReviewerId → List ReviewerId
  | [] => [reviewer]
  | other :: rest =>
    if reviewer = other then other :: rest
    else if reviewer < other then reviewer :: other :: rest
    else other :: insertReviewer reviewer rest

/-- The reviewers of two ascending lists together. -/
def merge (a b : List ReviewerId) : List ReviewerId := b.foldl (fun held r ↦ insertReviewer r held) a

/-- The reviewers on record with a given right whose right was not the same before. -/
def changed (previous current : Rights) (allowed : Bool) : List ReviewerId :=
  (current.entries.filter fun entry ↦
    entry.2 = allowed && previous.get? entry.1 ≠ some allowed).map (·.1)

/-- The reviewers who were on record and no longer are. -/
def vanished (previous current : Rights) : List ReviewerId :=
  previous.reviewers.filter fun reviewer ↦ !current.contains reviewer

def plan (tracked : Tracked) (current : Rights) (channel : ChannelId) : Plan :=
  if tracked.channel = some channel then
    ⟨merge (changed tracked.rights current false) (vanished tracked.rights current),
      changed tracked.rights current true, false⟩
  else ⟨changed .empty current false, changed .empty current true, true⟩

end ReviewDesk.Membership
