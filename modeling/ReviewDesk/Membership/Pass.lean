import ReviewDesk.Call
import ReviewDesk.Health
import ReviewDesk.Membership.Plan

/-!
Passes over the members of a review channel, and requests to join it. A pass plans against what the
last one left and does what is planned, the removals before the returns; calls that fail are
reported and change nothing about what is tracked. A request to join is granted to who may review,
and its outcome is tracked for those who are on record.
-/

set_option autoImplicit false
set_option relaxedAutoImplicit false

namespace ReviewDesk.Membership

/-- Whose channel is looked after, and who is always let in. -/
structure Duty where
  kind : Kind := .deposit
  superReviewer : Option ReviewerId := none
  deriving DecidableEq

/-- The reason given when somebody is removed. -/
def revokeReason : String := "review_rights_revoked"

/-- Does one operation for each reviewer and gives those it succeeded for and those it failed for. -/
def performAll (op : ReviewerId → MembershipOp) :
    List ReviewerId → Procedure (List ReviewerId × List ReviewerId)
  | [] => .done ([], [])
  | reviewer :: reviewers => .ask (.member (op reviewer)) fun reply ↦ do
    let (done, failed) ← performAll op reviewers
    match reply with
    | .ok () => return (reviewer :: done, failed)
    | .error _ => return (done, reviewer :: failed)

/-- Carries out a plan. -/
def carryOut (plan : Plan) (channel : ChannelId) : Procedure AccessReport := do
  let (revoked, notRevoked) ← performAll (.removed channel · revokeReason) plan.revoke
  let (restored, notRestored) ← performAll (.unblocked channel ·) plan.restore
  return ⟨some channel, revoked, restored, notRevoked ++ notRestored, plan.fullScan⟩

/-- One pass. Where the store fails, what is tracked stays as it is; where no channel is configured,
nothing is tracked any more. -/
def pass (duty : Duty) (tracked : Tracked) : Procedure (Except Failure AccessReport × Tracked) :=
  .ask (.resolveChannel duty.kind) fun
    | .error error => .done (.error (.store error), tracked)
    | .ok none => .done (.ok {}, {})
    | .ok (some channel) => .ask (.currentRights duty.kind) fun
      | .error error => .done (.error (.store error), tracked)
      | .ok rights => do
        let current := rights.without duty.superReviewer
        let report ← carryOut (plan tracked current channel) channel
        return (.ok report, ⟨current, some channel⟩)

/-- What became of a request to join. -/
inductive JoinDecision where
  | approved
  | declined
  /-- It was about some other channel. -/
  | ignored
  deriving DecidableEq

/-- Answers a request to join. The decision stands even if the platform fails to carry it out. -/
def join (duty : Duty) (tracked : Tracked) (channel : ChannelId) (reviewer : ReviewerId) :
    Procedure (Except Failure JoinDecision × Tracked) :=
  .ask (.resolveChannel duty.kind) fun
    | .error error => .done (.error (.store error), tracked)
    | .ok configured =>
      if configured = some channel then .ask (.currentRights duty.kind) fun
        | .error error => .done (.error (.store error), tracked)
        | .ok rights =>
          let isSuper : Bool := duty.superReviewer = some reviewer
          let allowed := isSuper || rights.allows reviewer
          let op : MembershipOp :=
            if allowed then .joinApproved channel reviewer else .joinDeclined channel reviewer
          .ask (.member op) fun _ ↦
            let isTracked := !isSuper && reviewer.isValid && rights.contains reviewer
            .done (.ok (if allowed then .approved else .declined),
              if isTracked then { tracked with rights := tracked.rights.insert reviewer allowed }
              else tracked)
      else .done (.ok .ignored, tracked)

end ReviewDesk.Membership
