import ReviewDesk.Failure
import ReviewDesk.Post

/-!
The messaging platform. It keeps every post and every membership operation in the order in which
they were asked for; what was made to fail is not kept.
-/

set_option autoImplicit false
set_option relaxedAutoImplicit false

namespace ReviewDesk

/-- Something that was done to the members of a channel. -/
inductive MembershipOp where
  /-- Somebody was removed, and may come back. -/
  | removed (channel : ChannelId) (reviewer : ReviewerId) (reason : String)
  /-- A standing block was lifted. -/
  | unblocked (channel : ChannelId) (reviewer : ReviewerId)
  | joinApproved (channel : ChannelId) (reviewer : ReviewerId)
  | joinDeclined (channel : ChannelId) (reviewer : ReviewerId)
  deriving DecidableEq

namespace MembershipOp

def channel : MembershipOp → ChannelId
  | removed channel .. | unblocked channel _ | joinApproved channel _ | joinDeclined channel _ =>
    channel

def reviewer : MembershipOp → ReviewerId
  | removed _ reviewer _ | unblocked _ reviewer | joinApproved _ reviewer
  | joinDeclined _ reviewer => reviewer

end MembershipOp

structure Platform where
  /-- The number that the next message gets. -/
  nextMessage : Nat := 1
  posts : List (MessageRef × Post) := []
  membership : List MembershipOp := []
  /-- Reviewers for whom every membership operation fails, latest first. -/
  memberFaults : List (ReviewerId × PlatformError) := []
  /-- Items whose posts are refused, latest first. -/
  postFaults : List (ItemId × String) := []

namespace Platform

def failMember (platform : Platform) (reviewer : ReviewerId) (error : PlatformError) : Platform :=
  { platform with memberFaults := (reviewer, error) :: platform.memberFaults }

def failPost (platform : Platform) (item : ItemId) (text : String) : Platform :=
  { platform with postFaults := (item, text) :: platform.postFaults }

/-- Forgets what was done so far; what is made to fail goes on failing. -/
def forget (platform : Platform) : Platform := { platform with posts := [], membership := [] }

/-- Posts a review under the next message number. A refused post uses up no number. -/
def publish (platform : Platform) (channel : ChannelId) (post : Post) :
    Except PlatformError MessageRef × Platform :=
  match platform.postFaults.find? (·.1 = post.item) with
  | some fault => (.error (.api fault.2), platform)
  | none =>
    let target : MessageRef := ⟨channel, platform.nextMessage⟩
    (.ok target, { platform with
      nextMessage := platform.nextMessage + 1
      posts := platform.posts ++ [(target, post)] })

/-- Does one membership operation. -/
def perform (platform : Platform) (op : MembershipOp) : Except PlatformError Unit × Platform :=
  match platform.memberFaults.find? (·.1 = op.reviewer) with
  | some fault => (.error fault.2, platform)
  | none => (.ok (), { platform with membership := platform.membership ++ [op] })

end Platform

end ReviewDesk
