import ReviewDesk.Decision.Outcome
import ReviewDesk.Platform
import ReviewDesk.Store

/-!
The calls that the parts of the desk make: to the store, to the messaging platform and to the
decision service. Each call is answered at once, and nothing else happens in between.
-/

set_option autoImplicit false
set_option relaxedAutoImplicit false

namespace ReviewDesk

/-- A decision that is asked for. -/
structure DecisionCall where
  kind : Kind
  item : ItemId
  action : Action
  reviewer : ReviewerId
  deriving DecidableEq

/-- An answer of the decision service and the milliseconds it takes to come. -/
structure DecisionReply where
  result : Except DecisionError Outcome
  delay : Nat

inductive Call where
  | resolveChannel (kind : Kind)
  | fetchPending (kind : Kind) (limit : Nat)
  | claim (kind : Kind) (item : ItemId) (target : MessageRef)
  | currentRights (kind : Kind)
  | publish (channel : ChannelId) (post : Post)
  | member (op : MembershipOp)
  | decide (call : DecisionCall)

namespace Call

/-- What a call is answered with. -/
def Reply : Call → Type
  | resolveChannel _ => Except StoreError (Option ChannelId)
  | fetchPending .. => Except StoreError (List Item)
  | claim .. => Except StoreError Bool
  | currentRights _ => Except StoreError Rights
  | publish .. => Except PlatformError MessageRef
  | member _ => Except PlatformError Unit
  | decide _ => DecisionReply

end Call

/-- Work that goes on from call to call. Two procedures may be interleaved at any of their calls. -/
inductive Procedure (α : Type) : Type where
  | done (result : α)
  | ask (call : Call) (next : call.Reply → Procedure α)

namespace Procedure

variable {α β : Type}

def bind : Procedure α → (α → Procedure β) → Procedure β
  | done result, next => next result
  | ask call rest, next => ask call fun reply ↦ (rest reply).bind next

instance : Monad Procedure where
  pure := done
  bind := Procedure.bind

end Procedure

end ReviewDesk
