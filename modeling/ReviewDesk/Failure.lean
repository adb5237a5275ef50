import ReviewDesk.Identity
import ReviewDesk.Kind
import ReviewDesk.Text.Casing

/-!
What can go wrong, by where it does: the store, the messaging platform, a decision, the settings, or
the desk itself. Each failure is a cause; its wording is given by one function.
-/

set_option autoImplicit false
set_option relaxedAutoImplicit false

namespace ReviewDesk

inductive StoreError where
  | backend (message : String)
  | connection (message : String)
  deriving DecidableEq

namespace StoreError

def message : StoreError → String
  | backend text => "Store backend error: " ++ text
  | connection text => "Store connection error: " ++ text

end StoreError

inductive PlatformError where
  | memberNotFound (channel : ChannelId) (reviewer : ReviewerId)
  | notEnoughRights (channel : ChannelId)
  | notParticipant (channel : ChannelId) (reviewer : ReviewerId)
  | rateLimited (seconds : Nat)
  | api (text : String)
  deriving DecidableEq

namespace PlatformError

def message : PlatformError → String
  | memberNotFound channel reviewer =>
    "Member " ++ reviewer.text ++ " not found in channel " ++ channel.text
  | notEnoughRights channel => "Not enough rights in channel " ++ channel.text
  | notParticipant channel reviewer =>
    "Identity " ++ reviewer.text ++ " is not a participant of channel " ++ channel.text
  | rateLimited seconds => "Rate limited, retry after " ++ Text.ofNat seconds ++ "s"
  | api text => "Channel API error: " ++ text

/-- Whether a membership call failed only because there was nothing left to do, or nothing that the
desk may do. Of the platform's own texts those that mention a telltale phrase count. -/
def isBenign : PlatformError → Bool
  | memberNotFound .. | notEnoughRights .. | notParticipant .. => true
  | rateLimited .. => false
  | api text =>
    ["participant", "not enough rights", "user not found"].any fun phrase ↦
      Text.mentions phrase text

end PlatformError

inductive DecisionError where
  | invalidReference (text : String)
  | wrongChannel (kind : Kind)
  | notAllowed (reviewer : ReviewerId) (kind : Kind)
  | missingCredentials
  | rejected (status : Nat) (text : String)
  | timeout (milliseconds : Nat)
  | transport (text : String)
  | invalidResponse (text : String)
  deriving DecidableEq

namespace DecisionError

def message : DecisionError → String
  | invalidReference text => "Invalid callback data: " ++ text
  | wrongChannel kind => "Wrong " ++ kind.name ++ " review channel"
  | notAllowed reviewer kind =>
    "Reviewer " ++ reviewer.text ++ " is not allowed to review " ++ kind.name
  | missingCredentials => "Decision API credentials are not configured"
  | rejected status text =>
    "Decision rejected (status " ++ Text.ofNat status ++ "): " ++ text
  | timeout milliseconds => "Decision call timed out after " ++ Text.ofNat milliseconds ++ "ms"
  | transport text => "Decision transport error: " ++ text
  | invalidResponse text => "Invalid decision response: " ++ text

end DecisionError

inductive SettingsError where
  | invalidValue (key value : String)
  | outOfRange (key : String) (least actual : Nat)
  deriving DecidableEq

namespace SettingsError

def message : SettingsError → String
  | invalidValue key value => "Invalid value for " ++ key ++ ": " ++ value
  | outOfRange key least actual =>
    "Value for " ++ key ++ " must be at least " ++ Text.ofNat least ++ ", got " ++ Text.ofNat actual

end SettingsError

inductive Failure where
  | store (cause : StoreError)
  | platform (cause : PlatformError)
  | decision (cause : DecisionError)
  | settings (cause : SettingsError)
  | internal (text : String)
  deriving DecidableEq

namespace Failure

/-- The wording of the cause alone. -/
def causeMessage : Failure → String
  | store cause => cause.message
  | platform cause => cause.message
  | decision cause => cause.message
  | settings cause => cause.message
  | internal text => text

/-- What stands before the cause. -/
def lead : Failure → String
  | store _ => "Store error: "
  | platform _ => "Channel error: "
  | decision _ => "Decision error: "
  | settings _ => "Configuration error: "
  | internal _ => "Internal error: "

def message (failure : Failure) : String := failure.lead ++ failure.causeMessage

def isStore : Failure → Bool
  | store _ => true
  | _ => false

def isPlatform : Failure → Bool
  | platform _ => true
  | _ => false

def isInternal : Failure → Bool
  | internal _ => true
  | _ => false

/-- Whether the same call may succeed later without anybody changing anything. -/
def isTransient : Failure → Bool
  | store _ => true
  | platform (.rateLimited _) | platform (.api _) => true
  | platform _ => false
  | decision (.timeout _) | decision (.transport _) => true
  | decision (.rejected status _) => 500 ≤ status
  | decision _ => false
  | settings _ | internal _ => false

end Failure

end ReviewDesk
