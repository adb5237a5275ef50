import ReviewDesk.Json.Record
import ReviewDesk.Settings

/-!
Settings as JSON. Every field may be left out; a number that belongs to nobody is taken as it is.
-/

set_option autoImplicit false
set_option relaxedAutoImplicit false

namespace ReviewDesk.Settings

open Json

def ofNode? (node : Node) : Option Settings := do
  let initial : Settings := {}
  let fields ← node.fields? ["notify_channel", "batch_limit", "fallback_interval_secs",
    "listener_retry_secs", "decision_timeout_secs", "super_reviewer", "decision_api_base_url",
    "decision_api_token"]
  let text (name : String) (fallback : String) := Node.defaulted? fields name fallback Node.text?
  let number (name : String) (fallback : Nat) :=
    Node.defaulted? fields name fallback (Node.natBelow? UInt64.size)
  let reviewer (node : Node) := node.int64?.map ReviewerId.mk
  some {
    noticeChannel := ← text "notify_channel" initial.noticeChannel
    batchLimit := ← number "batch_limit" initial.batchLimit
    fallbackSeconds := ← number "fallback_interval_secs" initial.fallbackSeconds
    retrySeconds := ← number "listener_retry_secs" initial.retrySeconds
    decisionSeconds := ← number "decision_timeout_secs" initial.decisionSeconds
    superReviewer := ← Node.defaulted? fields "super_reviewer" none (Node.optional? reviewer)
    decisionBase := ← text "decision_api_base_url" initial.decisionBase
    decisionToken := ← text "decision_api_token" initial.decisionToken }

def ofText? (text : String) : Option Settings := (Node.ofText? text).bind ofNode?

def toJson (settings : Settings) : Json :=
  let reviewer := match settings.superReviewer with
    | some reviewer => ofInt reviewer.number.toInt
    | none => null
  ofMembers [("notify_channel", string settings.noticeChannel),
    ("batch_limit", ofNat settings.batchLimit),
    ("fallback_interval_secs", ofNat settings.fallbackSeconds),
    ("listener_retry_secs", ofNat settings.retrySeconds),
    ("decision_timeout_secs", ofNat settings.decisionSeconds),
    ("super_reviewer", reviewer),
    ("decision_api_base_url", string settings.decisionBase),
    ("decision_api_token", string settings.decisionToken)]

end ReviewDesk.Settings
