import ReviewDesk.Call
import ReviewDesk.Json.Node
import ReviewDesk.Settings

/-!
The client of the remote decision service. One decision is one request; whatever comes back, or does
not, is exactly one result, and a rejection always has a text.
-/

set_option autoImplicit false
set_option relaxedAutoImplicit false

namespace ReviewDesk.Decision

structure Client where
  /-- The address of the service, without a slash at its end. -/
  base : String
  token : String

/-- A decision as it is sent. -/
structure Request where
  method : String
  url : String
  token : String
  contentType : String
  body : Json

/-- What comes of sending a request. -/
inductive Exchange where
  /-- No connection was made, so nothing was sent. -/
  | unreachable
  /-- The request was sent, and the connection closed without an answer. -/
  | unanswered
  | answered (status : Nat) (body : String)

namespace Client

def new (base token : String) : Client := ⟨Settings.trimSlashes base, token⟩

def ofSettings (settings : Settings) : Client := new settings.decisionBase settings.decisionToken

/-- Where decisions about a kind are sent. -/
def endpoint (client : Client) (kind : Kind) : String :=
  client.base ++ "/v1/internal/telegram/reviews/" ++ kind.name ++ "/decision"

/-- Control characters other than the tab cannot be sent in a header. -/
def isSendable (token : String) : Bool :=
  token.toList.all fun c ↦ c = '\t' || (0x20 ≤ c.toNat && c.toNat != 0x7F)

def requestOf (client : Client) (call : DecisionCall) : Request where
  method := "POST"
  url := client.endpoint call.kind
  token := client.token
  contentType := "application/json"
  body := Json.ofMembers [("request_id", .string call.item.text),
    ("action", .string call.action.name),
    ("reviewer_telegram_id", .ofInt call.reviewer.number.toInt)]

/-- The request for a decision, or why none is sent. -/
def request (client : Client) (call : DecisionCall) : Except DecisionError Request :=
  if Text.isBlankText client.token then .error .missingCredentials
  else if isSendable client.token then .ok (client.requestOf call)
  else .error (.transport "the token cannot be sent in a header")

def rejectionText : String := "Review decision failed"

/-- The text of a rejection: the service's own error text, the body itself where it is no JSON, or
the default; at most 180 characters of it. -/
def errorText (status : Nat) (body : String) : String :=
  let text := match Json.read? body with
    | some value =>
      let own := ((value.get? "error").bind Json.text?).filter fun text ↦ !Text.isBlankText text
      own.getD rejectionText
    | none =>
      if Text.isBlankText body then rejectionText ++ " (status " ++ Text.ofNat status ++ ")"
      else Text.trim body
  String.ofList (text.toList.take 180)

/-- What an exchange comes to. A blank body of a success stands for the empty object. -/
def result : Exchange → Except DecisionError Outcome
  | .unreachable => .error (.transport "the service cannot be reached")
  | .unanswered => .error (.transport "the connection closed without an answer")
  | .answered status body =>
    if status ≠ 200 then .error (.rejected status (errorText status body))
    else if Text.isBlankText body then .ok (.ofPayload (.object []))
    else match Json.read? body with
      | some payload => .ok (.ofPayload payload)
      | none => .error (.invalidResponse "the body is not JSON")

/-- One decision over one exchange. -/
def decide (client : Client) (call : DecisionCall) (exchange : Exchange) :
    Except DecisionError Outcome :=
  match client.request call with
  | .error error => .error error
  | .ok _ => result exchange

/-- What the service received of a decision. -/
def received (client : Client) (call : DecisionCall) : Exchange → Option Request
  | .unreachable => none
  | _ => (client.request call).toOption

end Client

end ReviewDesk.Decision
