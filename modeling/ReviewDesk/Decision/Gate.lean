import ReviewDesk.Call
import ReviewDesk.Pause

/-!
The gate that decisions pass: the reference has to be readable, the press has to come from the
review channel of its kind, and who pressed has to be allowed to review that kind. Only then is the
decision service asked, and only for a limited time.
-/

set_option autoImplicit false
set_option relaxedAutoImplicit false

namespace ReviewDesk.Decision

structure Gate where
  /-- Who may decide about every kind. -/
  superReviewer : Option ReviewerId := none
  /-- The limit on an answer of the decision service, in milliseconds. -/
  timeout : Nat := 20000

/-- How a press ended, and how long the decision service was waited for. -/
structure Verdict where
  result : Except Failure Outcome
  waited : Nat := 0

namespace Gate

/-- What a reply comes to under the limit; one that comes just in time still counts. -/
def settle (gate : Gate) (reply : DecisionReply) : Verdict :=
  let delay := Pause.length reply.delay
  if delay ≤ gate.timeout then ⟨reply.result.mapError .decision, delay⟩
  else ⟨.error (.decision (.timeout gate.timeout)), gate.timeout⟩

def refuse (error : DecisionError) : Procedure Verdict := .done ⟨.error (.decision error), 0⟩

/-- Asks the decision service. -/
def forward (gate : Gate) (ref : ActionRef) (reviewer : ReviewerId) : Procedure Verdict :=
  .ask (.decide ⟨ref.kind, ref.item, ref.action, reviewer⟩) fun reply ↦ .done (gate.settle reply)

/-- Handles a press of a button with the given text in a channel. -/
def handle (gate : Gate) (text : String) (channel : ChannelId) (reviewer : ReviewerId) :
    Procedure Verdict :=
  match ActionRef.read? text with
  | none => refuse (.invalidReference text)
  | some ref => .ask (.resolveChannel ref.kind) fun
    | .error error => .done ⟨.error (.store error), 0⟩
    | .ok configured =>
      if configured ≠ some channel then refuse (.wrongChannel ref.kind)
      else if gate.superReviewer = some reviewer then gate.forward ref reviewer
      else .ask (.currentRights ref.kind) fun
        | .error error => .done ⟨.error (.store error), 0⟩
        | .ok rights =>
          if rights.allows reviewer then gate.forward ref reviewer
          else refuse (.notAllowed reviewer ref.kind)

end Gate

end ReviewDesk.Decision
