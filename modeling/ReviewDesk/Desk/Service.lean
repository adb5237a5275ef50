import ReviewDesk.Desk.Turns

/-!
Running a desk: starting it, asking its access loop, deciding, and stopping it. Whoever asks goes on
when the queue has run empty, before the loops that were put off.
-/

set_option autoImplicit false
set_option relaxedAutoImplicit false

namespace ReviewDesk.Desk

/-- A desk of which no loop runs. -/
def idle (channel : String) (outside : Outside) : Desk where
  outside := outside
  health := .initial channel
  listener := ⟨channel, 0, .ended⟩
  dispatch := ⟨1, 0, .ended⟩
  access := { duty := {}, running := false }

/-- A desk of which only the listener runs. -/
def listening (channel : String) (retry : Nat) (outside : Outside) : Desk :=
  { idle channel outside with listener := ⟨channel, retry, .starting⟩ }

/-- A desk of which only the access loop runs. -/
def serving (channel : String) (duty : Membership.Duty) (outside : Outside) : Desk :=
  { idle channel outside with access := { duty := duty, running := true } }

/-- Starts a desk with all three loops, after one first pass over the members. A pass that fails does
not keep the desk from starting; settings with which it cannot run do. -/
def start (settings : Settings) (outside : Outside) : Except Failure Desk :=
  match settings.validate with
  | .error error => .error (.settings error)
  | .ok () =>
    let channel := settings.noticeChannel
    let duty : Membership.Duty := ⟨.deposit, settings.superReviewer⟩
    let d := { idle channel outside with access := { duty := duty, running := true } }
    .ok { d.accessTick.2 with
      listener := ⟨channel, 1000 * settings.effectiveRetrySeconds, .starting⟩
      dispatch := ⟨settings.effectiveBatchLimit, 1000 * settings.effectiveFallbackSeconds, .starting⟩ }

/-- The gate of a desk with the given settings. -/
def gate (settings : Settings) : Decision.Gate :=
  ⟨settings.superReviewer, 1000 * settings.effectiveDecisionSeconds⟩

/-- Handles a press of a button. The time that the decision service takes passes for all loops. -/
def decide (d : Desk) (gate : Decision.Gate) (text : String) (channel : ChannelId)
    (reviewer : ReviewerId) : Except Failure Outcome × Desk :=
  let (verdict, d) := d.perform (gate.handle text channel reviewer)
  (verdict.result, d.advance verdict.waited)

/-- Asks the access loop, which refuses once it has ended. -/
def ask (d : Desk) (command : Membership.Command) : Membership.Answer × Desk :=
  if d.access.running then
    let d := { d with access.commands := d.access.commands ++ [command] }.enroll.round.readmit
    (d.access.answers.getLast?.getD command.refusal, d)
  else (command.refusal, d)

/-- Requests a stop. -/
def trigger (d : Desk) : Desk := { d with stop := d.stop.trigger }

/-- The owner of the stop signal goes away. -/
def dropOwner (d : Desk) : Desk := { d with stop := d.stop.dropOwner }

def isRunning (d : Desk) : Loop → Bool
  | .listener => d.listener.phase ≠ .ended
  | .dispatch => d.dispatch.phase ≠ .ended
  | .access => d.access.running

/-- Requests a stop and waits until every loop has ended. Only a subscribe that hangs can still hold
one up, until its limit. -/
def shutdown (d : Desk) : Desk :=
  let d := d.trigger.settle
  match d.nextAlarm? with
  | some time => (d.advanceTo time).settle
  | none => d

end ReviewDesk.Desk
