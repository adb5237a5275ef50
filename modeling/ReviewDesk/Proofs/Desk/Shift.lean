import ReviewDesk.Desk.Service
import ReviewDesk.Proofs.Conversation
import ReviewDesk.Proofs.Desk.Streams

/-!
A desk seen between any two calls that its loops make. Where the desk itself makes all calls of a
pass at once, a shift keeps what the dispatch loop and the access loop are in the middle of, so that
producers, commands, the clock and the other loops may come between any two calls, in any order.
Turns of one loop that nothing comes between amount to a step of that loop at the desk
(`exists_turns_eq_step`). The marks tell what was announced and which passes have begun.
-/

set_option autoImplicit false
set_option relaxedAutoImplicit false

namespace ReviewDesk

/-- A moment worth remembering. -/
inductive Mark where
  /-- There is something new for a loop to look at. -/
  | announced (topic : Notice.Topic)
  /-- A pass of that loop has begun. -/
  | begun (topic : Notice.Topic)
  deriving DecidableEq

/-- What the access loop may be in the middle of. -/
inductive Errand where
  /-- A pass, which somebody may have asked for by a command. -/
  | pass (asked : Bool) (rest : Procedure (Except Failure AccessReport × Membership.Tracked))
  | join (rest : Procedure (Except Failure Membership.JoinDecision × Membership.Tracked))

structure Shift where
  desk : Desk
  /-- The dispatch pass that is under way. -/
  dispatching : Option (Procedure (Except Failure Dispatch.Report)) := none
  accessing : Option Errand := none
  marks : List Mark := []

namespace Shift

/-! ### The turns of the loops -/

/-- The dispatch loop is about to make a pass. -/
def opensDispatch (d : Desk) : Bool :=
  !d.stop.resolves && match d.dispatch.phase with
    | .starting => d.dispatchWake.raised
    | .waiting limit => d.dispatchWake.raised || limit ≤ d.clock
    | .ended => false

/-- A dispatch pass begins; the flag goes down before it. -/
def beginDispatch (s : Shift) : Shift :=
  { s with
    desk := { s.desk with dispatchWake := s.desk.dispatchWake.clear }.report .passStarted
    dispatching := some (Dispatch.pass s.desk.dispatch.batchLimit)
    marks := s.marks ++ [.begun .dispatch] }

/-- Records how a dispatch pass has ended. -/
def recordDispatch (d : Desk) : Except Failure Dispatch.Report → Desk
  | .ok report => d.report (.passFinished report.sent)
  | .error _ => d.report (.passFailed "dispatch_failed")

def endDispatch (s : Shift) (result : Except Failure Dispatch.Report) : Shift :=
  { s with
    desk := { recordDispatch s.desk result with dispatch.phase := .starting }
    dispatching := none }

/-- What the dispatch loop does up to its next call or wait. -/
def dispatchTurn (s : Shift) : Shift :=
  match s.dispatching with
  | some (.ask call next) =>
    { s with
      desk.outside := (s.desk.outside.answer call).2
      dispatching := some (next (s.desk.outside.answer call).1) }
  | some (.done result) => s.endDispatch result
  | none =>
    if opensDispatch s.desk then s.beginDispatch else { s with desk := Dispatch.step s.desk }

/-- A pass over the members begins. -/
def beginAccess (s : Shift) (asked : Bool) : Shift :=
  { s with
    accessing := some (.pass asked (Membership.pass s.desk.access.duty s.desk.access.tracked))
    marks := s.marks ++ [.begun .accessSync] }

/-- Records how a pass over the members has ended, and answers whoever asked for it. -/
def recordAccess (d : Desk) (asked : Bool) (result : Except Failure AccessReport) : Desk :=
  let recorded := match result with
    | .ok report => d.report (.accessFinished report)
    | .error _ => d.report (.accessFailed "access_sync_failed")
  if asked then
    { recorded with access.answers := recorded.access.answers ++ [.synced result] }
  else recorded

def endAccess (s : Shift) (asked : Bool) (result : Except Failure AccessReport)
    (tracked : Membership.Tracked) : Shift :=
  { s with
    desk := recordAccess { s.desk with access.tracked := tracked } asked result
    accessing := none }

def beginJoin (s : Shift) (channel : ChannelId) (reviewer : ReviewerId) : Shift :=
  { s with
    accessing := some (.join
      (Membership.join s.desk.access.duty s.desk.access.tracked channel reviewer)) }

def endJoin (s : Shift) (result : Except Failure Membership.JoinDecision)
    (tracked : Membership.Tracked) : Shift :=
  { s with
    desk.access.tracked := tracked
    desk.access.answers := s.desk.access.answers ++ [.joined result]
    accessing := none }

/-- What the access loop does up to its next call or wait. -/
def accessTurn (s : Shift) : Shift :=
  match s.accessing with
  | some (.pass asked (.ask call next)) =>
    { s with
      desk.outside := (s.desk.outside.answer call).2
      accessing := some (.pass asked (next (s.desk.outside.answer call).1)) }
  | some (.pass asked (.done (result, tracked))) => s.endAccess asked result tracked
  | some (.join (.ask call next)) =>
    { s with
      desk.outside := (s.desk.outside.answer call).2
      accessing := some (.join (next (s.desk.outside.answer call).1)) }
  | some (.join (.done (result, tracked))) => s.endJoin result tracked
  | none =>
    if s.desk.access.running && !s.desk.stop.resolves then
      if s.desk.accessWake.raised then
        { s with desk.accessWake := s.desk.accessWake.clear }.beginAccess false
      else match s.desk.access.commands with
        | .sync :: commands => { s with desk.access.commands := commands }.beginAccess true
        | .join channel reviewer :: commands =>
          { s with desk.access.commands := commands }.beginJoin channel reviewer
        | [] => s
    else { s with desk := Membership.step s.desk }

def turn (s : Shift) : Loop → Shift
  | .listener => { s with desk := Listener.step s.desk }
  | .dispatch => s.dispatchTurn
  | .access => s.accessTurn

/-! ### What happens -/

inductive Event where
  | enqueue (item : Item)
  | announceAccess (reason : String)
  | publish (channel payload : String)
  | dropAll
  | breakAll (reason : String)
  | failSubscribes (count : Nat)
  /-- Somebody else subscribes. -/
  | subscribe (channel : String)
  /-- Anything else is changed outside, but not the bus nor where producers announce. -/
  | adjust (change : Outside → Outside)
  | command (command : Membership.Command)
  /-- Somebody else raises a signal. -/
  | raise (topic : Notice.Topic)
  | elapse (time : Nat)
  | trigger
  | dropOwner
  | turn (loop : Loop)

/-- What the announcement of an item leaves to remember. -/
def markOf (item : Item) : List Mark :=
  if (Text.trim item.id.text).isEmpty then [] else [.announced .dispatch]

/-- A command is queued, or refused where nobody serves it any more. -/
def command (d : Desk) (command : Membership.Command) : Desk :=
  if d.access.running then { d with access.commands := d.access.commands ++ [command] }
  else { d with access.answers := d.access.answers ++ [command.refusal] }

/-- Changes what is outside, but for the bus and the channel of the notices. -/
def adjust (change : Outside → Outside) (o : Outside) : Outside :=
  { change o with
    store := { (change o).store with bus := o.store.bus, noticeChannel := o.store.noticeChannel } }

def step (s : Shift) : Event → Shift
  | .enqueue item =>
    { s with desk := s.desk.modifyStore (·.enqueue item), marks := s.marks ++ markOf item }
  | .announceAccess reason =>
    { s with
      desk := s.desk.modifyStore (·.announceAccess reason)
      marks := s.marks ++ [.announced .accessSync] }
  | .publish channel payload => { s with desk := s.desk.modifyBus (·.publish channel payload) }
  | .dropAll => { s with desk := s.desk.modifyBus Bus.dropAll }
  | .breakAll reason => { s with desk := s.desk.modifyBus (·.breakAll reason) }
  | .failSubscribes count =>
    { s with desk := s.desk.modifyBus fun bus ↦ { bus with subscribeFaults := count } }
  | .subscribe channel => { s with desk := s.desk.modifyBus fun bus ↦ (bus.subscribe channel).2 }
  | .adjust change => { s with desk.outside := adjust change s.desk.outside }
  | .command asked => { s with desk := command s.desk asked }
  | .raise topic => { s with desk := s.desk.raiseFor topic }
  | .elapse time => { s with desk.clock := s.desk.clock + time }
  | .trigger => { s with desk := s.desk.trigger }
  | .dropOwner => { s with desk := s.desk.dropOwner }
  | .turn loop => s.turn loop

def run (s : Shift) (events : List Event) : Shift := events.foldl step s

/-! ### Turns that nothing comes between -/

def turns (loop : Loop) : Nat → Shift → Shift
  | 0, s => s
  | n + 1, s => turns loop n (s.turn loop)

/-- A loop that makes the calls of a procedure, one a turn, comes to where making them all at once
leads. `hold` puts into a shift what is left to do, `finish` what came of it. -/
theorem exists_turns_of_hold {α : Type} (loop : Loop) (hold : Procedure α → Shift → Shift)
    (finish : α → Shift → Shift)
    (hask : ∀ (call : Call) (next : call.Reply → Procedure α) (s : Shift),
      (hold (.ask call next) s).turn loop =
        hold (next (s.desk.outside.answer call).1)
          { s with desk.outside := (s.desk.outside.answer call).2 })
    (hdone : ∀ a s, (hold (.done a) s).turn loop = finish a s) (p : Procedure α) (s : Shift) :
    ∃ n, turns loop n (hold p s) =
      finish (p.run s.desk.outside).1 { s with desk.outside := (p.run s.desk.outside).2 } := by
  induction p generalizing s with
  | done a => exact ⟨1, hdone a s⟩
  | ask call next ih =>
    obtain ⟨n, hn⟩ := ih (s.desk.outside.answer call).1
      { s with desk.outside := (s.desk.outside.answer call).2 }
    refine ⟨n + 1, ?_⟩
    rw [turns, hask, hn]
    rfl

theorem exists_turns_dispatching {p : Procedure (Except Failure Dispatch.Report)} {s : Shift}
    (h : s.dispatching = some p) :
    ∃ n, turns .dispatch n s =
      { s with desk.outside := (p.run s.desk.outside).2 }.endDispatch (p.run s.desk.outside).1 := by
  have hs : { s with dispatching := some p } = s := by rw [← h]
  have hturns := exists_turns_of_hold .dispatch (fun p s ↦ { s with dispatching := some p })
    (fun result s ↦ s.endDispatch result) (fun _ _ _ ↦ rfl) (fun _ _ ↦ rfl) p s
  rwa [hs] at hturns

theorem step_of_opensDispatch {d : Desk} (h : opensDispatch d) : Dispatch.step d = Dispatch.wake d := by
  obtain ⟨hstop, hphase⟩ := (Bool.and_eq_true _ _).mp h
  rw [Bool.not_eq_true'] at hstop
  unfold Dispatch.step
  cases hcase : d.dispatch.phase with
  | starting =>
    rw [hcase] at hphase
    simp only [hstop, hphase, Bool.false_eq_true, if_false, if_true]
  | waiting limit =>
    rw [hcase] at hphase
    simp only [hstop, hphase, Bool.false_eq_true, if_false, if_true]
  | ended =>
    rw [hcase] at hphase
    cases hphase

/-- Short of a pass, the dispatch loop does nothing but wait or end. -/
theorem step_of_not_opensDispatch {d : Desk} (h : ¬opensDispatch d) :
    ∃ phase asleep, Dispatch.step d = { d with dispatch.phase := phase, asleep := asleep } := by
  unfold Dispatch.step
  cases hphase : d.dispatch.phase with
  | starting =>
    dsimp only
    split
    · exact ⟨.ended, d.asleep, rfl⟩
    · rename_i hstop
      have hdown : ¬d.dispatchWake.raised := by
        intro hraised
        exact h (by simp [opensDispatch, hphase, hstop, hraised])
      rw [if_neg hdown]
      exact ⟨_, _, rfl⟩
  | waiting limit =>
    dsimp only
    split
    · exact ⟨.ended, d.asleep, rfl⟩
    · rename_i hstop
      have hearly : ¬(d.dispatchWake.raised || limit ≤ d.clock) := by
        intro hdue
        exact h (by simp [opensDispatch, hphase, hstop, hdue])
      rw [if_neg hearly]
      exact ⟨d.dispatch.phase, d.asleep, rfl⟩
  | ended => exact ⟨d.dispatch.phase, d.asleep, rfl⟩

/-- An access loop that is stopped ends, and touches nothing but its commands. -/
theorem step_of_not_goes {d : Desk} (h : ¬(d.access.running && !d.stop.resolves)) :
    Membership.step d = if d.access.running then Membership.quit d else d := by
  unfold Membership.step
  split
  · rename_i hrunning
    have hstop : d.stop.resolves := by
      by_contra hstop
      exact h (by simp [hrunning, hstop])
    rw [if_pos hstop]
  · rfl

theorem dispatchTick_snd (d : Desk) :
    d.dispatchTick.2 =
      recordDispatch
        { d.report .passStarted with
          outside := ((Dispatch.pass d.dispatch.batchLimit).run d.outside).2 }
        ((Dispatch.pass d.dispatch.batchLimit).run d.outside).1 := by
  have hperform : (d.report .passStarted).perform (Dispatch.pass d.dispatch.batchLimit) =
      (((Dispatch.pass d.dispatch.batchLimit).run d.outside).1,
        { d.report .passStarted with
          outside := ((Dispatch.pass d.dispatch.batchLimit).run d.outside).2 }) := rfl
  rw [Desk.dispatchTick, hperform]
  cases ((Dispatch.pass d.dispatch.batchLimit).run d.outside).1 with
  | ok report => rfl
  | error failure => rfl

theorem exists_turns_dispatch {s : Shift} (h : s.dispatching = none) :
    ∃ n, (turns .dispatch n s).desk = Dispatch.step s.desk ∧
      (turns .dispatch n s).dispatching = none ∧
      (turns .dispatch n s).accessing = s.accessing := by
  by_cases hopens : opensDispatch s.desk
  · have hturn : s.turn .dispatch = s.beginDispatch := by
      rw [turn, dispatchTurn, h]
      exact if_pos hopens
    have hbegun : s.beginDispatch.dispatching =
        some (Dispatch.pass s.desk.dispatch.batchLimit) := rfl
    obtain ⟨n, hn⟩ := exists_turns_dispatching hbegun
    refine ⟨n + 1, ?_⟩
    rw [turns, hturn, hn, step_of_opensDispatch hopens, Dispatch.wake, dispatchTick_snd]
    exact ⟨rfl, rfl, rfl⟩
  · have hturn : s.turn .dispatch = { s with desk := Dispatch.step s.desk } := by
      rw [turn, dispatchTurn, h]
      exact if_neg hopens
    refine ⟨1, ?_⟩
    rw [turns, turns, hturn]
    exact ⟨rfl, h, rfl⟩

theorem exists_turns_pass {asked : Bool}
    {p : Procedure (Except Failure AccessReport × Membership.Tracked)} {s : Shift}
    (h : s.accessing = some (.pass asked p)) :
    ∃ n, turns .access n s =
      { s with desk.outside := (p.run s.desk.outside).2 }.endAccess asked
        (p.run s.desk.outside).1.1 (p.run s.desk.outside).1.2 := by
  have hs : { s with accessing := some (.pass asked p) } = s := by rw [← h]
  have hturns := exists_turns_of_hold .access
    (fun p s ↦ { s with accessing := some (.pass asked p) })
    (fun result s ↦ s.endAccess asked result.1 result.2) (fun _ _ _ ↦ rfl) (fun _ _ ↦ rfl) p s
  rwa [hs] at hturns

theorem exists_turns_join
    {p : Procedure (Except Failure Membership.JoinDecision × Membership.Tracked)} {s : Shift}
    (h : s.accessing = some (.join p)) :
    ∃ n, turns .access n s =
      { s with desk.outside := (p.run s.desk.outside).2 }.endJoin
        (p.run s.desk.outside).1.1 (p.run s.desk.outside).1.2 := by
  have hs : { s with accessing := some (.join p) } = s := by rw [← h]
  have hturns := exists_turns_of_hold .access (fun p s ↦ { s with accessing := some (.join p) })
    (fun result s ↦ s.endJoin result.1 result.2) (fun _ _ _ ↦ rfl) (fun _ _ ↦ rfl) p s
  rwa [hs] at hturns

theorem accessTick_eq (d : Desk) :
    d.accessTick =
      (((Membership.pass d.access.duty d.access.tracked).run d.outside).1.1,
        recordAccess
          { d with
            outside := ((Membership.pass d.access.duty d.access.tracked).run d.outside).2
            access.tracked := ((Membership.pass d.access.duty d.access.tracked).run d.outside).1.2 }
          false ((Membership.pass d.access.duty d.access.tracked).run d.outside).1.1) := by
  rw [Desk.accessTick, Desk.accessPass, Desk.perform]
  rcases (Membership.pass d.access.duty d.access.tracked).run d.outside with
    ⟨⟨result, tracked⟩, outside⟩
  cases result with
  | ok report => rfl
  | error failure => rfl

/-- A whole pass over the members, turn by turn. -/
theorem exists_turns_beginAccess (s : Shift) (asked : Bool) :
    ∃ n, (turns .access n (s.beginAccess asked)).desk =
        (if asked then
          { s.desk.accessTick.2 with
            access.answers := s.desk.accessTick.2.access.answers ++ [.synced s.desk.accessTick.1] }
        else s.desk.accessTick.2) ∧
      (turns .access n (s.beginAccess asked)).accessing = none ∧
      (turns .access n (s.beginAccess asked)).dispatching = s.dispatching := by
  have hbegun : (s.beginAccess asked).accessing =
      some (.pass asked (Membership.pass s.desk.access.duty s.desk.access.tracked)) := rfl
  obtain ⟨n, hn⟩ := exists_turns_pass hbegun
  refine ⟨n, ?_⟩
  rw [hn, accessTick_eq]
  refine ⟨?_, rfl, rfl⟩
  cases asked <;> rfl

theorem exists_turns_beginJoin (s : Shift) (channel : ChannelId) (reviewer : ReviewerId) :
    ∃ n, (turns .access n (s.beginJoin channel reviewer)).desk =
        Membership.serve s.desk (.join channel reviewer) ∧
      (turns .access n (s.beginJoin channel reviewer)).accessing = none ∧
      (turns .access n (s.beginJoin channel reviewer)).dispatching = s.dispatching := by
  have hbegun : (s.beginJoin channel reviewer).accessing =
      some (.join (Membership.join s.desk.access.duty s.desk.access.tracked channel reviewer)) := rfl
  obtain ⟨n, hn⟩ := exists_turns_join hbegun
  refine ⟨n, ?_⟩
  rw [hn]
  exact ⟨rfl, rfl, rfl⟩

theorem exists_turns_access {s : Shift} (h : s.accessing = none) :
    ∃ n, (turns .access n s).desk = Membership.step s.desk ∧
      (turns .access n s).accessing = none ∧
      (turns .access n s).dispatching = s.dispatching := by
  by_cases hgoes : s.desk.access.running && !s.desk.stop.resolves
  · obtain ⟨hrunning, hstop⟩ := (Bool.and_eq_true _ _).mp hgoes
    rw [Bool.not_eq_true'] at hstop
    by_cases hraised : s.desk.accessWake.raised
    · have hturn : s.turn .access =
          { s with desk.accessWake := s.desk.accessWake.clear }.beginAccess false := by
        simp only [turn, accessTurn, h, hgoes, hraised, if_true]
      obtain ⟨n, hdesk, hidle⟩ := exists_turns_beginAccess
        { s with desk.accessWake := s.desk.accessWake.clear } false
      refine ⟨n + 1, ?_⟩
      rw [turns, hturn, hdesk]
      refine ⟨?_, hidle⟩
      simp only [Membership.step, hrunning, hstop, hraised, Bool.false_eq_true, if_true, if_false]
    · cases hcommands : s.desk.access.commands with
      | nil =>
        refine ⟨0, ?_, h, rfl⟩
        simp only [turns, Membership.step, hrunning, hstop, hraised, hcommands, Bool.false_eq_true,
          if_true, if_false]
      | cons command commands =>
        cases command with
        | sync =>
          have hturn : s.turn .access =
              { s with desk.access.commands := commands }.beginAccess true := by
            simp only [turn, accessTurn, h, hgoes, hraised, hcommands, Bool.false_eq_true, if_true,
              if_false]
          obtain ⟨n, hdesk, hidle⟩ := exists_turns_beginAccess
            { s with desk.access.commands := commands } true
          refine ⟨n + 1, ?_⟩
          rw [turns, hturn, hdesk]
          refine ⟨?_, hidle⟩
          simp only [Membership.step, hrunning, hstop, hraised, hcommands, Bool.false_eq_true,
            if_true, if_false]
          rfl
        | join channel reviewer =>
          have hturn : s.turn .access =
              { s with desk.access.commands := commands }.beginJoin channel reviewer := by
            simp only [turn, accessTurn, h, hgoes, hraised, hcommands, Bool.false_eq_true, if_true,
              if_false]
          obtain ⟨n, hdesk, hidle⟩ := exists_turns_beginJoin
            { s with desk.access.commands := commands } channel reviewer
          refine ⟨n + 1, ?_⟩
          rw [turns, hturn, hdesk]
          refine ⟨?_, hidle⟩
          simp only [Membership.step, hrunning, hstop, hraised, hcommands, Bool.false_eq_true,
            if_true, if_false]
  · have hturn : s.turn .access = { s with desk := Membership.step s.desk } := by
      simp only [turn, accessTurn, h, hgoes, Bool.false_eq_true, if_false]
    refine ⟨1, ?_⟩
    rw [turns, turns, hturn]
    exact ⟨rfl, h, rfl⟩

/-- Neither loop is in the middle of anything. -/
def Idle (s : Shift) : Prop := s.dispatching = none ∧ s.accessing = none

/-- Turns of one loop that nothing comes between are a step of that loop at the desk. -/
theorem exists_turns_eq_step {s : Shift} (h : s.Idle) (loop : Loop) :
    ∃ n, (turns loop n s).desk = s.desk.stepLoop loop ∧ (turns loop n s).Idle := by
  obtain ⟨hdispatching, haccessing⟩ := h
  cases loop with
  | listener => exact ⟨1, rfl, hdispatching, haccessing⟩
  | dispatch =>
    obtain ⟨n, hdesk, hdone, hother⟩ := exists_turns_dispatch hdispatching
    exact ⟨n, hdesk, hdone, hother.trans haccessing⟩
  | access =>
    obtain ⟨n, hdesk, hdone, hother⟩ := exists_turns_access haccessing
    exact ⟨n, hdesk, hother.trans hdispatching, hdone⟩

end Shift

end ReviewDesk
