import Mathlib.Data.List.Induction
import ReviewDesk.Desk.State

/-!
What the health record says about dispatch passes. A tick of the dispatch loop reports one pass
(`exists_pass_dispatchTick`), and the dispatch section can be told from the passes so far, whatever the
other two loops report in between (`reflects_foldl`): the latest start, the counts of the latest success,
the failure of the latest pass and the number of passes that have ended. The time of the latest end is
that of the latest pass, also of one that failed, so it is the time of the latest success only as long as
the latest pass has succeeded (`not_forall_lastFinishedAt`).
-/

set_option autoImplicit false
set_option relaxedAutoImplicit false

namespace ReviewDesk.Health

/-- Whether an event is one that the dispatch loop reports. -/
def Event.isDispatch : Event → Bool
  | .passStarted _ | .passFinished .. | .passFailed .. => true
  | _ => false

/-- A dispatch pass that has ended. -/
structure Pass where
  start : Instant
  stop : Instant
  /-- What was sent, or the marker of the failure. -/
  result : Except String (PerKind Nat)

namespace Pass

def sent? (pass : Pass) : Option (PerKind Nat) := pass.result.toOption

def marker? (pass : Pass) : Option String :=
  match pass.result with
  | .ok _ => none
  | .error marker => some marker

def succeeded (pass : Pass) : Bool := pass.sent?.isSome

/-- What is reported of a pass. -/
def events (pass : Pass) : List Event :=
  [.passStarted pass.start,
    match pass.result with
    | .ok sent => .passFinished sent pass.stop
    | .error marker => .passFailed marker pass.stop]

end Pass

/-- The passes of a dispatch loop: those that have ended, and the start of one that is under way. -/
structure Course where
  ended : List Pass
  underWay : Option Instant

namespace Course

def events (course : Course) : List Event :=
  course.ended.flatMap Pass.events ++ course.underWay.toList.map Event.passStarted

def successes (course : Course) : List Pass := course.ended.filter Pass.succeeded

theorem successes_snoc (ended : List Pass) (pass : Pass) (underWay : Option Instant) :
    successes ⟨ended ++ [pass], underWay⟩ =
      successes ⟨ended, underWay⟩ ++ if pass.succeeded then [pass] else [] := by
  rw [successes, List.filter_append, List.filter_cons, List.filter_nil]
  rfl

end Course

/-- What a dispatch section says is what has happened. -/
structure Reflects (course : Course) (h : DispatchHealth) : Prop where
  lastStartedAt : h.lastStartedAt = course.underWay.or (course.ended.getLast?.map Pass.start)
  /-- The latest end counts, of whichever sort. -/
  lastFinishedAt : h.lastFinishedAt = course.ended.getLast?.map Pass.stop
  lastSent : h.lastSent = (course.successes.getLast?.bind Pass.sent?).getD ⟨0, 0⟩
  lastError : h.lastError =
    if course.underWay.isSome then none else course.ended.getLast?.bind Pass.marker?
  passes : h.passes = course.ended.length

/-! ### The dispatch section -/

/-- Nobody else writes to the section. -/
theorem dispatch_record_of_not_isDispatch (h : Health) {event : Event}
    (other : event.isDispatch = false) : (h.record event).dispatch = h.dispatch := by
  cases event with
  | passStarted | passFinished | passFailed => cases other
  | _ => rfl

/-- What is written to the section depends on nothing else. -/
theorem dispatch_record_congr {h h' : Health} (same : h.dispatch = h'.dispatch) (event : Event) :
    (h.record event).dispatch = (h'.record event).dispatch := by
  cases event <;> simp [record, same]

theorem dispatch_foldl_record (events : List Event) {h h' : Health}
    (same : h.dispatch = h'.dispatch) :
    (events.foldl record h).dispatch =
      ((events.filter Event.isDispatch).foldl record h').dispatch := by
  induction events generalizing h h' with
  | nil => exact same
  | cons event events ih =>
    cases hevent : event.isDispatch with
    | true =>
      rw [List.filter_cons_of_pos hevent]
      exact ih (dispatch_record_congr same event)
    | false =>
      rw [List.filter_cons_of_neg (Bool.eq_false_iff.mp hevent)]
      exact ih ((dispatch_record_of_not_isDispatch h hevent).trans same)

/-- Whatever comes of it, a tick of the dispatch loop reports one pass, and nothing else. -/
theorem exists_pass_dispatchTick (d : Desk) :
    ∃ pass : Pass, d.dispatchTick.2.health = pass.events.foldl record d.health := by
  have hperform : (d.report .passStarted).perform (Dispatch.pass d.dispatch.batchLimit) =
      (((Dispatch.pass d.dispatch.batchLimit).run d.outside).1,
        { d.report .passStarted with
          outside := ((Dispatch.pass d.dispatch.batchLimit).run d.outside).2 }) := rfl
  rw [Desk.dispatchTick, hperform]
  cases ((Dispatch.pass d.dispatch.batchLimit).run d.outside).1 with
  | ok report => exact ⟨⟨d.now, d.now, .ok report.sent⟩, rfl⟩
  | error => exact ⟨⟨d.now, d.now, .error "dispatch_failed"⟩, rfl⟩

/-! ### Pass by pass -/

theorem reflects_initial (channel : String) : Reflects ⟨[], none⟩ (initial channel).dispatch :=
  ⟨rfl, rfl, rfl, rfl, rfl⟩

theorem Reflects.start {ended : List Pass} {h : Health} (before : Reflects ⟨ended, none⟩ h.dispatch)
    (time : Instant) : Reflects ⟨ended, some time⟩ (h.record (.passStarted time)).dispatch :=
  ⟨rfl, before.lastFinishedAt, before.lastSent, rfl, before.passes⟩

theorem Reflects.pass {ended : List Pass} {h : Health} (before : Reflects ⟨ended, none⟩ h.dispatch)
    (pass : Pass) :
    Reflects ⟨ended ++ [pass], none⟩ (pass.events.foldl record h).dispatch := by
  have hlast : (ended ++ [pass]).getLast? = some pass := List.getLast?_concat
  have hpasses : h.dispatch.passes + 1 = (ended ++ [pass]).length := by
    rw [List.length_append, before.passes]
    rfl
  have hsuccesses := Course.successes_snoc ended pass none
  obtain ⟨start, stop, marker | sent⟩ := pass
  · have hkept : Course.successes ⟨ended ++ [⟨start, stop, .error marker⟩], none⟩ =
        Course.successes ⟨ended, none⟩ := hsuccesses.trans (List.append_nil _)
    exact ⟨by rw [hlast]; rfl, by rw [hlast]; rfl, by rw [hkept]; exact before.lastSent,
      by rw [hlast]; rfl, hpasses⟩
  · have hnew : (Course.successes ⟨ended ++ [⟨start, stop, .ok sent⟩], none⟩).getLast? =
        some ⟨start, stop, .ok sent⟩ := by
      rw [hsuccesses]
      exact List.getLast?_concat
    exact ⟨by rw [hlast]; rfl, by rw [hlast]; rfl, by rw [hnew]; rfl, by rw [hlast]; rfl, hpasses⟩

theorem reflects_ended (channel : String) (ended : List Pass) :
    Reflects ⟨ended, none⟩ ((ended.flatMap Pass.events).foldl record (initial channel)).dispatch := by
  induction ended using List.reverseRecOn with
  | nil => exact reflects_initial channel
  | append_singleton ended pass ih =>
    rw [List.flatMap_append, List.foldl_append, List.flatMap_singleton]
    exact ih.pass pass

theorem reflects_course (channel : String) (course : Course) :
    Reflects course (course.events.foldl record (initial channel)).dispatch := by
  obtain ⟨ended, underWay⟩ := course
  rw [Course.events, List.foldl_append]
  cases underWay with
  | none => exact reflects_ended channel ended
  | some time => exact (reflects_ended channel ended).start time

/-- The time on record is that of the latest success unless a pass has failed since, at another time. -/
theorem Reflects.lastFinishedAt_iff {course : Course} {h : DispatchHealth} (reflects : Reflects course h) :
    h.lastFinishedAt = course.successes.getLast?.map Pass.stop ↔
      ∀ pass ∈ course.ended.getLast?, pass.succeeded = false →
        course.successes.getLast?.map Pass.stop = some pass.stop := by
  rw [reflects.lastFinishedAt]
  cases hlast : course.ended.getLast? with
  | none =>
    have hnone : course.ended = [] := List.getLast?_eq_none_iff.mp hlast
    simp [Course.successes, hnone]
  | some pass =>
    cases hsucceeded : pass.succeeded with
    | true =>
      obtain ⟨ended, underWay⟩ := course
      obtain ⟨earlier, rfl⟩ := List.getLast?_eq_some_iff.mp hlast
      have hsuccess : Course.successes ⟨earlier ++ [pass], underWay⟩ =
          Course.successes ⟨earlier, underWay⟩ ++ [pass] := by
        rw [Course.successes_snoc, if_pos hsucceeded]
      rw [hsuccess, List.getLast?_concat]
      simp [hsucceeded]
    | false => simp [hsucceeded, eq_comm (a := some pass.stop)]

/-- Whatever the three loops report and in whatever order, the dispatch section says what the passes
so far have come to, and its latest end is that of the latest success unless a pass has failed since. -/
theorem reflects_foldl (channel : String) (events : List Event) (course : Course)
    (reported : events.filter Event.isDispatch = course.events) :
    let h := (events.foldl record (initial channel)).dispatch
    Reflects course h ∧
      (h.lastFinishedAt = course.successes.getLast?.map Pass.stop ↔
        ∀ pass ∈ course.ended.getLast?, pass.succeeded = false →
          course.successes.getLast?.map Pass.stop = some pass.stop) ∧
      (∀ (h : Health) (event : Event), event.isDispatch = false →
        (h.record event).dispatch = h.dispatch) ∧
      ∀ d : Desk, ∃ pass : Pass, d.dispatchTick.2.health = pass.events.foldl record d.health := by
  intro h
  have hsection : h = (course.events.foldl record (initial channel)).dispatch :=
    (dispatch_foldl_record events rfl).trans (by rw [reported])
  have hreflects : Reflects course h := by
    rw [hsection]
    exact reflects_course channel course
  exact ⟨hreflects, hreflects.lastFinishedAt_iff,
    fun h _ other ↦ dispatch_record_of_not_isDispatch h other, exists_pass_dispatchTick⟩

/-- A success and a failure, with a pass under way, while the other loops report as well. -/
def bustle : List Event :=
  [.connected ⟨1, 0⟩, .passStarted ⟨2, 0⟩, .accessFailed "access_sync_failed" ⟨2, 5⟩,
    .passFinished ⟨3, 1⟩ ⟨3, 0⟩, .noticed "kyc:7" ⟨4, 0⟩, .passStarted ⟨4, 0⟩,
    .disconnected "listener_lost" ⟨4, 5⟩, .passFailed "dispatch_failed" ⟨5, 0⟩,
    .accessFinished {} ⟨5, 0⟩, .passStarted ⟨6, 0⟩]

def bustleCourse : Course :=
  ⟨[⟨⟨2, 0⟩, ⟨3, 0⟩, .ok ⟨3, 1⟩⟩, ⟨⟨4, 0⟩, ⟨5, 0⟩, .error "dispatch_failed"⟩], some ⟨6, 0⟩⟩

theorem reflects_foldl_bustle :
    bustle.filter Event.isDispatch = bustleCourse.events ∧
      Reflects bustleCourse (bustle.foldl record (initial "reviews")).dispatch ∧
      (bustle.foldl record (initial "reviews")).dispatch.lastFinishedAt ≠
        bustleCourse.successes.getLast?.map Pass.stop := by
  have hreported : bustle.filter Event.isDispatch = bustleCourse.events := rfl
  obtain ⟨hreflects, hiff, -⟩ := reflects_foldl "reviews" bustle bustleCourse hreported
  refine ⟨hreported, hreflects, fun htime ↦ ?_⟩
  exact absurd (hiff.mp htime ⟨⟨4, 0⟩, ⟨5, 0⟩, .error "dispatch_failed"⟩ rfl rfl) (by decide)

/-- The first pass fails, and there is a time of a successful end on record. -/
theorem not_forall_lastFinishedAt :
    ¬∀ (channel : String) (events : List Event) (course : Course),
      events.filter Event.isDispatch = course.events →
        (events.foldl record (initial channel)).dispatch.lastFinishedAt =
          course.successes.getLast?.map Pass.stop := by
  intro h
  have htime := h "reviews" [.passStarted ⟨1, 0⟩, .passFailed "dispatch_failed" ⟨2, 0⟩]
    ⟨[⟨⟨1, 0⟩, ⟨2, 0⟩, .error "dispatch_failed"⟩], none⟩ rfl
  cases htime

end ReviewDesk.Health
