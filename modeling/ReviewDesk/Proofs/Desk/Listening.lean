import Mathlib.Data.List.Chain
import ReviewDesk.Desk.Service
import ReviewDesk.Proofs.Bus.Content
import ReviewDesk.Proofs.Desk.Moves

/-!
What the listener meets with, and what is on record about it. Whatever happens to a desk, and in
whatever order, the listener meets with answers to its subscribes, with notices, with lost streams
and with a stop (`met`). All that is on record about it can be told from these (`Record.of`), and so
can where it stands and when it may try again (`Kept`). Everybody else leaves it alone (`Beside`),
and the invariant is kept whatever comes (`kept_beats`).
-/

set_option autoImplicit false
set_option relaxedAutoImplicit false

namespace ReviewDesk

namespace Listener

/-! ### What the listener meets with -/

inductive Occurrence where
  /-- An attempt to subscribe begins, at a time. -/
  | tried (time : Nat)
  /-- A subscribe has succeeded. -/
  | joined
  /-- A subscribe has failed. -/
  | refused
  /-- A subscribe has not been answered in time. -/
  | overdue
  | heard (payload : String)
  /-- The stream has broken or ended. -/
  | lost
  /-- A stop has ended a session. -/
  | closed
  /-- Somebody else has raised a signal. -/
  | raised (topic : Notice.Topic)
  deriving DecidableEq

namespace Occurrence

def time? : Occurrence → Option Nat
  | tried time => some time
  | _ => none

def payload? : Occurrence → Option String
  | heard payload => some payload
  | _ => none

/-- The name of a failure. -/
def marker? : Occurrence → Option String
  | refused => some "listener_connect_failed"
  | overdue => some "listener_connect_timeout"
  | lost => some "listener_lost"
  | _ => none

/-- What there is to say about the connection: that it stands, or the failure. -/
def verdict? : Occurrence → Option (Option String)
  | joined => some none
  | o => o.marker?.map some

/-- Whether a signal is raised. -/
def wakes (topic : Notice.Topic) : Occurrence → Bool
  | joined => true
  | heard payload => Notice.topic (Text.trim payload) = topic
  | raised other => other = topic
  | _ => false

end Occurrence

/-- When the attempts to subscribe began. -/
def times (past : List Occurrence) : List Nat := past.filterMap Occurrence.time?

def payloads (past : List Occurrence) : List String := past.filterMap Occurrence.payload?

def failures (past : List Occurrence) : List String := past.filterMap Occurrence.marker?

def verdicts (past : List Occurrence) : List (Option String) := past.filterMap Occurrence.verdict?

theorem getLast?_filterMap_snoc {α : Type} (f : Occurrence → Option α) (past : List Occurrence)
    (o : Occurrence) :
    ((past ++ [o]).filterMap f).getLast? = (f o).or (past.filterMap f).getLast? := by
  rw [List.filterMap_append, List.getLast?_append]
  cases hf : f o <;> simp [hf]

/-- How a subscribe is answered. -/
def answered (d : Desk) : Occurrence :=
  match (d.outside.store.subscribe d.listener.channel).1 with
  | .ok _ => .joined
  | .error _ => .refused

/-- What comes out of the stream that the listener holds. -/
def received : Bus.Taken → List Occurrence
  | .delivery (.publication message) => [.heard message.payload]
  | .delivery (.broken _) | .ended => [.lost]
  | .nothingYet => []

/-- What the listener meets with in a turn. -/
def met (d : Desk) : List Occurrence :=
  match d.listener.phase with
  | .starting =>
    if d.stop.requested then []
    else .tried d.clock :: if 0 < d.outside.hangingSubscribes then [] else [answered d]
  | .connecting limit => if limit ≤ d.clock then [.overdue] else []
  | .session i => if d.stop.resolves then [.closed] else received (d.outside.store.bus.take i).1
  | .backoff _ | .ended => []

/-- A pause is over. Where a stop has come at the same time, either may be seen first. -/
def rest (d : Desk) : Desk :=
  match d.listener.phase with
  | .backoff limit => if limit ≤ d.clock then { d with listener.phase := .starting } else d
  | _ => d

/-! ### The record -/

/-- All that is on record about the listener, moments apart. -/
structure Record where
  connected : Bool
  connects : Nat
  lastError : Option String
  lastNotice : Option String
  raises : Notice.Topic → Nat

def record (d : Desk) : Record where
  connected := d.health.listener.connected
  connects := d.health.listener.connects
  lastError := d.health.listener.lastError
  lastNotice := d.health.listener.lastNotice
  raises := fun topic ↦ (d.wakeFor topic).raises

namespace Record

/-- The record that some occurrences call for. -/
def of (past : List Occurrence) : Record where
  connected := (verdicts past).getLast? = some none
  connects := past.count .joined
  lastError := (verdicts past).getLast?.join
  lastNotice := (payloads past).getLast?.map fun payload ↦ Notice.excerpt (Text.trim payload)
  raises := fun topic ↦ past.countP (·.wakes topic)

/-- What one more occurrence makes of a record. -/
def after (r : Record) (o : Occurrence) : Record where
  connected := (o.verdict?.map Option.isNone).getD r.connected
  connects := r.connects + if o = .joined then 1 else 0
  lastError := o.verdict?.getD r.lastError
  lastNotice := (o.payload?.map fun payload ↦ Notice.excerpt (Text.trim payload)).or r.lastNotice
  raises := fun topic ↦ r.raises topic + if o.wakes topic then 1 else 0

theorem of_snoc (past : List Occurrence) (o : Occurrence) :
    of (past ++ [o]) = (of past).after o := by
  rw [of, verdicts, payloads, getLast?_filterMap_snoc, getLast?_filterMap_snoc, List.count_append,
    after]
  simp only [of, List.countP_append, List.countP_singleton, List.count_singleton]
  congr 1
  · cases o.verdict? with
    | none => rfl
    | some verdict => cases verdict <;> rfl
  · cases o <;> rfl
  · cases o.verdict? <;> rfl
  · cases o.payload? <;> rfl

end Record

theorem record_retreat (d : Desk) {o : Occurrence} {marker : String} (h : o.marker? = some marker) :
    record (retreat d marker) = (record d).after o := by
  cases o with
  | refused => cases h; rfl
  | overdue => cases h; rfl
  | lost => cases h; rfl
  | _ => cases h

theorem record_connected (d : Desk) (i : Nat) :
    record (connected d i) = (record d).after .joined := by
  have hraises : (fun topic ↦ ((connected d i).wakeFor topic).raises) =
      fun topic ↦ (d.wakeFor topic).raises + 1 := by
    funext topic
    cases topic <;> rfl
  rw [record, hraises]
  rfl

theorem record_raiseFor (d : Desk) (topic : Notice.Topic) :
    record (d.raiseFor topic) = (record d).after (.raised topic) := by
  have hraises : (fun other ↦ ((d.raiseFor topic).wakeFor other).raises) =
      fun other ↦ (d.wakeFor other).raises + if topic = other then 1 else 0 := by
    funext other
    cases topic <;> cases other <;> rfl
  rw [record, hraises]
  cases topic <;> simp only [Record.after, Occurrence.wakes, decide_eq_true_eq] <;> rfl

/-- A notice is put on record, and raises the signal of its topic. -/
theorem record_hear (d : Desk) (payload : String) :
    record (hear d payload) = (record d).after (.heard payload) := by
  rw [hear_eq, record_raiseFor]
  rfl

theorem record_congr {d d' : Desk} (listener : d'.health.listener = d.health.listener)
    (raises : ∀ topic, (d'.wakeFor topic).raises = (d.wakeFor topic).raises) :
    record d' = record d := by
  rw [record, listener, funext raises]
  rfl

/-! ### Everybody else -/

/-- The holder of a stream has not let go of it. -/
def holds (d : Desk) (i : Nat) : Prop := ∃ sub, d.stream? i = some sub ∧ sub.held = true

/-- The listener has not gone on and keeps its stream, and nothing is put on record. -/
structure Beside (d d' : Desk) : Prop where
  listener : d'.listener = d.listener
  record : record d' = record d
  clock : d.clock ≤ d'.clock
  holds : ∀ i, d.listener.phase = .session i → holds d i → holds d' i

theorem beside_of_grows {d d' : Desk} (listener : d'.listener = d.listener)
    (record : Listener.record d' = Listener.record d) (clock : d'.clock = d.clock)
    (grows : d.outside.store.bus.Grows d'.outside.store.bus) : Beside d d' := by
  refine ⟨listener, record, Nat.le_of_eq clock.symm, fun i _ ⟨sub, hsub, hheld⟩ ↦ ?_⟩
  obtain ⟨sub', hsub', hgrows⟩ := grows i sub hsub
  exact ⟨sub', hsub', hgrows.held.trans hheld⟩

theorem beside_of_bus {d d' : Desk} (listener : d'.listener = d.listener)
    (record : Listener.record d' = Listener.record d) (clock : d'.clock = d.clock)
    (bus : d'.outside.store.bus = d.outside.store.bus) : Beside d d' :=
  beside_of_grows listener record clock (bus ▸ .refl _)

/-- Nobody lets go of a stream by taking from one. -/
theorem beside_take (d : Desk) (j : Nat) :
    Beside d (d.modifyBus fun _ ↦ (d.outside.store.bus.take j).2) := by
  refine ⟨rfl, rfl, Nat.le_refl _, fun i _ ⟨sub, hsub, hheld⟩ ↦ ?_⟩
  cases htaken : d.outside.store.bus.subscriptions[j]? with
  | none =>
    rw [Bus.take_of_none htaken]
    exact ⟨sub, hsub, hheld⟩
  | some other =>
    rw [Bus.take_of_some htaken]
    have hstream : (d.modifyBus fun _ ↦ d.outside.store.bus.modify j fun sub ↦
          { sub with waiting := sub.waiting.tail }).stream? i =
        (d.stream? i).map fun sub ↦
          if j = i then { sub with waiting := sub.waiting.tail } else sub :=
      List.getElem?_modify ..
    rw [holds, hstream, hsub]
    refine ⟨_, rfl, ?_⟩
    split <;> exact hheld

/-! ### What is kept -/

/-- Where the listener stands, by what it has met with. -/
def Stands (past : List Occurrence) (d : Desk) : Phase → Prop
  | .starting | .connecting _ => .closed ∉ past ∧ (verdicts past).getLast? ≠ some none
  | .session i => .closed ∉ past ∧ (verdicts past).getLast? = some none ∧ holds d i
  | .backoff _ => .closed ∉ past ∧ ∃ marker, (verdicts past).getLast? = some (some marker)
  | .ended => .closed ∈ past ↔ (verdicts past).getLast? = some none

/-- The next attempt can begin only when a pause has gone by since the latest one. -/
def Paced (retry : Nat) (past : List Occurrence) (clock : Nat) : Phase → Prop
  | .starting => ∀ time ∈ (times past).getLast?, time + Pause.length retry ≤ clock
  | .connecting _ | .session _ => ∀ time ∈ (times past).getLast?, time ≤ clock
  | .backoff limit => ∀ time ∈ (times past).getLast?, time + Pause.length retry ≤ limit
  | .ended => True

/-- The invariant of the listener. -/
structure Kept (retry : Nat) (past : List Occurrence) (d : Desk) : Prop where
  pause : d.listener.retry = retry
  record : record d = .of past
  spaced : (times past).IsChain fun time next ↦ time + Pause.length retry ≤ next
  stands : Stands past d d.listener.phase
  paced : Paced retry past d.clock d.listener.phase

/-! ### What each occurrence keeps -/

/-- Occurrences that begin no attempt do not change when the attempts began. -/
theorem times_snoc {o : Occurrence} (h : o.time? = none) (past : List Occurrence) :
    times (past ++ [o]) = times past := by
  rw [times, List.filterMap_append, List.filterMap_cons_none h]
  exact List.append_nil _

theorem verdicts_snoc (past : List Occurrence) (o : Occurrence) :
    (verdicts (past ++ [o])).getLast? = o.verdict?.or (verdicts past).getLast? :=
  getLast?_filterMap_snoc _ past o

/-- After a failure there is no connection. -/
theorem unconnected {past : List Occurrence}
    (h : ∃ marker, (verdicts past).getLast? = some (some marker)) :
    (verdicts past).getLast? ≠ some none := by
  obtain ⟨marker, hmarker⟩ := h
  rw [hmarker]
  exact fun hnone ↦ by cases hnone

theorem closed_notMem_snoc {past : List Occurrence} (h : .closed ∉ past) {o : Occurrence}
    (ne : o ≠ .closed) : .closed ∉ past ++ [o] := by
  rw [List.mem_append, List.mem_singleton]
  rintro (hpast | rfl)
  · exact h hpast
  · exact ne rfl

namespace Kept

variable {retry : Nat} {past : List Occurrence} {d : Desk} (h : Kept retry past d)
include h

theorem record_snoc {d' : Desk} {o : Occurrence}
    (record : Listener.record d' = (Listener.record d).after o) :
    Listener.record d' = .of (past ++ [o]) := by
  rw [record, h.record, Record.of_snoc]

theorem beside {d' : Desk} (beside : Beside d d') : Kept retry past d' := by
  refine ⟨by rw [beside.listener, h.pause], beside.record.trans h.record, h.spaced, ?_, ?_⟩
  · have hstands := h.stands
    rw [beside.listener]
    cases hphase : d.listener.phase with
    | session i =>
      rw [hphase] at hstands
      exact ⟨hstands.1, hstands.2.1, beside.holds i hphase hstands.2.2⟩
    | _ =>
      rw [hphase] at hstands
      exact hstands
  · have hpaced := h.paced
    rw [beside.listener]
    cases hphase : d.listener.phase with
    | backoff limit =>
      rw [hphase] at hpaced
      exact hpaced
    | ended => trivial
    | _ =>
      rw [hphase] at hpaced
      exact fun time htime ↦ Nat.le_trans (hpaced time htime) beside.clock

/-- Something is put on record, and the listener stays where it is. -/
theorem note {d' : Desk} {o : Occurrence}
    (record : Listener.record d' = (Listener.record d).after o)
    (listener : d'.listener = d.listener) (clock : d'.clock = d.clock)
    (outside : d'.outside = d.outside) (time : o.time? = none) (verdict : o.verdict? = none)
    (ne : o ≠ .closed) : Kept retry (past ++ [o]) d' := by
  have hverdict : (verdicts (past ++ [o])).getLast? = (verdicts past).getLast? := by
    rw [verdicts_snoc, verdict, Option.none_or]
  have hclosed : .closed ∈ past ++ [o] ↔ .closed ∈ past := by
    rw [List.mem_append, List.mem_singleton]
    exact or_iff_left ne.symm
  have hstream (i : Nat) : d'.stream? i = d.stream? i := by rw [Desk.stream?, outside, Desk.stream?]
  refine ⟨by rw [listener, h.pause], h.record_snoc record, ?_, ?_, ?_⟩
  · rw [times_snoc time]
    exact h.spaced
  · have hstands := h.stands
    rw [listener]
    cases hphase : d.listener.phase <;> rw [hphase] at hstands <;>
      simpa only [Stands, hverdict, hclosed, holds, hstream] using hstands
  · have hpaced := h.paced
    rw [listener, clock]
    cases hphase : d.listener.phase with
    | ended => trivial
    | _ =>
      rw [hphase] at hpaced
      simpa only [Paced, times_snoc time] using hpaced

theorem raise (topic : Notice.Topic) : Kept retry (past ++ [.raised topic]) (d.raiseFor topic) := by
  exact h.note (record_raiseFor d topic) (Desk.listener_raiseFor d topic)
    (Desk.clock_raiseFor d topic) (Desk.outside_raiseFor d topic) rfl rfl Occurrence.noConfusion

/-- A notice has been taken out of the stream. -/
theorem hear (payload : String) :
    Kept retry (past ++ [.heard payload]) (Listener.hear d payload) := by
  refine h.note (record_hear d payload) ?_ ?_ ?_ rfl rfl Occurrence.noConfusion
  · rw [hear_eq, Desk.listener_raiseFor]
    rfl
  · rw [hear_eq, Desk.clock_raiseFor]
    rfl
  · rw [hear_eq, Desk.outside_raiseFor]
    rfl

/-- An attempt begins. -/
theorem tried (phase : d.listener.phase = .starting) (limit : Nat) :
    Kept retry (past ++ [.tried d.clock]) { d with listener.phase := .connecting limit } := by
  have hstands := h.stands
  have hpaced := h.paced
  rw [phase] at hstands hpaced
  have htimes : times (past ++ [.tried d.clock]) = times past ++ [d.clock] := by
    rw [times, List.filterMap_append]
    rfl
  refine ⟨h.pause, h.record_snoc rfl, ?_, ?_, ?_⟩
  · rw [htimes]
    refine h.spaced.append (List.isChain_singleton _) ?_
    intro time htime next hnext
    obtain rfl : d.clock = next := by simpa using hnext
    exact hpaced time htime
  · refine ⟨closed_notMem_snoc hstands.1 Occurrence.noConfusion, ?_⟩
    rw [verdicts_snoc]
    exact hstands.2
  · intro time hlast
    rw [htimes, List.getLast?_concat] at hlast
    exact Nat.le_of_eq (Option.some.inj hlast).symm

/-- An attempt or a session fails. -/
theorem retreat {o : Occurrence} {marker : String} (name : o.marker? = some marker)
    (unclosed : .closed ∉ past) (begun : ∀ time ∈ (times past).getLast?, time ≤ d.clock) :
    Kept retry (past ++ [o]) (Listener.retreat d marker) := by
  have htime : o.time? = none := by
    cases o with
    | tried time => cases name
    | _ => rfl
  have hverdict : o.verdict? = some (some marker) := by
    cases o with
    | refused | overdue | lost => exact congrArg (Option.map some) name
    | _ => cases name
  have hopen : o ≠ .closed := by
    rintro rfl
    cases name
  refine ⟨h.pause, h.record_snoc (record_retreat d name), ?_, ?_, ?_⟩
  · rw [times_snoc htime]
    exact h.spaced
  · refine ⟨closed_notMem_snoc unclosed hopen, marker, ?_⟩
    rw [verdicts_snoc, hverdict, Option.some_or]
  · intro time hlast
    rw [times_snoc htime] at hlast
    rw [← h.pause]
    exact Nat.add_le_add_right (begun time hlast) _

/-- A subscribe succeeds. -/
theorem connected (unclosed : .closed ∉ past)
    (begun : ∀ time ∈ (times past).getLast?, time ≤ d.clock) {i : Nat} (held : holds d i) :
    Kept retry (past ++ [.joined]) (Listener.connected d i) := by
  refine ⟨h.pause, h.record_snoc (record_connected d i), ?_, ?_, ?_⟩
  · rw [times_snoc rfl]
    exact h.spaced
  · refine ⟨closed_notMem_snoc unclosed Occurrence.noConfusion, ?_, held⟩
    rw [verdicts_snoc]
    rfl
  · intro time hlast
    rw [times_snoc rfl] at hlast
    exact begun time hlast

/-- The subscribe that the listener waits for is answered. -/
theorem reach {limit : Nat} (phase : d.listener.phase = .connecting limit) :
    Kept retry (past ++ [answered d]) (Shift.reach d) := by
  have hstands := h.stands
  have hpaced := h.paced
  rw [phase] at hstands hpaced
  have hkept (bus : Bus) (grows : d.outside.store.bus.Grows bus) :
      Kept retry past { d with outside.store.bus := bus } :=
    h.beside (beside_of_grows rfl rfl rfl grows)
  have hsubscribe : d.outside.store.subscribe d.listener.channel =
      ((d.outside.store.bus.subscribe d.listener.channel).1,
        { d.outside.store with bus := (d.outside.store.bus.subscribe d.listener.channel).2 }) := rfl
  have hgrows := Bus.grows_subscribe d.outside.store.bus d.listener.channel
  rw [answered, Shift.reach, hsubscribe]
  rcases Bus.subscribe_cases d.outside.store.bus d.listener.channel with
    ⟨⟨error, herror⟩, -⟩ | ⟨hok, hsubscriptions⟩
  · rw [herror]
    exact (hkept _ hgrows).retreat rfl hstands.1 hpaced
  · rw [hok]
    refine (hkept _ hgrows).connected hstands.1 hpaced ⟨{ channel := d.listener.channel }, ?_, rfl⟩
    rw [Desk.stream?, hsubscriptions, List.getElem?_concat_length]

theorem attempt (phase : d.listener.phase = .starting) :
    Kept retry
      (past ++ .tried d.clock :: if 0 < d.outside.hangingSubscribes then [] else [answered d])
      (Listener.attempt d) := by
  by_cases hhangs : 0 < d.outside.hangingSubscribes
  · rw [if_pos hhangs, Listener.attempt, if_pos hhangs]
    exact (h.tried phase _).beside (beside_of_bus rfl rfl rfl rfl)
  · have hnone : d.outside.hangingSubscribes = 0 := Nat.eq_zero_of_not_pos hhangs
    rw [if_neg hhangs, Shift.attempt_eq_reach hnone, List.append_cons]
    exact (h.tried phase 0).reach rfl

/-- The listener ends, in a session or out of it. -/
theorem close {i : Nat} (phase : d.listener.phase = .session i) :
    Kept retry (past ++ [.closed]) { d with listener.phase := .ended } := by
  have hstands := h.stands
  rw [phase] at hstands
  refine ⟨h.pause, h.record_snoc rfl, ?_, ?_, trivial⟩
  · rw [times_snoc rfl]
    exact h.spaced
  · refine iff_of_true (List.mem_append_right _ (List.mem_singleton.mpr rfl)) ?_
    rw [verdicts_snoc]
    exact hstands.2.1

theorem finish (unclosed : .closed ∉ past) (lost : (verdicts past).getLast? ≠ some none) :
    Kept retry past { d with listener.phase := .ended } :=
  ⟨h.pause, h.record, h.spaced, iff_of_false unclosed lost, trivial⟩

theorem resume {limit : Nat} (phase : d.listener.phase = .backoff limit) (due : limit ≤ d.clock) :
    Kept retry past { d with listener.phase := .starting } := by
  have hstands := h.stands
  have hpaced := h.paced
  rw [phase] at hstands hpaced
  exact ⟨h.pause, h.record, h.spaced, ⟨hstands.1, unconnected hstands.2⟩,
    fun time htime ↦ Nat.le_trans (hpaced time htime) due⟩

/-- A session gets on by what comes out of its stream. -/
theorem session {i : Nat} (phase : d.listener.phase = .session i) (stop : d.stop.resolves = false) :
    Kept retry (past ++ received (d.outside.store.bus.take i).1) (Listener.step d) := by
  have hstands := h.stands
  have hpaced := h.paced
  rw [phase] at hstands hpaced
  have hkept := h.beside (beside_take d i)
  have hlose : Kept retry (past ++ [.lost])
      (lose (d.modifyBus fun _ ↦ (d.outside.store.bus.take i).2) i) :=
    (hkept.retreat rfl hstands.1 hpaced).beside ⟨rfl, rfl, Nat.le_refl _, fun _ h ↦ by cases h⟩
  rw [step_session phase stop]
  cases (d.outside.store.bus.take i).1 with
  | delivery content =>
    cases content with
    | publication message => exact hkept.hear message.payload
    | broken error => exact hlose
  | ended => exact hlose
  | nothingYet =>
    rw [received, List.append_nil]
    exact hkept

theorem step : Kept retry (past ++ met d) (Listener.step d) := by
  have hstands := h.stands
  have hpaced := h.paced
  rw [met]
  cases hphase : d.listener.phase with
  | starting =>
    rw [hphase] at hstands
    rw [Listener.step, hphase]
    dsimp only
    split
    · rw [List.append_nil]
      exact h.finish hstands.1 hstands.2
    · exact h.attempt hphase
  | connecting limit =>
    rw [hphase] at hstands hpaced
    rw [Listener.step, hphase]
    dsimp only
    split
    · exact h.retreat rfl hstands.1 hpaced
    · rwa [List.append_nil]
  | session i =>
    dsimp only
    by_cases hstop : d.stop.resolves
    · rw [if_pos hstop, Listener.step, hphase]
      dsimp only
      rw [if_pos hstop]
      exact (h.close hphase).beside ⟨rfl, rfl, Nat.le_refl _, fun _ h ↦ by cases h⟩
    · rw [if_neg hstop]
      rw [Bool.not_eq_true] at hstop
      exact h.session hphase hstop
  | backoff limit =>
    rw [hphase] at hstands
    rw [Listener.step, hphase, List.append_nil]
    dsimp only
    split
    · exact h.finish hstands.1 (unconnected hstands.2)
    · split
      · rename_i hover
        exact h.resume hphase hover
      · exact h
  | ended =>
    rw [Listener.step, hphase, List.append_nil]
    exact h

theorem rest : Kept retry past (Listener.rest d) := by
  rw [Listener.rest]
  split
  · rename_i limit hphase
    split
    · rename_i hover
      exact h.resume hphase hover
    · exact h
  · exact h

end Kept

end Listener

namespace Shift

open Listener (Occurrence Kept Beside)

/-- What may come next: a move, or the end of a pause that is over as a stop comes. -/
inductive Beat where
  | move (m : Move)
  | rested

def beat (s : Shift) : Beat → Shift
  | .move m => s.move m
  | .rested => { s with desk := Listener.rest s.desk }

def beats (s : Shift) (list : List Beat) : Shift := list.foldl beat s

/-- What the listener meets with. -/
def meets (s : Shift) : Beat → List Occurrence
  | .move (.event (.turn .listener)) => Listener.met s.desk
  | .move (.event (.raise topic)) => [.raised topic]
  | .move .subscribed => if isConnecting s.desk then [Listener.answered s.desk] else []
  | .move _ | .rested => []

def history (s : Shift) : List Beat → List Occurrence
  | [] => []
  | b :: list => meets s b ++ history (s.beat b) list

theorem beside_dispatchTurn (s : Shift) : Beside s.desk (s.turn .dispatch).desk := by
  rw [turn, dispatchTurn]
  split
  · exact Listener.beside_of_bus rfl rfl rfl (Outside.bus_answer ..)
  · rename_i result hdone
    cases result <;> exact Listener.beside_of_bus rfl rfl rfl rfl
  · split
    · refine Listener.beside_of_bus rfl (Listener.record_congr rfl fun topic ↦ ?_) rfl rfl
      cases topic <;> rfl
    · rename_i hopens
      obtain ⟨phase, asleep, hstep⟩ := step_of_not_opensDispatch hopens
      rw [hstep]
      exact Listener.beside_of_bus rfl rfl rfl rfl

theorem beside_accessTurn (s : Shift) : Beside s.desk (s.turn .access).desk := by
  rw [turn, accessTurn]
  split
  · exact Listener.beside_of_bus rfl rfl rfl (Outside.bus_answer ..)
  · rename_i asked result tracked hdone
    cases asked <;> cases result <;> exact Listener.beside_of_bus rfl rfl rfl rfl
  · exact Listener.beside_of_bus rfl rfl rfl (Outside.bus_answer ..)
  · exact Listener.beside_of_bus rfl rfl rfl rfl
  · split
    · split
      · refine Listener.beside_of_bus rfl (Listener.record_congr rfl fun topic ↦ ?_) rfl rfl
        cases topic <;> rfl
      · split <;> exact Listener.beside_of_bus rfl rfl rfl rfl
    · rename_i hgoes
      rw [step_of_not_goes hgoes]
      split <;> exact Listener.beside_of_bus rfl rfl rfl rfl

theorem beside_enqueue (s : Shift) (item : Item) :
    Beside s.desk (s.step (.enqueue item)).desk := by
  cases hnotice : Notice.dispatch? item.kind.ledgerName item.id.text with
  | none =>
    rw [step, Desk.modifyStore, Store.enqueue_of_none hnotice]
    exact Listener.beside_of_bus rfl rfl rfl rfl
  | some payload =>
    rw [step, Desk.modifyStore, Store.enqueue_of_some hnotice]
    exact Listener.beside_of_grows rfl rfl rfl (Bus.grows_publish _ _ _)

section Kept

variable {retry : Nat} {past : List Occurrence} {s : Shift} (h : Kept retry past s.desk)
include h

theorem kept_step (event : Event) :
    Kept retry (past ++ meets s (.move (.event event))) (s.step event).desk := by
  have hbeside (beside : Beside s.desk (s.step event).desk) :
      Kept retry (past ++ []) (s.step event).desk := by
    rw [List.append_nil]
    exact h.beside beside
  cases event with
  | raise topic => exact h.raise topic
  | turn loop =>
    cases loop with
    | listener => exact h.step
    | dispatch => exact hbeside (beside_dispatchTurn s)
    | access => exact hbeside (beside_accessTurn s)
  | enqueue item => exact hbeside (beside_enqueue s item)
  | announceAccess reason =>
    exact hbeside (Listener.beside_of_grows rfl rfl rfl (Bus.grows_publish _ _ _))
  | publish channel payload =>
    exact hbeside (Listener.beside_of_grows rfl rfl rfl (Bus.grows_publish _ _ _))
  | dropAll => exact hbeside (Listener.beside_of_grows rfl rfl rfl (Bus.grows_dropAll _))
  | breakAll reason => exact hbeside (Listener.beside_of_grows rfl rfl rfl (Bus.grows_breakAll _ _))
  | failSubscribes count => exact hbeside (Listener.beside_of_grows rfl rfl rfl (.refl _))
  | subscribe channel =>
    exact hbeside (Listener.beside_of_grows rfl rfl rfl (Bus.grows_subscribe _ _))
  | command asked =>
    apply hbeside
    rw [step, command]
    split <;> exact Listener.beside_of_bus rfl rfl rfl rfl
  | elapse time => exact hbeside ⟨rfl, rfl, Nat.le_add_right _ _, fun _ _ held ↦ held⟩
  | _ => exact hbeside (Listener.beside_of_bus rfl rfl rfl rfl)

theorem kept_beat (b : Beat) : Kept retry (past ++ meets s b) (s.beat b).desk := by
  cases b with
  | rested =>
    rw [meets, List.append_nil]
    exact h.rest
  | move m =>
    cases m with
    | event event => exact kept_step h event
    | subscribed =>
      rw [meets, beat, move]
      split
      · rename_i hconnecting
        obtain ⟨limit, hphase⟩ := isConnecting_iff.mp hconnecting
        exact h.reach hphase
      · rw [List.append_nil]
        exact h

end Kept

theorem kept_beats {retry : Nat} {past : List Occurrence} {s : Shift}
    (h : Kept retry past s.desk) (list : List Beat) :
    Kept retry (past ++ history s list) (s.beats list).desk := by
  induction list generalizing s past with
  | nil =>
    rw [history, List.append_nil]
    exact h
  | cons b list ih =>
    rw [history, ← List.append_assoc]
    exact ih (kept_beat h b)

end Shift

end ReviewDesk
