import ReviewDesk.Proofs.Desk.Listening

/-!
The record of the listener is right. From a fresh start, whatever happens and in whatever order, the
counts, the latest notice and the latest error agree with what the listener has met with, and two
attempts to subscribe are a pause apart (`accounts_beats`). A pause is never longer than thirty
years, so neither is the time between two attempts, however long a pause was asked for
(`not_forall_spaced`). The record says that there is a stream exactly as long as the listener holds
one, unless a stop has ended the session (`listenerLive_beats_iff`); after that it goes on saying so
(`not_forall_isLive`).
-/

set_option autoImplicit false
set_option relaxedAutoImplicit false

namespace ReviewDesk

namespace Listener

/-! ### What the record says -/

/-- A listener that is about to start, of which nothing is on record yet. -/
structure Fresh (retry : Nat) (d : Desk) : Prop where
  starting : d.listener.phase = .starting
  pause : d.listener.retry = retry
  health : d.health.listener = { channel := d.listener.channel }
  raises : ∀ topic, (d.wakeFor topic).raises = 0

theorem kept_of_fresh {retry : Nat} {d : Desk} (h : Fresh retry d) : Kept retry [] d := by
  refine ⟨h.pause, ?_, .nil, ?_, ?_⟩
  · rw [record, h.health]
    simp only [h.raises]
    rfl
  · rw [h.starting]
    exact ⟨List.not_mem_nil, fun hverdict ↦ by cases hverdict⟩
  · rw [h.starting]
    exact fun time hlast ↦ by cases hlast

theorem fresh_listening (channel : String) (retry : Nat) (outside : Outside) :
    Fresh retry (Desk.listening channel retry outside) :=
  ⟨rfl, rfl, rfl, fun topic ↦ by cases topic <;> rfl⟩

theorem fresh_of_start {settings : Settings} {outside : Outside} {d : Desk}
    (start : Desk.start settings outside = .ok d) :
    Fresh (1000 * settings.effectiveRetrySeconds) d := by
  rw [Desk.start] at start
  split at start
  · cases start
  · obtain rfl := Except.ok.inj start
    dsimp only
    rw [Shift.accessTick_eq]
    have hrecord (d : Desk) (result : Except Failure AccessReport) :
        record (Shift.recordAccess d false result) = record d := by
      cases result <;> rfl
    have hhealth (d : Desk) (result : Except Failure AccessReport) :
        (Shift.recordAccess d false result).health.listener = d.health.listener := by
      cases result <;> rfl
    refine ⟨rfl, rfl, hhealth _ _, fun topic ↦ ?_⟩
    · refine (congrFun (congrArg Record.raises (hrecord _ _)) topic).trans ?_
      cases topic <;> rfl

/-- How many notices were about a topic. -/
def concerning (topic : Notice.Topic) (past : List Occurrence) : Nat :=
  (payloads past).countP fun payload ↦ Notice.topic (Text.trim payload) = topic

/-- What wakes the loop of a topic are the streams that were opened, the notices on the topic, and
others. -/
theorem countP_wakes (topic : Notice.Topic) (past : List Occurrence) :
    past.countP (·.wakes topic) =
      past.count .joined + concerning topic past + past.count (.raised topic) := by
  induction past with
  | nil => rfl
  | cons o past ih =>
    have hpayloads : payloads (o :: past) = o.payload?.toList ++ payloads past := by
      rw [payloads, List.filterMap_cons]
      cases o.payload? <;> rfl
    rw [List.countP_cons, List.count_cons, List.count_cons, ih]
    simp only [concerning, hpayloads, List.countP_append]
    cases o <;> simp [Occurrence.wakes, Occurrence.payload?, List.countP_cons] <;> omega

theorem getLast?_failures {past : List Occurrence} {marker : String}
    (h : (verdicts past).getLast? = some (some marker)) :
    (failures past).getLast? = some marker := by
  induction past using List.reverseRecOn with
  | nil => cases h
  | append_singleton past o ih =>
    rw [verdicts_snoc] at h
    rw [failures, getLast?_filterMap_snoc]
    cases o with
    | joined => cases h
    | refused | overdue | lost => exact Option.some.inj h
    | _ => exact ih h

/-- What is on record about a listener is in agreement with what it has met with. -/
structure Accounts (retry : Nat) (past : List Occurrence) (d : Desk) : Prop where
  connects : d.health.listener.connects = past.count .joined
  raises : ∀ topic, (d.wakeFor topic).raises =
    past.count .joined + concerning topic past + past.count (.raised topic)
  lastNotice : d.health.listener.lastNotice =
    (payloads past).getLast?.map fun payload ↦ Notice.excerpt (Text.trim payload)
  session : ∀ i, d.listener.phase = .session i → d.health.listener.lastError = none
  backoff : ∀ limit, d.listener.phase = .backoff limit → ∃ marker,
    (failures past).getLast? = some marker ∧ d.health.listener.lastError = some marker
  spaced : (times past).IsChain fun time next ↦ time + Pause.length retry ≤ next

theorem Kept.accounts {retry : Nat} {past : List Occurrence} {d : Desk} (h : Kept retry past d) :
    Accounts retry past d := by
  have hlastError : d.health.listener.lastError = (verdicts past).getLast?.join :=
    congrArg Record.lastError h.record
  refine ⟨congrArg Record.connects h.record, fun topic ↦ ?_, congrArg Record.lastNotice h.record,
    fun i hphase ↦ ?_, fun limit hphase ↦ ?_, h.spaced⟩
  · rw [← countP_wakes]
    exact congrFun (congrArg Record.raises h.record) topic
  · have hstands := h.stands
    rw [hphase] at hstands
    rw [hlastError, hstands.2.1]
    rfl
  · have hstands := h.stands
    rw [hphase] at hstands
    obtain ⟨-, marker, hmarker⟩ := hstands
    refine ⟨marker, getLast?_failures hmarker, ?_⟩
    rw [hlastError, hmarker]
    rfl

/-- The listener is in a session and has not let go of its stream. -/
def IsLive (d : Desk) : Prop := ∃ i, d.listener.phase = .session i ∧ holds d i

theorem not_isLive {d : Desk} (h : ∀ i, d.listener.phase ≠ .session i) : ¬IsLive d :=
  fun ⟨i, hsession, _⟩ ↦ h i hsession

theorem Kept.listenerLive_iff {retry : Nat} {past : List Occurrence} {d : Desk}
    (h : Kept retry past d) :
    (d.health.listenerLive = true ↔ IsLive d ∨ .closed ∈ past) ∧ (.closed ∈ past → ¬IsLive d) := by
  have hlive : d.health.listenerLive = true ↔ (verdicts past).getLast? = some none := by
    have hconnected : d.health.listener.connected = (Record.of past).connected :=
      congrArg Record.connected h.record
    rw [Health.listenerLive, hconnected, Record.of, decide_eq_true_iff]
  have hstands := h.stands
  rw [hlive]
  cases hphase : d.listener.phase with
  | session i =>
    rw [hphase] at hstands
    exact ⟨iff_of_true hstands.2.1 (Or.inl ⟨i, hphase, hstands.2.2⟩),
      fun hclosed ↦ absurd hclosed hstands.1⟩
  | ended =>
    rw [hphase] at hstands
    have haway : ¬IsLive d := not_isLive (by simp [hphase])
    exact ⟨hstands.symm.trans (or_iff_right haway).symm, fun _ ↦ haway⟩
  | backoff limit =>
    rw [hphase] at hstands
    have haway : ¬IsLive d := not_isLive (by simp [hphase])
    exact ⟨iff_of_false (unconnected hstands.2) (not_or.mpr ⟨haway, hstands.1⟩), fun _ ↦ haway⟩
  | starting | connecting =>
    rw [hphase] at hstands
    have haway : ¬IsLive d := not_isLive (by simp [hphase])
    exact ⟨iff_of_false hstands.2 (not_or.mpr ⟨haway, hstands.1⟩), fun _ ↦ haway⟩

end Listener

namespace Shift

/-! ### Whatever happens -/

/-- Whatever happens, and in whatever order, the record of a listener agrees with what it has met
with, and its attempts to subscribe are a pause apart. -/
theorem accounts_beats {retry : Nat} {s : Shift} (fresh : Listener.Fresh retry s.desk)
    (list : List Beat) : Listener.Accounts retry (history s list) (s.beats list).desk :=
  (kept_beats (Listener.kept_of_fresh fresh) list).accounts

/-- One subscribe fails and the next succeeds; the stream is lost after a notice. -/
def reconnect : List Beat :=
  [.move (.event (.turn .listener)), .move (.event (.elapse 3000)),
    .move (.event (.turn .listener)), .move (.event (.turn .listener)),
    .move (.event (.publish "c" " access_sync:rights ")), .move (.event (.turn .listener)),
    .move (.event .dropAll), .move (.event (.turn .listener))]

/-- A shift of which only the listener works, with a store that refuses some subscribes. -/
def lone (retry faults : Nat) : Shift where
  desk :=
    Desk.listening "c" retry { store := { noticeChannel := "c", bus.subscribeFaults := faults } }

theorem accounts_beats_reconnect : Listener.Fresh 3000 (lone 3000 1).desk ∧
    history (lone 3000 1) reconnect =
      [.tried 0, .refused, .tried 3000, .joined, .heard " access_sync:rights ", .lost] ∧
    Listener.Accounts 3000 (history (lone 3000 1) reconnect) ((lone 3000 1).beats reconnect).desk :=
  ⟨Listener.fresh_listening .., rfl, accounts_beats (Listener.fresh_listening ..) reconnect⟩

/-- A subscribe fails, thirty years go by, and the listener tries again. -/
def generation : List Beat :=
  [.move (.event (.turn .listener)), .move (.event (.elapse 946080000000)),
    .move (.event (.turn .listener)), .move (.event (.turn .listener))]

/-- A pause of more than thirty years is cut short. -/
theorem not_forall_spaced : ¬∀ (retry : Nat) (s : Shift), Listener.Fresh retry s.desk →
    ∀ list, (Listener.times (history s list)).IsChain fun time next ↦ time + retry ≤ next := by
  intro h
  have hspaced := h 946080005000 (lone 946080005000 1) (Listener.fresh_listening ..) generation
  have htimes : Listener.times (history (lone 946080005000 1) generation) = [0, 946080000000] := rfl
  rw [htimes] at hspaced
  exact absurd hspaced (by decide)

/-- Whatever happens, and in whatever order, the record says that there is a stream if the listener
holds one; if it does not, the record says so unless a stop has ended a session. -/
theorem listenerLive_beats_iff {retry : Nat} {s : Shift} (fresh : Listener.Fresh retry s.desk)
    (list : List Beat) :
    ((s.beats list).desk.health.listenerLive = true ↔
        Listener.IsLive (s.beats list).desk ∨ .closed ∈ history s list) ∧
      (.closed ∈ history s list → ¬Listener.IsLive (s.beats list).desk) :=
  (kept_beats (Listener.kept_of_fresh fresh) list).listenerLive_iff

/-- A stream is opened, and a stop ends the session. -/
def dismissal : List Beat :=
  [.move (.event (.turn .listener)), .move (.event .trigger), .move (.event (.turn .listener))]

theorem listenerLive_beats_iff_dismissal :
    let past := history (lone 3000 0) dismissal
    let d := ((lone 3000 0).beats dismissal).desk
    Listener.Fresh 3000 (lone 3000 0).desk ∧ past = [.tried 0, .joined, .closed] ∧
      (d.health.listenerLive = true ↔ Listener.IsLive d ∨ .closed ∈ past) ∧
      (.closed ∈ past → ¬Listener.IsLive d) :=
  ⟨Listener.fresh_listening .., rfl, listenerLive_beats_iff (Listener.fresh_listening ..) dismissal⟩

/-- Once a stop has ended a session, the record goes on saying that there is a stream. -/
theorem not_forall_isLive : ¬∀ (retry : Nat) (s : Shift), Listener.Fresh retry s.desk →
    ∀ list, (s.beats list).desk.health.listenerLive = true ↔
      Listener.IsLive (s.beats list).desk := by
  intro h
  have hlive : ((lone 3000 0).beats dismissal).desk.health.listenerLive = true := rfl
  have hphase : ((lone 3000 0).beats dismissal).desk.listener.phase = .ended := rfl
  obtain ⟨i, hsession, -⟩ :=
    (h 3000 (lone 3000 0) (Listener.fresh_listening ..) dismissal).mp hlive
  cases hphase.symm.trans hsession

end Shift

end ReviewDesk
