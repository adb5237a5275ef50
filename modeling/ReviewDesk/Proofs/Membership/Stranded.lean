import ReviewDesk.Proofs.Membership.Rounds
import ReviewDesk.Proofs.Onset

/-!
Who is let in. A request to join is answered on the channel that is configured, but what is tracked
may still be about the one before. An approval that comes in between strands its reviewer on the
channel before: they are tracked there as allowed without being inside (`stranded_happen_iff`).
After a pass, everybody else who is allowed is inside (`inside_iff_not_strayed`).
-/

set_option autoImplicit false
set_option relaxedAutoImplicit false

namespace ReviewDesk.Membership

/-- A reviewer is tracked as allowed on a channel where they are not inside. -/
structure Stranded (channel : ChannelId) (reviewer : ReviewerId) (d : Desk) : Prop where
  tracked : d.access.tracked.channel = some channel
  allowed : d.access.tracked.rights.get? reviewer = some true
  outside : standing (log d) channel reviewer ≠ some true

theorem stranded_iff {channel : ChannelId} {reviewer : ReviewerId} {d : Desk} :
    Stranded channel reviewer d ↔ d.access.tracked.channel = some channel ∧
      d.access.tracked.rights.get? reviewer = some true ∧
      standing (log d) channel reviewer ≠ some true :=
  ⟨fun h ↦ ⟨h.tracked, h.allowed, h.outside⟩, fun ⟨h₁, h₂, h₃⟩ ↦ ⟨h₁, h₂, h₃⟩⟩

/-- A request of somebody who is not inside is approved on another channel than the last pass was
over. -/
def Strays (channel : ChannelId) (reviewer : ReviewerId) (d : Desk) (event : Event) : Prop :=
  event ≠ .join channel reviewer ∧ Answers reviewer true d event ∧
    d.access.tracked.channel = some channel ∧ standing (log d) channel reviewer ≠ some true

/-- A pass is over some other channel or finds the reviewer not allowed, or a request of theirs is
declined, or approved on this channel. -/
def Returns (channel : ChannelId) (reviewer : ReviewerId) (d : Desk) (event : Event) : Prop :=
  event = .sync ∧ (channel? d ≠ some channel ∨ (table d).get? reviewer ≠ some true) ∨
    Answers reviewer false d event ∨ event = .join channel reviewer ∧ Answers reviewer true d event

def Strayed (d : Desk) (events : List Event) (channel : ChannelId) (reviewer : ReviewerId) : Prop :=
  Since happen (Strays channel reviewer) (Returns channel reviewer) d events

section Smooth

variable {d : Desk} (plain : d.outside.Plain) (faultless : d.outside.platform.memberFaults = [])
  {channel : ChannelId} {reviewer : ReviewerId} (covers : d.access.duty.Covers reviewer)
include plain faultless covers

theorem stranded_sync_iff : Stranded channel reviewer (happen d .sync) ↔
    Stranded channel reviewer d ∧ channel? d = some channel ∧
      (table d).get? reviewer = some true := by
  rw [stranded_iff, stranded_iff, channel_tracked_sync plain]
  by_cases hchannel : channel? d = some channel
  · rw [get?_tracked_sync plain hchannel covers, standing_sync plain faultless covers hchannel]
    by_cases hallowed : (table d).get? reviewer = some true
    · rw [Rights.allows_iff.mpr hallowed, hallowed]
      simp only [true_and, ne_eq, Tracked.get?_known_eq_some_iff, hchannel, and_true]
      split_ifs <;> tauto
    · simp [hallowed]
  · simp [hchannel]

theorem stranded_happen_iff (event : Event) : Stranded channel reviewer (happen d event) ↔
    Strays channel reviewer d event ∨
      Stranded channel reviewer d ∧ ¬Returns channel reviewer d event := by
  by_cases hpass : event = .sync
  · subst hpass
    have hnever : ∀ right, ¬Answers reviewer right d .sync := by
      rintro right ⟨_, heq, -⟩
      cases heq
    rw [stranded_sync_iff plain faultless covers]
    simp [Strays, Returns, hnever]
  · rw [stranded_iff, channel_tracked_happen plain hpass, get?_tracked_happen plain hpass covers,
      Bool.not_true, ne_eq, inside_happen_iff plain faultless covers hpass, stranded_iff, Strays,
      Returns]
    tauto

end Smooth

theorem inside_iff_not_strayed {d : Desk} (fresh : Fresh d) {events : List Event}
    {channel : ChannelId} (reports : Reports (run d events) channel) {reviewer : ReviewerId}
    (covers : d.access.duty.Covers reviewer) (allowed : (table (run d events)).allows reviewer) :
    standing (log (run d (events ++ [.sync]))) channel reviewer = some true ↔
      ¬Strayed d (events ++ [.sync]) channel reviewer := by
  have hstart : ¬Stranded channel reviewer d := by
    intro hstranded
    have htracked := hstranded.tracked
    rw [fresh.untracked] at htracked
    cases htracked
  have hstranded : Stranded channel reviewer (run d (events ++ [.sync])) ↔
      Strayed d (events ++ [.sync]) channel reviewer := by
    refine iff_since hstart fun before event rest _ ↦ ?_
    obtain ⟨hduty, hplain, hfaults⟩ := frame_run fresh.plain before
    exact stranded_happen_iff hplain (hfaults.trans fresh.faultless) (hduty ▸ covers) event
  obtain ⟨hduty, hplain, -⟩ := frame_run fresh.plain events
  have hchannel := (reports_iff hplain).mp reports
  have hheld : (run d (events ++ [.sync])).access.tracked.channel = some channel ∧
      (run d (events ++ [.sync])).access.tracked.rights.get? reviewer = some true := by
    rw [run_snoc, channel_tracked_sync hplain, get?_tracked_sync hplain hchannel (hduty ▸ covers)]
    exact ⟨hchannel, Rights.allows_iff.mp allowed⟩
  rw [← hstranded, stranded_iff, and_iff_right hheld.1, and_iff_right hheld.2, not_not]

/-- The channel moves on, a request is approved there, and the channel moves back. -/
def excursion (between : List Event) : List Event :=
  [.edit (.setChannel .deposit (some ⟨-1⟩)), .sync, .edit (.setChannel .deposit (some ⟨-2⟩)),
    .edit (.setRight .deposit ⟨7⟩ true), .join ⟨-2⟩ ⟨7⟩] ++ between ++
    [.edit (.setChannel .deposit (some ⟨-1⟩))]

theorem reports_excursion (between : List Event) :
    Reports (run lobby (excursion between)) ⟨-1⟩ := by
  refine (reports_iff (frame_run fresh_lobby.plain _).plain).mpr ?_
  rw [excursion, run_snoc]
  change (PerKind.set _ .deposit _).get (Membership.Duty.kind _) = _
  rw [PerKind.get_set]
  exact if_pos (congrArg Duty.kind (frame_run fresh_lobby.plain _).duty)

theorem not_strayed_excursion :
    Fresh lobby ∧ Reports (run lobby (excursion [.sync])) ⟨-1⟩ ∧ lobby.access.duty.Covers ⟨7⟩ ∧
      (table (run lobby (excursion [.sync]))).allows ⟨7⟩ ∧
      standing (log (run lobby (excursion [.sync] ++ [.sync]))) ⟨-1⟩ ⟨7⟩ = some true ∧
      ¬Strayed lobby (excursion [.sync] ++ [.sync]) ⟨-1⟩ ⟨7⟩ := by
  have hallowed : (table (run lobby (excursion [.sync]))).allows ⟨7⟩ := by decide +kernel
  have hinside :
      standing (log (run lobby (excursion [.sync] ++ [.sync]))) ⟨-1⟩ ⟨7⟩ = some true := by
    decide +kernel
  exact ⟨fresh_lobby, reports_excursion _, covers_lobby, hallowed, hinside,
    (inside_iff_not_strayed fresh_lobby (reports_excursion _) covers_lobby hallowed).mp hinside⟩

theorem not_forall_inside :
    ¬∀ (d : Desk) (events : List Event) (channel : ChannelId) (reviewer : ReviewerId), Fresh d →
      Reports (run d events) channel → d.access.duty.Covers reviewer →
        (table (run d events)).allows reviewer →
          standing (log (run d (events ++ [.sync]))) channel reviewer = some true := by
  intro hall
  have hinside := hall lobby (excursion []) ⟨-1⟩ ⟨7⟩ fresh_lobby (reports_excursion _) covers_lobby
    (by decide +kernel)
  exact absurd hinside (by decide +kernel)

end ReviewDesk.Membership
