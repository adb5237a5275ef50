import ReviewDesk.Proofs.Membership.Rounds
import ReviewDesk.Proofs.Onset

/-!
Who keeps access. A pass over the members of a channel that was not looked after in between goes by
the rights table alone. Whoever was let in there before and is no longer on the table is overlooked,
and stays so while they are not put on it. Nobody else keeps access without being allowed
(`allows_or_overlooked`).
-/

set_option autoImplicit false
set_option relaxedAutoImplicit false

namespace ReviewDesk.Membership

/-- A pass comes back to a channel where a reviewer was let in before and finds them on no table. -/
def Overlooks (channel : ChannelId) (reviewer : ReviewerId) (d : Desk) (event : Event) : Prop :=
  event = .sync ∧ channel? d = some channel ∧ d.access.tracked.channel ≠ some channel ∧
    standing (log d) channel reviewer = some true ∧ (table d).get? reviewer = none

/-- A pass is over some other channel, or finds the reviewer on the table. -/
def Reconsiders (channel : ChannelId) (reviewer : ReviewerId) (d : Desk) (event : Event) : Prop :=
  event = .sync ∧ (channel? d ≠ some channel ∨ (table d).get? reviewer ≠ none)

def Overlooked (d : Desk) (events : List Event) (channel : ChannelId) (reviewer : ReviewerId) :
    Prop :=
  Since happen (Overlooks channel reviewer) (Reconsiders channel reviewer) d events

/-- A pass leaves somebody inside who is not allowed only if it does nothing about them. -/
theorem unchanged_of_inside {d : Desk} (plain : d.outside.Plain)
    (faultless : d.outside.platform.memberFaults = []) {channel : ChannelId}
    {reviewer : ReviewerId} (covers : d.access.duty.Covers reviewer)
    (h : channel? d = some channel) (revoked : (table d).get? reviewer ≠ some true)
    (inside : standing (log (happen d .sync)) channel reviewer = some true) :
    (d.access.tracked.known channel).get? reviewer = (table d).get? reviewer ∧
      standing (log d) channel reviewer = some true := by
  rw [standing_sync plain faultless covers h] at inside
  have hsame : (d.access.tracked.known channel).get? reviewer = (table d).get? reviewer := by
    by_contra hdiffers
    rw [if_pos ⟨rfl, hdiffers⟩, Option.some_inj, Rights.allows_iff] at inside
    exact revoked inside
  exact ⟨hsame, by rwa [if_neg fun hboth ↦ hboth.2 hsame] at inside⟩

/-- Whoever is inside is tracked as allowed, or is not tracked and was overlooked. -/
theorem tracked_or_overlooked {d : Desk} (fresh : Fresh d) {events : List Event}
    (joinless : ∀ channel reviewer, .join channel reviewer ∉ events) {channel : ChannelId}
    {reviewer : ReviewerId} (covers : d.access.duty.Covers reviewer)
    (looks : (run d events).access.tracked.channel = some channel)
    (inside : standing (log (run d events)) channel reviewer = some true) :
    (run d events).access.tracked.rights.get? reviewer = some true ∨
      (run d events).access.tracked.rights.get? reviewer = none ∧
        Overlooked d events channel reviewer := by
  induction events using List.reverseRecOn with
  | nil =>
    change standing (log d) channel reviewer = some true at inside
    rw [fresh.untouched] at inside
    cases inside
  | append_singleton events event ih =>
    obtain ⟨hduty, hplain, hfaults⟩ := frame_run fresh.plain events
    rw [fresh.faultless] at hfaults
    rw [← hduty] at covers
    have hearlier := ih fun channel reviewer hmem ↦
      joinless channel reviewer (List.mem_append_left _ hmem)
    rw [run_snoc] at looks inside ⊢
    cases event with
    | edit edit =>
      refine (hearlier looks inside).imp id fun ⟨hnone, hsince⟩ ↦ ⟨hnone, hsince.kept ?_⟩
      rintro ⟨heq, -⟩
      cases heq
    | join other who =>
      exact absurd (List.mem_append_right _ List.mem_cons_self) (joinless other who)
    | sync =>
      rw [channel_tracked_sync hplain] at looks
      rw [get?_tracked_sync hplain looks covers]
      by_cases hallowed : (table (run d events)).get? reviewer = some true
      · exact Or.inl hallowed
      · obtain ⟨hsame, hinside⟩ := unchanged_of_inside hplain hfaults covers looks hallowed inside
        by_cases hback : (run d events).access.tracked.channel = some channel
        · rw [Tracked.known_of_channel hback] at hsame
          rcases hearlier hback hinside with hheld | ⟨hnone, hsince⟩
          · exact absurd (hsame ▸ hheld) hallowed
          · refine Or.inr ⟨hsame ▸ hnone, hsince.kept ?_⟩
            rintro ⟨-, hother | hlisted⟩
            · exact hother looks
            · exact hlisted (hsame ▸ hnone)
        · rw [Tracked.known_of_ne hback, Rights.get?_empty] at hsame
          exact Or.inr ⟨hsame.symm, .begun ⟨rfl, looks, hback, hinside, hsame.symm⟩⟩

theorem allows_or_overlooked {d : Desk} (fresh : Fresh d) {events : List Event}
    (joinless : ∀ channel reviewer, .join channel reviewer ∉ events) {channel : ChannelId}
    (reports : Reports (run d events) channel) {reviewer : ReviewerId}
    (covers : d.access.duty.Covers reviewer)
    (inside : standing (log (run d (events ++ [.sync]))) channel reviewer = some true) :
    (table (run d events)).allows reviewer ∨
      Overlooked d (events ++ [.sync]) channel reviewer := by
  obtain ⟨hduty, hplain, -⟩ := frame_run fresh.plain events
  have hchannel := (reports_iff hplain).mp reports
  have hlooks : (run d (events ++ [.sync])).access.tracked.channel = some channel := by
    rw [run_snoc, channel_tracked_sync hplain, hchannel]
  have hjoinless : ∀ channel reviewer, .join channel reviewer ∉ events ++ [.sync] := by
    simpa using joinless
  rw [Rights.allows_iff, ← get?_tracked_sync hplain hchannel (hduty ▸ covers), ← run_snoc]
  exact (tracked_or_overlooked fresh hjoinless covers hlooks inside).imp id And.right

/-- The channel is given up, the reviewer taken off the table, and the channel taken up again. -/
def detour : List Event :=
  [.edit (.setChannel .deposit (some ⟨-1⟩)), .edit (.setRight .deposit ⟨7⟩ true), .sync,
    .edit (.setChannel .deposit none), .sync, .edit (.removeReviewer .deposit ⟨7⟩),
    .edit (.setChannel .deposit (some ⟨-1⟩))]

theorem reports_detour : Reports (run lobby detour) ⟨-1⟩ :=
  (reports_iff (frame_run fresh_lobby.plain _).plain).mpr (by decide +kernel)

theorem overlooked_detour :
    Fresh lobby ∧ (∀ channel reviewer, .join channel reviewer ∉ detour) ∧
      Reports (run lobby detour) ⟨-1⟩ ∧ lobby.access.duty.Covers ⟨7⟩ ∧
      standing (log (run lobby (detour ++ [.sync]))) ⟨-1⟩ ⟨7⟩ = some true ∧
      Overlooked lobby (detour ++ [.sync]) ⟨-1⟩ ⟨7⟩ := by
  have hjoinless : ∀ channel reviewer, .join channel reviewer ∉ detour := by simp [detour]
  have hinside : standing (log (run lobby (detour ++ [.sync]))) ⟨-1⟩ ⟨7⟩ = some true := by
    decide +kernel
  exact ⟨fresh_lobby, hjoinless, reports_detour, covers_lobby, hinside,
    (allows_or_overlooked fresh_lobby hjoinless reports_detour covers_lobby hinside).resolve_left
      (by decide +kernel)⟩

theorem not_forall_allows :
    ¬∀ (d : Desk) (events : List Event) (channel : ChannelId) (reviewer : ReviewerId), Fresh d →
      (∀ channel reviewer, .join channel reviewer ∉ events) → Reports (run d events) channel →
        d.access.duty.Covers reviewer →
          standing (log (run d (events ++ [.sync]))) channel reviewer = some true →
            (table (run d events)).allows reviewer := by
  intro hall
  have hallows := hall lobby detour ⟨-1⟩ ⟨7⟩ fresh_lobby (by simp [detour]) reports_detour
    covers_lobby (by decide +kernel)
  exact absurd hallows (by decide +kernel)

end ReviewDesk.Membership
