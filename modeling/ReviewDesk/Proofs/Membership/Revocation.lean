import Mathlib.Data.List.Infix
import ReviewDesk.Proofs.Membership.Rounds
import ReviewDesk.Proofs.Onset

/-!
Revokes that are due. After a pass over the members of a channel, whoever it tracked as allowed and
who then loses the right has to go in the next one. What is tracked is overwritten by the answers to
requests to join, so the next pass still removes them exactly if their revoke was not forgotten: a
request of theirs was declined while they were on record, and none was approved since
(`removed_mem_passCalls_run_iff`).
-/

set_option autoImplicit false
set_option relaxedAutoImplicit false

namespace ReviewDesk.Membership

theorem removed_mem_passCalls_iff {d : Desk} (plain : d.outside.Plain) {channel : ChannelId}
    (h : channel? d = some channel) {reviewer : ReviewerId} :
    .member (.removed channel reviewer revokeReason) ∈ passCalls d ↔
      (d.access.tracked.known channel).get? reviewer ≠ (rights d).get? reviewer ∧
        (rights d).get? reviewer ≠ some true := by
  rw [passCalls, calls_pass_of_some plain _ h, ← rights, ← mem_revoke_plan]
  simp [Plan.operations]

/-- A pass over the members of a channel has just been completed. -/
def JustPassed (d : Desk) (channel : ChannelId) : Prop :=
  ∃ earlier : Desk, earlier.outside.Plain ∧ Reports earlier channel ∧ d = happen earlier .sync

section JustPassed

variable {d : Desk} {channel : ChannelId} (h : JustPassed d channel)
include h

theorem JustPassed.plain : d.outside.Plain := by
  obtain ⟨earlier, hplain, -, rfl⟩ := h
  exact (frame_happen hplain .sync).plain

theorem JustPassed.channel_tracked : d.access.tracked.channel = some channel := by
  obtain ⟨earlier, hplain, hreports, rfl⟩ := h
  rw [happen_sync_of_some hplain ((reports_iff hplain).mp hreports)]

/-- Only memberships that are looked after are tracked. -/
theorem JustPassed.covers {reviewer : ReviewerId}
    (hheld : d.access.tracked.rights.get? reviewer ≠ none) : d.access.duty.Covers reviewer := by
  obtain ⟨earlier, hplain, hreports, rfl⟩ := h
  rw [happen_sync_of_some hplain ((reports_iff hplain).mp hreports)] at hheld ⊢
  by_contra hcovers
  exact hheld (Duty.get?_rights_of_not_covers hcovers)

end JustPassed

/-- The revoke of a reviewer was forgotten: the table has them as not allowed, and a request of
theirs to join was declined for that, with none approved since. -/
def Forgotten (d : Desk) (events : List Event) (reviewer : ReviewerId) : Prop :=
  (table (run d events)).get? reviewer = some false ∧
    Since happen (Answers reviewer false) (Answers reviewer true) d events

section Passless

variable {d : Desk} (plain : d.outside.Plain) {events : List Event} (passless : .sync ∉ events)
include plain passless

theorem channel_tracked_run :
    (run d events).access.tracked.channel = d.access.tracked.channel := by
  induction events generalizing d with
  | nil => rfl
  | cons event events ih =>
    obtain ⟨hfirst, hrest⟩ := List.ne_and_not_mem_of_not_mem_cons passless
    exact (ih (frame_happen plain event).plain hrest).trans
      (channel_tracked_happen plain hfirst.symm)

theorem get?_tracked_run_ne_none {reviewer : ReviewerId} (covers : d.access.duty.Covers reviewer)
    (held : d.access.tracked.rights.get? reviewer ≠ none) :
    (run d events).access.tracked.rights.get? reviewer ≠ none := by
  induction events generalizing d with
  | nil => exact held
  | cons event events ih =>
    obtain ⟨hfirst, hrest⟩ := List.ne_and_not_mem_of_not_mem_cons passless
    obtain ⟨hduty, hplain, -⟩ := frame_happen plain event
    refine ih hplain hrest (hduty ▸ covers) ?_
    obtain ⟨allowed, hallowed⟩ := Option.ne_none_iff_exists'.mp held
    rw [Option.ne_none_iff_exists']
    by_cases hanswers : Answers reviewer (!allowed) d event
    · exact ⟨!allowed, (get?_tracked_happen plain hfirst.symm covers).mpr (Or.inl hanswers)⟩
    · exact ⟨allowed, (get?_tracked_happen plain hfirst.symm covers).mpr
        (Or.inr ⟨hallowed, hanswers⟩)⟩

theorem get?_tracked_run_eq_false_iff {reviewer : ReviewerId}
    (covers : d.access.duty.Covers reviewer)
    (held : d.access.tracked.rights.get? reviewer ≠ some false) :
    (run d events).access.tracked.rights.get? reviewer = some false ↔
      Since happen (Answers reviewer false) (Answers reviewer true) d events := by
  refine iff_since (p := fun d : Desk ↦ d.access.tracked.rights.get? reviewer = some false) held ?_
  intro before event rest hsplit
  obtain ⟨hduty, hplain, -⟩ := frame_run plain before
  refine get?_tracked_happen hplain ?_ (hduty ▸ covers)
  rintro rfl
  exact passless (by simp [hsplit])

end Passless

theorem removed_mem_passCalls_run_iff {d : Desk} {channel : ChannelId} (h : JustPassed d channel)
    {reviewer : ReviewerId} (held : d.access.tracked.rights.get? reviewer = some true)
    {events : List Event} (passless : .sync ∉ events)
    (stays : channel? (run d events) = some channel)
    (revoked : ¬(table (run d events)).allows reviewer) :
    .member (.removed channel reviewer revokeReason) ∈ passCalls (run d events) ↔
      ¬Forgotten d events reviewer := by
  have covers : d.access.duty.Covers reviewer := h.covers (by simp [held])
  obtain ⟨hduty, hplain, -⟩ := frame_run h.plain events
  have hknown : (run d events).access.tracked.known channel =
      (run d events).access.tracked.rights :=
    Tracked.known_of_channel ((channel_tracked_run h.plain passless).trans h.channel_tracked)
  have hrights : (rights (run d events)).get? reviewer = (table (run d events)).get? reviewer :=
    (show (run d events).access.duty.Covers reviewer from hduty ▸ covers).get?_rights
  have hheld := get?_tracked_run_ne_none h.plain passless covers (by simp [held])
  rw [removed_mem_passCalls_iff hplain stays, hknown, hrights, Forgotten,
    ← get?_tracked_run_eq_false_iff h.plain passless covers (by simp [held])]
  rw [Rights.allows_iff] at revoked
  -- What is tracked is either right, and the table has the reviewer as not allowed or not at all.
  generalize (run d events).access.tracked.rights.get? reviewer = held at hheld ⊢
  generalize (table (run d events)).get? reviewer = right at revoked ⊢
  rcases held with _ | _ | _ <;> rcases right with _ | _ | _ <;> simp_all

/-- A reviewer is let in on a channel. -/
def admitted : Desk :=
  run lobby [.edit (.setChannel .deposit (some ⟨-1⟩)), .edit (.setRight .deposit ⟨7⟩ true), .sync]

theorem justPassed_admitted : JustPassed admitted ⟨-1⟩ := by
  have hplain := fresh_lobby.plain
  refine ⟨run lobby [.edit (.setChannel .deposit (some ⟨-1⟩)),
    .edit (.setRight .deposit ⟨7⟩ true)], ?_, ?_, rfl⟩
  · exact (frame_run hplain _).plain
  · exact (reports_iff (frame_run hplain _).plain).mpr rfl

/-- A request is declined and the next one approved, both as the rights were at the time. -/
def wavering : List Event :=
  [.edit (.setRight .deposit ⟨7⟩ false), .join ⟨-1⟩ ⟨7⟩, .edit (.setRight .deposit ⟨7⟩ true),
    .join ⟨-1⟩ ⟨7⟩, .edit (.setRight .deposit ⟨7⟩ false)]

theorem removed_mem_passCalls_wavering :
    JustPassed admitted ⟨-1⟩ ∧ admitted.access.tracked.rights.get? ⟨7⟩ = some true ∧
      .sync ∉ wavering ∧ channel? (run admitted wavering) = some ⟨-1⟩ ∧
      ¬(table (run admitted wavering)).allows ⟨7⟩ ∧
      .member (.removed ⟨-1⟩ ⟨7⟩ revokeReason) ∈ passCalls (run admitted wavering) := by
  have hheld : admitted.access.tracked.rights.get? ⟨7⟩ = some true := by decide +kernel
  have hpassless : .sync ∉ wavering := by simp [wavering]
  have hstays : channel? (run admitted wavering) = some ⟨-1⟩ := by decide +kernel
  have hrevoked : ¬(table (run admitted wavering)).allows ⟨7⟩ := by decide +kernel
  refine ⟨justPassed_admitted, hheld, hpassless, hstays, hrevoked,
    (removed_mem_passCalls_run_iff justPassed_admitted hheld hpassless hstays hrevoked).mpr ?_⟩
  rintro ⟨-, hsince⟩
  have hdeclined := (get?_tracked_run_eq_false_iff justPassed_admitted.plain hpassless
    (justPassed_admitted.covers (by simp [hheld])) (by simp [hheld])).mpr hsince
  exact absurd hdeclined (by decide +kernel)

theorem not_forall_removed_mem_passCalls :
    ¬∀ (d : Desk) (channel : ChannelId) (reviewer : ReviewerId) (events : List Event),
      JustPassed d channel → d.access.tracked.rights.get? reviewer = some true →
        .sync ∉ events → (∀ before, before <+: events → channel? (run d before) = some channel) →
          ¬(table (run d events)).allows reviewer →
            .member (.removed channel reviewer revokeReason) ∈ passCalls (run d events) := by
  intro hall
  have hremoved := hall admitted ⟨-1⟩ ⟨7⟩ [.edit (.setRight .deposit ⟨7⟩ false), .join ⟨-1⟩ ⟨7⟩]
    justPassed_admitted (by decide +kernel) (by simp)
    (fun before hbefore ↦ by
      revert before
      simp only [← List.mem_inits]
      decide +kernel)
    (by decide +kernel)
  have hplain := (frame_run justPassed_admitted.plain
    [.edit (.setRight .deposit ⟨7⟩ false), .join ⟨-1⟩ ⟨7⟩]).plain
  have hchannel : channel? (run admitted [.edit (.setRight .deposit ⟨7⟩ false), .join ⟨-1⟩ ⟨7⟩]) =
      some ⟨-1⟩ := by decide +kernel
  rw [removed_mem_passCalls_iff hplain hchannel] at hremoved
  exact absurd hremoved (by decide +kernel)

end ReviewDesk.Membership
