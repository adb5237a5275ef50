import ReviewDesk.Proofs.Membership.Pass

/-!
What one pass over the members of a channel comes to while the operations on some reviewers fail.
Whoever is planned for and does not fail is in the log of the platform exactly once, and whoever is
planned for at all is in the report exactly once (`Plan.reviewers_report_perm`). What is tracked
moves on to the table that was read, whatever failed. A pass for which no channel is configured does
nothing and forgets what was tracked, so that the next one over a channel starts over
(`outcome_pass`).
-/

set_option autoImplicit false
set_option relaxedAutoImplicit false

namespace ReviewDesk

/-- Whoever is mentioned in a report. -/
def AccessReport.reviewers (report : AccessReport) : List ReviewerId :=
  report.revoked ++ report.restored ++ report.failed

namespace Membership

section Plan

variable (plan : Plan) (channel : ChannelId) (fails : ReviewerId → Bool)

theorem Plan.filter_operations :
    (plan.operations channel).filter (!fails ·.reviewer) =
      (plan.revoke.filter (!fails ·)).map (.removed channel · revokeReason) ++
        (plan.restore.filter (!fails ·)).map (.unblocked channel ·) := by
  rw [operations, List.filter_append, List.filter_map, List.filter_map]
  rfl

/-- Nobody gets lost between those a plan succeeds for and those it fails for. -/
theorem Plan.reviewers_report_perm :
    (plan.report channel fails).reviewers.Perm (plan.revoke ++ plan.restore) := by
  have hsplit : (plan.report channel fails).reviewers =
      (plan.revoke ++ plan.restore).filter (!fails ·) ++
        (plan.revoke ++ plan.restore).filter fails := by
    rw [List.filter_append, List.filter_append]
    rfl
  rw [hsplit]
  exact List.perm_append_comm.trans (List.filter_append_perm fails _)

theorem Plan.mem_reviewers_report {reviewer : ReviewerId} :
    reviewer ∈ (plan.report channel fails).reviewers ↔ reviewer ∈ plan.revoke ++ plan.restore :=
  (plan.reviewers_report_perm channel fails).mem_iff

end Plan

/-- What a pass comes to that carries out a plan on a channel: its report, what it leaves tracked,
and the outside after it. -/
structure Outcome (planned : Plan) (duty : Duty) (channel : ChannelId) (o : Outside)
    (report : AccessReport) (left : Tracked) (after : Outside) : Prop where
  ascending : planned.revoke.Pairwise (· < ·) ∧ planned.restore.Pairwise (· < ·)
  membership : after.platform.membership = o.platform.membership ++
    ((planned.revoke.filter (!o.platform.fails ·)).map (.removed channel · revokeReason) ++
      (planned.restore.filter (!o.platform.fails ·)).map (.unblocked channel ·))
  /-- Nothing else has changed outside. -/
  frame : after =
    { o with platform := { o.platform with membership := after.platform.membership } }
  channel_report : report.channel = some channel
  fullScan_report : report.fullScan = planned.fullScan
  revoked : report.revoked = planned.revoke.filter (!o.platform.fails ·)
  restored : report.restored = planned.restore.filter (!o.platform.fails ·)
  failed : report.failed =
    planned.revoke.filter o.platform.fails ++ planned.restore.filter o.platform.fails
  perm : report.reviewers.Perm (planned.revoke ++ planned.restore)
  nodup : report.reviewers.Nodup
  get?_left : ∀ reviewer, left.rights.get? reviewer =
    if duty.Covers reviewer then (o.store.rights.get duty.kind).get? reviewer else none
  channel_left : left.channel = some channel

/-- What a pass comes to for which no channel is configured. -/
structure Lapse (duty : Duty) (tracked : Tracked) (o : Outside) : Prop where
  run : (pass duty tracked).run o = ((.ok {}, {}), o)
  calls : (pass duty tracked).calls o = [.resolveChannel duty.kind]
  /-- The next pass over a channel starts over, and touches everybody whose membership is looked
  after. -/
  anew : ∀ later : Outside, later.Plain → ∀ channel,
    later.store.channel? duty.kind = some channel → ∃ report left after,
      (pass duty ((pass duty tracked).run o).1.2).run later = ((.ok report, left), after) ∧
        report.fullScan = true ∧
        ∀ reviewer, reviewer ∈ report.reviewers ↔ (duty.rights later.store).get? reviewer ≠ none

section Pass

variable {o : Outside} (plain : o.Plain) (duty : Duty) (tracked : Tracked)
include plain

theorem exists_outcome {channel : ChannelId} (h : o.store.channel? duty.kind = some channel) :
    ∃ report left after, (pass duty tracked).run o = ((.ok report, left), after) ∧
      Outcome (plan tracked (duty.rights o.store) channel) duty channel o report left after := by
  have hmembership : ∀ plan : Plan, (o.enact (plan.operations channel)).platform.membership =
      o.platform.membership ++
        ((plan.revoke.filter (!o.platform.fails ·)).map (.removed channel · revokeReason) ++
          (plan.restore.filter (!o.platform.fails ·)).map (.unblocked channel ·)) := by
    intro plan
    rw [Outside.enact, Platform.enact_eq, Plan.filter_operations]
  refine ⟨_, _, _, run_pass_of_some plain tracked h, ?_⟩
  constructor
  case ascending => exact ⟨pairwise_revoke_plan _ _ _, pairwise_restore_plan _ _ _⟩
  case membership => exact hmembership _
  case frame => rw [Outside.enact, Platform.enact_eq]
  case channel_report => rfl
  case fullScan_report => rfl
  case revoked => rfl
  case restored => rfl
  case failed => rfl
  case perm => exact Plan.reviewers_report_perm _ _ _
  case nodup => exact (Plan.reviewers_report_perm _ _ _).nodup_iff.mpr (nodup_plan _ _ _)
  case get?_left => exact duty.get?_rights o.store
  case channel_left => rfl

theorem lapse_of_none (h : o.store.channel? duty.kind = none) : Lapse duty tracked o where
  run := run_pass_of_none plain tracked h
  calls := calls_pass_of_none plain tracked h
  anew := by
    intro later hlater channel hchannel
    rw [run_pass_of_none plain tracked h]
    refine ⟨_, _, _, run_pass_of_some hlater {} hchannel, fullScan_plan.mpr (by simp), ?_⟩
    intro reviewer
    have hknown : (({} : Tracked).known channel).get? reviewer = none := by
      rw [Tracked.known_of_ne (by simp), Rights.get?_empty]
    rw [Plan.mem_reviewers_report, mem_plan, hknown, ne_comm]

theorem outcome_pass :
    (∀ channel, o.store.channel? duty.kind = some channel → ∃ report left after,
      (pass duty tracked).run o = ((.ok report, left), after) ∧
        Outcome (plan tracked (duty.rights o.store) channel) duty channel o report left after) ∧
      (o.store.channel? duty.kind = none → Lapse duty tracked o) :=
  ⟨fun _ h ↦ exists_outcome plain duty tracked h, lapse_of_none plain duty tracked⟩

end Pass

/-- On the table of deposits there are the super reviewer, a number that belongs to nobody, and
three more; the operations on one of these fail. There is no channel for anything else. -/
def understaffed : Outside where
  store :=
    { noticeChannel := "reviews"
      channels := ⟨some ⟨-1⟩, none⟩
      rights := ⟨.ofList [(⟨1⟩, false), (⟨0⟩, false), (⟨4⟩, false), (⟨5⟩, false), (⟨6⟩, true)],
        .empty⟩ }
  platform := { memberFaults := [(⟨4⟩, .rateLimited 2)] }

/-- Before, two were allowed who no longer are on the table or no longer may review. -/
def wellStaffed : Tracked := ⟨.ofList [(⟨4⟩, true), (⟨9⟩, true)], some ⟨-1⟩⟩

theorem outcome_pass_understaffed :
    understaffed.Plain ∧ understaffed.store.channel? .deposit = some ⟨-1⟩ ∧
      understaffed.store.channel? .kyc = none ∧
      (∃ report left after,
        (pass ⟨.deposit, some ⟨1⟩⟩ wellStaffed).run understaffed = ((.ok report, left), after) ∧
          report.revoked = [⟨5⟩, ⟨9⟩] ∧ report.restored = [⟨6⟩] ∧ report.failed = [⟨4⟩] ∧
          left.rights.get? ⟨4⟩ = some false ∧ left.rights.get? ⟨1⟩ = none) ∧
      Lapse ⟨.kyc, some ⟨1⟩⟩ wellStaffed understaffed := by
  have hplain : understaffed.Plain := ⟨rfl, rfl⟩
  obtain ⟨hdeposit, -⟩ := outcome_pass hplain ⟨.deposit, some ⟨1⟩⟩ wellStaffed
  obtain ⟨-, hkyc⟩ := outcome_pass hplain ⟨.kyc, some ⟨1⟩⟩ wellStaffed
  obtain ⟨report, left, after, hrun, houtcome⟩ := hdeposit ⟨-1⟩ rfl
  refine ⟨hplain, rfl, rfl, ⟨report, left, after, hrun, ?_, ?_, ?_, ?_, ?_⟩, hkyc rfl⟩
  · exact houtcome.revoked.trans (by decide +kernel)
  · exact houtcome.restored.trans (by decide +kernel)
  · exact houtcome.failed.trans (by decide +kernel)
  · exact (houtcome.get?_left _).trans (by decide +kernel)
  · exact (houtcome.get?_left _).trans (by decide +kernel)

end Membership

end ReviewDesk
