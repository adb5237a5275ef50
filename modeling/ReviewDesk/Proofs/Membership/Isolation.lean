import Mathlib.Algebra.Order.Group.Multiset
import Mathlib.Data.Multiset.Filter
import ReviewDesk.Proofs.Membership.Incidents

/-!
Faults change nothing but what they hit. Everything that the access loop shows of itself but the
success of single operations follows from what it goes by (`transcript_eq`), and faults are no part
of that. What is done to members is what is asked for but what fails (`log_encounter`). Two runs
that differ in faults only therefore show the same all along, and do the same to whoever does not
fail (`isolated_undergo`).
-/

set_option autoImplicit false
set_option relaxedAutoImplicit false

namespace ReviewDesk

/-- What is settled about a pass before any of its operations is tried. -/
structure AccessReport.Outline where
  channel : Option ChannelId
  fullScan : Bool
  /-- Whom the pass operates on, whatever becomes of it. -/
  planned : Multiset ReviewerId

def AccessReport.outline (report : AccessReport) : Outline :=
  ⟨report.channel, report.fullScan, report.revoked ++ report.restored ++ report.failed⟩

namespace Membership

theorem outline_report (plan : Plan) (channel : ChannelId) (fails : ReviewerId → Bool) :
    (plan.report channel fails).outline =
      ⟨some channel, plan.fullScan, plan.revoke ++ plan.restore⟩ := by
  have hsplit (reviewers : List ReviewerId) :
      (reviewers.filter (!fails ·) : Multiset ReviewerId) + reviewers.filter fails = reviewers := by
    rw [add_comm, Multiset.coe_add]
    exact Multiset.coe_eq_coe.mpr (List.filter_append_perm fails reviewers)
  have hplanned : (plan.report channel fails).outline.planned = plan.revoke ++ plan.restore := by
    simp only [AccessReport.outline, Plan.report, ← Multiset.coe_add]
    rw [add_add_add_comm, hsplit, hsplit]
  exact congrArg (AccessReport.Outline.mk (some channel) plan.fullScan) hplanned

/-- A decision, or the outline of a report. -/
abbrev Gist : Type := Except Failure JoinDecision ⊕ Except Failure AccessReport.Outline

def Answer.gist : Answer → Gist
  | joined result => .inl result
  | synced result => .inr (result.map AccessReport.outline)

/-- What the access loop answers at an incident. -/
def answerAt (d : Desk) : Incident → Option Answer
  | .event (.join channel reviewer) => some (.joined (d.join channel reviewer).1)
  | .event .sync => some (.synced d.accessPass.1)
  | .tick => some (.synced d.accessTick.1)
  | .event (.edit _) | .fault .. => none

/-- What the access loop shows of itself at an incident. -/
structure Sight where
  calls : List Call
  gist : Option Gist
  /-- What is tracked afterwards. -/
  tracked : Tracked

def sight (d : Desk) (incident : Incident) : Sight :=
  ⟨callsAt d incident, (answerAt d incident).map Answer.gist, (encounter d incident).access.tracked⟩

/-- What is shown at each incident that is not a fault. -/
def transcript (d : Desk) : List Incident → List Sight
  | [] => []
  | incident :: incidents =>
    if incident.isFault then transcript (encounter d incident) incidents
    else sight d incident :: transcript (encounter d incident) incidents

/-- The operations that are asked for. -/
def asked (sights : List Sight) : List MembershipOp :=
  (sights.flatMap Sight.calls).filterMap Call.memberOp?

namespace Outlook

def outline (v : Outlook) : AccessReport.Outline :=
  match v.channel? with
  | some channel =>
    let plan := plan v.tracked v.rights channel
    ⟨some channel, plan.fullScan, plan.revoke ++ plan.restore⟩
  | none => ⟨none, false, 0⟩

def gist (v : Outlook) : Incident → Option Gist
  | .event (.join channel reviewer) => some (.inl (.ok
      (if v.channel? = some channel then v.duty.decision v.store reviewer else .ignored)))
  | .event .sync | .tick => some (.inr (.ok v.outline))
  | .event (.edit _) | .fault .. => none

def sight (v : Outlook) (incident : Incident) : Sight :=
  ⟨v.lookups incident ++ (v.asks incident).map .member, v.gist incident, (v.after incident).tracked⟩

def transcript (v : Outlook) : List Incident → List Sight
  | [] => []
  | incident :: incidents => v.sight incident :: (v.after incident).transcript incidents

end Outlook

section Plain

variable {d : Desk} (plain : d.outside.Plain)
include plain

theorem outline_accessPass :
    d.accessPass.1.map AccessReport.outline = .ok (outlook d).outline := by
  cases h : channel? d with
  | none =>
    have hchannel : (outlook d).channel? = none := h
    have hrun := run_pass_of_none plain d.access.tracked h
    simp only [Desk.accessPass, Desk.perform, hrun, Outlook.outline, hchannel]
    rfl
  | some channel =>
    have hchannel : (outlook d).channel? = some channel := h
    have hrun := run_pass_of_some plain d.access.tracked h
    simp only [Desk.accessPass, Desk.perform, hrun, Outlook.outline, hchannel, Except.map,
      outline_report]
    rfl

theorem sight_eq (incident : Incident) : sight d incident = (outlook d).sight incident := by
  have hgist : (answerAt d incident).map Answer.gist = (outlook d).gist incident := by
    rcases incident with (edit | ⟨channel, reviewer⟩ | _) | _ | ⟨reviewer, error⟩
    · rfl
    · exact congrArg (some ∘ Sum.inl) (result_join plain d.access.tracked channel reviewer)
    · exact congrArg (some ∘ Sum.inr) (outline_accessPass plain)
    · have hresult : d.accessTick.1 = d.accessPass.1 := by
        rw [Desk.accessTick]
        rcases d.accessPass with ⟨error | report, after⟩ <;> rfl
      rw [answerAt, hresult]
      exact congrArg (some ∘ Sum.inr) (outline_accessPass plain)
    · rfl
  have htracked : (encounter d incident).access.tracked = ((outlook d).after incident).tracked :=
    congrArg Outlook.tracked (outlook_encounter plain incident)
  rw [sight, callsAt_eq plain, hgist, htracked, Outlook.sight]

/-- What is shown follows from what the access loop goes by, and from what happens but faults. -/
theorem transcript_eq (incidents : List Incident) :
    transcript d incidents = (outlook d).transcript (incidents.filter (!·.isFault)) := by
  induction incidents generalizing d with
  | nil => rfl
  | cons incident incidents ih =>
    rw [transcript, ih (plain_encounter plain incident), outlook_encounter plain]
    split_ifs with hfault
    · obtain ⟨reviewer, error, rfl⟩ := Incident.exists_eq_fault hfault
      rw [List.filter_cons_of_neg (by simp [hfault]), Outlook.after]
    · rw [List.filter_cons_of_pos (by simp [hfault]), sight_eq plain, Outlook.transcript]

/-! ### What is done to members -/

/-- Of what is asked for at an incident, everything is done but what fails. -/
theorem log_encounter (incident : Incident) : log (encounter d incident) =
    log d ++ ((outlook d).asks incident).filter (!d.outside.platform.fails ·.reviewer) := by
  have hnothing : log d = log d ++ [].filter (!d.outside.platform.fails ·.reviewer) :=
    (List.append_nil _).symm
  have henact : ∀ ops, (d.outside.enact ops).platform.membership =
      log d ++ ops.filter (!d.outside.platform.fails ·.reviewer) := by
    intro ops
    rw [Outside.enact, Platform.enact_eq]
    rfl
  rcases incident with (edit | ⟨channel, reviewer⟩ | _) | _ | ⟨reviewer, error⟩
  · exact hnothing
  · rw [encounter, happen_join_eq plain]
    exact henact _
  · rw [encounter, happen_sync_eq plain]
    exact henact _
  · obtain ⟨health, hencounter⟩ := exists_encounter_tick d
    rw [hencounter, happen_sync_eq plain]
    exact henact _
  · exact hnothing

theorem fails_encounter {reviewer : ReviewerId} (h : d.outside.platform.fails reviewer = true)
    (incident : Incident) : (encounter d incident).outside.platform.fails reviewer = true := by
  rw [Platform.fails] at h ⊢
  cases incident with
  | event event => rwa [encounter, (frame_happen plain event).memberFaults]
  | tick =>
    obtain ⟨health, hencounter⟩ := exists_encounter_tick d
    rw [hencounter]
    rwa [← (frame_happen plain .sync).memberFaults] at h
  | fault other error =>
    rw [encounter, Platform.failMember, List.any_cons, h, Bool.or_true]

theorem fails_undergo {reviewer : ReviewerId} (h : d.outside.platform.fails reviewer = true)
    (incidents : List Incident) :
    (undergo d incidents).outside.platform.fails reviewer = true := by
  induction incidents generalizing d with
  | nil => exact h
  | cons incident incidents ih =>
    exact ih (plain_encounter plain incident) (fails_encounter plain h incident)

theorem asked_transcript_cons (incident : Incident) (incidents : List Incident) :
    asked (transcript d (incident :: incidents)) =
      (outlook d).asks incident ++ asked (transcript (encounter d incident) incidents) := by
  rw [transcript]
  split_ifs with hfault
  · obtain ⟨reviewer, error, rfl⟩ := Incident.exists_eq_fault hfault
    rfl
  · rw [asked, List.flatMap_cons, List.filterMap_append, sight, filterMap_callsAt plain, asked]

/-- Of what is asked for, all is done that is on somebody who does not fail. -/
theorem filter_log_encounter (incident : Incident) {keep : MembershipOp → Bool}
    (hkeep : ∀ op, keep op → d.outside.platform.fails op.reviewer = false) :
    (log (encounter d incident)).filter keep =
      (log d).filter keep ++ ((outlook d).asks incident).filter keep := by
  have hall : ∀ op, (keep op && !d.outside.platform.fails op.reviewer) = keep op := by
    intro op
    cases hop : keep op with
    | false => rfl
    | true => rw [hkeep op hop, Bool.not_false, Bool.and_true]
  rw [log_encounter plain, List.filter_append, List.filter_filter]
  simp only [hall]

theorem filter_log_undergo (incidents : List Incident) {keep : MembershipOp → Bool}
    (hkeep : ∀ op, keep op → (undergo d incidents).outside.platform.fails op.reviewer = false) :
    (log (undergo d incidents)).filter keep =
      (log d).filter keep ++ (asked (transcript d incidents)).filter keep := by
  induction incidents generalizing d with
  | nil => exact (List.append_nil _).symm
  | cons incident incidents ih =>
    -- Who does not fail in the end has never failed.
    have hnow : ∀ op, keep op → d.outside.platform.fails op.reviewer = false := by
      intro op hop
      rw [← Bool.not_eq_true]
      intro hfails
      have hend := fails_undergo plain hfails (incident :: incidents)
      rw [hkeep op hop] at hend
      cases hend
    rw [undergo, List.foldl_cons, ← undergo, ih (plain_encounter plain incident) hkeep,
      filter_log_encounter plain incident hnow, asked_transcript_cons plain, List.filter_append,
      List.append_assoc]

end Plain

/-- An operation is on somebody who fails neither here nor there. -/
def untroubled (d d' : Desk) (op : MembershipOp) : Bool :=
  !d.outside.platform.fails op.reviewer && !d'.outside.platform.fails op.reviewer

/-- Two histories show the same, and do the same to whoever fails in neither of them. -/
structure Isolated (d : Desk) (first second : List Incident) : Prop where
  shown : transcript d first = transcript d second
  done : (log (undergo d first)).filter (untroubled (undergo d first) (undergo d second)) =
    (log (undergo d second)).filter (untroubled (undergo d first) (undergo d second))

theorem isolated_undergo {d : Desk} (plain : d.outside.Plain) {first second : List Incident}
    (h : first.filter (!·.isFault) = second.filter (!·.isFault)) : Isolated d first second := by
  have hshown : transcript d first = transcript d second := by
    rw [transcript_eq plain, transcript_eq plain, h]
  refine ⟨hshown, ?_⟩
  rw [filter_log_undergo plain first, filter_log_undergo plain second, hshown]
  · intro op hop
    rw [untroubled, Bool.and_eq_true, Bool.not_eq_true', Bool.not_eq_true'] at hop
    exact hop.2
  · intro op hop
    rw [untroubled, Bool.and_eq_true, Bool.not_eq_true', Bool.not_eq_true'] at hop
    exact hop.1

/-- Of two reviewers who are let in, one loses the right and asks to join, and the other leaves the
table. -/
def comings : List Incident :=
  [.event (.edit (.setRight .deposit ⟨7⟩ true)), .event (.edit (.setRight .deposit ⟨8⟩ true)),
    .event .sync, .event (.edit (.setRight .deposit ⟨7⟩ false)), .event (.join ⟨-1⟩ ⟨7⟩), .tick,
    .event (.edit (.removeReviewer .deposit ⟨8⟩)), .event .sync]

theorem isolated_comings :
    Isolated opened comings (.fault ⟨7⟩ (.rateLimited 2) :: comings) ∧
      log (undergo opened comings) ≠
        log (undergo opened (.fault ⟨7⟩ (.rateLimited 2) :: comings)) :=
  ⟨isolated_undergo fresh_opened.plain rfl, by decide +kernel⟩

end Membership

end ReviewDesk
