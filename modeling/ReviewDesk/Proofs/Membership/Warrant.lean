import ReviewDesk.Proofs.Membership.Incidents
import ReviewDesk.Proofs.Onset

/-!
What every touch rests on. Only memberships that are looked after are tracked, and only while a pass
or an answered request found the reviewer on the table (`contains_tracked_iff`). Whoever a pass
removes or lets in is tracked or on the table, so nobody is touched who was never on it, whatever
requests they made and whatever failed (`warranted_undergo`).
-/

set_option autoImplicit false
set_option relaxedAutoImplicit false

namespace ReviewDesk.Membership

/-- A pass over a channel finds a reviewer on the table, or a request of theirs to join is answered
while they are on it. -/
def Enrols (reviewer : ReviewerId) (d : Desk) (incident : Incident) : Prop :=
  (table d).contains reviewer ∧ (incident.isPass ∧ channel? d ≠ none ∨
    ∃ channel, incident = .event (.join channel reviewer) ∧ channel? d = some channel)

/-- A reviewer was on the table at the last pass, or at a request of theirs since then. -/
def Enrolled (d : Desk) (incidents : List Incident) (reviewer : ReviewerId) : Prop :=
  Since encounter (Enrols reviewer) (fun _ incident ↦ incident.isPass) d incidents

theorem contains_rights_iff {d : Desk} {reviewer : ReviewerId} :
    (rights d).get? reviewer ≠ none ↔
      d.access.duty.Covers reviewer ∧ (table d).contains reviewer := by
  rw [get?_rights, Rights.contains_eq_isSome, Option.isSome_iff_ne_none]
  split_ifs with hcovers <;> simp [hcovers]

theorem get?_after_ne_none_iff (v : Outlook) (incident : Incident) (reviewer : ReviewerId) :
    (v.after incident).tracked.rights.get? reviewer ≠ none ↔
      (v.rights.get? reviewer ≠ none ∧ (incident.isPass ∧ v.channel? ≠ none ∨
        ∃ channel, incident = .event (.join channel reviewer) ∧ v.channel? = some channel)) ∨
      v.tracked.rights.get? reviewer ≠ none ∧ ¬incident.isPass := by
  rcases incident with (edit | ⟨channel, who⟩ | _) | _ | ⟨who, error⟩
  · simp [Outlook.after, Incident.isPass]
  · simp [Outlook.after, Incident.isPass, Outlook.get?_joined_ne_none_iff]
  · simp [Outlook.after, Incident.isPass, Outlook.get?_passed_ne_none_iff]
  · simp [Outlook.after, Incident.isPass, Outlook.get?_passed_ne_none_iff]
  · simp [Outlook.after, Incident.isPass]

theorem tracked_encounter_iff {d : Desk} (plain : d.outside.Plain) (reviewer : ReviewerId)
    (incident : Incident) : (encounter d incident).access.tracked.rights.get? reviewer ≠ none ↔
      (d.access.duty.Covers reviewer ∧ Enrols reviewer d incident) ∨
        d.access.tracked.rights.get? reviewer ≠ none ∧ ¬incident.isPass := by
  have htracked : (encounter d incident).access.tracked = ((outlook d).after incident).tracked :=
    congrArg Outlook.tracked (outlook_encounter plain incident)
  rw [htracked, get?_after_ne_none_iff, Enrols, ← and_assoc, ← contains_rights_iff]
  rfl

/-- Nothing gets in between, and nothing is tracked yet. -/
structure Beginning (d : Desk) : Prop where
  plain : d.outside.Plain
  untracked : d.access.tracked = {}

theorem contains_tracked_iff {d : Desk} (beginning : Beginning d) (incidents : List Incident)
    (reviewer : ReviewerId) : (undergo d incidents).access.tracked.rights.contains reviewer ↔
      d.access.duty.Covers reviewer ∧ Enrolled d incidents reviewer := by
  have hstart : ¬d.access.tracked.rights.get? reviewer ≠ none := by
    rw [beginning.untracked]
    simp
  have hstep : ∀ before incident, (encounter (undergo d before) incident).access.tracked.rights.get?
      reviewer ≠ none ↔
      (d.access.duty.Covers reviewer ∧ Enrols reviewer (undergo d before) incident) ∨
        (undergo d before).access.tracked.rights.get? reviewer ≠ none ∧ ¬incident.isPass := by
    intro before incident
    rw [tracked_encounter_iff (plain_undergo beginning.plain before),
      duty_undergo beginning.plain]
  rw [Rights.contains_eq_isSome, Option.isSome_iff_ne_none]
  by_cases hcovers : d.access.duty.Covers reviewer
  · simp only [hcovers, true_and] at hstep ⊢
    exact iff_since (p := fun d : Desk ↦ d.access.tracked.rights.get? reviewer ≠ none) hstart
      fun before incident _ _ ↦ hstep before incident
  · refine iff_of_false (fun htracked ↦ ?_) fun hboth ↦ hcovers hboth.1
    obtain ⟨before, incident, rest, -, hbefore, hsince⟩ := exists_onset encounter
      (p := fun d : Desk ↦ d.access.tracked.rights.get? reviewer ≠ none) hstart htracked
    have honset := hsince [] List.nil_prefix
    rcases (hstep before incident).mp (by rwa [← undergo_snoc]) with hboth | hboth
    · exact hcovers hboth.1
    · exact hbefore hboth.1

/-- Whoever a pass operates on is tracked or on the table. -/
theorem get?_ne_none_of_mem_operations {v : Outlook} {op : MembershipOp} (h : op ∈ v.operations) :
    v.tracked.rights.get? op.reviewer ≠ none ∨ v.rights.get? op.reviewer ≠ none := by
  unfold Outlook.operations at h
  cases hchannel : v.channel? with
  | none => simp [hchannel] at h
  | some channel =>
    simp only [hchannel] at h
    have hmem := List.mem_map_of_mem (f := MembershipOp.reviewer) h
    rw [Plan.map_reviewer_operations, mem_plan] at hmem
    by_contra hnone
    obtain ⟨htracked, hrights⟩ := not_or.mp hnone
    refine hmem ?_
    rw [not_not.mp hrights, Tracked.known]
    split_ifs
    · exact not_not.mp htracked
    · rfl

/-- What does not answer a request belongs to a pass. -/
theorem mem_operations_of_mem_asks {v : Outlook} {incident : Incident} {op : MembershipOp}
    (h : op ∈ v.asks incident) (hop : ∀ channel reviewer,
      op ≠ .joinApproved channel reviewer ∧ op ≠ .joinDeclined channel reviewer) :
    op ∈ v.operations := by
  rcases incident with (edit | ⟨channel, who⟩ | _) | _ | ⟨who, error⟩
  · cases h
  · simp only [Outlook.asks] at h
    split_ifs at h
    · obtain ⟨happroved, hdeclined⟩ := hop channel who
      rw [List.mem_singleton.mp h, Duty.answer] at happroved hdeclined
      split_ifs at happroved hdeclined
      · exact absurd rfl happroved
      · exact absurd rfl hdeclined
    · cases h
  · exact h
  · exact h
  · cases h

/-- A reviewer is removed or let in at an incident. -/
def Touches (d : Desk) (incident : Incident) (reviewer : ReviewerId) : Prop :=
  ∃ channel, (∃ reason, .member (.removed channel reviewer reason) ∈ callsAt d incident) ∨
    .member (.unblocked channel reviewer) ∈ callsAt d incident

theorem exists_mem_operations_of_touches {d : Desk} (plain : d.outside.Plain) {incident : Incident}
    {reviewer : ReviewerId} (h : Touches d incident reviewer) :
    ∃ op, op ∈ (outlook d).operations ∧ op.reviewer = reviewer := by
  obtain ⟨channel, ⟨reason, hmem⟩ | hmem⟩ := h
  · exact ⟨_, mem_operations_of_mem_asks ((member_mem_callsAt_iff plain).mp hmem)
      fun _ _ ↦ ⟨nofun, nofun⟩, rfl⟩
  · exact ⟨_, mem_operations_of_mem_asks ((member_mem_callsAt_iff plain).mp hmem)
      fun _ _ ↦ ⟨nofun, nofun⟩, rfl⟩

/-- Nobody is tracked or touched without having been on the table. -/
structure Warranted (d : Desk) (incidents : List Incident) : Prop where
  tracked_iff : ∀ reviewer, (undergo d incidents).access.tracked.rights.contains reviewer ↔
    d.access.duty.Covers reviewer ∧ Enrolled d incidents reviewer
  touched : ∀ before incident, before ++ [incident] <+: incidents → ∀ reviewer,
    Touches (undergo d before) incident reviewer → d.access.duty.Covers reviewer ∧
      ∃ earlier, earlier <+: before ∧ (table (undergo d earlier)).contains reviewer
  spared : ∀ reviewer, (∀ earlier, earlier <+: incidents →
      ¬(table (undergo d earlier)).contains reviewer) →
    ∀ before incident, before ++ [incident] <+: incidents → ∀ channel reason,
      .member (.removed channel reviewer reason) ∉ callsAt (undergo d before) incident

theorem covers_of_touches {d : Desk} (beginning : Beginning d) {before : List Incident}
    {incident : Incident} {reviewer : ReviewerId}
    (h : Touches (undergo d before) incident reviewer) : d.access.duty.Covers reviewer ∧
      ∃ earlier, earlier <+: before ∧ (table (undergo d earlier)).contains reviewer := by
  have hplain := plain_undergo beginning.plain before
  obtain ⟨op, hop, rfl⟩ := exists_mem_operations_of_touches hplain h
  rcases get?_ne_none_of_mem_operations hop with hget | hget
  · have htracked : (undergo d before).access.tracked.rights.contains op.reviewer := by
      rw [Rights.contains_eq_isSome, Option.isSome_iff_ne_none]
      exact hget
    obtain ⟨hcovers, henrolled⟩ := (contains_tracked_iff beginning before op.reviewer).mp htracked
    obtain ⟨earlier, event, hearlier, henrols⟩ := henrolled.exists_begins
    exact ⟨hcovers, earlier, (List.prefix_append _ _).trans hearlier, henrols.1⟩
  · obtain ⟨hcovers, hcontains⟩ := contains_rights_iff.mp hget
    rw [duty_undergo beginning.plain] at hcovers
    exact ⟨hcovers, before, List.prefix_refl _, hcontains⟩

theorem warranted_undergo {d : Desk} (beginning : Beginning d) (incidents : List Incident) :
    Warranted d incidents where
  tracked_iff := contains_tracked_iff beginning incidents
  touched := fun before incident _ reviewer h ↦ covers_of_touches beginning h
  spared := by
    intro reviewer hnever before incident hbefore channel reason hremoved
    obtain ⟨-, earlier, hearlier, hcontains⟩ :=
      covers_of_touches beginning ⟨channel, Or.inl ⟨reason, hremoved⟩⟩
    exact hnever earlier
      (hearlier.trans ((List.prefix_append _ _).trans hbefore)) hcontains

/-- A desk with a super reviewer, over a store with a channel for deposits. -/
def guarded : Desk := { opened with access.duty.superReviewer := some ⟨1⟩ }

/-- The super reviewer is on the table as not allowed, somebody who is not on it asks to join, and
the operations on a reviewer who leaves the table fail. -/
def tumult : List Incident :=
  [.event (.edit (.setRight .deposit ⟨1⟩ false)), .event (.edit (.setRight .deposit ⟨7⟩ true)),
    .event (.join ⟨-1⟩ ⟨777⟩), .fault ⟨7⟩ (.rateLimited 2), .event .sync,
    .event (.join ⟨-1⟩ ⟨777⟩), .event (.edit (.removeReviewer .deposit ⟨7⟩))]

theorem warranted_tumult :
    Beginning guarded ∧ Warranted guarded (tumult ++ [.tick]) ∧
      Touches (undergo guarded tumult) .tick ⟨7⟩ ∧
      (undergo guarded tumult).access.tracked.rights.reviewers = [⟨7⟩] := by
  have hbeginning : Beginning guarded := ⟨⟨rfl, rfl⟩, rfl⟩
  refine ⟨hbeginning, warranted_undergo hbeginning _, ⟨⟨-1⟩, Or.inl ⟨revokeReason, ?_⟩⟩,
    by decide +kernel⟩
  rw [member_mem_callsAt_iff (plain_undergo hbeginning.plain tumult)]
  decide +kernel

end ReviewDesk.Membership
