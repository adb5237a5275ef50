import ReviewDesk.Decision.Gate
import ReviewDesk.Proofs.Membership.Pass

/-!
Who may decide. A press of a button is admitted if it comes from the channel of its kind and from
somebody who may review that kind, or who always may. The gate asks the decision service for what is
admitted, and for nothing else (`calls_handle`); what is refused is refused for the first condition
that does not hold (`run_handle`). Requests to join, and passes that start over, go by the same
condition (`concurs`).
-/

set_option autoImplicit false
set_option relaxedAutoImplicit false

namespace ReviewDesk

/-- The decision that a call asks for. -/
def Call.decision? : Call → Option DecisionCall
  | decide call => some call
  | _ => none

theorem Call.mem_filterMap_decision? {calls : List Call} {asked : DecisionCall} :
    asked ∈ calls.filterMap decision? ↔ .decide asked ∈ calls := by
  rw [List.mem_filterMap]
  constructor
  · rintro ⟨call, hcall, hasked⟩
    cases call with
    | decide other => rwa [← Option.some.inj hasked]
    | _ => cases hasked
  · exact fun h ↦ ⟨_, h, rfl⟩

/-- The decision that a button stands for, pressed by a reviewer. -/
def ActionRef.decisionCall (ref : ActionRef) (reviewer : ReviewerId) : DecisionCall :=
  ⟨ref.kind, ref.item, ref.action, reviewer⟩

namespace Decision.Gate

open Outside

/-- The reviewer may decide about a kind. -/
def Trusts (gate : Gate) (store : Store) (kind : Kind) (reviewer : ReviewerId) : Prop :=
  gate.superReviewer = some reviewer ∨ (store.rights.get kind).allows reviewer

/-- The reviewer may decide about a kind, in this channel. -/
def Admits (gate : Gate) (store : Store) (kind : Kind) (channel : ChannelId)
    (reviewer : ReviewerId) : Prop :=
  store.channel? kind = some channel ∧ gate.Trusts store kind reviewer

instance (gate : Gate) (store : Store) (kind : Kind) (reviewer : ReviewerId) :
    Decidable (gate.Trusts store kind reviewer) :=
  inferInstanceAs (Decidable (_ ∨ _))

instance (gate : Gate) (store : Store) (kind : Kind) (channel : ChannelId)
    (reviewer : ReviewerId) : Decidable (gate.Admits store kind channel reviewer) :=
  inferInstanceAs (Decidable (_ ∧ _))

section Handle

variable {gate : Gate} {o : Outside} {text : String} {ref : ActionRef} {channel : ChannelId}
  {reviewer : ReviewerId}

theorem handle_of_unreadable (h : ActionRef.read? text = none) :
    gate.handle text channel reviewer = refuse (.invalidReference text) := by
  rw [handle, h]

variable (plain : o.Plain) (h : ActionRef.read? text = some ref)
include plain h

theorem run_handle : (gate.handle text channel reviewer).run o =
    if o.store.channel? ref.kind ≠ some channel then
      (⟨.error (.decision (.wrongChannel ref.kind)), 0⟩, o)
    else if gate.Trusts o.store ref.kind reviewer then
      (gate.settle (o.service.decide (ref.decisionCall reviewer)).1,
        { o with service := (o.service.decide (ref.decisionCall reviewer)).2 })
    else (⟨.error (.decision (.notAllowed reviewer ref.kind)), 0⟩, o) := by
  rw [handle, h]
  simp only [Procedure.run, answer_resolveChannel plain]
  split_ifs with hchannel hsuper htrusts htrusts
  · rfl
  · rfl
  · exact absurd (Or.inl hsuper) htrusts
  · have hallowed := htrusts.resolve_left hsuper
    simp only [Procedure.run, answer_currentRights plain, if_pos hallowed]
    rfl
  · have hallowed := (not_or.mp htrusts).2
    simp only [Procedure.run, answer_currentRights plain, if_neg hallowed]
    rfl

theorem calls_handle : (gate.handle text channel reviewer).calls o =
    .resolveChannel ref.kind ::
      if o.store.channel? ref.kind ≠ some channel then []
      else (if gate.superReviewer = some reviewer then [] else [.currentRights ref.kind]) ++
        if gate.Trusts o.store ref.kind reviewer then [.decide (ref.decisionCall reviewer)]
        else [] := by
  rw [handle, h]
  simp only [Procedure.calls, answer_resolveChannel plain]
  split_ifs with hchannel hsuper htrusts htrusts
  · rfl
  · rfl
  · exact absurd (Or.inl hsuper) htrusts
  · have hallowed := htrusts.resolve_left hsuper
    simp only [Procedure.calls, answer_currentRights plain, if_pos hallowed]
    rfl
  · have hallowed := (not_or.mp htrusts).2
    simp only [Procedure.calls, answer_currentRights plain, if_neg hallowed]
    rfl

theorem filterMap_decision?_calls_handle :
    ((gate.handle text channel reviewer).calls o).filterMap Call.decision? =
      if gate.Admits o.store ref.kind channel reviewer then [ref.decisionCall reviewer]
      else [] := by
  by_cases hadmits : gate.Admits o.store ref.kind channel reviewer
  · rw [calls_handle plain h, if_pos hadmits, if_neg (not_not.mpr hadmits.1), if_pos hadmits.2]
    split_ifs <;> rfl
  · rw [calls_handle plain h, if_neg hadmits]
    split_ifs with hchannel hsuper htrusts htrusts
    · rfl
    · exact absurd ⟨not_not.mp hchannel, htrusts⟩ hadmits
    · rfl
    · exact absurd ⟨not_not.mp hchannel, htrusts⟩ hadmits
    · rfl

end Handle

/-- A press of a button is forwarded if it is admitted, and otherwise refused. -/
structure Forwards (gate : Gate) (o : Outside) (text : String) (channel : ChannelId)
    (reviewer : ReviewerId) : Prop where
  atMostOnce : (((gate.handle text channel reviewer).calls o).filterMap Call.decision?).length ≤ 1
  asked_iff : ∀ call, .decide call ∈ (gate.handle text channel reviewer).calls o ↔
    ∃ ref, ActionRef.read? text = some ref ∧ gate.Admits o.store ref.kind channel reviewer ∧
      call = ref.decisionCall reviewer
  answered : ∀ ref, ActionRef.read? text = some ref →
    gate.Admits o.store ref.kind channel reviewer →
      ((gate.handle text channel reviewer).run o).1 =
        gate.settle (o.service.decide (ref.decisionCall reviewer)).1
  unreadable : ActionRef.read? text = none →
    ((gate.handle text channel reviewer).run o).1.result =
      .error (.decision (.invalidReference text))
  elsewhere : ∀ ref, ActionRef.read? text = some ref → o.store.channel? ref.kind ≠ some channel →
    ((gate.handle text channel reviewer).run o).1.result =
      .error (.decision (.wrongChannel ref.kind))
  barred : ∀ ref, ActionRef.read? text = some ref → o.store.channel? ref.kind = some channel →
    ¬gate.Trusts o.store ref.kind reviewer →
      ((gate.handle text channel reviewer).run o).1.result =
        .error (.decision (.notAllowed reviewer ref.kind))
  /-- Nothing in the store counts but the channel and the rights of the kind. -/
  aloof : ∀ o' : Outside, o'.Plain → o'.service = o.service →
    (∀ ref, ActionRef.read? text = some ref →
      o'.store.channel? ref.kind = o.store.channel? ref.kind ∧
        o'.store.rights.get ref.kind = o.store.rights.get ref.kind) →
    (gate.handle text channel reviewer).calls o' = (gate.handle text channel reviewer).calls o ∧
      ((gate.handle text channel reviewer).run o').1 = ((gate.handle text channel reviewer).run o).1

theorem forwards (gate : Gate) {o : Outside} (plain : o.Plain) (text : String)
    (channel : ChannelId) (reviewer : ReviewerId) : gate.Forwards o text channel reviewer where
  atMostOnce := by
    cases h : ActionRef.read? text with
    | none =>
      rw [handle_of_unreadable h]
      exact Nat.zero_le 1
    | some ref =>
      rw [filterMap_decision?_calls_handle plain h]
      split_ifs
      · exact Nat.le_refl 1
      · exact Nat.zero_le 1
  asked_iff := by
    intro call
    rw [← Call.mem_filterMap_decision?]
    cases h : ActionRef.read? text with
    | none =>
      rw [handle_of_unreadable h]
      simp [refuse, Procedure.calls]
    | some ref =>
      rw [filterMap_decision?_calls_handle plain h]
      split_ifs with hadmits <;> simp [hadmits]
  answered := by
    intro ref h hadmits
    rw [run_handle plain h, if_neg (not_not.mpr hadmits.1), if_pos hadmits.2]
  unreadable := by
    intro h
    rw [handle_of_unreadable h]
    rfl
  elsewhere := by
    intro ref h hchannel
    rw [run_handle plain h, if_pos hchannel]
  barred := by
    intro ref h hchannel htrusts
    rw [run_handle plain h, if_neg (not_not.mpr hchannel), if_neg htrusts]
  aloof := by
    intro o' plain' hservice hsame
    cases h : ActionRef.read? text with
    | none =>
      rw [handle_of_unreadable h]
      exact ⟨rfl, rfl⟩
    | some ref =>
      obtain ⟨hchannel, hrights⟩ := hsame ref h
      have htrusts : gate.Trusts o'.store ref.kind reviewer ↔
          gate.Trusts o.store ref.kind reviewer := by
        rw [Trusts, Trusts, hrights]
      rw [calls_handle plain' h, calls_handle plain h, run_handle plain' h, run_handle plain h]
      simp only [hchannel, hservice, htrusts]
      refine ⟨trivial, ?_⟩
      split_ifs <;> rfl

/-! ### Members -/

/-- Looks after the members of the channel of a kind, and trusts whom the gate always trusts. -/
def duty (gate : Gate) (kind : Kind) : Membership.Duty := ⟨kind, gate.superReviewer⟩

/-- Requests to join, and passes that start over, go by the condition of the gate. -/
structure Concurs (gate : Gate) (o : Outside) (kind : Kind) (tracked : Membership.Tracked) :
    Prop where
  approved_iff : ∀ channel reviewer,
    ((Membership.join (gate.duty kind) tracked channel reviewer).run o).1.1 = .ok .approved ↔
      gate.Admits o.store kind channel reviewer
  ignored_iff : ∀ channel reviewer,
    ((Membership.join (gate.duty kind) tracked channel reviewer).run o).1.1 = .ok .ignored ↔
      o.store.channel? kind ≠ some channel
  declined_iff : ∀ channel reviewer,
    ((Membership.join (gate.duty kind) tracked channel reviewer).run o).1.1 = .ok .declined ↔
      o.store.channel? kind = some channel ∧ ¬gate.Trusts o.store kind reviewer
  restored_iff : ∃ report, ((Membership.pass (gate.duty kind) tracked).run o).1.1 = .ok report ∧
    (report.fullScan ↔
      ∃ channel, o.store.channel? kind = some channel ∧ tracked.channel ≠ some channel) ∧
    (report.fullScan → ∀ channel, o.store.channel? kind = some channel → ∀ reviewer,
      (reviewer ∈ report.restored ∨ reviewer ∈ report.failed ∧
          .member (.unblocked channel reviewer) ∈
            (Membership.pass (gate.duty kind) tracked).calls o) ↔
        (gate.duty kind).Covers reviewer ∧ gate.Admits o.store kind channel reviewer)

/-- Those whom a pass that starts over lets in are those whom the gate admits. -/
theorem get?_rights_duty_iff {gate : Gate} {store : Store} {kind : Kind} {channel : ChannelId}
    (h : store.channel? kind = some channel) (reviewer : ReviewerId) :
    ((gate.duty kind).rights store).get? reviewer = some true ↔
      (gate.duty kind).Covers reviewer ∧ gate.Admits store kind channel reviewer := by
  rw [Membership.Duty.get?_rights]
  split_ifs with hcovers
  · have hsuper : gate.superReviewer ≠ some reviewer := fun heq ↦ hcovers.2 heq.symm
    rw [← Rights.allows_iff, Admits, Trusts]
    simp only [hcovers, h, hsuper, false_or, true_and]
    rfl
  · simp [hcovers]

section Members

variable {gate : Gate} {o : Outside} {kind : Kind} {channel : ChannelId} (plain : o.Plain)
  (tracked : Membership.Tracked)
include plain

theorem result_join_duty (channel : ChannelId) (reviewer : ReviewerId) :
    ((Membership.join (gate.duty kind) tracked channel reviewer).run o).1.1 =
      .ok (if o.store.channel? kind = some channel then
        if gate.Trusts o.store kind reviewer then .approved else .declined
        else .ignored) :=
  Membership.result_join plain tracked channel reviewer

theorem member_unblocked_mem_calls_pass (h : o.store.channel? kind = some channel)
    (reviewer : ReviewerId) : .member (.unblocked channel reviewer) ∈
        (Membership.pass (gate.duty kind) tracked).calls o ↔
      reviewer ∈
        (Membership.plan tracked ((gate.duty kind).rights o.store) channel).restore := by
  rw [← Call.mem_filterMap_memberOp?, Membership.calls_pass_of_some plain tracked h,
    ← Membership.Plan.unblocked_mem_operations]
  exact iff_of_eq (congrArg (_ ∈ ·) (Call.filterMap_memberOp?_map _))

/-- A pass that starts over tries to let in exactly those whom the gate admits. -/
theorem restored_or_failed_iff (h : o.store.channel? kind = some channel)
    (hne : tracked.channel ≠ some channel) {report : AccessReport}
    (hreport : ((Membership.pass (gate.duty kind) tracked).run o).1.1 = .ok report)
    (reviewer : ReviewerId) :
    (reviewer ∈ report.restored ∨ reviewer ∈ report.failed ∧
        .member (.unblocked channel reviewer) ∈
          (Membership.pass (gate.duty kind) tracked).calls o) ↔
      (gate.duty kind).Covers reviewer ∧ gate.Admits o.store kind channel reviewer := by
  rw [Membership.run_pass_of_some plain tracked h] at hreport
  rw [← Except.ok.inj hreport, member_unblocked_mem_calls_pass plain tracked h,
    ← Membership.Plan.mem_restore_iff, Membership.mem_restore_plan_of_ne hne,
    get?_rights_duty_iff h]

end Members

theorem concurs (gate : Gate) {o : Outside} (plain : o.Plain) (kind : Kind)
    (tracked : Membership.Tracked) : gate.Concurs o kind tracked where
  approved_iff := by
    intro channel reviewer
    rw [result_join_duty plain, Except.ok.injEq]
    split_ifs with hchannel htrusts
    · exact iff_of_true rfl ⟨hchannel, htrusts⟩
    · exact iff_of_false nofun fun h ↦ htrusts h.2
    · exact iff_of_false nofun fun h ↦ hchannel h.1
  ignored_iff := by
    intro channel reviewer
    rw [result_join_duty plain, Except.ok.injEq]
    split_ifs with hchannel htrusts
    · exact iff_of_false nofun fun h ↦ h hchannel
    · exact iff_of_false nofun fun h ↦ h hchannel
    · exact iff_of_true rfl hchannel
  declined_iff := by
    intro channel reviewer
    rw [result_join_duty plain, Except.ok.injEq]
    split_ifs with hchannel htrusts
    · exact iff_of_false nofun fun h ↦ h.2 htrusts
    · exact iff_of_true rfl ⟨hchannel, htrusts⟩
    · exact iff_of_false nofun fun h ↦ hchannel h.1
  restored_iff := by
    cases h : o.store.channel? kind with
    | none =>
      rw [Membership.run_pass_of_none plain tracked h]
      exact ⟨_, rfl, by simp, by simp⟩
    | some channel =>
      have hchannel : o.store.channel? (gate.duty kind).kind = some channel := h
      have hrun := congrArg (·.1.1) (Membership.run_pass_of_some plain tracked hchannel)
      refine ⟨_, hrun, Membership.fullScan_plan.trans ?_, ?_⟩
      · exact ⟨fun hne ↦ ⟨channel, rfl, hne⟩, fun ⟨_, heq, hne⟩ ↦ Option.some.inj heq ▸ hne⟩
      · rintro hfull _ ⟨⟩ reviewer
        exact restored_or_failed_iff plain tracked h (Membership.fullScan_plan.mp hfull) hrun
          reviewer

/-- The gate, requests to join and passes agree about who may review. -/
structure Uniform (gate : Gate) (o : Outside) : Prop where
  forwards : ∀ text channel reviewer, gate.Forwards o text channel reviewer
  concurs : ∀ kind tracked, gate.Concurs o kind tracked

theorem uniform_of_plain (gate : Gate) {o : Outside} (plain : o.Plain) : gate.Uniform o where
  forwards := forwards gate plain
  concurs := concurs gate plain

/-- A store with a channel for deposits and somebody who may review them. -/
def staffed : Outside where
  store := (({ noticeChannel := "reviews" } : Store).setChannel .deposit (some ⟨-1⟩)).setRight
    .deposit ⟨7⟩ true

theorem uniform_staffed :
    let gate : Gate := { superReviewer := some ⟨1⟩ }
    staffed.Plain ∧ gate.Uniform staffed ∧
      (ActionRef.read? "dep:approve:4:1").map (·.kind) = some .deposit ∧
      gate.Admits staffed.store .deposit ⟨-1⟩ ⟨7⟩ ∧ gate.Admits staffed.store .deposit ⟨-1⟩ ⟨1⟩ ∧
      ¬gate.Admits staffed.store .deposit ⟨-1⟩ ⟨8⟩ ∧
      ¬gate.Admits staffed.store .kyc ⟨-1⟩ ⟨7⟩ :=
  ⟨⟨rfl, rfl⟩, uniform_of_plain _ ⟨rfl, rfl⟩, by decide +kernel, by decide, by decide, by decide,
    by decide⟩

end Decision.Gate

end ReviewDesk
