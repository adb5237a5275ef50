import ReviewDesk.Membership.Pass
import ReviewDesk.Proofs.Conversation
import ReviewDesk.Proofs.Membership.Plan
import ReviewDesk.Proofs.Outside

/-!
Passes and requests to join when nothing stands between the desk and what it calls. A pass asks for
the operations of its plan and for no others (`calls_pass_of_some`). It reports which of them
failed, and then tracks the rights it read all the same (`run_pass_of_some`). A request to join asks
for one operation (`run_join`), and only those whose membership is looked after are tracked by it
(`note_rights`).
-/

set_option autoImplicit false
set_option relaxedAutoImplicit false

namespace ReviewDesk

namespace Platform

def enact (platform : Platform) (ops : List MembershipOp) : Platform :=
  ops.foldl (fun platform op ↦ (platform.perform op).2) platform

theorem enact_append (platform : Platform) (first second : List MembershipOp) :
    platform.enact (first ++ second) = (platform.enact first).enact second :=
  List.foldl_append

/-- Whether the membership operations on a reviewer fail. -/
def fails (platform : Platform) (reviewer : ReviewerId) : Bool :=
  platform.memberFaults.any (·.1 = reviewer)

theorem perform_of_fails {platform : Platform} {op : MembershipOp}
    (h : platform.fails op.reviewer = true) :
    ∃ error, platform.perform op = (.error error, platform) := by
  rw [fails, ← List.isSome_find?] at h
  obtain ⟨fault, hfault⟩ := Option.isSome_iff_exists.mp h
  exact ⟨fault.2, by rw [perform, hfault]⟩

theorem perform_of_not_fails {platform : Platform} {op : MembershipOp}
    (h : platform.fails op.reviewer = false) : platform.perform op =
      (.ok (), { platform with membership := platform.membership ++ [op] }) := by
  rw [fails, ← List.isSome_find?, Option.isSome_eq_false_iff, Option.isNone_iff_eq_none] at h
  rw [perform, h]

/-- What is done to members is all of what was asked for but what fails. -/
theorem enact_eq (platform : Platform) (ops : List MembershipOp) :
    platform.enact ops = { platform with
      membership := platform.membership ++ ops.filter (!platform.fails ·.reviewer) } := by
  induction ops generalizing platform with
  | nil => simp [enact]
  | cons op ops ih =>
    rw [enact, List.foldl_cons, ← enact]
    cases hfails : platform.fails op.reviewer with
    | true =>
      obtain ⟨error, hperform⟩ := perform_of_fails hfails
      rw [hperform, ih, List.filter_cons_of_neg (by simp [hfails])]
    | false =>
      rw [perform_of_not_fails hfails, ih, List.filter_cons_of_pos (by simp [hfails]),
        List.append_assoc, List.singleton_append]
      rfl

theorem memberFaults_enact (platform : Platform) (ops : List MembershipOp) :
    (platform.enact ops).memberFaults = platform.memberFaults := by
  rw [enact_eq]

theorem fails_enact (platform : Platform) (ops : List MembershipOp) :
    (platform.enact ops).fails = platform.fails := by
  funext reviewer
  rw [fails, memberFaults_enact, fails]

theorem enact_of_no_faults {platform : Platform} (h : platform.memberFaults = [])
    (ops : List MembershipOp) :
    platform.enact ops = { platform with membership := platform.membership ++ ops } := by
  have hall : ops.filter (!platform.fails ·.reviewer) = ops :=
    List.filter_eq_self.mpr fun op _ ↦ by simp [fails, h]
  rw [enact_eq, hall]

end Platform

/-- The operation on a member that a call asks for. -/
def Call.memberOp? : Call → Option MembershipOp
  | member op => some op
  | _ => none

theorem Call.filterMap_memberOp?_map (ops : List MembershipOp) :
    (ops.map member).filterMap memberOp? = ops := by
  rw [List.filterMap_map]
  exact List.filterMap_some

theorem Call.mem_filterMap_memberOp? {calls : List Call} {op : MembershipOp} :
    op ∈ calls.filterMap memberOp? ↔ .member op ∈ calls := by
  rw [List.mem_filterMap]
  constructor
  · rintro ⟨call, hcall, hop⟩
    cases call with
    | member other => rwa [← Option.some.inj hop]
    | _ => cases hop
  · exact fun h ↦ ⟨_, h, rfl⟩

/-- Does operations one after the other, whatever becomes of each. -/
def Outside.enact (o : Outside) (ops : List MembershipOp) : Outside :=
  { o with platform := o.platform.enact ops }

theorem Outside.answer_member (o : Outside) (op : MembershipOp) :
    (o.answer (.member op)).2 = o.enact [op] := rfl

namespace Membership

open Outside

/-- What a plan has done, in this order. -/
def Plan.operations (plan : Plan) (channel : ChannelId) : List MembershipOp :=
  plan.revoke.map (.removed channel · revokeReason) ++ plan.restore.map (.unblocked channel ·)

theorem Plan.map_reviewer_operations (plan : Plan) (channel : ChannelId) :
    (plan.operations channel).map MembershipOp.reviewer = plan.revoke ++ plan.restore := by
  simp [operations, Function.comp_def, MembershipOp.reviewer]

/-- What is reported of a plan if the operations on some reviewers fail. -/
def Plan.report (plan : Plan) (channel : ChannelId) (fails : ReviewerId → Bool) : AccessReport where
  channel := some channel
  revoked := plan.revoke.filter (!fails ·)
  restored := plan.restore.filter (!fails ·)
  failed := plan.revoke.filter fails ++ plan.restore.filter fails
  fullScan := plan.fullScan

theorem Plan.unblocked_mem_operations {plan : Plan} {channel : ChannelId} {reviewer : ReviewerId} :
    .unblocked channel reviewer ∈ plan.operations channel ↔ reviewer ∈ plan.restore := by
  simp [operations]

/-- A return that fails is reported as such. -/
theorem Plan.mem_restore_iff {plan : Plan} {channel : ChannelId} {fails : ReviewerId → Bool}
    {reviewer : ReviewerId} : reviewer ∈ plan.restore ↔
      reviewer ∈ (plan.report channel fails).restored ∨
        reviewer ∈ (plan.report channel fails).failed ∧ reviewer ∈ plan.restore := by
  simp only [report, List.mem_append, List.mem_filter, Bool.not_eq_true']
  constructor
  · intro hmem
    cases hfails : fails reviewer with
    | true => exact Or.inr ⟨Or.inr ⟨hmem, rfl⟩, hmem⟩
    | false => exact Or.inl ⟨hmem, rfl⟩
  · rintro (⟨hmem, -⟩ | ⟨-, hmem⟩) <;> exact hmem

/-- Whether a membership is looked after. -/
def Duty.Covers (duty : Duty) (reviewer : ReviewerId) : Prop :=
  reviewer.isValid ∧ some reviewer ≠ duty.superReviewer

instance (duty : Duty) (reviewer : ReviewerId) : Decidable (duty.Covers reviewer) :=
  inferInstanceAs (Decidable (_ ∧ _))

/-- The rights that memberships are brought in line with. -/
def Duty.rights (duty : Duty) (store : Store) : Rights :=
  (store.rights.get duty.kind).without duty.superReviewer

section Rights

variable {duty : Duty} {store : Store} {reviewer : ReviewerId}

theorem Duty.get?_rights (duty : Duty) (store : Store) (reviewer : ReviewerId) :
    (duty.rights store).get? reviewer =
      if duty.Covers reviewer then (store.rights.get duty.kind).get? reviewer else none := by
  rw [Duty.rights, Rights.get?_without]
  rfl

theorem Duty.Covers.get?_rights (h : duty.Covers reviewer) :
    (duty.rights store).get? reviewer = (store.rights.get duty.kind).get? reviewer := by
  rw [Duty.get?_rights, if_pos h]

theorem Duty.get?_rights_of_not_covers (h : ¬duty.Covers reviewer) :
    (duty.rights store).get? reviewer = none := by
  rw [Duty.get?_rights, if_neg h]

end Rights

/-- The operation that answers a request to join. -/
def Duty.answer (duty : Duty) (store : Store) (channel : ChannelId) (reviewer : ReviewerId) :
    MembershipOp :=
  if duty.superReviewer = some reviewer ∨ (store.rights.get duty.kind).allows reviewer then
    .joinApproved channel reviewer
  else .joinDeclined channel reviewer

theorem Duty.channel_answer (duty : Duty) (store : Store) (channel : ChannelId)
    (reviewer : ReviewerId) : (duty.answer store channel reviewer).channel = channel := by
  unfold Duty.answer
  split <;> rfl

theorem Duty.reviewer_answer (duty : Duty) (store : Store) (channel : ChannelId)
    (reviewer : ReviewerId) : (duty.answer store channel reviewer).reviewer = reviewer := by
  unfold Duty.answer
  split <;> rfl

/-- What a request to join is answered with. -/
def Duty.decision (duty : Duty) (store : Store) (reviewer : ReviewerId) : JoinDecision :=
  if duty.superReviewer = some reviewer ∨ (store.rights.get duty.kind).allows reviewer then
    .approved
  else .declined

/-- What is tracked after a request to join has been answered. -/
def Tracked.note (tracked : Tracked) (rights : Rights) (reviewer : ReviewerId) : Tracked :=
  match rights.get? reviewer with
  | some allowed => { tracked with rights := tracked.rights.insert reviewer allowed }
  | none => tracked

theorem channel_note (tracked : Tracked) (rights : Rights) (reviewer : ReviewerId) :
    (tracked.note rights reviewer).channel = tracked.channel := by
  unfold Tracked.note
  split <;> rfl

theorem get?_note (tracked : Tracked) (rights : Rights) (reviewer other : ReviewerId) :
    (tracked.note rights other).rights.get? reviewer =
      if other = reviewer then (rights.get? reviewer).or (tracked.rights.get? reviewer)
      else tracked.rights.get? reviewer := by
  unfold Tracked.note
  split_ifs with heq
  · subst heq
    cases rights.get? other with
    | none => rfl
    | some allowed => simp
  · cases rights.get? other with
    | none => rfl
    | some allowed => simp [Ne.symm heq]

/-- The super reviewer and numbers that belong to nobody are not tracked. -/
theorem note_rights (tracked : Tracked) (duty : Duty) (store : Store) (reviewer : ReviewerId) :
    tracked.note (duty.rights store) reviewer =
      if !decide (duty.superReviewer = some reviewer) && reviewer.isValid &&
          (store.rights.get duty.kind).contains reviewer then
        { tracked with rights := tracked.rights.insert reviewer (decide (duty.superReviewer =
            some reviewer) || (store.rights.get duty.kind).allows reviewer) }
      else tracked := by
  by_cases hcovers : duty.Covers reviewer
  · have hsuper : duty.superReviewer ≠ some reviewer := fun heq ↦ hcovers.2 heq.symm
    rw [Tracked.note, hcovers.get?_rights, Rights.contains_eq_isSome, Rights.allows]
    cases (store.rights.get duty.kind).get? reviewer with
    | none => simp
    | some allowed => simp [hsuper, hcovers.1]
  · rw [Tracked.note, Duty.get?_rights_of_not_covers hcovers, if_neg]
    intro htracked
    simp only [Bool.and_eq_true, Bool.not_eq_true', decide_eq_false_iff_not] at htracked
    exact hcovers ⟨htracked.1.2, fun heq ↦ htracked.1.1 heq.symm⟩

section Run

variable {o : Outside} {duty : Duty} {channel : ChannelId}

theorem run_performAll (op : ReviewerId → MembershipOp) (reviewers : List ReviewerId)
    (o : Outside) : (performAll op reviewers).run o =
      ((reviewers.filter fun r ↦ !o.platform.fails (op r).reviewer,
        reviewers.filter fun r ↦ o.platform.fails (op r).reviewer),
        o.enact (reviewers.map op)) := by
  induction reviewers generalizing o with
  | nil => rfl
  | cons reviewer reviewers ih =>
    have hrun : (performAll op (reviewer :: reviewers)).run o = _ :=
      Procedure.run_bind (performAll op reviewers) _ (o.answer (.member (op reviewer))).2
    have hfails : (o.answer (.member (op reviewer))).2.platform.fails = o.platform.fails := by
      rw [answer_member]
      exact o.platform.fails_enact _
    have hlast : (o.answer (.member (op reviewer))).2.enact (reviewers.map op) =
        o.enact ((reviewer :: reviewers).map op) := rfl
    rw [hrun, ih, hfails, hlast, List.filter_cons, List.filter_cons]
    cases h : o.platform.fails (op reviewer).reviewer with
    | true =>
      obtain ⟨error, hperform⟩ := Platform.perform_of_fails h
      simp only [answer, hperform]
      rfl
    | false =>
      simp only [answer, Platform.perform_of_not_fails h]
      rfl

theorem calls_performAll (op : ReviewerId → MembershipOp) (reviewers : List ReviewerId)
    (o : Outside) : (performAll op reviewers).calls o = (reviewers.map op).map .member := by
  induction reviewers generalizing o with
  | nil => rfl
  | cons reviewer reviewers ih =>
    have hcalls : (performAll op (reviewer :: reviewers)).calls o = .member (op reviewer) :: _ :=
      congrArg (Call.member (op reviewer) :: ·) (Procedure.calls_bind (performAll op reviewers) _
        (o.answer (.member (op reviewer))).2)
    rw [hcalls, ih]
    rcases (o.answer (.member (op reviewer))).1 with error | ⟨⟩ <;> simp

theorem calls_carryOut (plan : Plan) (channel : ChannelId) (o : Outside) :
    (carryOut plan channel).calls o = (plan.operations channel).map .member := by
  simp only [carryOut, Procedure.bind_eq, Procedure.calls_bind, calls_performAll,
    Procedure.calls_pure, List.append_nil, Plan.operations, List.map_append]

theorem run_carryOut (plan : Plan) (channel : ChannelId) (o : Outside) :
    (carryOut plan channel).run o =
      (plan.report channel o.platform.fails, o.enact (plan.operations channel)) := by
  simp only [carryOut, Procedure.bind_eq, Procedure.run_bind, run_performAll, Procedure.run_pure,
    Plan.operations, Outside.enact, Platform.enact_append, Platform.fails_enact]
  rfl

variable (plain : o.Plain) (tracked : Tracked)
include plain

theorem run_pass_of_none (h : o.store.channel? duty.kind = none) :
    (pass duty tracked).run o = ((.ok {}, {}), o) := by
  rw [pass, Procedure.run, answer_resolveChannel plain, h]
  rfl

theorem run_pass_of_some (h : o.store.channel? duty.kind = some channel) :
    (pass duty tracked).run o =
      ((.ok ((plan tracked (duty.rights o.store) channel).report channel o.platform.fails),
        ⟨duty.rights o.store, some channel⟩),
        o.enact ((plan tracked (duty.rights o.store) channel).operations channel)) := by
  rw [pass, Procedure.run, answer_resolveChannel plain, h]
  simp only [Procedure.run]
  rw [answer_currentRights plain]
  refine (Procedure.run_bind (carryOut _ channel) _ o).trans ?_
  rw [run_carryOut, ← Duty.rights]
  rfl

theorem calls_pass_of_none (h : o.store.channel? duty.kind = none) :
    (pass duty tracked).calls o = [.resolveChannel duty.kind] := by
  rw [pass, Procedure.calls, answer_resolveChannel plain, h]
  rfl

theorem calls_pass_of_some (h : o.store.channel? duty.kind = some channel) :
    (pass duty tracked).calls o = .resolveChannel duty.kind :: .currentRights duty.kind ::
      ((plan tracked (duty.rights o.store) channel).operations channel).map .member := by
  rw [pass, Procedure.calls, answer_resolveChannel plain, h]
  simp only [Procedure.calls]
  rw [answer_currentRights plain]
  simp only [Procedure.bind_eq, Procedure.calls_bind, calls_carryOut, Procedure.calls_pure,
    List.append_nil, Duty.rights]

theorem run_join_of_ne (h : o.store.channel? duty.kind ≠ some channel) (reviewer : ReviewerId) :
    (join duty tracked channel reviewer).run o = ((.ok .ignored, tracked), o) := by
  rw [join, Procedure.run, answer_resolveChannel plain]
  simp only [if_neg h, Procedure.run]

theorem run_join (h : o.store.channel? duty.kind = some channel) (reviewer : ReviewerId) :
    (join duty tracked channel reviewer).run o =
      ((.ok (duty.decision o.store reviewer), tracked.note (duty.rights o.store) reviewer),
        o.enact [duty.answer o.store channel reviewer]) := by
  rw [join, Procedure.run, answer_resolveChannel plain]
  simp only [if_pos h, Procedure.run]
  rw [answer_currentRights plain]
  simp only [Procedure.run]
  rw [answer_member, note_rights, Duty.answer, Duty.decision]
  simp only [Bool.or_eq_true, decide_eq_true_eq]

theorem result_join (channel : ChannelId) (reviewer : ReviewerId) :
    ((join duty tracked channel reviewer).run o).1.1 =
      .ok (if o.store.channel? duty.kind = some channel then duty.decision o.store reviewer
        else .ignored) := by
  by_cases h : o.store.channel? duty.kind = some channel
  · rw [run_join plain tracked h, if_pos h]
  · rw [run_join_of_ne plain tracked h, if_neg h]

theorem calls_join_of_ne (h : o.store.channel? duty.kind ≠ some channel) (reviewer : ReviewerId) :
    (join duty tracked channel reviewer).calls o = [.resolveChannel duty.kind] := by
  rw [join, Procedure.calls, answer_resolveChannel plain]
  simp only [if_neg h, Procedure.calls]

theorem calls_join (h : o.store.channel? duty.kind = some channel) (reviewer : ReviewerId) :
    (join duty tracked channel reviewer).calls o = [.resolveChannel duty.kind,
      .currentRights duty.kind, .member (duty.answer o.store channel reviewer)] := by
  rw [join, Procedure.calls, answer_resolveChannel plain]
  simp only [if_pos h, Procedure.calls]
  rw [answer_currentRights plain, Duty.answer]
  simp only [Procedure.calls, Bool.or_eq_true, decide_eq_true_eq]

end Run

end Membership

end ReviewDesk
