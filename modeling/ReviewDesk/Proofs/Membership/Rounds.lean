import ReviewDesk.Desk.Service
import ReviewDesk.Proofs.Membership.Pass

/-!
The access loop from pass to pass. Between two passes others edit the rights and the channels, and
requests to join come in, in any order. Who is let in on a channel is read off what was done to its
members (`standing`), and what a pass and a request change about that and about what is tracked is
said once for each (`standing_sync`, `standing_join`, `get?_tracked_join`).
-/

set_option autoImplicit false
set_option relaxedAutoImplicit false

namespace ReviewDesk

/-- What an operation says about whether its reviewer is let in; a declined request says nothing. -/
def MembershipOp.grant? : MembershipOp → Option Bool
  | removed .. => some false
  | unblocked .. | joinApproved .. => some true
  | joinDeclined .. => none

namespace Membership

/-- Whether a reviewer was let in or put out last on a channel, if either was ever done. -/
def standing (log : List MembershipOp) (channel : ChannelId) (reviewer : ReviewerId) :
    Option Bool :=
  log.reverse.findSome? fun op ↦
    if op.channel = channel ∧ op.reviewer = reviewer then op.grant? else none

section Standing

variable {channel other : ChannelId} {reviewer : ReviewerId}

theorem standing_append (log ops : List MembershipOp) :
    standing (log ++ ops) channel reviewer =
      (standing ops channel reviewer).or (standing log channel reviewer) := by
  rw [standing, List.reverse_append, List.findSome?_append]
  rfl

theorem standing_singleton (op : MembershipOp) : standing [op] channel reviewer =
    if op.channel = channel ∧ op.reviewer = reviewer then op.grant? else none := by
  rw [standing, List.reverse_singleton, List.findSome?_singleton]

/-- The same is done to each of some reviewers. -/
theorem standing_map (op : ReviewerId → MembershipOp) {allowed : Bool}
    (hop : ∀ r, (op r).channel = other ∧ (op r).reviewer = r ∧ (op r).grant? = some allowed)
    (reviewers : List ReviewerId) : standing (reviewers.map op) channel reviewer =
      if other = channel ∧ reviewer ∈ reviewers then some allowed else none := by
  induction reviewers with
  | nil => simp [standing]
  | cons first rest ih =>
    obtain ⟨hchannel, hreviewer, hgrant⟩ := hop first
    rw [List.map_cons, ← List.singleton_append, standing_append, ih, standing_singleton, hchannel,
      hreviewer, hgrant]
    by_cases hother : other = channel <;> by_cases hrest : reviewer ∈ rest <;>
      simp [hother, hrest, eq_comm]

theorem standing_plan (plan : Plan) : standing (plan.operations other) channel reviewer =
    if other = channel ∧ reviewer ∈ plan.restore then some true
    else if other = channel ∧ reviewer ∈ plan.revoke then some false
    else none := by
  rw [Plan.operations, standing_append,
    standing_map (.removed other · revokeReason) fun r ↦ ⟨rfl, rfl, rfl⟩,
    standing_map (.unblocked other ·) fun r ↦ ⟨rfl, rfl, rfl⟩]
  split_ifs <;> rfl

/-- A plan lets in or puts out whoever it touches, and nobody else. -/
theorem standing_operations (tracked : Tracked) (current : Rights) :
    standing ((plan tracked current other).operations other) channel reviewer =
      if other = channel ∧ (tracked.known other).get? reviewer ≠ current.get? reviewer then
        some (current.allows reviewer)
      else none := by
  rw [standing_plan]
  simp only [mem_revoke_plan, mem_restore_plan, Rights.allows]
  rcases current.get? reviewer with _ | _ | _ <;> simp

/-- A request to join lets nobody in but who made it, and them only if they may review. -/
theorem standing_answer {duty : Duty} (covers : duty.Covers reviewer) (store : Store)
    (who : ReviewerId) : standing [duty.answer store other who] channel reviewer =
      if other = channel ∧ who = reviewer ∧
          (store.rights.get duty.kind).get? reviewer = some true then some true
      else none := by
  rw [standing_singleton, Duty.channel_answer, Duty.reviewer_answer]
  by_cases hwho : who = reviewer
  · subst hwho
    have hsuper : duty.superReviewer ≠ some who := fun heq ↦ covers.2 heq.symm
    simp only [Duty.answer, Rights.allows_iff, hsuper, false_or, true_and]
    by_cases hallowed : (store.rights.get duty.kind).get? who = some true <;>
      simp [hallowed, MembershipOp.grant?]
  · simp [hwho]

end Standing

/-- What others do to the store. -/
inductive Edit where
  | setRight (kind : Kind) (reviewer : ReviewerId) (allowed : Bool)
  | removeReviewer (kind : Kind) (reviewer : ReviewerId)
  | setRights (kind : Kind) (rights : Rights)
  | setChannel (kind : Kind) (channel : Option ChannelId)

def Edit.apply : Edit → Store → Store
  | setRight kind reviewer allowed, store => store.setRight kind reviewer allowed
  | removeReviewer kind reviewer, store => store.removeReviewer kind reviewer
  | setRights kind rights, store => store.setRights kind rights
  | setChannel kind channel, store => store.setChannel kind channel

inductive Event where
  | edit (edit : Edit)
  | join (channel : ChannelId) (reviewer : ReviewerId)
  | sync

def happen (d : Desk) : Event → Desk
  | .edit edit => d.modifyStore edit.apply
  | .join channel reviewer => (d.join channel reviewer).2
  | .sync => d.accessPass.2

def run (d : Desk) (events : List Event) : Desk := events.foldl happen d

theorem run_snoc (d : Desk) (events : List Event) (event : Event) :
    run d (events ++ [event]) = happen (run d events) event :=
  List.foldl_append

/-! ### What the access loop looks at -/

section Desk

variable (d : Desk)

/-- The channel that is looked after. -/
def channel? : Option ChannelId := d.outside.store.channel? d.access.duty.kind

/-- The rights table that says who may review there. -/
def table : Rights := d.outside.store.rights.get d.access.duty.kind

/-- The rights that members are brought in line with. -/
def rights : Rights := d.access.duty.rights d.outside.store

theorem get?_rights (reviewer : ReviewerId) : (rights d).get? reviewer =
    if d.access.duty.Covers reviewer then (table d).get? reviewer else none :=
  d.access.duty.get?_rights d.outside.store reviewer

/-- What was done to members so far. -/
def log : List MembershipOp := d.outside.platform.membership

/-- A pass reports that it was over the members of a channel. -/
def Reports (channel : ChannelId) : Prop :=
  ∃ report, d.accessPass.1 = .ok report ∧ report.channel = some channel

/-- The calls that a pass makes. -/
def passCalls : List Call := (pass d.access.duty d.access.tracked).calls d.outside

end Desk

/-- A request to join is answered, by somebody who is on record with this right. -/
def Answers (reviewer : ReviewerId) (allowed : Bool) (d : Desk) (event : Event) : Prop :=
  ∃ channel, event = .join channel reviewer ∧ channel? d = some channel ∧
    (table d).get? reviewer = some allowed

theorem answers_join {d : Desk} {channel : ChannelId} {who reviewer : ReviewerId} {allowed : Bool} :
    Answers reviewer allowed d (.join channel who) ↔
      (channel? d = some channel ∧ who = reviewer) ∧ (table d).get? reviewer = some allowed := by
  constructor
  · rintro ⟨_, heq, hchannel, hright⟩
    obtain ⟨rfl, rfl⟩ := Event.join.inj heq
    exact ⟨⟨hchannel, rfl⟩, hright⟩
  · rintro ⟨⟨hchannel, rfl⟩, hright⟩
    exact ⟨channel, rfl, hchannel, hright⟩

/-- The same memberships are looked after, nothing gets in between, and the same operations fail. -/
structure Frame (d d' : Desk) : Prop where
  duty : d'.access.duty = d.access.duty
  plain : d'.outside.Plain
  memberFaults : d'.outside.platform.memberFaults = d.outside.platform.memberFaults

section Events

variable {d : Desk} (plain : d.outside.Plain) {channel : ChannelId} {reviewer : ReviewerId}
include plain

theorem happen_sync_of_none (h : channel? d = none) :
    happen d .sync = { d with access.tracked := {} } := by
  have hrun := run_pass_of_none plain d.access.tracked h
  simp only [happen, Desk.accessPass, Desk.perform, hrun]

theorem happen_sync_of_some (h : channel? d = some channel) :
    happen d .sync = { d with
      outside := d.outside.enact
        ((plan d.access.tracked (rights d) channel).operations channel)
      access.tracked := ⟨rights d, some channel⟩ } := by
  have hrun := run_pass_of_some plain d.access.tracked h
  simp only [happen, Desk.accessPass, Desk.perform, hrun, rights]

theorem reports_iff : Reports d channel ↔ channel? d = some channel := by
  cases h : channel? d with
  | none =>
    have hrun := run_pass_of_none plain d.access.tracked h
    simp [Reports, Desk.accessPass, Desk.perform, hrun]
  | some other =>
    have hrun := run_pass_of_some plain d.access.tracked h
    simp [Reports, Desk.accessPass, Desk.perform, hrun, Plan.report]

theorem happen_join_of_ne (h : channel? d ≠ some channel) :
    happen d (.join channel reviewer) = d := by
  have hrun := run_join_of_ne plain d.access.tracked h reviewer
  simp only [happen, Desk.join, Desk.perform, hrun]

theorem happen_join (h : channel? d = some channel) :
    happen d (.join channel reviewer) = { d with
      outside := d.outside.enact [d.access.duty.answer d.outside.store channel reviewer]
      access.tracked := d.access.tracked.note (rights d) reviewer } := by
  have hrun := run_join plain d.access.tracked h reviewer
  simp only [happen, Desk.join, Desk.perform, hrun, rights]

theorem frame_happen (event : Event) : Frame d (happen d event) := by
  cases event with
  | edit edit => exact ⟨rfl, plain.with_store _, rfl⟩
  | join channel reviewer =>
    by_cases h : channel? d = some channel
    · rw [happen_join plain h]
      exact ⟨rfl, plain.with_platform _, Platform.memberFaults_enact _ _⟩
    · rw [happen_join_of_ne plain h]
      exact ⟨rfl, plain, rfl⟩
  | sync =>
    cases h : channel? d with
    | none =>
      rw [happen_sync_of_none plain h]
      exact ⟨rfl, plain, rfl⟩
    | some channel =>
      rw [happen_sync_of_some plain h]
      exact ⟨rfl, plain.with_platform _, Platform.memberFaults_enact _ _⟩

theorem frame_run (events : List Event) : Frame d (run d events) := by
  induction events generalizing d with
  | nil => exact ⟨rfl, plain, rfl⟩
  | cons event events ih =>
    have hfirst := frame_happen plain event
    have hrest := ih hfirst.plain
    exact ⟨hrest.duty.trans hfirst.duty, hrest.plain, hrest.memberFaults.trans hfirst.memberFaults⟩

/-! ### What is tracked -/

theorem channel_tracked_join :
    (happen d (.join channel reviewer)).access.tracked.channel = d.access.tracked.channel := by
  by_cases h : channel? d = some channel
  · rw [happen_join plain h]
    exact channel_note _ _ _
  · rw [happen_join_of_ne plain h]

theorem get?_tracked_join (covers : d.access.duty.Covers reviewer) (other : ReviewerId) :
    (happen d (.join channel other)).access.tracked.rights.get? reviewer =
      if channel? d = some channel ∧ other = reviewer then
        ((table d).get? reviewer).or (d.access.tracked.rights.get? reviewer)
      else d.access.tracked.rights.get? reviewer := by
  by_cases h : channel? d = some channel
  · rw [happen_join plain h, rights, get?_note, covers.get?_rights, ← table]
    simp only [h, true_and]
  · rw [happen_join_of_ne plain h, if_neg fun hboth ↦ h hboth.1]

theorem channel_tracked_sync :
    (happen d .sync).access.tracked.channel = channel? d := by
  cases h : channel? d with
  | none => rw [happen_sync_of_none plain h]
  | some channel => rw [happen_sync_of_some plain h]

theorem get?_tracked_sync (h : channel? d = some channel)
    (covers : d.access.duty.Covers reviewer) :
    (happen d .sync).access.tracked.rights.get? reviewer = (table d).get? reviewer := by
  rw [happen_sync_of_some plain h]
  exact covers.get?_rights

variable {event : Event} (passless : event ≠ .sync)
include passless

theorem channel_tracked_happen :
    (happen d event).access.tracked.channel = d.access.tracked.channel := by
  cases event with
  | edit edit => rfl
  | join channel who => exact channel_tracked_join plain
  | sync => exact absurd rfl passless

/-- Between passes, what is tracked of a reviewer is changed by answers to their requests only. -/
theorem get?_tracked_happen (covers : d.access.duty.Covers reviewer) {allowed : Bool} :
    (happen d event).access.tracked.rights.get? reviewer = some allowed ↔
      Answers reviewer allowed d event ∨
        d.access.tracked.rights.get? reviewer = some allowed ∧
          ¬Answers reviewer (!allowed) d event := by
  cases event with
  | edit edit =>
    have hnever : ∀ right, ¬Answers reviewer right d (.edit edit) := by
      rintro right ⟨_, heq, -⟩
      cases heq
    simp only [hnever, false_or, not_false_eq_true, and_true]
    rfl
  | join channel who =>
    rw [get?_tracked_join plain covers, answers_join, answers_join]
    split_ifs with hanswered
    · simp only [hanswered, true_and]
      rcases (table d).get? reviewer with _ | right
      · simp
      · cases right <;> cases allowed <;> simp
    · simp only [hanswered, false_and, false_or, not_false_eq_true, and_true]
  | sync => exact absurd rfl passless

end Events

/-! ### Who is let in -/

/-- A pass lets in or puts out whoever it touches, and nobody else. -/
theorem standing_pass {d : Desk} (plain : d.outside.Plain)
    (faultless : d.outside.platform.memberFaults = []) {channel other : ChannelId}
    (h : channel? d = some other) (reviewer : ReviewerId) :
    standing (log (happen d .sync)) channel reviewer =
      if other = channel ∧ (d.access.tracked.known other).get? reviewer ≠ (rights d).get? reviewer
      then some ((rights d).allows reviewer)
      else standing (log d) channel reviewer := by
  have hlog : log (happen d .sync) =
      log d ++ (plan d.access.tracked (rights d) other).operations other := by
    rw [happen_sync_of_some plain h, log, Outside.enact, Platform.enact_of_no_faults faultless]
    rfl
  rw [hlog, standing_append, standing_operations]
  split_ifs <;> rfl

section Smooth

variable {d : Desk} (plain : d.outside.Plain) (faultless : d.outside.platform.memberFaults = [])
  {channel other : ChannelId} {reviewer : ReviewerId} (covers : d.access.duty.Covers reviewer)
include plain faultless covers

theorem standing_join (who : ReviewerId) :
    standing (log (happen d (.join other who))) channel reviewer =
      if channel? d = some other ∧ other = channel ∧ who = reviewer ∧
          (table d).get? reviewer = some true then some true
      else standing (log d) channel reviewer := by
  by_cases h : channel? d = some other
  · have hlog : log (happen d (.join other who)) =
        log d ++ [d.access.duty.answer d.outside.store other who] := by
      rw [happen_join plain h, log, Outside.enact, Platform.enact_of_no_faults faultless]
      rfl
    rw [hlog, standing_append, standing_answer covers, ← table]
    simp only [h, true_and]
    split_ifs <;> rfl
  · rw [happen_join_of_ne plain h, if_neg fun hall ↦ h hall.1]

/-- Between passes nobody comes in but by an approved request. -/
theorem inside_happen_iff {event : Event} (passless : event ≠ .sync) :
    standing (log (happen d event)) channel reviewer = some true ↔
      event = .join channel reviewer ∧ Answers reviewer true d event ∨
        standing (log d) channel reviewer = some true := by
  cases event with
  | edit edit =>
    simp only [reduceCtorEq, false_and, false_or]
    rfl
  | join other who =>
    rw [standing_join plain faultless covers, answers_join, Event.join.injEq]
    split_ifs with hcomes
    · obtain ⟨hchannel, hother, hwho, hright⟩ := hcomes
      exact iff_of_true rfl (Or.inl ⟨⟨hother, hwho⟩, ⟨hchannel, hwho⟩, hright⟩)
    · refine (or_iff_right ?_).symm
      rintro ⟨⟨hother, hwho⟩, ⟨hchannel, -⟩, hright⟩
      exact hcomes ⟨hchannel, hother, hwho, hright⟩
  | sync => exact absurd rfl passless

theorem standing_sync (h : channel? d = some other) :
    standing (log (happen d .sync)) channel reviewer =
      if other = channel ∧ (d.access.tracked.known other).get? reviewer ≠ (table d).get? reviewer
      then some ((table d).allows reviewer)
      else standing (log d) channel reviewer := by
  have hrights : (rights d).get? reviewer = (table d).get? reviewer := covers.get?_rights
  rw [standing_pass plain faultless h, Rights.allows, Rights.allows, hrights]

end Smooth

/-- Nothing goes wrong, nothing is tracked, and nothing was done to members. -/
structure Fresh (d : Desk) : Prop where
  plain : d.outside.Plain
  faultless : d.outside.platform.memberFaults = []
  untracked : d.access.tracked = {}
  untouched : log d = []

/-- A desk of which nothing runs, over an empty store. -/
def lobby : Desk := Desk.idle "reviews" { store := { noticeChannel := "reviews" } }

theorem fresh_lobby : Fresh lobby := ⟨⟨rfl, rfl⟩, rfl, rfl, rfl⟩

/-- The same over a store with a channel for deposits. -/
def opened : Desk := lobby.modifyStore (·.setChannel .deposit (some ⟨-1⟩))

theorem fresh_opened : Fresh opened := ⟨⟨rfl, rfl⟩, rfl, rfl, rfl⟩

theorem covers_lobby : lobby.access.duty.Covers ⟨7⟩ := ⟨by decide, by decide⟩

end Membership

end ReviewDesk
