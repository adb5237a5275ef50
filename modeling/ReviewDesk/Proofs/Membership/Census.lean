import Mathlib.Data.List.Induction
import Mathlib.Data.List.Infix
import Mathlib.Data.Set.Basic
import ReviewDesk.Proofs.Membership.Rounds

/-!
Passes against a census. A census keeps everybody it has ever seen on the table, and each time it
lets in whoever is allowed and puts out everybody else. A pass operates only on those whose right
differs from the table of the pass before, each once, and still has the same reviewers inside after
it: those whose membership is looked after and who are allowed (`granted_eq_census`).
-/

set_option autoImplicit false
set_option relaxedAutoImplicit false

namespace ReviewDesk.Membership

/-- Who is let in on a channel, as far as the operations on its members tell. -/
def granted (log : List MembershipOp) (channel : ChannelId) : Set ReviewerId :=
  {reviewer | standing log channel reviewer = some true}

theorem mem_granted {log : List MembershipOp} {channel : ChannelId} {reviewer : ReviewerId} :
    reviewer ∈ granted log channel ↔ standing log channel reviewer = some true := Iff.rfl

/-- A reconciler that carries nothing from one pass to the next but whom it has ever seen. -/
structure Census where
  duty : Duty
  store : Store
  seen : List ReviewerId := []
  log : List MembershipOp := []

namespace Census

def rights (c : Census) : Rights := c.duty.rights c.store

/-- Puts out everybody who was ever seen and is not allowed, and lets in everybody who is. -/
def sweep (c : Census) (channel : ChannelId) : Census :=
  let seen := merge c.seen c.rights.reviewers
  let plan : Plan :=
    ⟨seen.filter fun r ↦ !c.rights.allows r, seen.filter fun r ↦ c.rights.allows r, true⟩
  { c with seen := seen, log := c.log ++ plan.operations channel }

def happen (c : Census) : Event → Census
  | .edit edit => { c with store := edit.apply c.store }
  | .join .. => c
  | .sync => match c.store.channel? c.duty.kind with
    | some channel => c.sweep channel
    | none => c

def run (c : Census) (events : List Event) : Census := events.foldl happen c

theorem run_snoc (c : Census) (events : List Event) (event : Event) :
    c.run (events ++ [event]) = (c.run events).happen event :=
  List.foldl_append

/-- The census that looks after the same memberships as a desk. -/
def ofDesk (d : Desk) : Census := ⟨d.access.duty, d.outside.store, [], []⟩

end Census

/-- After a sweep nothing of what was done before it matters. -/
theorem granted_sweep {c : Census} {channel : ChannelId}
    (seen : ∀ reviewer ∈ granted c.log channel, reviewer ∈ c.seen) :
    granted (c.sweep channel).log channel = {reviewer | c.rights.allows reviewer} := by
  ext reviewer
  have hmem : c.rights.allows reviewer ∨ standing c.log channel reviewer = some true →
      reviewer ∈ merge c.seen c.rights.reviewers := fun hwas ↦
    mem_merge.mpr (hwas.symm.imp (seen reviewer) Rights.mem_reviewers_of_allows)
  rw [mem_granted, Census.sweep, standing_append, standing_plan]
  simp only [true_and, List.mem_filter, Bool.not_eq_true', Set.mem_ofPred_eq]
  cases hallows : c.rights.allows reviewer with
  | true => simp [hmem (Or.inl hallows)]
  | false =>
    by_cases hseen : reviewer ∈ merge c.seen c.rights.reviewers
    · simp [hseen]
    · have hnever : standing c.log channel reviewer ≠ some true := fun hgranted ↦
        hseen (hmem (Or.inr hgranted))
      simpa [hseen] using hnever

/-- Whoever is inside is tracked as allowed, and nobody else is. -/
def Settled (channel : ChannelId) (d : Desk) : Prop :=
  ∀ reviewer, reviewer ∈ granted (log d) channel ↔
    (d.access.tracked.known channel).get? reviewer = some true

theorem granted_pass {d : Desk} (plain : d.outside.Plain)
    (faultless : d.outside.platform.memberFaults = []) {channel : ChannelId}
    (h : channel? d = some channel) (settled : Settled channel d) :
    granted (log (happen d .sync)) channel = {reviewer | (rights d).allows reviewer} := by
  ext reviewer
  rw [mem_granted, standing_pass plain faultless h, Set.mem_ofPred_eq]
  split_ifs with hdiffers
  · exact Option.some_inj
  · have hsame : (d.access.tracked.known channel).get? reviewer = (rights d).get? reviewer :=
      not_not.mp fun hne ↦ hdiffers ⟨rfl, hne⟩
    rw [← mem_granted, settled reviewer, hsame, Rights.allows_iff]

/-- A desk and a census that have seen the same edits have the same reviewers inside. -/
structure Mirrors (channel : ChannelId) (d : Desk) (c : Census) : Prop where
  duty : c.duty = d.access.duty
  store : c.store = d.outside.store
  granted_eq : granted (log d) channel = granted c.log channel
  settled : Settled channel d
  seen : ∀ reviewer ∈ granted c.log channel, reviewer ∈ c.seen

namespace Mirrors

variable {channel : ChannelId} {d : Desk} {c : Census}

theorem rights (mirrors : Mirrors channel d c) : c.rights = Membership.rights d := by
  rw [Census.rights, mirrors.duty, mirrors.store, Membership.rights]

theorem happen_sync (mirrors : Mirrors channel d c) (h : channel? d = some channel) :
    c.happen .sync = c.sweep channel := by
  have hchannel : c.store.channel? c.duty.kind = some channel := by
    rw [mirrors.store, mirrors.duty]
    exact h
  simp only [Census.happen, hchannel]

end Mirrors

theorem mirrors_ofDesk {d : Desk} (fresh : Fresh d) (channel : ChannelId) :
    Mirrors channel d (Census.ofDesk d) := by
  have hnobody : ∀ reviewer, reviewer ∉ granted [] channel := fun reviewer hgranted ↦ by
    cases mem_granted.mp hgranted
  refine ⟨rfl, rfl, congrArg (granted · channel) fresh.untouched, fun reviewer ↦ ?_,
    fun reviewer hgranted ↦ absurd hgranted (hnobody reviewer)⟩
  rw [fresh.untouched, fresh.untracked]
  exact iff_of_false (hnobody reviewer) (by simp [Tracked.known])

section Step

variable {d : Desk} (plain : d.outside.Plain)
  (faultless : d.outside.platform.memberFaults = []) {channel : ChannelId}
  (h : channel? d = some channel) {c : Census} (mirrors : Mirrors channel d c)
include plain faultless h mirrors

/-- After a pass the same reviewers are inside as after a sweep, all who are allowed. -/
theorem Mirrors.granted_sync :
    granted (log (happen d .sync)) channel = {reviewer | (Membership.rights d).allows reviewer} ∧
      granted (c.happen .sync).log channel =
        {reviewer | (Membership.rights d).allows reviewer} := by
  rw [mirrors.happen_sync h, granted_sweep mirrors.seen, mirrors.rights]
  exact ⟨granted_pass plain faultless h mirrors.settled, rfl⟩

theorem mirrors_happen {event : Event} (joinless : ∀ other reviewer, event ≠ .join other reviewer) :
    Mirrors channel (happen d event) (c.happen event) := by
  cases event with
  | edit edit =>
    exact ⟨mirrors.duty, congrArg edit.apply mirrors.store, mirrors.granted_eq, mirrors.settled,
      mirrors.seen⟩
  | join other reviewer => exact absurd rfl (joinless other reviewer)
  | sync =>
    obtain ⟨hdesk, hcensus⟩ := mirrors.granted_sync plain faultless h
    refine ⟨?_, ?_, hdesk.trans hcensus.symm, fun reviewer ↦ ?_, fun reviewer hgranted ↦ ?_⟩
    · rw [mirrors.happen_sync h, happen_sync_of_some plain h]
      exact mirrors.duty
    · rw [mirrors.happen_sync h, happen_sync_of_some plain h]
      exact mirrors.store
    · rw [hdesk, happen_sync_of_some plain h, Tracked.known_of_channel rfl]
      exact Rights.allows_iff
    · rw [hcensus, ← mirrors.rights] at hgranted
      rw [mirrors.happen_sync h]
      exact mem_merge.mpr (Or.inr (Rights.mem_reviewers_of_allows hgranted))

end Step

/-- The same channel is configured at every point of a history. -/
def Steady (d : Desk) (events : List Event) (channel : ChannelId) : Prop :=
  ∀ before, before <+: events → channel? (run d before) = some channel

theorem mirrors_run {d : Desk} (fresh : Fresh d) {events : List Event} {channel : ChannelId}
    (steady : Steady d events channel)
    (joinless : ∀ other reviewer, .join other reviewer ∉ events) :
    Mirrors channel (run d events) ((Census.ofDesk d).run events) := by
  induction events using List.reverseRecOn with
  | nil => exact mirrors_ofDesk fresh channel
  | append_singleton events event ih =>
    obtain ⟨-, hplain, hfaults⟩ := frame_run fresh.plain events
    have hearlier := ih
      (fun before hbefore ↦ steady before (hbefore.trans (List.prefix_append _ _)))
      fun other reviewer hmem ↦ joinless other reviewer (List.mem_append_left _ hmem)
    rw [run_snoc, Census.run_snoc]
    refine mirrors_happen hplain (hfaults.trans fresh.faultless)
      (steady events (List.prefix_append _ _)) hearlier ?_
    rintro other reviewer rfl
    exact joinless other reviewer (List.mem_append_right _ (List.mem_singleton_self _))

/-! ### Whom a pass operates on -/

/-- The reviewers that a pass operates on, in the order of its operations. -/
def touched (d : Desk) : List ReviewerId :=
  ((passCalls d).filterMap Call.memberOp?).map MembershipOp.reviewer

theorem touched_eq {d : Desk} (plain : d.outside.Plain) {channel : ChannelId}
    (h : channel? d = some channel) :
    touched d = (plan d.access.tracked (rights d) channel).revoke ++
      (plan d.access.tracked (rights d) channel).restore := by
  rw [touched, passCalls, calls_pass_of_some plain _ h, ← rights]
  simp only [List.filterMap_cons, Call.memberOp?]
  rw [Call.filterMap_memberOp?_map, Plan.map_reviewer_operations]

theorem tracked_run_of_edits {d : Desk} {events : List Event}
    (edits : ∀ event ∈ events, ∃ edit, event = .edit edit) :
    (run d events).access.tracked = d.access.tracked := by
  induction events generalizing d with
  | nil => rfl
  | cons event events ih =>
    obtain ⟨edit, rfl⟩ := edits event List.mem_cons_self
    exact ih fun event hmem ↦ edits event (List.mem_cons_of_mem _ hmem)

theorem granted_eq_census {d : Desk} (fresh : Fresh d) {events : List Event} {channel : ChannelId}
    (steady : Steady d events channel)
    (joinless : ∀ other reviewer, .join other reviewer ∉ events) :
    granted (log (run d (events ++ [.sync]))) channel =
        granted ((Census.ofDesk d).run (events ++ [.sync])).log channel ∧
      granted (log (run d (events ++ [.sync]))) channel =
        {reviewer | d.access.duty.Covers reviewer ∧ (table (run d events)).allows reviewer} ∧
      ∀ before between, events = before ++ .sync :: between → .sync ∉ between →
        (touched (run d events)).Nodup ∧ ∀ reviewer, reviewer ∈ touched (run d events) ↔
          d.access.duty.Covers reviewer ∧
            (table (run d before)).get? reviewer ≠ (table (run d events)).get? reviewer := by
  obtain ⟨hduty, hplain, hfaults⟩ := frame_run fresh.plain events
  have hchannel := steady events (List.prefix_refl _)
  obtain ⟨hdesk, hcensus⟩ := (mirrors_run fresh steady joinless).granted_sync hplain
    (hfaults.trans fresh.faultless) hchannel
  rw [run_snoc, Census.run_snoc, hdesk, hcensus]
  refine ⟨rfl, ?_, ?_⟩
  · ext reviewer
    rw [Set.mem_ofPred_eq, Rights.allows_iff, get?_rights, hduty, Set.mem_ofPred_eq,
      Rights.allows_iff]
    split_ifs with hcovers <;> simp [hcovers]
  · rintro before between hsplit hbetween
    obtain ⟨hearlier, hplainBefore, -⟩ := frame_run fresh.plain before
    have hchannelBefore : channel? (run d before) = some channel :=
      steady before (hsplit ▸ List.prefix_append _ _)
    -- Between the two passes there are edits only, so the second goes by what the first tracked.
    have htracked : (run d events).access.tracked = ⟨rights (run d before), some channel⟩ := by
      have hedits : ∀ event ∈ between, ∃ edit, event = .edit edit := by
        rintro (edit | ⟨other, reviewer⟩ | _) hmem
        · exact ⟨edit, rfl⟩
        · exact absurd (by simp [hsplit, hmem]) (joinless other reviewer)
        · exact absurd hmem hbetween
      have hrun : run d events = run (happen (run d before) .sync) between := by
        rw [hsplit, run, List.foldl_append]
        rfl
      rw [hrun, tracked_run_of_edits hedits, happen_sync_of_some hplainBefore hchannelBefore]
    rw [touched_eq hplain hchannel]
    refine ⟨nodup_plan _ _ _, fun reviewer ↦ ?_⟩
    rw [mem_plan, htracked, Tracked.known_of_channel rfl, get?_rights, get?_rights, hduty, hearlier]
    split_ifs with hcovers <;> simp [hcovers]

/-- One reviewer stays, though their right goes and comes back between two passes; one leaves and
one is new. -/
def turnover : List Event :=
  [.edit (.setRight .deposit ⟨7⟩ true), .edit (.setRight .deposit ⟨8⟩ true), .sync,
    .edit (.setRight .deposit ⟨7⟩ false), .edit (.setRight .deposit ⟨7⟩ true),
    .edit (.removeReviewer .deposit ⟨8⟩), .edit (.setRight .deposit ⟨9⟩ true)]

theorem granted_eq_census_turnover :
    Fresh opened ∧ Steady opened turnover ⟨-1⟩ ∧
      (∀ other reviewer, .join other reviewer ∉ turnover) ∧
      granted (log (run opened (turnover ++ [.sync]))) ⟨-1⟩ =
        granted ((Census.ofDesk opened).run (turnover ++ [.sync])).log ⟨-1⟩ ∧
      ⟨7⟩ ∈ granted (log (run opened (turnover ++ [.sync]))) ⟨-1⟩ ∧
      ⟨8⟩ ∉ granted (log (run opened (turnover ++ [.sync]))) ⟨-1⟩ ∧
      ⟨7⟩ ∉ touched (run opened turnover) ∧ ⟨8⟩ ∈ touched (run opened turnover) := by
  have hsteady : Steady opened turnover ⟨-1⟩ := by
    intro before hbefore
    rw [← List.mem_inits] at hbefore
    revert before
    decide +kernel
  have hjoinless : ∀ other reviewer, .join other reviewer ∉ turnover := by simp [turnover]
  obtain ⟨hcensus, hgranted, htouched⟩ := granted_eq_census fresh_opened hsteady hjoinless
  obtain ⟨-, hmem⟩ := htouched (turnover.take 2) (turnover.drop 3) rfl (by simp [turnover])
  refine ⟨fresh_opened, hsteady, hjoinless, hcensus, ?_, ?_, ?_, ?_⟩
  · rw [hgranted]
    exact ⟨by decide, by decide +kernel⟩
  · rw [hgranted]
    exact fun hallowed ↦ absurd hallowed.2 (by decide +kernel)
  · rw [hmem]
    exact fun hdiffers ↦ hdiffers.2 (by decide +kernel)
  · rw [hmem]
    exact ⟨by decide, by decide +kernel⟩

end ReviewDesk.Membership
