import ReviewDesk.Proofs.Membership.Plan

/-!
What a plan leads to. Done in full, it turns what is known of the members into the table for whoever
is on record there, and leaves those who were dropped from it as not allowed (`get?_apply_plan`). A
part of a plan gets there only if it returns everybody whom the plan returns, and omits no revoke
but of those who were dropped and not allowed before (`inLine_apply_iff`). `exact_plan` puts this
together with who is in a plan, for a plan that starts over and for one that goes by what was
tracked.
-/

set_option autoImplicit false
set_option relaxedAutoImplicit false

namespace ReviewDesk.Membership

/-- The table in which whoever the plan revokes is not allowed any more, and whoever it restores
is. -/
def Plan.apply (plan : Plan) (rights : Rights) : Rights :=
  plan.restore.foldl (·.insert · true) (plan.revoke.foldl (·.insert · false) rights)

theorem get?_foldl_insert (allowed : Bool) (reviewers : List ReviewerId) (rights : Rights)
    (reviewer : ReviewerId) :
    (reviewers.foldl (·.insert · allowed) rights).get? reviewer =
      if reviewer ∈ reviewers then some allowed else rights.get? reviewer := by
  induction reviewers generalizing rights with
  | nil => rfl
  | cons first rest ih =>
    rw [List.foldl_cons, ih, Rights.get?_insert]
    by_cases hrest : reviewer ∈ rest
    · rw [if_pos hrest, if_pos (List.mem_cons_of_mem first hrest)]
    · simp only [hrest, List.mem_cons, or_false, if_false]

theorem Plan.get?_apply (plan : Plan) (rights : Rights) (reviewer : ReviewerId) :
    (plan.apply rights).get? reviewer =
      if reviewer ∈ plan.restore then some true
      else if reviewer ∈ plan.revoke then some false
      else rights.get? reviewer := by
  rw [apply, get?_foldl_insert, get?_foldl_insert]

/-- One plan does no more than another. -/
structure Plan.Within (sub plan : Plan) : Prop where
  revoke : sub.revoke ⊆ plan.revoke
  restore : sub.restore ⊆ plan.restore

/-- A table agrees with the current one on everybody on record there, and does not allow those who
were on record before and no longer are. -/
structure InLine (previous current after : Rights) : Prop where
  agrees : ∀ reviewer, current.get? reviewer ≠ none →
    after.get? reviewer = current.get? reviewer
  dropped : ∀ reviewer, previous.get? reviewer ≠ none → current.get? reviewer = none →
    after.get? reviewer = some false

section Plan

variable {tracked : Tracked} {current : Rights} {channel : ChannelId} {reviewer : ReviewerId}

/-- Whoever was dropped from the table is left as not allowed, and everybody else as the table has
them. -/
theorem get?_apply_plan (tracked : Tracked) (current : Rights) (channel : ChannelId)
    (reviewer : ReviewerId) :
    ((plan tracked current channel).apply (tracked.known channel)).get? reviewer =
      (current.get? reviewer).or (((tracked.known channel).get? reviewer).map fun _ ↦ false) := by
  rw [Plan.get?_apply]
  simp only [mem_restore_plan, mem_revoke_plan]
  rcases current.get? reviewer with _ | _ | _ <;>
    rcases (tracked.known channel).get? reviewer with _ | _ | _ <;> simp

theorem inLine_apply_plan (tracked : Tracked) (current : Rights) (channel : ChannelId) :
    InLine (tracked.known channel) current
      ((plan tracked current channel).apply (tracked.known channel)) where
  agrees reviewer hrecord := by
    obtain ⟨allowed, hallowed⟩ := Option.ne_none_iff_exists'.mp hrecord
    rw [get?_apply_plan, hallowed]
    rfl
  dropped reviewer hprevious hcurrent := by
    obtain ⟨allowed, hallowed⟩ := Option.ne_none_iff_exists'.mp hprevious
    rw [get?_apply_plan, hcurrent, hallowed]
    rfl

/-- Somebody was dropped who was not allowed before, so that a revoke changes nothing about them. -/
structure Spared (previous current : Rights) (reviewer : ReviewerId) : Prop where
  dropped : current.get? reviewer = none
  disallowed : previous.get? reviewer = some false

section Within

variable {sub : Plan} (within : sub.Within (plan tracked current channel))
include within

theorem restore_subset_of_inLine
    (h : InLine (tracked.known channel) current (sub.apply (tracked.known channel))) :
    (plan tracked current channel).restore ⊆ sub.restore := by
  intro reviewer hrestore
  obtain ⟨hdiffers, hallowed⟩ := mem_restore_plan.mp hrestore
  have hafter := h.agrees reviewer (by simp [hallowed])
  have hrevoke : reviewer ∉ sub.revoke := fun hsub ↦
    not_mem_restore_of_mem_revoke (within.revoke hsub) hrestore
  by_contra hsub
  rw [Plan.get?_apply, if_neg hsub, if_neg hrevoke] at hafter
  exact hdiffers hafter

theorem spared_of_inLine
    (h : InLine (tracked.known channel) current (sub.apply (tracked.known channel)))
    (hrevoke : reviewer ∈ (plan tracked current channel).revoke) (hsub : reviewer ∉ sub.revoke) :
    Spared (tracked.known channel) current reviewer := by
  have hrestore : reviewer ∉ sub.restore := fun hsub ↦
    not_mem_restore_of_mem_revoke hrevoke (within.restore hsub)
  have hkept : (sub.apply (tracked.known channel)).get? reviewer =
      (tracked.known channel).get? reviewer := by
    rw [Plan.get?_apply, if_neg hrestore, if_neg hsub]
  have hdiffers := (mem_revoke_plan.mp hrevoke).1
  have hdropped : current.get? reviewer = none := by
    by_contra hrecord
    exact hdiffers (hkept ▸ h.agrees reviewer hrecord)
  have hprevious : (tracked.known channel).get? reviewer ≠ none := hdropped ▸ hdiffers
  exact ⟨hdropped, hkept ▸ h.dropped reviewer hprevious hdropped⟩

/-- Where a part of a plan leaves out a revoke that can be spared, what was known is already what
the whole leads to. -/
theorem get?_apply_eq_of_spared (hrestore : (plan tracked current channel).restore ⊆ sub.restore)
    (hspared : ∀ reviewer ∈ (plan tracked current channel).revoke, reviewer ∉ sub.revoke →
      Spared (tracked.known channel) current reviewer) (reviewer : ReviewerId) :
    (sub.apply (tracked.known channel)).get? reviewer =
      ((plan tracked current channel).apply (tracked.known channel)).get? reviewer := by
  have hback : reviewer ∈ sub.restore ↔ reviewer ∈ (plan tracked current channel).restore :=
    ⟨fun h ↦ within.restore h, fun h ↦ hrestore h⟩
  rw [Plan.get?_apply, Plan.get?_apply, if_congr hback rfl rfl]
  by_cases hrevoke : reviewer ∈ (plan tracked current channel).revoke
  · by_cases hsub : reviewer ∈ sub.revoke
    · rw [if_pos hrevoke, if_pos hsub]
    · rw [if_pos hrevoke, if_neg hsub, (hspared reviewer hrevoke hsub).disallowed]
  · rw [if_neg hrevoke, if_neg fun hsub ↦ hrevoke (within.revoke hsub)]

theorem inLine_apply_iff :
    InLine (tracked.known channel) current (sub.apply (tracked.known channel)) ↔
      (plan tracked current channel).restore ⊆ sub.restore ∧
        ∀ reviewer ∈ (plan tracked current channel).revoke, reviewer ∉ sub.revoke →
          Spared (tracked.known channel) current reviewer := by
  constructor
  · exact fun h ↦ ⟨restore_subset_of_inLine within h, fun _ ↦ spared_of_inLine within h⟩
  · rintro ⟨hrestore, hspared⟩
    have hwhole := inLine_apply_plan tracked current channel
    have hsame := get?_apply_eq_of_spared within hrestore hspared
    exact ⟨fun reviewer hrecord ↦ (hsame reviewer).trans (hwhole.agrees reviewer hrecord),
      fun reviewer hprevious hcurrent ↦
        (hsame reviewer).trans (hwhole.dropped reviewer hprevious hcurrent)⟩

end Within

theorem ne_none_of_mem_plan (h : reviewer ∈ (plan tracked current channel).revoke ++
      (plan tracked current channel).restore) :
    tracked.rights.get? reviewer ≠ none ∨ current.get? reviewer ≠ none := by
  by_contra hneither
  obtain ⟨hprevious, hcurrent⟩ := not_or.mp hneither
  refine mem_plan.mp h ?_
  rw [not_not.mp hcurrent, Tracked.known]
  split
  · exact not_not.mp hprevious
  · rfl

/-- A plan touches nobody whose membership is known to agree with the table. -/
theorem plan_of_known_eq (h : tracked.known channel = current) :
    plan tracked current channel = ⟨[], [], decide (tracked.channel ≠ some channel)⟩ := by
  have hrevoke : (plan tracked current channel).revoke = [] :=
    List.eq_nil_iff_forall_not_mem.mpr fun _ hmem ↦ (mem_revoke_plan.mp hmem).1 (h ▸ rfl)
  have hrestore : (plan tracked current channel).restore = [] :=
    List.eq_nil_iff_forall_not_mem.mpr fun _ hmem ↦ (mem_restore_plan.mp hmem).1 (h ▸ rfl)
  have hfull : (plan tracked current channel).fullScan = decide (tracked.channel ≠ some channel) :=
    Bool.eq_iff_iff.mpr (fullScan_plan.trans decide_eq_true_iff.symm)
  calc plan tracked current channel
      = ⟨(plan tracked current channel).revoke, (plan tracked current channel).restore,
          (plan tracked current channel).fullScan⟩ := rfl
    _ = ⟨[], [], decide (tracked.channel ≠ some channel)⟩ := by rw [hrevoke, hrestore, hfull]

end Plan

/-- What makes a plan the right one, and the least, to get from what was tracked to a table. -/
structure Plan.Exact (plan : Plan) (tracked : Tracked) (current : Rights) (channel : ChannelId) :
    Prop where
  fullScan_iff : plan.fullScan = true ↔ tracked.channel ≠ some channel
  ascending : plan.revoke.Pairwise (· < ·) ∧ plan.restore.Pairwise (· < ·)
  mem_of_fullScan : plan.fullScan = true → ∀ reviewer,
    (reviewer ∈ plan.revoke ↔ current.get? reviewer = some false) ∧
      (reviewer ∈ plan.restore ↔ current.get? reviewer = some true)
  /-- A plan that starts over takes no account of the rights that were tracked. -/
  anew : plan.fullScan = true → ∀ rights : Rights,
    Membership.plan { tracked with rights } current channel = plan
  mem_restore : plan.fullScan = false → ∀ reviewer, reviewer ∈ plan.restore ↔
    current.get? reviewer = some true ∧ tracked.rights.get? reviewer ≠ some true
  mem_revoke : plan.fullScan = false → ∀ reviewer, reviewer ∈ plan.revoke ↔
    (current.get? reviewer = some false ∧ tracked.rights.get? reviewer ≠ some false) ∨
      (tracked.rights.get? reviewer ≠ none ∧ current.get? reviewer = none)
  disjoint : plan.revoke.Disjoint plan.restore
  subset : plan.revoke ++ plan.restore ⊆ tracked.rights.reviewers ++ current.reviewers
  inLine : plan.fullScan = false → InLine tracked.rights current (plan.apply tracked.rights)
  /-- Which parts of the plan would do as well. -/
  minimal : plan.fullScan = false → ∀ sub : Plan, sub.Within plan →
    (InLine tracked.rights current (sub.apply tracked.rights) ↔
      plan.restore ⊆ sub.restore ∧ ∀ reviewer ∈ plan.revoke, reviewer ∉ sub.revoke →
        Spared tracked.rights current reviewer)
  /-- Nothing is left to do on this channel once the table has been tracked. -/
  again : Membership.plan ⟨current, some channel⟩ current channel = ⟨[], [], false⟩

theorem exact_plan (tracked : Tracked) (current : Rights) (channel : ChannelId) :
    (plan tracked current channel).Exact tracked current channel := by
  have hknown : (plan tracked current channel).fullScan = false →
      tracked.known channel = tracked.rights := by
    intro hfull
    refine Tracked.known_of_channel (by_contra fun hne ↦ ?_)
    exact Bool.false_ne_true (hfull.symm.trans (fullScan_plan.mpr hne))
  constructor
  case fullScan_iff => exact fullScan_plan
  case ascending =>
    exact ⟨pairwise_revoke_plan tracked current channel, pairwise_restore_plan tracked current
      channel⟩
  case mem_of_fullScan =>
    intro hfull reviewer
    have hne : tracked.channel ≠ some channel := fullScan_plan.mp hfull
    rw [mem_revoke_plan, mem_restore_plan_of_ne hne, Tracked.known_of_ne hne, Rights.get?_empty]
    rcases current.get? reviewer with _ | _ | _ <;> simp
  case anew =>
    intro hfull rights
    have hne : tracked.channel ≠ some channel := fullScan_plan.mp hfull
    rw [plan, plan, if_neg hne, if_neg hne]
  case mem_restore =>
    intro hfull reviewer
    rw [mem_restore_plan, hknown hfull]
    rcases current.get? reviewer with _ | _ | _ <;> simp
  case mem_revoke =>
    intro hfull reviewer
    rw [mem_revoke_plan, hknown hfull]
    rcases current.get? reviewer with _ | _ | _ <;> simp
  case disjoint => exact fun reviewer hrevoke ↦ not_mem_restore_of_mem_revoke hrevoke
  case subset =>
    intro reviewer hmem
    rw [List.mem_append, Rights.mem_reviewers_iff, Rights.mem_reviewers_iff]
    exact ne_none_of_mem_plan hmem
  case inLine => exact fun hfull ↦ hknown hfull ▸ inLine_apply_plan tracked current channel
  case minimal => exact fun hfull sub within ↦ hknown hfull ▸ inLine_apply_iff within
  case again =>
    exact (plan_of_known_eq (Tracked.known_of_channel rfl)).trans (by simp)

end ReviewDesk.Membership
