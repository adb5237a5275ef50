import Mathlib.Data.List.Pairwise
import Mathlib.Tactic.Tauto
import ReviewDesk.Membership.Plan

/-!
Whom a plan touches. It goes by what is known of the members of the channel, which is what was
tracked if that was about the same channel and nothing otherwise. A reviewer is touched exactly if
what is known of them differs from the table: restored if the table allows them (`mem_restore_plan`)
and revoked if it does not (`mem_revoke_plan`). Both lists are ascending, so nobody is touched twice
(`nodup_plan`).
-/

set_option autoImplicit false
set_option relaxedAutoImplicit false

namespace ReviewDesk

namespace Rights

theorem mem_entries_iff {rights : Rights} {reviewer : ReviewerId} {allowed : Bool} :
    (reviewer, allowed) ∈ rights.entries ↔ rights.get? reviewer = some allowed := by
  constructor
  · intro hmem
    have hfound : (rights.entries.find? (·.1 = reviewer)).isSome := by
      rw [List.find?_isSome]
      exact ⟨(reviewer, allowed), hmem, decide_eq_true rfl⟩
    obtain ⟨entry, hentry⟩ := Option.isSome_iff_exists.mp hfound
    have hkey : entry.1 = reviewer := by simpa using List.find?_some hentry
    have hdistinct : rights.entries.Pairwise fun a b ↦ a.1 ≠ b.1 :=
      rights.ascending.imp fun {a b} (hlt : a.1 < b.1) (heq : a.1 = b.1) ↦
        ReviewerId.lt_irrefl b.1 (heq ▸ hlt)
    have : Std.Symm fun a b : ReviewerId × Bool ↦ a.1 ≠ b.1 := ⟨fun _ _ hne ↦ hne.symm⟩
    have hsame : entry = (reviewer, allowed) := by
      by_contra hne
      exact hdistinct.forall (List.mem_of_find?_eq_some hentry) hmem hne hkey
    rw [get?, hentry, hsame]
    rfl
  · intro hget
    obtain ⟨entry, hentry, hallowed⟩ := Option.map_eq_some_iff.mp hget
    have hkey : entry.1 = reviewer := by simpa using List.find?_some hentry
    have hsame : entry = (reviewer, allowed) := Prod.ext hkey hallowed
    exact hsame ▸ List.mem_of_find?_eq_some hentry

theorem mem_reviewers_iff {rights : Rights} {reviewer : ReviewerId} :
    reviewer ∈ rights.reviewers ↔ rights.get? reviewer ≠ none := by
  rw [reviewers, List.mem_map, Option.ne_none_iff_exists']
  constructor
  · rintro ⟨⟨key, allowed⟩, hmem, rfl⟩
    exact ⟨allowed, mem_entries_iff.mp hmem⟩
  · rintro ⟨allowed, hget⟩
    exact ⟨(reviewer, allowed), mem_entries_iff.mpr hget, rfl⟩

theorem allows_iff {rights : Rights} {reviewer : ReviewerId} :
    rights.allows reviewer ↔ rights.get? reviewer = some true := by
  rw [allows]
  rcases rights.get? reviewer with _ | _ | _ <;> simp

theorem mem_reviewers_of_allows {rights : Rights} {reviewer : ReviewerId}
    (h : rights.allows reviewer) : reviewer ∈ rights.reviewers := by
  rw [mem_reviewers_iff, allows_iff.mp h]
  exact Option.some_ne_none true

end Rights

namespace Membership

theorem mem_insertReviewer {reviewer other : ReviewerId} {held : List ReviewerId} :
    reviewer ∈ insertReviewer other held ↔ reviewer = other ∨ reviewer ∈ held := by
  induction held with
  | nil => simp [insertReviewer]
  | cons first rest ih =>
    unfold insertReviewer
    split
    · next heq =>
      rw [heq, List.mem_cons]
      tauto
    · split
      · exact List.mem_cons
      · rw [List.mem_cons, ih, List.mem_cons]
        tauto

theorem mem_merge {reviewer : ReviewerId} {a b : List ReviewerId} :
    reviewer ∈ merge a b ↔ reviewer ∈ a ∨ reviewer ∈ b := by
  induction b generalizing a with
  | nil => simp [merge]
  | cons first rest ih =>
    rw [merge, List.foldl_cons, ← merge, ih, mem_insertReviewer, List.mem_cons]
    tauto

theorem mem_changed {previous current : Rights} {allowed : Bool} {reviewer : ReviewerId} :
    reviewer ∈ changed previous current allowed ↔
      current.get? reviewer = some allowed ∧ previous.get? reviewer ≠ some allowed := by
  rw [changed, List.mem_map]
  constructor
  · rintro ⟨⟨key, held⟩, hmem, rfl⟩
    obtain ⟨hentry, hdiffers⟩ := List.mem_filter.mp hmem
    obtain ⟨rfl, hprevious⟩ : held = allowed ∧ previous.get? key ≠ some allowed := by
      simpa using hdiffers
    exact ⟨Rights.mem_entries_iff.mp hentry, hprevious⟩
  · rintro ⟨hcurrent, hprevious⟩
    refine ⟨(reviewer, allowed), List.mem_filter.mpr ⟨Rights.mem_entries_iff.mpr hcurrent, ?_⟩, rfl⟩
    simpa using hprevious

theorem mem_vanished {previous current : Rights} {reviewer : ReviewerId} :
    reviewer ∈ vanished previous current ↔
      previous.get? reviewer ≠ none ∧ current.get? reviewer = none := by
  rw [vanished, List.mem_filter, Rights.mem_reviewers_iff, Rights.contains_eq_isSome,
    Bool.not_eq_true', Option.isSome_eq_false_iff, Option.isNone_iff_eq_none]

theorem pairwise_insertReviewer (reviewer : ReviewerId) {held : List ReviewerId}
    (h : held.Pairwise (· < ·)) : (insertReviewer reviewer held).Pairwise (· < ·) := by
  induction held with
  | nil => exact List.pairwise_singleton _ _
  | cons first rest ih =>
    obtain ⟨hfirst, hrest⟩ := List.pairwise_cons.mp h
    unfold insertReviewer
    split
    · exact h
    · next hne =>
      split
      · next hlt =>
        refine List.pairwise_cons.mpr ⟨fun other hother ↦ ?_, h⟩
        rcases List.mem_cons.mp hother with rfl | hother
        · exact hlt
        · exact ReviewerId.lt_trans hlt (hfirst other hother)
      · next hnlt =>
        refine List.pairwise_cons.mpr ⟨fun other hother ↦ ?_, ih hrest⟩
        rcases mem_insertReviewer.mp hother with rfl | hother
        · exact ReviewerId.lt_of_not_lt hnlt hne
        · exact hfirst other hother

theorem pairwise_merge {a : List ReviewerId} (h : a.Pairwise (· < ·)) (b : List ReviewerId) :
    (merge a b).Pairwise (· < ·) := by
  induction b generalizing a with
  | nil => exact h
  | cons first rest ih => exact ih (pairwise_insertReviewer first h)

theorem pairwise_changed (previous current : Rights) (allowed : Bool) :
    (changed previous current allowed).Pairwise (· < ·) :=
  List.pairwise_map.mpr (current.ascending.filter _)

/-- What is known of the members of a channel. -/
def Tracked.known (tracked : Tracked) (channel : ChannelId) : Rights :=
  if tracked.channel = some channel then tracked.rights else .empty

theorem Tracked.known_of_channel {tracked : Tracked} {channel : ChannelId}
    (h : tracked.channel = some channel) : tracked.known channel = tracked.rights := if_pos h

theorem Tracked.known_of_ne {tracked : Tracked} {channel : ChannelId}
    (h : tracked.channel ≠ some channel) : tracked.known channel = .empty := if_neg h

theorem Tracked.get?_known_eq_some_iff {tracked : Tracked} {channel : ChannelId}
    {reviewer : ReviewerId} {allowed : Bool} :
    (tracked.known channel).get? reviewer = some allowed ↔
      tracked.channel = some channel ∧ tracked.rights.get? reviewer = some allowed := by
  by_cases hchannel : tracked.channel = some channel
  · rw [known_of_channel hchannel, and_iff_right hchannel]
  · simp [known_of_ne hchannel, hchannel]

section Plan

variable {tracked : Tracked} {current : Rights} {channel : ChannelId} {reviewer : ReviewerId}

theorem fullScan_plan :
    (plan tracked current channel).fullScan ↔ tracked.channel ≠ some channel := by
  unfold plan
  split <;> simp [*]

theorem mem_restore_plan :
    reviewer ∈ (plan tracked current channel).restore ↔
      (tracked.known channel).get? reviewer ≠ current.get? reviewer ∧
        current.get? reviewer = some true := by
  have hrestore : (plan tracked current channel).restore =
      changed (tracked.known channel) current true := by
    unfold plan Tracked.known
    split <;> rfl
  rw [hrestore, mem_changed]
  constructor
  · rintro ⟨hcurrent, hknown⟩
    exact ⟨hcurrent ▸ hknown, hcurrent⟩
  · rintro ⟨hdiffers, hcurrent⟩
    exact ⟨hcurrent, hcurrent ▸ hdiffers⟩

theorem mem_revoke_plan :
    reviewer ∈ (plan tracked current channel).revoke ↔
      (tracked.known channel).get? reviewer ≠ current.get? reviewer ∧
        current.get? reviewer ≠ some true := by
  have hrevoke : reviewer ∈ (plan tracked current channel).revoke ↔
      reviewer ∈ changed (tracked.known channel) current false ∨
        reviewer ∈ vanished (tracked.known channel) current := by
    unfold plan Tracked.known
    split
    · exact mem_merge
    · simp [mem_vanished]
  rw [hrevoke, mem_changed, mem_vanished]
  rcases current.get? reviewer with _ | _ | _ <;> simp

theorem pairwise_revoke_plan (tracked : Tracked) (current : Rights) (channel : ChannelId) :
    (plan tracked current channel).revoke.Pairwise (· < ·) := by
  unfold plan
  split
  · exact pairwise_merge (pairwise_changed _ _ _) _
  · exact pairwise_changed _ _ _

theorem pairwise_restore_plan (tracked : Tracked) (current : Rights) (channel : ChannelId) :
    (plan tracked current channel).restore.Pairwise (· < ·) := by
  unfold plan
  split <;> exact pairwise_changed _ _ _

theorem mem_plan : reviewer ∈ (plan tracked current channel).revoke ++
      (plan tracked current channel).restore ↔
    (tracked.known channel).get? reviewer ≠ current.get? reviewer := by
  rw [List.mem_append, mem_revoke_plan, mem_restore_plan, ← and_or_left]
  exact and_iff_left (em' _)

/-- A plan that starts over lets in whoever may review. -/
theorem mem_restore_plan_of_ne (h : tracked.channel ≠ some channel) :
    reviewer ∈ (plan tracked current channel).restore ↔ current.get? reviewer = some true := by
  rw [mem_restore_plan, Tracked.known_of_ne h, Rights.get?_empty]
  refine and_iff_right_of_imp fun hallowed ↦ ?_
  rw [hallowed]
  exact (Option.some_ne_none true).symm

theorem not_mem_restore_of_mem_revoke (h : reviewer ∈ (plan tracked current channel).revoke) :
    reviewer ∉ (plan tracked current channel).restore := fun hrestore ↦
  (mem_revoke_plan.mp h).2 (mem_restore_plan.mp hrestore).2

theorem nodup_plan (tracked : Tracked) (current : Rights) (channel : ChannelId) :
    ((plan tracked current channel).revoke ++ (plan tracked current channel).restore).Nodup := by
  have hne : ∀ {a b : ReviewerId}, a < b → a ≠ b := fun {a b} hlt heq ↦
    ReviewerId.lt_irrefl b (heq ▸ hlt)
  refine List.nodup_append.mpr ⟨(pairwise_revoke_plan tracked current channel).imp hne,
    (pairwise_restore_plan tracked current channel).imp hne, ?_⟩
  rintro revoked hrevoked restored hrestored rfl
  exact (mem_revoke_plan.mp hrevoked).2 (mem_restore_plan.mp hrestored).2

end Plan

end Membership

end ReviewDesk
