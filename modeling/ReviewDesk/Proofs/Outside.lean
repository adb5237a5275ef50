import ReviewDesk.Outside
import ReviewDesk.Proofs.Shelf.Claims

/-!
Calls where nothing stands between the desk and what it calls: the answers are then those of the
store and of the platform themselves. Without that, what a call can do to the items is still no more
than claiming some of them, so that a claimed item stays as it is (`target?_answer`).
-/

set_option autoImplicit false
set_option relaxedAutoImplicit false

namespace ReviewDesk

namespace Store

theorem target?_claim {store : Store} {id : ItemId} {held : MessageRef}
    (h : store.shelf.target? id = some held) (kind : Kind) (other : ItemId)
    (target : MessageRef) : (store.claim kind other target).2.shelf.target? id = some held := by
  by_cases hopen : store.IsOpen kind other
  · have hne : id ≠ other := by
      rintro rfl
      exact not_isOpen_of_target? h hopen
    rw [claim_of_isOpen target hopen, Shelf.target?_setTarget_of_ne target hne, h]
  · rw [claim_of_not_isOpen target hopen, h]

theorem target?_claim_of_won {store : Store} {kind : Kind} {id : ItemId} {target : MessageRef}
    (h : (store.claim kind id target).1 = true) :
    (store.claim kind id target).2.shelf.target? id = some target := by
  have hopen := claim_eq_true_iff.mp h
  rw [claim_of_isOpen target hopen]
  obtain ⟨item, hget, -, -⟩ := hopen
  exact Shelf.target?_setTarget_self target hget

end Store

namespace Outside

/-- Nothing stands between the desk and what it calls: there is no outage, and no rival who gets in
before a post. -/
structure Plain (o : Outside) : Prop where
  outages : o.outages = {}
  rivals : o.rivals = []

section Plain

variable {o : Outside}

theorem Plain.with_store (h : o.Plain) (store : Store) :
    Outside.Plain { o with store := store } :=
  ⟨h.outages, h.rivals⟩

theorem Plain.with_platform (h : o.Plain) (platform : Platform) :
    Outside.Plain { o with platform := platform } :=
  ⟨h.outages, h.rivals⟩

theorem answer_resolveChannel (h : o.Plain) (kind : Kind) :
    o.answer (.resolveChannel kind) = (.ok (o.store.channel? kind), o) := by
  have hnext : Outage.next o.outages.resolve = (none, none) := by rw [h.outages]; rfl
  simp only [answer, hnext]

theorem answer_fetchPending (h : o.Plain) (kind : Kind) (limit : Nat) :
    o.answer (.fetchPending kind limit) =
      ((o.store.fetch kind limit).1, { o with store := (o.store.fetch kind limit).2 }) := by
  have hnext : Outage.next o.outages.fetch = (none, none) := by rw [h.outages]; rfl
  simp only [answer, hnext]
  rfl

theorem answer_claim (h : o.Plain) (kind : Kind) (item : ItemId) (target : MessageRef) :
    o.answer (.claim kind item target) = (.ok (o.store.claim kind item target).1,
      { o with store := (o.store.claim kind item target).2 }) := by
  have hnext : Outage.next o.outages.claim = (none, none) := by rw [h.outages]; rfl
  simp only [answer, hnext]

theorem answer_currentRights (h : o.Plain) (kind : Kind) :
    o.answer (.currentRights kind) = (.ok (o.store.rights.get kind), o) := by
  have hnext : Outage.next o.outages.rights = (none, none) := by rw [h.outages]; rfl
  simp only [answer, hnext]

theorem answer_publish (h : o.Plain) (channel : ChannelId) (post : Post) :
    o.answer (.publish channel post) = ((o.platform.publish channel post).1,
      { o with platform := (o.platform.publish channel post).2 }) := by
  have halone : o.precede channel post = o := by simp [precede, h.rivals]
  simp only [answer, halone]
  rfl

theorem Plain.answer (h : o.Plain) (call : Call) : (o.answer call).2.Plain := by
  cases call with
  | resolveChannel kind => rwa [answer_resolveChannel h]
  | fetchPending kind limit =>
    rw [answer_fetchPending h]
    exact h.with_store _
  | claim kind item target =>
    rw [answer_claim h]
    exact h.with_store _
  | currentRights kind => rwa [answer_currentRights h]
  | publish channel post =>
    rw [answer_publish h]
    exact h.with_platform _
  | member op => exact h.with_platform _
  | decide call => exact ⟨h.outages, h.rivals⟩

end Plain

/-- All that a call, whatever stands before the store, can do to the store. -/
theorem store_answer (o : Outside) (call : Call) :
    (o.answer call).2.store = o.store ∨
      (∃ kind limit, (o.answer call).2.store = (o.store.fetch kind limit).2) ∨
      ∃ kind item target, (o.answer call).2.store = (o.store.claim kind item target).2 := by
  cases call with
  | resolveChannel kind =>
    rcases hnext : Outage.next o.outages.resolve with ⟨_ | error, left⟩ <;>
      exact Or.inl (by simp only [answer, hnext])
  | fetchPending kind limit =>
    rcases hnext : Outage.next o.outages.fetch with ⟨_ | error, left⟩
    · exact Or.inr (Or.inl ⟨kind, limit, by simp only [answer, hnext]⟩)
    · exact Or.inl (by simp only [answer, hnext])
  | claim kind item target =>
    rcases hnext : Outage.next o.outages.claim with ⟨_ | error, left⟩
    · exact Or.inr (Or.inr ⟨kind, item, target, by simp only [answer, hnext]⟩)
    · exact Or.inl (by simp only [answer, hnext])
  | currentRights kind =>
    rcases hnext : Outage.next o.outages.rights with ⟨_ | error, left⟩ <;>
      exact Or.inl (by simp only [answer, hnext])
  | publish channel post =>
    by_cases hrival : post.item ∈ o.rivals
    · exact Or.inr (Or.inr ⟨post.kind, post.item, rivalTarget channel,
        by simp only [answer, precede, if_pos hrival]⟩)
    · exact Or.inl (by simp only [answer, precede, if_neg hrival])
  | member op => exact Or.inl rfl
  | decide call => exact Or.inl rfl

/-- A claim that is answered with success has been recorded, whatever stands before the store. -/
theorem target?_answer_of_won {o : Outside} {kind : Kind} {id : ItemId} {target : MessageRef}
    (h : (o.answer (.claim kind id target)).1 = .ok true) :
    (o.answer (.claim kind id target)).2.store.shelf.target? id = some target := by
  rcases hnext : Outage.next o.outages.claim with ⟨_ | error, left⟩
  · simp only [answer, hnext] at h ⊢
    exact Store.target?_claim_of_won (Except.ok.inj h)
  · simp only [answer, hnext] at h
    cases h

theorem target?_answer {o : Outside} {id : ItemId} {held : MessageRef}
    (h : o.store.shelf.target? id = some held) (call : Call) :
    (o.answer call).2.store.shelf.target? id = some held := by
  rcases store_answer o call with heq | ⟨kind, limit, heq⟩ | ⟨kind, item, target, heq⟩
  · rwa [heq]
  · rwa [heq, Store.shelf_fetch]
  · rw [heq]
    exact Store.target?_claim h kind item target

end Outside

end ReviewDesk
