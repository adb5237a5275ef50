import ReviewDesk.Proofs.Dispatch.Conversation
import ReviewDesk.Proofs.Dispatch.Deliveries

/-!
How a pass ends without a report. A call by which a kind is looked through has failed, and whatever
was claimed by then is of the kinds before that one (`Halted`). Unless trouble began under way, no
such call fails once both have gone through for an earlier kind (`Calm`).
-/

set_option autoImplicit false
set_option relaxedAutoImplicit false

namespace ReviewDesk

open Talk Procedure

/-! ### Calls by which a kind is looked through -/

/-- The kind that a call serves to look through. -/
def Call.scanned? : Call → Option Kind
  | .resolveChannel kind | .fetchPending kind _ => some kind
  | _ => none

theorem Exchange.Failed.scanned_ne_none {exchange : Exchange} (h : exchange.Failed) :
    exchange.call.scanned? ≠ none := by
  rcases exchange with ⟨call, reply⟩
  cases call with
  | resolveChannel kind => exact Option.some_ne_none kind
  | fetchPending kind limit => exact Option.some_ne_none kind
  | claim kind item target => exact h.elim
  | currentRights kind => exact h.elim
  | publish channel post => exact h.elim
  | member op => exact h.elim
  | decide call => exact h.elim

theorem Exchange.won?_of_failed {exchange : Exchange} (h : exchange.Failed) :
    exchange.won? = none := by
  rcases exchange.eq_claim_or_unclaimed with ⟨kind, item, target, reply, rfl⟩ | ⟨-, hwon, -⟩
  · exact h.elim
  · exact hwon

namespace Talk

def Resolved (talk : List Exchange) : Prop :=
  ∃ kind channel, ⟨.resolveChannel kind, .ok channel⟩ ∈ talk

def Fetched (talk : List Exchange) : Prop :=
  ∃ kind limit items, ⟨.fetchPending kind limit, .ok items⟩ ∈ talk

theorem Resolved.of_concat {talk : List Exchange} {last : Exchange} (h : Resolved (talk ++ [last]))
    (hne : ∀ kind channel, last ≠ ⟨.resolveChannel kind, .ok channel⟩) : Resolved talk := by
  obtain ⟨kind, channel, hmem⟩ := h
  refine ⟨kind, channel, (List.mem_append.mp hmem).resolve_right fun hlast ↦ ?_⟩
  exact hne kind channel (List.mem_singleton.mp hlast).symm

theorem Fetched.of_concat {talk : List Exchange} {last : Exchange} (h : Fetched (talk ++ [last]))
    (hne : ∀ kind limit items, last ≠ ⟨.fetchPending kind limit, .ok items⟩) : Fetched talk := by
  obtain ⟨kind, limit, items, hmem⟩ := h
  refine ⟨kind, limit, items, (List.mem_append.mp hmem).resolve_right fun hlast ↦ ?_⟩
  exact hne kind limit items (List.mem_singleton.mp hlast).symm

/-- Each of the two calls by which a kind is looked through has gone through once. -/
def Looked (talk : List Exchange) : Prop := Resolved talk ∧ Fetched talk

theorem Looked.of_subset {talk more : List Exchange} (h : Looked talk) (hsubset : talk ⊆ more) :
    Looked more := by
  obtain ⟨⟨kind, channel, hresolved⟩, other, limit, items, hfetched⟩ := h
  exact ⟨⟨kind, channel, hsubset hresolved⟩, other, limit, items, hsubset hfetched⟩

theorem won_sublist_claimed (talk : List Exchange) : (won talk).Sublist (claimed talk) := by
  induction talk with
  | nil => exact .slnil
  | cons exchange talk ih =>
    rcases exchange.eq_claim_or_unclaimed with
      ⟨kind, item, target, _ | _ | _, rfl⟩ | ⟨hclaimed, hwon, -⟩
    · exact ih.cons _
    · exact ih.cons _
    · exact ih.cons_cons _
    · rwa [won, claimed, List.filterMap_cons_none hclaimed, List.filterMap_cons_none hwon]

theorem won_concat_of_failed {exchange : Exchange} (h : exchange.Failed) (talk : List Exchange) :
    won (talk ++ [exchange]) = won talk := by
  rw [won_append]
  simp [won, Exchange.won?_of_failed h]

end Talk

/-! ### How a pass ends without a report -/

namespace Dispatch

/-- Some kinds have been gone through: something was claimed only after a kind was looked through,
and it is of these kinds. -/
structure Finished (kinds : List Kind) (talk : List Exchange) : Prop where
  looked : won talk ≠ [] → Looked talk
  kinds : (∀ exchange ∈ talk, exchange.Proper) → ∀ posting ∈ won talk, posting.kind ∈ kinds

theorem finished_of_won_eq_nil {talk : List Exchange} (h : won talk = []) (kinds : List Kind) :
    Finished kinds talk where
  looked hwon := absurd h hwon
  kinds _ posting hposting := by
    rw [h] at hposting
    cases hposting

theorem Finished.append {kind : Kind} {kinds : List Kind} {talk more : List Exchange}
    (h : Finished [kind] talk) (hmore : Finished kinds more) :
    Finished (kind :: kinds) (talk ++ more) where
  looked hwon := by
    by_cases hnone : won talk = []
    · rw [won_append, hnone, List.nil_append] at hwon
      exact (hmore.looked hwon).of_subset (List.subset_append_right talk more)
    · exact (h.looked hnone).of_subset (List.subset_append_left talk more)
  kinds hproper := by
    rw [List.forall_mem_append] at hproper
    rw [won_append, List.forall_mem_append]
    refine ⟨fun posting hposting ↦ ?_, fun posting hposting ↦ ?_⟩
    · rw [List.mem_singleton.mp (h.kinds hproper.1 posting hposting)]
      exact List.mem_cons_self
    · exact List.mem_cons_of_mem kind (hmore.kinds hproper.2 posting hposting)

/-- The kinds before one of them have been gone through, and a call by which that one is looked
through has failed. -/
inductive Halted (kinds : List Kind) : List Exchange → Prop where
  | intro {earlier : List Kind} {kind : Kind} (before : List Exchange) (last : Exchange)
      (order : earlier ++ [kind] <+: kinds) (finished : Finished earlier before)
      (failed : last.Failed) (scanned : last.call.scanned? = some kind) :
      Halted kinds (before ++ [last])

theorem Halted.append_kinds {kinds : List Kind} {talk : List Exchange} (h : Halted kinds talk)
    (more : List Kind) : Halted (kinds ++ more) talk := by
  obtain ⟨before, last, order, finished, failed, scanned⟩ := h
  exact .intro before last (order.trans (kinds.prefix_append more)) finished failed scanned

theorem Halted.cons {kind : Kind} {kinds : List Kind} {talk more : List Exchange}
    (hfirst : Finished [kind] talk) (h : Halted kinds more) :
    Halted (kind :: kinds) (talk ++ more) := by
  obtain ⟨before, last, order, finished, failed, scanned⟩ := h
  rw [← List.append_assoc]
  exact .intro (talk ++ before) last (List.cons_prefix_cons.mpr ⟨rfl, order⟩)
    (hfirst.append finished) failed scanned

/-- How the exchanges of a part of a pass come out. -/
def Comes (kinds : List Kind) (talk : List Exchange) : Except Failure Report → Prop
  | .ok _ => Finished kinds talk
  | .error _ => Halted kinds talk

theorem finished_of_offered {kind : Kind} {channel : Option ChannelId} {limit : Nat}
    {items : List Item} {talk : List Exchange} (settled : posted talk = claimed talk)
    (hposted : ((posted talk).map Posting.key).Sublist (items.map Item.key)) :
    Finished [kind] (⟨.resolveChannel kind, .ok channel⟩ ::
      ⟨.fetchPending kind limit, .ok items⟩ :: talk) where
  looked _ := by
    refine ⟨⟨kind, channel, List.mem_cons_self⟩, kind, limit, items, ?_⟩
    exact List.mem_cons_of_mem _ List.mem_cons_self
  kinds hproper posting hposting := by
    have hkind := (hproper _ (List.mem_cons_of_mem _ List.mem_cons_self)).1
    have hmem : posting ∈ posted talk := by
      rw [settled]
      exact (won_sublist_claimed talk).subset hposting
    obtain ⟨item, hitem, hkey⟩ := List.mem_map.mp (hposted.subset (List.mem_map_of_mem hmem))
    rw [List.mem_singleton, ← hkind item hitem]
    exact (congrArg Prod.fst hkey).symm

theorem ensures_comes_passKind (limit : Nat) (kind : Kind) (report : Report) :
    Ensures (passKind limit kind report) (fun _ ↦ True) (Comes [kind]) := by
  apply ensures_ask trivial
  intro reply
  rcases reply with error | channel
  · exact ensures_done trivial (.intro [] _ List.prefix_rfl (finished_of_won_eq_nil rfl []) trivial rfl)
  · cases channel with
    | none => exact ensures_done trivial (finished_of_won_eq_nil rfl [kind])
    | some channel =>
      apply ensures_ask trivial
      intro reply
      rcases reply with error | items
      · have hresolved : Finished [] [⟨.resolveChannel kind, .ok (some channel)⟩] :=
          finished_of_won_eq_nil rfl []
        exact ensures_done trivial (.intro _ _ List.prefix_rfl hresolved trivial rfl)
      · refine ensures_bind ((ensures_offerAll kind channel items report).mono
          (fun _ _ ↦ trivial) fun _ _ h ↦ h) ?_
        rintro talk report' ⟨hsettled, -, hposted⟩
        refine ensures_done trivial ?_
        rw [List.append_nil]
        exact finished_of_offered hsettled hposted

theorem ensures_comes_passKinds (limit : Nat) (kinds : List Kind) (report : Report) :
    Ensures (passKinds limit kinds report) (fun _ ↦ True) (Comes kinds) := by
  induction kinds generalizing report with
  | nil => exact ensures_done trivial (finished_of_won_eq_nil rfl [])
  | cons kind kinds ih =>
    refine ensures_bind (ensures_comes_passKind limit kind report) ?_
    rintro talk (failure | report') hfirst
    · refine ensures_done trivial ?_
      rw [List.append_nil]
      exact Halted.append_kinds hfirst kinds
    · refine (ih report').mono (fun _ _ ↦ trivial) ?_
      rintro more (failure | report'') hmore
      · exact Halted.cons hfirst hmore
      · exact Finished.append hfirst hmore

/-- A pass that has claimed something and ends without a report has claimed deposits, and a call by
which the identity checks are looked through has failed. -/
theorem Halted.last_of_won {talk : List Exchange} (h : Halted Kind.all talk)
    (proper : ∀ exchange ∈ talk, exchange.Proper) (hwon : won talk ≠ []) :
    (∀ posting ∈ won talk, posting.kind = .deposit) ∧
      ∃ before last, talk = before ++ [last] ∧ last.Failed ∧ last.call.scanned? = some .kyc ∧
        Looked before := by
  obtain ⟨before, last, order, finished, failed, scanned⟩ := h
  rename_i earlier kind
  rw [won_concat_of_failed failed] at hwon ⊢
  have hkinds := finished.kinds fun exchange hexchange ↦
    proper exchange (List.mem_append_left _ hexchange)
  -- Nothing can have been won before the first kind, and after the second there is no other.
  have hearlier : earlier = [.deposit] ∧ kind = .kyc := by
    rcases earlier with _ | ⟨first, _ | ⟨second, others⟩⟩
    · obtain ⟨posting, hposting⟩ := List.exists_mem_of_ne_nil _ hwon
      cases hkinds posting hposting
    · simpa [Kind.all] using order
    · have hlength := order.length_le
      simp [Kind.all] at hlength
  obtain ⟨rfl, rfl⟩ := hearlier
  refine ⟨fun posting hposting ↦ List.mem_singleton.mp (hkinds posting hposting), before, last, rfl,
    failed, scanned, finished.looked hwon⟩

end Dispatch

/-! ### Trouble that begins under way -/

theorem Store.fetchFaults_claim (store : Store) (kind : Kind) (id : ItemId) (target : MessageRef) :
    (store.claim kind id target).2.fetchFaults = store.fetchFaults := by
  by_cases hopen : store.IsOpen kind id
  · rw [claim_of_isOpen target hopen]
  · rw [claim_of_not_isOpen target hopen]

namespace Outside

/-- All that makes the calls fail by which a kind is looked through. -/
def bars (o : Outside) : Option Outage × Option Outage × Nat :=
  (o.outages.resolve, o.outages.fetch, o.store.fetchFaults)

theorem bars_answer (o : Outside) {call : Call} (h : call.scanned? = none) :
    (o.answer call).2.bars = o.bars := by
  cases call with
  | resolveChannel kind => cases h
  | fetchPending kind limit => cases h
  | claim kind item target =>
    rcases hnext : Outage.next o.outages.claim with ⟨_ | error, left⟩
    · simp only [answer, hnext, bars, Store.fetchFaults_claim]
    · simp only [answer, hnext, bars]
  | currentRights kind =>
    rcases hnext : Outage.next o.outages.rights with ⟨_ | error, left⟩ <;>
      simp only [answer, hnext, bars]
  | publish channel post =>
    by_cases hrival : post.item ∈ o.rivals
    · simp only [answer, precede, if_pos hrival, bars, Store.fetchFaults_claim]
    · simp only [answer, precede, if_neg hrival, bars]
  | member op => rfl
  | decide call => rfl

end Outside

/-- No trouble has begun in the course of some exchanges: a call that has gone through once will go
through again, and none by which a kind is looked through has failed after that. -/
structure Calm (talk : List Exchange) (o : Outside) : Prop where
  resolve : Resolved talk → (Outage.next o.outages.resolve).1 = none
  fetch : Fetched talk → (Outage.next o.outages.fetch).1 = none ∧ o.store.fetchFaults = 0
  unrefused : ∀ before last, talk = before ++ [last] → last.Failed → ¬Looked before

theorem calm_nil (o : Outside) : Calm [] o where
  resolve := by rintro ⟨kind, channel, hmem⟩; cases hmem
  fetch := by rintro ⟨kind, limit, items, hmem⟩; cases hmem
  unrefused before last heq := by cases before <;> cases heq

namespace Calm

variable {talk : List Exchange} {o : Outside}

theorem of_bars (h : Calm talk o) {o' : Outside} (hbars : o'.bars = o.bars) : Calm talk o' := by
  simp only [Outside.bars, Prod.mk.injEq] at hbars
  obtain ⟨hresolve, hfetch, hfaults⟩ := hbars
  refine ⟨?_, ?_, h.unrefused⟩
  · rw [hresolve]
    exact h.resolve
  · rw [hfetch, hfaults]
    exact h.fetch

theorem concat_unrefused {last : Exchange} (h : last.Failed → ¬Looked talk) :
    ∀ before other, talk ++ [last] = before ++ [other] → other.Failed → ¬Looked before := by
  intro before other heq hfailed
  obtain ⟨rfl, hlast⟩ := List.append_inj' heq rfl
  obtain rfl : last = other := List.singleton_inj.mp hlast
  exact h hfailed

theorem answer_resolveChannel (h : Calm talk o) (kind : Kind) :
    Calm (talk ++ [⟨.resolveChannel kind, (o.answer (.resolveChannel kind)).1⟩])
      (o.answer (.resolveChannel kind)).2 := by
  rcases hnext : Outage.next o.outages.resolve with ⟨_ | error, left⟩
  · simp only [Outside.answer, hnext]
    refine ⟨fun _ ↦ by rw [hnext], fun hfetched ↦ ?_, concat_unrefused False.elim⟩
    exact h.fetch (hfetched.of_concat fun _ _ _ heq ↦ by cases heq)
  · have hunresolved : ¬Resolved talk := by
      intro hresolved
      have hnone := h.resolve hresolved
      rw [hnext] at hnone
      cases hnone
    simp only [Outside.answer, hnext]
    refine ⟨fun hresolved ↦ ?_, fun hfetched ↦ ?_,
      concat_unrefused fun _ hlooked ↦ hunresolved hlooked.1⟩
    · exact absurd (hresolved.of_concat fun _ _ heq ↦ by cases heq) hunresolved
    · exact h.fetch (hfetched.of_concat fun _ _ _ heq ↦ by cases heq)

theorem concat_refused (h : Calm talk o) {kind : Kind} {limit : Nat} {error : StoreError}
    {o' : Outside} (unfetched : ¬Fetched talk) (hresolve : o'.outages.resolve = o.outages.resolve) :
    Calm (talk ++ [⟨.fetchPending kind limit, .error error⟩]) o' where
  resolve hresolved := by
    rw [hresolve]
    exact h.resolve (hresolved.of_concat fun _ _ heq ↦ by cases heq)
  fetch hfetched := absurd (hfetched.of_concat fun _ _ _ heq ↦ by cases heq) unfetched
  unrefused := concat_unrefused fun _ hlooked ↦ unfetched hlooked.2

theorem answer_fetchPending (h : Calm talk o) (kind : Kind) (limit : Nat) :
    Calm (talk ++ [⟨.fetchPending kind limit, (o.answer (.fetchPending kind limit)).1⟩])
      (o.answer (.fetchPending kind limit)).2 := by
  rcases hnext : Outage.next o.outages.fetch with ⟨_ | error, left⟩
  · simp only [Outside.answer, hnext]
    by_cases hfault : 0 < o.store.fetchFaults
    · rw [Store.fetch_of_fault kind limit hfault]
      exact h.concat_refused (fun hfetched ↦ Nat.ne_of_gt hfault (h.fetch hfetched).2) rfl
    · have hnofault := Nat.eq_zero_of_not_pos hfault
      rw [Store.fetch_of_no_fault kind limit hnofault]
      refine ⟨fun hresolved ↦ ?_, fun _ ↦ ⟨by rw [hnext], hnofault⟩, concat_unrefused False.elim⟩
      exact h.resolve (hresolved.of_concat fun _ _ heq ↦ by cases heq)
  · simp only [Outside.answer, hnext]
    refine h.concat_refused (fun hfetched ↦ ?_) rfl
    have hnone := (h.fetch hfetched).1
    rw [hnext] at hnone
    cases hnone

theorem answer (h : Calm talk o) (call : Call) :
    Calm (talk ++ [⟨call, (o.answer call).1⟩]) (o.answer call).2 := by
  cases hscanned : call.scanned? with
  | some kind =>
    cases call with
    | resolveChannel kind => exact h.answer_resolveChannel kind
    | fetchPending kind limit => exact h.answer_fetchPending kind limit
    | claim kind item target => cases hscanned
    | currentRights kind => cases hscanned
    | publish channel post => cases hscanned
    | member op => cases hscanned
    | decide call => cases hscanned
  | none =>
    have hkept := h.of_bars (o.bars_answer hscanned)
    refine ⟨fun hresolved ↦ hkept.resolve (hresolved.of_concat fun kind channel heq ↦ ?_),
      fun hfetched ↦ hkept.fetch (hfetched.of_concat fun kind limit items heq ↦ ?_),
      concat_unrefused fun hfailed ↦ ?_⟩
    · have hcall : call = .resolveChannel kind := congrArg Exchange.call heq
      rw [hcall] at hscanned
      cases hscanned
    · have hcall : call = .fetchPending kind limit := congrArg Exchange.call heq
      rw [hcall] at hscanned
      cases hscanned
    · exact absurd hscanned hfailed.scanned_ne_none

end Calm

end ReviewDesk
