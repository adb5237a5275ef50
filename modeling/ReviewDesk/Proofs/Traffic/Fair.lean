import Mathlib.Algebra.BigOperators.Group.Finset.Piecewise
import ReviewDesk.Proofs.Traffic.Race

/-!
Every race is fair (`fair_of_raced`): nothing is won twice, what was won stays won, a pass wins with
the message that it posted, and all that was won is accounted for by somebody. The reports are right
because each pass talks as `Dispatch.ensures_pass` says, and the total because the books of the
store are right.
-/

set_option autoImplicit false
set_option relaxedAutoImplicit false

namespace ReviewDesk

open Dispatch Procedure Talk

namespace Traffic

/-- A claim that is answered is won or lost, and not both. -/
theorem claimed_cases {exchange : Exchange}
    (h : ∀ posting, exchange.claimed? = some posting →
      exchange.won? = some posting ∨ exchange.lost? = some posting) :
    (exchange.claimed? = none ∧ exchange.won? = none ∧ exchange.lost? = none) ∨
      ∃ posting, exchange.claimed? = some posting ∧
        (exchange.won? = some posting ∧ exchange.lost? = none ∨
          exchange.won? = none ∧ exchange.lost? = some posting) := by
  rcases exchange.eq_claim_or_unclaimed with ⟨kind, item, target, reply, rfl⟩ | hnone
  · refine Or.inr ⟨⟨kind, item, target⟩, rfl, ?_⟩
    rcases reply with error | won
    · rcases h _ rfl with hwon | hlost
      · cases hwon
      · cases hlost
    · cases won with
      | true => exact Or.inl ⟨rfl, rfl⟩
      | false => exact Or.inr ⟨rfl, rfl⟩
  · exact Or.inl hnone

theorem claimed_perm {talk : List Exchange}
    (h : ∀ exchange ∈ talk, ∀ posting, exchange.claimed? = some posting →
      exchange.won? = some posting ∨ exchange.lost? = some posting) :
    (claimed talk).Perm (won talk ++ lost talk) := by
  induction talk with
  | nil => exact .refl _
  | cons exchange talk ih =>
    have hrest := ih fun other hother ↦ h other (List.mem_cons_of_mem exchange hother)
    rcases claimed_cases (h exchange List.mem_cons_self) with
      ⟨hclaimed, hwon, hlost⟩ | ⟨posting, hclaimed, ⟨hwon, hlost⟩ | ⟨hwon, hlost⟩⟩
    · rw [claimed, won, lost, List.filterMap_cons_none hclaimed, List.filterMap_cons_none hwon,
        List.filterMap_cons_none hlost]
      exact hrest
    · rw [claimed, won, lost, List.filterMap_cons_some hclaimed, List.filterMap_cons_some hwon,
        List.filterMap_cons_none hlost]
      exact hrest.cons posting
    · rw [claimed, won, lost, List.filterMap_cons_some hclaimed, List.filterMap_cons_none hwon,
        List.filterMap_cons_some hlost]
      exact (hrest.cons posting).trans List.perm_middle.symm

/-- What a report says of the items that were posted: each counts once, as sent if its claim was won
and as a duplicate otherwise. -/
structure Counted (talk : List Exchange) (report : Report) : Prop where
  claimed : posted talk = claimed talk
  nodup : ((posted talk).map Posting.item).Nodup
  sent : ∀ kind, report.sent.get kind =
    (posted talk).countP fun posting ↦ posting.kind = kind ∧ posting ∈ won talk
  duplicates : report.duplicates = (posted talk).countP fun posting ↦ posting ∉ won talk

theorem counted_of_accounts {talk : List Exchange} {report : Report}
    (accounts : Accounts talk {} report) (nodup : ((posted talk).map Posting.item).Nodup)
    (answered : ∀ exchange ∈ talk, ∀ posting, exchange.claimed? = some posting →
      exchange.won? = some posting ∨ exchange.lost? = some posting) :
    Counted talk report := by
  have hperm : (posted talk).Perm (won talk ++ lost talk) :=
    accounts.settled ▸ claimed_perm answered
  have hdisjoint : ∀ posting ∈ lost talk, posting ∉ won talk := by
    intro posting hlost hwon
    have hboth := (hperm.map Posting.item).nodup_iff.mp nodup
    rw [List.map_append, List.nodup_append] at hboth
    exact hboth.2.2 _ (List.mem_map_of_mem hwon) _ (List.mem_map_of_mem hlost) rfl
  refine ⟨accounts.settled, nodup, fun kind ↦ ?_, ?_⟩
  · have hwon : (won talk).countP (fun posting ↦ posting.kind = kind ∧ posting ∈ won talk) =
        (won talk).countP (·.kind = kind) := by
      apply List.countP_congr
      intro posting hposting
      simp [hposting]
    have hlost :
        (lost talk).countP (fun posting ↦ posting.kind = kind ∧ posting ∈ won talk) = 0 := by
      apply List.countP_eq_zero.mpr
      intro posting hposting
      simp [hdisjoint posting hposting]
    have hsent := accounts.sent kind
    rw [hperm.countP_eq, List.countP_append, hwon, hlost, hsent]
    cases kind <;> exact Nat.zero_add _
  · have hwon : (won talk).countP (fun posting ↦ posting ∉ won talk) = 0 := by
      apply List.countP_eq_zero.mpr
      intro posting hposting
      simp [hposting]
    have hlost : (lost talk).countP (fun posting ↦ posting ∉ won talk) = (lost talk).length := by
      apply List.countP_eq_length.mpr
      intro posting hposting
      simp [hdisjoint posting hposting]
    rw [hperm.countP_eq, List.countP_append, hwon, hlost, accounts.duplicates]

/-- The items posted in a race are distinct where the items with their kinds are, since an item
keeps its kind. -/
theorem Sound.nodup_posted {t : Traffic} (h : Sound t) {kinds : List Kind} {caller : Caller}
    {report report' : Report} (covers : Covers kinds (t.talk caller) report report') :
    ((posted (t.talk caller)).map Posting.item).Nodup := by
  have hkinds : ∀ key ∈ (posted (t.talk caller)).map Posting.key,
      ∃ stored, t.shelf.get? key.2 = some stored ∧ stored.kind = key.1 := by
    intro key hkey
    obtain ⟨-, exchange, hexchange, hfetched⟩ := covers.fetched key hkey
    obtain ⟨item, hitem, rfl⟩ := List.mem_map.mp hfetched
    exact h.booked.kinds exchange (mem_exchanges_of_mem_talk hexchange) item hitem
  have hinj : ∀ key ∈ (posted (t.talk caller)).map Posting.key,
      ∀ other ∈ (posted (t.talk caller)).map Posting.key, key.2 = other.2 → key = other := by
    intro key hkey other hother hid
    obtain ⟨stored, hstored, hkind⟩ := hkinds key hkey
    obtain ⟨stored', hstored', hkind'⟩ := hkinds other hother
    rw [hid, hstored', Option.some.injEq] at hstored
    exact Prod.ext (by rw [← hkind, ← hkind', hstored]) hid
  have hnodup := List.Nodup.map_on hinj covers.nodup
  rwa [List.map_map] at hnodup

/-- What somebody has won. -/
def winsOf (log : List Entry) (caller : Caller) : Nat :=
  (won ((log.filter fun entry ↦ entry.caller = caller).map Entry.exchange)).length

theorem winsOf_cons (entry : Entry) (log : List Entry) (caller : Caller) :
    winsOf (entry :: log) caller =
      (if entry.caller = caller then (won [entry.exchange]).length else 0) + winsOf log caller := by
  unfold winsOf
  rw [List.filter_cons]
  by_cases hcaller : entry.caller = caller
  · rw [if_pos hcaller, if_pos (decide_eq_true hcaller), List.map_cons, ← List.singleton_append,
      won_append, List.length_append]
  · rw [if_neg hcaller, if_neg (by simpa using hcaller), Nat.zero_add]

/-- What all passes and the rivals have won is all that was won. -/
theorem sum_winsOf {log : List Entry} {count : Nat}
    (bounded : ∀ entry ∈ log, ∀ number, entry.caller = .pass number → number < count) :
    ∑ number ∈ Finset.range count, winsOf log (.pass number) + winsOf log .rival =
      (won (log.map Entry.exchange)).length := by
  induction log with
  | nil => simp [winsOf, won]
  | cons entry log ih =>
    have hrest := ih fun other hother ↦ bounded other (List.mem_cons_of_mem entry hother)
    have hone :
        ∑ number ∈ Finset.range count,
          (if entry.caller = .pass number then (won [entry.exchange]).length else 0) +
        (if entry.caller = .rival then (won [entry.exchange]).length else 0) =
          (won [entry.exchange]).length := by
      cases hcaller : entry.caller with
      | pass number =>
        have hlt := bounded entry List.mem_cons_self number hcaller
        simp [Finset.sum_ite_eq, hlt]
      | rival => simp
    have hwon : won (entry.exchange :: log.map Entry.exchange) =
        won [entry.exchange] ++ won (log.map Entry.exchange) := won_append [entry.exchange] _
    rw [List.map_cons, hwon, List.length_append, ← hrest]
    simp only [winsOf_cons, Finset.sum_add_distrib]
    omega

/-- What a pass has reported as sent, if it has reported. -/
def reported (t : Traffic) (number : Nat) : Nat :=
  match t.passes[number]? with
  | some (.done (.ok report)) => report.sent.deposit + report.sent.kyc
  | _ => 0

/-- What a pass that has not reported has won. -/
def unreported (t : Traffic) (number : Nat) : Nat :=
  match t.passes[number]? with
  | some (.done (.ok _)) => 0
  | _ => (won (t.talk (.pass number))).length

theorem sum_sent_eq_length (wins : List Posting) (sent : PerKind Nat)
    (h : ∀ kind, sent.get kind = wins.countP (·.kind = kind)) :
    sent.deposit + sent.kyc = wins.length := by
  have hdeposit := h .deposit
  have hkyc := h .kyc
  have hsplit : wins.countP (fun posting ↦ ¬posting.kind = .deposit) =
      wins.countP (·.kind = .kyc) := by
    apply List.countP_congr
    intro posting _
    cases posting.kind <;> simp
  have hlength := List.length_eq_countP_add_countP (fun posting : Posting ↦ posting.kind = .deposit)
    (l := wins)
  simp only [PerKind.get] at hdeposit hkyc
  simp only [decide_eq_true_eq] at hlength
  omega

/-- What passes and rivals can rely on, whatever the order of their calls. -/
structure Fair (t : Traffic) : Prop where
  /-- No item is won twice. -/
  once : ((won t.exchanges).map Posting.item).Nodup
  /-- What is won is claimed with the message of the claim that won it. -/
  held : ∀ posting ∈ won t.exchanges, t.shelf.target? posting.item = some posting.target
  /-- What is claimed stays so. -/
  kept : ∀ id target, t.shelf.target? id = some target →
    ∀ events, t.AdmitsAll events → (t.run events).shelf.target? id = some target
  /-- A pass wins with the message that its own post of the item became. -/
  own : ∀ number, ∀ posting ∈ won (t.talk (.pass number)),
    posting ∈ posted (t.talk (.pass number))
  /-- A claim is won or it is lost. -/
  answered : ∀ exchange ∈ t.exchanges, ∀ posting, exchange.claimed? = some posting →
    exchange.won? = some posting ∨ exchange.lost? = some posting
  /-- A call that wins nothing leaves the items as they are. -/
  unchanged : ∀ event entry, (t.step event).log = t.log ++ [entry] →
    entry.exchange.won? = none → (t.step event).shelf = t.shelf
  counted : ∀ (number : Nat) (report : Report), t.passes[number]? = some (.done (.ok report)) →
    Counted (t.talk (.pass number)) report
  /-- A pass reports unless a kind could not be looked through. -/
  unreported : ∀ (number : Nat) (failure : Failure),
    t.passes[number]? = some (.done (.error failure)) →
      ∃ exchange ∈ t.talk (.pass number), exchange.Failed
  /-- What the passes report, what the rivals won and what the other passes won is what is
  claimed. -/
  total : ∑ number ∈ Finset.range t.passes.length, t.reported number +
      (won (t.talk .rival)).length +
      ∑ number ∈ Finset.range t.passes.length, t.unreported number =
    t.shelf.claimedCount

namespace Sound

variable {t : Traffic}

theorem ends (h : Sound t) {number : Nat} {result : Except Failure Report}
    (hdone : t.passes[number]? = some (.done result)) :
    Ends Kind.all {} (t.talk (.pass number)) result := by
  obtain ⟨limit, hfollows⟩ := h.follows number _ hdone
  exact (ensures_pass limit _ _ hfollows).2 result rfl

theorem covers (h : Sound t) {number : Nat} {report : Report}
    (hdone : t.passes[number]? = some (.done (.ok report))) :
    Covers Kind.all (t.talk (.pass number)) {} report :=
  (h.ends hdone).2 fun exchange hexchange ↦
    h.booked.proper exchange (mem_exchanges_of_mem_talk hexchange)

theorem counted (h : Sound t) {number : Nat} {report : Report}
    (hdone : t.passes[number]? = some (.done (.ok report))) :
    Counted (t.talk (.pass number)) report := by
  have hcovers := h.covers hdone
  refine counted_of_accounts hcovers.accounts (h.nodup_posted hcovers) ?_
  intro exchange hexchange
  exact h.booked.answered exchange (mem_exchanges_of_mem_talk hexchange)

theorem talk_eq_nil (h : Sound t) {number : Nat} (hlt : t.passes.length ≤ number) :
    t.talk (.pass number) = [] := by
  rw [talk, List.map_eq_nil_iff, List.filter_eq_nil_iff]
  intro entry hentry hcaller
  have hbound := h.bounded entry hentry number (of_decide_eq_true hcaller)
  omega

theorem own (h : Sound t) (number : Nat) :
    ∀ posting ∈ won (t.talk (.pass number)), posting ∈ posted (t.talk (.pass number)) := by
  intro posting hwon
  cases hpass : t.passes[number]? with
  | none =>
    rw [h.talk_eq_nil (List.getElem?_eq_none_iff.mp hpass)] at hwon
    cases hwon
  | some p =>
    obtain ⟨limit, hfollows⟩ := h.follows number p hpass
    have hclaimed : posting ∈ claimed (t.talk (.pass number)) := by
      obtain ⟨exchange, hexchange, hposting⟩ := List.mem_filterMap.mp hwon
      rw [Exchange.eq_of_won? hposting] at hexchange
      exact List.mem_filterMap.mpr ⟨_, hexchange, rfl⟩
    rcases (ensures_pass limit _ _ hfollows).1 with heq | ⟨latest, heq⟩
    · rwa [heq]
    · rw [heq]
      exact List.mem_append_left _ hclaimed

theorem unchanged (h : Sound t) {event : Event} {entry : Entry}
    (hlog : (t.step event).log = t.log ++ [entry]) (hwon : entry.exchange.won? = none) :
    (t.step event).shelf = t.shelf := by
  have hdeed : ∀ {exchange shelf}, Deed t.shelf exchange shelf → exchange.won? = none →
      shelf = t.shelf := by
    intro exchange shelf hdeed hnone
    cases hdeed with
    | win target hget unclaimed => cases hnone
    | lose kind id target => rfl
    | fetch kind limit held nodup => rfl
    | other unclaimed unfetched => rfl
  rcases change_step h.plain event with
    ⟨hshelf, -, hlog'⟩ | ⟨-, -, -, hlog'⟩ | ⟨-, hshelf, -, hlog'⟩ | ⟨hmade, -, hlog'⟩ |
      ⟨-, hmade, -, hlog'⟩
  · exact hshelf
  · rw [hlog'] at hlog
    exact absurd hlog (by simp)
  · exact hshelf
  · rw [hlog', List.append_cancel_left_eq, List.singleton_inj] at hlog
    rw [← hlog] at hwon
    exact hdeed hmade hwon
  · rw [hlog', List.append_cancel_left_eq, List.singleton_inj] at hlog
    rw [← hlog] at hwon
    exact hdeed hmade hwon

theorem reported_add_unreported (h : Sound t) (number : Nat) :
    t.reported number + t.unreported number = winsOf t.log (.pass number) := by
  unfold reported Traffic.unreported
  split
  · rename_i report hdone
    have hsent : ∀ kind, report.sent.get kind =
        (won (t.talk (.pass number))).countP (·.kind = kind) := by
      intro kind
      have hsent := (h.covers hdone).accounts.sent kind
      rw [hsent]
      cases kind <;> exact Nat.zero_add _
    rw [sum_sent_eq_length _ _ hsent]
    rfl
  · exact Nat.zero_add _

theorem total (h : Sound t) :
    ∑ number ∈ Finset.range t.passes.length, t.reported number +
        (won (t.talk .rival)).length +
        ∑ number ∈ Finset.range t.passes.length, t.unreported number =
      t.shelf.claimedCount := by
  have hrival : (won (t.talk .rival)).length = winsOf t.log .rival := rfl
  calc _ = ∑ number ∈ Finset.range t.passes.length, (t.reported number + t.unreported number) +
        winsOf t.log .rival := by
        rw [Finset.sum_add_distrib, hrival]
        omega
    _ = ∑ number ∈ Finset.range t.passes.length, winsOf t.log (.pass number) +
        winsOf t.log .rival := by simp only [h.reported_add_unreported]
    _ = (won t.exchanges).length := sum_winsOf h.bounded
    _ = t.shelf.claimedCount := h.booked.count.symm

end Sound

theorem fair_of_raced {t : Traffic} (h : Raced t) : Fair t := by
  have hsound := sound_of_raced h
  refine ⟨hsound.booked.nodup, hsound.booked.held, fun id target htarget events ↦ ?_, hsound.own,
    hsound.booked.answered, fun event entry ↦ hsound.unchanged, fun number report ↦ hsound.counted,
    fun number failure hdone ↦ (hsound.ends hdone).2, hsound.total⟩
  exact target?_of_admitsAll htarget

/-- Two passes post the one item there is. The second claims it first, and both the first and a
rival come too late. -/
def contest : List Event :=
  [.start 1, .start 1, .proceed 0, .proceed 1, .proceed 0, .proceed 1, .proceed 0, .proceed 1,
    .proceed 1, .claim .deposit lone.id ⟨⟨-1⟩, 7⟩, .proceed 0, .proceed 0, .proceed 1]

theorem fair_contest : Raced (overLone.run contest) ∧ Fair (overLone.run contest) := by
  have hraced : Raced (overLone.run contest) := by
    refine raced_run (.opening ⟨rfl, rfl⟩ (by simp [Shelf.put, Shelf.empty, lone])) ?_
    simp [contest, AdmitsAll, Admits, Event.put?]
  exact ⟨hraced, fair_of_raced hraced⟩

end Traffic

end ReviewDesk
